import SerialNovel.Script.Lint
import SerialNovel.Tool.Outcome
import SerialNovel.Tool.Tree

namespace SerialNovel.Linter

def usage : Text :=
  Text.line "Usage: script_linter <chapter.txt | chapter_dir> [--deny-warnings]".toList

/-- Whether the part of a name after its last dot is `txt`, and something comes before the dot. -/
def isChapterName (name : Text) : Bool :=
  match Text.before? ".txt".toList name with
  | some stem => !stem.isEmpty
  | none => false

def chapters (path : Text) (t : Tree) : List Tree.Found :=
  ((Tree.filesBelow [] path t).filter fun f => f.names.getLast?.any isChapterName).mergeSort
    fun a b => decide (¬ b.names < a.names)

structure Report where
  out : Text := []
  err : Text := []
  warnings : Nat := 0
  unreadable : Nat := 0
  deriving DecidableEq, Repr

def issueLines (path : Text) : List Issue → Text
  | [] => Text.line ("  OK: ".toList ++ path)
  | issues =>
    Text.line ("  ".toList ++ path ++ ":".toList) ++
      issues.flatMap fun i => Text.line ("    WARNING: ".toList ++ i.message)

def Report.add (r : Report) (f : Tree.Found) : Report :=
  match f.contents with
  | .error fault =>
    { r with
      err := r.err ++
        Text.line ("ERROR reading ".toList ++ f.path ++ ": ".toList ++ fault.message)
      unreadable := r.unreadable + 1 }
  | .ok text =>
    let issues := lint text
    { r with out := r.out ++ issueLines f.path issues, warnings := r.warnings + issues.length }

def summary (files warnings unreadable : Nat) : Text :=
  Text.line ("\nSummary: ".toList ++ Text.ofNat files ++ " files, ".toList ++
    Text.ofNat warnings ++ " warnings, ".toList ++ Text.ofNat unreadable ++
    " unreadable".toList)

/-- Reports on files. An unreadable file makes the run fail, and so does a warning if warnings are
denied. -/
def reportOn (files : List Tree.Found) (deny : Bool) : Outcome :=
  let r := files.foldl Report.add {}
  { status := if 0 < r.unreadable || (deny && 0 < r.warnings) then 1 else 0
    out := r.out ++ summary files.length r.warnings r.unreadable
    err := r.err }

def run (places : Places) : List Text → Outcome
  | [] => { out := usage }
  | path :: options =>
    if path = "--help".toList || path = "-h".toList then { out := usage }
    else
      let deny := options.contains "--deny-warnings".toList
      match places path with
      | .error _ =>
        { status := 1
          err := Text.line ("ERROR: Path '".toList ++ path ++ "' does not exist".toList) }
      | .ok (.file contents) => reportOn [⟨[], path, contents⟩] deny
      | .ok (.dir entries hidden) => reportOn (chapters path (.dir entries hidden)) deny

end SerialNovel.Linter
