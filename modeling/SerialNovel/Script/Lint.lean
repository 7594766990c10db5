import SerialNovel.Markup.Line
import SerialNovel.Markup.Style
import SerialNovel.Text.Words

namespace SerialNovel

inductive IssueKind
  /-- A block that never closes, or that another opener interrupts. -/
  | unterminatedIntercept
  | strayCloseMarker
  | unknownTag (name : Text)
  /-- A directive that is not alone on its line. -/
  | inlineDirective (name : Text)
  | unclosedTag
  | jumpWithoutLabel
  | imageWithoutSource
  deriving DecidableEq, Repr

structure Issue where
  line : Nat
  kind : IssueKind
  deriving DecidableEq, Repr

namespace IssueKind

def message : IssueKind → Text
  | unterminatedIntercept => "intercept block is never closed".toList
  | strayCloseMarker => "close marker outside an intercept block".toList
  | unknownTag name => "unknown inline tag '".toList ++ name ++ "'".toList
  | inlineDirective name => "'".toList ++ name ++ "' directive must be alone on its line".toList
  | unclosedTag => "'[[' without a closing ']]'".toList
  | jumpWithoutLabel => "jump link has no label".toList
  | imageWithoutSource => "image has no source".toList

end IssueKind

def Issue.message (i : Issue) : Text :=
  "line ".toList ++ Text.ofNat i.line ++ ": ".toList ++ i.kind.message

namespace Lint

def isTagChar (c : Char) : Bool := ('A' ≤ c && c ≤ 'Z') || c = '_'

/-- The name in `[[NAME::` at the start of a text, with the width of that. -/
def tagNameAt? (t : Text) : Option (Text × Nat) := do
  let rest ← Text.after? "[[".toList t
  let name := rest.takeWhile isTagChar
  if !name.isEmpty && Text.startsWith "::".toList (rest.dropWhile isTagChar) then
    some (name, name.length + 4)
  else none

/-- What is wrong with a tag of this name inside a line. -/
def tagIssue? (name : Text) : Option IssueKind :=
  if name = "JUMP".toList || name = "IMAGE".toList then some (.inlineDirective name)
  else if (Style.ofTag? name).isSome then none
  else some (.unknownTag name)

/-- Whether `[[` stands somewhere without `]]` after it. -/
def hasUnclosedTag : Text → Bool
  | [] => false
  | c :: t =>
    (Text.startsWith "[[".toList (c :: t) && !Text.contains "]]".toList (c :: t)) ||
      hasUnclosedTag t

def tagIssues (line : Text) : List IssueKind :=
  (Text.tokens tagNameAt? line).filterMap tagIssue? ++
    if hasUnclosedTag line then [.unclosedTag] else []

def dropCopies (lead : Text) : Nat → Text → Text
  | 0, t => t
  | n + 1, t =>
    match Text.after? lead t with
    | some rest => dropCopies lead n rest
    | none => t

def dropEndCopies (ending : Text) (t : Text) : Text :=
  (dropCopies ending.reverse t.length t.reverse).reverse

/-- Whether a jump's second segment is more than white space. -/
def hasJumpLabel (line : Text) : Bool :=
  let body := dropEndCopies Directive.closing (dropCopies Directive.jumpOpening line.length line)
  match Text.cut? Directive.separator body with
  | none => false
  | some (_, rest) =>
    let label := match Text.cut? Directive.separator rest with
      | some (label, _) => label
      | none => rest
    !(Text.trim label).isEmpty

/-- What is wrong with a line of a class itself, apart from the block it may belong to. -/
def lineIssues (cls : LineClass) (line : Text) : List IssueKind :=
  match cls with
  | .opening _ => tagIssues line
  | .closing => tagIssues line
  | .continuing => tagIssues line
  | .directive (.jump _ _) =>
    if hasJumpLabel (Text.trim line) then [] else [.jumpWithoutLabel]
  | .directive (.image source _) =>
    if (Text.trim source).isEmpty then [.imageWithoutSource] else []
  | .directive .divider => []
  | .blank => []
  | .prose => (if Intercept.closes line then [.strayCloseMarker] else []) ++ tagIssues line

/-- The line where the open block started, after a line with this number. -/
def openAfter (number : Nat) (opened : Option Nat) : LineClass → Option Nat
  | .opening closed => if closed then none else some number
  | .closing => none
  | _ => opened

def unterminated (opened : Option Nat) : List Issue :=
  match opened with
  | some line => [⟨line, .unterminatedIntercept⟩]
  | none => []

/-- The block that an opener interrupts. -/
def interrupted (opened : Option Nat) : LineClass → List Issue
  | .opening _ => unterminated opened
  | _ => []

/-- The issues in the order in which they are found, from line `number` on, where a block is open
since line `opened`. -/
def issuesFrom (number : Nat) (opened : Option Nat) : List Text → List Issue
  | [] => unterminated opened
  | l :: ls =>
    let cls := LineClass.of opened.isSome l
    interrupted opened cls ++ (lineIssues cls l).map (.mk number) ++
      issuesFrom (number + 1) (openAfter number opened cls) ls

end Lint

/-- The warnings of a chapter in line order; those of one line in the order found. -/
def lint (chapter : Text) : List Issue :=
  (Lint.issuesFrom 1 none ((Text.lines chapter).map Text.trimEnd)).mergeSort fun a b => a.line ≤ b.line

end SerialNovel
