import SerialNovel.Tool.Linter
import SerialNovel.Tool.Preview

namespace SerialNovel.Main

def faultOf : IO.Error → DiskFault
  | .noFileOrDirectory .. => .notFound
  | .inappropriateType _ code words | .permissionDenied _ code words =>
    if code = 20 then .notDirectory
    else if code = 21 then .isDirectory
    else .other (words ++ " (os error " ++ toString code ++ ")").toList
  | e => .other e.toString.toList

/-- What is at a place, as far as it can be listed and read. -/
partial def treeAt (entry : IO.FS.DirEntry) : IO Tree := do
  if ← entry.path.isDir then
    match ← entry.path.readDir.toBaseIO with
    | .error _ => return .dir [] []
    | .ok entries =>
      return .dir (← entries.toList.mapM fun e => do return (e.fileName.toList, ← treeAt e)) []
  else
    match ← (IO.FS.readBinFile entry.path).toBaseIO with
    | .error e => return .file (.error (faultOf e))
    | .ok bytes =>
      match String.fromUTF8? bytes with
      | some words => return .file (.ok words.toList)
      | none => return .file (.error .notUtf8)

/-- What an argument leads to from the current directory, if it is taken for a path. -/
def lookAt (argument : Text) : IO (Text × Except DiskFault Tree) := do
  if argument.isEmpty then return (argument, .error .notFound)
  let entry : IO.FS.DirEntry := ⟨".", String.ofList argument⟩
  match ← entry.path.metadata.toBaseIO with
  | .error e => return (argument, .error (faultOf e))
  | .ok _ => return (argument, .ok (← treeAt entry))

def placesOf (arguments : List Text) : IO Places := do
  let found ← arguments.mapM lookAt
  return fun path => (found.lookup path).getD (.error .notFound)

def report (o : Outcome) : IO UInt32 := do
  (← IO.getStdout).putStr (String.ofList o.out)
  (← IO.getStderr).putStr (String.ofList o.err)
  return o.status.toUInt32

partial def converse (s : Playback) : IO Unit := do
  let out ← IO.getStdout
  out.putStr (String.ofList Preview.prompt)
  out.flush
  let line ← (← IO.getStdin).getLine
  if line.isEmpty then return
  let (shown, next) := Preview.respond s (Preview.Command.ofLine line.toList)
  out.putStr (String.ofList shown)
  match next with
  | some s => converse s
  | none => return

def lintFiles (arguments : List Text) : IO UInt32 := do
  report (Linter.run (← placesOf arguments) arguments)

def previewChapter (arguments : List Text) : IO UInt32 := do
  match Preview.start (← placesOf arguments) arguments with
  | .over outcome => report outcome
  | .staged out s =>
    (← IO.getStdout).putStr (String.ofList out)
    converse s
    return 0

end SerialNovel.Main

open SerialNovel.Main in
def main (arguments : List String) : IO UInt32 := do
  match arguments with
  | "script_linter" :: rest => lintFiles (rest.map String.toList)
  | "script_preview" :: rest => previewChapter (rest.map String.toList)
  | _ =>
    (← IO.getStderr).putStrLn "Usage: script_linter | script_preview"
    return 1
