import SerialNovel.Text.Basic

namespace SerialNovel

inductive DiskFault
  | notFound
  | notDirectory
  | isDirectory
  | notUtf8
  /-- Any other reason, in the words of the system. -/
  | other (words : Text)
  deriving DecidableEq, Repr

def DiskFault.message : DiskFault → Text
  | notFound => "No such file or directory (os error 2)".toList
  | notDirectory => "Not a directory (os error 20)".toList
  | isDirectory => "Is a directory (os error 21)".toList
  | notUtf8 => "stream did not contain valid UTF-8".toList
  | other words => words

inductive Fault
  | disk (cause : DiskFault)
  /-- A text that does not have the form or the type that is read. -/
  | malformed
  /-- The first speaker, in table order, whose pattern cannot be read. -/
  | badPattern (key : Text)
  /-- The first volume, in order, whose id an earlier volume has. -/
  | duplicateVolume (id : Text)
  deriving DecidableEq, Repr

def Fault.message : Fault → Text
  | disk cause => "IO error: ".toList ++ cause.message
  | malformed => "RON deserialization error".toList
  | badPattern key => "invalid pattern for speaker '".toList ++ key ++ "'".toList
  | duplicateVolume id => "duplicate volume id: ".toList ++ id

end SerialNovel
