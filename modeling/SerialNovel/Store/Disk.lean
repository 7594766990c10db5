import SerialNovel.Fault

namespace SerialNovel

inductive Entry
  | absent
  | directory
  /-- A file with its text, or without one if its bytes are no UTF-8. -/
  | file (contents : Option Text)
  deriving DecidableEq, Repr

structure Disk where
  entry : Entry
  /-- Why writes are refused at the moment. -/
  blocked : Option DiskFault := none
  deriving DecidableEq, Repr

namespace Disk

def read (d : Disk) : Except DiskFault Text :=
  match d.entry with
  | .absent => .error .notFound
  | .directory => .error .isDirectory
  | .file none => .error .notUtf8
  | .file (some t) => .ok t

def writeFault? (d : Disk) : Option DiskFault :=
  if d.entry = .directory then some .isDirectory else d.blocked

/-- Replaces the contents, which need not be text. -/
def replace (d : Disk) (contents : Option Text) : Except DiskFault Disk :=
  match d.writeFault? with
  | some fault => .error fault
  | none => .ok { d with entry := .file contents }

def write (d : Disk) (t : Text) : Except DiskFault Disk := d.replace (some t)

def remove (d : Disk) : Disk :=
  match d.entry with
  | .file _ => { d with entry := .absent }
  | _ => d

/-- A place in a directory that does not exist. -/
def withoutParent : Disk := ⟨.absent, some .notFound⟩

def makeParent (d : Disk) : Disk := { d with blocked := none }

end Disk

end SerialNovel
