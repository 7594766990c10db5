import SerialNovel.Notation.Schema
import SerialNovel.Store.Disk
import SerialNovel.Store.Flags

namespace SerialNovel

/-- What a reading session needs of a store. -/
class FlagStore (σ : Type) where
  has : σ → Text → Bool
  /-- Records an id, or says why that fails. -/
  set : σ → Text → σ × Except Fault Unit

instance : FlagStore FlagSet where
  has := FlagSet.has
  set s id := (s.insert id, .ok ())

/-- A file of ids and what is known of it since it was opened. -/
structure FlagFile where
  disk : Disk
  ids : FlagSet

namespace FlagFile

/-- The ids in a file. A missing or blank file has none. -/
def load (d : Disk) : Except Fault FlagSet :=
  match d.read with
  | .error .notFound => .ok .empty
  | .error fault => .error (.disk fault)
  | .ok t => if (Text.trim t).isEmpty then .ok .empty else (Notation.idsOfText t).map FlagSet.ofList

def openAt (d : Disk) : Except Fault FlagFile := (load d).map fun ids => ⟨d, ids⟩

def reopen (f : FlagFile) : Except Fault FlagFile := openAt f.disk

def has (f : FlagFile) (id : Text) : Bool := f.ids.has id

/-- Records an id once it is on the disk. An id that is known is not written again. -/
def set (f : FlagFile) (id : Text) : FlagFile × Except Fault Unit :=
  if f.has id then (f, .ok ())
  else
    let ids := f.ids.insert id
    match f.disk.write (Notation.writeIds ids.ids) with
    | .ok disk => (⟨disk, ids⟩, .ok ())
    | .error fault => (f, .error (.disk fault))

end FlagFile

instance : FlagStore FlagFile where
  has := FlagFile.has
  set := FlagFile.set

inductive Shelf
  | memory (ids : FlagSet)
  | file (f : FlagFile)

namespace Shelf

def ids : Shelf → FlagSet
  | memory ids => ids
  | file f => f.ids

def set (s : Shelf) (id : Text) : Shelf × Except Fault Unit :=
  match s with
  | memory ids => (memory (ids.insert id), .ok ())
  | file f => (file (f.set id).1, (f.set id).2)

def fileText? : Shelf → Option Text
  | memory _ => none
  | file f => f.disk.read.toOption

end Shelf

instance : FlagStore Shelf where
  has s id := s.ids.has id
  set := Shelf.set

end SerialNovel
