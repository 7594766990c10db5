import Std.Data.HashMap
import SerialNovel.Fault
import SerialNovel.Script.Node

namespace SerialNovel

inductive ChapterStatus
  | available
  | locked
  deriving DecidableEq, Repr

structure Chapter where
  id : Text
  title : Text
  content : Text := []
  status : ChapterStatus := .available
  /-- The timeline group, which may need an acknowledgment before reading. -/
  group : Option Text := none
  deriving DecidableEq, Repr

def Chapter.isLocked (c : Chapter) : Bool := c.status == .locked

structure Volume where
  id : Text
  title : Text
  chapters : List Chapter := []
  deriving DecidableEq, Repr

structure Catalog where
  volumes : List Volume
  /-- The place of each volume by its id. -/
  places : Std.HashMap String Nat

namespace Catalog

/-- Adds the places of volumes from place `i` on. -/
def index (i : Nat) (places : Std.HashMap String Nat) :
    List Volume → Except Fault (Std.HashMap String Nat)
  | [] => .ok places
  | v :: vs =>
    let key := String.ofList v.id
    if places.contains key then .error (.duplicateVolume v.id)
    else index (i + 1) (places.insert key i) vs

def ofVolumes (vs : List Volume) : Except Fault Catalog :=
  (index 0 ∅ vs).map fun places => ⟨vs, places⟩

def empty : Catalog := ⟨[], ∅⟩

def volume? (c : Catalog) (id : Text) : Option Volume :=
  (c.places[String.ofList id]?).bind fun i => c.volumes[i]?

def chapter? (c : Catalog) (volume : Text) (i : Nat) : Option Chapter :=
  (c.volume? volume).bind fun v => v.chapters[i]?

def target? (c : Catalog) (id : Text) : Option Volume := c.volume? id

/-- The volume that a jump link leads to. Other nodes lead nowhere. -/
def follow? (c : Catalog) : Node → Option Volume
  | .jump target _ => c.target? target
  | _ => none

end Catalog

end SerialNovel
