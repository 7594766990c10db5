namespace SerialNovel

/-- Whether a number lies in one of the ranges of an ascending list. -/
def inRanges (n : Nat) : List (Nat × Nat) → Bool
  | [] => false
  | (lo, hi) :: rest => if n < lo then false else n ≤ hi || inRanges n rest

structure CharSet where
  ranges : List (Nat × Nat)
  deriving DecidableEq, Repr, Inhabited

namespace CharSet

def maxNumber : Nat := 0x10FFFF

def mem (c : Char) (s : CharSet) : Bool := inRanges c.toNat s.ranges

def empty : CharSet := ⟨[]⟩

def range (lo hi : Char) : CharSet := ⟨[(lo.toNat, hi.toNat)]⟩

def single (c : Char) : CharSet := range c c

def isEmpty (s : CharSet) : Bool := s.ranges.isEmpty

def isAscii (s : CharSet) : Bool := s.ranges.all fun r => r.2 < 0x80

def single? (s : CharSet) : Option Char :=
  match s.ranges with
  | [(lo, hi)] => if lo = hi then some (Char.ofNat lo) else none
  | _ => none

/-- Adds a range, which swallows the ranges that it meets or touches. -/
def insertRange : Nat → Nat → List (Nat × Nat) → List (Nat × Nat)
  | lo, hi, [] => [(lo, hi)]
  | lo, hi, (a, b) :: rest =>
    if hi + 1 < a then (lo, hi) :: (a, b) :: rest
    else if b + 1 < lo then (a, b) :: insertRange lo hi rest
    else insertRange (min lo a) (max hi b) rest

def insert (lo hi : Nat) (s : CharSet) : CharSet := ⟨insertRange lo hi s.ranges⟩

def ofRanges (rs : List (Nat × Nat)) : CharSet := rs.foldl (fun s r => s.insert r.1 r.2) empty

def union (a b : CharSet) : CharSet := b.ranges.foldl (fun s r => s.insert r.1 r.2) a

def unions (ss : List CharSet) : CharSet := ss.foldl union empty

def before (n : Nat) : Nat := if n = 0xE000 then 0xD7FF else n - 1

def after (n : Nat) : Nat := if n = 0xD7FF then 0xE000 else n + 1

/-- What lies between the ranges of a list, from `start` on. -/
def gaps (start : Nat) : List (Nat × Nat) → List (Nat × Nat)
  | [] => if start ≤ maxNumber then [(start, maxNumber)] else []
  | (lo, hi) :: rest =>
    if start < lo then (start, before lo) :: gaps (after hi) rest else gaps (after hi) rest

def compl (s : CharSet) : CharSet := ⟨gaps 0 s.ranges⟩

def diff (a b : CharSet) : CharSet := compl (union (compl a) b)

def inter (a b : CharSet) : CharSet := diff a (compl b)

def symmDiff (a b : CharSet) : CharSet := union (diff a b) (diff b a)

@[simp] theorem mem_empty (c : Char) : empty.mem c = false := rfl

theorem inRanges_singleton (n lo hi : Nat) :
    inRanges n [(lo, hi)] = (decide (lo ≤ n) && decide (n ≤ hi)) := by
  simp only [inRanges, Bool.or_false]
  split
  · rename_i h
    simp [Nat.not_le.2 h]
  · rename_i h
    simp [Nat.not_lt.1 h]

@[simp] theorem mem_single (c x : Char) : (single x).mem c = decide (c = x) := by
  rw [mem, single, range, inRanges_singleton, ← Bool.decide_and]
  congr 1
  apply propext
  rw [Char.ext_iff, ← UInt32.toNat_inj]
  constructor
  · exact fun h => Nat.le_antisymm h.2 h.1
  · exact fun h => ⟨Nat.le_of_eq h.symm, Nat.le_of_eq h⟩

end CharSet

end SerialNovel
