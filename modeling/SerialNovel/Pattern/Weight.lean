import SerialNovel.Pattern.Bytes
import Std.Data.HashMap

namespace SerialNovel.Pattern

def stateWeight : Nat := 32

def wayWeight : Nat := 8

def branchWeight : Nat := 4

def maxWeight : Nat := 10485760

/-- The part of an automaton that is laid out: its states, and what their ways out weigh. -/
structure Layout where
  states : Nat
  ways : Nat
  deriving DecidableEq, Repr, Inhabited

namespace Layout

def weight (l : Layout) : Nat := stateWeight * l.states + l.ways

def isHeavy (l : Layout) : Bool := maxWeight < l.weight

def add (n : Nat) (l : Layout) : Layout := ⟨l.states + n, l.ways⟩

def addListing (n : Nat) (l : Layout) : Layout := ⟨l.states + 1, l.ways + wayWeight * n⟩

def addBranches (n : Nat) (l : Layout) : Layout := ⟨l.states, l.ways + branchWeight * n⟩

def addChoice (l : Layout) : Layout := (l.add 1).addBranches 2

/-- Lays out `n` rounds, or as many as it takes to be too heavy. -/
def times (round : Layout → Layout) : Nat → Layout → Layout
  | 0, l => l
  | n + 1, l => if l.isHeavy then l else times round n (round l)

end Layout

inductive Direction
  | forwards
  | backwards
  deriving DecidableEq, Repr

/-- The slot of some numbers in a table, spread by multiplying and exclusive or. -/
def slot (slots : Nat) (ns : List Nat) : Nat :=
  (ns.foldl (fun h n => (h ^^^ n.toUInt64) * 1099511628211)
    (14695981039346656037 : UInt64)).toNat % slots

/-- A layout with a table of the states in it that may be used again. A state stands in the slot of
the numbers that describe it until another one takes its place. -/
structure Sharing where
  layout : Layout
  table : Std.HashMap Nat (List Nat × Nat)

def Sharing.state (slots : Nat) (key : List Nat) (add : Layout → Layout) : Sharing → Nat × Sharing
  | ⟨l, table⟩ =>
    let i := slot slots key
    match (table[i]?).filter (·.1 = key) with
    | some (_, state) => (state, ⟨l, table⟩)
    | none => (l.states, ⟨add l, table.insert i (key, l.states)⟩)

/-- The state that reads the rest of some sequences, of at most `n` bytes, and goes on to `target`.
What comes after a state is laid out before it. -/
def layReader (target : Nat) : Nat → List ByteRanges → Sharing → Nat × Sharing
  | 0, _, s => (target, s)
  | n + 1, bs, s =>
    let groups := byHead bs
    if groups.isEmpty then (target, s)
    else
      let (ways, s) := groups.foldl
        (fun (ways, s) (r, rests) =>
          let (next, s) := layReader target n rests s
          (next :: r.2 :: r.1 :: ways, s))
        ([], s)
      s.state 10000 ways.reverse (Layout.addListing groups.length)

/-- Read forwards, states that read the same bytes and go on to the same states are one. -/
def layForwards (bs : List ByteRanges) (l : Layout) : Layout :=
  (layReader l.states 5 bs ⟨l.add 1, ∅⟩).2.layout

/-- Read backwards, each sequence branches off, and leading bytes in common are one state. -/
def layBackwards (bs : List ByteRanges) (l : Layout) : Layout :=
  let target := l.states + 1
  let s := bs.foldl
    (fun s b =>
      (b.foldl
        (fun (next, s) (lo, hi) => Sharing.state 1000 [next, lo, hi] (Layout.add 1) s)
        (target, s)).2)
    ⟨l.add 2, ∅⟩
  s.layout.addBranches bs.length

def laySet (d : Direction) (s : CharSet) (l : Layout) : Layout :=
  if s.isAscii then (l.add 1).addListing s.ranges.length
  else
    match d with
    | .forwards => layForwards (byteRanges s) l
    | .backwards => layBackwards (byteRanges s) l

/-- Words in the order in which they are tried, parted where one of them ends. -/
def partEnds : List (List Nat) → List (List (List Nat))
  | [] => [[]]
  | [] :: ws => [] :: partEnds ws
  | w :: ws =>
    match partEnds ws with
    | part :: parts => (w :: part) :: parts
    | [] => [[w]]

def singleStart : List (List Nat) → List (List Nat)
  | [] :: ws => [] :: ws.dropWhile (·.isEmpty)
  | ws => ws

def headsOf (ws : List (List Nat)) : List Nat := (ws.filterMap List.head?).eraseDups

def tailsOf (ws : List (List Nat)) (h : Nat) : List (List Nat) :=
  ws.filterMap fun w => if w.head? = some h then some w.tail else none

def layTree : Nat → List (List Nat) → Layout → Layout
  | 0, _, l => l
  | n + 1, ws, l =>
    if ws.all (·.isEmpty) then l
    else
      let parts := partEnds (singleStart ws)
      let nonempty := parts.filter fun p => !p.isEmpty
      let l := nonempty.foldl
        (fun l p =>
          let heads := headsOf p
          let l := heads.foldl (fun l h => layTree n (tailsOf p h) l) l
          if heads.length = 1 then l.add 1 else l.addListing heads.length)
        l
      (l.add 1).addBranches (nonempty.length + (parts.length - 1))

def layWords (d : Direction) (ts : List Text) (l : Layout) : Layout :=
  let words := ts.map fun t =>
    match d with
    | .forwards => literalBytes t
    | .backwards => (literalBytes t).reverse
  layTree (words.foldl (fun n w => max n w.length) 0 + 1) words (l.add 1)

/-- Where a pattern stands among the alternatives of another. -/
inductive Place
  | alone
  /-- It is the second alternative, or starts with it. -/
  | second
  /-- It is a later alternative, or starts with it. -/
  | further
  deriving DecidableEq, Repr

def Place.join : Place → Layout → Layout
  | alone, l => l
  | second, l => (l.add 2).addBranches 2
  | further, l => l.addBranches 1

def Place.next : Place → Place
  | alone => second
  | _ => further

def lay (d : Direction) : Place → Pattern → Layout → Layout
  | place, empty, l => place.join (l.add 1)
  | place, literal t, l => place.join (l.add (literalBytes t).length)
  | place, oneOf s, l => place.join (laySet d s l)
  | place, anchor _, l => place.join (l.add 1)
  | place, seq p q, l =>
    place.join <|
      match d with
      | .forwards => lay d .alone q (lay d .alone p l)
      | .backwards => lay d .alone p (lay d .alone q l)
  | place, alt p q, l =>
    match if place = .alone then (branches (alt p q)).mapM literal? else none with
    | some ts => layWords d ts l
    | none => lay d place.next q (place.join (lay d .alone p l))
  | place, repeated p least most _, l =>
    let round := lay d .alone p
    place.join <|
      match least, most with
      | 0, some 1 => (round l.addChoice).add 1
      | 0, none =>
        if p.minLength?.any (0 < ·) then round l.addChoice
        else ((round l).addChoice.addChoice).add 1
      | n, none => (l.times round n).addChoice
      | n, some m =>
        let l := if n = 0 then l.add 1 else l.times round n
        if n = m then l else (l.add 1).times (fun l => round l.addChoice) (m - n)
  | place, group _ p, l =>
    place.join <|
      match d with
      | .forwards => (lay d .alone p (l.add 1)).add 1
      | .backwards => lay d .alone p l

def startsAnchored : Pattern → Bool
  | anchor a => a = .textStart
  | seq p q => startsAnchored p || (p.maxLength? = some 0 && startsAnchored q)
  | alt p q => startsAnchored p && startsAnchored q
  | repeated p least _ _ => 0 < least && startsAnchored p
  | group _ p => startsAnchored p
  | _ => false

def endsAnchored : Pattern → Bool
  | anchor a => a = .textEnd
  | seq p q => endsAnchored q || (q.maxLength? = some 0 && endsAnchored p)
  | alt p q => endsAnchored p && endsAnchored q
  | repeated p least _ _ => 0 < least && endsAnchored p
  | group _ p => endsAnchored p
  | _ => false

/-- What stands before a pattern: a loop over any byte, unless it can only match at the one end. -/
def layPrefix (d : Direction) (p : Pattern) : Layout :=
  let anchored := match d with
    | .forwards => p.startsAnchored
    | .backwards => p.endsAnchored
  let l : Layout := ⟨0, 0⟩
  if anchored then l.add 1 else (l.addChoice.add 1).addListing 1

def automaton (d : Direction) (p : Pattern) : Layout :=
  (lay d .alone (group 0 p) (layPrefix d p)).add 1

def isLight (p : Pattern) : Bool :=
  !(automaton .forwards p).isHeavy && !(automaton .backwards p).isHeavy

end SerialNovel.Pattern
