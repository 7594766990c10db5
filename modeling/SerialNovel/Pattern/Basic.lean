import SerialNovel.Pattern.Anchor
import SerialNovel.Text.Basic

namespace SerialNovel

inductive Pattern
  | empty
  | literal (t : Text)
  /-- One character of a set. -/
  | oneOf (s : CharSet)
  | anchor (a : Anchor)
  | seq (p q : Pattern)
  | alt (p q : Pattern)
  /-- At least `min` times, and at most `max` times if that is given. -/
  | repeated (p : Pattern) (min : Nat) (max : Option Nat) (greedy : Bool)
  /-- A group that records the text it matches. -/
  | group (index : Nat) (p : Pattern)
  deriving DecidableEq, Repr, Inhabited

namespace Pattern

def nodes : Pattern → Nat
  | seq p q => nodes p + nodes q + 1
  | alt p q => nodes p + nodes q + 1
  | repeated p _ _ _ => nodes p + 1
  | group _ p => nodes p + 1
  | _ => 1

/-- The least number of characters that a match has, if some text can match. -/
def minLength? : Pattern → Option Nat
  | literal t => some t.length
  | oneOf s => if s.isEmpty then none else some 1
  | seq p q => do return (← minLength? p) + (← minLength? q)
  | alt p q => do return min (← minLength? p) (← minLength? q)
  | repeated p least _ _ => (minLength? p).map (· * least)
  | group _ p => minLength? p
  | _ => some 0

/-- The greatest number of characters that a match has, if some text can match and there is one. -/
def maxLength? : Pattern → Option Nat
  | literal t => some t.length
  | oneOf s => if s.isEmpty then none else some 1
  | seq p q => do return (← maxLength? p) + (← maxLength? q)
  | alt p q => do return max (← maxLength? p) (← maxLength? q)
  | repeated p _ most _ => do return (← maxLength? p) * (← most)
  | group _ p => maxLength? p
  | _ => some 0

def items : Pattern → List Pattern
  | empty => []
  | seq p q => p :: items q
  | p => [p]

def ofItems : List Pattern → Pattern
  | [] => empty
  | [p] => p
  | p :: ps => seq p (ofItems ps)

def joinLiterals : List Pattern → List Pattern
  | [] => []
  | literal s :: ps =>
    match joinLiterals ps with
    | literal t :: more => literal (s ++ t) :: more
    | more => literal s :: more
  | p :: ps => p :: joinLiterals ps

def sequence (ps : List Pattern) : Pattern := ofItems (joinLiterals (ps.flatMap items))

/-- A character of a set. Where the set has one member, it is a literal. -/
def ofSet (s : CharSet) : Pattern :=
  match s.single? with
  | some c => literal [c]
  | none => oneOf s

def branches : Pattern → List Pattern
  | alt p q => p :: branches q
  | p => [p]

def ofBranches : List Pattern → Pattern
  | [] => oneOf .empty
  | [p] => p
  | p :: ps => alt p (ofBranches ps)

def literalChar? : Pattern → Option Char
  | literal [c] => some c
  | _ => none

def set? : Pattern → Option CharSet
  | oneOf s => some s
  | _ => none

def literal? : Pattern → Option Text
  | literal t => some t
  | _ => none

def sequence? : Pattern → Option (List Pattern)
  | seq p q => some (p :: items q)
  | _ => none

def sharedStart : List Pattern → List Pattern → List Pattern
  | p :: ps, q :: qs => if p = q then p :: sharedStart ps qs else []
  | _, _ => []

/-- The leading items that all branches share, if all are sequences. -/
def sharedItems (bs : List Pattern) : List Pattern :=
  match bs.mapM sequence? with
  | some (is :: more) => more.foldl sharedStart is
  | _ => []

/-- Alternatives, the preferred one first, with shared items put in front of them `n` times at
most. -/
def alternativesFrom : Nat → List Pattern → Pattern
  | 0, bs => ofBranches bs
  | n + 1, bs =>
    let bs := bs.flatMap branches
    match bs with
    | [p] => p
    | _ =>
      match bs.mapM literalChar? with
      | some cs => ofSet (.unions (cs.map .single))
      | none =>
        match bs.mapM set? with
        | some ss => ofSet (.unions ss)
        | none =>
          match sharedItems bs with
          | [] => ofBranches bs
          | shared =>
            sequence (shared ++
              [alternativesFrom n (bs.map fun b => sequence (b.items.drop shared.length))])

def alternatives (bs : List Pattern) : Pattern :=
  alternativesFrom (bs.foldl (fun n b => n + b.nodes) 1) bs

/-- A repetition. One more round of what matches nothing but the empty text changes nothing. -/
def repetition (p : Pattern) (min : Nat) (max : Option Nat) (greedy : Bool) : Pattern :=
  let void := p.maxLength? == some 0
  let min := if void then Nat.min min 1 else min
  let max := if void then some ((max.map (Nat.min · 1)).getD 1) else max
  if max = some 0 then empty
  else if min = 1 && max = some 1 then p
  else repeated p min max greedy

end Pattern

end SerialNovel
