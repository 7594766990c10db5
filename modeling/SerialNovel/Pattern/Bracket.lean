import SerialNovel.Pattern.Escape
import SerialNovel.Text.Search

namespace SerialNovel.Pattern

/-- A set with the depth of the brackets, operators and enumerations in it. -/
structure SetReading where
  set : CharSet
  depth : Nat
  deriving DecidableEq, Repr

inductive SetOperator
  | inter
  | diff
  | symmDiff
  deriving DecidableEq, Repr

namespace SetOperator

def apply (w : Switches) (o : SetOperator) (a b : SetReading) : SetReading :=
  let x := w.fold a.set
  let y := w.fold b.set
  let set := match o with
    | inter => x.inter y
    | diff => x.diff y
    | symmDiff => x.symmDiff y
  ⟨set, max a.depth b.depth + 1⟩

end SetOperator

/-- The operands before the present one, and the operator that joins it to them. -/
abbrev Pending := Option (SetReading × SetOperator)

def Pending.settle (w : Switches) (p : Pending) (r : SetReading) : SetReading :=
  match p with
  | some (l, o) => o.apply w l r
  | none => r

structure Enumeration where
  set : CharSet := .empty
  depth : Nat := 0
  size : Nat := 0
  deriving DecidableEq, Repr

namespace Enumeration

def add (e : Enumeration) (s : CharSet) (depth : Nat) : Enumeration :=
  ⟨e.set.union s, max e.depth depth, e.size + 1⟩

def reading (e : Enumeration) : SetReading := ⟨e.set, if e.size ≤ 1 then e.depth else e.depth + 1⟩

end Enumeration

def namedSet? (name : Text) : Option CharSet :=
  let upper := CharSet.range 'A' 'Z'
  let lower := CharSet.range 'a' 'z'
  let digit := CharSet.range '0' '9'
  if name = "alnum".toList then some (.unions [digit, upper, lower])
  else if name = "alpha".toList then some (.unions [upper, lower])
  else if name = "ascii".toList then some (.range '\x00' '\x7f')
  else if name = "blank".toList then some (.unions [.single '\t', .single ' '])
  else if name = "cntrl".toList then some (.unions [.range '\x00' '\x1f', .single '\x7f'])
  else if name = "digit".toList then some digit
  else if name = "graph".toList then some (.range '!' '~')
  else if name = "lower".toList then some lower
  else if name = "print".toList then some (.range ' ' '~')
  else if name = "punct".toList then
    some (.unions [.range '!' '/', .range ':' '@', .range '[' '\x60', .range '\x7b' '~'])
  else if name = "space".toList then some (.unions [.range '\t' '\r', .single ' '])
  else if name = "upper".toList then some upper
  else if name = "word".toList then some (.unions [digit, upper, .single '_', lower])
  else if name = "xdigit".toList then some (.unions [digit, .range 'A' 'F', .range 'a' 'f'])
  else none

/-- Whether the set of a name is negated, the set, and what follows its `:]`. -/
def bracketName? : Text → Option (Bool × CharSet × Text)
  | ':' :: '^' :: t => do
    let (name, rest) ← Text.cut? ":]".toList t
    return (true, ← namedSet? name, rest)
  | ':' :: t => do
    let (name, rest) ← Text.cut? ":]".toList t
    return (false, ← namedSet? name, rest)
  | _ => none

def member? (w : Switches) : Text → Option ((Char ⊕ CharSet) × Text)
  | [] => none
  | '\\' :: t => do
    match ← Escape.read? w t with
    | (.char c, rest) => some (.inl c, rest)
    | (.byte c, rest) => some (.inl c, rest)
    | (.set s, rest) => some (.inr s, rest)
    | (.anchor _, _) => none
  | c :: t => some (.inl c, t)

/-- The range between two characters. One read as ASCII has no other character. -/
def span? (w : Switches) (lo hi : Char) : Option CharSet :=
  if hi < lo || (w.ascii && 128 ≤ hi.toNat) then none else some (.range lo hi)

def memberSet? (w : Switches) : Char ⊕ CharSet → Option CharSet
  | .inl c => span? w c c
  | .inr s => some s

/-- The character that a dash is judged by: the next one that is no white space. A comment behind the
dash is judged by its own first character. -/
def afterDash? (w : Switches) (t : Text) : Option Char :=
  if w.spaced then
    match Text.trimStart t with
    | '#' :: t => (Text.trimStart t).head?
    | t => t.head?
  else t.head?

/-- A range, a character or an escaped set inside brackets. A dash before `]` or before another
dash starts no range. -/
def rangeOrMember? (w : Switches) (t : Text) : Option (CharSet × Text) := do
  let (first, rest) ← member? w t
  let rest := w.skip rest
  match rest with
  | [] => none
  | '-' :: t =>
    let next := afterDash? w t
    if next = some ']' || next = some '-' then return (← memberSet? w first, rest)
    else
      match first, ← member? w (w.skip t) with
      | .inl lo, (.inl hi, rest) => return (← span? w lo hi, rest)
      | _, _ => none
  | _ => return (← memberSet? w first, rest)

/-- The dashes at the start of a bracket stand for themselves, `n` at most. -/
def leadingDashes (w : Switches) : Nat → Enumeration → Text → Enumeration × Text
  | n + 1, e, '-' :: t => leadingDashes w n (e.add (.single '-') 0) (w.skip t)
  | _, e, t => (e, t)

def leadingItems (w : Switches) (t : Text) : Enumeration × Text :=
  match t with
  | ']' :: t => (({} : Enumeration).add (.single ']') 0, w.skip t)
  | t => leadingDashes w t.length {} t

def closeBracket? (w : Switches) (negated : Bool) (r : SetReading) : Option SetReading := do
  return ⟨← w.negateIf? negated (w.fold r.set), r.depth + 1⟩

mutual

def bracket? (w : Switches) : Nat → Text → Option (SetReading × Text)
  | 0, _ => none
  | n + 1, t => do
    let (negated, t) := match w.skip t with
      | '^' :: t => (true, w.skip t)
      | t => (false, t)
    let (e, t) := leadingItems w t
    let (r, rest) ← bracketItems? w n none e t
    return (← closeBracket? w negated r, rest)

def bracketItems? (w : Switches) : Nat → Pending → Enumeration → Text →
    Option (SetReading × Text)
  | 0, _, _, _ => none
  | n + 1, p, e, t =>
    match w.skip t with
    | [] => none
    | ']' :: t => some (p.settle w e.reading, t)
    | '&' :: '&' :: t => bracketItems? w n (some (p.settle w e.reading, .inter)) {} t
    | '-' :: '-' :: t => bracketItems? w n (some (p.settle w e.reading, .diff)) {} t
    | '~' :: '~' :: t => bracketItems? w n (some (p.settle w e.reading, .symmDiff)) {} t
    | '[' :: t =>
      match bracketName? t with
      | some (negated, s, rest) => do
        bracketItems? w n p (e.add (← w.negateIf? negated (w.fold s)) 0) rest
      | none => do
        let (r, rest) ← bracket? w n t
        bracketItems? w n p (e.add r.set r.depth) rest
    | t => do
      let (s, rest) ← rangeOrMember? w t
      bracketItems? w n p (e.add s 0) rest

end

end SerialNovel.Pattern
