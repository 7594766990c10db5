import SerialNovel.Pattern.Program
import SerialNovel.Pattern.Reader
import SerialNovel.Pattern.Weight

namespace SerialNovel.Pattern

def maxDepth : Nat := 250

def read? (t : Text) : Option Pattern := do
  let r ← readFrom? t
  if r.depth ≤ maxDepth && r.pattern.isLight then some r.pattern else none

/-- A way to match: its next step, and the places recorded so far, the newest first. -/
structure Thread where
  step : Nat
  marks : List (Nat × Nat) := []
  deriving DecidableEq, Repr, Inhabited

structure Spot where
  place : Nat
  before : Option Char
  after : Option Char

/-- The steps that were reached, each with the number of the last place of it, counted from 1. -/
abbrev Visits := Array Nat

/-- A match: its text, and the places of its groups. -/
structure Found where
  source : Text
  marks : List (Nat × Nat)
  deriving DecidableEq, Repr

namespace Found

def group? (f : Found) (index : Nat) : Option Text := do
  let first ← f.marks.lookup (startMark index)
  let last ← f.marks.lookup (endMark index)
  return (f.source.drop first).take (last - first)

def text (f : Found) : Text := (f.group? 0).getD []

end Found

namespace Program

/-- Lets threads go on at a spot until they take a character or are done, and puts those in front of
`out`. Each step is reached once, so `n` need not be more than twice their number. -/
def settle (p : Program) (spot : Spot) :
    Nat → List Thread → Visits → List Thread → Visits × List Thread
  | 0, _, seen, out => (seen, out)
  | _ + 1, [], seen, out => (seen, out)
  | n + 1, t :: ts, seen, out =>
    if seen[t.step]? = some (spot.place + 1) then settle p spot n ts seen out
    else
      let seen := seen.setIfInBounds t.step (spot.place + 1)
      match p.steps[t.step]? with
      | none => settle p spot n ts seen out
      | some (.check a next) =>
        let ts := if a.holds spot.before spot.after then { t with step := next } :: ts else ts
        settle p spot n ts seen out
      | some (.fork first second) =>
        settle p spot n ({ t with step := first } :: { t with step := second } :: ts) seen out
      | some (.mark index next) =>
        settle p spot n (⟨next, (index, spot.place) :: t.marks⟩ :: ts) seen out
      | some _ => settle p spot n ts seen (t :: out)

def bound (p : Program) : Nat := 2 * p.steps.size + 2

def isDone (p : Program) (t : Thread) : Bool := p.steps[t.step]? == some .done

/-- Lets threads take a character that leads to a spot, up to the first one that is done. -/
def advance (p : Program) (c : Char) (spot : Spot) :
    List Thread → Visits → List Thread → Option Thread × Visits × List Thread
  | [], seen, out => (none, seen, out)
  | t :: ts, seen, out =>
    match p.steps[t.step]? with
    | some .done => (some t, seen, out)
    | some (.take s next) =>
      if s.mem c then
        let (seen, out) := p.settle spot p.bound [{ t with step := next }] seen out
        advance p c spot ts seen out
      else advance p c spot ts seen out
    | _ => advance p c spot ts seen out

/-- The thread that matches, where `out` are the threads at this place, the preferred one last, and
`best` is a match that they are preferred to. As long as there is none, a match may start here. -/
def runFrom (p : Program) (place : Nat) (before : Option Char) :
    Text → Visits → List Thread → Option Thread → Option Thread
  | [], seen, out, best =>
    let spot : Spot := ⟨place, before, none⟩
    let out := if best.isNone then (p.settle spot p.bound [{ step := p.start }] seen out).2 else out
    out.reverse.find? p.isDone <|> best
  | c :: t, seen, out, best =>
    let spot : Spot := ⟨place, before, some c⟩
    let (seen, out) :=
      if best.isNone then p.settle spot p.bound [{ step := p.start }] seen out else (seen, out)
    if out.isEmpty && best.isSome then best
    else
      let (found, seen, next) := p.advance c ⟨place + 1, some c, t.head?⟩ out.reverse seen []
      runFrom p (place + 1) (some c) t seen next (found <|> best)

def search? (p : Program) (t : Text) : Option Found :=
  (p.runFrom 0 none t (Array.replicate p.steps.size 0) [] none).map fun found => ⟨t, found.marks⟩

end Program

end SerialNovel.Pattern
