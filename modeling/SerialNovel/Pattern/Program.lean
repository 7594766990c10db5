import SerialNovel.Pattern.Basic

namespace SerialNovel

namespace Pattern

inductive Step
  /-- Takes one character of a set. -/
  | take (s : CharSet) (next : Nat)
  | check (a : Anchor) (next : Nat)
  /-- Goes two ways, the first one preferred. -/
  | fork (first second : Nat)
  /-- Records the place under a mark. -/
  | mark (index : Nat) (next : Nat)
  | done
  deriving DecidableEq, Repr, Inhabited

def startMark (group : Nat) : Nat := 2 * group

def endMark (group : Nat) : Nat := 2 * group + 1

structure Program where
  steps : Array Step
  start : Nat
  deriving DecidableEq, Repr, Inhabited

/-- Steps and the one to start with. -/
abbrev Code := Array Step × Nat

def Code.add (c : Array Step) (s : Step) : Code :=
  let index := c.size
  (c.push s, index)

def choice (greedy : Bool) (more next : Nat) : Step :=
  if greedy then .fork more next else .fork next more

def rounds (body : Array Step → Nat → Code) : Nat → Array Step → Nat → Code
  | 0, c, next => (c, next)
  | n + 1, c, next =>
    let (c, entry) := body c next
    rounds body n c entry

/-- At most `n` rounds; each may leave for `next`. -/
def optionalRounds (greedy : Bool) (body : Array Step → Nat → Code) (next : Nat) :
    Nat → Array Step → Nat → Code
  | 0, c, entry => (c, entry)
  | n + 1, c, entry =>
    let (c, more) := body c entry
    let (c, entry) := Code.add c (choice greedy more next)
    optionalRounds greedy body next n c entry

/-- One round and any number of further ones: the entry of the first and the choice after each. -/
def loop (greedy : Bool) (body : Array Step → Nat → Code) (c : Array Step) (next : Nat) :
    Array Step × Nat × Nat :=
  let again := c.size
  let (c, entry) := body (c.push .done) again
  (c.setIfInBounds again (choice greedy entry next), entry, again)

def literalSteps : Text → Array Step → Nat → Code
  | [], c, next => (c, next)
  | x :: t, c, next =>
    let (c, entry) := literalSteps t c next
    Code.add c (.take (.single x) entry)

/-- Adds the steps of a pattern, after which `next` comes. Where a round may be empty, a repetition
is an optional loop, so that an empty round is preferred no less than it stands in the pattern. -/
def emit : Pattern → Array Step → Nat → Code
  | empty, c, next => (c, next)
  | literal t, c, next => literalSteps t c next
  | oneOf s, c, next => Code.add c (.take s next)
  | anchor a, c, next => Code.add c (.check a next)
  | seq p q, c, next =>
    let (c, entry) := emit q c next
    emit p c entry
  | alt p q, c, next =>
    let (c, first) := emit p c next
    let (c, second) := emit q c next
    Code.add c (.fork first second)
  | repeated p least (some most) greedy, c, next =>
    let (c, entry) := optionalRounds greedy (emit p) next (most - least) c next
    rounds (emit p) least c entry
  | repeated p least none greedy, c, next =>
    let (c, entry, again) := loop greedy (emit p) c next
    if 0 < least then rounds (emit p) (least - 1) c entry
    else if p.minLength?.any (0 < ·) then (c, again)
    else Code.add c (choice greedy entry next)
  | group i p, c, next =>
    let (c, entry) := Code.add c (.mark (endMark i) next)
    let (c, entry) := emit p c entry
    Code.add c (.mark (startMark i) entry)

/-- The program of a pattern. Group 0 is the whole match. -/
def program (p : Pattern) : Program :=
  let (steps, start) := emit (group 0 p) #[.done] 0
  ⟨steps, start⟩

end Pattern

end SerialNovel
