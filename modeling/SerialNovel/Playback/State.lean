import SerialNovel.Playback.Timing
import SerialNovel.Timer.Queue

namespace SerialNovel

inductive Phase
  | revealing
  /-- The node is fully shown. -/
  | waiting
  | ended
  deriving DecidableEq, Repr

inductive StageTimer
  | typewriter
  | autoAdvance
  deriving DecidableEq, Repr

/-- The nodes, the one on stage and how far its reveal is. The backlog keeps the nodes already left,
and the display is the text that the stage reveals, with its length. -/
structure Playback where
  nodes : List Node
  cursor : Nat
  display : Text
  displayLen : Nat
  revealed : Nat
  phase : Phase
  auto : Bool
  backlog : List Node
  timers : Queue StageTimer
  now : Nat
  timing : Timing
  deriving DecidableEq, Repr

/-- An image shows at once, and so does a node that has tags or nothing to show. -/
def Node.isInstant (n : Node) : Bool := n.isImage || n.hasTags || n.displayText.isEmpty

namespace Playback

def size (s : Playback) : Nat := s.nodes.length

/-- The node on stage. A cursor past the nodes would show the placeholder. -/
def current (s : Playback) : Node := s.nodes.getD s.cursor .placeholder

def revealedText (s : Playback) : Text := s.display.take s.revealed

def isRevealing (s : Playback) : Bool := s.phase == .revealing

def isEnded (s : Playback) : Bool := s.phase == .ended

def nextDeadline (s : Playback) : Option Nat := s.timers.nextDeadline

def pending (s : Playback) : Nat := s.timers.size

def cancelTimers (s : Playback) : Playback := { s with timers := s.timers.cancelAll.2 }

def cancelAuto (s : Playback) : Playback :=
  { s with timers := (s.timers.cancelWhere (· == .autoAdvance)).2 }

def armTick (s : Playback) : Playback :=
  { s with timers := s.timers.schedule (later s.now s.timing.step) .typewriter }

/-- Starts the wait after a reveal if the stage plays by itself. -/
def armAuto (s : Playback) : Playback :=
  if s.auto ∧ s.phase = .waiting then
    let s := s.cancelAuto
    let due := later s.now (s.timing.autoDelay s.current s.displayLen)
    { s with timers := s.timers.schedule due .autoAdvance }
  else s

def finishReveal (s : Playback) : Playback :=
  armAuto { s with revealed := s.displayLen, phase := .waiting }

def enter (s : Playback) : Playback :=
  let text := s.current.displayText
  let s := { s.cancelTimers with display := text, displayLen := text.length, revealed := 0 }
  if s.current.isInstant then s.finishReveal else armTick { s with phase := .revealing }

/-- Completes a reveal, or goes on to the next node, or ends after the last. -/
def advance (s : Playback) : Playback :=
  match s.phase with
  | .revealing => s.cancelTimers.finishReveal
  | .waiting =>
    let s := s.cancelTimers
    if s.cursor + 1 < s.size then
      enter { s with backlog := s.backlog ++ [s.current], cursor := s.cursor + 1 }
    else { s with phase := .ended, auto := false }
  | .ended => s

/-- Switches playing by itself. Switched on while it waits, the stage advances at once. -/
def toggleAuto (s : Playback) : Playback :=
  if s.phase = .ended then s
  else if s.auto then cancelAuto { s with auto := false }
  else
    let s := { s with auto := true }
    if s.phase = .waiting then s.advance else s

def typewriterStep (s : Playback) : Playback :=
  if s.phase = .revealing then
    let s := { s with revealed := s.revealed + 1 }
    if s.displayLen ≤ s.revealed then s.finishReveal else s.armTick
  else s

def act (s : Playback) : StageTimer → Playback
  | .typewriter => s.typewriterStep
  | .autoAdvance => s.advance

/-- Fires the earliest timer that is due at `now`, at its own time. -/
def fire? (now : Nat) (s : Playback) : Option Playback :=
  (s.timers.popDue now).map fun p =>
    act { s with timers := p.2, now := max s.now p.1.due } p.1.payload

def nodeWork (n : Node) : Nat := n.displayText.length + 2

def nodesWork : List Node → Nat
  | [] => 0
  | n :: ns => nodeWork n + nodesWork ns

def phaseWork (s : Playback) : Nat :=
  match s.phase with
  | .revealing => s.displayLen - s.revealed + 2
  | .waiting => 1
  | .ended => 0

def upcoming (s : Playback) : List Node := s.nodes.drop (s.cursor + 1)

def work (s : Playback) : Nat :=
  nodesWork s.upcoming + s.phaseWork + s.timers.size

/-- The node at a place stands before those after it. -/
theorem drop_eq_cons {ns : List Node} {i : Nat} (h : i < ns.length) :
    ns.drop i = ns.getD i .placeholder :: ns.drop (i + 1) := by
  rw [List.drop_eq_getElem_cons h, List.getD_eq_getElem?_getD, List.getElem?_eq_getElem h,
    Option.getD_some]

theorem nodesWork_drop {ns : List Node} {i : Nat} (h : i < ns.length) :
    nodesWork (ns.drop i) = nodeWork (ns.getD i .placeholder) + nodesWork (ns.drop (i + 1)) := by
  rw [drop_eq_cons h, nodesWork]

theorem work_armAuto_le (s : Playback) : s.armAuto.work ≤ s.work + 1 := by
  unfold armAuto
  split
  · have := s.timers.size_cancelWhere_le (· == .autoAdvance)
    simp only [work, upcoming, phaseWork, cancelAuto, Queue.size_schedule]
    omega
  · omega

theorem work_finishReveal_le (s : Playback) :
    s.finishReveal.work ≤ nodesWork s.upcoming + s.timers.size + 2 := by
  have := work_armAuto_le { s with revealed := s.displayLen, phase := .waiting }
  simp only [work, upcoming, phaseWork] at this
  simp only [finishReveal, work, upcoming, phaseWork]
  omega

theorem work_enter_le (s : Playback) :
    s.enter.work ≤ nodesWork s.upcoming + nodeWork s.current + 1 := by
  unfold enter
  dsimp only
  split
  · have := work_finishReveal_le { s.cancelTimers with
      display := s.current.displayText, displayLen := s.current.displayText.length, revealed := 0 }
    simp only [upcoming, cancelTimers, Queue.size_cancelAll] at this
    simp only [nodeWork, upcoming, cancelTimers]
    omega
  · simp [work, upcoming, phaseWork, armTick, cancelTimers, nodeWork]

theorem work_advance_le (s : Playback) (h : s.phase ≠ .ended) : s.advance.work ≤ s.work := by
  unfold advance
  split
  · rename_i hp
    have := work_finishReveal_le s.cancelTimers
    simp only [upcoming, cancelTimers, Queue.size_cancelAll] at this
    simp only [work, upcoming, phaseWork, hp, cancelTimers] at this ⊢
    omega
  · rename_i hp
    dsimp only
    split
    · rename_i hc
      have hn := nodesWork_drop hc
      have := work_enter_le { s.cancelTimers with
        backlog := s.backlog ++ [s.current], cursor := s.cursor + 1 }
      simp only [work, upcoming, current, phaseWork, hp, cancelTimers] at this hn ⊢
      omega
    · simp only [work, upcoming, phaseWork, hp, cancelTimers, Queue.size_cancelAll]
      omega
  · contradiction

theorem work_typewriterStep_le (s : Playback) : s.typewriterStep.work ≤ s.work := by
  unfold typewriterStep
  split
  · rename_i hp
    dsimp only
    split
    · have := work_finishReveal_le { s with revealed := s.revealed + 1 }
      simp only [work, upcoming, phaseWork, hp] at this ⊢
      omega
    · simp only [armTick, work, upcoming, phaseWork, hp, Queue.size_schedule]
      omega
  · exact Nat.le_refl _

theorem work_act_le (s : Playback) (t : StageTimer) : (s.act t).work ≤ s.work := by
  cases t with
  | typewriter => exact work_typewriterStep_le s
  | autoAdvance =>
    by_cases h : s.phase = .ended
    · simp [act, advance, h]
    · exact work_advance_le s h

theorem work_lt_of_fire? {now : Nat} {s s' : Playback} (h : s.fire? now = some s') :
    s'.work < s.work := by
  obtain ⟨⟨task, q⟩, hq, rfl⟩ := Option.map_eq_some_iff.1 h
  have hs := Queue.size_of_popDue hq
  have := work_act_le { s with timers := q, now := max s.now task.due } task.payload
  simp only [work, upcoming, phaseWork] at this ⊢
  omega

def fireAll (now fired : Nat) (s : Playback) : Playback × Nat :=
  match _h : s.fire? now with
  | none => (s, fired)
  | some s' => fireAll now (fired + 1) s'
termination_by s.work
decreasing_by exact work_lt_of_fire? _h

theorem fireAll_none {now fired : Nat} {s : Playback} (h : s.fire? now = none) :
    s.fireAll now fired = (s, fired) := by
  rw [fireAll]
  split
  · rfl
  · simp_all

theorem fireAll_some {now fired : Nat} {s s' : Playback} (h : s.fire? now = some s') :
    s.fireAll now fired = s'.fireAll now (fired + 1) := by
  rw [fireAll]
  split
  · simp_all
  · simp_all

/-- Moves the clock to `now`, but never back, and counts the timers that fire. -/
def tick (now : Nat) (s : Playback) : Playback × Nat :=
  let p := s.fireAll now 0
  ({ p.1 with now := max p.1.now now }, p.2)

def advanceAt (now : Nat) (s : Playback) : Playback := (s.tick now).1.advance

def toggleAutoAt (now : Nat) (s : Playback) : Playback := (s.tick now).1.toggleAuto

def script (nodes : List Node) : List Node := if nodes.isEmpty then [.placeholder] else nodes

def startAt (now : Nat) (timing : Timing) (nodes : List Node) : Playback :=
  enter {
    nodes := script nodes
    cursor := 0
    display := []
    displayLen := 0
    revealed := 0
    phase := .revealing
    auto := false
    backlog := []
    timers := {}
    now := now
    timing := timing }

def start (timing : Timing) (nodes : List Node) : Playback := startAt 0 timing nodes

/-- What a host can do. It counts time in 64 bits. -/
inductive Op
  | advance
  | advanceAt (now : UInt64)
  | toggleAuto
  | toggleAutoAt (now : UInt64)
  | tick (now : UInt64)
  | cancelTimers
  deriving DecidableEq, Repr

def apply (s : Playback) : Op → Playback
  | .advance => s.advance
  | .advanceAt now => s.advanceAt now.toNat
  | .toggleAuto => s.toggleAuto
  | .toggleAutoAt now => s.toggleAutoAt now.toNat
  | .tick now => (s.tick now.toNat).1
  | .cancelTimers => s.cancelTimers

def run (s : Playback) (ops : List Op) : Playback := ops.foldl apply s

/-- Ticks from deadline to deadline, at most `max` times, and adds the rounds to `done`. -/
def runRounds : Nat → Nat → Playback → Playback × Nat
  | 0, done, s => (s, done)
  | max + 1, done, s =>
    match s.nextDeadline with
    | none => (s, done)
    | some d => runRounds max (done + 1) (s.tick d).1

theorem work_fireAll_le (now fired : Nat) (s : Playback) : (s.fireAll now fired).1.work ≤ s.work := by
  fun_induction fireAll now fired s with
  | case1 => exact Nat.le_refl _
  | case2 _ _ _ h ih => exact Nat.le_trans ih (Nat.le_of_lt (work_lt_of_fire? h))

theorem work_tick_lt {d : Nat} {s : Playback} (h : s.nextDeadline = some d) :
    (s.tick d).1.work < s.work := by
  have hs : (s.fire? d).isSome := by
    simpa [fire?] using Queue.popDue_nextDeadline_isSome h
  obtain ⟨s', hf⟩ := Option.isSome_iff_exists.1 hs
  have he : s.fireAll d 0 = s'.fireAll d 1 := fireAll_some hf
  have h1 := work_fireAll_le d 1 s'
  have h2 := work_lt_of_fire? hf
  simp only [tick, he, work, upcoming, phaseWork] at h1 h2 ⊢
  omega

/-- The states after each round of ticking from deadline to deadline until no timer is left. -/
def rounds (s : Playback) : List Playback :=
  match _h : s.nextDeadline with
  | none => []
  | some d => (s.tick d).1 :: rounds (s.tick d).1
termination_by s.work
decreasing_by exact work_tick_lt _h

end Playback

end SerialNovel
