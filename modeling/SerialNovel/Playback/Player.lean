import SerialNovel.Library.Theme
import SerialNovel.Markup.Inline
import SerialNovel.Notation.Schema
import SerialNovel.Playback.HostClock
import SerialNovel.Playback.State
import SerialNovel.Script.Parse

namespace SerialNovel

structure Player where
  stage : Playback
  theme : Theme
  deriving DecidableEq, Repr

structure Snapshot where
  cursor : Nat
  size : Nat
  phase : Phase
  auto : Bool
  speaker : Option Text
  speakerKey : Option Text
  initials : Option Text
  revealed : Text
  /-- The runs of a node that is fully shown and carries markup. -/
  runs : Option (List Run)
  backlogSize : Nat
  nextDeadline : Option Nat
  deriving DecidableEq, Repr

def Phase.label : Phase → Text
  | revealing => "revealing".toList
  | waiting => "awaiting_advance".toList
  | ended => "at_end".toList

namespace Player

def ofChapter (id chapter : Text) (timing : Timing) (now : Nat) : Player :=
  ⟨Playback.startAt now timing (parse .builtin chapter), Theme.ofChapterId id⟩

def load (id chapter : Text) (timing : Option Text) (now : Nat) : Except Fault Player := do
  let timing ← match timing with
    | some t => Timing.ofText t
    | none => pure {}
  return ofChapter id chapter timing now

def advance (p : Player) (now : Nat) : Player := { p with stage := p.stage.advanceAt now }

def toggleAuto (p : Player) (now : Nat) : Player := { p with stage := p.stage.toggleAutoAt now }

def tick (p : Player) (now : Nat) : Nat × Player :=
  let (stage, fired) := p.stage.tick now
  (fired, { p with stage })

def dispose (p : Player) : Player := { p with stage := p.stage.cancelTimers }

def runs? (p : Player) : Option (List Run) :=
  let runs := Inline.runs p.stage.display
  if !p.stage.isRevealing && Inline.hasStyling runs then some runs else none

def snapshot (p : Player) : Snapshot :=
  let s := p.stage
  let key := s.current.speakerKey?
  { cursor := s.cursor
    size := s.size
    phase := s.phase
    auto := s.auto
    speaker := s.current.speakerName?
    speakerKey := key.map (·.name)
    initials := key.map fun k => (Identity.resolve k p.theme).initials
    revealed := s.revealedText
    runs := p.runs?
    backlogSize := s.backlog.length
    nextDeadline := s.nextDeadline }

/-- The next deadline as a host reads it. -/
def hostDeadline? (p : Player) : Option Nat := p.stage.nextDeadline.map HostClock.nearest

/-- What a host can do, at its own time. -/
inductive Op
  | advance (now : Float)
  | toggleAuto (now : Float)
  | tick (now : Float)
  | dispose
  deriving Repr

def apply (p : Player) : Op → Player
  | .advance now => p.advance (HostClock.toMillis now)
  | .toggleAuto now => p.toggleAuto (HostClock.toMillis now)
  | .tick now => (p.tick (HostClock.toMillis now)).2
  | .dispose => p.dispose

def run (p : Player) (ops : List Op) : Player := ops.foldl apply p

end Player

end SerialNovel
