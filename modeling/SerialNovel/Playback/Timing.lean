import SerialNovel.Script.Node
import SerialNovel.Text.Words

namespace SerialNovel

def clockLimit : Nat := Text.maxNumber

def later (now delay : Nat) : Nat := min (now + delay) clockLimit

structure Timing where
  tick : Nat := 30
  autoBase : Nat := 1500
  richBase : Nat := 2000
  perChar : Nat := 20
  deriving DecidableEq, Repr

namespace Timing

/-- The time between two characters, at least one millisecond. -/
def step (t : Timing) : Nat := max t.tick 1

/-- How long a node stays after its reveal while the stage plays by itself. A node with tags has a
base of its own. -/
def autoDelay (t : Timing) (n : Node) (length : Nat) : Nat :=
  later (if n.hasTags then t.richBase else t.autoBase) (min (t.perChar * length) clockLimit)

end Timing

end SerialNovel
