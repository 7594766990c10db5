import SerialNovel.Playback.Timing

namespace SerialNovel.HostClock

/-- A time of the host: no number below zero, none that is not finite, and no fraction. -/
def toMillis (t : Float) : Nat :=
  if t.isFinite && 0 < t then t.toUInt64.toNat else 0

def precision : Nat := 53

/-- The distance between neighbouring doubles at a whole number. -/
def spacing (n : Nat) : Nat := Nat.pow 2 (n.log2 + 1 - precision)

/-- The double nearest to a whole number; of two that are equally near the one with an even last
digit. -/
def nearest (n : Nat) : Nat :=
  let unit := spacing n
  let whole := n / unit
  let excess := 2 * (n % unit)
  if excess < unit || (excess == unit && whole % 2 == 0) then whole * unit
  else (whole + 1) * unit

end SerialNovel.HostClock
