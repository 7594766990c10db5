import SerialNovel.Pattern.Basic

namespace SerialNovel.Pattern

/-- Ranges for the bytes of some characters, the first byte first. -/
abbrev ByteRanges := List (Nat × Nat)

/-- The numbers from `lo` to `hi`, by ranges for `k` digits of six bits. -/
def digitRanges : Nat → Nat → Nat → List ByteRanges
  | 0, _, _ => [[]]
  | k + 1, lo, hi =>
    let unit := 1 <<< (6 * k)
    let a := lo / unit
    let b := hi / unit
    if a = b then (digitRanges k (lo % unit) (hi % unit)).map ((a, a) :: ·)
    else
      let first := lo % unit == 0
      let last := hi % unit == unit - 1
      let a' := if first then a else a + 1
      let b' := if last then b else b - 1
      (if first then [] else (digitRanges k (lo % unit) (unit - 1)).map ((a, a) :: ·)) ++
        (if a' ≤ b' then [(a', b') :: List.replicate k (0, 63)] else []) ++
        (if last then [] else (digitRanges k 0 (hi % unit)).map ((b, b) :: ·))

/-- Characters with as many bytes: how many follow the first one, what is added to the first digit,
and the character numbers. -/
def lengthBlocks : List (Nat × Nat × Nat × Nat) := [
  (0, 0, 0, 0x7F), (1, 0xC0, 0x80, 0x7FF), (2, 0xE0, 0x800, 0xD7FF), (2, 0xE0, 0xE000, 0xFFFF),
  (3, 0xF0, 0x10000, 0x10FFFF)]

/-- Digits as bytes. Each byte after the first one is a digit more than `0x80`. -/
def asBytes (lead : Nat) : ByteRanges → ByteRanges
  | [] => []
  | (a, b) :: rest => (lead + a, lead + b) :: rest.map fun r => (0x80 + r.1, 0x80 + r.2)

/-- The byte sequences of a set, in ascending order. -/
def byteRanges (s : CharSet) : List ByteRanges :=
  s.ranges.flatMap fun (lo, hi) => lengthBlocks.flatMap fun (k, lead, a, b) =>
    if max lo a ≤ min hi b then (digitRanges (k + 1) (max lo a) (min hi b)).map (asBytes lead)
    else []

/-- Neighbours with the same head under one head. -/
def byHead : List ByteRanges → List ((Nat × Nat) × List ByteRanges)
  | [] => []
  | [] :: more => byHead more
  | (r :: rest) :: more =>
    match byHead more with
    | (r', rests) :: groups =>
      if r = r' then (r, rest :: rests) :: groups else (r, [rest]) :: (r', rests) :: groups
    | [] => [(r, [rest])]

def literalBytes (t : Text) : List Nat :=
  t.flatMap fun c => (byteRanges (.single c)).flatten.map (·.1)

end SerialNovel.Pattern
