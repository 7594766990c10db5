import SerialNovel.Text.Recent

namespace SerialNovel

def CharSet.fillers : CharSet :=
  ⟨[(0x115F, 0x1160), (0x3164, 0x3164), (0xFFA0, 0xFFA0)]⟩

/-- What has a shape of its own, and the space: no control, format or private character, no
separator of another kind, and nothing that extends a grapheme. -/
def CharSet.shown : CharSet :=
  .union (.diff graphemeBase (.union fillers Category.space.set)) ⟨Recent.spacing⟩

/-- Whether a quoted text shows a character. The first test settles ASCII. -/
def Text.isShown (c : Char) : Bool :=
  if c.toNat < 0x7F then decide (0x20 ≤ c.toNat) else CharSet.shown.mem c

end SerialNovel
