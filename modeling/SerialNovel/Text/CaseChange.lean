import SerialNovel.Text.Folding

namespace SerialNovel

namespace CharSet

/-- Where runs of case mappings start from. -/
def sources (rs : List Text.CaseRun) : CharSet :=
  ofRanges (rs.flatMap fun r => r.members.map fun n => (n, n))

/-- The letters whose case the category tables lack, and the two that only those change to. -/
def recentCase : CharSet := .union ⟨Recent.cased⟩ ⟨[(0xA7D3, 0xA7D3), (0xA7D5, 0xA7D5)]⟩

def changesLowered : CharSet :=
  .diff (.union (sources Text.lowerRuns) ⟨[(0x130, 0x130)]⟩) recentCase

def changesUppered : CharSet :=
  .diff
    (.union (sources Text.upperRuns) (ofRanges (Text.upperExpansions.map fun e => (e.1, e.1))))
    recentCase

/-- Title letters stay, and so do Georgian letters. Capital digraphs have a title form. -/
def changesTitled : CharSet :=
  .diff
    (.union changesUppered
      ⟨[(0x1C4, 0x1C4), (0x1C7, 0x1C7), (0x1CA, 0x1CA), (0x1F1, 0x1F1)]⟩)
    (.union Category.title.set ⟨[(0x10D0, 0x10FF)]⟩)

def changesCased : CharSet := .union changesLowered changesUppered

/-- Small letters that fold to others. -/
def smallFolded : CharSet :=
  ⟨[(0xB5, 0xB5), (0xDF, 0xDF), (0x149, 0x149), (0x17F, 0x17F), (0x345, 0x345), (0x3C2, 0x3C2),
    (0x3D0, 0x3D1), (0x3D5, 0x3D6), (0x3F0, 0x3F1), (0x3F5, 0x3F5), (0x587, 0x587),
    (0x13F8, 0x13FD), (0x1C80, 0x1C88), (0x1E9A, 0x1E9B), (0x1F80, 0x1F87), (0x1F90, 0x1F97),
    (0x1FA0, 0x1FA7), (0x1FB2, 0x1FB4), (0x1FB7, 0x1FB7), (0x1FC2, 0x1FC4), (0x1FC7, 0x1FC7),
    (0x1FF2, 0x1FF4), (0x1FF7, 0x1FF7), (0xAB70, 0xABBF), (0xFB00, 0xFB06), (0xFB13, 0xFB17)]⟩

/-- Cherokee letters fold to their capitals. -/
def changesFolded : CharSet :=
  .union (.diff changesLowered ⟨[(0x13A0, 0x13F5)]⟩) smallFolded

end CharSet

end SerialNovel
