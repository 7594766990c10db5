import SerialNovel.Text.Casing

namespace SerialNovel

namespace Text

def CaseRun.members (r : CaseRun) : List Nat :=
  (List.range ((r.last - r.first) / r.step + 1)).map fun i => r.first + i * r.step

def CaseRun.images (r : CaseRun) : List Nat := r.members.map fun n => r.image + (n - r.first)

/-- Characters that fold with another one although the case mappings keep them apart. -/
def foldingExceptions : List (Nat × Nat) := [(0x1FD3, 0x390), (0x1FE3, 0x3B0), (0xFB05, 0xFB06)]

/-- The dotted capital and the dotless small i fold with no other character, nor do the letters that
the category tables lack. -/
def foldsAlone (n : Nat) : Bool := n = 0x130 || n = 0x131 || inRanges n Recent.cased

/-- What stands for a character and all that differ from it in case only. -/
def foldOf (n : Nat) : Nat :=
  if foldsAlone n then n
  else match foldingExceptions.lookup n with
    | some m => m
    | none => (toLower1 (toUpper1 (Char.ofNat n))).toNat

def foldings : List (Nat × Nat) :=
  let cased :=
    upperRuns.flatMap (·.members) ++ lowerRuns.flatMap (·.members) ++
      lowerRuns.flatMap (·.images) ++ foldingExceptions.flatMap fun p => [p.1, p.2]
  cased.map fun n => (n, foldOf n)

end Text

namespace CharSet

def foldWith (all : List (Nat × Nat)) (s : CharSet) : CharSet :=
  let folds := (all.filter fun p => inRanges p.1 s.ranges).map (·.2)
  let folds := ofRanges (folds.map fun n => (n, n))
  (all.filter fun p => inRanges p.2 folds.ranges).foldl (fun s p => s.insert p.1 p.1) s

def anyCase (s : CharSet) : CharSet := s.foldWith Text.foldings

/-- Adds what differs from a member in case only, of the letters of ASCII. -/
def anyAsciiCase (s : CharSet) : CharSet :=
  s.foldWith ((List.range 26).flatMap fun i => [(0x41 + i, 0x61 + i), (0x61 + i, 0x61 + i)])

end CharSet

end SerialNovel
