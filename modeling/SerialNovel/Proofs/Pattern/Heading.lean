import SerialNovel.Proofs.Pattern.Compile
import Mathlib.Data.List.Basic

namespace SerialNovel

def CharSet.points (cs : List Char) : CharSet := ⟨cs.map fun c => (c.toNat, c.toNat)⟩

theorem CharSet.mem_points {cs : List Char} (h : cs.Pairwise (· < ·)) (x : Char) :
    (points cs).mem x = true ↔ x ∈ cs := by
  induction cs with
  | nil => simp [points, mem, inRanges]
  | cons c cs ih =>
    obtain ⟨hc, hcs⟩ := List.pairwise_cons.1 h
    have step : (points (c :: cs)).mem x =
        if x.toNat < c.toNat then false else decide (x.toNat ≤ c.toNat) || (points cs).mem x := rfl
    rw [step, List.mem_cons]
    split
    · rename_i hx
      have hne : x ≠ c := by
        rintro rfl
        exact Nat.lt_irrefl _ hx
      have hnot : x ∉ cs := fun hm => Nat.lt_asymm hx (hc x hm)
      simp [hne, hnot]
    · rename_i hx
      rw [Bool.or_eq_true, ih hcs, decide_eq_true_eq, ← Char.toNat_inj]
      exact or_congr_left ⟨fun hle => Nat.le_antisymm hle (Nat.not_lt.1 hx), Nat.le_of_eq⟩

namespace Pattern

/-- One of some names at the start of a text, then a mark. -/
def heading (names : List Text) (marks : List Char) : Pattern :=
  seq (anchor .textStart) (seq (group 1 (ofBranches (names.map literal))) (oneOf (.points marks)))

variable {names : List Text} {marks : List Char} {name t : Text} {k k' : Cursor}
  {m m' : List (Nat × Nat)}

theorem isPlain_ofBranches (names : List Text) : (ofBranches (names.map literal)).IsPlain := by
  induction names with
  | nil => trivial
  | cons name names ih =>
    cases names with
    | nil => trivial
    | cons name' names => exact ⟨trivial, ih⟩

theorem isPlain_heading (names : List Text) (marks : List Char) : (heading names marks).IsPlain :=
  ⟨trivial, isPlain_ofBranches names, trivial⟩

theorem matches_literal :
    (literal name).Matches k m k' m' ↔
      ∃ rest, k.rest = name ++ rest ∧ k' = k.past name rest ∧ m' = m := by
  constructor
  · intro h
    cases h with
    | literal hk => exact ⟨_, hk, rfl, rfl⟩
  · rintro ⟨rest, hk, rfl, rfl⟩
    exact .literal hk

theorem matches_ofBranches :
    (ofBranches (names.map literal)).Matches k m k' m' ↔
      ∃ name ∈ names, ∃ rest, k.rest = name ++ rest ∧ k' = k.past name rest ∧ m' = m := by
  induction names with
  | nil =>
    constructor
    · intro h
      cases h with
      | oneOf _ hx => simp at hx
    · simp
  | cons name names ih =>
    cases names with
    | nil =>
      simp only [List.mem_singleton, exists_eq_left]
      exact matches_literal
    | cons name' names =>
      rw [List.exists_mem_cons_iff, ← ih, ← matches_literal]
      constructor
      · intro h
        cases h with
        | first h => exact .inl h
        | second h => exact .inr h
      · rintro (h | h)
        · exact .first h
        · exact .second h

theorem heading_finds (hs : marks.Pairwise (· < ·)) :
    (heading names marks).program.Finds (.ofText t) m ↔
      ∃ name ∈ names, ∃ c ∈ marks, ∃ rest, t = name ++ c :: rest ∧
        m = [(endMark 0, name.length + 1), (endMark 1, name.length), (startMark 1, 0),
          (startMark 0, 0)] := by
  rw [heading, anchored_finds (isPlain_heading names marks)]
  constructor
  · rintro ⟨k', h⟩
    cases h with
    | group h =>
    cases h with
    | seq ha h =>
    cases ha with
    | anchor ha =>
    cases h with
    | seq hg hc =>
    cases hg with
    | group hg =>
    obtain ⟨name, hn, rest, ht, rfl, rfl⟩ := matches_ofBranches.1 hg
    cases hc with
    | oneOf hk hc =>
    obtain rfl : rest = _ :: _ := hk
    refine ⟨name, hn, _, (CharSet.mem_points hs _).1 hc, _, ht, ?_⟩
    simp [Cursor.past, Cursor.ofText]
  · rintro ⟨name, hn, c, hc, rest, rfl, rfl⟩
    let k := Cursor.ofText (name ++ c :: rest)
    let k' := k.past name (c :: rest)
    have hg (m) : (ofBranches (names.map literal)).Matches k m k' m :=
      matches_ofBranches.2 ⟨name, hn, c :: rest, rfl, rfl, rfl⟩
    have hc (m) : (oneOf (.points marks)).Matches k' m (k'.past [c] rest) m :=
      .oneOf rfl ((CharSet.mem_points hs c).2 hc)
    refine ⟨k'.past [c] rest, ?_⟩
    simpa [k, k', Cursor.past, Cursor.ofText] using
      Matches.group (.seq (.anchor rfl) (.seq (.group (hg _)) (hc _)))

theorem of_heading_search? (hs : marks.Pairwise (· < ·)) {found : Found}
    (h : (heading names marks).program.search? t = some found) :
    ∃ name ∈ names, (∃ c ∈ marks, name ++ [c] <+: t) ∧ found.group? 1 = some name := by
  obtain ⟨hsource, f⟩ := Program.finds_of_search? h
  obtain ⟨name, hn, c, hc, rest, rfl, hm⟩ := (heading_finds hs).1 f
  refine ⟨name, hn, ⟨c, hc, rest, by simp⟩, ?_⟩
  have hg : found.group? 1 = some (((name ++ c :: rest).drop 0).take (name.length - 0)) := by
    rw [Found.group?, hm, hsource]
    rfl
  simpa using hg

theorem isSome_heading_search? (hs : marks.Pairwise (· < ·)) :
    ((heading names marks).program.search? t).isSome = true ↔
      ∃ name ∈ names, ∃ c ∈ marks, name ++ [c] <+: t := by
  rw [Program.isSome_search?_iff]
  constructor
  · rintro ⟨m, f⟩
    obtain ⟨name, hn, c, hc, rest, rfl, -⟩ := (heading_finds hs).1 f
    exact ⟨name, hn, c, hc, rest, by simp⟩
  · rintro ⟨name, hn, c, hc, rest, rfl⟩
    exact ⟨_, (heading_finds hs).2 ⟨name, hn, c, hc, rest, by simp, rfl⟩⟩

end Pattern

end SerialNovel
