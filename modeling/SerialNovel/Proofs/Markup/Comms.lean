import SerialNovel.Markup.Comms
import SerialNovel.Proofs.Text.Trim

namespace SerialNovel.Comms

variable {t before rest : Text} {c : Char} {start i : Nat}

/-- A channel's name in brackets and a colon after them, each of them plain or full-width. -/
def IsMark (mark : Text) : Prop :=
  ∃ opening ∈ ['（', '('], ∃ name ∈ channels, ∃ closing ∈ ['）', ')'], ∃ colon ∈ [':', '：'],
    mark = opening :: (name ++ [closing, colon])

/-- After `i` characters of a text stands a mark, and `rest` after the mark. -/
def MarkAt (t : Text) (i : Nat) (rest : Text) : Prop :=
  ∃ mark, IsMark mark ∧ t.drop i = mark ++ rest

/-- The first mark of a text after `start` characters or more. -/
structure FirstMark (start : Nat) (t : Text) (i : Nat) (rest : Text) : Prop where
  le : start ≤ i
  mark : MarkAt t i rest
  first : ∀ j, start ≤ j → j < i → ∀ r, ¬ MarkAt t j r

theorem afterOneOf?_eq_some {options : List Char} :
    afterOneOf? options t = some rest ↔ ∃ c ∈ options, t = c :: rest := by
  cases t with
  | nil => simp [afterOneOf?]
  | cons c t =>
    rw [afterOneOf?, Option.ite_none_right_eq_some]
    constructor
    · rintro ⟨hc, h⟩
      exact ⟨c, hc, by rw [Option.some.inj h]⟩
    · rintro ⟨d, hd, h⟩
      obtain ⟨rfl, rfl⟩ := List.cons.inj h
      exact ⟨hd, rfl⟩

theorem findSome?_channels :
    (channels.findSome? fun name => Text.after? name t) = some rest ↔
      ∃ name ∈ channels, t = name ++ rest := by
  constructor
  · intro h
    obtain ⟨name, hm, hn⟩ := List.exists_of_findSome?_eq_some h
    exact ⟨name, hm, Text.after?_eq_some.1 hn⟩
  · rintro ⟨name, hm, rfl⟩
    -- no name is read as another
    simp only [channels, List.mem_cons, List.not_mem_nil, or_false] at hm
    rcases hm with rfl | rfl | rfl
    · rfl
    · rfl
    · rfl

theorem afterMark?_eq_some : afterMark? t = some rest ↔ MarkAt t 0 rest := by
  simp only [afterMark?, Option.bind_eq_bind, Option.bind_eq_some_iff, afterOneOf?_eq_some,
    findSome?_channels]
  constructor
  · rintro ⟨-, ⟨opening, ho, rfl⟩, -, ⟨name, hn, rfl⟩, -, ⟨closing, hc, rfl⟩, colon, hd, rfl⟩
    exact ⟨_, ⟨opening, ho, name, hn, closing, hc, colon, hd, rfl⟩, by simp⟩
  · rintro ⟨-, ⟨opening, ho, name, hn, closing, hc, colon, hd, rfl⟩, rfl⟩
    exact ⟨_, ⟨opening, ho, rfl⟩, _, ⟨name, hn, by simp⟩, _, ⟨closing, hc, rfl⟩, colon, hd, rfl⟩

theorem not_markAt_nil : ¬ MarkAt [] i rest := by
  rintro ⟨-, ⟨opening, -, name, -, closing, -, colon, -, rfl⟩, h⟩
  simp at h

theorem MarkAt.isSuffix (h : MarkAt t i rest) : rest <:+ t := by
  obtain ⟨mark, -, h⟩ := h
  exact (List.suffix_append mark rest).trans (h ▸ List.drop_suffix i t)

theorem exists_firstMark (hs : start ≤ i) (h : MarkAt t i rest) :
    ∃ i rest, FirstMark start t i rest := by
  induction i using Nat.strongRecOn generalizing rest with
  | ind i ih =>
    by_cases hj : ∃ j, start ≤ j ∧ j < i ∧ ∃ r, MarkAt t j r
    · obtain ⟨j, hsj, hji, r, hr⟩ := hj
      exact ih j hji hsj hr
    · exact ⟨i, rest, hs, h, fun j hsj hji r hr => hj ⟨j, hsj, hji, r, hr⟩⟩

theorem FirstMark.cons (h : FirstMark 0 t i rest) : FirstMark 1 (c :: t) (i + 1) rest := by
  refine ⟨Nat.succ_le_succ h.le, h.mark, fun j hs hj => ?_⟩
  obtain ⟨k, rfl⟩ := Nat.exists_eq_succ_of_ne_zero (Nat.ne_zero_of_lt hs)
  exact h.first k (Nat.zero_le k) (Nat.lt_of_succ_lt_succ hj)

theorem FirstMark.of_cons (h : FirstMark 1 (c :: t) i rest) :
    ∃ k, i = k + 1 ∧ FirstMark 0 t k rest := by
  obtain ⟨k, rfl⟩ := Nat.exists_eq_succ_of_ne_zero (Nat.ne_zero_of_lt h.le)
  exact ⟨k, rfl, Nat.zero_le k, h.mark, fun j _ hj =>
    h.first (j + 1) (Nat.succ_le_succ (Nat.zero_le j)) (Nat.succ_lt_succ hj)⟩

theorem firstMark_of_markAt_zero {found : Text} (h : MarkAt t 0 found) :
    FirstMark 0 t i rest ↔ i = 0 ∧ rest = found := by
  constructor
  · intro hi
    obtain rfl : i = 0 := Nat.eq_zero_of_not_pos fun hpos => hi.first 0 (Nat.le_refl 0) hpos found h
    have he := (afterMark?_eq_some.2 hi.mark).symm.trans (afterMark?_eq_some.2 h)
    exact ⟨rfl, Option.some.inj he⟩
  · rintro ⟨rfl, rfl⟩
    exact ⟨Nat.le_refl 0, h, by simp⟩

theorem firstMark_of_not_markAt_zero (h : ∀ r, ¬ MarkAt t 0 r) :
    FirstMark 0 t i rest ↔ FirstMark 1 t i rest := by
  constructor
  · intro hi
    have hpos : i ≠ 0 := by
      rintro rfl
      exact h rest hi.mark
    exact ⟨Nat.pos_of_ne_zero hpos, hi.mark, fun j _ => hi.first j (Nat.zero_le j)⟩
  · intro hi
    refine ⟨Nat.zero_le i, hi.mark, fun j _ hj => ?_⟩
    cases j with
    | zero => exact h
    | succ j => exact hi.first (j + 1) (Nat.succ_le_succ (Nat.zero_le j)) hj

theorem cutMark?_eq_some (h : '\n' ∉ t) :
    cutMark? t = some (before, rest) ↔ ∃ i, FirstMark 0 t i rest ∧ before = t.take i := by
  induction t generalizing before with
  | nil =>
    simp only [cutMark?, reduceCtorEq, false_iff]
    rintro ⟨i, hi, -⟩
    exact not_markAt_nil hi.mark
  | cons c t ih =>
    obtain ⟨hc, ht⟩ : '\n' ≠ c ∧ '\n' ∉ t := by simpa using h
    unfold cutMark?
    cases hm : afterMark? (c :: t) with
    | some found =>
      simp only [firstMark_of_markAt_zero (afterMark?_eq_some.1 hm), Option.some.injEq,
        Prod.mk.injEq]
      constructor
      · rintro ⟨rfl, rfl⟩
        exact ⟨0, ⟨rfl, rfl⟩, rfl⟩
      · rintro ⟨-, ⟨rfl, rfl⟩, rfl⟩
        exact ⟨rfl, rfl⟩
    | none =>
      have hnone (r : Text) : ¬ MarkAt (c :: t) 0 r := fun hr => by
        simp [afterMark?_eq_some.2 hr] at hm
      simp only [firstMark_of_not_markAt_zero hnone, if_neg hc.symm, Option.map_eq_some_iff]
      constructor
      · rintro ⟨⟨init, found⟩, hp, he⟩
        obtain ⟨rfl, rfl⟩ := Prod.mk.inj he
        obtain ⟨i, hi, rfl⟩ := (ih ht).1 hp
        exact ⟨i + 1, hi.cons, rfl⟩
      · rintro ⟨i, hi, rfl⟩
        obtain ⟨k, rfl, hk⟩ := hi.of_cons
        exact ⟨(t.take k, rest), (ih ht).2 ⟨k, hk, rfl⟩, rfl⟩

/-- On one line a message is all that follows the mark. -/
theorem message_eq (h : '\n' ∉ rest) : message rest = Text.trim rest := by
  have ht : (Text.trimStart rest).takeWhile (· != '\n') = Text.trimStart rest := by
    rw [List.takeWhile_eq_self_iff]
    intro c hc
    have hne : c ≠ '\n' := by
      rintro rfl
      exact h ((Text.trimStart_isSuffix rest).subset hc)
    simpa using hne
  rw [message, ht, Text.trim_trimStart]

theorem ofParagraph?_eq_some {name text : Text} (h : '\n' ∉ t) :
    ofParagraph? t = some (name, text) ↔
      ∃ i rest, FirstMark 1 t i rest ∧ name = Text.trim (t.take i) ∧ text = Text.trim rest := by
  cases t with
  | nil =>
    simp only [ofParagraph?, reduceCtorEq, false_iff]
    rintro ⟨i, rest, hi, -⟩
    exact not_markAt_nil hi.mark
  | cons c t =>
    obtain ⟨hc, ht⟩ : '\n' ≠ c ∧ '\n' ∉ t := by simpa using h
    rw [ofParagraph?, if_neg hc.symm, Option.map_eq_some_iff]
    constructor
    · rintro ⟨⟨before, rest⟩, hp, he⟩
      obtain ⟨rfl, rfl⟩ := Prod.mk.inj he
      obtain ⟨i, hi, rfl⟩ := (cutMark?_eq_some ht).1 hp
      exact ⟨i + 1, rest, hi.cons, rfl, message_eq fun hm => ht (hi.mark.isSuffix.subset hm)⟩
    · rintro ⟨i, rest, hi, rfl, rfl⟩
      obtain ⟨k, rfl, hk⟩ := hi.of_cons
      refine ⟨(t.take k, rest), (cutMark?_eq_some ht).2 ⟨k, hk, rfl⟩, ?_⟩
      rw [message_eq fun hm => ht (hk.mark.isSuffix.subset hm)]
      rfl

/-- A paragraph on one line comes over a channel just if a mark stands in it after one character or
more. At the first such place it is cut: the speaker is the trimmed text before the mark and the
message the trimmed text after it, so that nothing is lost but the mark and white space. -/
theorem message_at_first_mark {p : Text} (h : '\n' ∉ p) :
    ((ofParagraph? p).isSome ↔ ∃ i rest, 1 ≤ i ∧ MarkAt p i rest) ∧
    (∀ i rest, FirstMark 1 p i rest →
      ofParagraph? p = some (Text.trim (p.take i), Text.trim rest)) ∧
    ∀ name text, ofParagraph? p = some (name, text) → ∃ a b mark c d,
      p = a ++ name ++ b ++ mark ++ c ++ text ++ d ∧ IsMark mark ∧
        ∀ x ∈ a ++ b ++ c ++ d, Text.isBlank x := by
  have hcut {i : Nat} {rest : Text} (hi : FirstMark 1 p i rest) :
      ofParagraph? p = some (Text.trim (p.take i), Text.trim rest) :=
    (ofParagraph?_eq_some h).2 ⟨i, rest, hi, rfl, rfl⟩
  refine ⟨⟨fun hs => ?_, ?_⟩, fun i rest => hcut, fun name text hp => ?_⟩
  · obtain ⟨⟨name, text⟩, hp⟩ := Option.isSome_iff_exists.1 hs
    obtain ⟨i, rest, hi, -⟩ := (ofParagraph?_eq_some h).1 hp
    exact ⟨i, rest, hi.le, hi.mark⟩
  · rintro ⟨i, rest, hi, hm⟩
    obtain ⟨j, found, hj⟩ := exists_firstMark hi hm
    rw [hcut hj]
    rfl
  · obtain ⟨i, rest, hi, rfl, rfl⟩ := (ofParagraph?_eq_some h).1 hp
    obtain ⟨mark, hmark, hd⟩ := hi.mark
    obtain ⟨a, b, hab, hblank⟩ := Text.exists_eq_trim (p.take i)
    obtain ⟨c, d, hcd, hblank'⟩ := Text.exists_eq_trim rest
    refine ⟨a, b, mark, c, d, ?_, hmark, ?_⟩
    · calc p = p.take i ++ p.drop i := (List.take_append_drop i p).symm
        _ = a ++ (Text.trim (p.take i) ++ b) ++ (mark ++ (c ++ (Text.trim rest ++ d))) := by
          rw [← hab, ← hcd, ← hd]
        _ = _ := by simp only [List.append_assoc]
    · intro x hx
      simp only [List.mem_append] at hx hblank hblank'
      rcases hx with ((hx | hx) | hx) | hx
      · exact hblank x (.inl hx)
      · exact hblank x (.inr hx)
      · exact hblank' x (.inl hx)
      · exact hblank' x (.inr hx)

/-- A mark at the start counts as the speaker's name, and only the first of the other two cuts. -/
theorem message_at_first_mark_of_three :
    let p := "(通信頻道): （通信频道):　hi (通信頻道）： ".toList
    let rest := "　hi (通信頻道）： ".toList
    '\n' ∉ p ∧ FirstMark 1 p 8 rest ∧
      ofParagraph? p = some ("(通信頻道):".toList, "hi (通信頻道）：".toList) := by
  intro p rest
  have h : '\n' ∉ p := by decide
  have hm : MarkAt p 8 rest :=
    ⟨"（通信频道):".toList, ⟨'（', by decide, "通信频道".toList, by decide, ')', by decide, ':', by decide,
      by decide⟩, by decide⟩
  have hnone : ∀ j < 8, 1 ≤ j → afterMark? (p.drop j) = none := by decide
  have hf : FirstMark 1 p 8 rest := by
    refine ⟨by decide, hm, fun j hj hlt r hr => ?_⟩
    have hsome : afterMark? (p.drop j) = some r := afterMark?_eq_some.2 hr
    simp [hnone j hlt hj] at hsome
  have hname : Text.trim (p.take 8) = "(通信頻道):".toList := by decide
  have htext : Text.trim rest = "hi (通信頻道）：".toList := by decide
  exact ⟨h, hf, hname ▸ htext ▸ (message_at_first_mark h).2.1 8 rest hf⟩

end SerialNovel.Comms
