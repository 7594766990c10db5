import SerialNovel.Proofs.Script.Speech

namespace SerialNovel.Quotes

/-- An opening quote with the closing quote that it needs. -/
inductive Mates : Char → Char → Prop
  | curly : Mates '“' '”'
  | straight : Mates '"' '"'
  | corner : Mates '「' '」'

/-- A text in a pair of quotes, which are two of its characters: a lone straight quote is in none. -/
def Quoted (t : Text) : Prop := ∃ a b inner, Mates a b ∧ t = a :: (inner ++ [b])

/-- A text that is `core` with white space on its sides and in `n` pairs of quotes, in any order. -/
inductive Wrapped (core : Text) : Nat → Text → Prop
  | core : Wrapped core 0 core
  | blank {n : Nat} {t v w : Text} (h : Wrapped core n t) (hv : ∀ c ∈ v, Text.isBlank c)
      (hw : ∀ c ∈ w, Text.isBlank c) : Wrapped core n (v ++ (t ++ w))
  | pair {n : Nat} {t : Text} {a b : Char} (h : Wrapped core n t) (hm : Mates a b) :
      Wrapped core (n + 1) (a :: (t ++ [b]))

/-- Quotes come off a text in `n` rounds, each with white space, and off `r` that is left none do. -/
inductive Rounds (r : Text) : Nat → Text → Prop
  | done (h : within? r = none) : Rounds r 0 r
  | round {n : Nat} {t inner : Text} (h : within? t = some inner)
      (hr : Rounds r n (Text.trim inner)) : Rounds r (n + 1) t

variable {n : Nat} {t r inner : Text} {a b : Char}

theorem mates_iff : Mates a b ↔ (a, b) ∈ pairs := by
  constructor
  · rintro (_ | _ | _) <;> simp [pairs]
  · intro h
    rcases mem_pairs.1 h with h | h | h
    · obtain ⟨rfl, rfl⟩ := Prod.mk.inj h
      exact .curly
    · obtain ⟨rfl, rfl⟩ := Prod.mk.inj h
      exact .straight
    · obtain ⟨rfl, rfl⟩ := Prod.mk.inj h
      exact .corner

/-- No two kinds of quotes open alike, so a text is in one pair of quotes at most. -/
theorem within?_eq_some : within? t = some inner ↔ ∃ a b, Mates a b ∧ t = a :: (inner ++ [b]) := by
  constructor
  · intro h
    obtain ⟨p, hp, ht⟩ := exists_of_within? h
    exact ⟨p.1, p.2, mates_iff.2 hp, ht⟩
  · rintro ⟨a, b, hm, rfl⟩
    have hb (c : Char) : Text.before? [c] (inner ++ [c]) = some inner := Text.before?_eq_some.2 rfl
    cases hm with
    | curly => simp [within?, pairs, Text.after?, hb]
    | straight => simp [within?, pairs, Text.after?, hb]
    | corner => simp [within?, pairs, Text.after?, hb]

theorem within?_eq_none : within? t = none ↔ ¬ Quoted t := by
  simp only [Option.eq_none_iff_forall_ne_some, ne_eq, within?_eq_some, Quoted]
  exact ⟨fun h ⟨a, b, inner, hq⟩ => h inner ⟨a, b, hq⟩,
    fun h inner ⟨a, b, hq⟩ => h ⟨a, b, inner, hq⟩⟩

theorem Mates.trimmed (hm : Mates a b) (inner : Text) : Text.Trimmed (a :: (inner ++ [b])) := by
  have h : Text.isBlank a = false ∧ Text.isBlank b = false := by
    cases hm with
    | curly => decide
    | straight => decide
    | corner => decide
  constructor
  · simpa using h.1
  · rw [← List.cons_append, List.getLast?_concat]
    simpa using h.2

theorem exists_rounds (t : Text) : ∃ n, Rounds (peel t) n t := by
  fun_induction peel t with
  | case1 t h => exact ⟨0, .done h⟩
  | case2 t inner h ih =>
    obtain ⟨n, hn⟩ := ih
    exact ⟨n + 1, .round h hn⟩

theorem peel_of_none (h : within? t = none) : peel t = t := by
  rw [peel]
  split
  · rfl
  · simp_all

theorem peel_of_some (h : within? t = some inner) : peel t = peel (Text.trim inner) := by
  rw [peel]
  split
  · simp_all
  · simp_all

theorem Rounds.peel_eq (h : Rounds r n t) : peel t = r := by
  induction h with
  | done h => exact peel_of_none h
  | round h _ ih => rw [peel_of_some h, ih]

theorem Wrapped.length_le (h : Wrapped r n t) : 2 * n + r.length ≤ t.length := by
  induction h with
  | core => omega
  | blank _ _ _ ih =>
    rw [List.length_append, List.length_append]
    omega
  | pair _ _ ih =>
    rw [List.length_cons, List.length_append, List.length_singleton]
    omega

theorem Wrapped.of_trim (h : Wrapped r n (Text.trim t)) : Wrapped r n t := by
  obtain ⟨v, w, ht, hb⟩ := Text.exists_eq_trim t
  obtain ⟨hv, hw⟩ := List.forall_mem_append.1 hb
  rw [ht]
  exact h.blank hv hw

theorem Rounds.wrapped (h : Rounds r n t) : Wrapped r n t := by
  induction h with
  | done => exact .core
  | round h _ ih =>
    obtain ⟨a, b, hm, rfl⟩ := within?_eq_some.1 h
    exact ih.of_trim.pair hm

theorem Rounds.not_quoted (h : Rounds r n t) : ¬ Quoted r := by
  induction h with
  | done h => exact within?_eq_none.1 h
  | round _ _ ih => exact ih

theorem Rounds.trimmed (h : Rounds r n t) (ht : Text.Trimmed t) : Text.Trimmed r := by
  induction h with
  | done => exact ht
  | round _ _ ih => exact ih (Text.trimmed_trim _)

theorem Wrapped.rounds (h : Wrapped r n t) (ht : Text.Trimmed r) (hq : ¬ Quoted r) :
    Rounds r n (Text.trim t) := by
  induction h with
  | core =>
    rw [ht.trim_eq]
    exact .done (within?_eq_none.2 hq)
  | blank _ hv hw ih => rwa [Text.trim_append_left hv, Text.trim_append_right hw]
  | pair _ hm ih =>
    rw [(hm.trimmed _).trim_eq]
    exact .round (within?_eq_some.2 ⟨_, _, hm, rfl⟩) ih

/-- What is left is told by the text alone, without the rounds. -/
theorem strip_eq_iff :
    strip t = r ↔ ∃ n, Wrapped r n t ∧ Text.Trimmed r ∧ ¬ Quoted r := by
  constructor
  · rintro rfl
    obtain ⟨n, h⟩ := exists_rounds (Text.trim t)
    exact ⟨n, h.wrapped.of_trim, h.trimmed (Text.trimmed_trim t), h.not_quoted⟩
  · rintro ⟨n, h, ht, hq⟩
    exact (h.rounds ht hq).peel_eq

/-- The quotes of every text come off in a number of rounds that its length bounds. No white space is
left around the rest, nor a pair of quotes, and stripped again it stays as it is. -/
theorem strip_reaches_fixpoint (t : Text) :
    (∃ n, 2 * n + (strip t).length ≤ t.length ∧ Rounds (strip t) n (Text.trim t) ∧
      Wrapped (strip t) n t) ∧
    Text.Trimmed (strip t) ∧ ¬ Quoted (strip t) ∧ strip (strip t) = strip t := by
  obtain ⟨n, hw, ht, hq⟩ := strip_eq_iff.1 (rfl : strip t = strip t)
  have hfix : strip (strip t) = strip t := strip_eq_iff.2 ⟨0, .core, ht, hq⟩
  exact ⟨⟨n, hw.length_le, hw.rounds ht hq, hw⟩, ht, hq, hfix⟩

/-- A straight quote both opens and closes, but not alone. -/
example : strip " “ 「\"」 ” ".toList = ['"'] := by decide +kernel

end SerialNovel.Quotes
