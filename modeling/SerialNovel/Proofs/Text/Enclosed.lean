import SerialNovel.Text.Search

namespace SerialNovel.Text

variable {mark opening closing t a b content : Text}

/-- Where `mark` follows a stretch, it stands nowhere before. -/
def Reaches (mark stretch : Text) : Prop := ¬ mark <:+: stretch ++ mark.dropLast

def Enclosable (closing content : Text) : Prop := '\n' ∉ content ∧ Reaches closing content

theorem reaches_nil (hm : mark ≠ []) : Reaches mark [] := by
  intro h
  have hl := h.length_le
  have hp := List.length_pos_iff.2 hm
  rw [List.nil_append, List.length_dropLast] at hl
  omega

theorem append_dropLast_isPrefix (a mark b : Text) : a ++ mark.dropLast <+: a ++ (mark ++ b) :=
  (List.prefix_append_right_inj a).2 ((List.dropLast_prefix mark).trans (List.prefix_append mark b))

theorem eq_nil_of_reaches (hr : Reaches mark a) (hp : mark <+: a ++ (mark ++ b)) : a = [] := by
  refine Decidable.byContradiction fun hne => ?_
  have hl : mark.length ≤ (a ++ mark.dropLast).length := by
    have := List.length_pos_iff.2 hne
    rw [List.length_append, List.length_dropLast]
    omega
  have hx := List.prefix_of_prefix_length_le hp (append_dropLast_isPrefix a mark b) hl
  exact hr hx.isInfix

theorem reaches_cons {c : Char} :
    Reaches mark (c :: a) ↔ ¬ mark <+: c :: (a ++ mark.dropLast) ∧ Reaches mark a := by
  rw [Reaches, List.cons_append, List.infix_cons_iff, not_or]
  rfl

theorem Reaches.not_isInfix (h : Reaches mark a) : ¬ mark <:+: a :=
  fun hi => h (hi.trans (List.prefix_append a mark.dropLast).isInfix)

theorem Reaches.right (h : Reaches mark (a ++ b)) : Reaches mark b := by
  intro hi
  apply h
  rw [List.append_assoc]
  exact hi.trans (List.suffix_append a _).isInfix

theorem cut?_eq_some (hm : mark ≠ []) :
    cut? mark t = some (a, b) ↔ t = a ++ (mark ++ b) ∧ Reaches mark a := by
  induction t generalizing a with
  | nil =>
    obtain ⟨m, mark, rfl⟩ := List.exists_cons_of_ne_nil hm
    simp [cut?, after?]
  | cons c t ih =>
    unfold cut?
    cases hs : after? mark (c :: t) with
    | some rest =>
      have he : c :: t = mark ++ rest := after?_eq_some.1 hs
      constructor
      · intro h
        obtain ⟨rfl, rfl⟩ := Prod.mk.inj (Option.some.inj h)
        exact ⟨he, reaches_nil hm⟩
      · rintro ⟨ht, hr⟩
        have hp : mark <+: a ++ (mark ++ b) := by
          rw [← ht, he]
          exact List.prefix_append mark rest
        obtain rfl := eq_nil_of_reaches hr hp
        have hb : rest = b := List.append_cancel_left (he.symm.trans ht)
        rw [hb]
    | none =>
      have hn : ¬ mark <+: c :: t := by
        rintro ⟨rest, hr⟩
        rw [after?_eq_some.2 hr.symm] at hs
        simp at hs
      simp only [Option.map_eq_some_iff, Prod.exists, Prod.mk.injEq]
      constructor
      · rintro ⟨a', b', h, rfl, rfl⟩
        obtain ⟨rfl, hr⟩ := ih.1 h
        refine ⟨rfl, reaches_cons.2 ⟨fun hp => hn ?_, hr⟩⟩
        exact hp.trans (append_dropLast_isPrefix (c :: a') mark b')
      · rintro ⟨ht, hr⟩
        cases a with
        | nil => exact absurd (ht ▸ List.prefix_append mark b) hn
        | cons d a =>
          rw [List.cons_append, List.cons.injEq] at ht
          obtain ⟨rfl, htail⟩ := ht
          exact ⟨a, b, ih.2 ⟨htail, (reaches_cons.1 hr).2⟩, rfl, rfl⟩

theorem cut?_eq_none : cut? mark t = none ↔ ¬ mark <:+: t := by
  rw [← contains_iff, contains, Bool.not_eq_true, Option.isSome_eq_false_iff, Option.isNone_iff_eq_none]

/-- A mark at the start of a text comes before another that it has no character of. -/
theorem exists_of_append_eq_append {m n : Text} (hn : n ≠ []) (hd : ∀ c ∈ m, c ∉ n)
    (h : m ++ a = t ++ (n ++ b)) : ∃ w, t = m ++ w ∧ a = w ++ (n ++ b) := by
  rcases List.append_eq_append_iff.1 h with ⟨w, rfl, ha⟩ | ⟨w, rfl, hw⟩
  · exact ⟨w, rfl, ha⟩
  · cases w with
    | nil => exact ⟨[], by simp, by simpa using hw.symm⟩
    | cons c w =>
      obtain ⟨d, n, rfl⟩ := List.exists_cons_of_ne_nil hn
      obtain rfl : d = c := (List.cons.inj hw).1
      exact absurd List.mem_cons_self (hd d (by simp))

theorem enclosed?_eq_some (hc : closing ≠ []) :
    enclosed? opening closing t = some content ↔
      Enclosable closing content ∧ opening ++ content ++ closing <+: t := by
  constructor
  · intro h
    obtain ⟨rest, hr, h⟩ := Option.bind_eq_some_iff.1 h
    obtain ⟨⟨c, after⟩, hx, h⟩ := Option.bind_eq_some_iff.1 h
    dsimp only at h
    split at h
    · simp at h
    · rename_i hl
      obtain rfl := Option.some.inj h
      obtain ⟨rfl, hn⟩ := (cut?_eq_some hc).1 hx
      rw [after?_eq_some.1 hr]
      exact ⟨⟨hl, hn⟩, after, by simp⟩
  · rintro ⟨⟨hl, hn⟩, after, rfl⟩
    have hr : after? opening (opening ++ content ++ closing ++ after) =
        some (content ++ (closing ++ after)) := after?_eq_some.2 (by simp)
    have hx : cut? closing (content ++ (closing ++ after)) = some (content, after) :=
      (cut?_eq_some hc).2 ⟨rfl, hn⟩
    simp only [enclosed?, hr, hx, Option.bind_eq_bind, Option.bind_some, if_neg hl]

theorem exists_enclosed? (hl : '\n' ∉ t) (hc : closing <:+: t) :
    ∃ content, enclosed? opening closing (opening ++ t) = some content := by
  have hr : after? opening (opening ++ t) = some t := after?_eq_some.2 rfl
  obtain ⟨⟨a, b⟩, hx⟩ := Option.isSome_iff_exists.1 (contains_iff.2 hc)
  have hn : '\n' ∉ a := by
    intro hm
    apply hl
    rw [append_of_cut? hx]
    simp [hm]
  refine ⟨a, ?_⟩
  simp only [enclosed?, hr, hx, Option.bind_eq_bind, Option.bind_some, if_neg hn]

theorem exists_enclosable (hc : closing ≠ []) (hn : '\n' ∉ closing) (hl : '\n' ∉ content) :
    ∃ inner, Enclosable closing inner ∧
      opening ++ inner ++ closing <+: opening ++ content ++ closing := by
  have hline : '\n' ∉ content ++ closing := by simp [hl, hn]
  obtain ⟨inner, h⟩ : ∃ inner,
      enclosed? opening closing (opening ++ (content ++ closing)) = some inner :=
    exists_enclosed? hline (List.suffix_append content closing).isInfix
  rw [← List.append_assoc] at h
  exact ⟨inner, (enclosed?_eq_some hc).1 h⟩

end SerialNovel.Text
