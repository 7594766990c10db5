import SerialNovel.Markup.Paragraph
import Mathlib.Data.List.Basic

namespace SerialNovel

theorem Text.newline_notMem_of_mem_lines {t l : Text} (h : l ∈ lines t) : '\n' ∉ l := by
  induction t generalizing l with
  | nil => simp [lines] at h
  | cons c t ih =>
    unfold lines at h
    split at h
    · rcases List.mem_cons.1 h with rfl | h
      · exact List.not_mem_nil
      · exact ih h
    · rename_i hc
      -- a character other than a line feed is put at the start of the first line
      have cons {m : Text} (hm : '\n' ∉ m) : '\n' ∉ c :: m := by
        simp [hm, Ne.symm hc]
      cases hl : lines t with
      | nil =>
        rw [hl] at h
        rw [List.mem_singleton.1 h]
        exact cons List.not_mem_nil
      | cons m ms =>
        rw [hl] at h ih
        rcases List.mem_cons.1 h with rfl | h
        · exact cons (ih List.mem_cons_self)
        · exact ih (List.mem_cons_of_mem _ h)

namespace Paragraph

variable {mark before after l rest : Text} {ls : List Text}

/-- A mark stands on one side of a boundary if no character at the boundary is one of its own. -/
theorem stands_of_append (hb : (∀ c ∈ l.getLast?, c ∉ mark) ∨ ∀ c ∈ rest.head?, c ∉ mark)
    (h : l ++ rest = before ++ (mark ++ after)) :
    (∃ b, l = before ++ (mark ++ b) ∧ after = b ++ rest) ∨ ∃ a, rest = a ++ (mark ++ after) := by
  rcases List.append_eq_append_iff.1 h with ⟨a, -, hr⟩ | ⟨y, hl, hm⟩
  · exact .inr ⟨a, hr⟩
  · rcases List.append_eq_append_iff.1 hm with ⟨z, hz, ha⟩ | ⟨z, hz, hr⟩
    · exact .inl ⟨z, by rw [hl, hz], ha⟩
    · -- `y` at the end of the line and `z` after the boundary make up the mark
      rcases List.eq_nil_or_concat y with rfl | ⟨init, c, rfl⟩
      · exact .inr ⟨[], by rw [hr, hz]; rfl⟩
      · cases z with
        | nil => exact .inl ⟨[], by simp [hl, hz], by simp [hr]⟩
        | cons d z =>
          have hc : c ∈ mark := by simp [hz]
          have hd : d ∈ mark := by simp [hz]
          rcases hb with hb | hb
          · exact absurd hc (hb c (by simp [hl]))
          · exact absurd hd (hb d (by simp [hr]))

theorem join_cons_cons (l m : Text) (ls : List Text) :
    join (l :: m :: ls) = l ++ (gap l.getLast? m.head? ++ join (m :: ls)) := by
  simp [join, joinAfter]

/-- No mark without spaces and ideographs crosses the boundary between two lines. -/
theorem notMem_boundary (h : ∀ c ∈ mark, c ≠ ' ' ∧ isCjk c = false) (l m : Text)
    (ls : List Text) :
    (∀ c ∈ l.getLast?, c ∉ mark) ∨
      ∀ c ∈ (gap l.getLast? m.head? ++ join (m :: ls)).head?, c ∉ mark := by
  unfold gap
  split
  · rename_i ht
    rcases Bool.or_eq_true_iff.1 ht with ht | ht
    · left
      intro c hc hm
      simp [Option.mem_def.1 hc, (h c hm).2] at ht
    · right
      intro c hc hm
      cases m with
      | nil => simp at ht
      | cons d m =>
        obtain rfl : d = c := by simpa [join] using hc
        simp [(h d hm).2] at ht
  · right
    intro c hc hm
    obtain rfl : ' ' = c := by simpa using hc
    exact (h _ hm).1 rfl

theorem exists_mem_of_join (hm : mark ≠ []) (h : ∀ c ∈ mark, c ≠ ' ' ∧ isCjk c = false)
    (hj : join ls = before ++ (mark ++ after)) :
    ∃ l ∈ ls, ∃ a b rest, l = a ++ (mark ++ b) ∧ after = b ++ rest := by
  induction ls generalizing before with
  | nil => simp [join, hm] at hj
  | cons l ls ih =>
    cases ls with
    | nil =>
      have hl : l = before ++ (mark ++ after) := by simpa [join, joinAfter] using hj
      exact ⟨l, List.mem_cons_self, before, after, [], hl, (List.append_nil after).symm⟩
    | cons m ls =>
      rw [join_cons_cons] at hj
      rcases stands_of_append (notMem_boundary h l m ls) hj with ⟨b, hl, ha⟩ | ⟨a, hr⟩
      · exact ⟨l, List.mem_cons_self, before, b, _, hl, ha⟩
      · -- the space between the lines is no character of the mark
        have hg : ∃ a', join (m :: ls) = a' ++ (mark ++ after) := by
          unfold gap at hr
          split at hr
          · exact ⟨a, hr⟩
          · cases a with
            | nil =>
              obtain ⟨c, s, hs⟩ := List.exists_cons_of_ne_nil hm
              rw [hs] at hr
              obtain rfl : ' ' = c := (List.cons.inj hr).1
              exact absurd rfl (h ' ' (by simp [hs])).1
            | cons c a => exact ⟨a, (List.cons.inj hr).2⟩
        obtain ⟨a', hg⟩ := hg
        obtain ⟨k, hk, hx⟩ := ih hg
        exact ⟨k, List.mem_cons_of_mem _ hk, hx⟩

theorem newline_notMem_join (h : ∀ l ∈ ls, '\n' ∉ l) : '\n' ∉ join ls := by
  intro hm
  obtain ⟨before, after, hj⟩ := List.append_of_mem hm
  have hc : ∀ c ∈ ['\n'], c ≠ ' ' ∧ isCjk c = false := by
    intro c hx
    rw [List.mem_singleton.1 hx]
    decide
  obtain ⟨l, hl, a, b, -, he, -⟩ := exists_mem_of_join (by simp) hc hj
  exact h l hl (by simp [he])

end Paragraph

end SerialNovel
