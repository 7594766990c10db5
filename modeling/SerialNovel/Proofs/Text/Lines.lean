import SerialNovel.Text.Basic

namespace SerialNovel.Text

theorem lines_cons {c : Char} (hc : c ≠ '\n') (t : Text) :
    lines (c :: t) = (c :: (lines t).headD []) :: (lines t).tail := by
  rw [lines, if_neg hc]
  cases lines t <;> rfl

theorem lines_ne_nil {t : Text} (ht : t ≠ []) : lines t ≠ [] := by
  cases t with
  | nil => contradiction
  | cons c t =>
    by_cases hc : c = '\n'
    · simp [hc, lines_newline]
    · simp [lines_cons hc]

theorem lines_append_newline_cons (a b : Text) :
    lines (a ++ '\n' :: b) = lines (a ++ ['\n']) ++ lines b := by
  induction a with
  | nil => simp [lines_newline, lines]
  | cons c a ih =>
    by_cases hc : c = '\n'
    · simp [hc, lines_newline, ih]
    · -- the first line takes one more character, and there is one before `b` begins
      have hne : lines (a ++ ['\n']) ≠ [] := lines_ne_nil (by simp)
      obtain ⟨l, ls, hl⟩ := List.exists_cons_of_ne_nil hne
      simp [lines_cons hc, ih, hl]

/-- A line reaches up to a line feed, or up to the end of the text if it is not empty. -/
theorem lines_append_of_notMem {l after : Text} (hl : '\n' ∉ l)
    (ha : after.head? = some '\n' ∨ after = [] ∧ l ≠ []) :
    lines (l ++ after) = l :: lines after.tail := by
  induction l with
  | nil =>
    obtain ⟨t, rfl⟩ := List.head?_eq_some_iff.1 (ha.resolve_right fun h => h.2 rfl)
    exact lines_newline t
  | cons c l ih =>
    obtain ⟨hc, hl⟩ : '\n' ≠ c ∧ '\n' ∉ l := by simpa using hl
    rw [List.cons_append, lines_cons hc.symm]
    -- the last line of a text without a line feed ends with its last character
    by_cases hn : after = [] ∧ l = []
    · obtain ⟨rfl, rfl⟩ := hn
      rfl
    · have ha : after.head? = some '\n' ∨ after = [] ∧ l ≠ [] :=
        ha.imp_right fun h => ⟨h.1, fun hl => hn ⟨h.1, hl⟩⟩
      rw [ih hl ha]
      rfl

theorem lines_append_newline (a : Text) :
    lines (a ++ ['\n']) = lines a ∨ lines (a ++ ['\n']) = lines a ++ [[]] := by
  induction a with
  | nil => exact .inr rfl
  | cons c a ih =>
    by_cases hc : c = '\n'
    · subst hc
      simpa [lines_newline] using ih
    · rw [List.cons_append, lines_cons hc, lines_cons hc]
      rcases ih with ih | ih
      · exact .inl (by rw [ih])
      · cases hl : lines a with
        | nil => exact .inl (by simp [ih, hl])
        | cons l ls => exact .inr (by simp [ih, hl])

theorem lines_append_final {t : Text} (ht : t ≠ []) (hl : t.getLast? ≠ some '\n') :
    lines (t ++ ['\n']) = lines t := by
  induction t with
  | nil => contradiction
  | cons c t ih =>
    by_cases hc : c = '\n'
    · have ht : t ≠ [] := by
        rintro rfl
        exact hl (by rw [hc]; rfl)
      rw [List.getLast?_cons_of_ne_nil ht] at hl
      rw [hc, List.cons_append, lines_newline, lines_newline, ih ht hl]
    · rw [List.cons_append, lines_cons hc, lines_cons hc]
      by_cases ht : t = []
      · rw [ht]
        rfl
      · rw [List.getLast?_cons_of_ne_nil ht] at hl
        rw [ih ht hl]

theorem exists_lines_append_gap (a : Text) :
    ∃ n, lines (a ++ "\n\n".toList) = lines a ++ List.replicate (n + 1) [] := by
  have hg : lines (a ++ "\n\n".toList) = lines (a ++ ['\n']) ++ [[]] :=
    lines_append_newline_cons a ['\n']
  rcases lines_append_newline a with h | h
  · exact ⟨0, by rw [hg, h]; rfl⟩
  · exact ⟨1, by rw [hg, h, List.append_assoc]; rfl⟩

theorem lines_append_gap (a b : Text) :
    lines (a ++ "\n\n".toList ++ b) = lines (a ++ "\n\n".toList) ++ lines b := by
  have h := lines_append_newline_cons (a ++ ['\n']) b
  simpa using h

end SerialNovel.Text
