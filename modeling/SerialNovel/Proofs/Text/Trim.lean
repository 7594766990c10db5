import SerialNovel.Text.Basic
import Mathlib.Data.List.TakeWhile

namespace SerialNovel.Text

section

variable {c d : Char}

theorem toNat_of_isBlank (h : isBlank c) : c.toNat < 0x21 ∨ 0x7E < c.toNat := by
  simp [isBlank] at h
  omega

theorem ne_of_isBlank (h : isBlank c) (hd : isBlank d = false) : c ≠ d := by
  rintro rfl
  simp [h] at hd

theorem isDigit_of_isBlank (h : isBlank c) : c.isDigit = false := by
  have := toNat_of_isBlank h
  simp [Char.isDigit, UInt32.le_iff_toNat_le]
  omega

end

theorem trim_eq_nil_iff {t : Text} : trim t = [] ↔ ∀ c ∈ t, isBlank c := by
  have htrim : trim t = [] ↔ ∀ c ∈ trimStart t, isBlank c := by
    simp [trim, trimEnd, List.dropWhile_eq_nil_iff]
  refine htrim.trans ⟨fun h c hc => ?_, fun h c hc => h c ((List.dropWhile_sublist _).subset hc)⟩
  rw [← List.takeWhile_append_dropWhile (p := isBlank) (l := t)] at hc
  exact (List.mem_append.1 hc).elim List.mem_takeWhile_imp (h c)

theorem trimStart_isSuffix (t : Text) : trimStart t <:+ t := List.dropWhile_suffix _

theorem trimEnd_isPrefix (t : Text) : trimEnd t <+: t := by
  have h : trimStart t.reverse <:+ t.reverse := trimStart_isSuffix t.reverse
  rwa [← List.reverse_prefix, List.reverse_reverse] at h

theorem exists_eq_trim (t : Text) : ∃ a b, t = a ++ (trim t ++ b) ∧ ∀ c ∈ a ++ b, isBlank c := by
  refine ⟨t.takeWhile isBlank, ((trimStart t).reverse.takeWhile isBlank).reverse, ?_, ?_⟩
  · rw [trim, trimEnd, ← List.reverse_append, List.takeWhile_append_dropWhile, List.reverse_reverse,
      trimStart, List.takeWhile_append_dropWhile]
  · intro c hc
    rcases List.mem_append.1 hc with hc | hc
    · exact List.mem_takeWhile_imp hc
    · exact List.mem_takeWhile_imp (List.mem_reverse.1 hc)

theorem trim_isInfix (t : Text) : trim t <:+: t :=
  (trimEnd_isPrefix _).isInfix.trans (trimStart_isSuffix t).isInfix

/-- Only a text that starts with white space is trimmed further than to its start. -/
theorem trimStart_append {t : Text} (h : ∀ c ∈ t.head?, isBlank c = false) (s : Text) :
    trimStart (s ++ t) = trimStart s ++ t := by
  have ht : trimStart t = t := by
    cases t with
    | nil => rfl
    | cons c t => simp [trimStart, h c rfl]
  induction s with
  | nil => exact ht
  | cons c s ih =>
    cases hc : isBlank c with
    | true => simpa [trimStart, hc] using ih
    | false => simp [trimStart, hc]

theorem trimEnd_append {s : Text} (h : ∀ c ∈ s.getLast?, isBlank c = false) (t : Text) :
    trimEnd (s ++ t) = s ++ trimEnd t := by
  have hr : ∀ c ∈ s.reverse.head?, isBlank c = false := by simpa using h
  calc trimEnd (s ++ t)
      = (trimStart (t.reverse ++ s.reverse)).reverse := by rw [← List.reverse_append]; rfl
    _ = s ++ trimEnd t := by
      rw [trimStart_append hr, List.reverse_append, List.reverse_reverse]
      rfl

section

variable {v : Text}

theorem trim_append_left (h : ∀ c ∈ v, isBlank c) (t : Text) : trim (v ++ t) = trim t := by
  have hs : trimStart (v ++ t) = trimStart t := List.dropWhile_append_of_pos h
  rw [trim, hs, trim]

theorem trimEnd_append_right (h : ∀ c ∈ v, isBlank c) (t : Text) : trimEnd (t ++ v) = trimEnd t := by
  have hr : ∀ c ∈ v.reverse, isBlank c := fun c hc => h c (List.mem_reverse.1 hc)
  rw [trimEnd, List.reverse_append, List.dropWhile_append_of_pos hr, trimEnd]

theorem trim_append_right (h : ∀ c ∈ v, isBlank c) (t : Text) : trim (t ++ v) = trim t := by
  rw [trim, trimStart, List.dropWhile_append]
  split
  case isTrue he =>
    have hv : v.dropWhile isBlank = [] := List.dropWhile_eq_nil_iff.2 h
    rw [hv, trim, trimStart, List.isEmpty_iff.1 he]
  case isFalse => exact trimEnd_append_right h _

theorem trim_trimEnd (t : Text) : trim (trimEnd t) = trim t := by
  have ht : t = trimEnd t ++ (t.reverse.takeWhile isBlank).reverse := by
    rw [trimEnd, ← List.reverse_append, List.takeWhile_append_dropWhile, List.reverse_reverse]
  have hv : ∀ c ∈ (t.reverse.takeWhile isBlank).reverse, isBlank c := fun c hc =>
    List.mem_takeWhile_imp (List.mem_reverse.1 hc)
  conv => rhs; rw [ht]
  exact (trim_append_right hv _).symm

/-- White space at the start of a text stays there, unless the text is blank. -/
theorem exists_trimEnd_append_left (h : ∀ c ∈ v, isBlank c) (t : Text) :
    ∃ u, (∀ c ∈ u, isBlank c) ∧ trimEnd (v ++ t) = u ++ trimEnd t := by
  rw [trimEnd, List.reverse_append, List.dropWhile_append, trimEnd]
  split
  case isTrue he =>
    have hv : v.reverse.dropWhile isBlank = [] :=
      List.dropWhile_eq_nil_iff.2 fun c hc => h c (List.mem_reverse.1 hc)
    exact ⟨[], by simp, by rw [hv, List.isEmpty_iff.1 he]; rfl⟩
  case isFalse => exact ⟨v, h, by rw [List.reverse_append, List.reverse_reverse]⟩

end

/-- A text with no white space at its ends. -/
structure Trimmed (t : Text) : Prop where
  start : ∀ c ∈ t.head?, isBlank c = false
  stop : ∀ c ∈ t.getLast?, isBlank c = false

theorem head?_trimStart (t : Text) : ∀ c ∈ (trimStart t).head?, isBlank c = false := by
  intro c hc
  have h := List.head?_dropWhile_not isBlank t
  rwa [show (t.dropWhile isBlank).head? = some c from hc] at h

theorem getLast?_trimEnd (t : Text) : ∀ c ∈ (trimEnd t).getLast?, isBlank c = false := by
  rw [trimEnd, List.getLast?_reverse]
  exact head?_trimStart t.reverse

theorem trimmed_trim (t : Text) : Trimmed (trim t) where
  start := by
    intro c hc
    obtain ⟨u, hu⟩ := List.head?_eq_some_iff.1 hc
    obtain ⟨v, hv⟩ := trimEnd_isPrefix (trimStart t)
    exact head?_trimStart t c (by rw [← hv, show trimEnd (trimStart t) = c :: u from hu]; rfl)
  stop := getLast?_trimEnd _

theorem Trimmed.trim_eq {t : Text} (h : Trimmed t) : trim t = t := by
  have hs : trimStart t = t := trimStart_append h.start []
  have he : trimEnd t = t := by
    have := trimEnd_append h.stop []
    rwa [List.append_nil, show trimEnd [] = [] from rfl, List.append_nil] at this
  rw [trim, hs, he]

theorem trim_trimStart (t : Text) : trim (trimStart t) = trim t := by
  have h : trimStart (trimStart t) = trimStart t := trimStart_append (head?_trimStart t) []
  rw [trim, h, trim]

variable {mark : Text}

theorem infix_trimStart (h : ∀ c ∈ mark, isBlank c = false) (t : Text) :
    mark <:+: trimStart t ↔ mark <:+: t := by
  induction t with
  | nil => exact Iff.rfl
  | cons c t ih =>
    cases hc : isBlank c with
    | false => simp [trimStart, hc]
    | true =>
      have hs : trimStart (c :: t) = trimStart t := by simp [trimStart, hc]
      rw [hs, ih, List.infix_cons_iff]
      refine ⟨.inr, fun hm => hm.elim (fun hp => ?_) id⟩
      -- a mark at the start would have to start with white space
      cases mark with
      | nil => exact List.nil_infix
      | cons m mark =>
        have hm : m = c := (List.cons_prefix_cons.1 hp).1
        simp [← hm, h m List.mem_cons_self] at hc

theorem infix_trimEnd (h : ∀ c ∈ mark, isBlank c = false) (t : Text) :
    mark <:+: trimEnd t ↔ mark <:+: t := by
  have hr : ∀ c ∈ mark.reverse, isBlank c = false := fun c hc => h c (List.mem_reverse.1 hc)
  have he : (trimEnd t).reverse = trimStart t.reverse := by rw [trimEnd, List.reverse_reverse]; rfl
  calc mark <:+: trimEnd t
      ↔ mark.reverse <:+: (trimEnd t).reverse := List.reverse_infix.symm
    _ ↔ mark.reverse <:+: t.reverse := he ▸ infix_trimStart hr t.reverse
    _ ↔ mark <:+: t := List.reverse_infix

theorem infix_trim (h : ∀ c ∈ mark, isBlank c = false) (t : Text) :
    mark <:+: trim t ↔ mark <:+: t :=
  (infix_trimEnd h _).trans (infix_trimStart h t)

end SerialNovel.Text
