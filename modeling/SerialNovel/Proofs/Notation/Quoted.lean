import SerialNovel.Notation.Quoted
import Mathlib.Algebra.Group.Nat.Defs

namespace SerialNovel

namespace Text

theorem hexDigit?_hexChar {d : Nat} (h : d < 16) : hexDigit? (hexChar d) = some d := by
  have hall : ∀ d : Fin 16, hexDigit? (hexChar d) = some d.val := by decide
  exact hall ⟨d, h⟩

theorem hexNumberFrom?_append (n : Nat) (s t : Text) :
    hexNumberFrom? n (s ++ t) = (hexNumberFrom? n s).bind (hexNumberFrom? · t) := by
  induction s generalizing n with
  | nil => rfl
  | cons c s ih =>
    cases hd : hexDigit? c with
    | none => simp [hexNumberFrom?, hd]
    | some d => simp [hexNumberFrom?, hd, ih]

theorem hexNumber?_hexDigits (n : Nat) : hexNumber? (hexDigits n) = some n := by
  fun_induction hexDigits n with
  | case1 n h => simp [hexNumber?, hexNumberFrom?, hexDigit?_hexChar h]
  | case2 n h ih =>
    have hd := hexDigit?_hexChar (Nat.mod_lt n (by decide : 0 < 16))
    rw [hexNumber?, hexNumberFrom?_append, ← hexNumber?, ih]
    simp only [Option.bind_some, hexNumberFrom?, hd]
    congr 1
    omega

theorem hexDigits_ne_nil (n : Nat) : hexDigits n ≠ [] := by
  unfold hexDigits
  split <;> simp

theorem length_hexDigits_le {k n : Nat} (h : n < 16 ^ (k + 1)) :
    (hexDigits n).length ≤ k + 1 := by
  induction k generalizing n with
  | zero => rw [hexDigits, if_pos (by simpa using h)]; exact Nat.le_refl 1
  | succ k ih =>
    rw [hexDigits]
    split
    · simp
    · have := ih (n := n / 16) (by rw [Nat.pow_succ] at h; omega)
      simpa using this

theorem isSome_hexDigit?_of_mem_hexDigits {n : Nat} :
    ∀ c ∈ hexDigits n, (hexDigit? c).isSome := by
  fun_induction hexDigits n with
  | case1 n h => simp [hexDigit?_hexChar h]
  | case2 n h ih =>
    have hd := hexDigit?_hexChar (Nat.mod_lt n (by decide : 0 < 16))
    intro c hc
    rcases List.mem_append.1 hc with hc | hc
    · exact ih c hc
    · simp [List.mem_singleton.1 hc, hd]

theorem charOfHex?_hexDigits (c : Char) : charOfHex? (hexDigits c.toNat) = some c := by
  have hv : c.toNat.isValidChar := c.valid
  simp [charOfHex?, hexNumber?_hexDigits, charOfNumber?, hv, Char.ofNat_toNat]

theorem cut?_of_notMem {m : Char} {s : Text} (h : m ∉ s) (t : Text) :
    cut? [m] (s ++ m :: t) = some (s, t) := by
  induction s with
  | nil => simp [cut?, after?]
  | cons c s ih =>
    obtain ⟨hc, hs⟩ := not_or.1 (mt List.mem_cons.2 h)
    simp [cut?, after?, hc, ih hs]

end Text

namespace Notation

theorem escape?_number (c : Char) (t : Text) :
    escape? ('u' :: '\x7b' :: (Text.hexDigits c.toNat ++ '\x7d' :: t)) = some (c, t) := by
  have hend : '\x7d' ∉ Text.hexDigits c.toNat := fun hm =>
    absurd (Text.isSome_hexDigit?_of_mem_hexDigits _ hm) (by decide)
  have hlt : c.toNat < 16 ^ 6 := by
    have hv : c.toNat.isValidChar := c.valid
    simp only [Nat.isValidChar] at hv
    omega
  have hlen := Text.length_hexDigits_le hlt
  have hne := Text.hexDigits_ne_nil c.toNat
  simp [escape?, Text.cut?_of_notMem hend, Text.charOfHex?_hexDigits, hne, Nat.not_lt.2 hlen]

/-- What is written for a character is the character, or an escape that is read as it. -/
theorem writeChar_cases (c : Char) :
    (writeChar c = [c] ∧ c ≠ '"' ∧ c ≠ '\\') ∨
      ∃ e, writeChar c = '\\' :: e ∧ ∀ t, escape? (e ++ t) = some (c, t) := by
  unfold writeChar
  split
  · next h => exact .inr ⟨['0'], rfl, fun _ => h ▸ rfl⟩
  split
  · next h => exact .inr ⟨['t'], rfl, fun _ => h ▸ rfl⟩
  split
  · next h => exact .inr ⟨['r'], rfl, fun _ => h ▸ rfl⟩
  split
  · next h => exact .inr ⟨['n'], rfl, fun _ => h ▸ rfl⟩
  split
  · next h =>
    have hc : (c = '\\' ∨ c = '"') ∨ c = '\'' := by simpa using h
    refine .inr ⟨[c], rfl, fun _ => ?_⟩
    rcases hc with (rfl | rfl) | rfl <;> rfl
  · next h =>
    split
    · exact .inl ⟨rfl, by simp_all⟩
    · exact .inr ⟨_, rfl, by simpa using escape?_number c⟩

theorem length_le_length_flatMap_writeChar (t : Text) :
    t.length ≤ (t.flatMap writeChar).length := by
  induction t with
  | nil => exact Nat.le_refl 0
  | cons c t ih =>
    have hc : 0 < (writeChar c).length := by
      rcases writeChar_cases c with ⟨hw, -⟩ | ⟨e, hw, -⟩ <;> simp [hw]
    simp only [List.flatMap_cons, List.length_append, List.length_cons]
    omega

theorem quotedBody_writeChar (n : Nat) (c : Char) (t : Text) :
    quotedBody (n + 1) (writeChar c ++ t) = (quotedBody n t).map fun p => (c :: p.1, p.2) := by
  rcases writeChar_cases c with ⟨hw, hq, hb⟩ | ⟨e, hw, he⟩
  · simp [hw, quotedBody, hq, hb]
  · cases hr : quotedBody n t <;> simp [hw, quotedBody, he, hr]

/-- A quoted text is read to its closing quote, and no character of what follows is. -/
theorem quotedBody_quote {n : Nat} {t : Text} (h : t.length < n) (rest : Text) :
    quotedBody n (t.flatMap writeChar ++ '"' :: rest) = some (t, rest) := by
  -- a round of the reader takes one character of the content, however long it is written
  induction t generalizing n with
  | nil =>
    obtain ⟨n, rfl⟩ : ∃ k, n = k + 1 := ⟨n - 1, by simp at h; omega⟩
    simp [quotedBody]
  | cons c t ih =>
    obtain ⟨n, rfl⟩ : ∃ k, n = k + 1 := ⟨n - 1, by omega⟩
    have ht := ih (n := n) (by simp at h; omega)
    rw [List.flatMap_cons, List.append_assoc, quotedBody_writeChar, ht]
    rfl

end Notation

end SerialNovel
