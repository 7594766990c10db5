import SerialNovel.Data.Json
import SerialNovel.Proofs.Notation.Quoted

namespace SerialNovel

theorem Text.charOfHex?_twoDigits {c : Char} (h : c.toNat < 256) :
    charOfHex? [hexChar (c.toNat / 16), hexChar (c.toNat % 16)] = some c := by
  have hv : c.toNat.isValidChar := c.valid
  have hhigh := hexDigit?_hexChar (d := c.toNat / 16) (by omega)
  have hlow := hexDigit?_hexChar (d := c.toNat % 16) (by omega)
  have hn : c.toNat / 16 * 16 + c.toNat % 16 = c.toNat := by omega
  simp [charOfHex?, hexNumber?, hexNumberFrom?, hhigh, hlow, hn, charOfNumber?, hv,
    Char.ofNat_toNat]

namespace Json

def escape? : Text → Option (Char × Text)
  | 'u' :: '0' :: '0' :: a :: b :: t => (Text.charOfHex? [a, b]).map (·, t)
  | 'b' :: t => some ('\x08', t)
  | 't' :: t => some ('\t', t)
  | 'n' :: t => some ('\n', t)
  | 'f' :: t => some ('\x0c', t)
  | 'r' :: t => some ('\r', t)
  | c :: t => some (c, t)
  | [] => none

/-- The first character of what is left of a quoted text, if it does not end here. -/
def readChar? : Text → Option (Char × Text)
  | '\\' :: t => escape? t
  | c :: t => if c = '"' then none else some (c, t)
  | [] => none

theorem readChar?_writeChar (c : Char) (rest : Text) :
    readChar? (writeChar c ++ rest) = some (c, rest) := by
  unfold writeChar
  split
  · next h =>
    have hc : c = '"' ∨ c = '\\' := by simpa using h
    rcases hc with rfl | rfl <;> rfl
  split
  · next h => exact h ▸ rfl
  split
  · next h => exact h ▸ rfl
  split
  · next h => exact h ▸ rfl
  split
  · next h => exact h ▸ rfl
  split
  · next h => exact h ▸ rfl
  split
  · next h =>
    have hd := Text.charOfHex?_twoDigits (c := c) (by omega)
    simp [readChar?, escape?, hd]
  · next h _ _ _ _ _ _ =>
    have hc : c ≠ '"' ∧ c ≠ '\\' := by simpa using h
    simp [readChar?, hc]

theorem flatMap_writeChar_append_inj {t u x y : Text}
    (h : t.flatMap writeChar ++ '"' :: x = u.flatMap writeChar ++ '"' :: y) : t = u ∧ x = y := by
  have hr := congrArg readChar? h
  induction t generalizing u with
  | nil =>
    cases u with
    | nil => exact ⟨rfl, (List.cons.inj h).2⟩
    | cons d u =>
      rw [List.flatMap_cons, List.append_assoc, readChar?_writeChar] at hr
      cases hr
  | cons c t ih =>
    rw [List.flatMap_cons, List.append_assoc, readChar?_writeChar] at hr
    cases u with
    | nil => cases hr
    | cons d u =>
      rw [List.flatMap_cons, List.append_assoc, readChar?_writeChar] at hr
      obtain ⟨rfl, ht⟩ := Prod.mk.inj (Option.some.inj hr)
      obtain ⟨rfl, hx⟩ := ih ht (congrArg readChar? ht)
      exact ⟨rfl, hx⟩

theorem quote_append_inj {t u x y : Text} (h : quote t ++ x = quote u ++ y) : t = u ∧ x = y := by
  apply flatMap_writeChar_append_inj
  simpa [quote] using h

end Json

namespace Data

/-- No number goes on with this text. -/
def Ends (rest : Text) : Prop := ∀ c ∈ rest.head?, ¬ c.isDigit

theorem ofNat_append_inj {m n : Nat} {x y : Text} (hx : Ends x) (hy : Ends y)
    (h : Text.ofNat m ++ x = Text.ofNat n ++ y) : m = n ∧ x = y := by
  have digits (k : Nat) {z : Text} (hz : Ends z) :
      (Text.ofNat k ++ z).takeWhile Char.isDigit = Text.ofNat k := by
    have hk : ∀ c ∈ Text.ofNat k, c.isDigit := fun c hc =>
      Nat.isDigit_of_mem_toDigits (by decide) (by decide) hc
    rw [List.takeWhile_append_of_pos hk]
    cases z with
    | nil => exact List.append_nil _
    | cons c z =>
      have hc : ¬ c.isDigit := hz c rfl
      simp [hc]
  have ht : Text.ofNat m = Text.ofNat n := by rw [← digits m hx, h, digits n hy]
  have hm : m = n := by
    rw [← Nat.ofDigitChars_ten_toDigits (n := m), ← Nat.ofDigitChars_ten_toDigits (n := n)]
    exact congrArg (Nat.ofDigitChars 10 · 0) ht
  subst hm
  exact ⟨rfl, List.append_cancel_left h⟩

def kindOf (c : Char) : Char := if c.isDigit then '0' else if c = 't' then 'f' else c

def kind : Data → Char
  | null => 'n'
  | bool _ => 'f'
  | natural _ => '0'
  | number => '-'
  | text _ => '"'
  | list _ => '['
  | object _ => '\x7b'

theorem exists_json_eq_cons (d : Data) : ∃ c t, d.json = c :: t ∧ kindOf c = d.kind := by
  cases d with
  | natural n =>
    obtain ⟨c, t, hc⟩ := List.exists_cons_of_ne_nil (Nat.toDigits_ne_nil (n := n) (b := 10))
    have hd : c.isDigit :=
      Nat.isDigit_of_mem_toDigits (b := 10) (n := n) (by decide) (by decide) (by simp [hc])
    exact ⟨c, t, by simp [json, Text.ofNat, hc], by simp [kindOf, hd, kind]⟩
  | bool b => cases b <;> exact ⟨_, _, rfl, rfl⟩
  | _ => exact ⟨_, _, rfl, rfl⟩

theorem kind_eq_of_json {d e : Data} {x y : Text} (h : d.json ++ x = e.json ++ y) :
    d.kind = e.kind := by
  obtain ⟨c, t, hd, hc⟩ := exists_json_eq_cons d
  obtain ⟨c', u, he, hc'⟩ := exists_json_eq_cons e
  rw [hd, he] at h
  rw [← hc, ← hc', (List.cons.inj h).1]

theorem append_json_ne_closing {closing : Char} (hc : closing = ']' ∨ closing = '\x7d')
    {separator : Text} (hs : closing ∉ separator) {d : Data} (x y : Text) :
    separator ++ (d.json ++ x) ≠ closing :: y := by
  intro h
  cases separator with
  | nil =>
    obtain ⟨c, t, hd, hk⟩ := exists_json_eq_cons d
    rw [List.nil_append, hd] at h
    rw [(List.cons.inj h).1] at hk
    rcases hc with rfl | rfl <;> cases d <;> simp [kindOf, kind] at hk
  | cons c s => simp [(List.cons.inj h).1] at hs

theorem ends_itemsJson (ds : List Data) (rest : Text) : Ends (itemsJson [','] ds ++ rest) := by
  cases ds <;> simp [itemsJson, Ends]

theorem ends_fieldsJson (fields : List (Text × Data)) (rest : Text) :
    Ends (fieldsJson [','] fields ++ rest) := by
  cases fields with
  | nil => simp [fieldsJson, Ends]
  | cons f fields =>
    obtain ⟨name, d⟩ := f
    simp [fieldsJson, Ends]

mutual

/-- A value is told from the text after it. -/
theorem json_append_inj {x y : Text} (hx : Ends x) (hy : Ends y) (d e : Data)
    (h : d.json ++ x = e.json ++ y) : d = e ∧ x = y := by
  have hk := kind_eq_of_json h
  -- values of two kinds start with different characters
  cases d <;> cases e <;> simp [kind] at hk
  case null.null => exact ⟨rfl, List.append_cancel_left h⟩
  case bool.bool b c =>
    cases b <;> cases c
    · exact ⟨rfl, List.append_cancel_left h⟩
    · cases h
    · cases h
    · exact ⟨rfl, List.append_cancel_left h⟩
  case natural.natural m n =>
    obtain ⟨rfl, hx⟩ := ofNat_append_inj hx hy h
    exact ⟨rfl, hx⟩
  case number.number => exact ⟨rfl, List.append_cancel_left h⟩
  case text.text t u =>
    obtain ⟨rfl, hx⟩ := Json.quote_append_inj h
    exact ⟨rfl, hx⟩
  case list.list ds es =>
    obtain ⟨rfl, hx⟩ := itemsJson_append_inj (by decide) ds es (List.cons.inj h).2
    exact ⟨rfl, hx⟩
  case object.object fs gs =>
    obtain ⟨rfl, hx⟩ := fieldsJson_append_inj (by decide) fs gs (List.cons.inj h).2
    exact ⟨rfl, hx⟩

theorem itemsJson_append_inj {separator x y : Text} (hs : ']' ∉ separator) (ds es : List Data)
    (h : itemsJson separator ds ++ x = itemsJson separator es ++ y) : ds = es ∧ x = y := by
  cases ds with
  | nil =>
    cases es with
    | nil => exact ⟨rfl, (List.cons.inj h).2⟩
    | cons e es =>
      rw [itemsJson, itemsJson, List.append_assoc, List.append_assoc] at h
      exact absurd h.symm (append_json_ne_closing (.inl rfl) hs _ _)
  | cons d ds =>
    cases es with
    | nil =>
      rw [itemsJson, itemsJson, List.append_assoc, List.append_assoc] at h
      exact absurd h (append_json_ne_closing (.inl rfl) hs _ _)
    | cons e es =>
      rw [itemsJson, itemsJson, List.append_assoc, List.append_assoc, List.append_assoc,
        List.append_assoc] at h
      obtain ⟨rfl, hr⟩ := json_append_inj (ends_itemsJson ds x) (ends_itemsJson es y) d e
        (List.append_cancel_left h)
      obtain ⟨rfl, hx⟩ := itemsJson_append_inj (by decide) ds es hr
      exact ⟨rfl, hx⟩

theorem fieldsJson_append_inj {separator x y : Text} (hs : '\x7d' ∉ separator)
    (fs gs : List (Text × Data))
    (h : fieldsJson separator fs ++ x = fieldsJson separator gs ++ y) : fs = gs ∧ x = y := by
  cases fs with
  | nil =>
    cases gs with
    | nil => exact ⟨rfl, (List.cons.inj h).2⟩
    | cons g gs =>
      -- the name of a field is written as a text
      obtain ⟨n, e⟩ := g
      rw [fieldsJson, fieldsJson, List.append_assoc, List.append_assoc] at h
      exact absurd h.symm (append_json_ne_closing (d := .text n) (.inr rfl) hs _ _)
  | cons f fs =>
    obtain ⟨m, d⟩ := f
    cases gs with
    | nil =>
      rw [fieldsJson, fieldsJson, List.append_assoc, List.append_assoc] at h
      exact absurd h (append_json_ne_closing (d := .text m) (.inr rfl) hs _ _)
    | cons g gs =>
      obtain ⟨n, e⟩ := g
      rw [fieldsJson, fieldsJson, List.append_assoc, List.append_assoc, List.append_assoc,
        List.append_assoc, List.cons_append, List.cons_append, List.append_assoc,
        List.append_assoc] at h
      obtain ⟨rfl, hq⟩ := Json.quote_append_inj (List.append_cancel_left h)
      obtain ⟨rfl, hr⟩ := json_append_inj (ends_fieldsJson fs x) (ends_fieldsJson gs y) d e
        (List.cons.inj hq).2
      obtain ⟨rfl, hx⟩ := fieldsJson_append_inj (by decide) fs gs hr
      exact ⟨rfl, hx⟩

end

theorem json_injective {d e : Data} (h : d.json = e.json) : d = e := by
  have hn : Ends [] := by simp [Ends]
  exact (json_append_inj hn hn d e (by rw [h])).1

end Data

end SerialNovel
