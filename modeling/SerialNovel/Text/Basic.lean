namespace SerialNovel

abbrev Text := List Char

namespace Text

/-- The characters with the Unicode property `White_Space`. -/
def isBlank (c : Char) : Bool :=
  let n := c.toNat
  (9 ≤ n && n ≤ 13) || n == 0x20 || n == 0x85 || n == 0xA0 || n == 0x1680 ||
    (0x2000 ≤ n && n ≤ 0x200A) || n == 0x2028 || n == 0x2029 || n == 0x202F || n == 0x205F ||
    n == 0x3000

def trimStart (t : Text) : Text := t.dropWhile isBlank

def trimEnd (t : Text) : Text := (t.reverse.dropWhile isBlank).reverse

def trim (t : Text) : Text := trimEnd (trimStart t)

/-- The lines of a text. A final line feed does not start another line. -/
def lines : Text → List Text
  | [] => []
  | c :: t =>
    if c = '\n' then [] :: lines t
    else match lines t with
      | [] => [[c]]
      | l :: ls => (c :: l) :: ls

def utf8Size : Text → Nat
  | [] => 0
  | c :: t => c.utf8Size + utf8Size t

def dropBytes : Nat → Text → Text
  | _, [] => []
  | n, c :: t => if n = 0 then c :: t else dropBytes (n - c.utf8Size) t

def takeBytes : Nat → Text → Text
  | _, [] => []
  | n, c :: t => if n = 0 then [] else c :: takeBytes (n - c.utf8Size) t

def slice (start stop : Nat) (t : Text) : Text := takeBytes (stop - start) (dropBytes start t)

theorem lines_newline (t : Text) : lines ('\n' :: t) = [] :: lines t := by
  simp [lines]

@[simp] theorem utf8Size_nil : utf8Size [] = 0 := rfl

@[simp] theorem utf8Size_cons (c : Char) (t : Text) :
    utf8Size (c :: t) = c.utf8Size + utf8Size t := rfl

@[simp] theorem utf8Size_append (s t : Text) : utf8Size (s ++ t) = utf8Size s + utf8Size t := by
  induction s with
  | nil => simp
  | cons c s ih => simp [ih, Nat.add_assoc]

@[simp] theorem dropBytes_append (s t : Text) : dropBytes (utf8Size s) (s ++ t) = t := by
  induction s with
  | nil => cases t <;> simp [dropBytes]
  | cons c s ih =>
    have := c.utf8Size_pos
    rw [List.cons_append, utf8Size_cons, dropBytes, if_neg (by omega), Nat.add_sub_cancel_left, ih]

@[simp] theorem takeBytes_append (s t : Text) : takeBytes (utf8Size s) (s ++ t) = s := by
  induction s with
  | nil => cases t <;> simp [takeBytes]
  | cons c s ih =>
    have := c.utf8Size_pos
    rw [List.cons_append, utf8Size_cons, takeBytes, if_neg (by omega), Nat.add_sub_cancel_left, ih]

theorem slice_append (a b c : Text) :
    slice (utf8Size a) (utf8Size a + utf8Size b) (a ++ (b ++ c)) = b := by
  rw [slice, dropBytes_append, Nat.add_sub_cancel_left, takeBytes_append]

theorem utf8Size_pos {t : Text} (h : t ≠ []) : 0 < utf8Size t := by
  obtain ⟨c, t, rfl⟩ := List.exists_cons_of_ne_nil h
  have := c.utf8Size_pos
  rw [utf8Size_cons]
  omega

theorem utf8Size_dropBytes_le (n : Nat) (t : Text) :
    utf8Size (dropBytes n t) ≤ utf8Size t - n := by
  induction t generalizing n with
  | nil => simp [dropBytes]
  | cons c t ih =>
    have := ih (n - c.utf8Size)
    rw [dropBytes]
    split
    · simp_all
    · rw [utf8Size_cons]
      omega

theorem takeBytes_of_le {n : Nat} {t : Text} (h : utf8Size t ≤ n) : takeBytes n t = t := by
  induction t generalizing n with
  | nil => rfl
  | cons c t ih =>
    have := c.utf8Size_pos
    rw [utf8Size_cons] at h
    rw [takeBytes, if_neg (by omega), ih (by omega)]

theorem slice_utf8Size (n : Nat) (t : Text) : slice n (utf8Size t) t = dropBytes n t :=
  takeBytes_of_le (utf8Size_dropBytes_le n t)

end Text

end SerialNovel
