import SerialNovel.Notation.Schema
import SerialNovel.Proofs.Notation.Quoted
import SerialNovel.Proofs.Text.Trim

namespace SerialNovel.Notation

variable {x : Extensions} {s t : Text} {c : Char}

theorem skip_append (hs : ∀ c ∈ s, isSpace c) (hc : isSpace c = false) (h : c ≠ '/') (t : Text) :
    skip (s ++ c :: t) = some (c :: t) := by
  have hd : (s ++ c :: t).dropWhile isSpace = c :: t := by
    rw [List.dropWhile_append_of_pos hs, List.dropWhile_cons_of_neg (by simp [hc])]
  unfold skip skipFrom
  rw [hd]
  split <;> simp_all

theorem isNameStart_of_isBlank (h : Text.isBlank c) : isNameStart c = false := by
  have := Text.toNat_of_isBlank h
  have hletter : c.isAlpha =
    (decide (65 ≤ c.val ∧ c.val ≤ 90) || (decide (97 ≤ c.val) && decide (c.val ≤ 122))) := rfl
  have hu : c ≠ '_' := Text.ne_of_isBlank h rfl
  simp [isNameStart, hletter, UInt32.le_iff_toNat_le, hu]
  omega

theorem isDigitPart_of_isBlank (h : Text.isBlank c) : isDigitPart c = false := by
  have := Text.toNat_of_isBlank h
  have hx : Text.hexDigit? c = none := by
    rw [Text.hexDigit?, if_neg (by simp [Text.isDigit_of_isBlank h]), if_neg, if_neg] <;>
    · simp [Char.le_def, UInt32.le_iff_toNat_le]
      omega
  simp [isDigitPart, hx, Text.ne_of_isBlank h (d := '_') rfl]

theorem word?_of_isBlank {d : Char} (h : Text.isBlank c) (hd : Text.isBlank d = false)
    (word t : Text) : word? (d :: word) (c :: t) = none := by
  simp [word?, Text.after?, (Text.ne_of_isBlank h hd).symm]

theorem number?_of_isBlank (h : Text.isBlank c) (t : Text) : number? (c :: t) = none := by
  have hne : ∀ d, Text.isBlank d = false → c ≠ d := fun d => Text.ne_of_isBlank h
  have hf : isFloatPart c = false := by
    simp [isFloatPart, Text.isDigit_of_isBlank h, hne, Text.isBlank]
  have hs : dropSign (c :: t) = c :: t := by simp [dropSign, hne, Text.isBlank]
  have hb : base (c :: t) = (10, c :: t) := by simp [base, hne, Text.isBlank]
  have hwhole : whole? (c :: t) = none := by
    simp [whole?, hne, Text.isBlank, natural?, hb, isDigitPart_of_isBlank h]
  have hfloat : float? (c :: t) = none := by
    have hw : wordOf? ["inf", "+inf", "-inf", "NaN", "+NaN", "-NaN"] (c :: t) = none := by
      simp [wordOf?, word?_of_isBlank h, Text.isBlank]
    simp [float?, hw, hf, isDecimal, dropSign]
  simp [number?, hs, hf, isDigitPart_of_isBlank h, hwhole, hfloat]

theorem value_of_isBlank (h : Text.isBlank c) (n depth : Nat) (t : Text) :
    value x n depth (c :: t) = none := by
  have hne : ∀ d, Text.isBlank d = false → c ≠ d := fun d => Text.ne_of_isBlank h
  have hname : name? (c :: t) = none := by simp [name?, isNameStart_of_isBlank h]
  cases n with
  | zero => rw [value]
  | succ n =>
    -- no form of a value starts with white space, so this would have to be a number
    rw [value]
    · simp [word?_of_isBlank h, wordOf?, hname, number?_of_isBlank h, Text.isBlank]
    all_goals simp [hne, Text.isBlank]

theorem value_nil (n depth : Nat) : value x n depth [] = none := by
  cases n with
  | zero => rw [value]
  | succ n =>
    rw [value]
    rfl

theorem read?_eq {u : Text} (hs : skip t = some u) (hu : u.head? ≠ some '#') :
    read? t = (value {} (2 * u.length + 2) maxDepth u).bind fun p =>
      (skip p.2).bind fun rest => if rest.isEmpty then some ({}, p.1) else none := by
  have ha : attributes (t.length + 1) {} u = some ({}, u) := by
    cases u with
    | nil => rfl
    | cons c u => simp_all [attributes]
  rw [read?, hs]
  simp only [Option.bind_eq_bind, Option.bind_some, ha]
  rfl

theorem idsOfText_of_blank (h : ∀ c ∈ t, Text.isBlank c) : idsOfText t = .error .malformed := by
  generalize hd : t.dropWhile isSpace = u
  have hu : ∀ c ∈ u, Text.isBlank c := fun c hc =>
    h c ((List.dropWhile_sublist isSpace).subset (hd ▸ hc))
  have hread : read? t = none := by
    cases u with
    | nil =>
      have hs : skip t = some [] := by rw [skip, skipFrom, hd]
      rw [read?_eq hs (by simp), value_nil, Option.bind_none]
    | cons c u =>
      have hc := hu c List.mem_cons_self
      have hs : skip t = some (c :: u) := by
        rw [skip, skipFrom, hd]
        split <;> simp_all [Text.ne_of_isBlank hc (d := '/') rfl]
      have hm : c ≠ '#' := Text.ne_of_isBlank hc rfl
      rw [read?_eq hs (by simpa using hm), value_of_isBlank hc, Option.bind_none]
  simp [idsOfText, decode, hread]

theorem value_quote (n depth : Nat) (id rest : Text) :
    value x (n + 1) depth (quote id ++ rest) = some (.text id, rest) := by
  have hq : quote id ++ rest = '"' :: (id.flatMap writeChar ++ '"' :: rest) := by simp [quote]
  have hlen : id.length < (id.flatMap writeChar ++ '"' :: rest).length + 1 := by
    have := length_le_length_flatMap_writeChar id
    simp only [List.length_append]
    omega
  rw [hq, value]
  exact congrArg (Option.map _) (quotedBody_quote hlen rest)

theorem value_list (n depth : Nat) (t : Text) : value x (n + 1) (depth + 1) ('[' :: t) =
    (items x n (depth + 1) ']' t).map fun p => (.list p.1, p.2) := by
  rw [value]
  cases items x n (depth + 1) ']' t <;> rfl

def idLines (ids : List Text) : Text :=
  ids.flatMap (fun id => "    ".toList ++ quote id ++ ",\n".toList) ++ [']']

/-- What `skip` leaves of the lines: the first id is not indented. -/
def idLinesAhead : List Text → Text
  | [] => [']']
  | id :: ids => quote id ++ ",\n".toList ++ idLines ids

theorem skip_idLines (hs : ∀ c ∈ s, isSpace c) (ids : List Text) :
    skip (s ++ idLines ids) = some (idLinesAhead ids) := by
  cases ids with
  | nil => exact skip_append hs rfl (by decide) []
  | cons id ids =>
    have hindent : ∀ c ∈ "    ".toList, isSpace c := by simp [isSpace]
    have hs' : ∀ c ∈ s ++ "    ".toList, isSpace c := fun c hc =>
      (List.mem_append.1 hc).elim (hs c) (hindent c)
    simpa [idLines, idLinesAhead, quote] using skip_append hs' (c := '"') rfl (by decide) _

theorem skip_idLinesAhead (ids : List Text) :
    skip (idLinesAhead ids) = some (idLinesAhead ids) := by
  cases ids with
  | nil => rfl
  | cons id ids => exact skip_append (s := []) (by simp) (c := '"') rfl (by decide) _

theorem items_of_comma {n depth inner : Nat} {close : Char} {u rest rest' : Text} {v : Value}
    (ht : skip t = some (c :: u)) (hc : c ≠ close) (hd : memberDepth? depth = some inner)
    (hv : value x n inner (c :: u) = some (v, rest)) (hcomma : comma? rest = some (true, rest')) :
    items x (n + 1) depth close t =
      (items x n depth close rest').map fun p => (v :: p.1, p.2) := by
  cases hi : items x n depth close rest' <;> simp [items, ht, hc, hd, hv, hcomma, hi]

theorem items_idLines {n depth inner : Nat} (hd : memberDepth? depth = some inner)
    {ids : List Text} (hn : ids.length < n) (ht : skip t = some (idLinesAhead ids)) :
    items x n depth ']' t = some (ids.map .text, []) := by
  induction ids generalizing n t with
  | nil =>
    obtain ⟨n, rfl⟩ : ∃ k, n = k + 1 := ⟨n - 1, by simp at hn; omega⟩
    simp [items, ht, idLinesAhead]
  | cons id ids ih =>
    obtain ⟨n, rfl⟩ : ∃ k, n = k + 2 := ⟨n - 2, by simp at hn; omega⟩
    have hcomma : comma? (",\n".toList ++ idLines ids) = some (true, idLinesAhead ids) := by
      have hs : skip (",\n".toList ++ idLines ids) = some (',' :: '\n' :: idLines ids) :=
        skip_append (s := []) (by simp) rfl (by decide) _
      have hnext : skip ('\n' :: idLines ids) = some (idLinesAhead ids) :=
        skip_idLines (s := ['\n']) (by simp [isSpace]) ids
      rw [comma?, hs]
      simp [hnext]
    have hv : value x (n + 1) inner (idLinesAhead (id :: ids)) =
        some (.text id, ",\n".toList ++ idLines ids) := by
      rw [idLinesAhead, List.append_assoc]
      exact value_quote n inner id _
    have hrest := ih (n := n + 1) (by simp at hn; omega) (skip_idLinesAhead ids)
    rw [items_of_comma ht (by decide) hd hv hcomma, hrest]
    rfl

theorem length_le_length_idLines (ids : List Text) : ids.length ≤ (idLines ids).length := by
  induction ids with
  | nil => exact Nat.zero_le _
  | cons id ids ih =>
    simp [idLines] at ih ⊢
    omega

theorem writeIds_eq (ids : List Text) :
    ∃ s, (∀ c ∈ s, isSpace c) ∧ writeIds ids = '[' :: (s ++ idLines ids) := by
  cases ids with
  | nil => exact ⟨[], by simp, rfl⟩
  | cons id ids => exact ⟨['\n'], by simp [isSpace], by simp [writeIds, idLines]⟩

theorem mapM_asText? (ids : List Text) : (ids.map Value.text).mapM Value.asText? = some ids := by
  induction ids with
  | nil => rfl
  | cons id ids ih => simp [Value.asText?, ih]

theorem idsOfText_writeIds (ids : List Text) : idsOfText (writeIds ids) = .ok ids := by
  obtain ⟨s, hs, hw⟩ := writeIds_eq ids
  have hread : read? (writeIds ids) = some ({}, .list (ids.map .text)) := by
    have hn : ids.length < 2 * (writeIds ids).length + 1 := by
      have := length_le_length_idLines ids
      simp only [hw, List.length_cons, List.length_append]
      omega
    have hitems : items {} _ maxDepth ']' (s ++ idLines ids) = some (ids.map .text, []) :=
      items_idLines rfl hn (skip_idLines hs ids)
    have hv : value {} (2 * (writeIds ids).length + 2) maxDepth (writeIds ids) =
        some (.list (ids.map .text), []) := by
      rw [hw] at hitems ⊢
      rw [show maxDepth = 127 + 1 from rfl, value_list]
      exact congrArg (Option.map _) hitems
    have hskip : skip (writeIds ids) = some (writeIds ids) := by
      rw [hw]
      exact skip_append (s := []) (by simp) rfl (by decide) _
    rw [read?_eq hskip (by simp [hw]), hv]
    rfl
  have hlist : Value.asList? Value.asText? (.list (ids.map .text)) = some ids := mapM_asText? ids
  simp [idsOfText, decode, hread, hlist]

end SerialNovel.Notation
