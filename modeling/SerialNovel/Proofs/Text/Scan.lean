import SerialNovel.Text.Search

namespace SerialNovel.Text

variable {α : Type} {token : Text → Option (α × Nat)} {spell : α → Text}

/-- A recogniser of tokens that are spelled in one way, with their width in characters. -/
def Spells (token : Text → Option (α × Nat)) (spell : α → Text) : Prop :=
  ∀ {t : Text} {a : α} {width : Nat}, token t = some (a, width) →
    spell a <+: t ∧ width = (spell a).length ∧ spell a ≠ []

def spelled (items : List (Char ⊕ Token α)) : Text :=
  items.flatMap (Sum.elim (fun c => [c]) Token.text)

theorem spelled_scanFrom (h : Spells token spell) (skip : Nat) (t : Text) :
    spelled (scanFrom token skip t) = t.drop skip := by
  fun_induction scanFrom token skip t with
  | case1 => simp [spelled]
  | case2 skip c t ih => simpa using ih
  | case3 c t a width ha ih =>
    obtain ⟨-, hw, hne⟩ := h ha
    -- a token has a first character, so the rest of it is what the scan skips
    have hpos : 0 < width := hw ▸ List.length_pos_iff.2 hne
    obtain ⟨n, rfl⟩ := Nat.exists_eq_add_of_lt hpos
    simp only [spelled, Nat.zero_add, Nat.add_sub_cancel] at ih ⊢
    simp [ih]
  | case4 c t _ ih =>
    simp only [spelled] at ih ⊢
    simp [ih]

theorem spelled_scan (h : Spells token spell) (t : Text) : spelled (scan token t) = t :=
  spelled_scanFrom h 0 t

theorem text_of_mem_scanFrom (h : Spells token spell) {skip : Nat} {t : Text} {a : Token α}
    (ha : .inr a ∈ scanFrom token skip t) : a.text = spell a.value := by
  fun_induction scanFrom token skip t with
  | case1 => simp at ha
  | case2 _ _ _ ih => exact ih ha
  | case3 c t b width hb ih =>
    rcases List.mem_cons.1 ha with he | ha
    · obtain ⟨⟨rest, hr⟩, hw, -⟩ := h hb
      rw [Sum.inr.inj he]
      dsimp only
      rw [← hr, hw, List.take_left]
    · exact ih ha
  | case4 _ _ _ ih =>
    rcases List.mem_cons.1 ha with he | ha
    · simp at he
    · exact ih ha

theorem head?_tokens_cons (c : Char) (t : Text) :
    (tokens token (c :: t)).head? = ((token (c :: t)).map Prod.fst).or (tokens token t).head? := by
  unfold tokens scan
  rw [scanFrom]
  cases token (c :: t) with
  | none => rfl
  | some p => rfl

theorem tokens_cons_of_eq_none {c : Char} {t : Text} (h : token (c :: t) = none) :
    tokens token (c :: t) = tokens token t := by
  unfold tokens scan
  rw [scanFrom, h]
  rfl

/-- The first token of a text is the one that starts furthest to the left. -/
theorem head?_tokens_eq_some {t : Text} {a : α} :
    (tokens token t).head? = some a ↔ ∃ before rest, t = before ++ rest ∧ rest ≠ [] ∧
      (token rest).map Prod.fst = some a ∧
      ∀ b r, t = b ++ r → b.length < before.length → token r = none := by
  induction t with
  | nil =>
    constructor
    · intro h
      simp [tokens, scan, scanFrom] at h
    · rintro ⟨before, rest, ht, hne, -⟩
      exact absurd (List.append_eq_nil_iff.1 ht.symm).2 hne
  | cons c t ih =>
    rw [head?_tokens_cons]
    cases hc : token (c :: t) with
    | some p =>
      constructor
      · intro h
        exact ⟨[], c :: t, rfl, by simp, by simpa [hc] using h, by simp⟩
      · rintro ⟨before, rest, ht, -, ha, hb⟩
        cases before with
        | nil => rw [ht, List.nil_append] at hc; simpa [hc] using ha
        | cons b before => simp [hb [] (c :: t) rfl (by simp)] at hc
    | none =>
      rw [Option.map_none, Option.none_or, ih]
      constructor
      · rintro ⟨before, rest, rfl, hne, ha, hb⟩
        refine ⟨c :: before, rest, rfl, hne, ha, ?_⟩
        intro b r he hl
        cases b with
        | nil => rw [← List.nil_append r, ← he]; exact hc
        | cons d b => exact hb b r (List.cons.inj he).2 (by simpa using hl)
      · rintro ⟨before, rest, ht, hne, ha, hb⟩
        cases before with
        | nil => rw [ht, List.nil_append] at hc; simp [hc] at ha
        | cons d before =>
          refine ⟨before, rest, (List.cons.inj ht).2, hne, ha, ?_⟩
          intro b r he hl
          exact hb (c :: b) r (by rw [he]; rfl) (by simpa using hl)

theorem isSome_head?_tokens {rest : Text} (hr : rest ≠ []) (hs : (token rest).isSome)
    (before : Text) : ((tokens token (before ++ rest)).head?).isSome := by
  induction before with
  | nil =>
    obtain ⟨c, t, rfl⟩ := List.exists_cons_of_ne_nil hr
    rw [List.nil_append, head?_tokens_cons]
    simp [hs]
  | cons c before ih =>
    rw [List.cons_append, head?_tokens_cons]
    simp [ih]

/-- The stretches around the tokens that a scan reads, after a stretch that starts with `lead`. -/
def gatherFrom (lead : Text) : List (Char ⊕ Token α) → List (Text ⊕ α)
  | [] => [.inl lead]
  | .inl c :: rest => gatherFrom (lead ++ [c]) rest
  | .inr a :: rest => .inl lead :: .inr a.value :: gatherFrom [] rest

theorem partsFrom_placesFrom (before lead : Text) (items : List (Char ⊕ Token α)) :
    partsFrom (before ++ (lead ++ spelled items)) (utf8Size before)
      (placesFrom (utf8Size before + utf8Size lead) items) = gatherFrom lead items := by
  -- `before` is the text up to the last token, and `lead` what has been read since
  induction items generalizing before lead with
  | nil => simp [placesFrom, partsFrom, gatherFrom, spelled]
  | cons item items ih =>
    cases item with
    | inl c =>
      have := ih before (lead ++ [c])
      simp only [spelled, utf8Size_append, utf8Size_cons, utf8Size_nil] at this ⊢
      simpa [placesFrom, gatherFrom, Nat.add_assoc] using this
    | inr a =>
      have hs := slice_append before lead (spelled (.inr a :: items))
      have := ih (before ++ lead ++ a.text) []
      simp only [placesFrom, partsFrom, gatherFrom, hs]
      simp only [spelled, utf8Size_append, utf8Size_nil] at this ⊢
      simpa using this

theorem pieces_eq (h : Spells token spell) (t : Text) :
    pieces token t = gatherFrom [] (scan token t) := by
  have := partsFrom_placesFrom [] [] (scan token t)
  simpa [pieces, find, spelled_scan h] using this

theorem getRight?_gatherFrom (lead : Text) (items : List (Char ⊕ Token α)) :
    (gatherFrom lead items).filterMap Sum.getRight? =
      (items.filterMap Sum.getRight?).map Token.value := by
  induction items generalizing lead with
  | nil => rfl
  | cons item items ih =>
    cases item with
    | inl c => exact ih (lead ++ [c])
    | inr a => exact congrArg (a.value :: ·) (ih [])

theorem tokens_eq (h : Spells token spell) (t : Text) :
    tokens token t = (pieces token t).filterMap Sum.getRight? := by
  rw [pieces_eq h, getRight?_gatherFrom]
  rfl

theorem flatMap_gatherFrom {items : List (Char ⊕ Token α)}
    (h : ∀ a, .inr a ∈ items → a.text = spell a.value) (lead : Text) :
    (gatherFrom lead items).flatMap (Sum.elim id spell) = lead ++ spelled items := by
  induction items generalizing lead with
  | nil => simp [gatherFrom, spelled]
  | cons item items ih =>
    have ih := ih fun a ha => h a (List.mem_cons_of_mem _ ha)
    cases item with
    | inl c => simp [gatherFrom, spelled, ih (lead ++ [c])]
    | inr a => simp [gatherFrom, spelled, ih [], h a List.mem_cons_self]

theorem flatMap_pieces (h : Spells token spell) (t : Text) :
    (pieces token t).flatMap (Sum.elim id spell) = t := by
  have hs : ∀ a, .inr a ∈ scan token t → a.text = spell a.value :=
    fun a ha => text_of_mem_scanFrom h ha
  rw [pieces_eq h, flatMap_gatherFrom hs, List.nil_append, spelled_scan h]

theorem of_mem_placesFrom {items : List (Char ⊕ Token α)}
    (h : ∀ a, .inr a ∈ items → a.text = spell a.value) (before : Text) {f : Found α}
    (hf : f ∈ placesFrom (utf8Size before) items) :
    ∃ a b, before ++ spelled items = a ++ (spell f.value ++ b) ∧ f.start = utf8Size a ∧
      f.stop = f.start + utf8Size (spell f.value) := by
  induction items generalizing before with
  | nil => simp [placesFrom] at hf
  | cons item items ih =>
    have ih := ih fun a ha => h a (List.mem_cons_of_mem _ ha)
    cases item with
    | inl c =>
      have := ih (before ++ [c]) (by simpa [placesFrom] using hf)
      simpa [spelled] using this
    | inr a =>
      have ha := h a List.mem_cons_self
      rcases List.mem_cons.1 hf with rfl | hf
      · exact ⟨before, spelled items, by simp [spelled, ha], rfl, by rw [ha]⟩
      · have := ih (before ++ a.text) (by simpa using hf)
        simpa [spelled] using this

theorem of_mem_find (h : Spells token spell) {t : Text} {f : Found α} (hf : f ∈ find token t) :
    ∃ a b, t = a ++ (spell f.value ++ b) ∧ f.start = utf8Size a ∧
      f.stop = f.start + utf8Size (spell f.value) := by
  have hs : ∀ a, .inr a ∈ scan token t → a.text = spell a.value :=
    fun a ha => text_of_mem_scanFrom h ha
  have := of_mem_placesFrom hs [] hf
  rwa [List.nil_append, spelled_scan h] at this

theorem le_start_of_mem_placesFrom {offset : Nat} {items : List (Char ⊕ Token α)} {f : Found α}
    (hf : f ∈ placesFrom offset items) : offset ≤ f.start := by
  induction items generalizing offset with
  | nil => simp [placesFrom] at hf
  | cons item items ih =>
    cases item with
    | inl c => exact Nat.le_trans (Nat.le_add_right _ _) (ih hf)
    | inr a =>
      rcases List.mem_cons.1 hf with rfl | hf
      · exact Nat.le_refl _
      · exact Nat.le_trans (Nat.le_add_right _ _) (ih hf)

theorem pairwise_placesFrom (offset : Nat) (items : List (Char ⊕ Token α)) :
    (placesFrom offset items).Pairwise fun f g => f.stop ≤ g.start := by
  induction items generalizing offset with
  | nil => exact .nil
  | cons item items ih =>
    cases item with
    | inl c => exact ih _
    | inr a => exact .cons (fun g hg => le_start_of_mem_placesFrom hg) (ih _)

theorem pairwise_find (token : Text → Option (α × Nat)) (t : Text) :
    (find token t).Pairwise fun f g => f.stop ≤ g.start :=
  pairwise_placesFrom 0 (scan token t)

theorem getLeft?_partsFrom (t : Text) (cursor : Nat) (fs : List (Found α)) :
    (partsFrom t cursor fs).filterMap Sum.getLeft? =
      List.zipWith (fun stop start => slice stop start t) (cursor :: fs.map Found.stop)
        (fs.map Found.start ++ [utf8Size t]) := by
  induction fs generalizing cursor with
  | nil => simp [partsFrom, slice_utf8Size]
  | cons f fs ih => exact congrArg (slice cursor f.start t :: ·) (ih f.stop)

theorem map_value_placesFrom (offset : Nat) (items : List (Char ⊕ Token α)) :
    (placesFrom offset items).map Found.value =
      (items.filterMap Sum.getRight?).map Token.value := by
  induction items generalizing offset with
  | nil => rfl
  | cons item items ih =>
    cases item with
    | inl c => exact ih _
    | inr a => exact congrArg (a.value :: ·) (ih _)

theorem mem_pieces_iff (h : Spells token spell) {t : Text} {a : α} :
    .inr a ∈ pieces token t ↔ ∃ f ∈ find token t, f.value = a := by
  have hv : (find token t).map Found.value = tokens token t := map_value_placesFrom 0 _
  rw [← List.mem_map, hv, tokens_eq h, List.mem_filterMap]
  constructor
  · intro ha
    exact ⟨_, ha, rfl⟩
  · rintro ⟨p, hp, he⟩
    cases p with
    | inl u => simp at he
    | inr b => rwa [← Option.some.inj he]

theorem flatMap_partsFrom {β : Type} (k : α → List β) (t : Text) (cursor : Nat)
    (fs : List (Found α)) :
    (partsFrom t cursor fs).flatMap (Sum.elim (fun _ => []) k) = fs.flatMap fun f => k f.value := by
  induction fs generalizing cursor with
  | nil => rfl
  | cons f fs ih => simp [partsFrom, ih]

/-- What is read out of the tokens among the pieces of a text. -/
theorem flatMap_pieces_found {β : Type} (k : α → List β) (t : Text) :
    (pieces token t).flatMap (Sum.elim (fun _ => []) k) =
      (find token t).flatMap fun f => k f.value :=
  flatMap_partsFrom k t 0 (find token t)

end SerialNovel.Text
