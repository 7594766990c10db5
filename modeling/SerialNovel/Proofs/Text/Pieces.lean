import SerialNovel.Proofs.Text.Scan
import SerialNovel.Proofs.Text.Trim

namespace SerialNovel.Text

variable {α : Type} {token : Text → Option (α × Nat)} {spell : α → Text} {valid : α → Prop}

/-- A recogniser of the valid tokens, each wherever it is spelled. -/
structure Recognises (token : Text → Option (α × Nat)) (spell : α → Text) (valid : α → Prop) :
    Prop where
  eq_some_iff : ∀ {t : Text} {a : α} {width : Nat},
    token t = some (a, width) ↔ valid a ∧ spell a <+: t ∧ width = (spell a).length
  spell_ne_nil : ∀ a, spell a ≠ []

/-- No valid token starts in `u` where `after` follows. -/
def Free (spell : α → Text) (valid : α → Prop) (u after : Text) : Prop :=
  ∀ x y a, u = x ++ y → y ≠ [] → valid a → ¬ spell a <+: y ++ after

/-- A text parted into valid tokens and the stretches around them, in which none starts. -/
inductive Pieced (spell : α → Text) (valid : α → Prop) : Text → List (Text ⊕ α) → Prop
  | last {u : Text} : Free spell valid u [] → Pieced spell valid u [.inl u]
  | next {u rest : Text} {a : α} {ps : List (Text ⊕ α)} :
      Free spell valid u (spell a ++ rest) → valid a → Pieced spell valid rest ps →
      Pieced spell valid (u ++ (spell a ++ rest)) (.inl u :: .inr a :: ps)

theorem Recognises.spells (h : Recognises token spell valid) : Spells token spell := by
  intro t a width ht
  obtain ⟨-, hp, hw⟩ := h.eq_some_iff.1 ht
  exact ⟨hp, hw, h.spell_ne_nil a⟩

theorem Recognises.eq_none_iff (h : Recognises token spell valid) {t : Text} :
    token t = none ↔ ∀ a, valid a → ¬ spell a <+: t := by
  constructor
  · intro ht a ha hp
    rw [h.eq_some_iff.2 ⟨ha, hp, rfl⟩] at ht
    simp at ht
  · intro hn
    cases ht : token t with
    | none => rfl
    | some p =>
      obtain ⟨ha, hp, -⟩ := h.eq_some_iff.1 (show token t = some (p.1, p.2) from ht)
      exact absurd hp (hn p.1 ha)

variable {u v after rest t : Text} {a : α} {c : Char} {ps : List (Text ⊕ α)}

theorem free_nil : Free spell valid [] after := by
  intro x y a he hy
  exact absurd (List.append_eq_nil_iff.1 he.symm).2 hy

theorem free_cons (hc : ∀ a, valid a → ¬ spell a <+: c :: (u ++ after))
    (h : Free spell valid u after) : Free spell valid (c :: u) after := by
  intro x y a he hy ha
  cases x with
  | nil =>
    rw [List.nil_append] at he
    rw [← he]
    exact hc a ha
  | cons d x => exact h x y a (List.cons.inj he).2 hy ha

theorem Free.right (h : Free spell valid (u ++ v) after) : Free spell valid v after := by
  intro x y a he
  exact h (u ++ x) y a (by rw [he, List.append_assoc])

theorem Free.left (h : Free spell valid (u ++ v) after) : Free spell valid u (v ++ after) := by
  intro x y a he hy ha
  have hn := h x (y ++ v) a (by rw [he, List.append_assoc]) (by simp [hy]) ha
  rwa [List.append_assoc] at hn

theorem Free.shorten (h : Free spell valid u after) (hr : rest <+: after) :
    Free spell valid u rest := by
  intro x y a he hy ha hp
  exact h x y a he hy ha (hp.trans ((List.prefix_append_right_inj y).2 hr))

theorem Free.not_isInfix (h : Free spell valid u after) (ha : valid a) (hne : spell a ≠ []) :
    ¬ spell a <:+: u := by
  rintro ⟨x, y, hx⟩
  refine h x (spell a ++ y) a (by rw [← hx, List.append_assoc]) (by simp [hne]) ha ?_
  rw [List.append_assoc]
  exact List.prefix_append _ _

theorem scanFrom_append_length (s t : Text) :
    scanFrom token s.length (s ++ t) = scanFrom token 0 t := by
  induction s with
  | nil => rfl
  | cons c s ih => exact ih

theorem scanFrom_append_of_free (hr : Recognises token spell valid)
    (h : Free spell valid u after) :
    scanFrom token 0 (u ++ after) = u.map Sum.inl ++ scanFrom token 0 after := by
  induction u with
  | nil => rfl
  | cons c u ih =>
    have hn : token (c :: (u ++ after)) = none :=
      hr.eq_none_iff.2 fun a ha => h [] (c :: u) a rfl (by simp) ha
    have hu := ih (h.right (u := [c]))
    rw [List.cons_append, scanFrom, hn]
    simp [hu]

theorem scanFrom_spell (hr : Recognises token spell valid) (ha : valid a) (rest : Text) :
    scanFrom token 0 (spell a ++ rest) = .inr ⟨a, spell a⟩ :: scanFrom token 0 rest := by
  have ht : token (spell a ++ rest) = some (a, (spell a).length) :=
    hr.eq_some_iff.2 ⟨ha, List.prefix_append _ _, rfl⟩
  obtain ⟨c, s, hs⟩ := List.exists_cons_of_ne_nil (hr.spell_ne_nil a)
  rw [hs, List.cons_append] at ht ⊢
  have hrest : scanFrom token s.length (s ++ rest) = scanFrom token 0 rest :=
    scanFrom_append_length s rest
  rw [scanFrom, ht]
  simp [hrest]

theorem gatherFrom_append (lead u : Text) (items : List (Char ⊕ Token α)) :
    gatherFrom lead (u.map Sum.inl ++ items) = gatherFrom (lead ++ u) items := by
  induction u generalizing lead with
  | nil => simp
  | cons c u ih =>
    rw [List.map_cons, List.cons_append, gatherFrom, ih, List.append_assoc]
    rfl

theorem Pieced.pieces_eq (hr : Recognises token spell valid) (h : Pieced spell valid t ps) :
    pieces token t = ps := by
  rw [Text.pieces_eq hr.spells, scan]
  induction h with
  | last hu =>
    have hs := scanFrom_append_of_free hr hu
    rw [List.append_nil] at hs
    rw [hs, gatherFrom_append]
    rfl
  | next hu ha _ ih =>
    rw [scanFrom_append_of_free hr hu, scanFrom_spell hr ha, gatherFrom_append, gatherFrom, ih]
    rfl

theorem Pieced.exists_cons (h : Pieced spell valid t ps) : ∃ u qs, ps = .inl u :: qs ∧
    (∀ p ∈ qs.head?, p.isRight) ∧ ∀ c, (∀ a, valid a → ¬ spell a <+: c :: t) →
      Pieced spell valid (c :: t) (.inl (c :: u) :: qs) := by
  cases h with
  | last hu =>
    refine ⟨_, [], rfl, by simp, fun c hc => .last (free_cons (fun a ha => ?_) hu)⟩
    rw [List.append_nil]
    exact hc a ha
  | next hu ha hp => exact ⟨_, _, rfl, by simp, fun c hc => .next (free_cons hc hu) ha hp⟩

theorem exists_pieced (hr : Recognises token spell valid) (t : Text) :
    ∃ ps, Pieced spell valid t ps := by
  -- by length, for a token takes several characters at once
  induction hn : t.length using Nat.strongRecOn generalizing t with
  | _ n ih =>
    cases t with
    | nil => exact ⟨_, .last free_nil⟩
    | cons c t =>
      cases ht : token (c :: t) with
      | none =>
        obtain ⟨ps, hp⟩ := ih t.length (by rw [← hn]; exact Nat.lt_succ_self _) t rfl
        obtain ⟨u, qs, -, -, hc⟩ := hp.exists_cons
        exact ⟨_, hc c (hr.eq_none_iff.1 ht)⟩
      | some p =>
        obtain ⟨ha, ⟨rest, hrest⟩, -⟩ := hr.eq_some_iff.1 (show _ = some (p.1, p.2) from ht)
        have hl : rest.length < n := by
          have hpos := List.length_pos_iff.2 (hr.spell_ne_nil p.1)
          rw [← hn, ← hrest, List.length_append]
          omega
        obtain ⟨ps, hp⟩ := ih rest.length hl rest rfl
        rw [← hrest]
        exact ⟨_, Pieced.next (u := []) free_nil ha hp⟩

/-- The pieces of a text are its parting, and it has no other. -/
theorem pieces_eq_iff (hr : Recognises token spell valid) :
    pieces token t = ps ↔ Pieced spell valid t ps := by
  refine ⟨?_, fun h => h.pieces_eq hr⟩
  rintro rfl
  obtain ⟨ps, hp⟩ := exists_pieced hr t
  rwa [hp.pieces_eq hr]

theorem pieced_pieces (hr : Recognises token spell valid) (t : Text) :
    Pieced spell valid t (pieces token t) :=
  (pieces_eq_iff hr).1 rfl

theorem Pieced.flatMap_eq (h : Pieced spell valid t ps) : ps.flatMap (Sum.elim id spell) = t := by
  induction h with
  | last => simp
  | next _ _ _ ih =>
    rw [List.flatMap_cons, List.flatMap_cons, ih]
    rfl

theorem Pieced.free_of_mem (h : Pieced spell valid t ps) (hu : .inl u ∈ ps) :
    ∃ before after, t = before ++ (u ++ after) ∧ Free spell valid u after := by
  induction h with
  | @last v hv =>
    obtain rfl : u = v := by simpa using hu
    exact ⟨[], [], by simp, hv⟩
  | @next v rest a ps hv _ _ ih =>
    rcases List.mem_cons.1 hu with he | hu
    · obtain rfl : u = v := Sum.inl.inj he
      exact ⟨[], spell a ++ rest, rfl, hv⟩
    · obtain ⟨before, after, rfl, hf⟩ := ih (by simpa using hu)
      exact ⟨v ++ (spell a ++ before), after, by simp, hf⟩

theorem Pieced.of_mem (h : Pieced spell valid t ps) (ha : .inr a ∈ ps) :
    valid a ∧ spell a <:+: t := by
  induction h with
  | last => simp at ha
  | @next u rest b ps _ hb _ ih =>
    rcases List.mem_cons.1 (List.mem_of_ne_of_mem (by simp) ha) with he | hm
    · obtain rfl : a = b := Sum.inr.inj he
      exact ⟨hb, u, rest, List.append_assoc ..⟩
    · obtain ⟨hv, hi⟩ := ih hm
      exact ⟨hv, hi.trans ⟨u ++ spell b, [], by simp⟩⟩

theorem Pieced.eq_singleton (h : Pieced spell valid t ps) (hn : ∀ a, .inr a ∉ ps) :
    ps = [.inl t] ∧ Free spell valid t [] := by
  cases h with
  | last hu => exact ⟨rfl, hu⟩
  | @next _ _ a => exact absurd (by simp) (hn a)

theorem exists_token_iff (hr : Recognises token spell valid) :
    (∃ a, .inr a ∈ pieces token t) ↔ ∃ a, valid a ∧ spell a <:+: t := by
  have h := pieced_pieces hr t
  constructor
  · rintro ⟨a, ha⟩
    exact ⟨a, h.of_mem ha⟩
  · rintro ⟨a, ha, x, y, ht⟩
    refine Classical.byContradiction fun hn => ?_
    refine (h.eq_singleton (not_exists.1 hn)).2 x (spell a ++ y) a ?_ (by simp [hr.spell_ne_nil]) ha ?_
    · rw [← ht, List.append_assoc]
    · rw [List.append_nil]
      exact List.prefix_append _ _

def Apart (spell : α → Text) (valid : α → Prop) : Prop :=
  ∀ {a b x y rest}, valid a → valid b → spell a = x ++ y → x ≠ [] → y ≠ [] →
    ¬ spell b <+: y ++ rest

theorem Recognises.unique (hr : Recognises token spell valid) {b : α} (ha : valid a) (hb : valid b)
    (hpa : spell a <+: t) (hpb : spell b <+: t) : a = b := by
  have h1 := hr.eq_some_iff.2 ⟨ha, hpa, rfl⟩
  have h2 := hr.eq_some_iff.2 ⟨hb, hpb, rfl⟩
  exact (Prod.mk.inj (Option.some.inj (h1.symm.trans h2))).1

/-- Each token that is spelled in a text is one of its pieces if none starts inside another. -/
theorem Pieced.mem_of_spelled (hr : Recognises token spell valid) (ho : Apart spell valid)
    (h : Pieced spell valid t ps) {b : α} (hb : valid b) {before : Text}
    (ht : t = before ++ (spell b ++ after)) : .inr b ∈ ps := by
  induction h generalizing before with
  | @last u hu =>
    have hne : spell b ++ after ≠ [] := by simp [hr.spell_ne_nil b]
    have hn := hu before _ b ht hne hb
    rw [List.append_nil] at hn
    exact absurd (List.prefix_append _ _) hn
  | @next u rest a ps hu ha _ ih =>
    have here (he : spell b ++ after = spell a ++ rest) :
        .inr b ∈ (.inl u :: .inr a :: ps : List (Text ⊕ α)) := by
      have hab := hr.unique ha hb (he ▸ List.prefix_append (spell a) rest) (List.prefix_append _ _)
      simp [hab]
    have later (before : Text) (he : rest = before ++ (spell b ++ after)) :
        .inr b ∈ (.inl u :: .inr a :: ps : List (Text ⊕ α)) := by
      simp [ih he]
    -- the token starts in the stretch, at its end, inside the first token or after that
    rcases List.append_eq_append_iff.1 ht with ⟨x, -, he⟩ | ⟨y, hy, he⟩
    · rcases List.append_eq_append_iff.1 he with ⟨z, -, hz⟩ | ⟨z, hz, hz'⟩
      · exact later z hz
      · by_cases hx : x = []
        · rw [hx, List.nil_append] at hz
          exact here (by rw [hz', hz])
        · by_cases hzn : z = []
          · exact later [] (by rw [hzn, List.nil_append] at hz'; exact hz'.symm)
          · exact absurd ⟨after, hz'⟩ (ho ha hb hz hx hzn)
    · by_cases hyn : y = []
      · rw [hyn, List.nil_append] at he
        exact here he
      · exact absurd ⟨after, he⟩ (hu before y b hy hyn hb)

/-- No token starts or ends with white space. -/
structure Solid (spell : α → Text) : Prop where
  head : ∀ a, ∃ c s, spell a = c :: s ∧ isBlank c = false
  last : ∀ a, ∃ s c, spell a = s ++ [c] ∧ isBlank c = false

theorem Pieced.trimStart (h : Pieced spell valid t ps) (hs : Solid spell) :
    ∃ u qs, ps = .inl u :: qs ∧ (∀ p ∈ qs.head?, p.isRight) ∧
      Pieced spell valid (Text.trimStart t) (.inl (Text.trimStart u) :: qs) := by
  have free {u after : Text} (hu : Free spell valid u after) :
      Free spell valid (Text.trimStart u) after := by
    obtain ⟨x, hx⟩ := trimStart_isSuffix u
    exact Free.right (u := x) (hx.symm ▸ hu)
  cases h with
  | last hu => exact ⟨_, [], rfl, by simp, .last (free hu)⟩
  | @next u rest a ps hu ha hp =>
    have hh : ∀ c ∈ (spell a ++ rest).head?, isBlank c = false := by
      obtain ⟨c, s, hc, hb⟩ := hs.head a
      simpa [hc] using hb
    rw [trimStart_append hh]
    exact ⟨u, _, rfl, by simp, .next (free hu) ha hp⟩

theorem Pieced.trimEnd (h : Pieced spell valid t ps) (hs : Solid spell) :
    ∃ qs u, ps = qs ++ [.inl u] ∧ (∀ p ∈ qs.getLast?, p.isRight) ∧
      Pieced spell valid (Text.trimEnd t) (qs ++ [.inl (Text.trimEnd u)]) := by
  induction h with
  | @last u hu =>
    obtain ⟨x, hx⟩ := trimEnd_isPrefix u
    have hf : Free spell valid (Text.trimEnd u) (x ++ []) := Free.left (hx.symm ▸ hu)
    exact ⟨[], u, rfl, by simp, .last (hf.shorten List.nil_prefix)⟩
  | @next u rest a ps hu ha _ ih =>
    obtain ⟨qs, v, rfl, hq, hp⟩ := ih
    have hl : ∀ c ∈ (u ++ spell a).getLast?, isBlank c = false := by
      obtain ⟨s, c, hc, hb⟩ := hs.last a
      simpa [hc] using hb
    have hx : spell a ++ Text.trimEnd rest <+: spell a ++ rest :=
      (List.prefix_append_right_inj _).2 (trimEnd_isPrefix rest)
    refine ⟨.inl u :: .inr a :: qs, v, rfl, ?_, ?_⟩
    · cases hg : qs.getLast? with
      | none => simp [List.getLast?_cons, hg]
      | some q => simpa [List.getLast?_cons, hg] using hq q hg
    · rw [← List.append_assoc, trimEnd_append hl, List.append_assoc]
      exact .next (hu.shorten hx) ha hp

theorem mem_pieces_trim (hr : Recognises token spell valid) (hs : Solid spell) :
    .inr a ∈ pieces token (trim t) ↔ .inr a ∈ pieces token t := by
  obtain ⟨u, qs, he, -, hp⟩ := (pieced_pieces hr t).trimStart hs
  obtain ⟨rs, v, he', -, hp'⟩ := (pieced_pieces hr (Text.trimStart t)).trimEnd hs
  have hstart : .inr a ∈ pieces token (Text.trimStart t) ↔ .inr a ∈ pieces token t := by
    rw [hp.pieces_eq hr, he]
    simp
  rw [trim, hp'.pieces_eq hr, ← hstart, he']
  simp

end SerialNovel.Text
