import SerialNovel.Proofs.Text.Pieces
import Mathlib.Data.List.Forall2

namespace SerialNovel.Text

/-- Marks of which none is empty, starts another or starts inside another. -/
structure Unambiguous (P : Text → Prop) : Prop where
  ne_nil : ∀ {m : Text}, P m → m ≠ []
  unique : ∀ {m n t : Text}, P m → P n → m <+: t → n <+: t → m = n
  apart : Apart id P

/-- A text, and the same text with marks between its characters. -/
inductive Laced (P : Text → Prop) : Text → Text → Prop
  | nil : Laced P [] []
  | char {rest t : Text} (c : Char) : Laced P rest t → Laced P (c :: rest) (c :: t)
  | mark {m rest t : Text} : P m → Laced P rest t → Laced P rest (m ++ t)

/-- A text, and the same text with marks put in, those of the last kind first. A mark that is put in
later can stand inside an earlier one. -/
def Layered : List (Text → Prop) → Text → Text → Prop
  | [], shown, t => t = shown
  | K :: Ks, shown, t => ∃ u, Laced K u t ∧ Layered Ks shown u

/-- One reading of a text that takes out the marks of a kind. -/
def TakesOut (f : Text → Text) (K : Text → Prop) : Prop :=
  ∃ (α : Type) (token : Text → Option (α × Nat)) (spell : α → Text) (valid : α → Prop),
    Recognises token spell valid ∧ (∀ m, K m ↔ ∃ a, valid a ∧ spell a = m) ∧ f = without token

section

variable {α : Type} {token : Text → Option (α × Nat)} {spell : α → Text} {valid : α → Prop}
  {u after t : Text}

theorem without_append_of_free (hr : Recognises token spell valid) (h : Free spell valid u after) :
    without token (u ++ after) = u ++ without token after := by
  rw [without, scan, scanFrom_append_of_free hr h, List.filterMap_append, List.filterMap_map]
  congr 1
  exact List.filterMap_some

theorem without_spell_append (hr : Recognises token spell valid) {a : α} (ha : valid a)
    (t : Text) : without token (spell a ++ t) = without token t := by
  rw [without, scan, scanFrom_spell hr ha]
  rfl

theorem without_of_free (hr : Recognises token spell valid) (h : Free spell valid t []) :
    without token t = t := by
  have := without_append_of_free hr h
  rwa [List.append_nil, show without token [] = [] from rfl, List.append_nil] at this

theorem Pieced.length_without {ps : List (Text ⊕ α)} (hr : Recognises token spell valid)
    (h : Pieced spell valid t ps) : (without token t).length ≤ t.length ∧
      ((∃ a, .inr a ∈ ps) → (without token t).length < t.length) := by
  induction h with
  | last hu =>
    rw [without_of_free hr hu]
    simp
  | @next u rest a ps hu ha _ ih =>
    have hl := List.length_pos_iff.2 (hr.spell_ne_nil a)
    rw [without_append_of_free hr hu, without_spell_append hr ha]
    simp only [List.length_append]
    omega

end

namespace TakesOut

variable {f : Text → Text} {K : Text → Prop} {m t : Text}

theorem length_le (h : TakesOut f K) (t : Text) : (f t).length ≤ t.length := by
  obtain ⟨α, token, spell, valid, hr, -, rfl⟩ := h
  exact ((pieced_pieces hr t).length_without hr).1

theorem length_lt (h : TakesOut f K) (hm : K m) (hi : m <:+: t) : (f t).length < t.length := by
  obtain ⟨α, token, spell, valid, hr, hK, rfl⟩ := h
  obtain ⟨a, ha, rfl⟩ := (hK m).1 hm
  exact ((pieced_pieces hr t).length_without hr).2 ((exists_token_iff hr).2 ⟨a, ha, hi⟩)

theorem eq_self (h : TakesOut f K) (hn : ∀ m, K m → ¬ m <:+: t) : f t = t := by
  obtain ⟨α, token, spell, valid, hr, hK, rfl⟩ := h
  refine without_of_free hr fun x y a he _ ha hp => ?_
  rw [List.append_nil] at hp
  refine hn _ ((hK _).2 ⟨a, ha, rfl⟩) ?_
  rw [he]
  exact hp.isInfix.trans (List.suffix_append x y).isInfix

theorem not_isInfix (h : TakesOut f K) (hl : t.length ≤ (f t).length) (hm : K m) : ¬ m <:+: t :=
  fun hi => Nat.not_lt_of_le hl (h.length_lt hm hi)

end TakesOut

section

variable {fs : List (Text → Text)} {Ks : List (Text → Prop)}

theorem length_foldl_le (h : List.Forall₂ TakesOut fs Ks) (t : Text) :
    (fs.foldl (fun t f => f t) t).length ≤ t.length := by
  induction h generalizing t with
  | nil => exact Nat.le_refl _
  | cons hf _ ih => exact Nat.le_trans (ih _) (hf.length_le t)

theorem foldl_eq_self_iff (h : List.Forall₂ TakesOut fs Ks) {t : Text} :
    fs.foldl (fun t f => f t) t = t ↔ ∀ K ∈ Ks, ∀ m, K m → ¬ m <:+: t := by
  induction h with
  | nil => simp
  | @cons f K fs Ks hf h ih =>
    rw [List.foldl_cons, List.forall_mem_cons]
    constructor
    · intro he
      -- what is taken out does not come back
      have hl : t.length ≤ (f t).length := by
        have := length_foldl_le h (f t)
        rwa [he] at this
      have hn : ∀ m, K m → ¬ m <:+: t := fun m hm => hf.not_isInfix hl hm
      rw [hf.eq_self hn] at he
      exact ⟨hn, ih.1 he⟩
    · rintro ⟨hn, hs⟩
      rw [hf.eq_self hn]
      exact ih.2 hs

end

section

variable {P Q K : Text → Prop} {rest t m x y : Text}

theorem Unambiguous.mono (hP : Unambiguous P) (hQ : ∀ m, Q m → P m) : Unambiguous Q where
  ne_nil hm := hP.ne_nil (hQ _ hm)
  unique hm hn := hP.unique (hQ _ hm) (hQ _ hn)
  apart hm hn := hP.apart (hQ _ hm) (hQ _ hn)

/-- If a laced text goes on like a mark, so does the text without its marks. -/
theorem Laced.prefix_of_suffix (hP : Unambiguous P) (hQ : ∀ m, Q m → P m) (h : Laced Q rest t)
    (hm : P m) (he : m = x ++ y) (hx : x ≠ []) (hp : y <+: t) : y <+: rest := by
  induction h generalizing x y with
  | nil => exact hp
  | char c _ ih =>
    cases y with
    | nil => exact List.nil_prefix
    | cons d y =>
      obtain ⟨rfl, hy⟩ := List.cons_prefix_cons.1 hp
      have hs := ih (x := x ++ [d]) (by rw [he, List.append_assoc]; rfl) (by simp) hy
      exact List.cons_prefix_cons.2 ⟨rfl, hs⟩
  | @mark n rest t hn _ ih =>
    cases y with
    | nil => exact List.nil_prefix
    | cons d y =>
      -- a mark would start inside another
      obtain ⟨after, ha⟩ := hp
      exact absurd ⟨t, ha.symm⟩ (hP.apart hm (hQ n hn) he hx (by simp))

theorem Laced.not_prefix (hP : Unambiguous P) (hQ : ∀ m, Q m → P m) (h : Laced Q rest t)
    {c : Char} (hm : P m) (hn : ¬ m <+: c :: rest) : ¬ m <+: c :: t := by
  intro hp
  cases m with
  | nil => exact hP.ne_nil hm rfl
  | cons d m =>
    obtain ⟨rfl, hy⟩ := List.cons_prefix_cons.1 hp
    have hs := h.prefix_of_suffix hP hQ hm (x := [d]) rfl (by simp) hy
    exact hn (List.cons_prefix_cons.2 ⟨rfl, hs⟩)

theorem Laced.isInfix (hP : Unambiguous P) (hQ : ∀ m, Q m → P m) (h : Laced Q rest t) (hm : P m)
    (hi : m <:+: t) : Q m ∨ m <:+: rest := by
  induction h with
  | nil => exact .inr hi
  | @char rest t c h ih =>
    rcases List.infix_cons_iff.1 hi with hp | hi
    · refine .inr (Classical.byContradiction fun hn => ?_)
      exact h.not_prefix hP hQ hm (fun hp => hn hp.isInfix) hp
    · exact (ih hi).imp_right fun hi => hi.trans (List.suffix_cons c rest).isInfix
  | @mark n rest t hq _ ih =>
    obtain ⟨x, y, he⟩ := hi
    rw [List.append_assoc] at he
    rcases List.append_eq_append_iff.1 he with ⟨z, rfl, hz⟩ | ⟨z, rfl, hz⟩
    · cases x with
      | nil => exact .inl (hP.unique hm (hQ z hq) ⟨y, hz⟩ (List.prefix_append z t) ▸ hq)
      | cons c x =>
        by_cases hne : z = []
        · rw [hne, List.nil_append] at hz
          exact ih ⟨[], y, by rw [List.nil_append, hz]⟩
        · exact absurd ⟨y, hz⟩ (hP.apart (hQ _ hq) hm rfl (by simp) hne)
    · exact ih ⟨z, y, by rw [hz, List.append_assoc]⟩

theorem Layered.isInfix (hP : Unambiguous P) {Ks : List (Text → Prop)} {shown : Text}
    (hK : ∀ K ∈ Ks, ∀ m, K m → P m) (h : Layered Ks shown t) (hm : P m) (hi : m <:+: t) :
    (∃ K ∈ Ks, K m) ∨ m <:+: shown := by
  induction Ks generalizing t with
  | nil => exact .inr (h ▸ hi)
  | cons K Ks ih =>
    obtain ⟨u, hl, h⟩ := h
    obtain ⟨hk, hs⟩ := List.forall_mem_cons.1 hK
    rcases hl.isInfix hP hk hm hi with hq | hi
    · exact .inl ⟨K, List.mem_cons_self, hq⟩
    · exact (ih hs h hi).imp_left fun ⟨L, hL, hq⟩ => ⟨L, List.mem_cons_of_mem K hL, hq⟩

/-- Reading a laced text for a kind takes out the marks of that kind and nothing else. -/
theorem TakesOut.laced {f : Text → Text} (h : TakesOut f K) (hP : Unambiguous P)
    (hK : ∀ m, K m → P m) (hQ : ∀ m, Q m → P m) (hl : Laced Q rest t)
    (hn : ∀ m, P m → ¬ m <:+: rest) : Laced (fun m => Q m ∧ ¬ K m) rest (f t) := by
  obtain ⟨α, token, spell, valid, hr, hs, rfl⟩ := h
  have hv : ∀ {a}, valid a → P (spell a) := fun ha => hK _ ((hs _).2 ⟨_, ha, rfl⟩)
  induction hl with
  | nil => exact .nil
  | @char rest t c hl ih =>
    have hf : Free spell valid [c] t := by
      refine free_cons (fun a ha => ?_) free_nil
      exact hl.not_prefix hP hQ (hv ha) fun hp => hn _ (hv ha) hp.isInfix
    have ht : without token (c :: t) = c :: without token t := without_append_of_free hr hf
    rw [ht]
    exact .char c (ih fun m hm hi => hn m hm (hi.trans (List.suffix_cons c rest).isInfix))
  | @mark n rest t hq _ ih =>
    by_cases hk : K n
    · obtain ⟨a, ha, rfl⟩ := (hs n).1 hk
      rw [without_spell_append hr ha]
      exact ih hn
    · have hf : Free spell valid n t := by
        intro x y a he hy ha hp
        cases x with
        | nil =>
          rw [List.nil_append] at he
          have hu := hP.unique (hv ha) (hQ n hq) hp (he ▸ List.prefix_append n t)
          exact hk ((hs n).2 ⟨a, ha, hu⟩)
        | cons c x => exact hP.apart (hQ n hq) (hv ha) he (by simp) hy hp
      rw [without_append_of_free hr hf]
      exact .mark ⟨hq, hk⟩ (ih hn)

theorem Laced.append (h : Laced Q rest t) (u : Text) : Laced Q (u ++ rest) (u ++ t) := by
  induction u with
  | nil => exact h
  | cons c _ ih => exact .char c ih

theorem TakesOut.laced_self {f : Text → Text} (h : TakesOut f K) (t : Text) :
    Laced K (f t) t := by
  obtain ⟨α, token, spell, valid, hr, hs, rfl⟩ := h
  obtain ⟨ps, hp⟩ := exists_pieced hr t
  induction hp with
  | @last u hu =>
    have hl := Laced.append (Q := K) .nil u
    rw [without_of_free hr hu]
    rwa [List.append_nil] at hl
  | @next u rest a ps hu ha _ ih =>
    rw [without_append_of_free hr hu, without_spell_append hr ha]
    exact (Laced.mark ((hs _).2 ⟨a, ha, rfl⟩) ih).append u

theorem Laced.eq_of_forall_not (h : Laced Q rest t) (hn : ∀ m, ¬ Q m) : t = rest := by
  induction h with
  | nil => rfl
  | char c _ ih => rw [ih]
  | mark hq => exact absurd hq (hn _)

theorem Laced.mono (h : Laced Q rest t) (hP : ∀ m, Q m → P m) : Laced P rest t := by
  induction h with
  | nil => exact .nil
  | char c _ ih => exact .char c ih
  | mark hq _ ih => exact .mark (hP _ hq) ih

theorem laced_foldl {fs : List (Text → Text)} {Ks : List (Text → Prop)} (hP : Unambiguous P)
    (h : List.Forall₂ TakesOut fs Ks) (hK : ∀ K ∈ Ks, ∀ m, K m → P m) (hQ : ∀ m, Q m → P m)
    (hl : Laced Q rest t) (hn : ∀ m, P m → ¬ m <:+: rest) :
    Laced (fun m => Q m ∧ ∀ K ∈ Ks, ¬ K m) rest (fs.foldl (fun t f => f t) t) := by
  induction h generalizing Q t with
  | nil => exact hl.mono fun m hm => ⟨hm, by simp⟩
  | @cons f K fs Ks hf _ ih =>
    obtain ⟨hk, hs⟩ := List.forall_mem_cons.1 hK
    have := ih hs (fun m hm => hQ m hm.1) (hf.laced hP hk hQ hl hn)
    exact this.mono fun m ⟨⟨hq, hnk⟩, ho⟩ => ⟨hq, List.forall_mem_cons.2 ⟨hnk, ho⟩⟩

/-- What is left has no mark of any kind just if it is the text that the marks were put into. -/
theorem foldl_eq_iff_layered {fs : List (Text → Text)} {Ks : List (Text → Prop)} {shown : Text}
    (hP : Unambiguous P) (h : List.Forall₂ TakesOut fs Ks) (hK : ∀ K ∈ Ks, ∀ m, K m → P m)
    (hd : Ks.Pairwise fun K L => ∀ m, K m → ¬ L m) (hn : ∀ m, P m → ¬ m <:+: shown) :
    fs.foldl (fun t f => f t) t = shown ↔ Layered Ks shown t := by
  induction h generalizing t with
  | nil => rfl
  | @cons f K fs Ks hf _ ih =>
    obtain ⟨hk, hs⟩ := List.forall_mem_cons.1 hK
    obtain ⟨hdk, hds⟩ := List.pairwise_cons.1 hd
    rw [List.foldl_cons, ih hs hds]
    refine ⟨fun hl => ⟨f t, hf.laced_self t, hl⟩, ?_⟩
    rintro ⟨u, hl, hu⟩
    have hnu : ∀ m, K m → ¬ m <:+: u := by
      intro m hm hi
      rcases hu.isInfix hP hs (hk m hm) hi with ⟨L, hL, hq⟩ | hi
      · exact hdk L hL m hm hq
      · exact hn m (hk m hm) hi
    have hft := hf.laced (hP.mono hk) (fun m hm => hm) (fun m hm => hm) hl hnu
    rwa [hft.eq_of_forall_not fun m hm => hm.2 hm.1]

end

end SerialNovel.Text
