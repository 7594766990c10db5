import SerialNovel.Script.Node
import SerialNovel.Proofs.Text.Trim
import Mathlib.Data.List.Infix

namespace SerialNovel

namespace Quotes

theorem mem_pairs {p : Char × Char} :
    p ∈ pairs ↔ p = ('“', '”') ∨ p = ('"', '"') ∨ p = ('「', '」') := by
  simp [pairs]

theorem exists_of_within? {t inner : Text} (h : within? t = some inner) :
    ∃ p ∈ pairs, t = p.1 :: (inner ++ [p.2]) := by
  obtain ⟨p, hp, hi⟩ := List.exists_of_findSome?_eq_some h
  obtain ⟨u, hu, hv⟩ := Option.bind_eq_some_iff.1 hi
  refine ⟨p, hp, ?_⟩
  rw [Text.after?_eq_some.1 hu, Text.before?_eq_some.1 hv]
  rfl

theorem peel_isInfix (t : Text) : peel t <:+: t := by
  fun_induction peel t with
  | case1 => exact List.infix_rfl
  | case2 t inner h ih =>
    obtain ⟨p, -, rfl⟩ := exists_of_within? h
    exact (ih.trans (Text.trim_isInfix inner)).trans ⟨[p.1], [p.2], by simp⟩

theorem strip_isInfix (t : Text) : strip t <:+: t :=
  (peel_isInfix _).trans (Text.trim_isInfix t)

end Quotes

namespace Node

theorem withoutName_cases (name text : Text) : withoutName name text = text ∨
    ∃ gap, text = name ++ (gap ++ withoutName name text) ∧
      ∀ c ∈ gap, Text.isBlank c ∨ c = ':' ∨ c = '：' := by
  unfold withoutName
  split
  · exact .inl rfl
  split
  · exact .inl rfl
  · next rest hr =>
    split
    · next c speech hc =>
      split
      · next hcolon =>
        have htext := Text.after?_eq_some.1 hr
        have hrest : rest = rest.takeWhile Text.isBlank ++ c :: speech := by
          rw [← hc, Text.trimStart, List.takeWhile_append_dropWhile]
        have hspeech : speech = speech.takeWhile Text.isBlank ++ Text.trimStart speech :=
          List.takeWhile_append_dropWhile.symm
        refine .inr ⟨rest.takeWhile Text.isBlank ++ c :: speech.takeWhile Text.isBlank, ?_, ?_⟩
        · rwa [List.append_assoc, List.cons_append, ← hspeech, ← hrest]
        · intro d hd
          rcases List.mem_append.1 hd with hd | hd
          · exact .inl (List.mem_takeWhile_imp hd)
          rcases List.mem_cons.1 hd with rfl | hd
          · exact .inr (by simpa using hcolon)
          · exact .inl (List.mem_takeWhile_imp hd)
      · exact .inl rfl
    · exact .inl rfl

theorem withoutName_isSuffix (name text : Text) : withoutName name text <:+ text := by
  rcases withoutName_cases name text with h | ⟨gap, h, -⟩
  · rw [h]
  · exact ⟨name ++ gap, by rw [List.append_assoc, ← h]⟩

theorem displayText_isInfix (n : Node) : n.displayText <:+: n.rawText := by
  cases n with
  | dialogue key name text =>
    exact (Quotes.strip_isInfix _).trans (withoutName_isSuffix name text).isInfix
  | _ => exact List.infix_rfl

end Node

namespace Quotes

/-- No quote is closed before it is opened, and each that is opened is closed. -/
structure Balanced (t : Text) : Prop where
  closed_le : ∀ p, p <+: t → p.count '”' ≤ p.count '“'
  closed_eq : t.count '”' = t.count '“'

/-- The quote that opens a text is closed at its last character and not before. -/
def Partnered (t : Text) : Prop :=
  ∀ p, p <+: t → p ≠ [] → p ≠ t → p.count '”' < p.count '“'

instance (t : Text) : Decidable (Balanced t) :=
  decidable_of_iff ((∀ p ∈ t.inits, p.count '”' ≤ p.count '“') ∧ t.count '”' = t.count '“')
    ⟨fun ⟨h, he⟩ => ⟨fun p hp => h p ((List.mem_inits p t).2 hp), he⟩,
      fun h => ⟨fun p hp => h.closed_le p ((List.mem_inits p t).1 hp), h.closed_eq⟩⟩

instance (t : Text) : Decidable (Partnered t) :=
  decidable_of_iff (∀ p ∈ t.inits, p ≠ [] → p ≠ t → p.count '”' < p.count '“')
    ⟨fun h p hp => h p ((List.mem_inits p t).2 hp), fun h p hp => h p ((List.mem_inits p t).1 hp)⟩

def isCurly (c : Char) : Bool := c == '“' || c == '”'

variable {s t : Text}

theorem balanced_filter : Balanced (t.filter isCurly) ↔ Balanced t := by
  have hopen (p : Text) : (p.filter isCurly).count '“' = p.count '“' := List.count_filter rfl
  have hclose (p : Text) : (p.filter isCurly).count '”' = p.count '”' := List.count_filter rfl
  constructor
  · rintro ⟨hle, heq⟩
    rw [hopen, hclose] at heq
    refine ⟨fun p hp => ?_, heq⟩
    rw [← hopen, ← hclose]
    exact hle _ (hp.filter isCurly)
  · rintro ⟨hle, heq⟩
    refine ⟨?_, by rw [hopen, hclose, heq]⟩
    rintro p ⟨r, hr⟩
    obtain ⟨q, q', rfl, rfl, -⟩ := List.filter_eq_append_iff.1 hr.symm
    rw [hopen, hclose]
    exact hle q (List.prefix_append q q')

theorem balanced_congr (h : s.filter isCurly = t.filter isCurly) : Balanced s ↔ Balanced t := by
  rw [← balanced_filter, h, balanced_filter]

theorem filter_eq_nil (h : ∀ c ∈ t, Text.isBlank c ∨ c = ':' ∨ c = '：') :
    t.filter isCurly = [] := by
  refine List.filter_eq_nil_iff.2 fun c hc => ?_
  rcases h c hc with hb | rfl | rfl
  · have ho : c ≠ '“' := Text.ne_of_isBlank hb (by decide)
    have hc : c ≠ '”' := Text.ne_of_isBlank hb (by decide)
    simp [isCurly, ho, hc]
  · decide
  · decide

theorem balanced_trim : Balanced (Text.trim t) ↔ Balanced t := by
  obtain ⟨a, b, ht, hb⟩ := Text.exists_eq_trim t
  obtain ⟨ha, hb⟩ := List.forall_mem_append.1 hb
  apply balanced_congr
  have ha := filter_eq_nil fun c hc => .inl (ha c hc)
  have hb := filter_eq_nil fun c hc => .inl (hb c hc)
  conv => rhs; rw [ht]
  rw [List.filter_append, List.filter_append, ha, hb, List.nil_append, List.append_nil]

/-- After a part with quotes of its own the rest is balanced if the part is. -/
theorem balanced_right_iff (h : Balanced (s ++ t)) : Balanced t ↔ Balanced s := by
  have htotal := h.closed_eq
  rw [List.count_append, List.count_append] at htotal
  constructor
  · intro ht
    have := ht.closed_eq
    exact ⟨fun p hp => h.closed_le p (hp.trans (List.prefix_append s t)), by omega⟩
  · intro hs
    have heq := hs.closed_eq
    refine ⟨fun p hp => ?_, by omega⟩
    have := h.closed_le (s ++ p) ((List.prefix_append_right_inj s).2 hp)
    rw [List.count_append, List.count_append] at this
    omega

theorem Balanced.enclose (h : Balanced t) : Balanced ('“' :: (t ++ ['”'])) := by
  have heq := h.closed_eq
  refine ⟨fun p hp => ?_, by simp [heq]⟩
  rcases List.prefix_cons_iff.1 hp with rfl | ⟨q, rfl, hq⟩
  · exact Nat.le_refl _
  rcases List.prefix_concat_iff.1 hq with rfl | hq
  · simp [heq]
  · have := h.closed_le q hq
    simp
    omega

/-- Quotes around a text belong together if the text is balanced without them. -/
theorem partnered_iff (h : Balanced ('“' :: (t ++ ['”']))) :
    Partnered ('“' :: (t ++ ['”'])) ↔ Balanced t := by
  have htotal := h.closed_eq
  simp only [List.count_cons, List.count_append] at htotal
  constructor
  · intro hp
    refine ⟨fun p hpt => ?_, by simpa using htotal⟩
    have hne : '“' :: p ≠ '“' :: (t ++ ['”']) := by
      intro he
      have hlen := hpt.length_le
      rw [(List.cons.inj he).2, List.length_append, List.length_singleton] at hlen
      omega
    have := hp ('“' :: p) (List.cons_prefix_cons.2 ⟨rfl, hpt.trans (List.prefix_append _ _)⟩)
      (by simp) hne
    simp at this
    omega
  · intro ht p hp hne hnt
    obtain ⟨q, rfl, hq⟩ := (List.prefix_cons_iff.1 hp).resolve_left hne
    have hq := (List.prefix_concat_iff.1 hq).resolve_left fun he => hnt (by rw [he])
    have := ht.closed_le q hq
    simp
    omega

/-- The texts that lose the quotes around them, the whole text first. -/
def layers (t : Text) : List Text :=
  match _h : within? t with
  | none => []
  | some inner => t :: layers (Text.trim inner)
termination_by t.length
decreasing_by exact Nat.lt_of_le_of_lt (length_trim_le inner) (length_of_within? _h)

theorem layers_of_within? {inner : Text} (h : within? t = some inner) :
    layers t = t :: layers (Text.trim inner) := by
  rw [layers]
  split
  · simp_all
  · simp_all

theorem balanced_of_not_curly {p : Char × Char} (hp : p ∈ pairs) (hc : p.1 ≠ '“') (inner : Text) :
    Balanced (p.1 :: (inner ++ [p.2])) ↔ Balanced inner := by
  apply balanced_congr
  rcases mem_pairs.1 hp with rfl | rfl | rfl
  · exact absurd rfl hc
  · simp [isCurly]
  · simp [isCurly]

theorem eq_curly {p : Char × Char} (hp : p ∈ pairs) (hc : p.1 = '“') : p = ('“', '”') := by
  rcases mem_pairs.1 hp with rfl | rfl | rfl
  · rfl
  · simp at hc
  · simp at hc

theorem balanced_of_peel (h : Balanced (peel t)) : Balanced t := by
  fun_induction peel t with
  | case1 => exact h
  | case2 t inner hw ih =>
    have hi : Balanced inner := balanced_trim.1 (ih h)
    obtain ⟨p, hp, rfl⟩ := exists_of_within? hw
    by_cases hc : p.1 = '“'
    · rw [eq_curly hp hc]
      exact hi.enclose
    · exact (balanced_of_not_curly hp hc inner).2 hi

/-- A balanced text stays so if each pair of curly quotes that it loses belongs together, and not
otherwise: quotes that are lost later do not make up for it. -/
theorem balanced_peel_iff (h : Balanced t) :
    Balanced (peel t) ↔ ∀ u ∈ layers t, u.head? = some '“' → Partnered u := by
  fun_induction peel t with
  | case1 t hw =>
    have hl : layers t = [] := by
      rw [layers]
      split
      · rfl
      · simp_all
    simp [hl, h]
  | case2 t inner hw ih =>
    rw [layers_of_within? hw, List.forall_mem_cons]
    obtain ⟨p, hp, rfl⟩ := exists_of_within? hw
    have hhead : (p.1 :: (inner ++ [p.2])).head? = some '“' ↔ p.1 = '“' := by simp
    rw [hhead]
    by_cases hc : p.1 = '“'
    · obtain rfl := eq_curly hp hc
      have hpartner := partnered_iff h
      by_cases hi : Balanced inner
      · simp [hpartner.2 hi, ih (balanced_trim.2 hi)]
      · have hn : ¬ Balanced (peel (Text.trim inner)) := fun hb =>
          hi (balanced_trim.1 (balanced_of_peel hb))
        simp [hpartner, hi, hn]
    · have hi := (balanced_of_not_curly hp hc inner).1 h
      simp [hc, ih (balanced_trim.2 hi)]

theorem balanced_withoutName_iff (name : Text) (h : Balanced t) :
    Balanced (Node.withoutName name t) ↔ Node.withoutName name t = t ∨ Balanced name := by
  rcases Node.withoutName_cases name t with he | ⟨gap, ht, hgap⟩
  · simp [he, h]
  · generalize Node.withoutName name t = rest at ht ⊢
    have hr : Balanced (name ++ rest) := by
      refine (balanced_congr ?_).1 (ht ▸ h)
      rw [List.filter_append, List.filter_append, filter_eq_nil hgap, List.nil_append,
        List.filter_append]
    rw [balanced_right_iff hr]
    refine ⟨.inr, fun hx => hx.elim (fun he => ?_) id⟩
    exact (balanced_right_iff hr).1 (he ▸ h)

/-- Of a dialogue with balanced quotes the stage shows a text with balanced quotes if those of the
name before it are balanced and each pair of curly quotes taken off it belongs together. Else the
quotes that are left are not balanced. -/
theorem balanced_displayText_iff (key : SpeakerKey) (name : Text) {text : Text}
    (h : Balanced text) :
    Balanced (Node.dialogue key name text).displayText ↔
      (Node.withoutName name text = text ∨ Balanced name) ∧
      ∀ u ∈ layers (Text.trim (Node.withoutName name text)),
        u.head? = some '“' → Partnered u := by
  have hname := balanced_withoutName_iff name h
  rw [← hname]
  constructor
  · intro hb
    have hs : Balanced (Text.trim (Node.withoutName name text)) := balanced_of_peel hb
    exact ⟨balanced_trim.1 hs, (balanced_peel_iff hs).1 hb⟩
  · rintro ⟨hs, hu⟩
    exact (balanced_peel_iff (balanced_trim.2 hs)).2 hu

/-- Quotes in corner brackets in quotes. -/
theorem balanced_displayText_of_nested :
    let text := "Zeri: “「Say “now” and go」”".toList
    Balanced text ∧ Balanced (Node.dialogue ⟨"zeri".toList⟩ "Zeri".toList text).displayText := by
  intro text
  have h : Balanced text := by decide +kernel
  have hl : layers (Text.trim (Node.withoutName "Zeri".toList text)) =
      ["“「Say “now” and go」”".toList, "「Say “now” and go」".toList] := by
    decide +kernel
  refine ⟨h, (balanced_displayText_iff _ _ h).2 ⟨.inr (by decide), ?_⟩⟩
  rw [hl]
  decide +kernel

/-- The quotes of two passages are taken for one pair, and the inner ones are left alone. -/
theorem outer_quotes_of_two_passages :
    let text := "Zeri: “Go,” she said, “now.”".toList
    let shown := (Node.dialogue ⟨"zeri".toList⟩ "Zeri".toList text).displayText
    Balanced text ∧ shown = "Go,” she said, “now.".toList ∧ ¬ Balanced shown := by
  decide +kernel

end Quotes

end SerialNovel
