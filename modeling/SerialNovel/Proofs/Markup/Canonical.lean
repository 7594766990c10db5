import Mathlib.Data.List.Chain
import SerialNovel.Proofs.Markup.Lossless

namespace SerialNovel.Inline

/-- A whole tag with a known name stands on one line of the text. -/
def HasTag (t : Text) : Prop := ∃ tag : Tag, '\n' ∉ tag.content ∧ tag.markup <:+: t

def HasPair (t : Text) : Prop := ∃ content, '\n' ∉ content ∧ (Run.bold content).markup <:+: t

/-- What stands in a text before, between and after the places of some tags. -/
def outside (t : Text) (xs : List Span) : List Text :=
  List.zipWith (fun stop start => Text.slice stop start t) (0 :: xs.map Text.Found.stop)
    (xs.map Text.Found.start ++ [Text.utf8Size t])

/-- Tags at their places in a text, from left to right, with no whole tag around them. -/
structure Placed (t : Text) (xs : List Span) : Prop where
  ordered : xs.Pairwise fun x y => x.stop ≤ y.start
  start_lt_stop : ∀ x ∈ xs, x.start < x.stop
  boundary : ∀ x ∈ xs, ∃ before inside after, t = before ++ (inside ++ after) ∧
    x.start = Text.utf8Size before ∧ x.stop = Text.utf8Size (before ++ inside)
  covered : ∀ x ∈ xs, Text.slice x.start x.stop t =
    "[[".toList ++ x.tag.style.tag ++ "::".toList ++ x.tag.content ++ "]]".toList
  content : ∀ x ∈ xs, ¬ "]]".toList <:+: x.tag.content ∧ '\n' ∉ x.tag.content
  outside : ∀ u ∈ outside t xs, ¬ HasTag u

def Apart (r s : Run) : Prop := r.kind = .plain → s.kind ≠ .plain

/-- The runs of a text that leave none of its markup unread. -/
structure Canonical (t : Text) (rs : List Run) : Prop where
  tags : ∀ r ∈ rs, r.kind = .plain ∨ r.kind = .bold → ¬ HasTag r.text
  pairs : ∀ r ∈ rs, r.kind = .plain → ¬ HasPair r.text
  bold : ∀ r ∈ rs, r.kind = .bold → ¬ "**".toList <:+: r.text ∧ '\n' ∉ r.text
  apart : rs.IsChain Apart
  plain : ∀ r ∈ rs, r.kind = .plain → r.text = [] → t = []

theorem HasTag.mono {s t : Text} (h : HasTag s) (hs : s <:+: t) : HasTag t := by
  obtain ⟨tag, hl, ht⟩ := h
  exact ⟨tag, hl, ht.trans hs⟩

theorem HasPair.ne_nil {t : Text} (h : HasPair t) : t ≠ [] := by
  rintro rfl
  obtain ⟨content, -, hc⟩ := h
  exact recognises_boldAt?.spell_ne_nil content (List.infix_nil.1 hc)

theorem HasTag.ne_nil {t : Text} (h : HasTag t) : t ≠ [] := by
  rintro rfl
  obtain ⟨tag, -, ht⟩ := h
  exact recognises_tagAt?.spell_ne_nil tag (List.infix_nil.1 ht)

theorem outside_spans (t : Text) : outside t (spans t) = gaps t :=
  (Text.getLeft?_partsFrom t 0 (spans t)).symm

theorem not_hasTag_gap {t u : Text} (hu : .inl u ∈ pieces t) : ¬ HasTag u := by
  rintro ⟨tag, hl, ht⟩
  obtain ⟨tag, hv, ht⟩ := exists_valid_tag hl ht
  have hp : Text.Pieced Tag.markup Tag.Valid t (pieces t) := Text.pieced_pieces recognises_tagAt? t
  obtain ⟨_, _, -, hf⟩ := hp.free_of_mem hu
  exact hf.not_isInfix hv (recognises_tagAt?.spell_ne_nil tag) ht

theorem valid_of_mem_spans {t : Text} {x : Span} (hx : x ∈ spans t) : x.tag.Valid := by
  have hp : .inr x.tag ∈ pieces t := (Text.mem_pieces_iff spells_tagAt?).2 ⟨x, hx, rfl⟩
  exact ((Text.pieced_pieces recognises_tagAt? t).of_mem hp).1

theorem not_isInfix_of_enclosable {closing content : Text} (h : Text.Enclosable closing content) :
    ¬ closing <:+: content :=
  fun hc => h.2 (hc.trans (List.prefix_append content _).isInfix)

theorem placed_spans (t : Text) : Placed t (spans t) := by
  have place {x : Span} (hx : x ∈ spans t) : ∃ a b, t = a ++ (x.tag.markup ++ b) ∧
      x.start = Text.utf8Size a ∧ x.stop = x.start + Text.utf8Size x.tag.markup :=
    Text.of_mem_find spells_tagAt? hx
  refine ⟨Text.pairwise_find tagAt? t, fun x hx => ?_, fun x hx => ?_, fun x hx => ?_,
    fun x hx => ?_, fun u hu => ?_⟩
  · obtain ⟨a, b, -, -, hs⟩ := place hx
    rw [hs]
    exact Nat.lt_add_of_pos_right (Text.utf8Size_pos (recognises_tagAt?.spell_ne_nil x.tag))
  · obtain ⟨a, b, ht, ha, hs⟩ := place hx
    exact ⟨a, x.tag.markup, b, ht, ha, by rw [hs, ha, Text.utf8Size_append]⟩
  · obtain ⟨a, b, ht, ha, hs⟩ := place hx
    rw [hs, ha, ht, Text.slice_append]
    rfl
  · have hv := valid_of_mem_spans hx
    exact ⟨not_isInfix_of_enclosable hv, hv.1⟩
  · rw [outside_spans] at hu
    obtain ⟨p, hp, he⟩ := List.mem_filterMap.1 hu
    cases p with
    | inl v =>
      obtain rfl : v = u := Option.some.inj he
      exact not_hasTag_gap hp
    | inr tag => simp at he

theorem not_hasPair_gap {u v : Text} (hv : .inl v ∈ Text.pieces boldAt? u) : ¬ HasPair v := by
  rintro ⟨content, hl, hc⟩
  obtain ⟨inner, hi, hc⟩ := exists_enclosable_bold hl hc
  obtain ⟨_, _, -, hf⟩ := (Text.pieced_pieces recognises_boldAt? u).free_of_mem hv
  exact hf.not_isInfix hi (recognises_boldAt?.spell_ne_nil inner) hc

/-- Pieces with runs of their own have no two plain runs side by side. -/
theorem isChain_flatMap {α : Type} {spell : α → Text} {valid : α → Prop} {gap : Text → List Run}
    {run : α → Run} (hgap : ∀ u, (gap u).IsChain Apart) (hrun : ∀ a, (run a).kind ≠ .plain)
    {t : Text} {ps : List (Text ⊕ α)} (h : Text.Pieced spell valid t ps) :
    (ps.flatMap (Sum.elim gap fun a => [run a])).IsChain Apart := by
  induction h with
  | @last u => simpa using hgap u
  | @next u rest a ps _ _ _ ih =>
    have hr : (run a :: ps.flatMap (Sum.elim gap fun a => [run a])).IsChain Apart :=
      List.isChain_cons.2 ⟨fun s _ hk => absurd hk (hrun a), ih⟩
    refine List.isChain_append.2 ⟨hgap u, hr, fun r _ s hs _ => ?_⟩
    rw [← Option.some.inj hs]
    exact hrun a

theorem isChain_plainRun (u : Text) : (plainRun u).IsChain Apart := by
  cases u with
  | nil => exact .nil
  | cons c u => exact .singleton _

theorem isChain_plainRuns (u : Text) : (plainRuns u).IsChain Apart :=
  isChain_flatMap isChain_plainRun (fun _ => by simp [Run.bold])
    (Text.pieced_pieces recognises_boldAt? u)

theorem isChain_pieceRuns (t : Text) : (pieceRuns t).IsChain Apart :=
  isChain_flatMap isChain_plainRuns (fun _ => by simp [Tag.run, Run.styled])
    (Text.pieced_pieces recognises_tagAt? t)

section

variable {t u : Text} {r : Run}

theorem exists_gap (hr : r ∈ pieceRuns t) (hk : ∀ s, r.kind ≠ .styled s) :
    ∃ u, .inl u ∈ pieces t ∧ r ∈ plainRuns u := by
  rcases mem_pieceRuns.1 hr with h | ⟨tag, -, rfl⟩
  · exact h
  · exact absurd rfl (hk tag.style)

theorem of_mem_plainRuns_of_plain (hr : r ∈ plainRuns u) (hk : r.kind = .plain) :
    r.text ≠ [] ∧ ¬ HasPair r.text := by
  rcases mem_plainRuns.1 hr with ⟨v, hv, hr⟩ | ⟨content, -, rfl⟩
  · obtain ⟨hne, rfl⟩ := mem_plainRun.1 hr
    exact ⟨hne, not_hasPair_gap hv⟩
  · simp [Run.bold] at hk

theorem enclosable_of_mem_plainRuns (hr : r ∈ plainRuns u) (hk : r.kind = .bold) :
    Text.Enclosable boldMark r.text := by
  rcases mem_plainRuns.1 hr with ⟨v, -, hr⟩ | ⟨content, hc, rfl⟩
  · simp [(mem_plainRun.1 hr).2, Run.plain] at hk
  · exact ((Text.pieced_pieces recognises_boldAt? u).of_mem hc).1

theorem canonical_pieceRuns (t : Text) : Canonical t (pieceRuns t) where
  tags r hr hk := by
    obtain ⟨u, hu, hr⟩ := exists_gap hr fun s hs => by simp [hs] at hk
    exact fun ht => not_hasTag_gap hu (ht.mono (text_isInfix_of_mem_plainRuns hr))
  pairs r hr hk := by
    obtain ⟨u, -, hr⟩ := exists_gap hr fun s hs => by simp [hs] at hk
    exact (of_mem_plainRuns_of_plain hr hk).2
  bold r hr hk := by
    obtain ⟨u, -, hr⟩ := exists_gap hr fun s hs => by simp [hs] at hk
    have he := enclosable_of_mem_plainRuns hr hk
    exact ⟨not_isInfix_of_enclosable he, he.1⟩
  apart := isChain_pieceRuns t
  plain r hr hk hn := by
    obtain ⟨u, -, hr⟩ := exists_gap hr fun s hs => by simp [hs] at hk
    exact absurd hn (of_mem_plainRuns_of_plain hr hk).1

theorem canonical_nil : Canonical [] [Run.plain []] where
  tags r hr _ ht := ht.ne_nil (by simp [List.mem_singleton.1 hr, Run.plain])
  pairs r hr _ hp := hp.ne_nil (by simp [List.mem_singleton.1 hr, Run.plain])
  bold r hr hk := by simp [List.mem_singleton.1 hr, Run.plain] at hk
  apart := .singleton _
  plain _ _ _ _ := rfl

theorem canonical_runs (t : Text) : Canonical t (runs t) := by
  by_cases h : t = []
  · subst h
    exact canonical_nil
  · rw [runs_of_ne_nil h]
    exact canonical_pieceRuns t

end

/-- The tags of a text stand at their places with no whole tag around them, and its runs leave no
markup unread. -/
theorem markup_read_whole (t : Text) : Placed t (spans t) ∧ Canonical t (runs t) :=
  ⟨placed_spans t, canonical_runs t⟩

example : spans "é[[FOO::[[MASK::x\ny]][[BLUE::a]]]".toList = [⟨22, 33, ⟨.info, ['a']⟩⟩] := by decide

end SerialNovel.Inline
