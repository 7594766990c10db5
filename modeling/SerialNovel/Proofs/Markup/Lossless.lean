import SerialNovel.Proofs.Markup.Recognition

namespace SerialNovel

def Run.opening (r : Run) : Text :=
  match r.kind with
  | .plain => []
  | .bold => boldMark
  | .styled s => tagOpening s

def Run.closing (r : Run) : Text :=
  match r.kind with
  | .plain => []
  | .bold => boldMark
  | .styled _ => tagClosing

theorem Run.markup_eq (r : Run) : r.markup = r.opening ++ r.text ++ r.closing := by
  obtain ⟨kind, text⟩ := r
  cases kind <;> simp [markup, opening, closing]

/-- The tag that a styled run comes from. -/
def Run.tag? (r : Run) : Option Tag := r.style?.map fun s => ⟨s, r.text⟩

def Run.pair? (r : Run) : Option Text := if r.kind = .bold then some r.text else none

namespace Inline

theorem spells_tagAt? : Text.Spells tagAt? Tag.markup := recognises_tagAt?.spells

theorem spells_boldAt? : Text.Spells boldAt? fun content => (Run.bold content).markup :=
  recognises_boldAt?.spells

theorem flatMap_markup_plainRun (t : Text) : (plainRun t).flatMap Run.markup = t := by
  cases t <;> simp [plainRun, Run.plain, Run.markup]

theorem flatMap_markup_pieces {α : Type} {token : Text → Option (α × Nat)} {spell : α → Text}
    (h : Text.Spells token spell) {gap : Text → List Run} {run : α → Run}
    (hgap : ∀ u, (gap u).flatMap Run.markup = u) (hrun : ∀ a, (run a).markup = spell a) (t : Text) :
    ((Text.pieces token t).flatMap (Sum.elim gap fun a => [run a])).flatMap Run.markup = t := by
  have hp : ∀ p : Text ⊕ α,
      (Sum.elim gap (fun a => [run a]) p).flatMap Run.markup = Sum.elim id spell p := by
    rintro (u | a)
    · exact hgap u
    · simp [hrun]
  calc ((Text.pieces token t).flatMap (Sum.elim gap fun a => [run a])).flatMap Run.markup
      = (Text.pieces token t).flatMap (Sum.elim id spell) := by
        simp only [List.flatMap_assoc, hp]
    _ = t := Text.flatMap_pieces h t

theorem flatMap_markup_plainRuns (t : Text) : (plainRuns t).flatMap Run.markup = t :=
  flatMap_markup_pieces spells_boldAt? flatMap_markup_plainRun (fun _ => rfl) t

/-- The runs of the pieces of a text. Only the empty text has none. -/
def pieceRuns (t : Text) : List Run := (pieces t).flatMap (Sum.elim plainRuns fun tag => [tag.run])

theorem runs_eq (t : Text) : runs t = pieceRuns t ∨ pieceRuns t = [] ∧ runs t = [Run.plain t] := by
  unfold runs
  split
  · rename_i h
    exact .inr ⟨h, rfl⟩
  · exact .inl rfl

theorem flatMap_markup_pieceRuns (t : Text) : (pieceRuns t).flatMap Run.markup = t :=
  flatMap_markup_pieces spells_tagAt? flatMap_markup_plainRuns (fun _ => rfl) t

theorem flatMap_markup_runs (t : Text) : (runs t).flatMap Run.markup = t := by
  rcases runs_eq t with h | ⟨-, h⟩
  · rw [h, flatMap_markup_pieceRuns]
  · simp [h, Run.plain, Run.markup]

theorem pieceRuns_eq_nil_iff {t : Text} : pieceRuns t = [] ↔ t = [] := by
  constructor
  · intro h
    rw [← flatMap_markup_pieceRuns t, h]
    rfl
  · rintro rfl
    rfl

theorem runs_of_ne_nil {t : Text} (h : t ≠ []) : runs t = pieceRuns t := by
  rcases runs_eq t with hr | ⟨hn, -⟩
  · exact hr
  · exact absurd (pieceRuns_eq_nil_iff.1 hn) h

section

variable {t u : Text} {r : Run}

theorem mem_plainRun : r ∈ plainRun t ↔ t ≠ [] ∧ r = Run.plain t := by
  cases t <;> simp [plainRun]

theorem mem_plainRuns : r ∈ plainRuns u ↔
    (∃ v, .inl v ∈ Text.pieces boldAt? u ∧ r ∈ plainRun v) ∨
      ∃ content, .inr content ∈ Text.pieces boldAt? u ∧ r = Run.bold content := by
  simp [plainRuns, List.mem_flatMap, Sum.exists]

theorem mem_pieceRuns : r ∈ pieceRuns t ↔
    (∃ u, .inl u ∈ pieces t ∧ r ∈ plainRuns u) ∨ ∃ tag, .inr tag ∈ pieces t ∧ r = tag.run := by
  simp [pieceRuns, List.mem_flatMap, Sum.exists]

theorem text_isInfix_of_mem_plainRuns (h : r ∈ plainRuns u) : r.text <:+: u := by
  have hr : r.text <:+: r.markup := by
    rw [Run.markup_eq]
    exact ⟨r.opening, r.closing, rfl⟩
  have hu : r.markup <:+: (plainRuns u).flatMap Run.markup :=
    List.infix_of_mem_flatten (List.mem_map_of_mem h)
  rw [flatMap_markup_plainRuns] at hu
  exact hr.trans hu

end

section

variable {β : Type} {g : Run → Option β}

theorem filterMap_runs (hg : ∀ u, g (Run.plain u) = none) (t : Text) :
    (runs t).filterMap g = (pieceRuns t).filterMap g := by
  rcases runs_eq t with h | ⟨hn, h⟩
  · rw [h]
  · rw [hn, h, List.filterMap_cons_none (hg t)]

theorem filterMap_plainRuns (hg : ∀ u, g (Run.plain u) = none) (t : Text) :
    (plainRuns t).filterMap g =
      (Text.find boldAt? t).flatMap fun f => (g (Run.bold f.value)).toList := by
  rw [plainRuns, List.filterMap_flatMap, ← Text.flatMap_pieces_found fun c => (g (Run.bold c)).toList]
  congr 1
  funext p
  cases p with
  | inl u =>
    simp only [Sum.elim_inl, plainRun]
    split
    · rfl
    · exact List.filterMap_cons_none (hg u)
  | inr content =>
    cases hc : g (Run.bold content) <;> simp [hc]

end

def pairs (t : Text) : List Text := (Text.find boldAt? t).map Text.Found.value

def gaps (t : Text) : List Text := (pieces t).filterMap Sum.getLeft?

theorem tag?_runs (t : Text) : (runs t).filterMap Run.tag? = (spans t).map Span.tag := by
  have hp : ∀ p : Text ⊕ Tag,
      (Sum.elim plainRuns (fun tag => [tag.run]) p).filterMap Run.tag? =
        Sum.elim (fun _ => []) (fun tag => [tag]) p := by
    rintro (u | tag)
    · rw [Sum.elim_inl, filterMap_plainRuns fun _ => rfl]
      simp [Run.tag?, Run.style?, Run.bold]
    · rfl
  rw [filterMap_runs fun _ => rfl, pieceRuns, List.filterMap_flatMap]
  simp only [hp]
  rw [pieces, Text.flatMap_pieces_found, List.map_eq_flatMap]
  rfl

theorem pair?_runs (t : Text) : (runs t).filterMap Run.pair? = (gaps t).flatMap pairs := by
  have hp : ∀ p : Text ⊕ Tag,
      (Sum.elim plainRuns (fun tag => [tag.run]) p).filterMap Run.pair? =
        Sum.elim pairs (fun _ => []) p := by
    rintro (u | tag)
    · rw [Sum.elim_inl, filterMap_plainRuns fun _ => rfl, Sum.elim_inl, pairs, List.map_eq_flatMap]
      rfl
    · rfl
  rw [filterMap_runs fun _ => rfl, pieceRuns, List.filterMap_flatMap, gaps]
  simp only [hp]
  induction pieces t with
  | nil => rfl
  | cons p ps ih =>
    cases p with
    | inl u => simp [ih]
    | inr tag =>
      rw [List.flatMap_cons, ih, List.filterMap_cons_none rfl]
      rfl

/-- A whole tag with a known name, or a whole bold pair, stands on one line of the text. -/
def Marked (t : Text) : Prop :=
  (∃ tag : Tag, '\n' ∉ tag.content ∧ tag.markup <:+: t) ∨
    ∃ content, '\n' ∉ content ∧ (Run.bold content).markup <:+: t

theorem exists_valid_tag {tag : Tag} {t : Text} (hl : '\n' ∉ tag.content)
    (ht : tag.markup <:+: t) : ∃ tag : Tag, tag.Valid ∧ tag.markup <:+: t := by
  obtain ⟨inner, hv, hp⟩ : ∃ inner, Text.Enclosable tagClosing inner ∧
      tagOpening tag.style ++ inner ++ tagClosing <+: tag.markup :=
    Text.exists_enclosable (by decide) (by decide) hl
  exact ⟨⟨tag.style, inner⟩, hv, hp.isInfix.trans ht⟩

theorem exists_enclosable_bold {content t : Text} (hl : '\n' ∉ content)
    (ht : (Run.bold content).markup <:+: t) :
    ∃ inner, Text.Enclosable boldMark inner ∧ (Run.bold inner).markup <:+: t := by
  obtain ⟨inner, hv, hp⟩ : ∃ inner, Text.Enclosable boldMark inner ∧
      (Run.bold inner).markup <+: (Run.bold content).markup :=
    Text.exists_enclosable (by decide) (by decide) hl
  exact ⟨inner, hv, hp.isInfix.trans ht⟩

theorem hasStyling_plainRuns (t : Text) : hasStyling (plainRuns t) ↔
    ∃ content, Text.Enclosable boldMark content ∧ (Run.bold content).markup <:+: t := by
  rw [← Text.exists_token_iff recognises_boldAt?, hasStyling, plainRuns, List.any_flatMap]
  simp only [List.any_eq_true, Sum.exists, Sum.elim_inl, Sum.elim_inr]
  constructor
  · rintro (⟨u, -, r, hr, hk⟩ | ⟨content, hc, -⟩)
    · unfold plainRun at hr
      split at hr
      · simp at hr
      · obtain rfl := List.mem_singleton.1 hr
        simp [Run.plain] at hk
    · exact ⟨content, hc⟩
  · rintro ⟨content, hc⟩
    exact .inr ⟨content, hc, _, List.mem_singleton_self _, rfl⟩

theorem hasStyling_pieceRuns (t : Text) : hasStyling (pieceRuns t) ↔
    (∃ tag, .inr tag ∈ pieces t) ∨ ∃ u, .inl u ∈ pieces t ∧ hasStyling (plainRuns u) := by
  rw [hasStyling, pieceRuns, List.any_flatMap]
  simp only [List.any_eq_true, Sum.exists, Sum.elim_inl, Sum.elim_inr]
  rw [or_comm]
  refine or_congr ⟨?_, ?_⟩ (by simp [hasStyling])
  · rintro ⟨tag, ht, -⟩
    exact ⟨tag, ht⟩
  · rintro ⟨tag, ht⟩
    exact ⟨tag, ht, _, List.mem_singleton_self _, rfl⟩

/-- Some run of a text is not plain if the text has whole markup, and not otherwise. -/
theorem hasStyling_runs_iff (t : Text) : hasStyling (runs t) ↔ Marked t := by
  have hruns : hasStyling (runs t) = hasStyling (pieceRuns t) := by
    rcases runs_eq t with h | ⟨hn, h⟩
    · rw [h]
    · rw [h, hn]
      rfl
  have htags := Text.exists_token_iff recognises_tagAt? (t := t)
  have hpieces := Text.pieced_pieces recognises_tagAt? t
  rw [hruns, hasStyling_pieceRuns]
  constructor
  · rintro (ht | ⟨u, hu, hb⟩)
    · obtain ⟨tag, hv, hi⟩ := htags.1 ht
      exact .inl ⟨tag, hv.1, hi⟩
    · obtain ⟨content, hv, hi⟩ := (hasStyling_plainRuns u).1 hb
      obtain ⟨before, after, rfl, -⟩ := hpieces.free_of_mem hu
      exact .inr ⟨content, hv.1, hi.trans ⟨before, after, List.append_assoc ..⟩⟩
  · rintro (⟨tag, hl, hi⟩ | ⟨content, hl, hi⟩)
    · exact .inl (htags.2 (exists_valid_tag hl hi))
    · -- without tags the whole text is one stretch, which the bold pair stands in
      by_cases ht : ∃ tag, .inr tag ∈ pieces t
      · exact .inl ht
      · obtain ⟨he, -⟩ := hpieces.eq_singleton (not_exists.1 ht)
        refine .inr ⟨t, ?_, (hasStyling_plainRuns t).2 (exists_enclosable_bold hl hi)⟩
        rw [pieces, he]
        exact List.mem_singleton_self _

example : hasStyling (runs "[[MASK::a\nb]] **c [[FOO::d]]".toList) = false := by decide

/-- A text is the markup of its runs, each the text of the run between its marks, and without the
marks it is the visible text. The marked runs are the tags, each of which stands at its place, and
the bold pairs of the stretches around them. -/
theorem markup_runs (t : Text) :
    (runs t).flatMap Run.markup = t ∧
    t = (runs t).flatMap (fun r => r.opening ++ r.text ++ r.closing) ∧
    strip t = (runs t).flatMap (fun r => r.text) ∧
    (runs t).filterMap Run.tag? = (spans t).map Span.tag ∧
    (runs t).filterMap Run.pair? = (gaps t).flatMap pairs ∧
    ∀ x ∈ spans t, ∃ a b, t = a ++ (x.tag.markup ++ b) ∧ x.start = Text.utf8Size a ∧
      x.stop = x.start + Text.utf8Size x.tag.markup := by
  refine ⟨flatMap_markup_runs t, ?_, rfl, tag?_runs t, pair?_runs t, fun x hx => ?_⟩
  · simp only [← Run.markup_eq, flatMap_markup_runs]
  · exact Text.of_mem_find spells_tagAt? hx

example : runs "[[[MASK::x]]]*****".toList =
    [.plain ['['], .styled .masked ['x'], .plain [']'], .bold [], .plain ['*']] := by decide

end Inline

end SerialNovel
