import SerialNovel.Proofs.Markup.Tidy
import SerialNovel.Proofs.Script.Agreement

namespace SerialNovel

open Directive

/-- The fields of a jump or of an image. -/
def Node.directiveTexts : Node → List Text
  | jump target label => [target, label]
  | image source caption => [source, caption]
  | _ => []

/-- A text with two separators, one after the other. -/
def SeparatedTwice (t : Text) : Prop :=
  ∃ a b c, t = a ++ (separator ++ (b ++ (separator ++ c)))

/-- The line of a directive that goes on after a closing mark. What a jump has after its label does
not count. -/
def Swallows (line : Text) : Prop :=
  ∃ head tail, line = imageOpening ++ (head ++ (closing ++ (tail ++ closing))) ∨
    line = jumpOpening ++ (head ++ (closing ++ (tail ++ closing))) ∧ ¬ SeparatedTwice head

def Node.HoldsClosing (n : Node) : Prop := ∃ t ∈ n.directiveTexts, closing <:+: t

section

variable {t u head tail a b body line : Text}

theorem closing_or_separator (h : head ++ (closing ++ tail) = a ++ (separator ++ b)) :
    (∃ w, a = head ++ (closing ++ w)) ∨
      ∃ w, head = a ++ (separator ++ w) ∧ b = w ++ (closing ++ tail) := by
  have hd : closing.all fun c => separator.all (c != ·) := by decide
  have hcs : ∀ c ∈ closing, c ∉ separator := by
    intro c hc hs
    simpa using List.all_eq_true.1 (List.all_eq_true.1 hd c hc) c hs
  have hsc : ∀ c ∈ separator, c ∉ closing := fun c hs hc => hcs c hc hs
  rcases List.append_eq_append_iff.1 h with ⟨z, rfl, hz⟩ | ⟨z, rfl, hz⟩
  · obtain ⟨w, rfl, -⟩ := Text.exists_of_append_eq_append (by decide) hcs hz
    exact .inl ⟨w, rfl⟩
  · obtain ⟨w, rfl, rfl⟩ := Text.exists_of_append_eq_append (by decide) hsc hz
    exact .inr ⟨w, rfl, rfl⟩

theorem SeparatedTwice.isInfix (h : SeparatedTwice t) : separator <:+: t := by
  obtain ⟨a, b, c, rfl⟩ := h
  exact ⟨a, b ++ (separator ++ c), by simp⟩

theorem separatedTwice_append (ht : Text.Reaches separator t) :
    SeparatedTwice (t ++ (separator ++ u)) ↔ separator <:+: u := by
  constructor
  · rintro ⟨a, b, c, h⟩
    -- the separator after `t` is the first one
    rcases List.append_eq_append_iff.1 h with ⟨z, rfl, hz⟩ | ⟨z, rfl, hz⟩
    · have hl : separator.length ≤ (z ++ (separator ++ b)).length := by
        simp only [List.length_append]
        omega
      rw [← List.append_assoc separator b, ← List.append_assoc z] at hz
      obtain ⟨w, hw⟩ := List.prefix_of_prefix_length_le (List.prefix_append separator u)
        (hz ▸ List.prefix_append _ _) hl
      rw [← hw, List.append_assoc, List.append_cancel_left_eq] at hz
      exact ⟨w, c, by rw [hz, List.append_assoc]⟩
    · obtain rfl := Text.eq_nil_of_reaches ht.right (hz ▸ List.prefix_append _ _)
      rw [List.nil_append, List.append_cancel_left_eq] at hz
      exact ⟨b, c, by rw [← hz, List.append_assoc]⟩
  · rintro ⟨x, y, rfl⟩
    exact ⟨t, x, y, by simp⟩

def segment (t : Text) : Text :=
  match Text.cut? separator t with
  | none => t
  | some (a, _) => a

theorem closing_isInfix_segment : closing <:+: segment t ↔
    ∃ head tail, t = head ++ (closing ++ tail) ∧ ¬ separator <:+: head := by
  unfold segment
  split
  · rename_i hn
    constructor
    · rintro ⟨head, tail, rfl⟩
      refine ⟨head, tail, List.append_assoc .., fun hs => Text.cut?_eq_none.1 hn ?_⟩
      rw [List.append_assoc]
      exact hs.trans (List.prefix_append head _).isInfix
    · rintro ⟨head, tail, rfl, -⟩
      exact ⟨head, tail, by simp⟩
  · rename_i a b hs
    obtain ⟨rfl, hr⟩ := (Text.cut?_eq_some (by decide)).1 hs
    constructor
    · rintro ⟨head, tail, rfl⟩
      refine ⟨head, tail ++ (separator ++ b), by simp, fun hs => hr.not_isInfix ?_⟩
      rw [List.append_assoc]
      exact hs.trans (List.prefix_append head _).isInfix
    · rintro ⟨head, tail, h, hs⟩
      rcases closing_or_separator h.symm with ⟨w, rfl⟩ | ⟨w, rfl, -⟩
      · exact ⟨head, w, by simp⟩
      · exact absurd ⟨a, w, by simp⟩ hs

theorem holdsClosing_ofImageBody :
    (Node.ofDirective (ofImageBody body)).HoldsClosing ↔ closing <:+: body := by
  unfold ofImageBody
  split
  · have hn : ¬ closing <:+: [] := by decide
    simp [Node.HoldsClosing, Node.ofDirective, Node.directiveTexts, hn]
  · rename_i source caption hs
    obtain ⟨rfl, hr⟩ := (Text.cut?_eq_some (by decide)).1 hs
    simp only [Node.HoldsClosing, Node.ofDirective, Node.directiveTexts, List.mem_cons,
      List.not_mem_nil, or_false, exists_eq_or_imp, exists_eq_left]
    constructor
    · rintro (h | h)
      · exact h.trans (List.prefix_append source _).isInfix
      · exact h.trans ⟨source ++ separator, [], by simp⟩
    · rintro ⟨head, tail, h⟩
      rw [List.append_assoc] at h
      rcases closing_or_separator h with ⟨w, rfl⟩ | ⟨w, -, rfl⟩
      · exact .inl ⟨head, w, by simp⟩
      · exact .inr ⟨w, tail, by simp⟩

theorem ofJumpBody_of_cut? (h : Text.cut? separator body = some (a, b)) :
    ofJumpBody body = .jump a (segment b) := by
  rw [ofJumpBody, h, segment]
  dsimp only
  cases Text.cut? separator b <;> rfl

theorem holdsClosing_ofJumpBody : (Node.ofDirective (ofJumpBody body)).HoldsClosing ↔
    ∃ head tail, body = head ++ (closing ++ tail) ∧ ¬ SeparatedTwice head := by
  cases hs : Text.cut? separator body with
  | none =>
    have hn := Text.cut?_eq_none.1 hs
    simp only [ofJumpBody, hs, Node.HoldsClosing, Node.ofDirective, Node.directiveTexts,
      List.mem_cons, List.not_mem_nil, or_false, or_self, exists_eq_left]
    constructor
    · rintro ⟨head, tail, rfl⟩
      refine ⟨head, tail, List.append_assoc .., fun h => hn ?_⟩
      rw [List.append_assoc]
      exact h.isInfix.trans (List.prefix_append head _).isInfix
    · rintro ⟨head, tail, rfl, -⟩
      exact ⟨head, tail, by simp⟩
  | some p =>
    obtain ⟨target, rest⟩ := p
    obtain ⟨rfl, hr⟩ := (Text.cut?_eq_some (by decide)).1 hs
    simp only [ofJumpBody_of_cut? hs, Node.HoldsClosing, Node.ofDirective, Node.directiveTexts,
      List.mem_cons, List.not_mem_nil, or_false, exists_eq_or_imp, exists_eq_left,
      closing_isInfix_segment]
    constructor
    · rintro (⟨head, w, rfl⟩ | ⟨head, tail, rfl, hn⟩)
      · refine ⟨head, w ++ (separator ++ rest), by simp, fun h => hr.not_isInfix ?_⟩
        rw [List.append_assoc]
        exact h.isInfix.trans (List.prefix_append head _).isInfix
      · exact ⟨target ++ (separator ++ head), tail, by simp, mt (separatedTwice_append hr).1 hn⟩
    · rintro ⟨head, tail, h, hn⟩
      rcases closing_or_separator h.symm with ⟨w, rfl⟩ | ⟨w, rfl, rfl⟩
      · exact .inl ⟨head, w, by simp⟩
      · exact .inr ⟨w, tail, rfl, mt (separatedTwice_append hr).2 hn⟩

theorem ne_of_third {s t : Text} {c d : Char} (hs : s[2]? = some c) (ht : t[2]? = some d)
    (h : c ≠ d) : s ≠ t := by
  rintro rfl
  exact h (Option.some.inj (hs.symm.trans ht))

theorem jump_ne_divider (t : Text) : jumpOpening ++ t ≠ dividerToken :=
  ne_of_third rfl rfl (by decide : 'J' ≠ 'D')

theorem image_ne_divider (t : Text) : imageOpening ++ t ≠ dividerToken :=
  ne_of_third rfl rfl (by decide : 'I' ≠ 'D')

theorem jump_ne_image (t u : Text) : jumpOpening ++ t ≠ imageOpening ++ u :=
  ne_of_third rfl rfl (by decide : 'J' ≠ 'I')

theorem ofLine?_jump (body : Text) :
    ofLine? (jumpOpening ++ (body ++ closing)) = some (ofJumpBody body) := by
  have hb : body? jumpOpening (jumpOpening ++ (body ++ closing)) = some body := by
    rw [body?, Text.after?_eq_some.2 rfl, Option.bind_some, Text.before?_eq_some.2 rfl]
  rw [ofLine?, if_neg (jump_ne_divider _), hb]

theorem ofLine?_image (body : Text) :
    ofLine? (imageOpening ++ (body ++ closing)) = some (ofImageBody body) := by
  have hj : body? jumpOpening (imageOpening ++ (body ++ closing)) = none := rfl
  have hb : body? imageOpening (imageOpening ++ (body ++ closing)) = some body := by
    rw [body?, Text.after?_eq_some.2 rfl, Option.bind_some, Text.before?_eq_some.2 rfl]
  rw [ofLine?, if_neg (image_ne_divider _), hj, hb]
  rfl

theorem eq_of_body? {opening : Text} (h : body? opening line = some body) :
    line = opening ++ (body ++ closing) := by
  obtain ⟨rest, hr, hb⟩ := Option.bind_eq_some_iff.1 h
  rw [Text.after?_eq_some.1 hr, Text.before?_eq_some.1 hb]

theorem exists_of_ofLine? {d : Directive} (h : ofLine? line = some d) : line = dividerToken ∨
    (∃ body, line = jumpOpening ++ (body ++ closing)) ∨
      ∃ body, line = imageOpening ++ (body ++ closing) := by
  unfold ofLine? at h
  split at h
  · exact .inl ‹_›
  · split at h
    · exact .inr (.inl ⟨_, eq_of_body? ‹_›⟩)
    · obtain ⟨body, hb, -⟩ := Option.map_eq_some_iff.1 h
      exact .inr (.inr ⟨body, eq_of_body? hb⟩)

theorem swallows_image : Swallows (imageOpening ++ (body ++ closing)) ↔ closing <:+: body := by
  constructor
  · rintro ⟨head, tail, h | ⟨h, -⟩⟩
    · rw [List.append_cancel_left_eq, ← List.append_assoc closing, ← List.append_assoc head,
        List.append_cancel_right_eq] at h
      exact ⟨head, tail, by rw [h, List.append_assoc]⟩
    · exact absurd h.symm (jump_ne_image _ _)
  · rintro ⟨head, tail, rfl⟩
    exact ⟨head, tail, .inl (by simp)⟩

theorem swallows_jump : Swallows (jumpOpening ++ (body ++ closing)) ↔
    ∃ head tail, body = head ++ (closing ++ tail) ∧ ¬ SeparatedTwice head := by
  constructor
  · rintro ⟨head, tail, h | ⟨h, hn⟩⟩
    · exact absurd h (jump_ne_image _ _)
    · rw [List.append_cancel_left_eq, ← List.append_assoc closing, ← List.append_assoc head,
        List.append_cancel_right_eq] at h
      exact ⟨head, tail, h, hn⟩
  · rintro ⟨head, tail, rfl, hn⟩
    exact ⟨head, tail, .inr ⟨by simp, hn⟩⟩

/-- A field of a directive has a closing mark just if the directive has swallowed one. -/
theorem holdsClosing_ofDirective {d : Directive} (h : ofLine? line = some d) :
    (Node.ofDirective d).HoldsClosing ↔ Swallows line := by
  obtain rfl | ⟨body, rfl⟩ | ⟨body, rfl⟩ := exists_of_ofLine? h
  · obtain rfl : .divider = d := Option.some.inj h
    constructor
    · rintro ⟨t, ht, -⟩
      simp [Node.ofDirective, Node.directiveTexts] at ht
    · rintro ⟨head, tail, h | ⟨h, -⟩⟩
      · exact absurd h.symm (image_ne_divider _)
      · exact absurd h.symm (jump_ne_divider _)
  · obtain rfl := Option.some.inj (h.symm.trans (ofLine?_jump body))
    rw [holdsClosing_ofJumpBody, swallows_jump]
  · obtain rfl := Option.some.inj (h.symm.trans (ofLine?_image body))
    rw [holdsClosing_ofImageBody, swallows_image]

end

theorem LineClass.ofLine?_of_eq_directive {inBlock : Bool} {t : Text} {d : Directive}
    (h : of inBlock t = .directive d) : ofLine? (Text.trim t) = some d := by
  unfold of at h
  dsimp only at h
  split at h
  · simp at h
  · split at h
    · split at h <;> simp at h
    · split at h
      · rename_i hd
        rwa [LineClass.directive.inj h] at hd
      · split at h <;> simp at h

theorem directiveTexts_ofParagraph (table : SpeakerTable) (t : Text) :
    (Node.ofParagraph table t).directiveTexts = [] := by
  unfold Node.ofParagraph
  split
  · rfl
  · unfold SpeakerTable.node
    split <;> rfl

theorem exists_directive_of_mem_parse {table : SpeakerTable} {chapter : Text} {n : Node}
    (hn : n ∈ parse table chapter) (h : n.HoldsClosing) :
    ∃ l ∈ Line.ofChapter chapter, ∃ d, l.cls = .directive d ∧ n = .ofDirective d := by
  obtain ⟨ps, hp, he⟩ := exists_parted_parse table chapter
  rw [he] at hn
  obtain ⟨p, hm, hn⟩ := List.mem_filterMap.1 hn
  obtain ⟨⟨after, hs⟩, hl⟩ := hp.of_mem hm
  obtain ⟨t, ht, -⟩ := h
  cases p with
  | blank l => simp [Stretch.node?] at hn
  | directive l d => exact ⟨l, hl l (by simp [Stretch.lines]), d, hs, (Option.some.inj hn).symm⟩
  | prose ls =>
    rw [Stretch.node?_prose] at hn
    rw [← Option.some.inj hn, directiveTexts_ofParagraph] at ht
    simp at ht
  -- the blocks
  | _ =>
    rw [← Option.some.inj hn] at ht
    simp [Node.directiveTexts] at ht

theorem Stretch.StandsBefore.node?_of_directive {table : SpeakerTable} {p : Stretch}
    {after : List Line} (h : p.StandsBefore after) {l : Line} {d : Directive} (hl : l ∈ p.lines)
    (hd : l.cls = .directive d) : p.node? table = some (.ofDirective d) := by
  cases p with
  | directive m e =>
    obtain rfl := List.mem_singleton.1 hl
    rw [LineClass.directive.inj (hd.symm.trans h)]
    rfl
  | blank m =>
    obtain rfl := List.mem_singleton.1 hl
    exact absurd (hd.symm.trans h) (by simp)
  | prose ls => exact absurd (hd.symm.trans (h.2.1 l hl)) (by simp)
  | single m =>
    obtain rfl := List.mem_singleton.1 hl
    exact absurd (hd.symm.trans h) (by simp)
  | closed first inner last =>
    obtain ⟨hf, hi, hc⟩ := h
    have hl : l = first ∨ l ∈ inner ∨ l = last := by simpa [lines] using hl
    rcases hl with rfl | hl | rfl
    · simp [hf] at hd
    · simp [hi l hl] at hd
    · simp [hc] at hd
  | cut first inner =>
    obtain ⟨hf, hi, -⟩ := h
    have hl : l = first ∨ l ∈ inner := by simpa [lines] using hl
    rcases hl with rfl | hl
    · simp [hf] at hd
    · simp [hi l hl] at hd

theorem ofDirective_mem_parse {table : SpeakerTable} {chapter : Text} {l : Line} {d : Directive}
    (hl : l ∈ Line.ofChapter chapter) (hd : l.cls = .directive d) :
    Node.ofDirective d ∈ parse table chapter := by
  obtain ⟨ps, hp, he⟩ := exists_parted_parse table chapter
  rw [← hp.flatMap_lines] at hl
  obtain ⟨p, hm, hl⟩ := List.mem_flatMap.1 hl
  obtain ⟨⟨after, hs⟩, -⟩ := hp.of_mem hm
  rw [he]
  exact List.mem_filterMap.2 ⟨p, hm, hs.node?_of_directive hl hd⟩

theorem exists_holdsClosing_iff (table : SpeakerTable) (chapter : Text) :
    (∃ n ∈ parse table chapter, n.HoldsClosing) ↔
      ∃ l ∈ Line.ofChapter chapter, (∃ d, l.cls = .directive d) ∧ Swallows (Text.trim l.text) := by
  have hline : ∀ l ∈ Line.ofChapter chapter, ∀ d, l.cls = .directive d →
      ((Node.ofDirective d).HoldsClosing ↔ Swallows (Text.trim l.text)) := by
    intro l hl d hd
    obtain ⟨inBlock, hc⟩ := Line.classified_of_mem hl
    exact holdsClosing_ofDirective (LineClass.ofLine?_of_eq_directive (hc.symm.trans hd))
  constructor
  · rintro ⟨n, hn, h⟩
    obtain ⟨l, hl, d, hd, rfl⟩ := exists_directive_of_mem_parse hn h
    exact ⟨l, hl, ⟨d, hd⟩, (hline l hl d hd).1 h⟩
  · rintro ⟨l, hl, ⟨d, hd⟩, hs⟩
    exact ⟨_, ofDirective_mem_parse hl hd, (hline l hl d hd).2 hs⟩

namespace Lint

theorem inlineDirective_mem_tagIssues {t name : Text} :
    .inlineDirective name ∈ tagIssues t ↔
      (name = "JUMP".toList ∨ name = "IMAGE".toList) ∧ lead name <:+: t := by
  have hu : IssueKind.inlineDirective name ∉ if hasUnclosedTag t then [.unclosedTag] else [] := by
    split <;> simp
  have hn : ∀ {name}, name = "JUMP".toList ∨ name = "IMAGE".toList → IsTagName name := by
    have hj : "JUMP".toList.all isTagChar := by decide
    have hi : "IMAGE".toList.all isTagChar := by decide
    rintro _ (rfl | rfl)
    · exact ⟨by decide, List.all_eq_true.1 hj⟩
    · exact ⟨by decide, List.all_eq_true.1 hi⟩
  rw [tagIssues, List.mem_append, or_iff_left hu, List.mem_filterMap]
  constructor
  · rintro ⟨found, hf, hi⟩
    unfold tagIssue? at hi
    split at hi
    · rename_i hd
      obtain rfl := IssueKind.inlineDirective.inj (Option.some.inj hi)
      simp only [Bool.or_eq_true, decide_eq_true_iff] at hd
      exact ⟨hd, (mem_tokens_iff.1 hf).2⟩
    · split at hi <;> simp at hi
  · rintro ⟨hd, hl⟩
    refine ⟨name, mem_tokens_iff.2 ⟨hn hd, hl⟩, ?_⟩
    rw [tagIssue?, if_pos (by simpa only [Bool.or_eq_true, decide_eq_true_iff] using hd)]

theorem inlineDirective_mem_lineIssues {l : Line} (h : l.Classified) {name : Text} :
    .inlineDirective name ∈ lineIssues l.cls l.text ↔
      .inlineDirective name ∈ tagIssues l.text ∧ ∀ d, l.cls ≠ .directive d := by
  cases hc : l.cls with
  | directive d =>
    have hn : IssueKind.inlineDirective name ∉ lineIssues (.directive d) l.text := by
      cases d with
      | divider => simp [lineIssues]
      | jump _ _ =>
        dsimp only [lineIssues]
        split <;> simp
      | image _ _ =>
        dsimp only [lineIssues]
        split <;> simp
    simp [hn]
  | blank =>
    obtain ⟨inBlock, hx⟩ := h
    have hb := Text.trim_eq_nil_iff.1 (LineClass.trim_eq_nil (hx.symm.trans hc))
    have hn : IssueKind.inlineDirective name ∉ tagIssues l.text := by
      intro hi
      have hl := (inlineDirective_mem_tagIssues.1 hi).2
      have hm := hb '[' (hl.subset (by simp [lead]))
      exact absurd hm (by decide)
    simp [lineIssues, hn]
  | prose =>
    have hs : IssueKind.inlineDirective name ∉
        if Intercept.closes l.text then [.strayCloseMarker] else [] := by
      split <;> simp
    simp [lineIssues, hs]
  | _ => simp [lineIssues]

end Lint

/-- The linter reports a directive with the number of its line if it stands on a line that is no
directive itself, and not otherwise. A field of a jump or of an image has a closing mark in it just
if a line that is a directive has swallowed one, and there the linter reports no directive. -/
theorem inline_directives (table : SpeakerTable) (chapter : Text) :
    (∀ number name, ⟨number, .inlineDirective name⟩ ∈ lint chapter ↔
      (name = "JUMP".toList ∨ name = "IMAGE".toList) ∧
        ∃ l, (l, number) ∈ (Line.ofChapter chapter).zipIdx 1 ∧ Lint.lead name <:+: l.text ∧
          ∀ d, l.cls ≠ .directive d) ∧
      ((∃ n ∈ parse table chapter, n.HoldsClosing) ↔
        ∃ l ∈ Line.ofChapter chapter, (∃ d, l.cls = .directive d) ∧
          Swallows (Text.trim l.text)) := by
  refine ⟨fun number name => ?_, exists_holdsClosing_iff table chapter⟩
  rw [Lint.mem_lint (by simp)]
  constructor
  · rintro ⟨l, hl, hi⟩
    have hc := Line.classified_of_mem (List.fst_mem_of_mem_zipIdx hl)
    obtain ⟨ht, hd⟩ := (Lint.inlineDirective_mem_lineIssues hc).1 hi
    obtain ⟨hn, ht⟩ := Lint.inlineDirective_mem_tagIssues.1 ht
    exact ⟨hn, l, hl, ht, hd⟩
  · rintro ⟨hn, l, hl, ht, hd⟩
    have hc := Line.classified_of_mem (List.fst_mem_of_mem_zipIdx hl)
    exact ⟨l, hl, (Lint.inlineDirective_mem_lineIssues hc).2
      ⟨Lint.inlineDirective_mem_tagIssues.2 ⟨hn, ht⟩, hd⟩⟩

/-- An image and a tag after it on its line are read as one image. -/
theorem no_warning_of_swallowed_tag :
    let chapter := "[[IMAGE::a.png]] [[MASK::x]]".toList
    lint chapter = [] ∧ ∃ n ∈ parse ⟨[]⟩ chapter, n.HoldsClosing := by
  intro chapter
  let image := Node.image "a.png]] [[MASK".toList "x".toList
  have hi : Lint.issuesFrom 1 none ((Text.lines chapter).map Text.trimEnd) = [] := by
    decide +kernel
  have hl : lint chapter = [] := by rw [lint, hi, List.mergeSort_nil]
  have hn : image ∈ parse ⟨[]⟩ chapter := by decide +kernel
  have hc : closing <:+: "a.png]] [[MASK".toList := ⟨"a.png".toList, " [[MASK".toList, rfl⟩
  exact ⟨hl, image, hn, _, List.mem_cons_self, hc⟩

end SerialNovel
