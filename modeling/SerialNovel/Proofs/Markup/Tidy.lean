import SerialNovel.Proofs.Markup.Comms
import SerialNovel.Proofs.Markup.Lossless
import SerialNovel.Proofs.Markup.Paragraph

namespace SerialNovel

/-- Whether `[[`, a tag name and `::` stand somewhere in a text. -/
def HasRawTag (t : Text) : Prop := ∃ name, Lint.IsTagName name ∧ Lint.lead name <:+: t

/-- A text on one line whose tag openings can all be read. -/
structure Tidy (t : Text) : Prop where
  line : '\n' ∉ t
  tags : ∀ {name before after}, Lint.IsTagName name → t = before ++ (Lint.lead name ++ after) →
    (∃ s : Style, s.tag = name) ∧ tagClosing <:+: after

theorem HasRawTag.mono {s t : Text} (h : HasRawTag s) (hs : s <:+: t) : HasRawTag t := by
  obtain ⟨name, hn, hl⟩ := h
  exact ⟨name, hn, hl.trans hs⟩

namespace Lint

theorem lead_ne_nil (name : Text) : lead name ≠ [] := by simp [lead]

theorem mem_lead {name : Text} (hn : IsTagName name) {c : Char} (hc : c ∈ lead name) :
    c = '[' ∨ c = ':' ∨ isTagChar c := by
  rcases List.mem_append.1 hc with hc | hc
  · rcases List.mem_append.1 hc with hc | hc
    · exact .inl (by simpa using hc)
    · exact .inr (.inr (hn.2 c hc))
  · exact .inr (.inl (by simpa using hc))

theorem toNat_of_isTagChar {c : Char} (h : isTagChar c) : 0x41 ≤ c.toNat ∧ c.toNat ≤ 0x5F := by
  simp only [isTagChar, Bool.or_eq_true, Bool.and_eq_true, decide_eq_true_iff] at h
  rcases h with ⟨h1, h2⟩ | rfl
  · have h1 : 'A'.toNat ≤ c.toNat := h1
    have h2 : c.toNat ≤ 'Z'.toNat := h2
    simp at h1 h2
    omega
  · decide

theorem toNat_of_mem_lead {name : Text} (hn : IsTagName name) {c : Char} (hc : c ∈ lead name) :
    0x21 ≤ c.toNat ∧ c.toNat < 0x60 ∧ c ≠ ']' := by
  rcases mem_lead hn hc with rfl | rfl | h
  · decide
  · decide
  · have := toNat_of_isTagChar h
    refine ⟨by omega, by omega, ?_⟩
    rintro rfl
    simp [isTagChar] at h

theorem of_mem_lead {name : Text} (hn : IsTagName name) {c : Char} (hc : c ∈ lead name) :
    c ≠ ' ' ∧ Paragraph.isCjk c = false := by
  obtain ⟨hl, hu, -⟩ := toNat_of_mem_lead hn hc
  constructor
  · rintro rfl
    simp at hl
  · simp [Paragraph.isCjk]
    omega

theorem getLast?_lead (before name : Text) : (before ++ lead name).getLast? = some ':' := by
  have h : before ++ lead name = before ++ "[[".toList ++ name ++ [':'] ++ [':'] := by simp [lead]
  rw [h, List.getLast?_concat]

end Lint

theorem Text.infix_of_notMem {c : Char} {mark s t : Text} (hc : c ∉ s)
    (h : c :: mark <:+: s ++ t) : c :: mark <:+: t := by
  induction s with
  | nil => exact h
  | cons d s ih =>
    rw [List.cons_append, List.infix_cons_iff] at h
    rcases h with h | h
    · obtain rfl : c = d := (List.cons_prefix_cons.1 h).1
      exact absurd List.mem_cons_self hc
    · exact ih (fun hs => hc (List.mem_cons_of_mem _ hs)) h

theorem closing_isInfix_of_lead {name after : Text} (hn : Lint.IsTagName name)
    (h : tagClosing <:+: Lint.lead name ++ after) : tagClosing <:+: after := by
  apply Text.infix_of_notMem ?_ h
  intro hm
  exact (Lint.toNat_of_mem_lead hn hm).2.2 rfl

namespace Lint

theorem closing_of_hasUnclosedTag {before rest : Text}
    (h : hasUnclosedTag (before ++ ("[[".toList ++ rest)) = false) :
    tagClosing <:+: "[[".toList ++ rest := by
  induction before with
  | nil =>
    have hs : Text.startsWith "[[".toList ("[[".toList ++ rest) = true :=
      Text.startsWith_iff.2 (List.prefix_append _ _)
    have hc : (Text.startsWith "[[".toList ("[[".toList ++ rest) &&
        !Text.contains "]]".toList ("[[".toList ++ rest)) = false := (Bool.or_eq_false_iff.1 h).1
    rw [hs, Bool.true_and, Bool.not_eq_false'] at hc
    exact Text.contains_iff.1 hc
  | cons c before ih => exact ih (Bool.or_eq_false_iff.1 h).2

theorem exists_style_of_tagIssue? {name : Text} (h : tagIssue? name = none) :
    ∃ s : Style, s.tag = name := by
  unfold tagIssue? at h
  split at h
  · simp at h
  · split at h
    · rename_i hs
      obtain ⟨s, hs⟩ := Option.isSome_iff_exists.1 hs
      exact ⟨s, by simpa using List.find?_some hs⟩
    · simp at h

/-- The linter meets each opening, for no opening starts inside another. -/
theorem mem_tokens {before name after : Text} (hn : IsTagName name) :
    name ∈ Text.tokens tagNameAt? (before ++ (lead name ++ after)) := by
  have hp := Text.pieced_pieces recognises_tagNameAt? (before ++ (lead name ++ after))
  have hm := hp.mem_of_spelled recognises_tagNameAt? apart_lead hn rfl
  rw [Text.tokens_eq recognises_tagNameAt?.spells, List.mem_filterMap]
  exact ⟨.inr name, hm, rfl⟩

theorem mem_tokens_iff {t name : Text} :
    name ∈ Text.tokens tagNameAt? t ↔ IsTagName name ∧ lead name <:+: t := by
  constructor
  · intro h
    rw [Text.tokens_eq recognises_tagNameAt?.spells, List.mem_filterMap] at h
    obtain ⟨p, hp, hn⟩ := h
    rw [Sum.getRight?_eq_some_iff.1 hn] at hp
    exact (Text.pieced_pieces recognises_tagNameAt? t).of_mem hp
  · rintro ⟨hn, before, after, rfl⟩
    rw [List.append_assoc]
    exact mem_tokens hn

end Lint

/-- A line is tidy where the linter has nothing to say about tags. -/
theorem tidy_of_tagIssues {t : Text} (hl : '\n' ∉ t) (h : Lint.tagIssues t = []) : Tidy t := by
  obtain ⟨hnames, hopen⟩ := List.append_eq_nil_iff.1 h
  rw [List.filterMap_eq_nil_iff] at hnames
  refine ⟨hl, ?_⟩
  rintro name before after hn rfl
  refine ⟨Lint.exists_style_of_tagIssue? (hnames name (Lint.mem_tokens hn)), ?_⟩
  have hu : Lint.hasUnclosedTag (before ++ (Lint.lead name ++ after)) = false := by
    simpa using hopen
  apply closing_isInfix_of_lead hn
  have he : Lint.lead name ++ after = "[[".toList ++ (name ++ "::".toList ++ after) := by
    simp [Lint.lead]
  rw [he] at hu ⊢
  exact Lint.closing_of_hasUnclosedTag hu

namespace Tidy

variable {s t : Text} {ls : List Text}

theorem of_suffix (h : Tidy t) (hs : s <:+ t) : Tidy s := by
  obtain ⟨lead, rfl⟩ := hs
  refine ⟨fun hm => h.line (List.mem_append_right _ hm), ?_⟩
  rintro name before after hn rfl
  have ht : lead ++ (before ++ (Lint.lead name ++ after)) =
      lead ++ before ++ (Lint.lead name ++ after) := (List.append_assoc ..).symm
  exact h.tags hn ht

theorem trimStart (h : Tidy t) : Tidy (Text.trimStart t) := h.of_suffix (Text.trimStart_isSuffix t)

theorem trimEnd (h : Tidy t) : Tidy (Text.trimEnd t) := by
  obtain ⟨blanks, hb⟩ := Text.trimEnd_isPrefix t
  refine ⟨fun hm => h.line (hb ▸ List.mem_append_left _ hm), ?_⟩
  intro name before after hn he
  have ht : t = before ++ (Lint.lead name ++ (after ++ blanks)) := by
    rw [← hb, he, List.append_assoc, List.append_assoc]
  obtain ⟨hs, hc⟩ := h.tags hn ht
  refine ⟨hs, ?_⟩
  have hl : ∀ c ∈ (before ++ Lint.lead name).getLast?, Text.isBlank c = false := by
    rw [Lint.getLast?_lead]
    rintro c ⟨⟩
    decide
  have ha : Text.trimEnd (after ++ blanks) = after := by
    have hx := Text.trimEnd_append hl (after ++ blanks)
    rw [List.append_assoc, ← ht, he, ← List.append_assoc] at hx
    exact (List.append_cancel_left hx).symm
  have hm : tagClosing.all (!Text.isBlank ·) := by decide
  have hm : ∀ c ∈ tagClosing, Text.isBlank c = false := by simpa using hm
  rw [← ha]
  exact (Text.infix_trimEnd hm _).2 hc

theorem trim (h : Tidy t) : Tidy (Text.trim t) := h.trimStart.trimEnd

theorem join (h : ∀ l ∈ ls, Tidy l) : Tidy (Paragraph.join ls) := by
  refine ⟨Paragraph.newline_notMem_join fun l hl => (h l hl).line, ?_⟩
  intro name before after hn hj
  obtain ⟨l, hl, a, b, rest, he, rfl⟩ := Paragraph.exists_mem_of_join (Lint.lead_ne_nil name)
    (fun c hc => Lint.of_mem_lead hn hc) hj
  obtain ⟨hs, hc⟩ := (h l hl).tags hn he
  exact ⟨hs, hc.trans (List.prefix_append b rest).isInfix⟩

end Tidy

theorem Tidy.message {t name text : Text} (h : Tidy t)
    (hm : Comms.ofParagraph? t = some (name, text)) : Tidy text := by
  obtain ⟨i, rest, hi, -, rfl⟩ := (Comms.ofParagraph?_eq_some h.line).1 hm
  exact (h.of_suffix hi.mark.isSuffix).trim

namespace Inline

/-- A tag is read wherever a tidy text has an opening, so none is left in a stretch between tags. -/
theorem not_hasRawTag_gap {t u : Text} (h : Tidy t) (hu : .inl u ∈ pieces t) : ¬ HasRawTag u := by
  rintro ⟨name, hn, x, y, hx⟩
  have hp : Text.Pieced Tag.markup Tag.Valid t (pieces t) := Text.pieced_pieces recognises_tagAt? t
  obtain ⟨before, after, ht, hf⟩ := hp.free_of_mem hu
  have hl : t = before ++ x ++ (Lint.lead name ++ (y ++ after)) := by
    rw [ht, ← hx]
    simp only [List.append_assoc]
  obtain ⟨⟨s, rfl⟩, hc⟩ := h.tags hn hl
  have hline : '\n' ∉ y ++ after := by
    intro hm
    apply h.line
    rw [hl]
    simp only [List.mem_append] at hm ⊢
    exact .inr (.inr hm)
  obtain ⟨content, he⟩ : ∃ content, Text.enclosed? (tagOpening s) tagClosing
      (tagOpening s ++ (y ++ after)) = some content := Text.exists_enclosed? hline hc
  obtain ⟨hv, hm⟩ := enclosed?_tag.1 he
  have hfree := hf x (tagOpening s ++ y) ⟨s, content⟩
    (by rw [← hx, List.append_assoc]; rfl) (by simp [tagOpening]) hv
  rw [List.append_assoc] at hfree
  exact hfree hm

theorem not_hasRawTag_run {t : Text} (h : Tidy t) {r : Run} (hr : r ∈ runs t)
    (hk : r.kind = .plain ∨ r.kind = .bold) : ¬ HasRawTag r.text := by
  have hp : ∀ r ∈ pieceRuns t, r.kind = .plain ∨ r.kind = .bold → ¬ HasRawTag r.text := by
    intro r hr hk
    obtain ⟨u | tag, hm, hr⟩ := List.mem_flatMap.1 hr
    · intro hraw
      exact not_hasRawTag_gap h hm (hraw.mono (text_isInfix_of_mem_plainRuns hr))
    · simp [List.mem_singleton.1 hr, Tag.run, Run.styled] at hk
  rcases runs_eq t with he | ⟨hn, he⟩
  · exact hp r (he ▸ hr) hk
  · -- the empty text is shown as an empty run
    obtain rfl : t = [] := by rw [← flatMap_markup_pieceRuns t, hn]; rfl
    rw [he] at hr
    rintro ⟨name, -, hl⟩
    rw [List.mem_singleton.1 hr] at hl
    exact Lint.lead_ne_nil name (List.infix_nil.1 hl)

end Inline

end SerialNovel
