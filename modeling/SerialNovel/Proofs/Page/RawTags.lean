import SerialNovel.Proofs.Markup.Tidy
import SerialNovel.Proofs.Page.Cards
import SerialNovel.Proofs.Script.Agreement
import SerialNovel.Proofs.Script.WellFormed

namespace SerialNovel

def IssueKind.aboutTags : IssueKind → Bool
  | unknownTag _ => true
  | inlineDirective _ => true
  | unclosedTag => true
  | _ => false

def Block.textRuns : Block → List Run
  | paragraph _ rs => rs
  | comms _ rs => rs
  | system rs => rs
  | _ => []

/-- A run shows a part of another in the same way. -/
def Run.PartOf (r s : Run) : Prop := r.kind = s.kind ∧ r.text <:+: s.text

theorem Run.PartOf.refl (r : Run) : r.PartOf r := ⟨rfl, List.infix_rfl⟩

namespace Lint

theorem aboutTags_of_mem_tagIssues {t : Text} {k : IssueKind} (h : k ∈ tagIssues t) :
    k.aboutTags := by
  rcases List.mem_append.1 h with h | h
  · obtain ⟨name, -, hn⟩ := List.mem_filterMap.1 h
    unfold tagIssue? at hn
    split at hn
    · rw [← Option.some.inj hn]
      rfl
    · split at hn
      · simp at hn
      · rw [← Option.some.inj hn]
        rfl
  · split at h
    · rw [List.mem_singleton.1 h]
      rfl
    · simp at h

end Lint

section

variable {chapter : Text} (hc : ∀ i ∈ lint chapter, ¬ i.kind.aboutTags)
include hc

theorem tidy_of_mem_ofChapter {l : Line} (hl : l ∈ Line.ofChapter chapter)
    (hp : l.cls = .prose) : Tidy l.text := by
  apply tidy_of_tagIssues (Line.newline_notMem hl)
  rw [List.eq_nil_iff_forall_not_mem]
  intro k hk
  have hx : k ∈ Lint.lineIssues l.cls l.text := by
    rw [hp]
    exact List.mem_append_right _ hk
  have hu : k ≠ .unterminatedIntercept := by
    rintro rfl
    exact Lint.unterminatedIntercept_notMem_tagIssues l.text hk
  rw [← List.zipIdx_map_fst 1 (Line.ofChapter chapter)] at hl
  obtain ⟨⟨l, n⟩, hn, rfl⟩ := List.mem_map.1 hl
  exact hc _ ((Lint.mem_lint hu).2 ⟨l, hn, hx⟩) (Lint.aboutTags_of_mem_tagIssues hk)

end

variable {table : SpeakerTable}

theorem exists_voice_node (table : SpeakerTable) (t : Text) :
    ∃ v : Voice, table.node t = v.node t := by
  unfold SpeakerTable.node
  split
  · exact ⟨.system, rfl⟩
  · exact ⟨.dialogue _ _, rfl⟩
  · exact ⟨.narration, rfl⟩

theorem exists_tidy_ofParagraph (table : SpeakerTable) {t : Text} (h : Tidy t) :
    ∃ (v : Voice) (u : Text), Tidy u ∧ Node.ofParagraph table t = v.node u := by
  unfold Node.ofParagraph
  split
  · rename_i name text hm
    exact ⟨.comms name, text, h.message hm, rfl⟩
  · obtain ⟨v, hv⟩ := exists_voice_node table t
    exact ⟨v, t, h, hv⟩

theorem textRuns_of_withText?_eq_none {n : Node} (h : ∀ t, n.withText? t = none) {b : Block}
    (hb : b ∈ (Page.liftNode n).map Block.ofNode) : b.textRuns = [] := by
  rw [Page.liftNode_of_withText?_eq_none h] at hb
  rw [List.mem_singleton.1 hb]
  cases n with
  | dialogue _ _ t => exact absurd (h t) (by simp [Node.withText?])
  | narration t => exact absurd (h t) (by simp [Node.withText?])
  | system t => exact absurd (h t) (by simp [Node.withText?])
  | comms _ t => exact absurd (h t) (by simp [Node.withText?])
  | _ => rfl

/-- The nodes of a chapter without warnings about tags have tidy texts or none. -/
theorem tidy_of_mem_parse {chapter : Text} (hc : ∀ i ∈ lint chapter, ¬ i.kind.aboutTags)
    {n : Node} (hn : n ∈ parse table chapter) :
    (∃ (v : Voice) (t : Text), Tidy t ∧ n = v.node t) ∨ ∀ t, n.withText? t = none := by
  obtain ⟨ps, hp, he⟩ := exists_parted_parse table chapter
  rw [he] at hn
  obtain ⟨p, hm, hn⟩ := List.mem_filterMap.1 hn
  obtain ⟨⟨after, hs⟩, hl⟩ := hp.of_mem hm
  cases p with
  | blank l => simp [Stretch.node?] at hn
  | directive l d =>
    right
    rw [← Option.some.inj hn]
    cases d <;> exact fun t => rfl
  | prose ls =>
    left
    rw [Stretch.node?_prose] at hn
    have ht : ∀ u ∈ ls.map fun l => Text.trim l.text, Tidy u := by
      intro u hu
      obtain ⟨l, hx, rfl⟩ := List.mem_map.1 hu
      exact (tidy_of_mem_ofChapter hc (hl l hx) (hs.2.1 l hx)).trim
    obtain ⟨v, t, hv, hx⟩ := exists_tidy_ofParagraph table (Tidy.join ht)
    exact ⟨v, t, hv, by rw [← Option.some.inj hn, hx]⟩
  -- the blocks
  | _ =>
    right
    rw [← Option.some.inj hn]
    exact fun t => rfl

namespace Inline

variable {rs : List Run} {r : Run}

theorem partOf_of_mem_trimFirst (h : r ∈ trimFirst rs) : ∃ s ∈ rs, r.PartOf s := by
  cases rs with
  | nil => simp [trimFirst] at h
  | cons s rs =>
    rw [trimFirst] at h
    split at h
    · rename_i hk
      rcases List.mem_append.1 h with h | h
      · rw [(mem_plainRun.1 h).2]
        exact ⟨s, List.mem_cons_self, hk.symm, (Text.trimStart_isSuffix s.text).isInfix⟩
      · exact ⟨r, List.mem_cons_of_mem _ h, .refl r⟩
    · exact ⟨r, h, .refl r⟩

theorem partOf_of_mem_trimLast (h : r ∈ trimLast rs) : ∃ s ∈ rs, r.PartOf s := by
  unfold trimLast at h
  split at h
  · rename_i s hs
    split at h
    · rename_i hk
      rcases List.mem_append.1 h with h | h
      · exact ⟨r, (List.dropLast_prefix rs).subset h, .refl r⟩
      · rw [(mem_plainRun.1 h).2]
        exact ⟨s, List.mem_of_getLast? hs, hk.symm, (Text.trimEnd_isPrefix s.text).isInfix⟩
    · exact ⟨r, h, .refl r⟩
  · simp at h

end Inline

namespace Voice

variable {v : Voice} {rs : List Run} {b : Block} {r : Run}

theorem textRuns_block (v : Voice) (rs : List Run) : (v.block rs).textRuns = rs := by
  cases v <;> rfl

theorem partOf_of_mem_stretch (hb : b ∈ v.stretch rs) (hr : r ∈ b.textRuns) :
    ∃ s ∈ rs, r.PartOf s := by
  unfold stretch at hb
  dsimp only at hb
  split at hb
  · simp at hb
  · rw [List.mem_singleton.1 hb, textRuns_block] at hr
    obtain ⟨s, hs, hk, ht⟩ := Inline.partOf_of_mem_trimLast hr
    obtain ⟨q, hq, hk', ht'⟩ := Inline.partOf_of_mem_trimFirst hs
    exact ⟨q, hq, hk.trans hk', ht.trans ht'⟩

theorem partOf_of_mem_blocks (hb : b ∈ v.blocks rs) (hr : r ∈ b.textRuns) :
    ∃ s ∈ rs, r.PartOf s := by
  unfold blocks at hb
  split at hb
  · rw [List.mem_singleton.1 hb, textRuns_block] at hr
    exact ⟨r, hr, .refl r⟩
  · rename_i lead card cards hcut
    rcases List.mem_append.1 hb with hb | hb
    · obtain ⟨s, hs, hp⟩ := partOf_of_mem_stretch hb hr
      have hsub := (Inline.cutAt_fst_isPrefix Run.card? rs).subset
      rw [hcut] at hsub
      exact ⟨s, hsub hs, hp⟩
    · obtain ⟨c, hm, hb⟩ := List.mem_flatMap.1 hb
      rcases List.mem_cons.1 hb with rfl | hb
      · simp [Block.textRuns] at hr
      · obtain ⟨s, hs, hp⟩ := partOf_of_mem_stretch hb hr
        exact ⟨s, Inline.subset_of_mem_cutAt (by rwa [hcut]) hs, hp⟩

end Voice

/-- Where the linter finds no unknown tag, no directive inside a line and no unclosed tag, no text
on the page shows `[[`, a tag name and `::` without a style. -/
theorem no_raw_tags {chapter : Text} (hc : ∀ i ∈ lint chapter, ¬ i.kind.aboutTags)
    (table : SpeakerTable) :
    ∀ b ∈ Page.render (parse table chapter), ∀ r ∈ b.textRuns,
      r.kind = .plain ∨ r.kind = .bold → ¬ HasRawTag r.text := by
  intro b hb r hr hk hraw
  obtain ⟨m, hm, rfl⟩ := List.mem_map.1 hb
  obtain ⟨n, hn, hm⟩ := List.mem_flatMap.1 hm
  have hb : Block.ofNode m ∈ (Page.liftNode n).map Block.ofNode := List.mem_map_of_mem hm
  rcases tidy_of_mem_parse hc hn with ⟨v, t, ht, rfl⟩ | ht
  · rw [v.map_liftNode] at hb
    obtain ⟨s, hs, hp, hi⟩ := Voice.partOf_of_mem_blocks hb hr
    exact Inline.not_hasRawTag_run ht hs (hp ▸ hk) (hraw.mono hi)
  · rw [textRuns_of_withText?_eq_none ht hb] at hr
    simp at hr

theorem no_raw_tags_of_message :
    let chapter := "[INSERTION_END]\n\nAnn（通信频道）：\n[[GREEN::go]] [[VOID_VISION::now]] [[is]]".toList
    let block := Block.comms "Ann".toList [.plain "[[is]]".toList]
    lint chapter = [⟨1, .strayCloseMarker⟩] ∧ (∀ i ∈ lint chapter, ¬ i.kind.aboutTags) ∧
      block ∈ Page.render (parse ⟨[]⟩ chapter) ∧ ¬ HasRawTag "[[is]]".toList := by
  intro chapter block
  have hl : Lint.issuesFrom 1 none ((Text.lines chapter).map Text.trimEnd) =
      [⟨1, .strayCloseMarker⟩] := by decide +kernel
  have hl : lint chapter = [⟨1, .strayCloseMarker⟩] := by
    rw [lint, hl, List.mergeSort_singleton]
  have hc : ∀ i ∈ lint chapter, ¬ i.kind.aboutTags := by
    rw [hl]
    decide
  have hb : block ∈ Page.render (parse ⟨[]⟩ chapter) := by decide +kernel
  have hr : Run.plain "[[is]]".toList ∈ block.textRuns := by simp [block, Block.textRuns]
  exact ⟨hl, hc, hb, no_raw_tags hc ⟨[]⟩ block hb _ hr (.inl rfl)⟩

end SerialNovel
