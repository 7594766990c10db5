import SerialNovel.Proofs.Markup.Comms
import SerialNovel.Proofs.Markup.Joining
import SerialNovel.Proofs.Script.Partition

namespace SerialNovel

structure Text.OneLine (t : Text) : Prop extends Text.Trimmed t where
  newline_notMem : '\n' ∉ t

/-- What a node of a chapter is like. A message may be empty, but not the name of who sends it. -/
def Node.WellFormed : Node → Prop
  | dialogue _ _ t => t ≠ [] ∧ Text.OneLine t
  | narration t => t ≠ [] ∧ Text.OneLine t
  | system t => t ≠ [] ∧ Text.OneLine t
  | comms name t => name ≠ [] ∧ Text.OneLine name ∧ Text.OneLine t
  | intercept ls => ls ≠ [] ∧ ∀ l ∈ ls, '\n' ∉ l ∧ ∀ c ∈ l.getLast?, Text.isBlank c = false
  | reveal _ => False
  | image .. => True
  | divider => True
  | jump .. => True

theorem Text.OneLine.trim {s t : Text} (h : '\n' ∉ t) (hs : s ⊆ t) : OneLine (Text.trim s) where
  toTrimmed := trimmed_trim s
  newline_notMem hm := h (hs ((trim_isInfix s).subset hm))

namespace Line

variable {chapter : Text} {l : Line}

theorem newline_notMem (h : l ∈ ofChapter chapter) : '\n' ∉ l.text := by
  obtain ⟨t, ht, he⟩ := exists_of_mem_ofChapter h
  intro hm
  rw [← he] at hm
  exact Text.newline_notMem_of_mem_lines ht ((Text.trimEnd_isPrefix t).subset hm)

theorem getLast?_text (h : l ∈ ofChapter chapter) :
    ∀ c ∈ l.text.getLast?, Text.isBlank c = false := by
  obtain ⟨t, -, he⟩ := exists_of_mem_ofChapter h
  rw [← he]
  exact Text.getLast?_trimEnd t

theorem trim_ne_nil (h : l ∈ ofChapter chapter) (hp : l.cls = .prose) : Text.trim l.text ≠ [] := by
  obtain ⟨inBlock, hc⟩ := cls_of_mem_classify h
  exact LineClass.trim_ne_nil (hc.symm.trans hp)

end Line

section

variable {table : SpeakerTable} {t : Text}

theorem SpeakerTable.wellFormed_node (table : SpeakerTable) (hne : t ≠ []) (h : Text.OneLine t) :
    (table.node t).WellFormed := by
  unfold node
  split
  · exact ⟨hne, h⟩
  · exact ⟨hne, h⟩
  · exact ⟨hne, h⟩

theorem Comms.wellFormed_of_ofParagraph? {name text : Text} (hne : t ≠ []) (h : Text.OneLine t)
    (hm : ofParagraph? t = some (name, text)) : (Node.comms name text).WellFormed := by
  obtain ⟨i, rest, hi, rfl, rfl⟩ := (ofParagraph?_eq_some h.newline_notMem).1 hm
  refine ⟨?_, .trim h.newline_notMem (List.take_subset i t),
    .trim h.newline_notMem hi.mark.isSuffix.subset⟩
  -- the first character is not blank, and it stands before the mark
  obtain ⟨c, u, rfl⟩ := List.exists_cons_of_ne_nil hne
  obtain ⟨k, rfl, -⟩ := hi.of_cons
  intro hnil
  have hc := Text.trim_eq_nil_iff.1 hnil c (by simp)
  rw [h.start c rfl] at hc
  cases hc

theorem Node.wellFormed_ofParagraph (table : SpeakerTable) (hne : t ≠ []) (h : Text.OneLine t) :
    (ofParagraph table t).WellFormed := by
  unfold ofParagraph
  split
  · rename_i hm
    exact Comms.wellFormed_of_ofParagraph? hne h hm
  · exact table.wellFormed_node hne h

theorem Node.wellFormed_ofDirective (d : Directive) : (ofDirective d).WellFormed := by
  cases d <;> trivial

variable {chapter : Text} {ls : List Line}

theorem Node.wellFormed_paragraph (table : SpeakerTable) (hne : ls ≠ [])
    (h : ∀ l ∈ ls, l ∈ Line.ofChapter chapter) (hp : ∀ l ∈ ls, l.cls = .prose) :
    (ofParagraph table (Paragraph.join (ls.map fun l => Text.trim l.text))).WellFormed := by
  have htrim : ∀ t ∈ ls.map fun l => Text.trim l.text, t ≠ [] ∧ Text.Trimmed t := by
    intro t hm
    obtain ⟨l, hl, rfl⟩ := List.mem_map.1 hm
    exact ⟨Line.trim_ne_nil (h l hl) (hp l hl), Text.trimmed_trim l.text⟩
  obtain ⟨hj, ht⟩ := Paragraph.trimmed_join (by simpa) htrim
  refine wellFormed_ofParagraph table hj ⟨ht, Paragraph.newline_notMem_join fun t hm => ?_⟩
  obtain ⟨l, hl, rfl⟩ := List.mem_map.1 hm
  exact (Text.OneLine.trim (Line.newline_notMem (h l hl)) (List.Subset.refl _)).newline_notMem

theorem Node.wellFormed_intercept (hne : ls ≠ []) (h : ∀ l ∈ ls, l ∈ Line.ofChapter chapter) :
    (intercept (ls.map Line.text)).WellFormed := by
  refine ⟨by simpa, fun t hm => ?_⟩
  obtain ⟨l, hl, rfl⟩ := List.mem_map.1 hm
  exact ⟨Line.newline_notMem (h l hl), Line.getLast?_text (h l hl)⟩

theorem Stretch.StandsBefore.wellFormed_of_node? {p : Stretch} {after : List Line} {n : Node}
    (hp : p.StandsBefore after) (h : ∀ l ∈ p.lines, l ∈ Line.ofChapter chapter)
    (hn : p.node? table = some n) : n.WellFormed := by
  cases p with
  | blank l => simp [node?] at hn
  | directive l d =>
    obtain rfl := Option.some.inj hn
    exact Node.wellFormed_ofDirective d
  | prose ls =>
    obtain rfl := Option.some.inj hn
    exact Node.wellFormed_paragraph table hp.1 h hp.2.1
  | single l =>
    obtain rfl := Option.some.inj hn
    exact Node.wellFormed_intercept hp.lines_ne_nil h
  | closed first inner last =>
    obtain rfl := Option.some.inj hn
    exact Node.wellFormed_intercept hp.lines_ne_nil h
  | cut first inner =>
    obtain rfl := Option.some.inj hn
    exact Node.wellFormed_intercept hp.lines_ne_nil h

end

/-- Every node of every chapter is well formed: no card comes from reading, texts are on one line
and neither empty nor with white space at their ends, messages have a sender, and blocks have lines
without white space at their end. -/
theorem wellFormed_of_mem_parse {table : SpeakerTable} {chapter : Text} {n : Node}
    (h : n ∈ parse table chapter) : n.WellFormed := by
  obtain ⟨ps, hps, hn⟩ := exists_parted_parse table chapter
  rw [hn] at h
  obtain ⟨p, hp, hnode⟩ := List.mem_filterMap.1 h
  obtain ⟨⟨after, hs⟩, hl⟩ := hps.of_mem hp
  exact hs.wellFormed_of_node? hl hnode

/-- A name and a message between wide spaces, and a block that is never closed. -/
theorem wellFormed_of_mem_parse_message :
    let chapter := "　零点 \r\n （通信频道）：　好 \n0600.0Void>>a \n\n b".toList
    let message : Node := .comms "零点".toList "好".toList
    let block : Node := .intercept ["0600.0Void>>a".toList, [], " b".toList]
    message ∈ parse ⟨[]⟩ chapter ∧ message.WellFormed ∧
      block ∈ parse ⟨[]⟩ chapter ∧ block.WellFormed := by
  intro chapter message block
  have hm : message ∈ parse ⟨[]⟩ chapter := by decide +kernel
  have hb : block ∈ parse ⟨[]⟩ chapter := by decide +kernel
  exact ⟨hm, wellFormed_of_mem_parse hm, hb, wellFormed_of_mem_parse hb⟩

end SerialNovel
