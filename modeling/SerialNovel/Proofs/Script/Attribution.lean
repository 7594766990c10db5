import SerialNovel.Proofs.Script.Partition
import Mathlib.Data.List.Forall2

namespace SerialNovel

/-- What a paragraph becomes that comes over no channel. -/
def Node.isAttributed : Node → Bool
  | dialogue .. => true
  | narration _ => true
  | system _ => true
  | _ => false

/-- The same node, or the same paragraph with another speaker. -/
def SameButSpeaker (m n : Node) : Prop :=
  m = n ∨ m.isAttributed ∧ n.isAttributed ∧ m.rawText = n.rawText

namespace SpeakerTable

theorem isAttributed_node (t : SpeakerTable) (paragraph : Text) :
    (t.node paragraph).isAttributed := by
  unfold node
  split <;> rfl

theorem rawText_node (t : SpeakerTable) (paragraph : Text) :
    (t.node paragraph).rawText = paragraph := by
  unfold node
  split <;> rfl

theorem sameButSpeaker_node (A B : SpeakerTable) (paragraph : Text) :
    SameButSpeaker (A.node paragraph) (B.node paragraph) :=
  .inr ⟨A.isAttributed_node paragraph, B.isAttributed_node paragraph, by
    rw [rawText_node, rawText_node]⟩

theorem attribute?_append (rules more : List SpeakerRule) (paragraph : Text) :
    attribute? ⟨rules ++ more⟩ paragraph =
      (attribute? ⟨rules⟩ paragraph).or (attribute? ⟨more⟩ paragraph) :=
  List.findSome?_append

theorem node_append (rules more : List SpeakerRule) (paragraph : Text) :
    node ⟨rules⟩ paragraph = node ⟨rules ++ more⟩ paragraph ∨
      (node ⟨rules⟩ paragraph).kind = .narration := by
  cases ha : attribute? ⟨rules⟩ paragraph with
  | none =>
    right
    rw [node, ha]
    rfl
  | some a =>
    left
    rw [node, node, attribute?_append, ha]
    rfl

theorem rules_of_ofEntries_append {entries more : List SpeakerEntry} {A B : SpeakerTable}
    (hA : ofEntries entries = .ok A) (hB : ofEntries (entries ++ more) = .ok B) :
    ∃ rules, B = ⟨A.rules ++ rules⟩ := by
  rw [ofEntries, List.mapM_append] at hB
  rw [ofEntries] at hA
  cases hx : entries.mapM SpeakerRule.ofEntry with
  | error fault => simp [hx, Except.map] at hA
  | ok rules =>
    rw [hx] at hA hB
    cases hy : more.mapM SpeakerRule.ofEntry with
    | error fault =>
      rw [hy] at hB
      simp [bind, Except.bind, Except.map] at hB
    | ok others =>
      rw [hy] at hB
      refine ⟨others, ?_⟩
      rw [← Except.ok.inj hA, ← Except.ok.inj hB]

end SpeakerTable

namespace Stretch

/-- The node of a stretch, or its paragraph if that asks who speaks. -/
def slot? : Stretch → Option (Text ⊕ Node)
  | blank _ => none
  | directive _ d => some (.inr (.ofDirective d))
  | prose ls =>
    let paragraph := Paragraph.join (ls.map fun l => Text.trim l.text)
    match Comms.ofParagraph? paragraph with
    | some (name, text) => some (.inr (.comms name text))
    | none => some (.inl paragraph)
  | single l => some (.inr (.intercept [l.text]))
  | closed first inner last =>
    some (.inr (.intercept ((first :: (inner ++ [last])).map Line.text)))
  | cut first inner => some (.inr (.intercept ((first :: inner).map Line.text)))

theorem node?_eq (table : SpeakerTable) (p : Stretch) :
    p.node? table = p.slot?.map (Sum.elim table.node id) := by
  cases p with
  | prose ls =>
    simp only [node?, slot?]
    split <;> simp_all
  | _ => rfl

theorem ofParagraph?_of_slot? {p : Stretch} {paragraph : Text}
    (h : p.slot? = some (.inl paragraph)) : Comms.ofParagraph? paragraph = none := by
  cases p with
  | prose ls =>
    simp only [slot?] at h
    split at h
    · simp at h
    · simp_all
  | _ => simp [slot?] at h

end Stretch

/-- The lines of a chapter alone part into its stretches. -/
theorem exists_slots (chapter : Text) : ∃ slots : List (Text ⊕ Node),
    (∀ table, parse table chapter = slots.map (Sum.elim table.node id)) ∧
    ∀ paragraph, .inl paragraph ∈ slots → Comms.ofParagraph? paragraph = none := by
  obtain ⟨ps, hp, -⟩ := exists_parted_parse ⟨[]⟩ chapter
  refine ⟨ps.filterMap Stretch.slot?, fun table => ?_, fun paragraph hm => ?_⟩
  · obtain ⟨qs, hq, hn⟩ := exists_parted_parse table chapter
    obtain rfl := hp.unique hq
    rw [hn, List.map_filterMap]
    exact List.filterMap_congr fun p _ => Stretch.node?_eq table p
  · obtain ⟨p, -, hs⟩ := List.mem_filterMap.1 hm
    exact Stretch.ofParagraph?_of_slot? hs

theorem forall₂_map_slots {R : Node → Node → Prop} (slots : List (Text ⊕ Node))
    (A B : SpeakerTable) (same : ∀ n, R n n)
    (heard : ∀ paragraph, R (A.node paragraph) (B.node paragraph)) :
    List.Forall₂ R (slots.map (Sum.elim A.node id)) (slots.map (Sum.elim B.node id)) := by
  rw [List.forall₂_map_left_iff, List.forall₂_map_right_iff]
  refine List.forall₂_same.2 fun slot _ => ?_
  cases slot with
  | inl paragraph => exact heard paragraph
  | inr n => exact same n

/-- The nodes of a chapter are there before any table is asked, with a slot for each paragraph that
comes over no channel, and a table only says who speaks these. So the nodes that two tables give
differ in the speakers of paragraphs alone, and where one table has further entries at its end, only
narration may differ. -/
theorem parse_slots (chapter : Text) :
    (∃ slots : List (Text ⊕ Node),
      (∀ table, parse table chapter = slots.map (Sum.elim table.node id)) ∧
      ∀ paragraph, .inl paragraph ∈ slots → Comms.ofParagraph? paragraph = none) ∧
    (∀ A B, List.Forall₂ SameButSpeaker (parse A chapter) (parse B chapter)) ∧
    ∀ entries more A B, SpeakerTable.ofEntries entries = .ok A →
      SpeakerTable.ofEntries (entries ++ more) = .ok B →
      List.Forall₂ (fun m n => m = n ∨ m.kind = .narration)
        (parse A chapter) (parse B chapter) := by
  obtain ⟨slots, hs, hc⟩ := exists_slots chapter
  refine ⟨⟨slots, hs, hc⟩, fun A B => ?_, fun entries more A B hA hB => ?_⟩
  · rw [hs, hs]
    exact forall₂_map_slots slots A B (fun _ => .inl rfl) (SpeakerTable.sameButSpeaker_node A B)
  · obtain ⟨rules, rfl⟩ := SpeakerTable.rules_of_ofEntries_append hA hB
    rw [hs, hs]
    exact forall₂_map_slots slots A _ (fun _ => .inl rfl) (SpeakerTable.node_append A.rules rules)

/-- An entry at the end that matches a known speaker too, and a message that neither table hears. -/
theorem parse_slots_of_second_entry :
    let ann : SpeakerEntry := ⟨"ann".toList, "^(Ann):".toList, .dialogue⟩
    let rain : SpeakerEntry := ⟨"rain".toList, "^(Ann|rain)".toList, .system⟩
    let chapter := "Ann: hi\n\nrain\n\nAnn(Comms Channel): ok".toList
    let m : Node := .dialogue ⟨"ann".toList⟩ "Ann".toList "Ann: hi".toList
    ∃ A B, SpeakerTable.ofEntries [ann] = .ok A ∧ SpeakerTable.ofEntries ([ann] ++ [rain]) = .ok B ∧
      parse A chapter = [m, .narration "rain".toList, .comms "Ann".toList "ok".toList] ∧
      parse B chapter = [m, .system "rain".toList, .comms "Ann".toList "ok".toList] ∧
      List.Forall₂ (fun m n => m = n ∨ m.kind = .narration)
        (parse A chapter) (parse B chapter) := by
  intro ann rain chapter m
  have exists_table (entries : List SpeakerEntry)
      (h : (SpeakerTable.ofEntries entries).toOption.isSome) :
      SpeakerTable.ofEntries entries =
        .ok ((SpeakerTable.ofEntries entries).toOption.getD ⟨[]⟩) := by
    cases he : SpeakerTable.ofEntries entries with
    | error fault => simp [he, Except.toOption] at h
    | ok table => rfl
  have hA := exists_table [ann] (by decide +kernel)
  have hB := exists_table ([ann] ++ [rain]) (by decide +kernel)
  exact ⟨_, _, hA, hB, by decide +kernel, by decide +kernel,
    (parse_slots chapter).2.2 [ann] [rain] _ _ hA hB⟩

end SerialNovel
