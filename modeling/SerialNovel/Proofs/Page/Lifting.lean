import SerialNovel.Proofs.Page.Cards

namespace SerialNovel

def Block.runs : Block → List Run
  | paragraph _ rs => rs
  | comms _ rs => rs
  | system rs => rs
  | intercept _ lines => lines.flatMap InterceptLine.runs
  | _ => []

namespace Inline

/-- Some tag of a text is a spoiler card. -/
def HasCard (t : Text) : Prop := ∃ x ∈ spans t, x.tag.style = .spoilerCard

section

variable {α β : Type} {f : α → Option β} {as : List α}

theorem cutAt_snd_eq_nil_iff : (cutAt f as).2 = [] ↔ ∀ a ∈ as, f a = none := by
  induction as with
  | nil => simp [cutAt]
  | cons a as ih => cases ha : f a <;> simp [cutAt, ha, ih]

theorem eq_none_of_mem_cutAt_fst {a : α} (h : a ∈ (cutAt f as).1) : f a = none := by
  induction as with
  | nil => simp [cutAt] at h
  | cons b as ih =>
    cases hb : f b with
    | some c => simp [cutAt, hb] at h
    | none =>
      simp only [cutAt, hb] at h
      rcases List.mem_cons.1 h with rfl | h
      · exact hb
      · exact ih h

theorem eq_none_of_mem_cutAt_snd {c : β × List α} (hc : c ∈ (cutAt f as).2) {a : α}
    (h : a ∈ c.2) : f a = none := by
  induction as with
  | nil => simp [cutAt] at hc
  | cons b as ih =>
    cases hb : f b with
    | none =>
      simp only [cutAt, hb] at hc
      exact ih hc
    | some d =>
      simp only [cutAt, hb] at hc
      rcases List.mem_cons.1 hc with rfl | hc
      · exact eq_none_of_mem_cutAt_fst h
      · exact ih hc

end

variable {t : Text} {ps : List (Text ⊕ Tag)}

theorem card?_eq_none_iff (tag : Tag) : tag.card? = none ↔ tag.style ≠ .spoilerCard := by
  simp [Tag.card?, Style.isCard]

theorem not_hasCard_iff : ¬ HasCard t ↔ ∀ tag, .inr tag ∈ pieces t → tag.card? = none := by
  simp only [HasCard, not_exists, not_and, card?_eq_none_iff, pieces,
    Text.mem_pieces_iff spells_tagAt?]
  constructor
  · rintro h tag ⟨x, hx, rfl⟩
    exact h x hx
  · intro h x hx
    exact h _ ⟨x, hx, rfl⟩

theorem cutCards_eq_nil_iff : (Page.cutCards (pieces t)).2 = [] ↔ ¬ HasCard t := by
  rw [cutCards_eq, List.map_eq_nil_iff, cutAt_snd_eq_nil_iff, not_hasCard_iff]
  simp [Sum.forall, cardOf?]

theorem hasCard_trim : HasCard (Text.trim t) ↔ HasCard t := by
  rw [← not_iff_not, not_hasCard_iff, not_hasCard_iff]
  exact forall_congr' fun tag =>
    imp_congr_left (Text.mem_pieces_trim recognises_tagAt? solid_tag)

theorem not_hasCard_joined (h : Text.Pieced Tag.markup Tag.Valid (joined ps) ps)
    (hn : ∀ p ∈ ps, cardOf? p = none) : ¬ HasCard (joined ps) := by
  rw [not_hasCard_iff, pieces, h.pieces_eq recognises_tagAt?]
  exact fun tag ht => hn (.inr tag) ht

theorem not_hasCard_cutCards (t : Text) : ¬ HasCard (Page.cutCards (pieces t)).1 ∧
    ∀ c ∈ (Page.cutCards (pieces t)).2, ¬ HasCard c.2 := by
  have hp : Text.Pieced Tag.markup Tag.Valid t (pieces t) := Text.pieced_pieces recognises_tagAt? t
  obtain ⟨hl, hc⟩ := pieced_cutAt hp
  rw [cutCards_eq]
  refine ⟨not_hasCard_joined hl fun p hm => eq_none_of_mem_cutAt_fst hm, fun c hm => ?_⟩
  obtain ⟨d, hd, rfl⟩ := List.mem_map.1 hm
  exact not_hasCard_joined (hc d hd) fun p hx => eq_none_of_mem_cutAt_snd hd hx

theorem hasCard_of_mem_runs {r : Run} (hr : r ∈ runs t) (hs : r.style? = some .spoilerCard) :
    HasCard t := by
  have ht : (⟨.spoilerCard, r.text⟩ : Tag) ∈ (runs t).filterMap Run.tag? :=
    List.mem_filterMap.2 ⟨r, hr, by rw [Run.tag?, hs]; rfl⟩
  rw [tag?_runs] at ht
  obtain ⟨x, hx, he⟩ := List.mem_map.1 ht
  exact ⟨x, hx, by rw [he]⟩

end Inline

open Inline (HasCard)

namespace Voice

variable {v : Voice} {t : Text}

theorem liftNode_of_not_hasCard (h : ¬ HasCard t) : Page.liftNode (v.node t) = [v.node t] := by
  have hc := Inline.cutCards_eq_nil_iff.2 h
  unfold Page.liftNode
  rw [rawText_node]
  split
  · rename_i he
    rw [he] at hc
    simp at hc
  · rfl

theorem of_mem_stretch {m : Node} {u : Text} (hu : ¬ HasCard u) (h : m ∈ (v.node t).stretch u) :
    ∃ w, ¬ HasCard w ∧ m = v.node w := by
  unfold Node.stretch at h
  dsimp only at h
  split at h
  · simp at h
  · rw [withText?_node] at h
    exact ⟨Text.trim u, mt Inline.hasCard_trim.1 hu, List.mem_singleton.1 h⟩

/-- Lifting a text gives cards and texts without cards. -/
theorem of_mem_liftNode {m : Node} (h : m ∈ Page.liftNode (v.node t)) :
    (∃ content, m = .reveal content) ∨ ∃ u, ¬ HasCard u ∧ m = v.node u := by
  cases hcut : Page.cutCards (Inline.pieces t) with
  | mk lead cards =>
    cases cards with
    | nil =>
      have ht : ¬ HasCard t := Inline.cutCards_eq_nil_iff.1 (by rw [hcut])
      rw [liftNode_of_not_hasCard ht] at h
      exact .inr ⟨t, ht, List.mem_singleton.1 h⟩
    | cons card cards =>
      obtain ⟨hlead, hcards⟩ := Inline.not_hasCard_cutCards t
      rw [hcut] at hlead hcards
      unfold Page.liftNode at h
      rw [withText?_node, rawText_node, hcut] at h
      rcases List.mem_append.1 h with h | h
      · exact .inr (of_mem_stretch hlead h)
      · obtain ⟨c, hc, h⟩ := List.mem_flatMap.1 h
        rcases List.mem_cons.1 h with rfl | h
        · exact .inl ⟨c.1, rfl⟩
        · exact .inr (of_mem_stretch (hcards c hc) h)

end Voice

namespace Page

variable {ns : List Node} {n : Node} {b : Block}

theorem liftNode_eq_self (h : ∀ (v : Voice) (t : Text), n = v.node t → ¬ HasCard t) :
    liftNode n = [n] := by
  rcases n.eq_voice_node_or with ⟨v, t, rfl⟩ | hn
  · exact Voice.liftNode_of_not_hasCard (h v t rfl)
  · exact liftNode_of_withText?_eq_none hn

theorem not_hasCard_of_mem_liftNode {v : Voice} {t : Text} (h : v.node t ∈ liftNode n) :
    ¬ HasCard t := by
  rcases n.eq_voice_node_or with ⟨w, u, rfl⟩ | hn
  · rcases Voice.of_mem_liftNode h with ⟨content, he⟩ | ⟨x, hx, he⟩
    · cases v <;> simp [Voice.node] at he
    · have ht := congrArg Node.rawText he
      rw [Voice.rawText_node, Voice.rawText_node] at ht
      rwa [ht]
  · rw [liftNode_of_withText?_eq_none hn] at h
    have := hn t
    rw [← List.mem_singleton.1 h, Voice.withText?_node] at this
    simp at this

theorem not_hasCard_of_mem_lift {v : Voice} {t : Text} (h : v.node t ∈ lift ns) : ¬ HasCard t := by
  obtain ⟨n, -, hn⟩ := List.mem_flatMap.1 h
  exact not_hasCard_of_mem_liftNode hn

theorem lift_eq_self (h : ∀ (v : Voice) (t : Text), v.node t ∈ ns → ¬ HasCard t) :
    lift ns = ns := by
  have hl : ∀ n ∈ ns, liftNode n = [n] := by
    intro n hn
    apply liftNode_eq_self
    rintro v t rfl
    exact h v t hn
  rw [lift, List.flatMap_def, List.map_congr_left hl, ← List.flatMap_def, List.flatMap_singleton']

theorem mem_foldl_note {s : Style} {seen ss : List Style} :
    s ∈ ss.foldl note seen ↔ s ∈ seen ∨ s ∈ ss := by
  induction ss generalizing seen with
  | nil => simp
  | cons r ss ih =>
    have hn : s ∈ note seen r ↔ s ∈ seen ∨ s = r := by
      unfold note
      split
      · rename_i hr
        exact ⟨.inl, fun h => h.elim id fun he => he ▸ hr⟩
      · simp
    rw [List.foldl_cons, ih, hn, List.mem_cons, or_assoc]

theorem mem_stylesUsed {s : Style} {bs : List Block} :
    s ∈ stylesUsed bs ↔ ∃ b ∈ bs, s ∈ b.styles := by
  rw [stylesUsed, mem_foldl_note, List.mem_flatMap]
  simp

theorem mem_styles_iff {s : Style} : s ∈ b.styles ↔
    (b.isReveal ∧ s = .spoilerCard) ∨ ∃ r ∈ b.runs, r.style? = some s := by
  cases b <;> simp [Block.styles, Block.isReveal, Block.runs, -List.mem_flatMap]

theorem exists_intercept_of_mem_render (hb : b ∈ render ns) {r : Run} (hr : r ∈ b.runs)
    (hs : r.style? = some .spoilerCard) : ∃ signal lines, b = .intercept signal lines := by
  have text (v : Voice) {t : Text} (hm : v.node t ∈ lift ns) : r ∉ Inline.runs t :=
    fun hr => not_hasCard_of_mem_lift hm (Inline.hasCard_of_mem_runs hr hs)
  obtain ⟨m, hm, rfl⟩ := List.mem_map.1 hb
  cases m with
  | dialogue key name t => exact absurd hr (text (.dialogue key name) hm)
  | narration t => exact absurd hr (text .narration hm)
  | system t => exact absurd hr (text .system hm)
  | comms name t => exact absurd hr (text (.comms name) hm)
  | intercept lines => exact ⟨_, _, rfl⟩
  | _ => simp [Block.ofNode, Block.runs] at hr

theorem card_mem_stylesUsed_iff (ns : List Node) :
    .spoilerCard ∈ stylesUsed (render ns) ↔ hasReveals (render ns) ∨
      ∃ signal lines, .intercept signal lines ∈ render ns ∧
        ∃ r ∈ lines.flatMap InterceptLine.runs, r.style? = some .spoilerCard := by
  rw [mem_stylesUsed, hasReveals, List.any_eq_true]
  constructor
  · rintro ⟨b, hb, hs⟩
    rcases mem_styles_iff.1 hs with ⟨hr, -⟩ | ⟨r, hr, hc⟩
    · exact .inl ⟨b, hb, hr⟩
    · obtain ⟨signal, lines, rfl⟩ := exists_intercept_of_mem_render hb hr hc
      exact .inr ⟨signal, lines, hb, r, hr, hc⟩
  · rintro (⟨b, hb, hr⟩ | ⟨signal, lines, hb, r, hr, hc⟩)
    · exact ⟨b, hb, mem_styles_iff.2 (.inl ⟨hr, rfl⟩)⟩
    · exact ⟨_, hb, mem_styles_iff.2 (.inr ⟨r, hr, hc⟩)⟩

/-- Lifting once leaves no card in a text and all else as it is, so lifting again changes nothing.
On the page the style of a card is that of a block of its own or of a run in a transmission. -/
theorem lift_cards (ns : List Node) :
    lift (lift ns) = lift ns ∧
    (∀ (v : Voice) (t : Text), v.node t ∈ lift ns → ¬ HasCard t) ∧
    (∀ n, (∀ (v : Voice) (t : Text), n = v.node t → ¬ HasCard t) → ∀ before after,
      lift (before ++ n :: after) = lift before ++ n :: lift after) ∧
    (∀ b ∈ render ns, ∀ r ∈ b.runs, r.style? = some .spoilerCard →
      ∃ signal lines, b = .intercept signal lines) ∧
    (.spoilerCard ∈ stylesUsed (render ns) ↔ hasReveals (render ns) ∨
      ∃ signal lines, .intercept signal lines ∈ render ns ∧
        ∃ r ∈ lines.flatMap InterceptLine.runs, r.style? = some .spoilerCard) := by
  refine ⟨lift_eq_self fun v t h => not_hasCard_of_mem_lift h,
    fun v t h => not_hasCard_of_mem_lift h, fun n hn before after => ?_,
    fun b hb r hr hs => exists_intercept_of_mem_render hb hr hs, card_mem_stylesUsed_iff ns⟩
  simp only [lift, List.flatMap_append, List.flatMap_cons, liftNode_eq_self hn,
    List.singleton_append]

example : lift [.narration " a[[VOID_VISION::b]] [[VOID_[[MASK::c]]".toList] =
    [.narration ['a'], .reveal ['b'], .narration "[[VOID_[[MASK::c]]".toList] := by decide

end Page

end SerialNovel
