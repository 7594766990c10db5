import SerialNovel.Page.Render
import SerialNovel.Proofs.Markup.Lossless

namespace SerialNovel

/-- Who says a text, and over what. -/
inductive Voice
  | dialogue (key : SpeakerKey) (name : Text)
  | narration
  | system
  | comms (name : Text)
  deriving DecidableEq, Repr

def Run.card? (r : Run) : Option Text := if r.kind = .styled .spoilerCard then some r.text else none

namespace Inline

def trimFirst : List Run → List Run
  | [] => []
  | r :: rs => if r.kind = .plain then plainRun (Text.trimStart r.text) ++ rs else r :: rs

def trimLast (rs : List Run) : List Run :=
  match rs.getLast? with
  | some r => if r.kind = .plain then rs.dropLast ++ plainRun (Text.trimEnd r.text) else rs
  | none => []

/-- The members of a list before it is cut, and each cut with the members after it. -/
def cutAt {α β : Type} (f : α → Option β) : List α → List α × List (β × List α)
  | [] => ([], [])
  | a :: as =>
    match f a with
    | some b => ([], (b, (cutAt f as).1) :: (cutAt f as).2)
    | none => (a :: (cutAt f as).1, (cutAt f as).2)

end Inline

namespace Voice

def node (text : Text) : Voice → Node
  | dialogue key name => .dialogue key name text
  | narration => .narration text
  | system => .system text
  | comms name => .comms name text

def block (rs : List Run) : Voice → Block
  | dialogue key _ => .paragraph (some key) rs
  | narration => .paragraph none rs
  | system => .system rs
  | comms name => .comms name rs

/-- The block of a stretch between cards, unless nothing of it is left. -/
def stretch (v : Voice) (rs : List Run) : List Block :=
  let rs := Inline.trimLast (Inline.trimFirst rs)
  if rs.isEmpty then [] else [v.block rs]

/-- The blocks of a text with these runs: one if no run is a card, else one for each stretch between
cards and one for each card. -/
def blocks (v : Voice) (rs : List Run) : List Block :=
  match Inline.cutAt Run.card? rs with
  | (_, []) => [v.block rs]
  | (lead, card :: cards) =>
    v.stretch lead ++ (card :: cards).flatMap fun c => .reveal c.1 :: v.stretch c.2

end Voice

namespace Inline

section

variable {α : Type} {gap : Text → List Run} {run : α → Run} {qs : List (Text ⊕ α)}

theorem exists_of_head?_flatMap (h : ∀ p ∈ qs.head?, p.isRight) :
    ∀ r ∈ (qs.flatMap (Sum.elim gap fun a => [run a])).head?, ∃ a, r = run a := by
  cases qs with
  | nil => simp
  | cons p qs =>
    cases p with
    | inl u => simp at h
    | inr a => simp

theorem exists_of_getLast?_flatMap (h : ∀ p ∈ qs.getLast?, p.isRight) :
    ∀ r ∈ (qs.flatMap (Sum.elim gap fun a => [run a])).getLast?, ∃ a, r = run a := by
  rcases List.eq_nil_or_concat qs with rfl | ⟨init, p, rfl⟩
  · simp
  · cases p with
    | inl u => simp at h
    | inr a => simp

end

theorem trimFirst_append {rest : List Run} (h : ∀ r ∈ rest.head?, r.kind ≠ .plain) (v : Text) :
    trimFirst (plainRun v ++ rest) = plainRun (Text.trimStart v) ++ rest := by
  cases v with
  | cons c v => simp [plainRun, trimFirst, Run.plain]
  | nil =>
    cases rest with
    | nil => rfl
    | cons r rest =>
      have hr : r.kind ≠ .plain := h r rfl
      simp [plainRun, trimFirst, Text.trimStart, hr]

theorem trimLast_append {rest : List Run} (h : ∀ r ∈ rest.getLast?, r.kind ≠ .plain) (v : Text) :
    trimLast (rest ++ plainRun v) = rest ++ plainRun (Text.trimEnd v) := by
  cases v with
  | cons c v => simp [plainRun, trimLast, Run.plain]
  | nil =>
    rcases List.eq_nil_or_concat rest with rfl | ⟨init, r, rfl⟩
    · rfl
    · have hr : r.kind ≠ .plain := h r (by simp)
      simp [plainRun, trimLast, Text.trimEnd, hr]

theorem exists_plainRuns_trimStart (u : Text) : ∃ v rest, plainRuns u = plainRun v ++ rest ∧
    (∀ r ∈ rest.head?, r.kind ≠ .plain) ∧
    plainRuns (Text.trimStart u) = plainRun (Text.trimStart v) ++ rest := by
  obtain ⟨v, qs, hps, hq, hp⟩ := (Text.pieced_pieces recognises_boldAt? u).trimStart solid_bold
  refine ⟨v, qs.flatMap (Sum.elim plainRun fun c => [Run.bold c]), ?_, ?_, ?_⟩
  · rw [plainRuns, hps]
    rfl
  · intro r hr
    obtain ⟨c, rfl⟩ := exists_of_head?_flatMap hq r hr
    simp [Run.bold]
  · rw [plainRuns, hp.pieces_eq recognises_boldAt?]
    rfl

theorem exists_plainRuns_trimEnd (u : Text) : ∃ rest v, plainRuns u = rest ++ plainRun v ∧
    (∀ r ∈ rest.getLast?, r.kind ≠ .plain) ∧
    plainRuns (Text.trimEnd u) = rest ++ plainRun (Text.trimEnd v) := by
  obtain ⟨qs, v, hps, hq, hp⟩ := (Text.pieced_pieces recognises_boldAt? u).trimEnd solid_bold
  refine ⟨qs.flatMap (Sum.elim plainRun fun c => [Run.bold c]), v, ?_, ?_, ?_⟩
  · rw [plainRuns, hps, List.flatMap_append]
    simp
  · intro r hr
    obtain ⟨c, rfl⟩ := exists_of_getLast?_flatMap hq r hr
    simp [Run.bold]
  · rw [plainRuns, hp.pieces_eq recognises_boldAt?, List.flatMap_append]
    simp

theorem pieceRuns_trimStart (t : Text) : pieceRuns (Text.trimStart t) = trimFirst (pieceRuns t) := by
  obtain ⟨u, qs, hps, hq, hp⟩ := (Text.pieced_pieces recognises_tagAt? t).trimStart solid_tag
  obtain ⟨v, rest, hu, hr, ht⟩ := exists_plainRuns_trimStart u
  let tail := qs.flatMap (Sum.elim plainRuns fun tag => [tag.run])
  have h1 : pieceRuns t = plainRun v ++ (rest ++ tail) := by
    rw [pieceRuns, pieces, hps, List.flatMap_cons, Sum.elim_inl, hu, List.append_assoc]
  have h2 : pieceRuns (Text.trimStart t) = plainRun (Text.trimStart v) ++ (rest ++ tail) := by
    rw [pieceRuns, pieces, hp.pieces_eq recognises_tagAt?, List.flatMap_cons, Sum.elim_inl, ht,
      List.append_assoc]
  -- after a plain run comes a bold run or a tag
  have hh : ∀ r ∈ (rest ++ tail).head?, r.kind ≠ .plain := by
    intro r hm
    cases rest with
    | nil =>
      obtain ⟨tag, rfl⟩ := exists_of_head?_flatMap hq r hm
      simp [Tag.run, Run.styled]
    | cons s rest => exact hr r hm
  rw [h1, h2, trimFirst_append hh]

theorem pieceRuns_trimEnd (t : Text) : pieceRuns (Text.trimEnd t) = trimLast (pieceRuns t) := by
  obtain ⟨qs, u, hps, hq, hp⟩ := (Text.pieced_pieces recognises_tagAt? t).trimEnd solid_tag
  obtain ⟨rest, v, hu, hr, ht⟩ := exists_plainRuns_trimEnd u
  let lead := qs.flatMap (Sum.elim plainRuns fun tag => [tag.run])
  have h1 : pieceRuns t = lead ++ rest ++ plainRun v := by
    rw [pieceRuns, pieces, hps, List.flatMap_append, List.flatMap_singleton, Sum.elim_inl, hu,
      ← List.append_assoc]
  have h2 : pieceRuns (Text.trimEnd t) = lead ++ rest ++ plainRun (Text.trimEnd v) := by
    rw [pieceRuns, pieces, hp.pieces_eq recognises_tagAt?, List.flatMap_append,
      List.flatMap_singleton, Sum.elim_inl, ht, ← List.append_assoc]
  have hl : ∀ r ∈ (lead ++ rest).getLast?, r.kind ≠ .plain := by
    intro r hm
    rcases List.eq_nil_or_concat rest with rfl | ⟨init, s, rfl⟩
    · rw [List.append_nil] at hm
      obtain ⟨tag, rfl⟩ := exists_of_getLast?_flatMap hq r hm
      simp [Tag.run, Run.styled]
    · exact hr r (by simpa using hm)
  rw [h1, h2, trimLast_append hl]

theorem pieceRuns_trim (t : Text) :
    pieceRuns (Text.trim t) = trimLast (trimFirst (pieceRuns t)) := by
  rw [Text.trim, pieceRuns_trimEnd, pieceRuns_trimStart]

section

variable {α β γ : Type} {f : α → Option β}

theorem cutAt_fst_isPrefix (f : α → Option β) (as : List α) : (cutAt f as).1 <+: as := by
  induction as with
  | nil => exact List.nil_prefix
  | cons a as ih =>
    unfold cutAt
    split
    · exact List.nil_prefix
    · exact List.cons_prefix_cons.2 ⟨rfl, ih⟩

theorem subset_of_mem_cutAt {as : List α} {c : β × List α} (h : c ∈ (cutAt f as).2) : c.2 ⊆ as := by
  induction as with
  | nil => simp [cutAt] at h
  | cons a as ih =>
    unfold cutAt at h
    split at h
    · rcases List.mem_cons.1 h with rfl | h
      · exact List.Subset.trans (cutAt_fst_isPrefix f as).subset (List.subset_cons_self a as)
      · exact List.Subset.trans (ih h) (List.subset_cons_self a as)
    · exact List.Subset.trans (ih h) (List.subset_cons_self a as)

theorem cutAt_append {f : γ → Option β} {cs : List γ} (h : ∀ c ∈ cs, f c = none) (ds : List γ) :
    cutAt f (cs ++ ds) = (cs ++ (cutAt f ds).1, (cutAt f ds).2) := by
  induction cs with
  | nil => rfl
  | cons c cs ih =>
    have hc := h c List.mem_cons_self
    have ih := ih fun d hd => h d (List.mem_cons_of_mem _ hd)
    simp [cutAt, hc, ih]

/-- Where each member is written out as others and cuts are written as cuts, it does not matter
which is cut. -/
theorem cutAt_flatMap {g : α → List γ} {f' : γ → Option β}
    (hnone : ∀ a, f a = none → ∀ c ∈ g a, f' c = none)
    (hsome : ∀ a b, f a = some b → ∃ c, g a = [c] ∧ f' c = some b) (as : List α) :
    cutAt f' (as.flatMap g) =
      ((cutAt f as).1.flatMap g, (cutAt f as).2.map fun x => (x.1, x.2.flatMap g)) := by
  induction as with
  | nil => rfl
  | cons a as ih =>
    cases ha : f a with
    | none =>
      rw [List.flatMap_cons, cutAt_append (hnone a ha), ih]
      simp [cutAt, ha]
    | some b =>
      obtain ⟨c, hg, hc⟩ := hsome a b ha
      simp [cutAt, ha, hg, hc, ih]

end

def cardOf? : Text ⊕ Tag → Option Text := Sum.elim (fun _ => none) Tag.card?

def joined (ps : List (Text ⊕ Tag)) : Text := ps.flatMap (Sum.elim id Tag.markup)

theorem cutCards_eq (ps : List (Text ⊕ Tag)) :
    Page.cutCards ps =
      (joined (cutAt cardOf? ps).1, (cutAt cardOf? ps).2.map fun c => (c.1, joined c.2)) := by
  induction ps with
  | nil => rfl
  | cons p ps ih =>
    cases p with
    | inl u => simp [Page.cutCards, cutAt, cardOf?, joined, ih]
    | inr tag =>
      cases hc : tag.card? <;> simp [Page.cutCards, cutAt, cardOf?, joined, ih, hc]

theorem joined_isPrefix {ps qs : List (Text ⊕ Tag)} (h : ps <+: qs) : joined ps <+: joined qs := by
  obtain ⟨rs, rfl⟩ := h
  exact ⟨joined rs, (List.flatMap_append).symm⟩

theorem joined_pieces {t : Text} {ps : List (Text ⊕ Tag)}
    (h : Text.Pieced Tag.markup Tag.Valid t ps) : joined ps = t :=
  h.flatMap_eq

/-- A cut leaves each stretch parted as it was: what a tag reads is all before the next cut. -/
theorem pieced_cutAt {t : Text} {ps : List (Text ⊕ Tag)}
    (h : Text.Pieced Tag.markup Tag.Valid t ps) :
    Text.Pieced Tag.markup Tag.Valid (joined (cutAt cardOf? ps).1) (cutAt cardOf? ps).1 ∧
    ∀ c ∈ (cutAt cardOf? ps).2, Text.Pieced Tag.markup Tag.Valid (joined c.2) c.2 := by
  induction h with
  | @last u hu => exact ⟨by simpa [cutAt, cardOf?, joined] using .last hu, by simp [cutAt, cardOf?]⟩
  | @next u rest tag ps hu ht hp ih =>
    obtain ⟨ihl, ihc⟩ := ih
    cases hc : tag.card? with
    | none =>
      have hx : joined (cutAt cardOf? ps).1 <+: rest := by
        rw [← joined_pieces hp]
        exact joined_isPrefix (cutAt_fst_isPrefix cardOf? ps)
      have hf := hu.shorten ((List.prefix_append_right_inj tag.markup).2 hx)
      have hl : cutAt cardOf? (.inl u :: .inr tag :: ps) =
          (.inl u :: .inr tag :: (cutAt cardOf? ps).1, (cutAt cardOf? ps).2) := by
        simp [cutAt, cardOf?, hc]
      rw [hl]
      exact ⟨.next hf ht ihl, ihc⟩
    | some content =>
      have hl : cutAt cardOf? (.inl u :: .inr tag :: ps) =
          ([.inl u], (content, (cutAt cardOf? ps).1) :: (cutAt cardOf? ps).2) := by
        simp [cutAt, cardOf?, hc]
      rw [hl]
      refine ⟨by simpa [joined] using .last (hu.shorten List.nil_prefix), fun c hm => ?_⟩
      rcases List.mem_cons.1 hm with rfl | hm
      · exact ihl
      · exact ihc c hm

theorem pieceRuns_joined {ps : List (Text ⊕ Tag)}
    (h : Text.Pieced Tag.markup Tag.Valid (joined ps) ps) :
    pieceRuns (joined ps) = ps.flatMap (Sum.elim plainRuns fun tag => [tag.run]) := by
  rw [pieceRuns, pieces, h.pieces_eq recognises_tagAt?]

theorem card?_of_mem_plainRuns {u : Text} {r : Run} (h : r ∈ plainRuns u) : r.card? = none := by
  obtain ⟨p, -, hr⟩ := List.mem_flatMap.1 h
  cases p with
  | inl v =>
    rw [Sum.elim_inl, plainRun] at hr
    split at hr
    · simp at hr
    · simp [List.mem_singleton.1 hr, Run.card?, Run.plain]
  | inr content => simp [List.mem_singleton.1 hr, Run.card?, Run.bold]

theorem card?_run (tag : Tag) : tag.run.card? = tag.card? := by
  obtain ⟨style, content⟩ := tag
  cases style <;> rfl

/-- The stretches between cards have the runs that they have in the whole text. -/
theorem cutAt_pieceRuns (t : Text) :
    cutAt Run.card? (pieceRuns t) =
      (pieceRuns (Page.cutCards (pieces t)).1,
        (Page.cutCards (pieces t)).2.map fun c => (c.1, pieceRuns c.2)) := by
  have hnone : ∀ p, cardOf? p = none →
      ∀ r ∈ (Sum.elim plainRuns (fun tag => [tag.run]) p : List Run), r.card? = none := by
    rintro (u | tag) hp r hr
    · exact card?_of_mem_plainRuns hr
    · rw [List.mem_singleton.1 hr, card?_run]
      exact hp
  have hsome : ∀ p content, cardOf? p = some content →
      ∃ r : Run, Sum.elim plainRuns (fun tag => [tag.run]) p = [r] ∧ r.card? = some content := by
    rintro (u | tag) content hp
    · simp [cardOf?] at hp
    · exact ⟨tag.run, rfl, (card?_run tag).trans hp⟩
  have hp : Text.Pieced Tag.markup Tag.Valid t (pieces t) := Text.pieced_pieces recognises_tagAt? t
  obtain ⟨hl, hc⟩ := pieced_cutAt hp
  have hg : ∀ c ∈ (cutAt cardOf? (pieces t)).2,
      (c.1, c.2.flatMap (Sum.elim plainRuns fun tag => [tag.run])) =
        (c.1, pieceRuns (joined c.2)) := fun c hm => by rw [pieceRuns_joined (hc c hm)]
  rw [pieceRuns, cutAt_flatMap hnone hsome, cutCards_eq]
  simp only [List.map_map, Function.comp_def]
  rw [← pieceRuns_joined hl, List.map_congr_left hg]

theorem cutAt_runs (t : Text) :
    (cutAt Run.card? (runs t)).2 = (cutAt Run.card? (pieceRuns t)).2 := by
  rcases runs_eq t with h | ⟨hn, h⟩
  · rw [h]
  · rw [hn, h]
    rfl

end Inline

namespace Voice

variable (v : Voice) (t u : Text)

theorem withText?_node : (v.node t).withText? u = some (v.node u) := by
  cases v <;> rfl

theorem rawText_node : (v.node t).rawText = t := by
  cases v <;> rfl

theorem ofNode_node : Block.ofNode (v.node t) = v.block (Inline.runs t) := by
  cases v <;> rfl

theorem map_stretch :
    ((v.node t).stretch u).map Block.ofNode = v.stretch (Inline.pieceRuns u) := by
  unfold Node.stretch stretch
  rw [← Inline.pieceRuns_trim]
  by_cases h : Text.trim u = []
  · have hr : Inline.pieceRuns (Text.trim u) = [] := Inline.pieceRuns_eq_nil_iff.2 h
    rw [hr, h]
    rfl
  · have hr : Inline.pieceRuns (Text.trim u) ≠ [] := mt Inline.pieceRuns_eq_nil_iff.1 h
    simp [h, hr, withText?_node, ofNode_node, Inline.runs_of_ne_nil h]

theorem map_liftNode :
    (Page.liftNode (v.node t)).map Block.ofNode = v.blocks (Inline.runs t) := by
  have hcut := Inline.cutAt_pieceRuns t
  have hcards := Inline.cutAt_runs t
  rw [hcut] at hcards
  unfold Page.liftNode blocks
  rw [withText?_node, rawText_node]
  cases hc : Page.cutCards (Inline.pieces t) with
  | mk lead cards =>
    rw [hc] at hcut hcards
    cases cards with
    | nil =>
      cases hr : Inline.cutAt Run.card? (Inline.runs t) with
      | mk first rest =>
        rw [hr] at hcards
        obtain rfl : rest = [] := hcards
        simp [ofNode_node]
    | cons card cards =>
      have hne : t ≠ [] := by
        rintro rfl
        cases hc
      rw [Inline.runs_of_ne_nil hne, hcut]
      simp [map_stretch, List.map_flatMap, List.flatMap_map, Block.ofNode]

end Voice

theorem Node.eq_voice_node_or (n : Node) :
    (∃ (v : Voice) (t : Text), n = v.node t) ∨ ∀ t, n.withText? t = none := by
  cases n with
  | dialogue key name t => exact .inl ⟨.dialogue key name, t, rfl⟩
  | narration t => exact .inl ⟨.narration, t, rfl⟩
  | system t => exact .inl ⟨.system, t, rfl⟩
  | comms name t => exact .inl ⟨.comms name, t, rfl⟩
  | _ => exact .inr fun _ => rfl

namespace Page

theorem liftNode_of_withText?_eq_none {n : Node} (h : ∀ t, n.withText? t = none) :
    liftNode n = [n] := by
  unfold liftNode
  rw [h]

/-- Wherever a text stands in a chapter, its blocks are those of the runs that it has as a whole,
cut at the cards. -/
theorem render_cards (v : Voice) (t : Text) (before after : List Node) :
    render (before ++ v.node t :: after) =
      render before ++ v.blocks (Inline.runs t) ++ render after := by
  have hv := v.map_liftNode t
  simp only [render, lift, List.flatMap_append, List.flatMap_cons, List.map_append, hv,
    List.append_assoc]

example : Voice.narration.blocks (Inline.runs " a [[VOID_VISION::b]]\n**c** ".toList) =
    [.paragraph none [.plain ['a']], .reveal ['b'], .paragraph none [.bold ['c']]] := by decide

end Page

end SerialNovel
