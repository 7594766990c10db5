import SerialNovel.Page.Render
import SerialNovel.Proofs.Markup.Intercept
import SerialNovel.Proofs.Script.Partition
import Mathlib.Data.List.Forall2

namespace SerialNovel

open Intercept

def Node.blockLines? : Node → Option (List Text)
  | intercept lines => some lines
  | _ => none

/-- The signal id and the lines of a block that shows a transmission. -/
def Block.transmission? : Block → Option (Text × List InterceptLine)
  | intercept signal lines => some (signal, lines)
  | _ => none

/-- One opener, which stands in the first line, and no close marker before the last. -/
def OpensOnce (lines : List Text) : Prop :=
  ∃ first rest, lines = first :: rest ∧ HasOpener first ∧ (∀ t ∈ rest, ¬ HasOpener t) ∧
    ∀ t ∈ lines.dropLast, ¬ HasCloseMarker t

def LineClass.isOpening : LineClass → Bool
  | opening _ => true
  | _ => false

/-- What a line is follows from its text and from whether a block is open. -/
def Line.Classified (l : Line) : Prop := ∃ inBlock, l.cls = LineClass.of inBlock l.text

namespace Line

variable {l : Line}

theorem Classified.isOpening_iff (h : l.Classified) : l.cls.isOpening ↔ HasOpener l.text := by
  obtain ⟨inBlock, hc⟩ := h
  constructor
  · intro ho
    cases hx : l.cls with
    | opening closed => exact LineClass.hasOpener_of_eq_opening (hc.symm.trans hx)
    | _ => simp [hx, LineClass.isOpening] at ho
  · intro ho
    rw [hc, LineClass.of_of_hasOpener ho]
    rfl

theorem Classified.opening (h : l.Classified) {closed : Bool} (hc : l.cls = .opening closed) :
    HasOpener l.text ∧ (closed = true ↔ HasCloseMarker l.text) := by
  obtain ⟨inBlock, hx⟩ := h
  have ho := LineClass.hasOpener_of_eq_opening (hx.symm.trans hc)
  rw [hx, LineClass.of_of_hasOpener ho, LineClass.opening.injEq] at hc
  exact ⟨ho, by rw [← hc, decide_eq_true_iff]⟩

theorem Classified.not_hasOpener (h : l.Classified) (hc : l.cls.isOpening = false) :
    ¬ HasOpener l.text := by
  rw [← h.isOpening_iff, hc]
  exact Bool.false_ne_true

theorem Classified.inner (h : l.Classified) (hc : l.cls = .continuing ∨ l.cls = .closing) :
    l.cls = if HasCloseMarker l.text then .closing else .continuing := by
  have ho : ¬ HasOpener l.text := h.not_hasOpener (by rcases hc with hc | hc <;> rw [hc] <;> rfl)
  obtain ⟨inBlock, hx⟩ := h
  rw [hx] at hc ⊢
  rw [LineClass.inBlock_of_inner hc, LineClass.of_true_of_not_hasOpener ho]

theorem Classified.continuing (h : l.Classified) (hc : l.cls = .continuing) :
    ¬ HasOpener l.text ∧ ¬ HasCloseMarker l.text := by
  refine ⟨h.not_hasOpener (by rw [hc]; rfl), fun hm => ?_⟩
  have hx := h.inner (.inl hc)
  rw [hc, if_pos hm] at hx
  simp at hx

theorem classified_of_mem {chapter : Text} (h : l ∈ ofChapter chapter) : l.Classified :=
  cls_of_mem_classify h

end Line

theorem blockLines?_ofParagraph (table : SpeakerTable) (t : Text) :
    (Node.ofParagraph table t).blockLines? = none := by
  unfold Node.ofParagraph
  split
  · rfl
  · unfold SpeakerTable.node
    split <;> rfl

theorem blockLines?_ofDirective (d : Directive) : (Node.ofDirective d).blockLines? = none := by
  cases d <;> rfl

/-- An opener that does not close on its line, lines inside the block, and one more at most. -/
theorem opensOnce_block {first : Line} {inner last : List Line} (hl : first.Classified)
    (hf : first.cls = .opening false)
    (hi : ∀ l ∈ inner, ¬ HasOpener l.text ∧ ¬ HasCloseMarker l.text) (hn : last.length ≤ 1)
    (ho : ∀ l ∈ last, ¬ HasOpener l.text) :
    OpensOnce ((first :: (inner ++ last)).map Line.text) := by
  obtain ⟨hopen, hm⟩ := hl.opening hf
  -- where the block has a last line of its own, only that one may close it
  have hd : (first :: (inner ++ last)).dropLast ⊆ first :: inner := by
    match last, hn with
    | [], _ => simpa using List.dropLast_subset (first :: inner)
    | [x], _ =>
      rw [← List.cons_append, List.dropLast_concat]
      exact List.Subset.refl _
  refine ⟨first.text, (inner ++ last).map Line.text, rfl, hopen, ?_, ?_⟩
  · intro t ht
    obtain ⟨l, hx, rfl⟩ := List.mem_map.1 ht
    rcases List.mem_append.1 hx with hx | hx
    · exact (hi l hx).1
    · exact ho l hx
  · intro t ht
    rw [← List.map_dropLast] at ht
    obtain ⟨l, hx, rfl⟩ := List.mem_map.1 ht
    rcases List.mem_cons.1 (hd hx) with rfl | hx
    · simpa using hm
    · exact (hi l hx).2

namespace Stretch

def blockLines? (table : SpeakerTable) (p : Stretch) : Option (List Text) :=
  (p.node? table).bind Node.blockLines?

theorem blockLines?_prose (table : SpeakerTable) (ls : List Line) :
    (prose ls).blockLines? table = none :=
  blockLines?_ofParagraph table _

theorem StandsBefore.opensOnce {table : SpeakerTable} {p : Stretch} {after : List Line}
    (h : p.StandsBefore after) (hl : ∀ l ∈ p.lines, l.Classified) {ts : List Text}
    (hb : p.blockLines? table = some ts) : OpensOnce ts := by
  cases p with
  | blank l => simp [blockLines?, node?] at hb
  | directive l d => simp [blockLines?, node?, blockLines?_ofDirective] at hb
  | prose ls => simp [blockLines?_prose] at hb
  | single l =>
    obtain rfl : [l.text] = ts := Option.some.inj hb
    have ho := ((hl l (by simp [lines])).opening h).1
    exact ⟨l.text, [], rfl, ho, by simp, by simp⟩
  | closed first inner last =>
    obtain ⟨hf, hi, hc⟩ := h
    obtain rfl : (first :: (inner ++ [last])).map Line.text = ts := Option.some.inj hb
    have hlast := (hl last (by simp [lines])).not_hasOpener (by rw [hc]; rfl)
    have := opensOnce_block (hl first (by simp [lines])) hf
      (fun l hx => (hl l (by simp [lines, hx])).continuing (hi l hx)) (Nat.le_refl [last].length)
      (by simpa using hlast)
    simpa using this
  | cut first inner =>
    obtain ⟨hf, hi, -⟩ := h
    obtain rfl : (first :: inner).map Line.text = ts := Option.some.inj hb
    have := opensOnce_block (hl first (by simp [lines])) hf
      (fun l hx => (hl l (by simp [lines, hx])).continuing (hi l hx))
      (show ([] : List Line).length ≤ 1 from Nat.zero_le 1) (by simp)
    simpa using this

theorem StandsBefore.countP_isOpening {p : Stretch} {after : List Line} (h : p.StandsBefore after)
    (table : SpeakerTable) :
    p.lines.countP (·.cls.isOpening) = (p.blockLines? table).toList.length := by
  have inner {ls : List Line} (hls : ∀ l ∈ ls, l.cls = .continuing) :
      ls.countP (·.cls.isOpening) = 0 :=
    List.countP_eq_zero.2 fun l hl => by simp [hls l hl, LineClass.isOpening]
  cases p with
  | blank l => simp [lines, blockLines?, node?, show l.cls = .blank from h, LineClass.isOpening]
  | directive l d =>
    simp [lines, blockLines?, node?, show l.cls = .directive d from h, LineClass.isOpening,
      blockLines?_ofDirective]
  | prose ls =>
    rw [blockLines?_prose]
    exact List.countP_eq_zero.2 fun l hl => by simp [h.2.1 l hl, LineClass.isOpening]
  | single l =>
    simp [lines, blockLines?, node?, show l.cls = .opening true from h, LineClass.isOpening,
      Node.blockLines?]
  | closed first ls last =>
    obtain ⟨hf, hi, hc⟩ := h
    simp only [lines, List.countP_cons, List.countP_append, List.countP_nil, inner hi, hf, hc]
    rfl
  | cut first ls =>
    obtain ⟨hf, hi, -⟩ := h
    simp only [lines, List.countP_cons, inner hi, hf]
    rfl

end Stretch

section

variable {table : SpeakerTable} {ls : List Line} {ps : List Stretch}

theorem Parted.opensOnce (h : Parted ls ps) (hl : ∀ l ∈ ls, l.Classified) :
    ∀ ts ∈ ps.filterMap (Stretch.blockLines? table), OpensOnce ts := by
  induction h with
  | nil => simp
  | @cons p after ps hp _ ih =>
    intro ts hts
    rw [List.filterMap_cons] at hts
    have hl' : ∀ l ∈ after, l.Classified := fun l hx => hl l (List.mem_append_right _ hx)
    cases hb : p.blockLines? table with
    | none => exact ih hl' ts (by simpa [hb] using hts)
    | some us =>
      rw [hb] at hts
      rcases List.mem_cons.1 hts with rfl | hts
      · exact hp.opensOnce (fun l hx => hl l (List.mem_append_left _ hx)) hb
      · exact ih hl' ts hts

theorem Parted.countP_isOpening (h : Parted ls ps) :
    (ps.filterMap (Stretch.blockLines? table)).length = ls.countP (·.cls.isOpening) := by
  induction h with
  | nil => rfl
  | @cons p after ps hp _ ih =>
    rw [List.countP_append, hp.countP_isOpening table, ← ih, List.filterMap_cons]
    cases p.blockLines? table with
    | none => simp
    | some us => simp [Nat.add_comm]

end

theorem countP_isOpening_ofChapter (chapter : Text) :
    (Line.ofChapter chapter).countP (·.cls.isOpening) =
      (Text.lines chapter).countP (fun t => HasOpener t) := by
  calc (Line.ofChapter chapter).countP (·.cls.isOpening)
      = (Line.ofChapter chapter).countP (fun l => decide (HasOpener l.text)) :=
        List.countP_congr fun l hl => by
          rw [(Line.classified_of_mem hl).isOpening_iff, decide_eq_true_iff]
    _ = ((Line.ofChapter chapter).map Line.text).countP (fun t => HasOpener t) := by
        rw [List.countP_map]
        rfl
    _ = (Text.lines chapter).countP (fun t => HasOpener t) := by
        rw [Line.map_text_ofChapter, List.countP_map]
        exact List.countP_congr fun t _ => by
          simp only [Function.comp_apply, decide_eq_true_iff, hasOpener_trimEnd]

/-- How a block with these lines shows: line by line, under the signal id of its leftmost opener. -/
def ShownAs (ts : List Text) (b : Text × List InterceptLine) : Prop :=
  b.2.length = ts.length ∧ ∃ first, ts.head? = some first ∧ signal? first = some b.1 ∧
    LeadsWith b.1 first

def transmission (ts : List Text) : Text × List InterceptLine :=
  ((ts.head?.bind signal?).getD defaultSignal, ts.map InterceptLine.ofText)

theorem shownAs_transmission {ts : List Text} (h : OpensOnce ts) :
    ShownAs ts (transmission ts) := by
  obtain ⟨first, rest, rfl, ho, -⟩ := h
  obtain ⟨id, hs⟩ := Option.isSome_iff_exists.1 (opens_iff.2 ho)
  have ht : (transmission (first :: rest)).1 = id := by simp [transmission, hs]
  exact ⟨by simp [transmission], first, rfl, by rw [ht, hs], ht ▸ signal?_eq_some.1 hs⟩

theorem blockLines?_of_mem_stretch {n m : Node} {t : Text} (h : m ∈ n.stretch t) :
    m.blockLines? = none := by
  unfold Node.stretch at h
  dsimp only at h
  split at h
  · simp at h
  · cases n <;> simp_all [Node.withText?, Node.blockLines?]

theorem filterMap_blockLines?_liftNode (n : Node) :
    (Page.liftNode n).filterMap Node.blockLines? = n.blockLines?.toList := by
  unfold Page.liftNode
  split
  · rename_i hw _
    -- only text is lifted, and the pieces are text again and cards
    have hn : n.blockLines? = none := by
      cases n <;> simp_all [Node.withText?, Node.blockLines?]
    rw [hn, Option.toList_none, List.filterMap_eq_nil_iff]
    intro m hm
    rcases List.mem_append.1 hm with hm | hm
    · exact blockLines?_of_mem_stretch hm
    · obtain ⟨p, -, hm⟩ := List.mem_flatMap.1 hm
      rcases List.mem_cons.1 hm with rfl | hm
      · rfl
      · exact blockLines?_of_mem_stretch hm
  · cases hb : n.blockLines? <;> simp [hb]

theorem filterMap_blockLines?_lift (ns : List Node) :
    (Page.lift ns).filterMap Node.blockLines? = ns.filterMap Node.blockLines? := by
  rw [Page.lift, List.filterMap_flatMap]
  simp only [filterMap_blockLines?_liftNode]
  induction ns with
  | nil => rfl
  | cons n ns ih =>
    rw [List.flatMap_cons, ih, List.filterMap_cons]
    cases n.blockLines? <;> rfl

theorem transmission?_ofNode (n : Node) :
    (Block.ofNode n).transmission? = n.blockLines?.map transmission := by
  cases n <;> rfl

theorem filterMap_transmission?_render (ns : List Node) :
    (Page.render ns).filterMap Block.transmission? =
      (ns.filterMap Node.blockLines?).map transmission := by
  calc (Page.render ns).filterMap Block.transmission?
      = (Page.lift ns).filterMap (fun n => n.blockLines?.map transmission) := by
        rw [Page.render, List.filterMap_map]
        exact congrArg (List.filterMap · _) (funext transmission?_ofNode)
    _ = (ns.filterMap Node.blockLines?).map transmission := by
        rw [← filterMap_blockLines?_lift, List.map_filterMap]

/-- A chapter has one intercept block for each line with an opener. Its first line has the opener,
no other line has one, and only its last can have a close marker. The page shows the blocks in
order, each with all its lines, under the signal id of its leftmost opener and so never under the
default. -/
theorem blocks_parse (table : SpeakerTable) (chapter : Text) :
    let blocks := (parse table chapter).filterMap Node.blockLines?
    blocks.length = (Text.lines chapter).countP (fun t => HasOpener t) ∧
    (∀ ts ∈ blocks, OpensOnce ts) ∧
    List.Forall₂ ShownAs blocks
      ((Page.render (parse table chapter)).filterMap Block.transmission?) := by
  intro blocks
  obtain ⟨ps, hp, hn⟩ := exists_parted_parse table chapter
  have hb : blocks = ps.filterMap (Stretch.blockLines? table) := by
    simp only [blocks, hn, List.filterMap_filterMap]
    rfl
  have ho : ∀ ts ∈ blocks, OpensOnce ts := by
    rw [hb]
    exact hp.opensOnce fun l hl => Line.classified_of_mem hl
  refine ⟨?_, ho, ?_⟩
  · rw [hb, hp.countP_isOpening, countP_isOpening_ofChapter]
  · rw [filterMap_transmission?_render, List.forall₂_map_right_iff]
    exact List.forall₂_same.2 fun ts hts => shownAs_transmission (ho ts hts)

end SerialNovel
