import SerialNovel.Script.Parse

namespace SerialNovel

/-- Whether a block is open after a line of this class. -/
def LineClass.leavesOpen : LineClass → Bool
  | opening closed => !closed
  | continuing => true
  | _ => false

theorem LineClass.trim_eq_nil {inBlock : Bool} {t : Text} (h : of inBlock t = .blank) :
    Text.trim t = [] := by
  unfold of at h
  dsimp only at h
  -- the last test is the only one that tells a blank line
  split at h
  · simp at h
  · split at h
    · split at h <;> simp at h
    · split at h
      · simp at h
      · split at h
        · rwa [← List.isEmpty_iff]
        · simp at h

theorem LineClass.trim_ne_nil {inBlock : Bool} {l : Text} (h : of inBlock l = .prose) :
    Text.trim l ≠ [] := by
  intro ht
  rw [of, ht] at h
  revert h
  cases inBlock <;> decide

/-- A line without the white space at its end, and what it is. -/
structure Line where
  text : Text
  cls : LineClass
  deriving DecidableEq, Repr

namespace Line

/-- The class of each line, given whether a block is open before the first. -/
def classify : Bool → List Text → List Line
  | _, [] => []
  | inBlock, t :: ts =>
    let c := LineClass.of inBlock t
    ⟨t, c⟩ :: classify c.leavesOpen ts

def ofChapter (chapter : Text) : List Line :=
  classify false ((Text.lines chapter).map Text.trimEnd)

theorem map_text_classify (inBlock : Bool) (ts : List Text) :
    (classify inBlock ts).map text = ts := by
  induction ts generalizing inBlock with
  | nil => rfl
  | cons t ts ih =>
    have := ih (LineClass.of inBlock t).leavesOpen
    simp [classify, this]

theorem map_text_ofChapter (chapter : Text) :
    (ofChapter chapter).map text = (Text.lines chapter).map Text.trimEnd :=
  map_text_classify false _

theorem exists_of_mem_ofChapter {chapter : Text} {l : Line} (h : l ∈ ofChapter chapter) :
    ∃ t ∈ Text.lines chapter, Text.trimEnd t = l.text := by
  have hm := List.mem_map_of_mem (f := text) h
  rw [map_text_ofChapter] at hm
  exact List.mem_map.1 hm

theorem cls_of_mem_classify {inBlock : Bool} {ts : List Text} {l : Line}
    (h : l ∈ classify inBlock ts) : ∃ inBlock, l.cls = LineClass.of inBlock l.text := by
  induction ts generalizing inBlock with
  | nil => simp [classify] at h
  | cons t ts ih =>
    rcases List.mem_cons.1 h with rfl | h
    · exact ⟨inBlock, rfl⟩
    · exact ih h

theorem trim_eq_nil {chapter : Text} {l : Line} (h : l ∈ ofChapter chapter)
    (hb : l.cls = .blank) : Text.trim l.text = [] := by
  obtain ⟨inBlock, hc⟩ := cls_of_mem_classify h
  exact LineClass.trim_eq_nil (hc.symm.trans hb)

end Line

/-- Lines that belong together. A block is a single line, or it runs from its opener to a closing
line, or it is cut off. -/
inductive Stretch
  | blank (l : Line)
  | directive (l : Line) (d : Directive)
  | prose (ls : List Line)
  | single (l : Line)
  | closed (first : Line) (inner : List Line) (last : Line)
  | cut (first : Line) (inner : List Line)

namespace Stretch

def lines : Stretch → List Line
  | blank l => [l]
  | directive l _ => [l]
  | prose ls => ls
  | single l => [l]
  | closed first inner last => first :: (inner ++ [last])
  | cut first inner => first :: inner

/-- What the lines of a stretch are, and what comes after it. Prose ends where other lines begin,
and only an opener or the end of the chapter cuts a block off. -/
def StandsBefore (after : List Line) : Stretch → Prop
  | blank l => l.cls = .blank
  | directive l d => l.cls = .directive d
  | prose ls => ls ≠ [] ∧ (∀ l ∈ ls, l.cls = .prose) ∧ ∀ l ∈ after.head?, l.cls ≠ .prose
  | single l => l.cls = .opening true
  | closed first inner last =>
    first.cls = .opening false ∧ (∀ l ∈ inner, l.cls = .continuing) ∧ last.cls = .closing
  | cut first inner =>
    first.cls = .opening false ∧ (∀ l ∈ inner, l.cls = .continuing) ∧
      ∀ l ∈ after.head?, ∃ closed, l.cls = .opening closed

/-- The node that a stretch is. Blank lines are none, and prose is a message or, if no channel stands
in front of it, what the table makes of it. -/
def node? (table : SpeakerTable) : Stretch → Option Node
  | blank _ => none
  | directive _ d => some (.ofDirective d)
  | prose ls =>
    let paragraph := Paragraph.join (ls.map fun l => Text.trim l.text)
    some <| match Comms.ofParagraph? paragraph with
      | some (name, text) => .comms name text
      | none => table.node paragraph
  | single l => some (.intercept [l.text])
  | closed first inner last => some (.intercept ((first :: (inner ++ [last])).map Line.text))
  | cut first inner => some (.intercept ((first :: inner).map Line.text))

theorem node?_prose (table : SpeakerTable) (ls : List Line) :
    node? table (prose ls) =
      some (.ofParagraph table (Paragraph.join (ls.map fun l => Text.trim l.text))) := rfl

end Stretch

/-- Lines parted into stretches. -/
inductive Parted : List Line → List Stretch → Prop
  | nil : Parted [] []
  | cons {p : Stretch} {after : List Line} {ps : List Stretch} :
      p.StandsBefore after → Parted after ps → Parted (p.lines ++ after) (p :: ps)

theorem Parted.flatMap_lines {ls : List Line} {ps : List Stretch} (h : Parted ls ps) :
    ps.flatMap Stretch.lines = ls := by
  induction h with
  | nil => rfl
  | cons _ _ ih => rw [List.flatMap_cons, ih]

theorem Parted.of_mem {ls : List Line} {ps : List Stretch} (h : Parted ls ps) {p : Stretch}
    (hp : p ∈ ps) : (∃ after, p.StandsBefore after) ∧ ∀ l ∈ p.lines, l ∈ ls := by
  induction h with
  | nil => simp at hp
  | @cons q after qs hq _ ih =>
    rcases List.mem_cons.1 hp with rfl | hp
    · exact ⟨⟨after, hq⟩, fun l hl => List.mem_append_left _ hl⟩
    · obtain ⟨hs, hm⟩ := ih hp
      exact ⟨hs, fun l hl => List.mem_append_right _ (hm l hl)⟩

theorem Stretch.StandsBefore.filter_lines {p : Stretch} {after : List Line}
    (h : p.StandsBefore after) (table : SpeakerTable) :
    p.lines.filter (·.cls ≠ .blank) = if (p.node? table).isSome then p.lines else [] := by
  have inner {ls : List Line} (hls : ∀ l ∈ ls, l.cls = .continuing) :
      ls.filter (·.cls ≠ .blank) = ls :=
    List.filter_eq_self.2 fun l hl => by simp [hls l hl]
  cases p with
  | blank l => simp [lines, node?, show l.cls = .blank from h]
  | directive l d => simp [lines, node?, show l.cls = .directive d from h]
  | prose ls =>
    simp only [lines, node?, Option.isSome_some, ↓reduceIte]
    exact List.filter_eq_self.2 fun l hl => by simp [h.2.1 l hl]
  | single l => simp [lines, node?, show l.cls = .opening true from h]
  | closed first ls last =>
    obtain ⟨hf, hi, hc⟩ := h
    simp only [lines, node?, Option.isSome_some, ↓reduceIte]
    rw [List.filter_cons_of_pos (by simp [hf]), List.filter_append, inner hi,
      List.filter_cons_of_pos (by simp [hc]), List.filter_nil]
  | cut first ls =>
    obtain ⟨hf, hi, -⟩ := h
    simp only [lines, node?, Option.isSome_some, ↓reduceIte]
    rw [List.filter_cons_of_pos (by simp [hf]), inner hi]

theorem Parted.filter_lines {ls : List Line} {ps : List Stretch} (h : Parted ls ps)
    (table : SpeakerTable) :
    (ps.filter fun p => (p.node? table).isSome).flatMap Stretch.lines =
      ls.filter (·.cls ≠ .blank) := by
  induction h with
  | nil => rfl
  | @cons p after ps hp _ ih =>
    rw [List.filter_append, hp.filter_lines table, ← ih, List.filter_cons]
    split <;> simp

/-- A run ends where its class ends. -/
theorem append_inj_of_run {α : Type} {p : α → Prop} {a a' b b' : List α}
    (ha : ∀ x ∈ a, p x) (hb : ∀ x ∈ b.head?, ¬ p x) (ha' : ∀ x ∈ a', p x)
    (hb' : ∀ x ∈ b'.head?, ¬ p x) (h : a ++ b = a' ++ b') : a = a' ∧ b = b' := by
  induction a generalizing a' with
  | nil =>
    cases a' with
    | nil => exact ⟨rfl, h⟩
    | cons x a' =>
      rw [List.nil_append, List.cons_append] at h
      exact absurd (ha' x List.mem_cons_self) (hb x (by simp [h]))
  | cons x a ih =>
    cases a' with
    | nil =>
      rw [List.nil_append, List.cons_append] at h
      exact absurd (ha x List.mem_cons_self) (hb' x (by simp [← h]))
    | cons y a' =>
      obtain ⟨rfl, ht⟩ := List.cons.inj h
      obtain ⟨rfl, rfl⟩ := ih (fun z hz => ha z (List.mem_cons_of_mem _ hz))
        (fun z hz => ha' z (List.mem_cons_of_mem _ hz)) ht
      exact ⟨rfl, rfl⟩

namespace Stretch

def lead : Stretch → LineClass
  | blank _ => .blank
  | directive _ d => .directive d
  | prose _ => .prose
  | single _ => .opening true
  | closed .. => .opening false
  | cut .. => .opening false

theorem StandsBefore.lead_eq {p : Stretch} {after : List Line} (h : p.StandsBefore after) :
    ((p.lines ++ after).head?.map Line.cls) = some p.lead := by
  cases p with
  | blank l => exact congrArg some h
  | directive l d => exact congrArg some h
  | prose ls =>
    obtain ⟨hne, hall, -⟩ := h
    obtain ⟨l, ls, rfl⟩ := List.exists_cons_of_ne_nil hne
    exact congrArg some (hall l List.mem_cons_self)
  | single l => exact congrArg some h
  | closed first inner last => exact congrArg some h.1
  | cut first inner => exact congrArg some h.1

theorem cls_ne_of_closing {l : Line} {ls : List Line} (hc : l.cls = .closing) :
    ∀ m ∈ (l :: ls).head?, m.cls ≠ .continuing := by
  simp [hc]

theorem cls_ne_of_opening {ls : List Line}
    (ho : ∀ l ∈ ls.head?, ∃ closed, l.cls = .opening closed) :
    ∀ m ∈ ls.head?, m.cls ≠ .continuing := by
  intro m hm
  obtain ⟨closed, hc⟩ := ho m hm
  simp [hc]

/-- The line after those that continue a block tells whether the block is closed or cut off. -/
theorem closed_append_ne_cut {first last first' : Line} {inner inner' a b : List Line}
    (hp : (closed first inner last).StandsBefore a) (hq : (cut first' inner').StandsBefore b) :
    (closed first inner last).lines ++ a ≠ (cut first' inner').lines ++ b := by
  intro h
  obtain ⟨-, hi, hc⟩ := hp
  obtain ⟨-, hi', ho⟩ := hq
  simp only [lines, List.cons_append, List.append_assoc, List.cons.injEq] at h
  obtain ⟨-, rfl⟩ :=
    append_inj_of_run hi (cls_ne_of_closing hc) hi' (cls_ne_of_opening ho) h.2
  obtain ⟨closed, hx⟩ := ho last rfl
  simp [hc] at hx

theorem eq_of_lines_eq {p q : Stretch} {a b : List Line} (hp : p.StandsBefore a)
    (hq : q.StandsBefore b) (h : p.lines ++ a = q.lines ++ b) : p = q ∧ a = b := by
  have hl : p.lead = q.lead := by
    have hl := hq.lead_eq
    rw [← h, hp.lead_eq] at hl
    exact Option.some.inj hl
  cases p with
  | blank l =>
    cases q with
    | blank m => simpa [lines] using h
    | _ => simp [lead] at hl
  | directive l d =>
    cases q with
    | directive m e => simp_all [lines, lead]
    | _ => simp [lead] at hl
  | prose ls =>
    cases q with
    | prose ms =>
      obtain ⟨rfl, rfl⟩ := append_inj_of_run hp.2.1 hp.2.2 hq.2.1 hq.2.2 h
      exact ⟨rfl, rfl⟩
    | _ => simp [lead] at hl
  | single l =>
    cases q with
    | single m => simpa [lines] using h
    | _ => simp [lead] at hl
  -- the inner lines of a block are the run that continues it
  | closed first inner last =>
    cases q with
    | closed first' inner' last' =>
      obtain ⟨-, hi, hc⟩ := hp
      obtain ⟨-, hi', hc'⟩ := hq
      simp only [lines, List.cons_append, List.append_assoc, List.cons.injEq] at h
      obtain ⟨rfl, he⟩ :=
        append_inj_of_run hi (cls_ne_of_closing hc) hi' (cls_ne_of_closing hc') h.2
      obtain ⟨rfl, rfl⟩ := List.cons.inj he
      exact ⟨by rw [h.1], rfl⟩
    | cut first' inner' => exact absurd h (closed_append_ne_cut hp hq)
    | _ => simp [lead] at hl
  | cut first inner =>
    cases q with
    | closed first' inner' last' => exact absurd h.symm (closed_append_ne_cut hq hp)
    | cut first' inner' =>
      obtain ⟨-, hi, ho⟩ := hp
      obtain ⟨-, hi', ho'⟩ := hq
      simp only [lines, List.cons_append, List.cons.injEq] at h
      obtain ⟨rfl, rfl⟩ :=
        append_inj_of_run hi (cls_ne_of_opening ho) hi' (cls_ne_of_opening ho') h.2
      exact ⟨by rw [h.1], rfl⟩
    | _ => simp [lead] at hl

theorem StandsBefore.lines_ne_nil {p : Stretch} {after : List Line} (h : p.StandsBefore after) :
    p.lines ≠ [] := by
  cases p with
  | prose ls => exact h.1
  | _ => simp [lines]

end Stretch

theorem Parted.unique {ls : List Line} {ps qs : List Stretch} (h : Parted ls ps)
    (h' : Parted ls qs) : ps = qs := by
  induction h generalizing qs with
  -- the lines stand behind an equation, for `cases` cannot solve `p.lines ++ after = q.lines ++ _`
  | nil =>
    generalize hl : [] = ls at h'
    cases h' with
    | nil => rfl
    | cons hq _ => simp [hq.lines_ne_nil] at hl
  | @cons p after ps hp _ ih =>
    generalize hl : p.lines ++ after = ls at h'
    cases h' with
    | nil => simp [hp.lines_ne_nil] at hl
    | cons hq h' =>
      obtain ⟨rfl, rfl⟩ := Stretch.eq_of_lines_eq hp hq hl
      rw [ih h']

end SerialNovel
