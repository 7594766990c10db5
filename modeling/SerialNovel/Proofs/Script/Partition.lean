import SerialNovel.Proofs.Script.Stretch

namespace SerialNovel

namespace LineClass

theorem inBlock_of_inner {inBlock : Bool} {t : Text}
    (h : of inBlock t = .continuing ∨ of inBlock t = .closing) : inBlock = true := by
  cases inBlock with
  | true => rfl
  | false =>
    unfold of at h
    dsimp only at h
    split at h
    · simp at h
    · simp only [Bool.false_eq_true, ↓reduceIte] at h
      split at h
      · simp at h
      · split at h <;> simp at h

theorem inner_of_inBlock (t : Text) :
    (∃ closed, of true t = .opening closed) ∨ of true t = .continuing ∨ of true t = .closing := by
  unfold of
  dsimp only
  split
  · exact .inl ⟨_, rfl⟩
  · simp only [↓reduceIte]
    split <;> simp

end LineClass

namespace Reader

variable {table : SpeakerTable} {r : Reader} {tail : List Line}

def paragraph? (table : SpeakerTable) (r : Reader) : Option Node :=
  r.prose.take.1.map (.ofParagraph table)

theorem endProse_eq (table : SpeakerTable) (r : Reader) :
    r.endProse table = ⟨r.nodes ++ (r.paragraph? table).toList, {}, r.block⟩ := by
  obtain ⟨nodes, ⟨lines⟩, block⟩ := r
  cases lines <;> simp [endProse, paragraph?, emit, Paragraph.Buffer.take, Paragraph.Buffer.isEmpty]

def intercept? (r : Reader) (last : List Text) : Option Node :=
  r.block.map fun lines => .intercept (lines ++ last)

theorem endBlock_eq (r : Reader) (last : List Text) :
    r.endBlock last = ⟨r.nodes ++ (r.intercept? last).toList, r.prose, none⟩ := by
  obtain ⟨nodes, prose, block⟩ := r
  cases block <;> simp [endBlock, intercept?, emit]

/-- The nodes of all that a reader keeps, if the chapter or a run of lines ends here. -/
def pendingNodes (table : SpeakerTable) (r : Reader) : List Node :=
  (r.paragraph? table).toList ++ (r.intercept? []).toList

theorem endAll_eq (table : SpeakerTable) (r : Reader) :
    (r.endProse table).endBlock [] = ⟨r.nodes ++ r.pendingNodes table, {}, none⟩ := by
  rw [endProse_eq, endBlock_eq]
  simp [pendingNodes, intercept?]

/-- What a reader keeps of the lines that belong to no node yet. -/
def Keeps (r : Reader) (tail : List Line) : Prop :=
  match r.block with
  | none => r.prose.lines = tail.map (fun l => Text.trim l.text) ∧ ∀ l ∈ tail, l.cls = .prose
  | some lines => r.prose = {} ∧ lines = tail.map Line.text ∧ ∃ first inner,
      tail = first :: inner ∧ first.cls = .opening false ∧ ∀ l ∈ inner, l.cls = .continuing

theorem keeps_nil (nodes : List Node) : Keeps ⟨nodes, {}, none⟩ [] := by simp [Keeps]

/-- What a reader keeps is one stretch, where the next line starts another. -/
theorem Keeps.parted (h : r.Keeps tail) {after : List Line} {ps : List Stretch}
    (ha : ∀ l ∈ after.head?, (∃ closed, l.cls = .opening closed) ∨ r.block = none ∧ l.cls ≠ .prose)
    (hp : Parted after ps) : ∃ qs, Parted (tail ++ after) qs ∧
      qs.filterMap (Stretch.node? table) =
        r.pendingNodes table ++ ps.filterMap (Stretch.node? table) := by
  obtain ⟨nodes, ⟨prose⟩, block⟩ := r
  cases block with
  -- without a block the lines are prose, which a line of another class ends
  | none =>
    obtain ⟨hl, hall⟩ := h
    dsimp only at hl
    subst hl
    rcases List.eq_nil_or_concat tail with rfl | ⟨init, l, rfl⟩
    · exact ⟨ps, hp, by simp [pendingNodes, paragraph?, intercept?, Paragraph.Buffer.take,
        Paragraph.Buffer.isEmpty]⟩
    · have hs : (Stretch.prose (init.concat l)).StandsBefore after := by
        refine ⟨by simp, hall, ?_⟩
        intro m hm
        rcases ha m hm with ⟨closed, hc⟩ | ⟨-, hc⟩
        · simp [hc]
        · exact hc
      refine ⟨_, .cons hs hp, ?_⟩
      simp [Stretch.node?_prose, pendingNodes, paragraph?, intercept?, Paragraph.Buffer.take,
        Paragraph.Buffer.isEmpty]
  -- in a block no prose waits, and only an opener or the end is next
  | some lines =>
    obtain ⟨hl, rfl, first, inner, rfl, hf, hi⟩ := h
    have hs : (Stretch.cut first inner).StandsBefore after := by
      refine ⟨hf, hi, ?_⟩
      intro m hm
      rcases ha m hm with hc | ⟨hb, -⟩
      · exact hc
      · simp at hb
    refine ⟨_, .cons hs hp, ?_⟩
    dsimp only at hl
    rw [hl]
    simp [Stretch.node?, pendingNodes, paragraph?, intercept?, Paragraph.Buffer.take,
      Paragraph.Buffer.isEmpty]

/-- Reading `ts` adds to `nodes` those of the stretches of `lines`. -/
def Yields (table : SpeakerTable) (r : Reader) (ts : List Text) (nodes : List Node)
    (lines : List Line) : Prop :=
  ∃ ps, Parted lines ps ∧
    (ts.foldl (feed table) r).finish table = nodes ++ ps.filterMap (Stretch.node? table)

/-- However `ts` is reached, what a reader keeps and what is to come part into the stretches of the
nodes that it adds. -/
def Reads (table : SpeakerTable) (ts : List Text) : Prop :=
  ∀ {r : Reader} {tail : List Line}, r.Keeps tail →
    Yields table r ts r.nodes (tail ++ Line.classify r.block.isSome ts)

theorem reads_nil (table : SpeakerTable) : Reads table [] := by
  intro r tail h
  obtain ⟨qs, hq, hn⟩ := h.parted (by simp) .nil
  refine ⟨qs, hq, ?_⟩
  rw [List.foldl_nil, finish, endAll_eq, hn]
  simp

theorem endProse_of_no_block (hb : r.block = none) :
    r.endProse table = ⟨r.nodes ++ r.pendingNodes table, {}, none⟩ := by
  rw [endProse_eq, hb]
  simp [pendingNodes, intercept?, hb]

variable {ts : List Text} {t : Text}

theorem Reads.single (ih : Reads table ts) (h : r.Keeps tail) {p : Stretch} {l : Line}
    (hl : p.lines = [l]) (hp : p.StandsBefore (Line.classify false ts))
    (hc : (∃ closed, l.cls = .opening closed) ∨ r.block = none ∧ l.cls ≠ .prose)
    (hf : r.feed table t =
      ⟨r.nodes ++ r.pendingNodes table ++ (p.node? table).toList, {}, none⟩) :
    Yields table (r.feed table t) ts r.nodes (tail ++ l :: Line.classify false ts) := by
  obtain ⟨ps, hps, hn⟩ := ih (keeps_nil (r.nodes ++ r.pendingNodes table ++ (p.node? table).toList))
  have hps : Parted (l :: Line.classify false ts) (p :: ps) := by
    have := Parted.cons hp hps
    rwa [hl] at this
  have ha : ∀ m ∈ (l :: Line.classify false ts).head?,
      (∃ closed, m.cls = .opening closed) ∨ r.block = none ∧ m.cls ≠ .prose := by
    intro m hm
    rwa [← Option.some.inj hm]
  obtain ⟨qs, hq, he⟩ := h.parted ha hps
  refine ⟨qs, hq, ?_⟩
  rw [hf, hn, he]
  cases hx : p.node? table <;> simp [hx]

theorem Reads.opening (ih : Reads table ts) (h : r.Keeps tail)
    (hf : r.feed table t = ⟨r.nodes ++ r.pendingNodes table, {}, some [t]⟩) :
    Yields table (r.feed table t) ts r.nodes
      (tail ++ ⟨t, .opening false⟩ :: Line.classify true ts) := by
  have hk : Keeps ⟨r.nodes ++ r.pendingNodes table, {}, some [t]⟩ [⟨t, .opening false⟩] :=
    ⟨rfl, rfl, _, [], rfl, rfl, by simp⟩
  obtain ⟨ps, hp, hn⟩ := ih hk
  obtain ⟨qs, hq, he⟩ := h.parted (by simp) hp
  refine ⟨qs, hq, ?_⟩
  rw [hf, hn, he, List.append_assoc]

theorem Reads.keep (ih : Reads table ts) {l : Line} (hk : (r.feed table t).Keeps (tail ++ [l]))
    (hn : (r.feed table t).nodes = r.nodes) :
    Yields table (r.feed table t) ts r.nodes
      (tail ++ l :: Line.classify (r.feed table t).block.isSome ts) := by
  obtain ⟨ps, hp, he⟩ := ih hk
  rw [List.append_assoc, List.singleton_append] at hp
  exact ⟨ps, hp, by rw [he, hn]⟩

theorem Reads.closing (ih : Reads table ts) {first : Line} {inner : List Line}
    (ho : first.cls = .opening false) (hi : ∀ l ∈ inner, l.cls = .continuing)
    (hf : r.feed table t = ⟨r.nodes ++ [.intercept ((first :: inner).map Line.text ++ [t])], {}, none⟩) :
    Yields table (r.feed table t) ts r.nodes
      (first :: inner ++ ⟨t, .closing⟩ :: Line.classify false ts) := by
  obtain ⟨ps, hp, hn⟩ := ih (keeps_nil
    (r.nodes ++ [.intercept ((first :: inner).map Line.text ++ [t])]))
  have hs : (Stretch.closed first inner ⟨t, .closing⟩).StandsBefore (Line.classify false ts) :=
    ⟨ho, hi, rfl⟩
  have hq := Parted.cons hs hp
  simp only [Stretch.lines, List.cons_append, List.append_assoc, List.nil_append] at hq
  refine ⟨_, hq, ?_⟩
  rw [hf, hn]
  simp [Stretch.node?]

theorem block_eq_none {c : LineClass} (hc : LineClass.of r.block.isSome t = c)
    (ho : ∀ closed, c ≠ .opening closed) (hi : c ≠ .continuing) (hl : c ≠ .closing) :
    r.block = none := by
  cases hb : r.block with
  | none => rfl
  | some lines =>
    rw [hb, Option.isSome_some] at hc
    rcases LineClass.inner_of_inBlock t with ⟨closed, h⟩ | h | h
    · exact absurd (hc.symm.trans h) (ho closed)
    · exact absurd (hc.symm.trans h) hi
    · exact absurd (hc.symm.trans h) hl

theorem Keeps.block (h : r.Keeps tail)
    (hc : LineClass.of r.block.isSome t = .continuing ∨ LineClass.of r.block.isSome t = .closing) :
    ∃ first inner, tail = first :: inner ∧ first.cls = .opening false ∧
      (∀ l ∈ inner, l.cls = .continuing) ∧ r.block = some (tail.map Line.text) ∧ r.prose = {} := by
  obtain ⟨nodes, prose, block⟩ := r
  obtain ⟨lines, rfl⟩ := Option.isSome_iff_exists.1 (LineClass.inBlock_of_inner hc)
  obtain ⟨hp, rfl, first, inner, ht, hf, hi⟩ := h
  exact ⟨first, inner, ht, hf, hi, rfl, hp⟩

theorem Keeps.push (h : r.Keeps tail) (hb : r.block = none) (t : Text) :
    Keeps { r with prose := r.prose.push (Text.trim t) } (tail ++ [⟨t, .prose⟩]) := by
  simp only [Keeps, hb] at h
  simp only [Keeps, hb, Paragraph.Buffer.push, h.1]
  refine ⟨by simp, List.forall_mem_append.2 ⟨h.2, ?_⟩⟩
  intro l hl
  rw [List.mem_singleton.1 hl]

theorem keeps_extend {first : Line} {inner : List Line} (hp : r.prose = {})
    (ho : first.cls = .opening false) (hi : ∀ l ∈ inner, l.cls = .continuing) (t : Text) :
    Keeps { r with block := some ((first :: inner).map Line.text ++ [t]) }
      (first :: inner ++ [⟨t, .continuing⟩]) := by
  refine ⟨hp, by simp, first, inner ++ [⟨t, .continuing⟩], rfl, ho,
    List.forall_mem_append.2 ⟨hi, ?_⟩⟩
  intro l hl
  rw [List.mem_singleton.1 hl]

theorem reads_cons (ih : Reads table ts) : Reads table (t :: ts) := by
  intro r tail h
  rw [Line.classify]
  change Yields table (r.feed table t) ts _ _
  cases hc : LineClass.of r.block.isSome t with
  -- an opener is one inside and outside of blocks, the other classes tell where the line is
  | opening closed =>
    cases closed with
    | true =>
      refine ih.single (p := .single ⟨t, .opening true⟩) h rfl rfl (.inl ⟨true, rfl⟩) ?_
      simp [feed, hc, endAll_eq, emit, Stretch.node?]
    | false =>
      refine ih.opening h ?_
      simp [feed, hc, endAll_eq]
  | directive d =>
    have hb := block_eq_none hc (by simp) (by simp) (by simp)
    refine ih.single (p := .directive ⟨t, .directive d⟩ d) h rfl rfl (.inr ⟨hb, by simp⟩) ?_
    simp [feed, hc, endProse_of_no_block hb, emit, Stretch.node?]
  | blank =>
    have hb := block_eq_none hc (by simp) (by simp) (by simp)
    refine ih.single (p := .blank ⟨t, .blank⟩) h rfl rfl (.inr ⟨hb, by simp⟩) ?_
    simp [feed, hc, endProse_of_no_block hb, Stretch.node?]
  | prose =>
    have hb := block_eq_none hc (by simp) (by simp) (by simp)
    have hf : r.feed table t = { r with prose := r.prose.push (Text.trim t) } := by simp [feed, hc]
    have hk : (r.feed table t).Keeps (tail ++ [⟨t, .prose⟩]) := hf ▸ h.push hb t
    have := ih.keep hk (by rw [hf])
    rw [hf] at this ⊢
    simpa [hb, LineClass.leavesOpen] using this
  | continuing =>
    obtain ⟨first, inner, rfl, ho, hi, hb, hp⟩ := h.block (.inl hc)
    have hf : r.feed table t =
        { r with block := some ((first :: inner).map Line.text ++ [t]) } := by
      rw [feed, hc]
      simp [hb]
    have hk : (r.feed table t).Keeps (first :: inner ++ [⟨t, .continuing⟩]) :=
      hf ▸ keeps_extend hp ho hi t
    have := ih.keep hk (by rw [hf])
    rw [hf] at this ⊢
    simpa [LineClass.leavesOpen] using this
  | closing =>
    obtain ⟨first, inner, rfl, ho, hi, hb, hp⟩ := h.block (.inr hc)
    refine ih.closing ho hi ?_
    rw [feed, hc]
    simp [endBlock_eq, intercept?, hb, hp]

theorem reads (table : SpeakerTable) (ts : List Text) : Reads table ts := by
  induction ts with
  | nil => exact reads_nil table
  | cons t ts ih => exact reads_cons ih

end Reader

theorem exists_parted_parse (table : SpeakerTable) (chapter : Text) :
    ∃ ps, Parted (Line.ofChapter chapter) ps ∧
      parse table chapter = ps.filterMap (Stretch.node? table) := by
  obtain ⟨ps, hp, hn⟩ := Reader.reads table ((Text.lines chapter).map Text.trimEnd)
    (Reader.keeps_nil [])
  exact ⟨ps, hp, by simpa [parse] using hn⟩

/-- The lines of a chapter part into stretches in one way, which loses and moves no line, and its
nodes are those of the stretches in order: a directive, a paragraph of the longest run of prose, or
the lines of a block from its opener to its closing line, the next opener or the end. Each line that
is not blank is a line of one node. -/
theorem parse_eq_stretches (table : SpeakerTable) (chapter : Text) :
    ∃ ps, Parted (Line.ofChapter chapter) ps ∧
      (∀ qs, Parted (Line.ofChapter chapter) qs → qs = ps) ∧
      parse table chapter = ps.filterMap (Stretch.node? table) ∧
      ps.flatMap Stretch.lines = Line.ofChapter chapter ∧
      (Line.ofChapter chapter).map Line.text = (Text.lines chapter).map Text.trimEnd ∧
      (ps.filter fun p => (p.node? table).isSome).flatMap Stretch.lines =
        (Line.ofChapter chapter).filter (·.cls ≠ .blank) ∧
      ∀ l ∈ Line.ofChapter chapter, l.cls = .blank → Text.trim l.text = [] := by
  obtain ⟨ps, hp, hn⟩ := exists_parted_parse table chapter
  exact ⟨ps, hp, fun qs hq => hq.unique hp, hn, hp.flatMap_lines, Line.map_text_ofChapter chapter,
    hp.filter_lines table, fun l hl hb => Line.trim_eq_nil hl hb⟩

end SerialNovel
