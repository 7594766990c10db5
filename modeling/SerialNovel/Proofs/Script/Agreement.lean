import SerialNovel.Proofs.Script.Block
import SerialNovel.Script.Lint

namespace SerialNovel

open Intercept

/-- Lines whose last has no close marker. -/
def Unclosed (ts : List Text) : Prop := ∃ t ∈ ts.getLast?, ¬ HasCloseMarker t

instance : DecidablePred Unclosed := fun ts =>
  inferInstanceAs (Decidable (∃ t ∈ ts.getLast?, ¬ HasCloseMarker t))

theorem not_unclosed_iff {ts : List Text} (h : ts ≠ []) :
    ¬ Unclosed ts ↔ ∃ t ∈ ts.getLast?, HasCloseMarker t := by
  obtain ⟨init, t, rfl⟩ := (List.eq_nil_or_concat ts).resolve_left h
  simp [Unclosed]

/-- The blocks among stretches, each with the number of its first line, from line `number` on. -/
def Stretch.placedBlocks (table : SpeakerTable) (number : Nat) :
    List Stretch → List (Nat × List Text)
  | [] => []
  | p :: ps =>
    ((p.blockLines? table).map fun ts => (number, ts)).toList ++
      placedBlocks table (number + p.lines.length) ps

namespace Lint

/-- The line where the block started that is open after some lines, from line `number` on. -/
def openedAfter (number : Nat) (opened : Option Nat) : List Text → Option Nat
  | [] => opened
  | t :: ts => openedAfter (number + 1) (openAfter number opened (LineClass.of opened.isSome t)) ts

/-- The lines where blocks start that another opener or the end cuts off. -/
def cutOff (number : Nat) (opened : Option Nat) : List Line → List Nat
  | [] => opened.toList
  | l :: ls =>
    (if l.cls.isOpening then opened.toList else []) ++
      cutOff (number + 1) (openAfter number opened l.cls) ls

def warning (line : Nat) : Issue := ⟨line, .unterminatedIntercept⟩

variable {number : Nat} {opened : Option Nat}

theorem isSome_openAfter (number : Nat) (opened : Option Nat) (t : Text) :
    (openAfter number opened (LineClass.of opened.isSome t)).isSome =
      (LineClass.of opened.isSome t).leavesOpen := by
  cases hc : LineClass.of opened.isSome t with
  | opening closed => cases closed <;> rfl
  | closing => rfl
  | continuing => exact LineClass.inBlock_of_inner (.inl hc)
  -- the other classes tell that no block is open
  | _ =>
    cases ho : opened with
    | none => rfl
    | some k =>
      rw [ho, Option.isSome_some] at hc
      rcases LineClass.inner_of_inBlock t with ⟨closed, h⟩ | h | h <;> simp [hc] at h

theorem isSome_block_feed (table : SpeakerTable) (r : Reader) (t : Text) :
    (r.feed table t).block.isSome = (LineClass.of r.block.isSome t).leavesOpen := by
  unfold Reader.feed
  cases hc : LineClass.of r.block.isSome t with
  | opening closed => cases closed <;> simp [Reader.endAll_eq, Reader.emit, LineClass.leavesOpen]
  | closing => simp [Reader.endBlock_eq, LineClass.leavesOpen]
  | continuing => simp [LineClass.leavesOpen, LineClass.inBlock_of_inner (.inl hc)]
  | _ =>
    have hb := Reader.block_eq_none hc (by simp) (by simp) (by simp)
    simp [Reader.endProse_eq, Reader.emit, hb, LineClass.leavesOpen]

/-- Where both have read the same lines, the linter is in a block if the reader is. -/
theorem isSome_openedAfter (table : SpeakerTable) {r : Reader} (h : opened.isSome = r.block.isSome)
    (ts : List Text) :
    (openedAfter number opened ts).isSome = (ts.foldl (Reader.feed table) r).block.isSome := by
  induction ts generalizing number opened r with
  | nil => exact h
  | cons t ts ih =>
    apply ih
    rw [isSome_openAfter, isSome_block_feed, h]

theorem exists_issuesFrom_append (number : Nat) (opened : Option Nat) (ts us : List Text) :
    ∃ found, issuesFrom number opened (ts ++ us) =
      found ++ issuesFrom (number + ts.length) (openedAfter number opened ts) us := by
  induction ts generalizing number opened with
  | nil => exact ⟨[], rfl⟩
  | cons t ts ih =>
    let cls := LineClass.of opened.isSome t
    obtain ⟨found, he⟩ := ih (number + 1) (openAfter number opened cls)
    refine ⟨interrupted opened cls ++ (lineIssues cls t).map (.mk number) ++ found, ?_⟩
    rw [List.cons_append, issuesFrom, he, List.length_cons, List.append_assoc _ found,
      Nat.add_assoc number, Nat.add_comm 1]
    rfl

theorem unterminatedIntercept_notMem_tagIssues (t : Text) :
    IssueKind.unterminatedIntercept ∉ tagIssues t := by
  intro h
  rcases List.mem_append.1 h with h | h
  · obtain ⟨name, -, hn⟩ := List.mem_filterMap.1 h
    unfold tagIssue? at hn
    split at hn
    · simp at hn
    · split at hn <;> simp at hn
  · split at h <;> simp at h

theorem unterminatedIntercept_notMem_lineIssues (cls : LineClass) (t : Text) :
    IssueKind.unterminatedIntercept ∉ lineIssues cls t := by
  have ht := unterminatedIntercept_notMem_tagIssues t
  unfold lineIssues
  split
  · exact ht
  · exact ht
  · exact ht
  · split <;> simp
  · split <;> simp
  · simp
  · simp
  · split <;> simp [ht]

theorem unterminated_eq (opened : Option Nat) : unterminated opened = opened.toList.map warning := by
  cases opened <;> rfl

theorem kind_of_mem_unterminated {i : Issue} (h : i ∈ unterminated opened) :
    i.kind = .unterminatedIntercept := by
  rw [unterminated_eq] at h
  obtain ⟨k, -, rfl⟩ := List.mem_map.1 h
  rfl

theorem kind_of_mem_interrupted {cls : LineClass} {i : Issue} (h : i ∈ interrupted opened cls) :
    i.kind = .unterminatedIntercept := by
  cases cls with
  | opening _ => exact kind_of_mem_unterminated h
  | _ => simp [interrupted] at h

theorem mem_issuesFrom {k : IssueKind} (hk : k ≠ .unterminatedIntercept) {n : Nat}
    {ts : List Text} : ⟨n, k⟩ ∈ issuesFrom number opened ts ↔
      ∃ l, (l, n) ∈ (Line.classify opened.isSome ts).zipIdx number ∧
        k ∈ lineIssues l.cls l.text := by
  induction ts generalizing number opened with
  | nil =>
    simp only [issuesFrom, Line.classify, List.zipIdx_nil, List.not_mem_nil, false_and, exists_false,
      iff_false]
    exact fun h => hk (kind_of_mem_unterminated h)
  | cons t ts ih =>
    have hi : ⟨n, k⟩ ∉ interrupted opened (LineClass.of opened.isSome t) :=
      fun h => hk (kind_of_mem_interrupted h)
    have hm : ⟨n, k⟩ ∈ (lineIssues (LineClass.of opened.isSome t) t).map (Issue.mk number) ↔
        n = number ∧ k ∈ lineIssues (LineClass.of opened.isSome t) t := by
      simp [and_comm, eq_comm]
    rw [issuesFrom, List.mem_append, List.mem_append, ih, isSome_openAfter, hm, Line.classify,
      List.zipIdx_cons]
    simp only [hi, false_or, List.mem_cons, Prod.mk.injEq, or_and_right, exists_or, and_assoc,
      exists_eq_left]

theorem mem_lint {k : IssueKind} (hk : k ≠ .unterminatedIntercept) {n : Nat} {chapter : Text} :
    ⟨n, k⟩ ∈ lint chapter ↔
      ∃ l, (l, n) ∈ (Line.ofChapter chapter).zipIdx 1 ∧ k ∈ lineIssues l.cls l.text := by
  rw [lint, List.mem_mergeSort, mem_issuesFrom hk]
  rfl

theorem filter_issuesFrom (number : Nat) (opened : Option Nat) (ts : List Text) :
    (issuesFrom number opened ts).filter (·.kind = .unterminatedIntercept) =
      (cutOff number opened (Line.classify opened.isSome ts)).map warning := by
  have hall (ks : List Nat) : (ks.map warning).filter (·.kind = .unterminatedIntercept) =
      ks.map warning := by
    rw [List.filter_eq_self]
    intro i hi
    obtain ⟨k, -, rfl⟩ := List.mem_map.1 hi
    rfl
  induction ts generalizing number opened with
  | nil => rw [issuesFrom, unterminated_eq, Line.classify, cutOff, hall]
  | cons t ts ih =>
    let cls := LineClass.of opened.isSome t
    have hl : ((lineIssues cls t).map (Issue.mk number)).filter
        (·.kind = .unterminatedIntercept) = [] := by
      rw [List.filter_eq_nil_iff]
      intro i hi hk
      obtain ⟨kind, hm, rfl⟩ := List.mem_map.1 hi
      have hk : kind = .unterminatedIntercept := of_decide_eq_true hk
      exact unterminatedIntercept_notMem_lineIssues cls t (hk ▸ hm)
    have ho : interrupted opened cls =
        (if cls.isOpening then opened.toList else []).map warning := by
      cases cls <;> simp [interrupted, LineClass.isOpening, unterminated_eq]
    have hr := ih (number + 1) (openAfter number opened cls)
    rw [isSome_openAfter] at hr
    rw [issuesFrom, List.filter_append, List.filter_append, hl, List.append_nil, ho, hall, hr,
      ← List.map_append]
    rfl

theorem mem_openAfter {cls : LineClass} {k : Nat} (hk : k ∈ openAfter number opened cls) :
    if cls.isOpening then k = number else k ∈ opened := by
  cases cls with
  | opening closed => cases closed <;> simp_all [openAfter, LineClass.isOpening]
  | closing => simp [openAfter] at hk
  | _ => exact hk

theorem pairwise_cutOff (ls : List Line) (ho : ∀ k ∈ opened, k < number) :
    (cutOff number opened ls).Pairwise (· < ·) ∧
      ∀ k ∈ cutOff number opened ls, k ∈ opened ∨ number ≤ k := by
  induction ls generalizing number opened with
  | nil => cases opened <;> simp [cutOff]
  | cons l ls ih =>
    have hn : ∀ k ∈ openAfter number opened l.cls, k < number + 1 := by
      intro k hk
      have hx := mem_openAfter hk
      split at hx
      · omega
      · exact Nat.lt_succ_of_lt (ho k hx)
    obtain ⟨hp, hm⟩ := ih hn
    rw [cutOff]
    by_cases hc : l.cls.isOpening
    · -- after an opener what was open before is forgotten
      have hge : ∀ k ∈ cutOff (number + 1) (openAfter number opened l.cls) ls, number ≤ k := by
        intro k hk
        rcases hm k hk with h | h
        · have hx := mem_openAfter h
          rw [if_pos hc] at hx
          omega
        · omega
      rw [if_pos hc]
      refine ⟨List.pairwise_append.2 ⟨?_, hp, fun a ha b hb => ?_⟩, fun k hk => ?_⟩
      · cases opened <;> simp
      · exact Nat.lt_of_lt_of_le (ho a (Option.mem_toList.1 ha)) (hge b hb)
      · rcases List.mem_append.1 hk with hk | hk
        · exact .inl (Option.mem_toList.1 hk)
        · exact .inr (hge k hk)
    · rw [if_neg hc]
      refine ⟨hp, fun k hk => ?_⟩
      rcases hm k hk with h | h
      · have hx := mem_openAfter h
        rw [if_neg hc] at hx
        exact .inl hx
      · exact .inr (Nat.le_of_succ_le h)

theorem filter_lint (chapter : Text) :
    (lint chapter).filter (·.kind = .unterminatedIntercept) =
      (cutOff 1 none (Line.ofChapter chapter)).map warning := by
  have hf := filter_issuesFrom 1 none ((Text.lines chapter).map Text.trimEnd)
  have ho : ∀ k ∈ (none : Option Nat), k < 1 := by simp
  obtain ⟨hp, -⟩ := pairwise_cutOff (Line.ofChapter chapter) ho
  have hs : (lint chapter).Pairwise fun a b => decide (a.line ≤ b.line) = true := by
    apply List.pairwise_mergeSort
    · intro a b c h1 h2
      simp only [decide_eq_true_iff] at *
      omega
    · intro a b
      simpa using Nat.le_total a.line b.line
  -- both sides are the same warnings in line order, and a line has one at most
  refine @List.Perm.eq_of_pairwise Issue (fun a b => a.line ≤ b.line) _ _ ?_ ?_ ?_ ?_
  · intro a b ha hb h1 h2
    have hk : a.kind = .unterminatedIntercept := of_decide_eq_true (List.mem_filter.1 ha).2
    obtain ⟨k, -, rfl⟩ := List.mem_map.1 hb
    obtain ⟨line, kind⟩ := a
    obtain rfl : line = k := Nat.le_antisymm h1 h2
    obtain rfl : kind = .unterminatedIntercept := hk
    rfl
  · exact (hs.filter _).imp fun h => of_decide_eq_true h
  · rw [List.pairwise_map]
    exact hp.imp fun h => Nat.le_of_lt h
  · exact ((List.mergeSort_perm _ _).filter _).trans (.of_eq hf)

end Lint

theorem Lint.cutOff_append {ls : List Line}
    (h : ∀ l ∈ ls, l.cls ≠ .closing ∧ l.cls.isOpening = false) (number : Nat) (opened : Option Nat)
    (after : List Line) :
    cutOff number opened (ls ++ after) = cutOff (number + ls.length) opened after := by
  induction ls generalizing number with
  | nil => rfl
  | cons l ls ih =>
    obtain ⟨hc, ho⟩ := h l List.mem_cons_self
    have hx : openAfter number opened l.cls = opened := by
      cases hcls : l.cls with
      | opening closed => simp [hcls, LineClass.isOpening] at ho
      | closing => exact absurd hcls hc
      | _ => rfl
    have hn : number + 1 + ls.length = number + (l :: ls).length := by
      rw [List.length_cons]
      omega
    rw [List.cons_append, cutOff, ho, hx, ih (fun m hm => h m (List.mem_cons_of_mem _ hm)), hn]
    rfl

theorem Lint.cutOff_continuing {ls : List Line} (h : ∀ l ∈ ls, l.cls = .continuing) (number : Nat)
    (opened : Option Nat) (after : List Line) :
    cutOff number opened (ls ++ after) = cutOff (number + ls.length) opened after :=
  cutOff_append (fun l hl => by simp [h l hl, LineClass.isOpening]) number opened after

theorem Lint.cutOff_some {after : List Line}
    (h : ∀ l ∈ after.head?, ∃ closed, l.cls = .opening closed) (number start : Nat) :
    cutOff number (some start) after = start :: cutOff number none after := by
  cases after with
  | nil => rfl
  | cons l ls =>
    obtain ⟨closed, hc⟩ := h l rfl
    simp [cutOff, hc, openAfter, LineClass.isOpening]

namespace Stretch

variable {table : SpeakerTable} {p : Stretch} {after : List Line} {number : Nat}

theorem eq_of_blockLines? {ts : List Text} (h : p.blockLines? table = some ts) :
    ts = p.lines.map Line.text := by
  cases p with
  | blank l => simp [blockLines?, node?] at h
  | directive l d => simp [blockLines?, node?, blockLines?_ofDirective] at h
  | prose ls => simp [blockLines?_prose] at h
  | single l => exact (Option.some.inj h).symm
  | closed first inner last => exact (Option.some.inj h).symm
  | cut first inner => exact (Option.some.inj h).symm

/-- The number of a stretch, if it is a block that no close marker ends. -/
def unclosed? (table : SpeakerTable) (number : Nat) (p : Stretch) : List Nat :=
  match p.blockLines? table with
  | some ts => if Unclosed ts then [number] else []
  | none => []

theorem unclosed?_of_none (h : p.blockLines? table = none) : p.unclosed? table number = [] := by
  simp [unclosed?, h]

theorem unclosed?_of_last {ts : List Text} {t : Text}
    (h : p.blockLines? table = some (ts ++ [t])) :
    p.unclosed? table number = if HasCloseMarker t then [] else [number] := by
  by_cases ht : HasCloseMarker t <;> simp [unclosed?, h, Unclosed, ht]

theorem unclosed?_of_forall {ts : List Text} (h : p.blockLines? table = some ts) (hne : ts ≠ [])
    (hm : ∀ t ∈ ts, ¬ HasCloseMarker t) : p.unclosed? table number = [number] := by
  obtain ⟨init, t, rfl⟩ := (List.eq_nil_or_concat ts).resolve_left hne
  rw [List.concat_eq_append] at h
  rw [unclosed?_of_last h, if_neg (hm t (by simp))]

theorem filter_placedBlocks (table : SpeakerTable) (number : Nat) (p : Stretch)
    (ps : List Stretch) :
    ((placedBlocks table number (p :: ps)).filter (Unclosed ·.2)).map Prod.fst =
      p.unclosed? table number ++
        ((placedBlocks table (number + p.lines.length) ps).filter (Unclosed ·.2)).map Prod.fst := by
  rw [placedBlocks, List.filter_append, List.map_append]
  congr 1
  cases hb : p.blockLines? table with
  | none => simp [unclosed?, hb]
  | some ts => by_cases hu : Unclosed ts <;> simp [unclosed?, hb, hu]

/-- A stretch is reported where it starts if it is a block that no close marker ends. -/
theorem StandsBefore.cutOff (h : p.StandsBefore after) (hl : ∀ l ∈ p.lines, l.Classified)
    (table : SpeakerTable) (number : Nat) :
    Lint.cutOff number none (p.lines ++ after) =
      p.unclosed? table number ++ Lint.cutOff (number + p.lines.length) none after := by
  cases p with
  | blank l =>
    have hc : l.cls = .blank := h
    rw [unclosed?_of_none rfl]
    exact Lint.cutOff_append (by simp [lines, hc, LineClass.isOpening]) number none after
  | directive l d =>
    have hc : l.cls = .directive d := h
    have hb : (Stretch.directive l d).blockLines? table = none := blockLines?_ofDirective d
    rw [unclosed?_of_none hb]
    exact Lint.cutOff_append (by simp [lines, hc, LineClass.isOpening]) number none after
  | prose ls =>
    rw [unclosed?_of_none (blockLines?_prose table ls)]
    exact Lint.cutOff_append (fun l hm => by simp [h.2.1 l hm, LineClass.isOpening]) number none after
  | single l =>
    have hm : HasCloseMarker l.text := ((hl l (by simp [lines])).opening h).2.1 rfl
    have hc : l.cls = .opening true := h
    have hb : (Stretch.single l).blockLines? table = some ([] ++ [l.text]) := rfl
    rw [unclosed?_of_last hb, if_pos hm]
    simp [lines, Lint.cutOff, hc, Lint.openAfter]
  | closed first inner last =>
    obtain ⟨hf, hi, hc⟩ := h
    have hm : HasCloseMarker last.text := by
      have hx := (hl last (by simp [lines])).inner (.inr hc)
      rw [hc] at hx
      by_contra hn
      simp [hn] at hx
    have hb : (Stretch.closed first inner last).blockLines? table =
        some ((first :: inner).map Line.text ++ [last.text]) := by
      simp [blockLines?, node?, Node.blockLines?]
    have hn : number + 1 + inner.length + 1 =
        number + (Stretch.closed first inner last).lines.length := by
      simp only [lines, List.length_cons, List.length_append, List.length_nil]
      omega
    rw [unclosed?_of_last hb, if_pos hm, ← hn]
    simp [lines, Lint.cutOff, Lint.cutOff_continuing hi, hf, hc, Lint.openAfter, LineClass.isOpening]
  | cut first inner =>
    obtain ⟨hf, hi, ho⟩ := h
    have hm : ∀ t ∈ (first :: inner).map Line.text, ¬ HasCloseMarker t := by
      intro t ht
      obtain ⟨l, hx, rfl⟩ := List.mem_map.1 ht
      rcases List.mem_cons.1 hx with rfl | hx
      · simpa using ((hl l (by simp [lines])).opening hf).2
      · exact ((hl l (by simp [lines, hx])).continuing (hi l hx)).2
    have hn : number + 1 + inner.length = number + (Stretch.cut first inner).lines.length := by
      simp only [lines, List.length_cons]
      omega
    rw [unclosed?_of_forall rfl (by simp) hm, ← hn]
    simp [lines, Lint.cutOff, Lint.cutOff_continuing hi, Lint.cutOff_some ho, hf, Lint.openAfter,
      LineClass.isOpening]

end Stretch

section

variable {table : SpeakerTable} {ls : List Line} {ps : List Stretch}

theorem Parted.cutOff (h : Parted ls ps) (hl : ∀ l ∈ ls, l.Classified) (table : SpeakerTable)
    (number : Nat) : Lint.cutOff number none ls =
      ((Stretch.placedBlocks table number ps).filter (Unclosed ·.2)).map Prod.fst := by
  induction h generalizing number with
  | nil => rfl
  | @cons p after ps hp _ ih =>
    have hl' : ∀ l ∈ after, l.Classified := fun l hx => hl l (List.mem_append_right _ hx)
    rw [hp.cutOff (fun l hx => hl l (List.mem_append_left _ hx)) table, ih hl',
      Stretch.filter_placedBlocks]

theorem Parted.stands (h : Parted ls ps) {number : Nat} {x : Nat × List Text}
    (hx : x ∈ Stretch.placedBlocks table number ps) :
    ∃ k, x.1 = number + k ∧ x.2 ≠ [] ∧ x.2 <+: (ls.map Line.text).drop k := by
  induction h generalizing number with
  | nil => simp [Stretch.placedBlocks] at hx
  | @cons p after ps hp _ ih =>
    rcases List.mem_append.1 hx with hx | hx
    · obtain ⟨ts, hb, rfl⟩ : ∃ ts, p.blockLines? table = some ts ∧ (number, ts) = x := by
        simpa using hx
      rw [Stretch.eq_of_blockLines? hb]
      refine ⟨0, rfl, by simpa using hp.lines_ne_nil, ?_⟩
      rw [List.drop_zero, List.map_append]
      exact List.prefix_append _ _
    · obtain ⟨k, hk, hne, hpre⟩ := ih hx
      refine ⟨p.lines.length + k, by omega, hne, ?_⟩
      rwa [List.map_append, ← List.drop_drop, List.drop_left' (List.length_map _)]

theorem map_snd_placedBlocks (table : SpeakerTable) (number : Nat) (ps : List Stretch) :
    (Stretch.placedBlocks table number ps).map Prod.snd =
      ps.filterMap (Stretch.blockLines? table) := by
  induction ps generalizing number with
  | nil => rfl
  | cons p ps ih =>
    rw [Stretch.placedBlocks, List.map_append, ih, List.filterMap_cons]
    cases p.blockLines? table <;> rfl

end

/-- After however many lines of a chapter, the linter holds a block open if the reader does. The
blocks that it calls unterminated are those of the nodes whose last line has no close marker, in
order, each with the number of its first line. So it calls none unterminated just if each block ends
in a line with a close marker. -/
theorem lint_unterminated (table : SpeakerTable) (chapter : Text) :
    let ts := (Text.lines chapter).map Text.trimEnd
    let blocks := (parse table chapter).filterMap Node.blockLines?
    (∀ k, (Lint.openedAfter 1 none (ts.take k)).isSome =
        ((ts.take k).foldl (Reader.feed table) {}).block.isSome ∧
      ∃ found, Lint.issuesFrom 1 none ts = found ++
        Lint.issuesFrom (1 + (ts.take k).length) (Lint.openedAfter 1 none (ts.take k)) (ts.drop k)) ∧
    (∃ ps, Parted (Line.ofChapter chapter) ps ∧
      let placed := Stretch.placedBlocks table 1 ps
      placed.map Prod.snd = blocks ∧
      (∀ x ∈ placed, 0 < x.1 ∧ x.2 ≠ [] ∧ x.2 <+: ts.drop (x.1 - 1)) ∧
      (lint chapter).filter (·.kind = .unterminatedIntercept) =
        (placed.filter (Unclosed ·.2)).map fun x => ⟨x.1, .unterminatedIntercept⟩) ∧
    ((∀ i ∈ lint chapter, i.kind ≠ .unterminatedIntercept) ↔
      ∀ b ∈ blocks, ∃ t ∈ b.getLast?, HasCloseMarker t) := by
  intro ts blocks
  obtain ⟨ps, hp, hn⟩ := exists_parted_parse table chapter
  have hl : ∀ l ∈ Line.ofChapter chapter, l.Classified := fun l hl => Line.classified_of_mem hl
  have hb : (Stretch.placedBlocks table 1 ps).map Prod.snd = blocks := by
    simp only [map_snd_placedBlocks, blocks, hn, List.filterMap_filterMap]
    rfl
  have hf : (lint chapter).filter (·.kind = .unterminatedIntercept) =
      ((Stretch.placedBlocks table 1 ps).filter (Unclosed ·.2)).map fun x => Lint.warning x.1 := by
    rw [Lint.filter_lint, hp.cutOff hl table, List.map_map]
    rfl
  have hs : ∀ x ∈ Stretch.placedBlocks table 1 ps,
      0 < x.1 ∧ x.2 ≠ [] ∧ x.2 <+: ts.drop (x.1 - 1) := by
    intro x hx
    obtain ⟨k, hk, hne, hpre⟩ := hp.stands hx
    rw [Line.map_text_ofChapter] at hpre
    exact ⟨by omega, hne, by rwa [hk, Nat.add_sub_cancel_left]⟩
  refine ⟨fun k => ⟨Lint.isSome_openedAfter table rfl (ts.take k), ?_⟩,
    ⟨ps, hp, hb, hs, hf⟩, ?_⟩
  · have := Lint.exists_issuesFrom_append 1 none (ts.take k) (ts.drop k)
    rwa [List.take_append_drop] at this
  · calc (∀ i ∈ lint chapter, i.kind ≠ .unterminatedIntercept)
        ↔ (lint chapter).filter (·.kind = .unterminatedIntercept) = [] := by
          simp [List.filter_eq_nil_iff]
      _ ↔ ∀ x ∈ Stretch.placedBlocks table 1 ps, ¬ Unclosed x.2 := by
          rw [hf, List.map_eq_nil_iff, List.filter_eq_nil_iff]
          simp
      _ ↔ ∀ x ∈ Stretch.placedBlocks table 1 ps, ∃ t ∈ x.2.getLast?, HasCloseMarker t :=
          forall₂_congr fun x hx => not_unclosed_iff (hs x hx).2.1
      _ ↔ ∀ b ∈ blocks, ∃ t ∈ b.getLast?, HasCloseMarker t := by
          rw [← hb, List.forall_mem_map]

end SerialNovel
