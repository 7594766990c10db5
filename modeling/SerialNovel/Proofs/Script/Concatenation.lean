import SerialNovel.Page.Render
import SerialNovel.Proofs.Script.Agreement
import SerialNovel.Proofs.Text.Lines

namespace SerialNovel

namespace Reader

def after (nodes : List Node) (r : Reader) : Reader := { r with nodes := nodes ++ r.nodes }

variable {table : SpeakerTable} {r : Reader}

theorem feed_after (table : SpeakerTable) (nodes : List Node) (r : Reader) (t : Text) :
    (r.after nodes).feed table t = (r.feed table t).after nodes := by
  have hp : (r.after nodes).endProse table = (r.endProse table).after nodes := by
    simp [endProse_eq, after, paragraph?]
  have hb (r : Reader) (last : List Text) :
      (r.after nodes).endBlock last = (r.endBlock last).after nodes := by
    simp [endBlock_eq, after, intercept?]
  have he (r : Reader) (n : Node) : (r.after nodes).emit n = (r.emit n).after nodes := by
    simp [emit, after]
  have hc : LineClass.of (r.after nodes).block.isSome t = LineClass.of r.block.isSome t := rfl
  unfold feed
  rw [hc]
  cases LineClass.of r.block.isSome t with
  | opening closed =>
    dsimp only
    rw [hp, hb]
    split
    · exact he _ _
    · rfl
  | continuing => rfl
  | closing => exact hb r [t]
  | directive d =>
    dsimp only
    rw [hp, he]
  | blank => exact hp
  | prose => rfl

theorem foldl_feed_after (table : SpeakerTable) (nodes : List Node) (r : Reader) (ts : List Text) :
    ts.foldl (feed table) (r.after nodes) = (ts.foldl (feed table) r).after nodes := by
  induction ts generalizing r with
  | nil => rfl
  | cons t ts ih => rw [List.foldl_cons, feed_after, ih, List.foldl_cons]

theorem finish_eq (table : SpeakerTable) (r : Reader) :
    r.finish table = r.nodes ++ r.pendingNodes table := by
  rw [finish, endAll_eq]

theorem finish_after (table : SpeakerTable) (nodes : List Node) (r : Reader) :
    (r.after nodes).finish table = nodes ++ r.finish table := by
  have hp : (r.after nodes).pendingNodes table = r.pendingNodes table := rfl
  rw [finish_eq, finish_eq, hp, after, List.append_assoc]

/-- Outside a block an empty line ends all that a reader keeps. -/
theorem feed_nil (hb : r.block = none) : r.feed table [] = ⟨r.finish table, {}, none⟩ := by
  have hf : r.feed table [] = r.endProse table := by
    unfold feed
    rw [hb]
    rfl
  rw [hf, endProse_of_no_block hb, finish_eq]

theorem foldl_feed_replicate_nil (hb : r.block = none) (n : Nat) :
    (List.replicate (n + 1) []).foldl (feed table) r = ⟨r.finish table, {}, none⟩ := by
  induction n generalizing r with
  | zero => exact feed_nil hb
  | succ n ih =>
    have hf : finish table ⟨r.finish table, {}, none⟩ = r.finish table := by
      simp [finish_eq, pendingNodes, paragraph?, intercept?, Paragraph.Buffer.take,
        Paragraph.Buffer.isEmpty]
    rw [List.replicate_succ, List.foldl_cons, feed_nil hb, ih rfl, hf]

def ofChapter (table : SpeakerTable) (chapter : Text) : Reader :=
  ((Text.lines chapter).map Text.trimEnd).foldl (feed table) {}

theorem ofChapter_append_gap {a : Text} (h : (ofChapter table a).block = none) (b : Text) :
    ofChapter table (a ++ "\n\n".toList ++ b) = (ofChapter table b).after (parse table a) := by
  obtain ⟨n, hn⟩ := Text.exists_lines_append_gap a
  have ht : Text.trimEnd [] = [] := rfl
  have hr : (⟨(ofChapter table a).finish table, {}, none⟩ : Reader) = after (parse table a) {} := by
    rw [after, List.append_nil]
    rfl
  calc ofChapter table (a ++ "\n\n".toList ++ b)
      = ((Text.lines b).map Text.trimEnd).foldl (feed table)
          ((List.replicate (n + 1) []).foldl (feed table) (ofChapter table a)) := by
        rw [ofChapter, Text.lines_append_gap, hn, List.map_append, List.map_append,
          List.map_replicate, ht, List.foldl_append, List.foldl_append]
        rfl
    _ = (ofChapter table b).after (parse table a) := by
        rw [foldl_feed_replicate_nil h, hr, foldl_feed_after]
        rfl

end Reader

theorem parse_append_gap {table : SpeakerTable} {a : Text}
    (h : (Reader.ofChapter table a).block = none) (b : Text) :
    parse table (a ++ "\n\n".toList ++ b) = parse table a ++ parse table b := by
  calc parse table (a ++ "\n\n".toList ++ b)
      = ((Reader.ofChapter table b).after (parse table a)).finish table := by
        rw [← Reader.ofChapter_append_gap h]
        rfl
    _ = parse table a ++ parse table b := Reader.finish_after table _ _

theorem Page.render_append (ns ms : List Node) : render (ns ++ ms) = render ns ++ render ms := by
  rw [render, lift, List.flatMap_append, List.map_append, render, render, lift, lift]

def Issue.lower (k : Nat) (i : Issue) : Issue := { i with line := i.line + k }

namespace Lint

variable {number : Nat} {opened : Option Nat}

theorem openAfter_add (number k : Nat) (opened : Option Nat) (cls : LineClass) :
    openAfter (number + k) (opened.map (· + k)) cls =
      (openAfter number opened cls).map (· + k) := by
  cases cls with
  | opening closed => cases closed <;> rfl
  | _ => rfl

theorem unterminated_add (k : Nat) (opened : Option Nat) :
    unterminated (opened.map (· + k)) = (unterminated opened).map (Issue.lower k) := by
  cases opened <;> rfl

theorem interrupted_add (k : Nat) (opened : Option Nat) (cls : LineClass) :
    interrupted (opened.map (· + k)) cls = (interrupted opened cls).map (Issue.lower k) := by
  cases cls with
  | opening closed => exact unterminated_add k opened
  | _ => rfl

theorem issuesFrom_add (number k : Nat) (opened : Option Nat) (ts : List Text) :
    issuesFrom (number + k) (opened.map (· + k)) ts =
      (issuesFrom number opened ts).map (Issue.lower k) := by
  induction ts generalizing number opened with
  | nil => exact unterminated_add k opened
  | cons t ts ih =>
    have hl (cls : LineClass) : (lineIssues cls t).map (Issue.mk (number + k)) =
        ((lineIssues cls t).map (Issue.mk number)).map (Issue.lower k) := by
      rw [List.map_map]
      rfl
    have hn : number + k + 1 = number + 1 + k := by omega
    rw [issuesFrom, issuesFrom, Option.isSome_map, interrupted_add, openAfter_add, hl, hn, ih,
      List.map_append, List.map_append]

theorem issuesFrom_append (ts us : List Text) (h : openedAfter number opened ts = none) :
    issuesFrom number opened (ts ++ us) =
      issuesFrom number opened ts ++ issuesFrom (number + ts.length) none us := by
  induction ts generalizing number opened with
  | nil =>
    obtain rfl : opened = none := h
    rfl
  | cons t ts ih =>
    have hn : number + (t :: ts).length = number + 1 + ts.length := by
      rw [List.length_cons]
      omega
    rw [List.cons_append, issuesFrom, issuesFrom, ih h, hn, List.append_assoc _ (issuesFrom _ _ ts)]

theorem issuesFrom_replicate_nil (number n : Nat) (ts : List Text) :
    issuesFrom number none (List.replicate n [] ++ ts) = issuesFrom (number + n) none ts := by
  induction n generalizing number with
  | zero => rfl
  | succ n ih =>
    have hn : number + (n + 1) = number + 1 + n := by omega
    rw [hn, ← ih]
    rfl

theorem line_of_mem_issuesFrom {i : Issue} {ts : List Text} (hi : i ∈ issuesFrom number opened ts) :
    i.line ∈ opened ∨ number ≤ i.line ∧ i.line < number + ts.length := by
  induction ts generalizing number opened with
  | nil =>
    rw [issuesFrom, unterminated_eq] at hi
    obtain ⟨k, hk, rfl⟩ := List.mem_map.1 hi
    exact .inl (Option.mem_toList.1 hk)
  | cons t ts ih =>
    rw [List.length_cons]
    rcases List.mem_append.1 hi with hi | hi
    · rcases List.mem_append.1 hi with hi | hi
      · cases hc : LineClass.of opened.isSome t with
        | opening closed =>
          rw [hc, interrupted, unterminated_eq] at hi
          obtain ⟨k, hk, rfl⟩ := List.mem_map.1 hi
          exact .inl (Option.mem_toList.1 hk)
        | _ => simp [hc, interrupted] at hi
      · obtain ⟨kind, -, rfl⟩ := List.mem_map.1 hi
        exact .inr ⟨Nat.le_refl _, by show number < _; omega⟩
    · rcases ih hi with ho | hr
      · have hk := mem_openAfter ho
        split at hk
        · exact .inr (by omega)
        · exact .inl hk
      · exact .inr (by omega)

end Lint

/-- Sorting keeps two lists apart where all of the one stands before all of the other. -/
theorem mergeSort_append {α : Type} {le : α → α → Bool} (trans : ∀ a b c, le a b → le b c → le a c)
    (total : ∀ a b, le a b || le b a) {xs ys : List α} (h : ∀ x ∈ xs, ∀ y ∈ ys, le x y) :
    (xs ++ ys).mergeSort le = xs.mergeSort le ++ ys.mergeSort le := by
  induction xs with
  | nil => simp
  | cons x xs ih =>
    have ih := ih fun z hz => h z (List.mem_cons_of_mem x hz)
    -- `x` goes before the first that it is not after, which is found among `xs` if at all
    obtain ⟨l, r, he, hlr, hl⟩ := List.mergeSort_cons trans total x (xs ++ ys)
    obtain ⟨l', r', he', hlr', hl'⟩ := List.mergeSort_cons trans total x xs
    have hr : ∀ b ∈ r, le x b := by
      have hs := List.pairwise_mergeSort trans total (x :: (xs ++ ys))
      rw [he] at hs
      exact (List.pairwise_cons.1 (List.pairwise_append.1 hs).2.1).1
    have hr' : ∀ b ∈ r' ++ ys.mergeSort le, le x b := by
      have hs := List.pairwise_mergeSort trans total (x :: xs)
      rw [he'] at hs
      intro b hb
      rcases List.mem_append.1 hb with hb | hb
      · exact (List.pairwise_cons.1 (List.pairwise_append.1 hs).2.1).1 b hb
      · exact h x List.mem_cons_self b (List.mem_mergeSort.1 hb)
    have hsum : l ++ r = l' ++ (r' ++ ys.mergeSort le) := by
      rw [← hlr, ih, hlr', List.append_assoc]
    obtain ⟨rfl, rfl⟩ := append_inj_of_run (p := fun b => le x b = false)
      (by simpa using hl) (fun b hb => by simp [hr b (List.mem_of_mem_head? hb)])
      (by simpa using hl') (fun b hb => by simp [hr' b (List.mem_of_mem_head? hb)]) hsum
    rw [List.cons_append, he, he', List.append_assoc, List.cons_append]

theorem Lint.issuesFrom_append_gap {table : SpeakerTable} {a : Text}
    (h : (Reader.ofChapter table a).block = none) (b : Text) :
    issuesFrom 1 none ((Text.lines (a ++ "\n\n".toList ++ b)).map Text.trimEnd) =
      issuesFrom 1 none ((Text.lines a).map Text.trimEnd) ++
        (issuesFrom 1 none ((Text.lines b).map Text.trimEnd)).map
          (Issue.lower (Text.lines (a ++ "\n\n".toList)).length) := by
  obtain ⟨n, hn⟩ := Text.exists_lines_append_gap a
  have ht : Text.trimEnd [] = [] := rfl
  -- the linter is outside a block where the reader is
  have ho : openedAfter 1 none ((Text.lines a).map Text.trimEnd) = none := by
    have hs : (openedAfter 1 none ((Text.lines a).map Text.trimEnd)).isSome =
        (Reader.ofChapter table a).block.isSome := isSome_openedAfter table rfl _
    rwa [h, Option.isSome_none, Option.isSome_eq_false_iff, Option.isNone_iff_eq_none] at hs
  have hs :=
    issuesFrom_add 1 ((Text.lines a).length + (n + 1)) none ((Text.lines b).map Text.trimEnd)
  rw [Text.lines_append_gap, hn, List.map_append, List.map_append, List.map_replicate, ht,
    List.append_assoc, issuesFrom_append _ _ ho, issuesFrom_replicate_nil, List.length_map,
    Nat.add_assoc, List.length_append, List.length_replicate, ← hs]
  rfl

theorem lint_append_gap {table : SpeakerTable} {a : Text}
    (h : (Reader.ofChapter table a).block = none) (b : Text) :
    lint (a ++ "\n\n".toList ++ b) =
      lint a ++ (lint b).map (Issue.lower (Text.lines (a ++ "\n\n".toList)).length) := by
  let le : Issue → Issue → Bool := fun i j => i.line ≤ j.line
  have trans (i j k : Issue) (hij : le i j) (hjk : le j k) : le i k :=
    decide_eq_true (Nat.le_trans (of_decide_eq_true hij) (of_decide_eq_true hjk))
  have total (i j : Issue) : le i j || le j i := by
    simpa [le] using Nat.le_total i.line j.line
  have hlen : (Text.lines a).length ≤ (Text.lines (a ++ "\n\n".toList)).length := by
    obtain ⟨n, hn⟩ := Text.exists_lines_append_gap a
    rw [hn, List.length_append]
    exact Nat.le_add_right _ _
  have hle : ∀ i ∈ Lint.issuesFrom 1 none ((Text.lines a).map Text.trimEnd),
      ∀ j ∈ (Lint.issuesFrom 1 none ((Text.lines b).map Text.trimEnd)).map
        (Issue.lower (Text.lines (a ++ "\n\n".toList)).length), le i j := by
    intro i hi j hj
    obtain ⟨j, hj, rfl⟩ := List.mem_map.1 hj
    have hi := Lint.line_of_mem_issuesFrom hi
    simp only [Option.mem_def, reduceCtorEq, false_or, List.length_map] at hi
    apply decide_eq_true
    show i.line ≤ j.line + (Text.lines (a ++ "\n\n".toList)).length
    omega
  -- lines that are counted further on stand in the same order
  have hm : (lint b).map (Issue.lower (Text.lines (a ++ "\n\n".toList)).length) =
      ((Lint.issuesFrom 1 none ((Text.lines b).map Text.trimEnd)).map
        (Issue.lower (Text.lines (a ++ "\n\n".toList)).length)).mergeSort le := by
    apply List.map_mergeSort
    intro i _ j _
    simp [le, Issue.lower]
  rw [hm, lint, Lint.issuesFrom_append_gap h]
  exact mergeSort_append trans total hle

/-- Where a chapter leaves no block open, two line feeds part it from any text after it: the nodes
and the page are those of the first and then those of the second, and so are the warnings, those of
the second with the number of lines before it added. -/
theorem parse_lint_append {table : SpeakerTable} {a : Text}
    (h : (((Text.lines a).map Text.trimEnd).foldl (Reader.feed table) {}).block = none) (b : Text) :
    let gap := "\n\n".toList
    parse table (a ++ gap ++ b) = parse table a ++ parse table b ∧
    Page.render (parse table (a ++ gap ++ b)) =
      Page.render (parse table a) ++ Page.render (parse table b) ∧
    lint (a ++ gap ++ b) =
      lint a ++ (lint b).map fun i => ⟨i.line + (Text.lines (a ++ gap)).length, i.kind⟩ := by
  intro gap
  have hp : parse table (a ++ gap ++ b) = parse table a ++ parse table b := parse_append_gap h b
  refine ⟨hp, ?_, lint_append_gap h b⟩
  rw [hp, Page.render_append]

/-- A chapter whose block is closed and whose last paragraph ends in a carriage return, before one
whose block is cut off. -/
theorem parse_lint_append_after_block :
    let a := "0600.0Void>>up\n[INSERTION_END]\nrain [[FOO::x]]\r".toList
    let b := "sun\n0600.1Void>>cut".toList
    (((Text.lines a).map Text.trimEnd).foldl (Reader.feed ⟨[]⟩) {}).block = none ∧
    parse ⟨[]⟩ (a ++ "\n\n".toList ++ b) =
      [.intercept ["0600.0Void>>up".toList, "[INSERTION_END]".toList],
        .narration "rain [[FOO::x]]".toList, .narration "sun".toList,
        .intercept ["0600.1Void>>cut".toList]] ∧
    lint (a ++ "\n\n".toList ++ b) =
      [⟨3, .unknownTag "FOO".toList⟩, ⟨6, .unterminatedIntercept⟩] := by
  intro a b
  have h : (((Text.lines a).map Text.trimEnd).foldl (Reader.feed ⟨[]⟩) {}).block = none := by
    decide +kernel
  obtain ⟨hp, -, hl⟩ := parse_lint_append h b
  exact ⟨h, hp.trans (by decide +kernel), hl.trans (by decide +kernel)⟩

end SerialNovel
