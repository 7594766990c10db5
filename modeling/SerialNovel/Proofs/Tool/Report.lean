import SerialNovel.Proofs.Tool.Tree
import SerialNovel.Tool.Linter
import Mathlib.Algebra.GroupWithZero.Nat
import Mathlib.Tactic.ByContra

namespace SerialNovel.Linter

open SerialNovel.Tree (Distinct Holds Listed Relisted Shows filesBelow pathTo)

/-- The files that can be read, by their paths and texts. -/
def readable (files : List Tree.Found) : List (Text × Text) :=
  files.filterMap fun f =>
    match f.contents with
    | .ok text => some (f.path, text)
    | .error _ => none

/-- The files that cannot be read, by their paths and the reasons. -/
def unreadable (files : List Tree.Found) : List (Text × DiskFault) :=
  files.filterMap fun f =>
    match f.contents with
    | .ok _ => none
    | .error fault => some (f.path, fault)

/-- The last name has the extension `txt`. -/
def NamesChapter (names : List Text) : Prop :=
  ∃ parents stem, stem ≠ [] ∧ names = parents ++ [stem ++ ".txt".toList]

variable {t u : Tree} {path : Text} {f g : Tree.Found}

theorem isChapterName_iff {name : Text} :
    isChapterName name ↔ ∃ stem, stem ≠ [] ∧ name = stem ++ ".txt".toList := by
  unfold isChapterName
  cases h : Text.before? ".txt".toList name with
  | some stem =>
    have hs := Text.before?_eq_some.1 h
    simp [hs]
  | none =>
    simp only [Bool.false_eq_true, false_iff]
    rintro ⟨stem, -, hs⟩
    rw [Text.before?_eq_some.2 hs] at h
    cases h

theorem any_isChapterName_iff {names : List Text} :
    names.getLast?.any isChapterName ↔ NamesChapter names := by
  rw [Option.any_eq_true]
  constructor
  · rintro ⟨name, hn, hc⟩
    obtain ⟨parents, hp⟩ := List.getLast?_eq_some_iff.1 hn
    obtain ⟨stem, hs, rfl⟩ := isChapterName_iff.1 hc
    exact ⟨parents, stem, hs, hp⟩
  · rintro ⟨parents, stem, hs, hp⟩
    exact ⟨stem ++ ".txt".toList, List.getLast?_eq_some_iff.2 ⟨parents, hp⟩,
      isChapterName_iff.2 ⟨stem, hs, rfl⟩⟩

theorem mem_chapters : f ∈ chapters path t ↔
    (Shows t f.names f.contents ∧ f.path = pathTo path f.names) ∧ NamesChapter f.names := by
  rw [chapters, List.mem_mergeSort, List.mem_filter, Tree.mem_filesBelow, any_isChapterName_iff]

theorem perm_chapters (path : Text) (t : Tree) : (chapters path t).Perm
    ((filesBelow [] path t).filter fun f => f.names.getLast?.any isChapterName) :=
  List.mergeSort_perm _ _

theorem chapters_sorted (path : Text) (t : Tree) :
    (chapters path t).Pairwise fun f g => ¬ g.names < f.names := by
  have hs : (chapters path t).Pairwise fun f g => decide (¬ g.names < f.names) := by
    apply List.pairwise_mergeSort
    · intro a b c hab hbc
      simp only [decide_eq_true_iff] at hab hbc ⊢
      exact List.le_trans hab hbc
    · intro a b
      rw [Bool.or_eq_true, decide_eq_true_iff, decide_eq_true_iff]
      exact List.le_total a.names b.names
  exact hs.imp of_decide_eq_true

theorem eq_of_names_eq (h : Distinct t) (hf : f ∈ chapters path t) (hg : g ∈ chapters path t)
    (he : f.names = g.names) : f = g :=
  h.found_eq (List.mem_of_mem_filter ((perm_chapters path t).mem_iff.1 hf))
    (List.mem_of_mem_filter ((perm_chapters path t).mem_iff.1 hg)) he

theorem chapters_ascending (h : Distinct t) (path : Text) :
    (chapters path t).Pairwise fun f g => f.names < g.names := by
  have hnodup : (chapters path t).Nodup :=
    (perm_chapters path t).nodup_iff.2 ((h.nodup_filesBelow [] path).filter _)
  refine ((chapters_sorted path t).and hnodup).imp_of_mem fun {f g} hf hg hfg => ?_
  by_contra hlt
  exact hfg.2 (eq_of_names_eq h hf hg (List.le_antisymm hfg.1 hlt))

theorem chapters_relisted (h : Distinct t) (hr : Relisted t u) (path : Text) :
    chapters path t = chapters path u := by
  have hp : (chapters path t).Perm (chapters path u) :=
    (perm_chapters path t).trans
      (((hr.perm_filesBelow [] path).filter _).trans (perm_chapters path u).symm)
  refine List.Perm.eq_of_pairwise (fun f g hf hg hfg hgf => ?_) (chapters_sorted path t)
    (chapters_sorted path u) hp
  exact eq_of_names_eq h hf (hp.mem_iff.2 hg) (List.le_antisymm hfg hgf)

theorem issueLines_eq (path : Text) (issues : List Issue) :
    issueLines path issues =
      if issues.isEmpty then "  OK: ".toList ++ path ++ "\n".toList
      else "  ".toList ++ path ++ ":\n".toList ++
        issues.flatMap fun i => "    WARNING: ".toList ++ i.message ++ "\n".toList := by
  cases issues <;> simp [issueLines, Text.line]

theorem summary_eq (files warnings failures : Nat) :
    summary files warnings failures =
      "\nSummary: ".toList ++ Nat.toDigits 10 files ++ " files, ".toList ++
        Nat.toDigits 10 warnings ++ " warnings, ".toList ++ Nat.toDigits 10 failures ++
        " unreadable\n".toList := by
  simp [summary, Text.line, Text.ofNat]

/-- Each file adds its own lines and counts to the report. -/
theorem foldl_add (r : Report) (files : List Tree.Found) :
    files.foldl Report.add r =
      { out := r.out ++ (readable files).flatMap fun p => issueLines p.1 (lint p.2)
        err := r.err ++ (unreadable files).flatMap fun p =>
          "ERROR reading ".toList ++ p.1 ++ ": ".toList ++ p.2.message ++ "\n".toList
        warnings := r.warnings + ((readable files).map fun p => (lint p.2).length).sum
        unreadable := r.unreadable + (unreadable files).length } := by
  induction files generalizing r with
  | nil => simp [readable, unreadable]
  | cons f files ih =>
    rw [List.foldl_cons, ih]
    cases hc : f.contents with
    | error fault =>
      have hr : readable (f :: files) = readable files := by simp [readable, hc]
      have hu : unreadable (f :: files) = (f.path, fault) :: unreadable files := by
        simp [unreadable, hc]
      simp only [Report.add, Text.line, hc, hr, hu, List.flatMap_cons, List.length_cons,
        List.append_assoc, Nat.add_assoc, Nat.add_comm 1]
      rfl
    | ok text =>
      have hr : readable (f :: files) = (f.path, text) :: readable files := by simp [readable, hc]
      have hu : unreadable (f :: files) = unreadable files := by simp [unreadable, hc]
      simp only [Report.add, hc, hr, hu, List.flatMap_cons, List.map_cons, List.sum_cons,
        List.append_assoc, Nat.add_assoc]

/-- On a directory the linter handles each file with the extension `txt` that the listings show
below it, and so each there is if they hide nothing. It does so once, in ascending order of the
paths. It prints the warnings of those that can be read and, for each of the others, an error with
its reason, then how many files, warnings and failures there were. It fails if a file cannot be read
or if warnings are denied and there is one. In whatever order the directories list their entries,
the outcome is the same. -/
theorem run_directory (places : Places) (path : Text) (options : List Text)
    {entries hidden : List (Text × Tree)} (hp : places path = .ok (.dir entries hidden))
    (hd : Distinct (.dir entries hidden)) :
    (path ≠ "--help".toList ∧ path ≠ "-h".toList → ∃ files : List Tree.Found,
      (files.Pairwise fun f g => f.names < g.names) ∧
      (∀ f, f ∈ files ↔
        (Shows (.dir entries hidden) f.names f.contents ∧ f.path = pathTo path f.names) ∧
          NamesChapter f.names) ∧
      (Listed (.dir entries hidden) → ∀ f, f ∈ files ↔
        (Holds (.dir entries hidden) f.names f.contents ∧ f.path = pathTo path f.names) ∧
          NamesChapter f.names) ∧
      let warnings := ((readable files).map fun p => (lint p.2).length).sum
      let failures := (unreadable files).length
      let deny := "--deny-warnings".toList ∈ options
      run places (path :: options) =
        { status := if 0 < failures ∨ deny ∧ 0 < warnings then 1 else 0
          out := ((readable files).flatMap fun p =>
              if (lint p.2).isEmpty then "  OK: ".toList ++ p.1 ++ "\n".toList
              else "  ".toList ++ p.1 ++ ":\n".toList ++
                (lint p.2).flatMap fun i => "    WARNING: ".toList ++ i.message ++ "\n".toList) ++
            ("\nSummary: ".toList ++ Nat.toDigits 10 files.length ++ " files, ".toList ++
              Nat.toDigits 10 warnings ++ " warnings, ".toList ++ Nat.toDigits 10 failures ++
              " unreadable\n".toList)
          err := (unreadable files).flatMap fun p =>
            "ERROR reading ".toList ++ p.1 ++ ": ".toList ++ p.2.message ++ "\n".toList }) ∧
    ∀ places' entries' hidden', places' path = .ok (.dir entries' hidden') →
      Relisted (.dir entries hidden) (.dir entries' hidden') →
        run places' (path :: options) = run places (path :: options) := by
  refine ⟨fun hh => ⟨chapters path (.dir entries hidden), chapters_ascending hd path,
    fun f => mem_chapters, fun hl f => ?_, ?_⟩, fun places' entries' hidden' hp' hr => ?_⟩
  · rw [mem_chapters, hl.shows_iff]
  · intro warnings failures deny
    have hn : ¬ (decide (path = "--help".toList) || decide (path = "-h".toList)) = true := by
      simpa only [Bool.or_eq_true, decide_eq_true_iff, not_or] using hh
    have hr := foldl_add {} (chapters path (.dir entries hidden))
    simp only [List.nil_append, Nat.zero_add, issueLines_eq] at hr
    rw [run, if_neg hn, hp]
    dsimp only
    rw [reportOn, hr]
    simp only [summary_eq, Bool.or_eq_true, Bool.and_eq_true, decide_eq_true_iff,
      List.contains_iff_mem, warnings, failures, deny]
  · rw [run, run, hp, hp']
    dsimp only
    rw [chapters_relisted hd hr path]

/-- A directory below another one, both listed in two orders, beside one that cannot be listed. The
file that cannot be read makes the run fail, and the one that is no chapter does not count. -/
theorem run_directory_in_two_orders :
    let jump := ("b.txt".toList, Tree.file (.ok "[[JUMP::x]]".toList))
    let good := ("y.txt".toList, Tree.file (.ok "Hi.".toList))
    let denied := DiskFault.other "Permission denied (os error 13)".toList
    let bad := ("z.txt".toList, Tree.file (.error denied))
    let other := ("z.md".toList, Tree.file (.error .notUtf8))
    let shut := ("s".toList, Tree.dir [] [good])
    let entries := [jump, ("a".toList, .dir [bad, other, good] []), shut]
    let entries' := [("a".toList, .dir [good, bad, other] []), jump, shut]
    Distinct (.dir entries []) ∧ Relisted (.dir entries []) (.dir entries' []) ∧
      run (fun _ => .ok (.dir entries' [])) ["d".toList] =
        run (fun _ => .ok (.dir entries [])) ["d".toList] ∧
      (run (fun _ => .ok (.dir entries [])) ["d".toList]).status = 1 := by
  intro jump good denied bad other shut entries entries'
  have hin : Distinct (.dir [bad, other, good] []) := by
    refine .dir (by decide) ?_
    simp only [List.append_nil, List.mem_cons, List.not_mem_nil, or_false, forall_eq_or_imp,
      forall_eq]
    exact ⟨.file _, .file _, .file _⟩
  have hshut : Distinct (.dir [] [good]) := by
    refine .dir (by decide) ?_
    simp only [List.nil_append, List.mem_singleton, forall_eq]
    exact .file _
  have hd : Distinct (.dir entries []) := by
    refine .dir (by decide) ?_
    simp only [entries, List.append_nil, List.mem_cons, List.not_mem_nil, or_false,
      forall_eq_or_imp, forall_eq]
    exact ⟨.file _, hin, hshut⟩
  have hperm : List.Perm [bad, other, good] [good, bad, other] :=
    (List.perm_append_comm : ([bad, other] ++ [good]).Perm _)
  have hr : Relisted (.dir entries []) (.dir entries' []) :=
    (Relisted.entry [jump] [shut] [] "a".toList (.order [] hperm)).trans (.order [] (.swap _ _ _))
  obtain ⟨hreport, hsame⟩ := run_directory (fun _ => .ok (.dir entries [])) "d".toList [] rfl hd
  refine ⟨hd, hr, hsame _ entries' [] rfl hr, ?_⟩
  obtain ⟨files, -, hm, -, he⟩ := hreport (by decide)
  have hz : Shows (.dir entries []) ["a".toList, "z.txt".toList] (.error denied) :=
    .entry (List.mem_cons_of_mem _ List.mem_cons_self) (.entry List.mem_cons_self (.file _))
  have hf : ⟨["a".toList, "z.txt".toList], "d/a/z.txt".toList, .error denied⟩ ∈ files :=
    (hm _).2 ⟨⟨hz, by decide⟩, ["a".toList], "z".toList, by decide, rfl⟩
  have hu : ("d/a/z.txt".toList, denied) ∈ unreadable files :=
    List.mem_filterMap.2 ⟨_, hf, rfl⟩
  exact (congrArg Outcome.status he).trans (if_pos (.inl (List.length_pos_of_mem hu)))

end SerialNovel.Linter
