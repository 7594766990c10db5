import SerialNovel.Proofs.Script.Directives
import SerialNovel.Proofs.Text.Lines

namespace SerialNovel

open Directive

def Text.copies (mark : Text) : Nat → Text
  | 0 => []
  | n + 1 => mark ++ copies mark n

namespace Text

variable {mark : Text}

theorem copies_succ (mark : Text) (n : Nat) : copies mark (n + 1) = copies mark n ++ mark := by
  induction n with
  | zero => simp [copies]
  | succ n ih =>
    calc copies mark (n + 2)
        = mark ++ copies mark (n + 1) := rfl
      _ = mark ++ (copies mark n ++ mark) := by rw [ih]
      _ = copies mark (n + 1) ++ mark := (List.append_assoc _ _ _).symm

theorem reverse_copies (mark : Text) (n : Nat) :
    (copies mark n).reverse = copies mark.reverse n := by
  induction n with
  | zero => rfl
  | succ n ih => rw [copies, List.reverse_append, ih, copies_succ]

theorem le_length_copies (hm : mark ≠ []) (n : Nat) : n ≤ (copies mark n).length := by
  induction n with
  | zero => exact Nat.zero_le _
  | succ n ih =>
    have := List.length_pos_iff.2 hm
    rw [copies, List.length_append]
    omega

theorem mem_of_mem_copies {n : Nat} {c : Char} (h : c ∈ copies mark n) : c ∈ mark := by
  induction n with
  | zero => simp [copies] at h
  | succ n ih => exact (List.mem_append.1 h).elim id ih

theorem exists_copies_append (hm : mark ≠ []) (t : Text) :
    ∃ n rest, t = copies mark n ++ rest ∧ ¬ mark <+: rest := by
  induction hl : t.length using Nat.strongRecOn generalizing t with
  | ind l ih =>
    by_cases h : mark <+: t
    · obtain ⟨u, rfl⟩ := h
      have := List.length_pos_iff.2 hm
      have hlt : u.length < l := by
        rw [← hl, List.length_append]
        omega
      obtain ⟨n, rest, hu, hr⟩ := ih u.length hlt u rfl
      exact ⟨n + 1, rest, by rw [hu, copies, List.append_assoc], hr⟩
    · exact ⟨0, t, rfl, h⟩

theorem exists_append_copies (hm : mark ≠ []) (t : Text) :
    ∃ rest n, t = rest ++ copies mark n ∧ ¬ mark <:+ rest := by
  obtain ⟨n, rest, ht, hr⟩ := exists_copies_append (by simpa using hm : mark.reverse ≠ []) t.reverse
  refine ⟨rest.reverse, n, ?_, fun hs => hr ?_⟩
  · rw [← List.reverse_reverse t, ht, List.reverse_append, reverse_copies, List.reverse_reverse]
  · have hp := List.reverse_prefix.2 hs
    rwa [List.reverse_reverse] at hp

end Text

namespace Lint

variable {mark rest : Text}

theorem dropCopies_copies {k n : Nat} (hr : ¬ mark <+: rest) (hk : k ≤ n) :
    dropCopies mark n (Text.copies mark k ++ rest) = rest := by
  induction n generalizing k with
  | zero =>
    obtain rfl := Nat.le_zero.1 hk
    rfl
  | succ n ih =>
    cases k with
    | zero =>
      have hn : Text.after? mark rest = none :=
        Option.not_isSome_iff_eq_none.1 (mt Text.startsWith_iff.1 hr)
      rw [Text.copies, List.nil_append, dropCopies, hn]
    | succ k =>
      have hs : Text.after? mark (Text.copies mark (k + 1) ++ rest) =
          some (Text.copies mark k ++ rest) :=
        Text.after?_eq_some.2 (by rw [Text.copies, List.append_assoc])
      rw [dropCopies, hs]
      exact ih (Nat.le_of_succ_le_succ hk)

theorem dropEndCopies_copies (hm : mark ≠ []) (k : Nat) (hr : ¬ mark <:+ rest) :
    dropEndCopies mark (rest ++ Text.copies mark k) = rest := by
  have hk : k ≤ (rest ++ Text.copies mark k).length := by
    have := Text.le_length_copies hm k
    rw [List.length_append]
    omega
  have hr' : ¬ mark.reverse <+: rest.reverse := mt List.reverse_prefix.1 hr
  rw [dropEndCopies, List.reverse_append, Text.reverse_copies, dropCopies_copies hr' hk,
    List.reverse_reverse]

end Lint

/-- The second segment of a text, if it has one. -/
def second? (t : Text) : Option Text := (Text.cut? separator t).map fun p => segment p.2

/-- A second segment that is missing or white space. -/
def Unlabelled (t : Text) : Prop := ∀ label ∈ second? t, ∀ c ∈ label, Text.isBlank c

/-- What is left of a text without the copies of the marks at its ends. -/
structure Bare (t : Text) : Prop where
  start : ¬ jumpOpening <+: t
  stop : ¬ closing <:+ t

section

variable {t core : Text} {m k : Nat}

theorem ofJumpBody_eq (body : Text) :
    ∃ target, ofJumpBody body = .jump target ((second? body).getD target) := by
  cases h : Text.cut? separator body with
  | none => exact ⟨body, by rw [ofJumpBody, second?, h]; rfl⟩
  | some p => exact ⟨p.1, by rw [ofJumpBody_of_cut? h, second?, h]; rfl⟩

theorem second?_of_not_isInfix (h : ¬ separator <:+: t) : second? t = none := by
  rw [second?, Text.cut?_eq_none.2 h]
  rfl

theorem second?_append {a : Text} (ha : Text.Reaches separator a) (b : Text) :
    second? (a ++ (separator ++ b)) = some (segment b) := by
  rw [second?, (Text.cut?_eq_some (by decide)).2 ⟨rfl, ha⟩]
  rfl

theorem segment_of_not_isInfix (h : ¬ separator <:+: t) : segment t = t := by
  rw [segment, Text.cut?_eq_none.2 h]

theorem segment_append {a : Text} (ha : Text.Reaches separator a) (b : Text) :
    segment (a ++ (separator ++ b)) = a := by
  rw [segment, (Text.cut?_eq_some (by decide)).2 ⟨rfl, ha⟩]

theorem exists_of_isInfix (h : separator <:+: t) :
    ∃ a b, t = a ++ (separator ++ b) ∧ Text.Reaches separator a := by
  obtain ⟨⟨a, b⟩, hp⟩ := Option.isSome_iff_exists.1 (Text.contains_iff.2 h)
  exact ⟨a, b, (Text.cut?_eq_some (by decide)).1 hp⟩

theorem separator_isInfix_copies : separator <:+: t ++ Text.copies closing k ↔ separator <:+: t := by
  constructor
  · intro h
    have hc : ':' ∉ (Text.copies closing k).reverse := fun hm =>
      absurd (Text.mem_of_mem_copies (List.mem_reverse.1 hm)) (by decide)
    have hr : separator <:+: (Text.copies closing k).reverse ++ t.reverse := by
      rwa [← List.reverse_append, ← List.reverse_infix, List.reverse_reverse]
    exact List.reverse_infix.1 (Text.infix_of_notMem hc hr)
  · exact fun h => h.trans (List.prefix_append t _).isInfix

theorem blank_append_copies : (∀ c ∈ t ++ Text.copies closing k, Text.isBlank c) ↔
    (∀ c ∈ t, Text.isBlank c) ∧ k = 0 := by
  rw [List.forall_mem_append, and_congr_right_iff]
  intro _
  constructor
  · intro h
    cases k with
    | zero => rfl
    | succ k => exact absurd (h ']' (by simp [Text.copies, closing])) (by decide)
  · rintro rfl
    simp [Text.copies]

theorem blank_segment_copies :
    (∀ c ∈ segment (core ++ Text.copies closing k), Text.isBlank c) ↔
      (∀ c ∈ segment core, Text.isBlank c) ∧ (k = 0 ∨ separator <:+: core) := by
  by_cases h : separator <:+: core
  · obtain ⟨a, b, rfl, ha⟩ := exists_of_isInfix h
    rw [List.append_assoc, List.append_assoc, segment_append ha, segment_append ha]
    simp [h]
  · rw [segment_of_not_isInfix h, segment_of_not_isInfix (mt separator_isInfix_copies.1 h),
      blank_append_copies]
    simp [h]

theorem unlabelled_append_copies : Unlabelled (core ++ Text.copies closing k) ↔
    Unlabelled core ∧ (k = 0 ∨ SeparatedTwice core ∨ ¬ separator <:+: core) := by
  by_cases h : separator <:+: core
  · obtain ⟨a, b, rfl, ha⟩ := exists_of_isInfix h
    simp only [Unlabelled, List.append_assoc, second?_append ha, Option.mem_some_iff,
      forall_eq', blank_segment_copies, separatedTwice_append ha]
    simp [h]
  · have hk := second?_of_not_isInfix (mt (separator_isInfix_copies (k := k)).1 h)
    simp [Unlabelled, hk, second?_of_not_isInfix h, h]

theorem reaches_jump : Text.Reaches separator "[[JUMP".toList := by
  unfold Text.Reaches
  decide

theorem unlabelled_opening_append :
    Unlabelled (jumpOpening ++ t) ↔ ∀ c ∈ segment t, Text.isBlank c := by
  have hs : second? (jumpOpening ++ t) = some (segment t) :=
    second?_append reaches_jump t
  simp [Unlabelled, hs]

theorem not_unlabelled_opening_opening : ¬ Unlabelled (jumpOpening ++ (jumpOpening ++ t)) := by
  rw [unlabelled_opening_append]
  have hs : segment (jumpOpening ++ t) = "[[JUMP".toList :=
    segment_append reaches_jump t
  intro h
  exact absurd (h '[' (by simp [hs])) (by decide)

/-- Of a body with copies of the marks at its ends, the second segment is blank in one of two ways. -/
theorem unlabelled_copies_iff :
    Unlabelled (Text.copies jumpOpening m ++ (core ++ Text.copies closing k)) ↔
      m = 0 ∧ Unlabelled core ∧ (k = 0 ∨ SeparatedTwice core ∨ ¬ separator <:+: core) ∨
      m = 1 ∧ (∀ c ∈ segment core, Text.isBlank c) ∧ (k = 0 ∨ separator <:+: core) := by
  match m with
  | 0 => simp [Text.copies, unlabelled_append_copies]
  | 1 => simp [Text.copies, unlabelled_opening_append, blank_segment_copies]
  | m + 2 =>
    rw [Text.copies, Text.copies, List.append_assoc, List.append_assoc]
    simp [not_unlabelled_opening_opening]

theorem exists_bare (body : Text) : ∃ m core k,
    body = Text.copies jumpOpening m ++ (core ++ Text.copies closing k) ∧ Bare core := by
  obtain ⟨m, rest, rfl, hr⟩ := Text.exists_copies_append (by decide : jumpOpening ≠ []) body
  obtain ⟨core, k, rfl, hc⟩ := Text.exists_append_copies (by decide : closing ≠ []) rest
  exact ⟨m, core, k, rfl, fun h => hr (h.trans (List.prefix_append core _)), hc⟩

theorem Bare.not_isPrefix (h : Bare core) (k : Nat) :
    ¬ jumpOpening <+: core ++ Text.copies closing k := by
  rintro ⟨rest, hr⟩
  rcases List.append_eq_append_iff.1 hr with ⟨a, hc, -⟩ | ⟨a, ha, hk⟩
  · exact h.start ⟨a, hc.symm⟩
  · cases a with
    | nil => exact h.start ⟨[], by rw [List.append_nil, ha, List.append_nil]⟩
    | cons c a =>
      have hx : c ∈ closing := Text.mem_of_mem_copies (n := k) (by rw [hk]; simp)
      have hy : c ∈ jumpOpening := by rw [ha]; simp
      have hd : jumpOpening.all fun c => closing.all (c != ·) := by decide
      simpa using List.all_eq_true.1 (List.all_eq_true.1 hd c hy) c hx

namespace Lint

theorem hasJumpLabel_eq_false_iff (h : Bare core) :
    hasJumpLabel (Text.copies jumpOpening m ++ (core ++ Text.copies closing k)) = false ↔
      Unlabelled core := by
  have hm : m ≤ (Text.copies jumpOpening m ++ (core ++ Text.copies closing k)).length := by
    have := Text.le_length_copies (by decide : jumpOpening ≠ []) m
    rw [List.length_append]
    omega
  unfold hasJumpLabel
  dsimp only
  rw [dropCopies_copies (h.not_isPrefix k) hm, dropEndCopies_copies (by decide) k h.stop]
  unfold Unlabelled second?
  cases Text.cut? separator core with
  | none => simp
  | some p =>
    simp only [Option.map_some, Option.mem_some_iff, forall_eq', Bool.not_eq_eq_eq_not,
      Bool.not_false, List.isEmpty_iff, ← Text.trim_eq_nil_iff]
    unfold segment
    cases Text.cut? separator p.2 with
    | none => exact Iff.rfl
    | some q => exact Iff.rfl

end Lint

end

theorem LineClass.of_trimEnd (inBlock : Bool) (t : Text) :
    of inBlock (Text.trimEnd t) = of inBlock t := by
  rw [of, Text.trim_trimEnd, of]

theorem Lint.mem_lint_line {line : Text} (hn : '\n' ∉ line) (hne : line ≠ []) {kind : IssueKind}
    (hk : kind ≠ .unterminatedIntercept) :
    ⟨1, kind⟩ ∈ lint line ↔ kind ∈ lineIssues (LineClass.of false line) (Text.trimEnd line) := by
  have hl : Text.lines line = [line] := by
    have hl : Text.lines (line ++ []) = [line] :=
      Text.lines_append_of_notMem hn (.inr ⟨rfl, hne⟩)
    rwa [List.append_nil] at hl
  have hc : Line.ofChapter line = [⟨Text.trimEnd line, LineClass.of false line⟩] := by
    simp only [Line.ofChapter, hl, List.map_cons, List.map_nil, Line.classify,
      LineClass.of_trimEnd]
  rw [mem_lint hk, hc]
  simp

theorem exists_of_eq_jump {line target label : Text}
    (h : LineClass.of false line = .directive (.jump target label)) :
    ∃ body, Text.trim line = jumpOpening ++ (body ++ closing) ∧
      ofJumpBody body = .jump target label := by
  have hd := LineClass.ofLine?_of_eq_directive h
  rcases exists_of_ofLine? hd with he | ⟨body, he⟩ | ⟨body, he⟩
  · rw [he] at hd
    cases hd
  · rw [he, ofLine?_jump] at hd
    exact ⟨body, he, Option.some.inj hd⟩
  · rw [he, ofLine?_image] at hd
    unfold ofImageBody at hd
    split at hd <;> cases hd

/-- A line that is a jump is reported for its label just if the second segment is missing or white
space once all copies of the marks at the ends of the line are off. The label that is read is the
second segment once one of each is off, so the two agree on a body with no copies left. On the others
the label that is read is missing or white space in two cases, told by what is left without copies. -/
theorem jump_label_warning {line target label : Text} (hn : '\n' ∉ line)
    (h : LineClass.of false line = .directive (.jump target label)) :
    let reported := (⟨1, .jumpWithoutLabel⟩ : Issue) ∈ lint line
    ∃ body m core k, Text.trim line = jumpOpening ++ (body ++ closing) ∧
      label = (second? body).getD target ∧
      (Bare body → (reported ↔ Unlabelled body)) ∧
      body = Text.copies jumpOpening m ++ (core ++ Text.copies closing k) ∧ Bare core ∧
      (reported ↔ Unlabelled core) ∧
      (Unlabelled body ↔
        m = 0 ∧ Unlabelled core ∧ (k = 0 ∨ SeparatedTwice core ∨ ¬ separator <:+: core) ∨
        m = 1 ∧ (∀ c ∈ segment core, Text.isBlank c) ∧ (k = 0 ∨ separator <:+: core)) := by
  intro reported
  obtain ⟨body, hb, hj⟩ := exists_of_eq_jump h
  obtain ⟨m, core, k, hcopies, hcore⟩ := exists_bare body
  have hne : line ≠ [] := by
    rintro rfl
    cases h
  have hreported : reported ↔ Lint.hasJumpLabel (Text.trim line) = false := by
    simp only [reported]
    rw [Lint.mem_lint_line hn hne (by simp), h, Lint.lineIssues, Text.trim_trimEnd]
    cases Lint.hasJumpLabel (Text.trim line) <;> simp
  have hline : Text.trim line =
      Text.copies jumpOpening (m + 1) ++ (core ++ Text.copies closing (k + 1)) := by
    rw [hb, hcopies, Text.copies_succ closing]
    simp only [Text.copies, List.append_assoc]
  refine ⟨body, m, core, k, hb, ?_, fun hbare => ?_, hcopies, hcore, ?_, ?_⟩
  · obtain ⟨t, ht⟩ := ofJumpBody_eq body
    obtain ⟨rfl, rfl⟩ := Directive.jump.inj (hj.symm.trans ht)
    rfl
  · have hone : Text.trim line = Text.copies jumpOpening 1 ++ (body ++ Text.copies closing 1) := by
      simpa [Text.copies] using hb
    rw [hreported, hone, Lint.hasJumpLabel_eq_false_iff hbare]
  · rw [hreported, hline, Lint.hasJumpLabel_eq_false_iff hcore]
  · rw [hcopies, unlabelled_copies_iff]

/-- A label of white space between other segments, with a closing mark inside the first. -/
theorem jump_label_warning_of_blank :
    let line := " [[JUMP::A]]::　 ::B]]".toList
    '\n' ∉ line ∧ LineClass.of false line = .directive (.jump "A]]".toList "　 ".toList) ∧
      ⟨1, .jumpWithoutLabel⟩ ∈ lint line := by
  intro line
  have hn : '\n' ∉ line := by decide
  have hc : LineClass.of false line = .directive (.jump "A]]".toList "　 ".toList) := by
    decide +kernel
  refine ⟨hn, hc, ?_⟩
  obtain ⟨body, m, core, k, hb, -, hbare, -⟩ := jump_label_warning hn hc
  have ht : Text.trim line = jumpOpening ++ ("A]]::　 ::B".toList ++ closing) := by decide +kernel
  obtain rfl : "A]]::　 ::B".toList = body :=
    List.append_cancel_right (List.append_cancel_left (ht.symm.trans hb))
  refine (hbare ⟨by decide, by decide⟩).2 ?_
  have hs : second? "A]]::　 ::B".toList = some "　 ".toList := by decide
  have hblank : "　 ".toList.all Text.isBlank := by decide
  intro label hl
  obtain rfl : "　 ".toList = label := Option.some.inj (hs.symm.trans hl)
  exact List.all_eq_true.1 hblank

/-- The linter takes a second opening mark off, and with it the segment before the label. -/
theorem warning_of_labelled_jump :
    let body := "[[JUMP::Go".toList
    let line := jumpOpening ++ (body ++ closing)
    '\n' ∉ line ∧ LineClass.of false line = .directive (.jump "[[JUMP".toList "Go".toList) ∧
      ¬ (⟨1, .jumpWithoutLabel⟩ ∈ lint line ↔ Unlabelled body) := by
  intro body line
  have hc : LineClass.of false line = .directive (.jump "[[JUMP".toList "Go".toList) := by
    decide +kernel
  have hl : Lint.hasJumpLabel (Text.trim (Text.trimEnd line)) = false := by decide +kernel
  have hn : '\n' ∉ line := by decide
  have hr : ⟨1, .jumpWithoutLabel⟩ ∈ lint line := by
    rw [Lint.mem_lint_line hn (by decide) (by simp), hc, Lint.lineIssues, hl]
    simp
  refine ⟨hn, hc, fun h => ?_⟩
  have hs : second? body = some "Go".toList := by decide
  exact absurd (h.1 hr "Go".toList hs 'G' (by decide)) (by decide)

end SerialNovel
