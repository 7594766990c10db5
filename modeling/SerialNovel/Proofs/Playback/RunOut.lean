import SerialNovel.Proofs.Playback.Reading
import SerialNovel.Proofs.Playback.Timers

namespace SerialNovel.Playback

def share (n : Node) : Nat := n.displayText.length + 1

def shares : List Node → Nat
  | [] => 0
  | n :: ns => share n + shares ns

/-- How many timers a stage can still fire. -/
def left (s : Playback) : Nat :=
  shares s.upcoming +
    match s.phase with
    | .revealing => s.displayLen - s.revealed + 1
    | .waiting => 1
    | .ended => 0

def firedBy (s : Playback) : Op → Nat
  | .advance => 0
  | .advanceAt now => (s.tick now.toNat).2
  | .toggleAuto => 0
  | .toggleAutoAt now => (s.tick now.toNat).2
  | .tick now => (s.tick now.toNat).2
  | .cancelTimers => 0

def firedIn (s : Playback) : List Op → Nat
  | [] => 0
  | op :: ops => s.firedBy op + (s.apply op).firedIn ops

/-- So many timers fire one after another in a tick to `now`. -/
inductive FiresIn (now : Nat) : Nat → Playback → Playback → Prop
  | none (s : Playback) : FiresIn now 0 s s
  | fire {n : Nat} {s s₁ s' : Playback} :
      s.fire? now = some s₁ → FiresIn now n s₁ s' → FiresIn now (n + 1) s s'

/-- The rounds of a host that ticks to each next deadline until no timer is left, where each round
fires a timer, and the timers of all rounds. -/
inductive RunsOut : Playback → Nat → Nat → Playback → Prop
  | idle {s : Playback} : s.nextDeadline = none → RunsOut s 0 0 s
  | round {s s' : Playback} {d rounds fired : Nat} :
      s.nextDeadline = some d → 0 < (s.tick d).2 → RunsOut (s.tick d).1 rounds fired s' →
      RunsOut s (rounds + 1) ((s.tick d).2 + fired) s'

/-- A stage that shows one of its nodes and has the timers that fit. -/
structure Sound (ns : List Node) (s : Playback) : Prop extends Staged ns s, Disciplined s

variable {ns : List Node} {s s' : Playback} {now n rounds fired : Nat}

theorem shares_drop {i : Nat} (h : i < ns.length) :
    shares (ns.drop i) = share (ns.getD i .placeholder) + shares (ns.drop (i + 1)) := by
  rw [drop_eq_cons h, shares]

@[simp] theorem left_armAuto (s : Playback) : s.armAuto.left = s.left := by
  unfold armAuto
  split <;> rfl

theorem left_finishReveal (s : Playback) : s.finishReveal.left = shares s.upcoming + 1 :=
  left_armAuto _

theorem left_enter_le (s : Playback) : s.enter.left ≤ shares s.upcoming + share s.current := by
  unfold enter
  dsimp only
  split
  · have := left_finishReveal { s.cancelTimers with
      display := s.current.displayText, displayLen := s.current.displayText.length, revealed := 0 }
    simp only [upcoming, cancelTimers] at this
    simp only [this, share, upcoming, cancelTimers]
    omega
  · exact Nat.le_refl _

theorem left_advance_lt (hp : s.phase = .waiting) : s.advance.left < s.left := by
  have hs : s.left = shares s.upcoming + 1 := by simp only [left, hp]
  rw [advance, hp]
  dsimp only
  split
  · rename_i hc
    have hn := shares_drop hc
    have he := left_enter_le { s.cancelTimers with
      backlog := s.backlog ++ [s.current], cursor := s.cursor + 1 }
    simp only [upcoming, current, cancelTimers] at he hn hs ⊢
    omega
  · rw [hs]
    exact Nat.lt_succ_self _

theorem left_advance_le (s : Playback) : s.advance.left ≤ s.left := by
  cases hp : s.phase with
  | revealing =>
    have hf := left_finishReveal s.cancelTimers
    simp only [advance, left, upcoming, cancelTimers, hp] at hf ⊢
    omega
  | waiting => exact Nat.le_of_lt (left_advance_lt hp)
  | ended => simp [advance, hp]

theorem left_toggleAuto_le (s : Playback) : s.toggleAuto.left ≤ s.left := by
  unfold toggleAuto
  split
  · exact Nat.le_refl _
  · split
    · exact Nat.le_refl _
    · dsimp only
      split
      · exact left_advance_le _
      · exact Nat.le_refl _

theorem left_typewriterStep_lt (hp : s.phase = .revealing) (hr : s.revealed < s.displayLen) :
    s.typewriterStep.left < s.left := by
  have hs : s.left = shares s.upcoming + (s.displayLen - s.revealed + 1) := by
    simp only [left, hp]
  rw [typewriterStep, if_pos hp, hs]
  dsimp only
  split
  · have hf := left_finishReveal { s with revealed := s.revealed + 1 }
    simp only [upcoming] at hf ⊢
    omega
  · simp only [left, armTick, upcoming, hp]
    omega

theorem kept_sound (ns : List Node) : Kept (Sound ns) where
  advance h := ⟨h.toStaged.advance, h.toDisciplined.advance⟩
  toggleAuto h := ⟨h.toStaged.toggleAuto, h.toDisciplined.toggleAuto⟩
  fire h hf := ⟨(kept_staged ns).fire h.toStaged hf, kept_disciplined.fire h.toDisciplined hf⟩
  moveClock h hn hf := ⟨h.toStaged.rearm _ _, h.toDisciplined.moveClock hn hf⟩

theorem Sound.cancelTimers (h : Sound ns s) : Sound ns s.cancelTimers :=
  ⟨h.toStaged.rearm _ s.now, h.toDisciplined.cancelTimers⟩

theorem sound_startAt (start : UInt64) (timing : Timing) (nodes : List Node) :
    Sound (script nodes) (startAt start.toNat timing nodes) :=
  ⟨staged_startAt start.toNat timing nodes, (driven_startAt start timing nodes).toDisciplined⟩

theorem Sound.left_lt_of_fire? (h : Sound ns s) (hf : s.fire? now = some s') : s'.left < s.left := by
  obtain ⟨task, q, hq, rfl⟩ := fire?_eq_some.1 hf
  have hfit := h.fits_of_popDue hq
  -- the timer fits the phase, so it shows a character that is left or leaves a node that is shown
  cases hp : task.payload with
  | typewriter =>
    rw [hp] at hfit
    exact left_typewriterStep_lt hfit (h.revealing hfit).2.2
  | autoAdvance =>
    rw [hp] at hfit
    exact left_advance_lt hfit.1

theorem FiresIn.left_le (hf : FiresIn now n s s') (h : Sound ns s) : n + s'.left ≤ s.left := by
  induction hf with
  | none => simp
  | fire hs _ ih =>
    have h1 := ih ((kept_sound ns).fire h hs)
    have h2 := h.left_lt_of_fire? hs
    omega

theorem firesIn_fireAll (now fired : Nat) (s : Playback) :
    ∃ n, FiresIn now n s (s.fireAll now fired).1 ∧ (s.fireAll now fired).2 = fired + n := by
  fun_induction fireAll now fired s with
  | case1 _ s _ => exact ⟨0, .none s, rfl⟩
  | case2 fired _ _ h ih =>
    obtain ⟨n, hn, he⟩ := ih
    exact ⟨n + 1, .fire h hn, by omega⟩

/-- A tick comes to an end: it fires its timers one after another until none is due. -/
theorem firesIn_tick (now : Nat) (s : Playback) : ∃ s', FiresIn now (s.tick now).2 s s' ∧
    s'.fire? now = none ∧ (s.tick now).1 = { s' with now := max s'.now now } := by
  obtain ⟨n, hn, he⟩ := firesIn_fireAll now 0 s
  rw [Nat.zero_add] at he
  refine ⟨_, ?_, (fires_fireAll now 0 s).2, rfl⟩
  exact he ▸ hn

theorem Sound.tick (h : Sound ns s) (hn : now ≤ clockLimit) : Sound ns (s.tick now).1 := by
  obtain ⟨hf, hx⟩ := fires_fireAll now 0 s
  exact (kept_sound ns).moveClock ((kept_sound ns).fires h hf) hn hx

theorem Sound.left_tick_le (h : Sound ns s) (now : Nat) :
    (s.tick now).2 + (s.tick now).1.left ≤ s.left := by
  obtain ⟨s', hf, -, he⟩ := firesIn_tick now s
  rw [he]
  exact hf.left_le h

theorem Sound.left_apply_le (h : Sound ns s) (op : Op) : s.firedBy op + (s.apply op).left ≤ s.left := by
  have tick (now : UInt64) := h.left_tick_le now.toNat
  cases op with
  | advance => exact Nat.le_trans (Nat.le_of_eq (Nat.zero_add _)) (left_advance_le s)
  | advanceAt now => exact Nat.le_trans (Nat.add_le_add_left (left_advance_le _) _) (tick now)
  | toggleAuto => exact Nat.le_trans (Nat.le_of_eq (Nat.zero_add _)) (left_toggleAuto_le s)
  | toggleAutoAt now => exact Nat.le_trans (Nat.add_le_add_left (left_toggleAuto_le _) _) (tick now)
  | tick now => exact tick now
  | cancelTimers => simp [firedBy, apply, Playback.cancelTimers, left, upcoming]

theorem Sound.run (h : Sound ns s) (ops : List Op) : Sound ns (s.run ops) :=
  (kept_sound ns).run (fun _ _ h => h.cancelTimers) h

theorem Sound.left_run_le (h : Sound ns s) (ops : List Op) :
    s.firedIn ops + (s.run ops).left ≤ s.left := by
  induction ops generalizing s with
  | nil => simp [firedIn, Playback.run]
  | cons op ops ih =>
    have h1 := h.left_apply_le op
    have h2 := ih (h.run [op])
    simp only [firedIn, Playback.run, List.foldl_cons, List.foldl_nil] at h2 ⊢
    omega

theorem left_startAt_le (start : Nat) (timing : Timing) (nodes : List Node) :
    (startAt start timing nodes).left ≤ shares (script nodes) := by
  have hs := shares_drop (length_script_pos nodes)
  rw [List.drop_zero] at hs
  refine Nat.le_trans (left_enter_le _) ?_
  rw [hs, Nat.add_comm]
  exact Nat.le_refl _

theorem pending_of_nextDeadline (h : s.nextDeadline = none) : s.pending = 0 := by
  simpa [nextDeadline, Queue.nextDeadline, List.min?_eq_none_iff, pending, Queue.size] using h

theorem exists_fire?_of_nextDeadline {d : Nat} (h : s.nextDeadline = some d) :
    ∃ s', s.fire? d = some s' := by
  have hs := Queue.popDue_nextDeadline_isSome h
  rw [← Option.isSome_iff_exists, fire?, Option.isSome_map]
  exact hs

theorem tick_pos_of_nextDeadline {d : Nat} (h : s.nextDeadline = some d) : 0 < (s.tick d).2 := by
  obtain ⟨s₁, hs⟩ := exists_fire?_of_nextDeadline h
  obtain ⟨s', hf, hn, -⟩ := firesIn_tick d s
  cases hk : (s.tick d).2 with
  | succ k => exact Nat.succ_pos k
  | zero =>
    rw [hk] at hf
    cases hf
    simp [hs] at hn

theorem exists_runsOut (s : Playback) :
    ∃ fired, RunsOut s s.rounds.length fired (s.rounds.getLast?.getD s) := by
  fun_induction rounds s with
  | case1 s h => exact ⟨0, .idle h⟩
  | case2 s d h ih =>
    obtain ⟨fired, hr⟩ := ih
    refine ⟨(s.tick d).2 + fired, ?_⟩
    simpa [List.getLast?_cons] using RunsOut.round h (tick_pos_of_nextDeadline h) hr

theorem Disciplined.le_of_nextDeadline (h : Disciplined s) {d : Nat} (hd : s.nextDeadline = some d) :
    d ≤ clockLimit := by
  obtain ⟨t, ht, rfl⟩ := List.mem_map.1 (List.min?_mem hd)
  exact h.due_le t ht

theorem RunsOut.pending_eq (hr : RunsOut s rounds fired s') : s'.pending = 0 := by
  induction hr with
  | idle h => exact pending_of_nextDeadline h
  | round _ _ _ ih => exact ih

section

variable {P : Playback → Prop}
  (hfire : ∀ {now : Nat} {s s' : Playback}, Sound ns s → P s → s.fire? now = some s' → P s')

include hfire

theorem FiresIn.keeps (hf : FiresIn now n s s') (h : Sound ns s) (hs : P s) : P s' := by
  induction hf with
  | none => exact hs
  | fire hf _ ih => exact ih ((kept_sound ns).fire h hf) (hfire h hs hf)

/-- What each timer keeps, and no clock tells, holds when the timers have run out. -/
theorem RunsOut.keeps (hclock : ∀ {s : Playback} (now : Nat), P s → P { s with now })
    (hr : RunsOut s rounds fired s') (h : Sound ns s) (hs : P s) : Sound ns s' ∧ P s' := by
  induction hr with
  | idle => exact ⟨h, hs⟩
  | @round s _ d _ _ hd _ _ ih =>
    obtain ⟨s₁, hf, -, he⟩ := firesIn_tick d s
    have hx : P s₁ := hf.keeps hfire h hs
    exact ih (h.tick (h.le_of_nextDeadline hd)) (he ▸ hclock _ hx)

end

theorem RunsOut.left_le (hr : RunsOut s rounds fired s') (h : Sound ns s) :
    fired + s'.left ≤ s.left := by
  induction hr with
  | idle => simp
  | @round s _ d _ _ hd _ _ ih =>
    have h1 := h.left_tick_le d
    have h2 := ih (h.tick (h.le_of_nextDeadline hd))
    omega

@[simp] theorem auto_armAuto (s : Playback) : s.armAuto.auto = s.auto := by
  unfold armAuto
  split <;> rfl

@[simp] theorem cursor_armAuto (s : Playback) : s.armAuto.cursor = s.cursor := by
  unfold armAuto
  split <;> rfl

@[simp] theorem auto_finishReveal (s : Playback) : s.finishReveal.auto = s.auto := auto_armAuto _

@[simp] theorem cursor_finishReveal (s : Playback) : s.finishReveal.cursor = s.cursor :=
  cursor_armAuto _

theorem auto_enter (s : Playback) : s.enter.auto = s.auto := by
  unfold enter
  dsimp only
  split
  · exact auto_finishReveal _
  · rfl

theorem auto_advance (hp : s.advance.phase ≠ .ended) : s.advance.auto = s.auto := by
  unfold advance at hp ⊢
  split
  · exact auto_finishReveal _
  · rename_i hw
    rw [hw] at hp
    dsimp only at hp ⊢
    split
    · exact auto_enter _
    · rename_i hc
      rw [if_neg hc] at hp
      exact absurd rfl hp
  · rfl

theorem auto_typewriterStep (s : Playback) : s.typewriterStep.auto = s.auto := by
  unfold typewriterStep
  split
  · dsimp only
    split
    · exact auto_finishReveal _
    · rfl
  · rfl

theorem cursor_typewriterStep (s : Playback) : s.typewriterStep.cursor = s.cursor := by
  unfold typewriterStep
  split
  · dsimp only
    split
    · exact cursor_finishReveal _
    · rfl
  · rfl

structure GoesOn (s : Playback) : Prop where
  pending_eq : s.pending = s.owed
  auto_eq : s.phase ≠ .ended → s.auto = true

theorem Sound.goesOn_of_fire? (h : Sound ns s) (hg : GoesOn s) (hf : s.fire? now = some s') :
    GoesOn s' := by
  refine ⟨(h.toDisciplined.fire hf).pending_eq, fun hp => ?_⟩
  obtain ⟨task, q, hq, rfl⟩ := fire?_eq_some.1 hf
  have hfit := h.fits_of_popDue hq
  cases ht : task.payload with
  | typewriter =>
    rw [ht] at hfit
    rw [act, auto_typewriterStep]
    exact hg.auto_eq (by simp [show s.phase = .revealing from hfit])
  | autoAdvance =>
    rw [ht] at hfit hp
    rw [act, auto_advance hp]
    exact hfit.2

theorem Sound.attended_of_fire? (h : Sound ns s) (ha : s.auto = false)
    (hf : s.fire? now = some s') : s'.auto = false ∧ s'.cursor = s.cursor := by
  obtain ⟨task, q, hq, rfl⟩ := fire?_eq_some.1 hf
  have hfit := h.fits_of_popDue hq
  cases ht : task.payload with
  | typewriter =>
    rw [act, auto_typewriterStep, cursor_typewriterStep]
    exact ⟨ha, rfl⟩
  | autoAdvance =>
    rw [ht] at hfit
    simp [Fits, ha] at hfit

/-- A timer that is pending is the one that the stage needs to go on. -/
theorem Disciplined.pending_eq_owed (h : Disciplined s) (hp : s.pending ≠ 0) :
    s.pending = s.owed := by
  have hl : s.timers.tasks.length = 1 := by
    have hle : s.timers.tasks.length ≤ 1 := h.pending_le
    have hne : s.timers.tasks.length ≠ 0 := hp
    omega
  obtain ⟨t, ht⟩ := List.length_eq_one_iff.1 hl
  have hfit := h.fits t (by simp [ht])
  have ho : s.owed = 1 := by
    cases hx : t.payload with
    | typewriter =>
      rw [hx] at hfit
      simp [owed, show s.phase = .revealing from hfit]
    | autoAdvance =>
      rw [hx] at hfit
      simp [owed, hfit.1, hfit.2]
  exact hl.trans ho.symm

theorem RunsOut.ended (hr : RunsOut s rounds fired s') (h : Sound ns s) (hg : GoesOn s) :
    s'.phase = .ended ∧ s'.backlog = ns.dropLast := by
  obtain ⟨h', hg'⟩ := hr.keeps (fun hs hg hf => hs.goesOn_of_fire? hg hf)
    (fun _ hg => ⟨hg.pending_eq, hg.auto_eq⟩) h hg
  -- a stage that plays by itself has a timer unless it is over
  have hp : s'.phase = .ended := by
    have ho := hg'.pending_eq.symm.trans hr.pending_eq
    cases hx : s'.phase with
    | revealing => simp [owed, hx] at ho
    | waiting => simp [owed, hx, hg'.auto_eq (by simp [hx])] at ho
    | ended => rfl
  refine ⟨hp, ?_⟩
  rw [h'.backlog_eq, (h'.ended hp).1, List.dropLast_eq_take]

theorem RunsOut.cursor_eq (hr : RunsOut s rounds fired s') (h : Sound ns s)
    (ha : ¬ (s.auto = true ∧ s.pending ≠ 0)) : s'.cursor = s.cursor := by
  by_cases hp : s.pending = 0
  · cases hr with
    | idle => rfl
    | round hd =>
      have ht : s.timers.tasks = [] := List.length_eq_zero_iff.1 hp
      simp [nextDeadline, Queue.nextDeadline, ht] at hd
  · have ha : s.auto = false := by simpa [hp] using ha
    exact (hr.keeps (P := fun x => x.auto = false ∧ x.cursor = s.cursor)
      (fun hs hx hf => by
        obtain ⟨h1, h2⟩ := hs.attended_of_fire? hx.1 hf
        exact ⟨h1, h2.trans hx.2⟩)
      (fun _ hx => hx) h ⟨ha, rfl⟩).2.2

/-- All timers of a run are at most one for each character of the nodes and one for each node, so a
tick ends with nothing due. From where a run has come, ticks from deadline to deadline end with
nothing pending after rounds that each fire a timer: past the last node if a timer was pending and
the stage played by itself, and otherwise on the same node. -/
theorem timers_run_out (start : UInt64) (timing : Timing) (nodes : List Node) (ops : List Op) :
    let s₀ := startAt start.toNat timing nodes
    let s := s₀.run ops
    s₀.firedIn ops ≤ shares (script nodes) ∧
    (∀ now, ∃ s', FiresIn now (s.tick now).2 s s' ∧ s'.fire? now = none ∧
      (s.tick now).1 = { s' with now := max s'.now now } ∧
      s₀.firedIn ops + (s.tick now).2 ≤ shares (script nodes)) ∧
    ∃ fired s', RunsOut s s.rounds.length fired s' ∧ s' = s.rounds.getLast?.getD s ∧
      s₀.firedIn ops + fired ≤ shares (script nodes) ∧ s'.pending = 0 ∧
      if s.auto ∧ s.pending ≠ 0 then s'.phase = .ended ∧ s'.backlog = s.nodes.dropLast
      else s'.cursor = s.cursor := by
  intro s₀ s
  have h₀ : Sound (script nodes) s₀ := sound_startAt start timing nodes
  have h : Sound (script nodes) s := h₀.run ops
  have hl : s₀.firedIn ops + s.left ≤ shares (script nodes) :=
    Nat.le_trans (h₀.left_run_le ops) (left_startAt_le start.toNat timing nodes)
  refine ⟨Nat.le_trans (Nat.le_add_right _ _) hl, fun now => ?_, ?_⟩
  · have ht := h.left_tick_le now
    obtain ⟨s', hf, hn, he⟩ := firesIn_tick now s
    exact ⟨s', hf, hn, he, by omega⟩
  · obtain ⟨fired, hr⟩ := exists_runsOut s
    have hf := hr.left_le h
    refine ⟨fired, _, hr, rfl, by omega, hr.pending_eq, ?_⟩
    split
    · rename_i ha
      rw [h.nodes_eq]
      exact hr.ended h ⟨h.pending_eq_owed ha.2, fun _ => ha.1⟩
    · rename_i ha
      exact hr.cursor_eq h ha

end SerialNovel.Playback
