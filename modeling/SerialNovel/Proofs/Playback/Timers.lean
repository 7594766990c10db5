import SerialNovel.Proofs.Playback.Steps

namespace SerialNovel.Playback

/-- What a timer is for: more text while a reveal runs, or the next node after it. -/
def Fits (s : Playback) : StageTimer → Prop
  | .typewriter => s.phase = .revealing
  | .autoAdvance => s.phase = .waiting ∧ s.auto = true

structure Disciplined (s : Playback) : Prop where
  pending_le : s.pending ≤ 1
  now_le : s.now ≤ clockLimit
  due_le : ∀ t ∈ s.timers.tasks, t.due ≤ clockLimit
  now_le_due : ∀ t ∈ s.timers.tasks, s.now ≤ t.due
  handle_lt : ∀ t ∈ s.timers.tasks, t.handle < s.timers.nextHandle
  fits : ∀ t ∈ s.timers.tasks, s.Fits t.payload

def owed (s : Playback) : Nat :=
  match s.phase with
  | .revealing => 1
  | .waiting => if s.auto then 1 else 0
  | .ended => 0

/-- A disciplined stage that does not stall. -/
structure Driven (s : Playback) : Prop extends Disciplined s where
  pending_eq : s.pending = s.owed

variable {s : Playback}

theorem Disciplined.of_no_tasks (h : s.timers.tasks = []) (hn : s.now ≤ clockLimit) :
    Disciplined s where
  pending_le := by simp [pending, Queue.size, h]
  now_le := hn
  due_le := by simp [h]
  now_le_due := by simp [h]
  handle_lt := by simp [h]
  fits := by simp [h]

theorem Driven.schedule (h : s.timers.tasks = []) (hn : s.now ≤ clockLimit) (delay : Nat)
    {t : StageTimer} (hf : s.Fits t) (ho : s.owed = 1) :
    Driven { s with timers := s.timers.schedule (later s.now delay) t } where
  pending_le := by simp [pending, Queue.size, Queue.schedule, h]
  now_le := hn
  due_le := by simp [Queue.schedule, h, later_le]
  now_le_due := by simp [Queue.schedule, h, le_later hn]
  handle_lt := by simp [Queue.schedule, h]
  fits := by
    intro u hu
    simp only [Queue.schedule, h, List.nil_append, List.mem_singleton] at hu
    subst hu
    cases t <;> exact hf
  pending_eq := by
    have : s.owed = 1 := ho
    simpa [pending, Queue.size, Queue.schedule, h, owed] using this.symm

theorem driven_armTick (h : s.timers.tasks = []) (hn : s.now ≤ clockLimit)
    (hp : s.phase = .revealing) : Driven s.armTick :=
  Driven.schedule h hn _ hp (by simp [owed, hp])

theorem driven_armAuto (h : s.timers.tasks = []) (hn : s.now ≤ clockLimit)
    (hp : s.phase = .waiting) : Driven s.armAuto := by
  unfold armAuto
  split
  · rename_i ha
    have hx : s.cancelAuto.timers.tasks = [] := by simp [cancelAuto, Queue.cancelWhere, h]
    have hf : s.cancelAuto.Fits .autoAdvance := ⟨hp, ha.1⟩
    exact Driven.schedule hx hn _ hf (by simp [owed, cancelAuto, hp, ha.1])
  · rename_i ha
    have ha : s.auto = false := by simpa [hp] using ha
    exact { Disciplined.of_no_tasks h hn with
      pending_eq := by simp [pending, Queue.size, h, owed, hp, ha] }

theorem driven_finishReveal (h : s.timers.tasks = []) (hn : s.now ≤ clockLimit) :
    Driven s.finishReveal :=
  driven_armAuto h hn rfl

theorem driven_enter (hn : s.now ≤ clockLimit) : Driven s.enter := by
  unfold enter
  dsimp only
  split
  · exact driven_finishReveal rfl hn
  · exact driven_armTick rfl hn rfl

theorem driven_advance (hn : s.now ≤ clockLimit) (hp : s.phase ≠ .ended) : Driven s.advance := by
  unfold advance
  split
  · exact driven_finishReveal rfl hn
  · dsimp only
    split
    · exact driven_enter hn
    · have hd : Disciplined { s.cancelTimers with phase := .ended, auto := false } :=
        .of_no_tasks rfl hn
      exact { hd with pending_eq := rfl }
  · contradiction

theorem driven_typewriterStep (h : s.timers.tasks = []) (hn : s.now ≤ clockLimit)
    (hp : s.phase = .revealing) : Driven s.typewriterStep := by
  rw [typewriterStep, if_pos hp]
  dsimp only
  split
  · exact driven_finishReveal h hn
  · exact driven_armTick h hn hp

theorem Disciplined.advance (h : Disciplined s) : Disciplined s.advance := by
  by_cases hp : s.phase = .ended
  · simpa [Playback.advance, hp] using h
  · exact (driven_advance h.now_le hp).toDisciplined

theorem Driven.advance (h : Driven s) : Driven s.advance := by
  by_cases hp : s.phase = .ended
  · simpa [Playback.advance, hp] using h
  · exact driven_advance h.now_le hp

theorem Disciplined.cancelTimers (h : Disciplined s) : Disciplined s.cancelTimers :=
  .of_no_tasks rfl h.now_le

theorem Disciplined.moveClock (h : Disciplined s) {now : Nat} (hn : now ≤ clockLimit)
    (hf : s.fire? now = none) : Disciplined { s with now := max s.now now } where
  pending_le := h.pending_le
  now_le := Nat.max_le.2 ⟨h.now_le, hn⟩
  due_le := h.due_le
  now_le_due := by
    intro t ht
    have hd := Queue.popDue_eq_none.1 (Option.map_eq_none_iff.1 hf) t ht
    exact Nat.max_le.2 ⟨h.now_le_due t ht, Nat.le_of_lt hd⟩
  handle_lt := h.handle_lt
  fits := h.fits

theorem Disciplined.tasks_of_popDue (h : Disciplined s) {now : Nat} {t : Task StageTimer}
    {q : Queue StageTimer} (hq : s.timers.popDue now = some (t, q)) : q.tasks = [] := by
  have h1 := Queue.size_of_popDue hq
  have h2 : s.timers.size ≤ 1 := h.pending_le
  exact List.length_eq_zero_iff.1 (by simp only [Queue.size] at h1 h2; omega)

theorem Disciplined.fire (h : Disciplined s) {now : Nat} {s' : Playback}
    (hf : s.fire? now = some s') : Driven s' := by
  obtain ⟨task, q, hq, rfl⟩ := fire?_eq_some.1 hf
  obtain ⟨hm, -, -⟩ := Queue.mem_of_popDue hq
  -- nothing else was pending, so all that the timer does starts from an empty queue
  have hx : q.tasks = [] := h.tasks_of_popDue hq
  let s₁ : Playback := { s with timers := q, now := max s.now task.due }
  have hn : s₁.now ≤ clockLimit := Nat.max_le.2 ⟨h.now_le, h.due_le task hm⟩
  have hfit : s₁.Fits task.payload := h.fits task hm
  change Driven (s₁.act task.payload)
  cases hp : task.payload with
  | typewriter =>
    rw [hp] at hfit
    exact driven_typewriterStep hx hn hfit
  | autoAdvance =>
    rw [hp] at hfit
    exact driven_advance hn (by simp [hfit.1])

theorem Disciplined.cancelAuto (h : Disciplined s) :
    Disciplined (Playback.cancelAuto { s with auto := false }) := by
  have hs : ∀ t ∈ (s.timers.cancelWhere (· == .autoAdvance)).2.tasks,
      t ∈ s.timers.tasks ∧ t.payload = .typewriter := by
    intro t ht
    obtain ⟨hm, hx⟩ := List.mem_filter.1 ht
    refine ⟨hm, ?_⟩
    cases hp : t.payload with
    | typewriter => rfl
    | autoAdvance => simp [hp] at hx
  exact {
    pending_le := by
      have hx := s.timers.size_cancelWhere_le (· == .autoAdvance)
      exact Nat.le_trans hx h.pending_le
    now_le := h.now_le
    due_le := fun t ht => h.due_le t (hs t ht).1
    now_le_due := fun t ht => h.now_le_due t (hs t ht).1
    handle_lt := fun t ht => h.handle_lt t (hs t ht).1
    fits := fun t ht => by
      have := h.fits t (hs t ht).1
      rw [(hs t ht).2] at this ⊢
      exact this }

theorem Disciplined.autoOn (h : Disciplined s) : Disciplined { s with auto := true } :=
  { h with
    fits := fun t ht => by
      have hf := h.fits t ht
      revert hf
      cases t.payload with
      | typewriter => exact id
      | autoAdvance => exact fun hf => ⟨hf.1, rfl⟩ }

theorem Disciplined.toggleAuto (h : Disciplined s) : Disciplined s.toggleAuto := by
  unfold Playback.toggleAuto
  split
  · exact h
  · split
    · exact h.cancelAuto
    · dsimp only
      split
      · exact h.autoOn.advance
      · exact h.autoOn

theorem Driven.cancelAuto (h : Driven s) (hp : s.phase ≠ .ended) :
    Driven (Playback.cancelAuto { s with auto := false }) := by
  refine { h.toDisciplined.cancelAuto with pending_eq := ?_ }
  -- a reveal has no timer of auto-play to lose, and a wait has no other timer
  cases hq : s.phase with
  | revealing =>
    have hall : s.timers.tasks.filter (!·.payload == .autoAdvance) = s.timers.tasks := by
      apply List.filter_eq_self.2
      intro t ht
      have hf := h.fits t ht
      cases hp : t.payload with
      | typewriter => rfl
      | autoAdvance => simp [Fits, hp, hq] at hf
    have := h.pending_eq
    simpa [pending, Queue.size, Playback.cancelAuto, Queue.cancelWhere, owed, hq, hall] using this
  | waiting =>
    have hnone : s.timers.tasks.filter (!·.payload == .autoAdvance) = [] := by
      apply List.filter_eq_nil_iff.2
      intro t ht
      have hf := h.fits t ht
      cases hp : t.payload with
      | typewriter => simp [Fits, hp, hq] at hf
      | autoAdvance => simp
    simp [pending, Queue.size, Playback.cancelAuto, Queue.cancelWhere, owed, hnone]
  | ended => contradiction

theorem Driven.toggleAuto (h : Driven s) : Driven s.toggleAuto := by
  unfold Playback.toggleAuto
  split
  · exact h
  · rename_i hp
    split
    · exact h.cancelAuto hp
    · dsimp only
      split
      · -- with auto-play on, the wait lacks the timer that it owes, and the advance ends the wait
        exact driven_advance h.now_le hp
      · rename_i hw
        have hr : s.phase = .revealing := by cases hq : s.phase <;> simp_all
        have he := h.pending_eq
        refine { h.toDisciplined.autoOn with pending_eq := ?_ }
        simpa [pending, owed, hr] using he

theorem kept_disciplined : Kept Disciplined where
  advance h := h.advance
  toggleAuto h := h.toggleAuto
  fire h hf := (h.fire hf).toDisciplined
  moveClock h hn hf := h.moveClock hn hf

theorem kept_driven : Kept Driven where
  advance h := h.advance
  toggleAuto h := h.toggleAuto
  fire h hf := h.toDisciplined.fire hf
  moveClock h hn hf := { h.toDisciplined.moveClock hn hf with pending_eq := h.pending_eq }

theorem driven_startAt (start : UInt64) (timing : Timing) (nodes : List Node) :
    Driven (startAt start.toNat timing nodes) :=
  driven_enter (toNat_le_clockLimit start)

/-- The clock of `s'` is not behind that of `s`, and each timer of `s'` was started after `s`, or
was there on the same node. Handles tell the order in which timers were started. -/
structure Later (s s' : Playback) : Prop where
  now_le : s.now ≤ s'.now
  nextHandle_le : s.timers.nextHandle ≤ s'.timers.nextHandle
  task : ∀ t ∈ s'.timers.tasks,
    s.timers.nextHandle ≤ t.handle ∨ s'.cursor = s.cursor ∧ t ∈ s.timers.tasks

namespace Later

theorem trans {s₁ s₂ s₃ : Playback} (h : Later s₁ s₂) (h' : Later s₂ s₃) : Later s₁ s₃ where
  now_le := Nat.le_trans h.now_le h'.now_le
  nextHandle_le := Nat.le_trans h.nextHandle_le h'.nextHandle_le
  task := by
    intro t ht
    rcases h'.task t ht with hn | ⟨hc, hm⟩
    · exact .inl (Nat.le_trans h.nextHandle_le hn)
    · rw [hc]
      exact h.task t hm

theorem of_eq {s' : Playback} (hn : s'.now = s.now) (hc : s'.cursor = s.cursor)
    (ht : s'.timers = s.timers) : Later s s' where
  now_le := Nat.le_of_eq hn.symm
  nextHandle_le := Nat.le_of_eq (by rw [ht])
  task := fun t h => .inr ⟨hc, ht ▸ h⟩

theorem after {s₀ s' : Playback} (h : Later s₀ s') (hn : s₀.now = s.now)
    (hc : s₀.cursor = s.cursor) (ht : s₀.timers = s.timers) : Later s s' :=
  (of_eq hn hc ht).trans h

theorem of_no_tasks {s₀ s' : Playback} (h : Later s₀ s') (h₀ : s₀.timers.tasks = [])
    (hn : s₀.now = s.now) (ht : s₀.timers.nextHandle = s.timers.nextHandle) : Later s s' where
  now_le := hn ▸ h.now_le
  nextHandle_le := ht ▸ h.nextHandle_le
  task := by
    intro t hm
    rcases h.task t hm with hx | ⟨-, hx⟩
    · exact .inl (ht ▸ hx)
    · simp [h₀] at hx

theorem schedule (due : Nat) (t : StageTimer) :
    Later s { s with timers := s.timers.schedule due t } where
  now_le := Nat.le_refl _
  nextHandle_le := Nat.le_succ _
  task := by
    intro u hu
    rcases List.mem_append.1 hu with hm | hm
    · exact .inr ⟨rfl, hm⟩
    · rw [List.mem_singleton.1 hm]
      exact .inl (Nat.le_refl _)

theorem cancelAuto : Later s s.cancelAuto where
  now_le := Nat.le_refl _
  nextHandle_le := Nat.le_refl _
  task := fun _ ht => .inr ⟨rfl, (List.mem_filter.1 ht).1⟩

theorem cancelTimers : Later s s.cancelTimers where
  now_le := Nat.le_refl _
  nextHandle_le := Nat.le_refl _
  task := fun t ht => by simp [Playback.cancelTimers, Queue.cancelAll] at ht

theorem armTick : Later s s.armTick := schedule _ _

theorem armAuto : Later s s.armAuto := by
  unfold Playback.armAuto
  split
  · exact cancelAuto.trans (schedule _ _)
  · exact of_eq rfl rfl rfl

theorem finishReveal : Later s s.finishReveal :=
  armAuto.after rfl rfl rfl

theorem enter : Later s s.enter := by
  unfold Playback.enter
  dsimp only
  refine cancelTimers.trans ?_
  split
  · exact finishReveal.after rfl rfl rfl
  · exact armTick.after rfl rfl rfl

theorem advance : Later s s.advance := by
  unfold Playback.advance
  split
  · exact cancelTimers.trans finishReveal
  · dsimp only
    split
    · exact enter.of_no_tasks rfl rfl rfl
    · exact cancelTimers.trans (of_eq rfl rfl rfl)
  · exact of_eq rfl rfl rfl

theorem toggleAuto : Later s s.toggleAuto := by
  unfold Playback.toggleAuto
  split
  · exact of_eq rfl rfl rfl
  · split
    · exact cancelAuto.after rfl rfl rfl
    · dsimp only
      split
      · exact advance.after rfl rfl rfl
      · exact of_eq rfl rfl rfl

theorem typewriterStep : Later s s.typewriterStep := by
  unfold Playback.typewriterStep
  split
  · dsimp only
    split
    · exact finishReveal.after rfl rfl rfl
    · exact armTick.after rfl rfl rfl
  · exact of_eq rfl rfl rfl

theorem act (t : StageTimer) : Later s (s.act t) := by
  cases t with
  | typewriter => exact typewriterStep
  | autoAdvance => exact advance

theorem fire {now : Nat} {s' : Playback} (h : s.fire? now = some s') : Later s s' := by
  obtain ⟨task, q, hq, rfl⟩ := fire?_eq_some.1 h
  obtain ⟨-, -, hsub⟩ := Queue.mem_of_popDue hq
  have hx : Later s { s with timers := q, now := max s.now task.due } := {
    now_le := Nat.le_max_left _ _
    nextHandle_le := Nat.le_of_eq (Queue.nextHandle_of_popDue hq).symm
    task := fun _ ht => .inr ⟨rfl, hsub ht⟩ }
  exact hx.trans (act _)

theorem moveClock (now : Nat) : Later s { s with now := max s.now now } where
  now_le := Nat.le_max_left _ _
  nextHandle_le := Nat.le_refl _
  task := fun _ ht => .inr ⟨rfl, ht⟩

end Later

theorem kept_later (s : Playback) : Kept (Later s) where
  advance h := h.trans .advance
  toggleAuto h := h.trans .toggleAuto
  fire h hf := h.trans (.fire hf)
  moveClock h _ _ := h.trans (.moveClock _)

theorem later_run (s : Playback) (ops : List Op) : Later s (s.run ops) :=
  (kept_later s).run (fun _ _ h => h.trans .cancelTimers) (.of_eq rfl rfl rfl)

theorem Disciplined.tick_past (h : Disciplined s) {t : Nat} (ht : t < s.now) :
    s.tick t = (s, 0) := by
  have hf : s.fire? t = none := by
    rw [fire?, Option.map_eq_none_iff, Queue.popDue_eq_none]
    intro u hu
    exact Nat.lt_of_lt_of_le ht (h.now_le_due u hu)
  rw [tick_of_fire?_none hf, Nat.max_eq_left (Nat.le_of_lt ht)]

/-- A timer never fires in another phase than its own. -/
theorem Disciplined.fits_of_popDue (h : Disciplined s) {now : Nat} {t : Task StageTimer}
    {q : Queue StageTimer} (hq : s.timers.popDue now = some (t, q)) : s.Fits t.payload :=
  h.fits t (Queue.mem_of_popDue hq).1

theorem Disciplined.pending_ended (h : Disciplined s) (hp : s.phase = .ended) : s.pending = 0 := by
  rw [pending, Queue.size, List.length_eq_zero_iff, List.eq_nil_iff_forall_not_mem]
  intro t ht
  have hf := h.fits t ht
  cases hx : t.payload <;> simp [Fits, hx, hp] at hf

/-- After `more`, and after some timers of a tick to `now`, `task` is the next one to fire. -/
def Firing (s : Playback) (more : List Op) (now : Nat) (s' : Playback) (task : Task StageTimer) :
    Prop :=
  Fires now (s.run more) s' ∧ ∃ q, s'.timers.popDue now = some (task, q)

theorem Firing.later {s' : Playback} {more : List Op} {now : Nat} {task : Task StageTimer}
    (h : s.Firing more now s' task) :
    s.timers.nextHandle ≤ task.handle ∨ s'.cursor = s.cursor ∧ task ∈ s.timers.tasks := by
  obtain ⟨hf, q, hq⟩ := h
  have hl : Later s s' := (kept_later s).fires (later_run s more) hf
  exact hl.task task (Queue.mem_of_popDue hq).1

theorem Disciplined.run (h : Disciplined s) (ops : List Op) : Disciplined (s.run ops) :=
  kept_disciplined.run (fun _ _ h => h.cancelTimers) h

theorem Disciplined.fits_of_firing (h : Disciplined s) {s' : Playback} {more : List Op} {now : Nat}
    {task : Task StageTimer} (hf : s.Firing more now s' task) : s'.Fits task.payload := by
  obtain ⟨hf, q, hq⟩ := hf
  exact (kept_disciplined.fires (h.run more) hf).fits_of_popDue hq

/-- Whatever the host does, at most one timer is pending, for the phase and not in the past, and a
run that cancels nothing has one exactly when the stage has to go on by itself. The clock never goes
back, and a tick to the past does nothing. A timer fires in its own phase only, so a typewriter
never finds its reveal over, and neither one of an earlier node nor a cancelled one fires. -/
theorem timers_run (start : UInt64) (timing : Timing) (nodes : List Node) (ops : List Op) :
    let s := (startAt start.toNat timing nodes).run ops
    s.pending ≤ 1 ∧
    (∀ t ∈ s.timers.tasks, s.Fits t.payload ∧ s.now ≤ t.due ∧ t.handle < s.timers.nextHandle) ∧
    (s.phase = .ended → s.pending = 0) ∧
    (∀ op, s.now ≤ (s.apply op).now) ∧
    (∀ t < s.now, s.tick t = (s, 0)) ∧
    (.cancelTimers ∉ ops → s.pending = s.owed) ∧
    (∀ more now s' task, s.Firing more now s' task → s'.Fits task.payload ∧
      (s.timers.nextHandle ≤ task.handle ∨ s'.cursor = s.cursor ∧ task ∈ s.timers.tasks)) ∧
    (∀ more now s' task, s.cancelTimers.Firing more now s' task →
      s.timers.nextHandle ≤ task.handle) := by
  intro s
  have h₀ := driven_startAt start timing nodes
  have h : Disciplined s := h₀.toDisciplined.run ops
  refine ⟨h.pending_le, ?_, h.pending_ended, ?_, fun t ht => h.tick_past ht, ?_, ?_, ?_⟩
  · intro t ht
    exact ⟨h.fits t ht, h.now_le_due t ht, h.handle_lt t ht⟩
  · intro op
    exact (later_run s [op]).now_le
  · intro hc
    exact (kept_driven.run (fun hm => absurd hm hc) h₀).pending_eq
  · intro more now s' task hf
    exact ⟨h.fits_of_firing hf, hf.later⟩
  · intro more now s' task hf
    rcases hf.later with hx | ⟨-, hx⟩
    · exact hx
    · simp [cancelTimers, Queue.cancelAll] at hx

end SerialNovel.Playback
