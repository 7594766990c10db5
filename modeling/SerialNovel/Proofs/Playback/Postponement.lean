import SerialNovel.Proofs.Playback.RunOut

namespace SerialNovel

theorem later_later (now delay d : Nat) : later (later now delay) d = later (now + d) delay := by
  simp only [later]
  omega

theorem later_of_le {due now d : Nat} (hd : due ≤ now) (hn : now + d < clockLimit) :
    later due d = due + d := by
  simp only [later]
  omega

theorem later_le_add_iff {due now d : Nat} (hn : now + d < clockLimit) :
    later due d ≤ now + d ↔ due ≤ now := by
  simp only [later]
  omega

namespace Task

variable {α : Type}

def postpone (d : Nat) (t : Task α) : Task α := { t with due := later t.due d }

end Task

namespace Queue

variable {α : Type} {q : Queue α} {now d : Nat}

def postpone (d : Nat) (q : Queue α) : Queue α := { q with tasks := q.tasks.map (Task.postpone d) }

theorem postpone_schedule (q : Queue α) (now delay d : Nat) (a : α) :
    (q.schedule (later now delay) a).postpone d =
      (q.postpone d).schedule (later (now + d) delay) a := by
  simp [postpone, schedule, Task.postpone, later_later]

theorem postpone_cancelWhere (q : Queue α) (p : α → Bool) (d : Nat) :
    ((q.cancelWhere p).2).postpone d = ((q.postpone d).cancelWhere p).2 := by
  simp only [postpone, cancelWhere, List.filter_map]
  rfl

theorem earliest?_map {f : Task α → Task α} {ts : List (Task α)}
    (h : ∀ t ∈ ts, ∀ u ∈ ts, Task.before (f t) (f u) = Task.before t u) :
    earliest? (ts.map f) = (earliest? ts).map f := by
  induction ts with
  | nil => rfl
  | cons t ts ih =>
    have ih := ih fun u hu v hv => h u (List.mem_cons_of_mem t hu) v (List.mem_cons_of_mem t hv)
    rw [List.map_cons, earliest?, ih, earliest?]
    cases he : earliest? ts with
    | none => rfl
    | some u =>
      have hb := h u (List.mem_cons_of_mem t (mem_of_earliest? he)) t List.mem_cons_self
      simp only [Option.map_some, hb]
      split <;> rfl

theorem popDue_postpone (hn : now + d < clockLimit) : (q.postpone d).popDue (now + d) =
    (q.popDue now).map fun p => (p.1.postpone d, p.2.postpone d) := by
  have hf : (q.postpone d).tasks.filter (·.due ≤ now + d) =
      (q.tasks.filter (·.due ≤ now)).map (Task.postpone d) := by
    rw [postpone, List.filter_map]
    congr 1
    apply List.filter_congr
    intro t _
    simp [Task.postpone, later_le_add_iff hn]
  have hb : ∀ t ∈ q.tasks.filter (·.due ≤ now), ∀ u ∈ q.tasks.filter (·.due ≤ now),
      Task.before (t.postpone d) (u.postpone d) = Task.before t u := by
    intro t ht u hu
    have ht := later_of_le (of_decide_eq_true (List.mem_filter.1 ht).2) hn
    have hu := later_of_le (of_decide_eq_true (List.mem_filter.1 hu).2) hn
    have he : (t.due + d == u.due + d) = (t.due == u.due) := by
      rw [Bool.eq_iff_iff]
      simp
    simp [Task.before, Task.postpone, ht, hu, he]
  rw [popDue, hf, earliest?_map hb, popDue, Option.map_map, Option.map_map]
  congr 1
  funext t
  simp [postpone, Task.postpone, List.eraseP_map, Function.comp_def]

theorem tasks_postpone (h : ∀ t ∈ (q.postpone d).tasks, t.due < clockLimit) :
    (q.postpone d).tasks = q.tasks.map fun t => { t with due := t.due + d } := by
  apply List.map_congr_left
  intro t ht
  have hl : later t.due d < clockLimit := h _ (List.mem_map_of_mem ht)
  have hd : later t.due d = t.due + d := by
    simp only [later] at hl ⊢
    omega
  rw [Task.postpone, hd]

theorem min?_map_add (d : Nat) (ns : List Nat) : (ns.map (· + d)).min? = ns.min?.map (· + d) := by
  cases ns with
  | nil => rfl
  | cons n ns =>
    have hf : (ns.map (· + d)).foldl min (n + d) = ns.foldl min n + d := by
      rw [List.foldl_map]
      exact List.foldl_hom (· + d) fun a b => by omega
    rw [List.map_cons, List.min?_cons', hf, List.min?_cons', Option.map_some]

theorem nextDeadline_postpone (h : ∀ t ∈ (q.postpone d).tasks, t.due < clockLimit) :
    (q.postpone d).nextDeadline = q.nextDeadline.map (· + d) := by
  rw [nextDeadline, tasks_postpone h, List.map_map, nextDeadline, ← min?_map_add, List.map_map]
  rfl

end Queue

namespace Playback

variable {s : Playback} {now d : Nat}

/-- The same stage at a time that is later by `d`. -/
def postpone (d : Nat) (s : Playback) : Playback :=
  { s with now := s.now + d, timers := s.timers.postpone d }

theorem postpone_cancelTimers (s : Playback) (d : Nat) :
    s.cancelTimers.postpone d = (s.postpone d).cancelTimers := rfl

theorem postpone_cancelAuto (s : Playback) (d : Nat) :
    s.cancelAuto.postpone d = (s.postpone d).cancelAuto := by
  simp only [postpone, cancelAuto, Queue.postpone_cancelWhere]

theorem postpone_armTick (s : Playback) (d : Nat) :
    s.armTick.postpone d = (s.postpone d).armTick := by
  simp only [postpone, armTick, Queue.postpone_schedule]

theorem postpone_armAuto (s : Playback) (d : Nat) :
    s.armAuto.postpone d = (s.postpone d).armAuto := by
  unfold armAuto
  rw [apply_ite (postpone d)]
  simp only [postpone, cancelAuto, Queue.postpone_schedule, Queue.postpone_cancelWhere]
  rfl

theorem postpone_finishReveal (s : Playback) (d : Nat) :
    s.finishReveal.postpone d = (s.postpone d).finishReveal := postpone_armAuto _ d

theorem postpone_enter (s : Playback) (d : Nat) : s.enter.postpone d = (s.postpone d).enter := by
  unfold enter
  dsimp only
  rw [apply_ite (postpone d), postpone_finishReveal, postpone_armTick]
  rfl

theorem postpone_advance (s : Playback) (d : Nat) :
    s.advance.postpone d = (s.postpone d).advance := by
  have hp : (s.postpone d).phase = s.phase := rfl
  unfold advance
  rw [hp]
  cases s.phase with
  | revealing => exact postpone_finishReveal _ d
  | waiting =>
    dsimp only
    rw [apply_ite (postpone d), postpone_enter]
    rfl
  | ended => rfl

theorem postpone_toggleAuto (s : Playback) (d : Nat) :
    s.toggleAuto.postpone d = (s.postpone d).toggleAuto := by
  unfold toggleAuto
  dsimp only
  rw [apply_ite (postpone d), apply_ite (postpone d), apply_ite (postpone d), postpone_cancelAuto,
    postpone_advance]
  rfl

theorem postpone_typewriterStep (s : Playback) (d : Nat) :
    s.typewriterStep.postpone d = (s.postpone d).typewriterStep := by
  unfold typewriterStep
  dsimp only
  rw [apply_ite (postpone d), apply_ite (postpone d), postpone_finishReveal, postpone_armTick]
  rfl

theorem postpone_act (s : Playback) (d : Nat) (t : StageTimer) :
    (s.act t).postpone d = (s.postpone d).act t := by
  cases t with
  | typewriter => exact postpone_typewriterStep s d
  | autoAdvance => exact postpone_advance s d

theorem fire?_postpone (hn : now + d < clockLimit) (s : Playback) :
    (s.postpone d).fire? (now + d) = (s.fire? now).map (postpone d) := by
  have hq : (s.postpone d).timers.popDue (now + d) =
      (s.timers.popDue now).map fun p => (p.1.postpone d, p.2.postpone d) :=
    Queue.popDue_postpone hn
  rw [fire?, fire?, hq, Option.map_map, Option.map_map]
  refine Option.map_congr ?_
  rintro ⟨task, q⟩ hp
  -- a timer that fires is due before the limit, so its own time is later by all of `d`
  have hd : later task.due d = task.due + d := later_of_le (Queue.mem_of_popDue hp).2.1 hn
  have hm : max (s.now + d) (task.due + d) = max s.now task.due + d := by omega
  simp only [Function.comp_apply, postpone_act]
  simp only [postpone, Task.postpone, hd, hm]

theorem fireAll_postpone (hn : now + d < clockLimit) (fired : Nat) (s : Playback) :
    (s.postpone d).fireAll (now + d) fired =
      ((s.fireAll now fired).1.postpone d, (s.fireAll now fired).2) := by
  fun_induction fireAll now fired s with
  | case1 fired s h =>
    apply fireAll_none
    rw [fire?_postpone hn, h]
    rfl
  | case2 fired s s' h ih =>
    have hf : (s.postpone d).fire? (now + d) = some (s'.postpone d) := by
      rw [fire?_postpone hn, h]
      rfl
    rw [fireAll_some hf, ih]

theorem tick_postpone (hn : now + d < clockLimit) (s : Playback) :
    (s.postpone d).tick (now + d) = ((s.tick now).1.postpone d, (s.tick now).2) := by
  have hm (a : Nat) : max (a + d) (now + d) = max a now + d := by omega
  rw [tick, fireAll_postpone hn]
  simp only [tick, postpone, hm]

def Op.time? : Op → Option UInt64
  | .advanceAt now => some now
  | .toggleAutoAt now => some now
  | .tick now => some now
  | .advance => none
  | .toggleAuto => none
  | .cancelTimers => none

def Op.postpone (d : UInt64) : Op → Op
  | .advanceAt now => .advanceAt (now + d)
  | .toggleAutoAt now => .toggleAutoAt (now + d)
  | .tick now => .tick (now + d)
  | .advance => .advance
  | .toggleAuto => .toggleAuto
  | .cancelTimers => .cancelTimers

theorem toNat_add_of_lt {t d : UInt64} (h : t.toNat + d.toNat < clockLimit) :
    (t + d).toNat = t.toNat + d.toNat := by
  rw [UInt64.toNat_add]
  exact Nat.mod_eq_of_lt (Nat.lt_succ_of_lt h)

variable {delay : UInt64} {op : Op}

theorem apply_postpone (h : ∀ t ∈ op.time?, t.toNat + delay.toNat < clockLimit) (s : Playback) :
    (s.postpone delay.toNat).apply (op.postpone delay) = (s.apply op).postpone delay.toNat ∧
      (s.postpone delay.toNat).firedBy (op.postpone delay) = s.firedBy op := by
  have tick (now : UInt64) (hn : now.toNat + delay.toNat < clockLimit) :
      (s.postpone delay.toNat).tick (now + delay).toNat =
        ((s.tick now.toNat).1.postpone delay.toNat, (s.tick now.toNat).2) := by
    rw [toNat_add_of_lt hn, tick_postpone hn]
  cases op with
  | advance => exact ⟨(postpone_advance s _).symm, rfl⟩
  | advanceAt now =>
    have ht := tick now (h now rfl)
    simp only [apply, firedBy, advanceAt, Op.postpone, ht, postpone_advance, and_self]
  | toggleAuto => exact ⟨(postpone_toggleAuto s _).symm, rfl⟩
  | toggleAutoAt now =>
    have ht := tick now (h now rfl)
    simp only [apply, firedBy, toggleAutoAt, Op.postpone, ht, postpone_toggleAuto, and_self]
  | tick now =>
    have ht := tick now (h now rfl)
    simp only [apply, firedBy, Op.postpone, ht, and_self]
  | cancelTimers => exact ⟨(postpone_cancelTimers s _).symm, rfl⟩

theorem run_map_postpone {ops : List Op}
    (h : ∀ op ∈ ops, ∀ t ∈ op.time?, t.toNat + delay.toNat < clockLimit) (s : Playback) :
    (s.postpone delay.toNat).run (ops.map (Op.postpone delay)) =
      (s.run ops).postpone delay.toNat := by
  induction ops generalizing s with
  | nil => rfl
  | cons op ops ih =>
    have ha := (apply_postpone (h op List.mem_cons_self) s).1
    have ih := ih fun op ho => h op (List.mem_cons_of_mem _ ho)
    simp only [run, List.map_cons, List.foldl_cons] at ih ⊢
    rw [ha, ih]

theorem postpone_startAt (now d : Nat) (timing : Timing) (nodes : List Node) :
    (startAt now timing nodes).postpone d = startAt (now + d) timing nodes := postpone_enter _ d

/-- A run that starts later by `delay`, with each time that the host names later by as much, shows
what the run without the delay shows, call by call, and fires as many timers, as long as the times
stay short of the limit of the clock. Its clock is later by the delay, and so is each timer that is
pending, unless that reaches the limit. -/
theorem run_postpone (start delay : UInt64) (timing : Timing) (nodes : List Node) (ops : List Op)
    (hs : start.toNat + delay.toNat < clockLimit)
    (ht : ∀ op ∈ ops, ∀ t ∈ op.time?, t.toNat + delay.toNat < clockLimit) :
    ∀ done, done <+: ops →
      let s := (startAt start.toNat timing nodes).run done
      let s' := (startAt (start + delay).toNat timing nodes).run (done.map (Op.postpone delay))
      s' = { s with now := s.now + delay.toNat, timers := s'.timers } ∧
      (∀ op, done ++ [op] <+: ops → s'.firedBy (op.postpone delay) = s.firedBy op) ∧
      ((∀ t ∈ s'.timers.tasks, t.due < clockLimit) →
        s'.timers.tasks = s.timers.tasks.map (fun t => { t with due := t.due + delay.toNat }) ∧
        s'.nextDeadline = s.nextDeadline.map (· + delay.toNat)) := by
  intro done hdone s s'
  have he : s' = s.postpone delay.toNat := by
    have hr :=
      run_map_postpone (fun op ho => ht op (hdone.subset ho)) (startAt start.toNat timing nodes)
    rw [postpone_startAt, ← toNat_add_of_lt hs] at hr
    exact hr
  refine ⟨by rw [he]; rfl, fun op ho => ?_, fun hd => ?_⟩
  · rw [he]
    exact (apply_postpone (ht op (ho.subset (by simp))) s).2
  · rw [he] at hd ⊢
    exact ⟨Queue.tasks_postpone hd, Queue.nextDeadline_postpone hd⟩

/-- A node that is left long after its reveal, a tick to the past, and half of the next reveal, all
of it a day later. -/
theorem run_postpone_by_day :
    let ops : List Op := [.advanceAt 100000, .tick 7, .toggleAuto, .tick 100045]
    let nodes : List Node := [.narration "ab".toList, .narration "cd".toList, .divider]
    let s := (startAt 5 {} nodes).run ops
    let s' := (startAt 86400005 {} nodes).run (ops.map (Op.postpone 86400000))
    (5 : UInt64).toNat + (86400000 : UInt64).toNat < clockLimit ∧
    (∀ op ∈ ops, ∀ t ∈ op.time?, t.toNat + (86400000 : UInt64).toNat < clockLimit) ∧
    (∀ t ∈ s'.timers.tasks, t.due < clockLimit) ∧
    s' = { s with now := s.now + 86400000, timers := s'.timers } ∧
    s.nextDeadline = some 100060 ∧ s'.nextDeadline = some 86500060 := by
  intro ops nodes s s'
  have hs : (5 : UInt64).toNat + (86400000 : UInt64).toNat < clockLimit := by decide
  have ht : ∀ op ∈ ops, ∀ t ∈ op.time?, t.toNat + (86400000 : UInt64).toNat < clockLimit := by
    simp [ops, Op.time?, clockLimit, Text.maxNumber]
  have hd : ∀ t ∈ s'.timers.tasks, t.due < clockLimit := by decide +kernel
  have hn : s.nextDeadline = some 100060 := by decide +kernel
  obtain ⟨he, -, hdue⟩ := run_postpone 5 86400000 {} nodes ops hs ht ops (List.prefix_refl ops)
  have hn' : s'.nextDeadline = s.nextDeadline.map (· + 86400000) := (hdue hd).2
  rw [hn] at hn'
  exact ⟨hs, ht, hd, he, hn, hn'⟩

end Playback

end SerialNovel
