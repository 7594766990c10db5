import SerialNovel.Timer.Queue
import Mathlib.Algebra.Order.Group.Multiset
import Mathlib.Data.List.Nodup
import Mathlib.Tactic.Abel

namespace SerialNovel.Queue

variable {α : Type}

/-- What an owner asks of a queue. -/
inductive Op (α : Type)
  | schedule (due : Nat) (payload : α)
  | cancel (handle : Nat)
  | cancelWhere (p : α → Bool)
  | cancelAll
  | popDue (now : Nat)

/-- What a queue answers: the handle of a new task, whether a task was there, how many were, or the
task that is due. -/
inductive Answer (α : Type)
  | handle (n : Nat)
  | found (b : Bool)
  | count (n : Nat)
  | taken (t : Option (Task α))

def perform (q : Queue α) : Op α → Answer α × Queue α
  | .schedule due a => (.handle q.nextHandle, q.schedule due a)
  | .cancel handle => (.found (q.cancel handle).1, (q.cancel handle).2)
  | .cancelWhere p => (.count (q.cancelWhere p).1, (q.cancelWhere p).2)
  | .cancelAll => (.count q.cancelAll.1, q.cancelAll.2)
  | .popDue now =>
    match q.popDue now with
    | some (t, q') => (.taken (some t), q')
    | none => (.taken none, q)

def run (q : Queue α) (ops : List (Op α)) : Queue α := ops.foldl (fun q op => (q.perform op).2) q

/-- A call with its answer, and the tasks that were pending before it. -/
structure Event (α : Type) where
  pending : List (Task α)
  op : Op α
  answer : Answer α

def event (q : Queue α) (op : Op α) : Event α := ⟨q.tasks, op, (q.perform op).1⟩

/-- All that happens to a queue in a run. -/
def log (q : Queue α) : List (Op α) → List (Event α)
  | [] => []
  | op :: ops => q.event op :: log (q.perform op).2 ops

/-- Whether a call is to cancel a task if it is pending. -/
def Op.cancels : Op α → Task α → Bool
  | .cancel handle, t => t.handle == handle
  | .cancelWhere p, t => p t.payload
  | .cancelAll, _ => true
  | .schedule .., _ => false
  | .popDue _, _ => false

namespace Event

/-- The task that a call schedules, under the handle that it returns. -/
def scheduled : Event α → List (Task α)
  | ⟨_, .schedule due a, .handle n⟩ => [⟨n, due, a⟩]
  | _ => []

def taken : Event α → List (Task α)
  | ⟨_, _, .taken t⟩ => t.toList
  | _ => []

def cancelled (e : Event α) : List (Task α) := e.pending.filter e.op.cancels

end Event

/-- The tasks scheduled in a run, each as it was scheduled. -/
def scheduled (q : Queue α) (ops : List (Op α)) : List (Task α) :=
  (q.log ops).flatMap Event.scheduled

def taken (q : Queue α) (ops : List (Op α)) : List (Task α) := (q.log ops).flatMap Event.taken

def cancelled (q : Queue α) (ops : List (Op α)) : List (Task α) :=
  (q.log ops).flatMap Event.cancelled

def handles (ts : List (Task α)) : List Nat := ts.map Task.handle

section

variable (q : Queue α) (op : Op α) (ops more : List (Op α))

theorem run_cons : q.run (op :: ops) = (q.perform op).2.run ops := rfl

theorem scheduled_cons :
    q.scheduled (op :: ops) = (q.event op).scheduled ++ (q.perform op).2.scheduled ops :=
  List.flatMap_cons

theorem taken_cons : q.taken (op :: ops) = (q.event op).taken ++ (q.perform op).2.taken ops :=
  List.flatMap_cons

theorem cancelled_cons :
    q.cancelled (op :: ops) = (q.event op).cancelled ++ (q.perform op).2.cancelled ops :=
  List.flatMap_cons

theorem log_append : q.log (ops ++ more) = q.log ops ++ (q.run ops).log more := by
  induction ops generalizing q with
  | nil => rfl
  | cons op ops ih => rw [List.cons_append, log, ih, log, List.cons_append, run_cons]

theorem taken_append : q.taken (ops ++ more) = q.taken ops ++ (q.run ops).taken more := by
  rw [taken, log_append, List.flatMap_append]
  rfl

theorem cancelled_append :
    q.cancelled (ops ++ more) = q.cancelled ops ++ (q.run ops).cancelled more := by
  rw [cancelled, log_append, List.flatMap_append]
  rfl

end

/-- Tasks stand in the order of their handles, and the next handle is new. -/
structure Numbered (q : Queue α) : Prop where
  ascending : q.tasks.Pairwise (·.handle < ·.handle)
  handle_lt : ∀ t ∈ q.tasks, t.handle < q.nextHandle

variable {q q' : Queue α}

theorem numbered_empty : Numbered ({} : Queue α) := ⟨.nil, by simp⟩

theorem Numbered.sublist (h : Numbered q) (hs : q'.tasks.Sublist q.tasks)
    (hn : q'.nextHandle = q.nextHandle) : Numbered q' where
  ascending := h.ascending.sublist hs
  handle_lt := fun t ht => hn ▸ h.handle_lt t (hs.subset ht)

theorem Numbered.schedule (h : Numbered q) (due : Nat) (a : α) : Numbered (q.schedule due a) where
  ascending := by
    refine List.pairwise_append.2 ⟨h.ascending, List.pairwise_singleton _ _, ?_⟩
    intro t ht u hu
    rw [List.mem_singleton.1 hu]
    exact h.handle_lt t ht
  handle_lt := by
    intro t ht
    rcases List.mem_append.1 ht with ht | ht
    · exact Nat.lt_succ_of_lt (h.handle_lt t ht)
    · rw [List.mem_singleton.1 ht]
      exact Nat.lt_succ_self _

theorem Numbered.eq_of_handle_eq (h : Numbered q) {t u : Task α} (ht : t ∈ q.tasks)
    (hu : u ∈ q.tasks) (he : t.handle = u.handle) : t = u := by
  have hn : (q.tasks.map Task.handle).Nodup :=
    (List.pairwise_map.2 h.ascending).imp fun hlt => Nat.ne_of_lt hlt
  exact List.inj_on_of_nodup_map hn ht hu he

theorem Numbered.exists_of_popDue (h : Numbered q) {now : Nat} {t : Task α}
    (hq : q.popDue now = some (t, q')) : ∃ before after,
      q.tasks = before ++ t :: after ∧ q' = { q with tasks := before ++ after } := by
  have hm := (mem_of_popDue hq).1
  obtain ⟨u, -, he⟩ := Option.map_eq_some_iff.1 hq
  obtain ⟨rfl, rfl⟩ := Prod.mk.inj he
  obtain ⟨v, before, after, -, hv, hl, hx⟩ :=
    List.exists_of_eraseP (p := (·.handle == u.handle)) hm (by simp)
  have hvm : v ∈ q.tasks := by simp [hl]
  obtain rfl : v = u := h.eq_of_handle_eq hvm hm (by simpa using hv)
  exact ⟨before, after, hl, by rw [hx]⟩

theorem Numbered.perm_of_popDue (h : Numbered q) {now : Nat} {t : Task α}
    (hq : q.popDue now = some (t, q')) : (t :: q'.tasks).Perm q.tasks := by
  obtain ⟨before, after, hl, rfl⟩ := h.exists_of_popDue hq
  rw [hl]
  exact List.perm_middle.symm

theorem sublist_of_popDue {now : Nat} {t : Task α} (hq : q.popDue now = some (t, q')) :
    q'.tasks.Sublist q.tasks := by
  obtain ⟨u, -, he⟩ := Option.map_eq_some_iff.1 hq
  obtain ⟨rfl, rfl⟩ := Prod.mk.inj he
  exact List.eraseP_sublist

theorem Numbered.of_popDue (h : Numbered q) {now : Nat} {t : Task α}
    (hq : q.popDue now = some (t, q')) : Numbered q' :=
  h.sublist (sublist_of_popDue hq) (nextHandle_of_popDue hq)

theorem Numbered.perform (h : Numbered q) (op : Op α) : Numbered (q.perform op).2 := by
  cases op with
  | schedule due a => exact h.schedule due a
  | cancel handle => exact h.sublist List.filter_sublist rfl
  | cancelWhere p => exact h.sublist List.filter_sublist rfl
  | cancelAll => exact h.sublist (List.nil_sublist _) rfl
  | popDue now =>
    unfold Queue.perform
    dsimp only
    split
    · rename_i hq
      exact h.of_popDue hq
    · exact h

theorem Numbered.run (h : Numbered q) (ops : List (Op α)) : Numbered (q.run ops) := by
  induction ops generalizing q with
  | nil => exact h
  | cons op ops ih => exact ih (h.perform op)

theorem perm_of_tasks_eq_filter {op : Op α}
    (hq : (q.perform op).2.tasks = q.tasks.filter (!op.cancels ·))
    (ht : (q.event op).taken = []) (hs : (q.event op).scheduled = []) :
    ((q.perform op).2.tasks ++ ((q.event op).taken ++ (q.event op).cancelled)).Perm
      (q.tasks ++ (q.event op).scheduled) := by
  rw [hq, ht, hs, List.append_nil, List.nil_append]
  exact List.perm_append_comm.trans (List.filter_append_perm op.cancels q.tasks)

/-- What was pending before a call or is scheduled by it is pending, taken or cancelled after it. -/
theorem Numbered.perm_perform (h : Numbered q) (op : Op α) :
    ((q.perform op).2.tasks ++ ((q.event op).taken ++ (q.event op).cancelled)).Perm
      (q.tasks ++ (q.event op).scheduled) := by
  cases op with
  | schedule due a =>
    have hc : (q.event (.schedule due a)).cancelled = [] := by
      simp [event, Event.cancelled, Op.cancels]
    rw [hc]
    exact .of_eq (List.append_nil _)
  | cancel handle => exact perm_of_tasks_eq_filter rfl rfl rfl
  | cancelWhere p => exact perm_of_tasks_eq_filter rfl rfl rfl
  | cancelAll =>
    exact perm_of_tasks_eq_filter (by simp [Queue.perform, cancelAll, Op.cancels]) rfl rfl
  | popDue now =>
    have hc : (q.event (.popDue now)).cancelled = [] := by simp [event, Event.cancelled, Op.cancels]
    have hs : (q.event (.popDue now)).scheduled = [] := rfl
    rw [hc, hs, List.append_nil, List.append_nil]
    unfold event Queue.perform
    dsimp only
    cases hq : q.popDue now with
    | none => exact .of_eq (List.append_nil _)
    | some p => exact List.perm_append_comm.trans (h.perm_of_popDue hq)

theorem Numbered.perm_run (h : Numbered q) (ops : List (Op α)) :
    ((q.run ops).tasks ++ (q.taken ops ++ q.cancelled ops)).Perm (q.tasks ++ q.scheduled ops) := by
  induction ops generalizing q with
  | nil => exact .of_eq rfl
  | cons op ops ih =>
    have hs := Multiset.coe_eq_coe.2 (h.perm_perform op)
    have hr := Multiset.coe_eq_coe.2 (ih (h.perform op))
    rw [← Multiset.coe_eq_coe, run_cons, taken_cons, cancelled_cons, scheduled_cons]
    simp only [← Multiset.coe_add] at hs hr ⊢
    generalize (q.perform op).2 = r at hs hr ⊢
    calc ((r.run ops).tasks + ((q.event op).taken + r.taken ops +
            ((q.event op).cancelled + r.cancelled ops)) : Multiset (Task α))
        = (r.run ops).tasks + (r.taken ops + r.cancelled ops) +
            ((q.event op).taken + (q.event op).cancelled) := by abel
      _ = r.tasks + r.scheduled ops + ((q.event op).taken + (q.event op).cancelled) := by rw [hr]
      _ = r.tasks + ((q.event op).taken + (q.event op).cancelled) + r.scheduled ops := by abel
      _ = q.tasks + ((q.event op).scheduled + r.scheduled ops) := by rw [hs, add_assoc]

theorem nextHandle_perform (q : Queue α) (op : Op α) :
    (q.perform op).2.nextHandle = q.nextHandle + (q.event op).scheduled.length := by
  cases op with
  | popDue now =>
    unfold perform
    dsimp only
    split
    · rename_i hq
      exact nextHandle_of_popDue hq
    · rfl
  | _ => rfl

theorem nextHandle_run (q : Queue α) (ops : List (Op α)) :
    (q.run ops).nextHandle = q.nextHandle + (q.scheduled ops).length := by
  induction ops generalizing q with
  | nil => rfl
  | cons op ops ih =>
    rw [run_cons, ih, nextHandle_perform, scheduled_cons, List.length_append, Nat.add_assoc]

theorem handles_scheduled (q : Queue α) (ops : List (Op α)) :
    handles (q.scheduled ops) = List.range' q.nextHandle (q.scheduled ops).length := by
  induction ops generalizing q with
  | nil => rfl
  | cons op ops ih =>
    have hop : handles (q.event op).scheduled =
        List.range' q.nextHandle (q.event op).scheduled.length := by
      cases op <;> rfl
    rw [scheduled_cons, List.length_append, ← List.range'_append_1, ← nextHandle_perform, ← ih, ← hop]
    exact List.map_append

/-- Handles fit in 64 bits, and no two of them become one there, as long as fewer than `2 ^ 64` tasks
have been scheduled. -/
theorem handles_fit (ops : List (Op α)) (h : (scheduled {} ops).length < 2 ^ 64) :
    (run {} ops).nextHandle.toUInt64.toNat = (scheduled {} ops).length ∧
      ∀ t ∈ scheduled {} ops, t.handle.toUInt64.toNat = t.handle := by
  have hn : (run {} ops).nextHandle = (scheduled {} ops).length := by
    rw [nextHandle_run]
    exact Nat.zero_add _
  refine ⟨by rw [hn]; exact Nat.mod_eq_of_lt h, fun t ht => Nat.mod_eq_of_lt ?_⟩
  have hm := List.mem_map_of_mem (f := Task.handle) ht
  rw [← handles, handles_scheduled, List.mem_range'_1] at hm
  exact Nat.lt_trans (by simpa using hm.2) h

theorem nodup_handles_scheduled (q : Queue α) (ops : List (Op α)) :
    (handles (q.scheduled ops)).Nodup := by
  rw [handles_scheduled]
  exact List.nodup_range'

section

variable (ops : List (Op α))

theorem perm_scheduled : ((run {} ops).tasks ++ (taken {} ops ++ cancelled {} ops)).Perm
    (scheduled {} ops) :=
  numbered_empty.perm_run ops

theorem count_handles {n : Nat} (hn : n ∈ handles (scheduled {} ops)) :
    (handles (run {} ops).tasks).count n + (handles (taken {} ops)).count n +
      (handles (cancelled {} ops)).count n = 1 := by
  have hp := ((perm_scheduled ops).map Task.handle).count_eq n
  have hc := List.count_eq_one_of_mem (nodup_handles_scheduled {} ops) hn
  simp only [handles, List.map_append, List.count_append] at hp hc ⊢
  omega

theorem mem_handles_tasks {n : Nat} : n ∈ handles (run {} ops).tasks ↔
    n ∈ handles (scheduled {} ops) ∧ n ∉ handles (taken {} ops) ∧
      n ∉ handles (cancelled {} ops) := by
  constructor
  · intro hm
    have hs : n ∈ handles (scheduled {} ops) :=
      ((perm_scheduled ops).map Task.handle).subset (by simp_all [handles])
    have hc := count_handles ops hs
    have hpos := List.count_pos_iff.2 hm
    refine ⟨hs, List.count_eq_zero.1 ?_, List.count_eq_zero.1 ?_⟩ <;> omega
  · rintro ⟨hs, ht, hc⟩
    have h1 := count_handles ops hs
    rw [List.count_eq_zero.2 ht, List.count_eq_zero.2 hc] at h1
    exact List.count_pos_iff.1 (by omega)

theorem handle_ne_of_cancelled {t u : Task α} (ht : t ∈ cancelled {} ops) (more : List (Op α))
    (hu : u ∈ taken {} (ops ++ more)) : u.handle ≠ t.handle := by
  have hn : (handles ((run {} (ops ++ more)).tasks ++
      (taken {} (ops ++ more) ++ cancelled {} (ops ++ more)))).Nodup :=
    ((perm_scheduled (ops ++ more)).map Task.handle).nodup_iff.2 (nodup_handles_scheduled {} _)
  have hc : t ∈ cancelled {} (ops ++ more) := by
    rw [cancelled_append]
    exact List.mem_append_left _ ht
  rw [handles, List.map_append, List.map_append, List.nodup_append] at hn
  exact (List.nodup_append.1 hn.2.1).2.2 _ (List.mem_map_of_mem hu) _ (List.mem_map_of_mem hc)

theorem length_cancelled_of_count {op : Op α} {n : Nat} (h : (q.perform op).1 = .count n) :
    (q.event op).cancelled.length = n := by
  cases op with
  | cancelWhere p =>
    rw [← Answer.count.inj h, cancelWhere, List.countP_eq_length_filter]
    rfl
  | cancelAll =>
    rw [← Answer.count.inj h]
    simp [event, Event.cancelled, Op.cancels, cancelAll, size]
  | popDue now =>
    unfold perform at h
    dsimp only at h
    split at h <;> cases h
  | _ => cases h

end

/-- However a new queue is used, its tasks have handles of their own, and at any time each task that
was scheduled is either pending or was taken once, with the due time and the payload that it was
scheduled with, or was cancelled once. What is taken or cancelled stays so, and no task is taken
after it was cancelled. To cancel a task succeeds just while it is pending, calls that count what
they cancel count right, and the size is the number of tasks that are pending. -/
theorem tasks_have_one_fate (ops : List (Op α)) :
    let q := run {} ops
    let scheduled := scheduled {} ops
    let taken := taken {} ops
    let cancelled := cancelled {} ops
    (handles scheduled).Nodup ∧
    (q.tasks ++ (taken ++ cancelled)).Perm scheduled ∧
    (∀ n ∈ handles scheduled, (handles q.tasks).count n + (handles taken).count n +
      (handles cancelled).count n = 1) ∧
    (∀ more, taken <+: Queue.taken {} (ops ++ more) ∧
      cancelled <+: Queue.cancelled {} (ops ++ more) ∧
      ∀ t ∈ cancelled, ∀ u ∈ Queue.taken {} (ops ++ more), u.handle ≠ t.handle) ∧
    (∀ n, (q.cancel n).1 = true ↔
      n ∈ handles scheduled ∧ n ∉ handles taken ∧ n ∉ handles cancelled) ∧
    (∀ op n, (q.perform op).1 = .count n →
      (Queue.cancelled {} (ops ++ [op])).length = cancelled.length + n) ∧
    q.size + taken.length + cancelled.length = scheduled.length := by
  intro q scheduled taken cancelled
  refine ⟨nodup_handles_scheduled {} ops, perm_scheduled ops, fun n => count_handles ops,
    fun more => ⟨?_, ?_, fun t ht u => handle_ne_of_cancelled ops ht more⟩, fun n => ?_,
    fun op n h => ?_, ?_⟩
  · rw [taken_append]
    exact List.prefix_append _ _
  · rw [cancelled_append]
    exact List.prefix_append _ _
  · have hc : (q.cancel n).1 = true ↔ n ∈ handles q.tasks := by simp [cancel, handles]
    exact hc.trans (mem_handles_tasks ops)
  · rw [cancelled_append, List.length_append, cancelled_cons, List.length_append,
      length_cancelled_of_count h]
    rfl
  · have hl := (perm_scheduled ops).length_eq
    rw [List.length_append, List.length_append] at hl
    rw [← hl, Nat.add_assoc]
    rfl

end SerialNovel.Queue
