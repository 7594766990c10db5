namespace SerialNovel

/-- A scheduled task. Its handle tells when it was scheduled. -/
structure Task (α : Type) where
  handle : Nat
  due : Nat
  payload : α
  deriving DecidableEq, Repr

/-- The tasks in the order in which they were scheduled, and how many have been. That number does not
outgrow 64 bits before `2 ^ 64` calls of `schedule`. -/
structure Queue (α : Type) where
  tasks : List (Task α) := []
  nextHandle : Nat := 0
  deriving DecidableEq, Repr

namespace Queue

variable {α : Type}

/-- The new task has the handle `q.nextHandle`. -/
def schedule (q : Queue α) (due : Nat) (payload : α) : Queue α :=
  ⟨q.tasks ++ [⟨q.nextHandle, due, payload⟩], q.nextHandle + 1⟩

def size (q : Queue α) : Nat := q.tasks.length

def isEmpty (q : Queue α) : Bool := q.tasks.isEmpty

/-- Removes the task with a handle, and says whether it was there. -/
def cancel (q : Queue α) (handle : Nat) : Bool × Queue α :=
  (q.tasks.any (·.handle == handle), { q with tasks := q.tasks.filter (·.handle != handle) })

def cancelWhere (q : Queue α) (p : α → Bool) : Nat × Queue α :=
  (q.tasks.countP (p ·.payload), { q with tasks := q.tasks.filter (!p ·.payload) })

def cancelAll (q : Queue α) : Nat × Queue α := (q.size, { q with tasks := [] })

def Task.before (t u : Task α) : Bool :=
  t.due < u.due || (t.due == u.due && t.handle < u.handle)

def earliest? : List (Task α) → Option (Task α)
  | [] => none
  | t :: ts =>
    match earliest? ts with
    | none => some t
    | some u => if Task.before u t then some u else some t

/-- Takes the earliest task that is due at `now`. -/
def popDue (q : Queue α) (now : Nat) : Option (Task α × Queue α) :=
  (earliest? (q.tasks.filter (·.due ≤ now))).map fun t =>
    (t, { q with tasks := q.tasks.eraseP (·.handle == t.handle) })

def nextDeadline (q : Queue α) : Option Nat := (q.tasks.map (·.due)).min?

@[simp] theorem size_schedule (q : Queue α) (due : Nat) (a : α) :
    (q.schedule due a).size = q.size + 1 := by
  simp [schedule, size]

@[simp] theorem size_cancelAll (q : Queue α) : q.cancelAll.2.size = 0 := rfl

theorem size_cancelWhere_le (q : Queue α) (p : α → Bool) : (q.cancelWhere p).2.size ≤ q.size :=
  List.length_filter_le ..

theorem mem_of_earliest? {ts : List (Task α)} {t : Task α} (h : earliest? ts = some t) :
    t ∈ ts := by
  induction ts generalizing t with
  | nil => simp [earliest?] at h
  | cons u us ih =>
    unfold earliest? at h
    split at h
    · simp_all
    · rename_i v hv
      split at h
      · have := ih hv
        simp_all
      · simp_all

theorem earliest?_isSome {ts : List (Task α)} : (earliest? ts).isSome ↔ ts ≠ [] := by
  cases ts with
  | nil => simp [earliest?]
  | cons t ts =>
    unfold earliest?
    split
    · simp
    · split <;> simp

theorem earliest?_eq_none {ts : List (Task α)} : earliest? ts = none ↔ ts = [] := by
  rw [← Option.not_isSome_iff_eq_none, earliest?_isSome]
  exact Decidable.not_not

theorem before_iff {t u : Task α} :
    Task.before t u ↔ t.due < u.due ∨ t.due = u.due ∧ t.handle < u.handle := by
  simp [Task.before]

theorem due_le_of_before {t u : Task α} (h : Task.before t u) : t.due ≤ u.due := by
  rw [before_iff] at h
  omega

theorem due_le_of_not_before {t u : Task α} (h : ¬ Task.before t u) : u.due ≤ t.due := by
  rw [before_iff] at h
  omega

/-- Of the tasks that are due, the earliest is the earliest of all. -/
theorem earliest?_filter (now : Nat) (ts : List (Task α)) :
    earliest? (ts.filter (·.due ≤ now)) = (earliest? ts).filter (·.due ≤ now) := by
  induction ts with
  | nil => rfl
  | cons a ts ih =>
    by_cases ha : a.due ≤ now
    · rw [List.filter_cons_of_pos (by simpa using ha), earliest?, earliest?, ih]
      cases earliest? ts with
      | none => simp [Option.filter_some, ha]
      | some u =>
        by_cases hu : u.due ≤ now
        · by_cases hb : Task.before u a <;> simp [Option.filter_some, ha, hu, hb]
        · -- a task that is not due yet cannot be before `a`
          have hb : ¬ Task.before u a := fun hb => hu (Nat.le_trans (due_le_of_before hb) ha)
          simp [Option.filter_some, ha, hu, hb]
    · rw [List.filter_cons_of_neg (by simpa using ha), earliest?, ih]
      cases earliest? ts with
      | none => simp [Option.filter_some, ha]
      | some u =>
        by_cases hb : Task.before u a
        · simp [hb]
        · -- and one that is not before `a` is not due yet
          have hu : ¬ u.due ≤ now := fun hu => ha (Nat.le_trans (due_le_of_not_before hb) hu)
          simp [Option.filter_some, ha, hu, hb]

theorem size_of_popDue {q q' : Queue α} {now : Nat} {t : Task α}
    (h : q.popDue now = some (t, q')) : q'.size + 1 = q.size := by
  obtain ⟨u, hu, he⟩ := Option.map_eq_some_iff.1 h
  have hm : u ∈ q.tasks := (List.mem_filter.1 (mem_of_earliest? hu)).1
  simp only [Prod.mk.injEq] at he
  obtain ⟨rfl, rfl⟩ := he
  have hl := List.length_eraseP_of_mem (p := (·.handle == u.handle)) hm (by simp)
  have := List.length_pos_of_mem hm
  simp only [size, hl]
  omega

/-- What is taken was due, and all that is left was there before. -/
theorem mem_of_popDue {q q' : Queue α} {now : Nat} {t : Task α}
    (h : q.popDue now = some (t, q')) : t ∈ q.tasks ∧ t.due ≤ now ∧ q'.tasks ⊆ q.tasks := by
  obtain ⟨u, hu, he⟩ := Option.map_eq_some_iff.1 h
  simp only [Prod.mk.injEq] at he
  obtain ⟨rfl, rfl⟩ := he
  have hm := List.mem_filter.1 (mem_of_earliest? hu)
  exact ⟨hm.1, of_decide_eq_true hm.2, List.eraseP_subset⟩

theorem nextHandle_of_popDue {q q' : Queue α} {now : Nat} {t : Task α}
    (h : q.popDue now = some (t, q')) : q'.nextHandle = q.nextHandle := by
  obtain ⟨u, -, he⟩ := Option.map_eq_some_iff.1 h
  simp only [Prod.mk.injEq] at he
  rw [← he.2]

/-- What is taken at one time would be taken at any later time. -/
theorem popDue_of_le {q q' : Queue α} {t : Task α} {now later : Nat} (hl : now ≤ later)
    (h : q.popDue now = some (t, q')) : q.popDue later = some (t, q') := by
  obtain ⟨u, hu, he⟩ := Option.map_eq_some_iff.1 h
  rw [earliest?_filter, Option.filter_eq_some_iff, decide_eq_true_iff] at hu
  rw [popDue, earliest?_filter, hu.1, Option.filter_some, if_pos (by simpa using Nat.le_trans hu.2 hl),
    Option.map_some, he]

theorem popDue_eq_none {q : Queue α} {now : Nat} :
    q.popDue now = none ↔ ∀ t ∈ q.tasks, now < t.due := by
  rw [popDue, Option.map_eq_none_iff, earliest?_eq_none]
  simp

/-- Something is due at the next deadline. -/
theorem popDue_nextDeadline_isSome {q : Queue α} {d : Nat} (h : q.nextDeadline = some d) :
    (q.popDue d).isSome := by
  have hm := List.min?_mem h
  obtain ⟨t, ht, hd⟩ := List.mem_map.1 hm
  simp only [popDue, Option.isSome_map, earliest?_isSome]
  exact List.ne_nil_of_mem (List.mem_filter.2 ⟨ht, by simp [hd]⟩)

end Queue

end SerialNovel
