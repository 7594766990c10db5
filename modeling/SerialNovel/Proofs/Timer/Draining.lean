import SerialNovel.Proofs.Timer.Fates

namespace SerialNovel.Queue

variable {α : Type}

/-- Takes what is due at `now` until nothing is. The tasks stand in the order in which they are
taken, beside the queue after that. -/
def drain (now : Nat) (q : Queue α) : List (Task α) × Queue α :=
  match _h : q.popDue now with
  | none => ([], q)
  | some (t, q') => (t :: (drain now q').1, (drain now q').2)
termination_by q.size
decreasing_by all_goals exact Nat.lt_of_succ_le (Nat.le_of_eq (size_of_popDue _h))

variable {q q' : Queue α} {now later : Nat} {t u : Task α}

theorem drain_some (h : q.popDue now = some (t, q')) :
    q.drain now = (t :: (q'.drain now).1, (q'.drain now).2) := by
  rw [drain]
  split
  · simp_all
  · simp_all

/-- To drain a queue is to call `popDue` a number of times, after which it returns nothing. -/
theorem exists_run_popDue (now : Nat) (q : Queue α) :
    (q.drain now).2.popDue now = none ∧ ∃ n,
      q.taken (List.replicate n (.popDue now)) = (q.drain now).1 ∧
        q.run (List.replicate n (.popDue now)) = (q.drain now).2 := by
  fun_induction drain now q with
  | case1 q h => exact ⟨h, 0, rfl, rfl⟩
  | case2 q t q' h ih =>
    obtain ⟨hn, n, ht, hr⟩ := ih
    have hp : q.perform (.popDue now) = (.taken (some t), q') := by simp [perform, h]
    refine ⟨hn, n + 1, ?_, ?_⟩
    · rw [List.replicate_succ, taken_cons, event, hp, ht]
      rfl
    · rw [List.replicate_succ, run_cons, hp, hr]

theorem not_before_of_earliest? {ts : List (Task α)} (h : earliest? ts = some t) (hu : u ∈ ts) :
    ¬ Task.before u t := by
  induction ts generalizing t with
  | nil => cases hu
  | cons v ts ih =>
    unfold earliest? at h
    cases he : earliest? ts with
    | none =>
      rw [he] at h
      obtain rfl : v = t := Option.some.inj h
      obtain rfl : u = v := by simpa [earliest?_eq_none.1 he] using hu
      rw [before_iff]
      omega
    | some w =>
      rw [he] at h
      have ih := ih he
      simp only [before_iff] at ih h ⊢
      -- the first task is compared with the earliest of the others
      split at h
      · obtain rfl := Option.some.inj h
        rcases List.mem_cons.1 hu with rfl | hu
        · omega
        · exact ih hu
      · obtain rfl := Option.some.inj h
        rcases List.mem_cons.1 hu with rfl | hu
        · omega
        · have := ih hu
          omega

theorem Numbered.before_of_popDue (h : Numbered q) (hq : q.popDue now = some (t, q'))
    (hu : u ∈ q'.tasks) (hd : u.due ≤ now) : Task.before t u := by
  have hn : (t :: q'.tasks).Pairwise (·.handle ≠ ·.handle) :=
    (h.perm_of_popDue hq).pairwise_iff (fun hne => hne.symm) |>.2
      (h.ascending.imp fun hlt => Nat.ne_of_lt hlt)
  have hne : t.handle ≠ u.handle := List.rel_of_pairwise_cons hn hu
  have hm : u ∈ q.tasks.filter (·.due ≤ now) :=
    List.mem_filter.2 ⟨(mem_of_popDue hq).2.2 hu, by simpa using hd⟩
  obtain ⟨v, hv, he⟩ := Option.map_eq_some_iff.1 hq
  obtain rfl : v = t := (Prod.mk.inj he).1
  have hb := not_before_of_earliest? hv hm
  rw [before_iff] at hb ⊢
  omega

theorem Numbered.perm_drain (h : Numbered q) (now : Nat) :
    (q.drain now).1.Perm (q.tasks.filter (·.due ≤ now)) := by
  fun_induction drain now q with
  | case1 q hq =>
    have hf : q.tasks.filter (·.due ≤ now) = [] :=
      List.filter_eq_nil_iff.2 fun t ht => by simpa using popDue_eq_none.1 hq t ht
    rw [hf]
  | case2 q t q' hq ih =>
    have ht : t.due ≤ now := (mem_of_popDue hq).2.1
    have hp := (h.perm_of_popDue hq).filter (·.due ≤ now)
    rw [List.filter_cons_of_pos (by simpa using ht)] at hp
    exact ((ih (h.of_popDue hq)).cons t).trans hp

theorem Numbered.drain_snd (h : Numbered q) (now : Nat) :
    (q.drain now).2 = { q with tasks := q.tasks.filter (now < ·.due) } := by
  fun_induction drain now q with
  | case1 q hq =>
    have hf : q.tasks.filter (now < ·.due) = q.tasks :=
      List.filter_eq_self.2 fun t ht => by simpa using popDue_eq_none.1 hq t ht
    rw [hf]
  | case2 q t q' hq ih =>
    have ht : ¬ now < t.due := Nat.not_lt.2 (mem_of_popDue hq).2.1
    obtain ⟨before, after, hl, he⟩ := h.exists_of_popDue hq
    dsimp only
    rw [ih (h.of_popDue hq), he, hl]
    simp [ht]

theorem Numbered.mem_drain (h : Numbered q) : t ∈ (q.drain now).1 ↔ t ∈ q.tasks ∧ t.due ≤ now := by
  rw [(h.perm_drain now).mem_iff]
  simp

theorem Numbered.pairwise_drain (h : Numbered q) (now : Nat) :
    (q.drain now).1.Pairwise fun t u => Task.before t u := by
  fun_induction drain now q with
  | case1 => exact .nil
  | case2 q t q' hq ih =>
    refine .cons (fun u hu => ?_) (ih (h.of_popDue hq))
    obtain ⟨hm, hd⟩ := (h.of_popDue hq).mem_drain.1 hu
    exact h.before_of_popDue hq hm hd

/-- It does not matter whether some of the tasks are taken at an earlier time. -/
theorem drain_drain (hl : now ≤ later) (q : Queue α) :
    q.drain later = ((q.drain now).1 ++ ((q.drain now).2.drain later).1,
      ((q.drain now).2.drain later).2) := by
  fun_induction drain now q with
  | case1 => rfl
  | case2 q t q' hq ih => rw [drain_some (popDue_of_le hl hq), ih, List.cons_append]

theorem popDue_isSome_iff : (q.popDue now).isSome ↔ ∃ d, q.nextDeadline = some d ∧ d ≤ now := by
  constructor
  · intro h
    obtain ⟨⟨t, q'⟩, hq⟩ := Option.isSome_iff_exists.1 h
    obtain ⟨hm, hd, -⟩ := mem_of_popDue hq
    have hm : t.due ∈ q.tasks.map (·.due) := List.mem_map_of_mem hm
    obtain ⟨d, hmin⟩ := Option.isSome_iff_exists.1 (List.isSome_min?_of_mem hm)
    exact ⟨d, hmin, Nat.le_trans ((List.min?_eq_some_iff.1 hmin).2 _ hm) hd⟩
  · rintro ⟨d, hd, hl⟩
    obtain ⟨p, hp⟩ := Option.isSome_iff_exists.1 (popDue_nextDeadline_isSome hd)
    rw [popDue_of_le hl hp]
    rfl

theorem sublist_scheduled {ops : List (Op α)} (ht : t ∈ scheduled {} ops)
    (hu : u ∈ scheduled {} ops) (hlt : t.handle < u.handle) :
    [t, u].Sublist (scheduled {} ops) := by
  have hs : (scheduled {} ops).Pairwise (·.handle < ·.handle) := by
    have hr : (handles (scheduled {} ops)).Pairwise (· < ·) := by
      rw [handles_scheduled]
      exact List.pairwise_lt_range'
    exact List.pairwise_map.1 hr
  obtain ⟨before, after, hl⟩ := List.append_of_mem ht
  rw [hl] at hs hu ⊢
  have hm : u ∈ after := by
    rcases List.mem_append.1 hu with hm | hm
    · have := (List.pairwise_append.1 hs).2.2 u hm t List.mem_cons_self
      omega
    · refine (List.mem_cons.1 hm).resolve_left ?_
      rintro rfl
      omega
  exact ((List.singleton_sublist.2 hm).cons_cons t).trans (List.sublist_append_right before _)

/-- However a new queue was used, draining it is a run of calls that ends when nothing is due. It
takes just the pending tasks that are due, sorted by their due times and those due together in the
order in which they were scheduled, and leaves the other tasks as they are. Some of them may be
taken at an earlier time: then the rest follows later, in the same order and with the same queue at
the end. Something is due just if the next deadline is not in the future. -/
theorem drain_run (ops : List (Op α)) (hl : now ≤ later) :
    let q := run {} ops
    let taken := (q.drain now).1
    let rest := (q.drain now).2
    (rest.popDue now = none ∧ ∃ n, q.taken (List.replicate n (.popDue now)) = taken ∧
      q.run (List.replicate n (.popDue now)) = rest) ∧
    taken.Perm (q.tasks.filter (·.due ≤ now)) ∧
    (taken.Pairwise fun t u =>
      t.due < u.due ∨ t.due = u.due ∧ [t, u].Sublist (scheduled {} ops)) ∧
    rest = { q with tasks := q.tasks.filter (now < ·.due) } ∧
    q.drain later = (taken ++ (rest.drain later).1, (rest.drain later).2) ∧
    ((q.popDue now).isSome ↔ ∃ d, q.nextDeadline = some d ∧ d ≤ now) := by
  intro q taken rest
  have h : Numbered q := numbered_empty.run ops
  have hs : ∀ t ∈ taken, t ∈ scheduled {} ops := fun t ht =>
    (perm_scheduled ops).subset (List.mem_append_left _ (h.mem_drain.1 ht).1)
  refine ⟨exists_run_popDue now q, h.perm_drain now, ?_, h.drain_snd now, drain_drain hl q,
    popDue_isSome_iff⟩
  refine (h.pairwise_drain now).imp_of_mem fun ht hu hb => ?_
  exact (before_iff.1 hb).imp_right fun hb => ⟨hb.1, sublist_scheduled (hs _ ht) (hs _ hu) hb.2⟩

/-- Of four tasks one is cancelled and two are due together at 30. What is due at 40 is left then
and taken later. -/
theorem drain_run_twice :
    let ops : List (Op Char) := [.schedule 30 'b', .schedule 40 'd', .schedule 10 'x',
      .schedule 30 'c', .cancel 2]
    30 ≤ 40 ∧
      ((run {} ops).drain 30).1.Perm [⟨0, 30, 'b'⟩, ⟨3, 30, 'c'⟩] ∧
      ((run {} ops).drain 30).2.tasks = [⟨1, 40, 'd'⟩] ∧
      ((run {} ops).drain 40).1 =
        ((run {} ops).drain 30).1 ++ (((run {} ops).drain 30).2.drain 40).1 := by
  intro ops
  have hl : 30 ≤ 40 := by decide
  obtain ⟨-, hp, -, hr, hd, -⟩ := drain_run ops hl
  exact ⟨hl, hp, congrArg Queue.tasks hr, congrArg Prod.fst hd⟩

end SerialNovel.Queue
