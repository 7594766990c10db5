import SerialNovel.Proofs.Playback.Steps

namespace SerialNovel.Playback

/-- Ticks at each time in turn, and counts the timers that fire. -/
def ticks (s : Playback) : List Nat → Playback × Nat
  | [] => (s, 0)
  | t :: ts =>
    let p := s.tick t
    let q := p.1.ticks ts
    (q.1, p.2 + q.2)

/-- Ticks from deadline to deadline up to `limit` and then at `limit`, and counts the timers. -/
def ticksUpTo (limit : Nat) (s : Playback) : Playback × Nat :=
  match _h : s.nextDeadline with
  | none => s.tick limit
  | some d =>
    if d ≤ limit then
      let p := s.tick d
      let q := p.1.ticksUpTo limit
      (q.1, p.2 + q.2)
    else s.tick limit
termination_by s.work
decreasing_by exact work_tick_lt _h

variable {s : Playback} {t u : Nat}

theorem fire?_of_le {s' : Playback} (htu : t ≤ u) (h : s.fire? t = some s') :
    s.fire? u = some s' := by
  obtain ⟨task, q, hq, rfl⟩ := fire?_eq_some.1 h
  exact fire?_eq_some.2 ⟨task, q, Queue.popDue_of_le htu hq, rfl⟩

theorem fire?_none_of_le (htu : u ≤ t) (h : s.fire? t = none) : s.fire? u = none := by
  cases hu : s.fire? u with
  | none => rfl
  | some s' => simp [fire?_of_le htu hu] at h

theorem fire?_moveClock (h : s.fire? t = none) :
    fire? u { s with now := max s.now t } = s.fire? u := by
  have hd := Queue.popDue_eq_none.1 (Option.map_eq_none_iff.1 h)
  refine Option.map_congr ?_
  rintro ⟨task, q⟩ hq
  have := hd task (Queue.mem_of_popDue hq).1
  have hn : max (max s.now t) task.due = max s.now task.due := by omega
  simp only [hn]

theorem fireAll_add (t base fired : Nat) (s : Playback) :
    s.fireAll t (base + fired) = ((s.fireAll t fired).1, base + (s.fireAll t fired).2) := by
  fun_induction fireAll t fired s with
  | case1 _ _ h => exact fireAll_none h
  | case2 fired _ _ h ih => rw [fireAll_some h, Nat.add_assoc, ih]

theorem fireAll_fireAll (htu : t ≤ u) (fired : Nat) (s : Playback) :
    (s.fireAll t fired).1.fireAll u (s.fireAll t fired).2 = s.fireAll u fired := by
  fun_induction fireAll t fired s with
  | case1 => rfl
  | case2 _ _ _ h ih => rw [ih, fireAll_some (fire?_of_le htu h)]

theorem tick_moveClock (htu : t ≤ u) (h : s.fire? t = none) :
    tick u { s with now := max s.now t } = s.tick u := by
  have hf := fire?_moveClock (u := u) h
  cases hu : s.fire? u with
  | none =>
    have hn : max (max s.now t) u = max s.now u := by omega
    rw [tick_of_fire?_none hu, tick_of_fire?_none (hf.trans hu)]
    simp only [hn]
  | some s' => rw [tick, tick, fireAll_some hu, fireAll_some (hf.trans hu)]

/-- A tick after a tick is the tick to the later of both times, and fires the rest of its timers. -/
theorem tick_tick (s : Playback) (t u : Nat) :
    ((s.tick t).1.tick u).1 = (s.tick (max t u)).1 ∧
      (s.tick t).2 + ((s.tick t).1.tick u).2 = (s.tick (max t u)).2 := by
  have hn := (fires_fireAll t 0 s).2
  rcases Nat.le_total t u with htu | hut
  · have hs := fireAll_fireAll htu 0 s
    have ha := fireAll_add u (s.fireAll t 0).2 0 (s.fireAll t 0).1
    rw [Nat.add_zero, hs] at ha
    have hm : (s.tick t).1.tick u = (s.fireAll t 0).1.tick u := tick_moveClock htu hn
    rw [Nat.max_eq_right htu, hm]
    simp only [tick, ha, and_self]
  · -- nothing is due at the earlier time any more, and the clock is past it
    have hu : fire? u (s.tick t).1 = none :=
      (fire?_moveClock hn).trans (fire?_none_of_le hut hn)
    have hc : max (s.tick t).1.now u = (s.tick t).1.now := by
      simp only [tick]
      omega
    rw [Nat.max_eq_left hut, tick_of_fire?_none hu, hc]
    exact ⟨rfl, Nat.add_zero _⟩

theorem ticks_cons (s : Playback) (t : Nat) (ts : List Nat) :
    s.ticks (t :: ts) = s.tick ((t :: ts).max (List.cons_ne_nil t ts)) := by
  induction ts generalizing s t with
  | nil => simp [ticks, List.max]
  | cons u ts ih =>
    obtain ⟨hs, hf⟩ := tick_tick s t u
    calc s.ticks (t :: u :: ts)
        = s.ticks (max t u :: ts) := by simp only [ticks, hs, ← hf, Nat.add_assoc]
      _ = s.tick ((t :: u :: ts).max (List.cons_ne_nil t (u :: ts))) := ih s (max t u)

theorem ticksUpTo_eq_tick (limit : Nat) (s : Playback) : s.ticksUpTo limit = s.tick limit := by
  fun_induction ticksUpTo limit s with
  | case1 => rfl
  | case2 s d _ hd p q ih =>
    obtain ⟨hs, hf⟩ := tick_tick s d limit
    rw [Nat.max_eq_right hd] at hs hf
    simp only [q, p, ih, hs, hf]
  | case3 => rfl

/-- In whatever state a host ticks and however often, it gets the same state and the same timers:
ticks at some times, in any order, are the tick at the latest of them, and ticks from deadline to
deadline lead to the tick at the time where they end. -/
theorem tick_cadence (s : Playback) :
    (∀ t ts, s.ticks (t :: ts) = s.tick ((t :: ts).max (List.cons_ne_nil t ts))) ∧
    ∀ limit, s.ticksUpTo limit = s.tick limit :=
  ⟨ticks_cons s, fun limit => ticksUpTo_eq_tick limit s⟩

end SerialNovel.Playback
