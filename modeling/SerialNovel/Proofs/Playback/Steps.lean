import SerialNovel.Playback.State
import Mathlib.Logic.Relation

namespace SerialNovel

theorem later_le (now delay : Nat) : later now delay ≤ clockLimit := Nat.min_le_right _ _

theorem le_later {now : Nat} (h : now ≤ clockLimit) (delay : Nat) : now ≤ later now delay :=
  Nat.le_min.2 ⟨Nat.le_add_right _ _, h⟩

theorem toNat_le_clockLimit (t : UInt64) : t.toNat ≤ clockLimit :=
  Nat.le_of_lt_succ t.toNat_lt

namespace Playback

/-- What the timers that fire in a tick to `now` lead to. -/
def Fires (now : Nat) : Playback → Playback → Prop :=
  Relation.ReflTransGen fun s s' => s.fire? now = some s'

theorem fire?_eq_some {now : Nat} {s s' : Playback} :
    s.fire? now = some s' ↔ ∃ task q, s.timers.popDue now = some (task, q) ∧
      s' = act { s with timers := q, now := max s.now task.due } task.payload := by
  simp only [fire?, Option.map_eq_some_iff, Prod.exists]
  constructor
  · rintro ⟨task, q, hq, rfl⟩
    exact ⟨task, q, hq, rfl⟩
  · rintro ⟨task, q, hq, rfl⟩
    exact ⟨task, q, hq, rfl⟩

@[simp] theorem now_armAuto (s : Playback) : s.armAuto.now = s.now := by
  unfold armAuto
  split <;> rfl

@[simp] theorem now_finishReveal (s : Playback) : s.finishReveal.now = s.now := now_armAuto _

@[simp] theorem now_enter (s : Playback) : s.enter.now = s.now := by
  unfold enter
  dsimp only
  split
  · exact now_finishReveal _
  · rfl

@[simp] theorem now_advance (s : Playback) : s.advance.now = s.now := by
  unfold advance
  split
  · exact now_finishReveal _
  · dsimp only
    split
    · exact now_enter _
    · rfl
  · rfl

@[simp] theorem now_toggleAuto (s : Playback) : s.toggleAuto.now = s.now := by
  unfold toggleAuto
  split
  · rfl
  · split
    · rfl
    · dsimp only
      split
      · exact now_advance _
      · rfl

@[simp] theorem now_typewriterStep (s : Playback) : s.typewriterStep.now = s.now := by
  unfold typewriterStep
  split
  · dsimp only
    split
    · exact now_finishReveal _
    · rfl
  · rfl

@[simp] theorem now_act (s : Playback) (t : StageTimer) : (s.act t).now = s.now := by
  cases t with
  | typewriter => exact now_typewriterStep s
  | autoAdvance => exact now_advance s

theorem now_le_of_fires {now : Nat} {s s' : Playback} (hs : s.now ≤ now) (h : Fires now s s') :
    s'.now ≤ now := by
  induction h with
  | refl => exact hs
  | tail _ hf ih =>
    obtain ⟨task, q, hq, rfl⟩ := fire?_eq_some.1 hf
    rw [now_act]
    exact Nat.max_le.2 ⟨ih, (Queue.mem_of_popDue hq).2.1⟩

theorem fires_fireAll (now fired : Nat) (s : Playback) :
    Fires now s (s.fireAll now fired).1 ∧ (s.fireAll now fired).1.fire? now = none := by
  fun_induction fireAll now fired s with
  | case1 _ _ h => exact ⟨.refl, h⟩
  | case2 _ _ _ h ih => exact ⟨.head h ih.1, ih.2⟩

theorem tick_of_fire?_none {now : Nat} {s : Playback} (h : s.fire? now = none) :
    s.tick now = ({ s with now := max s.now now }, 0) := by
  simp only [tick, fireAll_none h]

/-- A property that every step keeps: a call of the host that does not move the clock, a timer that
fires, and the clock once nothing more is due. -/
structure Kept (P : Playback → Prop) : Prop where
  advance : ∀ {s}, P s → P s.advance
  toggleAuto : ∀ {s}, P s → P s.toggleAuto
  fire : ∀ {now s s'}, P s → s.fire? now = some s' → P s'
  moveClock : ∀ {now s}, P s → now ≤ clockLimit → s.fire? now = none →
    P { s with now := max s.now now }

namespace Kept

variable {P : Playback → Prop}

theorem fires (k : Kept P) {now : Nat} {s s' : Playback} (hs : P s) (h : Fires now s s') : P s' := by
  induction h with
  | refl => exact hs
  | tail _ hf ih => exact k.fire ih hf

theorem tick (k : Kept P) {s : Playback} (hs : P s) (now : UInt64) : P (s.tick now.toNat).1 := by
  obtain ⟨hf, hn⟩ := fires_fireAll now.toNat 0 s
  exact k.moveClock (k.fires hs hf) (toNat_le_clockLimit now) hn

theorem apply (k : Kept P) {s : Playback} (hs : P s) {op : Op}
    (hc : op = .cancelTimers → P s.cancelTimers) : P (s.apply op) := by
  cases op with
  | advance => exact k.advance hs
  | advanceAt now => exact k.advance (k.tick hs now)
  | toggleAuto => exact k.toggleAuto hs
  | toggleAutoAt now => exact k.toggleAuto (k.tick hs now)
  | tick now => exact k.tick hs now
  | cancelTimers => exact hc rfl

theorem run (k : Kept P) {ops : List Op}
    (hc : .cancelTimers ∈ ops → ∀ {s}, P s → P s.cancelTimers) {s : Playback} (hs : P s) :
    P (s.run ops) := by
  -- only a run that cancels timers has to keep `P` there
  induction ops generalizing s with
  | nil => exact hs
  | cons op ops ih =>
    apply ih (fun h => hc (List.mem_cons_of_mem _ h))
    apply k.apply hs
    rintro rfl
    exact hc List.mem_cons_self hs

end Kept

end Playback

end SerialNovel
