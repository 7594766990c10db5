import SerialNovel.Proofs.Playback.RunOut
import Mathlib.Data.Prod.Lex

namespace SerialNovel

/-- The order in which a node passes its phases. -/
def Phase.rank : Phase → Nat
  | revealing => 0
  | waiting => 1
  | ended => 2

namespace Playback

/-- How far playback has come: to which node, phase and character. -/
def progress (s : Playback) : ℕ ×ₗ ℕ ×ₗ ℕ := toLex (s.cursor, toLex (s.phase.rank, s.revealed))

def Shown (s : Playback) : Prop :=
  s.phase ≠ .revealing ∧ s.revealed = s.displayLen ∧ s.revealedText = s.current.displayText

/-- The node on stage stays, or it is fully shown and the next one follows. -/
def GoesTo (s s' : Playback) : Prop :=
  s'.cursor = s.cursor ∨ s'.cursor = s.cursor + 1 ∧ s.Shown

/-- How many advances a node takes: one to complete its reveal, unless it shows at once, and one to
leave it. -/
def nodeCalls (n : Node) : Nat :=
  if n.isImage || Text.contains "[[".toList n.rawText || n.displayText.isEmpty then 1 else 2

def nodesCalls : List Node → Nat
  | [] => 0
  | n :: ns => nodeCalls n + nodesCalls ns

/-- How many advances are left until playback ends. -/
def callsLeft (s : Playback) : Nat :=
  match s.phase with
  | .revealing => 2 + nodesCalls s.upcoming
  | .waiting => 1 + nodesCalls s.upcoming
  | .ended => 0

variable {ns : List Node} {s s' : Playback} {now : Nat}

theorem progress_le_of_cursor (h : s.cursor < s'.cursor) : s.progress ≤ s'.progress :=
  Prod.Lex.toLex_le_toLex.2 (.inl h)

theorem progress_le_of_rank (hc : s.cursor = s'.cursor) (h : s.phase.rank < s'.phase.rank) :
    s.progress ≤ s'.progress :=
  Prod.Lex.toLex_le_toLex.2 (.inr ⟨hc, Prod.Lex.toLex_le_toLex.2 (.inl h)⟩)

theorem progress_le_of_revealed (hc : s.cursor = s'.cursor) (hp : s.phase = s'.phase)
    (h : s.revealed ≤ s'.revealed) : s.progress ≤ s'.progress := by
  have hr : s.phase.rank = s'.phase.rank := congrArg Phase.rank hp
  exact Prod.Lex.toLex_mono ⟨hc.le, Prod.Lex.toLex_mono ⟨hr.le, h⟩⟩

@[simp] theorem phase_armAuto (s : Playback) : s.armAuto.phase = s.phase := by
  unfold armAuto
  split <;> rfl

@[simp] theorem phase_finishReveal (s : Playback) : s.finishReveal.phase = .waiting :=
  phase_armAuto _

@[simp] theorem cursor_enter (s : Playback) : s.enter.cursor = s.cursor := by
  unfold enter
  dsimp only
  split
  · exact cursor_finishReveal _
  · rfl

theorem progress_le_finishReveal (hp : s.phase = .revealing) :
    s.progress ≤ s.finishReveal.progress := by
  refine progress_le_of_rank (cursor_finishReveal s).symm ?_
  rw [hp, phase_finishReveal]
  exact Nat.lt_succ_self 0

theorem progress_le_advance (s : Playback) : s.progress ≤ s.advance.progress := by
  cases hp : s.phase with
  | revealing =>
    rw [advance, hp]
    exact progress_le_finishReveal (s := s.cancelTimers) hp
  | waiting =>
    rw [advance, hp]
    dsimp only
    split
    · refine progress_le_of_cursor ?_
      rw [cursor_enter]
      exact Nat.lt_succ_self _
    · refine progress_le_of_rank rfl ?_
      rw [hp]
      exact Nat.lt_succ_self 1
  | ended => rw [advance, hp]

theorem progress_le_toggleAuto (s : Playback) : s.progress ≤ s.toggleAuto.progress := by
  unfold toggleAuto
  split
  · exact le_rfl
  · split
    · exact le_rfl
    · dsimp only
      split
      · exact progress_le_advance { s with auto := true }
      · exact le_rfl

theorem progress_le_typewriterStep (s : Playback) : s.progress ≤ s.typewriterStep.progress := by
  unfold typewriterStep
  split
  · rename_i hp
    have hs : s.progress ≤ { s with revealed := s.revealed + 1 }.progress :=
      progress_le_of_revealed rfl rfl (Nat.le_succ _)
    dsimp only
    split
    · exact hs.trans (progress_le_finishReveal hp)
    · exact hs
  · exact le_rfl

theorem progress_le_act (s : Playback) (t : StageTimer) : s.progress ≤ (s.act t).progress := by
  cases t with
  | typewriter => exact progress_le_typewriterStep s
  | autoAdvance => exact progress_le_advance s

theorem progress_le_fire (hf : s.fire? now = some s') : s.progress ≤ s'.progress := by
  obtain ⟨task, q, -, rfl⟩ := fire?_eq_some.1 hf
  exact progress_le_act { s with timers := q, now := max s.now task.due } task.payload

theorem kept_progress (s : Playback) : Kept fun s' => s.progress ≤ s'.progress where
  advance h := h.trans (progress_le_advance _)
  toggleAuto h := h.trans (progress_le_toggleAuto _)
  fire h hf := h.trans (progress_le_fire hf)
  moveClock h _ _ := h

theorem progress_le_apply (s : Playback) (op : Op) : s.progress ≤ (s.apply op).progress :=
  (kept_progress s).apply le_rfl fun _ => le_rfl

theorem Staged.isShown (h : Staged ns s) (hp : s.phase ≠ .revealing) : s.Shown := by
  have hr := h.shown hp
  refine ⟨hp, hr, ?_⟩
  rw [revealedText, hr, h.displayLen_eq, List.take_length, h.display_eq]

theorem Staged.goesTo_advance (h : Staged ns s) : GoesTo s s.advance := by
  unfold Playback.advance
  split
  · exact .inl (cursor_finishReveal _)
  · rename_i hp
    dsimp only
    split
    · exact .inr ⟨cursor_enter _, h.isShown (by simp [hp])⟩
    · exact .inl rfl
  · exact .inl rfl

theorem Staged.goesTo_toggleAuto (h : Staged ns s) : GoesTo s s.toggleAuto := by
  unfold Playback.toggleAuto
  split
  · exact .inl rfl
  · rename_i hp
    split
    · exact .inl rfl
    · dsimp only
      split
      · exact (h.withAuto hp true).goesTo_advance
      · exact .inl rfl

theorem Staged.goesTo_fire (h : Staged ns s) (hf : s.fire? now = some s') : GoesTo s s' := by
  obtain ⟨task, q, -, rfl⟩ := fire?_eq_some.1 hf
  cases task.payload with
  | typewriter => exact .inl (cursor_typewriterStep _)
  | autoAdvance => exact (h.rearm q _).goesTo_advance

/-- Some timers and one more transition pass each node while it is fully shown. -/
theorem Staged.passes (h : Staged ns s) {s₁ : Playback} (hf : Fires now s s₁) (hg : GoesTo s₁ s')
    {k : Nat} (hk : s.cursor ≤ k) (hl : k < s'.cursor) :
    ∃ s₀, Fires now s s₀ ∧ s₀.cursor = k ∧ s₀.Shown := by
  induction hf generalizing s' with
  | refl =>
    rcases hg with he | ⟨he, hshown⟩
    · omega
    · exact ⟨s, .refl, by omega, hshown⟩
  | @tail s₁ s₂ hf hs ih =>
    by_cases hc : k < s₂.cursor
    · exact ih (((kept_staged ns).fires h hf).goesTo_fire hs) hc
    · rcases hg with he | ⟨he, hshown⟩
      · omega
      · exact ⟨s₂, hf.tail hs, by omega, hshown⟩

theorem Staged.passes_of_apply (h : Staged ns s) (op : Op) {k : Nat} (hk : s.cursor ≤ k)
    (hl : k < (s.apply op).cursor) : ∃ now s₁, Fires now s s₁ ∧ s₁.cursor = k ∧ s₁.Shown := by
  have tick (now : UInt64) : Fires now.toNat s (s.fireAll now.toNat 0).1 ∧
      Staged ns (s.tick now.toNat).1 :=
    ⟨(fires_fireAll now.toNat 0 s).1, (kept_staged ns).tick h now⟩
  cases op with
  | advance => exact ⟨s.now, h.passes .refl h.goesTo_advance hk hl⟩
  | advanceAt now => exact ⟨_, h.passes (tick now).1 (tick now).2.goesTo_advance hk hl⟩
  | toggleAuto => exact ⟨s.now, h.passes .refl h.goesTo_toggleAuto hk hl⟩
  | toggleAutoAt now => exact ⟨_, h.passes (tick now).1 (tick now).2.goesTo_toggleAuto hk hl⟩
  | tick now => exact ⟨_, h.passes (tick now).1 (.inl rfl) hk hl⟩
  | cancelTimers => exact absurd hl (Nat.not_lt_of_le hk)

theorem kept_ended (hp : s.phase = .ended) (ht : s.timers.tasks = []) :
    Kept fun s' => ∃ now, s' = { s with now } where
  advance := by
    rintro _ ⟨now, rfl⟩
    exact ⟨now, by simp only [Playback.advance, hp]⟩
  toggleAuto := by
    rintro _ ⟨now, rfl⟩
    exact ⟨now, by simp only [Playback.toggleAuto, hp, if_true]⟩
  fire := by
    rintro t _ s' ⟨now, rfl⟩ hf
    obtain ⟨task, q, hq, -⟩ := fire?_eq_some.1 hf
    have hm : task ∈ s.timers.tasks := (Queue.mem_of_popDue hq).1
    simp [ht] at hm
  moveClock := by
    rintro t _ ⟨now, rfl⟩ - -
    exact ⟨_, rfl⟩

theorem Disciplined.run_ended (h : Disciplined s) (hp : s.phase = .ended) (ops : List Op) :
    s.run ops = { s with now := (s.run ops).now } := by
  have ht : s.timers.tasks = [] := List.length_eq_zero_iff.1 (h.pending_ended hp)
  have hcancel {s' : Playback} (h' : ∃ now, s' = { s with now }) :
      ∃ now, s'.cancelTimers = { s with now } := by
    obtain ⟨now, rfl⟩ := h'
    exact ⟨now, by simp only [Playback.cancelTimers, Queue.cancelAll, ← ht]⟩
  obtain ⟨now, hr⟩ := (kept_ended hp ht).run (fun _ _ h' => hcancel h') ⟨s.now, rfl⟩
  rw [hr]

theorem callsLeft_armAuto (s : Playback) : s.armAuto.callsLeft = s.callsLeft := by
  unfold armAuto
  split <;> rfl

theorem callsLeft_finishReveal (s : Playback) :
    s.finishReveal.callsLeft = 1 + nodesCalls s.upcoming :=
  callsLeft_armAuto _

theorem callsLeft_enter (s : Playback) :
    s.enter.callsLeft = nodeCalls s.current + nodesCalls s.upcoming := by
  unfold enter
  dsimp only
  split
  · rename_i hi
    have hc : nodeCalls s.current = 1 := if_pos hi
    rw [hc]
    exact callsLeft_finishReveal _
  · rename_i hi
    have hc : nodeCalls s.current = 2 := if_neg hi
    rw [hc]
    rfl

theorem nodesCalls_drop {i : Nat} (h : i < ns.length) : nodesCalls (ns.drop i) =
    nodeCalls (ns.getD i .placeholder) + nodesCalls (ns.drop (i + 1)) := by
  rw [drop_eq_cons h, nodesCalls]

theorem callsLeft_advance (s : Playback) : s.advance.callsLeft = s.callsLeft - 1 := by
  cases hp : s.phase with
  | revealing =>
    have hs : s.callsLeft = 2 + nodesCalls s.upcoming := by simp only [callsLeft, hp]
    have ha : s.advance.callsLeft = 1 + nodesCalls s.upcoming := by
      rw [advance, hp]
      exact callsLeft_finishReveal _
    omega
  | waiting =>
    have hs : s.callsLeft = 1 + nodesCalls s.upcoming := by simp only [callsLeft, hp]
    rw [hs, Nat.add_sub_cancel_left, advance, hp]
    dsimp only
    split
    · rename_i hc
      rw [callsLeft_enter]
      exact (nodesCalls_drop hc).symm
    · rename_i hc
      have hu : s.upcoming = [] := List.drop_eq_nil_of_le (Nat.le_of_not_lt hc)
      rw [hu]
      rfl
  | ended => simp only [advance, callsLeft, hp]

theorem callsLeft_advances (s : Playback) (n : Nat) :
    (s.run (List.replicate n .advance)).callsLeft = s.callsLeft - n := by
  induction n generalizing s with
  | zero => rfl
  | succ n ih =>
    have hr : s.run (List.replicate (n + 1) .advance) =
        s.advance.run (List.replicate n .advance) := rfl
    rw [hr, ih, callsLeft_advance]
    omega

theorem callsLeft_eq_zero_iff : s.callsLeft = 0 ↔ s.phase = .ended := by
  cases hp : s.phase <;> simp [callsLeft, hp]

theorem callsLeft_startAt (start : Nat) (timing : Timing) (nodes : List Node) :
    (startAt start timing nodes).callsLeft = nodesCalls (script nodes) := by
  have hs := nodesCalls_drop (length_script_pos nodes)
  rw [List.drop_zero] at hs
  rw [hs]
  exact callsLeft_enter _

/-- The place on stage never goes back. Each transition stays on a node or leaves it, once it is
fully shown, for the next one, so none is skipped. After the end only the clock moves, and a reader
who only advances gets there with the calls that the nodes take, and not before. -/
theorem progress_run (start : UInt64) (timing : Timing) (nodes : List Node) (ops : List Op) :
    let s₀ := startAt start.toNat timing nodes
    let s := s₀.run ops
    (∀ op, s.progress ≤ (s.apply op).progress) ∧
    (∀ now s₁, Fires now s s₁ → s.progress ≤ s₁.progress ∧ GoesTo s₁ s₁.advance ∧
      GoesTo s₁ s₁.toggleAuto ∧ ∀ s₂, s₁.fire? now = some s₂ → GoesTo s₁ s₂) ∧
    (∀ op k, s.cursor ≤ k → k < (s.apply op).cursor →
      ∃ now s₁, Fires now s s₁ ∧ s₁.cursor = k ∧ s₁.Shown) ∧
    (s.phase = .ended → ∀ more, s.run more = { s with now := (s.run more).now }) ∧
    ∀ n, (s₀.run (List.replicate n .advance)).phase = .ended ↔
      nodesCalls (script nodes) ≤ n := by
  intro s₀ s
  have h : Sound (script nodes) s := (sound_startAt start timing nodes).run ops
  refine ⟨progress_le_apply s, fun now s₁ hf => ?_, fun op k => h.toStaged.passes_of_apply op,
    h.toDisciplined.run_ended, fun n => ?_⟩
  · have h₁ : Staged (script nodes) s₁ := (kept_staged _).fires h.toStaged hf
    exact ⟨(kept_progress s).fires le_rfl hf, h₁.goesTo_advance, h₁.goesTo_toggleAuto,
      fun s₂ => h₁.goesTo_fire⟩
  · rw [← callsLeft_eq_zero_iff, callsLeft_advances, callsLeft_startAt]
    exact Nat.sub_eq_zero_iff_le

end Playback

end SerialNovel
