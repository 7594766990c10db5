import SerialNovel.Proofs.Playback.Reading
import SerialNovel.Proofs.Playback.Timers

namespace SerialNovel.Playback

/-- When a node is fully shown that comes on stage at `entered`. -/
def shownAt (timing : Timing) (entered : Nat) (n : Node) : Nat :=
  if n.isInstant then entered else entered + timing.step * n.displayText.length

/-- When the node at an index comes on stage, if playback starts with the first at `start` and goes
on by itself. Past the last node it is the end. -/
def entersAt (timing : Timing) (start : Nat) (nodes : List Node) : Nat → Nat
  | 0 => start
  | i + 1 =>
    let n := nodes.getD i .placeholder
    shownAt timing (entersAt timing start nodes i) n + timing.autoDelay n n.displayText.length

/-- What the stage shows at time `now`, as told by the times at which nodes come on stage. -/
structure Follows (timing : Timing) (start : Nat) (nodes : List Node) (now : Nat) (s : Playback) :
    Prop where
  ended_iff : s.phase = .ended ↔ entersAt timing start nodes nodes.length ≤ now
  onStage : now < entersAt timing start nodes nodes.length → ∃ n, nodes[s.cursor]? = some n ∧
    entersAt timing start nodes s.cursor ≤ now ∧
    (∀ i < nodes.length, entersAt timing start nodes i ≤ now → i ≤ s.cursor) ∧
    (s.phase = .revealing ↔ now < shownAt timing (entersAt timing start nodes s.cursor) n) ∧
    s.revealed = if s.phase = .revealing
      then (now - entersAt timing start nodes s.cursor) / timing.step else n.displayText.length

section

variable (timing : Timing) (start : Nat) (nodes : List Node)

theorem le_shownAt (entered : Nat) (n : Node) : entered ≤ shownAt timing entered n := by
  unfold shownAt
  split
  · exact Nat.le_refl _
  · exact Nat.le_add_right _ _

theorem shownAt_le_entersAt (i : Nat) :
    shownAt timing (entersAt timing start nodes i) (nodes.getD i .placeholder) ≤
      entersAt timing start nodes (i + 1) :=
  Nat.le_add_right _ _

theorem entersAt_mono {i j : Nat} (h : i ≤ j) :
    entersAt timing start nodes i ≤ entersAt timing start nodes j := by
  induction h with
  | refl => exact Nat.le_refl _
  | step _ ih =>
    exact Nat.le_trans ih (Nat.le_trans (le_shownAt timing _ _) (shownAt_le_entersAt timing _ _ _))

theorem characterAt_le_entersAt {i : Nat} {n : Node} (hn : nodes.getD i .placeholder = n)
    (hi : n.isInstant = false) {shown : Nat} (hs : shown < n.displayText.length) :
    entersAt timing start nodes i + timing.step * (shown + 1) ≤
      entersAt timing start nodes (i + 1) := by
  have hx := shownAt_le_entersAt timing start nodes i
  have hm := Nat.mul_le_mul_left timing.step (Nat.succ_le_of_lt hs)
  rw [hn, shownAt, if_neg (by simp [hi])] at hx
  exact Nat.le_trans (Nat.add_le_add_left hm _) hx

end

def lastStep (timing : Timing) (start : Nat) (s : Playback) : Nat :=
  match s.phase with
  | .revealing => entersAt timing start s.nodes s.cursor + timing.step * s.revealed
  | .waiting => shownAt timing (entersAt timing start s.nodes s.cursor) s.current
  | .ended => entersAt timing start s.nodes s.size

/-- When the next step of a stage is due that is not over. -/
def nextStep (timing : Timing) (start : Nat) (s : Playback) : Nat :=
  match s.phase with
  | .revealing => entersAt timing start s.nodes s.cursor + timing.step * (s.revealed + 1)
  | .waiting => entersAt timing start s.nodes (s.cursor + 1)
  | .ended => entersAt timing start s.nodes s.size

/-- A stage that goes on by itself and has done each step in time. -/
structure Timely (timing : Timing) (start : Nat) (s : Playback) : Prop where
  timing_eq : s.timing = timing
  auto_eq : s.phase ≠ .ended → s.auto = true
  now_eq : s.now = s.lastStep timing start
  due_eq : ∀ t ∈ s.timers.tasks, t.due = s.nextStep timing start

variable {timing : Timing} {start : Nat} {nodes : List Node} {s : Playback}

theorem Timely.schedule (ht : s.timing = timing) (ha : s.auto = true) (hq : s.timers.tasks = [])
    (hn : s.now = s.lastStep timing start) {delay : Nat} (t : StageTimer)
    (hd : s.now + delay = s.nextStep timing start) (hl : s.nextStep timing start ≤ clockLimit) :
    Timely timing start { s with timers := s.timers.schedule (later s.now delay) t } where
  timing_eq := ht
  auto_eq := fun _ => ha
  now_eq := hn
  due_eq := by
    intro u hu
    simp only [Queue.schedule, hq, List.nil_append, List.mem_singleton] at hu
    have hs : later s.now delay = s.nextStep timing start := by
      rw [later, hd, Nat.min_eq_left hl]
    rw [hu]
    exact hs

theorem timely_armTick (ht : s.timing = timing) (ha : s.auto = true) (hq : s.timers.tasks = [])
    (hp : s.phase = .revealing)
    (hn : s.now = entersAt timing start s.nodes s.cursor + timing.step * s.revealed)
    (hl : entersAt timing start s.nodes s.cursor + timing.step * (s.revealed + 1) ≤ clockLimit) :
    Timely timing start s.armTick := by
  refine .schedule ht ha hq ?_ .typewriter ?_ ?_
  · simpa only [lastStep, hp] using hn
  · simp only [nextStep, hp, hn, ht, Nat.mul_succ, Nat.add_assoc]
  · simpa only [nextStep, hp] using hl

theorem timely_finishReveal (ht : s.timing = timing) (ha : s.auto = true)
    (hq : s.timers.tasks = [])
    (hn : s.now = shownAt timing (entersAt timing start s.nodes s.cursor) s.current)
    (hd : s.displayLen = s.current.displayText.length)
    (hl : entersAt timing start s.nodes (s.cursor + 1) ≤ clockLimit) :
    Timely timing start s.finishReveal := by
  rw [finishReveal, armAuto, if_pos ⟨ha, rfl⟩]
  refine Timely.schedule (s := cancelAuto { s with revealed := s.displayLen, phase := .waiting })
    ht ha ?_ hn .autoAdvance ?_ hl
  · simp [cancelAuto, Queue.cancelWhere, hq]
  · have he : s.now + s.timing.autoDelay s.current s.displayLen =
        entersAt timing start s.nodes (s.cursor + 1) := by
      rw [hn, ht, hd]
      rfl
    exact he

theorem timely_enter (ht : s.timing = timing) (ha : s.auto = true)
    (hn : s.now = entersAt timing start s.nodes s.cursor)
    (hl : entersAt timing start s.nodes (s.cursor + 1) ≤ clockLimit) :
    Timely timing start s.enter := by
  unfold enter
  dsimp only
  split
  · rename_i hi
    have hs : shownAt timing (entersAt timing start s.nodes s.cursor) s.current =
        entersAt timing start s.nodes s.cursor := if_pos hi
    exact timely_finishReveal ht ha rfl (hn.trans hs.symm) rfl hl
  · rename_i hi
    have hi : s.current.isInstant = false := Bool.not_eq_true _ ▸ hi
    have hs := characterAt_le_entersAt timing start s.nodes rfl hi (isInstant_eq_false.1 hi).2.2
    exact timely_armTick ht ha rfl rfl hn (Nat.le_trans hs hl)

theorem timely_advance (ht : s.timing = timing) (ha : s.auto = true) (hp : s.phase = .waiting)
    (hn : s.now = entersAt timing start s.nodes (s.cursor + 1)) (hc : s.cursor < s.size)
    (hl : entersAt timing start s.nodes s.size ≤ clockLimit) : Timely timing start s.advance := by
  unfold advance
  rw [hp]
  dsimp only
  split
  · rename_i hx
    have hm := entersAt_mono timing start s.nodes (Nat.succ_le_of_lt hx)
    exact timely_enter ht ha hn (Nat.le_trans hm hl)
  · rename_i hx
    have he : s.cursor + 1 = s.size := Nat.le_antisymm hc (Nat.le_of_not_lt hx)
    rw [he] at hn
    exact {
      timing_eq := ht
      auto_eq := fun h => absurd rfl h
      now_eq := hn
      due_eq := by simp [cancelTimers, Queue.cancelAll] }

theorem timely_typewriterStep (h : Staged nodes s) (ht : s.timing = timing) (ha : s.auto = true)
    (hq : s.timers.tasks = []) (hp : s.phase = .revealing)
    (hn : s.now = entersAt timing start s.nodes s.cursor + timing.step * (s.revealed + 1))
    (hl : entersAt timing start s.nodes s.size ≤ clockLimit) :
    Timely timing start s.typewriterStep := by
  obtain ⟨hg, hb, hr⟩ := h.revealing hp
  rw [h.displayLen_eq, h.display_eq] at hr
  have hi : s.current.isInstant = false := isInstant_eq_false.2 ⟨hg, hb, Nat.zero_lt_of_lt hr⟩
  have hc : s.cursor < s.size := by
    rw [size, h.nodes_eq]
    exact h.cursor_lt
  have hm := entersAt_mono timing start s.nodes (Nat.succ_le_of_lt hc)
  have hd : s.displayLen = s.current.displayText.length := by rw [h.displayLen_eq, h.display_eq]
  rw [typewriterStep, if_pos hp]
  dsimp only
  split
  · rename_i hx
    have hs : shownAt timing (entersAt timing start s.nodes s.cursor) s.current =
        entersAt timing start s.nodes s.cursor + timing.step * (s.revealed + 1) := by
      have he : s.current.displayText.length = s.revealed + 1 := by omega
      rw [shownAt, if_neg (by simp [hi]), he]
    exact timely_finishReveal ht ha hq (hn.trans hs.symm) hd (Nat.le_trans hm hl)
  · rename_i hx
    have hr : s.revealed + 1 < s.current.displayText.length := by omega
    have hs := characterAt_le_entersAt timing start s.nodes rfl hi hr
    exact timely_armTick ht ha hq hp hn (Nat.le_trans hs (Nat.le_trans hm hl))

structure OnTime (timing : Timing) (start : Nat) (nodes : List Node) (s : Playback) : Prop extends
  Staged nodes s, Driven s, Timely timing start s

theorem OnTime.fire (hl : entersAt timing start nodes nodes.length ≤ clockLimit)
    (h : OnTime timing start nodes s) {now : Nat} {s' : Playback} (hf : s.fire? now = some s') :
    OnTime timing start nodes s' := by
  refine ⟨(kept_staged nodes).fire h.toStaged hf, h.toDisciplined.fire hf, ?_⟩
  obtain ⟨task, q, hq, rfl⟩ := fire?_eq_some.1 hf
  have hm := (Queue.mem_of_popDue hq).1
  -- the timer is the one for the next step, and it brings the clock there
  have hn : max s.now task.due = s.nextStep timing start := by
    rw [Nat.max_eq_right (h.now_le_due task hm), h.due_eq task hm]
  have hx := h.tasks_of_popDue hq
  have hfit := h.fits task hm
  rw [← h.nodes_eq] at hl
  cases hp : task.payload with
  | typewriter =>
    have hp : s.phase = .revealing := by simpa [Fits, hp] using hfit
    rw [nextStep, hp] at hn
    exact timely_typewriterStep (h.toStaged.rearm q _) h.timing_eq (h.auto_eq (by simp [hp])) hx hp
      hn hl
  | autoAdvance =>
    have hp : s.phase = .waiting := by
      rw [hp] at hfit
      exact hfit.1
    have hc : s.cursor < s.size := by
      rw [size, h.nodes_eq]
      exact h.cursor_lt
    rw [nextStep, hp] at hn
    exact timely_advance h.timing_eq (h.auto_eq (by simp [hp])) hp hn hc hl

theorem OnTime.fires (hl : entersAt timing start nodes nodes.length ≤ clockLimit)
    (h : OnTime timing start nodes s) {now : Nat} {s' : Playback} (hf : Fires now s s') :
    OnTime timing start nodes s' := by
  induction hf with
  | refl => exact h
  | tail _ hf ih => exact ih.fire hl hf

theorem OnTime.lt_nextStep (h : OnTime timing start nodes s) (hp : s.phase ≠ .ended) {now : Nat}
    (hf : s.fire? now = none) : now < s.nextStep timing start := by
  have ho : s.owed = 1 := by
    have ha := h.auto_eq hp
    cases hq : s.phase <;> simp_all [owed]
  have hs : s.timers.tasks.length = 1 := h.pending_eq.trans ho
  obtain ⟨t, ht⟩ := List.length_eq_one_iff.1 hs
  have hm : t ∈ s.timers.tasks := by simp [ht]
  rw [← h.due_eq t hm]
  exact Queue.popDue_eq_none.1 (Option.map_eq_none_iff.1 hf) t hm

theorem OnTime.follows_of_lt (h : OnTime timing start nodes s) (hp : s.phase ≠ .ended) {now : Nat}
    (hlo : entersAt timing start nodes s.cursor ≤ now)
    (hhi : now < entersAt timing start nodes (s.cursor + 1))
    (hs : s.phase = .revealing ↔
      now < shownAt timing (entersAt timing start nodes s.cursor) s.current)
    (hr : s.phase = .revealing →
      s.revealed = (now - entersAt timing start nodes s.cursor) / timing.step) :
    Follows timing start nodes now s where
  ended_iff := by
    have hl := entersAt_mono timing start nodes (Nat.succ_le_of_lt h.cursor_lt)
    exact iff_of_false hp (Nat.not_le_of_lt (Nat.lt_of_lt_of_le hhi hl))
  onStage := by
    refine fun _ => ⟨s.current, h.toPlaced.current_eq, hlo, ?_, hs, ?_⟩
    · intro i _ hi
      refine Nat.le_of_not_lt fun hc => ?_
      have hm := entersAt_mono timing start nodes (Nat.succ_le_of_lt hc)
      exact Nat.not_le_of_lt hhi (Nat.le_trans hm hi)
    · split
      · exact hr ‹_›
      · rw [h.shown ‹_›, h.displayLen_eq, h.display_eq]

/-- Between its last step and the next a stage shows what the timeline tells. -/
theorem OnTime.follows (h : OnTime timing start nodes s) {now : Nat} (hn : s.now ≤ now)
    (hf : s.fire? now = none) : Follows timing start nodes now s := by
  have hx : nodes.getD s.cursor .placeholder = s.current := by rw [current, h.nodes_eq]
  have hs := shownAt_le_entersAt timing start nodes s.cursor
  rw [h.now_eq] at hn
  rw [hx] at hs
  cases hp : s.phase with
  | revealing =>
    have hu := h.lt_nextStep (by simp [hp]) hf
    simp only [lastStep, nextStep, hp, h.nodes_eq] at hn hu
    obtain ⟨hg, hb, hr⟩ := h.revealing hp
    rw [h.displayLen_eq, h.display_eq] at hr
    have hi : s.current.isInstant = false := isInstant_eq_false.2 ⟨hg, hb, Nat.zero_lt_of_lt hr⟩
    have hm : timing.step * (s.revealed + 1) ≤ timing.step * s.current.displayText.length :=
      Nat.mul_le_mul_left _ hr
    rw [shownAt, if_neg (by simp [hi])] at hs
    refine h.follows_of_lt (by simp [hp]) (by omega) (by omega) (iff_of_true hp ?_) fun _ => ?_
    · rw [shownAt, if_neg (by simp [hi])]
      omega
    · refine (Nat.div_eq_of_lt_le ?_ ?_).symm
      · rw [Nat.mul_comm]
        omega
      · rw [Nat.mul_comm]
        omega
  | waiting =>
    have hu := h.lt_nextStep (by simp [hp]) hf
    simp only [lastStep, nextStep, hp, h.nodes_eq] at hn hu
    have he := le_shownAt timing (entersAt timing start nodes s.cursor) s.current
    refine h.follows_of_lt (by simp [hp]) (Nat.le_trans he hn) hu ?_ fun hr => ?_
    · exact iff_of_false (by simp [hp]) (Nat.not_lt_of_le hn)
    · simp [hp] at hr
  | ended =>
    simp only [lastStep, hp, size, h.nodes_eq] at hn
    exact ⟨iff_of_true hp hn, fun hl => absurd hn (Nat.not_le_of_lt hl)⟩

theorem enter_of_not_instant (hi : s.current.isInstant = false) :
    s.enter = armTick { s.cancelTimers with display := s.current.displayText,
                                            displayLen := s.current.displayText.length,
                                            revealed := 0, phase := .revealing } :=
  if_neg (show ¬ s.current.isInstant = true by simp [hi])

theorem toggleAuto_armTick (hp : s.phase = .revealing) (ha : s.auto = false) :
    s.armTick.toggleAuto = armTick { s with auto := true } := by
  simp [toggleAuto, armTick, hp, ha]

theorem onTime_startAt {n : Node} (hn : nodes.head? = some n) (hi : n.isInstant = false)
    (hl : entersAt timing start nodes nodes.length ≤ clockLimit) :
    OnTime timing start nodes (startAt start timing nodes).toggleAuto := by
  obtain ⟨ns, rfl⟩ : ∃ ns, nodes = n :: ns := by
    cases nodes with
    | nil => simp at hn
    | cons m ns => exact ⟨ns, by rw [Option.some.inj hn]⟩
  have hs : start ≤ clockLimit :=
    Nat.le_trans (entersAt_mono timing start (n :: ns) (Nat.zero_le _)) hl
  refine ⟨(staged_startAt start timing (n :: ns)).toggleAuto, (driven_enter hs).toggleAuto, ?_⟩
  have hc := characterAt_le_entersAt timing start (n :: ns) (i := 0) rfl hi
    (isInstant_eq_false.1 hi).2.2
  have hm := entersAt_mono timing start (n :: ns) (Nat.succ_le_of_lt (Nat.zero_lt_succ ns.length))
  rw [startAt, enter_of_not_instant (by exact hi), toggleAuto_armTick rfl rfl]
  exact timely_armTick rfl rfl rfl rfl rfl (Nat.le_trans hc (Nat.le_trans hm hl))

/-- Playback that starts with a reveal and goes on by itself keeps to its timeline, as long as the
clock can show it: at each time it is over, or the last node that has come on stage is there, with
the characters that have had their time. -/
theorem autoPlay_follows {n : Node} (hn : nodes.head? = some n) (hi : n.isInstant = false)
    (hl : entersAt timing start nodes nodes.length ≤ clockLimit) {now : Nat} (hs : start ≤ now) :
    Follows timing start nodes now ((startAt start timing nodes).toggleAuto.tick now).1 := by
  have h := onTime_startAt hn hi hl
  obtain ⟨hf, hd⟩ := fires_fireAll now 0 (startAt start timing nodes).toggleAuto
  have hc : (startAt start timing nodes).toggleAuto.now ≤ now := by
    simpa [startAt] using hs
  have hx := (h.fires hl hf).follows (now_le_of_fires hc hf) hd
  exact ⟨hx.ended_iff, hx.onStage⟩

/-- Without waits a node, an image and a node with tags come on stage at the same time, and the last
node does so just at the time of the tick. -/
theorem autoPlay_follows_at_deadline :
    let nodes : List Node := [.narration "雨停".toList, .image "a.png".toList [],
      .narration "[[MASK::x]]".toList, .narration "c".toList]
    let timing : Timing := { tick := 0, autoBase := 0, richBase := 7, perChar := 0 }
    nodes.head? = some (.narration "雨停".toList) ∧
    (Node.narration "雨停".toList).isInstant = false ∧
    entersAt timing 5 nodes nodes.length ≤ clockLimit ∧
    entersAt timing 5 nodes 1 = 7 ∧ entersAt timing 5 nodes 2 = 7 ∧ entersAt timing 5 nodes 3 = 14 ∧
    Follows timing 5 nodes 14 ((startAt 5 timing nodes).toggleAuto.tick 14).1 :=
  ⟨rfl, by decide, by decide, by decide, by decide, by decide,
    autoPlay_follows rfl (by decide) (by decide) (by decide)⟩

end SerialNovel.Playback
