import SerialNovel.Proofs.Playback.Steps

namespace SerialNovel.Playback

/-- The stage plays `ns`, shows one of them and has left those before it. -/
structure Placed (ns : List Node) (s : Playback) : Prop where
  nodes_eq : s.nodes = ns
  cursor_lt : s.cursor < ns.length
  backlog_eq : s.backlog = ns.take s.cursor

/-- The display is the text of the node on stage. -/
structure Displayed (ns : List Node) (s : Playback) : Prop extends Placed ns s where
  display_eq : s.display = s.current.displayText
  displayLen_eq : s.displayLen = s.display.length

/-- The reveal fits the phase: it is short of the whole text while it runs, and of a node that can
be cut anywhere. -/
structure Staged (ns : List Node) (s : Playback) : Prop extends Displayed ns s where
  revealing : s.phase = .revealing → s.current.isImage = false ∧
    ¬ "[[".toList <:+: s.current.rawText ∧ s.revealed < s.displayLen
  shown : s.phase ≠ .revealing → s.revealed = s.displayLen
  ended : s.phase = .ended → s.cursor = ns.length - 1 ∧ s.auto = false

/-- What a host can read off a state. -/
structure Readable (ns : List Node) (s : Playback) : Prop extends Staged ns s where
  current_eq : ns[s.cursor]? = some s.current
  revealed_le : s.revealed ≤ s.displayLen
  revealedText_isPrefix : s.revealedText <+: s.display
  length_revealedText : s.revealedText.length = s.revealed

variable {ns : List Node} {s : Playback}

theorem Placed.current_eq (h : Placed ns s) : ns[s.cursor]? = some s.current := by
  rw [current, h.nodes_eq, List.getD_eq_getElem?_getD, List.getElem?_eq_getElem h.cursor_lt,
    Option.getD_some]

theorem Staged.revealed_le (h : Staged ns s) : s.revealed ≤ s.displayLen := by
  by_cases hp : s.phase = .revealing
  · exact Nat.le_of_lt (h.revealing hp).2.2
  · exact Nat.le_of_eq (h.shown hp)

theorem Staged.readable (h : Staged ns s) : Readable ns s where
  toStaged := h
  current_eq := h.current_eq
  revealed_le := h.revealed_le
  revealedText_isPrefix := List.take_prefix _ _
  length_revealedText := by
    have := h.revealed_le
    rw [revealedText, List.length_take, ← h.displayLen_eq]
    omega

theorem Staged.rearm (h : Staged ns s) (timers : Queue StageTimer) (now : Nat) :
    Staged ns { s with timers, now } :=
  { h with }

theorem Staged.armAuto (h : Staged ns s) : Staged ns s.armAuto := by
  unfold Playback.armAuto
  split
  · exact h.rearm _ s.now
  · exact h

theorem Displayed.finishReveal (h : Displayed ns s) : Staged ns s.finishReveal := by
  apply Staged.armAuto
  exact { h with
    revealing := fun hp => by simp at hp
    shown := fun _ => rfl
    ended := fun hp => by simp at hp }

theorem isInstant_eq_false {n : Node} : n.isInstant = false ↔
    n.isImage = false ∧ ¬ "[[".toList <:+: n.rawText ∧ 0 < n.displayText.length := by
  rw [← Text.contains_iff, ← Node.hasTags]
  simp [Node.isInstant, List.length_pos_iff, and_assoc]

theorem Placed.enter (h : Placed ns s) : Staged ns s.enter := by
  have hd : Displayed ns { s.cancelTimers with
      display := s.current.displayText, displayLen := s.current.displayText.length, revealed := 0 } :=
    { h with display_eq := rfl, displayLen_eq := rfl }
  unfold Playback.enter
  dsimp only
  split
  · exact hd.finishReveal
  · rename_i hi
    refine Staged.rearm ?_ _ s.now
    exact { hd with
      revealing := fun _ => isInstant_eq_false.1 (Bool.not_eq_true _ ▸ hi)
      shown := fun hp => by simp at hp
      ended := fun hp => by simp at hp }

theorem Placed.next (h : Placed ns s) (hc : s.cursor + 1 < s.size) :
    Placed ns { s with backlog := s.backlog ++ [s.current], cursor := s.cursor + 1 } where
  nodes_eq := h.nodes_eq
  cursor_lt := by rwa [size, h.nodes_eq] at hc
  backlog_eq := by
    rw [h.backlog_eq, List.take_add_one, h.current_eq]
    rfl

theorem Staged.advance (h : Staged ns s) : Staged ns s.advance := by
  have hx : Staged ns s.cancelTimers := h.rearm _ s.now
  unfold Playback.advance
  split
  · exact hx.finishReveal
  · rename_i hp
    dsimp only
    split
    · rename_i hc
      exact (hx.next hc).enter
    · rename_i hc
      -- the last node stays on stage, and it was shown already
      exact { hx with
        revealing := fun he => by simp at he
        shown := fun _ => h.shown (by simp [hp])
        ended := fun _ => by
          have hl := h.cursor_lt
          have hc : ¬ s.cursor + 1 < s.nodes.length := hc
          rw [h.nodes_eq] at hc
          exact ⟨by show s.cursor = _; omega, rfl⟩ }
  · exact h

theorem Staged.withAuto (h : Staged ns s) (hp : s.phase ≠ .ended) (auto : Bool) :
    Staged ns { s with auto } :=
  { h with ended := fun he => absurd he hp }

theorem Staged.toggleAuto (h : Staged ns s) : Staged ns s.toggleAuto := by
  unfold Playback.toggleAuto
  split
  · exact h
  · rename_i hp
    split
    · exact (h.withAuto hp false).rearm _ s.now
    · dsimp only
      split
      · exact (h.withAuto hp true).advance
      · exact h.withAuto hp true

theorem Staged.typewriterStep (h : Staged ns s) : Staged ns s.typewriterStep := by
  unfold Playback.typewriterStep
  split
  · rename_i hp
    dsimp only
    split
    · exact Displayed.finishReveal { h with }
    · rename_i hl
      refine Staged.rearm ?_ _ s.now
      have hr := h.revealing hp
      exact { h with
        revealing := fun _ => ⟨hr.1, hr.2.1, Nat.lt_of_not_le hl⟩
        shown := fun he => absurd hp he
        ended := fun he => by simp [hp] at he }
  · exact h

theorem Staged.act (h : Staged ns s) (t : StageTimer) : Staged ns (s.act t) := by
  cases t with
  | typewriter => exact h.typewriterStep
  | autoAdvance => exact h.advance

theorem kept_staged (ns : List Node) : Kept (Staged ns) where
  advance h := h.advance
  toggleAuto h := h.toggleAuto
  fire h hf := by
    obtain ⟨task, q, -, rfl⟩ := fire?_eq_some.1 hf
    exact (h.rearm q _).act task.payload
  moveClock h _ _ := h.rearm _ _

theorem length_script_pos (nodes : List Node) : 0 < (script nodes).length := by
  cases nodes <;> simp [script]

theorem staged_startAt (now : Nat) (timing : Timing) (nodes : List Node) :
    Staged (script nodes) (startAt now timing nodes) := by
  apply Placed.enter
  exact ⟨rfl, length_script_pos nodes, rfl⟩

/-- Whatever the host does, its reader sees the nodes in order: the stage shows one of them, the
backlog holds those before it, and a reveal that is not complete belongs to a node that can be cut
anywhere. -/
theorem readable_run (start : UInt64) (timing : Timing) (nodes : List Node) (ops : List Op) :
    Readable (script nodes) ((startAt start.toNat timing nodes).run ops) := by
  have hs := staged_startAt start.toNat timing nodes
  exact ((kept_staged _).run (fun _ _ h => h.rearm _ _) hs).readable

end SerialNovel.Playback
