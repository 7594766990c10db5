import SerialNovel.Playback.Player
import SerialNovel.Proofs.Markup.Lossless
import SerialNovel.Proofs.Playback.Reading
import SerialNovel.Proofs.Script.Speech

namespace SerialNovel

/-- The host counts in whole milliseconds that fit 64 bits. -/
theorem HostClock.exists_toMillis (t : Float) : ∃ now : UInt64, toMillis t = now.toNat := by
  unfold toMillis
  split
  · exact ⟨_, rfl⟩
  · exact ⟨0, rfl⟩

namespace Player

open Playback (script Staged)

variable {ns : List Node} {p : Player} {id chapter : Text} {timing : Option Text} {now : Nat}

theorem staged_load (h : load id chapter timing now = .ok p) :
    Staged (script (parse .builtin chapter)) p.stage := by
  have ofChapter (t : Timing) :
      Staged (script (parse .builtin chapter)) (ofChapter id chapter t now).stage :=
    Playback.staged_startAt now t _
  cases timing with
  | none =>
    obtain rfl := Except.ok.inj h
    exact ofChapter {}
  | some text =>
    cases ht : Timing.ofText text with
    | error e => simp [load, ht, bind, Except.bind] at h
    | ok t =>
      simp only [load, ht, bind, Except.bind] at h
      obtain rfl := Except.ok.inj h
      exact ofChapter t

theorem staged_apply (h : Staged ns p.stage) (op : Op) : Staged ns (p.apply op).stage := by
  have step (op : Playback.Op) : Staged ns (p.stage.apply op) :=
    (Playback.kept_staged ns).apply h fun _ => h.rearm _ p.stage.now
  cases op with
  | advance now =>
    obtain ⟨t, ht⟩ := HostClock.exists_toMillis now
    have hs := step (.advanceAt t)
    rwa [Playback.apply, ← ht] at hs
  | toggleAuto now =>
    obtain ⟨t, ht⟩ := HostClock.exists_toMillis now
    have hs := step (.toggleAutoAt t)
    rwa [Playback.apply, ← ht] at hs
  | tick now =>
    obtain ⟨t, ht⟩ := HostClock.exists_toMillis now
    have hs := step (.tick t)
    rwa [Playback.apply, ← ht] at hs
  | dispose => exact step .cancelTimers

theorem staged_run (h : Staged ns p.stage) (ops : List Op) : Staged ns (p.run ops).stage := by
  induction ops generalizing p with
  | nil => exact h
  | cons op ops ih => exact ih (staged_apply h op)

theorem runs?_of_revealing (hp : p.stage.phase = .revealing) : p.runs? = none := by
  simp [runs?, Playback.isRevealing, hp]

theorem runs?_eq_some {rs : List Run} (h : p.runs? = some rs) :
    rs = Inline.runs p.stage.display := by
  unfold runs? at h
  dsimp only at h
  split at h
  · exact (Option.some.inj h).symm
  · simp at h

theorem runs?_eq_none_iff (hp : p.stage.phase ≠ .revealing) :
    p.runs? = none ↔ ¬ Inline.Marked p.stage.display := by
  rw [← Inline.hasStyling_runs_iff]
  simp [runs?, Playback.isRevealing, hp]

/-- What a snapshot shows of its node: part of a text without tags while it reveals, and after that
all of it, as runs exactly if it has whole markup. -/
structure Faithful (n : Node) (shown : Snapshot) : Prop where
  revealing : shown.phase = .revealing → shown.revealed <+: n.displayText ∧
    shown.revealed ≠ n.displayText ∧ ¬ "[[".toList <:+: shown.revealed ∧ shown.runs = none
  revealed_eq : shown.phase ≠ .revealing → shown.revealed = n.displayText
  runs_markup : ∀ rs, shown.runs = some rs → rs.flatMap Run.markup = shown.revealed
  runs_eq_none_iff : shown.phase ≠ .revealing →
    (shown.runs = none ↔ ¬ Inline.Marked shown.revealed)

theorem faithful_snapshot (h : Staged ns p.stage) : Faithful p.stage.current p.snapshot := by
  have hd := h.display_eq
  have hfull (hp : p.stage.phase ≠ .revealing) : p.stage.revealedText = p.stage.display := by
    rw [Playback.revealedText, h.shown hp, h.displayLen_eq, List.take_length]
  constructor
  · intro hp
    obtain ⟨-, htags, hlt⟩ := h.revealing hp
    have hprefix : p.stage.revealedText <+: p.stage.display := List.take_prefix _ _
    refine ⟨hd ▸ hprefix, ?_, fun hi => htags ?_, runs?_of_revealing hp⟩
    · intro he
      have he : p.stage.revealedText = p.stage.display := he.trans hd.symm
      have hlen := congrArg List.length he
      rw [h.readable.length_revealedText, ← h.displayLen_eq] at hlen
      omega
    · -- the display is a stretch of the raw text
      exact (hi.trans (hd ▸ hprefix.isInfix)).trans (Node.displayText_isInfix _)
  · intro hp
    exact (hfull hp).trans hd
  · intro rs hrs
    have hp : p.stage.phase ≠ .revealing := by
      intro hp
      rw [snapshot, runs?_of_revealing hp] at hrs
      simp at hrs
    rw [runs?_eq_some hrs, Inline.flatMap_markup_runs]
    exact (hfull hp).symm
  · intro hp
    exact (runs?_eq_none_iff hp).trans (by rw [snapshot, hfull hp])

/-- Whatever a host does with a player, the snapshot shows a node of the chapter, never half a tag
of it, and markup only as runs that write it back. -/
theorem faithful_run {now : Float} (h : load id chapter timing (HostClock.toMillis now) = .ok p)
    (ops : List Op) :
    let shown := (p.run ops).snapshot
    ∃ n, (script (parse .builtin chapter))[shown.cursor]? = some n ∧ Faithful n shown := by
  have hs := staged_run (staged_load h) ops
  exact ⟨_, hs.current_eq, faithful_snapshot hs⟩

/-- The caption of an image is fully shown at once. -/
theorem faithful_run_of_image :
    let chapter := "[[IMAGE::a.png::See **b**]]".toList
    let p := ofChapter [] chapter {} (HostClock.toMillis 0)
    let shown := (p.run [.dispose]).snapshot
    load [] chapter none (HostClock.toMillis 0) = .ok p ∧
    shown.runs = some [.plain "See ".toList, .bold "b".toList] ∧
    ∃ n, (script (parse .builtin chapter))[shown.cursor]? = some n ∧ Faithful n shown := by
  intro chapter p shown
  have h : load [] chapter none (HostClock.toMillis 0) = .ok p := rfl
  exact ⟨h, by decide +kernel, faithful_run h [.dispose]⟩

end Player

end SerialNovel
