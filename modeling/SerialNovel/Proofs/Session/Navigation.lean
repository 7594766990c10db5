import SerialNovel.Proofs.Library.Places
import SerialNovel.Session

namespace SerialNovel.Session

variable {σ τ : Type} {s : Session σ τ} {vs : List Volume}

/-- The id of the volume and the index of the chapter that the session is at. -/
def position (s : Session σ τ) : Text × Nat := (s.volumeId, s.index)

/-- The position is that of a chapter in the catalog. -/
def OnChapter (s : Session σ τ) : Prop := s.chapter?.isSome

/-- A jump link that leads to a volume without chapters. -/
def EntersEmpty (s : Session σ τ) (n : Node) : Prop :=
  (s.follow n).1 = true ∧ (s.follow n).2.volume?.map (·.chapters) = some []

theorem onChapter_iff : s.OnChapter ↔ s.index < s.chapterCount := by
  unfold OnChapter chapter? Catalog.chapter? chapterCount volume?
  cases s.catalog.volume? s.volumeId with
  | none => simp
  | some v => simp

theorem onChapter_of_position {t : Session σ τ} (hc : t.catalog = s.catalog)
    (hp : t.position = s.position) (h : s.OnChapter) : t.OnChapter := by
  obtain ⟨hv, hi⟩ := Prod.mk.inj hp
  rwa [OnChapter, chapter?, hc, hv, hi]

theorem next_cases (s : Session σ τ) : s.next = (false, s) ∨
    s.index + 1 < s.chapterCount ∧ s.next = (true, { s with index := s.index + 1 }) := by
  unfold next
  split
  case isTrue h => exact .inr ⟨h, rfl⟩
  case isFalse => exact .inl rfl

theorem prev_cases (s : Session σ τ) : s.prev = (false, s) ∨
    (0 < s.index ∧ s.index ≤ s.chapterCount) ∧
      s.prev = (true, { s with index := s.index - 1 }) := by
  unfold prev
  split
  case isTrue h => exact .inr ⟨h, rfl⟩
  case isFalse => exact .inl rfl

theorem select_cases (s : Session σ τ) (i : Nat) : s.select i = (false, s) ∨
    ∃ c, s.catalog.chapter? s.volumeId i = some c ∧ c.isLocked = false ∧
      s.select i = (true, { s with index := i }) := by
  unfold select
  split
  case h_1 c hc =>
    split
    case isTrue => exact .inl rfl
    case isFalse hl => exact .inr ⟨c, hc, Bool.eq_false_iff.2 hl, rfl⟩
  case h_2 => exact .inl rfl

theorem follow_cases (s : Session σ τ) (n : Node) : s.follow n = (false, s) ∨
    ∃ v, s.catalog.follow? n = some v ∧
      s.follow n = (true, { s with volumeId := v.id, index := 0 }) := by
  unfold follow
  split
  case h_1 v hv => exact .inr ⟨v, hv, rfl⟩
  case h_2 => exact .inl rfl

theorem next_onChapter (h : s.next.1 = true) :
    s.next.2.volumeId = s.volumeId ∧ s.next.2.OnChapter := by
  rcases next_cases s with hn | ⟨hi, hn⟩
  · simp [hn] at h
  · rw [hn]
    exact ⟨rfl, onChapter_iff.2 hi⟩

theorem prev_onChapter (h : s.prev.1 = true) :
    s.prev.2.volumeId = s.volumeId ∧ s.prev.2.OnChapter := by
  rcases prev_cases s with hp | ⟨⟨hpos, hle⟩, hp⟩
  · simp [hp] at h
  · rw [hp]
    have hi : s.index - 1 < s.chapterCount := by omega
    exact ⟨rfl, onChapter_iff.2 hi⟩

theorem prev_next (h : s.next.1 = true) : s.next.2.prev = (true, s) := by
  rcases next_cases s with hn | ⟨hi, hn⟩
  · simp [hn] at h
  · rw [hn]
    have hb : 0 < s.index + 1 ∧ s.index + 1 ≤ s.chapterCount := by omega
    exact if_pos hb

theorem select_unlocked {i : Nat} (h : (s.select i).1 = true) :
    (s.select i).2.position = (s.volumeId, i) ∧
      ∃ c, (s.select i).2.chapter? = some c ∧ c.isLocked = false := by
  rcases select_cases s i with hs | ⟨c, hc, hl, hs⟩
  · simp [hs] at h
  · rw [hs]
    exact ⟨rfl, c, hc, hl⟩

theorem follow_start (hc : Catalog.ofVolumes vs = .ok s.catalog) {n : Node}
    (h : (s.follow n).1 = true) : (s.follow n).2.volume?.isSome ∧ (s.follow n).2.index = 0 := by
  rcases follow_cases s n with hf | ⟨v, hv, hf⟩
  · simp [hf] at h
  · rw [hf]
    have hv : s.catalog.volume? v.id = some v := Catalog.volume?_of_follow? hc hv
    exact ⟨Option.isSome_of_eq_some hv, rfl⟩

theorem follow_onChapter (hc : Catalog.ofVolumes vs = .ok s.catalog) {n : Node}
    (h : (s.follow n).1 = true) (hn : ¬ s.EntersEmpty n) : (s.follow n).2.OnChapter := by
  obtain ⟨hv, hi⟩ := follow_start hc h
  obtain ⟨v, hv⟩ := Option.isSome_iff_exists.1 hv
  have hne : v.chapters ≠ [] := fun he => hn ⟨h, by rw [hv, Option.map_some, he]⟩
  rw [onChapter_iff, hi, chapterCount, hv]
  exact List.length_pos_iff.2 hne

section

variable [FlagStore σ]

theorem view_eq (s : Session σ τ) :
    s.view.2 = { s with readStore := s.view.2.readStore } := by
  unfold view
  split
  · rfl
  · split <;> rfl

theorem view_notFound_iff : (∃ v i, s.view.1 = .notFound v i) ↔ ¬ s.OnChapter := by
  unfold view OnChapter
  split
  case h_1 h => simp [h]
  case h_2 c h => split <;> simp [h]

end

variable [FlagStore σ] [FlagStore τ]

/-- What a reader asks of a session. -/
inductive Op
  | view
  | staged (timing : Timing)
  | next
  | prev
  | select (i : Nat)
  | follow (n : Node)
  | acknowledge (group : Text)

/-- What a session answers. -/
inductive Answer
  | page (v : ChapterView)
  | stage (s : Playback)
  | moved (b : Bool)
  | recorded (result : Except Fault Unit)

/-- The answer to a call and the session after it. -/
def perform (s : Session σ τ) : Op → Answer × Session σ τ
  | .view => (.page s.view.1, s.view.2)
  | .staged timing => (.stage (s.staged timing).1, (s.staged timing).2)
  | .next => (.moved s.next.1, s.next.2)
  | .prev => (.moved s.prev.1, s.prev.2)
  | .select i => (.moved (s.select i).1, (s.select i).2)
  | .follow n => (.moved (s.follow n).1, (s.follow n).2)
  | .acknowledge group => (.recorded (s.acknowledge group).1, (s.acknowledge group).2)

def run (s : Session σ τ) (ops : List Op) : Session σ τ :=
  ops.foldl (fun s op => (s.perform op).2) s

/-- No call changes the catalog, and only one that answers true moves the session. -/
theorem perform_keeps (s : Session σ τ) (op : Op) : (s.perform op).2.catalog = s.catalog ∧
    ((s.perform op).1 = .moved true ∨ (s.perform op).2.position = s.position) := by
  have hv : s.view.2.catalog = s.catalog ∧ s.view.2.position = s.position := by
    rw [view_eq]
    exact ⟨rfl, rfl⟩
  cases op with
  | view => exact ⟨hv.1, .inr hv.2⟩
  | staged timing => exact ⟨hv.1, .inr hv.2⟩
  | next => rcases next_cases s with h | ⟨-, h⟩ <;> simp [perform, h]
  | prev => rcases prev_cases s with h | ⟨-, h⟩ <;> simp [perform, h]
  | select i => rcases select_cases s i with h | ⟨c, -, -, h⟩ <;> simp [perform, h]
  | follow n => rcases follow_cases s n with h | ⟨v, -, h⟩ <;> simp [perform, h]
  | acknowledge group => exact ⟨rfl, .inr rfl⟩

theorem run_catalog (s : Session σ τ) (ops : List Op) : (s.run ops).catalog = s.catalog := by
  induction ops generalizing s with
  | nil => rfl
  | cons op ops ih => exact (ih _).trans (perform_keeps s op).1

theorem onChapter_perform (hc : Catalog.ofVolumes vs = .ok s.catalog) (h : s.OnChapter) (op : Op) :
    (s.perform op).2.OnChapter ∨ ∃ n, op = .follow n ∧ s.EntersEmpty n := by
  obtain ⟨hk, hm | hp⟩ := perform_keeps s op
  · cases op with
    | view => cases hm
    | staged timing => cases hm
    | next => exact .inl (next_onChapter (Answer.moved.inj hm)).2
    | prev => exact .inl (prev_onChapter (Answer.moved.inj hm)).2
    | select i =>
      obtain ⟨-, c, hs, -⟩ := select_unlocked (Answer.moved.inj hm)
      exact .inl (Option.isSome_of_eq_some hs)
    | follow n =>
      by_cases he : s.EntersEmpty n
      · exact .inr ⟨n, rfl, he⟩
      · exact .inl (follow_onChapter hc (Answer.moved.inj hm) he)
    | acknowledge group => cases hm
  · exact .inl (onChapter_of_position hk hp h)

theorem onChapter_run (hc : Catalog.ofVolumes vs = .ok s.catalog) (h : s.OnChapter)
    (ops : List Op) : (s.run ops).OnChapter ∨
      ∃ done n, done ++ [.follow n] <+: ops ∧ (s.run done).EntersEmpty n := by
  induction ops generalizing s with
  | nil => exact .inl h
  | cons op ops ih =>
    rcases onChapter_perform hc h op with hs | ⟨n, rfl, hn⟩
    · rcases ih ((perform_keeps s op).1.symm ▸ hc) hs with hr | ⟨done, n, hd, hn⟩
      · exact .inl hr
      · exact .inr ⟨op :: done, n, List.cons_prefix_cons.2 ⟨rfl, hd⟩, hn⟩
    · exact .inr ⟨[], n, by simp, hn⟩

/-- Wherever the calls so far have led, only a call that answers true moves the session. A step or
a choice that does so stays in the volume and leads to a chapter, a choice to the one chosen, which
is not locked, and a jump leads to the start of a volume that exists. A step back undoes a step
forward, a view finds nothing just where no chapter is, and a session that is on a chapter stays on
one until it enters a volume without chapters. -/
theorem run_navigation (hc : Catalog.ofVolumes vs = .ok s.catalog) (ops : List Op) :
    let s' := s.run ops
    s'.catalog = s.catalog ∧
    (∀ op, (s'.perform op).1 ≠ .moved true → (s'.perform op).2.position = s'.position) ∧
    (s'.next.1 = true → s'.next.2.volumeId = s'.volumeId ∧ s'.next.2.OnChapter ∧
      s'.next.2.prev = (true, s')) ∧
    (s'.prev.1 = true → s'.prev.2.volumeId = s'.volumeId ∧ s'.prev.2.OnChapter) ∧
    (∀ i, (s'.select i).1 = true → (s'.select i).2.position = (s'.volumeId, i) ∧
      ∃ c, (s'.select i).2.chapter? = some c ∧ c.isLocked = false) ∧
    (∀ n, (s'.follow n).1 = true →
      (s'.follow n).2.volume?.isSome ∧ (s'.follow n).2.index = 0) ∧
    ((∃ v i, s'.view.1 = .notFound v i) ↔ ¬ s'.OnChapter) ∧
    (s'.OnChapter → ∀ more, (s'.run more).OnChapter ∨
      ∃ done n, done ++ [.follow n] <+: more ∧ (s'.run done).EntersEmpty n) := by
  intro s'
  have hs : s'.catalog = s.catalog := run_catalog s ops
  have hc' : Catalog.ofVolumes vs = .ok s'.catalog := hs.symm ▸ hc
  refine ⟨hs, fun op h => ?_, fun h => ?_, prev_onChapter, fun i => select_unlocked,
    fun n => follow_start hc', view_notFound_iff, fun h => onChapter_run hc' h⟩
  · exact (perform_keeps s' op).2.resolve_left h
  · obtain ⟨hv, hn⟩ := next_onChapter h
    exact ⟨hv, hn, prev_next h⟩

/-- A start past the end of a volume, a choice of its first chapter, and a jump link to a volume
without chapters. -/
theorem run_navigation_past_the_end :
    let opening : Chapter := { id := "ch-01".toList, title := "One".toList }
    let sealed : Chapter := { id := "ch-02".toList, title := "Two".toList, status := .locked }
    let vs : List Volume := [⟨"VOL_MAIN".toList, "Main".toList, [opening, sealed]⟩,
      ⟨"VOL_DAILY".toList, "Daily".toList, []⟩]
    ∃ s : Session FlagSet FlagSet, Catalog.ofVolumes vs = .ok s.catalog ∧
      s.position = ("VOL_MAIN".toList, 7) ∧ (∃ v i, s.view.1 = .notFound v i) ∧
      let s' := s.run [.prev, .select 0]
      s'.position = ("VOL_MAIN".toList, 0) ∧ s'.OnChapter ∧
      s'.next.1 = true ∧ s'.next.2.prev = (true, s') ∧
      (s'.run [.next, .select 1, .view]).OnChapter ∧
      s'.EntersEmpty (.jump "VOL_DAILY".toList "daily".toList) := by
  intro opening sealed vs
  obtain ⟨s, hc, hp⟩ : ∃ s : Session FlagSet FlagSet, Catalog.ofVolumes vs = .ok s.catalog ∧
      s.position = ("VOL_MAIN".toList, 7) := by
    obtain ⟨c, hc⟩ : ∃ c, Catalog.ofVolumes vs = .ok c := Catalog.exists_ofVolumes (by decide)
    exact ⟨⟨c, ⟨[]⟩, .empty, .empty, [], "VOL_MAIN".toList, 7⟩, hc, rfl⟩
  obtain ⟨hid, hindex⟩ := Prod.mk.inj hp
  have hmain : s.catalog.volume? s.volumeId = vs[0]? := by
    rw [hid]
    exact Catalog.volume?_eq_find? hc _
  have hdaily : s.catalog.volume? "VOL_DAILY".toList = vs[1]? := Catalog.volume?_eq_find? hc _
  have hcount : s.chapterCount = 2 := by
    rw [chapterCount, volume?, hmain]
    rfl
  have hprev : s.prev = (false, s) := by
    rw [prev, hcount, hindex]
    rfl
  have hselect : s.select 0 = (true, { s with index := 0 }) := by
    rw [select, Catalog.chapter?, hmain]
    rfl
  have hrun : s.run [.prev, .select 0] = { s with index := 0 } := by
    change (s.prev.2.select 0).2 = _
    rw [hprev, hselect]
  have hoff : ¬ s.OnChapter := by
    rw [onChapter_iff, hcount, hindex]
    decide
  have hlost : (∃ v i, s.view.1 = .notFound v i) ↔ ¬ s.OnChapter :=
    (run_navigation hc []).2.2.2.2.2.2.1
  have hlaws := run_navigation hc [.prev, .select 0]
  rw [hrun] at hlaws
  obtain ⟨-, -, hstep, -, -, -, -, hstay⟩ := hlaws
  refine ⟨s, hc, hp, hlost.2 hoff, ?_⟩
  rw [hrun]
  generalize hs' : ({ s with index := 0 } : Session FlagSet FlagSet) = s' at *
  have hcount' : s'.chapterCount = 2 := by rw [← hs']; exact hcount
  have hindex' : s'.index = 0 := by rw [← hs']
  have hon : s'.OnChapter := onChapter_iff.2 (by rw [hcount', hindex']; decide)
  have hnext : s'.next.1 = true := by
    rw [next, if_pos (by rw [hcount', hindex']; decide)]
  have hjump : s'.EntersEmpty (.jump "VOL_DAILY".toList "daily".toList) := by
    have hdaily' : s'.catalog.volume? "VOL_DAILY".toList = vs[1]? := by rw [← hs']; exact hdaily
    have hfollow : s'.follow (.jump "VOL_DAILY".toList "daily".toList) =
        (true, { s' with volumeId := "VOL_DAILY".toList, index := 0 }) := by
      rw [follow, Catalog.follow?, Catalog.target?, hdaily']
      rfl
    rw [EntersEmpty, hfollow, volume?, hdaily']
    exact ⟨rfl, rfl⟩
  have hmore : (s'.run [.next, .select 1, .view]).OnChapter := by
    refine (hstay hon [.next, .select 1, .view]).resolve_right ?_
    rintro ⟨done, n, hd, -⟩
    have hm : Op.follow n ∈ [.next, .select 1, .view] := hd.subset (by simp)
    simp at hm
  exact ⟨by rw [← hs', position, hid], hon, hnext, (hstep hnext).2.2, hmore, hjump⟩

end SerialNovel.Session
