import SerialNovel.Proofs.Session.Navigation

namespace SerialNovel

/-- A store in which a write that succeeds records its id and nothing else, and one that fails
leaves all that can be asked as it was. -/
class LawfulFlagStore (σ : Type) [FlagStore σ] : Prop where
  has_of_ok {s : σ} {id : Text} (h : (FlagStore.set s id).2 = .ok ()) (x : Text) :
    FlagStore.has (FlagStore.set s id).1 x = (x == id || FlagStore.has s x)
  has_of_error {s : σ} {id : Text} {fault : Fault} (h : (FlagStore.set s id).2 = .error fault)
    (x : Text) : FlagStore.has (FlagStore.set s id).1 x = FlagStore.has s x

namespace FlagStore

theorem has_set {σ : Type} [FlagStore σ] [LawfulFlagStore σ] {s : σ} {id x : Text} :
    has (set s id).1 x ↔ has s x ∨ x = id ∧ (set s id).2 = .ok () := by
  cases h : (set s id).2 with
  | ok => simp [LawfulFlagStore.has_of_ok h, or_comm]
  | error fault => simp [LawfulFlagStore.has_of_error h]

end FlagStore

instance : LawfulFlagStore FlagSet where
  has_of_ok _ x := FlagSet.has_insert _ _ x
  has_of_error h := nomatch h

/-- Whatever is on the disk, a file of ids knows an id once it is written. -/
instance : LawfulFlagStore FlagFile where
  has_of_ok {f id} h x := by
    simp only [FlagStore.set, FlagStore.has, FlagFile.set] at h ⊢
    split
    · rename_i hk
      -- a known id is not written again
      by_cases hx : x = id
      · simp [hx, hk]
      · simp [hx]
    · split
      · exact FlagSet.has_insert f.ids id x
      · simp_all
  has_of_error {f id fault} h x := by
    simp only [FlagStore.set, FlagStore.has, FlagFile.set] at h ⊢
    split
    · rfl
    · split
      · simp_all
      · rfl

instance : LawfulFlagStore Shelf where
  has_of_ok {s id} h x := by
    cases s with
    | memory ids => exact FlagSet.has_insert ids id x
    | file f => exact LawfulFlagStore.has_of_ok (s := f) h x
  has_of_error {s id fault} h x := by
    cases s with
    | memory ids => exact nomatch h
    | file f => exact LawfulFlagStore.has_of_error (s := f) h x

/-- The chapter that a view opens. One that is locked or missing stays shut. -/
def ChapterView.opened? : ChapterView → Option Text
  | ready id _ _ _ => some id
  | locked _ => none
  | notFound .. => none

namespace Session

variable {σ τ : Type} [FlagStore σ] [FlagStore τ] {s : Session σ τ}

def opened? (s : Session σ τ) : Op → Option Text
  | .view | .staged _ => s.view.1.opened?
  | .next | .prev | .select _ | .follow _ | .acknowledge _ => none

/-- A call opens this chapter and its write succeeds. -/
def Reads (s : Session σ τ) (op : Op) (id : Text) : Prop :=
  s.opened? op = some id ∧ (FlagStore.set s.readStore id).2 = .ok ()

/-- A call acknowledges this group and its write succeeds. -/
def Acknowledges (s : Session σ τ) (op : Op) (group : Text) : Prop :=
  op = .acknowledge group ∧ (s.perform op).1 = .recorded (.ok ())

/-- The store of read chapters after a call. One that opens a chapter writes its id, and no other
call writes. -/
def readAfter (s : Session σ τ) (op : Op) : σ :=
  match s.opened? op with
  | some id => (FlagStore.set s.readStore id).1
  | none => s.readStore

def ackAfter (s : Session σ τ) : Op → τ
  | .acknowledge group => (FlagStore.set s.ackStore (ackKey group)).1
  | _ => s.ackStore

omit [FlagStore τ] in
theorem view_eq_readAfter (s : Session σ τ) :
    s.view.2 = { s with readStore := s.readAfter .view } := by
  rw [readAfter, opened?, view]
  cases s.chapter? with
  | none => rfl
  | some c =>
    dsimp only
    split <;> rfl

omit [FlagStore τ] in
theorem opened?_view_iff {id : Text} : s.opened? .view = some id ↔
    ∃ c, s.chapter? = some c ∧ c.isLocked = false ∧ c.id = id := by
  rw [opened?, view]
  cases s.chapter? with
  | none => simp [ChapterView.opened?]
  | some c => cases hl : c.isLocked <;> simp [ChapterView.opened?, hl]

/-- Beside its stores a call changes the position of a session at most. -/
theorem exists_perform_eq (s : Session σ τ) (op : Op) : ∃ volumeId index, (s.perform op).2 =
    { s with readStore := s.readAfter op, ackStore := s.ackAfter op, volumeId, index } := by
  cases op with
  | view => exact ⟨_, _, s.view_eq_readAfter⟩
  | staged timing => exact ⟨_, _, s.view_eq_readAfter⟩
  | next =>
    rw [perform]
    rcases next_cases s with h | ⟨-, h⟩ <;> exact ⟨_, _, by rw [h]; rfl⟩
  | prev =>
    rw [perform]
    rcases prev_cases s with h | ⟨-, h⟩ <;> exact ⟨_, _, by rw [h]; rfl⟩
  | select i =>
    rw [perform]
    rcases select_cases s i with h | ⟨c, -, -, h⟩ <;> exact ⟨_, _, by rw [h]; rfl⟩
  | follow n =>
    rw [perform]
    rcases follow_cases s n with h | ⟨v, -, h⟩ <;> exact ⟨_, _, by rw [h]; rfl⟩
  | acknowledge group => exact ⟨_, _, rfl⟩

theorem readStore_perform (s : Session σ τ) (op : Op) :
    (s.perform op).2.readStore = s.readAfter op := by
  obtain ⟨v, i, h⟩ := s.exists_perform_eq op
  rw [h]

theorem ackStore_perform (s : Session σ τ) (op : Op) :
    (s.perform op).2.ackStore = s.ackAfter op := by
  obtain ⟨v, i, h⟩ := s.exists_perform_eq op
  rw [h]

theorem spoilerGroups_run (s : Session σ τ) (ops : List Op) :
    (s.run ops).spoilerGroups = s.spoilerGroups := by
  induction ops generalizing s with
  | nil => rfl
  | cons op ops ih =>
    obtain ⟨v, i, h⟩ := s.exists_perform_eq op
    refine (ih (s.perform op).2).trans ?_
    rw [h]

theorem ackKey_injective {g h : Text} (he : ackKey g = ackKey h) : g = h :=
  List.append_cancel_left he

section

variable [LawfulFlagStore σ]

theorem isRead_perform (s : Session σ τ) (op : Op) (id : Text) :
    (s.perform op).2.isRead id ↔ s.isRead id ∨ s.Reads op id := by
  unfold isRead Reads
  rw [readStore_perform, readAfter]
  cases s.opened? op with
  | none => simp
  | some opened =>
    dsimp only
    rw [FlagStore.has_set]
    refine or_congr_right ⟨?_, ?_⟩
    · rintro ⟨rfl, h⟩
      exact ⟨rfl, h⟩
    · rintro ⟨he, h⟩
      obtain rfl := Option.some.inj he
      exact ⟨rfl, h⟩

end

section

variable [LawfulFlagStore τ]

theorem hasAck_perform (s : Session σ τ) (op : Op) (g : Text) :
    FlagStore.has (s.perform op).2.ackStore (ackKey g) ↔
      FlagStore.has s.ackStore (ackKey g) ∨ s.Acknowledges op g := by
  rw [ackStore_perform]
  unfold ackAfter Acknowledges
  cases op with
  | acknowledge group =>
    dsimp only
    rw [FlagStore.has_set]
    refine or_congr_right ⟨?_, ?_⟩
    · rintro ⟨he, h⟩
      exact ⟨by rw [ackKey_injective he], congrArg Answer.recorded h⟩
    · rintro ⟨he, h⟩
      exact ⟨by rw [Op.acknowledge.inj he], Answer.recorded.inj h⟩
  | _ => simp

end

/-- What each call either keeps or brings about holds after a run if it held before or one of the
calls has brought it about. -/
theorem run_iff_of_perform {P : Session σ τ → Prop} {Q : Session σ τ → Op → Prop}
    (h : ∀ s op, P (s.perform op).2 ↔ P s ∨ Q s op) (s : Session σ τ) (ops : List Op) :
    P (s.run ops) ↔ P s ∨ ∃ done op, done ++ [op] <+: ops ∧ Q (s.run done) op := by
  induction ops generalizing s with
  | nil => simp [run]
  | cons op ops ih =>
    rw [show s.run (op :: ops) = (s.perform op).2.run ops from rfl, ih, h, or_assoc]
    refine or_congr_right ⟨?_, ?_⟩
    · rintro (hq | ⟨done, last, hd, hq⟩)
      · exact ⟨[], op, by simp, hq⟩
      · exact ⟨op :: done, last, List.cons_prefix_cons.2 ⟨rfl, hd⟩, hq⟩
    · rintro ⟨done, last, hd, hq⟩
      cases done with
      | nil =>
        obtain ⟨rfl, -⟩ := List.cons_prefix_cons.1 hd
        exact .inl hq
      | cons first done =>
        obtain ⟨rfl, hrest⟩ := List.cons_prefix_cons.1 hd
        exact .inr ⟨done, last, hrest, hq⟩

/-- What a reader sees of an answer, which is not whether an acknowledgment could be recorded. -/
def Answer.seen : Answer → Answer
  | .recorded _ => .recorded (.ok ())
  | a => a

def answers (s : Session σ τ) : List Op → List Answer
  | [] => []
  | op :: ops => (s.perform op).1 :: (s.perform op).2.answers ops

section

variable {σ' τ' : Type} [FlagStore σ'] [FlagStore τ']

/-- Sessions at the same place of the same catalog, whatever their stores. -/
structure SamePlace (s : Session σ τ) (t : Session σ' τ') : Prop where
  catalog_eq : t.catalog = s.catalog
  speakers_eq : t.speakers = s.speakers
  position_eq : t.position = s.position

namespace SamePlace

variable {t : Session σ' τ'}

omit [FlagStore τ] [FlagStore τ'] in
theorem view (h : SamePlace s t) : t.view.1 = s.view.1 ∧ SamePlace s.view.2 t.view.2 := by
  obtain ⟨hv, hi⟩ := Prod.mk.inj h.position_eq
  refine ⟨?_, ?_⟩
  · have hc : t.chapter? = s.chapter? := by rw [chapter?, h.catalog_eq, hv, hi, chapter?]
    unfold Session.view
    rw [hc]
    cases s.chapter? with
    | none => rw [hv, hi]
    | some c =>
      dsimp only
      rw [h.speakers_eq]
      split <;> rfl
  · rw [view_eq s, view_eq t]
    exact ⟨h.catalog_eq, h.speakers_eq, h.position_eq⟩

theorem perform (h : SamePlace s t) (op : Op) :
    (t.perform op).1.seen = (s.perform op).1.seen ∧
      SamePlace (s.perform op).2 (t.perform op).2 := by
  obtain ⟨hv, hi⟩ := Prod.mk.inj h.position_eq
  have hc := h.catalog_eq
  have hn : t.chapterCount = s.chapterCount := by rw [chapterCount, volume?, hc, hv]; rfl
  cases op with
  | view =>
    obtain ⟨he, h'⟩ := h.view
    exact ⟨by rw [Session.perform, Session.perform, he], h'⟩
  | staged timing =>
    obtain ⟨he, h'⟩ := h.view
    have hs : (s.staged timing).1 = Playback.start timing s.view.1.nodes := rfl
    have ht : (t.staged timing).1 = Playback.start timing t.view.1.nodes := rfl
    exact ⟨by rw [Session.perform, Session.perform, hs, ht, he], h'⟩
  | next =>
    simp only [Session.perform, next, hn, hi]
    split
    · exact ⟨rfl, hc, h.speakers_eq, by simp [position, hv]⟩
    · exact ⟨rfl, h⟩
  | prev =>
    simp only [Session.perform, prev, hn, hi]
    split
    · exact ⟨rfl, hc, h.speakers_eq, by simp [position, hv]⟩
    · exact ⟨rfl, h⟩
  | select i =>
    simp only [Session.perform, select, hc, hv]
    split
    · split
      · exact ⟨rfl, h⟩
      · exact ⟨rfl, rfl, h.speakers_eq, by simp [position]⟩
    · exact ⟨rfl, h⟩
  | follow n =>
    simp only [Session.perform, follow, hc]
    split
    · exact ⟨rfl, rfl, h.speakers_eq, rfl⟩
    · exact ⟨rfl, h⟩
  | acknowledge group => exact ⟨rfl, hc, h.speakers_eq, h.position_eq⟩

theorem run (h : SamePlace s t) (ops : List Op) :
    (t.answers ops).map Answer.seen = (s.answers ops).map Answer.seen ∧
      SamePlace (s.run ops) (t.run ops) := by
  induction ops generalizing s t with
  | nil => exact ⟨rfl, h⟩
  | cons op ops ih =>
    obtain ⟨he, h'⟩ := h.perform op
    obtain ⟨hes, h''⟩ := ih h'
    exact ⟨by rw [answers, answers, List.map_cons, List.map_cons, he, hes], h''⟩

end SamePlace

end

/-- A chapter is read if it was at the start or a call has opened it and recorded that. A group that
is listed needs an acknowledgment as long as there was none at the start and none was recorded.
Sessions at the same place give the same answers, whatever their stores hold or refuse. -/
theorem run_bookkeeping [LawfulFlagStore σ] [LawfulFlagStore τ] (s : Session σ τ) (ops : List Op) :
    let s' := s.run ops
    (∀ id, s'.isRead id ↔ FlagStore.has s.readStore id ∨
      ∃ done op, done ++ [op] <+: ops ∧ (s.run done).Reads op id) ∧
    (∀ id, s'.opened? .view = some id ↔
      ∃ c, s'.chapter? = some c ∧ c.isLocked = false ∧ c.id = id) ∧
    (∀ op, s'.opened? op = none → (s'.perform op).2.readStore = s'.readStore) ∧
    (∀ g, s'.needsAck g ↔ g ∈ s.spoilerGroups ∧ ¬ FlagStore.has s.ackStore (ackKey g) ∧
      ∀ done op, done ++ [op] <+: ops → ¬ (s.run done).Acknowledges op g) ∧
    (∀ g h, h ≠ g → (s'.perform (.acknowledge g)).2.needsAck h = s'.needsAck h) ∧
    ∀ {σ' τ' : Type} [FlagStore σ'] [FlagStore τ'] (t : Session σ' τ'),
      t.catalog = s.catalog → t.speakers = s.speakers → t.position = s.position →
      (t.answers ops).map Answer.seen = (s.answers ops).map Answer.seen ∧
        (t.run ops).position = s'.position := by
  refine ⟨fun id => ?_, fun id => opened?_view_iff, fun op h => ?_, fun g => ?_,
    fun g h hne => ?_, fun t hc hs hp => ?_⟩
  · exact run_iff_of_perform (P := fun s => s.isRead id) (fun s op => s.isRead_perform op id) s ops
  · rw [readStore_perform, readAfter, h]
  · have hack : FlagStore.has (s.run ops).ackStore (ackKey g) ↔ _ :=
      run_iff_of_perform (P := fun s => FlagStore.has s.ackStore (ackKey g))
        (fun s op => s.hasAck_perform op g) s ops
    simp only [needsAck, spoilerGroups_run, Bool.and_eq_true, List.contains_iff_mem,
      Bool.not_eq_true', ← Bool.not_eq_true, hack, not_or, not_exists, not_and]
  · have hack : FlagStore.has ((s.run ops).perform (.acknowledge g)).2.ackStore (ackKey h) ↔
        FlagStore.has (s.run ops).ackStore (ackKey h) := by
      rw [hasAck_perform]
      refine or_iff_left fun ⟨he, _⟩ => hne ?_
      exact (Op.acknowledge.inj he).symm
    rw [needsAck, needsAck, Bool.eq_iff_iff.2 hack]
    rfl
  · obtain ⟨hseen, hplace⟩ := SamePlace.run ⟨hc, hs, hp⟩ ops
    exact ⟨hseen, hplace.position_eq⟩

/-- A file that cannot be written beside a store in memory. Only one of the sessions has the chapter
read, and both show the same. -/
theorem run_bookkeeping_without_disk :
    let opening : Chapter := { id := "ch-01".toList, title := "One".toList }
    let vs : List Volume := [⟨"VOL_MAIN".toList, "Main".toList, [opening]⟩]
    let ops : List Op := [.view, .acknowledge "phase-2".toList]
    ∃ (s : Session FlagFile FlagSet) (t : Session FlagSet FlagSet),
      Catalog.ofVolumes vs = .ok s.catalog ∧
      ¬ (s.run ops).isRead "ch-01".toList ∧ (t.run ops).isRead "ch-01".toList ∧
      ¬ (s.run ops).needsAck "phase-2".toList ∧ (s.run ops).needsAck "phase-3".toList ∧
      (t.answers ops).map Answer.seen = (s.answers ops).map Answer.seen := by
  intro opening vs ops
  obtain ⟨c, hc⟩ : ∃ c, Catalog.ofVolumes vs = .ok c := Catalog.exists_ofVolumes (by decide)
  have hmain : c.volume? "VOL_MAIN".toList = vs[0]? := Catalog.volume?_eq_find? hc _
  let groups := ["phase-2".toList, "phase-3".toList]
  let s : Session FlagFile FlagSet :=
    ⟨c, ⟨[]⟩, ⟨.withoutParent, .empty⟩, .empty, groups, "VOL_MAIN".toList, 0⟩
  let t : Session FlagSet FlagSet := ⟨c, ⟨[]⟩, .empty, .empty, groups, "VOL_MAIN".toList, 0⟩
  have hchapter : t.chapter? = some opening := by
    change c.chapter? _ 0 = _
    rw [Catalog.chapter?, hmain]
    rfl
  obtain ⟨hreads, -, -, hacks, -, hsame⟩ := run_bookkeeping s ops
  have hreadt := (run_bookkeeping t ops).1 "ch-01".toList
  refine ⟨s, t, hc, fun h => ?_, hreadt.2 (.inr ?_), fun h => ?_, (hacks _).2 ⟨?_, ?_, ?_⟩,
    (hsame t rfl rfl rfl).1⟩
  · obtain h | ⟨done, op, hd, ho, hw⟩ := (hreads _).1 h
    · exact absurd h Bool.false_ne_true
    · cases done with
      | nil => cases hw
      | cons first done =>
        have hm : done ++ [op] <+: [.acknowledge "phase-2".toList] := (List.cons_prefix_cons.1 hd).2
        obtain rfl : op = .acknowledge "phase-2".toList := by simpa using hm.subset (by simp)
        cases ho
  · exact ⟨[], .view, by simp [ops], opened?_view_iff.2 ⟨opening, hchapter, rfl, rfl⟩, rfl⟩
  · exact ((hacks _).1 h).2.2 [.view] (.acknowledge "phase-2".toList) (by simp [ops]) ⟨rfl, rfl⟩
  · exact List.mem_cons_of_mem _ List.mem_cons_self
  · exact Bool.false_ne_true
  · rintro done op hd ⟨rfl, -⟩
    have hm : Op.acknowledge "phase-3".toList ∈ ops := hd.subset (by simp)
    simp [ops] at hm

end Session

end SerialNovel
