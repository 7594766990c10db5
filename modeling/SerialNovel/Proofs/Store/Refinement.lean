import SerialNovel.Proofs.Notation.Ids
import SerialNovel.Proofs.Text.Trim
import SerialNovel.Store.FlagStore

namespace SerialNovel

theorem insertId_of_mem {id : Text} {xs : List Text} (h : xs.Pairwise (· < ·)) (hm : id ∈ xs) :
    insertId id xs = xs := by
  induction h with
  | nil => cases hm
  | @cons x xs hx hxs ih =>
    rcases List.mem_cons.1 hm with rfl | hm
    · rw [insertId, if_neg (List.lt_irrefl id), if_pos rfl]
    · have hlt := hx id hm
      have hne : id ≠ x := fun he => List.lt_irrefl x (he ▸ hlt)
      rw [insertId, if_neg (List.lt_asymm hlt), if_neg hne, ih hm]

theorem insertId_of_lt {id : Text} {xs : List Text} (h : ∀ x ∈ xs, x < id) :
    insertId id xs = xs ++ [id] := by
  induction xs with
  | nil => rfl
  | cons x xs ih =>
    have hlt := h x List.mem_cons_self
    have hne : id ≠ x := fun he => List.lt_irrefl x (he ▸ hlt)
    have ht := ih fun y hy => h y (List.mem_cons_of_mem x hy)
    rw [insertId, if_neg (List.lt_asymm hlt), if_neg hne, ht, List.cons_append]

namespace FlagSet

theorem eq_of_ids {s t : FlagSet} (h : s.ids = t.ids) : s = t := by
  cases s
  cases t
  simpa using h

theorem insert_of_has {s : FlagSet} {id : Text} (h : s.has id) : s.insert id = s :=
  eq_of_ids (insertId_of_mem s.ascending (by simpa [has] using h))

theorem has_foldl_insert {s : FlagSet} {xs : List Text} {id : Text} :
    (xs.foldl insert s).has id ↔ id ∈ xs ∨ s.has id := by
  induction xs generalizing s with
  | nil => simp
  | cons x xs ih =>
    rw [List.foldl_cons, ih, has_insert]
    simp only [Bool.or_eq_true, beq_iff_eq, List.mem_cons]
    rw [← or_assoc, or_comm (a := id ∈ xs)]

theorem has_ofList {ids : List Text} {id : Text} : (ofList ids).has id ↔ id ∈ ids := by
  have hempty : empty.has id = false := rfl
  simp [ofList, has_foldl_insert, hempty]

theorem ids_foldl_insert {s : FlagSet} {xs : List Text} (h : (s.ids ++ xs).Pairwise (· < ·)) :
    (xs.foldl insert s).ids = s.ids ++ xs := by
  induction xs generalizing s with
  | nil => simp
  | cons x xs ih =>
    have hx : (s.insert x).ids = s.ids ++ [x] :=
      insertId_of_lt fun y hy => (List.pairwise_append.1 h).2.2 y hy x List.mem_cons_self
    rw [List.foldl_cons, ih (by simpa [hx] using h), hx, List.append_assoc, List.singleton_append]

theorem ofList_ids (s : FlagSet) : ofList s.ids = s := by
  have hs : (empty.ids ++ s.ids).Pairwise (· < ·) := s.ascending
  exact eq_of_ids (ids_foldl_insert hs)

end FlagSet

/-- What is asked of a store of ids. -/
inductive FlagCall
  /-- Records an id at a moment where the disk refuses writes, or does not. -/
  | set (id : Text) (refusal : Option DiskFault)
  | has (id : Text)
  | size
  | isEmpty
  | reopen

inductive FlagAnswer
  | done (result : Except Fault Unit)
  | flag (b : Bool)
  | count (n : Nat)

/-- A call to a file of ids. A file that cannot be opened again stays as it was. -/
def FlagFile.call (f : FlagFile) : FlagCall → FlagFile × FlagAnswer
  | .set id refusal =>
    let (f, result) := { f with disk.blocked := refusal }.set id
    (f, .done result)
  | .has id => (f, .flag (f.has id))
  | .size => (f, .count f.ids.size)
  | .isEmpty => (f, .flag f.ids.isEmpty)
  | .reopen =>
    match f.reopen with
    | .ok f => (f, .done (.ok ()))
    | .error fault => (f, .done (.error fault))

/-- Why a write fails that records an id. A known id is not written. -/
def FlagSet.writeFault? (s : FlagSet) (id : Text) (refusal : Option DiskFault) : Option Fault :=
  if s.has id then none else refusal.map .disk

/-- The same call to a set in memory, which passes over the ids whose writes fail. -/
def FlagSet.call (s : FlagSet) : FlagCall → FlagSet × FlagAnswer
  | .set id refusal =>
    match s.writeFault? id refusal with
    | some fault => (s, .done (.error fault))
    | none =>
      let (s, result) := FlagStore.set s id
      (s, .done result)
  | .has id => (s, .flag (s.has id))
  | .size => (s, .count s.size)
  | .isEmpty => (s, .flag s.isEmpty)
  | .reopen => (s, .done (.ok ()))

def runCalls {σ : Type} (call : σ → FlagCall → σ × FlagAnswer) (s : σ) :
    List FlagCall → σ × List FlagAnswer
  | [] => (s, [])
  | c :: cs =>
    let (s, a) := call s c
    let (s, as) := runCalls call s cs
    (s, a :: as)

/-- The ids that a place has in it: none if no file is there or it is blank. -/
inductive HoldsIds : Entry → List Text → Prop
  | absent : HoldsIds .absent []
  | blank {t : Text} (h : ∀ c ∈ t, Text.isBlank c) : HoldsIds (.file (some t)) []
  | listed {t : Text} {ids : List Text} (h : Notation.idsOfText t = .ok ids) :
      HoldsIds (.file (some t)) ids

namespace FlagFile

theorem load_of_holdsIds {d : Disk} {ids : List Text} (h : HoldsIds d.entry ids) :
    load d = .ok (.ofList ids) := by
  generalize he : d.entry = e at h
  cases h with
  | absent => simp [load, Disk.read, he, FlagSet.ofList]
  | @blank t h => simp [load, Disk.read, he, Text.trim_eq_nil_iff.2 h, FlagSet.ofList]
  | @listed t ids h =>
    have ht : Text.trim t ≠ [] := fun ht => by
      simp [Notation.idsOfText_of_blank (Text.trim_eq_nil_iff.1 ht)] at h
    simp [load, Disk.read, he, ht, h, Except.map]

/-- The file has in it what is known of it. -/
def Synced (f : FlagFile) : Prop := load f.disk = .ok f.ids

theorem reopen_of_synced {f : FlagFile} (h : f.Synced) : f.reopen = .ok f := by
  rw [reopen, openAt, show load f.disk = .ok f.ids from h]
  rfl

variable {f : FlagFile}

theorem writeFault?_of_synced (h : f.Synced) (refusal : Option DiskFault) :
    ({ f.disk with blocked := refusal } : Disk).writeFault? = refusal := by
  have he : f.disk.entry ≠ .directory := fun he => by
    simp [Synced, load, Disk.read, he] at h
  simp [Disk.writeFault?, he]

theorem call_set_of_has {id : Text} (hk : f.ids.has id) (refusal : Option DiskFault) :
    f.call (.set id refusal) = ({ f with disk.blocked := refusal }, .done (.ok ())) := by
  simp [call, set, has, hk]

theorem call_set_of_refused (h : f.Synced) {id : Text} (hk : f.ids.has id = false)
    (fault : DiskFault) : f.call (.set id (some fault)) =
      ({ f with disk.blocked := some fault }, .done (.error (.disk fault))) := by
  have hw := writeFault?_of_synced h (some fault)
  simp [call, set, has, hk, Disk.write, Disk.replace, hw]

theorem call_set_of_written (h : f.Synced) {id : Text} (hk : f.ids.has id = false) :
    f.call (.set id none) =
      (⟨⟨.file (some (Notation.writeIds (f.ids.insert id).ids)), none⟩, f.ids.insert id⟩,
        .done (.ok ())) := by
  have hw := writeFault?_of_synced h none
  simp [call, set, has, hk, Disk.write, Disk.replace, hw]

theorem synced_written (ids : FlagSet) (blocked : Option DiskFault) :
    Synced ⟨⟨.file (some (Notation.writeIds ids.ids)), blocked⟩, ids⟩ := by
  have hl := load_of_holdsIds (d := ⟨.file (some (Notation.writeIds ids.ids)), blocked⟩)
    (.listed (Notation.idsOfText_writeIds ids.ids))
  rwa [FlagSet.ofList_ids] at hl

/-- One call keeps file and memory together and is answered as in memory. -/
theorem call_of_synced (h : f.Synced) (c : FlagCall) :
    (f.call c).1.Synced ∧ (f.call c).1.ids = (f.ids.call c).1 ∧
      (f.call c).2 = (f.ids.call c).2 := by
  cases c with
  | set id refusal =>
    cases hk : f.ids.has id with
    | true =>
      -- nothing is written, so it does not matter whether the disk refuses
      have hm : f.ids.call (.set id refusal) = (f.ids, .done (.ok ())) := by
        simp [FlagSet.call, FlagSet.writeFault?, FlagStore.set, hk, FlagSet.insert_of_has hk]
      rw [call_set_of_has hk, hm]
      exact ⟨h, rfl, rfl⟩
    | false =>
      cases refusal with
      | none =>
        rw [call_set_of_written h hk]
        simp only [FlagSet.call, FlagSet.writeFault?, hk]
        exact ⟨synced_written _ _, rfl, rfl⟩
      | some fault =>
        rw [call_set_of_refused h hk]
        simp only [FlagSet.call, FlagSet.writeFault?, hk]
        exact ⟨h, rfl, rfl⟩
  | has id => exact ⟨h, rfl, rfl⟩
  | size => exact ⟨h, rfl, rfl⟩
  | isEmpty => exact ⟨h, rfl, rfl⟩
  | reopen =>
    rw [call, reopen_of_synced h]
    exact ⟨h, rfl, rfl⟩

theorem runCalls_of_synced (h : f.Synced) (calls : List FlagCall) :
    (runCalls call f calls).1.Synced ∧
      (runCalls call f calls).1.ids = (runCalls FlagSet.call f.ids calls).1 ∧
      (runCalls call f calls).2 = (runCalls FlagSet.call f.ids calls).2 := by
  induction calls generalizing f with
  | nil => exact ⟨h, rfl, rfl⟩
  | cons c calls ih =>
    obtain ⟨hs, hids, ha⟩ := call_of_synced h c
    obtain ⟨hs', hids', ha'⟩ := ih hs
    simp only [runCalls]
    rw [← hids, ← ha, ← ha']
    exact ⟨hs', hids', rfl⟩

theorem unchanged_of_refused {id : Text} {refusal : Option DiskFault} {fault : Fault}
    (ha : (f.call (.set id refusal)).2 = .done (.error fault)) :
    (f.call (.set id refusal)).1.ids = f.ids ∧
      (f.call (.set id refusal)).1.disk.entry = f.disk.entry := by
  simp only [call, set] at ha ⊢
  split
  · exact ⟨rfl, rfl⟩
  · split <;> simp_all

end FlagFile

namespace FlagSet

variable {s : FlagSet} {id : Text}

theorem has_call (h : s.has id) (c : FlagCall) : (s.call c).1.has id := by
  cases c with
  | set other refusal =>
    simp only [call]
    split
    · exact h
    · simp [FlagStore.set, has_insert, h]
  | _ => exact h

theorem has_runCalls (h : s.has id) (calls : List FlagCall) :
    (runCalls call s calls).1.has id := by
  induction calls generalizing s with
  | nil => exact h
  | cons c calls ih => exact ih (has_call h c)

theorem has_of_done {refusal : Option DiskFault}
    (ha : (s.call (.set id refusal)).2 = .done (.ok ())) :
    (s.call (.set id refusal)).1.has id := by
  simp only [call] at ha ⊢
  split
  · simp_all
  · simp [FlagStore.set, has_insert]

end FlagSet

/-- A place without a file, with a blank one or with a list of ids can be opened, and then these ids
are known. Any calls are answered as by a set in memory that starts with them and passes over the
writes that fail; the file can be opened again and then knows the same ids; a write that fails
changes neither the ids nor the file; and an id whose recording succeeds is known from then on. The
lists that are written are read back, whatever the ids are. -/
theorem FlagFile.refines {d : Disk} {ids : List Text} (h : HoldsIds d.entry ids) :
    (∃ f, openAt d = .ok f ∧ (∀ id, f.has id ↔ id ∈ ids) ∧ ∀ calls,
      let now := (runCalls call f calls).1
      (runCalls call f calls).2 = (runCalls FlagSet.call (.ofList ids) calls).2 ∧
      now.ids = (runCalls FlagSet.call (.ofList ids) calls).1 ∧
      now.reopen = .ok now ∧
      (∀ id refusal fault, (now.call (.set id refusal)).2 = .done (.error fault) →
        (now.call (.set id refusal)).1.ids = now.ids ∧
          (now.call (.set id refusal)).1.disk.entry = now.disk.entry) ∧
      ∀ id refusal later, (now.call (.set id refusal)).2 = .done (.ok ()) →
        (runCalls call (now.call (.set id refusal)).1 later).1.has id) ∧
    ∀ list : List Text, Notation.idsOfText (Notation.writeIds list) = .ok list := by
  refine ⟨⟨⟨d, .ofList ids⟩, ?_, fun _ => FlagSet.has_ofList, fun calls => ?_⟩,
    Notation.idsOfText_writeIds⟩
  · rw [openAt, load_of_holdsIds h]
    rfl
  · have hs : Synced ⟨d, .ofList ids⟩ := load_of_holdsIds h
    obtain ⟨hnow, hids, ha⟩ := runCalls_of_synced hs calls
    refine ⟨ha, hids, reopen_of_synced hnow, fun _ _ _ => unchanged_of_refused, ?_⟩
    intro id refusal later hdone
    obtain ⟨hset, hids', ha'⟩ := call_of_synced hnow (.set id refusal)
    -- memory takes the id too, and no later call makes it forget one
    have hknown := FlagSet.has_of_done (ha'.symm.trans hdone)
    rw [has, (runCalls_of_synced hset later).2.1, hids']
    exact FlagSet.has_runCalls hknown later

/-- A list with an escaped and an empty id, and a quote that is refused before it is recorded. -/
theorem FlagFile.refines_quote_after_refusal :
    HoldsIds (.file (some "[\"a\\tb\", \"\"]".toList)) [['a', '\t', 'b'], []] ∧
    ∃ f, openAt ⟨.file (some "[\"a\\tb\", \"\"]".toList), none⟩ = .ok f ∧
      (runCalls call f [.has ['a', '\t', 'b'], .set ['"'] (some .notDirectory), .has ['"'],
          .set ['"'] none, .reopen, .has ['"'], .size]).2 =
        [.flag true, .done (.error (.disk .notDirectory)), .flag false,
          .done (.ok ()), .done (.ok ()), .flag true, .count 3] := by
  have h : HoldsIds (.file (some "[\"a\\tb\", \"\"]".toList)) [['a', '\t', 'b'], []] :=
    .listed (by decide +kernel)
  obtain ⟨⟨f, hf, -, hrun⟩, -⟩ := refines (d := ⟨_, none⟩) h
  exact ⟨h, f, hf, (hrun _).1.trans rfl⟩

end SerialNovel
