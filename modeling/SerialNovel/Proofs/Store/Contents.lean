import SerialNovel.Proofs.Store.Refinement
import Mathlib.Data.List.Nodup

namespace SerialNovel

theorem eq_of_ascending {xs ys : List Text} (hx : xs.Pairwise (· < ·)) (hy : ys.Pairwise (· < ·))
    (h : ∀ id, id ∈ xs ↔ id ∈ ys) : xs = ys :=
  List.Perm.eq_of_pairwise (fun _ _ _ _ hab hba => absurd hba (List.lt_asymm hab)) hx hy
    ((List.perm_ext_iff_of_nodup hx.nodup hy.nodup).2 h)

namespace FlagSet

theorem mem_ids {s : FlagSet} {id : Text} : id ∈ s.ids ↔ s.has id := by simp [has]

theorem eq_of_has {s t : FlagSet} (h : ∀ id, s.has id ↔ t.has id) : s = t :=
  eq_of_ids (eq_of_ascending s.ascending t.ascending fun id => by rw [mem_ids, mem_ids, h])

/-- To put an id into its place is to sort the ids with it, in whatever order they are listed. -/
theorem ids_insert_of_sorted {s : FlagSet} {id : Text} (hid : s.has id = false) {listed : List Text}
    (hp : listed.Perm (s.ids ++ [id])) (hs : listed.Pairwise fun a b => ¬ b < a) :
    (s.insert id).ids = listed := by
  have hn : (s.ids ++ [id]).Nodup := by
    refine List.nodup_append.2 ⟨s.ascending.nodup, List.pairwise_singleton _ _, ?_⟩
    rintro x hx y hy rfl
    rw [List.mem_singleton.1 hy, mem_ids, hid] at hx
    cases hx
  have hlt : listed.Pairwise (· < ·) :=
    (hs.and (hp.nodup_iff.2 hn)).imp fun ⟨hle, hne⟩ =>
      (List.le_iff_lt_or_eq.1 (List.not_lt.1 hle)).resolve_right hne
  refine eq_of_ascending (s.insert id).ascending hlt fun x => ?_
  rw [hp.mem_iff, insert, mem_insertId, List.mem_append, List.mem_singleton, or_comm]

/-- What a place has in it that has never held anything but these ids. -/
def entry (s : FlagSet) : Entry :=
  if s.isEmpty then .absent else .file (some (Notation.writeIds s.ids))

theorem entry_of_has {s : FlagSet} {id : Text} (h : s.has id) :
    s.entry = .file (some (Notation.writeIds s.ids)) := by
  have hne : s.isEmpty = false := by
    rw [isEmpty, List.isEmpty_eq_false_iff]
    exact List.ne_nil_of_mem (mem_ids.2 h)
  rw [entry, hne]
  rfl

end FlagSet

/-- The id that a call records, if its answer says so. -/
def FlagCall.recorded? : FlagCall → FlagAnswer → Option Text
  | .set id _, .done (.ok ()) => some id
  | _, _ => none

namespace FlagFile

/-- The ids that some calls record, in the order of the calls. -/
def recorded (f : FlagFile) : List FlagCall → List Text
  | [] => []
  | c :: cs => (c.recorded? (f.call c).2).toList ++ (f.call c).1.recorded cs

/-- A file that has in it what was recorded since there was none. -/
def Plain (f : FlagFile) : Prop := f.disk.entry = f.ids.entry

variable {f : FlagFile}

theorem openAt_of_absent {d : Disk} (h : d.entry = .absent) : openAt d = .ok ⟨d, .empty⟩ := by
  simp [openAt, load, Disk.read, h, Except.map]

theorem Plain.synced (h : f.Plain) : f.Synced := by
  obtain ⟨⟨entry, blocked⟩, ids⟩ := f
  obtain rfl : entry = ids.entry := h
  unfold FlagSet.entry
  split
  · rename_i hids
    have he : ids = .empty := FlagSet.eq_of_ids (List.isEmpty_iff.1 hids)
    rw [he]
    rfl
  · exact synced_written ids blocked

/-- One call to a plain file leaves a plain file with the ids that it had and the one that the call
records. -/
theorem Plain.call (h : f.Plain) (c : FlagCall) :
    (f.call c).1.Plain ∧
      ∀ id, (f.call c).1.has id ↔ id ∈ (c.recorded? (f.call c).2).toList ∨ f.has id := by
  cases c with
  | set new refusal =>
    cases hk : f.ids.has new with
    | true =>
      rw [call_set_of_has hk]
      refine ⟨h, fun id => ⟨.inr, fun hid => hid.elim (fun hid => ?_) fun hid => hid⟩⟩
      obtain rfl : id = new := by simpa [FlagCall.recorded?] using hid
      exact hk
    | false =>
      cases refusal with
      | none =>
        rw [call_set_of_written h.synced hk]
        have hnew : (f.ids.insert new).has new := by simp [FlagSet.has_insert]
        refine ⟨(FlagSet.entry_of_has hnew).symm, fun id => ?_⟩
        simp [has, FlagSet.has_insert, FlagCall.recorded?]
      | some fault =>
        rw [call_set_of_refused h.synced hk]
        exact ⟨h, fun id => by simp [has, FlagCall.recorded?]⟩
  | has id => exact ⟨h, fun id => by simp [FlagFile.call, FlagCall.recorded?]⟩
  | size => exact ⟨h, fun id => by simp [FlagFile.call, FlagCall.recorded?]⟩
  | isEmpty => exact ⟨h, fun id => by simp [FlagFile.call, FlagCall.recorded?]⟩
  | reopen =>
    rw [FlagFile.call, reopen_of_synced h.synced]
    exact ⟨h, fun id => by simp [FlagCall.recorded?]⟩

theorem Plain.runCalls (h : f.Plain) (calls : List FlagCall) :
    (runCalls FlagFile.call f calls).1.Plain ∧
      ∀ id, (runCalls FlagFile.call f calls).1.has id ↔ id ∈ f.recorded calls ∨ f.has id := by
  induction calls generalizing f with
  | nil => exact ⟨h, fun id => by simp [SerialNovel.runCalls, recorded]⟩
  | cons c calls ih =>
    obtain ⟨hc, hid⟩ := h.call c
    obtain ⟨hr, hids⟩ := ih hc
    refine ⟨hr, fun id => (hids id).trans ?_⟩
    rw [hid, recorded, List.mem_append, or_left_comm, or_assoc]

/-- From a place without a file, the ids that are known are those that the calls record. -/
theorem plain_runCalls {d : Disk} (hd : d.entry = .absent) (calls : List FlagCall) :
    (SerialNovel.runCalls call ⟨d, .empty⟩ calls).1.Plain ∧
      (SerialNovel.runCalls call ⟨d, .empty⟩ calls).1.ids =
        .ofList (recorded ⟨d, .empty⟩ calls) := by
  have hf : Plain ⟨d, .empty⟩ := hd
  obtain ⟨hp, hids⟩ := hf.runCalls calls
  refine ⟨hp, FlagSet.eq_of_has fun id => ?_⟩
  rw [FlagSet.has_ofList]
  exact (hids id).trans (or_iff_left (by simp [has, FlagSet.has, FlagSet.empty]))

end FlagFile

/-- A place without a file can be opened, and after any calls, with the file opened again anywhere
in between, it has the ids in it that were recorded: it lists each once, in ascending order, and the
list is read back. So the contents are those of any other run that records the same ids. To record
a new id writes the sorted ids, in whatever order they were listed before. To record one that a file
has succeeds even while the disk refuses every write, and leaves ids and contents as they are. -/
theorem FlagFile.contents_run {d : Disk} (hd : d.entry = .absent) :
    (∃ f, openAt d = .ok f ∧ ∀ calls,
      let now := (runCalls call f calls).1
      let ids := now.ids.ids
      now.disk.entry =
        (if f.recorded calls = [] then .absent else .file (some (Notation.writeIds ids))) ∧
      ids.Pairwise (· < ·) ∧ (∀ id, id ∈ ids ↔ id ∈ f.recorded calls) ∧
      Notation.idsOfText (Notation.writeIds ids) = .ok ids ∧
      (∀ e : Disk, e.entry = .absent → ∀ g, openAt e = .ok g → ∀ others,
        (∀ id, id ∈ g.recorded others ↔ id ∈ f.recorded calls) →
          (runCalls call g others).1.disk.entry = now.disk.entry) ∧
      ∀ id, id ∉ f.recorded calls → ∀ listed : List Text, listed.Perm (ids ++ [id]) →
        (listed.Pairwise fun a b => ¬ b < a) →
          (now.call (.set id none)).1.disk.entry = .file (some (Notation.writeIds listed))) ∧
    ∀ (f : FlagFile) (id : Text) (refusal : Option DiskFault), f.has id →
      f.call (.set id refusal) = ({ f with disk.blocked := refusal }, .done (.ok ())) := by
  refine ⟨⟨⟨d, .empty⟩, openAt_of_absent hd, fun calls => ?_⟩,
    fun f id refusal hid => call_set_of_has hid refusal⟩
  intro now ids
  obtain ⟨hp, hids⟩ := plain_runCalls hd calls
  have hknown (id : Text) : now.has id ↔ id ∈ recorded ⟨d, .empty⟩ calls := by
    rw [has, hids]
    exact FlagSet.has_ofList
  refine ⟨?_, now.ids.ascending, fun id => FlagSet.mem_ids.trans (hknown id),
    Notation.idsOfText_writeIds ids, ?_, ?_⟩
  · -- the file is there as soon as an id is recorded
    split
    · rename_i hnone
      rw [hp, hids, hnone]
      rfl
    · rename_i hsome
      obtain ⟨id, hid⟩ := List.exists_mem_of_ne_nil _ hsome
      exact hp.trans (FlagSet.entry_of_has ((hknown id).2 hid))
  · intro e he g hg others hsame
    obtain rfl : ⟨e, .empty⟩ = g := Except.ok.inj ((openAt_of_absent he).symm.trans hg)
    obtain ⟨hp', hids'⟩ := plain_runCalls he others
    have heq : FlagSet.ofList (recorded ⟨e, .empty⟩ others) =
        .ofList (recorded ⟨d, .empty⟩ calls) :=
      FlagSet.eq_of_has fun id => by rw [FlagSet.has_ofList, FlagSet.has_ofList, hsame]
    rw [hp', hids', heq, ← hids, hp]
  · intro id hid listed hl hs
    have hnew : now.ids.has id = false := Bool.eq_false_iff.2 fun h => hid ((hknown id).1 h)
    rw [call_set_of_written hp.synced hnew, FlagSet.ids_insert_of_sorted hnew hl hs]

/-- Two ids recorded in either order, one of them twice and once after the disk has refused it. -/
theorem FlagFile.contents_run_in_either_order :
    let d : Disk := ⟨.absent, none⟩
    let calls : List FlagCall := [.set ['b'] none, .reopen, .set ['a'] none, .set ['b'] none]
    let others : List FlagCall :=
      [.set ['a'] none, .set ['b'] (some .notDirectory), .reopen, .set ['b'] none]
    d.entry = .absent ∧ ∃ f, openAt d = .ok f ∧
      (∀ id, id ∈ f.recorded others ↔ id ∈ f.recorded calls) ∧
      (runCalls call f others).1.disk.entry = (runCalls call f calls).1.disk.entry ∧
      (runCalls call f calls).1.disk.entry =
        .file (some "[\n    \"a\",\n    \"b\",\n]".toList) := by
  intro d calls others
  have h : d.entry = .absent := rfl
  obtain ⟨⟨f, hf, hrun⟩, -⟩ := contents_run h
  refine ⟨h, f, hf, ?_⟩
  obtain rfl := Except.ok.inj hf
  have hc : recorded ⟨d, .empty⟩ calls = [['b'], ['a'], ['b']] := by decide +kernel
  have ho : recorded ⟨d, .empty⟩ others = [['a'], ['b']] := by decide +kernel
  have hsame : ∀ id, id ∈ recorded ⟨d, .empty⟩ others ↔ id ∈ recorded ⟨d, .empty⟩ calls := by
    intro id
    rw [hc, ho]
    simp
    tauto
  obtain ⟨-, -, -, -, hd, -⟩ := hrun calls
  exact ⟨hsame, hd d h _ hf others hsame, by decide +kernel⟩

end SerialNovel
