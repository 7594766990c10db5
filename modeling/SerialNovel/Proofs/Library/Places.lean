import SerialNovel.Library.Catalog
import Std.Data.HashMap.Lemmas

namespace SerialNovel.Catalog

/-- The place of each volume is that of the first with its id. -/
def Indexes (vs : List Volume) (places : Std.HashMap String Nat) : Prop :=
  ∀ id : Text, places[String.ofList id]? = vs.findIdx? (·.id == id)

variable {vs done : List Volume} {places places' : Std.HashMap String Nat} {c : Catalog}

theorem indexes_empty : Indexes [] ∅ := by
  intro id
  simp

theorem Indexes.contains_iff (h : Indexes vs places) (id : Text) :
    places.contains (String.ofList id) ↔ ∃ v ∈ vs, v.id = id := by
  rw [Std.HashMap.contains_eq_isSome_getElem?, h id]
  simp

theorem Indexes.insert (h : Indexes done places) {v : Volume}
    (hv : places.contains (String.ofList v.id) = false) :
    Indexes (done ++ [v]) (places.insert (String.ofList v.id) done.length) := by
  intro id
  rw [Std.HashMap.getElem?_insert, List.findIdx?_append, ← h id]
  by_cases hid : v.id = id
  · subst hid
    have hn : places[String.ofList v.id]? = none := by
      rwa [Std.HashMap.contains_eq_isSome_getElem?, Option.isSome_eq_false_iff,
        Option.isNone_iff_eq_none] at hv
    simp [hn]
  · have hk : ¬ String.ofList v.id = String.ofList id := fun he => hid (String.ofList_injective he)
    simp [hid, hk]

theorem Indexes.index (h : Indexes done places) (hi : index done.length places vs = .ok places') :
    Indexes (done ++ vs) places' := by
  induction vs generalizing done places with
  | nil =>
    obtain rfl : places = places' := Except.ok.inj hi
    rwa [List.append_nil]
  | cons v vs ih =>
    rw [Catalog.index] at hi
    split at hi
    case isTrue => simp at hi
    case isFalse hv =>
      have hs := h.insert (Bool.eq_false_iff.2 hv)
      have hl : done.length + 1 = (done ++ [v]).length := by simp
      rw [hl] at hi
      simpa using ih hs hi

/-- The first volume, in order, whose id an earlier volume has. -/
def FirstRepeat (vs : List Volume) (v : Volume) : Prop :=
  ∃ before after, vs = before ++ v :: after ∧ (before.map (·.id)).Nodup ∧ ∃ u ∈ before, u.id = v.id

theorem FirstRepeat.not_nodup {v : Volume} (h : FirstRepeat vs v) : ¬ (vs.map (·.id)).Nodup := by
  obtain ⟨before, after, rfl, -, u, hu, hid⟩ := h
  intro hn
  rw [List.map_append, List.nodup_append] at hn
  exact hn.2.2 u.id (List.mem_map_of_mem hu) v.id (by simp) hid

theorem FirstRepeat.unique {v w : Volume} (hv : FirstRepeat vs v) (hw : FirstRepeat vs w) :
    v = w := by
  obtain ⟨before, after, rfl, hn, hu⟩ := hv
  obtain ⟨before', after', he, hn', hu'⟩ := hw
  rcases List.append_eq_append_iff.1 he with ⟨gap, rfl, hgap⟩ | ⟨gap, rfl, hgap⟩
  · cases gap with
    | nil => exact (List.cons.inj hgap).1
    | cons x gap =>
      obtain rfl := (List.cons.inj hgap).1
      exact absurd hn' (FirstRepeat.not_nodup ⟨before, gap, rfl, hn, hu⟩)
  · cases gap with
    | nil => exact (List.cons.inj hgap).1.symm
    | cons x gap =>
      obtain rfl := (List.cons.inj hgap).1
      exact absurd hn (FirstRepeat.not_nodup ⟨before', gap, rfl, hn', hu'⟩)

/-- Volumes are indexed up to the first one that repeats an id. -/
theorem Indexes.index_cases (h : Indexes done places) (hn : (done.map (·.id)).Nodup)
    (vs : List Volume) :
    ((∃ places', Catalog.index done.length places vs = .ok places') ∧
      ((done ++ vs).map (·.id)).Nodup) ∨
    ∃ v, FirstRepeat (done ++ vs) v ∧
      Catalog.index done.length places vs = .error (.duplicateVolume v.id) := by
  induction vs generalizing done places with
  | nil => exact .inl ⟨⟨places, rfl⟩, by simpa using hn⟩
  | cons v vs ih =>
    by_cases hv : places.contains (String.ofList v.id) = true
    · refine .inr ⟨v, ⟨done, vs, rfl, hn, (h.contains_iff v.id).1 hv⟩, ?_⟩
      rw [Catalog.index, if_pos hv]
    · have hnew : ∀ u ∈ done, u.id ≠ v.id :=
        fun u hu hid => hv ((h.contains_iff v.id).2 ⟨u, hu, hid⟩)
      have hs : ((done ++ [v]).map (·.id)).Nodup := by
        rw [List.map_append, List.nodup_append]
        exact ⟨hn, by simp, by simpa using hnew⟩
      have hi : Catalog.index done.length places (v :: vs) =
          Catalog.index (done ++ [v]).length
            (places.insert (String.ofList v.id) done.length) vs := by
        rw [Catalog.index, if_neg hv, List.length_append, List.length_singleton]
      rw [hi, List.append_cons done v vs]
      exact ih (h.insert (Bool.eq_false_iff.2 hv)) hs

theorem indexes_of_ofVolumes (h : ofVolumes vs = .ok c) : c.volumes = vs ∧ Indexes vs c.places := by
  unfold ofVolumes at h
  cases hi : index 0 ∅ vs with
  | error fault => simp [hi, Except.map] at h
  | ok places =>
    rw [hi] at h
    obtain rfl := Except.ok.inj h
    exact ⟨rfl, indexes_empty.index hi⟩

theorem ofVolumes_cases (vs : List Volume) :
    ((∃ c, ofVolumes vs = .ok c) ∧ (vs.map (·.id)).Nodup) ∨
      ∃ v, FirstRepeat vs v ∧ ofVolumes vs = .error (.duplicateVolume v.id) := by
  rcases indexes_empty.index_cases List.nodup_nil vs with ⟨⟨places, hi⟩, hn⟩ | ⟨v, hv, hi⟩
  · have hi : index 0 ∅ vs = .ok places := hi
    exact .inl ⟨⟨⟨vs, places⟩, by rw [ofVolumes, hi, Except.map]⟩, hn⟩
  · have hi : index 0 ∅ vs = .error (.duplicateVolume v.id) := hi
    exact .inr ⟨v, hv, by rw [ofVolumes, hi, Except.map]⟩

theorem exists_ofVolumes (h : (vs.map (·.id)).Nodup) : ∃ c, ofVolumes vs = .ok c := by
  rcases ofVolumes_cases vs with ⟨hc, -⟩ | ⟨v, hv, -⟩
  · exact hc
  · exact absurd h hv.not_nodup

theorem volume?_eq_find? (h : ofVolumes vs = .ok c) (id : Text) :
    c.volume? id = vs.find? (·.id == id) := by
  obtain ⟨rfl, hi⟩ := indexes_of_ofVolumes h
  rw [volume?, hi id, List.find?_eq_bind_findIdx?_getElem?]

theorem id_of_volume? (h : ofVolumes vs = .ok c) {id : Text} {v : Volume}
    (hv : c.volume? id = some v) : v.id = id := by
  rw [volume?_eq_find? h] at hv
  simpa using List.find?_some hv

theorem volume?_of_follow? (h : ofVolumes vs = .ok c) {n : Node} {v : Volume}
    (hn : c.follow? n = some v) : c.volume? v.id = some v := by
  cases n with
  | jump target label =>
    have ht : c.volume? target = some v := hn
    rwa [id_of_volume? h ht]
  | _ => simp [follow?] at hn

theorem exists_of_places (h : ofVolumes vs = .ok c) {key : String} {i : Nat}
    (hi : c.places[key]? = some i) : ∃ v, vs[i]? = some v ∧ v.id = key.toList := by
  obtain ⟨-, hx⟩ := indexes_of_ofVolumes h
  rw [← String.ofList_toList (s := key), hx key.toList] at hi
  obtain ⟨hl, hid, -⟩ := List.findIdx?_eq_some_iff_getElem.1 hi
  exact ⟨vs[i], List.getElem?_eq_getElem hl, by simpa using hid⟩

/-- Volumes make a catalog just if their ids are different. Else the first volume whose id an
earlier one has is reported. The catalog keeps the volumes, its places are places of theirs, and each
look-up finds what the first match in the list is. -/
theorem ofVolumes_searches (vs : List Volume) :
    ((∃ c, ofVolumes vs = .ok c) ↔ (vs.map (·.id)).Nodup) ∧
    (∀ fault, ofVolumes vs = .error fault ↔
      ∃ v, FirstRepeat vs v ∧ fault = .duplicateVolume v.id) ∧
    ∀ c, ofVolumes vs = .ok c →
      c.volumes = vs ∧
      (∀ (key : String) (i : Nat), c.places[key]? = some i →
        ∃ v, vs[i]? = some v ∧ v.id = key.toList) ∧
      (∀ id, c.volume? id = vs.find? (·.id == id)) ∧
      (∀ id i, c.chapter? id i = (vs.find? (·.id == id)).bind (·.chapters[i]?)) ∧
      (∀ id, c.target? id = vs.find? (·.id == id)) ∧
      (∀ target label, c.follow? (.jump target label) = vs.find? (·.id == target)) ∧
      ∀ n, n.kind ≠ .jump → c.follow? n = none := by
  refine ⟨⟨fun ⟨c, hc⟩ => ?_, exists_ofVolumes⟩, fun fault => ⟨fun hf => ?_, ?_⟩, fun c hc => ?_⟩
  · rcases ofVolumes_cases vs with ⟨-, hn⟩ | ⟨v, -, he⟩
    · exact hn
    · simp [hc] at he
  · rcases ofVolumes_cases vs with ⟨⟨c, hc⟩, -⟩ | ⟨v, hv, he⟩
    · simp [hc] at hf
    · exact ⟨v, hv, Except.error.inj (hf.symm.trans he)⟩
  · rintro ⟨v, hv, rfl⟩
    rcases ofVolumes_cases vs with ⟨-, hn⟩ | ⟨w, hw, he⟩
    · exact absurd hn hv.not_nodup
    · rwa [hv.unique hw]
  · have hfind := volume?_eq_find? hc
    refine ⟨(indexes_of_ofVolumes hc).1, fun key i => exists_of_places hc, hfind, fun id i => ?_,
      hfind, fun target _ => hfind target, fun n hn => ?_⟩
    · rw [chapter?, hfind]
    · cases n with
      | jump => exact absurd rfl hn
      | _ => rfl

end SerialNovel.Catalog
