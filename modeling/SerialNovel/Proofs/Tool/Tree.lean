import SerialNovel.Tool.Tree
import Mathlib.Data.List.Nodup

namespace SerialNovel.Tree

/-- The entries that a listing gives. -/
def listed : Tree → List (Text × Tree)
  | file _ => []
  | dir entries _ => entries

def inside : Tree → List (Text × Tree)
  | file _ => []
  | dir entries hidden => entries ++ hidden

/-- Names lead from a tree to a file with some contents, through the entries that are `seen`. -/
inductive Leads (seen : Tree → List (Text × Tree)) : Tree → List Text → Except DiskFault Text → Prop
  | file (contents : Except DiskFault Text) : Leads seen (file contents) [] contents
  | entry {t u : Tree} {n : Text} {names : List Text} {contents : Except DiskFault Text}
      (hn : (n, u) ∈ seen t) (hu : Leads seen u names contents) :
      Leads seen t (n :: names) contents

abbrev Holds : Tree → List Text → Except DiskFault Text → Prop := Leads inside

/-- Names lead to a file, and each directory on the way lists the next one. -/
abbrev Shows : Tree → List Text → Except DiskFault Text → Prop := Leads listed

/-- Every directory lists all that is in it. -/
inductive Listed : Tree → Prop
  | file (contents : Except DiskFault Text) : Listed (file contents)
  | dir {entries : List (Text × Tree)} (ht : ∀ e ∈ entries, Listed e.2) : Listed (dir entries [])

/-- No directory has two entries of one name. -/
inductive Distinct : Tree → Prop
  | file (contents : Except DiskFault Text) : Distinct (file contents)
  | dir {entries hidden : List (Text × Tree)} (hn : ((entries ++ hidden).map Prod.fst).Nodup)
      (ht : ∀ e ∈ entries ++ hidden, Distinct e.2) : Distinct (dir entries hidden)

/-- The same tree with the listings of its directories, at any depth, in another order. -/
inductive Relisted : Tree → Tree → Prop
  | refl (t : Tree) : Relisted t t
  | trans {t u v : Tree} (htu : Relisted t u) (huv : Relisted u v) : Relisted t v
  | order {entries entries' : List (Text × Tree)} (hidden : List (Text × Tree))
      (h : entries.Perm entries') : Relisted (dir entries hidden) (dir entries' hidden)
  | entry {t u : Tree} (before after hidden : List (Text × Tree)) (n : Text) (h : Relisted t u) :
      Relisted (dir (before ++ (n, t) :: after) hidden) (dir (before ++ (n, u) :: after) hidden)

/-- The path that names lead to from a path, with a slash where none stands yet. -/
def pathTo : Text → List Text → Text
  | path, [] => path
  | path, n :: names =>
    pathTo (if path = [] ∨ path.getLast? = some '/' then path ++ n else path ++ '/' :: n) names

variable {t u : Tree} {names : List Text} {path : Text} {f g : Found}

theorem pathTo_cons (path n : Text) (names : List Text) :
    pathTo path (n :: names) = pathTo (child path n) names := by
  simp [pathTo, child]

theorem filesAmong_eq (names : List Text) (path : Text) (entries : List (Text × Tree)) :
    filesAmong names path entries =
      entries.flatMap fun e => filesBelow (names ++ [e.1]) (child path e.1) e.2 := by
  induction entries with
  | nil => rfl
  | cons e rest ih => rw [filesAmong, ih, List.flatMap_cons]

theorem filesBelow_dir (names : List Text) (path : Text) (entries hidden : List (Text × Tree)) :
    filesBelow names path (dir entries hidden) =
      entries.flatMap fun e => filesBelow (names ++ [e.1]) (child path e.1) e.2 := by
  rw [filesBelow, filesAmong_eq]

theorem mem_filesBelow_of_shows {inner : List Text} {contents : Except DiskFault Text}
    (h : Shows t inner contents) (names : List Text) (path : Text) :
    ⟨names ++ inner, pathTo path inner, contents⟩ ∈ filesBelow names path t := by
  induction h generalizing names path with
  | file contents => simp [filesBelow, pathTo]
  | @entry t u n inner contents hn _ ih =>
    cases t with
    | file contents => cases hn
    | dir entries hidden =>
      rw [filesBelow_dir, List.append_cons, pathTo_cons]
      exact List.mem_flatMap_of_mem hn (ih (names ++ [n]) (child path n))

mutual

theorem exists_shows : (t : Tree) → {names : List Text} → {path : Text} →
    f ∈ filesBelow names path t →
      ∃ inner, Shows t inner f.contents ∧ f.names = names ++ inner ∧ f.path = pathTo path inner
  | file contents, _, _, h => by
    obtain rfl := List.mem_singleton.1 h
    exact ⟨[], .file contents, by simp, rfl⟩
  | dir entries _, names, path, h => by
    obtain ⟨e, he, hf⟩ := exists_mem_entries entries h
    obtain ⟨inner, hi, hn, hp⟩ := hf
    rw [← pathTo_cons] at hp
    exact ⟨e.1 :: inner, .entry he hi, by rw [hn, List.append_assoc, List.singleton_append], hp⟩

theorem exists_mem_entries : (entries : List (Text × Tree)) → {names : List Text} →
    {path : Text} → f ∈ filesAmong names path entries →
      ∃ e ∈ entries, ∃ inner, Shows e.2 inner f.contents ∧ f.names = names ++ [e.1] ++ inner ∧
        f.path = pathTo (child path e.1) inner
  | [], _, _, h => by simp [filesAmong] at h
  | (n, t) :: rest, names, path, h => by
    rcases List.mem_append.1 h with h | h
    · exact ⟨(n, t), List.mem_cons_self, exists_shows t h⟩
    · obtain ⟨e, he, hf⟩ := exists_mem_entries rest h
      exact ⟨e, List.mem_cons_of_mem _ he, hf⟩

end

/-- What is found below a tree are the files that it shows, each with its names and its path. -/
theorem mem_filesBelow : f ∈ filesBelow [] path t ↔
    Shows t f.names f.contents ∧ f.path = pathTo path f.names := by
  constructor
  · intro h
    obtain ⟨inner, hi, hn, hp⟩ := exists_shows t h
    obtain rfl : f.names = inner := hn
    exact ⟨hi, hp⟩
  · rintro ⟨h, hp⟩
    have hm := mem_filesBelow_of_shows h [] path
    rwa [← hp] at hm

theorem listed_subset_inside (t : Tree) : t.listed ⊆ t.inside := by
  cases t with
  | file contents => exact List.Subset.refl _
  | dir entries hidden => exact List.subset_append_left entries hidden

theorem holds_of_shows {contents : Except DiskFault Text} (h : Shows t names contents) :
    Holds t names contents := by
  induction h with
  | file contents => exact .file contents
  | entry hn _ ih => exact .entry (listed_subset_inside _ hn) ih

theorem Listed.shows_iff (hl : Listed t) {contents : Except DiskFault Text} :
    Shows t names contents ↔ Holds t names contents := by
  refine ⟨holds_of_shows, fun h => ?_⟩
  induction h with
  | file contents => exact .file contents
  | entry hn _ ih =>
    cases hl with
    | file contents => cases hn
    | dir ht =>
      rw [inside, List.append_nil] at hn
      exact .entry hn (ih (ht _ hn))

theorem Relisted.perm_filesBelow (h : Relisted t u) (names : List Text) (path : Text) :
    (filesBelow names path t).Perm (filesBelow names path u) := by
  induction h generalizing names path with
  | refl t => exact .refl _
  | trans _ _ htu huv => exact (htu names path).trans (huv names path)
  | order hidden h =>
    rw [filesBelow_dir, filesBelow_dir]
    exact h.flatMap_right _
  | entry before after hidden n _ ih =>
    rw [filesBelow_dir, filesBelow_dir, List.flatMap_append, List.flatMap_append, List.flatMap_cons,
      List.flatMap_cons]
    exact .append_left _ (.append_right _ (ih _ _))

theorem Distinct.contents_eq (h : Distinct t) {c c' : Except DiskFault Text} (hc : Holds t names c)
    (hc' : Holds t names c') : c = c' := by
  induction hc with
  | file contents =>
    cases hc'
    rfl
  | entry hn _ ih =>
    cases h with
    | file contents => cases hn
    | dir hd ht =>
      cases hc' with
      | entry hn' hc' =>
        obtain ⟨-, rfl⟩ := Prod.mk.inj (List.inj_on_of_nodup_map hd hn hn' rfl)
        exact ih (ht _ hn) hc'

/-- In a tree with distinct names a file is known by the names that lead to it. -/
theorem Distinct.found_eq (h : Distinct t) (hf : f ∈ filesBelow [] path t)
    (hg : g ∈ filesBelow [] path t) (he : f.names = g.names) : f = g := by
  obtain ⟨hf, hfp⟩ := mem_filesBelow.1 hf
  obtain ⟨hg, hgp⟩ := mem_filesBelow.1 hg
  have hp : f.path = g.path := by rw [hfp, hgp, he]
  have hc : f.contents = g.contents :=
    h.contents_eq (holds_of_shows hf) (he ▸ holds_of_shows hg)
  cases f
  cases g
  simp only [Found.mk.injEq]
  exact ⟨he, hp, hc⟩

theorem Distinct.nodup_filesBelow (h : Distinct t) (names : List Text) (path : Text) :
    (filesBelow names path t).Nodup := by
  induction h generalizing names path with
  | file contents => exact List.nodup_singleton _
  | @dir entries hidden hn _ ih =>
    rw [filesBelow_dir, List.nodup_flatMap]
    have hne : entries.Pairwise fun e e' => e.1 ≠ e'.1 :=
      (List.pairwise_append.1 (List.pairwise_map.1 hn)).1
    refine ⟨fun e he => ih e (List.mem_append_left hidden he) _ _,
      hne.imp fun {e e'} hne f hf hf' => ?_⟩
    -- entries of different names lead to different files
    obtain ⟨inner, -, hi, -⟩ := exists_shows e.2 hf
    obtain ⟨inner', -, hi', -⟩ := exists_shows e'.2 hf'
    rw [hi, List.append_assoc, List.append_assoc, List.append_cancel_left_eq] at hi'
    exact hne (List.cons.inj hi').1

end SerialNovel.Tree
