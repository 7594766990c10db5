import SerialNovel.Text.Basic

namespace SerialNovel

/-- Puts an id into a strictly ascending list. -/
def insertId (id : Text) : List Text → List Text
  | [] => [id]
  | x :: xs =>
    if id < x then id :: x :: xs
    else if id = x then x :: xs
    else x :: insertId id xs

theorem mem_insertId {id y : Text} {xs : List Text} : y ∈ insertId id xs ↔ y = id ∨ y ∈ xs := by
  induction xs with
  | nil => simp [insertId]
  | cons x xs ih =>
    unfold insertId
    split
    · simp
    · split
      · simp_all
      · simp only [List.mem_cons, ih]
        exact or_left_comm

theorem pairwise_insertId (id : Text) {xs : List Text} (h : xs.Pairwise (· < ·)) :
    (insertId id xs).Pairwise (· < ·) := by
  induction h with
  | nil => simp [insertId]
  | @cons x xs hx hxs ih =>
    unfold insertId
    split
    · rename_i hlt
      refine .cons ?_ (.cons hx hxs)
      intro y hy
      rcases List.mem_cons.1 hy with rfl | hy
      · exact hlt
      · exact List.lt_trans hlt (hx y hy)
    · split
      · exact .cons hx hxs
      · rename_i hlt hne
        refine .cons ?_ ih
        intro y hy
        rcases mem_insertId.1 hy with rfl | hy
        · have hle := List.not_lt.1 hlt
          rcases List.le_iff_lt_or_eq.1 hle with h | h
          · exact h
          · exact absurd h.symm hne
        · exact hx y hy

structure FlagSet where
  ids : List Text
  ascending : ids.Pairwise (· < ·)

namespace FlagSet

def empty : FlagSet := ⟨[], .nil⟩

def has (s : FlagSet) (id : Text) : Bool := s.ids.contains id

def size (s : FlagSet) : Nat := s.ids.length

def isEmpty (s : FlagSet) : Bool := s.ids.isEmpty

def insert (s : FlagSet) (id : Text) : FlagSet :=
  ⟨insertId id s.ids, pairwise_insertId id s.ascending⟩

def ofList (ids : List Text) : FlagSet := ids.foldl insert empty

theorem has_insert (s : FlagSet) (id x : Text) :
    (s.insert id).has x = (x == id || s.has x) := by
  rw [Bool.eq_iff_iff]
  simp [has, insert, mem_insertId]

end FlagSet

end SerialNovel
