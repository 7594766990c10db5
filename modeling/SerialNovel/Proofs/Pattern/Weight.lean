import SerialNovel.Pattern.Weight
import SerialNovel.Proofs.Pattern.Heading
import Mathlib.Algebra.GroupWithZero.Nat

namespace SerialNovel.Pattern

namespace Layout

variable {l : Layout} {n : Nat}

@[simp] theorem weight_add : (l.add n).weight = l.weight + 32 * n := by
  simp only [weight, add, stateWeight]
  omega

@[simp] theorem weight_addListing : (l.addListing n).weight = l.weight + 32 + 8 * n := by
  simp only [weight, addListing, stateWeight, wayWeight]
  omega

@[simp] theorem weight_addBranches : (l.addBranches n).weight = l.weight + 4 * n := by
  simp only [weight, addBranches, branchWeight]
  omega

def plus (l k : Layout) : Layout := ⟨l.states + k.states, l.ways + k.ways⟩

theorem weight_plus (l k : Layout) : (l.plus k).weight = l.weight + k.weight := by
  simp only [weight, plus, stateWeight]
  omega

end Layout

/-- What is added to a layout does not depend on it. -/
def Shifts (f : Layout → Layout) : Prop := ∀ l k : Layout, f (l.plus k) = (f l).plus k

theorem Shifts.weight_eq {f : Layout → Layout} (h : Shifts f) (l : Layout) :
    (f l).weight = l.weight + (f ⟨0, 0⟩).weight := by
  have hl : l = Layout.plus ⟨0, 0⟩ l := by simp [Layout.plus]
  calc (f l).weight
      = (f (Layout.plus ⟨0, 0⟩ l)).weight := by rw [← hl]
    _ = l.weight + (f ⟨0, 0⟩).weight := by rw [h, Layout.weight_plus, Nat.add_comm]

theorem shifts_add (n : Nat) : Shifts (Layout.add n) := by
  intro l k
  simp [Layout.add, Layout.plus, Nat.add_right_comm]

theorem shifts_addListing (n : Nat) : Shifts (Layout.addListing n) := by
  intro l k
  simp [Layout.addListing, Layout.plus, Nat.add_right_comm]

theorem shifts_addBranches (n : Nat) : Shifts (Layout.addBranches n) := by
  intro l k
  simp [Layout.addBranches, Layout.plus, Nat.add_right_comm]

theorem foldl_plus {α : Type} {f : Layout → α → Layout} (h : ∀ x, Shifts fun l => f l x)
    (xs : List α) (l k : Layout) : xs.foldl f (l.plus k) = (xs.foldl f l).plus k := by
  induction xs generalizing l with
  | nil => rfl
  | cons x xs ih => rw [List.foldl_cons, List.foldl_cons, ← ih, ← h x l k]

theorem shifts_layTree (n : Nat) (ws : List (List Nat)) : Shifts (layTree n ws) := by
  induction n generalizing ws with
  | zero => exact fun l k => rfl
  | succ n ih =>
    intro l k
    unfold layTree
    split
    · rfl
    · dsimp only
      rw [foldl_plus, shifts_add, shifts_addBranches]
      intro p l k
      dsimp only
      rw [foldl_plus fun h => ih (tailsOf p h)]
      split
      · rw [shifts_add]
      · rw [shifts_addListing]

theorem shifts_layWords (d : Direction) (ts : List Text) : Shifts (layWords d ts) := by
  intro l k
  rw [layWords, layWords, shifts_add, shifts_layTree]

/-- A fold whose steps add to a measure adds at most all that they add. -/
theorem foldl_le {σ α : Type} (w : σ → Nat) (c : Nat) (cost : α → Nat) (step : σ → α → σ)
    (h : ∀ s x, w (step s x) ≤ w s + c * cost x) (xs : List α) (s : σ) :
    w (xs.foldl step s) ≤ w s + c * (xs.map cost).sum := by
  induction xs generalizing s with
  | nil => exact Nat.le_add_right ..
  | cons x xs ih =>
    have hx := h s x
    have hxs := ih (step s x)
    rw [List.foldl_cons, List.map_cons, List.sum_cons, Nat.mul_add]
    omega

/-- A state that is used again adds nothing. -/
theorem weight_state_le {slots n : Nat} {key : List Nat} {add : Layout → Layout}
    (h : ∀ l, (add l).weight ≤ l.weight + n) (s : Sharing) :
    (s.state slots key add).2.layout.weight ≤ s.layout.weight + n := by
  unfold Sharing.state
  dsimp only
  split
  · exact Nat.le_add_right ..
  · exact h s.layout

def byteCount (bs : List ByteRanges) : Nat := (bs.map List.length).sum

theorem byHead_le (bs : List ByteRanges) :
    ((byHead bs).map fun g => byteCount g.2).sum + (byHead bs).length ≤ byteCount bs := by
  induction bs with
  | nil => exact Nat.le_refl 0
  | cons b bs ih =>
    cases b with
    | nil => simpa [byHead, byteCount] using ih
    | cons r rest =>
      unfold byHead
      cases hb : byHead bs with
      | nil => simp [byteCount]
      | cons g groups =>
        rw [hb] at ih
        simp only [byteCount, List.map_cons, List.sum_cons, List.length_cons] at ih ⊢
        split <;> simp only [List.map_cons, List.map_nil, List.sum_cons, List.sum_nil,
          List.length_cons] <;> omega

theorem weight_layReader_le (target n : Nat) (bs : List ByteRanges) (s : Sharing) :
    (layReader target n bs s).2.layout.weight ≤ s.layout.weight + 40 * byteCount bs := by
  induction n generalizing bs s with
  | zero => exact Nat.le_add_right ..
  | succ n ih =>
    unfold layReader
    dsimp only
    split
    · exact Nat.le_add_right ..
    · rename_i hne
      have hpos : 0 < (byHead bs).length := List.length_pos_of_ne_nil (by simpa using hne)
      have hle := byHead_le bs
      -- a state weighs no more than the first bytes of its groups, as there is one at least
      calc _ ≤ _ + (32 + 8 * (byHead bs).length) :=
            weight_state_le (fun l => by simp [Nat.add_assoc]) _
        _ ≤ s.layout.weight + 40 * ((byHead bs).map fun g => byteCount g.2).sum +
              (32 + 8 * (byHead bs).length) :=
            Nat.add_le_add_right (foldl_le (fun st : List Nat × Sharing => st.2.layout.weight) 40
              (fun g => byteCount g.2) _ (fun st g => ih g.2 st.2) (byHead bs) _) _
        _ ≤ s.layout.weight + 40 * byteCount bs := by omega

/-- What a set weighs at most in either direction. -/
def setWeight (s : CharSet) : Nat :=
  64 + 40 * byteCount (byteRanges s) + 4 * (byteRanges s).length + 8 * s.ranges.length

theorem weight_layForwards_le (bs : List ByteRanges) (l : Layout) :
    (layForwards bs l).weight ≤ l.weight + 32 + 40 * byteCount bs := by
  have h := weight_layReader_le l.states 5 bs ⟨l.add 1, ∅⟩
  rwa [Layout.weight_add] at h

theorem weight_layBackwards_le (bs : List ByteRanges) (l : Layout) :
    (layBackwards bs l).weight ≤ l.weight + 64 + 32 * byteCount bs + 4 * bs.length := by
  unfold layBackwards
  dsimp only
  rw [Layout.weight_addBranches]
  apply Nat.add_le_add_right
  calc _ ≤ (l.add 2).weight + 32 * (bs.map List.length).sum := by
        apply foldl_le (fun s : Sharing => s.layout.weight)
        intro s b
        calc _ ≤ s.layout.weight + 32 * (b.map fun _ => 1).sum :=
              foldl_le (fun st : Nat × Sharing => st.2.layout.weight) 32 (fun _ => 1) _
                (fun st r => weight_state_le (fun l => Nat.le_of_eq Layout.weight_add) st.2) b _
          _ = s.layout.weight + 32 * b.length := by simp
    _ = l.weight + 64 + 32 * byteCount bs := by rw [Layout.weight_add, byteCount]

theorem weight_laySet_le (d : Direction) (s : CharSet) (l : Layout) :
    (laySet d s l).weight ≤ l.weight + setWeight s := by
  unfold laySet setWeight
  split
  · simp only [Layout.weight_add, Layout.weight_addListing]
    omega
  · cases d with
    | forwards =>
      have h := weight_layForwards_le (byteRanges s) l
      dsimp only
      omega
    | backwards =>
      have h := weight_layBackwards_le (byteRanges s) l
      dsimp only
      omega

theorem branches_ofBranches_literal {names : List Text} (h : names ≠ []) :
    branches (ofBranches (names.map literal)) = names.map literal := by
  induction names with
  | nil => exact absurd rfl h
  | cons name names ih =>
    cases names with
    | nil => rfl
    | cons name' names => exact congrArg (literal name :: ·) (ih (List.cons_ne_nil _ _))

theorem mapM_literal? (names : List Text) : (names.map literal).mapM literal? = some names := by
  induction names with
  | nil => rfl
  | cons name names ih => simp [ih, literal?]

theorem lay_ofBranches_literal (d : Direction) {names : List Text} (h : 2 ≤ names.length)
    (l : Layout) : lay d .alone (ofBranches (names.map literal)) l = layWords d names l := by
  obtain _ | ⟨name, _ | ⟨name', names⟩⟩ := names
  · simp at h
  · simp at h
  · have hm := mapM_literal? (name :: name' :: names)
    rw [← branches_ofBranches_literal (List.cons_ne_nil _ _)] at hm
    have hb : ofBranches ((name :: name' :: names).map literal) =
        alt (literal name) (ofBranches ((name' :: names).map literal)) := rfl
    rw [hb] at hm ⊢
    rw [lay, if_pos rfl, hm]

theorem weight_layPrefix_le (d : Direction) (p : Pattern) : (layPrefix d p).weight ≤ 112 := by
  have hz : (⟨0, 0⟩ : Layout).weight = 0 := rfl
  have h (b : Bool) : (if b then Layout.add 1 ⟨0, 0⟩
      else ((Layout.addChoice ⟨0, 0⟩).add 1).addListing 1).weight ≤ 112 := by
    cases b <;> simp [Layout.addChoice, hz]
  exact h _

/-- What a heading weighs at most. -/
def headingWeight (names : List Text) (marks : List Char) (d : Direction) : Nat :=
  304 + (layWords d names ⟨0, 0⟩).weight + setWeight (.points marks)

theorem weight_automaton_heading_le {names : List Text} (h : 2 ≤ names.length) (marks : List Char)
    (d : Direction) : (automaton d (heading names marks)).weight ≤ headingWeight names marks d := by
  have hp := weight_layPrefix_le d (heading names marks)
  unfold automaton
  generalize layPrefix d (heading names marks) = l at hp ⊢
  have hw := (shifts_layWords d names).weight_eq
  have hs := weight_laySet_le d (.points marks)
  cases d with
  | forwards =>
    simp only [heading, lay, Place.join, lay_ofBranches_literal _ h, Layout.weight_add]
    have hset := hs ((layWords .forwards names (((l.add 1).add 1).add 1)).add 1)
    rw [Layout.weight_add, hw] at hset
    simp only [Layout.weight_add] at hset
    unfold headingWeight
    omega
  | backwards =>
    simp only [heading, lay, Place.join, lay_ofBranches_literal _ h, Layout.weight_add]
    have hset := hs l
    rw [hw]
    unfold headingWeight
    omega

theorem isLight_heading {names : List Text} {marks : List Char} (h : 2 ≤ names.length)
    (hw : ∀ d, headingWeight names marks d ≤ maxWeight) : (heading names marks).isLight := by
  have hlight (d) : (automaton d (heading names marks)).isHeavy = false :=
    decide_eq_false (Nat.not_lt.2 (Nat.le_trans (weight_automaton_heading_le h marks d) (hw d)))
  simp [isLight, hlight]

end SerialNovel.Pattern
