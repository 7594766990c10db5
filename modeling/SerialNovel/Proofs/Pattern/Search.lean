import SerialNovel.Pattern.Match

namespace SerialNovel.Pattern

/-- A place of a text: its number, the character before it and the text after it. -/
structure Cursor where
  place : Nat
  before : Option Char
  rest : Text

namespace Cursor

def ofText (t : Text) : Cursor := ⟨0, none, t⟩

def spot (k : Cursor) : Spot := ⟨k.place, k.before, k.rest.head?⟩

def past (k : Cursor) (t rest : Text) : Cursor :=
  ⟨k.place + t.length, t.getLast?.or k.before, rest⟩

end Cursor

namespace Program

/-- The threads that one becomes at a spot without taking a character. -/
def moves (p : Program) (spot : Spot) (t : Thread) : List Thread :=
  match p.steps[t.step]? with
  | some (.check a next) =>
    if a.holds spot.before spot.after then [{ t with step := next }] else []
  | some (.fork first second) => [{ t with step := first }, { t with step := second }]
  | some (.mark index next) => [⟨next, (index, spot.place) :: t.marks⟩]
  | _ => []

def taken? (p : Program) (c : Char) (t : Thread) : Option Thread :=
  match p.steps[t.step]? with
  | some (.take s next) => if s.mem c then some { t with step := next } else none
  | _ => none

def waits (p : Program) (t : Thread) : Bool :=
  match p.steps[t.step]? with
  | some (.take ..) => true
  | some .done => true
  | _ => false

/-- A thread at a place can get done with some marks. -/
inductive Ends (p : Program) : Cursor → Thread → List (Nat × Nat) → Prop
  | done {k t} (h : p.isDone t = true) : Ends p k t t.marks
  | move {k t u m} (h : u ∈ p.moves k.spot t) (e : Ends p k u m) : Ends p k t m
  | take {k t u m c rest} (hk : k.rest = c :: rest) (h : p.taken? c t = some u)
      (e : Ends p (k.past [c] rest) u m) : Ends p k t m

/-- A match with some marks starts at a place or after it. -/
inductive Finds (p : Program) : Cursor → List (Nat × Nat) → Prop
  | here {k m} (e : Ends p k { step := p.start } m) : Finds p k m
  | later {k m c rest} (hk : k.rest = c :: rest) (f : Finds p (k.past [c] rest) m) : Finds p k m

variable {p : Program} {spot : Spot} {seen : Visits} {t u : Thread} {ts out : List Thread}
  {m : List (Nat × Nat)} {k : Cursor} {c : Char} {rest : Text} {n : Nat}

theorem length_moves_le (p : Program) (spot : Spot) (t : Thread) : (p.moves spot t).length ≤ 2 := by
  unfold moves
  split
  · split <;> simp
  all_goals simp

theorem moves_of_waits (h : p.waits t = true) : p.moves spot t = [] := by
  unfold waits at h
  unfold moves
  split at h <;> simp_all

theorem isDone_iff : p.isDone t = true ↔ p.steps[t.step]? = some .done := by
  simp [isDone]

theorem waits_of_isDone (h : p.isDone t = true) : p.waits t = true := by
  simp [waits, isDone_iff.1 h]

theorem waits_of_taken? (h : p.taken? c t = some u) : p.waits t = true := by
  unfold taken? at h
  unfold waits
  split at h <;> simp_all

theorem settle_cons : p.settle spot (n + 1) (t :: ts) seen out =
    if seen[t.step]? = some (spot.place + 1) then p.settle spot n ts seen out
    else p.settle spot n (p.moves spot t ++ ts) (seen.setIfInBounds t.step (spot.place + 1))
      (if p.waits t then t :: out else out) := by
  rw [settle, moves, waits]
  split
  · rfl
  · rcases p.steps[t.step]? with _ | ⟨_ | ⟨a, _⟩ | _ | _ | _⟩ <;> try rfl
    cases h : a.holds spot.before spot.after <;> simp [h]

theorem advance_cons : p.advance c spot (t :: ts) seen out =
    if p.isDone t then (some t, seen, out)
    else match p.taken? c t with
      | some u => p.advance c spot ts (p.settle spot p.bound [u] seen out).1
          (p.settle spot p.bound [u] seen out).2
      | none => p.advance c spot ts seen out := by
  rw [advance, isDone, taken?]
  rcases p.steps[t.step]? with _ | ⟨⟨s, _⟩ | _ | _ | _ | _⟩ <;> try rfl
  cases h : s.mem c <;> simp [h]

theorem Ends.of_waits (e : p.Ends k t m) (h : p.waits t = true) :
    p.isDone t = true ∧ m = t.marks ∨
      ∃ c rest u, k.rest = c :: rest ∧ p.taken? c t = some u ∧ p.Ends (k.past [c] rest) u m := by
  cases e with
  | done h => exact .inl ⟨h, rfl⟩
  | move hu _ => simp [moves_of_waits h] at hu
  | take hk h e => exact .inr ⟨_, _, _, hk, h, e⟩

theorem ends_of_mem_settle (hu : u ∈ (p.settle k.spot n ts seen out).2) (e : p.Ends k u m) :
    u ∈ out ∨ ∃ t ∈ ts, p.Ends k t m := by
  induction n generalizing ts seen out with
  | zero => exact .inl hu
  | succ n ih =>
    cases ts with
    | nil => exact .inl hu
    | cons t ts =>
      rw [settle_cons] at hu
      split at hu
      · obtain h | ⟨v, hv, e⟩ := ih hu
        · exact .inl h
        · exact .inr ⟨v, List.mem_cons_of_mem _ hv, e⟩
      · obtain h | ⟨v, hv, hve⟩ := ih hu
        · split at h
          · obtain rfl | h := List.mem_cons.1 h
            · exact .inr ⟨u, List.mem_cons_self, e⟩
            · exact .inl h
          · exact .inl h
        · obtain hv | hv := List.mem_append.1 hv
          · exact .inr ⟨t, List.mem_cons_self, .move hv hve⟩
          · exact .inr ⟨v, List.mem_cons_of_mem _ hv, hve⟩

theorem of_advance_eq_some (h : (p.advance c spot ts seen out).1 = some u) :
    u ∈ ts ∧ p.isDone u = true := by
  induction ts generalizing seen out with
  | nil => simp [advance] at h
  | cons t ts ih =>
    rw [advance_cons] at h
    split at h
    · obtain rfl : t = u := by simpa using h
      exact ⟨List.mem_cons_self, ‹_›⟩
    · split at h
      all_goals exact ⟨List.mem_cons_of_mem _ (ih h).1, (ih h).2⟩

theorem ends_of_mem_advance (hk : k.rest = c :: rest)
    (hu : u ∈ (p.advance c (k.past [c] rest).spot ts seen out).2.2)
    (e : p.Ends (k.past [c] rest) u m) : u ∈ out ∨ ∃ t ∈ ts, p.Ends k t m := by
  induction ts generalizing seen out with
  | nil => exact .inl hu
  | cons t ts ih =>
    rw [advance_cons] at hu
    split at hu
    · exact .inl hu
    · split at hu
      · rename_i v hv
        obtain h | ⟨w, hw, hwe⟩ := ih hu
        · obtain h | ⟨w, hw, hwe⟩ := ends_of_mem_settle h e
          · exact .inl h
          · obtain rfl := List.mem_singleton.1 hw
            exact .inr ⟨t, List.mem_cons_self, .take hk hv hwe⟩
        · exact .inr ⟨w, List.mem_cons_of_mem _ hw, hwe⟩
      · obtain h | ⟨w, hw, hwe⟩ := ih hu
        · exact .inl h
        · exact .inr ⟨w, List.mem_cons_of_mem _ hw, hwe⟩

/-- The threads at a place once a match may have started there. -/
def started (p : Program) (k : Cursor) (seen : Visits) (out : List Thread) (best : Option Thread) :
    Visits × List Thread :=
  if best.isNone then p.settle k.spot p.bound [{ step := p.start }] seen out else (seen, out)

theorem runFrom_nil (hk : k.rest = []) {best : Option Thread} :
    p.runFrom k.place k.before k.rest seen out best =
      ((p.started k seen out best).2.reverse.find? p.isDone).or best := by
  obtain ⟨place, before, rest⟩ := k
  obtain rfl : rest = [] := hk
  simp only [runFrom, started, Option.orElse_eq_orElse, Option.orElse_eq_or]
  cases best <;> rfl

theorem runFrom_cons (hk : k.rest = c :: rest) {best : Option Thread} :
    p.runFrom k.place k.before k.rest seen out best =
      let s := p.started k seen out best
      if s.2.isEmpty && best.isSome then best
      else
        let k' := k.past [c] rest
        let a := p.advance c k'.spot s.2.reverse s.1 []
        p.runFrom k'.place k'.before k'.rest a.2.1 a.2.2 (a.1.or best) := by
  obtain ⟨place, before, rest⟩ := k
  obtain rfl : rest = c :: _ := hk
  simp only [runFrom, started, Option.orElse_eq_orElse, Option.orElse_eq_or]
  cases best <;> rfl

theorem of_mem_started {best : Option Thread} (hu : u ∈ (p.started k seen out best).2)
    (e : p.Ends k u m) : (∃ t ∈ out, p.Ends k t m) ∨ p.Finds k m := by
  unfold started at hu
  split at hu
  · obtain h | ⟨t, ht, e⟩ := ends_of_mem_settle hu e
    · exact .inl ⟨u, h, e⟩
    · obtain rfl := List.mem_singleton.1 ht
      exact .inr (.here e)
  · exact .inl ⟨u, hu, e⟩

theorem of_runFrom_eq_some {best : Option Thread}
    (h : p.runFrom k.place k.before k.rest seen out best = some u) :
    best = some u ∨ (∃ t ∈ out, p.Ends k t u.marks) ∨ p.Finds k u.marks := by
  induction hr : k.rest generalizing k seen out best with
  | nil =>
    rw [runFrom_nil hr] at h
    obtain h | ⟨-, h⟩ := Option.or_eq_some_iff.1 h
    · have hd := List.find?_some h
      have hu := List.mem_reverse.1 (List.mem_of_find?_eq_some h)
      exact .inr (of_mem_started hu (.done hd))
    · exact .inl h
  | cons c rest ih =>
    rw [runFrom_cons hr] at h
    dsimp only at h
    split at h
    · exact .inl h
    obtain h | ⟨t, ht, e⟩ | f := ih h rfl
    · obtain h | ⟨-, h⟩ := Option.or_eq_some_iff.1 h
      · obtain ⟨hu, hd⟩ := of_advance_eq_some h
        exact .inr (of_mem_started (List.mem_reverse.1 hu) (.done hd))
      · exact .inl h
    · obtain h | ⟨v, hv, e⟩ := ends_of_mem_advance hr ht e
      · cases h
      · exact .inr (of_mem_started (List.mem_reverse.1 hv) e)
    · exact .inr (.inr (.later hr f))

theorem finds_of_search? {text : Text} {found : Found} (h : p.search? text = some found) :
    found.source = text ∧ p.Finds (.ofText text) found.marks := by
  obtain ⟨u, hu, rfl⟩ := Option.map_eq_some_iff.1 h
  refine ⟨rfl, ?_⟩
  obtain h | ⟨t, ht, -⟩ | f := of_runFrom_eq_some (k := .ofText text) hu
  · cases h
  · cases ht
  · exact f

theorem exists_move_of_step_eq {v : Thread} (h : t.step = u.step) (hv : v ∈ p.moves spot t) :
    ∃ w ∈ p.moves spot u, v.step = w.step := by
  unfold moves at *
  rw [h] at hv
  split at hv
  · split at hv <;> simp_all
  · simp_all
    rcases hv with rfl | rfl <;> simp
  · simp_all
  · simp at hv

theorem waits_of_step_eq (h : t.step = u.step) : p.waits t = p.waits u := by
  rw [waits, waits, h]

theorem exists_taken_of_step_eq {v : Thread} (h : t.step = u.step) (hv : p.taken? c t = some v) :
    ∃ w, p.taken? c u = some w ∧ v.step = w.step := by
  unfold taken? at *
  rw [h] at hv
  split at hv <;> simp_all
  obtain ⟨-, rfl⟩ := hv
  rfl

/-- Whether a thread can get done does not depend on its marks. -/
theorem Ends.exists_of_step_eq (e : p.Ends k t m) (h : t.step = u.step) : ∃ m', p.Ends k u m' := by
  induction e generalizing u with
  | done hd => exact ⟨_, .done (by rwa [isDone, ← h])⟩
  | move hv _ ih =>
    obtain ⟨w, hw, hs⟩ := exists_move_of_step_eq h hv
    obtain ⟨m', e⟩ := ih hs
    exact ⟨m', .move hw e⟩
  | take hk hv _ ih =>
    obtain ⟨w, hw, hs⟩ := exists_taken_of_step_eq h hv
    obtain ⟨m', e⟩ := ih hs
    exact ⟨m', .take hk hw e⟩

/-- Whether a step has been visited at a spot. A number without a step counts as visited. -/
def Visited (spot : Spot) (seen : Visits) (step : Nat) : Prop :=
  ∀ i, seen[step]? = some i → i = spot.place + 1

def unvisited (spot : Spot) (seen : Visits) : Nat := seen.countP (· != spot.place + 1)

theorem visited_set {s : Nat} :
    Visited spot (seen.setIfInBounds t.step (spot.place + 1)) s ↔
      t.step = s ∨ Visited spot seen s := by
  unfold Visited
  rw [Array.getElem?_setIfInBounds]
  split
  · simp_all
  · simp_all

theorem unvisited_set (h : t.step < seen.size) (hs : seen[t.step]? ≠ some (spot.place + 1)) :
    unvisited spot (seen.setIfInBounds t.step (spot.place + 1)) + 1 = unvisited spot seen := by
  have hb : (seen[t.step] != spot.place + 1) = true := by
    simpa [Array.getElem?_eq_getElem h] using hs
  have hpos : 0 < unvisited spot seen :=
    Array.countP_pos_iff.2 ⟨_, Array.getElem_mem h, hb⟩
  unfold unvisited at *
  rw [Array.setIfInBounds_def, dif_pos h, Array.countP_set, hb]
  simpa using Nat.sub_add_cancel hpos

/-- What holds of the visits at a spot and of the threads that stay there while `ts` are still to be
settled: each thread at a visited step either stays or has its moves visited or among `ts`. -/
structure Swept (p : Program) (spot : Spot) (ts : List Thread) (seen : Visits)
    (out : List Thread) : Prop where
  size : seen.size = p.steps.size
  stamps : ∀ i ∈ seen, i ≤ spot.place + 1
  moves : ∀ t, Visited spot seen t.step → ∀ u ∈ p.moves spot t,
    Visited spot seen u.step ∨ ∃ v ∈ ts, v.step = u.step
  stays : ∀ t, Visited spot seen t.step → p.waits t = true → ∃ u ∈ out, t.step = u.step
  waits : ∀ t ∈ out, p.waits t = true

namespace Swept

theorem of_stamps (size : seen.size = p.steps.size) (h : ∀ i ∈ seen, i ≤ spot.place) :
    Swept p spot [] seen [] := by
  have none_of_visited {s : Nat} (hv : Visited spot seen s) : p.steps[s]? = none := by
    rw [Array.getElem?_eq_none_iff, ← size]
    refine Nat.not_lt.1 fun hs => ?_
    have := h _ (Array.getElem_mem hs)
    have := hv _ (Array.getElem?_eq_getElem hs)
    omega
  refine ⟨size, fun i hi => Nat.le_succ_of_le (h i hi), fun t ht u hu => ?_,
    fun t ht hw => ?_, fun t ht => by cases ht⟩
  · simp [Program.moves, none_of_visited ht] at hu
  · simp [Program.waits, none_of_visited ht] at hw

theorem next (h : Swept p k.spot ts seen out) : Swept p (k.past [c] rest).spot [] seen [] :=
  of_stamps h.size h.stamps

theorem drop (h : Swept p spot (t :: ts) seen out) (ht : Visited spot seen t.step) :
    Swept p spot ts seen out := by
  refine { h with moves := fun u hu v hv => ?_ }
  obtain hv | ⟨w, hw, hs⟩ := h.moves u hu v hv
  · exact .inl hv
  · obtain rfl | hw := List.mem_cons.1 hw
    · exact .inl (hs ▸ ht)
    · exact .inr ⟨w, hw, hs⟩

theorem visit (h : Swept p spot (t :: ts) seen out) :
    Swept p spot (p.moves spot t ++ ts) (seen.setIfInBounds t.step (spot.place + 1))
      (if p.waits t then t :: out else out) where
  size := by rw [Array.size_setIfInBounds, h.size]
  stamps i hi := by
    obtain hi | rfl := Array.mem_or_eq_of_mem_setIfInBounds hi
    · exact h.stamps i hi
    · exact Nat.le_refl _
  moves u hu v hv := by
    obtain hs | hu := visited_set.1 hu
    · obtain ⟨w, hw, hs⟩ := exists_move_of_step_eq hs.symm hv
      exact .inr ⟨w, List.mem_append_left _ hw, hs.symm⟩
    · obtain hv | ⟨w, hw, hs⟩ := h.moves u hu v hv
      · exact .inl (visited_set.2 (.inr hv))
      · obtain rfl | hw := List.mem_cons.1 hw
        · exact .inl (visited_set.2 (.inl hs))
        · exact .inr ⟨w, List.mem_append_right _ hw, hs⟩
  stays u hu hw := by
    obtain hs | hu := visited_set.1 hu
    · rw [if_pos (waits_of_step_eq hs ▸ hw)]
      exact ⟨t, List.mem_cons_self, hs.symm⟩
    · obtain ⟨v, hv, hs⟩ := h.stays u hu hw
      refine ⟨v, ?_, hs⟩
      split
      · exact List.mem_cons_of_mem _ hv
      · exact hv
  waits u hu := by
    split at hu
    · obtain rfl | hu := List.mem_cons.1 hu
      · assumption
      · exact h.waits u hu
    · exact h.waits u hu

/-- Of a visit two threads may come, and then one step less is left to visit. -/
theorem turns_le_of_visit (h : Swept p spot (t :: ts) seen out)
    (ht : seen[t.step]? ≠ some (spot.place + 1)) :
    (p.moves spot t ++ ts).length +
        2 * unvisited spot (seen.setIfInBounds t.step (spot.place + 1)) ≤
      ts.length + 2 * unvisited spot seen := by
  rw [List.length_append]
  by_cases hs : t.step < seen.size
  · have := unvisited_set hs ht
    have := length_moves_le p spot t
    omega
  · have hnone : p.moves spot t = [] := by
      rw [h.size] at hs
      simp [Program.moves, Array.getElem?_eq_none (Nat.not_lt.1 hs)]
    rw [hnone, Array.setIfInBounds_eq_of_size_le (Nat.not_lt.1 hs), List.length_nil]
    omega

theorem settle (h : Swept p spot ts seen out) (hn : ts.length + 2 * unvisited spot seen ≤ n) :
    Swept p spot [] (p.settle spot n ts seen out).1 (p.settle spot n ts seen out).2 ∧
      ∀ s, (Visited spot seen s ∨ ∃ t ∈ ts, t.step = s) →
        Visited spot (p.settle spot n ts seen out).1 s := by
  induction n generalizing ts seen out with
  | zero =>
    obtain rfl : ts = [] := List.eq_nil_of_length_eq_zero (by omega)
    exact ⟨h, fun s hs => hs.resolve_right (by simp)⟩
  | succ n ih =>
    cases ts with
    | nil => exact ⟨h, fun s hs => hs.resolve_right (by simp)⟩
    | cons t ts =>
      rw [List.length_cons] at hn
      rw [settle_cons]
      split
      · rename_i ht
        have ht : Visited spot seen t.step := fun i hi => by simpa [ht] using hi.symm
        obtain ⟨h', hv⟩ := ih (h.drop ht) (by omega)
        refine ⟨h', fun s hs => hv s ?_⟩
        obtain hs | ⟨u, hu, rfl⟩ := hs
        · exact .inl hs
        · obtain rfl | hu := List.mem_cons.1 hu
          · exact .inl ht
          · exact .inr ⟨u, hu, rfl⟩
      · rename_i ht
        have hturns := h.turns_le_of_visit ht
        obtain ⟨h', hv⟩ := ih h.visit (by omega)
        refine ⟨h', fun s hs => hv s ?_⟩
        obtain hs | ⟨u, hu, rfl⟩ := hs
        · exact .inl (visited_set.2 (.inr hs))
        · obtain rfl | hu := List.mem_cons.1 hu
          · exact .inl (visited_set.2 (.inl rfl))
          · exact .inr ⟨u, List.mem_append_right _ hu, rfl⟩

/-- The bound suffices for one thread. -/
theorem settle_one (h : Swept p spot [] seen out) :
    Swept p spot [] (p.settle spot p.bound [t] seen out).1 (p.settle spot p.bound [t] seen out).2 ∧
      ∀ s, (Visited spot seen s ∨ t.step = s) →
        Visited spot (p.settle spot p.bound [t] seen out).1 s := by
  have hn : [t].length + 2 * unvisited spot seen ≤ p.bound := by
    have : unvisited spot seen ≤ seen.size := Array.countP_le_size
    rw [h.size] at this
    simp only [bound, List.length_singleton]
    omega
  have h : Swept p spot [t] seen out :=
    { h with moves := fun u hu v hv => (h.moves u hu v hv).imp_right (by simp) }
  obtain ⟨h', hv⟩ := h.settle hn
  exact ⟨h', fun s hs => hv s (hs.imp_right fun hs => ⟨t, List.mem_singleton_self t, hs⟩)⟩

/-- Of the threads that can get done from a visited step, one stays. -/
theorem exists_ends (h : Swept p k.spot [] seen out) (ht : Visited k.spot seen t.step)
    (e : p.Ends k t m) : ∃ u ∈ out, ∃ m', p.Ends k u m' := by
  -- moves lead to visited steps only, up to a thread that stays with a mark list of its own
  have of_waits {t : Thread} {m : List (Nat × Nat)} (ht : Visited k.spot seen t.step)
      (e : p.Ends k t m) (hw : p.waits t = true) : ∃ u ∈ out, ∃ m', p.Ends k u m' := by
    obtain ⟨u, hu, hs⟩ := h.stays t ht hw
    exact ⟨u, hu, e.exists_of_step_eq hs⟩
  induction e with
  | done hd => exact of_waits ht (.done hd) (waits_of_isDone hd)
  | move hu _ ih => exact ih h ((h.moves _ ht _ hu).resolve_right (by simp)) of_waits
  | take hk hu e _ => exact of_waits ht (.take hk hu e) (waits_of_taken? hu)

theorem advance (h : Swept p spot [] seen out) (hn : (p.advance c spot ts seen out).1 = none) :
    let a := p.advance c spot ts seen out
    Swept p spot [] a.2.1 a.2.2 ∧ (∀ s, Visited spot seen s → Visited spot a.2.1 s) ∧
      ∀ t ∈ ts, p.isDone t = false ∧ ∀ u, p.taken? c t = some u → Visited spot a.2.1 u.step := by
  induction ts generalizing seen out with
  | nil => exact ⟨h, fun _ hs => hs, by simp⟩
  | cons t ts ih =>
    rw [advance_cons] at hn ⊢
    split at hn
    · cases hn
    rename_i hd
    rw [if_neg hd]
    cases ht : p.taken? c t with
    | none =>
      rw [ht] at hn
      obtain ⟨h', hv, hts⟩ := ih h hn
      refine ⟨h', hv, List.forall_mem_cons.2 ⟨⟨by simpa using hd, ?_⟩, hts⟩⟩
      simp [ht]
    | some u =>
      rw [ht] at hn
      obtain ⟨h₁, hv₁⟩ := h.settle_one (t := u)
      obtain ⟨h', hv, hts⟩ := ih h₁ hn
      refine ⟨h', fun s hs => hv s (hv₁ s (.inl hs)),
        List.forall_mem_cons.2 ⟨⟨by simpa using hd, fun w hw => ?_⟩, hts⟩⟩
      obtain rfl : u = w := by simpa [ht] using hw
      exact hv _ (hv₁ _ (.inr rfl))

theorem started (h : Swept p k.spot [] seen out) (best : Option Thread) :
    let s := p.started k seen out best
    Swept p k.spot [] s.1 s.2 ∧ (∀ i, Visited k.spot seen i → Visited k.spot s.1 i) ∧
      (best = none → Visited k.spot s.1 p.start) := by
  unfold Program.started
  cases best with
  | none =>
    obtain ⟨h', hv⟩ := h.settle_one (t := { step := p.start })
    exact ⟨h', fun i hi => hv i (.inl hi), fun _ => hv _ (.inr rfl)⟩
  | some _ => exact ⟨h, fun _ hi => hi, by simp⟩

end Swept

theorem isSome_runFrom_of_best {best : Option Thread} (hb : best.isSome = true) :
    (p.runFrom k.place k.before k.rest seen out best).isSome = true := by
  induction hr : k.rest generalizing k seen out best with
  | nil =>
    rw [← hr, runFrom_nil hr]
    simp [hb]
  | cons c rest ih =>
    rw [← hr, runFrom_cons hr]
    dsimp only
    split
    · exact hb
    · exact ih (by simp [hb]) rfl

theorem exists_of_started (h : Swept p k.spot [] seen out)
    (hl : (∃ t m, Visited k.spot seen t.step ∧ p.Ends k t m) ∨ ∃ m, p.Finds k m) :
    (∃ u ∈ (p.started k seen out none).2, ∃ m, p.Ends k u m) ∨
      ∃ c rest m, k.rest = c :: rest ∧ p.Finds (k.past [c] rest) m := by
  obtain ⟨hs, hv, hstart⟩ := h.started none
  obtain ⟨t, m, ht, e⟩ | ⟨m, f⟩ := hl
  · exact .inl (hs.exists_ends (hv _ ht) e)
  · cases f with
    | here e => exact .inl (hs.exists_ends (hstart rfl) e)
    | later hk f => exact .inr ⟨_, _, m, hk, f⟩

theorem isSome_runFrom (h : Swept p k.spot [] seen out)
    (hl : (∃ t m, Visited k.spot seen t.step ∧ p.Ends k t m) ∨ ∃ m, p.Finds k m) :
    (p.runFrom k.place k.before k.rest seen out none).isSome = true := by
  induction hr : k.rest generalizing k seen out with
  | nil =>
    obtain ⟨hs, -, -⟩ := h.started none
    rw [← hr, runFrom_nil hr, Option.or_none, List.find?_isSome]
    obtain ⟨u, hu, m, e⟩ | ⟨c, rest, m, hk, -⟩ := exists_of_started h hl
    · obtain ⟨hd, -⟩ | ⟨c, rest, -, hk, -⟩ := e.of_waits (hs.waits u hu)
      · exact ⟨u, List.mem_reverse.2 hu, hd⟩
      · simp [hr] at hk
    · simp [hr] at hk
  | cons c rest ih =>
    obtain ⟨hs, -, -⟩ := h.started none
    rw [← hr, runFrom_cons hr]
    dsimp only
    rw [if_neg (by simp), Option.or_none]
    cases ha : (p.advance c (k.past [c] rest).spot (p.started k seen out none).2.reverse
      (p.started k seen out none).1 []).1 with
    | some u => exact isSome_runFrom_of_best rfl
    | none =>
      obtain ⟨h', -, hts⟩ := hs.next.advance ha
      refine ih h' ?_ rfl
      obtain ⟨u, hu, m, e⟩ | ⟨c', rest', m, hk, f⟩ := exists_of_started h hl
      · obtain ⟨hd, ht⟩ := hts u (List.mem_reverse.2 hu)
        obtain ⟨hd', -⟩ | ⟨c', rest', v, hk, hv, e⟩ := e.of_waits (hs.waits u hu)
        · simp [hd] at hd'
        · obtain ⟨rfl, rfl⟩ := List.cons.inj (hr.symm.trans hk)
          exact .inl ⟨v, m, ht v hv, e⟩
      · obtain ⟨rfl, rfl⟩ := List.cons.inj (hr.symm.trans hk)
        exact .inr ⟨m, f⟩

theorem isSome_search?_iff {text : Text} :
    (p.search? text).isSome = true ↔ ∃ m, p.Finds (.ofText text) m := by
  constructor
  · intro h
    obtain ⟨found, hf⟩ := Option.isSome_iff_exists.1 h
    exact ⟨_, (finds_of_search? hf).2⟩
  · intro h
    have hs : Swept p (Cursor.ofText text).spot [] (Array.replicate p.steps.size 0) [] :=
      .of_stamps (by simp) fun i hi => by simp [(Array.mem_replicate.1 hi).2]
    rw [search?, Option.isSome_map]
    exact isSome_runFrom hs (.inr h)

end Program

end SerialNovel.Pattern
