import SerialNovel.Proofs.Pattern.Search

namespace SerialNovel.Pattern

def IsPlain : Pattern → Prop
  | seq p q => p.IsPlain ∧ q.IsPlain
  | alt p q => p.IsPlain ∧ q.IsPlain
  | repeated .. => False
  | group _ p => p.IsPlain
  | _ => True

/-- A match between two places of a text, and the marks before and after it. Repetitions have no
rule. -/
inductive Matches : Pattern → Cursor → List (Nat × Nat) → Cursor → List (Nat × Nat) → Prop
  | empty {k m} : Matches .empty k m k m
  | literal {t k m rest} (hk : k.rest = t ++ rest) : Matches (.literal t) k m (k.past t rest) m
  | oneOf {cs k m x rest} (hk : k.rest = x :: rest) (hx : cs.mem x = true) :
      Matches (.oneOf cs) k m (k.past [x] rest) m
  | anchor {a k m} (h : a.holds k.before k.rest.head? = true) : Matches (.anchor a) k m k m
  | seq {p q k m k₁ m₁ k' m'} (hp : Matches p k m k₁ m₁) (hq : Matches q k₁ m₁ k' m') :
      Matches (.seq p q) k m k' m'
  | first {p q k m k' m'} (hp : Matches p k m k' m') : Matches (.alt p q) k m k' m'
  | second {p q k m k' m'} (hq : Matches q k m k' m') : Matches (.alt p q) k m k' m'
  | group {i p k m k' m'} (hp : Matches p k ((startMark i, k.place) :: m) k' m') :
      Matches (.group i p) k m k' ((endMark i, k'.place) :: m')

variable {q : Program} {p : Pattern} {k : Cursor} {m m' : List (Nat × Nat)} {code : Array Step}
  {s next : Nat} {t : Text}

theorem Cursor.past_past (k : Cursor) (s t rest rest' : Text) :
    (k.past s rest).past t rest' = k.past (s ++ t) rest' := by
  simp [past, Nat.add_assoc, List.getLast?_append, Option.or_assoc]

namespace Program

theorem ends_done (h : q.steps[s]? = some .done) : q.Ends k ⟨s, m⟩ m' ↔ m' = m := by
  have hd : q.isDone ⟨s, m⟩ = true := isDone_iff.2 h
  constructor
  · intro e
    obtain ⟨-, hm⟩ | ⟨x, rest, u, -, hu, -⟩ := e.of_waits (waits_of_isDone hd)
    · exact hm
    · simp [taken?, h] at hu
  · rintro rfl
    exact .done hd

theorem ends_take {cs : CharSet} (h : q.steps[s]? = some (.take cs next)) :
    q.Ends k ⟨s, m⟩ m' ↔
      ∃ x rest, k.rest = x :: rest ∧ cs.mem x = true ∧ q.Ends (k.past [x] rest) ⟨next, m⟩ m' := by
  constructor
  · intro e
    obtain ⟨hd, -⟩ | ⟨x, rest, u, hk, hu, e⟩ := e.of_waits (by simp [waits, h])
    · simp [isDone, h] at hd
    · obtain ⟨hx, rfl⟩ : cs.mem x = true ∧ ⟨next, m⟩ = u := by simpa [taken?, h] using hu
      exact ⟨x, rest, hk, hx, e⟩
  · rintro ⟨x, rest, hk, hx, e⟩
    exact .take hk (by simp [taken?, h, hx]) e

theorem ends_of_not_waits {u : Thread} (h : q.waits u = false) :
    q.Ends k u m ↔ ∃ v ∈ q.moves k.spot u, q.Ends k v m := by
  constructor
  · intro e
    cases e with
    | done hd => simp [waits_of_isDone hd] at h
    | move hv e => exact ⟨_, hv, e⟩
    | take _ hv _ => simp [waits_of_taken? hv] at h
  · rintro ⟨v, hv, e⟩
    exact .move hv e

theorem ends_check {a : Anchor} (h : q.steps[s]? = some (.check a next)) :
    q.Ends k ⟨s, m⟩ m' ↔ a.holds k.before k.rest.head? = true ∧ q.Ends k ⟨next, m⟩ m' := by
  rw [ends_of_not_waits (by simp [waits, h])]
  simp only [moves, h, Cursor.spot]
  by_cases ha : a.holds k.before k.rest.head? = true <;> simp [ha]

theorem ends_fork {first second : Nat} (h : q.steps[s]? = some (.fork first second)) :
    q.Ends k ⟨s, m⟩ m' ↔ q.Ends k ⟨first, m⟩ m' ∨ q.Ends k ⟨second, m⟩ m' := by
  rw [ends_of_not_waits (by simp [waits, h])]
  simp [moves, h]

theorem ends_mark {i : Nat} (h : q.steps[s]? = some (.mark i next)) :
    q.Ends k ⟨s, m⟩ m' ↔ q.Ends k ⟨next, (i, k.place) :: m⟩ m' := by
  rw [ends_of_not_waits (by simp [waits, h])]
  simp [moves, h, Cursor.spot]

def StartsWith (q : Program) (code : Array Step) : Prop :=
  ∀ (i : Nat) (x : Step), code[i]? = some x → q.steps[i]? = some x

theorem StartsWith.of_push {x : Step} (h : q.StartsWith (code.push x)) :
    q.StartsWith code ∧ q.steps[code.size]? = some x := by
  refine ⟨fun i y hy => h i y ?_, h _ _ (by simp)⟩
  have hi : i < code.size := (Array.getElem?_eq_some_iff.1 hy).1
  rw [Array.getElem?_push, if_neg (by omega), hy]

end Program

theorem startsWith_of_literalSteps (h : q.StartsWith (literalSteps t code next).1) :
    q.StartsWith code := by
  induction t with
  | nil => exact h
  | cons x t ih => exact ih h.of_push.1

theorem startsWith_of_emit (hp : p.IsPlain) (h : q.StartsWith (emit p code next).1) :
    q.StartsWith code := by
  induction p generalizing code next with
  | empty => exact h
  | literal t => exact startsWith_of_literalSteps h
  | oneOf _ => exact h.of_push.1
  | anchor _ => exact h.of_push.1
  | seq p p' ih ih' => exact ih' hp.2 (ih hp.1 h)
  | alt p p' ih ih' => exact ih hp.1 (ih' hp.2 h.of_push.1)
  | repeated => cases hp
  | group _ p ih => exact (ih hp h.of_push.1).of_push.1

theorem literalSteps_ends (h : q.StartsWith (literalSteps t code next).1) :
    q.Ends k ⟨(literalSteps t code next).2, m⟩ m' ↔
      ∃ rest, k.rest = t ++ rest ∧ q.Ends (k.past t rest) ⟨next, m⟩ m' := by
  induction t generalizing k with
  | nil =>
    constructor
    · exact fun e => ⟨k.rest, rfl, e⟩
    · rintro ⟨rest, rfl, e⟩
      exact e
  | cons x t ih =>
    obtain ⟨h', hs⟩ := h.of_push
    refine (Program.ends_take hs).trans ?_
    constructor
    · rintro ⟨y, rest, hk, hy, e⟩
      obtain rfl : y = x := by simpa using hy
      obtain ⟨rest', rfl, e⟩ := (ih h').1 e
      rw [Cursor.past_past] at e
      exact ⟨rest', hk, e⟩
    · rintro ⟨rest, hk, e⟩
      refine ⟨x, t ++ rest, hk, by simp, (ih h').2 ⟨rest, rfl, ?_⟩⟩
      rwa [Cursor.past_past]

theorem emit_ends (hp : p.IsPlain) (h : q.StartsWith (emit p code next).1) :
    q.Ends k ⟨(emit p code next).2, m⟩ m' ↔
      ∃ k₁ m₁, p.Matches k m k₁ m₁ ∧ q.Ends k₁ ⟨next, m₁⟩ m' := by
  induction p generalizing code next k m with
  | empty =>
    constructor
    · exact fun e => ⟨k, m, .empty, e⟩
    · rintro ⟨k₁, m₁, ⟨⟩, e⟩
      exact e
  | literal t =>
    refine (literalSteps_ends h).trans ?_
    constructor
    · exact fun ⟨rest, hk, e⟩ => ⟨_, m, .literal hk, e⟩
    · rintro ⟨k₁, m₁, hm, e⟩
      cases hm with
      | literal hk => exact ⟨_, hk, e⟩
  | oneOf cs =>
    refine (Program.ends_take h.of_push.2).trans ?_
    constructor
    · exact fun ⟨x, rest, hk, hx, e⟩ => ⟨_, m, .oneOf hk hx, e⟩
    · rintro ⟨k₁, m₁, hm, e⟩
      cases hm with
      | oneOf hk hx => exact ⟨_, _, hk, hx, e⟩
  | anchor a =>
    refine (Program.ends_check h.of_push.2).trans ?_
    constructor
    · exact fun ⟨ha, e⟩ => ⟨k, m, .anchor ha, e⟩
    · rintro ⟨k₁, m₁, hm, e⟩
      cases hm with
      | anchor ha => exact ⟨ha, e⟩
  | seq p p' ih ih' =>
    have h' := startsWith_of_emit hp.1 h
    refine (ih hp.1 h).trans ?_
    constructor
    · rintro ⟨k₁, m₁, hm, e⟩
      obtain ⟨k₂, m₂, hm', e⟩ := (ih' hp.2 h').1 e
      exact ⟨k₂, m₂, .seq hm hm', e⟩
    · rintro ⟨k₂, m₂, hm, e⟩
      cases hm with
      | seq hm hm' => exact ⟨_, _, hm, (ih' hp.2 h').2 ⟨k₂, m₂, hm', e⟩⟩
  | alt p p' ih ih' =>
    obtain ⟨h', hs⟩ := h.of_push
    refine (Program.ends_fork hs).trans ?_
    rw [ih hp.1 (startsWith_of_emit hp.2 h'), ih' hp.2 h']
    constructor
    · rintro (⟨k₁, m₁, hm, e⟩ | ⟨k₁, m₁, hm, e⟩)
      · exact ⟨k₁, m₁, .first hm, e⟩
      · exact ⟨k₁, m₁, .second hm, e⟩
    · rintro ⟨k₁, m₁, hm, e⟩
      cases hm with
      | first hm => exact .inl ⟨k₁, m₁, hm, e⟩
      | second hm => exact .inr ⟨k₁, m₁, hm, e⟩
  | repeated => cases hp
  | group i p ih =>
    obtain ⟨h', hs⟩ := h.of_push
    have he := (startsWith_of_emit (p := p) hp h').of_push.2
    refine (Program.ends_mark hs).trans ((ih hp h').trans ?_)
    constructor
    · rintro ⟨k₁, m₁, hm, e⟩
      exact ⟨k₁, _, .group hm, (Program.ends_mark he).1 e⟩
    · rintro ⟨k₁, m₁, hm, e⟩
      cases hm with
      | group hm => exact ⟨k₁, _, hm, (Program.ends_mark he).2 e⟩

/-- The program of a pattern ends with the marks that a match of the pattern leaves. -/
theorem program_ends (hp : p.IsPlain) :
    p.program.Ends k { step := p.program.start } m ↔ ∃ k', (group 0 p).Matches k [] k' m := by
  have h : p.program.StartsWith (emit (group 0 p) #[.done] 0).1 := fun _ _ hi => hi
  have hd : p.program.steps[0]? = some .done :=
    startsWith_of_emit (p := group 0 p) hp h 0 .done rfl
  refine (emit_ends (p := group 0 p) hp h).trans ?_
  simp only [Program.ends_done hd, exists_eq_right']

theorem not_finds_of_before (hp : (seq (anchor .textStart) p).IsPlain) (hk : k.before.isNone = false) :
    ¬ (seq (anchor .textStart) p).program.Finds k m := by
  intro f
  induction f with
  | here e =>
    obtain ⟨k', hm⟩ := (program_ends hp).1 e
    cases hm with
    | group hm =>
      cases hm with
      | seq ha _ =>
        cases ha with
        | anchor ha => simp [Anchor.holds, hk] at ha
  | later _ _ ih => exact ih rfl

theorem anchored_finds (hp : (seq (anchor .textStart) p).IsPlain) :
    (seq (anchor .textStart) p).program.Finds (.ofText t) m ↔
      ∃ k', (group 0 (seq (anchor .textStart) p)).Matches (.ofText t) [] k' m := by
  constructor
  · intro f
    cases f with
    | here e => exact (program_ends hp).1 e
    | later _ f => exact absurd f (not_finds_of_before hp rfl)
  · exact fun hm => .here ((program_ends hp).2 hm)

end SerialNovel.Pattern
