import SerialNovel.Text.Basic

namespace SerialNovel.Text

/-- What follows `lead` at the start of a text. -/
def after? : Text → Text → Option Text
  | [], t => some t
  | _ :: _, [] => none
  | a :: lead, c :: t => if a = c then after? lead t else none

/-- What precedes `ending` at the end of a text. -/
def before? (ending t : Text) : Option Text :=
  (after? ending.reverse t.reverse).map List.reverse

/-- The parts of a text before and after the first place where `mark` stands. -/
def cut? (mark : Text) : Text → Option (Text × Text)
  | [] => (after? mark []).map ([], ·)
  | c :: t =>
    match after? mark (c :: t) with
    | some rest => some ([], rest)
    | none => (cut? mark t).map fun p => (c :: p.1, p.2)

def startsWith (lead t : Text) : Bool := (after? lead t).isSome

def contains (mark t : Text) : Bool := (cut? mark t).isSome

/-- The content between `opening` at the start of a text and the nearest `closing`, if no line
feed comes before that. -/
def enclosed? (opening closing t : Text) : Option Text := do
  let rest ← after? opening t
  let (content, _) ← cut? closing rest
  if '\n' ∈ content then none else some content

/-- A value read from a text, with the stretch that it spans. -/
structure Token (α : Type) where
  value : α
  text : Text
  deriving DecidableEq, Repr

/-- Reads a text after `skip` more characters. A token is recognised as a value with the number of
characters that it spans; where none starts, one character is read. -/
def scanFrom {α : Type} (token : Text → Option (α × Nat)) : Nat → Text → List (Char ⊕ Token α)
  | _, [] => []
  | skip + 1, _ :: t => scanFrom token skip t
  | 0, c :: t =>
    match token (c :: t) with
    | some (a, width) => .inr ⟨a, (c :: t).take width⟩ :: scanFrom token (width - 1) t
    | none => .inl c :: scanFrom token 0 t

def scan {α : Type} (token : Text → Option (α × Nat)) (t : Text) : List (Char ⊕ Token α) :=
  scanFrom token 0 t

def tokens {α : Type} (token : Text → Option (α × Nat)) (t : Text) : List α :=
  ((scan token t).filterMap Sum.getRight?).map Token.value

def without {α : Type} (token : Text → Option (α × Nat)) (t : Text) : Text :=
  (scan token t).filterMap Sum.getLeft?

/-- A token with the places in UTF-8 bytes where it starts and stops. -/
structure Found (α : Type) where
  start : Nat
  stop : Nat
  value : α
  deriving DecidableEq, Repr

/-- The places of the tokens among what is read from byte `offset` on. -/
def placesFrom {α : Type} (offset : Nat) : List (Char ⊕ Token α) → List (Found α)
  | [] => []
  | .inl c :: rest => placesFrom (offset + c.utf8Size) rest
  | .inr a :: rest =>
    let stop := offset + utf8Size a.text
    ⟨offset, stop, a.value⟩ :: placesFrom stop rest

/-- The tokens of a text with their places, leftmost first. -/
def find {α : Type} (token : Text → Option (α × Nat)) (t : Text) : List (Found α) :=
  placesFrom 0 (scan token t)

/-- What is found in a text from byte `cursor` on, and the stretches before, between and after. -/
def partsFrom {α : Type} (t : Text) (cursor : Nat) : List (Found α) → List (Text ⊕ α)
  | [] => [.inl (dropBytes cursor t)]
  | f :: fs => .inl (slice cursor f.start t) :: .inr f.value :: partsFrom t f.stop fs

/-- A text parted into its tokens and the stretches around them, which may be empty. -/
def pieces {α : Type} (token : Text → Option (α × Nat)) (t : Text) : List (Text ⊕ α) :=
  partsFrom t 0 (find token t)

theorem after?_eq_some {lead t rest : Text} : after? lead t = some rest ↔ t = lead ++ rest := by
  induction lead generalizing t with
  | nil => simp [after?, eq_comm]
  | cons a lead ih =>
    cases t with
    | nil => simp [after?]
    | cons c t =>
      by_cases h : a = c
      · simp [after?, h, ih]
      · simp [after?, h, Ne.symm h]

theorem startsWith_iff {lead t : Text} : startsWith lead t ↔ lead <+: t := by
  simp only [startsWith, Option.isSome_iff_exists, after?_eq_some]
  exact exists_congr fun _ => eq_comm

theorem before?_eq_some {ending t rest : Text} :
    before? ending t = some rest ↔ t = rest ++ ending := by
  simp only [before?, Option.map_eq_some_iff, after?_eq_some]
  constructor
  · rintro ⟨a, ha, rfl⟩
    simpa using congrArg List.reverse ha
  · rintro rfl
    exact ⟨rest.reverse, by simp, by simp⟩

theorem append_of_cut? {mark t a b : Text} (h : cut? mark t = some (a, b)) :
    t = a ++ mark ++ b := by
  induction t generalizing a with
  | nil =>
    obtain ⟨r, hr, hp⟩ := Option.map_eq_some_iff.1 h
    have := after?_eq_some.1 hr
    simp_all
  | cons c t ih =>
    unfold cut? at h
    split at h
    · rename_i rest hr
      have := after?_eq_some.1 hr
      simp_all
    · obtain ⟨⟨a', b'⟩, hp, he⟩ := Option.map_eq_some_iff.1 h
      simp only [Prod.mk.injEq] at he
      obtain ⟨rfl, rfl⟩ := he
      simp [ih hp]

theorem contains_iff {mark t : Text} : contains mark t ↔ mark <:+: t := by
  induction t with
  | nil => simp [contains, cut?, Option.isSome_iff_exists, after?_eq_some]
  | cons c t ih =>
    rw [List.infix_cons_iff, ← startsWith_iff, ← ih]
    simp only [contains, cut?, startsWith]
    cases after? mark (c :: t) <;> simp

end SerialNovel.Text
