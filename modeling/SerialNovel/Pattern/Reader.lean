import SerialNovel.Pattern.Bracket

namespace SerialNovel.Pattern

/-- A pattern with the depth at which groups, brackets, repetitions, sequences and alternatives
nest in its text. -/
structure Reading where
  pattern : Pattern
  depth : Nat
  deriving DecidableEq, Repr

namespace Reading

def maxDepth (rs : List Reading) : Nat := rs.foldl (fun n r => max n r.depth) 0

/-- Readings joined by `combine`, which is one level more than they are. A single one stays. -/
def joined (combine : List Pattern → Pattern) : List Reading → Reading
  | [r] => r
  | [] => ⟨.empty, 0⟩
  | rs => ⟨combine (rs.map (·.pattern)), maxDepth rs + 1⟩

end Reading

structure Source where
  rest : Text
  groups : Nat := 0
  names : List Text := []
  switches : Switches := {}
  deriving DecidableEq, Repr

def Source.skip (s : Source) : Source := { s with rest := s.switches.skip s.rest }

def digits (w : Switches) : Nat → Text → Text × Text
  | n + 1, c :: t =>
    if c.isDigit then
      let (ds, rest) := digits w n (w.skip t)
      (c :: ds, rest)
    else ([], c :: t)
  | _, t => ([], t)

/-- A number of at most 32 bits, with white space around it. -/
def count? (w : Switches) (t : Text) : Option (Nat × Text) :=
  let t := Text.trimStart t
  let (ds, rest) := digits w t.length t
  let n := ds.foldl (fun n c => n * 10 + (c.toNat - '0'.toNat)) 0
  if ds.isEmpty || 4294967295 < n then none else some (n, w.skip (Text.trimStart rest))

def bounds? (w : Switches) (t : Text) : Option ((Nat × Option Nat) × Text) := do
  let (min, rest) ← count? w (w.skip t)
  match rest with
  | '\x7d' :: rest => some ((min, some min), rest)
  | ',' :: rest =>
    match w.skip rest with
    | '\x7d' :: rest => some ((min, none), rest)
    | rest =>
      let (max, rest) ← count? w rest
      match rest with
      | '\x7d' :: rest => if min ≤ max then some ((min, some max), rest) else none
      | _ => none
  | _ => none

/-- The bounds of the operator at the start of a text, if one stands there. -/
def operator? (w : Switches) : Text → Option (Option ((Nat × Option Nat) × Text))
  | '?' :: t => some (some ((0, some 1), t))
  | '*' :: t => some (some ((0, none), t))
  | '+' :: t => some (some ((1, none), t))
  | '\x7b' :: t => (bounds? w t).map fun p => some (p.1, w.skip p.2)
  | _ => some none

def repetitions : Nat → Reading → Source → Option (Reading × Source)
  | 0, _, _ => none
  | n + 1, r, s => do
    let s := s.skip
    match ← operator? s.switches s.rest with
    | none => some (r, s)
    | some ((min, max), rest) =>
      let (lazy, rest) := match rest with
        | '?' :: rest => (true, rest)
        | _ => (false, rest)
      let p := repetition r.pattern min max (lazy == s.switches.swapGreed)
      repetitions n ⟨p, r.depth + 1⟩ { s with rest }

def isNameStart (c : Char) : Bool := c = '_' || Text.isAlphabetic c

def isNamePart (c : Char) : Bool :=
  isNameStart c || Text.isNumeric c || c = '.' || c = '[' || c = ']'

def groupName? (t : Text) : Option (Text × Text) := do
  let (name, rest) ← Text.cut? ['>'] t
  if name.head?.any isNameStart && name.all isNamePart then some (name, rest) else none

inductive Opening
  | capture (s : Source)
  | plain (s : Source)
  | switched (s : Source)

def Source.named? (s : Source) (t : Text) : Option Opening := do
  let (name, rest) ← groupName? t
  if name ∈ s.names then none else some (.capture { s with rest, names := name :: s.names })

/-- The start of a group, with the rest of the source. Looking ahead or back is no pattern. -/
def opening? (s : Source) : Option Opening :=
  match s.rest with
  | '?' :: 'P' :: '<' :: t => s.named? t
  | '?' :: '<' :: t => s.named? t
  | '?' :: t =>
    (Switches.read? true [] s.switches t).map fun (switches, colon, rest) =>
      if colon then .plain { s with rest, switches } else .switched { s with rest, switches }
  | _ => some (.capture s)

mutual

def branchReadings : Nat → Source → Option (List Reading × Source)
  | 0, _ => none
  | n + 1, s => do
    let (rs, s) ← itemReadings n s
    let r := Reading.joined Pattern.sequence rs
    match s.rest with
    | '|' :: rest =>
      let (more, s) ← branchReadings n { s with rest }
      return (r :: more, s)
    | _ => return ([r], s)

def itemReadings : Nat → Source → Option (List Reading × Source)
  | 0, _ => none
  | n + 1, s =>
    let s := s.skip
    let w := s.switches
    match s.rest with
    | [] => some ([], s)
    | '|' :: _ => some ([], s)
    | ')' :: _ => some ([], s)
    | '(' :: rest => do
      match ← opening? (Source.skip { s with rest }) with
      | .switched s => do
        let (rs, s) ← itemReadings n s
        return (⟨.empty, 0⟩ :: rs, s)
      | .plain s =>
        let (r, s) ← closedReading n s
        withRepetitions n ⟨r.pattern, r.depth + 1⟩ { s with switches := w }
      | .capture s =>
        let index := s.groups + 1
        let (r, s) ← closedReading n { s with groups := index }
        withRepetitions n ⟨.group index r.pattern, r.depth + 1⟩ { s with switches := w }
    | '[' :: rest => do
      let (r, rest) ← bracket? w n rest
      withRepetitions n ⟨ofSet r.set, r.depth⟩ { s with rest }
    | '\\' :: rest => do
      let (e, rest) ← Escape.read? w rest
      withRepetitions n ⟨← e.pattern? w, 0⟩ { s with rest }
    | '.' :: rest => do withRepetitions n ⟨← w.dot?, 0⟩ { s with rest }
    | '^' :: rest => withRepetitions n ⟨.anchor w.lineStart, 0⟩ { s with rest }
    | '$' :: rest => withRepetitions n ⟨.anchor w.lineEnd, 0⟩ { s with rest }
    | c :: rest =>
      if c ∈ ['?', '*', '+', '\x7b'] then none
      else withRepetitions n ⟨w.literal c, 0⟩ { s with rest }

def closedReading : Nat → Source → Option (Reading × Source)
  | 0, _ => none
  | n + 1, s => do
    let (rs, s) ← branchReadings n s
    match s.rest with
    | ')' :: rest => return (Reading.joined Pattern.alternatives rs, { s with rest })
    | _ => none

def withRepetitions : Nat → Reading → Source → Option (List Reading × Source)
  | 0, _, _ => none
  | n + 1, r, s => do
    let (r, s) ← repetitions (n + 1) r s
    let (rs, s) ← itemReadings n s
    return (r :: rs, s)

end

/-- Reads a whole text. Each character costs at most four calls. -/
def readFrom? (t : Text) : Option Reading := do
  let (rs, s) ← branchReadings (4 * t.length + 8) { rest := t }
  if s.rest.isEmpty then some (Reading.joined Pattern.alternatives rs) else none

end SerialNovel.Pattern
