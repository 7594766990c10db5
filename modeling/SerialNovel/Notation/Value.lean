import SerialNovel.Notation.Quoted
import SerialNovel.Text.Words

namespace SerialNovel.Notation

inductive Value
  | bool (b : Bool)
  /-- A number of at most 64 bits without sign, fraction and exponent. -/
  | natural (n : Nat)
  /-- Any other number. -/
  | number
  | char (c : Char)
  | text (t : Text)
  /-- A bare name. -/
  | name (n : Text)
  | absent
  | present (v : Value)
  | list (vs : List Value)
  | tuple (name : Option Text) (vs : List Value)
  | record (name : Option Text) (fields : List (Text × Value))
  | map (entries : List (Value × Value))
  deriving Repr, Inhabited

def afterComment : Nat → Text → Option Text
  | _, [] => none
  | level, '/' :: '*' :: t => afterComment (level + 1) t
  | level, '*' :: '/' :: t => if level ≤ 1 then some t else afterComment (level - 1) t
  | level, _ :: t => afterComment level t

def isSpace (c : Char) : Bool := c = ' ' || c = '\t' || c = '\n' || c = '\r'

/-- Drops white space and comments, `n` at most. -/
def skipFrom : Nat → Text → Option Text
  | 0, t => some t
  | n + 1, t =>
    match t.dropWhile isSpace with
    | '/' :: '/' :: t => skipFrom n (t.dropWhile (· != '\n'))
    | '/' :: '*' :: t => (afterComment 1 t).bind (skipFrom n)
    | '/' :: _ => none
    | t => some t

def skip (t : Text) : Option Text := skipFrom (t.length + 1) t

def isNameStart (c : Char) : Bool := c.isAlpha || c = '_'

def isNamePart (c : Char) : Bool := c.isAlphanum || c = '_'

def isRawNamePart (c : Char) : Bool := isNamePart c || c = '.' || c = '+' || c = '-'

def startsRaw : Text → Bool
  | 'r' :: '"' :: _ => true
  | 'r' :: '#' :: c :: _ => !isRawNamePart c
  | ['r', '#'] => true
  | _ => false

/-- A name. One in raw form has more characters; a plain one may not touch any of those. -/
def name? (t : Text) : Option (Text × Text) :=
  match t with
  | [] => none
  | c :: rest =>
    if startsRaw t || !isNameStart c then none
    else match Text.after? ['r', '#'] t with
      | some raw => some (raw.takeWhile isRawNamePart, raw.dropWhile isRawNamePart)
      | none =>
        let after := rest.dropWhile isNamePart
        if after.head?.any isRawNamePart then none else some (c :: rest.takeWhile isNamePart, after)

/-- What follows the word, if it stands here as a whole. -/
def word? (word t : Text) : Option Text := do
  let rest ← Text.after? word t
  if rest.head?.any isNamePart then none else some rest

def wordOf? (words : List String) (t : Text) : Option Text :=
  words.findSome? fun w => word? w.toList t

def isDigitPart (c : Char) : Bool := (Text.hexDigit? c).isSome || c = '_'

def isFloatPart (c : Char) : Bool :=
  c.isDigit || c = 'e' || c = 'E' || c = '.' || c = '+' || c = '-' || c = '_'

/-- The number whose digits in `base` stand in a text, underscores apart. -/
def digitsValue? (base : Nat) (digits : Text) : Option Nat :=
  digits.foldl (fun n? c => n?.bind fun n =>
    if c = '_' then some n
    else (Text.hexDigit? c).bind fun d => if d < base then some (n * base + d) else none) (some 0)

def base : Text → Nat × Text
  | '0' :: 'x' :: t => (16, t)
  | '0' :: 'b' :: t => (2, t)
  | '0' :: 'o' :: t => (8, t)
  | t => (10, t)

/-- A number of at most 64 bits without sign and fraction. No underscore comes first. -/
def natural? (t : Text) : Option (Nat × Text) := do
  let (base, t) := base t
  let digits := t.takeWhile isDigitPart
  let n ← digitsValue? base digits
  if digits.isEmpty || digits.head? == some '_' || Text.maxNumber < n then none
  else return (n, t.dropWhile isDigitPart)

def dropSign : Text → Text
  | '+' :: t => t
  | '-' :: t => t
  | t => t

def isDecimal (t : Text) : Bool :=
  let t := dropSign t
  let whole := t.takeWhile Char.isDigit
  let (part, rest) := match t.dropWhile Char.isDigit with
    | '.' :: t => (t.takeWhile Char.isDigit, t.dropWhile Char.isDigit)
    | t => ([], t)
  let exponentFits := match rest with
    | [] => true
    | c :: t => (c = 'e' || c = 'E') && !(dropSign t).isEmpty && (dropSign t).all Char.isDigit
  !(whole.isEmpty && part.isEmpty) && exponentFits

/-- What follows a number with a fraction or an exponent, an infinity or what is no number. Its
digits are not parted by underscores. -/
def float? (t : Text) : Option Text :=
  match wordOf? ["inf", "+inf", "-inf", "NaN", "+NaN", "-NaN"] t with
  | some rest => some rest
  | none => if isDecimal (t.takeWhile isFloatPart) then some (t.dropWhile isFloatPart) else none

/-- The greatest number after each sign. -/
def maxSigned (sign : Char) : Nat :=
  if sign = '-' then 9223372036854775808 else 9223372036854775807

def whole? (t : Text) : Option (Value × Text) := do
  match t with
  | [] => none
  | c :: rest =>
    if c = '+' || c = '-' then
      let (n, rest) ← natural? rest
      if n ≤ maxSigned c then return (.number, rest) else none
    else
      let (n, rest) ← natural? t
      return (.natural n, rest)

def number? (t : Text) : Option (Value × Text) :=
  let digits := dropSign t
  let fractional := (digits.takeWhile isDigitPart).length < (digits.takeWhile isFloatPart).length
  (if fractional then none else whole? t) <|> (float? t).map (.number, ·)

/-- Drops one comma and the space around it, and says whether there was one. -/
def comma? (t : Text) : Option (Bool × Text) := do
  match ← skip t with
  | ',' :: t => return (true, ← skip t)
  | t => return (false, t)

/-- Whether the fields of a record start here, and not the members of a tuple. -/
def startsRecord (t : Text) : Bool :=
  match name? t with
  | none => false
  | some (_, rest) => ((skip rest).bind List.head?) == some ':'

/-- What a document asks for at its start. -/
structure Extensions where
  /-- A value stands for itself where an optional value is wanted. -/
  implicitSome : Bool := false
  deriving DecidableEq, Repr

def Extensions.add? (x : Extensions) (name : Text) : Option Extensions :=
  if name = "implicit_some".toList then some { x with implicitSome := true }
  else if name = "unwrap_newtypes".toList then some x
  else if name = "unwrap_variant_newtypes".toList then some x
  else none

/-- How deep the members of a value may nest that may itself nest `depth` levels deep. A value with
members takes one level, and each member takes one more. -/
def memberDepth? : Nat → Option Nat
  | depth + 2 => some depth
  | _ => none

mutual

/-- A value, with at most `depth` levels of nesting. Each call takes one from the first argument. -/
def value (x : Extensions) : Nat → Nat → Text → Option (Value × Text)
  | 0, _, _ => none
  | n + 1, depth, t =>
    if let some rest := word? "true".toList t then some (.bool true, rest)
    else if let some rest := word? "false".toList t then some (.bool false, rest)
    else if let some rest := word? "None".toList t then some (.absent, rest)
    else if let some rest := word? "Some".toList t then present x n depth rest
    else if let some rest := wordOf? ["inf", "NaN"] t then some (.number, rest)
    else match name? t with
      | some (name, rest) => do
        match ← skip rest with
        | '(' :: rest => group x n depth (some name) rest
        | _ => return (.name name, rest)
      | none =>
        match t with
        | [] => none
        | '(' :: ')' :: rest => some (.record none [], rest)
        | '(' :: rest => group x n depth none rest
        | '[' :: rest => do
          if depth = 0 then none
          else
            let (vs, rest) ← items x n depth ']' rest
            return (.list vs, rest)
        | '\x7b' :: rest => do
          if depth = 0 then none
          else
            let (es, rest) ← entries x n depth rest
            return (.map es, rest)
        | '"' :: rest => (quotedBody (rest.length + 1) rest).map fun p => (.text p.1, p.2)
        | 'r' :: rest => (rawBody rest).map fun p => (.text p.1, p.2)
        | '\'' :: rest => (charBody rest).map fun p => (.char p.1, p.2)
        | _ => number? t

/-- A present value after its `Some`, in parentheses if it may not stand for itself. -/
def present (x : Extensions) : Nat → Nat → Text → Option (Value × Text)
  | 0, _, _ => none
  | _, 0, _ => none
  | n + 1, depth + 1, t => do
    match ← skip t with
    | '(' :: t =>
      let (v, rest) ← value x n depth (← skip t)
      let (_, rest) ← comma? rest
      return (.present v, ← Text.after? [')'] rest)
    | t =>
      if x.implicitSome then
        let (v, rest) ← value x n depth t
        return (.present v, rest)
      else none

def group (x : Extensions) : Nat → Nat → Option Text → Text → Option (Value × Text)
  | 0, _, _, _ => none
  | n + 1, depth, name, t => do
    if depth = 0 then none
    else
      let t ← skip t
      if t.head? == some ')' || startsRecord t then
        let (fs, rest) ← fields x n depth t
        return (.record name fs, rest)
      else
        let (vs, rest) ← items x n depth ')' t
        return (.tuple name vs, rest)

def items (x : Extensions) : Nat → Nat → Char → Text → Option (List Value × Text)
  | 0, _, _, _ => none
  | n + 1, depth, close, t => do
    match ← skip t with
    | [] => none
    | c :: t =>
      if c = close then return ([], t)
      else
        let (v, rest) ← value x n (← memberDepth? depth) (c :: t)
        match ← comma? rest with
        | (true, rest) =>
          let (vs, rest) ← items x n depth close rest
          return (v :: vs, rest)
        | (false, rest) => return ([v], ← Text.after? [close] rest)

def fields (x : Extensions) : Nat → Nat → Text → Option (List (Text × Value) × Text)
  | 0, _, _ => none
  | n + 1, depth, t => do
    match ← skip t with
    | ')' :: t => return ([], t)
    | t =>
      let (name, rest) ← name? t
      let rest ← Text.after? [':'] (← skip rest)
      let (v, rest) ← value x n (← memberDepth? depth) (← skip rest)
      match ← comma? rest with
      | (true, rest) =>
        let (fs, rest) ← fields x n depth rest
        return ((name, v) :: fs, rest)
      | (false, rest) => return ([(name, v)], ← Text.after? [')'] rest)

def entries (x : Extensions) : Nat → Nat → Text → Option (List (Value × Value) × Text)
  | 0, _, _ => none
  | n + 1, depth, t => do
    match ← skip t with
    | '\x7d' :: t => return ([], t)
    | t =>
      let (k, rest) ← value x n (← memberDepth? depth) t
      let rest ← Text.after? [':'] (← skip rest)
      let (v, rest) ← value x n (← memberDepth? depth) (← skip rest)
      match ← comma? rest with
      | (true, rest) =>
        let (es, rest) ← entries x n depth rest
        return ((k, v) :: es, rest)
      | (false, rest) => return ([(k, v)], ← Text.after? ['\x7d'] rest)

end

/-- The marks in a row, with space before and between them. -/
def marks? : List Char → Text → Option Text
  | [], t => some t
  | c :: cs, t => do marks? cs (← Text.after? [c] (← skip t))

def attributeNames : Nat → Extensions → Text → Option (Extensions × Text)
  | 0, _, _ => none
  | n + 1, x, t => do
    let (name, rest) ← name? t
    let x ← x.add? name
    let (comma, rest) ← comma? rest
    if comma && rest.head?.any isNamePart then attributeNames n x rest
    else return (x, ← marks? [')', ']'] rest)

def attributes : Nat → Extensions → Text → Option (Extensions × Text)
  | 0, x, t => some (x, t)
  | n + 1, x, t =>
    match t with
    | '#' :: _ => do
      let rest ← marks? ['#', '!', '['] t
      let rest ← word? "enable".toList (← skip rest)
      let rest ← marks? ['('] rest
      let (x, rest) ← attributeNames (rest.length + 1) x (← skip rest)
      attributes n x (← skip rest)
    | _ => some (x, t)

def maxDepth : Nat := 128

def read? (t : Text) : Option (Extensions × Value) := do
  let (x, t) ← attributes (t.length + 1) {} (← skip t)
  let (v, rest) ← value x (2 * t.length + 2) maxDepth t
  if (← skip rest).isEmpty then return (x, v) else none

end SerialNovel.Notation
