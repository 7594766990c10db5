import SerialNovel.Pattern.Named
import SerialNovel.Pattern.Switches
import SerialNovel.Text.Hex

namespace SerialNovel.Pattern

def dropSpaced : Nat → Text → Text
  | 0, t => t
  | _ + 1, [] => []
  | n + 1, c :: t =>
    if Text.isBlank c then dropSpaced n t
    else if c = '#' then dropSpaced n (t.dropWhile (· != '\n'))
    else c :: t

/-- Drops white space and comments where they are free. -/
def Switches.skip (w : Switches) (t : Text) : Text := if w.spaced then dropSpaced t.length t else t

inductive Escape
  | char (c : Char)
  /-- A character by the two digits of its number. -/
  | byte (c : Char)
  | set (s : CharSet)
  | anchor (a : Anchor)

namespace Escape

def braced (w : Switches) : Nat → Text → Option (Text × Text)
  | 0, _ => none
  | _ + 1, [] => none
  | n + 1, c :: t =>
    if c = '\x7d' then some ([], t)
    else (braced w n (w.skip t)).map fun p => (c :: p.1, p.2)

def counted (w : Switches) : Nat → Text → Option (Text × Text)
  | 0, t => some ([], t)
  | n + 1, t =>
    match w.skip t with
    | [] => none
    | c :: t => (counted w n t).map fun p => (c :: p.1, p.2)

/-- A character by its number: `width` digits, or any number of digits in braces. -/
def hex? (w : Switches) (width : Nat) (t : Text) : Option (Char × Text) := do
  let (digits, rest) ← match w.skip t with
    | '\x7b' :: t => braced w (t.length + 1) (w.skip t)
    | t => counted w width t
  if digits.isEmpty then none else return (← Text.charOfHex? digits, rest)

def property? (w : Switches) (negated : Bool) (t : Text) : Option (Escape × Text) := do
  match w.skip t with
  | [] => none
  | '\x7b' :: t =>
    let (query, rest) ← braced w (t.length + 1) (w.skip t)
    return (.set (← w.property? negated (CharSet.ofQuery? query)), rest)
  | c :: t =>
    if c = '\\' then none
    else return (.set (← w.property? negated (CharSet.ofName? [c])), t)

def isBoundaryLetter (c : Char) : Bool := c.isAlpha || c = '-'

def boundaryName (w : Switches) : Nat → Text → Text × Text
  | n + 1, c :: t =>
    if isBoundaryLetter c then
      let (name, rest) := boundaryName w n (w.skip t)
      (c :: name, rest)
    else ([], c :: t)
  | _, t => ([], t)

/-- The word boundary that a name in braces picks. Braces with a number are a repetition. -/
def boundary? (w : Switches) (t : Text) : Option (Anchor × Text) :=
  match t with
  | '\x7b' :: inner =>
    match w.skip inner with
    | [] => none
    | c :: after =>
      if !isBoundaryLetter c then some (.wordBoundary w.ascii, t)
      else
        let (name, rest) := boundaryName w (after.length + 1) (c :: after)
        if rest.head? != some '\x7d' then none
        else if name = "start".toList then some (.wordStart w.ascii, rest.drop 1)
        else if name = "end".toList then some (.wordEnd w.ascii, rest.drop 1)
        else if name = "start-half".toList then some (.noWordBefore w.ascii, rest.drop 1)
        else if name = "end-half".toList then some (.noWordAfter w.ascii, rest.drop 1)
        else none
  | _ => some (.wordBoundary w.ascii, t)

/-- The characters that stand for themselves after a backslash: ASCII without letters and digits. -/
def isLiteral (c : Char) : Bool := c.toNat < 128 && !c.isAlphanum

def read? (w : Switches) : Text → Option (Escape × Text)
  | [] => none
  | c :: t =>
    let char (x : Char) : Option (Escape × Text) := some (.char x, t)
    let anchor (x : Anchor) : Option (Escape × Text) := some (.anchor x, t)
    let set (x : CharSet) : Option (Escape × Text) := some (.set x, t)
    let other (x : CharSet) : Option (Escape × Text) := (w.negate? x).map fun x => (.set x, t)
    match c with
    | 'a' => char '\x07'
    | 'f' => char '\x0c'
    | 't' => char '\t'
    | 'n' => char '\n'
    | 'r' => char '\r'
    | 'v' => char '\x0b'
    | 'd' => set w.decimal
    | 'D' => other w.decimal
    | 's' => set w.blank
    | 'S' => other w.blank
    | 'w' => set w.word
    | 'W' => other w.word
    | 'p' => property? w false t
    | 'P' => property? w true t
    | 'A' => anchor .textStart
    | 'z' => anchor .textEnd
    | 'B' => anchor (.insideOrOutside w.ascii)
    | '<' => anchor (.wordStart w.ascii)
    | '>' => anchor (.wordEnd w.ascii)
    | 'b' => (boundary? w t).map fun p => (.anchor p.1, p.2)
    | 'x' =>
      (hex? w 2 t).map fun p => (if (w.skip t).head? = some '\x7b' then .char p.1 else .byte p.1, p.2)
    | 'u' => (hex? w 4 t).map fun p => (.char p.1, p.2)
    | 'U' => (hex? w 8 t).map fun p => (.char p.1, p.2)
    | _ => if isLiteral c then char c else none

/-- The pattern of an escape. A byte past ASCII is no character of a text read as ASCII. -/
def pattern? (w : Switches) : Escape → Option Pattern
  | char c => some (w.literal c)
  | byte c => if w.ascii && 128 ≤ c.toNat then none else some (w.literal c)
  | set s => some (ofSet s)
  | anchor a => some (.anchor a)

end Escape

end SerialNovel.Pattern
