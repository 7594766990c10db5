import SerialNovel.Text.Hex
import SerialNovel.Text.Search
import SerialNovel.Text.Shown

namespace SerialNovel.Notation

def writeChar (c : Char) : Text :=
  if c = '\x00' then ['\\', '0']
  else if c = '\t' then ['\\', 't']
  else if c = '\r' then ['\\', 'r']
  else if c = '\n' then ['\\', 'n']
  else if c = '\\' || c = '"' || c = '\'' then ['\\', c]
  else if Text.isShown c then [c]
  else ['\\', 'u', '\x7b'] ++ Text.hexDigits c.toNat ++ ['\x7d']

def quote (t : Text) : Text := ['"'] ++ t.flatMap writeChar ++ ['"']

def escape? : Text → Option (Char × Text)
  | [] => none
  | '\x75' :: '\x7b' :: t => do
    let (digits, rest) ← Text.cut? ['\x7d'] t
    if digits.isEmpty || 6 < digits.length then none
    else return (← Text.charOfHex? digits, rest)
  | 'x' :: a :: b :: t => (Text.charOfHex? [a, b]).map (·, t)
  | c :: t =>
    if c = '\'' || c = '"' || c = '\\' then some (c, t)
    else if c = 'n' then some ('\n', t)
    else if c = 'r' then some ('\r', t)
    else if c = 't' then some ('\t', t)
    else if c = '0' then some ('\x00', t)
    else none

/-- The content of a quoted text after its opening quote, reading at most `n` characters. -/
def quotedBody : Nat → Text → Option (Text × Text)
  | 0, _ => none
  | _ + 1, [] => none
  | n + 1, c :: t =>
    if c = '"' then some ([], t)
    else if c = '\\' then do
      let (c, rest) ← escape? t
      let (content, rest) ← quotedBody n rest
      return (c :: content, rest)
    else (quotedBody n t).map fun p => (c :: p.1, p.2)

def rawBody (t : Text) : Option (Text × Text) := do
  let hashes := t.takeWhile (· == '#')
  let rest ← Text.after? ['"'] (t.dropWhile (· == '#'))
  Text.cut? ('"' :: hashes) rest

def charBody : Text → Option (Char × Text)
  | '\\' :: t => do
    let (c, rest) ← escape? t
    return (c, ← Text.after? ['\''] rest)
  | c :: t => if c = '\'' then none else (Text.after? ['\''] t).map (c, ·)
  | [] => none

end SerialNovel.Notation
