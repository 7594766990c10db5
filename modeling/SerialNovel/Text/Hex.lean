import SerialNovel.Text.Basic

namespace SerialNovel.Text

def hexDigit? (c : Char) : Option Nat :=
  if c.isDigit then some (c.toNat - '0'.toNat)
  else if 'a' ≤ c && c ≤ 'f' then some (c.toNat - 'a'.toNat + 10)
  else if 'A' ≤ c && c ≤ 'F' then some (c.toNat - 'A'.toNat + 10)
  else none

/-- The number that follows `n` and the digits of a text. -/
def hexNumberFrom? (n : Nat) : Text → Option Nat
  | [] => some n
  | c :: t => (hexDigit? c).bind fun d => hexNumberFrom? (n * 16 + d) t

def hexNumber? (digits : Text) : Option Nat := hexNumberFrom? 0 digits

def charOfNumber? (n : Nat) : Option Char :=
  if n.isValidChar then some (Char.ofNat n) else none

def charOfHex? (digits : Text) : Option Char := (hexNumber? digits).bind charOfNumber?

def hexChar (d : Nat) : Char := if d < 10 then Char.ofNat (48 + d) else Char.ofNat (87 + d)

def hexDigits (n : Nat) : Text :=
  if n < 16 then [hexChar n] else hexDigits (n / 16) ++ [hexChar (n % 16)]

end SerialNovel.Text
