import SerialNovel.Text.Basic

namespace SerialNovel.Text

/-- The words of a text after `current`, which is the reversed start of the first. -/
def wordsFrom (current : Text) : Text → List Text
  | [] => if current.isEmpty then [] else [current.reverse]
  | c :: t =>
    if isBlank c then
      if current.isEmpty then wordsFrom [] t else current.reverse :: wordsFrom [] t
    else wordsFrom (c :: current) t

def words (t : Text) : List Text := wordsFrom [] t

def partsAt (separator : Char) : Text → List Text
  | [] => [[]]
  | c :: t =>
    if c = separator then [] :: partsAt separator t
    else match partsAt separator t with
      | [] => [[c]]
      | p :: ps => (c :: p) :: ps

def ofNat (n : Nat) : Text := Nat.toDigits 10 n

def maxNumber : Nat := 18446744073709551615

/-- A decimal number of at most 64 bits, with an optional plus sign. -/
def number? (t : Text) : Option Nat :=
  let digits := match t with
    | '+' :: t => t
    | t => t
  let n := digits.foldl (fun n c => n * 10 + (c.toNat - '0'.toNat)) 0
  if !digits.isEmpty && digits.all Char.isDigit && n ≤ maxNumber then some n else none

def padLeft (width : Nat) (t : Text) : Text := List.replicate (width - t.length) ' ' ++ t

def joinWith (separator : Text) (ts : List Text) : Text := List.intercalate separator ts

def line (t : Text) : Text := t ++ ['\n']

end SerialNovel.Text
