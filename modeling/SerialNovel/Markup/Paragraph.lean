import SerialNovel.Text.Basic

namespace SerialNovel.Paragraph

/-- CJK punctuation, kana, full-width forms and ideographs. -/
def isCjk (c : Char) : Bool :=
  let n := c.toNat
  (0x3000 ≤ n && n ≤ 0x30FF) || (0xFF00 ≤ n && n ≤ 0xFF9F) || (0x4E00 ≤ n && n ≤ 0x9FAF) ||
    (0x3400 ≤ n && n ≤ 0x4DBF)

/-- Whether a boundary between two lines touches a CJK character. -/
def touchesCjk (before after : Option Char) : Bool := before.any isCjk || after.any isCjk

def gap (before after : Option Char) : Text := if touchesCjk before after then [] else [' ']

/-- Joins lines to a line that ends in `before`. -/
def joinAfter : Option Char → List Text → Text
  | _, [] => []
  | before, l :: ls => gap before l.head? ++ l ++ joinAfter l.getLast? ls

def join : List Text → Text
  | [] => []
  | l :: ls => l ++ joinAfter l.getLast? ls

structure Buffer where
  lines : List Text := []
  deriving DecidableEq, Repr

namespace Buffer

def push (b : Buffer) (line : Text) : Buffer := ⟨b.lines ++ [line]⟩

def size (b : Buffer) : Nat := b.lines.length

def isEmpty (b : Buffer) : Bool := b.lines.isEmpty

/-- The paragraph that waits, if any, and the emptied buffer. -/
def take (b : Buffer) : Option Text × Buffer :=
  (if b.isEmpty then none else some (join b.lines), {})

end Buffer

end SerialNovel.Paragraph
