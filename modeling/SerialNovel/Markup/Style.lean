import SerialNovel.Text.Search

namespace SerialNovel

inductive Style
  | masked
  | emphasis
  | glitchEmphasis
  | voidEmphasis
  | danger
  | info
  | highlight
  | spoilerCard
  deriving DecidableEq, Repr, Inhabited

namespace Style

def all : List Style :=
  [masked, emphasis, glitchEmphasis, voidEmphasis, danger, info, highlight, spoilerCard]

def tag : Style → Text
  | masked => "MASK".toList
  | emphasis => "GREEN".toList
  | glitchEmphasis => "GLITCH_GREEN".toList
  | voidEmphasis => "VOID".toList
  | danger => "DANGER".toList
  | info => "BLUE".toList
  | highlight => "WHITE".toList
  | spoilerCard => "VOID_VISION".toList

def ofTag? (name : Text) : Option Style := all.find? (·.tag == name)

/-- A spoiler card stands on the page as a block of its own. -/
def isCard (s : Style) : Bool := s == spoilerCard

theorem mem_all (s : Style) : s ∈ all := by
  cases s <;> decide

end Style

inductive RunKind
  | plain
  | bold
  | styled (style : Style)
  deriving DecidableEq, Repr, Inhabited

structure Run where
  kind : RunKind
  text : Text
  deriving DecidableEq, Repr, Inhabited

namespace Run

def plain (t : Text) : Run := ⟨.plain, t⟩

def bold (t : Text) : Run := ⟨.bold, t⟩

def styled (s : Style) (t : Text) : Run := ⟨.styled s, t⟩

def style? (r : Run) : Option Style :=
  match r.kind with
  | .styled s => some s
  | _ => none

end Run

def boldMark : Text := "**".toList

def tagOpening (s : Style) : Text := "[[".toList ++ s.tag ++ "::".toList

def tagClosing : Text := "]]".toList

/-- A run as its author writes it. -/
def Run.markup (r : Run) : Text :=
  match r.kind with
  | .plain => r.text
  | .bold => boldMark ++ r.text ++ boldMark
  | .styled s => tagOpening s ++ r.text ++ tagClosing

end SerialNovel
