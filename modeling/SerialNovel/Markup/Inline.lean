import SerialNovel.Markup.Style

namespace SerialNovel

structure Tag where
  style : Style
  content : Text
  deriving DecidableEq, Repr

namespace Tag

def run (t : Tag) : Run := Run.styled t.style t.content

def markup (t : Tag) : Text := t.run.markup

def card? (t : Tag) : Option Text := if t.style.isCard then some t.content else none

end Tag

namespace Inline

def tagAt? (t : Text) : Option (Tag × Nat) :=
  Style.all.findSome? fun s =>
    (Text.enclosed? (tagOpening s) tagClosing t).map fun content =>
      (⟨s, content⟩, (Tag.markup ⟨s, content⟩).length)

def boldAt? (t : Text) : Option (Text × Nat) :=
  (Text.enclosed? boldMark boldMark t).map fun content =>
    (content, (Run.bold content).markup.length)

abbrev Span := Text.Found Tag

def Span.tag (x : Span) : Tag := x.value

def spans (t : Text) : List Span := Text.find tagAt? t

def pieces (t : Text) : List (Text ⊕ Tag) := Text.pieces tagAt? t

/-- A stretch without markup is one run, unless it is empty. -/
def plainRun (t : Text) : List Run := if t.isEmpty then [] else [Run.plain t]

def plainRuns (t : Text) : List Run :=
  (Text.pieces boldAt? t).flatMap (Sum.elim plainRun fun content => [Run.bold content])

/-- The runs of a text. The empty text is one empty plain run. -/
def runs (t : Text) : List Run :=
  match (pieces t).flatMap (Sum.elim plainRuns fun tag => [tag.run]) with
  | [] => [Run.plain t]
  | rs => rs

/-- The visible text, without the marks of tags and bold pairs. -/
def strip (t : Text) : Text := (runs t).flatMap Run.text

def hasStyling (rs : List Run) : Bool := rs.any (·.kind != .plain)

end Inline

end SerialNovel
