import SerialNovel.Markup.Inline
import SerialNovel.Script.Node

namespace SerialNovel

namespace Node

def withText? (text : Text) : Node → Option Node
  | dialogue key name _ => some (.dialogue key name text)
  | narration _ => some (.narration text)
  | system _ => some (.system text)
  | comms name _ => some (.comms name text)
  | _ => none

/-- A stretch of a node's text without its outer white space, unless that leaves nothing. -/
def stretch (n : Node) (text : Text) : List Node :=
  let text := Text.trim text
  if text.isEmpty then [] else (n.withText? text).toList

end Node

namespace Page

/-- The text before the first card, and each card with the text that follows it. -/
def cutCards : List (Text ⊕ Tag) → Text × List (Text × Text)
  | [] => ([], [])
  | .inl t :: ps => (t ++ (cutCards ps).1, (cutCards ps).2)
  | .inr tag :: ps =>
    match tag.card? with
    | some content => ([], (content, (cutCards ps).1) :: (cutCards ps).2)
    | none => (tag.markup ++ (cutCards ps).1, (cutCards ps).2)

/-- The node itself where it is no text or has no card. -/
def liftNode (n : Node) : List Node :=
  match n.withText? n.rawText, cutCards (Inline.pieces n.rawText) with
  | some _, (lead, card :: cards) =>
    n.stretch lead ++ (card :: cards).flatMap fun p => .reveal p.1 :: n.stretch p.2
  | _, _ => [n]

def lift (ns : List Node) : List Node := ns.flatMap liftNode

end Page

end SerialNovel
