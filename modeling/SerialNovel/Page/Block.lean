import SerialNovel.Markup.Style
import SerialNovel.Script.Node

namespace SerialNovel

inductive InterceptLine
  | spacer
  | text (runs : List Run)
  deriving DecidableEq, Repr

inductive Block
  /-- Narration has no speaker. -/
  | paragraph (speaker : Option SpeakerKey) (runs : List Run)
  | comms (speaker : Text) (runs : List Run)
  | system (runs : List Run)
  | image (source caption : Text)
  | divider
  | jump (target label : Text)
  | intercept (signal : Text) (lines : List InterceptLine)
  /-- A card that hides its content until it is opened. -/
  | reveal (content : Text)
  deriving DecidableEq, Repr

namespace InterceptLine

def runs : InterceptLine → List Run
  | spacer => []
  | text rs => rs

end InterceptLine

namespace Block

def isReveal : Block → Bool
  | reveal _ => true
  | _ => false

/-- The styles of a block, in order and with repetitions. -/
def styles : Block → List Style
  | paragraph _ rs => rs.filterMap Run.style?
  | comms _ rs => rs.filterMap Run.style?
  | system rs => rs.filterMap Run.style?
  | intercept _ lines => (lines.flatMap InterceptLine.runs).filterMap Run.style?
  | reveal _ => [.spoilerCard]
  | image .. => []
  | divider => []
  | jump .. => []

end Block

namespace Page

def hasReveals (bs : List Block) : Bool := bs.any Block.isReveal

def note (seen : List Style) (s : Style) : List Style := if s ∈ seen then seen else seen ++ [s]

/-- The styles on a page in the order in which they first appear. -/
def stylesUsed (bs : List Block) : List Style := (bs.flatMap Block.styles).foldl note []

end Page

end SerialNovel
