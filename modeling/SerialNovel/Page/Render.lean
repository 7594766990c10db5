import SerialNovel.Markup.Inline
import SerialNovel.Markup.Intercept
import SerialNovel.Page.Block
import SerialNovel.Page.Lift

namespace SerialNovel

namespace InterceptLine

/-- A line of a transmission without its markers. -/
def ofText (line : Text) : InterceptLine :=
  let shown := Intercept.strip line
  if (Text.trim shown).isEmpty then .spacer else .text (Inline.runs shown)

end InterceptLine

namespace Block

def ofNode : Node → Block
  | .dialogue key _ text => .paragraph (some key) (Inline.runs text)
  | .narration text => .paragraph none (Inline.runs text)
  | .system text => .system (Inline.runs text)
  | .comms name text => .comms name (Inline.runs text)
  | .image source caption => .image source caption
  | .divider => .divider
  | .jump target label => .jump target label
  | .intercept lines =>
    .intercept ((lines.head?.bind Intercept.signal?).getD Intercept.defaultSignal)
      (lines.map InterceptLine.ofText)
  | .reveal content => .reveal content

end Block

namespace Page

def render (ns : List Node) : List Block := (lift ns).map Block.ofNode

end Page

end SerialNovel
