import SerialNovel.Markup.Comms
import SerialNovel.Markup.Line
import SerialNovel.Markup.Paragraph
import SerialNovel.Script.Speaker

namespace SerialNovel

namespace Node

/-- A paragraph that comes over a channel is a message, whoever speaks it. -/
def ofParagraph (table : SpeakerTable) (paragraph : Text) : Node :=
  match Comms.ofParagraph? paragraph with
  | some (name, text) => .comms name text
  | none => table.node paragraph

def ofDirective : Directive → Node
  | .divider => .divider
  | .jump target label => .jump target label
  | .image source caption => .image source caption

end Node

/-- The nodes so far, the prose that waits for the end of its paragraph and the lines of the open
block. -/
structure Reader where
  nodes : List Node := []
  prose : Paragraph.Buffer := {}
  block : Option (List Text) := none
  deriving DecidableEq, Repr

namespace Reader

def emit (r : Reader) (n : Node) : Reader := { r with nodes := r.nodes ++ [n] }

def endProse (table : SpeakerTable) (r : Reader) : Reader :=
  match r.prose.take with
  | (some paragraph, prose) => { r with prose }.emit (.ofParagraph table paragraph)
  | (none, _) => r

/-- Ends the open block, after `last` if there is a closing line. -/
def endBlock (r : Reader) (last : List Text) : Reader :=
  match r.block with
  | some lines => { r with block := none }.emit (.intercept (lines ++ last))
  | none => r

/-- Reads a line without the white space at its end. -/
def feed (table : SpeakerTable) (r : Reader) (line : Text) : Reader :=
  match LineClass.of r.block.isSome line with
  | .opening closed =>
    let r := (r.endProse table).endBlock []
    if closed then r.emit (.intercept [line]) else { r with block := some [line] }
  | .continuing => { r with block := r.block.map (· ++ [line]) }
  | .closing => r.endBlock [line]
  | .directive d => (r.endProse table).emit (.ofDirective d)
  | .blank => r.endProse table
  | .prose => { r with prose := r.prose.push (Text.trim line) }

def finish (table : SpeakerTable) (r : Reader) : List Node :=
  ((r.endProse table).endBlock []).nodes

end Reader

/-- The nodes of a chapter. Every text is a chapter. -/
def parse (table : SpeakerTable) (chapter : Text) : List Node :=
  (((Text.lines chapter).map Text.trimEnd).foldl (Reader.feed table) {}).finish table

end SerialNovel
