import SerialNovel.Text.Search

namespace SerialNovel.Comms

def channels : List Text :=
  ["通信频道".toList, "Comms Channel".toList, "通信頻道".toList]

def afterOneOf? (options : List Char) : Text → Option Text
  | [] => none
  | c :: t => if c ∈ options then some t else none

def afterMark? (t : Text) : Option Text := do
  let t ← afterOneOf? ['（', '('] t
  let t ← channels.findSome? fun name => Text.after? name t
  let t ← afterOneOf? ['）', ')'] t
  afterOneOf? [':', '：'] t

/-- The text on one line before the first mark, and what follows the mark. -/
def cutMark? : Text → Option (Text × Text)
  | [] => none
  | c :: t =>
    match afterMark? (c :: t) with
    | some rest => some ([], rest)
    | none => if c = '\n' then none else (cutMark? t).map fun p => (c :: p.1, p.2)

/-- The first line of a message, after the white space that precedes it. -/
def message (rest : Text) : Text :=
  Text.trim ((Text.trimStart rest).takeWhile (· != '\n'))

/-- The speaker and the message of a paragraph that comes over a channel. The name before the mark
has at least one character. -/
def ofParagraph? : Text → Option (Text × Text)
  | [] => none
  | c :: t =>
    if c = '\n' then none
    else (cutMark? t).map fun p => (Text.trim (c :: p.1), message p.2)

end SerialNovel.Comms
