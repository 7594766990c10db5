import SerialNovel.Text.Search

namespace SerialNovel

structure SpeakerKey where
  name : Text
  deriving DecidableEq, Repr

def SpeakerKey.unknown : SpeakerKey := ⟨"unknown".toList⟩

/-- One unit of a chapter. A reveal comes from the page only, never from reading a chapter. -/
inductive Node
  | dialogue (key : SpeakerKey) (name text : Text)
  | narration (text : Text)
  | system (text : Text)
  | comms (name text : Text)
  | image (source caption : Text)
  | divider
  | jump (target label : Text)
  | intercept (lines : List Text)
  | reveal (content : Text)
  deriving DecidableEq, Repr

inductive NodeKind
  | dialogue
  | narration
  | system
  | comms
  | image
  | divider
  | jump
  | intercept
  | reveal
  deriving DecidableEq, Repr

namespace Quotes

/-- The quotes that close around a whole speech. -/
def pairs : List (Char × Char) := [('“', '”'), ('"', '"'), ('「', '」')]

/-- What stands between an opening quote at the start and its closing quote at the end. -/
def within? (t : Text) : Option Text :=
  pairs.findSome? fun p => (Text.after? [p.1] t).bind (Text.before? [p.2])

theorem length_of_within? {t inner : Text} (h : within? t = some inner) :
    inner.length < t.length := by
  obtain ⟨p, _, hp⟩ := List.exists_of_findSome?_eq_some h
  obtain ⟨u, hu, hv⟩ := Option.bind_eq_some_iff.1 hp
  rw [Text.after?_eq_some.1 hu, Text.before?_eq_some.1 hv]
  simp only [List.length_append, List.length_cons, List.length_nil]
  omega

theorem length_trim_le (t : Text) : (Text.trim t).length ≤ t.length := by
  have h (s : Text) : (s.dropWhile Text.isBlank).length ≤ s.length :=
    (List.dropWhile_suffix _).length_le
  have := h (Text.trimStart t).reverse
  have := h t
  simp only [Text.trim, Text.trimEnd, Text.trimStart, List.length_reverse] at *
  omega

/-- Takes matched quotes off a trimmed text, and the white space inside each pair. -/
def peel (t : Text) : Text :=
  match _h : within? t with
  | none => t
  | some inner => peel (Text.trim inner)
termination_by t.length
decreasing_by exact Nat.lt_of_le_of_lt (length_trim_le inner) (length_of_within? _h)

def strip (t : Text) : Text := peel (Text.trim t)

end Quotes

namespace Node

def placeholder : Node := .system "TERMINAL_LINK_ESTABLISHED...".toList

def kind : Node → NodeKind
  | dialogue .. => .dialogue
  | narration _ => .narration
  | system _ => .system
  | comms .. => .comms
  | image .. => .image
  | divider => .divider
  | jump .. => .jump
  | intercept _ => .intercept
  | reveal _ => .reveal

def isImage (n : Node) : Bool := n.kind == .image

def speakerName? : Node → Option Text
  | dialogue _ name _ => some name
  | comms name _ => some name
  | _ => none

def speakerKey? : Node → Option SpeakerKey
  | dialogue key _ _ => some key
  | _ => none

def rawText : Node → Text
  | dialogue _ _ text => text
  | narration text => text
  | system text => text
  | comms _ text => text
  | image _ caption => caption
  | divider => []
  | jump _ label => label
  | intercept lines => List.intercalate ['\n'] lines
  | reveal content => content

/-- The speech after the speaker's name and a colon. A name with anything else between, such as a
stage direction, stays. -/
def withoutName (name text : Text) : Text :=
  if name.isEmpty then text
  else match Text.after? name text with
    | none => text
    | some rest =>
      match Text.trimStart rest with
      | c :: speech => if c = ':' || c = '：' then Text.trimStart speech else text
      | [] => text

/-- The text that the stage reveals. -/
def displayText : Node → Text
  | dialogue _ name text => Quotes.strip (withoutName name text)
  | n => n.rawText

/-- Whether a partial reveal could cut markup in half. -/
def hasTags (n : Node) : Bool := Text.contains "[[".toList n.rawText

end Node

end SerialNovel
