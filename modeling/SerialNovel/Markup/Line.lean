import SerialNovel.Markup.Intercept

namespace SerialNovel

inductive Directive
  | divider
  | jump (target label : Text)
  | image (source caption : Text)
  deriving DecidableEq, Repr

namespace Directive

def dividerToken : Text := "[[DIVIDER]]".toList

def jumpOpening : Text := "[[JUMP::".toList

def imageOpening : Text := "[[IMAGE::".toList

def closing : Text := "]]".toList

def separator : Text := "::".toList

/-- What stands between `opening` at the start and `]]` at the end of a line. -/
def body? (opening line : Text) : Option Text :=
  (Text.after? opening line).bind (Text.before? closing)

/-- The target is the first segment and the label the second, or the target if there is none. -/
def ofJumpBody (body : Text) : Directive :=
  match Text.cut? separator body with
  | none => .jump body body
  | some (target, rest) =>
    match Text.cut? separator rest with
    | none => .jump target rest
    | some (label, _) => .jump target label

/-- The caption is all that follows the first separator. -/
def ofImageBody (body : Text) : Directive :=
  match Text.cut? separator body with
  | none => .image body []
  | some (source, caption) => .image source caption

def ofLine? (line : Text) : Option Directive :=
  if line = dividerToken then some .divider
  else match body? jumpOpening line with
    | some body => some (ofJumpBody body)
    | none => (body? imageOpening line).map ofImageBody

end Directive

inductive LineClass
  | blank
  | prose
  | opening (closed : Bool)
  | continuing
  | closing
  | directive (d : Directive)
  deriving DecidableEq, Repr

namespace LineClass

/-- The class of a line, given whether a block is open before it. An opener starts a block
everywhere; inside a block every other line belongs to the block. -/
def of (inBlock : Bool) (line : Text) : LineClass :=
  let line := Text.trim line
  if Intercept.opens line then .opening (Intercept.closes line)
  else if inBlock then (if Intercept.closes line then .closing else .continuing)
  else match Directive.ofLine? line with
    | some d => .directive d
    | none => if line.isEmpty then .blank else .prose

end LineClass

end SerialNovel
