import SerialNovel.Data.Schema
import SerialNovel.Page.Render
import SerialNovel.Text.Hex

namespace SerialNovel

namespace Json

/-- A character inside quotes. Quotes, backslashes and control characters are escaped. -/
def writeChar (c : Char) : Text :=
  if c = '"' || c = '\\' then ['\\', c]
  else if c = '\x08' then ['\\', 'b']
  else if c = '\t' then ['\\', 't']
  else if c = '\n' then ['\\', 'n']
  else if c = '\x0c' then ['\\', 'f']
  else if c = '\r' then ['\\', 'r']
  else if c.toNat < 32 then
    ['\\', 'u', '0', '0', Text.hexChar (c.toNat / 16), Text.hexChar (c.toNat % 16)]
  else [c]

def quote (t : Text) : Text := '"' :: t.flatMap writeChar ++ ['"']

end Json

namespace Data

mutual

/-- Data as text. Nothing in this library is written as `number`, so one such number stands for
all. -/
def json : Data → Text
  | null => "null".toList
  | bool b => if b then "true".toList else "false".toList
  | natural n => Text.ofNat n
  | number => "-1".toList
  | text t => Json.quote t
  | list ds => '[' :: itemsJson [] ds
  | object fields => '\x7b' :: fieldsJson [] fields

def itemsJson : Text → List Data → Text
  | _, [] => [']']
  | separator, d :: ds => separator ++ (d.json ++ itemsJson [','] ds)

def fieldsJson : Text → List (Text × Data) → Text
  | _, [] => ['\x7d']
  | separator, (name, d) :: fields =>
    separator ++ (Json.quote name ++ ':' :: (d.json ++ fieldsJson [','] fields))

end

end Data

def nodesJson (chapter : Text) : Text := (encode (parse .builtin chapter)).json

def pageJson (chapter : Text) : Text := (encode (Page.render (parse .builtin chapter))).json

end SerialNovel
