import SerialNovel.Text.Words

namespace SerialNovel

inductive Data
  | null
  | bool (b : Bool)
  /-- A whole number that is not negative. -/
  | natural (n : Nat)
  /-- Any other number. -/
  | number
  | text (t : Text)
  | list (ds : List Data)
  | object (fields : List (Text × Data))
  deriving Repr, Inhabited

/-- A type with a shape as data. -/
class Shaped (α : Type) where
  encode : α → Data
  decode? : Data → Option α

export Shaped (encode decode?)

namespace Data

def asText? : Data → Option Text
  | text t => some t
  | _ => none

/-- The fields of a record with these names. They are those of an object, unless one of the names
occurs twice in it, or the items of a list in the order of the names. -/
def record? (names : List String) : Data → Option (List (Text × Data))
  | object fields =>
    if names.all fun n => fields.countP (·.1 == n.toList) ≤ 1 then some fields else none
  | list ds => if ds.length ≤ names.length then some ((names.map String.toList).zip ds) else none
  | _ => none

/-- The name of a case and the data of its fields. The name is the value of a field that occurs once
in an object, or the first item of a list. -/
def tagged? (tag : String) : Data → Option (Text × Data)
  | object fields =>
    match fields.filter (·.1 == tag.toList) with
    | [(_, text name)] => some (name, object (fields.filter (·.1 != tag.toList)))
    | _ => none
  | list (text name :: ds) => some (name, list ds)
  | _ => none

/-- The data of the fields of a case that has none. An object may hold any fields. -/
def isBare : Data → Bool
  | object _ => true
  | list ds => ds.isEmpty
  | _ => false

def isNull : Data → Bool
  | null => true
  | _ => false

def asListOf? {α : Type} (item : Data → Option α) : Data → Option (List α)
  | list ds => ds.mapM item
  | _ => none

/-- No contents: `null`, or an empty object in data that were `kept` before their type was known. -/
def isVoid (kept : Bool) : Data → Bool
  | null => true
  | object [] => kept
  | _ => false

/-- The name of a case without contents: alone, or as the one field of an object without contents. -/
def asName? (kept : Bool) : Data → Option Text
  | text t => some t
  | object [(n, d)] => if d.isVoid kept then some n else none
  | _ => none

def asCase? {α : Type} (kept : Bool) (all : List α) (name : α → Text) (d : Data) : Option α :=
  (d.asName? kept).bind fun n => all.find? (name · == n)

/-- One of the names, or its number in data that were `kept`. -/
def asNumbered? (kept : Bool) (names : List String) : Data → Option Text
  | text t => some t
  | natural i => if kept then names[i]?.map String.toList else none
  | _ => none

def tagged (tag : String) (fields : List (Text × Data)) : Data :=
  object (("type".toList, text tag.toList) :: fields)

end Data

namespace Fields

def get? (fields : List (Text × Data)) (name : String) : Option Data := fields.lookup name.toList

def read? {α : Type} [Shaped α] (fields : List (Text × Data)) (name : String) : Option α :=
  (get? fields name).bind decode?

def readWith? {α : Type} (fields : List (Text × Data)) (name : String) (item : Data → Option α) :
    Option α :=
  (get? fields name).bind item

def readOr? {α : Type} [Shaped α] (fields : List (Text × Data)) (name : String) (default : α) :
    Option α :=
  match get? fields name with
  | some d => decode? d
  | none => some default

/-- A field that may be missing or `null`. -/
def readOption? {α : Type} [Shaped α] (fields : List (Text × Data)) (name : String) :
    Option (Option α) :=
  match get? fields name with
  | none => some none
  | some .null => some none
  | some d => (decode? d).map some

def put {α : Type} [Shaped α] (name : String) (a : α) : Text × Data := (name.toList, encode a)

end Fields

instance : Shaped Text where
  encode := .text
  decode? := Data.asText?

instance : Shaped Bool where
  encode := .bool
  decode?
    | .bool b => some b
    | _ => none

/-- Numbers have at most 64 bits. -/
instance : Shaped Nat where
  encode := .natural
  decode?
    | .natural n => if n ≤ Text.maxNumber then some n else none
    | _ => none

instance {α : Type} [Shaped α] : Shaped (List α) where
  encode as := .list (as.map encode)
  decode?
    | .list ds => ds.mapM decode?
    | _ => none

instance {α : Type} [Shaped α] : Shaped (Option α) where
  encode
    | none => .null
    | some a => encode a
  decode?
    | .null => some none
    | d => (decode? d).map some

end SerialNovel
