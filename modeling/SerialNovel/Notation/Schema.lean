import SerialNovel.Library.Catalog
import SerialNovel.Notation.Value
import SerialNovel.Playback.Timing
import SerialNovel.Script.Speaker

namespace SerialNovel

namespace Notation

namespace Value

def asText? : Value → Option Text
  | text t => some t
  | _ => none

def asNatural? : Value → Option Nat
  | natural n => some n
  | _ => none

def asName? : Value → Option Text
  | name n => some n
  | _ => none

def asList? {α : Type} (item : Value → Option α) : Value → Option (List α)
  | list vs => vs.mapM item
  | _ => none

def asOption? {α : Type} (x : Extensions) (item : Value → Option α) : Value → Option (Option α)
  | absent => some none
  | present v => (item v).map some
  | v => if x.implicitSome then (item v).map some else none

def fieldsOf? (type : String) : Value → Option (List (Text × Value))
  | record (some n) fields => if n = type.toList then some fields else none
  | record none fields => some fields
  | _ => none

end Value

def field? {α : Type} (fields : List (Text × Value)) (name : String) (item : Value → Option α)
    (default : Option α) : Option α :=
  match fields.filter (·.1 == name.toList) with
  | [] => default
  | [(_, v)] => item v
  | _ => none

def required? {α : Type} (fields : List (Text × Value)) (name : String)
    (item : Value → Option α) : Option α :=
  field? fields name item none

def defaulted? {α : Type} (fields : List (Text × Value)) (name : String)
    (item : Value → Option α) (default : α) : Option α :=
  field? fields name item (some default)

def role? (v : Value) : Option Role := do
  let name ← v.asName?
  if name = "Dialogue".toList then some .dialogue
  else if name = "System".toList then some .system
  else none

def status? (v : Value) : Option ChapterStatus := do
  let name ← v.asName?
  if name = "Available".toList then some .available
  else if name = "Locked".toList then some .locked
  else none

def speakerRow? (v : Value) : Option SpeakerEntry := do
  let fs ← v.fieldsOf? "SpeakerEntry"
  return {
    key := ← required? fs "key" Value.asText?
    pattern := ← required? fs "pattern" Value.asText?
    role := ← defaulted? fs "role" role? .dialogue }

def chapter? (x : Extensions) (v : Value) : Option Chapter := do
  let fs ← v.fieldsOf? "Chapter"
  return {
    id := ← required? fs "id" Value.asText?
    title := ← required? fs "title" Value.asText?
    content := ← defaulted? fs "content" Value.asText? []
    status := ← defaulted? fs "status" status? .available
    group := ← defaulted? fs "group" (Value.asOption? x Value.asText?) none }

def volume? (x : Extensions) (v : Value) : Option Volume := do
  let fs ← v.fieldsOf? "Volume"
  return {
    id := ← required? fs "id" Value.asText?
    title := ← required? fs "title" Value.asText?
    chapters := ← defaulted? fs "chapters" (Value.asList? (chapter? x)) [] }

def timing? (v : Value) : Option Timing := do
  let fs ← v.fieldsOf? "PlaybackConfig"
  let fallback : Timing := {}
  return {
    tick := ← defaulted? fs "tick_interval_ms" Value.asNatural? fallback.tick
    autoBase := ← defaulted? fs "auto_base_delay_ms" Value.asNatural? fallback.autoBase
    richBase := ← defaulted? fs "rich_text_base_delay_ms" Value.asNatural? fallback.richBase
    perChar := ← defaulted? fs "per_char_ms" Value.asNatural? fallback.perChar }

def decode {α : Type} (item : Extensions → Value → Option α) (t : Text) : Except Fault α :=
  match (read? t).bind fun p => item p.1 p.2 with
  | some a => .ok a
  | none => .error .malformed

end Notation

open Notation in
def Catalog.ofText (t : Text) : Except Fault Catalog := do
  Catalog.ofVolumes (← decode (fun x => Value.asList? (Notation.volume? x)) t)

open Notation in
def SpeakerTable.ofText (t : Text) : Except Fault SpeakerTable := do
  SpeakerTable.ofEntries (← decode (fun _ => Value.asList? speakerRow?) t)

open Notation in
def Timing.ofText (t : Text) : Except Fault Timing := decode (fun _ => timing?) t

namespace Notation

def idsOfText (t : Text) : Except Fault (List Text) :=
  decode (fun _ => Value.asList? Value.asText?) t

def writeIds : List Text → Text
  | [] => "[]".toList
  | ids =>
    "[\n".toList ++ ids.flatMap (fun id => "    ".toList ++ quote id ++ ",\n".toList) ++ [']']

end Notation

end SerialNovel
