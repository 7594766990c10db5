import SerialNovel.Data.Value
import SerialNovel.Library.Catalog
import SerialNovel.Library.Theme
import SerialNovel.Page.Block
import SerialNovel.Playback.Player
import SerialNovel.Script.Lint

namespace SerialNovel

open Fields

def Style.dataName : Style → Text
  | masked => "Masked".toList
  | emphasis => "Emphasis".toList
  | glitchEmphasis => "GlitchEmphasis".toList
  | voidEmphasis => "VoidEmphasis".toList
  | danger => "Danger".toList
  | info => "Info".toList
  | highlight => "Highlight".toList
  | spoilerCard => "SpoilerCard".toList

def Style.ofData? (kept : Bool) : Data → Option Style :=
  Data.asCase? kept Style.all Style.dataName

instance : Shaped Style where
  encode s := .text s.dataName
  decode? := Style.ofData? false

def NodeKind.all : List NodeKind :=
  [dialogue, narration, system, comms, image, divider, jump, intercept, reveal]

def NodeKind.dataName : NodeKind → Text
  | dialogue => "Dialogue".toList
  | narration => "Narration".toList
  | system => "SystemMessage".toList
  | comms => "CommsMessage".toList
  | image => "ImageCue".toList
  | divider => "Divider".toList
  | jump => "JumpLink".toList
  | intercept => "InterceptBlock".toList
  | reveal => "CollapsibleReveal".toList

instance : Shaped NodeKind where
  encode k := .text k.dataName
  decode? := Data.asCase? false NodeKind.all NodeKind.dataName

def Role.dataName : Role → Text
  | dialogue => "Dialogue".toList
  | system => "System".toList

instance : Shaped Role where
  encode r := .text r.dataName
  decode? := Data.asCase? false [.dialogue, .system] Role.dataName

def ChapterStatus.dataName : ChapterStatus → Text
  | available => "Available".toList
  | locked => "Locked".toList

instance : Shaped ChapterStatus where
  encode s := .text s.dataName
  decode? := Data.asCase? false [.available, .locked] ChapterStatus.dataName

def Theme.dataName : Theme → Text
  | .variable => "Variable".toList
  | rain => "Rain".toList
  | daily => "Daily".toList
  | midnight => "Midnight".toList
  | collabStar => "CollabStar".toList
  | default => "Default".toList

instance : Shaped Theme where
  encode t := .text t.dataName
  decode? := Data.asCase? false Theme.all Theme.dataName

def Phase.dataName : Phase → Text
  | revealing => "Revealing".toList
  | waiting => "AwaitingAdvance".toList
  | ended => "AtEnd".toList

instance : Shaped Phase where
  encode p := .text p.dataName
  decode? := Data.asCase? false [.revealing, .waiting, .ended] Phase.dataName

def RunKind.dataName : RunKind → Text
  | plain => "Plain".toList
  | bold => "Bold".toList
  | styled _ => "Styled".toList

def RunKind.ofData? (kept : Bool) (d : Data) : Option RunKind :=
  match d with
  | .object [(name, inner)] =>
    if name = "Styled".toList then (Style.ofData? kept inner).map .styled
    else Data.asCase? kept [.plain, .bold] RunKind.dataName d
  | _ => Data.asCase? kept [.plain, .bold] RunKind.dataName d

/-- A styled run names its style as the one field of an object. -/
instance : Shaped RunKind where
  encode
    | .styled s => .object [put "Styled" s]
    | k => .text k.dataName
  decode? := RunKind.ofData? false

def Run.ofData? (kept : Bool) (d : Data) : Option Run := do
  let fs ← d.record? ["kind", "text"]
  return { kind := ← readWith? fs "kind" (RunKind.ofData? kept), text := ← read? fs "text" }

instance : Shaped Run where
  encode r := .object [put "kind" r.kind, put "text" r.text]
  decode? := Run.ofData? false

def Run.listOf? (kept : Bool) : Data → Option (List Run) := Data.asListOf? (Run.ofData? kept)

def InterceptLine.ofContents? (kept : Bool) (tag : Text) (contents : Option Data) :
    Option InterceptLine :=
  if tag = "spacer".toList then
    if contents.all Data.isNull then some .spacer else none
  else if tag = "text".toList then (contents.bind (Run.listOf? kept)).map .text
  else none

/-- A line as an object, or as a list of its type and its runs. In an object the runs are kept if
they come before the type. -/
def InterceptLine.ofData? (kept : Bool) : Data → Option InterceptLine
  | .object fields => do
    let fs ← (Data.object fields).record? ["type", "runs"]
    let tag ← (← get? fs "type").asName? kept
    let first := fs.find? fun f => f.1 == "type".toList || f.1 == "runs".toList
    ofContents? (kept || first.any (·.1 == "runs".toList)) tag (get? fs "runs")
  | .list [tag, runs] => do
    ofContents? kept (← tag.asNumbered? kept ["spacer", "text"]) (some runs)
  | _ => none

instance : Shaped InterceptLine where
  encode
    | .spacer => .tagged "spacer" []
    | .text runs => .tagged "text" [put "runs" runs]
  decode? := InterceptLine.ofData? false

instance : Shaped SpeakerKey where
  encode k := .text k.name
  decode? d := d.asText?.map .mk

/-- The fields of a block are kept until its type is read. -/
instance : Shaped Block where
  encode
    | .paragraph speaker runs => .tagged "paragraph" [put "speaker" speaker, put "runs" runs]
    | .comms speaker runs => .tagged "comms" [put "speaker" speaker, put "runs" runs]
    | .system runs => .tagged "system" [put "runs" runs]
    | .image source caption =>
      .tagged "image" [put "source_ref" source, put "caption" caption]
    | .divider => .tagged "divider" []
    | .jump target label =>
      .tagged "jump" [put "target_volume_id" target, put "label" label]
    | .intercept signal lines =>
      .tagged "intercept" [put "signal_id" signal, put "lines" lines]
    | .reveal content => .tagged "reveal" [put "content" content]
  decode? d := do
    let (tag, rest) ← d.tagged? "type"
    if tag = "paragraph".toList then
      let fs ← rest.record? ["speaker", "runs"]
      return .paragraph (← readOption? fs "speaker") (← readWith? fs "runs" (Run.listOf? true))
    else if tag = "comms".toList then
      let fs ← rest.record? ["speaker", "runs"]
      return .comms (← read? fs "speaker") (← readWith? fs "runs" (Run.listOf? true))
    else if tag = "system".toList then
      let fs ← rest.record? ["runs"]
      return .system (← readWith? fs "runs" (Run.listOf? true))
    else if tag = "image".toList then
      let fs ← rest.record? ["source_ref", "caption"]
      return .image (← read? fs "source_ref") (← read? fs "caption")
    else if tag = "divider".toList then
      if rest.isBare then some .divider else none
    else if tag = "jump".toList then
      let fs ← rest.record? ["target_volume_id", "label"]
      return .jump (← read? fs "target_volume_id") (← read? fs "label")
    else if tag = "intercept".toList then
      let fs ← rest.record? ["signal_id", "lines"]
      return .intercept (← read? fs "signal_id")
        (← readWith? fs "lines" (Data.asListOf? (InterceptLine.ofData? true)))
    else if tag = "reveal".toList then
      let fs ← rest.record? ["content"]
      return .reveal (← read? fs "content")
    else none

instance : Shaped Node where
  encode
    | .dialogue key name text =>
      .tagged "dialogue"
        [put "speaker_key" key, put "speaker_display_name" name, put "raw_text" text]
    | .narration text => .tagged "narration" [put "raw_text" text]
    | .system text => .tagged "system_message" [put "raw_text" text]
    | .comms name text =>
      .tagged "comms_message" [put "speaker_display_name" name, put "raw_text" text]
    | .image source caption =>
      .tagged "image_cue" [put "source_ref" source, put "caption" caption]
    | .divider => .tagged "divider" []
    | .jump target label =>
      .tagged "jump_link" [put "target_volume_id" target, put "label" label]
    | .intercept lines => .tagged "intercept_block" [put "lines" lines]
    | .reveal content => .tagged "collapsible_reveal" [put "content" content]
  decode? d := do
    let (tag, rest) ← d.tagged? "type"
    if tag = "dialogue".toList then
      let fs ← rest.record? ["speaker_key", "speaker_display_name", "raw_text"]
      return .dialogue (← read? fs "speaker_key") (← read? fs "speaker_display_name")
        (← read? fs "raw_text")
    else if tag = "narration".toList then
      let fs ← rest.record? ["raw_text"]
      return .narration (← read? fs "raw_text")
    else if tag = "system_message".toList then
      let fs ← rest.record? ["raw_text"]
      return .system (← read? fs "raw_text")
    else if tag = "comms_message".toList then
      let fs ← rest.record? ["speaker_display_name", "raw_text"]
      return .comms (← read? fs "speaker_display_name") (← read? fs "raw_text")
    else if tag = "image_cue".toList then
      let fs ← rest.record? ["source_ref", "caption"]
      return .image (← read? fs "source_ref") (← read? fs "caption")
    else if tag = "divider".toList then
      if rest.isBare then some .divider else none
    else if tag = "jump_link".toList then
      let fs ← rest.record? ["target_volume_id", "label"]
      return .jump (← read? fs "target_volume_id") (← read? fs "label")
    else if tag = "intercept_block".toList then
      let fs ← rest.record? ["lines"]
      return .intercept (← read? fs "lines")
    else if tag = "collapsible_reveal".toList then
      let fs ← rest.record? ["content"]
      return .reveal (← read? fs "content")
    else none

instance : Shaped Chapter where
  encode c := .object
    [put "id" c.id, put "title" c.title, put "content" c.content, put "status" c.status,
      put "group" c.group]
  decode? d := do
    let fs ← d.record? ["id", "title", "content", "status", "group"]
    return {
      id := ← read? fs "id"
      title := ← read? fs "title"
      content := ← readOr? fs "content" []
      status := ← readOr? fs "status" .available
      group := ← readOption? fs "group" }

instance : Shaped Volume where
  encode v := .object [put "id" v.id, put "title" v.title, put "chapters" v.chapters]
  decode? d := do
    let fs ← d.record? ["id", "title", "chapters"]
    return {
      id := ← read? fs "id"
      title := ← read? fs "title"
      chapters := ← readOr? fs "chapters" [] }

instance : Shaped SpeakerEntry where
  encode e := .object [put "key" e.key, put "pattern" e.pattern, put "role" e.role]
  decode? d := do
    let fs ← d.record? ["key", "pattern", "role"]
    return {
      key := ← read? fs "key"
      pattern := ← read? fs "pattern"
      role := ← readOr? fs "role" .dialogue }

instance : Shaped Identity where
  encode i := .object [put "theme_key" i.themeKey, put "initials" i.initials]
  decode? d := do
    let fs ← d.record? ["theme_key", "initials"]
    return { themeKey := ← read? fs "theme_key", initials := ← read? fs "initials" }

instance : Shaped Timing where
  encode t := .object
    [put "tick_interval_ms" t.tick, put "auto_base_delay_ms" t.autoBase,
      put "rich_text_base_delay_ms" t.richBase, put "per_char_ms" t.perChar]
  decode? d := do
    let fs ← d.record?
      ["tick_interval_ms", "auto_base_delay_ms", "rich_text_base_delay_ms", "per_char_ms"]
    let fallback : Timing := {}
    return {
      tick := ← readOr? fs "tick_interval_ms" fallback.tick
      autoBase := ← readOr? fs "auto_base_delay_ms" fallback.autoBase
      richBase := ← readOr? fs "rich_text_base_delay_ms" fallback.richBase
      perChar := ← readOr? fs "per_char_ms" fallback.perChar }

def Issue.data (i : Issue) : Data := .object [put "line" i.line, put "message" i.message]

def Snapshot.data (s : Snapshot) : Data := .object
  [put "cursor" s.cursor, put "len" s.size, put "phase" s.phase.label, put "auto_playing" s.auto,
    put "speaker" s.speaker, put "speaker_key" s.speakerKey, put "initials" s.initials,
    put "revealed_text" s.revealed, put "runs" s.runs, put "backlog_len" s.backlogSize,
    put "next_deadline" s.nextDeadline]

end SerialNovel
