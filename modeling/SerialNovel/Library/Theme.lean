import SerialNovel.Text.Casing
import SerialNovel.Text.Search
import SerialNovel.Script.Node

namespace SerialNovel

inductive Theme
  | variable
  | rain
  | daily
  | midnight
  | collabStar
  | default
  deriving DecidableEq, Repr

namespace Theme

def all : List Theme := [.variable, rain, daily, midnight, collabStar, default]

/-- The theme of a chapter by its id. The first rule that fits decides. -/
def ofChapterId (id : Text) : Theme :=
  let starts (lead : String) := Text.startsWith lead.toList id
  let has (mark : String) := Text.contains mark.toList id
  if starts "PB" || has "PB-" then midnight
  else if starts "story-variable-" || has "byaki" || has "void" then .variable
  else if starts "story-frag-rain-" then rain
  else if starts "story-coffee" || starts "story-hotpot" || has "daily" then daily
  else if starts "story-collab-star" then collabStar
  else default

def key : Theme → Text
  | .variable => "variable".toList
  | rain => "rain".toList
  | daily => "daily".toList
  | midnight => "midnight".toList
  | collabStar => "collab-star".toList
  | default => "default".toList

end Theme

structure Identity where
  themeKey : Text
  initials : Text
  deriving DecidableEq, Repr

namespace Identity

def unknown : Identity := ⟨SpeakerKey.unknown.name, "??".toList⟩

def known : List Identity := [
  ⟨"point".toList, "ZP".toList⟩,
  ⟨"zeri".toList, "ZL".toList⟩,
  ⟨"zelo".toList, "ZO".toList⟩,
  ⟨"void".toList, "VOID".toList⟩,
  ⟨"dusk".toList, "DR".toList⟩,
  ⟨"byaki".toList, "BK".toList⟩,
  ⟨"system".toList, "SYS".toList⟩,
  unknown]

/-- Under the midnight theme a speaker keeps its own key, with the first two characters in upper
case as initials. Otherwise the known identities decide. -/
def resolve (key : SpeakerKey) (theme : Theme) : Identity :=
  if theme = .midnight then ⟨key.name, Text.toUpper (key.name.take 2)⟩
  else (known.find? (·.themeKey == key.name)).getD unknown

end Identity

end SerialNovel
