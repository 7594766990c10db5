import SerialNovel.Fault
import SerialNovel.Pattern.Match
import SerialNovel.Script.Node

namespace SerialNovel

/-- What a paragraph with a known speaker becomes. -/
inductive Role
  | dialogue
  | system
  deriving DecidableEq, Repr, Inhabited

structure SpeakerEntry where
  key : Text
  pattern : Text
  role : Role := .dialogue
  deriving DecidableEq, Repr

structure SpeakerRule where
  key : SpeakerKey
  program : Pattern.Program
  role : Role
  deriving DecidableEq, Repr

structure Attribution where
  key : SpeakerKey
  name : Text
  role : Role
  deriving DecidableEq, Repr

structure SpeakerTable where
  rules : List SpeakerRule
  deriving DecidableEq, Repr

namespace SpeakerRule

def ofEntry (e : SpeakerEntry) : Except Fault SpeakerRule :=
  match Pattern.read? e.pattern with
  | some pattern => .ok ⟨⟨e.key⟩, pattern.program, e.role⟩
  | none => .error (.badPattern e.key)

/-- The name shown for the speaker: the first group if it took part, else the whole match. -/
def name? (r : SpeakerRule) (paragraph : Text) : Option Text :=
  (r.program.search? paragraph).map fun found => (found.group? 1).getD found.text

def attribute? (r : SpeakerRule) (paragraph : Text) : Option Attribution :=
  (r.name? paragraph).map fun name => ⟨r.key, name, r.role⟩

end SpeakerRule

namespace SpeakerTable

def ofEntries (es : List SpeakerEntry) : Except Fault SpeakerTable :=
  (es.mapM SpeakerRule.ofEntry).map .mk

/-- The built-in speakers, in order. -/
def defaultEntries : List SpeakerEntry := [
  ⟨"point".toList, "^(零点|Point|零點)(?::|：|\\(|（)".toList, .dialogue⟩,
  ⟨"zeri".toList, "^(芷漓|Zeri)(?::|：|\\(|（)".toList, .dialogue⟩,
  ⟨"zelo".toList, "^(泽洛|Zelo|澤洛)(?::|：|\\(|（)".toList, .dialogue⟩,
  ⟨"byaki".toList, "^(白栖|Byaki|白棲)(?::|：|\\(|（)".toList, .dialogue⟩,
  ⟨"void".toList, "^(\\?\\?\\?|Void|void)(?::|：|\\(|（|>)".toList, .dialogue⟩,
  ⟨"system".toList, "^(SYSTEM|System|系统|系統)(?::|：|\\(|（)".toList, .system⟩]

def builtin : SpeakerTable := ((ofEntries defaultEntries).toOption).getD ⟨[]⟩

def size (t : SpeakerTable) : Nat := t.rules.length

def isEmpty (t : SpeakerTable) : Bool := t.rules.isEmpty

def keys (t : SpeakerTable) : List SpeakerKey := t.rules.map (·.key)

def attribute? (t : SpeakerTable) (paragraph : Text) : Option Attribution :=
  t.rules.findSome? (·.attribute? paragraph)

/-- The node of a paragraph that comes over no channel. -/
def node (t : SpeakerTable) (paragraph : Text) : Node :=
  match t.attribute? paragraph with
  | some ⟨_, _, .system⟩ => .system paragraph
  | some ⟨key, name, .dialogue⟩ => .dialogue key name paragraph
  | none => .narration paragraph

end SpeakerTable

end SerialNovel
