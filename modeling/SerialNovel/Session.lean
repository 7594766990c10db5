import SerialNovel.Library.Catalog
import SerialNovel.Library.Theme
import SerialNovel.Playback.State
import SerialNovel.Script.Parse
import SerialNovel.Store.FlagStore

namespace SerialNovel

inductive ChapterView
  | ready (id title : Text) (theme : Theme) (nodes : List Node)
  | locked (id : Text)
  | notFound (volume : Text) (index : Nat)
  deriving DecidableEq, Repr

/-- The nodes to play. A chapter that cannot be shown has none. -/
def ChapterView.nodes : ChapterView → List Node
  | ready _ _ _ nodes => nodes
  | locked _ => []
  | notFound .. => []

structure Session (σ τ : Type) where
  catalog : Catalog
  speakers : SpeakerTable
  readStore : σ
  ackStore : τ
  spoilerGroups : List Text
  volumeId : Text
  index : Nat

namespace Session

variable {σ τ : Type} [FlagStore σ] [FlagStore τ]

/-- The groups that need an acknowledgment unless a session says otherwise. -/
def defaultSpoilerGroups : List Text := ["phase-2".toList]

def ackKey (group : Text) : Text := "spoiler_ack:".toList ++ group

def volume? (s : Session σ τ) : Option Volume := s.catalog.volume? s.volumeId

def chapter? (s : Session σ τ) : Option Chapter := s.catalog.chapter? s.volumeId s.index

def chapterCount (s : Session σ τ) : Nat := (s.volume?.map (·.chapters.length)).getD 0

/-- Opens the current chapter and records it as read. A store that fails does not keep it shut. -/
def view (s : Session σ τ) : ChapterView × Session σ τ :=
  match s.chapter? with
  | none => (.notFound s.volumeId s.index, s)
  | some c =>
    if c.isLocked then (.locked c.id, s)
    else
      (.ready c.id c.title (Theme.ofChapterId c.id) (parse s.speakers c.content),
        { s with readStore := (FlagStore.set s.readStore c.id).1 })

def staged (s : Session σ τ) (timing : Timing) : Playback × Session σ τ :=
  let (v, s) := s.view
  (Playback.start timing v.nodes, s)

def next (s : Session σ τ) : Bool × Session σ τ :=
  if s.index + 1 < s.chapterCount then (true, { s with index := s.index + 1 }) else (false, s)

def prev (s : Session σ τ) : Bool × Session σ τ :=
  if 0 < s.index ∧ s.index ≤ s.chapterCount then (true, { s with index := s.index - 1 })
  else (false, s)

def select (s : Session σ τ) (i : Nat) : Bool × Session σ τ :=
  match s.catalog.chapter? s.volumeId i with
  | some c => if c.isLocked then (false, s) else (true, { s with index := i })
  | none => (false, s)

def follow (s : Session σ τ) (n : Node) : Bool × Session σ τ :=
  match s.catalog.follow? n with
  | some v => (true, { s with volumeId := v.id, index := 0 })
  | none => (false, s)

def isRead (s : Session σ τ) (id : Text) : Bool := FlagStore.has s.readStore id

def needsAck (s : Session σ τ) (group : Text) : Bool :=
  s.spoilerGroups.contains group && !FlagStore.has s.ackStore (ackKey group)

def acknowledge (s : Session σ τ) (group : Text) : Except Fault Unit × Session σ τ :=
  let (ackStore, result) := FlagStore.set s.ackStore (ackKey group)
  (result, { s with ackStore })

end Session

end SerialNovel
