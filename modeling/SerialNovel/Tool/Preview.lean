import SerialNovel.Markup.Inline
import SerialNovel.Notation.Schema
import SerialNovel.Page.Render
import SerialNovel.Playback.State
import SerialNovel.Script.Parse
import SerialNovel.Text.Casing
import SerialNovel.Tool.Outcome
import SerialNovel.Tool.Tree

namespace SerialNovel.Preview

def usage : Text := Text.line
  "Usage: script_preview <chapter.txt> [--speakers <path>] [--config <path>] [--staged] [--auto]".toList

def help : Text := [
  "Commands:",
  "  (enter) | next   advance",
  "  auto             toggle auto-play",
  "  wait <ms>        move the clock forward",
  "  run              let timers run until playback stops",
  "  log              print the backlog",
  "  help             list commands",
  "  quit             exit"].flatMap fun l => Text.line l.toList

def runText (r : Run) : Text :=
  match r.kind with
  | .plain => r.text
  | .bold => boldMark ++ r.text ++ boldMark
  | .styled s => "<".toList ++ s.tag ++ ">".toList ++ r.text ++ "</".toList ++ s.tag ++ ">".toList

def runsText (rs : List Run) : Text := rs.flatMap runText

def interceptText : InterceptLine → Text
  | .spacer => Text.line "  |".toList
  | .text runs => Text.line ("  | ".toList ++ runsText runs)

def blockText : Block → Text
  | .paragraph (some key) runs =>
    Text.line ("[".toList ++ key.name ++ "] ".toList ++ runsText runs)
  | .paragraph none runs => Text.line (runsText runs)
  | .comms speaker runs =>
    Text.line ("(comms) ".toList ++ speaker ++ ": ".toList ++ runsText runs)
  | .system runs => Text.line ("[SYSTEM] ".toList ++ runsText runs)
  | .image source caption =>
    Text.line ("[image ".toList ++ source ++ "] ".toList ++ caption)
  | .divider => Text.line "----------------".toList
  | .jump target label =>
    Text.line ("=> ".toList ++ label ++ " (".toList ++ target ++ ")".toList)
  | .intercept signal lines =>
    Text.line (">>> SYSTEM_INTERCEPT // ".toList ++ signal ++ "_VOID".toList) ++
      lines.flatMap interceptText
  | .reveal content =>
    Text.line ("[spoiler: ".toList ++ Text.ofNat content.length ++ " chars hidden]".toList)

def page (nodes : List Node) : Text :=
  let blocks := Page.render nodes
  let styles := (Page.stylesUsed blocks).map Style.tag
  (if styles.isEmpty then []
    else Text.line ("Styles: ".toList ++ Text.joinWith ", ".toList styles)) ++
  (if Page.hasReveals blocks then Text.line "Contains collapsed spoiler cards".toList else []) ++
  Text.line [] ++ blocks.flatMap fun b => blockText b ++ Text.line []

def phaseText : Phase → Text
  | .revealing => "revealing".toList
  | .waiting => "waiting".toList
  | .ended => "end".toList

def stateText (s : Playback) : Text :=
  let label := s.current.speakerName?.getD []
  Text.line ("[".toList ++ Text.ofNat (s.cursor + 1) ++ "/".toList ++ Text.ofNat s.size ++
    " ".toList ++ phaseText s.phase ++ " t=".toList ++ Text.ofNat s.now ++ "ms".toList ++
    (if s.auto then " auto".toList else []) ++ "] ".toList ++
    (if label.isEmpty then [] else label ++ ": ".toList) ++ s.revealedText)

def logText (i : Nat) : List Node → Text
  | [] => []
  | n :: ns =>
    Text.line ("  ".toList ++ Text.padLeft 3 (Text.ofNat i) ++ ". ".toList ++
      Inline.strip n.displayText) ++ logText (i + 1) ns

inductive Command
  | advance
  | auto
  /-- Waits for some milliseconds, unless their number cannot be read. -/
  | wait (ms : Option Nat)
  | run
  | log
  | help
  | quit
  | unknown (word : Text)
  deriving DecidableEq, Repr

/-- The command on a line. The case of its word does not matter. -/
def Command.ofLine (line : Text) : Command :=
  let words := Text.words line
  let word := Text.toLower (words.head?.getD [])
  let is (names : List String) : Bool := names.any fun n => n.toList == word
  if is ["", "next", "n"] then .advance
  else if is ["auto", "a"] then .auto
  else if is ["wait", "w"] then .wait ((words[1]?).bind Text.number?)
  else if is ["run", "r"] then .run
  else if is ["log", "l"] then .log
  else if is ["help", "h", "?"] then .help
  else if is ["quit", "exit", "q"] then .quit
  else .unknown word

/-- The states after which another node is on stage, from node `cursor` on. -/
def turns (cursor : Nat) : List Playback → List Playback
  | [] => []
  | s :: ss => if s.cursor = cursor then turns cursor ss else s :: turns s.cursor ss

/-- What a command prints, and the state after it unless it ends the preview. -/
def respond (s : Playback) : Command → Text × Option Playback
  | .advance => (stateText s.advance, some s.advance)
  | .auto => (stateText s.toggleAuto, some s.toggleAuto)
  | .wait none => (Text.line "Usage: wait <ms>".toList, some s)
  | .wait (some ms) =>
    let (s, fired) := s.tick (s.now + ms)
    (Text.line ("(".toList ++ Text.ofNat fired ++ " timers fired)".toList) ++ stateText s, some s)
  | .run =>
    let rounds := s.rounds
    let last := rounds.getLast?.getD s
    ((turns s.cursor rounds).flatMap stateText ++ stateText last, some last)
  | .log => (logText 1 s.backlog, some s)
  | .help => (help, some s)
  | .quit => (Text.line "Goodbye.".toList, none)
  | .unknown word => (Text.line ("Unknown command: ".toList ++ word), some s)

def prompt : Text := "staged> ".toList

/-- What the stage prints for the lines of its reader, up to the end of the input. -/
def session (s : Playback) : List Text → Text
  | [] => prompt
  | l :: ls =>
    match respond s (Command.ofLine l) with
    | (out, none) => prompt ++ out
    | (out, some s) => prompt ++ out ++ session s ls

def stage (timing : Timing) (auto : Bool) (nodes : List Node) : Playback :=
  let s := Playback.start timing nodes
  if auto then s.toggleAuto else s

structure Options where
  speakers : Option Text := none
  timing : Option Text := none
  staged : Bool := false
  auto : Bool := false
  deriving DecidableEq, Repr

/-- The options after the chapter's path, or the first argument that is none. -/
def options (o : Options) : List Text → Except Text Options
  | [] => .ok o
  | [a] =>
    if a = "--staged".toList then .ok { o with staged := true }
    else if a = "--auto".toList then .ok { o with auto := true }
    else .error a
  | a :: b :: rest =>
    if a = "--speakers".toList then options { o with speakers := some b } rest
    else if a = "--config".toList then options { o with timing := some b } rest
    else if a = "--staged".toList then options { o with staged := true } (b :: rest)
    else if a = "--auto".toList then options { o with auto := true } (b :: rest)
    else .error a

/-- Reads the file at a path, or the default where none is named. -/
def loadOr {α : Type} (places : Places) (read : Text → Except Fault α) (default : α) :
    Option Text → Except Fault α
  | none => .ok default
  | some path =>
    match places.read path with
    | .error fault => .error (.disk fault)
    | .ok t => read t

/-- How a preview starts: it is over at once, or a stage is open after some output. -/
inductive Opening
  | over (outcome : Outcome)
  | staged (out : Text) (s : Playback)

def failure (message : Text) : Opening :=
  .over { status := 1, err := Text.line ("ERROR: ".toList ++ message) }

def present (places : Places) (path : Text) (o : Options) : Opening :=
  match loadOr places SpeakerTable.ofText .builtin o.speakers with
  | .error fault => failure ("Failed to load speaker table: ".toList ++ fault.message)
  | .ok table =>
    match loadOr places Timing.ofText {} o.timing with
    | .error fault => failure ("Failed to load playback config: ".toList ++ fault.message)
    | .ok timing =>
      match places.read path with
      | .error fault =>
        failure ("Failed to read ".toList ++ path ++ ": ".toList ++ fault.message)
      | .ok chapter =>
        let nodes := parse table chapter
        let parsed := Text.line
          ("Parsed ".toList ++ Text.ofNat nodes.length ++ " nodes from ".toList ++ path)
        if o.staged then
          let s := stage timing o.auto nodes
          .staged (parsed ++ help ++ stateText s) s
        else .over { out := parsed ++ page nodes }

def start (places : Places) : List Text → Opening
  | [] => .over { out := usage }
  | path :: rest =>
    if path = "--help".toList || path = "-h".toList then .over { out := usage }
    else match options {} rest with
      | .error a =>
        .over { status := 1, out := usage, err := Text.line ("Unknown argument: ".toList ++ a) }
      | .ok o => present places path o

def run (places : Places) (arguments : List Text) (input : Text) : Outcome :=
  match start places arguments with
  | .over outcome => outcome
  | .staged out s => { out := out ++ session s (Text.lines input) }

end SerialNovel.Preview
