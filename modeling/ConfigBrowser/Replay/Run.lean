import ConfigBrowser.Host.Trace
import ConfigBrowser.Replay.Arguments
import ConfigBrowser.Replay.Journal
import ConfigBrowser.Wire.Action

/-!
# Replaying Scripts

A replay runs the commands of a script on a fresh browser over a store in memory and prints every
action that the browser asks for. It reads its files in a fixed order (settings, entities, script,
history) and ends with the first error. The actions of a command are printed once the command has
succeeded.

What is noted on the way goes to the log file of the settings, if the filter lets it pass. The log
begins once the settings are known. Where the program breaks down, the actions of the command are
not printed, and nothing tells of it but the status.

## Main results

* `Replay.runCommands_append`: a script may be replayed in parts.
* `Replay.not_hasRoom_of_broken`: commands break the program down only where the store has no room
  for another entity.
* `Ending.status_eq_zero_iff`: only a replay that has finished has the status zero.
-/

namespace ConfigBrowser.Replay

open Log

/-- How a replay ends. -/
inductive Ending where
  | finished
  | failed (e : Error)
  /-- The program breaks down: the store gives no answer to a request, or the filter of the settings
  would tear a character, which is found too late to be told. -/
  | broken
deriving DecidableEq, Repr

namespace Ending

/-- The status of the program. -/
def status : Ending → Nat
  | finished => 0
  | failed _ => 1
  | broken => 101

/-- The error that a replay ends with, if it can be told. -/
def error? : Ending → Option Error
  | failed e => some e
  | _ => none

/-- Only a replay that has finished has the status zero. -/
theorem status_eq_zero_iff (e : Ending) : e.status = 0 ↔ e = finished := by
  cases e <;> simp [status]

end Ending

/-! ### Running commands -/

/-- What a run of commands leaves. -/
structure Run where
  /-- The actions to be printed. -/
  printed : List Action
  /-- What was noted. -/
  marks : List Mark
  ending : Ending
  browser : Browser

/-- Runs commands until one fails or breaks the program down. -/
def runCommands (b : Browser) : List Command → Run
  | [] => ⟨[], [], .finished, b⟩
  | command :: rest =>
    let trail := b.commandTrail command
    match trail.broken with
    | some b => ⟨[], trail.marks, .broken, b⟩
    | none =>
      match b.run command with
      | (.error e, b) => ⟨[], trail.marks, .failed e, b⟩
      | (.ok _, b) =>
        let (actions, b) := b.takeLog
        let run := runCommands b.takeScreen.2 rest
        { run with printed := actions ++ run.printed, marks := trail.marks ++ run.marks }

/-- A script may be replayed in parts: the second one follows if the first has finished. -/
theorem runCommands_append (b : Browser) (first second : List Command) :
    runCommands b (first ++ second) =
      match (runCommands b first).ending with
      | .finished =>
        let run := runCommands (runCommands b first).browser second
        { run with
          printed := (runCommands b first).printed ++ run.printed
          marks := (runCommands b first).marks ++ run.marks }
      | _ => runCommands b first := by
  induction first generalizing b with
  | nil => simp [runCommands]
  | cons command rest ih =>
    rw [List.cons_append, runCommands]
    cases hbroken : (b.commandTrail command).broken with
    | some b' => simp [runCommands, hbroken]
    | none =>
      cases hrun : b.run command with
      | mk outcome b' =>
        cases outcome with
        | error e => simp [runCommands, hbroken, hrun]
        | ok _ =>
          simp only [runCommands, hbroken, hrun, ih]
          cases hrest : (runCommands b'.takeLog.2.takeScreen.2 rest).ending <;> simp [hrest]

/-- Commands break the program down only where the store has no room for another entity. -/
theorem not_hasRoom_of_broken {b : Browser} {commands : List Command}
    (hending : (runCommands b commands).ending = .broken) :
    ¬ (runCommands b commands).browser.store.HasRoom := by
  induction commands generalizing b with
  | nil => cases hending
  | cons command rest ih =>
    cases hbroken : (b.commandTrail command).broken with
    | some b' =>
      simp only [runCommands, hbroken]
      exact (b.sound_commandTrail command).exhausted b' hbroken
    | none =>
      cases hrun : b.run command with
      | mk outcome b' =>
        cases outcome with
        | error e => simp [runCommands, hbroken, hrun] at hending
        | ok _ =>
          simp only [runCommands, hbroken, hrun] at hending ⊢
          exact ih hending

/-! ### Settings -/

/-- The settings of a replay. -/
def loadSettings (home : Option String) (files : FileTree) (a : Arguments) :
    Except Error Settings :=
  match a.config with
  | some path => Settings.load home (files.read? path)
  | none => .ok .default

/-! ### Preparation -/

/-- A part of the preparation, which may fail, and which changes the journal in any case. -/
abbrev Preparation := ExceptT Error (StateM Journal)

namespace Preparation

/-- Leaves marks. -/
def leave (marks : List Mark) : Preparation Unit := modify fun j => j.markAll marks

/-- Goes on with a result that was found without the journal. -/
def result {α : Type} (r : Except Error α) : Preparation α := liftExcept r

/-- The text of a file. -/
def readFile (path : String) : Preparation String := do
  match (← get).files.read? path with
  | some text => return text
  | none => throw .io

end Preparation

open Preparation

/-- The entities of a text. -/
def parseEntities (text : String) : Except Error (List Entity) :=
  match Wire.parse (.list Entity.shape) (Wire.list Entity.ofJson?) text with
  | some entities => .ok entities
  | none => .error .json

/-- The store of a replay. -/
def loadStore (a : Arguments) : Preparation MemoryStore :=
  match a.seed with
  | some path => do
    let entities ← result (parseEntities (← readFile path))
    leave [.debug .program "store seeded" ["entities"]]
    return .ofEntities entities
  | none => return .empty

/-- The commands of a replay. -/
def loadCommands (a : Arguments) (input : String) : Preparation (List Command) := do
  match a.script with
  | some path => result (Command.parseScript (← readFile path))
  | none => result (Command.parseScript input)

/-- The history of a file. -/
def openHistoryFile (path : String) (limit : Nat) : Preparation History := do
  leave [.debug .history "initializing JSON history" ["path"]]
  let j ← get
  let (opened, files) := j.files.openHistory path limit
  set { j with files }
  let history ← result opened
  if (history.file.bind HistoryFile.text).isSome then
    leave [.debug .history "loaded history data" ["version", "lists"]]
  leave [.debug .history "history initialized" ["lists"]]
  return history

/-- The view of a browser with the given settings. -/
def openView (s : Settings) : Preparation (View History) := do
  leave [.debug .program "initializing configs view" ["page"]]
  let history ←
    match s.historyPath with
    | some path => openHistoryFile path s.historyLimit
    | none => pure (.inMemory s.historyLimit)
  let view ← result (View.initial s.page s.loadingDelay history)
  leave (view.table.rules.map fun _ => .trace .routes "route registered" ["rule", "pattern"])
  leave [.debug .state "configs view created" ["page", "rules"]]
  return view

/-- The browser and the commands of a replay, at a reading of the clock. -/
def prepare (a : Arguments) (input : String) (clock : Int) (s : Settings) :
    Preparation (Browser × List Command) := do
  let store ← loadStore a
  let commands ← loadCommands a input
  let view ← openView s
  return ({ Host.initial view store with clock }, commands)

/-! ### Replays -/

/-- What a replay leaves. -/
structure Report where
  /-- The lines printed. -/
  output : List String
  ending : Ending
  files : FileTree

/-- The span of a replay. -/
def span (s : Settings) : Span := ⟨.program, "replay", [("page", s.page)]⟩

/-- The marks of the end of a replay. -/
def endMarks : Ending → List Mark
  | .failed _ => [.leave, .error .program "replay failed" ["error"]]
  | .finished | .broken => [.leave]

/-- Replays a script on a browser with the given settings, from the start of the journal on. -/
def replayWith (j : Journal) (a : Arguments) (input : String) (clock : Int) (s : Settings) :
    Report :=
  match (prepare a input clock s).run.run (j.mark (.enter (span s))) with
  | (.error e, j) => ⟨[], .failed e, (j.markAll (endMarks (.failed e))).files⟩
  | (.ok (browser, commands), j) =>
    let run := runCommands browser commands
    let marks := run.marks ++ run.browser.view.history.closeMarks ++ endMarks run.ending
    { output := run.printed.map fun action => action.toJson.compact
      ending := run.ending
      files := (j.markAll marks).files }

/-- Replays a script. -/
def replay (home : Option String) (files : FileTree) (a : Arguments) (input : String)
    (clock : Int) : Report :=
  match loadSettings home files a with
  | .error e => ⟨[], .failed e, files⟩
  | .ok s =>
    match Journal.start? files s with
    | none => ⟨[], .broken, files⟩
    | some j => replayWith j a input clock s

end ConfigBrowser.Replay
