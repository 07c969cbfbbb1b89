import ConfigBrowser.Error
import ConfigBrowser.Screen.Toolbar
import ConfigBrowser.SortedMap
import ConfigBrowser.Store.Message
import ConfigBrowser.Text.Blank
import ConfigBrowser.Text.Digits
import ConfigBrowser.Text.Split

/-!
# Scripts

A script holds one command to a line; blank lines and lines that begin with two slashes are passed
over. A line of one word that is no command is a path to navigate to.

* `press new` presses a button.
* `confirm name=X xml=<a/>` and `cancel` decide on the newest open dialog.
* `edit` clicks the displayed entity, `reset` ends what stuck from the last visit, and `timers` lets
  every armed timer run out.
* `defer on` and `defer off` hold requests back, or no longer.
* `release` and `release 3` have held requests answered.

## Main results

* `Command.parseLines_append`: a script is read line by line.
-/

namespace ConfigBrowser

/-- A command of a script. -/
inductive Command where
  | navigate (path : String)
  | press (button : ToolbarButton)
  | confirm (fields : SortedMap String String)
  | cancel
  | edit
  | reset
  | timers
  | defer (on : Bool)
  /-- Releases one held request, or all. -/
  | release (ticket : Option Ticket)
deriving DecidableEq, Repr

namespace Command

/-- The fields that words of the form `key=value` set. -/
def readFields : List (List Char) → Option (List (String × String))
  | [] => some []
  | word :: rest =>
    match Text.cut (· = '=') word with
    | some (key, value) => (readFields rest).map ((String.ofList key, String.ofList value) :: ·)
    | none => none

/-- The command of a word and the text behind it, if the word is that of a command. -/
def ofWord? (word rest : String) : Option (Except CommandFault Command) :=
  match word with
  | "press" =>
    match ToolbarButton.ofName? rest with
    | some button => some (.ok (.press button))
    | none => some (.error .unknownButton)
  | "confirm" =>
    match readFields (Text.words rest.toList) with
    | some fields => some (.ok (.confirm (.ofList fields)))
    | none => some (.error .expectedPair)
  | "cancel" => some (.ok .cancel)
  | "edit" => some (.ok .edit)
  | "reset" => some (.ok .reset)
  | "timers" => some (.ok .timers)
  | "defer" =>
    match rest with
    | "on" => some (.ok (.defer true))
    | "off" => some (.ok (.defer false))
    | _ => some (.error .expectedSwitch)
  | "release" =>
    if rest = "" then some (.ok (.release none))
    else
      match Text.readCount UInt64.size (rest.toList.dropWhile (· = '#')) with
      | some n => some (.ok (.release (some ⟨n⟩)))
      | none => some (.error .expectedTicket)
  | _ => none

/-- The command of a line without blanks around it. -/
def ofTrimmed (line : List Char) : Except CommandFault Command :=
  let (word, rest) := (Text.cut Text.isBlank line).getD (line, [])
  let rest := Text.trim rest
  match ofWord? (String.ofList word) (String.ofList rest) with
  | some command => command
  | none => if rest = [] then .ok (.navigate (String.ofList line)) else .error .unknownCommand

/-- The command of a line. -/
def parseLine (line : List Char) : Except ConfigFault Command :=
  let line := Text.trim line
  (ofTrimmed line).mapError fun fault => .badCommand fault (String.ofList line)

/-- The command of a line. -/
def parse (line : String) : Except Error Command := (parseLine line.toList).mapError .config

/-- Is the line passed over? -/
def isSkipped (line : List Char) : Bool :=
  let line := Text.trim line
  line = [] || ['/', '/'].isPrefixOf line

/-- The commands of lines, the first of which has the given number. -/
def parseLines (number : Nat) : List (List Char) → Except ConfigFault (List Command)
  | [] => .ok []
  | line :: rest =>
    if isSkipped line then parseLines (number + 1) rest
    else
      match parseLine line with
      | .error fault => .error (.atLine number fault)
      | .ok command => (parseLines (number + 1) rest).map (command :: ·)

/-- The commands of a script. -/
def parseScript (source : String) : Except Error (List Command) :=
  (parseLines 1 (Text.lines source.toList)).mapError .config

/-- The later lines are numbered on behind the earlier ones, and read unless one of those is wrong.
-/
theorem parseLines_append (number : Nat) (lines more : List (List Char)) :
    parseLines number (lines ++ more) =
      match parseLines number lines with
      | .error fault => .error fault
      | .ok commands => (parseLines (number + lines.length) more).map (commands ++ ·) := by
  induction lines generalizing number with
  | nil =>
    cases h : parseLines number more <;> simp [parseLines, Except.map, h]
  | cons line rest ih =>
    have hnumber : number + 1 + rest.length = number + (line :: rest).length := by
      simp only [List.length_cons]
      omega
    rw [List.cons_append, parseLines, parseLines]
    split
    · rw [ih, hnumber]
    · split
      · rfl
      · rw [ih, hnumber]
        cases parseLines (number + 1) rest with
        | error fault => rfl
        | ok commands =>
          cases parseLines (number + (line :: rest).length) more <;> rfl

end Command

end ConfigBrowser
