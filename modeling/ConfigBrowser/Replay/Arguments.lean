import ConfigBrowser.Text.Split

/-!
# Command Lines

A replay is asked for with a script, `-c` or `--config` for a file of settings, and `-s` or `--seed`
for a file of entities. A value stands in the next argument, or in the same one behind an equals
sign, which a short option may leave out. Behind two dashes every argument is a script. Each of the
three can be given once, and not as an empty text. `-V` or `--version` asks for the version.

## Main results

* `Invocation.parse_version`: an argument that asks for the version ends the reading.
-/

namespace ConfigBrowser.Replay

/-- What a replay is asked for with. -/
structure Arguments where
  config : Option String
  seed : Option String
  /-- The file of the script; without one it is read from the standard input. -/
  script : Option String
deriving DecidableEq, Repr

/-- One of the things that can be given. -/
inductive Slot where
  | config
  | seed
  | script
deriving DecidableEq, Repr

namespace Arguments

/-- The arguments before any was read. -/
def none : Arguments := ⟨.none, .none, .none⟩

/-- What was given for a slot. -/
def get (a : Arguments) : Slot → Option String
  | .config => a.config
  | .seed => a.seed
  | .script => a.script

/-- The arguments with a slot filled, if it was free and the value is not empty. -/
def fill? (a : Arguments) (slot : Slot) (value : String) : Option Arguments :=
  if value = "" ∨ (a.get slot).isSome then .none
  else
    match slot with
    | .config => some { a with config := some value }
    | .seed => some { a with seed := some value }
    | .script => some { a with script := some value }

end Arguments

/-- How an argument is understood by itself. -/
inductive Token where
  /-- An option, perhaps with its value. -/
  | option (slot : Slot) (value : Option String)
  | version
  /-- The two dashes behind which there are no options. -/
  | endOfOptions
  | word (text : String)
  | unknown
deriving DecidableEq, Repr

namespace Token

/-- The value of a short option that stands in the same argument. -/
def attached : List Char → Option String
  | [] => none
  | '=' :: value => some (String.ofList value)
  | value => some (String.ofList value)

/-- A long option, by its name and the value behind the equals sign. -/
def ofLong (name : List Char) (value : Option (List Char)) : Token :=
  match String.ofList name, value.map String.ofList with
  | "config", value => .option .config value
  | "seed", value => .option .seed value
  | "version", none => .version
  | _, _ => .unknown

/-- How an argument is understood by itself. -/
def ofArgument (argument : String) : Token :=
  match argument.toList with
  | ['-', '-'] => .endOfOptions
  | '-' :: '-' :: body =>
    match Text.cut (· = '=') body with
    | some (name, value) => ofLong name (some value)
    | none => ofLong body none
  | '-' :: 'c' :: rest => .option .config (attached rest)
  | '-' :: 's' :: rest => .option .seed (attached rest)
  | '-' :: 'V' :: _ => .version
  | '-' :: _ :: _ => .unknown
  | _ => .word argument

end Token

/-- What a command line asks for. -/
inductive Invocation where
  | replay (arguments : Arguments)
  | version
  /-- The command line cannot be understood. -/
  | misuse
deriving DecidableEq, Repr

namespace Invocation

/-- Reads arguments of which none is an option. -/
def readWords (a : Arguments) : List String → Invocation
  | [] => .replay a
  | word :: rest =>
    match a.fill? .script word with
    | some a => readWords a rest
    | none => .misuse

/-- Reads arguments one after the other. -/
def read (a : Arguments) : List String → Invocation
  | [] => .replay a
  | argument :: rest =>
    match Token.ofArgument argument with
    | .version => .version
    | .unknown => .misuse
    | .endOfOptions => readWords a rest
    | .word text =>
      match a.fill? .script text with
      | some a => read a rest
      | none => .misuse
    | .option slot (some value) =>
      match a.fill? slot value with
      | some a => read a rest
      | none => .misuse
    | .option slot none =>
      match rest with
      | [] => .misuse
      | value :: rest =>
        match Token.ofArgument value with
        | .word value =>
          match a.fill? slot value with
          | some a => read a rest
          | none => .misuse
        | _ => .misuse

/-- What a command line asks for. -/
def parse (arguments : List String) : Invocation := read .none arguments

/-- The version is printed whatever follows. -/
theorem parse_version {argument : String} (h : Token.ofArgument argument = .version)
    (rest : List String) : parse (argument :: rest) = .version := by
  rw [parse, read, h]

end Invocation

end ConfigBrowser.Replay
