/-!
# Errors

What can go wrong outside the remote store. Each error names its cause; `Error.message` is the
sentence that a person reads. Three causes carry no details: files that cannot be read or written,
and texts that are not the JSON or TOML text they should be.
-/

namespace ConfigBrowser

/-- What is wrong with a line of a script. -/
inductive CommandFault where
  | unknownButton
  | expectedPair
  | expectedSwitch
  | expectedTicket
  | unknownCommand
deriving DecidableEq, Repr

/-- The fault in words. -/
def CommandFault.message : CommandFault → String
  | unknownButton => "unknown toolbar button"
  | expectedPair => "expected key=value"
  | expectedSwitch => "expected 'defer on' or 'defer off'"
  | expectedTicket => "expected a ticket number"
  | unknownCommand => "unknown command"

/-- What is wrong with settings, patterns or scripts. -/
inductive ConfigFault where
  /-- A route pattern has no segment. -/
  | emptyPattern (source : String)
  /-- A token of a route pattern is neither a literal nor a parameter. -/
  | malformedToken (token source : String)
  | blankPageName
  | zeroHistoryLimit
  /-- A line of a script is no command. -/
  | badCommand (fault : CommandFault) (line : String)
  /-- The fault of a numbered line. -/
  | atLine (number : Nat) (fault : ConfigFault)
  /-- A fault described by its text alone. -/
  | other (text : String)
deriving DecidableEq, Repr

/-- The fault in words. -/
def ConfigFault.message : ConfigFault → String
  | emptyPattern source => "empty route pattern: '" ++ source ++ "'"
  | malformedToken token source =>
    "malformed token '" ++ token ++ "' in route pattern '" ++ source ++ "'"
  | blankPageName => "page_name must not be blank"
  | zeroHistoryLimit => "history_limit must be positive"
  | badCommand fault line => fault.message ++ ": '" ++ line ++ "'"
  | atLine number fault => "line " ++ toString number ++ ": " ++ fault.message
  | other text => text

/-- An error of the browser. -/
inductive Error where
  /-- No rule matches the path. -/
  | route (path : String)
  /-- A rule cannot be rendered without the argument. -/
  | missingArgument (rule key : String)
  /-- No rule leads to the handler. -/
  | unknownRule (handler : String)
  /-- The remote store answered with an error. -/
  | remote (text : String)
  /-- The history cannot be read. -/
  | history (text : String)
  /-- Settings, patterns or scripts are at fault. -/
  | config (fault : ConfigFault)
  /-- A file cannot be read or written. -/
  | io
  /-- A text is not the JSON text of the value expected. -/
  | json
  /-- A text is not the TOML text of settings. -/
  | toml
  /-- Events keep causing further events. -/
  | stalled
deriving DecidableEq, Repr

/-- The error in words. -/
def Error.message : Error → String
  | route path => "No route matches: " ++ path
  | missingArgument rule key => "Route rule '" ++ rule ++ "' requires argument '" ++ key ++ "'"
  | unknownRule handler => "Unknown route rule: " ++ handler
  | remote text => "Remote store error: " ++ text
  | history text => "History error: " ++ text
  | config fault => "Configuration error: " ++ fault.message
  | io => "IO error"
  | json => "JSON error"
  | toml => "TOML error"
  | stalled => "Events do not come to an end"

end ConfigBrowser
