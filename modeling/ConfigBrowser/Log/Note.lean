/-!
# Notes

What the program notes on its way: single notes, and spans of work that the notes inside them belong
to. A note has a level, the part of the program that it comes from, a message and named fields. A
span has a name, and its fields have values.

The marks of a piece of work are its notes, the starts and ends of its spans, and the moments at
which the history is saved, since what is logged before a save may be in the files that the save
changes.

## Main results

* `Level.rank_injective`: a level is known by its rank.
* `Mark.balanced_within`, `Mark.balanced_append`: marks put together from whole spans end all
  spans that they begin.
-/

namespace ConfigBrowser.Log

/-- How severe a note is. -/
inductive Level where
  | error
  | warn
  | info
  | debug
  | trace
deriving DecidableEq, Repr

/-- The rank of a level: the lower, the more severe. -/
def Level.rank : Level → Nat
  | error => 1
  | warn => 2
  | info => 3
  | debug => 4
  | trace => 5

/-- A level is known by its rank. -/
theorem Level.rank_injective {a b : Level} (h : a.rank = b.rank) : a = b := by
  cases a <;> cases b <;> simp_all [rank]

/-- The name of a level. -/
def Level.name : Level → String
  | error => "ERROR"
  | warn => "WARN"
  | info => "INFO"
  | debug => "DEBUG"
  | trace => "TRACE"

/-- A part of the program. -/
inductive Topic where
  | program
  | handling
  | state
  | search
  | detail
  | dialogs
  | redirects
  | reconciling
  | host
  | script
  | history
  | store
  | routes
deriving DecidableEq, Repr

/-- The name of a part, by which filters know it. -/
def Topic.name : Topic → String
  | program => "confview"
  | handling => "confview::app::handler"
  | state => "confview::app::state"
  | search => "confview::app::search"
  | detail => "confview::app::detail"
  | dialogs => "confview::app::dispatch"
  | redirects => "confview::app::canonical"
  | reconciling => "confview::app::reconciler"
  | host => "confview::runtime::driver"
  | script => "confview::runtime::script"
  | history => "confview::history::json"
  | store => "confview::store::memory"
  | routes => "confview::routing::table"

/-- A note. -/
structure Note where
  level : Level
  topic : Topic
  message : String
  /-- The names of the fields beside the message. -/
  fields : List String
deriving DecidableEq, Repr

/-- The names of all fields of a note. -/
def Note.keys (n : Note) : List String := "message" :: n.fields

/-- The note as a line of a log. -/
def Note.line (n : Note) : String :=
  n.level.name ++ " " ++ n.topic.name ++ ": " ++ n.message ++ "\n"

/-- A piece of work that notes belong to. -/
structure Span where
  topic : Topic
  name : String
  fields : List (String × String)
deriving DecidableEq, Repr

/-- The names of the fields of a span. -/
def Span.keys (s : Span) : List String := s.fields.map Prod.fst

/-- The level of all spans. -/
def Span.level : Level := .debug

/-- What happens to the log. -/
inductive Mark where
  | note (n : Note)
  | enter (s : Span)
  | leave
  /-- The history tries to save a document. -/
  | save (document : String)
deriving DecidableEq, Repr

namespace Mark

/-- A note that helps to find errors. -/
def debug (topic : Topic) (message : String) (fields : List String) : Mark :=
  .note ⟨.debug, topic, message, fields⟩

/-- A note on a failure that the program goes on after. -/
def warn (topic : Topic) (message : String) (fields : List String) : Mark :=
  .note ⟨.warn, topic, message, fields⟩

/-- A note on a failure that is final. -/
def error (topic : Topic) (message : String) (fields : List String) : Mark :=
  .note ⟨.error, topic, message, fields⟩

/-- A note on a single step. -/
def trace (topic : Topic) (message : String) (fields : List String) : Mark :=
  .note ⟨.trace, topic, message, fields⟩

/-- The marks of work within a span. -/
def within (s : Span) (marks : List Mark) : List Mark := .enter s :: (marks ++ [.leave])

/-- How many spans are open after marks, if no mark ends a span that was not begun. -/
def depth (count : Nat) : List Mark → Option Nat
  | [] => some count
  | .enter _ :: rest => depth (count + 1) rest
  | .leave :: rest =>
    match count with
    | 0 => none
    | count + 1 => depth count rest
  | _ :: rest => depth count rest

/-- Marks one behind the other open and close as many spans as in two parts. -/
theorem depth_append (count : Nat) (first second : List Mark) :
    depth count (first ++ second) = (depth count first).bind fun count => depth count second := by
  induction first generalizing count with
  | nil => rfl
  | cons mark first ih =>
    cases mark with
    | leave => cases count <;> simp [depth, ih]
    | _ => simp [depth, ih]

/-- Do marks end all spans that they begin, and no others? -/
def Balanced (marks : List Mark) : Prop := ∀ count, depth count marks = some count

/-- Without marks no span is open. -/
theorem balanced_nil : Balanced [] := fun _ => rfl

/-- A note opens no span. -/
theorem balanced_note (n : Note) {marks : List Mark} (h : Balanced marks) :
    Balanced (.note n :: marks) := h

/-- A save opens no span. -/
theorem balanced_save (document : String) {marks : List Mark} (h : Balanced marks) :
    Balanced (.save document :: marks) := h

/-- Whole spans one behind the other are whole spans. -/
theorem balanced_append {first second : List Mark} (hfirst : Balanced first)
    (hsecond : Balanced second) : Balanced (first ++ second) := fun count => by
  simp [depth_append, hfirst count, hsecond count]

/-- Work within a span ends that span, too. -/
theorem balanced_within (s : Span) {marks : List Mark} (h : Balanced marks) :
    Balanced (within s marks) := fun count => by
  simp [within, depth, depth_append, h (count + 1)]

/-- Whole spans either way are whole spans. -/
theorem balanced_ite (p : Prop) [Decidable p] {first second : List Mark}
    (hfirst : Balanced first) (hsecond : Balanced second) :
    Balanced (if p then first else second) := by
  split
  · exact hfirst
  · exact hsecond

end Mark

end ConfigBrowser.Log
