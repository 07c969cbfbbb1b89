import ConfigBrowser.Route.Pattern

/-!
# Route Tables

An ordered list of rules. A path goes to the first rule whose pattern it fits; the path of a
handler comes from the first rule that leads to it.

## Main results

* `RouteTable.resolve_eq_ok_iff`: a path resolves to what the first fitting rule says.
-/

namespace ConfigBrowser

/-- A pattern with its name and the handler it leads to. -/
structure RouteRule (H : Type) where
  name : String
  pattern : RoutePattern
  handler : H
deriving DecidableEq, Repr

/-- Rules in the order they were registered. -/
structure RouteTable (H : Type) where
  rules : List (RouteRule H)
deriving DecidableEq, Repr

variable {H : Type}

/-- What a rule makes of a path. -/
def RouteRule.match? (path : String) (rule : RouteRule H) : Option (H × RouteArgs) :=
  (rule.pattern.match? path).map (rule.handler, ·)

namespace RouteTable

/-- The table without rules. -/
def empty : RouteTable H := ⟨[]⟩

/-- Appends a rule, which sees only the paths that all earlier rules refuse. -/
def register (t : RouteTable H) (rule : RouteRule H) : RouteTable H := ⟨t.rules ++ [rule]⟩

/-- The handler and the arguments of a path. -/
def resolve (t : RouteTable H) (path : String) : Except Error (H × RouteArgs) :=
  match t.rules.findSome? (RouteRule.match? path) with
  | some resolved => .ok resolved
  | none => .error (.route path)

/-- The first rule that leads to a handler. -/
def rule [DecidableEq H] [ToString H] (t : RouteTable H) (handler : H) :
    Except Error (RouteRule H) :=
  match t.rules.find? (·.handler = handler) with
  | some rule => .ok rule
  | none => .error (.unknownRule (toString handler))

/-- The path that leads to a handler with the given arguments. -/
def hash [DecidableEq H] [ToString H] (t : RouteTable H) (handler : H) (args : RouteArgs) :
    Except Error String :=
  match t.rule handler with
  | .ok rule => rule.pattern.render rule.name args
  | .error e => .error e

/-- A path resolves to what the first rule that matches makes of it. -/
theorem resolve_eq_ok_iff {t : RouteTable H} {path : String} {resolved : H × RouteArgs} :
    t.resolve path = .ok resolved ↔
      t.rules.findSome? (RouteRule.match? path) = some resolved := by
  rw [resolve]
  split
  · next h => simp [h]
  · next h => simp [h]

end RouteTable

end ConfigBrowser
