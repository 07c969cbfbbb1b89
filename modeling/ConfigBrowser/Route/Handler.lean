import ConfigBrowser.Route.Table

/-!
# The Routes of a Page

A page mounted at `/page` has six routes. Flags come in front of the entity's id (`filter:`,
`deleted:`) or behind it (`new:`, `edit:`), and every route may search the list by name and type.
-/

namespace ConfigBrowser

/-- What a route of a page asks for. -/
inductive Handler where
  /-- The list. -/
  | load
  /-- The list with its filters, then a redirect. -/
  | loadFilter
  /-- The list after an entity was deleted, then a redirect. -/
  | loadDelete
  /-- The list and an entity. -/
  | loadConfigs
  /-- An entity just created, then a redirect. -/
  | loadNewConfigs
  /-- An entity to be edited, then a redirect. -/
  | loadEditConfigs
deriving DecidableEq, Repr

namespace Handler

/-- The name of a handler, which is also that of its rule. -/
def name : Handler → String
  | load => "load"
  | loadFilter => "load_filter"
  | loadDelete => "load_delete"
  | loadConfigs => "load_configs"
  | loadNewConfigs => "load_new_configs"
  | loadEditConfigs => "load_edit_configs"

instance : ToString Handler := ⟨name⟩

/-- The handlers in the order of their rules. -/
def all : List Handler :=
  [load, loadFilter, loadDelete, loadConfigs, loadNewConfigs, loadEditConfigs]

/-- The part of a handler's pattern behind the page. -/
def suffix : Handler → String
  | load => "name:?/type:?"
  | loadFilter => "filter:/:id?/name:?/type:?"
  | loadDelete => "deleted:/name:?/type:?"
  | loadConfigs => ":id/name:?/type:?"
  | loadNewConfigs => ":id/new:/name:?/type:?"
  | loadEditConfigs => ":id/edit:/name:?/type:?"

/-- The pattern of a handler's route on a page. -/
def patternSource (page : String) (handler : Handler) : String :=
  "/" ++ page ++ "/" ++ handler.suffix

/-- The rule of a handler on a page. -/
def rule (page : String) (handler : Handler) : Except Error (RouteRule Handler) :=
  (RoutePattern.parse (handler.patternSource page)).map fun pattern =>
    ⟨handler.name, pattern, handler⟩

end Handler

/-- The rules of a list of handlers, in order. -/
def pageRules (page : String) : List Handler → Except Error (List (RouteRule Handler))
  | [] => .ok []
  | handler :: rest =>
    match handler.rule page with
    | .error e => .error e
    | .ok rule => (pageRules page rest).map (rule :: ·)

/-- The route table of a page. -/
def pageTable (page : String) : Except Error (RouteTable Handler) :=
  (pageRules page Handler.all).map (⟨·⟩)

end ConfigBrowser
