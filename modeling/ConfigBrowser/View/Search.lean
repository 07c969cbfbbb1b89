import ConfigBrowser.View.State

/-!
# Searching the List

Every search has a ticket of its own, and only the reply to the latest one fills the list.
-/

namespace ConfigBrowser

/-- The types that the list can be filtered by. -/
def typeOptions : List String :=
  ["CurrencyMatrix", "CurveSpecificationBuilderConfiguration", "SimpleCurrencyMatrix",
   "TimeSeriesMetaDataConfiguration", "ViewDefinition", "VolatilitySurfaceSpecification",
   "VolatilitySurfaceDefinition", "YieldCurveDefinition"]

/-- The columns of the list. -/
def listColumns : List Column :=
  [⟨"type", "Type", "type", 160, .select typeOptions, false⟩,
   ⟨"name", "Name", "name", 300, .input, true⟩]

namespace View

variable {η : Type}

/-- What a route searches the list for. -/
def query (v : View η) (args : RouteArgs) : SearchQuery :=
  { pageType := v.page
    name := args.name?
    kind := args.type?
    filter := args.hasFlag .filter || v.filtered
    columns := listColumns }

/-- Searches the list. -/
def search (v : View η) (args : RouteArgs) : Turn η :=
  let (ticket, v) := v.issue
  .done [.store ticket (.search (v.query args))] { v with latestSearch := some ticket }

/-- Shows what a route searches for in the list's filters. -/
def syncListFilter (args : RouteArgs) : Action := .syncListFilter args.name? args.type?

/-- Is the ticket that of the latest search? -/
def ownsSearch (v : View η) (ticket : Ticket) : Bool := v.latestSearch = some ticket

/-- Handles the reply to the latest search. -/
def onSearchReply (v : View η) (reply : StoreReply) : Turn η :=
  let v := { v with latestSearch := none }
  match reply with
  | .listing rows => .done [.replaceList rows] v
  | .error message => .done [.showError message] v
  | _ => .done [.showError "unexpected reply to search"] v

end View

end ConfigBrowser
