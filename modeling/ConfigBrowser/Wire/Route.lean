import ConfigBrowser.History.Entry
import ConfigBrowser.Route.Handler
import ConfigBrowser.View.Reconciler
import ConfigBrowser.Wire.Read

/-!
# Routes as JSON

Arguments are an object of strings; handlers, flags, classifications and lists are written as their
names.

## Main results

* `RouteArgs.ofJson?_toJson`: arguments are read back as they were.
-/

namespace ConfigBrowser

/-- The handler of a JSON form. -/
def Handler.ofJson? (j : Json) : Option Handler := Wire.variant Handler.all Handler.name false j

/-- The flag of a JSON form. -/
def Flag.ofJson? (j : Json) : Option Flag := Wire.variant Flag.all Flag.key false j

/-- The classification of a JSON form. -/
def Classification.ofJson? (j : Json) : Option Classification :=
  Wire.variant [.newPage, .continuation] Classification.name false j

/-- The list of a JSON form. -/
def HistoryList.ofJson? (j : Json) : Option HistoryList :=
  Wire.variant HistoryList.all HistoryList.name false j

namespace RouteArgs

/-- The JSON form of arguments. -/
def toJson (args : RouteArgs) : Json := .ofStrings args

/-- The arguments of a JSON form. -/
def ofJson? (j : Json) : Option RouteArgs := Wire.map Wire.text j

/-- Arguments are read back from their form. -/
theorem ofJson?_toJson (args : RouteArgs) : ofJson? args.toJson = some args := by
  have hread : ∀ l : List (String × String),
      (l.map fun e => (e.1, Json.string e.2)).mapM
        (fun field => (Wire.text field.2).map fun value => (field.1, value)) = some l := by
    intro l
    induction l with
    | nil => rfl
    | cons e rest ih => rw [List.map_cons, List.mapM_cons, ih]; rfl
  rw [ofJson?, toJson, Json.ofStrings, Wire.map, hread, Option.map_some, SortedMap.ofList_entries]

end RouteArgs

end ConfigBrowser
