import ConfigBrowser.Json.Writer
import ConfigBrowser.Store.Message
import ConfigBrowser.Text.Quoted

/-!
# Describing Requests and Replies

How a diagnostic shows what passes between the browser and the store: constructors and fields by
their names, strings quoted, and payloads with the kind of each value.
-/

namespace ConfigBrowser

namespace Json

mutual

/-- A JSON value with the kinds of its parts. -/
def describe : Json → List Char
  | .null => "Null".toList
  | .bool b => "Bool(".toList ++ renderScalar (.bool b) ++ [')']
  | .int i => "Number(".toList ++ renderScalar (.int i) ++ [')']
  | .float bits => "Number(".toList ++ renderScalar (.float bits) ++ [')']
  | .string s => "String(".toList ++ Text.quote s.toList ++ [')']
  | .array [] => "Array []".toList
  | .array (item :: items) => "Array [".toList ++ describe item ++ describeItems items ++ [']']
  | .object [] => "Object \x7b\x7d".toList
  | .object ((key, value) :: fields) =>
    "Object \x7b".toList ++ Text.quote key.toList ++ ": ".toList ++ describe value ++
      describeFields fields ++ ['}']

/-- Further items, each after a comma. -/
def describeItems : List Json → List Char
  | [] => []
  | item :: items => ", ".toList ++ describe item ++ describeItems items

/-- Further members, each after a comma. -/
def describeFields : List (String × Json) → List Char
  | [] => []
  | (key, value) :: fields =>
    ", ".toList ++ Text.quote key.toList ++ ": ".toList ++ describe value ++ describeFields fields

end

end Json

/-- Named fields between braces after a name. -/
def describeRecord (name : String) (fields : List (String × String)) : String :=
  name ++ " \x7b " ++ ", ".intercalate (fields.map fun (key, value) => key ++ ": " ++ value) ++
    " \x7d"

/-- Values between brackets. -/
def describeList {α : Type} (describe : α → String) (list : List α) : String :=
  "[" ++ ", ".intercalate (list.map describe) ++ "]"

/-- A value that may be absent. -/
def describeOption {α : Type} (describe : α → String) : Option α → String
  | some a => "Some(" ++ describe a ++ ")"
  | none => "None"

/-- A truth value. -/
def describeBool (b : Bool) : String := if b then "true" else "false"

/-- A ticket as diagnostics show it. -/
def Ticket.describe (t : Ticket) : String := "Ticket(" ++ toString t.number ++ ")"

/-! ### Replies -/

/-- An entity as diagnostics show it. -/
def Entity.describe (e : Entity) : String :=
  describeRecord "Entity"
    [("id", Text.quoted e.id), ("kind", Text.quoted e.kind), ("name", Text.quoted e.name),
     ("data", String.ofList e.data.describe)]

/-- A row as diagnostics show it. -/
def EntitySummary.describe (e : EntitySummary) : String :=
  describeRecord "EntitySummary"
    [("id", Text.quoted e.id), ("kind", Text.quoted e.kind), ("name", Text.quoted e.name)]

/-- A reply as diagnostics show it. -/
def StoreReply.describe : StoreReply → String
  | .entity e => describeRecord "Entity" [("entity", e.describe)]
  | .created id => describeRecord "Created" [("id", Text.quoted id)]
  | .deleted => "Deleted"
  | .listing rows =>
    describeRecord "Listing" [("rows", describeList EntitySummary.describe rows)]
  | .error message => describeRecord "Error" [("message", Text.quoted message)]

/-! ### Requests -/

/-- A column's filter as diagnostics show it. -/
def ColumnFilter.describe : ColumnFilter → String
  | .input => "Input"
  | .select options => describeRecord "Select" [("options", describeList Text.quoted options)]

/-- A column as diagnostics show it. -/
def Column.describe (c : Column) : String :=
  describeRecord "Column"
    [("id", Text.quoted c.id), ("name", Text.quoted c.name), ("field", Text.quoted c.field),
     ("width", toString c.width), ("filter", c.filter.describe), ("link", describeBool c.link)]

/-- A query as diagnostics show it. -/
def SearchQuery.describe (q : SearchQuery) : String :=
  describeRecord "SearchQuery"
    [("page_type", Text.quoted q.pageType), ("name", describeOption Text.quoted q.name),
     ("kind", describeOption Text.quoted q.kind), ("filter", describeBool q.filter),
     ("columns", describeList Column.describe q.columns)]

/-- A request as diagnostics show it. -/
def StoreRequest.describe : StoreRequest → String
  | .get id => describeRecord "Get" [("id", Text.quoted id)]
  | .put name payload =>
    describeRecord "Put" [("name", Text.quoted name), ("payload", Text.quoted payload)]
  | .delete id => describeRecord "Delete" [("id", Text.quoted id)]
  | .search query => describeRecord "Search" [("query", query.describe)]

end ConfigBrowser
