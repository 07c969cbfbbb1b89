import ConfigBrowser.Store.Message
import ConfigBrowser.Wire.Entity

/-!
# Messages as JSON

The forms of requests, told apart by the member `op`, and of replies, told apart by the member
`reply`.
-/

namespace ConfigBrowser

namespace Ticket

/-- The JSON form of a ticket. -/
def toJson (t : Ticket) : Json := .ofNat t.number

/-- The ticket of a JSON form. -/
def ofJson? (j : Json) : Option Ticket := (Wire.count Wire.wordBound j).map Ticket.mk

end Ticket

namespace ColumnFilter

/-- The names of the filters. -/
def names : List String := ["input", "select"]

/-- The JSON form of a filter. -/
def toJson : ColumnFilter → Json
  | input => .object [("filter_type", .string "input")]
  | select options =>
    .object [("filter_type", .string "select"), ("options", .ofList Json.string options)]

/-- The filter of a JSON form. -/
def ofJson? (nested : Bool) (j : Json) : Option ColumnFilter :=
  match Wire.tagged "filter_type" names nested j with
  | some ("input", rest) => Wire.bare input rest
  | some ("select", rest) => (Wire.single "options" (Wire.list Wire.text) rest).map select
  | _ => none

end ColumnFilter

namespace Column

/-- The width of a column stays below this bound. -/
def widthBound : Nat := UInt32.size

/-- The JSON form of a column. -/
def toJson (c : Column) : Json :=
  .object [("id", .string c.id), ("name", .string c.name), ("field", .string c.field),
    ("width", .ofNat c.width), ("filter", c.filter.toJson), ("link", .bool c.link)]

/-- The keys of a column's members. -/
def keys : List String := ["id", "name", "field", "width", "filter", "link"]

/-- What is wanted of the text of a column. -/
def shape : Json.Shape := .fields keys

/-- The column of a JSON form. -/
def ofJson? (nested : Bool) (j : Json) : Option Column := do
  let m ← Wire.members keys j
  let id ← Wire.required m "id" Wire.text
  let name ← Wire.required m "name" Wire.text
  let field ← Wire.required m "field" Wire.text
  let width ← Wire.required m "width" (Wire.count widthBound)
  let filter ← Wire.required m "filter" (ColumnFilter.ofJson? nested)
  let link ← Wire.withDefault m "link" false Wire.flag
  return ⟨id, name, field, width, filter, link⟩

end Column

namespace SearchQuery

/-- The JSON form of a query. A name or type that is not asked for is left out. -/
def toJson (q : SearchQuery) : Json :=
  .object (("page_type", .string q.pageType) :: Wire.given "name" q.name ++
    Wire.given "type" q.kind ++
    [("filter", .bool q.filter), ("columns", .ofList Column.toJson q.columns)])

/-- The keys of a query's members. -/
def keys : List String := ["page_type", "name", "type", "filter", "columns"]

/-- What is wanted of the text of a query. -/
def shape : Json.Shape :=
  .record [("page_type", .whole), ("name", .whole), ("type", .whole), ("filter", .whole),
    ("columns", .list Column.shape)]

/-- The query of a JSON form. -/
def ofJson? (nested : Bool) (j : Json) : Option SearchQuery := do
  let m ← Wire.members keys j
  let pageType ← Wire.required m "page_type" Wire.text
  let name ← Wire.optional m "name" Wire.text
  let kind ← Wire.optional m "type" Wire.text
  let filter ← Wire.required m "filter" Wire.flag
  let columns ← Wire.required m "columns" (Wire.list (Column.ofJson? nested))
  return ⟨pageType, name, kind, filter, columns⟩

end SearchQuery

namespace StoreRequest

/-- The names of the requests. -/
def names : List String := ["get", "put", "delete", "search"]

/-- The JSON form of a request. -/
def toJson : StoreRequest → Json
  | get id => .object [("op", .string "get"), ("id", .string id)]
  | put name payload =>
    .object [("op", .string "put"), ("name", .string name), ("payload", .string payload)]
  | delete id => .object [("op", .string "delete"), ("id", .string id)]
  | search query => .object [("op", .string "search"), ("query", query.toJson)]

/-- The request of a JSON form. -/
def ofJson? (nested : Bool) (j : Json) : Option StoreRequest :=
  match Wire.tagged "op" names nested j with
  | some ("get", rest) => (Wire.single "id" Wire.text rest).map get
  | some ("put", rest) => do
    let m ← Wire.members ["name", "payload"] rest
    let name ← Wire.required m "name" Wire.text
    let payload ← Wire.required m "payload" Wire.text
    return put name payload
  | some ("delete", rest) => (Wire.single "id" Wire.text rest).map delete
  | some ("search", rest) => (Wire.single "query" (SearchQuery.ofJson? true) rest).map search
  | _ => none

end StoreRequest

namespace StoreReply

/-- The names of the replies. -/
def names : List String := ["entity", "created", "deleted", "listing", "error"]

/-- The JSON form of a reply. -/
def toJson : StoreReply → Json
  | entity e => .object [("reply", .string "entity"), ("entity", e.toJson)]
  | created id => .object [("reply", .string "created"), ("id", .string id)]
  | deleted => .object [("reply", .string "deleted")]
  | listing rows =>
    .object [("reply", .string "listing"), ("rows", .ofList EntitySummary.toJson rows)]
  | error message => .object [("reply", .string "error"), ("message", .string message)]

/-- The reply of a JSON form. -/
def ofJson? (nested : Bool) (j : Json) : Option StoreReply :=
  match Wire.tagged "reply" names nested j with
  | some ("entity", rest) => (Wire.single "entity" Entity.ofJson? rest).map entity
  | some ("created", rest) => (Wire.single "id" Wire.text rest).map created
  | some ("deleted", rest) => Wire.bare deleted rest
  | some ("listing", rest) =>
    (Wire.single "rows" (Wire.list EntitySummary.ofJson?) rest).map listing
  | some ("error", rest) => (Wire.single "message" Wire.text rest).map error
  | _ => none

end StoreReply

end ConfigBrowser
