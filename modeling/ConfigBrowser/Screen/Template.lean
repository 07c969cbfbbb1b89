import ConfigBrowser.Entity
import ConfigBrowser.History.Store
import ConfigBrowser.Json.Writer
import ConfigBrowser.Text.Uppercase

/-!
# Templates

What the pane beside the list shows: an entity, or the page's history while no entity is selected.
The browser picks the template and gathers its data; drawing it is the host's work.

## Main results

* `Template.configData_string`: a payload that is a string is shown as it is.
-/

namespace ConfigBrowser

/-- A template of the detail pane. -/
inductive Template where
  /-- The history of the page. -/
  | defaultPage
  /-- An entity. -/
  | detail
deriving DecidableEq, Repr

/-- A layout of the panes. -/
inductive Layout where
  /-- The list and the detail pane side by side. -/
  | default
deriving DecidableEq, Repr

/-- The name of a layout. -/
def Layout.name : Layout → String
  | .default => "default"

namespace Template

/-- Both templates. -/
def all : List Template := [defaultPage, detail]

/-- The name of a template. -/
def name : Template → String
  | defaultPage => "default_page"
  | detail => "detail"

/-- The title of a page: its name with a capital. -/
def pageLabel (page : String) : String := String.ofList (Text.capitalize page.toList)

/-- The data of the default page: the title, and each list or a sentence that there is none. -/
def defaultPageData {η : Type} [HistoryStore η] (page : String) (history : η) : Json :=
  let list (l : HistoryList) (fallback : String) : Json :=
    .string ((HistoryStore.rendered history (l.key page)).getD (fallback ++ page))
  .object
    [("favorites_list", list .favorites "no favorited "),
     ("name", .string (pageLabel page)),
     ("new_list", list .new "no new "),
     ("recent_list", list .recent "no recently viewed ")]

/-- The text of a payload: a string as it is, any other value as indented JSON text. A missing
payload has none. -/
def configData : Json → Option String
  | .null => none
  | .string raw => some raw
  | structured => some (structured.pretty 4)

/-- The data of the detail template. -/
def detailData (e : Entity) (editable favorited : Bool) : Json :=
  let payload := (configData e.data).toList.map fun text => ("configData", Json.string text)
  .object (payload ++
    [("editable", .bool editable),
     ("favorited", .bool favorited),
     ("id", .string e.id),
     ("name", .string e.name),
     ("type", .string e.kind)])

/-- Data that is a string is the configuration as it stands. -/
theorem configData_string (raw : String) : configData (.string raw) = some raw := rfl

end Template

end ConfigBrowser
