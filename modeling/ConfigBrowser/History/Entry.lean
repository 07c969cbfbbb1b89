/-!
# History Lists

The browser remembers entities in three lists for each page: those seen recently, those created
here and those marked as favorites. A list is addressed by its key, such as
`history.configs.recent`, so that a host may keep the lists of several pages together.

## Main results

* `HistoryList.key_injective`: the lists of one page have different keys.
-/

namespace ConfigBrowser

/-- One of the lists of a page. -/
inductive HistoryList where
  /-- Entities that have been shown. -/
  | recent
  /-- Entities that have been created. -/
  | new
  /-- Entities that have been marked. -/
  | favorites
deriving DecidableEq, Repr

namespace HistoryList

/-- All lists. -/
def all : List HistoryList := [recent, new, favorites]

/-- The name of a list. -/
def name : HistoryList → String
  | recent => "recent"
  | new => "new"
  | favorites => "favorites"

/-- The key of a page's list. -/
def key (list : HistoryList) (page : String) : String := "history." ++ page ++ "." ++ list.name

/-- The two lists of a page have different keys. -/
theorem key_injective {a b : HistoryList} {page : String} (h : a.key page = b.key page) :
    a = b := by
  have hname : a.name = b.name :=
    String.toList_inj.1 (by simpa [key] using congrArg String.toList h)
  revert hname
  cases a <;> cases b <;> decide

end HistoryList

/-- A remembered entity. -/
structure HistoryEntry where
  name : String
  /-- The path that shows the entity. -/
  value : String
  /-- When the entry was put, in seconds. -/
  visitedAt : Int
deriving DecidableEq, Repr

end ConfigBrowser
