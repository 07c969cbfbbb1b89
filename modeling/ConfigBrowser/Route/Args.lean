import ConfigBrowser.SortedMap
import ConfigBrowser.Text.Quoted

/-!
# Route Arguments

The named arguments of a route. An argument may be empty, which is not the same as absent:
`configs/name:` has an empty name and `configs` has none. An empty id, though, counts as no id.

Four arguments are flags that matter for a single navigation. They and the id take no part in the
identity of a page: routes that differ in nothing else show the same list.

## Main results

* `RouteArgs.identity_insert_id`, `RouteArgs.identity_withFlag`: neither the id nor a flag changes
  the identity of a page.
-/

namespace ConfigBrowser

/-- A flag of a route, which is meant for one navigation only. -/
inductive Flag where
  /-- An entity has just been created. -/
  | new
  /-- The displayed entity is to be edited. -/
  | edit
  /-- The list is to show its filters. -/
  | filter
  /-- An entity has just been deleted. -/
  | deleted
deriving DecidableEq, Repr

namespace Flag

/-- All flags. -/
def all : List Flag := [filter, deleted, new, edit]

/-- The argument that holds a flag. -/
def key : Flag → String
  | new => "new"
  | edit => "edit"
  | filter => "filter"
  | deleted => "deleted"

/-- Is the key that of a flag? -/
def isTransient (key : String) : Bool := all.any fun flag => flag.key = key

/-- The key of every flag is known as that of one. -/
theorem isTransient_key (flag : Flag) : isTransient flag.key = true := by
  cases flag <;> decide

end Flag

/-- The arguments of a route by their keys. -/
abbrev RouteArgs := SortedMap String String

namespace RouteArgs

/-- The key of the entity's id. -/
def idKey : String := "id"

/-- The key of the name that the list is searched for. -/
def nameKey : String := "name"

/-- The key of the type that the list is searched for. -/
def typeKey : String := "type"

/-- The arguments with one argument set. -/
def set (args : RouteArgs) (key value : String) : RouteArgs := args.insert key value

/-- The arguments with a flag raised. -/
def withFlag (args : RouteArgs) (flag : Flag) : RouteArgs := args.set flag.key "true"

/-- The arguments without a key. -/
def without (args : RouteArgs) (key : String) : RouteArgs := args.erase key

/-- The arguments without a flag. -/
def lower (args : RouteArgs) (flag : Flag) : RouteArgs := args.without flag.key

/-- The arguments with the given keys, as far as there are any. -/
def only (args : RouteArgs) (keys : List String) : RouteArgs := args.filterKeys (keys.contains ·)

/-- Is a flag raised, whatever its value? -/
def hasFlag (args : RouteArgs) (flag : Flag) : Bool := args.contains flag.key

/-- The id of the selected entity, if it is not empty. -/
def id? (args : RouteArgs) : Option String := (args.get? idKey).filter (· ≠ "")

/-- The name that the list is searched for. -/
def name? (args : RouteArgs) : Option String := args.get? nameKey

/-- The type that the list is searched for. -/
def type? (args : RouteArgs) : Option String := args.get? typeKey

/-- The arguments that decide which page a route shows: all but the id and the flags. -/
def identity (args : RouteArgs) : RouteArgs :=
  args.filterKeys fun key => key ≠ idKey && !Flag.isTransient key

/-- The arguments as diagnostics show them. -/
def describe (args : RouteArgs) : String :=
  let pairs := args.entries.map fun (key, value) => Text.quoted key ++ ": " ++ Text.quoted value
  "RouteArgs(\x7b" ++ ", ".intercalate pairs ++ "\x7d)"

/-! ### Identity -/

/-- The id and the flags have no part in the identity of a page. -/
theorem identity_set {key : String} (h : key = idKey ∨ Flag.isTransient key = true)
    (args : RouteArgs) (value : String) : (args.set key value).identity = args.identity := by
  refine SortedMap.ext_get? fun k => ?_
  rw [identity, identity, SortedMap.get?_filterKeys, SortedMap.get?_filterKeys, set,
    SortedMap.get?_insert]
  by_cases hk : k = key
  · subst hk
    rcases h with rfl | h <;> simp [*]
  · simp [hk]

/-- An id has no part in the identity of a page. -/
theorem identity_insert_id (args : RouteArgs) (id : String) :
    (args.set idKey id).identity = args.identity :=
  identity_set (.inl rfl) args id

/-- A flag has no part in the identity of a page. -/
theorem identity_withFlag (args : RouteArgs) (flag : Flag) :
    (args.withFlag flag).identity = args.identity :=
  identity_set (.inr flag.isTransient_key) args "true"

end RouteArgs

end ConfigBrowser
