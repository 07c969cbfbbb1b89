import ConfigBrowser.Entity

/-!
# Messages to and from the Remote Store

Every request carries a ticket, and its reply comes back with the same ticket. That is how a reply
that nobody waits for any more is recognised, whatever order the replies arrive in.
-/

namespace ConfigBrowser

/-- Ties what happens later (a reply, the expiry of a timer, a decision on a dialog) to the action
that asked for it. -/
structure Ticket where
  /-- The number, which is one of 64 bits as long as there are fewer than 2 to the 64 tickets. That
  is supposed throughout. -/
  number : Nat
deriving DecidableEq, Repr

namespace Ticket

instance : Ord Ticket := ⟨fun a b => compare a.number b.number⟩

instance : Std.TransOrd Ticket where
  eq_swap := Std.OrientedOrd.eq_swap (α := Nat)
  isLE_trans := Std.TransOrd.isLE_trans (α := Nat)

instance : Std.LawfulEqOrd Ticket where
  compare_self := Std.ReflOrd.compare_self (α := Nat)
  eq_of_compare {a b} h := by
    cases a; cases b
    exact congrArg _ (Nat.compare_eq_eq.1 h)

/-- A ticket as messages show it. -/
def display (t : Ticket) : String := "#" ++ toString t.number

end Ticket

/-- How a column of the list is filtered. -/
inductive ColumnFilter where
  /-- By free text. -/
  | input
  /-- By a choice among options. -/
  | select (options : List String)
deriving DecidableEq, Repr

/-- A column of the list. -/
structure Column where
  id : String
  name : String
  field : String
  width : Nat
  filter : ColumnFilter
  /-- Do the column's cells lead to the entity? -/
  link : Bool
deriving DecidableEq, Repr

/-- What the list is searched for. -/
structure SearchQuery where
  pageType : String
  name : Option String
  kind : Option String
  /-- Does the list show its filters? -/
  filter : Bool
  columns : List Column
deriving DecidableEq, Repr

/-- A request to the remote store. -/
inductive StoreRequest where
  | get (id : String)
  | put (name payload : String)
  | delete (id : String)
  | search (query : SearchQuery)
deriving DecidableEq, Repr

/-- A reply of the remote store. -/
inductive StoreReply where
  | entity (entity : Entity)
  | created (id : String)
  | deleted
  | listing (rows : List EntitySummary)
  /-- The store refused the request or failed. -/
  | error (message : String)
deriving DecidableEq, Repr

/-- A store that answers requests: a reply and the store's next state for every request. -/
class RemoteStore (σ : Type) where
  execute : σ → StoreRequest → StoreReply × σ

end ConfigBrowser
