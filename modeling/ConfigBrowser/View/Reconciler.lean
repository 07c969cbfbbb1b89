import ConfigBrowser.Route.Args

/-!
# Reconciling Routes

A navigation opens a new page when the identity of its arguments differs from that of the
navigation before, or when there was none; otherwise it continues on the same page. What a handler
has to do is a list of conditions, and reconciling tells which of their steps are due. The steps
are values, which the handler interprets.

## Main results

* `Reconciler.classify_reconcile`: a navigation to the arguments just recorded is a continuation.
* `Reconciler.fired_sublist`: steps are due in the order of their conditions.
-/

namespace ConfigBrowser

/-- How a navigation relates to the one before. -/
inductive Classification where
  /-- The list has to be built anew. -/
  | newPage
  /-- The list stays; only the entity or a flag changed. -/
  | continuation
deriving DecidableEq, Repr

/-- The name of a classification. -/
def Classification.name : Classification → String
  | newPage => "new_page"
  | continuation => "continuation"

/-- When a condition holds. -/
inductive Trigger where
  | newPageOnly
  | always
deriving DecidableEq, Repr

/-- Does the condition hold for a navigation? -/
def Trigger.holds : Trigger → Classification → Bool
  | newPageOnly, c => c = .newPage
  | always, _ => true

/-- A step that is due when its condition holds. -/
structure Condition (S : Type) where
  trigger : Trigger
  step : S
  /-- Does the step end the walk? -/
  stop : Bool
deriving DecidableEq, Repr

namespace Condition

variable {S : Type}

/-- A step of new pages. -/
def newPage (step : S) : Condition S := ⟨.newPageOnly, step, false⟩

/-- A step of every navigation. -/
def always (step : S) : Condition S := ⟨.always, step, false⟩

/-- The condition, ending the walk once it holds. -/
def stopping (c : Condition S) : Condition S := { c with stop := true }

end Condition

/-- What a walk through conditions yields. -/
structure Reconciliation (S : Type) where
  classification : Classification
  /-- The steps that are due, in order. -/
  fired : List S
  /-- Did a step end the walk? -/
  stopped : Bool
deriving DecidableEq, Repr

/-- The memory of the last navigation. -/
structure Reconciler where
  previous : Option RouteArgs
deriving DecidableEq, Repr

namespace Reconciler

variable {S : Type}

/-- The memory before the first navigation. -/
def initial : Reconciler := ⟨none⟩

/-- How a navigation relates to the last one. -/
def classify (r : Reconciler) (args : RouteArgs) : Classification :=
  match r.previous with
  | some previous => if previous.identity = args.identity then .continuation else .newPage
  | none => .newPage

/-- The steps that are due for a navigation, and whether one of them ended the walk. -/
def due (c : Classification) : List (Condition S) → List S × Bool
  | [] => ([], false)
  | condition :: rest =>
    if condition.trigger.holds c then
      if condition.stop then ([condition.step], true)
      else
        let (fired, stopped) := due c rest
        (condition.step :: fired, stopped)
    else due c rest

/-- Walks through conditions for a navigation that has been classified. -/
def walk (c : Classification) (conditions : List (Condition S)) : Reconciliation S :=
  let (fired, stopped) := due c conditions
  ⟨c, fired, stopped⟩

/-- Classifies a navigation, walks through conditions and records the navigation. -/
def reconcile (r : Reconciler) (args : RouteArgs) (conditions : List (Condition S)) :
    Reconciliation S × Reconciler :=
  (walk (r.classify args) conditions, ⟨some args⟩)

/-- What was reconciled a moment ago is a continuation of itself. -/
theorem classify_reconcile (r : Reconciler) (args : RouteArgs) (conditions : List (Condition S)) :
    (r.reconcile args conditions).2.classify args = .continuation := by
  simp [reconcile, classify]

/-- The steps that are fired are some of those of the conditions, in their order. -/
theorem fired_sublist (c : Classification) (conditions : List (Condition S)) :
    (walk c conditions).fired.Sublist (conditions.map (·.step)) := by
  change (due c conditions).1.Sublist _
  induction conditions with
  | nil => exact List.Sublist.slnil
  | cons condition rest ih =>
    rw [due]
    split
    · split
      · exact (List.nil_sublist _).cons_cons _
      · exact ih.cons_cons _
    · exact ih.cons _

end Reconciler

end ConfigBrowser
