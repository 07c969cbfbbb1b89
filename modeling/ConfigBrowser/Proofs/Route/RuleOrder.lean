import ConfigBrowser.Proofs.Route.Resolution

/-!
# The Order of the Rules

A path goes to the first rule that it fits. Where no path fits two rules, the first is the only one,
and the order in which the rules were registered plays no part. The rules of a page exclude each
other in this way: the names of the pieces behind the page's words tell the rule.

## Main results

* `RouteTable.resolve_eq_of_perm`: rules that exclude each other resolve paths alike in every order.
* `one_rule_fits_in_any_order`: a path fits at most one of a page's six rules, in whatever order
  they were registered.
-/

namespace ConfigBrowser

open Route

variable {H : Type}

/-! ### Rules that exclude each other -/

/-- Two rules exclude each other when no path fits both. -/
def RouteRule.Excludes (r r' : RouteRule H) : Prop :=
  ∀ path, r.pattern.match? path = none ∨ r'.pattern.match? path = none

/-- Rules exclude each other. -/
theorem RouteRule.Excludes.symm {r r' : RouteRule H} (h : r.Excludes r') : r'.Excludes r :=
  fun path => (h path).symm

namespace RouteTable

section Excludes

variable {rules rules' : List (RouteRule H)} (h : rules.Pairwise RouteRule.Excludes)
include h

/-- Of rules that exclude each other at most one fits a path. -/
theorem countP_match?_le_one (path : String) :
    rules.countP (fun rule => (rule.pattern.match? path).isSome) ≤ 1 := by
  induction rules with
  | nil => exact Nat.zero_le 1
  | cons rule rest ih =>
      obtain ⟨hrule, hrest⟩ := List.pairwise_cons.1 h
      cases hmatch : rule.pattern.match? path with
      | none => simpa [hmatch] using ih hrest
      | some args =>
          have hnone : rest.countP (fun rule => (rule.pattern.match? path).isSome) = 0 := by
            refine List.countP_eq_zero.2 fun other hother => ?_
            have hexcluded := (hrule other hother path).resolve_left (by simp [hmatch])
            simp [hexcluded]
          simp [hmatch, hnone]

/-- Of rules that exclude each other a path goes to the one that it fits, wherever that stands. -/
theorem findSome?_match?_eq_some_iff {path : String} {route : H × RouteArgs} :
    rules.findSome? (RouteRule.match? path) = some route ↔
      ∃ rule ∈ rules, rule.match? path = some route := by
  refine ⟨List.exists_of_findSome?_eq_some, ?_⟩
  rintro ⟨rule, hrule, hmatch⟩
  induction rules with
  | nil => cases hrule
  | cons first rest ih =>
      obtain ⟨hfirst, hrest⟩ := List.pairwise_cons.1 h
      rcases List.mem_cons.1 hrule with rfl | hrule
      · rw [List.findSome?_cons, hmatch]
      · have hfits : rule.pattern.match? path ≠ none := fun hnone => by
          simp [RouteRule.match?, hnone] at hmatch
        have hpassed : first.match? path = none := by
          rw [RouteRule.match?, (hfirst rule hrule path).resolve_right hfits, Option.map_none]
        rw [List.findSome?_cons, hpassed]
        exact ih hrest hrule

/-- Rules that exclude each other resolve paths alike in every order. -/
theorem resolve_eq_of_perm (hperm : rules'.Perm rules) (path : String) :
    (RouteTable.mk rules').resolve path = (RouteTable.mk rules).resolve path := by
  have h' : rules'.Pairwise RouteRule.Excludes :=
    (hperm.pairwise_iff RouteRule.Excludes.symm).2 h
  have hfind : rules'.findSome? (RouteRule.match? path) =
      rules.findSome? (RouteRule.match? path) := by
    refine Option.ext fun route => ?_
    rw [findSome?_match?_eq_some_iff h', findSome?_match?_eq_some_iff h]
    simp only [hperm.mem_iff]
  rw [resolve, resolve, hfind]

end Excludes

/-- Rules that are registered one after the other stand in that order. -/
theorem foldl_register (table : RouteTable H) (rules : List (RouteRule H)) :
    rules.foldl register table = ⟨table.rules ++ rules⟩ := by
  induction rules generalizing table with
  | nil => rw [List.foldl_nil, List.append_nil]
  | cons rule rest ih =>
      rw [List.foldl_cons, ih, register, List.append_assoc, List.singleton_append]

end RouteTable

/-! ### The rules of a page -/

/-- The rules of two handlers exclude each other. -/
theorem Handler.excludes_pageRule (page : String) {h h' : Handler} (hne : h ≠ h') :
    (h.pageRule page).Excludes (h'.pageRule page) := by
  intro path
  by_contra hboth
  obtain ⟨hfits, hfits'⟩ := not_or.1 hboth
  obtain ⟨args, hargs⟩ := Option.ne_none_iff_exists'.1 hfits
  obtain ⟨args', hargs'⟩ := Option.ne_none_iff_exists'.1 hfits'
  have hsteps : ∀ {h : Handler} {args : RouteArgs},
      (h.pageRule page).pattern.match? path = some args →
      ∃ rest, behind (pageWords page) (pathPieces path) = some rest ∧
        matchSteps h.steps .empty rest = some args := by
    intro h args hfit
    rw [← Option.bind_eq_some_iff, ← matchSteps_literals, steps, ← Step.ofSegments_literals]
    exact hfit
  obtain ⟨rest, hrest, hmatch⟩ := hsteps hargs
  obtain ⟨rest', hrest', hmatch'⟩ := hsteps hargs'
  obtain rfl := Option.some.inj (hrest.symm.trans hrest')
  exact hne (eq_of_matchSteps hmatch hmatch')

/-- A page whose name holds no colon has six rules, one for each handler. A path fits at most one of
them, so the table that comes of registering them in any other order resolves every path to the
same. -/
theorem one_rule_fits_in_any_order {page : String} (hpage : ':' ∉ page.toList) :
    ∃ table, pageTable page = .ok table ∧ table.rules.map (·.handler) = Handler.all ∧
      (∀ path, table.rules.countP (fun rule => (rule.pattern.match? path).isSome) ≤ 1) ∧
      ∀ order : List (RouteRule Handler), order.Perm table.rules → ∀ path,
        (order.foldl RouteTable.register .empty).resolve path = table.resolve path := by
  have hexcludes : (Handler.all.map (Handler.pageRule page)).Pairwise RouteRule.Excludes := by
    have hdistinct : Handler.all.Pairwise (· ≠ ·) := by decide
    exact List.pairwise_map.2 (hdistinct.imp (Handler.excludes_pageRule page))
  refine ⟨_, pageTable_eq hpage, rfl, RouteTable.countP_match?_le_one hexcludes, ?_⟩
  intro order hperm path
  rw [RouteTable.foldl_register]
  exact RouteTable.resolve_eq_of_perm hexcludes hperm path

/-- On the page `configs`, the rules registered backwards take the path of an edit whose flag stands
behind the name for just that. -/
theorem resolve_configs_backwards : ∃ table, pageTable "configs" = .ok table ∧
    table.rules.countP
      (fun rule => (rule.pattern.match? "configs/1/name:x/edit:").isSome) ≤ 1 ∧
    (table.rules.reverse.foldl RouteTable.register .empty).resolve "configs/1/name:x/edit:" =
      table.resolve "configs/1/name:x/edit:" ∧
    ∃ args, table.resolve "configs/1/name:x/edit:" = .ok (.loadEditConfigs, args) := by
  have hcolon : ':' ∉ "configs".toList := by decide
  obtain ⟨table, htable, -, hone, horder⟩ := one_rule_fits_in_any_order hcolon
  refine ⟨table, htable, hone _, horder _ table.rules.reverse_perm _, ?_⟩
  rw [pageTable_eq hcolon] at htable
  obtain rfl := Except.ok.inj htable
  exact ⟨_, rfl⟩

end ConfigBrowser
