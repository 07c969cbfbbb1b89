import ConfigBrowser.Proofs.Route.RoundTrip
import Mathlib

/-!
# The Grammar of Paths

A pattern says which paths it stands for: its segments share out the pieces of the path, in order. A
literal takes a piece that decodes to it, a positional parameter one that does not have the form
`key:value`, and a maximal run of named parameters any number of pieces of that form, in any order,
no parameter twice and no required one left out. An optional positional parameter may take nothing.

Matching goes from left to right and never takes back what it has given to a segment. It finds every
way to share out the pieces all the same, if no two parameters have the same name and nothing but
named parameters follows an optional positional one: whatever piece comes next, only one segment can
take it.

## Main results

* `Route.exists_fits_of_matchSteps`: what matching binds is a way to share out the pieces.
* `Route.Fits.matchSteps`: matching finds every such way.
* `RoutePattern.match?_eq_some_iff_derives`: matching and the grammar agree, for parsed patterns.
-/

namespace ConfigBrowser

/-- Is a segment a named parameter? -/
def Segment.isNamed : Segment → Bool
  | named .. => true
  | literal _ | positional .. => false

namespace Route

/-! ### The grammar -/

/-- The segments of a run of named parameters, each with its being optional. -/
def runSegments (parameters : List (String × Bool)) : List Segment :=
  parameters.map fun p => .named p.1 p.2

/-- May a run of named parameters take these arguments? No parameter is taken twice, and every
required one is taken. The order does not matter. -/
structure Shares (parameters : List (String × Bool)) (taken : List (String × List Char)) :
    Prop where
  nodup : (taken.map Prod.fst).Nodup
  declared : ∀ key ∈ taken.map Prod.fst, key ∈ parameters.map Prod.fst
  required : ∀ key, (key, false) ∈ parameters → key ∈ taken.map Prod.fst

/-- How segments share out pieces, and what they bind. -/
inductive Fits : List Segment → List (List Char) → List (String × String) → Prop
  /-- No piece is left over. -/
  | nil : Fits [] [] []
  | literal {text : String} {piece : List Char} {segments : List Segment}
      {pieces : List (List Char)} {bound : List (String × String)}
      (hpiece : decode piece = text.toList) (hrest : Fits segments pieces bound) :
      Fits (.literal text :: segments) (piece :: pieces) bound
  | positional {key : String} {optional : Bool} {piece : List Char} {segments : List Segment}
      {pieces : List (List Char)} {bound : List (String × String)}
      (hpiece : ¬ IsNamedForm piece) (hrest : Fits segments pieces bound) :
      Fits (.positional key optional :: segments) (piece :: pieces)
        ((key, String.ofList (decode piece)) :: bound)
  /-- An optional positional parameter takes nothing. -/
  | absent {key : String} {segments : List Segment} {pieces : List (List Char)}
      {bound : List (String × String)} (hrest : Fits segments pieces bound) :
      Fits (.positional key true :: segments) pieces bound
  /-- A maximal run of named parameters takes pieces that name them. -/
  | run {parameters : List (String × Bool)} {taken : List (String × List Char)}
      {segments : List Segment} {pieces : List (List Char)} {bound : List (String × String)}
      (hne : parameters ≠ []) (hmaximal : ∀ s ∈ segments.head?, s.isNamed = false)
      (hshares : Shares parameters taken) (hrest : Fits segments pieces bound) :
      Fits (runSegments parameters ++ segments) (taken.map pieceOf ++ pieces)
        (taken.map meant ++ bound)

/-- The grammar of a pattern: the pieces can be shared out, and the arguments are exactly those that
are bound. -/
def Derives (segments : List Segment) (pieces : List (List Char)) (args : RouteArgs) : Prop :=
  ∃ bound, Fits segments pieces bound ∧
    ∀ key value, args.get? key = some value ↔ (key, value) ∈ bound

/-- The names of the parameters of segments. -/
def keysOf (segments : List Segment) : List String := segments.filterMap Segment.key?

/-- Do only named parameters follow an optional positional one? -/
def OptionalLast : List Segment → Prop
  | [] => True
  | .positional _ true :: rest => ∀ s ∈ rest, s.isNamed = true
  | _ :: rest => OptionalLast rest

/-- Could the segment have been read from a token? A literal holds no colon, and the name of a named
parameter is a key. -/
def IsToken : Segment → Prop
  | .literal text => ':' ∉ text.toList
  | .positional .. => True
  | .named key _ => isKey key.toList = true

/-! ### Runs of segments -/

/-- The keys of a run come before those of what follows. -/
theorem keysOf_run_append (parameters : List (String × Bool)) (segments : List Segment) :
    keysOf (runSegments parameters ++ segments) = parameters.map Prod.fst ++ keysOf segments := by
  induction parameters with
  | nil => rfl
  | cons p parameters ih => exact congrArg (p.1 :: ·) ih

/-- A maximal run is one step of the matching. -/
theorem ofSegments_run_append {parameters : List (String × Bool)} {segments : List Segment}
    (hne : parameters ≠ []) (hmaximal : ∀ s ∈ segments.head?, s.isNamed = false) :
    Step.ofSegments (runSegments parameters ++ segments) =
      .run parameters :: Step.ofSegments segments := by
  induction parameters with
  | nil => exact absurd rfl hne
  | cons p parameters ih =>
      obtain ⟨key, optional⟩ := p
      change Step.ofSegments (.named key optional :: (runSegments parameters ++ segments)) = _
      rw [Step.ofSegments]
      cases parameters with
      | cons next parameters => rw [ih (by simp)]
      | nil =>
          cases segments with
          | nil => rfl
          | cons s segments =>
              cases s with
              | literal text => rfl
              | positional key optional => rfl
              | named key optional => cases hmaximal _ rfl

/-- Segments begin with a run of named parameters, which may be empty. -/
theorem exists_run (segments : List Segment) : ∃ parameters rest,
    segments = runSegments parameters ++ rest ∧ ∀ s ∈ rest.head?, s.isNamed = false := by
  induction segments with
  | nil => exact ⟨[], [], rfl, by simp⟩
  | cons s segments ih =>
      cases s with
      | literal text => exact ⟨[], _, rfl, by simp [Segment.isNamed]⟩
      | positional key optional => exact ⟨[], _, rfl, by simp [Segment.isNamed]⟩
      | named key optional =>
          obtain ⟨parameters, rest, rfl, hmaximal⟩ := ih
          exact ⟨(key, optional) :: parameters, rest, rfl, hmaximal⟩

/-- Induction on segments that goes over a maximal run at once. -/
theorem segments_induction {P : List Segment → Prop} (nil : P [])
    (literal : ∀ text rest, P rest → P (.literal text :: rest))
    (positional : ∀ key optional rest, P rest → P (.positional key optional :: rest))
    (run : ∀ parameters rest, parameters ≠ [] → (∀ s ∈ rest.head?, s.isNamed = false) →
      P rest → P (runSegments parameters ++ rest))
    (segments : List Segment) : P segments := by
  induction hlength : segments.length using Nat.strong_induction_on generalizing segments with
  | _ n ih =>
      subst hlength
      cases segments with
      | nil => exact nil
      | cons s rest =>
          cases s with
          | literal text => exact literal text rest (ih _ (Nat.lt_succ_self _) rest rfl)
          | positional key optional =>
              exact positional key optional rest (ih _ (Nat.lt_succ_self _) rest rfl)
          | named key optional =>
              obtain ⟨parameters, behind, rfl, hmaximal⟩ := exists_run rest
              refine run ((key, optional) :: parameters) behind (by simp) hmaximal
                (ih _ ?_ behind rfl)
              simp only [List.length_cons, List.length_append]
              omega

/-! ### Matching binds what the pieces are shared out to -/

/-- What matching binds is a way to share out the pieces. -/
theorem exists_fits_of_matchSteps {segments : List Segment} {args args' : RouteArgs}
    {pieces : List (List Char)} (hnodup : (keysOf segments).Nodup)
    (hunbound : Unbound args (keysOf segments))
    (h : matchSteps (Step.ofSegments segments) args pieces = some args') :
    ∃ bound, Fits segments pieces bound ∧ args' = bindAll args bound := by
  induction segments using segments_induction generalizing args pieces with
  | nil =>
      obtain ⟨rfl, rfl⟩ : pieces = [] ∧ args = args' := by
        simpa [Step.ofSegments, matchSteps] using h
      exact ⟨[], .nil, rfl⟩
  | literal text rest ih =>
      cases pieces with
      | nil => simp [Step.ofSegments, matchSteps] at h
      | cons piece pieces =>
          simp only [Step.ofSegments, matchSteps, Option.ite_none_right_eq_some] at h
          obtain ⟨hpiece, h⟩ := h
          obtain ⟨bound, hfits, rfl⟩ := ih hnodup hunbound h
          exact ⟨bound, .literal hpiece hfits, rfl⟩
  | positional key optional rest ih =>
      change (key :: keysOf rest).Nodup at hnodup
      change Unbound args (key :: keysOf rest) at hunbound
      obtain ⟨hkey, hnodup⟩ := List.nodup_cons.1 hnodup
      have hrest := hunbound.mono (List.subset_cons_self _ _)
      rw [Step.ofSegments, matchSteps.eq_def] at h
      -- An optional parameter takes nothing if there is no piece, or if the piece has a name.
      have habsent : optional = true → matchSteps (Step.ofSegments rest) args pieces = some args' →
          ∃ bound, Fits (.positional key optional :: rest) pieces bound ∧
            args' = bindAll args bound := by
        rintro rfl habsent
        obtain ⟨bound, hfits, rfl⟩ := ih hnodup hrest habsent
        exact ⟨bound, .absent hfits, rfl⟩
      cases pieces with
      | nil => exact habsent (by simp_all) (by simp_all)
      | cons piece pieces =>
          by_cases hpiece : splitNamed piece = none
          · simp only [hpiece, Option.isNone_none, if_true] at h
            obtain ⟨bound, hfits, rfl⟩ := ih hnodup (hrest.set hkey _) h
            exact ⟨_, .positional (splitNamed_eq_none_iff.1 hpiece) hfits, rfl⟩
          · exact habsent (by simp_all) (by simp_all)
  | run parameters rest hne hmaximal ih =>
      rw [keysOf_run_append] at hnodup hunbound
      rw [ofSegments_run_append hne hmaximal, matchSteps] at h
      obtain ⟨-, hnodup, hdisjoint⟩ := List.nodup_append'.1 hnodup
      obtain ⟨taken, left, rfl, htaken, htakes⟩ := exists_taken parameters args pieces
      rw [htaken] at h
      simp only [Option.ite_none_right_eq_some] at h
      obtain ⟨hall, h⟩ := h
      have hother : List.Disjoint ((taken.map meant).map Prod.fst) (keysOf rest) := by
        rw [map_fst_meant]
        exact fun key hkey => hdisjoint (htakes.declared hkey)
      have hrest := (hunbound.mono (List.subset_append_right _ _)).bindAll hother
      obtain ⟨bound, hfits, rfl⟩ := ih hnodup hrest h
      have hshares : Shares parameters taken := by
        refine ⟨htakes.nodup, htakes.declared, fun key hkey => ?_⟩
        have hcontains : (bindAll args (taken.map meant)).contains key = true := by
          simpa using List.all_eq_true.1 hall _ hkey
        have hfresh := hunbound key
          (List.mem_append_left _ (List.mem_map.2 ⟨(key, false), hkey, rfl⟩))
        rw [contains_bindAll_iff, map_fst_meant, RouteArgs.contains_eq_false_iff.2 hfresh]
          at hcontains
        exact hcontains.resolve_left Bool.false_ne_true
      exact ⟨_, .run hne hmaximal hshares hfits, (bindAll_append ..).symm⟩

/-! ### Matching finds every way to share out the pieces -/

/-- Decoding keeps the colons. -/
theorem colon_mem_decode {s : List Char} (h : ':' ∈ s) : ':' ∈ decode s := by
  induction s using decode.induct with
  | case1 => simp at h
  | case2 rest ih => simp_all [decode]
  | case3 rest ih => simp_all [decode]
  | case4 rest ih => simp_all [decode]
  | case5 c rest _ _ _ ih =>
    rw [decode]
    · rcases List.mem_cons.1 h with rfl | h
      · exact List.mem_cons_self
      · exact List.mem_cons_of_mem _ (ih h)
    all_goals assumption

/-- May the segment take the piece? -/
def Takable : Segment → List Char → Prop
  | .literal text, piece => decode piece = text.toList
  | .positional .., piece => ¬ IsNamedForm piece
  | .named key _, piece => ∃ value, piece = pieceOf (key, value)

/-- A piece that names a parameter is taken by no other segment than the parameter. -/
theorem Takable.key?_eq {segment : Segment} {piece : List Char} (h : Takable segment piece)
    (htoken : IsToken segment) {key : String} (hname : nameOf piece = some key) :
    segment.key? = some key := by
  have hform : IsNamedForm piece := by
    by_contra hform
    rw [nameOf_eq_none_iff.2 hform] at hname
    cases hname
  cases segment with
  | literal text =>
      obtain ⟨name, value, -, rfl⟩ := hform
      exact absurd (h ▸ colon_mem_decode (by simp)) htoken
  | positional key optional => exact absurd hform h
  | named k optional =>
      obtain ⟨value, rfl⟩ := h
      have hname' : nameOf (pieceOf (k, value)) = some k := nameOf_pieceOf htoken
      rw [hname'] at hname
      exact hname

/-- Every piece is taken by a segment. -/
theorem Fits.exists_takable {segments : List Segment} {pieces : List (List Char)}
    {bound : List (String × String)} (h : Fits segments pieces bound) {piece : List Char}
    (hpiece : piece ∈ pieces) : ∃ segment ∈ segments, Takable segment piece := by
  induction h with
  | nil => simp at hpiece
  | literal hfirst _ ih =>
      rcases List.mem_cons.1 hpiece with rfl | hpiece
      · exact ⟨_, List.mem_cons_self, hfirst⟩
      · obtain ⟨segment, hmem, htake⟩ := ih hpiece
        exact ⟨segment, List.mem_cons_of_mem _ hmem, htake⟩
  | positional hfirst _ ih =>
      rcases List.mem_cons.1 hpiece with rfl | hpiece
      · exact ⟨_, List.mem_cons_self, hfirst⟩
      · obtain ⟨segment, hmem, htake⟩ := ih hpiece
        exact ⟨segment, List.mem_cons_of_mem _ hmem, htake⟩
  | absent _ ih =>
      obtain ⟨segment, hmem, htake⟩ := ih hpiece
      exact ⟨segment, List.mem_cons_of_mem _ hmem, htake⟩
  | run _ _ hshares _ ih =>
      rcases List.mem_append.1 hpiece with hpiece | hpiece
      · obtain ⟨argument, htaken, rfl⟩ := List.mem_map.1 hpiece
        obtain ⟨p, hp, hkey⟩ :=
          List.mem_map.1 (hshares.declared _ (List.mem_map.2 ⟨argument, htaken, rfl⟩))
        refine ⟨.named p.1 p.2, List.mem_append_left _ (List.mem_map.2 ⟨p, hp, rfl⟩),
          argument.2, ?_⟩
        rw [hkey]
      · obtain ⟨segment, hmem, htake⟩ := ih hpiece
        exact ⟨segment, List.mem_append_right _ hmem, htake⟩

/-- A piece with a name is taken by the parameter of that name. -/
theorem Fits.mem_keysOf {segments : List Segment} {pieces : List (List Char)}
    {bound : List (String × String)} (h : Fits segments pieces bound)
    (htokens : ∀ s ∈ segments, IsToken s) {piece : List Char} (hpiece : piece ∈ pieces)
    {key : String} (hname : nameOf piece = some key) : key ∈ keysOf segments := by
  obtain ⟨segment, hmem, htake⟩ := h.exists_takable hpiece
  exact List.mem_filterMap.2 ⟨segment, hmem, htake.key?_eq (htokens _ hmem) hname⟩

/-- Named parameters take pieces of the form `key:value` only. -/
theorem Fits.isNamedForm_of_named {segments : List Segment} {pieces : List (List Char)}
    {bound : List (String × String)} (h : Fits segments pieces bound)
    (htokens : ∀ s ∈ segments, IsToken s) (hnamed : ∀ s ∈ segments, s.isNamed = true)
    {piece : List Char} (hpiece : piece ∈ pieces) : IsNamedForm piece := by
  obtain ⟨segment, hmem, htake⟩ := h.exists_takable hpiece
  cases segment with
  | literal text => exact absurd (hnamed _ hmem) (by simp [Segment.isNamed])
  | positional key optional => exact absurd (hnamed _ hmem) (by simp [Segment.isNamed])
  | named key optional =>
      obtain ⟨value, rfl⟩ := htake
      exact ⟨key.toList, value, htokens _ hmem, rfl⟩

/-- A run in front makes no difference to what follows an optional positional parameter. -/
theorem optionalLast_run_append {parameters : List (String × Bool)} {segments : List Segment} :
    OptionalLast (runSegments parameters ++ segments) ↔ OptionalLast segments := by
  induction parameters with
  | nil => rfl
  | cons p parameters ih => exact ih

/-- Where all segments are named, only named ones follow an optional positional one. -/
theorem optionalLast_of_named {segments : List Segment} (h : ∀ s ∈ segments, s.isNamed = true) :
    OptionalLast segments := by
  induction segments with
  | nil => trivial
  | cons s segments ih =>
      obtain ⟨hs, hrest⟩ := List.forall_mem_cons.1 h
      cases s with
      | literal text => cases hs
      | positional key optional => cases hs
      | named key optional => exact ih hrest

/-- Behind the first segment, too, only named ones follow an optional positional one. -/
theorem OptionalLast.tail {segment : Segment} {segments : List Segment}
    (h : OptionalLast (segment :: segments)) : OptionalLast segments := by
  cases segment with
  | literal text => exact h
  | named key optional => exact h
  | positional key optional =>
      cases optional with
      | false => exact h
      | true => exact optionalLast_of_named h

/-- A run takes the pieces of its arguments up to a piece that names none of its parameters. -/
theorem Taken.takeNamed_eq {parameters : List (String × Bool)} {args : RouteArgs}
    {taken : List (String × List Char)} (h : Taken parameters args taken)
    {rest : List (List Char)}
    (hrest : ∀ piece ∈ rest.head?, ∀ key ∈ parameters.map Prod.fst, nameOf piece ≠ some key) :
    takeNamed parameters args (taken.map pieceOf ++ rest) =
      (bindAll args (taken.map meant), rest) := by
  induction taken generalizing args with
  | nil => exact Handler.takeNamed_of_head hrest
  | cons argument taken ih =>
      obtain ⟨hkey, hdeclared, hfresh, h⟩ :=
        (taken_cons_iff (String.ofList (decode argument.2))).1 h
      rw [List.map_cons, List.cons_append,
        takeNamed_cons_of_splitNamed (splitNamed_pieceOf hkey) hdeclared
          (RouteArgs.contains_eq_false_iff.2 hfresh), ih h]
      rfl

/-- Matching finds every way to share out the pieces. -/
theorem Fits.matchSteps {segments : List Segment} {pieces : List (List Char)}
    {bound : List (String × String)} (h : Fits segments pieces bound)
    (htokens : ∀ s ∈ segments, IsToken s) (hnodup : (keysOf segments).Nodup)
    (hlast : OptionalLast segments) {args : RouteArgs} (hunbound : Unbound args (keysOf segments)) :
    matchSteps (Step.ofSegments segments) args pieces = some (bindAll args bound) := by
  induction h generalizing args with
  | nil => rfl
  | literal hpiece _ ih =>
      rw [Step.ofSegments, Route.matchSteps, if_pos hpiece]
      exact ih (List.forall_mem_cons.1 htokens).2 hnodup hlast hunbound
  | @positional key optional piece segments pieces bound hpiece _ ih =>
      obtain ⟨hkey, hnodup⟩ := List.nodup_cons.1 hnodup
      rw [Step.ofSegments, Route.matchSteps, splitNamed_eq_none_iff.2 hpiece]
      exact ih (List.forall_mem_cons.1 htokens).2 hnodup hlast.tail
        ((hunbound.mono (List.subset_cons_self _ _)).set hkey _)
  | @absent key segments pieces bound hrest ih =>
      have htokens := (List.forall_mem_cons.1 htokens).2
      have hmatch := ih htokens (List.nodup_cons.1 hnodup).2 hlast.tail
        (hunbound.mono (List.subset_cons_self _ _))
      rw [Step.ofSegments, Route.matchSteps.eq_def]
      cases pieces with
      | nil => exact hmatch
      | cons piece pieces =>
          -- What follows are named parameters only, so the next piece has a name.
          have hform := hrest.isNamedForm_of_named htokens hlast List.mem_cons_self
          have hs : (splitNamed piece).isNone = false := by
            rw [Option.isNone_eq_false_iff, Option.isSome_iff_ne_none]
            exact fun hnone => splitNamed_eq_none_iff.1 hnone hform
          simpa [hs] using hmatch
  | @run parameters taken segments pieces bound hne hmaximal hshares hrest ih =>
      rw [keysOf_run_append] at hnodup hunbound
      rw [optionalLast_run_append] at hlast
      obtain ⟨-, hnodup, hdisjoint⟩ := List.nodup_append'.1 hnodup
      obtain ⟨hrun, htokens⟩ := List.forall_mem_append.1 htokens
      have htakes : Taken parameters args taken := by
        refine ⟨fun argument hmem => ?_, hshares.nodup,
          (hunbound.mono (List.subset_append_left _ _)).mono hshares.declared, hshares.declared⟩
        obtain ⟨p, hp, hkey⟩ :=
          List.mem_map.1 (hshares.declared _ (List.mem_map.2 ⟨argument, hmem, rfl⟩))
        rw [← hkey]
        exact hrun _ (List.mem_map.2 ⟨p, hp, rfl⟩)
      have hstop : ∀ piece ∈ pieces.head?, ∀ key ∈ parameters.map Prod.fst,
          nameOf piece ≠ some key := fun piece hpiece key hkey hname =>
        hdisjoint hkey (hrest.mem_keysOf htokens (List.mem_of_mem_head? hpiece) hname)
      have hother : List.Disjoint ((taken.map meant).map Prod.fst) (keysOf segments) := by
        rw [map_fst_meant]
        exact fun key hkey => hdisjoint (hshares.declared _ hkey)
      have hmatch := ih htokens hnodup hlast
        ((hunbound.mono (List.subset_append_right _ _)).bindAll hother)
      have hall : ∀ p ∈ parameters,
          (p.2 || (bindAll args (taken.map meant)).contains p.1) = true := by
        rintro ⟨key, optional⟩ hp
        cases optional with
        | true => rfl
        | false =>
            rw [Bool.false_or, contains_bindAll_iff, map_fst_meant]
            exact .inr (hshares.required key hp)
      rw [ofSegments_run_append hne hmaximal, Route.matchSteps, htakes.takeNamed_eq hstop,
        bindAll_append]
      exact (if_pos (List.all_eq_true.2 hall)).trans hmatch

/-- What is bound are parameters of the segments, each bound once. -/
theorem Fits.nodup_bound {segments : List Segment} {pieces : List (List Char)}
    {bound : List (String × String)} (h : Fits segments pieces bound)
    (hnodup : (keysOf segments).Nodup) :
    (bound.map Prod.fst).Nodup ∧ bound.map Prod.fst ⊆ keysOf segments := by
  induction h with
  | nil => exact ⟨List.nodup_nil, List.nil_subset _⟩
  | literal _ _ ih => exact ih hnodup
  | positional _ _ ih =>
      obtain ⟨hkey, hnodup⟩ := List.nodup_cons.1 hnodup
      obtain ⟨hbound, hsub⟩ := ih hnodup
      exact ⟨List.nodup_cons.2 ⟨fun hmem => hkey (hsub hmem), hbound⟩,
        List.cons_subset_cons _ hsub⟩
  | absent _ ih =>
      obtain ⟨hbound, hsub⟩ := ih (List.nodup_cons.1 hnodup).2
      exact ⟨hbound, List.subset_cons_of_subset _ hsub⟩
  | run _ _ hshares _ ih =>
      rw [keysOf_run_append] at hnodup ⊢
      obtain ⟨-, hnodup, hdisjoint⟩ := List.nodup_append'.1 hnodup
      obtain ⟨hbound, hsub⟩ := ih hnodup
      rw [List.map_append, map_fst_meant]
      refine ⟨List.nodup_append'.2 ⟨hshares.nodup, hbound, fun key htaken hmem => ?_⟩, ?_⟩
      · exact hdisjoint (hshares.declared _ htaken) (hsub hmem)
      · exact List.append_subset.2 ⟨List.subset_append_of_subset_left _ hshares.declared,
          List.subset_append_of_subset_right _ hsub⟩

/-- Matching and the grammar agree. -/
theorem matchSteps_eq_some_iff_derives {segments : List Segment} {pieces : List (List Char)}
    {args : RouteArgs} (htokens : ∀ s ∈ segments, IsToken s) (hnodup : (keysOf segments).Nodup)
    (hlast : OptionalLast segments) :
    matchSteps (Step.ofSegments segments) .empty pieces = some args ↔
      Derives segments pieces args := by
  have hunbound : Unbound .empty (keysOf segments) := fun _ _ => rfl
  constructor
  · intro hmatch
    obtain ⟨bound, hfits, rfl⟩ := exists_fits_of_matchSteps hnodup hunbound hmatch
    exact ⟨bound, hfits, fun key value => get?_bindAll_empty_iff (hfits.nodup_bound hnodup).1⟩
  · rintro ⟨bound, hfits, hargs⟩
    rw [hfits.matchSteps htokens hnodup hlast hunbound, Option.some_inj]
    refine SortedMap.ext_get? fun key => Option.ext fun value => ?_
    rw [get?_bindAll_empty_iff (hfits.nodup_bound hnodup).1, hargs]

/-! ### Segments that were read -/

/-- What is read from a token is a segment that a token can stand for. -/
theorem isToken_of_readToken {token : List Char} {segment : Segment}
    (h : readToken token = some segment) : IsToken segment := by
  rw [readToken.eq_def] at h
  split at h
  · simp only [Option.ite_none_left_eq_some, Option.some.injEq] at h
    obtain ⟨-, rfl⟩ := h
    trivial
  · split at h
    · simp only [Option.ite_none_right_eq_some, Option.some.injEq, Bool.and_eq_true] at h
      obtain ⟨⟨hkey, -⟩, rfl⟩ := h
      rwa [IsToken, String.toList_ofList]
    · next hcut =>
      obtain rfl := Option.some.inj h
      rw [IsToken, String.toList_ofList]
      intro hcolon
      obtain ⟨before, after, rfl, hbefore⟩ := List.eq_append_cons_of_mem hcolon
      rw [Text.cut_append (by simp) (fun x hx => by
        simpa using ne_of_mem_of_not_mem hx hbefore)] at hcut
      cases hcut

end Route

open Route

namespace RoutePattern

/-- What is read from tokens are segments that tokens can stand for. -/
theorem isToken_of_readTokens {source : String} {tokens : List (List Char)}
    {segments : List Segment} (h : readTokens source tokens = .ok segments) :
    ∀ s ∈ segments, IsToken s := by
  induction tokens generalizing segments with
  | nil =>
      obtain rfl := Except.ok.inj h
      simp
  | cons token tokens ih =>
      rw [readTokens] at h
      split at h
      · next segment hsegment =>
        cases hrest : readTokens source tokens with
        | error e => simp [hrest, Except.map] at h
        | ok rest =>
            rw [hrest] at h
            obtain rfl := Except.ok.inj h
            exact List.forall_mem_cons.2 ⟨isToken_of_readToken hsegment, ih hrest⟩
      · cases h

/-- A pattern that is read has segments that tokens can stand for. -/
theorem isToken_of_parse {source : String} {p : RoutePattern} (h : parse source = .ok p) :
    ∀ s ∈ p.segments, IsToken s := by
  rw [parse] at h
  split at h
  · cases h
  · next hsegments =>
    obtain rfl := Except.ok.inj h
    exact isToken_of_readTokens hsegments
  · cases h

/-- The rules of a page satisfy what the grammar asks of a pattern. -/
theorem nodup_and_optionalLast_of_rule {page : String} {rule : RouteRule Handler} {h : Handler}
    (hpage : ':' ∉ page.toList) (hrule : h.rule page = .ok rule) :
    (keysOf rule.pattern.segments).Nodup ∧ OptionalLast rule.pattern.segments := by
  rw [Handler.rule_eq hpage] at hrule
  obtain rfl := Except.ok.inj hrule
  rw [Handler.pageRule]
  induction Handler.pageWords page with
  | nil =>
      have hkeys : (keysOf h.segments).Nodup := by cases h <;> decide
      have hlast : OptionalLast h.segments := by
        cases h <;> simp [Handler.segments, Handler.listSegments, OptionalLast, Segment.isNamed]
      exact ⟨hkeys, hlast⟩
  | cons word words ih => exact ih

/-- A path matches a parsed pattern with some arguments exactly when its pieces can be shared out
among the segments so that they bind these arguments, and there are never two ways to do so with
different arguments. The parameters are named differently, and only named ones follow an optional
positional one, as it is with the rules of every page. -/
theorem match?_eq_some_iff_derives :
    (∀ (source : String) (p : RoutePattern), parse source = .ok p → (keysOf p.segments).Nodup →
      OptionalLast p.segments → ∀ path : String,
        (∀ args, p.match? path = some args ↔ Derives p.segments (pathPieces path) args) ∧
        ∀ args args', Derives p.segments (pathPieces path) args →
          Derives p.segments (pathPieces path) args' → args = args') ∧
    ∀ (page : String) (h : Handler) (rule : RouteRule Handler), ':' ∉ page.toList →
      h.rule page = .ok rule →
      (keysOf rule.pattern.segments).Nodup ∧ OptionalLast rule.pattern.segments := by
  refine ⟨fun source p hparse hnodup hlast path => ?_,
    fun page h rule => nodup_and_optionalLast_of_rule⟩
  have hiff : ∀ args, p.match? path = some args ↔ Derives p.segments (pathPieces path) args :=
    fun args => matchSteps_eq_some_iff_derives (isToken_of_parse hparse) hnodup hlast
  refine ⟨hiff, fun args args' hargs hargs' => ?_⟩
  exact Option.some.inj (((hiff args).2 hargs).symm.trans ((hiff args').2 hargs'))

/-- The type and the name of a list with its filters, in this order and without an id. -/
theorem derives_type_and_name :
    (∃ p, parse "/configs/filter:/:id?/name:?/type:?" = .ok p ∧
      Derives p.segments (pathPieces "#configs/filter:/type:A%2FB/name:")
        (.ofList [("filter", ""), ("name", ""), ("type", "A/B")])) ∧
    ∃ rule, Handler.loadFilter.rule "configs" = .ok rule ∧
      (keysOf rule.pattern.segments).Nodup ∧ OptionalLast rule.pattern.segments := by
  have hcolon : ':' ∉ "configs".toList := by decide
  have hrule := Handler.rule_eq hcolon .loadFilter
  have hpattern := match?_eq_some_iff_derives.2 "configs" .loadFilter _ hcolon hrule
  have hparse : parse "/configs/filter:/:id?/name:?/type:?" =
      .ok ⟨"/configs/filter:/:id?/name:?/type:?",
        .literal "configs" :: Handler.loadFilter.segments⟩ := rfl
  refine ⟨⟨_, hparse, ?_⟩, _, hrule, hpattern⟩
  refine ((match?_eq_some_iff_derives.1 _ _ hparse hpattern.1 hpattern.2 _).1 _).1 ?_
  decide +kernel

end RoutePattern

end ConfigBrowser
