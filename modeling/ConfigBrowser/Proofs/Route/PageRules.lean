import ConfigBrowser.Proofs.Route.Matching
import ConfigBrowser.Route.Handler

/-!
# The Rules of a Page

A page whose name holds no colon has six rules, one for each handler: the words of the page's name
followed by the handler's own segments. What a rule looks for behind the words are the steps of its
handler.

## Main results

* `pageTable_eq`: the route table of a page without a colon in its name.
* `Handler.rule_eq`: the rule of each handler.
-/

namespace ConfigBrowser

open Route

/-! ### Segments and parameters of a handler -/

/-- The parameter that a segment names. -/
def Segment.key? : Segment → Option String
  | literal _ => none
  | positional key _ => some key
  | named key _ => some key

namespace Handler

/-- The segments that search the list by name and type. -/
def listSegments : List Segment :=
  [.named RouteArgs.nameKey true, .named RouteArgs.typeKey true]

/-- The segments of a handler behind the words of the page. -/
def segments : Handler → List Segment
  | load => listSegments
  | loadFilter => .named Flag.filter.key false :: .positional RouteArgs.idKey true :: listSegments
  | loadDelete => .named Flag.deleted.key false :: listSegments
  | loadConfigs => .positional RouteArgs.idKey false :: listSegments
  | loadNewConfigs => .positional RouteArgs.idKey false :: .named Flag.new.key false :: listSegments
  | loadEditConfigs =>
    .positional RouteArgs.idKey false :: .named Flag.edit.key false :: listSegments

/-- The parameters that a handler's pattern names. -/
def keys (h : Handler) : List String := h.segments.filterMap Segment.key?

/-- The flag that a handler's pattern requires. -/
def flag? : Handler → Option Flag
  | load => none
  | loadFilter => some .filter
  | loadDelete => some .deleted
  | loadConfigs => none
  | loadNewConfigs => some .new
  | loadEditConfigs => some .edit

/-- Does the handler's pattern require an id? -/
def requiresId : Handler → Bool
  | loadConfigs | loadNewConfigs | loadEditConfigs => true
  | _ => false

/-- The words of a page's name. -/
def pageWords (page : String) : List (List Char) := piecesOf page.toList

/-- The rule of a handler on a page whose name holds no colon. -/
def pageRule (page : String) (h : Handler) : RouteRule Handler :=
  { name := h.name
    pattern :=
      { source := h.patternSource page
        segments := (pageWords page).map (fun w => .literal (String.ofList w)) ++ h.segments }
    handler := h }

/-- Every handler is among the six. -/
theorem mem_all (h : Handler) : h ∈ all := by
  cases h <;> decide

/-- The pattern of a handler behind the page's name is read as its segments. -/
theorem readTokens_suffix (source : String) (h : Handler) :
    RoutePattern.readTokens source (piecesOf h.suffix.toList) = .ok h.segments := by
  cases h <;> rfl

end Handler

/-- Words without colons are read as literals. -/
theorem RoutePattern.readTokens_append {source : String} {words tokens : List (List Char)}
    {segments : List Segment} (hwords : ∀ w ∈ words, ':' ∉ w)
    (h : readTokens source tokens = .ok segments) :
    readTokens source (words ++ tokens) =
      .ok (words.map (fun w => Segment.literal (String.ofList w)) ++ segments) := by
  induction words with
  | nil => simpa using h
  | cons word words ih =>
      have hword : ':' ∉ word := hwords word List.mem_cons_self
      have hcut : Text.cut (· = ':') word = none :=
        Text.cut_eq_none fun x hx => by
          simpa using fun hxc : x = ':' => hword (hxc ▸ hx)
      have htoken : readToken word = some (.literal (String.ofList word)) := by
        rw [readToken.eq_def]
        split
        · simp at hword
        · rw [hcut]
      rw [List.cons_append, readTokens, htoken]
      simp only [ih fun w hw => hwords w (List.mem_cons_of_mem _ hw)]
      rfl

/-- The tokens of a handler's pattern are the words of the page and those of the suffix. -/
theorem Handler.piecesOf_patternSource (page : String) (h : Handler) :
    piecesOf (h.patternSource page).toList = pageWords page ++ piecesOf h.suffix.toList := by
  have hsource : (h.patternSource page).toList =
      '/' :: (page.toList ++ '/' :: h.suffix.toList) := by
    simp [patternSource, String.toList_append]
  rw [hsource, piecesOf_slash_cons, piecesOf_append_slash]
  rfl

section Page

variable {page : String} (hpage : ':' ∉ page.toList)
include hpage

/-- On a page without a colon in its name, the rule of a handler is the one it should have. -/
theorem Handler.rule_eq (h : Handler) : h.rule page = .ok (h.pageRule page) := by
  have hwords : ∀ w ∈ pageWords page, ':' ∉ w :=
    fun w hw hmem => hpage (mem_of_mem_piecesOf hw hmem)
  have htokens := RoutePattern.readTokens_append hwords
    (readTokens_suffix (h.patternSource page) h)
  have hne : ∃ s ss, (pageWords page).map (fun w => Segment.literal (String.ofList w)) ++
      h.segments = s :: ss := by
    refine List.exists_cons_of_ne_nil fun hnil => ?_
    cases h <;> simp [segments, listSegments] at hnil
  obtain ⟨s, ss, hcons⟩ := hne
  rw [rule, RoutePattern.parse, piecesOf_patternSource, htokens, pageRule, hcons]
  rfl

/-- The route table of a page whose name holds no colon. -/
theorem pageTable_eq : pageTable page = .ok ⟨Handler.all.map (Handler.pageRule page)⟩ := by
  have hrules : ∀ hs : List Handler, pageRules page hs = .ok (hs.map (Handler.pageRule page)) := by
    intro hs
    induction hs with
    | nil => rfl
    | cons h rest ih => rw [pageRules, Handler.rule_eq hpage h]; simp only [ih]; rfl
  rw [pageTable, hrules]
  rfl

end Page

/-! ### What a handler's steps fit -/

/-- Literals are steps of their own. -/
theorem Route.Step.ofSegments_literals (words : List (List Char)) (segments : List Segment) :
    Step.ofSegments (words.map (fun w => Segment.literal (String.ofList w)) ++ segments) =
      words.map (fun w => Step.literal (String.ofList w)) ++ Step.ofSegments segments := by
  induction words with
  | nil => rfl
  | cons word words ih =>
      rw [List.map_cons, List.cons_append, Step.ofSegments, ih]
      rfl

namespace Handler

/-- The steps of a handler behind the words of the page. -/
def steps (h : Handler) : List Step := Step.ofSegments h.segments

/-- The parameters of the list: both may be left out. -/
def listParameters : List (String × Bool) := [(RouteArgs.nameKey, true), (RouteArgs.typeKey, true)]

/-- The list may be narrowed by name and type. -/
theorem steps_load : load.steps = [.run listParameters] := rfl

/-- The filtered list has its flag in front, and an id may follow. -/
theorem steps_loadFilter : loadFilter.steps =
    [.run [(Flag.filter.key, false)], .positional RouteArgs.idKey true, .run listParameters] := rfl

/-- The route that tells of a deletion has its flag among the parameters of the list. -/
theorem steps_loadDelete :
    loadDelete.steps = [.run ((Flag.deleted.key, false) :: listParameters)] := rfl

/-- An entity has its id in front. -/
theorem steps_loadConfigs :
    loadConfigs.steps = [.positional RouteArgs.idKey false, .run listParameters] := rfl

/-- A new entity has its flag behind the id, among the parameters. -/
theorem steps_loadNewConfigs : loadNewConfigs.steps =
    [.positional RouteArgs.idKey false, .run ((Flag.new.key, false) :: listParameters)] := rfl

/-- An entity to be edited has its flag behind the id, among the parameters. -/
theorem steps_loadEditConfigs : loadEditConfigs.steps =
    [.positional RouteArgs.idKey false, .run ((Flag.edit.key, false) :: listParameters)] := rfl

/-- Behind the words of the page a handler has no literals. -/
theorem literal_not_mem_steps (h : Handler) (text : String) : Step.literal text ∉ h.steps := by
  cases h <;> simp [steps, segments, listSegments, Step.ofSegments]

/-- The runs of a handler have parameters that its pattern names. -/
theorem mem_keys_of_run_mem_steps {h : Handler} {parameters : List (String × Bool)} {key : String}
    (hrun : Step.run parameters ∈ h.steps) (hkey : key ∈ parameters.map Prod.fst) :
    key ∈ h.keys := by
  cases h <;> simp [steps, segments, listSegments, Step.ofSegments] at hrun <;> try subst hrun
  case loadFilter =>
    rcases hrun with rfl | rfl <;> revert key <;> decide
  all_goals revert key; decide

/-- The handler that the names of the pieces behind a page's words tell. A piece without a name in
front is an id. -/
def ofNames : List (Option String) → Handler
  | none :: rest =>
    if some Flag.new.key ∈ rest then loadNewConfigs
    else if some Flag.edit.key ∈ rest then loadEditConfigs
    else loadConfigs
  | names =>
    if names.head? = some (some Flag.filter.key) then loadFilter
    else if some Flag.deleted.key ∈ names then loadDelete
    else load

/-- What is known of the arguments that a path resolved to: the pattern names them, its required
parameters are there, and an id is neither empty nor of the form `key:value`. -/
structure Admits (h : Handler) (args : RouteArgs) : Prop where
  mem_keys : ∀ key, args.contains key = true → key ∈ h.keys
  flag : ∀ flag, h.flag? = some flag → args.hasFlag flag = true
  id : ∀ id, args.get? RouteArgs.idKey = some id → id ≠ "" ∧ ¬ IsNamedForm id.toList
  requiresId : h.requiresId = true → args.contains RouteArgs.idKey = true

end Handler

end ConfigBrowser
