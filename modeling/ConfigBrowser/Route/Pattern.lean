import ConfigBrowser.Error
import ConfigBrowser.Route.Args
import ConfigBrowser.Route.Escape
import ConfigBrowser.Text.Split

/-!
# Route Patterns

A pattern is a list of segments between slashes:

* `configs` is a literal;
* `:id` and `:id?` are positional parameters, required and optional;
* `new:` and `name:?` are named parameters, required and optional, which a path writes as
  `key:value`.

Neighbouring named segments form a run, whose members may come in any order; matching takes a run
in one step. A positional parameter never takes a piece of the form `key:value`, so
`configs/deleted:` and `configs/42` do not get in each other's way.

## Main results

* `RoutePattern.parse_ne_nil`: a parsed pattern has segments.
-/

namespace ConfigBrowser

/-- A segment of a route pattern. -/
inductive Segment where
  | literal (text : String)
  | positional (key : String) (optional : Bool)
  | named (key : String) (optional : Bool)
deriving DecidableEq, Repr

/-- A route pattern with its source text. -/
structure RoutePattern where
  source : String
  segments : List Segment
deriving DecidableEq, Repr

namespace Route

/-- A character of a parameter's name. -/
def isKeyChar (c : Char) : Bool := ('a' ≤ c && c ≤ 'z') || ('0' ≤ c && c ≤ '9') || c == '_'

/-- Is the text a parameter's name? -/
def isKey (s : List Char) : Bool := s ≠ [] && s.all isKeyChar

/-- The key and the value of a piece `key:value`. -/
def splitNamed (piece : List Char) : Option (String × List Char) :=
  match Text.cut (· = ':') piece with
  | some (key, value) => if isKey key then some (String.ofList key, value) else none
  | none => none

/-- The non-empty pieces between the slashes of a text. -/
def piecesOf (s : List Char) : List (List Char) := (Text.splitOn '/' s).filter (· ≠ [])

/-- The pieces of a path. Hash signs in front of it do not count. -/
def pathPieces (path : String) : List (List Char) := piecesOf (path.toList.dropWhile (· = '#'))

/-- The segment that a token stands for, if it is well formed. -/
def readToken (token : List Char) : Option Segment :=
  match token with
  | ':' :: rest =>
    let optional := rest.getLast? = some '?'
    let key := if optional then rest.dropLast else rest
    if key = [] then none else some (.positional (String.ofList key) optional)
  | _ =>
    match Text.cut (· = ':') token with
    | some (key, mark) =>
      if isKey key && (mark = [] || mark = ['?']) then
        some (.named (String.ofList key) (mark = ['?']))
      else none
    | none => some (.literal (String.ofList token))

end Route

open Route

namespace RoutePattern

/-- The segments of a pattern's tokens. -/
def readTokens (source : String) : List (List Char) → Except Error (List Segment)
  | [] => .ok []
  | token :: rest =>
    match readToken token with
    | some segment => (readTokens source rest).map (segment :: ·)
    | none => .error (.config (.malformedToken (String.ofList token) source))

/-- Reads a pattern. -/
def parse (source : String) : Except Error RoutePattern :=
  match readTokens source (piecesOf source.toList) with
  | .ok [] => .error (.config (.emptyPattern source))
  | .ok segments => .ok ⟨source, segments⟩
  | .error e => .error e

/-- A pattern that was parsed has a segment, and keeps its source. -/
theorem parse_ne_nil {source : String} {p : RoutePattern} (h : parse source = .ok p) :
    p.segments ≠ [] ∧ p.source = source := by
  rw [parse] at h
  split at h
  · simp at h
  · next hne _ =>
    obtain rfl := Except.ok.inj h
    exact ⟨by simpa using hne, rfl⟩
  · simp at h

end RoutePattern

/-! ### Matching -/

namespace Route

/-- What matching looks for next: one piece, or the pieces of a whole run. -/
inductive Step where
  | literal (text : String)
  | positional (key : String) (optional : Bool)
  /-- A run of named parameters, each with its being optional. -/
  | run (parameters : List (String × Bool))
deriving DecidableEq, Repr

/-- The steps of a list of segments: each maximal run of named segments is one step. -/
def Step.ofSegments : List Segment → List Step
  | [] => []
  | .literal text :: rest => .literal text :: ofSegments rest
  | .positional key optional :: rest => .positional key optional :: ofSegments rest
  | .named key optional :: rest =>
    match ofSegments rest with
    | .run parameters :: steps => .run ((key, optional) :: parameters) :: steps
    | steps => .run [(key, optional)] :: steps

/-- Takes pieces that name parameters of a run, each at most once, and returns the pieces left. -/
def takeNamed (parameters : List (String × Bool)) (args : RouteArgs) :
    List (List Char) → RouteArgs × List (List Char)
  | [] => (args, [])
  | piece :: rest =>
    match splitNamed piece with
    | some (key, value) =>
      if parameters.any (·.1 = key) && !args.contains key then
        takeNamed parameters (args.set key (String.ofList (decode value))) rest
      else (args, piece :: rest)
    | none => (args, piece :: rest)

/-- Matches pieces against steps, adding what they bind to `args`. -/
def matchSteps : List Step → RouteArgs → List (List Char) → Option RouteArgs
  | [], args, pieces => if pieces = [] then some args else none
  | .literal text :: steps, args, pieces =>
    match pieces with
    | piece :: rest => if decode piece = text.toList then matchSteps steps args rest else none
    | [] => none
  | .positional key optional :: steps, args, pieces =>
    match pieces with
    | piece :: rest =>
      if (splitNamed piece).isNone then
        matchSteps steps (args.set key (String.ofList (decode piece))) rest
      else if optional then matchSteps steps args pieces
      else none
    | [] => if optional then matchSteps steps args [] else none
  | .run parameters :: steps, args, pieces =>
    let (args, rest) := takeNamed parameters args pieces
    if parameters.all fun (key, optional) => optional || args.contains key then
      matchSteps steps args rest
    else none

end Route

namespace RoutePattern

/-- The arguments of a path, if it fits the pattern. -/
def match? (p : RoutePattern) (path : String) : Option RouteArgs :=
  matchSteps (Step.ofSegments p.segments) .empty (pathPieces path)

/-! ### Rendering -/

/-- The piece that a segment becomes: none for an optional parameter without an argument. An
empty positional argument counts as absent, and a required named parameter is written without its
value. -/
def renderSegment (rule : String) (args : RouteArgs) :
    Segment → Except Error (Option (List Char))
  | .literal text => .ok (some (encode text.toList))
  | .positional key optional =>
    match (args.get? key).filter (· ≠ "") with
    | some value => .ok (some (encode value.toList))
    | none => if optional then .ok none else .error (.missingArgument rule key)
  | .named key optional =>
    match args.get? key with
    | some value =>
      .ok (some (key.toList ++ ':' :: if optional then encode value.toList else []))
    | none => if optional then .ok none else .error (.missingArgument rule key)

/-- The pieces of a path that the segments become. -/
def renderSegments (rule : String) (args : RouteArgs) :
    List Segment → Except Error (List (List Char))
  | [] => .ok []
  | segment :: rest =>
    match renderSegment rule args segment with
    | .error e => .error e
    | .ok piece => (renderSegments rule args rest).map (piece.toList ++ ·)

/-- The path of a pattern with the given arguments. Arguments that it does not name are left
out. -/
def render (p : RoutePattern) (rule : String) (args : RouteArgs) : Except Error String :=
  (renderSegments rule args p.segments).map fun pieces => String.ofList (['/'].intercalate pieces)

end RoutePattern

end ConfigBrowser
