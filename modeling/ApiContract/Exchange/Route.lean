/-
# Routes

The template of a path is made of characters and parameters.  A parameter takes the
characters up to the next slash, less what the template has after it there; one marked
with a star takes all the rest.  Characters of a template go before parameters.
-/
import ApiContract.Exchange.RouteFault
import ApiContract.Text.Pieces

namespace ApiContract

/-! ## Templates -/

/-- A part of the template of a path. -/
inductive RoutePart where
  /-- A character. -/
  | char (c : Char)
  /-- A parameter inside a segment. -/
  | parameter
  /-- A parameter for all the rest. -/
  | rest
deriving DecidableEq, Repr

/-- The template of a path. -/
structure RouteTemplate where
  /-- The parts. -/
  parts : List RoutePart
  /-- The names of the parameters, in order. -/
  names : List String
deriving DecidableEq, Repr

namespace RouteTemplate

/-- The characters of a template; doubled braces stand for themselves, and it is noted of
each character whether it was doubled. -/
def unescape : List Char → List (Char × Bool)
  | '{' :: '{' :: cs => ('{', true) :: unescape cs
  | '}' :: '}' :: cs => ('}', true) :: unescape cs
  | c :: cs => (c, false) :: unescape cs
  | [] => []

/-- The name of a parameter after its second character, up to the closing brace. -/
def name? : List (Char × Bool) → Option (List Char × List (Char × Bool))
  | [] => none
  | ('}', false) :: cs => some ([], cs)
  | (c, _) :: cs =>
    if c = '*' ∨ c = '/' then none
    else (name? cs).map fun (name, rest) => (c :: name, rest)

/-- A parameter after its opening brace. -/
def parameter? : List (Char × Bool) → Option (RoutePart × String × List (Char × Bool))
  | [] => none
  | (c, _) :: cs =>
    if c = '}' then none
    else
      match name? cs with
      | none => none
      | some (name, after) =>
        if c ≠ '*' then some (.parameter, String.ofList (c :: name), after)
        else if name = [] then none
        else some (.rest, String.ofList name, after)

/-- The template that characters denote; the number bounds how many there are. -/
def ofChars? : Nat → List (Char × Bool) → Option RouteTemplate
  | _, [] => some ⟨[], []⟩
  | 0, _ => none
  | n + 1, (c, escaped) :: cs =>
    if c = '{' ∧ !escaped then
      match parameter? cs with
      | none => none
      | some (part, name, after) =>
        (ofChars? n after).map fun t => ⟨part :: t.parts, name :: t.names⟩
    else if c = '}' ∧ !escaped then none
    else (ofChars? n cs).map fun t => ⟨.char c :: t.parts, t.names⟩

/-- The template that a text denotes. -/
def ofText? (text : String) : Option RouteTemplate :=
  let cs := unescape text.toList
  ofChars? cs.length cs

/-! ## Conflicts -/

/-- The parts of a template between slashes. -/
def segments : List RoutePart → List (List RoutePart)
  | [] => [[]]
  | part :: parts =>
    if part = .char '/' then [] :: segments parts
    else
      match segments parts with
      | [] => [[part]]
      | segment :: more => (part :: segment) :: more

/-- Whether a part is a parameter. -/
def isWild (part : RoutePart) : Bool :=
  part = .parameter || part = .rest

/-- A segment with a parameter: what stands before it, the parameter, what stands after. -/
def cutSegment? (segment : List RoutePart) :
    Option (List RoutePart × RoutePart × List RoutePart) :=
  match segment.dropWhile (fun part => !isWild part) with
  | [] => none
  | part :: after => some (segment.takeWhile fun part => !isWild part, part, after)

/-- Whether two segments with parameters cannot stand in the same place; the second one is
the newer one. -/
def segmentsClash (old new : List RoutePart) : Bool :=
  match cutSegment? old, cutSegment? new with
  | some (before, part, after), some (before', part', after') =>
    if before = before' then
      part ≠ part' || (before ≠ [] && after' ≠ [] && after ≠ after')
    else (after ≠ [] && before' ≠ []) || (after' ≠ [] && before ≠ [])
  | _, _ => false

/-- Whether a template conflicts with an older one: they are the same up to names, or
clash in the first segment that is not the same. -/
def clash : List (List RoutePart) → List (List RoutePart) → Bool
  | [], [] => true
  | old :: olds, new :: news => if old = new then clash olds news else segmentsClash old new
  | _, _ => false

/-- Whether a segment has two parameters. -/
def isCrowded (segment : List RoutePart) : Bool :=
  1 < segment.countP isWild

end RouteTemplate

/-! ## The table -/

/-- A route: a template and what it leads to. -/
structure Route (α : Type) where
  /-- The template. -/
  template : RouteTemplate
  /-- What it leads to. -/
  target : α

/-- The routes of an interface. -/
abbrev Routes (α : Type) := List (Route α)

namespace Routes

variable {α : Type}

/-- The routes with one more. -/
def add (routes : Routes α) (path : String) (target : α) : Except RouteFault (Routes α) :=
  match RouteTemplate.ofText? path with
  | none => .error .invalidName
  | some template =>
    let segments := RouteTemplate.segments template.parts
    if routes.any fun route =>
        RouteTemplate.clash (RouteTemplate.segments route.template.parts) segments then
      .error .conflict
    else if segments.any RouteTemplate.isCrowded then .error .tooManyParameters
    else if template.parts.dropLast.contains .rest then .error .restNotLast
    else .ok (routes ++ [⟨template, target⟩])

/-! ## Matching -/

/-- What is left of a route: the parts still to come, and the route. -/
abbrev Rest (α : Type) := List RoutePart × Route α

/-- The routes that go on with a part. -/
def after (part : RoutePart) (rests : List (Rest α)) : List (Rest α) :=
  rests.filterMap fun (parts, route) =>
    match parts with
    | [] => none
    | p :: parts => if p = part then some (parts, route) else none

/-- The route that ends here. -/
def ended (rests : List (Rest α)) : Option (Route α) :=
  (rests.find? fun (parts, _) => parts.isEmpty).map Prod.snd

/-- What a route has after a parameter up to and with the next slash, and the rest. -/
def suffix : List RoutePart → List Char × List RoutePart
  | .char c :: parts =>
    if c = '/' then ([c], parts)
    else
      let (cs, parts) := suffix parts
      (c :: cs, parts)
  | parts => ([], parts)

/-- The suffixes after a parameter, the longest ones first. -/
def suffixes (rests : List (Rest α)) : List (List Char) :=
  let all := (rests.map fun (parts, _) => (suffix parts).1).filter (· ≠ [])
  all.eraseDups.mergeSort fun s t => decide (t.length ≤ s.length)

/-- The routes that have a suffix after a parameter. -/
def withSuffix (cs : List Char) (rests : List (Rest α)) : List (Rest α) :=
  rests.filterMap fun (parts, route) =>
    if (suffix parts).1 = cs then some ((suffix parts).2, route) else none

/-- The value of a parameter before a suffix; it is not empty. -/
def before? (segment cs : List Char) : Option (List Char) :=
  (Text.dropSuffix? cs segment).filter (· ≠ [])

/-- The route of a path with the values of its parameters; the number bounds the length of
the path.  A parameter takes the first suffix that fits and does not come back to it. -/
def search : Nat → List (Rest α) → List Char → Option (Route α × List (List Char))
  | 0, _, _ => none
  | n + 1, rests, path =>
    match path with
    | [] => (ended rests).map (·, [])
    | c :: cs =>
      let byChar :=
        match after (.char c) rests with
        | [] => none
        | rests => search n rests cs
      match byChar with
      | some found => some found
      | none =>
        match after .rest rests with
        | (_, route) :: _ => some (route, [path])
        | [] =>
          let rests := after .parameter rests
          let hasSlash := path.contains '/'
          let segment := path.takeWhile (· ≠ '/') ++ if hasSlash then ['/'] else []
          match (suffixes rests).filterMap fun cs => (before? segment cs).map (·, cs) with
          | (value, cs) :: _ =>
            (search n (withSuffix cs rests) (path.drop (value.length + cs.length))).map
              fun (route, values) => (route, value :: values)
          | [] => if hasSlash then none else (ended rests).map (·, [path])

/-- The route of a path and the parameters that it takes from it. -/
def find? (routes : Routes α) (path : String) : Option (α × List (String × List Char)) :=
  let cs := path.toList
  (search (cs.length + 1) (routes.map fun route => (route.template.parts, route)) cs).map
    fun (route, values) => (route.target, route.template.names.zip values)

end Routes

end ApiContract
