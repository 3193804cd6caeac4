/-
# The table of operations

The table that is built from a description has one route for each path that is declared with an
operation, in the order of the description; a path that refers to another place is left out.  The
operations of a route are those that are declared for its path.  Their parameters are listed by the
path and by the operation, of which the operation goes before.
-/
import ApiContract.Api
import ApiContract.Proofs.Exchange.Route
import ApiContract.Proofs.Parameter.Override
import ApiContract.Proofs.Walk.Result

namespace ApiContract

/-! ## Parameters of operations -/

namespace Operation

variable {store : Store}

/-- The parameter of a declaration, which is followed to the component that it refers to. -/
def readParameter (store : Store) (declaration : Value) : Except SchemaError Parameter := do
  Parameter.ofDeclaration (← Component.parameter.resolve store declaration)

/-- The parameters of a list of declarations. -/
def listed (store : Store) : Option Value → Except SchemaError (List Parameter)
  | none => .ok []
  | some (.array declarations) => declarations.mapM (readParameter store)
  | some _ => .error (.malformed "parameters must be an array")

lemma addParameters_array (store : Store) (before : Parameters) (declarations : List Value) :
    addParameters store before (.array declarations) =
      (fun ps => ps.foldl (fun ps p => ps.add p) before) <$>
        declarations.mapM (readParameter store) := by
  rw [addParameters]
  induction declarations generalizing before with
  | nil => rfl
  | cons declaration declarations ih =>
    rw [List.foldlM_cons, List.mapM_cons, readParameter]
    rcases Component.parameter.resolve store declaration with e | w
    · rfl
    change (Parameter.ofDeclaration w >>= _) >>= _ = _ <$> (Parameter.ofDeclaration w >>= _)
    rcases Parameter.ofDeclaration w with e | p
    · rfl
    · refine (ih (before.add p)).trans ?_
      rcases declarations.mapM (readParameter store) with e | ps <;> rfl

lemma addParameters_eq (store : Store) (before : Parameters) (list : Value) :
    addParameters store before list =
      (fun ps => ps.foldl (fun ps p => ps.add p) before) <$> listed store (some list) := by
  cases list with
  | array declarations => exact addParameters_array store before declarations
  | _ => rfl

/-- The parameters of several lists are those of one list after another. -/
lemma parametersOf_eq (store : Store) (lists : List (Option Value)) :
    parametersOf store lists =
      (fun declared => Parameters.ofList declared.flatten) <$> lists.mapM (listed store) := by
  unfold parametersOf Parameters.ofList
  generalize ([] : Parameters) = before
  induction lists generalizing before with
  | nil => rfl
  | cons list lists ih =>
    rw [List.mapM_cons]
    cases list with
    | none =>
      refine (ih before).trans ?_
      rcases lists.mapM (listed store) with e | declared <;> rfl
    | some list =>
      change addParameters store before list >>= _ = _
      rw [addParameters_eq]
      rcases listed store (some list) with e | ps
      · rfl
      · refine (ih _).trans ?_
        rcases lists.mapM (listed store) with e | declared
        · rfl
        · exact congrArg Except.ok (List.foldl_append ..).symm

/-- The parameters of an operation are those that its path and the operation list, of which the
operation goes before. -/
lemma overrides_of_ofDeclaration {item declaration : Value} {op : Operation}
    (h : ofDeclaration store item declaration = .ok op) :
    ∃ earlier later, listed store (item.get? "parameters") = .ok earlier ∧
      listed store (declaration.get? "parameters") = .ok later ∧
      Parameters.Overrides earlier later op.parameters := by
  obtain ⟨ps, hps, h⟩ := Except.bind_eq_ok_iff.1 h
  obtain ⟨body, -, h⟩ := Except.bind_eq_ok_iff.1 h
  obtain ⟨responses, -, h⟩ := Except.bind_eq_ok_iff.1 h
  cases h
  rw [parametersOf_eq] at hps
  obtain ⟨declared, hdeclared, rfl⟩ := Except.map_eq_ok_iff.1 hps
  obtain _ | ⟨hearlier, _ | ⟨hlater, _ | _⟩⟩ := Except.mapM_eq_ok_iff.1 hdeclared
  refine ⟨_, _, hearlier, hlater, ?_⟩
  simpa using Parameters.overrides_ofList _ _

end Operation

namespace Api

variable {store : Store} {document item : Value} {path : String} {m : Method}
  {warnings : List Warning} {routes : Routes Operations} {api api' : Api}
  {items entries : List (String × Value)}

/-! ## Building -/

/-- The result of building something after some warnings. -/
def Builder.result {α : Type} (builder : Builder α) (warnings : List Warning) : Except Failure α :=
  (builder.run.run warnings).1

lemma Builder.result_bind_ok {α β : Type} {builder : Builder α} {f : α → Builder β} {b : β}
    (h : Builder.result (builder >>= f) warnings = .ok b) :
    ∃ a warnings', Builder.result builder warnings = .ok a ∧
      Builder.result (f a) warnings' = .ok b := by
  unfold Builder.result at *
  rw [ExceptT.run_bind] at h
  simp only [StateT.run_bind] at h
  revert h
  rcases builder.run.run warnings with ⟨_ | a, warnings'⟩
  · intro h
    cases h
  · exact fun h => ⟨a, warnings', rfl, h⟩

/-- The methods that a path is declared with, if it refers to no other place. -/
def methodsOf (item : Value) : List Method :=
  if (item.get? "$ref").isSome then [] else Method.all.filter fun m => (item.get? m.key).isSome

lemma mem_methodsOf_iff :
    m ∈ methodsOf item ↔
      item.get? "$ref" = none ∧ ∃ declaration, item.get? m.key = some declaration := by
  have hall : m ∈ Method.all := by cases m <;> decide
  rw [methodsOf]
  split
  · rename_i href
    exact iff_of_false List.not_mem_nil fun h => by simp [h.1] at href
  · rename_i href
    rw [Option.not_isSome_iff_eq_none] at href
    simp [hall, href, Option.isSome_iff_exists]

lemma nodup_methodsOf (item : Value) : (methodsOf item).Nodup := by
  rw [methodsOf]
  split
  · exact List.nodup_nil
  · exact List.Nodup.filter _ (by decide)

/-- A route is built from a path and its declaration. -/
structure IsRouteOf (store : Store) (entry : String × Value) (route : Route Operations) :
    Prop where
  /-- The path is the text of the template. -/
  template : RouteTemplate.ofText? entry.1 = some route.template
  /-- There is an operation for each method that is declared. -/
  methods : route.target.map Prod.fst = methodsOf entry.2
  /-- Each operation is what is declared for its method. -/
  operations : ∀ m op, (m, op) ∈ route.target → ∃ declaration,
    entry.2.get? m.key = some declaration ∧
      Operation.ofDeclaration store entry.2 declaration = .ok op

lemma operationsOf_ok {ms : List Method} {operations : Operations}
    (h : Builder.result (operationsOf store path item ms) warnings = .ok operations) :
    operations.map Prod.fst = ms.filter (fun m => (item.get? m.key).isSome) ∧
      ∀ m op, (m, op) ∈ operations → ∃ declaration, item.get? m.key = some declaration ∧
        Operation.ofDeclaration store item declaration = .ok op := by
  induction ms generalizing operations warnings with
  | nil =>
    cases h
    exact ⟨rfl, fun _ _ hmem => absurd hmem List.not_mem_nil⟩
  | cons m ms ih =>
    rw [operationsOf] at h
    split at h
    · rename_i hm
      rw [List.filter_cons_of_neg (by simp [hm])]
      exact ih h
    rename_i declaration hm
    split at h
    · rename_i op hop
      obtain ⟨later, warnings', hlater, h⟩ := Builder.result_bind_ok h
      cases h
      obtain ⟨hkeys, hoperations⟩ := ih hlater
      refine ⟨?_, fun m' op' hmem => ?_⟩
      · rw [List.filter_cons_of_pos (by simp [hm]), List.map_cons, hkeys]
      · rcases List.mem_cons.1 hmem with heq | hmem
        · cases heq
          exact ⟨declaration, hm, hop⟩
        · exact hoperations m' op' hmem
    · obtain ⟨_, _, -, h⟩ := Builder.result_bind_ok h
      cases h

/-- Operations are added with a route of their own, and each of them counts. -/
lemma addOperations_eq_ok_iff {operations : Operations} :
    api.addOperations path operations = .ok api' ↔
      ∃ routes, api.routes.add path operations = .ok routes ∧
        api' = { api with routes, operationCount := api.operationCount + operations.length } := by
  rw [addOperations]
  rcases api.routes.add path operations with fault | routes
  · simp
  · simp [eq_comm]

/-- What adding the operations of a path keeps is kept while those of all paths are added. -/
lemma addPaths_induction {P : Api → Prop}
    (hadd : ∀ api api' path operations, P api → api.addOperations path operations = .ok api' →
      P api')
    (h : Builder.result (addPaths store items api) warnings = .ok api') (hapi : P api) :
    P api' := by
  induction items generalizing api warnings with
  | nil =>
    cases h
    exact hapi
  | cons entry items ih =>
    obtain ⟨path, item⟩ := entry
    rw [addPaths] at h
    split at h
    · obtain ⟨_, _, -, h⟩ := Builder.result_bind_ok h
      exact ih h hapi
    · obtain ⟨operations, _, -, h⟩ := Builder.result_bind_ok h
      split at h
      · exact ih h hapi
      · split at h
        · rename_i hadded
          exact ih h (hadd _ _ _ _ hapi hadded)
        · cases h

/-- What adding a route keeps is kept by the routes while the operations of all paths are added. -/
lemma routes_induction {P : Routes Operations → Prop}
    (hadd : ∀ routes routes' path target, P routes → routes.add path target = .ok routes' →
      P routes')
    (h : Builder.result (addPaths store items api) warnings = .ok api') (hroutes : P api.routes) :
    P api'.routes := by
  refine addPaths_induction (P := fun api => P api.routes) (fun api _ path operations hapi h => ?_)
    h hroutes
  obtain ⟨routes, hroutes, rfl⟩ := addOperations_eq_ok_iff.1 h
  exact hadd _ _ _ _ hapi hroutes

/-- There is one route for each path that is declared with a method. -/
lemma exists_of_addPaths (h : Builder.result (addPaths store items api) warnings = .ok api') :
    ∃ added, api'.routes = api.routes ++ added ∧
      List.Forall₂ (IsRouteOf store) (items.filter fun entry => methodsOf entry.2 ≠ []) added := by
  induction items generalizing api warnings with
  | nil =>
    cases h
    exact ⟨[], by simp, .nil⟩
  | cons entry items ih =>
    obtain ⟨path, item⟩ := entry
    rw [addPaths] at h
    split at h
    · rename_i reference href
      obtain ⟨_, _, -, h⟩ := Builder.result_bind_ok h
      rw [List.filter_cons_of_neg (by simp [methodsOf, href])]
      exact ih h
    rename_i href
    obtain ⟨operations, _, hoperations, h⟩ := Builder.result_bind_ok h
    obtain ⟨hkeys, hdeclared⟩ := operationsOf_ok hoperations
    have hmethods : operations.map Prod.fst = methodsOf item := by
      rw [hkeys, methodsOf, if_neg (by simp [href])]
    split at h
    · rename_i hempty
      rw [List.isEmpty_iff] at hempty
      rw [List.filter_cons_of_neg (by simp [← hmethods, hempty])]
      exact ih h
    rename_i hsome
    rw [List.isEmpty_iff] at hsome
    split at h
    · rename_i hadd
      obtain ⟨_, hroute, rfl⟩ := addOperations_eq_ok_iff.1 hadd
      obtain ⟨template, htemplate, rfl, -⟩ := Routes.exists_of_add hroute
      obtain ⟨added, hadded, hroutes⟩ := ih h
      refine ⟨⟨template, operations⟩ :: added, by simpa using hadded, ?_⟩
      rw [List.filter_cons_of_pos (by simpa [← hmethods] using hsome)]
      exact .cons ⟨htemplate, hmethods, hdeclared⟩ hroutes
    · cases h

/-- The declarations of the paths of a description. -/
def declaredPaths (document : Value) : List (String × Value) :=
  ((document.get? "paths").bind Value.object?).getD []

/-- A table mirrors a list of paths: it has one route for each path that is declared with a method,
and all of its templates are different and tidy. -/
structure Mirrors (store : Store) (items : List (String × Value)) (routes : Routes Operations) :
    Prop where
  built : List.Forall₂ (IsRouteOf store) (items.filter fun entry => methodsOf entry.2 ≠ []) routes
  apart : routes.AreApart
  tidy : routes.AreTidy

/-- The table of an interface mirrors its description. -/
theorem mirrors_of_ofDocument {config : Config} {api : Api}
    (h : (ofDocument document config).1 = .ok api) :
    Mirrors (.ofRoot "" document) (declaredPaths document) api.routes := by
  change Builder.result (build document config) [] = .ok api at h
  rw [build] at h
  split at h
  · rename_i hnone
    obtain ⟨_, _, -, h⟩ := Builder.result_bind_ok h
    cases h
    rw [declaredPaths, hnone]
    exact ⟨.nil, List.nodup_nil, fun _ hroute => absurd hroute List.not_mem_nil⟩
  · rename_i items hitems
    obtain ⟨added, hroutes, hadded⟩ := exists_of_addPaths h
    obtain rfl : api.routes = added := hroutes
    rw [declaredPaths, hitems]
    refine ⟨hadded, ?_, ?_⟩
    · exact routes_induction (fun _ _ _ _ hapart hadd => Routes.areApart_add hadd hapart) h
        List.nodup_nil
    · exact routes_induction (fun _ _ _ _ htidy hadd => Routes.areTidy_add hadd htidy) h
        fun _ hroute => absurd hroute List.not_mem_nil

/-- The counter says how many operations the routes have. -/
def CountsOperations (api : Api) : Prop :=
  api.operationCount = (api.routes.flatMap Route.target).length

/-- An interface that is built from its description has counted its operations. -/
theorem countsOperations_of_ofDocument {config : Config} {api : Api}
    (h : (ofDocument document config).1 = .ok api) : api.CountsOperations := by
  change Builder.result (build document config) [] = .ok api at h
  rw [build] at h
  split at h
  · obtain ⟨_, _, -, h⟩ := Builder.result_bind_ok h
    cases h
    rfl
  · refine addPaths_induction (fun api api' path operations hcounts h => ?_) h rfl
    obtain ⟨_, hadd, rfl⟩ := addOperations_eq_ok_iff.1 h
    obtain ⟨template, -, rfl, -⟩ := Routes.exists_of_add hadd
    rw [CountsOperations] at hcounts
    simp [CountsOperations, hcounts]

/-- An interface that is built from its description has tidy templates only. -/
theorem areTidy_ofDocument {config : Config} {api : Api}
    (h : (ofDocument document config).1 = .ok api) : api.routes.AreTidy :=
  (mirrors_of_ofDocument h).tidy

/-! ## What is declared -/

/-- A description declares an operation for a path and a method: the declaration of the path refers
to no other place and has the key of the method. -/
def Declares (document : Value) (path : String) (item : Value) (m : Method) (declaration : Value) :
    Prop :=
  (path, item) ∈ declaredPaths document ∧ item.get? "$ref" = none ∧
    item.get? m.key = some declaration

/-- An interface has an operation for a path, as it is written in the description, and a method. -/
def Registers (api : Api) (path : String) (m : Method) (op : Operation) : Prop :=
  ∃ route ∈ api.routes, RouteTemplate.ofText? path = some route.template ∧
    route.target.lookup m = some op

/-- The paths with the methods that they are declared with. -/
def pairsOf (entries : List (String × Value)) : List (String × Method) :=
  entries.flatMap fun entry => (methodsOf entry.2).map fun m => (entry.1, m)

lemma mem_pairsOf_iff :
    (path, m) ∈ pairsOf entries ↔ ∃ item, (path, item) ∈ entries ∧ m ∈ methodsOf item := by
  rw [pairsOf, List.mem_flatMap]
  constructor
  · rintro ⟨⟨path', item⟩, hentry, hpair⟩
    obtain ⟨m', hm, heq⟩ := List.mem_map.1 hpair
    cases heq
    exact ⟨item, hentry, hm⟩
  · rintro ⟨item, hentry, hm⟩
    exact ⟨(path, item), hentry, List.mem_map.2 ⟨m, hm, rfl⟩⟩

lemma nodup_pairsOf (h : (entries.map Prod.fst).Nodup) : (pairsOf entries).Nodup := by
  rw [pairsOf, List.nodup_flatMap]
  refine ⟨fun entry _ => (nodup_methodsOf entry.2).map fun _ _ heq => (Prod.mk.inj heq).2, ?_⟩
  refine (List.pairwise_map.1 h).imp fun hne => ?_
  refine List.disjoint_left.2 fun pair hpair hpair' => ?_
  obtain ⟨_, -, rfl⟩ := List.mem_map.1 hpair
  obtain ⟨_, -, heq⟩ := List.mem_map.1 hpair'
  exact hne (Prod.mk.inj heq).1.symm

lemma map_ofText? (h : List.Forall₂ (IsRouteOf store) entries routes) :
    (entries.map Prod.fst).map RouteTemplate.ofText? = (routes.map Route.template).map some := by
  induction h with
  | nil => rfl
  | cons hroute _ ih => rw [List.map_cons, List.map_cons, ih, hroute.template]; rfl

lemma length_pairsOf (h : List.Forall₂ (IsRouteOf store) entries routes) :
    (pairsOf entries).length = (routes.flatMap Route.target).length := by
  induction h with
  | nil => rfl
  | cons hroute _ ih =>
    rw [pairsOf, List.flatMap_cons, List.length_append, List.length_map, ← hroute.methods,
      List.length_map, ← pairsOf, ih, List.flatMap_cons, List.length_append]

lemma exists_declares_iff :
    (∃ declaration, Declares document path item m declaration) ↔
      (path, item) ∈ (declaredPaths document).filter (fun entry => methodsOf entry.2 ≠ []) ∧
        m ∈ methodsOf item := by
  rw [List.mem_filter, mem_methodsOf_iff]
  constructor
  · rintro ⟨declaration, hitem, href, hm⟩
    refine ⟨⟨hitem, ?_⟩, href, declaration, hm⟩
    simpa using List.ne_nil_of_mem (mem_methodsOf_iff.2 ⟨href, declaration, hm⟩)
  · rintro ⟨⟨hitem, -⟩, href, declaration, hm⟩
    exact ⟨declaration, hitem, href, hm⟩

/-- A route has an operation for each method that its path is declared with. -/
lemma IsRouteOf.exists_lookup {route : Route Operations} (h : IsRouteOf store (path, item) route)
    (hm : m ∈ methodsOf item) : ∃ op, route.target.lookup m = some op := by
  rw [← Option.ne_none_iff_exists', ne_eq, List.lookup_eq_none_iff]
  intro hnone
  rw [← h.methods] at hm
  obtain ⟨entry, hentry, rfl⟩ := List.mem_map.1 hm
  simpa using hnone entry hentry

lemma IsRouteOf.overrides {route : Route Operations} {op : Operation} {declaration : Value}
    (h : IsRouteOf store (path, item) route) (hdeclaration : item.get? m.key = some declaration)
    (hop : route.target.lookup m = some op) :
    ∃ earlier later, Operation.listed store (item.get? "parameters") = .ok earlier ∧
      Operation.listed store (declaration.get? "parameters") = .ok later ∧
      Parameters.Overrides earlier later op.parameters := by
  obtain ⟨before, after, htarget, -⟩ := List.lookup_eq_some_iff.1 hop
  obtain ⟨declaration', hdeclaration', hop⟩ := h.operations m op (by simp [htarget])
  obtain rfl := Option.some.inj (hdeclaration.symm.trans hdeclaration')
  exact Operation.overrides_of_ofDeclaration hop

/-- **The table of operations mirrors the description.**  There are as many operations as there are
pairs of a path and a method for which one is declared, and there is one for each of these pairs.
Its parameters are those that the path lists and those that the operation lists, each followed to
its component: there is one for each location and name, in the place of the first declaration and
as the last one says, so that what the operation lists goes before what the path lists. -/
theorem table_mirrors_description {config : Config} {api : Api}
    (h : (ofDocument document config).1 = .ok api) :
    (∃ pairs : List (String × Method), pairs.Nodup ∧
      (∀ path m, (path, m) ∈ pairs ↔
        ∃ item declaration, Declares document path item m declaration) ∧
      api.operationCount = pairs.length) ∧
    ∀ path item m declaration, Declares document path item m declaration →
      (∃ op, api.Registers path m op) ∧
      ∀ op, api.Registers path m op → ∃ earlier later,
        Operation.listed (.ofRoot "" document) (item.get? "parameters") = .ok earlier ∧
        Operation.listed (.ofRoot "" document) (declaration.get? "parameters") = .ok later ∧
        Parameters.Overrides earlier later op.parameters := by
  obtain ⟨hbuilt, hapart, -⟩ := mirrors_of_ofDocument h
  constructor
  · have hcount : api.operationCount = _ :=
      (countsOperations_of_ofDocument h).trans (length_pairsOf hbuilt).symm
    refine ⟨_, nodup_pairsOf ?_, fun path m => ?_, hcount⟩
    · -- Paths with different templates are different.
      refine List.Nodup.of_map RouteTemplate.ofText? ?_
      rw [map_ofText? hbuilt]
      exact hapart.map fun _ _ heq => Option.some.inj heq
    · simp only [mem_pairsOf_iff, exists_declares_iff]
  · intro path item m declaration hdeclares
    obtain ⟨hentry, hm⟩ := exists_declares_iff.1 ⟨declaration, hdeclares⟩
    obtain ⟨route, hroute, hbuilt⟩ := exists_right_of_forall₂ hbuilt hentry
    constructor
    · obtain ⟨op, hop⟩ := hbuilt.exists_lookup hm
      exact ⟨op, route, hroute, hbuilt.template, hop⟩
    · rintro op ⟨route', hroute', htemplate, hop⟩
      obtain rfl : route' = route :=
        List.inj_on_of_nodup_map hapart hroute' hroute
          (Option.some.inj (htemplate.symm.trans hbuilt.template))
      exact hbuilt.overrides hdeclares.2.2 hop

/-! ### A shop -/

namespace Shop

/-- A parameter that is declared once for all. -/
def currency : Value :=
  .object [("name", .string "currency"), ("in", .string "query")]

/-- The number of an item, as the path declares it. -/
def anyId : Value :=
  .object [("name", .string "id"), ("in", .string "path")]

/-- The number of an item, as it is declared to read one. -/
def requiredId : Value :=
  .object [("name", .string "id"), ("in", .string "path"), ("required", .bool true)]

/-- How to read an item. -/
def reading : Value :=
  .object [("parameters", .array [requiredId])]

/-- What can be done with an item. -/
def itemPath : Value :=
  .object
    [("parameters",
      .array [anyId, .object [("$ref", .string "#/components/parameters/currency")]]),
    ("get", reading), ("delete", .object [])]

/-- Items, and a path that refers to another place. -/
def description : Value :=
  .object
    [("paths", .object
      [("/items/{id}", itemPath),
      ("/offers", .object [("$ref", .string "#/x"), ("get", reading)])]),
    ("components", .object [("parameters", .object [("currency", currency)])])]

end Shop

open Shop

/-- The offers are left out.  To read an item its number must be given, and that it is declared by
the path as well does not list it twice. -/
theorem shop_is_mirrored :
    ∃ api, (ofDocument description {}).1 = .ok api ∧ api.operationCount = 2 ∧
      ∃ op, api.Registers "/items/{id}" .get op ∧
        op.parameters.map Parameters.identity = [(.path, "id"), (.query, "currency")] ∧
        ∃ p ∈ op.parameters, p.name = "id" ∧ p.isRequired = true := by
  have hbuilt : (ofDocument description {}).1.toOption.map operationCount = some 2 := by
    decide +kernel
  obtain ⟨api, hapi, hcount⟩ := Option.map_eq_some_iff.1 hbuilt
  have hok : (ofDocument description {}).1 = .ok api := by
    revert hapi
    rcases (ofDocument description {}).1 with e | api' <;> simp [Except.toOption]
  have hdeclares : Declares description "/items/{id}" itemPath .get reading :=
    ⟨List.mem_cons_self, rfl, rfl⟩
  obtain ⟨-, hall⟩ := table_mirrors_description hok
  obtain ⟨⟨op, hop⟩, hparameters⟩ := hall _ _ _ _ hdeclares
  obtain ⟨earlier, later, hearlier, hlater, hoverrides⟩ := hparameters op hop
  -- What is listed by the path and by the operation.
  have hlisted : ((Operation.listed (.ofRoot "" description)
      (itemPath.get? "parameters")).toOption.map fun ps => ps.map Parameters.identity) =
      some [(.path, "id"), (.query, "currency")] := by decide +kernel
  have hlisted' : ((Operation.listed (.ofRoot "" description)
      (reading.get? "parameters")).toOption.map fun ps =>
        ps.map fun p => (p.location, p.name, p.isRequired)) = some [(.path, "id", true)] := by
    decide +kernel
  rw [hearlier] at hlisted
  rw [hlater] at hlisted'
  replace hlisted : earlier.map Parameters.identity = [(.path, "id"), (.query, "currency")] :=
    Option.some.inj hlisted
  obtain ⟨p, rfl, hp⟩ := List.map_eq_singleton_iff.1 (Option.some.inj hlisted')
  obtain ⟨hlocation, hname, hrequired⟩ :
      p.location = .path ∧ p.name = "id" ∧ p.isRequired = true := by
    simpa using hp
  refine ⟨api, hok, hcount, op, hop, ?_, p, ?_, hname, hrequired⟩
  · rw [hoverrides.identities, List.map_append, hlisted, List.map_singleton,
      Parameters.identity, hlocation, hname]
    rfl
  · exact hoverrides.wins p ⟨[], [], rfl, fun _ hq => absurd hq List.not_mem_nil⟩

end Api

end ApiContract
