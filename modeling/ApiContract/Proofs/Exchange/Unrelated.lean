/-
# Unrelated fields of queries

A parameter looks into a query under its name, or under all keys of the form `name[key]`.  A field
with another key is added to values that no parameter looks at.  So it changes nothing: neither the
values of a request that passes nor the failure of one that does not.
-/
import ApiContract.Exchange.Operation
import ApiContract.Proofs.Parameter.Query

namespace ApiContract

/-- A list with elements of some kind put in between those of another one. -/
inductive Interspersed {α : Type} (kind : α → Prop) : List α → List α → Prop
  /-- There is nothing. -/
  | nil : Interspersed kind [] []
  /-- An element of both lists. -/
  | keep (a : α) {l l' : List α} : Interspersed kind l l' → Interspersed kind (a :: l) (a :: l')
  /-- An element that is put in. -/
  | put {a : α} {l l' : List α} : kind a → Interspersed kind l l' → Interspersed kind l (a :: l')

lemma Interspersed.mono {α : Type} {kind kind' : α → Prop} {l l' : List α}
    (h : Interspersed kind l l') (himp : ∀ a, kind a → kind' a) : Interspersed kind' l l' := by
  induction h with
  | nil => exact .nil
  | keep a _ ih => exact .keep a ih
  | put ha _ ih => exact .put (himp _ ha) ih

namespace Query

variable {name key value text text' : String} {query query' : Query} {kind : String → Bool}

/-! ## Parts of queries -/

/-- The part of a query that has keys of some kind. -/
def restrict (kind : String → Bool) (query : Query) : Query :=
  query.filter fun entry => kind entry.1

lemma restrict_add (key value : String) (query : Query) :
    (query.add key value).restrict kind =
      if kind key then (query.restrict kind).add key value else query.restrict kind := by
  unfold restrict
  induction query with
  | nil => cases hkey : kind key <;> simp [hkey]
  | cons entry query ih =>
    rw [add_cons]
    by_cases hentry : entry.1 = key
    · subst hentry
      cases hkind : kind entry.1 <;> simp [hkind]
    · cases hkind : kind entry.1 with
      | false => simp [hentry, hkind, ih]
      | true =>
        simp only [hentry, if_false, List.filter_cons, hkind, if_true, ih, add_cons]
        split
        · rfl
        · rfl

/-- Fields with keys of another kind that are put in between do not change the part. -/
lemma restrict_collect {pairs pairs' : List (String × String)}
    (h : Interspersed (fun pair => kind pair.1 = false) pairs pairs')
    (hquery : query'.restrict kind = query.restrict kind) :
    (collect pairs' query').restrict kind = (collect pairs query).restrict kind := by
  induction h generalizing query query' with
  | nil => exact hquery
  | keep pair h ih => exact ih (by rw [restrict_add, restrict_add, hquery])
  | put hpair h ih => exact ih (by rw [restrict_add, if_neg (by simp [hpair]), hquery])

lemma fields_interspersed {kind : String × String → Prop} {pieces pieces' : List (List Char)}
    (h : Interspersed (fun piece => ∃ pair, formField? piece = some pair ∧ kind pair) pieces
      pieces') :
    (∃ e, fields pieces = .error e ∧ fields pieces' = .error e) ∨
      ∃ pairs pairs', fields pieces = .ok pairs ∧ fields pieces' = .ok pairs' ∧
        Interspersed kind pairs pairs' := by
  induction h with
  | nil => exact Or.inr ⟨[], [], rfl, rfl, .nil⟩
  | keep piece h ih =>
    simp only [fields]
    cases formField? piece with
    | none => exact Or.inl ⟨_, rfl, rfl⟩
    | some pair =>
      rcases ih with ⟨e, he, he'⟩ | ⟨pairs, pairs', hpairs, hpairs', hinter⟩
      · exact Or.inl ⟨e, by rw [he]; rfl, by rw [he']; rfl⟩
      · exact Or.inr ⟨pair :: pairs, pair :: pairs', by rw [hpairs]; rfl, by rw [hpairs']; rfl,
          .keep pair hinter⟩
  | put hpiece h ih =>
    obtain ⟨pair, hpair, hkind⟩ := hpiece
    simp only [fields, hpair]
    rcases ih with ⟨e, he, he'⟩ | ⟨pairs, pairs', hpairs, hpairs', hinter⟩
    · exact Or.inl ⟨e, he, by rw [he']; rfl⟩
    · exact Or.inr ⟨pairs, pair :: pairs', hpairs, by rw [hpairs']; rfl, .put hkind hinter⟩

/-- A query with fields of other keys put in between is read as the query is, as far as keys of the
kind go. -/
lemma ofText_interspersed
    (h : Interspersed (fun piece => ∃ pair, formField? piece = some pair ∧ kind pair.1 = false)
      (pieces text) (pieces text')) :
    (∃ e, ofText text = .error e ∧ ofText text' = .error e) ∨
      ∃ query query', ofText text = .ok query ∧ ofText text' = .ok query' ∧
        query'.restrict kind = query.restrict kind := by
  rw [ofText_eq, ofText_eq]
  rcases fields_interspersed h with ⟨e, he, he'⟩ | ⟨pairs, pairs', hpairs, hpairs', hinter⟩
  · exact Or.inl ⟨e, by rw [he]; rfl, by rw [he']; rfl⟩
  · exact Or.inr ⟨_, _, by rw [hpairs]; rfl, by rw [hpairs']; rfl, restrict_collect hinter rfl⟩

/-! ## Looking into a query -/

lemma lookup_restrict (h : kind name = true) (query : Query) :
    (query.restrict kind).lookup name = query.lookup name := by
  induction query with
  | nil => rfl
  | cons entry query ih =>
    obtain ⟨k, values⟩ := entry
    unfold restrict at ih ⊢
    rw [List.filter_cons]
    by_cases hk : kind k = true
    · rw [if_pos hk, List.lookup_cons, List.lookup_cons, ih]
    · have hne : name ≠ k := by
        rintro rfl
        exact hk h
      rw [if_neg hk, List.lookup_cons, beq_false_of_ne hne, ih]

/-- The keys with another one in brackets are those of the form `name[key]`. -/
lemma bracketed?_eq_some_iff {inner : String} :
    bracketed? name key = some inner ↔ key = name ++ "[" ++ inner ++ "]" := by
  have hlists : key = name ++ "[" ++ inner ++ "]" ↔
      key.toList = name.toList ++ (['['] ++ (inner.toList ++ [']'])) := by
    rw [← String.toList_inj]
    simp
  simp only [bracketed?, Option.bind_eq_bind, Option.bind_eq_some_iff, Text.dropPrefix?_eq_some_iff,
    Text.dropSuffix?_eq_some_iff, hlists]
  constructor
  · rintro ⟨rest, hrest, rest', rfl, cs, rfl, heq⟩
    obtain rfl := Option.some.inj heq
    rw [hrest, String.toList_ofList]
  · intro h
    exact ⟨_, h, _, rfl, inner.toList, rfl, by rw [String.ofList_toList]; rfl⟩

lemma deepObject?_restrict (h : ∀ key inner, bracketed? name key = some inner → kind key = true)
    (query : Query) : deepObject? name (query.restrict kind) = deepObject? name query := by
  have hfields (f : String × List String → String → Option (String × Value)) :
      ((query.restrict kind).filterMap fun entry => (bracketed? name entry.1).bind (f entry)) =
        query.filterMap fun entry => (bracketed? name entry.1).bind (f entry) := by
    rw [restrict, List.filterMap_filter]
    refine List.filterMap_congr fun entry _ => ?_
    cases hinner : bracketed? name entry.1 with
    | none => simp
    | some inner => simp [h _ _ hinner]
  exact congrArg (fun fields : Fields => if fields.isEmpty then none else
    some (Value.object (Fields.ofPairs fields))) (hfields _)

end Query

/-! ## Looking for parameters -/

namespace Parameter

variable {p : Parameter} {val : Validator} {source source' : Source}

/-- A check depends on a request by what is found of the parameter alone. -/
lemma check_congr (h : ∀ type, p.find val type source' = p.find val type source) :
    p.check val source' = p.check val source := by
  simp only [check, h]

end Parameter

lemma Parameters.check_congr {ps : Parameters} {val : Validator} {source source' : Source}
    (h : ∀ p ∈ ps, p.check val source' = p.check val source) :
    ps.check val source' = ps.check val source := by
  have hcollect (values : List (String × Value)) (violations : List Violation) :
      collect val source' ps values violations = collect val source ps values violations := by
    induction ps generalizing values violations with
    | nil => rfl
    | cons p ps ih =>
      obtain ⟨hp, hps⟩ := List.forall_mem_cons.1 h
      simp only [collect, hp, ih hps]
  rw [check, check, hcollect]

namespace Operation

variable {op : Operation} {key : String}

/-- Whether a parameter of an operation looks into queries under a key. -/
def looksAt (op : Operation) (key : String) : Bool :=
  op.parameters.any fun p => p.location = .query &&
    (p.name = key || p.style = .deepObject && (Query.bracketed? p.name key).isSome)

/-- A piece of a query is a field that no parameter of an operation has to do with: its key is not
the name of a parameter in queries, and not of the form `name[key]` for one that is written that
way. -/
def IsUnrelated (op : Operation) (piece : List Char) : Prop :=
  ∃ key value, formField? piece = some (key, value) ∧
    ∀ p ∈ op.parameters, p.location = .query → key ≠ p.name ∧
      (p.style = .deepObject → ∀ inner, key ≠ p.name ++ "[" ++ inner ++ "]")

lemma IsUnrelated.looksAt_eq_false {piece : List Char} (h : op.IsUnrelated piece) :
    ∃ pair, formField? piece = some pair ∧ op.looksAt pair.1 = false := by
  obtain ⟨key, value, hfield, hkey⟩ := h
  refine ⟨_, hfield, ?_⟩
  rw [looksAt, List.any_eq_false]
  intro p hp hlooks
  simp only [Bool.and_eq_true, Bool.or_eq_true, decide_eq_true_eq, Option.isSome_iff_exists]
    at hlooks
  obtain ⟨hlocation, hname | ⟨hstyle, inner, hinner⟩⟩ := hlooks
  · exact (hkey p hp hlocation).1 hname.symm
  · exact (hkey p hp hlocation).2 hstyle inner (Query.bracketed?_eq_some_iff.1 hinner)

lemma looksAt_name {p : Parameter} (hp : p ∈ op.parameters) (hlocation : p.location = .query) :
    op.looksAt p.name = true :=
  List.any_eq_true.2 ⟨p, hp, by simp [hlocation]⟩

lemma looksAt_bracketed {p : Parameter} (hp : p ∈ op.parameters) (hlocation : p.location = .query)
    (hstyle : p.style = .deepObject) {inner : String}
    (hinner : Query.bracketed? p.name key = some inner) : op.looksAt key = true :=
  List.any_eq_true.2 ⟨p, hp, by simp [hlocation, hstyle, hinner]⟩

/-- A parameter finds the same in two queries that are the same as far as parameters look. -/
lemma find_eq {p : Parameter} (hp : p ∈ op.parameters) {val : Validator} {type text : String}
    {path : List (String × String)} {query query' : Query} {request : Request}
    (h : query'.restrict op.looksAt = query.restrict op.looksAt) :
    p.find val type ⟨path, query', { request with query := text }⟩ =
      p.find val type ⟨path, query, request⟩ := by
  rw [Parameter.find, Parameter.find]
  cases hlocation : p.location with
  | path => rfl
  | header => rfl
  | cookie => rfl
  | query =>
    dsimp only
    have hlookup : query'.lookup p.name = query.lookup p.name := by
      have hname := looksAt_name hp hlocation
      rw [← Query.lookup_restrict hname query', h, Query.lookup_restrict hname]
    rw [Parameter.findInQuery, Parameter.findInQuery, hlookup]
    by_cases hstyle : p.style = .deepObject
    · have hkeys (key inner : String) (hinner : Query.bracketed? p.name key = some inner) :
          op.looksAt key = true := looksAt_bracketed hp hlocation hstyle hinner
      rw [← Query.deepObject?_restrict hkeys query', h, Query.deepObject?_restrict hkeys]
    · rw [if_neg hstyle, if_neg hstyle]

/-- **Unrelated fields do not interfere.**  If fields that no parameter of an operation has to do
with are put in between the fields of a query, in any number and at any place, then the check of the
request has the same result: the same values, or the same failure. -/
theorem checkRequest_interspersed (op : Operation) (val : Validator) (path : List (String × String))
    (request : Request) {text : String}
    (h : Interspersed op.IsUnrelated (Query.pieces request.query) (Query.pieces text)) :
    op.checkRequest val path { request with query := text } = op.checkRequest val path request := by
  rcases Query.ofText_interspersed (h.mono fun _ => IsUnrelated.looksAt_eq_false) with
    ⟨e, he, he'⟩ | ⟨query, query', hquery, hquery', hsame⟩
  · -- Neither of the queries can be read.
    simp only [checkRequest, readQuery, he, he']
    rfl
  · have hcheck : op.parameters.check val ⟨path, query', { request with query := text }⟩ =
        op.parameters.check val ⟨path, query, request⟩ :=
      Parameters.check_congr fun p hp => Parameter.check_congr fun type => find_eq hp hsame
    -- The body does not depend on the query.
    simp only [checkRequest, readQuery, hquery, hquery', hcheck, bind, Except.bind]
    rfl

/-! ### A search -/

namespace Search

/-- Conditions on what to find, and how much of it to give. -/
def operation : Operation where
  parameters := [
    ⟨"filter", .query, .deepObject, false, true, false,
      some (.object [("type", .string "object")])⟩,
    ⟨"limit", .query, .form, true, false, false, some (.object [("type", .string "integer")])⟩]
  body := none
  responses := .empty

/-- A request. -/
def request : Request := { query := "filter[a]=1&limit=5" }

/-- The query of the request among fields with keys that look like those of the parameters. -/
def crowded : String := "filterx[a]=9&filter[a]=1&filter[b=2&limit=5&limit[]=7&=&a=1"

end Search

/-- The conditions and the limit of a search arrive among fields whose keys are merely like those of
the parameters. -/
theorem crowded_search_is_unchanged :
    Interspersed Search.operation.IsUnrelated (Query.pieces Search.request.query)
      (Query.pieces Search.crowded) ∧
    (Search.operation.checkRequest Dialect.oas3.alone [] Search.request).toOption.isSome ∧
    Search.operation.checkRequest Dialect.oas3.alone []
        { Search.request with query := Search.crowded } =
      Search.operation.checkRequest Dialect.oas3.alone [] Search.request := by
  have hunrelated (piece : List Char) (key value : String)
      (hfield : formField? piece = some (key, value)) (hfilter : key ≠ "filter")
      (hlimit : key ≠ "limit") (hinner : Query.bracketed? "filter" key = none) :
      Search.operation.IsUnrelated piece := by
    refine ⟨key, value, hfield, fun p hp _ => ?_⟩
    simp only [Search.operation, List.mem_cons, List.not_mem_nil, or_false] at hp
    rcases hp with rfl | rfl
    · refine ⟨hfilter, fun _ inner heq => ?_⟩
      rw [Query.bracketed?_eq_some_iff.2 heq] at hinner
      cases hinner
    · exact ⟨hlimit, fun hstyle => by cases hstyle⟩
  have hinter : Interspersed Search.operation.IsUnrelated (Query.pieces Search.request.query)
      (Query.pieces Search.crowded) := by
    rw [show Query.pieces Search.request.query =
        ["filter[a]=1".toList, "limit=5".toList] by decide +kernel,
      show Query.pieces Search.crowded = ["filterx[a]=9".toList, "filter[a]=1".toList,
        "filter[b=2".toList, "limit=5".toList, "limit[]=7".toList, "=".toList, "a=1".toList] by
        decide +kernel]
    refine .put (hunrelated _ "filterx[a]" "9" ?_ ?_ ?_ ?_) (.keep _ (.put
      (hunrelated _ "filter[b" "2" ?_ ?_ ?_ ?_) (.keep _ (.put
      (hunrelated _ "limit[]" "7" ?_ ?_ ?_ ?_) (.put (hunrelated _ "" "" ?_ ?_ ?_ ?_)
      (.put (hunrelated _ "a" "1" ?_ ?_ ?_ ?_) .nil)))))) <;> decide +kernel
  refine ⟨hinter, by decide +kernel, ?_⟩
  exact checkRequest_interspersed Search.operation Dialect.oas3.alone [] Search.request hinter

end Operation

end ApiContract
