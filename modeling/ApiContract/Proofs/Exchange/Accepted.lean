/-
# What an accepted request satisfies

A request is accepted if all of its parameters and its body pass.  Then every parameter that must be
there has a value, and what the request carries satisfies its schema: the value of every parameter
once its text is taken apart and converted, and the body once it is read.
-/
import ApiContract.Api
import ApiContract.Proofs.Exchange.Carriage
import ApiContract.Proofs.Parameter.Collection
import ApiContract.Proofs.Parameter.TextList

namespace ApiContract

/-- A value that passes a validation violates nothing. -/
lemma Validator.violationsOf_eq_nil_of_validate {val : Validator} {v schema : Value}
    {out : Validated} (h : val.validate v schema = .ok out) :
    val.violationsOf v schema = .ok [] := by
  obtain ⟨o, ho, hnone, -⟩ := validate_eq_ok_iff.1 h
  exact violationsOf_eq_ok_iff.2 ⟨o, ho, hnone⟩

/-! ## Parameters -/

/-- What is sent for a parameter is a value of its schema: it is found as the declared type says,
taken apart and converted, and what comes out violates nothing. -/
structure Parameter.Satisfies (p : Parameter) (val : Validator) (source : Source) (schema : Value)
    (type : String) (raw v c : Value) : Prop where
  /-- The type is the declared one. -/
  typed : p.declaredType val = .ok type
  /-- The request has something for the parameter. -/
  found : p.find val type source = .ok (.raw raw)
  /-- It is taken apart. -/
  decoded : p.decode type raw = .ok v
  /-- What it is taken apart to is converted. -/
  converted : val.run (val.coerced schema v) = .ok c
  /-- What it is converted to violates nothing. -/
  valid : val.violationsOf c schema = .ok []

/-- A parameter that is carried and passes satisfies its schema once it is taken apart and
converted. -/
lemma Parameter.IsCarried.satisfies {p : Parameter} {val : Validator} {source : Source}
    {schema : Value} {result : Option Value} (h : p.IsCarried source)
    (hschema : p.schema = some schema) (hcheck : p.check val source = .ok result) :
    ∃ type raw v c, p.Satisfies val source schema type raw v c := by
  obtain ⟨type, raw, v, w, htype, hfind, hdecode, htyped⟩ := h.read hcheck
  obtain ⟨c, out, hcoerced, hvalidate, -⟩ := (typed_eq_ok_iff hschema).1 htyped
  exact ⟨type, raw, v, c, htype, hfind, hdecode, hcoerced,
    Validator.violationsOf_eq_nil_of_validate hvalidate⟩

/-- If all parameters pass, then every one that must be there has an entry. -/
lemma Parameters.exists_lookup_of_isRequired {ps : Parameters} {val : Validator} {source : Source}
    {values : List (String × Value)} (h : ps.check val source = .ok values) {p : Parameter}
    (hp : p ∈ ps) (hrequired : p.isRequired = true) : ∃ v, values.lookup p.name = some v := by
  obtain ⟨hall, rfl⟩ := check_eq_ok_iff.1 h
  obtain ⟨result, hcheck⟩ := hall p hp
  obtain ⟨v, rfl⟩ := Parameter.exists_eq_some_of_isRequired hrequired hcheck
  have hmem : p.name ∈ Fields.keys (present val source ps) :=
    Fields.mem_keys_of_mem (mem_present_iff.2 ⟨p, hp, rfl, hcheck⟩)
  rw [← Fields.mem_keys_ofPairs] at hmem
  exact Option.ne_none_iff_exists'.1 fun hnone => Fields.lookup_eq_none_iff_not_mem.1 hnone hmem

/-! ## Bodies -/

/-- A body of JSON is as it is declared, and leads to a result. -/
structure RequestBody.SatisfiesJson (declared : RequestBody) (val : Validator) (v : Value)
    (result : Option Value) : Prop where
  /-- If a schema is declared, the body violates nothing, and the result is what validation has made
  of it. -/
  valid : ∀ schema, (declared.content.lookup MediaType.json).join = some schema →
    val.violationsOf v schema = .ok [] ∧
      ∃ out, val.validate v schema = .ok out ∧ result = some out.value
  /-- If none is declared, the result is the body. -/
  kept : (declared.content.lookup MediaType.json).join = none → result = some v

/-- A body of some content type is as it is declared, and leads to a result. -/
structure RequestBody.Satisfies (declared : RequestBody) (val : Validator) (request : Request)
    (contentType : String) (result : Option Value) : Prop where
  /-- The content type is that of the request. -/
  sent : request.contentType = some contentType
  /-- Its media type is declared. -/
  accepted : MediaType.ofContentType contentType ∈ Fields.keys declared.content
  /-- JSON can be read, and is as it is declared. -/
  json : MediaType.ofContentType contentType = MediaType.json →
    ∃ v, Json.ofBytes request.body = .ok v ∧ declared.SatisfiesJson val v result

/-- A body that is not empty and passes is as it is declared. -/
lemma RequestBody.check_of_ne_nil {declared : RequestBody} {val : Validator} {request : Request}
    {result : Option Value} (h : declared.check val request = .ok result)
    (hbody : request.body ≠ []) :
    ∃ contentType, declared.Satisfies val request contentType result := by
  have hpresent : request.body.isEmpty = false := by simpa using hbody
  rw [check] at h
  split at h
  · simp [hpresent] at h
  · rename_i contentType htyped
    split at h
    · cases h
    rename_i haccepted
    refine ⟨contentType, htyped, ?_, fun hjson => ?_⟩
    · by_contra hnot
      rw [accepts, Fields.has, Fields.lookup_eq_none_iff_not_mem.2 hnot] at haccepted
      exact haccepted rfl
    · rw [if_pos hjson, checkJson, hpresent, if_neg Bool.false_ne_true] at h
      split at h
      · cases h
      rename_i v hread
      refine ⟨v, hread, ?_⟩
      rcases hschema : (declared.content.lookup MediaType.json).join with _ | schema
      · rw [hschema] at h
        exact ⟨by simp [hschema], fun _ => (Except.ok.inj h).symm⟩
      · rw [hschema] at h
        dsimp only at h
        rcases hvalidate : val.validate v schema with failure | out
        · rw [hvalidate] at h
          cases h
        · rw [hvalidate] at h
          refine ⟨fun schema' heq => ?_, by simp [hschema]⟩
          obtain rfl := Option.some.inj (hschema.symm.trans heq)
          exact ⟨Validator.violationsOf_eq_nil_of_validate hvalidate, out, hvalidate,
            (Except.ok.inj h).symm⟩

/-! ## Requests -/

/-- A request passes if its query can be read and its parameters and its body pass. -/
lemma Operation.checkRequest_eq_ok {op : Operation} {val : Validator}
    {path : List (String × String)} {request : Request} {checked : CheckedRequest}
    (h : op.checkRequest val path request = .ok checked) :
    ∃ query, readQuery request = .ok query ∧
      op.parameters.check val ⟨path, query, request⟩ = .ok checked.parameters ∧
      ∀ declared, op.body = some declared → declared.check val request = .ok checked.body := by
  obtain ⟨query, hquery, h⟩ := Except.bind_eq_ok_iff.1 h
  obtain ⟨parameters, hparameters, h⟩ := Except.bind_eq_ok_iff.1 h
  cases hbody : op.body with
  | none =>
    rw [hbody] at h
    obtain rfl := Except.ok.inj h
    exact ⟨query, hquery, hparameters, by simp⟩
  | some declared =>
    rw [hbody] at h
    obtain ⟨body, hcheck, h⟩ := Except.bind_eq_ok_iff.1 h
    obtain rfl := Except.ok.inj h
    refine ⟨query, hquery, hparameters, fun declared' heq => ?_⟩
    obtain rfl := Option.some.inj heq
    exact hcheck

/-- A request is as an operation declares it, and leads to a result. -/
structure Operation.Satisfies (op : Operation) (val : Validator) (source : Source)
    (checked : CheckedRequest) : Prop where
  /-- Every parameter that must be there has a value. -/
  required : ∀ p ∈ op.parameters, p.isRequired = true →
    ∃ v, checked.parameters.lookup p.name = some v
  /-- Every parameter that is carried satisfies its schema. -/
  parameters : ∀ p ∈ op.parameters, ∀ schema, p.schema = some schema → p.IsCarried source →
    ∃ type raw v c, p.Satisfies val source schema type raw v c
  /-- A body that is not empty is as it is declared. -/
  body : ∀ declared, op.body = some declared → source.request.body ≠ [] →
    ∃ contentType, declared.Satisfies val source.request contentType checked.body

/-- **An accepted request satisfies the contract.**  Every parameter that must be there has a value.
Every parameter that the request carries and that has a schema has no violations of it, once it is
taken apart and converted.  A body that is not empty has a declared media type; a body of JSON can
be read, has no violations of its schema, and the result is what validation has made of it. -/
theorem Api.accepted_request_satisfies (api : Api) (method : Method) (path : String)
    (request : Request) (checked : CheckedRequest)
    (h : api.checkRequest method path request = some (.ok checked)) :
    ∃ op values query, api.find? method path = some (op, values) ∧
      Operation.readQuery request = .ok query ∧
      op.Satisfies api.validator ⟨values, query, request⟩ checked := by
  obtain ⟨⟨op, values⟩, hfind, hcheck⟩ := Option.map_eq_some_iff.1 h
  obtain ⟨query, hquery, hparameters, hbody⟩ := Operation.checkRequest_eq_ok hcheck
  refine ⟨op, values, query, hfind, hquery, fun p hp hrequired => ?_,
    fun p hp schema hschema hcarried => ?_, fun declared hdeclared hpresent => ?_⟩
  · exact Parameters.exists_lookup_of_isRequired hparameters hp hrequired
  · obtain ⟨result, hp⟩ := (Parameters.check_eq_ok_iff.1 hparameters).1 p hp
    exact hcarried.satisfies hschema hp
  · exact RequestBody.check_of_ne_nil (hbody declared hdeclared) hpresent

/-! ### A named item -/

namespace NamedItem

/-- The number of the item, in the path. -/
def number : Parameter :=
  ⟨"id", .path, .simple, false, true, false, some (.object [("type", .string "integer")])⟩

/-- The schema of the item. -/
def schema : Value := .object [("required", .array [.string "name"])]

/-- The item, in the body. -/
def item : RequestBody := ⟨[("application/json", some schema)], true⟩

/-- An operation that takes an item. -/
def operation : Operation := ⟨[number], some item, .empty⟩

/-- An interface with this operation at `/x/` and a number. -/
def api : Api :=
  ⟨[⟨⟨[.char '/', .char 'x', .char '/', .parameter], ["id"]⟩, [(.put, operation)]⟩], 1, {},
    Dialect.oas3.alone⟩

/-- The path carries the number. -/
lemma carries : api.Carries .put "/x/7" operation "id" ['7'] := by
  refine ⟨?_, _, List.mem_singleton_self _, Or.inl rfl, rfl, [['7']], ?_, by simp, ?_⟩
  · intro route hroute
    obtain rfl := List.mem_singleton.1 hroute
    exact ⟨by decide, by decide⟩
  · exact .char (.char (.char (.parameter (by decide) (by decide) .nil)))
  · simp

/-- A request with an item that has a name. -/
def request : Request :=
  { contentType := some "Application/JSON; charset=utf-8"
    body := "\x7b\"name\":\"a\"\x7d".toUTF8.toList }

end NamedItem

open NamedItem in
/-- The item is accepted: it has a number, and the body can be read and satisfies its schema. -/
theorem Api.named_item_is_accepted :
    ∃ checked, api.checkRequest .put "/x/7" request = some (.ok checked) ∧
      (∃ v, checked.parameters.lookup "id" = some v) ∧
      ∃ v, Json.ofBytes request.body = .ok v ∧ api.validator.violationsOf v schema = .ok [] := by
  have hpasses : (api.checkRequest .put "/x/7" request).any (·.toOption.isSome) := by
    decide +kernel
  rcases hcheck : api.checkRequest .put "/x/7" request with _ | failure | checked
  · rw [hcheck] at hpasses
    cases hpasses
  · rw [hcheck] at hpasses
    cases hpasses
  obtain ⟨parameters, hfound, -⟩ := api.find?_of_carries carries
  obtain ⟨op, values, query, hfind, -, hsatisfies⟩ :=
    api.accepted_request_satisfies .put "/x/7" request checked hcheck
  rw [hfound, Option.some.injEq, Prod.mk.injEq] at hfind
  obtain ⟨rfl, rfl⟩ := hfind
  have hpresent : request.body ≠ [] := by decide +kernel
  obtain ⟨contentType, hbody⟩ := hsatisfies.body item rfl hpresent
  obtain rfl : "Application/JSON; charset=utf-8" = contentType := Option.some.inj hbody.sent
  obtain ⟨v, hread, hjson⟩ := hbody.json (by decide +kernel)
  exact ⟨checked, rfl, hsatisfies.required number List.mem_cons_self rfl, v, hread,
    (hjson.valid schema rfl).1⟩

end ApiContract
