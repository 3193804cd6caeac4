/-
# Parameters that are missing in a query

A parameter is missing in a query if no field of the query belongs to it: none under its name, or,
for an object whose keys stand in brackets, none under its name with a key in brackets.  Such a
parameter takes the default of its schema, whether it must be there or not.

Objects whose keys stand in brackets are an exception.  If no field belongs to one, then it counts
as absent without a look at its default.
-/
import ApiContract.Proofs.Parameter.DeepObject
import ApiContract.Proofs.Schema.Defaults

namespace ApiContract

open Walk

/-! ## Defaults -/

namespace Validator

variable {val : Validator} {schema declared default : Value} {scope : String} {here : List String}

/-- A default keeps its shape, or takes the one that some format reads in it. -/
lemma eq_or_reads_of_typedDefault
    (h : (val.typedDefault declared schema).resultAt scope here = .ok default) :
    default = declared ∨ ∃ format, val.formats.check format declared = .ok (some default) := by
  rw [typedDefault, bind_ok_iff (declaredFormat_steady _ _ schema) fun format => by
    split
    · exact Steady.pure _
    · split <;> exact Steady.pure _] at h
  obtain ⟨_ | format, -, h⟩ := h
  · exact Or.inl (Except.ok.inj h).symm
  · dsimp only at h
    split at h
    · rename_i typed htyped
      obtain rfl := Except.ok.inj h
      exact Or.inr ⟨format, htyped⟩
    · exact Or.inl (Except.ok.inj h).symm

/-- The default that stands for a missing value is one that the schema offers, or what some format
reads in it. -/
lemma exists_offers_of_defaultOf (h : val.run (val.defaultOf schema) = .ok (some default)) :
    ∃ declared, val.store.Offers declared val.store.baseUri schema ∧
      (default = declared ∨ ∃ format, val.formats.check format declared = .ok (some default)) := by
  rw [run_eq_resultAt, defaultOf, bind_ok_iff (declaredDefault_steady val schema) fun declared => by
    split
    · exact Steady.pure _
    · split
      · exact Steady.pure _
      · exact (typedDefault_steady val _ schema).bind fun typed => Steady.pure (some typed)] at h
  obtain ⟨_ | declared, hdeclared, h⟩ := h
  · cases h
  refine ⟨declared, offers_of_findDefault (findDefault_of_declaredDefault hdeclared), ?_⟩
  dsimp only at h
  split at h
  · exact Or.inl (Option.some.inj (Except.ok.inj h)).symm
  · obtain ⟨typed, htyped, hsome⟩ :=
      (bind_pure_ok_iff (typedDefault_steady val declared schema)).1 h
    obtain rfl := Option.some.inj hsome
    exact eq_or_reads_of_typedDefault htyped

end Validator

/-! ## Queries -/

namespace Query

variable {name key text : String} {query : Query}

/-- The keys of a query are those of its fields. -/
lemma mem_keys_iff (hread : ofText text = .ok query) :
    key ∈ Fields.keys query ↔
      ∃ piece ∈ pieces text, ∃ field, formField? piece = some field ∧ field.1 = key := by
  obtain ⟨pairs, hpairs, rfl⟩ := ofText_eq_ok_iff.1 hread
  rw [keys_grouped, List.mem_eraseDups, List.mem_map]
  constructor
  · rintro ⟨field, hfield, hkey⟩
    obtain ⟨piece, hpiece, heq⟩ := exists_left_of_forall₂ hpairs hfield
    exact ⟨piece, hpiece, field, heq, hkey⟩
  · rintro ⟨piece, hpiece, field, heq, hkey⟩
    obtain ⟨field', hfield, heq'⟩ := exists_right_of_forall₂ hpairs hpiece
    obtain rfl := Option.some.inj (heq.symm.trans heq')
    exact ⟨field, hfield, hkey⟩

/-- Without a key in brackets there is no object. -/
lemma deepObject?_eq_none (h : ∀ key ∈ Fields.keys query, bracketed? name key = none) :
    query.deepObject? name = none := by
  have hfields (f : String × List String → String → Option (String × Value)) :
      (query.filterMap fun entry => (bracketed? name entry.1).bind (f entry)) = [] := by
    rw [List.filterMap_eq_nil_iff]
    intro entry hentry
    rw [h entry.1 (Fields.mem_keys_of_mem hentry), Option.bind_none]
  exact congrArg (fun fields : Fields => if fields.isEmpty then none
    else some (Value.object (Fields.ofPairs fields))) (hfields _)

end Query

/-! ## Parameters -/

namespace Parameter

variable {p : Parameter} {val : Validator} {source : Source} {schema default : Value}
  {type : String}

/-- A key of a query belongs to a parameter: it is the name, with a key in brackets behind it if the
parameter is written that way. -/
def Owns (p : Parameter) (key : String) : Prop :=
  if p.style = .deepObject then ∃ inner, key = p.name ++ "[" ++ inner ++ "]" else key = p.name

/-- No field of a query belongs to a parameter. -/
def IsMissingIn (p : Parameter) (text : String) : Prop :=
  ∀ piece ∈ Query.pieces text, ∀ field, formField? piece = some field → ¬ p.Owns field.1

/-- A parameter is missing if it owns no key of what is read of the query. -/
lemma isMissingIn_iff {text : String} {query : Query} (hread : Query.ofText text = .ok query) :
    p.IsMissingIn text ↔ ∀ key ∈ Fields.keys query, ¬ p.Owns key := by
  constructor
  · intro h key hkey
    obtain ⟨piece, hpiece, field, hfield, rfl⟩ := (Query.mem_keys_iff hread).1 hkey
    exact h piece hpiece field hfield
  · intro h piece hpiece field hfield
    exact h field.1 ((Query.mem_keys_iff hread).2 ⟨piece, hpiece, field, hfield, rfl⟩)

lemma IsMissingIn.lookup_eq {text : String} {query : Query} (h : p.IsMissingIn text)
    (hread : Query.ofText text = .ok query) (hstyle : p.style ≠ .deepObject) :
    query.lookup p.name = none := by
  rw [Fields.lookup_eq_none_iff_not_mem]
  intro hmem
  exact (isMissingIn_iff hread).1 h _ hmem (by rw [Owns, if_neg hstyle])

lemma IsMissingIn.deepObject?_eq {text : String} {query : Query} (h : p.IsMissingIn text)
    (hread : Query.ofText text = .ok query) (hstyle : p.style = .deepObject) :
    query.deepObject? p.name = none := by
  refine Query.deepObject?_eq_none fun key hkey => ?_
  have hnot := (isMissingIn_iff hread).1 h key hkey
  rw [Owns, if_pos hstyle] at hnot
  exact Query.bracketed?_eq_none fun inner heq => hnot ⟨inner, heq⟩

/-- **A parameter that is missing in a query takes its default.**  If no field of a query belongs
to a parameter whose schema has a default, then the parameter has this default, whether it must be
there or not.  The default is one that the schema offers, itself or through references and branches,
or what a format reads in it.  An object whose keys stand in brackets does not take its default: it
is found missing if it must be there, and otherwise it has no value. -/
theorem check_missing (hlocation : p.location = .query) (hempty : p.allowsEmpty = false)
    (hp : p.schema = some schema) (htype : val.run (val.declaredType schema) = .ok type)
    (hdefault : val.run (val.defaultOf schema) = .ok (some default))
    (hread : Query.ofText source.request.query = .ok source.query)
    (hmissing : p.IsMissingIn source.request.query) :
    (p.style.isSupported = true → p.style ≠ .deepObject →
      ¬ (p.style = .form ∧ p.explode = true ∧ type = "object") →
      p.check val source = .ok (some default) ∧
        ∃ declared, val.store.Offers declared val.store.baseUri schema ∧
          (default = declared ∨ ∃ format, val.formats.check format declared = .ok (some default))) ∧
    (p.style = .deepObject → p.check val source =
      if p.isRequired then .error (.ofViolation p.absence) else .ok none) := by
  have hdeclared : p.declaredType val = .ok type := by
    rw [declaredType, hp]
    dsimp only
    rw [htype]
    rfl
  have hfind : p.find val type source = p.findInQuery val type source.query := by
    rw [find, hlocation]
  constructor
  · intro hsupported hstyle hshape
    have hfilled : p.queryDefault val = .ok (some default) := by
      rw [queryDefault, hp]
      dsimp only
      rw [hdefault]
      rfl
    rw [findInQuery, if_neg hshape, if_neg hstyle, hmissing.lookup_eq hread hstyle] at hfind
    dsimp only at hfind
    rw [hfilled] at hfind
    exact ⟨Sought.check_of_default ⟨hempty, hsupported, hdeclared⟩ hfind,
      Validator.exists_offers_of_defaultOf hdefault⟩
  · intro hstyle
    rw [findInQuery, if_neg (by simp [hstyle]), if_pos hstyle,
      hmissing.deepObject?_eq hread hstyle] at hfind
    exact Sought.check_of_absent ⟨hempty, by rw [hstyle]; rfl, hdeclared⟩ hfind

/-! ### A feed -/

namespace Feed

/-- A date whose default comes, through a reference, from the only branch that has one. -/
def document : Value := .object [
  ("since", .object [("type", .string "string"), ("format", .string "date"),
    ("allOf", .array [
      .object [("minLength", .integer 1)], .object [("$ref", .string "#/start")]])]),
  ("start", .object [("default", .string "2017-07-26")])]

/-- A validator that fills, for the document. -/
def validator : Validator := ⟨⟨"", [("", document)]⟩, Dialect.oas3.formats, true⟩

/-- A parameter that must be there, for the date. -/
def since : Parameter :=
  ⟨"since", .query, .form, true, true, false, some (.object [("$ref", .string "#/since")])⟩

/-- A parameter that must be there, for an object that has a default. -/
def filter : Parameter :=
  ⟨"filter", .query, .deepObject, true, true, false,
    some (.object [("type", .string "object"), ("default", .object [("a", .integer 1)])])⟩

/-- A request whose fields have keys that look like those of the parameters. -/
def request : Request := { query := "sinc=1&since[]=2&filter=3" }

/-- The query of the request. -/
def query : Query := [("sinc", ["1"]), ("since[]", ["2"]), ("filter", ["3"])]

/-- The request, with its query read and nothing in its path. -/
def arrival : Source := ⟨[], query, request⟩

/-- How the query is read, and that no key of it belongs to the object. -/
lemma read_arrival :
    Query.ofText arrival.request.query = .ok arrival.query ∧
      (∀ key ∈ Fields.keys arrival.query, (Query.bracketed? filter.name key).isNone) ∧
      (arrival.query.deepObject? filter.name).isNone := by
  decide +kernel

lemma ofText_arrival : Query.ofText arrival.request.query = .ok arrival.query :=
  read_arrival.1

lemma isMissing_since : since.IsMissingIn arrival.request.query := by
  have hkeys : ∀ key ∈ Fields.keys arrival.query, key ≠ since.name := by decide
  exact (isMissingIn_iff ofText_arrival).2 hkeys

/-- The keys of the request are merely like those of the object. -/
lemma isMissing_filter : filter.IsMissingIn arrival.request.query := by
  refine (isMissingIn_iff ofText_arrival).2 ?_
  rintro key hkey ⟨inner, rfl⟩
  have hnone := read_arrival.2.1 _ hkey
  rw [Query.bracketed?_bracket] at hnone
  cases hnone

end Feed

open Feed in
/-- A date that is given by reference stands for the parameter that is missing, although this one
must be there; an object that must be there is found missing. -/
theorem missing_date_is_filled :
    (∃ date, since.check validator arrival = .ok (some (.date date))) ∧
    filter.check validator arrival = .error (.ofViolation filter.absence) := by
  obtain ⟨date, hdate⟩ : ∃ date,
      validator.run (validator.defaultOf (.object [("$ref", .string "#/since")])) =
        .ok (some (.date date)) := ⟨_, rfl⟩
  have htype : validator.run (validator.declaredType (.object [("$ref", .string "#/since")])) =
      .ok "string" := rfl
  have hdefault : validator.run (validator.defaultOf (.object [("type", .string "object"),
      ("default", .object [("a", .integer 1)])])) = .ok (some (.object [("a", .integer 1)])) := rfl
  obtain ⟨hfills, -⟩ := check_missing rfl rfl rfl htype hdate ofText_arrival isMissing_since
  obtain ⟨-, habsent⟩ := check_missing rfl rfl rfl rfl hdefault ofText_arrival isMissing_filter
  exact ⟨⟨date, (hfills rfl (by decide) (by decide)).1⟩, habsent rfl⟩

open Feed in
/-- **An object whose keys stand in brackets does not take its default.**  Its type is known and it
has a default, but without a field that belongs to it it is found missing. -/
theorem default_of_filter_is_passed_over :
    (filter.declaredType validator).toOption = some "object" ∧
    filter.queryDefault validator = .ok (some (.object [("a", .integer 1)])) ∧
    filter.IsMissingIn arrival.request.query ∧
    filter.check validator arrival = .error (.ofViolation filter.absence) := by
  have hnone := read_arrival.2.2
  have habsent : filter.find validator "object" arrival = .ok .absent := by
    change Except.ok (Found.ofRaw (arrival.query.deepObject? filter.name)) = _
    rw [Option.isNone_iff_eq_none.1 hnone]
    rfl
  exact ⟨rfl, rfl, isMissing_filter, Sought.check_of_absent ⟨rfl, rfl, rfl⟩ habsent⟩

end Parameter

end ApiContract
