/-
# Who answers for a failure

A check of an exchange looks at schemas in many places: to take a text apart, to find a default, to
convert a value, to validate it.  If a schema turns out to be broken in one of them, however deep
inside, then the check fails with just that error, and the service answers for it.  The caller
answers for nothing else than invalid input and content types that are not declared.
-/
import ApiContract.Exchange.Operation
import ApiContract.Proofs.Parameter.Stages
import ApiContract.Proofs.Walk.Loud
import ApiContract.Proofs.Schema.Lawful
import ApiContract.Proofs.Parameter.Lawful
import ApiContract.Proofs.Walk.Result

namespace ApiContract

/-! ## Failures -/

namespace Failure

/-- The failures that a check of a request may end with. -/
def isOfRequest : Failure → Bool
  | invalid _ | notAcceptable _ | unsupported _ | schema _ => true
  | responseContract _ | load _ => false

/-- The failure of a broken schema tells what is wrong with it and nothing about the input. -/
lemma ofSchema_eq (e : SchemaError) :
    (∃ feature, e = .unsupported feature ∧ ofSchema e = .unsupported feature) ∨
      ofSchema e = .schema e := by
  cases e <;> simp [ofSchema]

lemma isOfRequest_ofSchema (e : SchemaError) : (ofSchema e).isOfRequest = true := by
  obtain ⟨feature, -, h⟩ | h := ofSchema_eq e <;> rw [h] <;> rfl

lemma isClientSide_ofSchema (e : SchemaError) : (ofSchema e).isClientSide = false := by
  obtain ⟨feature, -, h⟩ | h := ofSchema_eq e <;> rw [h] <;> rfl

lemma status_ofSchema (e : SchemaError) (unprocessable : Bool) :
    (ofSchema e).status unprocessable = 500 := by
  obtain ⟨feature, -, h⟩ | h := ofSchema_eq e <;> rw [h] <;> rfl

end Failure

/-! ## Walks -/

namespace Validator

variable {val : Validator} {ε α : Type}

/-- An error of a schema is raised somewhere on a walk from the root document. -/
def Raises (val : Validator) (walk : Walk ε α) (e : SchemaError) : Prop :=
  .raised e ∈ (val.runOver .empty walk).2.notes

variable [SchemaFault ε]

/-- What is raised is what a run ends with. -/
lemma raises_iff {walk : Walk ε α} (h : walk.Loud) {e : SchemaError} :
    val.Raises walk e ↔ val.run walk = .error (SchemaFault.ofSchema e) := by
  obtain ⟨notes, hafter, hraised⟩ := h.raised (.start val.store .empty)
  have hnotes : (val.runOver .empty walk).2.notes = notes := hafter.trans (List.append_nil _)
  rw [Raises, hnotes]
  exact hraised e

lemma raises_validated_iff {v schema : Value} {e : SchemaError} :
    val.Raises (val.validated v schema) e ↔ val.validate v schema = .error (.ofSchema e) :=
  raises_iff (validated_lawful Walk.Loud.law trivial v schema)

/-- A validation that fails reports violations or a broken schema. -/
lemma validate_eq_error {v schema : Value} {failure : Failure}
    (h : val.validate v schema = .error failure) :
    (∃ violations, failure = .invalid violations) ∨
      ∃ e, failure = .ofSchema e ∧ val.Raises (val.validated v schema) e := by
  suffices (∃ violations, failure = .invalid violations) ∨ ∃ e, failure = .ofSchema e by
    refine this.imp_right ?_
    rintro ⟨e, he⟩
    exact ⟨e, he, raises_validated_iff.2 (he ▸ h)⟩
  have hexec : val.validate v schema =
      ((val.validated v schema).exec (.start val.store .empty)).1 := rfl
  rw [hexec, validated, Walk.exec_bind, Walk.exec_mapError] at h
  generalize (val.outcome v schema).exec (.start val.store .empty) = ended at h
  rcases ended with ⟨e | o, s⟩
  · exact Or.inr ⟨e, (Except.error.inj h).symm⟩
  · dsimp only [Except.mapError] at h
    split at h
    · exact Or.inl ⟨_, (Except.error.inj h).symm⟩
    · cases h

end Validator

/-! ## Parameters -/

namespace Parameter

variable {p : Parameter} {val : Validator} {source : Source} {type : String} {e : SchemaError}
  {failure : Failure}

/-- A parameter that is not in the query that it should be in, so that its default is asked for. -/
structure Missing (p : Parameter) (type : String) (query : Query) : Prop where
  /-- It is no exploded object. -/
  whole : ¬(p.style = .form ∧ p.explode ∧ type = "object")
  /-- It is no object in depth. -/
  flat : p.style ≠ .deepObject
  /-- There is no field with its name. -/
  absent : query.lookup p.name = none

/-- An error of a schema is raised while a parameter is checked.  Every place where the check looks
at the schema is listed, with what has led there. -/
inductive Raises (p : Parameter) (val : Validator) (source : Source) (e : SchemaError) : Prop where
  /-- The declared type is asked for. -/
  | type {schema : Value} (plain : p.allowsEmpty = false) (supported : p.style.isSupported = true)
      (declared : p.schema = some schema) (raises : val.Raises (val.declaredType schema) e)
  /-- The default is asked for. -/
  | default {type : String} {schema : Value} (sought : p.Sought val type)
      (located : p.location = .query) (missing : p.Missing type source.query)
      (declared : p.schema = some schema) (raises : val.Raises (val.defaultOf schema) e)
  /-- There is no way to take the text apart. -/
  | strategy {type text : String} (sought : p.Sought val type)
      (found : p.find val type source = .ok (.raw (.string text)))
      (raises : Strategy.choose p.style p.explode type = .error e)
  /-- The value is converted. -/
  | conversion {type : String} {raw v schema : Value} (sought : p.Sought val type)
      (found : p.find val type source = .ok (.raw raw)) (decoded : p.decode type raw = .ok v)
      (declared : p.schema = some schema) (raises : val.Raises (val.coerced schema v) e)
  /-- The value is validated. -/
  | validation {type : String} {raw v c schema : Value} (sought : p.Sought val type)
      (found : p.find val type source = .ok (.raw raw)) (decoded : p.decode type raw = .ok v)
      (declared : p.schema = some schema) (coerced : val.run (val.coerced schema v) = .ok c)
      (raises : val.Raises (val.validated c schema) e)

/-! ### What is raised is what the check ends with -/

lemma declaredType_of_raises {schema : Value} (hschema : p.schema = some schema)
    (h : val.Raises (val.declaredType schema) e) : p.declaredType val = .error (.ofSchema e) := by
  have hrun := (Validator.raises_iff (val.declaredType_lawful Walk.Loud.law trivial schema)).1 h
  rw [declaredType, hschema]
  exact congrArg (Except.mapError Failure.ofSchema) hrun

lemma find_of_raises {schema : Value} (hlocation : p.location = .query)
    (hmissing : p.Missing type source.query) (hschema : p.schema = some schema)
    (h : val.Raises (val.defaultOf schema) e) :
    p.find val type source = .error (.ofSchema e) := by
  have hrun := (Validator.raises_iff (Validator.defaultOf_lawful Walk.Loud.law trivial schema)).1 h
  simp only [find, hlocation, findInQuery, hmissing.whole, hmissing.flat, hmissing.absent, if_false,
    queryDefault, hschema, hrun]
  rfl

lemma typed_of_conversion {schema v : Value} (hschema : p.schema = some schema)
    (h : val.Raises (val.coerced schema v) e) : p.typed val v = .error (.ofSchema e) := by
  have hrun := (Validator.raises_iff (val.coerced_lawful Walk.Loud.law trivial schema v)).1 h
  rw [typed, hschema]
  simp only [hrun]
  rfl

lemma typed_of_validation {schema v c : Value} (hschema : p.schema = some schema)
    (hcoerced : val.run (val.coerced schema v) = .ok c)
    (h : val.Raises (val.validated c schema) e) :
    p.typed val v = .error (.ofSchema e) := by
  have hvalidate := Validator.raises_validated_iff.1 h
  rw [typed, hschema]
  simp only [hcoerced, Except.mapError, bind, Except.bind]
  obtain ⟨feature, -, hfailure⟩ | hfailure := Failure.ofSchema_eq e <;>
    simp only [hvalidate, hfailure] <;> rfl

/-- What is raised while a parameter is checked is what the check ends with. -/
lemma Raises.check_eq (h : p.Raises val source e) : p.check val source = .error (.ofSchema e) := by
  cases h with
  | type plain supported declared raises =>
    simp only [check, plain, supported, declaredType_of_raises declared raises, Bool.false_eq_true,
      if_false, Bool.not_true]
    rfl
  | default sought located missing declared raises =>
    exact sought.check_of_error (find_of_raises located missing declared raises)
  | strategy sought found raises =>
    rw [sought.check_of_raw found, decode, raises]
    rfl
  | conversion sought found decoded declared raises =>
    have htyped := typed_of_conversion declared raises
    rw [sought.check_of_raw found, decoded]
    exact congrArg (Except.map some) htyped
  | validation sought found decoded declared coerced raises =>
    have htyped := typed_of_validation declared coerced raises
    rw [sought.check_of_raw found, decoded]
    exact congrArg (Except.map some) htyped

/-! ### What a check ends with -/

lemma declaredType_eq_error (h : p.declaredType val = .error failure) :
    ∃ schema e, p.schema = some schema ∧ val.Raises (val.declaredType schema) e ∧
      failure = .ofSchema e := by
  rw [declaredType] at h
  split at h
  · rename_i schema hschema
    have hloud := val.declaredType_lawful Walk.Loud.law trivial schema
    rcases hrun : val.run (val.declaredType schema) with e | type
    · rw [hrun] at h
      exact ⟨schema, e, hschema, (Validator.raises_iff hloud).2 hrun, (Except.error.inj h).symm⟩
    · rw [hrun] at h
      cases h
  · cases h

lemma queryDefault_eq_error (h : p.queryDefault val = .error failure) :
    ∃ schema e, p.schema = some schema ∧ val.Raises (val.defaultOf schema) e ∧
      failure = .ofSchema e := by
  rw [queryDefault] at h
  split at h
  · rename_i schema hschema
    have hloud : (val.defaultOf schema).Loud :=
      Validator.defaultOf_lawful Walk.Loud.law trivial schema
    rcases hrun : val.run (val.defaultOf schema) with e | d
    · rw [hrun] at h
      exact ⟨schema, e, hschema, (Validator.raises_iff hloud).2 hrun, (Except.error.inj h).symm⟩
    · rw [hrun] at h
      cases h
  · cases h

lemma find_eq_error (h : p.find val type source = .error failure) :
    (∃ feature, failure = .unsupported feature) ∨
      ∃ schema e, p.location = .query ∧ p.Missing type source.query ∧ p.schema = some schema ∧
        val.Raises (val.defaultOf schema) e ∧ failure = .ofSchema e := by
  rw [find] at h
  split at h
  · cases h
  · rename_i hlocation
    rw [findInQuery] at h
    split at h
    · exact Or.inl ⟨_, (Except.error.inj h).symm⟩
    rename_i hwhole
    split at h
    · cases h
    · rename_i hflat
      split at h
      · split at h <;> cases h
      · rename_i habsent
        rcases hdefault : p.queryDefault val with failure' | d
        · rw [hdefault] at h
          obtain ⟨schema, e, hschema, hraises, rfl⟩ := queryDefault_eq_error hdefault
          exact Or.inr ⟨schema, e, hlocation, ⟨hwhole, hflat, habsent⟩, hschema, hraises,
            (Except.error.inj h).symm⟩
        · rw [hdefault] at h
          cases h
  · cases h
  · exact Or.inl ⟨_, (Except.error.inj h).symm⟩

lemma decode_eq_error {raw : Value} (h : p.decode type raw = .error failure) :
    (∃ violations, failure = .invalid violations) ∨
      ∃ text e, raw = .string text ∧ Strategy.choose p.style p.explode type = .error e ∧
        failure = .ofSchema e := by
  unfold decode at h
  split at h
  · rename_i text
    rcases hchoose : Strategy.choose p.style p.explode type with e | strategy
    · rw [hchoose] at h
      exact Or.inr ⟨text, e, rfl, rfl, (Except.error.inj h).symm⟩
    · rw [hchoose] at h
      dsimp only [Except.mapError, bind, Except.bind] at h
      split at h
      · cases h
      · exact Or.inl ⟨_, (Except.error.inj h).symm⟩
  · cases h

lemma typed_eq_error {v : Value} (h : p.typed val v = .error failure) :
    (∃ violations, failure = .invalid violations) ∨
      ∃ schema e, p.schema = some schema ∧ failure = .ofSchema e ∧
        (val.Raises (val.coerced schema v) e ∨
          ∃ c, val.run (val.coerced schema v) = .ok c ∧ val.Raises (val.validated c schema) e) := by
  rw [typed] at h
  split at h
  · cases h
  · rename_i schema hschema
    have hloud := val.coerced_lawful Walk.Loud.law trivial schema v
    rcases hrun : val.run (val.coerced schema v) with error | c
    · rw [hrun] at h
      obtain rfl := Except.error.inj h
      refine (p.coercionFailure_eq error).imp_right ?_
      rintro ⟨e, rfl, he⟩
      exact ⟨schema, e, hschema, he, Or.inl ((Validator.raises_iff hloud).2 hrun)⟩
    · rw [hrun] at h
      dsimp only [Except.mapError, bind, Except.bind] at h
      split at h
      · cases h
      · exact Or.inl ⟨_, (Except.error.inj h).symm⟩
      · rename_i failure' _ hvalidate
        obtain rfl := Except.error.inj h
        refine (Validator.validate_eq_error hvalidate).imp_right ?_
        rintro ⟨e, rfl, hraises⟩
        exact ⟨schema, e, hschema, rfl, Or.inr ⟨c, hrun, hraises⟩⟩

/-- A check that fails reports violations, something that is not supported, or what is raised. -/
lemma check_eq_error (h : p.check val source = .error failure) :
    (∃ violations, failure = .invalid violations) ∨ (∃ feature, failure = .unsupported feature) ∨
      ∃ e, p.Raises val source e ∧ failure = .ofSchema e := by
  by_cases hplain : p.allowsEmpty
  · simp only [check, hplain, if_true] at h
    exact Or.inr (Or.inl ⟨_, (Except.error.inj h).symm⟩)
  rw [Bool.not_eq_true] at hplain
  by_cases hsupported : p.style.isSupported = false
  · simp only [check, hplain, hsupported, Bool.false_eq_true, if_false, Bool.not_false,
      if_true] at h
    exact Or.inr (Or.inl ⟨_, (Except.error.inj h).symm⟩)
  rw [Bool.not_eq_false] at hsupported
  rcases htype : p.declaredType val with failure' | type
  · obtain ⟨schema, e, hschema, hraises, rfl⟩ := declaredType_eq_error htype
    have hend : p.Raises val source e := .type hplain hsupported hschema hraises
    rw [hend.check_eq] at h
    exact Or.inr (Or.inr ⟨e, hend, (Except.error.inj h).symm⟩)
  have hsought : p.Sought val type := ⟨hplain, hsupported, htype⟩
  rcases hfind : p.find val type source with failure' | found
  · obtain rfl := Except.error.inj ((hsought.check_of_error hfind).symm.trans h)
    obtain hfeature | ⟨schema, e, hlocation, hmissing, hschema, hraises, rfl⟩ := find_eq_error hfind
    · exact Or.inr (Or.inl hfeature)
    · exact Or.inr (Or.inr ⟨e, .default hsought hlocation hmissing hschema hraises, rfl⟩)
  cases found with
  | default v =>
    rw [hsought.check_of_default hfind] at h
    cases h
  | absent =>
    rw [hsought.check_of_absent hfind] at h
    split_ifs at h
    exact Or.inl ⟨_, (Except.error.inj h).symm⟩
  | raw raw =>
    rw [hsought.check_of_raw hfind] at h
    rcases hdecode : p.decode type raw with failure' | v
    · rw [hdecode] at h
      obtain rfl : failure' = failure := Except.error.inj h
      refine (decode_eq_error hdecode).imp_right ?_
      rintro ⟨text, e, hraw, hchoose, he⟩
      exact Or.inr ⟨e, .strategy hsought (hraw ▸ hfind) hchoose, he⟩
    · rw [hdecode] at h
      rcases htyped : p.typed val v with failure' | w
      · obtain rfl : failure' = failure :=
          Except.error.inj (by rw [← h]; simp [bind, Except.bind, htyped, Except.map])
        refine (typed_eq_error htyped).imp_right ?_
        rintro ⟨schema, e, hschema, he, hraises | ⟨c, hcoerced, hraises⟩⟩
        · exact Or.inr ⟨e, .conversion hsought hfind hdecode hschema hraises, he⟩
        · exact Or.inr ⟨e, .validation hsought hfind hdecode hschema hcoerced hraises, he⟩
      · simp [bind, Except.bind, htyped, Except.map] at h

end Parameter

/-! ## All parameters -/

namespace Parameters

variable {val : Validator} {source : Source} {e : SchemaError} {ps : Parameters}
  {failure : Failure}

/-- An error of a schema is raised while parameters are checked.  The check goes on after those
that pass and after those that are invalid. -/
inductive Raises (val : Validator) (source : Source) (e : SchemaError) : Parameters → Prop where
  /-- By the first of them. -/
  | here {p : Parameter} {ps : Parameters} (raises : p.Raises val source e) :
      Raises val source e (p :: ps)
  /-- By a later one, after one that passes. -/
  | afterOk {p : Parameter} {ps : Parameters} {found : Option Value}
      (passes : p.check val source = .ok found) (raises : Raises val source e ps) :
      Raises val source e (p :: ps)
  /-- By a later one, after one that is invalid. -/
  | afterInvalid {p : Parameter} {ps : Parameters} {violations : Violations}
      (fails : p.check val source = .error (.invalid violations))
      (raises : Raises val source e ps) : Raises val source e (p :: ps)

lemma Raises.collect_eq (h : Raises val source e ps) (values : List (String × Value))
    (violations : List Violation) :
    collect val source ps values violations = .error (.ofSchema e) := by
  induction h generalizing values violations with
  | here raises =>
    have hcheck := raises.check_eq
    obtain ⟨feature, -, hfailure⟩ | hfailure := Failure.ofSchema_eq e <;>
      simp [collect, hcheck, hfailure]
  | @afterOk p ps found passes _ ih =>
    cases found with
    | none => simpa only [collect, passes] using ih values violations
    | some v => simpa only [collect, passes] using ih _ violations
  | afterInvalid fails _ ih => simpa only [collect, fails] using ih values _

lemma collect_eq_error {values : List (String × Value)} {violations : List Violation}
    (h : collect val source ps values violations = .error failure) :
    (∃ feature, failure = .unsupported feature) ∨
      ∃ e, Raises val source e ps ∧ failure = .ofSchema e := by
  induction ps generalizing values violations with
  | nil => cases h
  | cons p ps ih =>
    rw [collect] at h
    split at h
    · rename_i hcheck
      exact (ih h).imp_right fun ⟨e, hraises, he⟩ => ⟨e, .afterOk hcheck hraises, he⟩
    · rename_i hcheck
      exact (ih h).imp_right fun ⟨e, hraises, he⟩ => ⟨e, .afterOk hcheck hraises, he⟩
    · rename_i hcheck
      exact (ih h).imp_right fun ⟨e, hraises, he⟩ => ⟨e, .afterInvalid hcheck hraises, he⟩
    · rename_i failure' hvalid hcheck
      obtain rfl := Except.error.inj h
      obtain ⟨violations, rfl⟩ | hfeature | ⟨e, hraises, he⟩ := Parameter.check_eq_error hcheck
      · exact absurd rfl (hvalid violations)
      · exact Or.inl hfeature
      · exact Or.inr ⟨e, .here hraises, he⟩

lemma Raises.check_eq (h : Raises val source e ps) :
    ps.check val source = .error (.ofSchema e) := by
  rw [check, h.collect_eq]
  rfl

lemma check_eq_error (h : ps.check val source = .error failure) :
    (∃ violations, failure = .invalid violations) ∨ (∃ feature, failure = .unsupported feature) ∨
      ∃ e, Raises val source e ps ∧ failure = .ofSchema e := by
  rw [check] at h
  rcases hcollect : collect val source ps [] [] with failure' | ⟨values, violations⟩
  · rw [hcollect] at h
    obtain rfl : failure' = failure := Except.error.inj h
    exact Or.inr (collect_eq_error hcollect)
  · rw [hcollect] at h
    dsimp only [bind, Except.bind] at h
    split at h
    · exact Or.inl ⟨_, (Except.error.inj h).symm⟩
    · cases h

end Parameters

/-! ## Bodies -/

namespace RequestBody

variable {declared : RequestBody} {val : Validator} {request : Request} {e : SchemaError}
  {failure : Failure}

/-- An error of a schema is raised while the body of a request is checked. -/
inductive Raises (declared : RequestBody) (val : Validator) (request : Request) (e : SchemaError) :
    Prop where
  /-- The value of a body of JSON is validated. -/
  | validation {contentType : String} {v schema : Value}
      (typed : request.contentType = some contentType)
      (accepted : declared.accepts contentType = true)
      (isJson : MediaType.ofContentType contentType = MediaType.json)
      (present : request.body.isEmpty = false) (read : Json.ofBytes request.body = .ok v)
      (described : (declared.content.lookup MediaType.json).join = some schema)
      (raises : val.Raises (val.validated v schema) e)

lemma Raises.check_eq (h : declared.Raises val request e) :
    declared.check val request = .error (.ofSchema e) := by
  cases h with
  | validation typed accepted isJson present read described raises =>
    simp only [check, typed, accepted, isJson, checkJson, present, read, described,
      Validator.raises_validated_iff.1 raises, Bool.not_true, Bool.false_eq_true, if_false, if_true]
    rfl

lemma check_eq_error (h : declared.check val request = .error failure) :
    (∃ violations, failure = .invalid violations) ∨
      (∃ contentType, failure = .notAcceptable contentType) ∨
        ∃ e, declared.Raises val request e ∧ failure = .ofSchema e := by
  rw [check] at h
  split at h
  · split at h
    · cases h
    · exact Or.inr (Or.inl ⟨_, (Except.error.inj h).symm⟩)
  · rename_i contentType htyped
    split at h
    · exact Or.inr (Or.inl ⟨_, (Except.error.inj h).symm⟩)
    rename_i haccepted
    split at h
    swap
    · cases h
    rename_i hjson
    rw [checkJson] at h
    split at h
    · split at h
      · exact Or.inl ⟨_, (Except.error.inj h).symm⟩
      · cases h
    rename_i hpresent
    split at h
    · exact Or.inl ⟨_, (Except.error.inj h).symm⟩
    rename_i v hread
    split at h
    · rename_i schema hschema
      rcases hvalidate : val.validate v schema with failure' | out
      · rw [hvalidate] at h
        obtain rfl := Except.error.inj h
        refine (Validator.validate_eq_error hvalidate).imp_right ?_
        rintro ⟨e, he, hraises⟩
        exact Or.inr ⟨e, .validation htyped (by simpa using haccepted) hjson
          (by simpa using hpresent) hread hschema hraises, he⟩
      · rw [hvalidate] at h
        cases h
    · cases h

end RequestBody

namespace Responses

variable {responses : Responses} {val : Validator} {response : Response} {e : SchemaError}
  {failure : Failure}

/-- An error of a schema is raised while a response is checked. -/
inductive Raises (responses : Responses) (val : Validator) (response : Response) (e : SchemaError) :
    Prop where
  /-- The value of a body of JSON is validated. -/
  | validation {content : Content} {contentType : String} {v schema : Value}
      (found : responses.find? response.status = some content) (filled : content ≠ [])
      (typed : response.contentType = some contentType)
      (isJson : MediaType.ofContentType contentType = MediaType.json)
      (described : (content.lookup MediaType.json).join = some schema)
      (read : Json.ofBytes response.body = .ok v)
      (raises : val.Raises (val.validated v schema) e)

lemma checkJson_of_raises {body : List UInt8} {v schema : Value} (hread : Json.ofBytes body = .ok v)
    (hraises : val.Raises (val.validated v schema) e) :
    checkJson val schema body = .error (.ofSchema e) := by
  have hvalidate := Validator.raises_validated_iff.1 hraises
  obtain ⟨feature, -, hfailure⟩ | hfailure := Failure.ofSchema_eq e <;>
    simp only [checkJson, hread, hvalidate, hfailure]

lemma Raises.check_eq (h : responses.Raises val response e) :
    responses.check val response = .error (.ofSchema e) := by
  cases h with
  | @validation content _ _ _ found filled typed isJson described read raises =>
    obtain ⟨entry, content, rfl⟩ := List.exists_cons_of_ne_nil filled
    simp only [check, found, judge, typed, isJson, described, Option.any_some, decide_true]
    exact checkJson_of_raises read raises

lemma checkJson_eq_error {schema : Value} {body : List UInt8}
    (h : checkJson val schema body = .error failure) :
    (∃ violations, failure = .responseContract violations) ∨
      ∃ v e, Json.ofBytes body = .ok v ∧ val.Raises (val.validated v schema) e ∧
        failure = .ofSchema e := by
  rw [checkJson] at h
  split at h
  · exact Or.inl ⟨_, (Except.error.inj h).symm⟩
  · rename_i v hread
    split at h
    · cases h
    · exact Or.inl ⟨_, (Except.error.inj h).symm⟩
    · rename_i failure' hvalid hvalidate
      obtain rfl := Except.error.inj h
      obtain ⟨violations, rfl⟩ | ⟨e, he, hraises⟩ := Validator.validate_eq_error hvalidate
      · exact absurd rfl (hvalid violations)
      · exact Or.inr ⟨v, e, hread, hraises, he⟩

lemma check_eq_error (h : responses.check val response = .error failure) :
    (∃ violations, failure = .responseContract violations) ∨
      ∃ e, responses.Raises val response e ∧ failure = .ofSchema e := by
  rw [check] at h
  split at h
  · exact Or.inl ⟨_, (Except.error.inj h).symm⟩
  · rename_i content hfound
    unfold judge at h
    split at h
    · split at h
      · cases h
      · exact Or.inl ⟨_, (Except.error.inj h).symm⟩
    · rename_i hfilled
      dsimp only at h
      split at h
      · rename_i schema hjson hschema
        refine (checkJson_eq_error h).imp_right fun ⟨v, e, hread, hraises, he⟩ => ⟨e, ?_, he⟩
        rcases htyped : response.contentType with _ | contentType
        · rw [htyped] at hjson
          cases hjson
        · rw [htyped, Option.any_some, decide_eq_true_eq] at hjson
          exact .validation hfound hfilled htyped hjson hschema hread hraises
      · cases h

end Responses

/-! ## Exchanges -/

namespace Operation

variable {op : Operation} {val : Validator} {path : List (String × String)} {request : Request}
  {e : SchemaError} {failure : Failure}

/-- An error of a schema is raised while a request is checked: by a parameter, or by the body if all
parameters have passed. -/
inductive RaisesOnRequest (op : Operation) (val : Validator) (path : List (String × String))
    (request : Request) (e : SchemaError) : Prop where
  /-- By a parameter. -/
  | parameters {query : Query} (read : readQuery request = .ok query)
      (raises : Parameters.Raises val ⟨path, query, request⟩ e op.parameters)
  /-- By the body. -/
  | body {query : Query} {values : List (String × Value)} {declared : RequestBody}
      (read : readQuery request = .ok query)
      (passes : op.parameters.check val ⟨path, query, request⟩ = .ok values)
      (described : op.body = some declared) (raises : declared.Raises val request e)

lemma RaisesOnRequest.checkRequest_eq (h : op.RaisesOnRequest val path request e) :
    op.checkRequest val path request = .error (.ofSchema e) := by
  cases h with
  | parameters read raises =>
    simp only [checkRequest, read, raises.check_eq, bind, Except.bind]
  | body read passes described raises =>
    simp only [checkRequest, read, passes, described, raises.check_eq, bind, Except.bind]

/-- A check of a request that fails reports violations, a content type, something that is not
supported, or what is raised. -/
lemma checkRequest_eq_error (h : op.checkRequest val path request = .error failure) :
    (∃ violations, failure = .invalid violations) ∨
      (∃ contentType, failure = .notAcceptable contentType) ∨
        (∃ feature, failure = .unsupported feature) ∨
          ∃ e, op.RaisesOnRequest val path request e ∧ failure = .ofSchema e := by
  rcases hread : readQuery request with failure' | query
  · simp only [checkRequest, hread, bind, Except.bind, Except.error.injEq] at h
    subst h
    rw [readQuery] at hread
    split at hread
    · cases hread
    · exact Or.inl ⟨_, (Except.error.inj hread).symm⟩
  rcases hcheck : op.parameters.check val ⟨path, query, request⟩ with failure' | values
  · simp only [checkRequest, hread, hcheck, bind, Except.bind, Except.error.injEq] at h
    subst h
    refine (Parameters.check_eq_error hcheck).imp_right fun hrest => Or.inr (hrest.imp_right ?_)
    exact fun ⟨e, hraises, he⟩ => ⟨e, .parameters hread hraises, he⟩
  rcases hbody : op.body with _ | declared
  · simp only [checkRequest, hread, hcheck, hbody, bind, Except.bind] at h
    cases h
  rcases hdeclared : declared.check val request with failure' | v
  · simp only [checkRequest, hread, hcheck, hbody, hdeclared, bind, Except.bind,
      Except.error.injEq] at h
    subst h
    refine (RequestBody.check_eq_error hdeclared).imp_right fun hrest => hrest.imp_right ?_
    exact fun ⟨e, hraises, he⟩ => Or.inr ⟨e, .body hread hcheck hbody hraises, he⟩
  · simp only [checkRequest, hread, hcheck, hbody, hdeclared, bind, Except.bind] at h
    cases h

/-- A request fails with an error of a schema exactly if that is raised.  Something that is not
supported is told apart. -/
theorem checkRequest_eq_schema_iff :
    op.checkRequest val path request = .error (.schema e) ↔
      op.RaisesOnRequest val path request e ∧ ∀ feature, e ≠ .unsupported feature := by
  constructor
  · intro h
    obtain ⟨_, h⟩ | ⟨_, h⟩ | ⟨_, h⟩ | ⟨e', hraises, h⟩ := checkRequest_eq_error h
    · cases h
    · cases h
    · cases h
    · obtain ⟨feature, -, hfailure⟩ | hfailure := Failure.ofSchema_eq e'
      · rw [hfailure] at h
        cases h
      · rw [hfailure] at h
        obtain rfl := Failure.schema.inj h
        refine ⟨hraises, ?_⟩
        rintro feature rfl
        cases hfailure
  · rintro ⟨hraises, hsupported⟩
    rw [hraises.checkRequest_eq]
    obtain ⟨feature, he, -⟩ | hfailure := Failure.ofSchema_eq e
    · exact absurd he (hsupported feature)
    · rw [hfailure]

/-- **Failures stay on their side of the exchange.**  The service answers for every response that
fails, with status 500.  A request fails for reasons of requests alone.  An error of a schema that
is raised on the way, wherever that is, is what the check ends with: it tells of the schema and
not of the input, the service answers for it with status 500, and no violations are reported with
it.  Violations are never reported without one. -/
theorem failures_stay_on_their_side (op : Operation) (val : Validator)
    (path : List (String × String)) :
    (∀ response failure, op.checkResponse val response = .error failure →
      failure.isClientSide = false ∧ ∀ unprocessable, failure.status unprocessable = 500) ∧
    (∀ request failure, op.checkRequest val path request = .error failure →
      failure.isOfRequest = true) ∧
    (∀ request e, op.RaisesOnRequest val path request e →
      op.checkRequest val path request = .error (.ofSchema e)) ∧
    (∀ response e, op.responses.Raises val response e →
      op.checkResponse val response = .error (.ofSchema e)) ∧
    (∀ e, ((∃ feature, Failure.ofSchema e = .unsupported feature) ∨
        Failure.ofSchema e = .schema e) ∧
      (Failure.ofSchema e).isClientSide = false ∧
      (∀ unprocessable, (Failure.ofSchema e).status unprocessable = 500) ∧
      (Failure.ofSchema e).violations? = none) ∧
    ∀ (failure : Failure) violations, failure.violations? = some violations →
      violations.toList ≠ [] := by
  refine ⟨fun response failure h => ?_, fun request failure h => ?_, ?_, ?_, fun e => ?_, ?_⟩
  · obtain ⟨violations, rfl⟩ | ⟨e, -, rfl⟩ := Responses.check_eq_error h
    · exact ⟨rfl, fun _ => rfl⟩
    · exact ⟨Failure.isClientSide_ofSchema e, Failure.status_ofSchema e⟩
  · obtain ⟨_, rfl⟩ | ⟨_, rfl⟩ | ⟨_, rfl⟩ | ⟨e, -, rfl⟩ := checkRequest_eq_error h
    · rfl
    · rfl
    · rfl
    · exact Failure.isOfRequest_ofSchema e
  · exact fun request e h => h.checkRequest_eq
  · exact fun response e h => h.check_eq
  · refine ⟨?_, Failure.isClientSide_ofSchema e, Failure.status_ofSchema e, ?_⟩
    · exact (Failure.ofSchema_eq e).imp_left fun ⟨feature, _, h⟩ => ⟨feature, h⟩
    · obtain ⟨feature, -, h⟩ | h := Failure.ofSchema_eq e <;> rw [h] <;> rfl
  · exact fun failure violations _ => violations.ne_nil

/-! ### A broken member of a union -/

namespace BrokenMember

/-- A union of integers and of texts with a pattern that cannot be read. -/
def schema : Value := .object [("oneOf", .array [
  .object [("type", .string "integer")],
  .object [("type", .string "string"), ("pattern", .string "(")]])]

/-- A parameter of the path. -/
def parameter : Parameter := ⟨"n", .path, .simple, false, true, false, some schema⟩

/-- An operation with this parameter alone. -/
def operation : Operation := ⟨[parameter], none, .empty⟩

end BrokenMember

open BrokenMember in
/-- The text is no integer, which would make it invalid.  But then the other member is tried, and
its pattern cannot be read: that is what the check ends with. -/
theorem broken_member_surfaces :
    operation.RaisesOnRequest Dialect.oas3.alone [("n", "abc")] {} (.invalidPattern "(") ∧
      operation.checkRequest Dialect.oas3.alone [("n", "abc")] {} =
        .error (.schema (.invalidPattern "(")) := by
  have htype : parameter.declaredType Dialect.oas3.alone = .ok "string" := rfl
  have hraised : Dialect.oas3.alone.Raises (Dialect.oas3.alone.coerced schema (.string "abc"))
      (.invalidPattern "(") := by
    unfold Validator.Raises
    decide
  have hraises : operation.RaisesOnRequest Dialect.oas3.alone [("n", "abc")] {}
      (.invalidPattern "(") := by
    have hparameter : parameter.Raises Dialect.oas3.alone ⟨[("n", "abc")], [], {}⟩
        (.invalidPattern "(") :=
      .conversion ⟨rfl, rfl, htype⟩ rfl rfl rfl hraised
    exact .parameters rfl (.here hparameter)
  obtain ⟨-, -, hsurfaces, -⟩ := failures_stay_on_their_side operation Dialect.oas3.alone
    [("n", "abc")]
  exact ⟨hraises, hsurfaces {} _ hraises⟩

end Operation

end ApiContract
