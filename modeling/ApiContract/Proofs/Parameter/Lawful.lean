/-
# Conversions obey the laws of walks

The search for the type of a parameter and the conversion of its value obey every law of walks
as well.  A union is the only place where an error of a walk is caught, and there the error of a
broken schema is raised again.
-/
import ApiContract.Proofs.Schema.Lawful
import ApiContract.Parameter.Coercion

namespace ApiContract

namespace Coercion

variable (law : Walk.Law)

/-! ## Types -/

lemma expectPrimitive_lawful {typeOf : Value → Walk SchemaError String}
    (h : ∀ schema, law.Holds (typeOf schema)) (branches : List Value) :
    law.Holds (expectPrimitive typeOf branches) := by
  induction branches with
  | nil => exact law.pure _
  | cons branch branches ih =>
    rw [expectPrimitive]
    refine law.bind (h branch) fun type => ?_
    split
    · exact ih
    · exact law.broken (by simp)

lemma typeOf_lawful {store : Store} (hstore : law.Covers store) (n : Nat) (schema : Value) :
    law.Holds (typeOf store n schema) := by
  induction n generalizing schema with
  | zero => exact law.tooDeep
  | succ n ih =>
    rw [typeOf]
    split
    · exact law.bind (law.resolve hstore _) fun (url, target) => law.inScope url (ih target)
    · split
      · exact law.pure _
      · exact law.broken (by simp [manyTypes])
      · split
        · exact law.bind (expectPrimitive_lawful law ih _) fun _ => law.pure _
        · exact law.pure _

/-! ## Leaves -/

/-- A result whose error, if it is one, is none of a schema. -/
def IsOwn (r : Except CoercionError Value) : Prop :=
  ∀ error, r ≠ .error (.schema error)

lemma boolean_isOwn (text : String) : IsOwn (boolean text) := by
  intro error
  rw [boolean]
  split <;> simp

lemma integer_isOwn (format : Option String) (text : String) : IsOwn (integer format text) := by
  intro error
  rw [integer]
  split
  · simp
  · split
    split <;> simp

lemma number_isOwn (text : String) : IsOwn (number text) := by
  intro error
  rw [number]
  split <;> simp

lemma liftExcept_lawful {r : Except CoercionError Value} (h : IsOwn r) :
    law.Holds (ofType.liftExcept r) := by
  cases r with
  | ok v => exact law.pure v
  | error e => exact law.fail fun error he => h error (by rw [he]; rfl)

/-! ## Values with parts -/

section

variable {convert : Conversion} (h : ∀ schema v, law.Holds (convert schema v))

include h

lemma declaredFields_lawful (declared : List (String × Value)) (fs : Fields) :
    law.Holds (declaredFields convert declared fs) := by
  induction declared generalizing fs with
  | nil => exact law.pure _
  | cons field declared ih =>
    rw [declaredFields]
    split
    · exact law.bind (h _ _) fun _ => ih _
    · exact ih _

lemma fields_lawful (schema : Value) (fs : Fields) : law.Holds (fields convert schema fs) := by
  rw [fields]
  refine law.bind (declaredFields_lawful law h _ fs) fun fs' => ?_
  split
  · exact law.pure _
  · refine law.bind (law.mapM fun (name, v) _ => ?_) fun _ => law.pure _
    dsimp only
    split
    · exact law.pure _
    · exact law.bind (h _ _) fun _ => law.pure _

lemma items_lawful (schema : Value) (vs : List Value) : law.Holds (items convert schema vs) := by
  rw [items]
  split
  · exact law.bind (law.mapM fun v _ => h _ v) fun _ => law.pure _
  · exact law.broken (by simp)

lemma ofType_lawful (schema : Value) (type : String) (v : Value) :
    law.Holds (ofType convert schema type v) := by
  unfold ofType
  split
  · exact law.pure _
  · exact liftExcept_lawful law (boolean_isOwn _)
  · exact liftExcept_lawful law (integer_isOwn _ _)
  · exact liftExcept_lawful law (number_isOwn _)
  · exact fields_lawful law h schema _
  · exact items_lawful law h schema _
  all_goals first | exact law.pure _ | exact law.broken (by simp)

lemma ofUnion_lawful {val : Validator} (hstore : law.Covers val.store) (v : Value)
    (branches : List (Value × Nat)) (violations : List Violation) :
    law.Holds (ofUnion val convert v branches violations) := by
  induction branches generalizing violations with
  | nil => exact law.fail fun error => by simp [SchemaFault.ofSchema]
  | cons branch branches ih =>
    obtain ⟨branch, i⟩ := branch
    rw [ofUnion]
    refine law.attempt (h branch v) (fun candidate => ?_) (fun e he => ?_) fun error => rfl
    · refine law.bind (law.apart hstore (law.widen (val.violations_lawful law hstore candidate
        branch))) fun rejected => ?_
      split
      · exact law.pure _
      · exact ih _
    · cases e with
      | schema error => exact absurd rfl (he error)
      | boolean | integer | outOfRange | number | noCandidate => exact ih _

end

lemma convert_lawful {val : Validator} (hstore : law.Covers val.store) (n : Nat)
    (schema v : Value) : law.Holds (convert val n schema v) := by
  induction n generalizing schema v with
  | zero => exact law.tooDeep
  | succ n ih =>
    rw [convert]
    split
    · exact law.bind (law.resolve hstore _) fun (url, target) => law.inScope url (ih target v)
    · split
      · exact ofUnion_lawful law ih hstore v _ _
      · split
        · exact ofType_lawful law ih schema _ v
        · exact ofType_lawful law ih schema _ v
        · exact law.broken (by simp [manyTypes])

end Coercion

namespace Validator

variable (law : Walk.Law) (val : Validator) (hstore : law.Covers val.store)

include hstore

lemma coerced_lawful (schema v : Value) : law.Holds (val.coerced schema v) :=
  Coercion.convert_lawful law hstore _ schema v

lemma declaredType_lawful (schema : Value) : law.Holds (val.declaredType schema) :=
  Coercion.typeOf_lawful law hstore _ schema

end Validator

end ApiContract
