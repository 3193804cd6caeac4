/-
# Visits obey the laws of walks

Validation, the search for defaults and the search for formats obey every law of walks, however
deep they go and however they end.  Every keyword obeys a law as long as the visits of the
schemas below it do, so the visits obey it by induction on their depth.  Errors are raised in
many places; none of them is an underflow of scopes, since a scope is only left by the walk that
has entered it.
-/
import ApiContract.Proofs.Walk.Law
import ApiContract.Schema.Validate

namespace ApiContract

namespace Walk.Law

/-- All visits obey a law. -/
def Visits (law : Law) (visit : Visit) : Prop :=
  ∀ v schema, law.Holds (visit v schema)

/-- References are followed by walks that obey a law. -/
def Follows (law : Law) (follow : Follow) : Prop :=
  ∀ v reference, law.Holds (follow v reference)

end Walk.Law

/-! ## Constraints on a value -/

namespace Constraint

/-- A result whose error, if it is one, lies in the schema itself: neither scopes nor
references have anything to do with it. -/
def Inherent {α : Type} (r : Except SchemaError α) : Prop :=
  r ≠ .error .scopeUnderflow ∧ ∀ url, r ≠ .error (.referenceCycle url)

namespace Inherent

variable {α β : Type}

lemma ok (a : α) : Inherent (.ok a) := by
  simp [Inherent]

lemma error {e : SchemaError} (h : e ≠ .scopeUnderflow) (hcycle : ∀ url, e ≠ .referenceCycle url) :
    Inherent (.error e : Except SchemaError α) := by
  simpa [Inherent] using ⟨h, hcycle⟩

lemma malformed (k : Keyword) (expected : String) :
    Inherent (.error (malformed k expected) : Except SchemaError α) :=
  error (by simp [Constraint.malformed]) (by simp [Constraint.malformed])

lemma bind {r : Except SchemaError α} {f : α → Except SchemaError β} (hr : Inherent r)
    (hf : ∀ a, Inherent (f a)) : Inherent (r >>= f) := by
  cases r with
  | error e => simpa [Inherent, Bind.bind, Except.bind] using hr
  | ok a => exact hf a

lemma mapM {l : List α} {f : α → Except SchemaError β} (hf : ∀ a, Inherent (f a)) :
    Inherent (l.mapM f) := by
  induction l with
  | nil => exact ok []
  | cons a l ih =>
    rw [List.mapM_cons]
    exact (hf a).bind fun b => ih.bind fun bs => ok _

lemma expect (holds : Bool) (message : String) : Inherent (expect holds message) :=
  ok _

lemma hasType (v : Value) (type : String) : Inherent (hasType v type) := by
  unfold Constraint.hasType
  split <;> first | exact ok _ | exact error (by simp) (by simp)

lemma hasSomeType (v : Value) (types : List String) : Inherent (hasSomeType v types) := by
  induction types with
  | nil => exact ok _
  | cons type types ih =>
    rw [Constraint.hasSomeType]
    refine (hasType v type).bind fun b => ?_
    split
    · exact ok _
    · exact ih

lemma elim_string (name : Value) (k : Keyword) (expected : String) :
    Inherent (name.string?.elim (.error (Constraint.malformed k expected)) .ok) := by
  cases name.string? with
  | none => exact malformed k expected
  | some s => exact ok s

lemma typeNames (value : Value) : Inherent (typeNames value) := by
  unfold Constraint.typeNames
  split
  · exact ok _
  · exact mapM fun name => elim_string name _ _
  · exact malformed _ _

lemma type (v value : Value) : Inherent (type v value) :=
  (typeNames value).bind fun names => (hasSomeType v names).bind fun _ => expect _ _

lemma enum (v value : Value) : Inherent (enum v value) := by
  unfold Constraint.enum
  split
  · exact expect _ _
  · exact malformed _ _

lemma bound (k : Keyword) (value : Value) : Inherent (bound k value) := by
  rw [Constraint.bound]
  cases value.natural? with
  | none => exact malformed k _
  | some n => exact ok n

lemma atLeast (k : Keyword) (size : Option Nat) (value : Value) (message : String) :
    Inherent (atLeast k size value message) :=
  (bound k value).bind fun _ => expect _ _

lemma atMost (k : Keyword) (size : Option Nat) (value : Value) (message : String) :
    Inherent (atMost k size value message) :=
  (bound k value).bind fun _ => expect _ _

lemma minimum (schema : Fields) (v value : Value) : Inherent (minimum schema v value) := by
  rw [Constraint.minimum]
  split
  · exact malformed _ _
  · split
    · exact ok _
    · split <;> exact expect _ _

lemma maximum (schema : Fields) (v value : Value) : Inherent (maximum schema v value) := by
  rw [Constraint.maximum]
  split
  · exact malformed _ _
  · split
    · exact ok _
    · split <;> exact expect _ _

lemma multipleOf (v value : Value) : Inherent (multipleOf v value) := by
  rw [Constraint.multipleOf]
  split
  · exact malformed _ _
  · split
    · exact malformed _ _
    · exact expect _ _

lemma uniqueItems (v value : Value) : Inherent (uniqueItems v value) := by
  unfold Constraint.uniqueItems
  split
  · exact expect _ _
  · exact malformed _ _

lemma required (v value : Value) : Inherent (required v value) := by
  unfold Constraint.required
  split
  · split
    · exact (mapM fun name => elim_string name _ _).bind fun _ => ok _
    · exact ok _
  · exact malformed _ _

end Inherent
end Constraint

/-! ## Defaults -/

namespace Validator

variable (law : Walk.Law)

lemma findDefault_lawful {store : Store} (hstore : law.Covers store) (n : Nat) (schema : Value) :
    law.Holds (findDefault store n schema) := by
  induction n generalizing schema with
  | zero => exact law.tooDeep
  | succ n ih =>
    rw [findDefault]
    split
    · exact law.bind (law.resolve hstore _) fun (url, target) => law.inScope url (ih target)
    · split
      · exact law.pure _
      · split
        · refine law.bind (law.mapM fun branch _ => ih branch) fun found => ?_
          split <;> exact law.pure _
        · exact law.pure _

lemma declaredFormat_lawful {store : Store} (hstore : law.Covers store) (n : Nat)
    (schema : Value) : law.Holds (declaredFormat store n schema) := by
  induction n generalizing schema with
  | zero => exact law.tooDeep
  | succ n ih =>
    rw [declaredFormat]
    split
    · exact law.bind (law.resolve hstore _) fun (url, target) => law.inScope url (ih target)
    · exact law.pure _

variable {val : Validator} (hstore : law.Covers val.store)

include hstore

lemma declaredDefault_lawful (schema : Value) : law.Holds (val.declaredDefault schema) := by
  rw [declaredDefault]
  split
  · exact findDefault_lawful law hstore _ _
  · exact law.pure _

lemma typedDefault_lawful (default schema : Value) :
    law.Holds (val.typedDefault default schema) := by
  refine law.bind (declaredFormat_lawful law hstore _ schema) fun format => ?_
  split
  · exact law.pure _
  · split <;> exact law.pure _

lemma defaultOf_lawful (schema : Value) : law.Holds (val.defaultOf schema) := by
  refine law.bind (val.declaredDefault_lawful law hstore schema) fun default => ?_
  split
  · exact law.pure _
  · split
    · exact law.pure _
    · exact law.bind (val.typedDefault_lawful law hstore _ schema) fun _ => law.pure _

end Validator

/-! ## Keywords -/

namespace Applicator

variable (law : Walk.Law) {val : Validator} {follow : Follow} {visit : Visit}

lemma malformed_lawful {α : Type} (k : Keyword) (expected : String) :
    law.Holds (Walk.broken (Constraint.malformed k expected) : Walk SchemaError α) :=
  law.broken (by simp [Constraint.malformed])

lemma constraint_lawful {messages : Constraint.Messages} (h : Constraint.Inherent messages) :
    law.Holds (constraint messages) :=
  law.bind (law.ofExcept h.1) fun _ => law.pure _

lemma ref_lawful (hfollow : law.Follows follow) (v value : Value) :
    law.Holds (ref follow v value) := by
  unfold ref
  split
  · exact law.map (hfollow v _) _
  · exact malformed_lawful law _ _

lemma extraFields_lawful (fields schema : Fields) : law.Holds (extraFields fields schema) := by
  rw [extraFields]
  split
  · exact law.pure _
  · exact law.bind (law.pattern _) fun _ => law.pure _

lemma pattern_lawful (v value : Value) : law.Holds (pattern v value) := by
  unfold pattern
  split
  · split
    · refine law.bind (law.pattern _) fun regex => ?_
      split <;> exact law.pure _
    · exact law.pure _
  · exact malformed_lawful law _ _

lemma format_lawful (v value : Value) : law.Holds (format val v value) := by
  unfold format
  split
  · split <;> exact law.pure _
  · exact malformed_lawful law _ _

section

variable (hvisit : law.Visits visit)

include hvisit

lemma child_lawful {κ : Type} (place : κ) (v schema : Value) (path schemaPath : List PathStep) :
    law.Holds (child visit place v schema path schemaPath) :=
  law.bind (law.onChild (hvisit v schema)) fun _ => law.pure _

lemma follow_lawful {store : Store} (hstore : law.Covers store) (v : Value)
    (reference : String) : law.Holds (Applicator.follow store visit v reference) := by
  refine law.bind (law.resolve hstore reference) fun (url, target) => ?_
  refine law.bind (law.isFollowing url) fun b => ?_
  split
  · exact law.broken (by simp)
  · exact law.inScope url (law.following url (hvisit v target))

lemma property_lawful (hstore : law.Covers val.store) (fields : Fields) (name : String)
    (schema : Value) : law.Holds (property val visit fields name schema) := by
  rw [property]
  split
  · exact child_lawful law hvisit _ _ _ _ _
  · refine law.bind (val.declaredDefault_lawful law hstore schema) fun default => ?_
    split
    · exact law.pure _
    · split
      · exact law.bind (child_lawful law hvisit _ _ _ _ _) fun _ => law.pure _
      · exact law.bind (val.typedDefault_lawful law hstore _ schema) fun _ => law.pure _

lemma properties_lawful (hstore : law.Covers val.store) (v value : Value) :
    law.Holds (properties val visit v value) := by
  unfold properties
  split
  · split
    · exact law.bind (law.mapM fun _ _ => property_lawful law hvisit hstore _ _ _) fun _ =>
        law.pure _
    · exact law.pure _
  · exact malformed_lawful law _ _

lemma matchingFields_lawful (fields : Fields) (source : String) (schema : Value) :
    law.Holds (matchingFields visit fields source schema) :=
  law.bind (law.pattern source) fun _ => law.mapM fun _ _ => child_lawful law hvisit _ _ _ _ _

lemma patternProperties_lawful (v value : Value) :
    law.Holds (patternProperties visit v value) := by
  unfold patternProperties
  split
  · split
    · exact law.bind (law.mapM fun _ _ => matchingFields_lawful law hvisit _ _ _) fun _ =>
        law.pure _
    · exact law.pure _
  · exact malformed_lawful law _ _

lemma additionalProperties_lawful (schema : Fields) (v value : Value) :
    law.Holds (additionalProperties visit schema v value) := by
  unfold additionalProperties
  split
  · exact malformed_lawful law _ _
  · split
    · refine law.bind (extraFields_lawful law _ schema) fun extras => ?_
      split
      · exact law.bind (law.mapM fun _ _ => child_lawful law hvisit _ _ _ _ _) fun _ => law.pure _
      · split <;> exact law.pure _
      · exact law.pure _
    · exact law.pure _

lemma itemParts_lawful (schemaPath : Nat → List PathStep) (pairs : List (Value × Value))
    (start : Nat) : law.Holds (itemParts visit start schemaPath pairs) := by
  induction pairs generalizing start with
  | nil => exact law.pure _
  | cons pair pairs ih =>
    exact law.bind (child_lawful law hvisit _ _ _ _ _) fun _ => law.bind (ih _) fun _ => law.pure _

lemma items_lawful (v value : Value) : law.Holds (items visit v value) := by
  unfold items
  split
  · exact malformed_lawful law _ _
  · split
    · split <;> exact law.bind (itemParts_lawful law hvisit _ _ _) fun _ => law.pure _
    · exact law.pure _

lemma additionalItems_lawful (schema : Fields) (v value : Value) :
    law.Holds (additionalItems visit schema v value) := by
  rw [additionalItems]
  split
  · exact malformed_lawful law _ _
  · split
    · dsimp only
      split
      · exact law.bind (itemParts_lawful law hvisit _ _ _) fun _ => law.pure _
      · split <;> exact law.pure _
      · exact law.pure _
    · exact law.pure _

lemma branches_lawful (k : Keyword) (v value : Value) : law.Holds (branches visit k v value) := by
  unfold branches
  split
  · exact law.mapM fun _ _ => law.bind (hvisit v _) fun _ => law.pure _
  · exact malformed_lawful law _ _

lemma allOf_lawful (v value : Value) : law.Holds (allOf visit v value) := by
  refine law.bind (branches_lawful law hvisit _ v value) fun outcomes => ?_
  split <;> exact law.pure _

lemma anyOf_lawful (v value : Value) : law.Holds (anyOf visit v value) := by
  refine law.bind (branches_lawful law hvisit _ v value) fun outcomes => ?_
  split <;> exact law.pure _

lemma oneOf_lawful (v value : Value) : law.Holds (oneOf visit v value) := by
  refine law.bind (branches_lawful law hvisit _ v value) fun outcomes => ?_
  split <;> exact law.pure _

lemma not_lawful (v value : Value) : law.Holds (not visit v value) := by
  refine law.bind (hvisit v value) fun o => ?_
  split <;> exact law.pure _

end

end Applicator

section

variable (law : Walk.Law) {val : Validator} {follow : Follow} {visit : Visit}
  (hstore : law.Covers val.store) (hfollow : law.Follows follow) (hvisit : law.Visits visit)

include hstore hfollow hvisit

lemma Keyword.contribution_lawful (schema : Fields) (k : Keyword) (v value : Value) :
    law.Holds (k.contribution val follow visit schema v value) := by
  cases k with
  | ref => exact Applicator.ref_lawful law hfollow v value
  | type => exact Applicator.constraint_lawful law (.type v value)
  | enum => exact Applicator.constraint_lawful law (.enum v value)
  | minLength => exact Applicator.constraint_lawful law (.atLeast _ _ value _)
  | maxLength => exact Applicator.constraint_lawful law (.atMost _ _ value _)
  | pattern => exact Applicator.pattern_lawful law v value
  | minimum => exact Applicator.constraint_lawful law (.minimum schema v value)
  | maximum => exact Applicator.constraint_lawful law (.maximum schema v value)
  | multipleOf => exact Applicator.constraint_lawful law (.multipleOf v value)
  | properties => exact Applicator.properties_lawful law hvisit hstore v value
  | patternProperties => exact Applicator.patternProperties_lawful law hvisit v value
  | additionalProperties => exact Applicator.additionalProperties_lawful law hvisit schema v value
  | required => exact Applicator.constraint_lawful law (.required v value)
  | minProperties => exact Applicator.constraint_lawful law (.atLeast _ _ value _)
  | maxProperties => exact Applicator.constraint_lawful law (.atMost _ _ value _)
  | dependencies => exact law.broken (by simp)
  | items => exact Applicator.items_lawful law hvisit v value
  | additionalItems => exact Applicator.additionalItems_lawful law hvisit schema v value
  | minItems => exact Applicator.constraint_lawful law (.atLeast _ _ value _)
  | maxItems => exact Applicator.constraint_lawful law (.atMost _ _ value _)
  | uniqueItems => exact Applicator.constraint_lawful law (.uniqueItems v value)
  | allOf => exact Applicator.allOf_lawful law hvisit v value
  | anyOf => exact Applicator.anyOf_lawful law hvisit v value
  | oneOf => exact Applicator.oneOf_lawful law hvisit v value
  | not => exact Applicator.not_lawful law hvisit v value
  | format => exact Applicator.format_lawful law v value

/-! ## Schemas -/

namespace Validator

lemma visitKeyword_lawful (v : Value) (schema : Fields) (k : Keyword) (value : Value) :
    law.Holds (val.visitKeyword follow visit v schema k value) :=
  law.bind (Keyword.contribution_lawful law hstore hfollow hvisit schema k v value) fun _ =>
    law.pure _

lemma visitKeywords_lawful (v : Value) (schema : Fields) :
    law.Holds (val.visitKeywords follow visit v schema) := by
  refine law.bind (law.mapM fun (k, value) _ => ?_) fun _ => law.pure _
  exact law.bind (visitKeyword_lawful law hstore hfollow hvisit v schema k value) fun _ =>
    law.pure _

lemma visitFields_lawful (v : Value) (schema : Fields) :
    law.Holds (val.visitFields follow visit v schema) := by
  rw [visitFields]
  split
  · exact visitKeyword_lawful law hstore hfollow hvisit v schema .ref _
  · split
    · exact law.pure _
    · exact visitKeywords_lawful law hstore hfollow hvisit v schema

lemma visitNode_lawful (v schema : Value) :
    law.Holds (val.visitNode follow visit v schema) := by
  unfold visitNode
  split
  · split
    · exact law.inScope _ (visitFields_lawful law hstore hfollow hvisit v _)
    · exact visitFields_lawful law hstore hfollow hvisit v _
  · exact law.broken (by simp)

end Validator

end

namespace Validator

variable (law : Walk.Law) {val : Validator} (hstore : law.Covers val.store)

include hstore

lemma visit_lawful (n : Nat) (v schema : Value) : law.Holds (val.visit n v schema) := by
  induction n generalizing v schema with
  | zero => exact law.tooDeep
  | succ n ih =>
    exact visitNode_lawful law hstore (Applicator.follow_lawful law ih hstore) ih v schema

lemma outcome_lawful (v schema : Value) : law.Holds (val.outcome v schema) :=
  val.visit_lawful law hstore (val.visitDepth v schema) v schema

lemma violations_lawful (v schema : Value) : law.Holds (val.violations v schema) :=
  law.bind (val.outcome_lawful law hstore v schema) fun _ => law.pure _

lemma validated_lawful (v schema : Value) : law.Holds (val.validated v schema) := by
  refine law.bind (law.widen (val.outcome_lawful law hstore v schema)) fun o => ?_
  split
  · exact law.fail fun error => by cases error <;> simp [SchemaFault.ofSchema, Failure.ofSchema]
  · exact law.pure _

end Validator

end ApiContract
