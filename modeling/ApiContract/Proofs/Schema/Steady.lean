/-
# Visits are steady

Validation, the search for defaults and the search for formats are steady walks, however deep
they go and however they end: steadiness is a law of walks.
-/
import ApiContract.Proofs.Schema.Lawful

namespace ApiContract

/-- All visits are steady walks. -/
def Visit.Steady (visit : Visit) : Prop :=
  ∀ v schema, (visit v schema).Steady

/-- References are followed by steady walks. -/
def Follow.Steady (follow : Follow) : Prop :=
  ∀ v reference, (follow v reference).Steady

/-! ## Keywords -/

namespace Applicator

open Walk

variable {val : Validator} {follow : Follow} {visit : Visit}

lemma extraFields_steady (fields schema : Fields) : (extraFields fields schema).Steady :=
  extraFields_lawful Steady.law fields schema

section

variable (hvisit : visit.Steady)

include hvisit

lemma child_steady {κ : Type} (place : κ) (v schema : Value) (path schemaPath : List PathStep) :
    (child visit place v schema path schemaPath).Steady :=
  child_lawful Steady.law hvisit place v schema path schemaPath

lemma property_steady (fields : Fields) (name : String) (schema : Value) :
    (property val visit fields name schema).Steady :=
  property_lawful Steady.law hvisit trivial fields name schema

lemma matchingFields_steady (fields : Fields) (source : String) (schema : Value) :
    (matchingFields visit fields source schema).Steady :=
  matchingFields_lawful Steady.law hvisit fields source schema

lemma itemParts_steady (schemaPath : Nat → List PathStep) (pairs : List (Value × Value))
    (start : Nat) : (itemParts visit start schemaPath pairs).Steady :=
  itemParts_lawful Steady.law hvisit schemaPath pairs start

lemma branches_steady (k : Keyword) (v value : Value) : (branches visit k v value).Steady :=
  branches_lawful Steady.law hvisit k v value

end

lemma follow_steady (store : Store) (hvisit : visit.Steady) (v : Value) (reference : String) :
    (Applicator.follow store visit v reference).Steady :=
  follow_lawful Steady.law hvisit trivial v reference

end Applicator

lemma Keyword.contribution_steady {val : Validator} {follow : Follow} {visit : Visit}
    (hfollow : follow.Steady) (hvisit : visit.Steady) (schema : Fields) (k : Keyword)
    (v value : Value) : (k.contribution val follow visit schema v value).Steady :=
  contribution_lawful Walk.Steady.law trivial hfollow hvisit schema k v value

/-! ## Defaults and schemas -/

namespace Validator

open Walk

lemma findDefault_steady (store : Store) (n : Nat) (schema : Value) :
    (findDefault store n schema).Steady :=
  findDefault_lawful Steady.law trivial n schema

lemma declaredFormat_steady (store : Store) (n : Nat) (schema : Value) :
    (declaredFormat store n schema).Steady :=
  declaredFormat_lawful Steady.law trivial n schema

variable (val : Validator)

lemma declaredDefault_steady (schema : Value) : (val.declaredDefault schema).Steady :=
  val.declaredDefault_lawful Steady.law trivial schema

lemma typedDefault_steady (default schema : Value) : (val.typedDefault default schema).Steady :=
  val.typedDefault_lawful Steady.law trivial default schema

section

variable {follow : Follow} {visit : Visit} (hfollow : follow.Steady) (hvisit : visit.Steady)

include hfollow hvisit

lemma visitKeyword_steady (v : Value) (schema : Fields) (k : Keyword) (value : Value) :
    (val.visitKeyword follow visit v schema k value).Steady :=
  visitKeyword_lawful Steady.law trivial hfollow hvisit v schema k value

lemma visitFields_steady (v : Value) (schema : Fields) :
    (val.visitFields follow visit v schema).Steady :=
  visitFields_lawful Steady.law trivial hfollow hvisit v schema

lemma visitNode_steady (v schema : Value) : (val.visitNode follow visit v schema).Steady :=
  visitNode_lawful Steady.law trivial hfollow hvisit v schema

end

lemma visit_steady (n : Nat) (v schema : Value) : (val.visit n v schema).Steady :=
  val.visit_lawful Steady.law trivial n v schema

lemma outcome_steady (v schema : Value) : (val.outcome v schema).Steady :=
  val.outcome_lawful Steady.law trivial v schema

lemma violations_steady (v schema : Value) : (val.violations v schema).Steady :=
  val.violations_lawful Steady.law trivial v schema

end Validator

end ApiContract
