/-
# Conversions are steady

The search for the type of a parameter and the conversion of its value are steady walks as
well.

The main result, `visits_and_conversions_restore`, says for all walks through schemas that
scopes and references are left as they were found.
-/
import ApiContract.Proofs.Schema.Steady
import ApiContract.Proofs.Parameter.Lawful

namespace ApiContract

namespace Coercion

open Walk

lemma typeOf_steady (store : Store) (n : Nat) (schema : Value) : (typeOf store n schema).Steady :=
  typeOf_lawful Steady.law trivial n schema

lemma liftExcept_steady {r : Except CoercionError Value} (h : IsOwn r) :
    (ofType.liftExcept r).Steady :=
  liftExcept_lawful Steady.law h

lemma declaredFields_steady {convert : Conversion} (h : ∀ schema v, (convert schema v).Steady)
    (declared : List (String × Value)) (fs : Fields) :
    (declaredFields convert declared fs).Steady :=
  declaredFields_lawful Steady.law h declared fs

lemma convert_steady (val : Validator) (n : Nat) (schema v : Value) :
    (convert val n schema v).Steady :=
  convert_lawful Steady.law trivial n schema v

end Coercion

/-! ## Scopes and references -/

/-- A walk that leaves the scopes and the references being followed as it found them, however
it ends, and that never leaves a scope that had not been entered. -/
def Walk.Restores {ε α : Type} [SchemaFault ε] (walk : Walk ε α) : Prop :=
  ∀ s : Session, (walk.exec s).2.scopes = s.scopes ∧ (walk.exec s).2.active = s.active ∧
    (s.scopes ≠ [] → (walk.exec s).1 ≠ .error (SchemaFault.ofSchema .scopeUnderflow))

lemma Walk.Steady.restores {ε α : Type} [SchemaFault ε] {walk : Walk ε α} (h : walk.Steady) :
    walk.Restores :=
  fun s => ⟨h.scopes s, h.active s, fun _ => h.no_underflow s⟩

/-- **Every walk through schemas restores scopes and references**: visits of schemas and of
what references lead to, the search for defaults and for the formats that type them, the
search for types and the conversion of values, to whatever depth they go. -/
theorem visits_and_conversions_restore (val : Validator) (n : Nat) (v schema default : Value)
    (reference : String) :
    (val.visit n v schema).Restores ∧
      (Applicator.follow val.store (val.visit n) v reference).Restores ∧
      (val.declaredDefault schema).Restores ∧
      (val.typedDefault default schema).Restores ∧
      (Coercion.typeOf val.store n schema).Restores ∧
      (Coercion.convert val n schema v).Restores := by
  refine ⟨?_, ?_, ?_, ?_, ?_, ?_⟩
  · exact (val.visit_steady n v schema).restores
  · exact (Applicator.follow_steady val.store (val.visit_steady n) v reference).restores
  · exact (val.declaredDefault_steady schema).restores
  · exact (val.typedDefault_steady default schema).restores
  · exact (Coercion.typeOf_steady val.store n schema).restores
  · exact (Coercion.convert_steady val n schema v).restores

end ApiContract
