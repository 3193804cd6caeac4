/-
# Through references

A walk that does nothing at a reference but follow it comes to the schema in which the references
end.  References lead from a schema to another one if no schema on the way opens a scope and no
reference is followed twice.  Then such a walk has the same result at both schemas, as long as it
may go deep enough, and a value that is visited silently at the one is visited silently at the
other.
-/
import ApiContract.Proofs.Schema.Defaults
import ApiContract.Proofs.Schema.Silent
import ApiContract.Proofs.Walk.Agreement

namespace ApiContract

open Validator (reference?)

/-- Where a walk stands: at a schema in a scope, with some references being followed. -/
structure Standpoint where
  /-- The scope. -/
  scope : String
  /-- The references being followed for the value at hand. -/
  here : List String
  /-- The schema. -/
  fields : Fields

/-- A schema opens no scope. -/
def OpensNoScope (fields : Fields) : Prop :=
  (fields.lookup "id").bind Value.string? = none

namespace Store

variable {store : Store} {a b c : Standpoint}

/-- The reference of a schema leads to another schema. -/
inductive Jumps (store : Store) : Standpoint → Standpoint → Prop
  | intro {scope reference url : String} {here : List String} {fields target : Fields} :
      OpensNoScope fields → reference? (.object fields) = some reference →
      Reference.join scope reference = url → store.resolveUrl url = .ok (.object target) →
      url ∉ here → Jumps store ⟨scope, here, fields⟩ ⟨Reference.join scope url, url :: here, target⟩

/-- References lead from a schema to another one, one after another. -/
inductive LeadsTo (store : Store) : Nat → Standpoint → Standpoint → Prop
  | here (a : Standpoint) : LeadsTo store 0 a a
  | jump {k : Nat} {a b c : Standpoint} : store.Jumps a b → LeadsTo store k b c →
      LeadsTo store (k + 1) a c

end Store

/-! ## Walks that look through references -/

namespace Walk

variable {ε α : Type} [SchemaFault ε] {store : Store} {walk : Nat → Value → Walk ε α}

/-- Walks of some depth that do nothing at a reference but follow it. -/
structure LooksThrough (store : Store) (walk : Nat → Value → Walk ε α) : Prop where
  /-- They are steady. -/
  steady : ∀ n schema, (walk n schema).Steady
  /-- At the bottom they come to no good end. -/
  bottom : ∀ schema scope here a, (walk 0 schema).resultAt scope here ≠ .ok a
  /-- At a reference they go on at what it leads to. -/
  reference : ∀ n schema reference, reference? schema = some reference →
    walk (n + 1) schema = resolve store reference >>= fun found => inScope found.1 (walk n found.2)

/-- A walk that comes to a good end has come to the schema in which references end. -/
lemma LooksThrough.exists_of_endsAt (hwalk : LooksThrough store walk) {scope : String}
    {here : List String} {schema node : Value} {n : Nat} {a : α}
    (hends : store.EndsAt scope schema node) (h : (walk n schema).resultAt scope here = .ok a) :
    ∃ m scope', (walk (m + 1) node).resultAt scope' here = .ok a := by
  -- Along the references: each one is followed with one less to go.
  induction hends generalizing n with
  | here =>
    cases n with
    | zero => exact absurd h (hwalk.bottom _ _ _ _)
    | succ n => exact ⟨n, _, h⟩
  | jump _ href hfound _ ih =>
    cases n with
    | zero => exact absurd h (hwalk.bottom _ _ _ _)
    | succ n =>
      rw [hwalk.reference _ _ _ href, resultAt_resolve_inScope _ _ (hwalk.steady n), hfound] at h
      exact ih h

/-- A walk that looks through references has the same result at both ends. -/
lemma LooksThrough.resultAt_eq (hwalk : LooksThrough store walk) {k : Nat} {a b : Standpoint}
    (h : store.LeadsTo k a b) (n : Nat) (here : List String) :
    (walk (n + k) (.object a.fields)).resultAt a.scope here =
      (walk n (.object b.fields)).resultAt b.scope here := by
  induction h with
  | here => rfl
  | jump hjump _ ih =>
    cases hjump with
    | intro _ href hurl hfound _ =>
      subst hurl
      rw [← ih, ← Nat.add_assoc, hwalk.reference _ _ _ href,
        resultAt_resolve_inScope store _ (hwalk.steady _), hfound]
      rfl

end Walk

/-! ## Visits -/

namespace Validator

open Walk

variable {val : Validator} {n : Nat} {v : Value}

/-- What is visited silently where a reference leads is visited silently at the reference. -/
lemma visit_silent_of_jumps {a b : Standpoint} (h : val.store.Jumps a b)
    (hsilent : ∃ o, (val.visit n v (.object b.fields)).resultAt b.scope b.here = .ok o ∧
      o.IsSilent) :
    ∃ o, (val.visit (n + 1) v (.object a.fields)).resultAt a.scope a.here = .ok o ∧
      o.IsSilent := by
  obtain ⟨o, ho, hchange, hviolations⟩ := hsilent
  have hsteadies := val.visit_steadies n
  cases h with
  | @intro scope reference url here fields target hid href hurl hfound hnew =>
    subst hurl
    have hfollow : (Applicator.follow val.store (val.visit n) v reference).resultAt scope here =
        .ok o :=
      (Applicator.follow_ok_iff hsteadies.visit).2 ⟨_, hfound, hnew, ho⟩
    have hcontribution : (Keyword.ref.contribution val (Applicator.follow val.store (val.visit n))
        (val.visit n) fields v (.string reference)).resultAt (scopeInside scope fields) here =
          .ok (.ofOutcome o) := by
      rw [scopeInside_of_none hid]
      exact (map_ok_iff (hsteadies.follow v reference)).2 ⟨o, hfollow, rfl⟩
    obtain ⟨_, ⟨⟩, hlookup⟩ := exists_fields_of_reference? href
    have hkeyword := (val.visitKeyword_ok_iff hsteadies.follow hsteadies.visit).2
      ⟨_, hcontribution, rfl⟩
    refine ⟨_, (visitNode_ok_iff hsteadies.follow hsteadies.visit).2 ⟨fields, rfl,
      visitFields_ok_iff.2 (.ref hlookup hkeyword)⟩, hchange, ?_⟩
    simp [Contribution.ofOutcome, hviolations]

/-- What is visited silently where references lead is visited silently where they begin. -/
lemma visit_silent_of_leadsTo {k : Nat} {a b : Standpoint} (h : val.store.LeadsTo k a b)
    (hsilent : ∃ o, (val.visit n v (.object b.fields)).resultAt b.scope b.here = .ok o ∧
      o.IsSilent) :
    ∃ o, (val.visit (n + k) v (.object a.fields)).resultAt a.scope a.here = .ok o ∧
      o.IsSilent := by
  induction h with
  | here => exact hsilent
  | jump hjump _ ih => exact visit_silent_of_jumps hjump (ih hsilent)

end Validator

end ApiContract
