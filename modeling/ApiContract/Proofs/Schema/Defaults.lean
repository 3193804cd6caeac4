/-
# Looking up defaults and formats

A default is looked up through references, and through the branches of `allOf`.  The format that
types a default is looked up through references alone, so it comes from the schema in which they
end.
-/
import ApiContract.Proofs.Schema.Steady
import ApiContract.Proofs.Walk.Result

namespace ApiContract

open Validator (reference?)

lemma exists_fields_of_reference? {schema : Value} {reference : String}
    (h : reference? schema = some reference) : ∃ fields, schema = .object fields ∧
      fields.lookup Keyword.ref.name = some (.string reference) := by
  obtain ⟨value, hvalue, hstring⟩ := Option.bind_eq_some_iff.1 h
  obtain ⟨text, rfl, rfl⟩ : ∃ text, value = .string text ∧ text = reference := by
    cases value <;> simp_all [Value.string?]
  cases schema with
  | object fields => exact ⟨fields, rfl, hvalue⟩
  | _ => cases hvalue

/-- A schema in a scope offers a default for a missing value: its own, one that the target of
its reference offers, or one that a branch of its `allOf` offers. -/
inductive Store.Offers (store : Store) (default : Value) : String → Value → Prop
  | own {scope : String} {schema : Value} :
      reference? schema = none → schema.get? "default" = some default →
      Offers store default scope schema
  | target {scope reference : String} {schema target : Value} :
      reference? schema = some reference →
      store.resolveUrl (Reference.join scope reference) = .ok target →
      Offers store default (Reference.join scope (Reference.join scope reference)) target →
      Offers store default scope schema
  | branch {scope : String} {schema branch : Value} {branches : List Value} :
      reference? schema = none → schema.get? "default" = none →
      (schema.get? Keyword.allOf.name).bind Value.array? = some branches → branch ∈ branches →
      Offers store default scope branch →
      Offers store default scope schema

/-- References lead from a schema in a scope to one without a reference.  The schemas on the
way open no scopes. -/
inductive Store.EndsAt (store : Store) : String → Value → Value → Prop
  | here {scope : String} {node : Value} :
      reference? node = none → EndsAt store scope node node
  | jump {scope reference : String} {schema target node : Value} :
      (schema.get? "id").bind Value.string? = none → reference? schema = some reference →
      store.resolveUrl (Reference.join scope reference) = .ok target →
      EndsAt store (Reference.join scope (Reference.join scope reference)) target node →
      EndsAt store scope schema node

lemma Store.EndsAt.reference?_eq_none {store : Store} {scope : String} {schema node : Value}
    (h : store.EndsAt scope schema node) : reference? node = none := by
  induction h with
  | here hnone => exact hnone
  | jump _ _ _ _ ih => exact ih

/-- What the format of a schema reads in a value, if it reads something. -/
def Formats.reading? (formats : Formats) (schema v : Value) : Option Value :=
  ((schema.get? Keyword.format.name).bind Value.string?).bind fun name =>
    (formats.check name v).toOption.join

namespace Walk

variable {α : Type} {store : Store} {scope : String} {here : List String}

/-- A walk over the target of a reference, in the scope that the reference leads to. -/
lemma resolve_inScope_ok_iff {reference : String} {f : Value → Walk SchemaError α}
    (hf : ∀ target, (f target).Steady) {a : α} :
    (resolve store reference >>= fun (url, target) => inScope url (f target)).resultAt scope
        here = .ok a ↔
      ∃ target, store.resolveUrl (Reference.join scope reference) = .ok target ∧
        (f target).resultAt (Reference.join scope (Reference.join scope reference)) here =
          .ok a := by
  have hresolve : store.resolve [scope] reference =
      store.resolveUrl (Reference.join scope reference) >>= fun target =>
        .ok (Reference.join scope reference, target) := rfl
  rw [bind_ok_iff (Steady.resolve store reference) fun (url, target) => (hf target).inScope url,
    resultAt_resolve, hresolve]
  simp only [Except.bind_eq_ok_iff]
  constructor
  · rintro ⟨_, ⟨target, htarget, heq⟩, h⟩
    obtain rfl := Except.ok.inj heq
    exact ⟨target, htarget, by rwa [resultAt_inScope (hf target)] at h⟩
  · rintro ⟨target, htarget, h⟩
    exact ⟨_, ⟨target, htarget, rfl⟩, by rwa [resultAt_inScope (hf target)]⟩

end Walk

namespace Validator

open Walk

variable {store : Store} {scope reference : String} {here : List String} {n : Nat}
  {schema node : Value}

lemma findDefault_ref_ok_iff (href : reference? schema = some reference)
    {found : Option Value} :
    (findDefault store (n + 1) schema).resultAt scope here = .ok found ↔
      ∃ target, store.resolveUrl (Reference.join scope reference) = .ok target ∧
        (findDefault store n target).resultAt
          (Reference.join scope (Reference.join scope reference)) here = .ok found := by
  rw [findDefault, href]
  exact resolve_inScope_ok_iff (findDefault_steady store n)

lemma declaredFormat_ref_ok_iff (href : reference? schema = some reference)
    {found : Option String} :
    (declaredFormat store (n + 1) schema).resultAt scope here = .ok found ↔
      ∃ target, store.resolveUrl (Reference.join scope reference) = .ok target ∧
        (declaredFormat store n target).resultAt
          (Reference.join scope (Reference.join scope reference)) here = .ok found := by
  rw [declaredFormat, href]
  exact resolve_inScope_ok_iff (declaredFormat_steady store n)

/-- A default that is found is offered. -/
lemma offers_of_findDefault {default : Value}
    (h : (findDefault store n schema).resultAt scope here = .ok (some default)) :
    store.Offers default scope schema := by
  induction n generalizing scope schema with
  | zero =>
    rw [findDefault, resultAt_tooDeep] at h
    simp at h
  | succ n ih =>
    cases href : reference? schema with
    | some reference =>
      obtain ⟨target, hfound, htarget⟩ := (findDefault_ref_ok_iff href).1 h
      exact .target href hfound (ih htarget)
    | none =>
      rw [findDefault, href] at h
      dsimp only at h
      split at h
      · rename_i own hown
        obtain rfl := Option.some.inj (Except.ok.inj h)
        exact .own href hown
      · rename_i hown
        split at h
        · rename_i branches hbranches
          rw [bind_ok_iff (Steady.mapM fun branch _ => findDefault_steady store n branch)
            fun found => by split <;> exact Steady.pure _] at h
          obtain ⟨found, hall, h⟩ := h
          split at h
          · rename_i only honly
            obtain rfl := Option.some.inj (Except.ok.inj h)
            -- The default is that of a branch.
            have hmem : some only ∈ found := by
              obtain ⟨o, ho, rfl⟩ := List.mem_filterMap.1 (honly ▸ List.mem_singleton_self only)
              exact ho
            obtain ⟨branch, hbranch, hoffer⟩ := exists_left_of_forall₂
              ((mapM_ok_iff fun branch => findDefault_steady store n branch).1 hall) hmem
            exact .branch href hown hbranches hbranch (ih hoffer)
          · simp at h
        · simp at h

/-- A default that is declared has been found. -/
lemma findDefault_of_declaredDefault {val : Validator} {default : Value}
    (h : (val.declaredDefault schema).resultAt scope here = .ok (some default)) :
    (findDefault val.store (lookupDepth + 1) schema).resultAt scope here = .ok (some default) := by
  rw [declaredDefault] at h
  split at h
  · exact h
  · simp at h

/-- Where references lead to a schema, a format is looked up as deep as a default is, and it is
the format of that schema. -/
lemma declaredFormat_of_endsAt (hends : store.EndsAt scope schema node) {found : Option Value}
    (h : (findDefault store n schema).resultAt scope here = .ok found) :
    (declaredFormat store n schema).resultAt scope here =
      .ok ((node.get? Keyword.format.name).bind Value.string?) := by
  induction hends generalizing n with
  | here hnone =>
    cases n with
    | zero =>
      rw [findDefault, resultAt_tooDeep] at h
      simp at h
    | succ n =>
      rw [declaredFormat, hnone]
      rfl
  | jump _ href hfound _ ih =>
    cases n with
    | zero =>
      rw [findDefault, resultAt_tooDeep] at h
      simp at h
    | succ n =>
      obtain ⟨target, htarget, h⟩ := (findDefault_ref_ok_iff href).1 h
      obtain rfl := Except.ok.inj (hfound.symm.trans htarget)
      exact (declaredFormat_ref_ok_iff href).2 ⟨_, hfound, ih h⟩

/-- Where references lead to a schema, a default that is found takes the shape that the format
of that schema reads in it. -/
lemma typedDefault_of_endsAt {val : Validator} (hends : val.store.EndsAt scope schema node)
    {default : Value}
    (h : (val.declaredDefault schema).resultAt scope here = .ok (some default)) :
    (val.typedDefault default schema).resultAt scope here =
      .ok ((val.formats.reading? node default).getD default) := by
  rw [typedDefault, resultAt_bind (declaredFormat_steady _ _ schema) fun format => by
      split
      · exact Steady.pure _
      · split <;> exact Steady.pure _,
    declaredFormat_of_endsAt hends (findDefault_of_declaredDefault h), Formats.reading?]
  cases (node.get? Keyword.format.name).bind Value.string? with
  | none => rfl
  | some name =>
    dsimp only [bind, Except.bind, Option.bind]
    rcases hcheck : val.formats.check name default with fault | _ | typed <;> rfl

end Validator

end ApiContract
