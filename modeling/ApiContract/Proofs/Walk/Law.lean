/-
# Laws of walks

A law holds of every step that walks are built from, and of every walk that is built by
sequencing, by entering a scope, by turning to another value and by going on with an outcome.
Whatever looks at schemas is built in this way and in no other, so it obeys every law; this is
shown once, for all laws.  Steadiness is a law.

Two of the steps are special.  A law may hold for the documents of some stores only, so a walk
obeys it if its references are resolved in these.  And an outcome may be caught, but the error
of a broken schema has to be raised again.
-/
import ApiContract.Proofs.Walk.Steady

namespace ApiContract

open Walk in
/-- A property of walks that the steps of walks have and that is kept by putting walks
together. -/
structure Walk.Law where
  /-- The property. -/
  Holds : ∀ {ε α : Type} [SchemaFault ε], Walk ε α → Prop
  /-- The stores that references may be resolved in. -/
  Covers : Store → Prop
  /-- It holds of a result. -/
  pure : ∀ {ε α : Type} [SchemaFault ε] (a : α), Holds (Pure.pure a : Walk ε α)
  /-- It holds of an error that is none of a schema. -/
  fail : ∀ {ε α : Type} [SchemaFault ε] {e : ε}, (∀ error, e ≠ SchemaFault.ofSchema error) →
    Holds (throw e : Walk ε α)
  /-- It holds of an error of a schema that comes about outside of scopes. -/
  broken : ∀ {ε α : Type} [SchemaFault ε] {e : SchemaError}, e ≠ .scopeUnderflow →
    Holds (Walk.broken e : Walk ε α)
  /-- It is kept in sequences. -/
  bind : ∀ {ε α β : Type} [SchemaFault ε] {x : Walk ε α} {f : α → Walk ε β}, Holds x →
    (∀ a, Holds (f a)) → Holds (x >>= f)
  /-- It is kept if the outcome is caught and errors of schemas are raised again. -/
  attempt : ∀ {ε α β : Type} [SchemaFault ε] {x : Walk ε α} {f : Except ε α → Walk ε β}, Holds x →
    (∀ a, Holds (f (.ok a))) →
    (∀ e, (∀ error, e ≠ SchemaFault.ofSchema error) → Holds (f (.error e))) →
    (∀ error, f (.error (SchemaFault.ofSchema error)) = Walk.broken error) →
    Holds (x.outcome >>= f)
  /-- It holds of asking for the scope. -/
  scope : ∀ {ε : Type} [SchemaFault ε], Holds (Walk.scope : Walk ε String)
  /-- It holds of asking for the references being followed. -/
  isFollowing : ∀ {ε : Type} [SchemaFault ε] (url : String),
    Holds (Walk.isFollowing url : Walk ε Bool)
  /-- It holds of resolving a reference. -/
  resolve : ∀ {ε : Type} [SchemaFault ε] {store : Store}, Covers store → ∀ reference,
    Holds (Walk.resolve store reference : Walk ε (String × Value))
  /-- It holds of asking for a pattern. -/
  pattern : ∀ {ε : Type} [SchemaFault ε] (source : String),
    Holds (Walk.pattern source : Walk ε Regex)
  /-- It is kept while a reference is being followed. -/
  following : ∀ {ε α : Type} [SchemaFault ε] {x : Walk ε α} (url : String), Holds x →
    Holds (Walk.following url x)
  /-- It is kept on values inside the value at hand. -/
  onChild : ∀ {ε α : Type} [SchemaFault ε] {x : Walk ε α}, Holds x → Holds (Walk.onChild x)
  /-- It is kept in scopes. -/
  inScope : ∀ {ε α : Type} [SchemaFault ε] {x : Walk ε α} (uri : String), Holds x →
    Holds (Walk.inScope uri x)
  /-- It is kept by walks from the root of a store. -/
  apart : ∀ {ε α : Type} [SchemaFault ε] {store : Store} {x : Walk ε α}, Covers store → Holds x →
    Holds (Walk.apart store x)
  /-- It is kept if errors of schemas are put among others. -/
  widen : ∀ {ε α : Type} [SchemaFault ε] {x : Walk SchemaError α}, Holds x →
    Holds (Walk.mapError SchemaFault.ofSchema x : Walk ε α)

namespace Walk

/-- Steadiness, for all stores. -/
abbrev Steady.law : Law where
  Holds := Steady
  Covers := fun _ => True
  pure := .pure
  fail h := .throw (h _)
  broken h := .broken h
  bind h hf := h.bind hf
  attempt hx hok herror hagain := by
    refine hx.outcome_bind fun r hr => ?_
    rcases r with e | a
    · by_cases h : ∃ error, e = SchemaFault.ofSchema error
      · obtain ⟨error, rfl⟩ := h
        rw [hagain]
        exact .broken fun hunderflow => hr (by rw [hunderflow])
      · exact herror e fun error he => h ⟨error, he⟩
    · exact hok a
  scope := .scope
  isFollowing := .isFollowing
  resolve _ reference := .resolve _ reference
  pattern := .pattern
  following url h := h.following url
  onChild h := h.onChild
  inScope uri h := h.inScope uri
  apart _ h := h.apart _
  widen h := h.mapError fun _ he => SchemaFault.ofSchema_inj he

namespace Law

variable (law : Law) {ε α β : Type} [SchemaFault ε]

lemma ofExcept {r : Except SchemaError α} (h : r ≠ .error .scopeUnderflow) :
    law.Holds (Walk.ofExcept r : Walk ε α) := by
  cases r with
  | ok a => exact law.pure a
  | error e => exact law.broken fun he => h (by rw [he])

lemma map {x : Walk ε α} (hx : law.Holds x) (g : α → β) : law.Holds (g <$> x) := by
  rw [map_eq_pure_bind]
  exact law.bind hx fun a => law.pure (g a)

lemma mapM {γ : Type} {l : List γ} {f : γ → Walk ε β} (hf : ∀ c ∈ l, law.Holds (f c)) :
    law.Holds (l.mapM f) := by
  induction l with
  | nil => exact law.pure []
  | cons c l ih =>
    rw [List.mapM_cons]
    refine law.bind (hf c (by simp)) fun b => ?_
    refine law.bind (ih fun c hc => hf c (by simp [hc])) fun bs => ?_
    exact law.pure (b :: bs)

lemma tooDeep : law.Holds (Validator.tooDeep : Walk ε α) :=
  law.bind law.scope fun _ => law.broken (by simp)

end Law

end Walk

end ApiContract
