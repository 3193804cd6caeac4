/-
# Walks that agree

Two walks, each in a scope of its own, agree up to some errors of broken schemas if they come to
the same result, unless the first one ends with such an error.  All steps that walks are built
from keep this, so that two walks of the same shape agree as soon as they agree about what the
references in them lead to.

The exception is for searches that are given up: two walks that do not go equally deep agree
unless the first one is cut off.
-/
import ApiContract.Proofs.Walk.Result

namespace ApiContract

/-- The error of circular references, which is also the one of a search that has gone too deep. -/
def SchemaError.IsCycle (e : SchemaError) : Prop :=
  ∃ url, e = .referenceCycle url

/-! ## Results -/

namespace Except

variable {ε α β γ : Type} [SchemaFault ε] {P : SchemaError → Prop}

/-- Two results are the same, unless the first is an error of a broken schema among some. -/
def UpTo (P : SchemaError → Prop) (r r' : Except ε α) : Prop :=
  r = r' ∨ ∃ e, P e ∧ r = .error (SchemaFault.ofSchema e)

namespace UpTo

lemma refl (r : Except ε α) : UpTo P r r :=
  Or.inl rfl

lemma of_eq {r r' : Except ε α} (h : r = r') : UpTo P r r' :=
  Or.inl h

lemma error {e : SchemaError} (h : P e) (r : Except ε α) :
    UpTo P (.error (SchemaFault.ofSchema e)) r :=
  Or.inr ⟨e, h, rfl⟩

lemma eq {r r' : Except ε α} (h : UpTo (fun _ => False) r r') : r = r' :=
  h.resolve_right fun ⟨_, hfalse, _⟩ => hfalse

lemma bind {r r' : Except ε α} {f g : α → Except ε β} (h : UpTo P r r')
    (hf : ∀ a, r = .ok a → UpTo P (f a) (g a)) : UpTo P (r >>= f) (r' >>= g) := by
  rcases h with rfl | ⟨e, he, rfl⟩
  · rcases r with e | a
    · exact refl _
    · exact hf a rfl
  · exact error he _

lemma map {r r' : Except ε α} (h : UpTo P r r') (g : α → β) : UpTo P (g <$> r) (g <$> r') := by
  simp only [map_eq_pure_bind]
  exact h.bind fun a _ => refl _

end UpTo

end Except

/-! ## Walks -/

namespace Walk

variable {ε α β γ : Type} [SchemaFault ε] {P : SchemaError → Prop} {s t : String}

/-- A walk that reads a result from a reference and goes on in the scope it leads to. -/
lemma resultAt_resolve_inScope (store : Store) (reference : String) {f : Value → Walk ε α}
    (hf : ∀ target, (f target).Steady) (here : List String) :
    (resolve store reference >>= fun found => inScope found.1 (f found.2)).resultAt s here =
      (store.resolveUrl (Reference.join s reference)).mapError SchemaFault.ofSchema >>=
        fun target => (f target).resultAt (Reference.join s (Reference.join s reference)) here := by
  have hresolve : (resolve store reference : Walk ε _).resultAt s here =
      (store.resolveUrl (Reference.join s reference)).mapError SchemaFault.ofSchema >>=
        fun target => .ok (Reference.join s reference, target) := by
    rw [resultAt, exec_resolve, Session.resolve_of_plain store reference rfl]
    change ((ofExcept (store.resolveUrl (Reference.join s reference) >>= fun target =>
      .ok (Reference.join s reference, target)) : Walk ε _).exec _).1 = _
    cases store.resolveUrl (Reference.join s reference) <;> rfl
  rw [resultAt_bind (Steady.resolve store reference) fun found => (hf found.2).inScope found.1,
    hresolve]
  cases store.resolveUrl (Reference.join s reference) with
  | error e => rfl
  | ok target => exact resultAt_inScope (hf target) _

/-- Going on with the outcome of a walk is going on with its result. -/
lemma resultAt_outcome_bind {x : Walk ε α} {f : Except ε α → Walk ε β} (hx : x.Steady)
    (hf : ∀ r, r ≠ .error (SchemaFault.ofSchema .scopeUnderflow) → (f r).Steady)
    (here : List String) :
    (x.outcome >>= f).resultAt s here = (f (x.resultAt s here)).resultAt s here := by
  have hafter := hx.faithful ⟨[s], ⟨here, []⟩, .empty⟩ Patterns.faithful_empty
  have hplain := hx.plain ⟨[s], ⟨here, []⟩, .empty⟩ rfl
  rw [resultAt, exec_bind_ok (exec_outcome x _),
    (hf _ (hx.no_underflow _)).result_eq hafter hplain, hx.scopes, hx.active]
  rfl

/-- Two steady walks, each in a scope, that come to the same result unless the first ends with
an error among some. -/
structure UpTo (P : SchemaError → Prop) (s t : String) (x y : Walk ε α) : Prop where
  /-- The first walk is steady. -/
  left : x.Steady
  /-- The second walk is steady. -/
  right : y.Steady
  /-- Their results are the same up to the errors. -/
  result : ∀ here, Except.UpTo P (x.resultAt s here) (y.resultAt t here)

namespace UpTo

lemma refl {x : Walk ε α} (hx : x.Steady) : x.UpTo P s s x :=
  ⟨hx, hx, fun _ => .refl _⟩

/-- A walk whose result is the same in all scopes. -/
lemma const {x : Walk ε α} {r : Except ε α} (hx : x.Steady)
    (hresult : ∀ scope here, x.resultAt scope here = r) : x.UpTo P s t x :=
  ⟨hx, hx, fun here => .of_eq (by rw [hresult, hresult])⟩

lemma pure (a : α) : (Pure.pure a : Walk ε α).UpTo P s t (Pure.pure a) :=
  const (.pure a) fun _ _ => rfl

lemma broken {e : SchemaError} (h : e ≠ .scopeUnderflow) :
    (Walk.broken e : Walk ε α).UpTo P s t (Walk.broken e) :=
  const (.broken h) fun _ _ => rfl

lemma bind {x y : Walk ε α} {f g : α → Walk ε β} (h : x.UpTo P s t y)
    (hf : ∀ a, (f a).UpTo P s t (g a)) : (x >>= f).UpTo P s t (y >>= g) := by
  refine ⟨h.left.bind fun a => (hf a).left, h.right.bind fun a => (hf a).right, fun here => ?_⟩
  rw [resultAt_bind h.left fun a => (hf a).left, resultAt_bind h.right fun a => (hf a).right]
  exact (h.result here).bind fun a _ => (hf a).result here

lemma mapM {l : List γ} {f g : γ → Walk ε β} (hf : ∀ c ∈ l, (f c).UpTo P s t (g c)) :
    (l.mapM f).UpTo P s t (l.mapM g) := by
  induction l with
  | nil => exact pure []
  | cons c l ih =>
    rw [List.mapM_cons, List.mapM_cons]
    refine (hf c (by simp)).bind fun b => ?_
    exact (ih fun c hc => hf c (by simp [hc])).bind fun bs => pure (b :: bs)

lemma onChild {x y : Walk ε α} (h : x.UpTo P s t y) : (onChild x).UpTo P s t (onChild y) := by
  refine ⟨h.left.onChild, h.right.onChild, fun here => ?_⟩
  rw [resultAt_onChild h.left, resultAt_onChild h.right]
  exact h.result []

lemma inScope {x y : Walk ε α} {uri : String}
    (h : x.UpTo P (Reference.join s uri) (Reference.join t uri) y) :
    (inScope uri x).UpTo P s t (inScope uri y) := by
  refine ⟨h.left.inScope uri, h.right.inScope uri, fun here => ?_⟩
  rw [resultAt_inScope h.left, resultAt_inScope h.right]
  exact h.result here

/-- Going on with the outcomes of two walks: an error up to which they agree ends the first. -/
lemma outcome_bind {x y : Walk ε α} {f g : Except ε α → Walk ε β} (h : x.UpTo P s t y)
    (hf : ∀ r, r ≠ .error (SchemaFault.ofSchema .scopeUnderflow) → (f r).UpTo P s t (g r))
    (hends : ∀ e, P e → f (.error (SchemaFault.ofSchema e)) = Walk.broken e) :
    (x.outcome >>= f).UpTo P s t (y.outcome >>= g) := by
  refine ⟨h.left.outcome_bind fun r hr => (hf r hr).left,
    h.right.outcome_bind fun r hr => (hf r hr).right, fun here => ?_⟩
  rw [resultAt_outcome_bind h.left fun r hr => (hf r hr).left,
    resultAt_outcome_bind h.right fun r hr => (hf r hr).right]
  have hne := h.left.no_underflow ⟨[s], ⟨here, []⟩, .empty⟩
  rcases h.result here with heq | ⟨e, he, heq⟩
  · rw [← heq]
    exact (hf _ hne).result here
  · rw [heq, hends e he]
    exact .error he _

/-- Two walks that follow a reference agree if it names the same URL for both, and the same is
found there. -/
lemma resolve {store store' : Store} {reference : String} {f g : Value → Walk ε α}
    (hf : ∀ target, (f target).Steady) (hg : ∀ target, (g target).Steady)
    (hurl : Reference.join s reference = Reference.join t reference)
    (hfound : store.resolveUrl (Reference.join t reference) =
      store'.resolveUrl (Reference.join t reference))
    (h : ∀ target, store.resolveUrl (Reference.join s reference) = .ok target →
      (f target).UpTo P (Reference.join s (Reference.join s reference))
        (Reference.join t (Reference.join t reference)) (g target)) :
    (Walk.resolve store reference >>= fun found => Walk.inScope found.1 (f found.2)).UpTo P s t
      (Walk.resolve store' reference >>= fun found => Walk.inScope found.1 (g found.2)) := by
  refine ⟨(Steady.resolve store reference).bind fun found => (hf found.2).inScope found.1,
    (Steady.resolve store' reference).bind fun found => (hg found.2).inScope found.1,
    fun here => ?_⟩
  rw [resultAt_resolve_inScope store reference hf, resultAt_resolve_inScope store' reference hg,
    ← hfound, ← hurl]
  cases hsource : store.resolveUrl (Reference.join s reference) with
  | error e => exact .refl _
  | ok target =>
    have htarget := (h target hsource).result here
    rwa [← hurl] at htarget

end UpTo

end Walk

end ApiContract
