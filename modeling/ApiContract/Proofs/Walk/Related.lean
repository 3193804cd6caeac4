/-
# Walks side by side

Two walks in one scope are related if they come to results that are related, or if the same error
ends both.  All steps that walks are built from keep this, so that two walks of the same shape are
related as soon as the visits in them are.
-/
import ApiContract.Proofs.Walk.Result

namespace ApiContract

/-! ## Results -/

namespace Except

variable {ε α β γ δ : Type}

/-- Two results are both good and related, or the same error. -/
inductive Related (R : α → β → Prop) : Except ε α → Except ε β → Prop
  | ok {a : α} {b : β} : R a b → Related R (.ok a) (.ok b)
  | error (e : ε) : Related R (.error e) (.error e)

namespace Related

variable {R : α → β → Prop} {S : γ → δ → Prop} {r : Except ε α} {r' : Except ε β}

lemma bind {f : α → Except ε γ} {g : β → Except ε δ} (h : Related R r r')
    (hf : ∀ a b, r = .ok a → R a b → Related S (f a) (g b)) :
    Related S (r >>= f) (r' >>= g) := by
  cases h with
  | ok hab => exact hf _ _ rfl hab
  | error e => exact .error e

lemma exists_right (h : Related R r r') {a : α} (ha : r = .ok a) : ∃ b, r' = .ok b ∧ R a b := by
  cases h with
  | ok hab =>
    obtain rfl := Except.ok.inj ha
    exact ⟨_, rfl, hab⟩
  | error e => simp at ha

lemma exists_left (h : Related R r r') {b : β} (hb : r' = .ok b) : ∃ a, r = .ok a ∧ R a b := by
  cases h with
  | ok hab =>
    obtain rfl := Except.ok.inj hb
    exact ⟨_, rfl, hab⟩
  | error e => simp at hb

lemma eq_error_iff (h : Related R r r') (e : ε) : r = .error e ↔ r' = .error e := by
  cases h with
  | ok hab => simp
  | error e' => simp

end Related

end Except

/-! ## Walks -/

namespace Walk

variable {ε α β γ δ κ : Type} [SchemaFault ε]

/-- Two steady walks whose results in a scope are related, whatever references are being
followed. -/
structure Related (R : α → β → Prop) (scope : String) (x : Walk ε α) (y : Walk ε β) : Prop where
  /-- The first walk is steady. -/
  left : x.Steady
  /-- The second walk is steady. -/
  right : y.Steady
  /-- Their results are related. -/
  result : ∀ here, Except.Related R (x.resultAt scope here) (y.resultAt scope here)

namespace Related

variable {R : α → β → Prop} {S : γ → δ → Prop} {scope : String}

lemma pure {a : α} {b : β} (h : R a b) :
    (Pure.pure a : Walk ε α).Related R scope (Pure.pure b) :=
  ⟨.pure a, .pure b, fun _ => .ok h⟩

/-- A walk beside itself. -/
lemma refl {R : α → α → Prop} {x : Walk ε α} (hx : x.Steady) (hrefl : ∀ a, R a a) :
    x.Related R scope x := by
  refine ⟨hx, hx, fun here => ?_⟩
  cases x.resultAt scope here with
  | ok a => exact .ok (hrefl a)
  | error e => exact .error e

lemma broken {e : SchemaError} (h : e ≠ .scopeUnderflow) :
    (Walk.broken e : Walk ε α).Related R scope (Walk.broken e : Walk ε β) :=
  ⟨.broken h, .broken h, fun _ => .error _⟩

lemma bind {x : Walk ε α} {y : Walk ε β} {f : α → Walk ε γ} {g : β → Walk ε δ}
    (h : x.Related R scope y) (hf : ∀ a, (f a).Steady) (hg : ∀ b, (g b).Steady)
    (hfg : ∀ a b, R a b → (f a).Related S scope (g b)) :
    (x >>= f).Related S scope (y >>= g) := by
  refine ⟨h.left.bind hf, h.right.bind hg, fun here => ?_⟩
  rw [resultAt_bind h.left hf, resultAt_bind h.right hg]
  exact (h.result here).bind fun a b _ hab => (hfg a b hab).result here

/-- What follows one and the same walk has to be related for its good ends only. -/
lemma bind_same {x : Walk ε α} {f : α → Walk ε γ} {g : α → Walk ε δ} (hx : x.Steady)
    (hf : ∀ a, (f a).Steady) (hg : ∀ a, (g a).Steady)
    (hfg : ∀ a here, x.resultAt scope here = .ok a → (f a).Related S scope (g a)) :
    (x >>= f).Related S scope (x >>= g) := by
  refine ⟨hx.bind hf, hx.bind hg, fun here => ?_⟩
  rw [resultAt_bind hx hf, resultAt_bind hx hg]
  cases ha : x.resultAt scope here with
  | ok a => exact (hfg a here ha).result here
  | error e => exact .error e

lemma bind_pure {x : Walk ε α} {y : Walk ε β} {f : α → γ} {g : β → δ} (h : x.Related R scope y)
    (hfg : ∀ a b, R a b → S (f a) (g b)) :
    (x >>= fun a => Pure.pure (f a)).Related S scope (y >>= fun b => Pure.pure (g b)) :=
  h.bind (fun _ => .pure _) (fun _ => .pure _) fun a b hab => pure (hfg a b hab)

lemma map {x : Walk ε α} {y : Walk ε β} {f : α → γ} {g : β → δ} (h : x.Related R scope y)
    (hfg : ∀ a b, R a b → S (f a) (g b)) : (f <$> x).Related S scope (g <$> y) := by
  simp only [map_eq_pure_bind]
  exact h.bind_pure hfg

lemma mapM {l : List κ} {f : κ → Walk ε α} {g : κ → Walk ε β}
    (h : ∀ c ∈ l, (f c).Related R scope (g c)) :
    (l.mapM f).Related (List.Forall₂ R) scope (l.mapM g) := by
  induction l with
  | nil => exact pure .nil
  | cons c l ih =>
    have hrest := ih fun c hc => h c (List.mem_cons_of_mem _ hc)
    rw [List.mapM_cons, List.mapM_cons]
    exact (h c List.mem_cons_self).bind (fun _ => hrest.left.bind fun _ => .pure _)
      (fun _ => hrest.right.bind fun _ => .pure _)
      fun a b hab => hrest.bind_pure fun _ _ habs => .cons hab habs

lemma onChild {x : Walk ε α} {y : Walk ε β} (h : x.Related R scope y) :
    (onChild x).Related R scope (onChild y) := by
  refine ⟨h.left.onChild, h.right.onChild, fun here => ?_⟩
  rw [resultAt_onChild h.left, resultAt_onChild h.right]
  exact h.result []

lemma inScope {x : Walk ε α} {y : Walk ε β} {uri : String}
    (h : x.Related R (Reference.join scope uri) y) :
    (inScope uri x).Related R scope (inScope uri y) := by
  refine ⟨h.left.inScope uri, h.right.inScope uri, fun here => ?_⟩
  rw [resultAt_inScope h.left, resultAt_inScope h.right]
  exact h.result here

end Related

end Walk

end ApiContract
