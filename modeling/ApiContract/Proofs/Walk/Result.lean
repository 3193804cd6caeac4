/-
# The result of a walk in a scope

What a steady walk amounts to is its result in a scope in which some references are being
followed.  The result goes through sequences like a function, so that a walk that comes to a
good end has come through all of its steps.
-/
import ApiContract.Proofs.Walk.Steady
import Mathlib.Data.List.Forall2

namespace ApiContract

/-! ## Results in sequence -/

namespace Except

variable {ε α β : Type}

lemma bind_eq_ok_iff {x : Except ε α} {f : α → Except ε β} {b : β} :
    (x >>= f) = .ok b ↔ ∃ a, x = .ok a ∧ f a = .ok b := by
  rcases x with e | a
  · simp [bind, Except.bind]
  · simp [bind, Except.bind]

lemma map_eq_ok_iff {x : Except ε α} {f : α → β} {b : β} :
    f <$> x = .ok b ↔ ∃ a, x = .ok a ∧ f a = b := by
  rcases x with e | a
  · simp [Functor.map, Except.map]
  · simp [Functor.map, Except.map]

lemma mapError_eq_ok_iff {ε' : Type} {x : Except ε α} {f : ε → ε'} {a : α} :
    x.mapError f = .ok a ↔ x = .ok a := by
  rcases x with e | b
  · simp [Except.mapError]
  · simp [Except.mapError]

lemma mapM_eq_ok_iff {f : α → Except ε β} {l : List α} {bs : List β} :
    l.mapM f = .ok bs ↔ List.Forall₂ (fun a b => f a = .ok b) l bs := by
  induction l generalizing bs with
  | nil =>
    simp [pure, Except.pure, eq_comm]
  | cons a l ih =>
    rw [List.mapM_cons, bind_eq_ok_iff]
    constructor
    · rintro ⟨b, hb, h⟩
      obtain ⟨bs', hbs, h⟩ := bind_eq_ok_iff.1 h
      obtain rfl : b :: bs' = bs := by simpa [pure, Except.pure] using h
      exact .cons hb (ih.1 hbs)
    · intro h
      cases h with
      | cons hb hbs => exact ⟨_, hb, bind_eq_ok_iff.2 ⟨_, ih.2 hbs, rfl⟩⟩

end Except

section

variable {α β : Type} {R : α → β → Prop} {l : List α} {l' : List β}

lemma exists_right_of_forall₂ (h : List.Forall₂ R l l') {a : α} (ha : a ∈ l) :
    ∃ b ∈ l', R a b := by
  induction h with
  | nil => simp at ha
  | cons hr _ ih =>
    rcases List.mem_cons.1 ha with rfl | ha
    · exact ⟨_, by simp, hr⟩
    · obtain ⟨b, hb, hr⟩ := ih ha
      exact ⟨b, by simp [hb], hr⟩

lemma exists_left_of_forall₂ (h : List.Forall₂ R l l') {b : β} (hb : b ∈ l') :
    ∃ a ∈ l, R a b :=
  exists_right_of_forall₂ h.flip hb

/-- Partners that exist one by one make up a list. -/
lemma exists_forall₂ (h : ∀ a ∈ l, ∃ b, R a b) : ∃ l', List.Forall₂ R l l' := by
  induction l with
  | nil => exact ⟨[], .nil⟩
  | cons a l ih =>
    obtain ⟨b, hb⟩ := h a (by simp)
    obtain ⟨l', hl'⟩ := ih fun a ha => h a (by simp [ha])
    exact ⟨b :: l', .cons hb hl'⟩

/-- What holds of partners can be weakened with what is known of both. -/
lemma forall₂_imp_mem {R' : α → β → Prop} (h : List.Forall₂ R l l')
    (himp : ∀ a ∈ l, ∀ b ∈ l', R a b → R' a b) : List.Forall₂ R' l l' := by
  induction h with
  | nil => exact .nil
  | cons hr _ ih =>
    exact .cons (himp _ List.mem_cons_self _ List.mem_cons_self hr)
      (ih fun a ha b hb => himp a (List.mem_cons_of_mem _ ha) b (List.mem_cons_of_mem _ hb))

/-- Partners of partners. -/
lemma forall₂_comp {γ : Type} {S : β → γ → Prop} {l'' : List γ} (h : List.Forall₂ R l l')
    (h' : List.Forall₂ S l' l'') : List.Forall₂ (fun a c => ∃ b, R a b ∧ S b c) l l'' := by
  induction h generalizing l'' with
  | nil =>
    cases h'
    exact .nil
  | cons hr _ ih =>
    cases h' with
    | cons hs h' => exact .cons ⟨_, hr, hs⟩ (ih h')

/-- Partners that can be exchanged one by one can be exchanged together. -/
lemma exchange_forall₂ {γ : Type} {R' : α → β → Prop} {f : β → γ} (h : List.Forall₂ R l l')
    (hexchange : ∀ a ∈ l, ∀ b, R a b → ∃ b', R' a b' ∧ f b' = f b) :
    ∃ l'', List.Forall₂ R' l l'' ∧ l''.map f = l'.map f := by
  induction h with
  | nil => exact ⟨[], .nil, rfl⟩
  | @cons a b l l' hr _ ih =>
    obtain ⟨b', hb', heq⟩ := hexchange a (by simp) b hr
    obtain ⟨l'', hl'', hmap⟩ := ih fun a ha => hexchange a (by simp [ha])
    exact ⟨b' :: l'', .cons hb' hl'', by rw [List.map_cons, List.map_cons, heq, hmap]⟩

end

/-! ## The result in a scope -/

namespace Walk

variable {ε α β : Type} {scope : String} {here : List String}

/-- The result of a walk in a scope in which some references are being followed. -/
def resultAt (scope : String) (here : List String) (walk : Walk ε α) : Except ε α :=
  (walk.exec ⟨[scope], ⟨here, []⟩, .empty⟩).1

@[simp] lemma resultAt_pure (a : α) : (pure a : Walk ε α).resultAt scope here = .ok a := rfl

@[simp] lemma resultAt_throw (e : ε) : (throw e : Walk ε α).resultAt scope here = .error e := rfl

lemma resultAt_isFollowing (url : String) :
    (isFollowing url : Walk ε Bool).resultAt scope here = .ok (here.contains url) := rfl

variable [SchemaFault ε]

lemma Steady.result_eq {x : Walk ε α} (hx : x.Steady) {s : Session} (hs : s.patterns.Faithful)
    (hplain : s.lookups = none) : (x.exec s).1 = x.resultAt s.scopes.current s.active.here :=
  hx.alike _ _ ⟨hs, Patterns.faithful_empty, hplain, rfl, rfl, rfl⟩

@[simp] lemma resultAt_broken (e : SchemaError) :
    (broken e : Walk ε α).resultAt scope here = .error (SchemaFault.ofSchema e) := rfl

lemma resultAt_ofExcept (r : Except SchemaError α) :
    (ofExcept r : Walk SchemaError α).resultAt scope here = r := by
  rw [resultAt, exec_ofExcept_fst]

lemma resultAt_bind {x : Walk ε α} {f : α → Walk ε β} (hx : x.Steady) (hf : ∀ a, (f a).Steady)
    :
    (x >>= f).resultAt scope here =
      x.resultAt scope here >>= fun a => (f a).resultAt scope here := by
  have hafter := hx.faithful ⟨[scope], ⟨here, []⟩, .empty⟩ Patterns.faithful_empty
  have hplain := hx.plain ⟨[scope], ⟨here, []⟩, .empty⟩ rfl
  have hscopes := hx.scopes ⟨[scope], ⟨here, []⟩, .empty⟩
  have hactive := hx.active ⟨[scope], ⟨here, []⟩, .empty⟩
  rcases h : x.exec ⟨[scope], ⟨here, []⟩, .empty⟩ with ⟨e | a, s'⟩
  · simp only [resultAt, exec_bind_error h, h]
    rfl
  · rw [h] at hafter hplain hscopes hactive
    have hresult := (hf a).result_eq hafter hplain
    simp only [resultAt, exec_bind_ok h, h]
    rw [hresult, hscopes, hactive]
    rfl

lemma resultAt_map {x : Walk ε α} (hx : x.Steady) (g : α → β) :
    (g <$> x).resultAt scope here = g <$> x.resultAt scope here := by
  rw [map_eq_pure_bind, resultAt_bind hx fun a => Steady.pure (g a), map_eq_pure_bind]
  rfl

lemma resultAt_mapM {γ : Type} {f : γ → Walk ε β} (l : List γ) (hf : ∀ c, (f c).Steady) :
    (l.mapM f).resultAt scope here = l.mapM fun c => (f c).resultAt scope here := by
  induction l with
  | nil => rfl
  | cons c l ih =>
    rw [List.mapM_cons, List.mapM_cons,
      resultAt_bind (hf c) fun b => (Steady.mapM fun c _ => hf c).bind fun bs => Steady.pure _]
    congr 1
    funext b
    rw [resultAt_bind (Steady.mapM fun c _ => hf c) fun bs => Steady.pure _, ih]
    rfl

lemma resultAt_following {x : Walk ε α} (hx : x.Steady) (url : String) :
    (following url x).resultAt scope here = x.resultAt scope (url :: here) := by
  rw [resultAt, following, exec_between]
  exact hx.result_eq Patterns.faithful_empty rfl

lemma resultAt_onChild {x : Walk ε α} (hx : x.Steady) :
    (onChild x).resultAt scope here = x.resultAt scope [] := by
  rw [resultAt, onChild, exec_between]
  exact hx.result_eq Patterns.faithful_empty rfl

lemma resultAt_inScope {x : Walk ε α} (hx : x.Steady) (uri : String) :
    (inScope uri x).resultAt scope here = x.resultAt (Reference.join scope uri) here := by
  rw [resultAt, hx.exec_inScope, Session.enter_of_plain uri rfl]
  exact hx.result_eq Patterns.faithful_empty rfl

lemma resultAt_resolve (store : Store) (reference : String) :
    (resolve store reference : Walk SchemaError (String × Value)).resultAt scope here =
      store.resolve [scope] reference := by
  rw [resultAt, exec_resolve, Session.resolve_of_plain store reference rfl, exec_ofExcept_fst]

lemma resultAt_tooDeep :
    (Validator.tooDeep : Walk SchemaError α).resultAt scope here =
      .error (.referenceCycle scope) := rfl

lemma resultAt_pattern (source : String) :
    (pattern source : Walk SchemaError Regex).resultAt scope here =
      match Regex.ofText? source with
      | some regex => .ok regex
      | none => .error (.invalidPattern source) := by
  have hstart : Session.patterns ⟨[scope], ⟨here, []⟩, .empty⟩ = .empty := rfl
  rw [resultAt, exec_pattern, hstart]
  rcases Patterns.get_of_faithful Patterns.faithful_empty source with
      ⟨regex, after, hget, hr, -⟩ | ⟨hget, hr⟩
  · rw [hget, hr]
  · rw [hget, hr]
    rfl

/-! ## Good ends -/

lemma bind_ok_iff {x : Walk ε α} {f : α → Walk ε β} {b : β} (hx : x.Steady) (hf : ∀ a, (f a).Steady)
    :
    (x >>= f).resultAt scope here = .ok b ↔
      ∃ a, x.resultAt scope here = .ok a ∧ (f a).resultAt scope here = .ok b := by
  rw [resultAt_bind hx hf, Except.bind_eq_ok_iff]

lemma map_ok_iff {x : Walk ε α} {g : α → β} {b : β} (hx : x.Steady) :
    (g <$> x).resultAt scope here = .ok b ↔ ∃ a, x.resultAt scope here = .ok a ∧ g a = b := by
  rw [resultAt_map hx, Except.map_eq_ok_iff]

lemma bind_pure_ok_iff {x : Walk ε α} {g : α → β} {b : β} (hx : x.Steady) :
    (x >>= fun a => pure (g a)).resultAt scope here = .ok b ↔
      ∃ a, x.resultAt scope here = .ok a ∧ g a = b := by
  rw [← map_ok_iff hx, map_eq_pure_bind]

lemma pattern_ok_iff (source : String) {regex : Regex} :
    (pattern source : Walk SchemaError Regex).resultAt scope here = .ok regex ↔
      Regex.ofText? source = some regex := by
  rw [resultAt_pattern]
  split <;> simp [*]

lemma mapM_ok_iff {γ : Type} {f : γ → Walk ε β} {l : List γ} {bs : List β}
    (hf : ∀ c, (f c).Steady) :
    (l.mapM f).resultAt scope here = .ok bs ↔
      List.Forall₂ (fun c b => (f c).resultAt scope here = .ok b) l bs := by
  rw [resultAt_mapM l hf, Except.mapM_eq_ok_iff]

end Walk

end ApiContract
