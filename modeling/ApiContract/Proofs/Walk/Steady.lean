/-
# Steady walks

A walk is steady if it leaves the scopes and the references being followed as it found
them, on every way out, and if its result depends on nothing but the innermost scope, the
references being followed for the value at hand, and what patterns mean.  The patterns
that have been read before do not count: they only save reading them again.  (What is kept
about URLs is left out here: it belongs to one store, and a steady walk may belong to any.)

All walks of this library are built from a few steps by sequencing, by entering a scope and
by turning to another value, and each of these keeps walks steady.
-/
import ApiContract.Schema.Default
import Mathlib.Tactic.Common

namespace ApiContract

/-! ## Patterns that mean what they say -/

/-- Every pattern that has been read is kept with its own meaning. -/
def Patterns.Faithful (patterns : Patterns) : Prop :=
  ∀ source regex, patterns.compiled.lookup source = some regex →
    Regex.ofText? source = some regex

namespace Patterns

lemma faithful_empty : Patterns.empty.Faithful := by
  intro source regex h
  simp [Patterns.empty] at h

lemma get_of_faithful {patterns : Patterns} (h : patterns.Faithful) (source : String) :
    (∃ regex after, patterns.get source = .ok (regex, after) ∧
        Regex.ofText? source = some regex ∧ after.Faithful) ∨
      (patterns.get source = .error (.invalidPattern source) ∧ Regex.ofText? source = none) := by
  rcases hl : patterns.compiled.lookup source with _ | regex
  · rcases hr : Regex.ofText? source with _ | regex
    · right
      simp [Patterns.get, hl, hr]
    · left
      refine ⟨regex, ⟨(source, regex) :: patterns.compiled⟩, ?_, rfl, ?_⟩
      · simp [Patterns.get, hl, hr]
      · intro source' regex' h'
        by_cases hs : source' = source
        · subst hs
          rw [List.lookup_cons_self, Option.some.injEq] at h'
          rw [← h', hr]
        · rw [List.lookup_cons, beq_false_of_ne hs] at h'
          exact h source' regex' h'
  · left
    exact ⟨regex, patterns, by simp [Patterns.get, hl], h source regex hl, h⟩

lemma get_ne_underflow (patterns : Patterns) (source : String) :
    patterns.get source ≠ .error .scopeUnderflow := by
  rw [Patterns.get]
  split
  · simp
  · split <;> simp

end Patterns

namespace Scopes

@[simp] lemma current_push (uri : String) (scopes : Scopes) :
    (scopes.push uri).current = Reference.join scopes.current uri := rfl

end Scopes

namespace Store

lemma resolveUrl_ne_underflow (store : Store) (url : String) :
    store.resolveUrl url ≠ .error .scopeUnderflow := by
  rw [resolveUrl]
  split
  split
  · rw [resolvePointer]
    split <;> simp
  · simp

lemma resolve_ne_underflow (store : Store) (scopes : Scopes) (reference : String) :
    store.resolve scopes reference ≠ .error .scopeUnderflow := by
  rw [resolve]
  rcases h : store.resolveUrl (Reference.join scopes.current reference) with e | v
  · intro he
    simp only [bind, Except.bind, Except.error.injEq] at he
    rw [he] at h
    exact store.resolveUrl_ne_underflow _ h
  · simp [bind, Except.bind, pure, Except.pure]

end Store

/-! ## Sessions -/

namespace Session

variable (s : Session) (uri : String) (store : Store) (reference : String)

@[simp] lemma scopes_note (n : Note) : (s.note n).scopes = s.scopes := rfl

@[simp] lemma active_note (n : Note) : (s.note n).active = s.active := rfl

@[simp] lemma patterns_note (n : Note) : (s.note n).patterns = s.patterns := rfl

@[simp] lemma lookups_note (n : Note) : (s.note n).lookups = s.lookups := rfl

lemma enter_of_plain {s : Session} (h : s.lookups = none) :
    s.enter uri = { s with scopes := s.scopes.push uri } := by
  rw [enter, h]

lemma exists_scopes_enter : ∃ url, (s.enter uri).scopes = url :: s.scopes := by
  rw [enter]
  split
  · exact ⟨_, rfl⟩
  · exact ⟨_, rfl⟩

@[simp] lemma active_enter : (s.enter uri).active = s.active := by
  rw [enter]
  split <;> rfl

@[simp] lemma patterns_enter : (s.enter uri).patterns = s.patterns := by
  rw [enter]
  split <;> rfl

@[simp] lemma notes_enter : (s.enter uri).memory.notes = s.memory.notes := by
  rw [enter]
  split <;> rfl

lemma resolve_of_plain {s : Session} (h : s.lookups = none) :
    s.resolve store reference = (store.resolve s.scopes reference, s) := by
  rw [resolve, h]

@[simp] lemma scopes_resolve : (s.resolve store reference).2.scopes = s.scopes := by
  rw [resolve]
  split <;> rfl

@[simp] lemma active_resolve : (s.resolve store reference).2.active = s.active := by
  rw [resolve]
  split <;> rfl

@[simp] lemma patterns_resolve : (s.resolve store reference).2.patterns = s.patterns := by
  rw [resolve]
  split <;> rfl

@[simp] lemma notes_resolve :
    (s.resolve store reference).2.memory.notes = s.memory.notes := by
  rw [resolve]
  split <;> rfl

lemma resolve_ne_underflow : (s.resolve store reference).1 ≠ .error .scopeUnderflow := by
  rw [resolve]
  split
  · exact store.resolve_ne_underflow _ _
  · rename_i lookups _
    simp only [Lookups.resolve, Lookups.resolveUrl]
    split
    · simp [Except.map]
    · split
      · simp [Except.map]
      · rename_i e he
        intro h
        simp only [Except.map, Except.error.injEq] at h
        exact store.resolveUrl_ne_underflow _ (he.trans (by rw [h]))

end Session

/-! ## Running a walk -/

namespace Walk

variable {ε α β : Type}

/-- What a walk makes of a session: its result and the session after it. -/
def exec (walk : Walk ε α) (s : Session) : Except ε α × Session :=
  walk.run s

@[simp] lemma exec_pure (a : α) (s : Session) : (pure a : Walk ε α).exec s = (.ok a, s) := rfl

@[simp] lemma exec_throw (e : ε) (s : Session) :
    (throw e : Walk ε α).exec s = (.error e, s) := rfl

@[simp] lemma exec_get (s : Session) : (get : Walk ε Session).exec s = (.ok s, s) := rfl

@[simp] lemma exec_set (after s : Session) :
    (set after : Walk ε PUnit).exec s = (.ok ⟨⟩, after) := rfl

@[simp] lemma exec_modify (f : Session → Session) (s : Session) :
    (modify f : Walk ε Unit).exec s = (.ok (), f s) := rfl

lemma exec_bind (x : Walk ε α) (f : α → Walk ε β) (s : Session) :
    (x >>= f).exec s =
      match x.exec s with
      | (.ok a, s') => (f a).exec s'
      | (.error e, s') => (.error e, s') := by
  change (match x.exec s with
    | (a, s') => (ExceptT.bindCont f a).run s') = _
  rcases x.exec s with ⟨_ | a, s'⟩ <;> rfl

lemma exec_bind_ok {x : Walk ε α} {f : α → Walk ε β} {s s' : Session} {a : α}
    (h : x.exec s = (.ok a, s')) : (x >>= f).exec s = (f a).exec s' := by
  rw [exec_bind, h]

lemma exec_bind_error {x : Walk ε α} {f : α → Walk ε β} {s s' : Session} {e : ε}
    (h : x.exec s = (.error e, s')) : (x >>= f).exec s = (.error e, s') := by
  rw [exec_bind, h]

@[simp] lemma exec_outcome (x : Walk ε α) (s : Session) :
    x.outcome.exec s = (.ok (x.exec s).1, (x.exec s).2) := rfl

@[simp] lemma exec_ofResult (r : Except ε α) (s : Session) : (ofResult r).exec s = (r, s) := by
  cases r <;> rfl

@[simp] lemma exec_broken [SchemaFault ε] (e : SchemaError) (s : Session) :
    (broken e : Walk ε α).exec s = (.error (SchemaFault.ofSchema e), s.note (.raised e)) := rfl

lemma exec_ofExcept_fst (r : Except SchemaError α) (s : Session) :
    ((ofExcept r : Walk SchemaError α).exec s).1 = r := by
  cases r <;> rfl

lemma exec_resolve [SchemaFault ε] (store : Store) (reference : String) (s : Session) :
    (resolve store reference : Walk ε (String × Value)).exec s =
      (ofExcept (s.resolve store reference).1 : Walk ε (String × Value)).exec
        (s.resolve store reference).2 := by
  rw [resolve, exec_bind_ok (exec_get s)]
  rcases s.resolve store reference with ⟨found, after⟩
  rw [exec_bind_ok (exec_set after s)]

lemma exec_pattern [SchemaFault ε] (source : String) (s : Session) :
    (pattern source : Walk ε Regex).exec s =
      match s.patterns.get source with
      | .ok (regex, patterns) =>
        (.ok regex, { s.note (.asked source) with
          memory := { (s.note (.asked source)).memory with patterns := patterns } })
      | .error e =>
        (.error (SchemaFault.ofSchema e), (s.note (.asked source)).note (.raised e)) := by
  change ((do
    let found ← (ofExcept ((s.note (.asked source)).patterns.get source) : Walk ε _)
    modify fun s => { s with memory := { s.memory with patterns := found.2 } }
    return found.1 : Walk ε Regex).exec (s.note (.asked source))) = _
  rw [Session.patterns_note]
  rcases s.patterns.get source with e | ⟨regex, patterns⟩ <;> rfl

@[simp] lemma exec_apart (store : Store) (x : Walk ε α) (s : Session) :
    (apart store x).exec s =
      ((x.exec (Session.start store s.memory)).1,
        { s with memory := (x.exec (Session.start store s.memory)).2.memory }) := rfl

@[simp] lemma exec_mapError {ε' : Type} (f : ε → ε') (x : Walk ε α) (s : Session) :
    (mapError f x).exec s = ((x.exec s).1.mapError f, (x.exec s).2) := rfl

lemma exec_between (before after : Following → Following) (x : Walk ε α) (s : Session) :
    (between before after x).exec s =
      let (result, s') := x.exec { s with active := before s.active }
      (result, { s' with active := after s'.active }) := by
  simp [between, exec_bind]

lemma exec_inScope [SchemaFault ε] (uri : String) (x : Walk ε α) (s : Session) :
    (inScope uri x).exec s =
      let (result, s') := x.exec (s.enter uri)
      match s'.scopes with
      | [] => (.error (SchemaFault.ofSchema .scopeUnderflow), s'.note (.raised .scopeUnderflow))
      | _ :: scopes => (result, { s' with scopes := scopes }) := by
  rcases h : x.exec (s.enter uri) with ⟨result, ⟨_ | ⟨top, scopes⟩, active, memory⟩⟩ <;>
    simp [inScope, enterScope, leaveScope, exec_bind, h, Scopes.pop, ofExcept]

end Walk

/-! ## Steadiness -/

/-- Two sessions that a steady walk cannot tell apart. -/
structure Session.Alike (s t : Session) : Prop where
  /-- The patterns of the first mean what they say. -/
  left : s.patterns.Faithful
  /-- The patterns of the second mean what they say. -/
  right : t.patterns.Faithful
  /-- The first keeps nothing about URLs. -/
  left_plain : s.lookups = none
  /-- The second keeps nothing about URLs. -/
  right_plain : t.lookups = none
  /-- The innermost scope is the same. -/
  scope : s.scopes.current = t.scopes.current
  /-- The same references are being followed for the value at hand. -/
  here : s.active.here = t.active.here

namespace Walk

variable {ε α β : Type} [SchemaFault ε]

/-- A walk that leaves scopes and references as they were and whose result depends on the
innermost scope and the references for the value at hand alone. -/
structure Steady (walk : Walk ε α) : Prop where
  /-- The scopes are left as they were. -/
  scopes : ∀ s, (walk.exec s).2.scopes = s.scopes
  /-- The references being followed are left as they were. -/
  active : ∀ s, (walk.exec s).2.active = s.active
  /-- No scope is left that had not been entered. -/
  no_underflow : ∀ s, (walk.exec s).1 ≠ .error (SchemaFault.ofSchema .scopeUnderflow)
  /-- Patterns that are added mean what they say. -/
  faithful : ∀ s, s.patterns.Faithful → (walk.exec s).2.patterns.Faithful
  /-- If nothing is kept about URLs, nothing is. -/
  plain : ∀ s, s.lookups = none → (walk.exec s).2.lookups = none
  /-- Sessions that are alike lead to the same result. -/
  alike : ∀ s t, s.Alike t → (walk.exec s).1 = (walk.exec t).1

namespace Steady

lemma alike_after {x : Walk ε α} (hx : x.Steady) {s t : Session} (h : s.Alike t) :
    (x.exec s).2.Alike (x.exec t).2 := by
  refine ⟨hx.faithful s h.left, hx.faithful t h.right, hx.plain s h.left_plain,
    hx.plain t h.right_plain, ?_, ?_⟩
  · rw [hx.scopes, hx.scopes, h.scope]
  · rw [hx.active, hx.active, h.here]

lemma pure (a : α) : (Pure.pure a : Walk ε α).Steady := by
  refine ⟨fun s => rfl, fun s => rfl, fun s => ?_, fun s h => h, fun s h => h, fun s t _ => rfl⟩
  simp

lemma throw {e : ε} (h : e ≠ SchemaFault.ofSchema .scopeUnderflow) :
    (MonadExcept.throw e : Walk ε α).Steady := by
  refine ⟨fun s => rfl, fun s => rfl, fun s => ?_, fun s h => h, fun s h => h, fun s t _ => rfl⟩
  simpa using h

lemma broken {e : SchemaError} (h : e ≠ .scopeUnderflow) :
    (Walk.broken e : Walk ε α).Steady := by
  refine ⟨fun s => rfl, fun s => rfl, fun s he => ?_, fun s h => h, fun s h => h, fun s t _ => rfl⟩
  rw [exec_broken, Except.error.injEq] at he
  exact h (SchemaFault.ofSchema_inj he)

lemma ofExcept {r : Except SchemaError α} (h : r ≠ .error .scopeUnderflow) :
    (Walk.ofExcept r : Walk ε α).Steady := by
  cases r with
  | ok a => exact pure a
  | error e => exact broken fun he => h (by rw [he])

/-- A sequence of steady walks is steady; the second has to be steady only for what the
first can result in. -/
lemma bind_of_ok {x : Walk ε α} {f : α → Walk ε β} (hx : x.Steady)
    (hf : ∀ a s, (x.exec s).1 = .ok a → (f a).Steady) : (x >>= f).Steady := by
  have hstep : ∀ s, (∃ e, x.exec s = (.error e, (x.exec s).2)) ∨
      ∃ a, x.exec s = (.ok a, (x.exec s).2) ∧ (f a).Steady := by
    intro s
    rcases h : x.exec s with ⟨e | a, s'⟩
    · exact Or.inl ⟨e, rfl⟩
    · exact Or.inr ⟨a, rfl, hf a s (by rw [h])⟩
  -- Either the sequence ends with the first walk, or the second goes on from its session.
  refine ⟨fun s => ?_, fun s => ?_, fun s => ?_, fun s hs => ?_, fun s hs => ?_, fun s t hst => ?_⟩
  · rcases hstep s with ⟨e, h⟩ | ⟨a, h, ha⟩
    · rw [exec_bind_error h]; exact hx.scopes s
    · rw [exec_bind_ok h, ha.scopes]; exact hx.scopes s
  · rcases hstep s with ⟨e, h⟩ | ⟨a, h, ha⟩
    · rw [exec_bind_error h]; exact hx.active s
    · rw [exec_bind_ok h, ha.active]; exact hx.active s
  · rcases hstep s with ⟨e, h⟩ | ⟨a, h, ha⟩
    · rw [exec_bind_error h]
      have hne := hx.no_underflow s
      rw [h] at hne
      simpa using hne
    · rw [exec_bind_ok h]; exact ha.no_underflow _
  · rcases hstep s with ⟨e, h⟩ | ⟨a, h, ha⟩
    · rw [exec_bind_error h]; exact hx.faithful s hs
    · rw [exec_bind_ok h]; exact ha.faithful _ (hx.faithful s hs)
  · rcases hstep s with ⟨e, h⟩ | ⟨a, h, ha⟩
    · rw [exec_bind_error h]; exact hx.plain s hs
    · rw [exec_bind_ok h]; exact ha.plain _ (hx.plain s hs)
  · have hr := hx.alike s t hst
    have hafter := hx.alike_after hst
    rcases hstep s with ⟨e, h⟩ | ⟨a, h, ha⟩
    · have ht : x.exec t = (.error e, (x.exec t).2) := by
        rw [h] at hr; exact Prod.ext hr.symm rfl
      rw [exec_bind_error h, exec_bind_error ht]
    · have ht : x.exec t = (.ok a, (x.exec t).2) := by
        rw [h] at hr; exact Prod.ext hr.symm rfl
      rw [exec_bind_ok h, exec_bind_ok ht]
      exact ha.alike _ _ hafter

lemma bind {x : Walk ε α} {f : α → Walk ε β} (hx : x.Steady) (hf : ∀ a, (f a).Steady) :
    (x >>= f).Steady :=
  hx.bind_of_ok fun a _ _ => hf a

lemma map {x : Walk ε α} (hx : x.Steady) (g : α → β) : (g <$> x).Steady := by
  rw [map_eq_pure_bind]
  exact hx.bind fun a => pure (g a)

lemma mapM {γ : Type} {l : List γ} {f : γ → Walk ε β} (hf : ∀ c ∈ l, (f c).Steady) :
    (l.mapM f).Steady := by
  induction l with
  | nil => exact pure []
  | cons c l ih =>
    rw [List.mapM_cons]
    refine (hf c (by simp)).bind fun b => ?_
    refine (ih fun c hc => hf c (by simp [hc])).bind fun bs => ?_
    exact pure (b :: bs)

lemma outcome {x : Walk ε α} (hx : x.Steady) : x.outcome.Steady := by
  refine ⟨hx.scopes, hx.active, fun s => by simp, hx.faithful, hx.plain, fun s t hst => ?_⟩
  simp [hx.alike s t hst]

/-- Going on with the outcome of a steady walk: the outcome is no underflow of scopes. -/
lemma outcome_bind {x : Walk ε α} {f : Except ε α → Walk ε β} (hx : x.Steady)
    (hf : ∀ r, r ≠ .error (SchemaFault.ofSchema .scopeUnderflow) → (f r).Steady) :
    (x.outcome >>= f).Steady := by
  refine hx.outcome.bind_of_ok fun r s h => hf r ?_
  rw [exec_outcome, Except.ok.injEq] at h
  rw [← h]
  exact hx.no_underflow s

/-- Between two changes of the references being followed, the second of which undoes the
first, a steady walk is steady. -/
lemma between {before after : Following → Following} {x : Walk ε α} (hx : x.Steady)
    (hundo : ∀ f, after (before f) = f)
    (hhere : ∀ f g : Following, f.here = g.here → (before f).here = (before g).here) :
    (between before after x).Steady := by
  refine ⟨fun s => ?_, fun s => ?_, fun s => ?_, fun s hs => ?_, fun s hs => ?_, fun s t hst => ?_⟩
  · rw [exec_between]; exact hx.scopes _
  · rw [exec_between]
    change after (x.exec _).2.active = _
    rw [hx.active, hundo]
  · rw [exec_between]; exact hx.no_underflow _
  · rw [exec_between]; exact hx.faithful _ hs
  · rw [exec_between]; exact hx.plain _ hs
  · rw [exec_between, exec_between]
    exact hx.alike _ _ ⟨hst.left, hst.right, hst.left_plain, hst.right_plain, hst.scope,
      hhere _ _ hst.here⟩

lemma following {x : Walk ε α} (hx : x.Steady) (url : String) : (following url x).Steady :=
  hx.between (fun _ => rfl) fun _ _ h => by simp [Following.start, h]

lemma onChild {x : Walk ε α} (hx : x.Steady) : (onChild x).Steady :=
  hx.between (fun _ => rfl) fun _ _ _ => rfl

/-- The scope that a steady walk is left from is the one that was entered. -/
lemma exec_inScope {x : Walk ε α} (hx : x.Steady) (uri : String) (s : Session) :
    (Walk.inScope uri x).exec s =
      ((x.exec (s.enter uri)).1, { (x.exec (s.enter uri)).2 with scopes := s.scopes }) := by
  rw [Walk.exec_inScope]
  have h := hx.scopes (s.enter uri)
  obtain ⟨url, hurl⟩ := s.exists_scopes_enter uri
  rw [hurl] at h
  simp only [h]

/-- Inside a scope a steady walk is steady. -/
lemma inScope {x : Walk ε α} (hx : x.Steady) (uri : String) : (inScope uri x).Steady := by
  refine ⟨fun s => ?_, fun s => ?_, fun s => ?_, fun s hs => ?_, fun s hs => ?_, fun s t hst => ?_⟩
  · rw [hx.exec_inScope]
  · rw [hx.exec_inScope]; exact (hx.active _).trans (s.active_enter uri)
  · rw [hx.exec_inScope]; exact hx.no_underflow _
  · rw [hx.exec_inScope]; exact hx.faithful _ (by rwa [s.patterns_enter])
  · rw [hx.exec_inScope]; exact hx.plain _ (by rw [s.enter_of_plain uri hs]; exact hs)
  · rw [hx.exec_inScope, hx.exec_inScope, s.enter_of_plain uri hst.left_plain,
      t.enter_of_plain uri hst.right_plain]
    refine hx.alike _ _ ⟨hst.left, hst.right, hst.left_plain, hst.right_plain, ?_, hst.here⟩
    rw [Scopes.current_push, Scopes.current_push, hst.scope]

lemma get_bind {f : Session → Walk ε β} {g : String → List String → Walk ε β}
    (hf : ∀ s, f s = g s.scopes.current s.active.here) (hg : ∀ scope here, (g scope here).Steady) :
    ((MonadState.get : Walk ε Session) >>= f).Steady := by
  have hexec : ∀ s, ((MonadState.get : Walk ε Session) >>= f).exec s =
      (g s.scopes.current s.active.here).exec s := by
    intro s
    rw [exec_bind_ok (exec_get s), hf]
  refine ⟨fun s => ?_, fun s => ?_, fun s => ?_, fun s hs => ?_, fun s hs => ?_, fun s t hst => ?_⟩
  · rw [hexec]; exact (hg _ _).scopes s
  · rw [hexec]; exact (hg _ _).active s
  · rw [hexec]; exact (hg _ _).no_underflow s
  · rw [hexec]; exact (hg _ _).faithful s hs
  · rw [hexec]; exact (hg _ _).plain s hs
  · rw [hexec, hexec, hst.scope, hst.here]; exact (hg _ _).alike s t hst

lemma scope : (Walk.scope : Walk ε String).Steady :=
  get_bind (g := fun scope _ => Pure.pure scope) (fun _ => rfl) fun _ _ => pure _

lemma isFollowing (url : String) : (Walk.isFollowing url : Walk ε Bool).Steady :=
  get_bind (g := fun _ here => Pure.pure (here.contains url)) (fun _ => rfl) fun _ _ => pure _

lemma resolve (store : Store) (reference : String) :
    (Walk.resolve store reference : Walk ε (String × Value)).Steady := by
  have hend : ∀ s : Session,
      (Walk.ofExcept (s.resolve store reference).1 : Walk ε (String × Value)).Steady :=
    fun s => ofExcept (s.resolve_ne_underflow store reference)
  refine ⟨fun s => ?_, fun s => ?_, fun s => ?_, fun s hs => ?_, fun s hs => ?_, fun s t hst => ?_⟩
  · rw [exec_resolve, (hend s).scopes, s.scopes_resolve]
  · rw [exec_resolve, (hend s).active, s.active_resolve]
  · rw [exec_resolve]; exact (hend s).no_underflow _
  · rw [exec_resolve]; exact (hend s).faithful _ (by rwa [s.patterns_resolve])
  · rw [exec_resolve]
    exact (hend s).plain _ (by rw [s.resolve_of_plain store reference hs]; exact hs)
  · rw [exec_resolve, exec_resolve, s.resolve_of_plain store reference hst.left_plain,
      t.resolve_of_plain store reference hst.right_plain, Store.resolve, Store.resolve, hst.scope]
    refine (ofExcept (α := String × Value) ?_).alike s t hst
    exact store.resolve_ne_underflow t.scopes reference

lemma tooDeep : (Validator.tooDeep : Walk ε α).Steady :=
  scope.bind fun _ => broken (by simp)

lemma pattern (source : String) : (Walk.pattern source : Walk ε Regex).Steady := by
  refine ⟨fun s => ?_, fun s => ?_, fun s => ?_, fun s hs => ?_, fun s hs => ?_, fun s t hst => ?_⟩
  · rw [exec_pattern]; split <;> rfl
  · rw [exec_pattern]; split <;> rfl
  · rw [exec_pattern]
    split
    · simp
    · rename_i e he
      intro h
      simp only [Except.error.injEq] at h
      rw [SchemaFault.ofSchema_inj h] at he
      exact s.patterns.get_ne_underflow source he
  · rw [exec_pattern]
    rcases Patterns.get_of_faithful hs source with ⟨regex, after, hget, -, hafter⟩ | ⟨hget, -⟩
    · rw [hget]; exact hafter
    · rw [hget]; exact hs
  · rw [exec_pattern]; split <;> exact hs
  · -- The tables may differ, but both give what the source stands for.
    rw [exec_pattern, exec_pattern]
    rcases Patterns.get_of_faithful hst.left source with
        ⟨regex, after, hget, hr, -⟩ | ⟨hget, hr⟩ <;>
      rcases Patterns.get_of_faithful hst.right source with
        ⟨regex', after', hget', hr', -⟩ | ⟨hget', hr'⟩ <;>
      rw [hr] at hr' <;> rw [hget, hget']
    · rw [Option.some.inj hr']
    · simp at hr'
    · simp at hr'

lemma apart {x : Walk ε α} (hx : x.Steady) (store : Store) : (Walk.apart store x).Steady := by
  refine ⟨fun s => rfl, fun s => rfl, fun s => ?_, fun s hs => ?_, fun s hs => ?_,
    fun s t hst => ?_⟩
  · exact hx.no_underflow _
  · exact hx.faithful _ hs
  · exact hx.plain _ hs
  · exact hx.alike _ _ ⟨hst.left, hst.right, hst.left_plain, hst.right_plain, rfl, rfl⟩

lemma mapError {ε' : Type} [SchemaFault ε'] {f : ε → ε'} {x : Walk ε α} (hx : x.Steady)
    (hf : ∀ e, f e = SchemaFault.ofSchema .scopeUnderflow →
      e = SchemaFault.ofSchema .scopeUnderflow) : (Walk.mapError f x).Steady := by
  refine ⟨hx.scopes, hx.active, fun s h => ?_, hx.faithful, hx.plain, fun s t hst => ?_⟩
  · have hne := hx.no_underflow s
    rw [exec_mapError] at h
    rcases hr : (x.exec s).1 with e | a
    · rw [hr] at h hne
      simp only [Except.mapError, Except.error.injEq] at h
      exact hne (by rw [hf e h])
    · rw [hr] at h
      simp [Except.mapError] at h
  · rw [exec_mapError, exec_mapError, hx.alike s t hst]

end Steady

end Walk

end ApiContract
