/-
# Broken schemas are not passed over

A note is taken of every error of a schema that is raised.  A walk is loud if it ends with the
error of a schema whenever that has been raised on the way, and with no other.  Loudness is a
law: an outcome that is caught is either no error of a schema, or it is raised again.
-/
import ApiContract.Proofs.Walk.Law

namespace ApiContract

namespace Walk

variable {ε α β : Type} [SchemaFault ε]

/-- A walk that ends with an error of a schema if and only if it has raised it on the way. -/
structure Loud (walk : Walk ε α) : Prop where
  /-- The walk is steady. -/
  steady : walk.Steady
  /-- The errors that are raised are those that it ends with. -/
  raised : ∀ s, ∃ notes, (walk.exec s).2.memory.notes = notes ++ s.memory.notes ∧
    ∀ e, .raised e ∈ notes ↔ (walk.exec s).1 = .error (SchemaFault.ofSchema e)

namespace Loud

/-- A walk without a step that ends with no error of a schema. -/
lemma still {x : Walk ε α} (hx : x.Steady) (hstill : ∀ s, (x.exec s).2 = s)
    (hend : ∀ s e, (x.exec s).1 ≠ .error (SchemaFault.ofSchema e)) : x.Loud := by
  refine ⟨hx, fun s => ⟨[], by rw [hstill, List.nil_append], fun e => ?_⟩⟩
  exact iff_of_false List.not_mem_nil (hend s e)

lemma broken {e : SchemaError} (h : e ≠ .scopeUnderflow) : (Walk.broken e : Walk ε α).Loud := by
  refine ⟨.broken h, fun s => ⟨[.raised e], rfl, fun error => ?_⟩⟩
  rw [List.mem_singleton, Note.raised.injEq, exec_broken, Except.error.injEq]
  exact ⟨fun h => by rw [h], fun h => (SchemaFault.ofSchema_inj h).symm⟩

/-- If nothing has been raised so far, a loud walk may come after it. -/
lemma raised_after {f : Walk ε β} (hf : f.Loud) {s after : Session} {notes : List Note}
    (hafter : after.memory.notes = notes ++ s.memory.notes) (hnone : ∀ e, .raised e ∉ notes) :
    ∃ notes', (f.exec after).2.memory.notes = notes' ++ s.memory.notes ∧
      ∀ e, .raised e ∈ notes' ↔ (f.exec after).1 = .error (SchemaFault.ofSchema e) := by
  obtain ⟨notes', hafter', hraised'⟩ := hf.raised after
  refine ⟨notes' ++ notes, by rw [hafter', hafter, List.append_assoc], fun e => ?_⟩
  rw [List.mem_append, or_iff_left (hnone e), hraised']

/-- A sequence in which the second walk is loud for all that the first can result in. -/
lemma bind_of_ok {x : Walk ε α} {f : α → Walk ε β} (hx : x.Loud)
    (hf : ∀ a s, (x.exec s).1 = .ok a → (f a).Loud) : (x >>= f).Loud := by
  refine ⟨hx.steady.bind_of_ok fun a s h => (hf a s h).steady, fun s => ?_⟩
  obtain ⟨notes, hafter, hraised⟩ := hx.raised s
  rcases h : x.exec s with ⟨e | a, after⟩
  · rw [exec_bind_error h]
    simp only [h] at hafter hraised
    exact ⟨notes, hafter, fun error => by simpa using hraised error⟩
  · rw [exec_bind_ok h]
    simp only [h] at hafter hraised
    exact (hf a s (by rw [h])).raised_after hafter (by simp [hraised])

lemma resolve (store : Store) (reference : String) :
    (Walk.resolve store reference : Walk ε (String × Value)).Loud := by
  refine ⟨.resolve store reference, fun s => ?_⟩
  have hnotes := s.notes_resolve store reference
  rw [exec_resolve]
  rcases h : (s.resolve store reference).1 with e | found
  · have he : e ≠ .scopeUnderflow :=
      fun he => s.resolve_ne_underflow store reference (by rw [h, he])
    obtain ⟨notes, hafter, hraised⟩ :=
      (broken (ε := ε) (α := String × Value) he).raised (s.resolve store reference).2
    exact ⟨notes, hafter.trans (congrArg (notes ++ ·) hnotes), hraised⟩
  · exact ⟨[], hnotes, by simp [ofExcept]⟩

lemma pattern (source : String) : (Walk.pattern source : Walk ε Regex).Loud := by
  refine ⟨.pattern source, fun s => ?_⟩
  rw [exec_pattern]
  rcases s.patterns.get source with e | ⟨regex, after⟩
  · refine ⟨[.raised e, .asked source], rfl, fun error => ?_⟩
    simp only [List.mem_cons, Note.raised.injEq, reduceCtorEq, List.not_mem_nil, or_false,
      Except.error.injEq]
    exact ⟨fun h => by rw [h], fun h => (SchemaFault.ofSchema_inj h).symm⟩
  · exact ⟨[.asked source], rfl, by simp⟩

lemma between {before after : Following → Following} {x : Walk ε α} (hx : x.Loud)
    (hundo : ∀ f, after (before f) = f)
    (hhere : ∀ f g : Following, f.here = g.here → (before f).here = (before g).here) :
    (between before after x).Loud := by
  refine ⟨hx.steady.between hundo hhere, fun s => ?_⟩
  rw [exec_between]
  exact hx.raised { s with active := before s.active }

lemma inScope {x : Walk ε α} (hx : x.Loud) (uri : String) : (inScope uri x).Loud := by
  refine ⟨hx.steady.inScope uri, fun s => ?_⟩
  rw [hx.steady.exec_inScope, ← s.notes_enter uri]
  exact hx.raised (s.enter uri)

lemma apart {x : Walk ε α} (hx : x.Loud) (store : Store) : (Walk.apart store x).Loud :=
  ⟨hx.steady.apart store, fun s => hx.raised (.start store s.memory)⟩

lemma widen {x : Walk SchemaError α} (hx : x.Loud) :
    (Walk.mapError SchemaFault.ofSchema x : Walk ε α).Loud := by
  refine ⟨Steady.law.widen hx.steady, fun s => ?_⟩
  obtain ⟨notes, hafter, hraised⟩ := hx.raised s
  refine ⟨notes, hafter, fun e => (hraised e).trans ?_⟩
  rw [exec_mapError]
  rcases (x.exec s).1 with e' | a
  · simp only [Except.mapError, Except.error.injEq]
    exact ⟨fun h => by rw [h]; rfl, fun h => SchemaFault.ofSchema_inj h⟩
  · simp [Except.mapError]

/-- An outcome may be caught if errors of schemas are raised again. -/
lemma attempt {x : Walk ε α} {f : Except ε α → Walk ε β} (hx : x.Loud) (hok : ∀ a, (f (.ok a)).Loud)
    (herror : ∀ e, (∀ error, e ≠ SchemaFault.ofSchema error) → (f (.error e)).Loud)
    (hagain : ∀ error, f (.error (SchemaFault.ofSchema error)) = Walk.broken error) :
    (x.outcome >>= f).Loud := by
  refine ⟨Steady.law.attempt hx.steady (fun a => (hok a).steady) (fun e h => (herror e h).steady)
    hagain, fun s => ?_⟩
  obtain ⟨notes, hafter, hraised⟩ := hx.raised s
  rw [exec_bind_ok (exec_outcome x s)]
  rcases h : (x.exec s).1 with e | a
  · by_cases hschema : ∃ error, e = SchemaFault.ofSchema error
    · obtain ⟨error, rfl⟩ := hschema
      rw [hagain, exec_broken]
      refine ⟨.raised error :: notes, congrArg (Note.raised error :: ·) hafter, fun error' => ?_⟩
      simp only [List.mem_cons, Note.raised.injEq, hraised, h, Except.error.injEq]
      exact or_iff_right_of_imp fun herror => by rw [herror]
    · have hown : ∀ error, e ≠ SchemaFault.ofSchema error := fun error he => hschema ⟨error, he⟩
      refine (herror e hown).raised_after hafter fun error => ?_
      rw [hraised, h, Except.error.injEq]
      exact hown error
  · exact (hok a).raised_after hafter (by simp [hraised, h])

/-- Loudness, for all stores. -/
abbrev law : Law where
  Holds := Loud
  Covers := fun _ => True
  pure a := still (.pure a) (fun _ => rfl) (by simp)
  fail h := still (.throw (h _)) (fun _ => rfl) fun _ error => by simpa using h error
  broken := broken
  bind hx hf := hx.bind_of_ok fun a _ _ => hf a
  attempt := attempt
  scope := still .scope (fun _ => rfl) fun _ _ => nofun
  isFollowing url := still (.isFollowing url) (fun _ => rfl) fun _ _ => nofun
  resolve _ reference := resolve _ reference
  pattern := pattern
  following url hx := hx.between (fun _ => rfl) fun _ _ h => by simp [Following.start, h]
  onChild hx := hx.between (fun _ => rfl) fun _ _ _ => rfl
  inScope uri hx := hx.inScope uri
  apart _ hx := hx.apart _
  widen := widen

end Loud

end Walk

end ApiContract
