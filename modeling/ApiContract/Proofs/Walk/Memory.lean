/-
# Walks that share a memory

Walks may share a memory, one after the other.  A memory is sound for a store if its tables say
what would be found without them: every pattern that was asked for and can be read is there once
and with its own meaning, every URL is what joining makes of its parts, and every value is the one
that the store has at its URL.

A walk is independent if from every sound memory it comes to the same result and takes the same
notes, and leaves a sound memory.  Independence is a law, for walks through one store.
-/
import ApiContract.Proofs.Walk.Law
import ApiContract.Proofs.Value.Refinement

namespace ApiContract

/-! ## Sound tables -/

/-- Patterns that are those of some sources: each one that can be read is there once, with its own
meaning, and there are no others. -/
structure Patterns.IsTableOf (patterns : Patterns) (sources : List String) : Prop where
  /-- No pattern is there twice. -/
  nodup : (Fields.keys patterns.compiled).Nodup
  /-- The patterns are the readable ones among the sources. -/
  mem_iff : ∀ source regex, (source, regex) ∈ patterns.compiled ↔
    source ∈ sources ∧ Regex.ofText? source = some regex

/-- What is known about URLs is what a store says. -/
structure Lookups.Agrees (lookups : Lookups) (store : Store) : Prop where
  /-- URLs are joined from their parts. -/
  joins : ∀ parts url, lookups.joins.lookup parts = some url →
    url = Reference.join parts.1 parts.2
  /-- Values are those at their URLs. -/
  found : ∀ url v, lookups.found.lookup url = some v → store.resolveUrl url = .ok v

/-- The pattern that a note says was asked for. -/
def Note.asked? : Note → Option String
  | asked source => some source
  | raised _ => none

/-- The patterns that have been asked for, latest first. -/
def Memory.asked (memory : Memory) : List String :=
  memory.notes.filterMap Note.asked?

/-- The tables of a memory say what would be found without them. -/
structure Memory.Sound (memory : Memory) (store : Store) : Prop where
  /-- The patterns are those that have been asked for. -/
  patterns : memory.patterns.IsTableOf memory.asked
  /-- What is known about URLs agrees with the store. -/
  lookups : ∀ lookups, memory.lookups = some lookups → lookups.Agrees store

namespace Patterns

variable {patterns : Patterns} {sources : List String}

lemma isTableOf_empty : Patterns.empty.IsTableOf [] :=
  ⟨List.nodup_nil, by simp [Patterns.empty]⟩

lemma IsTableOf.faithful (h : patterns.IsTableOf sources) : patterns.Faithful :=
  fun source regex hl => ((h.mem_iff source regex).1 (Fields.mem_of_lookup hl)).2

/-- A pattern that is in the table may be asked for again. -/
lemma IsTableOf.again (h : patterns.IsTableOf sources) {source : String} {regex : Regex}
    (hmem : (source, regex) ∈ patterns.compiled) : patterns.IsTableOf (source :: sources) := by
  refine ⟨h.nodup, fun source' regex' => ?_⟩
  rw [h.mem_iff, List.mem_cons]
  constructor
  · exact fun ⟨hsource, hread⟩ => ⟨Or.inr hsource, hread⟩
  · rintro ⟨rfl | hsource, hread⟩
    · exact ⟨((h.mem_iff _ _).1 hmem).1, hread⟩
    · exact ⟨hsource, hread⟩

/-- A pattern that cannot be read leaves no trace. -/
lemma IsTableOf.unreadable (h : patterns.IsTableOf sources) {source : String}
    (hread : Regex.ofText? source = none) : patterns.IsTableOf (source :: sources) := by
  refine ⟨h.nodup, fun source' regex' => ?_⟩
  rw [h.mem_iff, List.mem_cons]
  constructor
  · exact fun ⟨hsource, hread'⟩ => ⟨Or.inr hsource, hread'⟩
  · rintro ⟨rfl | hsource, hread'⟩
    · rw [hread] at hread'
      simp at hread'
    · exact ⟨hsource, hread'⟩

/-- A pattern that can be read and is not in the table is added. -/
lemma IsTableOf.add (h : patterns.IsTableOf sources) {source : String} {regex : Regex}
    (hnew : patterns.compiled.lookup source = none) (hread : Regex.ofText? source = some regex) :
    IsTableOf ⟨(source, regex) :: patterns.compiled⟩ (source :: sources) := by
  refine ⟨List.nodup_cons.2 ⟨Fields.lookup_eq_none_iff_not_mem.1 hnew, h.nodup⟩,
    fun source' regex' => ?_⟩
  rw [List.mem_cons, h.mem_iff, List.mem_cons, Prod.mk.injEq]
  constructor
  · rintro (⟨rfl, rfl⟩ | ⟨hsource, hread'⟩)
    · exact ⟨Or.inl rfl, hread⟩
    · exact ⟨Or.inr hsource, hread'⟩
  · rintro ⟨rfl | hsource, hread'⟩
    · rw [hread, Option.some.injEq] at hread'
      exact Or.inl ⟨rfl, hread'.symm⟩
    · exact Or.inr ⟨hsource, hread'⟩

/-- Asking for a pattern gives what its source means and keeps the table. -/
lemma IsTableOf.get (h : patterns.IsTableOf sources) (source : String) :
    (∃ regex after, patterns.get source = .ok (regex, after) ∧
        Regex.ofText? source = some regex ∧ after.IsTableOf (source :: sources)) ∨
      (patterns.get source = .error (.invalidPattern source) ∧ Regex.ofText? source = none ∧
        patterns.IsTableOf (source :: sources)) := by
  rcases hl : patterns.compiled.lookup source with _ | regex
  · rcases hr : Regex.ofText? source with _ | regex
    · right
      exact ⟨by simp [Patterns.get, hl, hr], rfl, h.unreadable hr⟩
    · left
      exact ⟨regex, _, by simp [Patterns.get, hl, hr], rfl, h.add hl hr⟩
  · left
    exact ⟨regex, patterns, by simp [Patterns.get, hl], h.faithful source regex hl,
      h.again (Fields.mem_of_lookup hl)⟩

end Patterns

namespace Lookups

variable {lookups : Lookups} {store : Store}

lemma agrees_empty (store : Store) : Lookups.empty.Agrees store :=
  ⟨by simp [Lookups.empty], by simp [Lookups.empty]⟩

/-- A table with one more entry that is right has right entries. -/
lemma lookup_cons_of_forall {κ β : Type} [BEq κ] [LawfulBEq κ] {entries : List (κ × β)}
    {P : κ → β → Prop} (h : ∀ k b, entries.lookup k = some b → P k b) {key : κ} {b : β}
    (hnew : P key b) (k : κ) (c : β) (hk : List.lookup k ((key, b) :: entries) = some c) :
    P k c := by
  by_cases heq : k = key
  · subst heq
    rw [List.lookup_cons_self, Option.some.injEq] at hk
    exact hk ▸ hnew
  · rw [List.lookup_cons, beq_false_of_ne heq] at hk
    exact h k c hk

lemma Agrees.join (h : lookups.Agrees store) (base reference : String) :
    (lookups.join base reference).1 = Reference.join base reference ∧
      (lookups.join base reference).2.Agrees store := by
  rw [Lookups.join]
  split
  · rename_i hbase
    exact ⟨by rw [Reference.join, if_pos hbase], h⟩
  · split
    · rename_i url hurl
      exact ⟨h.joins _ url hurl, h⟩
    · exact ⟨rfl, fun parts url => lookup_cons_of_forall (P := fun parts url =>
        url = Reference.join parts.1 parts.2) h.joins rfl parts url, h.found⟩

lemma Agrees.resolveUrl (h : lookups.Agrees store) (url : String) :
    (lookups.resolveUrl store url).1 = store.resolveUrl url ∧
      (lookups.resolveUrl store url).2.Agrees store := by
  rw [Lookups.resolveUrl]
  split
  · rename_i v hv
    exact ⟨(h.found url v hv).symm, h⟩
  · split
    · rename_i v hv
      exact ⟨hv.symm, h.joins, fun url' v' => lookup_cons_of_forall (P := fun url v =>
        store.resolveUrl url = .ok v) h.found hv url' v'⟩
    · rename_i e he
      exact ⟨he.symm, h⟩

lemma Agrees.resolve (h : lookups.Agrees store) (scopes : Scopes) (reference : String) :
    (lookups.resolve store scopes.current reference).1 = store.resolve scopes reference ∧
      (lookups.resolve store scopes.current reference).2.Agrees store := by
  obtain ⟨hurl, hjoined⟩ := h.join scopes.current reference
  obtain ⟨hfound, hafter⟩ :=
    hjoined.resolveUrl (lookups.join scopes.current reference).1
  refine ⟨?_, hafter⟩
  rw [hurl] at hfound
  simp only [Lookups.resolve, hurl, hfound, Store.resolve]
  cases store.resolveUrl (Reference.join scopes.current reference) <;> rfl

end Lookups

namespace Memory

variable {memory : Memory} {store : Store}

lemma sound_empty (store : Store) : Memory.empty.Sound store :=
  ⟨Patterns.isTableOf_empty, by simp [Memory.empty]⟩

lemma sound_fresh (store : Store) : Memory.fresh.Sound store := by
  refine ⟨Patterns.isTableOf_empty, fun lookups h => ?_⟩
  obtain rfl : Lookups.empty = lookups := Option.some.inj h
  exact Lookups.agrees_empty store

lemma Sound.raised (h : memory.Sound store) (e : SchemaError) :
    (memory.note (.raised e)).Sound store :=
  ⟨h.patterns, h.lookups⟩

end Memory

namespace Session

variable {s : Session} {store : Store}

lemma scope_enter (h : s.memory.Sound store) (uri : String) :
    (s.enter uri).scopes.current = Reference.join s.scopes.current uri := by
  rw [enter]
  split
  · rfl
  · rename_i lookups hlookups
    exact ((h.lookups lookups hlookups).join _ uri).1

lemma sound_enter (h : s.memory.Sound store) (uri : String) : (s.enter uri).memory.Sound store := by
  rw [enter]
  split
  · exact h
  · rename_i lookups hlookups
    refine ⟨h.patterns, fun after hafter => ?_⟩
    obtain rfl := Option.some.inj hafter
    exact ((h.lookups lookups hlookups).join _ uri).2

lemma resolve_eq (h : s.memory.Sound store) (reference : String) :
    (s.resolve store reference).1 = store.resolve s.scopes reference := by
  rw [resolve]
  split
  · rfl
  · rename_i lookups hlookups
    exact ((h.lookups lookups hlookups).resolve s.scopes reference).1

lemma sound_resolve (h : s.memory.Sound store) (reference : String) :
    (s.resolve store reference).2.memory.Sound store := by
  rw [resolve]
  split
  · exact h
  · rename_i lookups hlookups
    refine ⟨h.patterns, fun after hafter => ?_⟩
    obtain rfl := Option.some.inj hafter
    exact ((h.lookups lookups hlookups).resolve s.scopes reference).2

end Session

/-! ## Independence -/

namespace Walk

variable {ε α β : Type} {scope : String} {here : List String}

/-- The notes that a walk takes in a scope in which some references are being followed. -/
def notesAt (scope : String) (here : List String) (walk : Walk ε α) : List Note :=
  (walk.exec ⟨[scope], ⟨here, []⟩, .empty⟩).2.memory.notes

variable [SchemaFault ε]

/-- A walk that does not depend on what is known from earlier on, as long as that is right. -/
structure Independent (store : Store) (walk : Walk ε α) : Prop where
  /-- The walk is steady. -/
  steady : walk.Steady
  /-- Its result is the one that it comes to without a memory. -/
  result : ∀ s : Session, s.memory.Sound store →
    (walk.exec s).1 = walk.resultAt s.scopes.current s.active.here
  /-- The notes are those that it takes without a memory. -/
  notes : ∀ s : Session, s.memory.Sound store → (walk.exec s).2.memory.notes =
    walk.notesAt s.scopes.current s.active.here ++ s.memory.notes
  /-- What is known afterwards is right. -/
  sound : ∀ s : Session, s.memory.Sound store → (walk.exec s).2.memory.Sound store

namespace Independent

variable {store : Store}

/-- A walk without a step: it is over at once. -/
lemma still {x : Walk ε α} {r : Except ε α} (hx : x.Steady) (hexec : ∀ s, x.exec s = (r, s)) :
    x.Independent store := by
  refine ⟨hx, fun s _ => ?_, fun s _ => ?_, fun s hs => ?_⟩
  · rw [resultAt, hexec, hexec]
  · rw [notesAt, hexec, hexec]
    rfl
  · rwa [hexec]

lemma broken {e : SchemaError} (h : e ≠ .scopeUnderflow) :
    (Walk.broken e : Walk ε α).Independent store :=
  ⟨.broken h, fun _ _ => rfl, fun _ _ => rfl, fun _ hs => hs.raised e⟩

/-- A sequence in which the second walk is independent for all that the first can result in. -/
lemma bind_of_ok {x : Walk ε α} {f : α → Walk ε β} (hx : x.Independent store)
    (hf : ∀ a s, (x.exec s).1 = .ok a → (f a).Independent store) :
    (x >>= f).Independent store := by
  -- Two sessions that only differ in their memories are gone through side by side.
  have hboth : ∀ s : Session, s.memory.Sound store →
      ((x >>= f).exec s).1 = (x >>= f).resultAt s.scopes.current s.active.here ∧
      ((x >>= f).exec s).2.memory.notes =
        (x >>= f).notesAt s.scopes.current s.active.here ++ s.memory.notes ∧
      ((x >>= f).exec s).2.memory.Sound store := by
    intro s hs
    have hempty : (⟨[s.scopes.current], ⟨s.active.here, []⟩, .empty⟩ : Session).memory.Sound
        store := Memory.sound_empty store
    have hresult := hx.result s hs
    have hnotes := hx.notes s hs
    have hsound := hx.sound s hs
    have hsound' := hx.sound _ hempty
    have hscopes := hx.steady.scopes s
    have hscopes' := hx.steady.scopes ⟨[s.scopes.current], ⟨s.active.here, []⟩, .empty⟩
    have hactive := hx.steady.active s
    have hactive' := hx.steady.active ⟨[s.scopes.current], ⟨s.active.here, []⟩, .empty⟩
    simp only [resultAt, notesAt] at hresult hnotes ⊢
    rcases h : x.exec s with ⟨r, after⟩
    rcases h' : x.exec ⟨[s.scopes.current], ⟨s.active.here, []⟩, .empty⟩ with ⟨r', after'⟩
    rw [h, h'] at hresult hnotes
    rw [h] at hsound hscopes hactive
    rw [h'] at hsound' hscopes' hactive'
    obtain rfl : r = r' := hresult
    rcases r with e | a
    · rw [exec_bind_error h, exec_bind_error h']
      exact ⟨rfl, hnotes, hsound⟩
    · have ha := hf a s (by rw [h])
      rw [exec_bind_ok h, exec_bind_ok h', ha.result after hsound, ha.notes after hsound,
        ha.result after' hsound', ha.notes after' hsound']
      dsimp only at hscopes hscopes' hactive hactive' hnotes
      rw [hscopes, hscopes', hactive, hactive', hnotes, List.append_assoc]
      exact ⟨rfl, rfl, ha.sound after hsound⟩
  exact ⟨hx.steady.bind_of_ok fun a s h => (hf a s h).steady, fun s hs => (hboth s hs).1,
    fun s hs => (hboth s hs).2.1, fun s hs => (hboth s hs).2.2⟩

lemma outcome {x : Walk ε α} (hx : x.Independent store) : x.outcome.Independent store := by
  refine ⟨hx.steady.outcome, fun s hs => ?_, hx.notes, hx.sound⟩
  rw [resultAt, exec_outcome, exec_outcome, hx.result s hs]
  rfl

lemma resolve (reference : String) :
    (Walk.resolve store reference : Walk ε (String × Value)).Independent store := by
  have hexec : ∀ s : Session, s.memory.Sound store →
      (Walk.resolve store reference : Walk ε (String × Value)).exec s =
        (ofExcept (store.resolve s.scopes reference) : Walk ε (String × Value)).exec
          (s.resolve store reference).2 := by
    intro s hs
    rw [exec_resolve, s.resolve_eq hs]
  have hempty : ∀ s : Session, store.resolve [s.scopes.current] reference =
      store.resolve s.scopes reference := fun s => rfl
  refine ⟨.resolve store reference, fun s hs => ?_, fun s hs => ?_, fun s hs => ?_⟩
  · rw [resultAt, hexec s hs, hexec _ (Memory.sound_empty store), hempty]
    cases store.resolve s.scopes reference <;> rfl
  · rw [notesAt, hexec s hs, hexec _ (Memory.sound_empty store), hempty,
      Session.resolve_of_plain (s := ⟨[s.scopes.current], ⟨s.active.here, []⟩, .empty⟩) store
        reference rfl]
    have hnotes := s.notes_resolve store reference
    cases store.resolve s.scopes reference with
    | ok found => exact hnotes
    | error e => exact congrArg (Note.raised e :: ·) hnotes
  · rw [hexec s hs]
    have hsound := s.sound_resolve hs reference
    cases store.resolve s.scopes reference with
    | ok found => exact hsound
    | error e => exact hsound.raised e

lemma pattern (source : String) : (Walk.pattern source : Walk ε Regex).Independent store := by
  -- Whatever has been asked for before, the table gives what the source means.
  have hget : ∃ result notes, ∀ s : Session, s.memory.Sound store →
      ((Walk.pattern source : Walk ε Regex).exec s).1 = result ∧
        ((Walk.pattern source : Walk ε Regex).exec s).2.memory.notes = notes ++ s.memory.notes ∧
        ((Walk.pattern source : Walk ε Regex).exec s).2.memory.Sound store := by
    rcases hread : Regex.ofText? source with _ | regex
    · refine ⟨.error (SchemaFault.ofSchema (.invalidPattern source)),
        [.raised (.invalidPattern source), .asked source], fun s hs => ?_⟩
      obtain ⟨regex, after, -, hr, -⟩ | ⟨hget, -, hafter⟩ := hs.patterns.get source
      · rw [hread] at hr
        cases hr
      · rw [exec_pattern, Session.patterns, hget]
        exact ⟨rfl, rfl, hafter, hs.lookups⟩
    · refine ⟨.ok regex, [.asked source], fun s hs => ?_⟩
      obtain ⟨regex', after, hget, hr, hafter⟩ | ⟨-, hr, -⟩ := hs.patterns.get source
      · obtain rfl : regex = regex' := Option.some.inj (hread.symm.trans hr)
        rw [exec_pattern, Session.patterns, hget]
        exact ⟨rfl, rfl, hafter, hs.lookups⟩
      · rw [hread] at hr
        cases hr
  obtain ⟨result, notes, hget⟩ := hget
  refine ⟨.pattern source, fun s hs => ?_, fun s hs => ?_, fun s hs => (hget s hs).2.2⟩
  · rw [resultAt, (hget s hs).1, (hget ⟨_, _, .empty⟩ (Memory.sound_empty store)).1]
  · rw [notesAt, (hget s hs).2.1, (hget ⟨_, _, .empty⟩ (Memory.sound_empty store)).2.1]
    exact congrArg (· ++ s.memory.notes) (List.append_nil _).symm

lemma between {before after : Following → Following} {x : Walk ε α} (hx : x.Independent store)
    (hundo : ∀ f, after (before f) = f)
    (hhere : ∀ f g : Following, f.here = g.here → (before f).here = (before g).here) :
    (between before after x).Independent store := by
  refine ⟨hx.steady.between hundo hhere, fun s hs => ?_, fun s hs => ?_, fun s hs => ?_⟩
  · have hempty := hx.result ⟨[s.scopes.current], before ⟨s.active.here, []⟩, .empty⟩
      (Memory.sound_empty store)
    rw [resultAt, exec_between, exec_between]
    refine (hx.result { s with active := before s.active } hs).trans (.trans ?_ hempty.symm)
    rw [hhere s.active ⟨s.active.here, []⟩ rfl]
    rfl
  · have hempty := hx.notes ⟨[s.scopes.current], before ⟨s.active.here, []⟩, .empty⟩
      (Memory.sound_empty store)
    rw [notesAt, exec_between, exec_between]
    refine (hx.notes { s with active := before s.active } hs).trans
      (congrArg (· ++ s.memory.notes) (.trans ?_ hempty.symm))
    rw [hhere s.active ⟨s.active.here, []⟩ rfl]
    exact (List.append_nil _).symm
  · rw [exec_between]
    exact hx.sound _ hs

lemma inScope {x : Walk ε α} (hx : x.Independent store) (uri : String) :
    (inScope uri x).Independent store := by
  refine ⟨hx.steady.inScope uri, fun s hs => ?_, fun s hs => ?_, fun s hs => ?_⟩
  · rw [resultAt_inScope hx.steady, hx.steady.exec_inScope,
      hx.result _ (Session.sound_enter hs uri), Session.scope_enter hs, Session.active_enter]
  · have hempty := Session.sound_enter
      (s := ⟨[s.scopes.current], ⟨s.active.here, []⟩, .empty⟩) (Memory.sound_empty store) uri
    rw [notesAt, hx.steady.exec_inScope, hx.steady.exec_inScope]
    refine (hx.notes _ (Session.sound_enter hs uri)).trans ?_
    rw [Session.scope_enter hs, Session.active_enter, Session.notes_enter]
    refine congrArg (· ++ s.memory.notes) (.trans ?_ (hx.notes _ hempty).symm)
    rw [Session.scope_enter (Memory.sound_empty store), Session.active_enter, Session.notes_enter]
    exact (List.append_nil _).symm
  · rw [hx.steady.exec_inScope]
    exact hx.sound _ (Session.sound_enter hs uri)

lemma apart {x : Walk ε α} (hx : x.Independent store) : (Walk.apart store x).Independent store := by
  refine ⟨hx.steady.apart store, fun s hs => ?_, fun s hs => ?_, fun s hs => ?_⟩
  · exact (hx.result (Session.start store s.memory) hs).trans
      (hx.result (Session.start store .empty) (Memory.sound_empty store)).symm
  · refine (hx.notes (Session.start store s.memory) hs).trans (congrArg (· ++ s.memory.notes)
      (.trans ?_ (hx.notes (Session.start store .empty) (Memory.sound_empty store)).symm))
    exact (List.append_nil _).symm
  · exact hx.sound (Session.start store s.memory) hs

lemma widen {x : Walk SchemaError α} (hx : x.Independent store) :
    (Walk.mapError SchemaFault.ofSchema x : Walk ε α).Independent store := by
  refine ⟨Steady.law.widen hx.steady, fun s hs => ?_, hx.notes, hx.sound⟩
  rw [resultAt, exec_mapError, exec_mapError, hx.result s hs]
  rfl

/-- Independence, for walks through one store. -/
abbrev law (store : Store) : Law where
  Holds := Independent store
  Covers := (· = store)
  pure a := still (.pure a) fun _ => rfl
  fail h := still (.throw (h _)) fun _ => rfl
  broken := broken
  bind hx hf := hx.bind_of_ok fun a _ _ => hf a
  attempt hx hok herror hagain := by
    refine hx.outcome.bind_of_ok fun r s h => ?_
    rw [exec_outcome, Except.ok.injEq] at h
    rcases r with e | a
    · by_cases hschema : ∃ error, e = SchemaFault.ofSchema error
      · obtain ⟨error, rfl⟩ := hschema
        rw [hagain]
        exact broken fun hunderflow => hx.steady.no_underflow s (by rw [h, hunderflow])
      · exact herror e fun error he => hschema ⟨error, he⟩
    · exact hok a
  scope := ⟨.scope, fun _ _ => rfl, fun _ _ => rfl, fun _ hs => hs⟩
  isFollowing url := ⟨.isFollowing url, fun _ _ => rfl, fun _ _ => rfl, fun _ hs => hs⟩
  resolve h reference := h ▸ resolve reference
  pattern := pattern
  following url hx := hx.between (fun _ => rfl) fun _ _ h => by simp [Following.start, h]
  onChild hx := hx.between (fun _ => rfl) fun _ _ _ => rfl
  inScope uri hx := hx.inScope uri
  apart h hx := h ▸ hx.apart
  widen hx := hx.widen

end Independent

end Walk

end ApiContract
