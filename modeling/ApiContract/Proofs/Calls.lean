/-
# Calls do not affect each other

Every call is an independent walk, so it is answered from any sound memory as it is from a fresh
one, and it leaves a sound memory.  Hence a sequence of calls is answered call by call, and the
table of patterns after it holds those that have been asked for on the way, and no others.
-/
import ApiContract.Calls
import ApiContract.Proofs.Walk.Memory
import ApiContract.Proofs.Schema.Lawful
import ApiContract.Proofs.Parameter.Lawful

namespace ApiContract

open Walk (Independent)

/-! ## What does not depend on a memory -/

/-- Something that is asked with a memory at hand and that does not depend on it, as long as the
memory is sound: some notes are taken on the way, whatever is known from earlier on. -/
structure Memory.Indifferent {α : Type} (store : Store) (notes : List Note)
    (ask : Memory → α × Memory) : Prop where
  /-- The result is the one that is had from a fresh memory. -/
  result : ∀ memory : Memory, memory.Sound store → (ask memory).1 = (ask .fresh).1
  /-- The notes are added to those that are there. -/
  notes : ∀ memory : Memory, memory.Sound store → (ask memory).2.notes = notes ++ memory.notes
  /-- The memory stays sound. -/
  sound : ∀ memory : Memory, memory.Sound store → (ask memory).2.Sound store

namespace Memory.Indifferent

variable {α β : Type} {store : Store} {notes : List Note} {ask : Memory → α × Memory}

lemma map (h : Indifferent store notes ask) (f : α → β) :
    Indifferent store notes fun memory => (ask memory).map f id :=
  ⟨fun memory hm => congrArg f (h.result memory hm), h.notes, h.sound⟩

lemma of_independent {ε : Type} [SchemaFault ε] {val : Validator} {walk : Walk ε α}
    (h : walk.Independent val.store) :
    Indifferent val.store (walk.notesAt val.store.baseUri []) fun memory =>
      val.runOver memory walk := by
  refine ⟨fun memory hm => ?_, fun memory hm => h.notes (.start val.store memory) hm,
    fun memory hm => h.sound (.start val.store memory) hm⟩
  exact (h.result (.start val.store memory) hm).trans
    (h.result (.start val.store .fresh) (sound_fresh val.store)).symm

end Memory.Indifferent

/-! ## Calls -/

namespace Validator

variable (val : Validator)

/-- The notes that are taken on the walk of a call by itself, latest first: nothing is known before
it, and it is told from the walk, not from what is kept of it. -/
def notes : Call → List Note
  | .validate v schema => (val.validated v schema).notesAt val.store.baseUri []
  | .isValid v schema => (val.violations v schema).notesAt val.store.baseUri []
  | .violations v schema => (val.violations v schema).notesAt val.store.baseUri []
  | .default schema => (val.defaultOf schema).notesAt val.store.baseUri []
  | .coerce schema v => (val.coerced schema v).notesAt val.store.baseUri []
  | .declaredType schema => (val.declaredType schema).notesAt val.store.baseUri []

/-- The patterns that a call asks for, the joined ones of `additionalProperties` among them. -/
def sourcesOf (call : Call) : List String :=
  (val.notes call).filterMap Note.asked?

lemma answer_indifferent (call : Call) :
    Memory.Indifferent val.store (val.notes call) fun memory => val.answer memory call := by
  let law := Independent.law val.store
  cases call with
  | validate v schema =>
    exact (Memory.Indifferent.of_independent (val.validated_lawful law rfl v schema)).map _
  | isValid v schema =>
    exact (Memory.Indifferent.of_independent (val.violations_lawful law rfl v schema)).map
      fun result => Answer.isValid (result.map List.isEmpty)
  | violations v schema =>
    exact (Memory.Indifferent.of_independent (val.violations_lawful law rfl v schema)).map _
  | default schema =>
    exact (Memory.Indifferent.of_independent (defaultOf_lawful law rfl schema)).map _
  | coerce schema v =>
    exact (Memory.Indifferent.of_independent (val.coerced_lawful law rfl schema v)).map _
  | declaredType schema =>
    exact (Memory.Indifferent.of_independent (val.declaredType_lawful law rfl schema)).map _

/-- A call is answered by the function that it names. -/
lemma answer_fresh (call : Call) : (val.answer .fresh call).1 =
    match call with
    | .validate v schema => .validated (val.validate v schema)
    | .isValid v schema => .isValid (val.isValid v schema)
    | .violations v schema => .violations (val.violationsOf v schema)
    | .default schema => .default (val.run (val.defaultOf schema))
    | .coerce schema v => .coerced (val.run (val.coerced schema v))
    | .declaredType schema => .declaredType (val.run (val.declaredType schema)) := by
  rw [← (val.answer_indifferent call).result .empty (Memory.sound_empty val.store)]
  cases call <;> rfl

/-- Calls one after the other are answered as each one by itself is, and their notes follow on
each other. -/
lemma answers_of_sound (calls : List Call) {memory : Memory} (hm : memory.Sound val.store) :
    (val.answers memory calls).1 = calls.map (fun call => (val.answer .fresh call).1) ∧
      (val.answers memory calls).2.notes = calls.reverse.flatMap val.notes ++ memory.notes ∧
      (val.answers memory calls).2.Sound val.store := by
  induction calls generalizing memory with
  | nil => exact ⟨rfl, rfl, hm⟩
  | cons call calls ih =>
    have hcall := val.answer_indifferent call
    obtain ⟨hanswers, hnotes, hsound⟩ := ih (hcall.sound memory hm)
    refine ⟨?_, ?_, hsound⟩
    · exact congrArg₂ List.cons (hcall.result memory hm) hanswers
    · refine hnotes.trans ?_
      rw [hcall.notes memory hm]
      simp

/-- What a sequence of calls asks for is what its calls ask for. -/
lemma mem_asked_answers (calls : List Call) (source : String) :
    source ∈ (val.answers .fresh calls).2.asked ↔ ∃ call ∈ calls, source ∈ val.sourcesOf call := by
  obtain ⟨-, hnotes, -⟩ := val.answers_of_sound calls (Memory.sound_fresh val.store)
  rw [Memory.asked, hnotes]
  simp only [Memory.fresh, List.append_nil, List.mem_filterMap, List.mem_flatMap, List.mem_reverse,
    sourcesOf]
  constructor
  · rintro ⟨n, ⟨call, hcall, hn⟩, hasked⟩
    exact ⟨call, hcall, n, hn, hasked⟩
  · rintro ⟨call, hcall, n, hn, hasked⟩
    exact ⟨n, ⟨call, hcall, hn⟩, hasked⟩

/-- **Calls of one validator do not affect each other.**  Whatever calls are made one after the
other, each is answered as it is from a fresh memory.  Afterwards every pattern that is asked for
on the walk of some call, and that can be read, is in the table once and with its own meaning, and
there is nothing else in it. -/
theorem answers_independent (calls : List Call) :
    (val.answers .fresh calls).1 = calls.map (fun call => (val.answer .fresh call).1) ∧
      (Fields.keys (val.answers .fresh calls).2.patterns.compiled).Nodup ∧
      ∀ source regex, (source, regex) ∈ (val.answers .fresh calls).2.patterns.compiled ↔
        (∃ call ∈ calls, source ∈ val.sourcesOf call) ∧ Regex.ofText? source = some regex := by
  obtain ⟨hanswers, -, hsound⟩ := val.answers_of_sound calls (Memory.sound_fresh val.store)
  refine ⟨hanswers, hsound.patterns.nodup, fun source regex => ?_⟩
  rw [hsound.patterns.mem_iff, mem_asked_answers]

end Validator

namespace Tags

/-- Names with one of two prefixes, and no others. -/
def tags : Value :=
  .object [("patternProperties", .object [("^x-", .object []), ("^y-", .object [])]),
    ("additionalProperties", .bool false)]

/-- A text that a pattern matches. -/
def matched (source : String) : Value := .object [("pattern", .string source)]

/-- Names of which one has no prefix, a text that is matched by one of the patterns, a text whose
schema is broken, and names again. -/
def calls : List Call :=
  [.violations (.object [("x-a", .null), ("b", .null)]) tags,
    .isValid (.string "x-a") (matched "^x-"), .validate (.string "x-a") (matched "("),
    .isValid (.object [("y-a", .null)]) tags]

/-- What the calls ask for, and what of it can be read: the second call asks again for a pattern of
the first, and the names that are left over are asked for with the patterns joined. -/
lemma sourcesOf_calls :
    calls.flatMap Dialect.oas3.alone.sourcesOf =
        ["^x-|^y-", "^y-", "^x-", "^x-", "(", "^x-|^y-", "^y-", "^x-"] ∧
      (calls.flatMap Dialect.oas3.alone.sourcesOf).filter
          (fun source => (Regex.ofText? source).isSome) =
        ["^x-|^y-", "^y-", "^x-", "^x-", "^x-|^y-", "^y-", "^x-"] := by
  decide +kernel

end Tags

open Tags in
/-- After a call that ends with a broken schema, and with patterns that are asked for again, three
patterns are in the table, a joined one among them. -/
theorem three_patterns_are_kept :
    calls.flatMap Dialect.oas3.alone.sourcesOf =
        ["^x-|^y-", "^y-", "^x-", "^x-", "(", "^x-|^y-", "^y-", "^x-"] ∧
      (Dialect.oas3.alone.answers .fresh calls).1[2]? =
        some (.validated (.error (.schema (.invalidPattern "(")))) ∧
      (Fields.keys (Dialect.oas3.alone.answers .fresh calls).2.patterns.compiled).Perm
        ["^x-", "^y-", "^x-|^y-"] := by
  obtain ⟨hanswers, hnodup, htable⟩ := Dialect.oas3.alone.answers_independent calls
  refine ⟨sourcesOf_calls.1, by rw [hanswers]; rfl,
    (List.perm_ext_iff_of_nodup hnodup (by decide)).2 fun source => ?_⟩
  have hkept : source ∈ Fields.keys (Dialect.oas3.alone.answers .fresh calls).2.patterns.compiled ↔
      source ∈ (calls.flatMap Dialect.oas3.alone.sourcesOf).filter fun source =>
        (Regex.ofText? source).isSome := by
    rw [List.mem_filter, List.mem_flatMap, Option.isSome_iff_exists, ← exists_and_left]
    simp only [← htable, Fields.keys, List.mem_map, Prod.exists, exists_and_right, exists_eq_right]
  rw [hkept, sourcesOf_calls.2]
  exact ⟨(by decide : ∀ source ∈ _, source ∈ _) source,
    (by decide : ∀ source ∈ _, source ∈ _) source⟩

end ApiContract
