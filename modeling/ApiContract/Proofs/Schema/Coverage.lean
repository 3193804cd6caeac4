/-
# The names that patterns cover

The keyword `patternProperties` reads its patterns one by one, and `additionalProperties` reads
them joined into one.  The two agree on the names that the patterns cover, whichever way the
patterns are ordered, if the patterns may be joined and the joined one can be compiled.
-/
import ApiContract.Proofs.Regex.Joining
import ApiContract.Proofs.Schema.Ends

namespace ApiContract

/-! ## Errors in sequence -/

namespace Except

variable {ε α β : Type}

lemma bind_eq_error_iff {x : Except ε α} {f : α → Except ε β} {e : ε} :
    (x >>= f) = .error e ↔ x = .error e ∨ ∃ a, x = .ok a ∧ f a = .error e := by
  rcases x with e' | a
  · simp [bind, Except.bind]
  · simp [bind, Except.bind]

lemma map_eq_error_iff {x : Except ε α} {f : α → β} {e : ε} :
    f <$> x = .error e ↔ x = .error e := by
  rcases x with e' | a
  · simp [Functor.map, Except.map]
  · simp [Functor.map, Except.map]

lemma exists_of_mapM_eq_error {f : α → Except ε β} {l : List α} {e : ε}
    (h : l.mapM f = .error e) : ∃ a ∈ l, f a = .error e := by
  induction l with
  | nil => cases h
  | cons a l ih =>
    rw [List.mapM_cons] at h
    rcases bind_eq_error_iff.1 h with ha | ⟨b, -, h⟩
    · exact ⟨a, List.mem_cons_self, ha⟩
    · rcases bind_eq_error_iff.1 h with hl | ⟨_, -, h⟩
      · obtain ⟨a', ha', he⟩ := ih hl
        exact ⟨a', List.mem_cons_of_mem _ ha', he⟩
      · cases h

end Except

/-! ## Patterns that are joined -/

/-- The patterns of a schema can be joined if they can be read one by one, and the joined one
matches the names that one of them matches on its own. -/
def Fields.JoinsPatterns (schema : Fields) : Prop :=
  Applicator.patternSources schema ≠ [] →
    (∀ source ∈ Applicator.patternSources schema, (Regex.ofText? source).isSome) →
    ∃ regex, Regex.ofText? (Text.joinStrings "|" (Applicator.patternSources schema)) =
        some regex ∧
      ∀ name, regex.isMatch name ↔
        ∃ source ∈ Applicator.patternSources schema, Regex.matchesAlone source name

/-- Without patterns there is nothing to join. -/
lemma Fields.joinsPatterns_of_no_sources {schema : Fields}
    (h : Applicator.patternSources schema = []) : schema.JoinsPatterns :=
  fun hne => absurd h hne

/-- Patterns that may be joined are joined so, if they are small enough together. -/
lemma Fields.joinsPatterns_of_joinable {schema : Fields}
    (hjoin : Regex.Joinable (Applicator.patternSources schema))
    (hfits : Regex.Fits (Text.joinStrings "|" (Applicator.patternSources schema))) :
    schema.JoinsPatterns :=
  fun hne hread => Regex.ofText?_join hne hread hjoin hfits

namespace Applicator

open Walk

variable {scope : String} {here : List String} {schema fields patterns : Fields}

/-- The keyword `patternProperties` asks for a field with the schema of some pattern. -/
def Covered (schema fields patterns : Fields) (name : String) (w : Value) : Prop :=
  ∃ source s, Keyword.Asks schema (.object fields) (.object patterns) .patternProperties
    ⟨[.key name], [.key source], w, s⟩

lemma covered_iff {name : String} {w : Value} (hfield : (name, w) ∈ fields) :
    Covered schema fields patterns name w ↔
      ∃ source ∈ Fields.keys patterns, Regex.matchesAlone source name := by
  constructor
  · rintro ⟨source, s, ha⟩
    cases ha with
    | matching hpattern hregex _ hmatch =>
      exact ⟨source, List.mem_map.2 ⟨_, hpattern, rfl⟩, by rwa [Regex.matchesAlone, hregex]⟩
  · rintro ⟨source, hsource, halone⟩
    obtain ⟨⟨_, s⟩, hpattern, rfl⟩ := List.mem_map.1 hsource
    obtain ⟨regex, hregex, hmatch⟩ := Option.any_eq_true _ _ |>.1 halone
    exact ⟨_, s, .matching hpattern hregex hfield hmatch⟩

lemma patternSources_eq
    (h : schema.lookup Keyword.patternProperties.name = some (.object patterns)) :
    patternSources schema = Fields.keys patterns := by
  rw [patternSources, h]
  rfl

/-- Whether a name is neither declared nor matched by one of the patterns on its own. -/
def isLeftOver (schema : Fields) (name : String) : Bool :=
  !(declaredNames schema).contains name &&
    !(patternSources schema).any (Regex.matchesAlone · name)

/-- Where patterns can be joined, the fields that `additionalProperties` concerns are those left
over by each of the patterns. -/
lemma resultAt_extraFields (hjoins : schema.JoinsPatterns)
    (hread : ∀ source ∈ patternSources schema, (Regex.ofText? source).isSome) (fields : Fields) :
    (extraFields fields schema).resultAt scope here =
      .ok (fields.filter fun field => isLeftOver schema field.1) := by
  rw [extraFields]
  split
  · rename_i hsources
    simp [isLeftOver, hsources]
  · rename_i hsources
    obtain ⟨regex, hregex, hmatch⟩ := hjoins (fun hnil => hsources hnil) hread
    rw [Walk.bind_pure_ok_iff (Walk.Steady.pattern _)]
    refine ⟨regex, (Walk.pattern_ok_iff _).2 hregex, ?_⟩
    rw [List.filter_filter]
    refine List.filter_congr fun field _ => ?_
    have heq : regex.isMatch field.1 = (patternSources schema).any (Regex.matchesAlone · field.1) :=
      Bool.eq_iff_iff.2 ((hmatch field.1).trans List.any_eq_true.symm)
    dsimp only
    rw [isLeftOver, heq, Bool.and_comm]

/-- The fields that are left over are found without an error. -/
lemma exists_extraFields (fields : Fields)
    (hread : ∀ source ∈ patternSources schema, (Regex.ofText? source).isSome)
    (hjoins : schema.JoinsPatterns) :
    ∃ extras, (extraFields fields schema).resultAt scope here = .ok extras ∧
      ∀ name w, (name, w) ∈ fields → name ∉ declaredNames schema →
        ((name, w) ∉ extras ↔
          ∃ source ∈ patternSources schema, Regex.matchesAlone source name) := by
  refine ⟨_, resultAt_extraFields hjoins hread fields, fun name w hfield hundeclared => ?_⟩
  simp [isLeftOver, hfield, hundeclared]

lemma child_eq_error {visit : Visit} (hvisit : visit.Steady) {name : String} {w value : Value}
    {e : SchemaError}
    (h : (child visit name w value [.key name] []).resultAt scope here = .error e) :
    visit.answer scope here ⟨[.key name], [], w, value⟩ = .error e := by
  rw [child, resultAt_bind (hvisit w value).onChild fun _ => Steady.pure _,
    resultAt_onChild (hvisit w value)] at h
  rcases Except.bind_eq_error_iff.1 h with hvisit | ⟨_, -, ⟨⟩⟩
  exact Except.map_eq_error_iff.2 hvisit

/-- An error of `additionalProperties` about a pattern is one of a visit. -/
lemma additionalProperties_invalidPattern {visit : Visit} (hvisit : visit.Steady) {value : Value}
    {source : String} {extras : Fields}
    (hextras : (extraFields fields schema).resultAt scope here = .ok extras)
    (h : (additionalProperties visit schema (.object fields) value).resultAt scope here =
      .error (.invalidPattern source)) :
    ∃ field ∈ extras, visit.answer scope here ⟨[.key field.1], [], field.2, value⟩ =
      .error (.invalidPattern source) := by
  unfold additionalProperties at h
  split at h
  · cases h
  · dsimp only at h
    rw [resultAt_bind (extraFields_steady _ _) fun _ => by
      split
      · exact (Steady.mapM fun _ _ => child_steady hvisit _ _ _ _ _).bind fun _ => Steady.pure _
      · split <;> exact Steady.pure _
      · exact Steady.pure _, hextras] at h
    obtain ⟨_, heq, h⟩ := (Except.bind_eq_error_iff.1 h).resolve_left (by simp)
    obtain rfl := Except.ok.inj heq
    split at h
    · rw [resultAt_bind (Steady.mapM fun _ _ => child_steady hvisit _ _ _ _ _) fun _ =>
        Steady.pure _, resultAt_mapM _ fun _ => child_steady hvisit _ _ _ _ _] at h
      rcases Except.bind_eq_error_iff.1 h with hparts | ⟨_, _, ⟨⟩⟩
      obtain ⟨field, hfield, hchild⟩ := Except.exists_of_mapM_eq_error hparts
      exact ⟨field, hfield, child_eq_error hvisit hchild⟩
    · split at h <;> cases h
    · cases h

/-- **The names that `additionalProperties` exempts because of the patterns are those for which
`patternProperties` asks, in whichever order the patterns are**, and no error about a pattern is
its own.  The patterns have to be small enough to be compiled as one, in the order in which the
schema lists them. -/
theorem exempt_iff_covered {visit : Visit} (hvisit : visit.Steady) (scope : String)
    (here : List String) (fields : Fields) {listed : Fields}
    (hlisted : schema.lookup Keyword.patternProperties.name = some (.object listed))
    (horder : listed.Perm patterns)
    (hread : ∀ source ∈ Fields.keys patterns, (Regex.ofText? source).isSome)
    (hjoin : Regex.Joinable (Fields.keys patterns))
    (hfits : Regex.Fits (Text.joinStrings "|" (Fields.keys listed))) :
    (∃ extras, (extraFields fields schema).resultAt scope here = .ok extras ∧
      ∀ name w, (name, w) ∈ fields → name ∉ declaredNames schema →
        ((name, w) ∉ extras ↔ Covered schema fields patterns name w)) ∧
    ∀ value source,
      (additionalProperties visit schema (.object fields) value).resultAt scope here =
        .error (.invalidPattern source) →
      ∃ name w, (name, w) ∈ fields ∧
        visit.answer scope here ⟨[.key name], [], w, value⟩ = .error (.invalidPattern source) := by
  rw [← patternSources_eq hlisted] at hfits
  have hkeys : (patternSources schema).Perm (Fields.keys patterns) := by
    rw [patternSources_eq hlisted]
    exact horder.map _
  obtain ⟨extras, hextras, hexempt⟩ := exists_extraFields fields
    (fun source hsource => hread source (hkeys.mem_iff.1 hsource))
    (Fields.joinsPatterns_of_joinable (hjoin.perm hkeys.symm) hfits)
  refine ⟨⟨extras, hextras, fun name w hfield hundeclared => ?_⟩, fun value source herror => ?_⟩
  · rw [hexempt name w hfield hundeclared, covered_iff hfield]
    simp only [hkeys.mem_iff]
  · obtain ⟨⟨name, w⟩, hextra, hanswer⟩ :=
      additionalProperties_invalidPattern hvisit hextras herror
    exact ⟨name, w, ((extraFields_ok hextras).1 hextra).1, hanswer⟩

end Applicator

namespace Headers

/-- Patterns for names; the flag of the second holds inside its group. -/
def patterns : Fields := [("^x-", .bool true), ("(?i:trace)", .bool true)]

/-- Nothing is allowed beside the names that patterns cover. -/
def only (patterns : Fields) : Fields :=
  [("patternProperties", .object patterns), ("additionalProperties", .bool false)]

/-- Some names. -/
def fields : Fields := [("X-Trace", .null), ("x-id", .null), ("host", .null)]

end Headers

/-- The patterns cover two of the names, in the opposite order too. -/
theorem host_is_left_over :
    ∃ extras, (Applicator.extraFields Headers.fields
        (Headers.only Headers.patterns.reverse)).resultAt "" [] = .ok extras ∧
      ("X-Trace", .null) ∉ extras ∧ ("x-id", .null) ∉ extras ∧ ("host", .null) ∈ extras := by
  have hread : ∀ source ∈ Fields.keys Headers.patterns, (Regex.ofText? source).isSome := by
    decide +kernel
  have hjoin : Regex.Joinable (Fields.keys Headers.patterns) := by decide +kernel
  have hfits : Regex.Fits (Text.joinStrings "|" (Fields.keys Headers.patterns.reverse)) := by
    decide +kernel
  have hlisted : (Headers.only Headers.patterns.reverse).lookup Keyword.patternProperties.name =
      some (.object Headers.patterns.reverse) := rfl
  obtain ⟨⟨extras, hextras, hexempt⟩, -⟩ :=
    Applicator.exempt_iff_covered (Dialect.oas3.alone.visit_steady 1) "" [] Headers.fields hlisted
      (List.reverse_perm _) hread hjoin hfits
  have hcovers (name : String) (h : (name, .null) ∈ Headers.fields) :
      (name, .null) ∉ extras ↔
        ∃ source ∈ Fields.keys Headers.patterns, Regex.matchesAlone source name :=
    (hexempt name .null h List.not_mem_nil).trans (Applicator.covered_iff h)
  refine ⟨extras, hextras, ?_, ?_, ?_⟩
  · exact (hcovers "X-Trace" (by simp [Headers.fields])).2 (by decide +kernel)
  · exact (hcovers "x-id" (by simp [Headers.fields])).2 (by decide +kernel)
  · by_contra hextra
    exact absurd ((hcovers "host" (by simp [Headers.fields])).1 hextra) (by decide +kernel)

/-- **Patterns that may not be joined.**  A flag that is set in one holds in those behind it, so
that the order of the patterns says which names they cover; and with two groups of one name
nothing can be read, although each pattern can. -/
theorem joining_is_no_alternation :
    (¬ Regex.matchesAlone "(?i)a" "b" ∧ ¬ Regex.matchesAlone "B" "b" ∧
      Fields.keys <$> (Applicator.extraFields [("b", .null)]
        (Headers.only [("(?i)a", .bool true), ("B", .bool true)])).resultAt "" [] = .ok [] ∧
      Fields.keys <$> (Applicator.extraFields [("b", .null)]
        (Headers.only [("B", .bool true), ("(?i)a", .bool true)])).resultAt "" [] = .ok ["b"]) ∧
    Regex.matchesAlone "(?P<n>a)" "a" ∧ Regex.matchesAlone "(?P<n>b)" "b" ∧
      Fields.keys <$> (Applicator.extraFields [("b", .null)]
        (Headers.only [("(?P<n>a)", .bool true), ("(?P<n>b)", .bool true)])).resultAt "" [] =
          .error (.invalidPattern "(?P<n>a)|(?P<n>b)") := by
  decide +kernel

end ApiContract
