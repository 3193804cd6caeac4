/-
# What the members of a union have against a value

A union refuses a value if each of its members does: a member cannot convert the value, or it
rejects what it has made of it.  The violations of all members are collected in their order.

A value that a member cannot convert is a violation at the index of the member.  The violations by
a value that a member has converted are seen from the member itself, so nothing in them tells which
member they are of.
-/
import ApiContract.Proofs.Parameter.Lookup
import ApiContract.Proofs.Parameter.TextList

namespace ApiContract

open Validator (reference? lookupDepth)

namespace Coercion

open Walk

variable {val : Validator} {convert : Conversion} {scope text : String} {here : List String}
  {v schema : Value} {violations all : List Violation} {members : List (Value × Nat)}

/-- The violation by a value that a member of a union cannot convert. -/
def unconverted (i : Nat) (e : CoercionError) : Violation :=
  { Violation.ofMessage e.message with schemaPath := [.index i], cause := some (.coercion e) }

/-- What a member of a union has against a value, given what it makes of the value. -/
inductive Refuses (val : Validator) (result : Value → Except CoercionError Value) :
    Value × Nat → List Violation → Prop
  | unconverted {member : Value} {i : Nat} {e : CoercionError} :
      result member = .error e → (∀ broken, e ≠ .schema broken) →
      Refuses val result (member, i) [unconverted i e]
  | rejected {member candidate : Value} {i : Nat} {violations : List Violation} :
      result member = .ok candidate → val.violationsOf candidate member = .ok violations →
      violations ≠ [] → Refuses val result (member, i) violations

/-- The first member of a union takes a value, breaks on it or refuses it, and in the last case
the other members are tried. -/
lemma resultAt_ofUnion_cons (hconvert : ∀ schema v, (convert schema v).Steady) (member : Value)
    (i : Nat) :
    (ofUnion val convert v ((member, i) :: members) violations).resultAt scope here =
      match (convert member v).resultAt scope here with
      | .ok candidate =>
        (val.violationsOf candidate member).mapError CoercionFault.schema >>= fun rejected =>
          if rejected.isEmpty then .ok candidate
          else (ofUnion val convert v members (violations ++ rejected)).resultAt scope here
      | .error (.schema e) => .error (.schema e)
      | .error e =>
        (ofUnion val convert v members (violations ++ [unconverted i e])).resultAt scope here := by
  have hrest (violations : List Violation) : (ofUnion val convert v members violations).Steady :=
    ofUnion_lawful Steady.law hconvert trivial v members violations
  have hjudged (candidate : Value) (rejected : List Violation) :
      (if rejected.isEmpty then return candidate
        else ofUnion val convert v members (violations ++ rejected) :
          Walk CoercionError Value).Steady := by
    split
    · exact .pure candidate
    · exact hrest _
  rw [ofUnion, resultAt_outcome_bind (hconvert member v)]
  · rcases (convert member v).resultAt scope here with e | candidate
    · cases e <;> rfl
    · dsimp only
      rw [resultAt_bind (judge_steady val candidate member) (hjudged candidate), resultAt_judge]
      congr 1
      funext rejected
      split <;> rfl
  · intro r hr
    rcases r with e | candidate
    · cases e with
      | schema e => exact .broken fun he => hr (by rw [he]; rfl)
      | boolean | integer | outOfRange | number | noCandidate => exact hrest _
    · exact (judge_steady val candidate member).bind (hjudged candidate)

/-- A union refuses a value if its first member does and the other members do. -/
lemma ofUnion_cons_eq_noCandidate_iff (hconvert : ∀ schema v, (convert schema v).Steady)
    (member : Value × Nat) :
    (ofUnion val convert v (member :: members) violations).resultAt scope here =
        .error (.noCandidate text all) ↔
      ∃ group, Refuses val (fun member => (convert member v).resultAt scope here) member group ∧
        (ofUnion val convert v members (violations ++ group)).resultAt scope here =
          .error (.noCandidate text all) := by
  obtain ⟨member, i⟩ := member
  rw [resultAt_ofUnion_cons hconvert]
  rcases hresult : (convert member v).resultAt scope here with e | candidate
  · constructor
    · intro h
      cases e with
      | schema e => cases h
      | boolean | integer | outOfRange | number | noCandidate =>
        exact ⟨_, .unconverted hresult (by simp), h⟩
    · rintro ⟨group, hrefuses, h⟩
      cases hrefuses with
      | unconverted hresult' hown =>
        obtain rfl := Except.error.inj (hresult.symm.trans hresult')
        cases e with
        | schema e => exact absurd rfl (hown e)
        | boolean | integer | outOfRange | number | noCandidate => exact h
      | rejected hresult' => cases hresult.symm.trans hresult'
  · dsimp only
    constructor
    · intro h
      cases hrejected : val.violationsOf candidate member with
      | error e =>
        rw [hrejected] at h
        cases h
      | ok rejected =>
        rw [hrejected] at h
        change (if rejected.isEmpty then _ else _) = _ at h
        split at h
        · cases h
        · rename_i hsome
          exact ⟨rejected, .rejected hresult hrejected (by simpa using hsome), h⟩
    · rintro ⟨group, hrefuses, h⟩
      cases hrefuses with
      | unconverted hresult' => cases hresult.symm.trans hresult'
      | rejected hresult' hrejected hsome =>
        obtain rfl := Except.ok.inj (hresult.symm.trans hresult')
        rw [hrejected]
        exact (if_neg (by simpa using hsome)).trans h

/-- A union refuses a value if all of its members do, and it has against the value what they
have. -/
lemma ofUnion_eq_noCandidate_iff (hconvert : ∀ schema v, (convert schema v).Steady) :
    (ofUnion val convert v members violations).resultAt scope here =
        .error (.noCandidate text all) ↔
      text = v.text ∧ ∃ groups,
        List.Forall₂ (Refuses val fun member => (convert member v).resultAt scope here) members
          groups ∧ all = violations ++ groups.flatten := by
  induction members generalizing violations with
  | nil =>
    simp [ofUnion, eq_comm]
  | cons member members ih =>
    rw [ofUnion_cons_eq_noCandidate_iff hconvert]
    constructor
    · rintro ⟨group, hgroup, h⟩
      obtain ⟨htext, groups, hgroups, rfl⟩ := ih.1 h
      exact ⟨htext, group :: groups, .cons hgroup hgroups, by simp⟩
    · rintro ⟨htext, groups, hgroups, rfl⟩
      cases hgroups with
      | cons hgroup hgroups => exact ⟨_, hgroup, ih.2 ⟨htext, _, hgroups, by simp⟩⟩

end Coercion

/-! ## Where violations are -/

/-- A violation that a visit finds is at a keyword of the schema. -/
lemma Validator.exists_schemaPath_eq {val : Validator} {n : Nat} {scope : String}
    {here : List String} {v schema : Value} {o : Outcome}
    (h : (val.visit (n + 1) v schema).resultAt scope here = .ok o) {violation : Violation}
    (hviolation : violation ∈ o.violations) :
    ∃ (k : Keyword) (rest : List PathStep), violation.schemaPath = .key k.name :: rest := by
  have hsteadies := val.visit_steadies n
  have htagged {fields : Fields} {k : Keyword} {value : Value} {scope : String} {o : Outcome}
      (ho : (val.visitKeyword (Applicator.follow val.store (val.visit n)) (val.visit n) v fields k
        value).resultAt scope here = .ok o) (hmem : violation ∈ o.violations) :
      ∃ rest, violation.schemaPath = .key k.name :: rest := by
    obtain ⟨c, -, rfl⟩ := (visitKeyword_ok_iff hsteadies.follow hsteadies.visit).1 ho
    obtain ⟨w, -, rfl⟩ := List.mem_map.1 hmem
    exact ⟨w.schemaPath, rfl⟩
  obtain ⟨fields, rfl, hfields⟩ := (visitNode_ok_iff hsteadies.follow hsteadies.visit).1 h
  cases visitFields_ok_iff.1 hfields with
  | ref _ ho => exact ⟨_, htagged ho hviolation⟩
  | null _ _ _ heq =>
    rw [heq] at hviolation
    cases hviolation
  | keywords _ _ ho =>
    obtain ⟨outcomes, hall, rfl⟩ := (visitKeywords_ok_iff hsteadies.follow hsteadies.visit).1 ho
    obtain ⟨outcome, hmem, hviolation⟩ := List.mem_flatMap.1 hviolation
    obtain ⟨keyword, -, -, ho⟩ := exists_left_of_forall₂ hall hmem
    exact ⟨_, htagged ho hviolation⟩

lemma Validator.exists_schemaPath_eq_of_violationsOf {val : Validator} {v schema : Value}
    {violations : List Violation} (h : val.violationsOf v schema = .ok violations)
    {violation : Violation} (hviolation : violation ∈ violations) :
    ∃ (k : Keyword) (rest : List PathStep), violation.schemaPath = .key k.name :: rest := by
  obtain ⟨o, ho, rfl⟩ := violationsOf_eq_ok_iff.1 h
  obtain ⟨n, hn⟩ := val.exists_visitDepth v schema
  rw [outcome, hn] at ho
  exact exists_schemaPath_eq ho hviolation

/-! ## Unions -/

namespace Coercion

/-- What a member makes of a value, as a member of a union. -/
def memberResult (val : Validator) (v member : Value) : Except CoercionError Value :=
  val.run (convert val lookupDepth member v)

/-- A union refuses a value if all of its members do. -/
lemma coerced_eq_noCandidate_iff {val : Validator} {schema v : Value} {members : List Value}
    (href : reference? schema = none) (hunion : unionBranches? schema = some members)
    {text : String} {all : List Violation} :
    val.run (val.coerced schema v) = .error (.noCandidate text all) ↔
      text = v.text ∧ ∃ groups,
        List.Forall₂ (Refuses val (memberResult val v)) members.zipIdx groups ∧
        all = groups.flatten := by
  rw [Walk.run_eq_resultAt, Validator.coerced, convert, href, hunion]
  exact ofUnion_eq_noCandidate_iff (convert_steady val lookupDepth)

/-- What a member has against a value is not nothing, and it is at the index of the member just if
the member cannot convert the value. -/
lemma Refuses.location {val : Validator} {v member : Value} {i : Nat} {group : List Violation}
    (h : Refuses val (memberResult val v) (member, i) group) :
    group ≠ [] ∧ ∀ violation ∈ group,
      (∀ e, memberResult val v member = .error e → violation.schemaPath = [.index i]) ∧
      ∀ c, memberResult val v member = .ok c →
        ∃ (k : Keyword) (rest : List PathStep), violation.schemaPath = .key k.name :: rest := by
  cases h with
  | unconverted hresult =>
    refine ⟨List.cons_ne_nil _ _, fun violation hmem => ?_⟩
    obtain rfl := List.mem_singleton.1 hmem
    exact ⟨fun _ _ => rfl, fun c hc => absurd (hresult.symm.trans hc) (by simp)⟩
  | rejected hresult hrejected hsome =>
    refine ⟨hsome, fun violation hmem => ⟨fun e he => ?_, fun _ _ => ?_⟩⟩
    · exact absurd (hresult.symm.trans he) (by simp)
    · exact Validator.exists_schemaPath_eq_of_violationsOf hrejected hmem

end Coercion

namespace Parameter

open Coercion (Refuses memberResult)

variable {p : Parameter} {val : Validator} {source : Source} {type text : String}
  {schema raw v : Value} {members : List Value} {all : List Violation}

/-- A parameter that a union refuses is a violation whose context is what the union has against
it. -/
lemma exists_coercionFailure_eq (p : Parameter) (text : String) (all : List Violation) :
    ∃ w, p.coercionFailure (.noCandidate text all) = .invalid (.one w) ∧
      w.path = [.key p.name] ∧ w.context = all := by
  cases all with
  | nil => exact ⟨_, rfl, rfl, rfl⟩
  | cons first rest => exact ⟨_, rfl, rfl, rfl⟩

lemma Sought.check_of_noCandidate (h : p.Sought val type) (hp : p.schema = some schema)
    (hfind : p.find val type source = .ok (.raw raw)) (hdecode : p.decode type raw = .ok v)
    (hrefused : val.run (val.coerced schema v) = .error (.noCandidate text all)) :
    p.check val source = .error (p.coercionFailure (.noCandidate text all)) := by
  have htyped : p.typed val v = .error (p.coercionFailure (.noCandidate text all)) := by
    rw [typed, hp]
    dsimp only
    rw [hrefused]
    rfl
  rw [h.check_of_raw hfind, hdecode]
  change (p.typed val v).map some = _
  rw [htyped]
  rfl

/-- **A union has against a value what its members have, in their order.**  A union refuses a value
just if each of its members does, and each of them adds one violation or more.  The violation of a
member that cannot convert the value is at the index of the member; the violations of a member that
rejects what it has made of the value are at keywords of the member, without its index.  All of
them are the context of the violation that is reported of a parameter. -/
theorem check_refused_union (href : reference? schema = none)
    (hunion : unionBranches? schema = some members) :
    (∀ v text all, val.run (val.coerced schema v) = .error (.noCandidate text all) ↔
      text = v.text ∧ ∃ groups,
        List.Forall₂ (Refuses val (memberResult val v)) members.zipIdx groups ∧
        all = groups.flatten) ∧
    (∀ v member i group, Refuses val (memberResult val v) (member, i) group →
      group ≠ [] ∧ ∀ violation ∈ group,
        (∀ e, memberResult val v member = .error e → violation.schemaPath = [.index i]) ∧
        ∀ c, memberResult val v member = .ok c →
          ∃ (k : Keyword) (rest : List PathStep), violation.schemaPath = .key k.name :: rest) ∧
    ∀ (p : Parameter) (source : Source) (type : String) (raw v : Value) (text : String)
      (all : List Violation), p.schema = some schema → p.Sought val type →
      p.find val type source = .ok (.raw raw) → p.decode type raw = .ok v →
      val.run (val.coerced schema v) = .error (.noCandidate text all) →
      ∃ w, p.check val source = .error (.invalid (.one w)) ∧ w.path = [.key p.name] ∧
        w.context = all := by
  refine ⟨fun v text all => Coercion.coerced_eq_noCandidate_iff href hunion,
    fun v member i group h => h.location, ?_⟩
  intro p source type raw v text all hp hsought hfind hdecode hrefused
  obtain ⟨w, hfailure, hpath, hcontext⟩ := p.exists_coercionFailure_eq text all
  exact ⟨w, by rw [hsought.check_of_noCandidate hp hfind hdecode hrefused, hfailure], hpath,
    hcontext⟩

namespace Refused

/-- The schema of truth values. -/
def truth : Value := .object [("type", .string "boolean")]

/-- The schema of integers up to one. -/
def small : Value := .object [("type", .string "integer"), ("maximum", .integer 1)]

/-- A union of both. -/
def union : Value := .object [("anyOf", .array [truth, small])]

end Refused

open Refused

/-- **The violations of a member that rejects a value do not tell which member it is.**  A five is
no truth value, which is said at the first member, and as an integer it is too large, which is said
at the keyword alone. -/
theorem rejecting_member_is_not_told : ∃ first second,
    Dialect.oas3.alone.run (Dialect.oas3.alone.coerced union (.string "5")) =
      .error (.noCandidate "\"5\"" [first, second]) ∧
    first.schemaPath = [.index 0] ∧ second.schemaPath = [.key "maximum"] :=
  ⟨_, _, rfl, rfl, rfl⟩

/-- A five in a query is refused, and the reasons of both members are reported. -/
theorem five_is_refused_twice :
    Validator.reference? union = none ∧ unionBranches? union = some [truth, small] ∧
      ∃ w, (Parameter.mk "p" .query .form true true false (some union)).check Dialect.oas3.alone
          ⟨[], [("p", ["5"])], {}⟩ = .error (.invalid (.one w)) ∧ w.path = [.key "p"] ∧
        w.context.map Violation.schemaPath = [[.index 0], [.key "maximum"]] := by
  obtain ⟨first, second, hrefused, hfirst, hsecond⟩ : ∃ first second,
      Dialect.oas3.alone.run (Dialect.oas3.alone.coerced union (.string "5")) =
        .error (.noCandidate "\"5\"" [first, second]) ∧
      first.schemaPath = [.index 0] ∧ second.schemaPath = [.key "maximum"] :=
    ⟨_, _, rfl, rfl, rfl⟩
  obtain ⟨w, hcheck, hpath, hcontext⟩ := (check_refused_union rfl rfl).2.2
    (Parameter.mk "p" .query .form true true false (some union)) ⟨[], [("p", ["5"])], {}⟩ "string"
    (.string "5") (.string "5") _ _ rfl ⟨rfl, rfl, rfl⟩ rfl rfl hrefused
  exact ⟨rfl, rfl, w, hcheck, hpath, by rw [hcontext, List.map_cons, List.map_cons, hfirst,
    hsecond, List.map_nil]⟩

end Parameter

end ApiContract
