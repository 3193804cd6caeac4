/-
# Where violations are

A violation says where it is: by a path into the value and by a path into the schema.  The
path into the schema goes from keyword to keyword, and at a reference it goes on in the target
of the reference.  What stands in the context of a violation is located from there.

All of this is right: the paths can be walked, and at their ends the keyword fails on the value
with this very violation.  And nothing is left out, wherever keywords gather the violations of
what they apply.
-/
import ApiContract.Proofs.Schema.Plan
import ApiContract.Proofs.Value.Part

namespace ApiContract

/-! ## Places in schemas -/

/-- A keyword in a schema, with everything that has a say in its meaning. -/
structure Place where
  /-- The scope inside the schema. -/
  scope : String
  /-- The keywords beside it. -/
  fields : Fields
  /-- The keyword. -/
  keyword : Keyword
  /-- Its value. -/
  value : Value

/-- The schemas inside the value of a keyword, and the paths that lead to them. -/
inductive Keyword.Applies : Keyword → Value → List PathStep → Value → Prop
  /-- The schema of a name or of a pattern. -/
  | named {k : Keyword} {name : String} {s : Value} {fields : Fields} :
      k = .properties ∨ k = .patternProperties → (name, s) ∈ fields →
      Applies k (.object fields) [.key name] s
  /-- The value is a schema itself. -/
  | whole {k : Keyword} {s : Value} :
      k = .additionalProperties ∨ k = .additionalItems ∨ k = .not ∨
        k = .items ∧ s.array? = none →
      Applies k s [] s
  /-- One schema of several. -/
  | listed {k : Keyword} {i : Nat} {s : Value} {schemas : List Value} :
      k = .items ∨ k = .allOf ∨ k = .anyOf ∨ k = .oneOf → schemas[i]? = some s →
      Applies k (.array schemas) [.index i] s

/-- A path leads from a schema in a scope to a keyword: through keywords into the schemas they
apply, and through references to their targets in the scopes these lead to. -/
inductive Store.Leads (store : Store) : String → Value → List PathStep → Place → Prop
  /-- To a keyword of the schema itself. -/
  | keyword {scope : String} {fields : Fields} {k : Keyword} {value : Value} :
      fields.lookup k.name = some value →
      Leads store scope (.object fields) [.key k.name] ⟨scopeInside scope fields, fields, k, value⟩
  /-- Through a keyword. -/
  | through {scope : String} {fields : Fields} {k : Keyword} {value s : Value}
      {steps path : List PathStep} {place : Place} :
      fields.lookup k.name = some value → k.Applies value steps s →
      Leads store (scopeInside scope fields) s path place →
      Leads store scope (.object fields) (.key k.name :: (steps ++ path)) place
  /-- Through a reference. -/
  | jump {scope reference : String} {fields : Fields} {target : Value} {path : List PathStep}
      {place : Place} :
      fields.lookup Keyword.ref.name = some (.string reference) →
      store.resolveUrl (Reference.join (scopeInside scope fields) reference) = .ok target →
      Leads store (Reference.join (scopeInside scope fields)
        (Reference.join (scopeInside scope fields) reference)) target path place →
      Leads store scope (.object fields) (.key Keyword.ref.name :: path) place

/-! ## What a validation reaches -/

/-- A validation reaches a keyword in force, with a value: at the schema itself, through
what keywords in force ask for, and through references.  The paths lead to the value and to
the keyword. -/
inductive Store.Reaches (store : Store) (through : Keyword → Prop) :
    String → Value → Value → List PathStep → List PathStep → Value → Place → Prop
  | keyword {scope : String} {v value : Value} {fields : Fields} {k : Keyword} :
      Keyword.InForce fields v k value →
      Reaches store through scope v (.object fields) [] [.key k.name] v
        ⟨scopeInside scope fields, fields, k, value⟩
  | asked {scope : String} {v value w : Value} {fields : Fields} {k : Keyword} {a : Ask}
      {path schemaPath : List PathStep} {place : Place} :
      Keyword.InForce fields v k value → through k → k.Asks fields v value a →
      Reaches store through (scopeInside scope fields) a.value a.schema path schemaPath w place →
      Reaches store through scope v (.object fields) (a.path ++ path)
        (.key k.name :: (a.schemaPath ++ schemaPath)) w place
  | jump {scope reference : String} {v target w : Value} {fields : Fields}
      {path schemaPath : List PathStep} {place : Place} :
      fields.lookup Keyword.ref.name = some (.string reference) →
      store.resolveUrl (Reference.join (scopeInside scope fields) reference) = .ok target →
      Reaches store through (Reference.join (scopeInside scope fields)
        (Reference.join (scopeInside scope fields) reference)) v target path schemaPath w place →
      Reaches store through scope v (.object fields) path (.key Keyword.ref.name :: schemaPath)
        w place

section

variable {fields : Fields} {v value : Value} {k : Keyword} {a : Ask}

/-- The path of an ask leads to its value. -/
lemma Keyword.Asks.leads (h : k.Asks fields v value a) : v.Leads a.path a.value := by
  cases h with
  | property _ hw => exact .key (Fields.mem_of_lookup hw) (.here _)
  | matching _ _ hw _ => exact .key hw (.here _)
  | extra hw _ => exact .key hw (.here _)
  | item _ hw => exact .index hw (.here _)
  | tuple hw _ => exact .index hw (.here _)
  | laterItem _ _ hw => exact .index hw (.here _)
  | branch _ _ => exact .here _
  | not => exact .here _

/-- The schema path of an ask leads to its schema. -/
lemma Keyword.Asks.applies (h : k.Asks fields v value a) :
    k.Applies value a.schemaPath a.schema := by
  cases h with
  | property hs _ => exact .named (Or.inl rfl) hs
  | matching hs _ _ _ => exact .named (Or.inr rfl) hs
  | extra _ _ => exact .whole (Or.inl rfl)
  | item hnone _ => exact .whole (Or.inr (Or.inr (Or.inr ⟨rfl, hnone⟩)))
  | tuple _ hs => exact .listed (Or.inl rfl) hs
  | laterItem _ _ _ => exact .whole (Or.inr (Or.inl rfl))
  | branch hk hs => exact .listed (Or.inr hk) hs
  | not => exact .whole (Or.inr (Or.inr (Or.inl rfl)))

end

namespace Store.Reaches

variable {store : Store} {through : Keyword → Prop} {scope : String} {v schema w : Value}
  {path schemaPath : List PathStep} {place : Place}

/-- The paths of what a validation reaches can be walked. -/
lemma leads (h : store.Reaches through scope v schema path schemaPath w place) :
    v.Leads path w ∧ store.Leads scope schema schemaPath place := by
  induction h with
  | keyword hforce => exact ⟨.here _, .keyword hforce.1⟩
  | asked hforce _ hasks _ ih =>
    exact ⟨hasks.leads.append ih.1, .through hforce.1 hasks.applies ih.2⟩
  | jump href hfound _ ih => exact ⟨ih.1, .jump href hfound ih.2⟩

/-- The path to a keyword ends with its name, so it is not empty. -/
lemma schemaPath_ne_nil (h : store.Reaches through scope v schema path schemaPath w place) :
    schemaPath ≠ [] := by
  cases h <;> simp

/-- What is reached from a keyword is reached from the schemas around it. -/
lemma trans (h : store.Reaches through scope v schema path schemaPath w place) {a : Ask}
    (hthrough : through place.keyword) (hasks : place.keyword.Asks place.fields w place.value a)
    {path' schemaPath' : List PathStep} {w' : Value} {place' : Place}
    (h' : store.Reaches through place.scope a.value a.schema path' schemaPath' w' place') :
    store.Reaches through scope v schema (path ++ (a.path ++ path'))
      (schemaPath ++ (a.schemaPath ++ schemaPath')) w' place' := by
  induction h with
  | keyword hforce => exact .asked hforce hthrough hasks h'
  | asked hforce hk ha _ ih =>
    have hstep := Reaches.asked hforce hk ha (ih hthrough hasks h')
    simpa only [List.append_assoc, List.cons_append] using hstep
  | jump href hfound _ ih => exact .jump href hfound (ih hthrough hasks h')

end Store.Reaches

/-! ## Evaluating a keyword -/

namespace Validator

variable {val : Validator} {scope : String} {here here' : List String} {v w schema : Value}
  {place : Place}

/-- A keyword of a schema makes a contribution for a value: some depth of visits suffices, and
no reference is being followed before. -/
def Evaluates (val : Validator) (place : Place) (w : Value) (c : Contribution) : Prop :=
  ∃ n, (place.keyword.contribution val (Applicator.follow val.store (val.visit n)) (val.visit n)
    place.fields w place.value).resultAt place.scope [] = .ok c

/-- A question that visits of some depth have a good end for keeps it for deeper visits and for
fewer references being followed. -/
lemma answer_of_ok {m n : Nat} {q : Question} {o : Outcome} (hsub : here' ⊆ here)
    (hvisit : ∀ {v s scope here here' o}, here' ⊆ here →
      (val.visit m v s).resultAt scope here = .ok o →
        (val.visit n v s).resultAt scope here' = .ok o)
    (h : Question.answer (Applicator.follow val.store (val.visit m)) (val.visit m) scope here q =
      .ok o) :
    Question.answer (Applicator.follow val.store (val.visit n)) (val.visit n) scope here' q =
      .ok o := by
  cases q with
  | visit a =>
    obtain ⟨o', ho', rfl⟩ := Visit.answer_eq_ok_iff.1 h
    refine Visit.answer_eq_ok_iff.2 ⟨o', hvisit ?_ ho', rfl⟩
    split
    · exact hsub
    · exact List.Subset.refl _
  | follow w reference =>
    obtain ⟨target, hfound, hnot, ho⟩ := (Applicator.follow_ok_iff (val.visit_steady m)).1 h
    refine (Applicator.follow_ok_iff (val.visit_steady n)).2
      ⟨target, hfound, fun hmem => hnot (hsub hmem), ?_⟩
    exact hvisit (List.cons_subset_cons _ hsub) ho

/-- A visit keeps its good end when it may go deeper and fewer references are being
followed. -/
lemma visit_of_ok (hfills : val.fills = false) {m n : Nat} (hle : m ≤ n) {o : Outcome}
    (hsub : here' ⊆ here) (h : (val.visit m v schema).resultAt scope here = .ok o) :
    (val.visit n v schema).resultAt scope here' = .ok o := by
  induction m generalizing n v schema scope here here' o with
  | zero => exact absurd h visit_zero_ne_ok
  | succ m ih =>
    obtain ⟨n, rfl⟩ : ∃ n', n = n' + 1 := ⟨n - 1, by omega⟩
    exact visitNode_of_ok hfills (val.visit_steadies m) (val.visit_steadies n)
      (fun scope q o ho => answer_of_ok hsub (fun hsub ho => ih (by omega) hsub ho) ho) h

/-- Smaller schemas are visited less deep. -/
lemma visitDepth_lt {s : Value} (h : s.size < schema.size) :
    val.visitDepth v s < val.visitDepth v schema :=
  Nat.pow_lt_pow_left (by omega) (by decide)

/-- A visit from the root document keeps its good end at every depth that a larger schema is
visited with. -/
lemma visit_below (hfills : val.fills = false) {s : Value} {o : Outcome}
    (h : (val.outcome v s).resultAt val.store.baseUri [] = .ok o) (hsize : s.size < schema.size)
    {n : Nat} (hn : val.visitDepth v schema = n + 1) :
    (val.visit n v s).resultAt val.store.baseUri [] = .ok o := by
  have hlt := val.visitDepth_lt (v := v) hsize
  exact visit_of_ok hfills (by omega) (List.Subset.refl _) h

/-- A keyword keeps its contribution when visits may go deeper and fewer references are being
followed. -/
lemma contribution_of_ok (hfills : val.fills = false) {m n : Nat} (hle : m ≤ n)
    (hsub : here' ⊆ here) {k : Keyword} {fields : Fields} {value : Value} {c : Contribution}
    (h : (k.contribution val (Applicator.follow val.store (val.visit m)) (val.visit m) fields v
      value).resultAt scope here = .ok c) :
    (k.contribution val (Applicator.follow val.store (val.visit n)) (val.visit n) fields v
      value).resultAt scope here' = .ok c := by
  obtain ⟨plan, hwithin, hplan⟩ := (k.contribution_planned hfills fields v value).plan
  rw [hplan (val.visit_steadies m)] at h
  rw [hplan (val.visit_steadies n)]
  exact hwithin.run_of_ok
    (fun q o _ ho => answer_of_ok hsub (visit_of_ok hfills hle) ho) h

lemma Evaluates.eq (hfills : val.fills = false) {c c' : Contribution}
    (h : val.Evaluates place w c) (h' : val.Evaluates place w c') : c = c' := by
  obtain ⟨m, hm⟩ := h
  obtain ⟨n, hn⟩ := h'
  have hc := contribution_of_ok hfills (Nat.le_max_left m n) (List.Subset.refl _) hm
  have hc' := contribution_of_ok hfills (Nat.le_max_right m n) (List.Subset.refl _) hn
  exact Except.ok.inj (hc.symm.trans hc')

end Validator

/-! ## The violations of a keyword -/

/-- A violation without its location: what its keyword has said. -/
def Violation.bare (x : Violation) : Violation :=
  { x with keyword := none, path := [], schemaPath := [] }

/-- A violation of a keyword at a location. -/
def Violation.located (x : Violation) (k : Keyword) (path schemaPath : List PathStep) :
    Violation :=
  { x with keyword := some k, path := path, schemaPath := schemaPath }

lemma Violation.IsOwn.bare_eq {x : Violation} (h : x.IsOwn) : x.bare = x := by
  obtain ⟨message, keyword, path, schemaPath, context, cause⟩ := x
  obtain ⟨rfl, rfl, rfl⟩ := h
  rfl

lemma Violation.IsOwn.tagged_eq {x : Violation} (h : x.IsOwn) (k : Keyword) :
    x.tagged k = x.located k [] [.key k.name] := by
  obtain ⟨message, keyword, path, schemaPath, context, cause⟩ := x
  obtain ⟨rfl, rfl, rfl⟩ := h
  rfl

namespace Keyword

variable {val : Validator} {follow : Follow} {visit : Visit} {scope : String}
  {here : List String} {fields : Fields} {v value : Value} {k : Keyword} {c : Contribution}

/-- Where a violation of a keyword comes from: it is the keyword's own, and its context comes
from what the keyword has asked for; or it comes from there itself; or from the target of a
reference. -/
inductive Raises (follow : Follow) (visit : Visit) (scope : String) (here : List String)
    (fields : Fields) (v value : Value) (k : Keyword) (x : Violation) : Prop
  | own :
      x.IsOwn →
      (∀ y ∈ x.context, ∃ a o, k.Asks fields v value a ∧ visit.answer scope here a = .ok o ∧
        y ∈ o.violations) →
      Raises follow visit scope here fields v value k x
  | asked {a : Ask} {o : Outcome} :
      k.Asks fields v value a → visit.answer scope here a = .ok o → x ∈ o.violations →
      Raises follow visit scope here fields v value k x
  | followed {reference : String} {o : Outcome} :
      k = .ref → value = .string reference →
      (follow v reference).resultAt scope here = .ok o → x ∈ o.violations →
      Raises follow visit scope here fields v value k x

lemma raises (h : Steadies follow visit) (hfills : val.fills = false)
    (hc : (k.contribution val follow visit fields v value).resultAt scope here = .ok c)
    {x : Violation} (hx : x ∈ c.violations) :
    Raises follow visit scope here fields v value k x := by
  by_cases hweighing : k ∈ weighing
  · have hweighs := contribution_weighs h.visit hweighing hc
    exact .own (hweighs.isOwn x hx) (hweighs.context x hx)
  by_cases href : k = .ref
  · subst href
    obtain ⟨reference, o, rfl, ho, rfl⟩ := (Applicator.ref_ok_iff h.follow).1 hc
    exact .followed rfl rfl ho hx
  · obtain ⟨own, haccounts⟩ := contribution_accounts h.visit hfills hweighing href hc
    rcases (haccounts.mem_iff x).1 hx with hown | ⟨a, o, ha, ho, hxo⟩
    · obtain ⟨hisOwn, hcontext⟩ := haccounts.isOwn x hown
      exact .own hisOwn (by simp [hcontext])
    · exact .asked ha ho hxo

end Keyword

/-! ## Every violation is where it says -/

namespace Validator

variable {val : Validator} {scope : String} {here : List String} {v w schema : Value}
  {place : Place}

/-- A violation is located by paths: they lead to a keyword in force and to a value on which
the keyword fails, with this violation. -/
def Locates (val : Validator) (scope : String) (v schema : Value)
    (path schemaPath : List PathStep) (x : Violation) : Prop :=
  ∃ w place c, val.store.Reaches (fun _ => True) scope v schema path schemaPath w place ∧
    x.keyword = some place.keyword ∧ val.Evaluates place w c ∧ x.bare ∈ c.violations

/-- What is located in a schema that is asked for is located in the schema that asks, with the
paths of the ask before it. -/
lemma Locates.asked {fields : Fields} {value : Value} {k : Keyword} {a : Ask} {x y : Violation}
    {path schemaPath : List PathStep} (hforce : Keyword.InForce fields v k value)
    (ha : k.Asks fields v value a)
    (h : val.Locates (scopeInside scope fields) a.value a.schema path schemaPath x)
    (hkeyword : y.keyword = x.keyword.or (some k)) (hbare : y.bare = x.bare) :
    val.Locates scope v (.object fields) (a.path ++ path)
      (.key k.name :: (a.schemaPath ++ schemaPath)) y := by
  obtain ⟨w, place, c, hreaches, hx, heval, hmem⟩ := h
  refine ⟨w, place, c, .asked hforce trivial ha hreaches, ?_, heval, hbare ▸ hmem⟩
  rw [hkeyword, hx, Option.some_or]

/-- What is located in the target of a reference is located in the schema that refers to it. -/
lemma Locates.jump {fields : Fields} {reference : String} {target : Value} {x y : Violation}
    {path schemaPath : List PathStep}
    (href : fields.lookup Keyword.ref.name = some (.string reference))
    (hfound : val.store.resolveUrl (Reference.join (scopeInside scope fields) reference) =
      .ok target)
    (h : val.Locates (Reference.join (scopeInside scope fields)
      (Reference.join (scopeInside scope fields) reference)) v target path schemaPath x)
    (hkeyword : y.keyword = x.keyword.or (some .ref)) (hbare : y.bare = x.bare) :
    val.Locates scope v (.object fields) path (.key Keyword.ref.name :: schemaPath) y := by
  obtain ⟨w, place, c, hreaches, hx, heval, hmem⟩ := h
  refine ⟨w, place, c, .jump href hfound hreaches, ?_, heval, hbare ▸ hmem⟩
  rw [hkeyword, hx, Option.some_or]

/-- Every violation of a visit is where it says. -/
lemma locates_of_mem (hfills : val.fills = false) {n : Nat} {o : Outcome}
    (h : (val.visit n v schema).resultAt scope here = .ok o) {x : Violation}
    (hx : x ∈ o.violations) : val.Locates scope v schema x.path x.schemaPath x := by
  induction n generalizing v schema scope here o x with
  | zero => exact absurd h visit_zero_ne_ok
  | succ n ih =>
    have hsteadies := val.visit_steadies n
    obtain ⟨fields, rfl, hsettled⟩ := visitNode_settled hsteadies.follow hsteadies.visit h
    obtain ⟨k, value, c, hforce, hc, y, hy, rfl⟩ := (hsettled.mem_iff x).1 hx
    cases Keyword.raises hsteadies hfills hc hy with
    | own hown _ =>
      -- The keyword has been evaluated right here.
      have heval : val.Evaluates ⟨scopeInside scope fields, fields, k, value⟩ v c :=
        ⟨n, contribution_of_ok hfills (Nat.le_refl n) (List.nil_subset _) hc⟩
      rw [hown.tagged_eq]
      refine ⟨v, _, c, .keyword hforce, rfl, heval, ?_⟩
      show y.bare ∈ c.violations
      rw [hown.bare_eq]
      exact hy
    | asked ha ho hyo =>
      obtain ⟨o', ho', rfl⟩ := Visit.answer_eq_ok_iff.1 ho
      obtain ⟨y', hy', rfl⟩ := List.mem_map.1 hyo
      exact (ih ho' hy').asked hforce ha rfl rfl
    | followed hk hvalue ho hyo =>
      subst hk hvalue
      obtain ⟨target, hfound, -, ho'⟩ := (Applicator.follow_ok_iff hsteadies.visit).1 ho
      exact (ih ho' hyo).jump hforce.1 hfound rfl rfl

/-- What stands in the context of a violation that is located is located from there. -/
lemma Locates.context (hfills : val.fills = false) {path schemaPath : List PathStep}
    {x : Violation} (h : val.Locates scope v schema path schemaPath x) {y : Violation}
    (hy : y ∈ x.context) :
    val.Locates scope v schema (path ++ y.path) (schemaPath ++ y.schemaPath) y := by
  obtain ⟨w, place, c, hreaches, -, ⟨n, hn⟩, hmem⟩ := h
  have hsteadies := val.visit_steadies n
  cases Keyword.raises hsteadies hfills hn hmem with
  | own _ hcontext =>
    obtain ⟨a, o, ha, ho, hyo⟩ := hcontext y hy
    obtain ⟨o', ho', rfl⟩ := Visit.answer_eq_ok_iff.1 ho
    obtain ⟨y', hy', rfl⟩ := List.mem_map.1 hyo
    -- The context has paths from the schema at hand on, which go on from the location.
    obtain ⟨w', place', c', hreaches', hkeyword, heval, hbare⟩ := locates_of_mem hfills ho' hy'
    exact ⟨w', place', c', hreaches.trans trivial ha hreaches', hkeyword, heval, hbare⟩
  | asked ha ho hxo =>
    -- A violation of a visit names at least one keyword in its schema path.
    obtain ⟨o', ho', rfl⟩ := Visit.answer_eq_ok_iff.1 ho
    obtain ⟨x', hx', heq⟩ := List.mem_map.1 hxo
    have hempty : _ ++ x'.schemaPath = [] := congrArg Violation.schemaPath heq
    obtain ⟨_, _, _, hreaches', -⟩ := locates_of_mem hfills ho' hx'
    exact absurd (List.append_eq_nil_iff.1 hempty).2 hreaches'.schemaPath_ne_nil
  | followed hk hvalue ho hxo =>
    obtain ⟨target, -, -, ho'⟩ := (Applicator.follow_ok_iff hsteadies.visit).1 ho
    obtain ⟨_, _, _, hreaches', -⟩ := locates_of_mem hfills ho' hxo
    exact absurd rfl hreaches'.schemaPath_ne_nil

/-! ## No violation is left out -/

end Validator

/-- The keywords that gather the violations of the schemas they apply. -/
def Keyword.gathering : List Keyword :=
  [properties, patternProperties, additionalProperties, items, additionalItems, allOf]

namespace Validator

variable {val : Validator} {scope : String} {here : List String} {v w schema : Value}
  {place : Place}

lemma accounts_of_gathering {follow : Follow} {visit : Visit} {fields : Fields} {value : Value}
    {k : Keyword} {c : Contribution} (h : Steadies follow visit) (hfills : val.fills = false)
    (hk : k ∈ Keyword.gathering)
    (hc : (k.contribution val follow visit fields v value).resultAt scope here = .ok c) :
    ∃ own, c.Accounts (k.Asks fields v value) (visit.answer scope here) own := by
  have hplain : ∀ k ∈ Keyword.gathering, k ∉ Keyword.weighing ∧ k ≠ .ref := by decide
  exact Keyword.contribution_accounts h.visit hfills (hplain k hk).1 (hplain k hk).2 hc

/-- A visit with a good end has seen the keywords in force do so. -/
lemma visit_settled {n : Nat} {fields : Fields} {o : Outcome}
    (h : (val.visit n v (.object fields)).resultAt scope here = .ok o) :
    ∃ m, n = m + 1 ∧ val.Settled (Applicator.follow val.store (val.visit m)) (val.visit m)
      (scopeInside scope fields) here v fields o := by
  cases n with
  | zero => exact absurd h visit_zero_ne_ok
  | succ m =>
    obtain ⟨fields', heq, hsettled⟩ :=
      visitNode_settled (val.visit_steadies m).follow (val.visit_steadies m).visit h
    obtain rfl := Value.object.inj heq
    exact ⟨m, rfl, hsettled⟩

/-- Whatever is reached through keywords that gather has been evaluated, and its own violations
are among those of the visit. -/
lemma evaluated_of_reaches (hfills : val.fills = false) {path schemaPath : List PathStep}
    (hreaches : val.store.Reaches (· ∈ Keyword.gathering) scope v schema path schemaPath w place)
    {n : Nat} {o : Outcome} (h : (val.visit n v schema).resultAt scope here = .ok o) :
    ∃ c, val.Evaluates place w c ∧ ∀ x ∈ c.violations, x.IsOwn →
      x.located place.keyword path schemaPath ∈ o.violations := by
  induction hreaches generalizing n here o with
  | @keyword scope v value fields k hforce =>
    obtain ⟨n, rfl, hsettled⟩ := visit_settled h
    obtain ⟨c, hc⟩ := hsettled.answered k value hforce
    refine ⟨c, ⟨n, contribution_of_ok hfills (Nat.le_refl n) (List.nil_subset _) hc⟩, ?_⟩
    intro x hx hown
    exact (hsettled.mem_iff _).2 ⟨k, value, c, hforce, hc, x, hx, hown.tagged_eq k⟩
  | @asked scope v value w fields k a path schemaPath place hforce hk ha _ ih =>
    obtain ⟨n, rfl, hsettled⟩ := visit_settled h
    obtain ⟨c, hc⟩ := hsettled.answered k value hforce
    obtain ⟨own, haccounts⟩ := accounts_of_gathering (val.visit_steadies n) hfills hk hc
    obtain ⟨_, ho⟩ := haccounts.answered a ha
    obtain ⟨o', ho', rfl⟩ := Visit.answer_eq_ok_iff.1 ho
    obtain ⟨c', heval, hall⟩ := ih ho'
    refine ⟨c', heval, fun x hx hown => ?_⟩
    -- On the way up the violation gets the paths of the ask, then the name of the keyword.
    have hunder := List.mem_map_of_mem (f := fun x : Violation =>
      { x with path := a.path ++ x.path, schemaPath := a.schemaPath ++ x.schemaPath })
      (hall x hx hown)
    exact (hsettled.mem_iff _).2 ⟨k, value, c, hforce, hc, _,
      (haccounts.mem_iff _).2 (Or.inr ⟨a, _, ha, ho, hunder⟩), rfl⟩
  | @jump scope reference v target w fields path schemaPath place href hfound _ ih =>
    obtain ⟨n, rfl, hsettled⟩ := visit_settled h
    have hforce : Keyword.InForce fields v .ref (.string reference) := ⟨href, Or.inl rfl⟩
    obtain ⟨c, hc⟩ := hsettled.answered .ref _ hforce
    obtain ⟨reference', o', hvalue, ho, rfl⟩ :=
      (Applicator.ref_ok_iff (val.visit_steadies n).follow).1 hc
    obtain rfl := Value.string.inj hvalue
    obtain ⟨target', hfound', -, ho'⟩ :=
      (Applicator.follow_ok_iff (val.visit_steadies n).visit).1 ho
    obtain rfl := Except.ok.inj (hfound.symm.trans hfound')
    obtain ⟨c', heval, hall⟩ := ih ho'
    refine ⟨c', heval, fun x hx hown => ?_⟩
    exact (hsettled.mem_iff _).2 ⟨.ref, _, _, hforce, hc, _, hall x hx hown, rfl⟩

end Validator

/-! ## Locations are right and complete -/

/-- Some violations, those in their contexts, and so on, with the paths that lead there. -/
inductive Violation.Nested (vs : List Violation) : Violation.Located → Prop
  | top {x : Violation} : x ∈ vs → Nested vs x.atRoot
  | context {l l' : Violation.Located} : Nested vs l → l' ∈ l.context → Nested vs l'

namespace Validator

variable {val : Validator}

/-- **Violations are where they say, and none is left out**, as long as missing properties are
not filled and the validation comes to a good end.  The absolute paths of a violation, also in
the context of another one, lead to a value and to the keyword that the violation names, and
the keyword fails on the value with this violation.  And whatever is reached through the
keywords that gather and through references has been evaluated, and its violations are
listed. -/
theorem violations_located_and_complete (hfills : val.fills = false) (v schema : Value)
    {vs : List Violation} (h : val.violationsOf v schema = .ok vs) :
    (∀ l, Violation.Nested vs l → ∃ w place c, v.Leads l.absolutePath w ∧
      val.store.Leads val.store.baseUri schema l.absoluteSchemaPath place ∧
      l.violation.keyword = some place.keyword ∧ val.Evaluates place w c ∧
      l.violation.bare ∈ c.violations) ∧
    (∀ path schemaPath w place,
      val.store.Reaches (· ∈ Keyword.gathering) val.store.baseUri v schema path schemaPath w
        place →
      (∃ c, val.Evaluates place w c) ∧
        ∀ c, val.Evaluates place w c → ∀ x ∈ c.violations, x.IsOwn →
          x.located place.keyword path schemaPath ∈ vs) := by
  obtain ⟨o, ho, rfl⟩ := violationsOf_eq_ok_iff.1 h
  constructor
  · -- Contexts may be nested, so the locations go down with the nesting.
    intro l hl
    have hlocates : val.Locates val.store.baseUri v schema l.absolutePath l.absoluteSchemaPath
        l.violation := by
      induction hl with
      | top hx => exact locates_of_mem hfills ho hx
      | context _ hl' ih =>
        obtain ⟨y, hy, rfl⟩ := List.mem_map.1 hl'
        exact ih.context hfills hy
    obtain ⟨w, place, c, hreaches, hkeyword, heval, hmem⟩ := hlocates
    exact ⟨w, place, c, hreaches.leads.1, hreaches.leads.2, hkeyword, heval, hmem⟩
  · intro path schemaPath w place hreaches
    obtain ⟨c, heval, hall⟩ := evaluated_of_reaches hfills hreaches ho
    refine ⟨⟨c, heval⟩, fun c' heval' x hx hown => ?_⟩
    -- There is no more than one evaluation.
    obtain rfl := heval.eq hfills heval'
    exact hall x hx hown

end Validator

namespace Choice

/-- A schema with two branches. -/
def schema : Value := .object [("anyOf", .array [
  .object [("type", .string "string")],
  .object [("properties", .object [("a", .object [("type", .string "integer")])])]])]

/-- A value that neither branch takes. -/
def value : Value := .object [("a", .string "x")]

end Choice

/-- The violation of the second branch stands in the context of the violation of the choice, and
its absolute paths lead to the text and to the type that it should have. -/
theorem choice_is_located :
    Dialect.oas3.alone.fills = false ∧
      ∃ x y, Dialect.oas3.alone.violationsOf Choice.value Choice.schema = .ok [x] ∧
        x.context[1]? = some y ∧
        ∃ w place c, Choice.value.Leads [.key "a"] w ∧
          Dialect.oas3.alone.store.Leads "" Choice.schema
            [.key "anyOf", .index 1, .key "properties", .key "a", .key "type"] place ∧
          y.keyword = some place.keyword ∧ Dialect.oas3.alone.Evaluates place w c ∧
          y.bare ∈ c.violations := by
  refine ⟨rfl, _, _, rfl, rfl, ?_⟩
  have hall :=
    (Dialect.oas3.alone.violations_located_and_complete rfl Choice.value Choice.schema rfl).1
  exact hall _ (.context (.top List.mem_cons_self)
    (List.mem_cons_of_mem _ List.mem_cons_self))

end ApiContract
