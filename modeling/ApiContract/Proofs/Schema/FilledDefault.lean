/-
# Defaults and the values they stand for

A missing property takes its default, and a text takes the shape that the format of its schema
gives it.  A property that holds this text is validated instead.  The two come to the same where
the format is declared in the schema that the references end in: there it is evaluated last, so
its reading is what the property is left with.

A format that stands in a branch of `allOf` is evaluated as well, but it is not looked up.  So
there the two come apart, although the default itself is found in the branch.
-/
import ApiContract.Proofs.Schema.Defaults
import ApiContract.Proofs.Schema.Format
import ApiContract.Proofs.Schema.Plan
import ApiContract.Proofs.Value.Merge
import ApiContract.Proofs.Value.Pairs

namespace ApiContract

/-- What a format of a schema reads is typed. -/
lemma Formats.isTyped_of_reading? {formats : Formats} (hformats : formats.ReadTexts)
    {schema v w : Value} (h : formats.reading? schema v = some w) : w.isTyped := by
  obtain ⟨name, -, hread⟩ := Option.bind_eq_some_iff.1 h
  cases hcheck : formats.check name v with
  | error fault => simp [hcheck, Except.toOption] at hread
  | ok change =>
    obtain rfl : change = some w := by simpa [hcheck, Except.toOption] using hread
    obtain ⟨s, -, htyped⟩ := hformats name v w hcheck
    exact htyped

namespace Validator

open Walk

variable {val : Validator} {scope : String} {here : List String} {n : Nat} {v schema node : Value}
  {o : Outcome}

/-! ## The explicit value -/

/-- Where references lead to a schema, a visit is a visit of that schema. -/
lemma visit_of_endsAt (hends : val.store.EndsAt scope schema node)
    (h : (val.visit n v schema).resultAt scope here = .ok o) :
    ∃ m scope' here' o', (val.visit m v node).resultAt scope' here' = .ok o' ∧
      o'.change = o.change ∧ (o'.violations = [] ↔ o.violations = []) := by
  induction hends generalizing n here o with
  | here => exact ⟨n, _, here, o, h, rfl, Iff.rfl⟩
  | @jump scope reference schema target node hid href hfound _ ih =>
    cases n with
    | zero => exact absurd h visit_zero_ne_ok
    | succ n =>
      have hsteadies := val.visit_steadies n
      obtain ⟨fields, rfl, hfields⟩ := (visitNode_ok_iff hsteadies.follow hsteadies.visit).1 h
      rw [scopeInside_of_none hid] at hfields
      have hlookup : fields.lookup Keyword.ref.name ≠ none := by
        intro hnone
        simp [reference?, Value.get?, hnone] at href
      -- The schema is nothing but its reference, which is followed.
      cases visitFields_ok_iff.1 hfields with
      | null hnone => exact absurd hnone hlookup
      | keywords hnone => exact absurd hnone hlookup
      | ref hvalue ho =>
        obtain ⟨c, hc, rfl⟩ := (visitKeyword_ok_iff hsteadies.follow hsteadies.visit).1 ho
        obtain ⟨reference', o', rfl, ho', rfl⟩ := (Applicator.ref_ok_iff hsteadies.follow).1 hc
        obtain rfl : reference' = reference := by
          simpa [reference?, Value.get?, hvalue, Value.string?] using href
        obtain ⟨target', hfound', -, htarget⟩ :=
          (Applicator.follow_ok_iff hsteadies.visit).1 ho'
        obtain rfl := Except.ok.inj (hfound.symm.trans hfound')
        obtain ⟨m, scope', here', o'', ho'', hchange, hviolations⟩ := ih htarget
        refine ⟨m, scope', here', o'', ho'', hchange, ?_⟩
        rw [hviolations]
        exact List.map_eq_nil_iff.symm

/-- The format comes last among the keywords of a schema. -/
lemma keywordsOf_eq_append_format {fields : Fields} {value : Value}
    (h : fields.lookup Keyword.format.name = some value) :
    ∃ others, keywordsOf fields = others ++ [(Keyword.format, value)] := by
  have horder : Keyword.order = Keyword.order.dropLast ++ [Keyword.format] := rfl
  refine ⟨Keyword.order.dropLast.filterMap fun k => (fields.lookup k.name).map (k, ·), ?_⟩
  rw [keywordsOf, horder, List.filterMap_append]
  simp [h]

/-- A typed leaf that comes last is what a text is left with. -/
lemma layer_string_typed (text : String) (earlier : Option Value) {typed : Value}
    (h : typed.isTyped) : layer (.string text) earlier (some typed) = some typed := by
  cases earlier with
  | none => rfl
  | some e =>
    have hne : ¬ (typed == Value.string text) = true := by
      cases typed with
      | date | dateTime | bytes | ip => exact Bool.false_ne_true
      | _ => simp [Value.isTyped] at h
    have hoverlay : Value.overlay (.string text) e typed = typed := by
      unfold Value.overlay Value.overlayBy
      rw [if_neg hne]
      split
      · rfl
      · cases typed with
        | date | dateTime | bytes | ip => rfl
        | _ => simp [Value.isTyped] at h
    rw [layer, hoverlay]

/-- A text is left with what the format of its schema reads in it. -/
lemma visit_reading (hformats : val.formats.ReadTexts) (hnode : reference? node = none)
    {text : String} {typed : Value}
    (hreading : val.formats.reading? node (.string text) = some typed)
    (h : (val.visit n (.string text) node).resultAt scope here = .ok o) :
    o.change = some typed := by
  cases n with
  | zero => exact absurd h visit_zero_ne_ok
  | succ n =>
    have hsteadies := val.visit_steadies n
    obtain ⟨fields, rfl, hfields⟩ := (visitNode_ok_iff hsteadies.follow hsteadies.visit).1 h
    obtain ⟨name, hname, hread⟩ := Option.bind_eq_some_iff.1 hreading
    obtain ⟨value, hlookup, hvalue⟩ := Option.bind_eq_some_iff.1 hname
    obtain rfl := Value.string?_eq_some_iff.1 hvalue
    cases visitFields_ok_iff.1 hfields with
    | null _ hnull => simp [Value.isNull] at hnull
    | ref href ho =>
      -- What is no text is no reference.
      obtain ⟨c, hc, -⟩ := (visitKeyword_ok_iff hsteadies.follow hsteadies.visit).1 ho
      obtain ⟨reference, o', rfl, -, -⟩ := (Applicator.ref_ok_iff hsteadies.follow).1 hc
      simp [reference?, Value.get?, href, Value.string?] at hnode
    | keywords _ _ ho =>
      obtain ⟨outcomes, hall, rfl⟩ := (visitKeywords_ok_iff hsteadies.follow hsteadies.visit).1 ho
      obtain ⟨others, hothers⟩ := keywordsOf_eq_append_format hlookup
      rw [hothers] at hall
      -- The last outcome is that of the format.
      obtain ⟨⟨k, o⟩, rest, ⟨-, ho⟩, hrest, hdrop⟩ :=
        List.forall₂_cons_right_iff.1 (List.forall₂_drop_append _ _ _ hall.flip)
      obtain rfl := List.forall₂_nil_right_iff.1 hrest
      have hchange : o.change = some typed := by
        obtain ⟨c, hc, rfl⟩ := (visitKeyword_ok_iff hsteadies.follow hsteadies.visit).1 ho
        obtain ⟨_, heq, hformat⟩ := Applicator.format_ok hc
        obtain rfl := Value.string.inj heq
        rcases hformat with ⟨change, hcheck, rfl⟩ | ⟨fault, message, hcheck, rfl⟩
        · simpa [hcheck, Except.toOption] using hread
        · simp [hcheck, Except.toOption] at hread
      rw [← List.take_append_drop others.length outcomes, hdrop]
      simp only [List.map_append, List.map_singleton, List.foldl_append, List.foldl_cons,
        List.foldl_nil, hchange]
      exact layer_string_typed text _ (Formats.isTyped_of_reading? hformats hreading)

end Validator

/-! ## The property -/

/-- The property that a single part belongs to: what was made of it, and the field as it was if
nothing was. -/
lemma Part.get?_changeFields_singleton {p : Part String} {name : String} (hplace : p.place = name)
    (fields : Fields) :
    ((changeFields fields [p]).getD (.object fields)).get? name =
      p.outcome.change.or (fields.lookup name) := by
  subst hplace
  cases hchange : p.outcome.change with
  | none => simp [changeFields, hchange, Value.get?]
  | some u => simp [changeFields, hchange, Value.get?, Fields.lookup_insert]

namespace Validator

/-- A schema that declares a single property. -/
def declaring (name : String) (s : Value) : Value :=
  .object [(Keyword.properties.name, .object [(name, s)])]

variable {val : Validator} {name text : String} {s node : Value} {fields : Fields} {n : Nat}

/-- An object is valid against the declaration of a single property if what is made of the
property raises no violation. -/
lemma validate_declaring_iff (hn : val.visitDepth (.object fields) (declaring name s) = n + 1)
    {w : Value} :
    (∃ out, val.validate (.object fields) (declaring name s) = .ok out ∧ out.value = w) ↔
      ∃ part, (Applicator.property val (val.visit n) fields name s).resultAt val.store.baseUri
          [] = .ok part ∧ part.outcome.violations = [] ∧
        (Part.changeFields fields [part]).getD (.object fields) = w := by
  have hvisit := val.visit_steady n
  constructor
  · rintro ⟨_, h, rfl⟩
    obtain ⟨o, ho, hnil, rfl⟩ := validate_eq_ok_iff.1 h
    rw [outcome, hn] at ho
    obtain ⟨c, hc, rfl⟩ := (val.visit_single_ok_iff (k := .properties) (by simp)).1 ho
    cases (Applicator.properties_ok_iff hvisit).1 hc with
    | object hparts =>
      obtain ⟨part, rest, hpart, hrest, rfl⟩ := List.forall₂_cons_left_iff.1 hparts
      obtain rfl := List.forall₂_nil_left_iff.1 hrest
      exact ⟨part, hpart, by simpa [Part.violations] using hnil, rfl⟩
    | other hobject => exact absurd rfl (hobject fields)
  · rintro ⟨part, hpart, hnil, rfl⟩
    have hproperties := (Applicator.properties_ok_iff hvisit).2
      (.object (.cons (a := (name, s)) hpart .nil))
    have ho := (val.visit_single_ok_iff (k := .properties) (by simp)).2
      ⟨_, hproperties, rfl⟩
    rw [← hn] at ho
    exact ⟨_, validate_eq_ok_iff.2 ⟨_, ho, by simp [Part.violations, hnil], rfl⟩, rfl⟩

/-- A property that holds a text is left with what the visit makes of the text. -/
lemma property_of_text (hpresent : fields.lookup name = some (.string text)) {part : Part String}
    (h : (Applicator.property val (val.visit n) fields name s).resultAt val.store.baseUri [] =
      .ok part) :
    part.place = name ∧ ∃ o, (val.visit n (.string text) s).resultAt val.store.baseUri [] = .ok o ∧
      part.outcome.change = o.change := by
  obtain ⟨hplace, hanswer⟩ :=
    (Applicator.property_present_iff (val.visit_steady n) hpresent).1 h
  obtain ⟨o, ho, heq⟩ := Visit.answer_eq_ok_iff.1 hanswer
  exact ⟨hplace, o, ho, by rw [← heq]; rfl⟩

/-- A property that is missing is left with its default in the shape of its format. -/
lemma property_of_default (hends : val.store.EndsAt val.store.baseUri s node)
    (hdefault : (val.declaredDefault s).resultAt val.store.baseUri [] = .ok (some (.string text)))
    (hmissing : fields.lookup name = none) :
    (Applicator.property val (val.visit n) fields name s).resultAt val.store.baseUri [] =
      .ok ⟨name, some ((val.formats.reading? node (.string text)).getD (.string text)), s, []⟩ :=
  (Applicator.property_missing_iff (val.visit_steady n) hmissing).2
    ⟨rfl, .typed hdefault (by simp [Value.isContainer]) (typedDefault_of_endsAt hends hdefault)⟩

/-- **What a default is filled in as**: let references lead from the schema of a property to a
schema without one, and let a text be its default.  If an object that holds this text is valid,
then so is one without the property, which is filled in as what the format of the schema at the
end reads in the text, or else as the text itself.  The first object has got the same there
exactly if this format has read its text or nothing has. -/
theorem validate_missing (hformats : val.formats.ReadTexts)
    (hends : val.store.EndsAt val.store.baseUri s node)
    (hdefault : val.run (val.declaredDefault s) = .ok (some (.string text)))
    {others : Fields} (hpresent : fields.lookup name = some (.string text))
    (hmissing : others.lookup name = none) {out : Validated}
    (h : val.validate (.object fields) (declaring name s) = .ok out) :
    ∃ filled explicit default,
      val.validate (.object others) (declaring name s) = .ok filled ∧
      out.value.get? name = some explicit ∧ filled.value.get? name = some default ∧
      default = (val.formats.reading? node (.string text)).getD (.string text) ∧
      (default = explicit ↔
        val.formats.reading? node (.string text) ≠ none ∨ explicit = .string text) := by
  obtain ⟨n, hn⟩ := val.exists_visitDepth (.object fields) (declaring name s)
  obtain ⟨m, hm⟩ := val.exists_visitDepth (.object others) (declaring name s)
  -- The object that holds the text.
  obtain ⟨part, hpart, -, hout⟩ := (validate_declaring_iff hn).1 ⟨out, h, rfl⟩
  obtain ⟨hplace, o, ho, hchange⟩ := property_of_text hpresent hpart
  have hexplicit : out.value.get? name = some (o.change.getD (.string text)) := by
    rw [← hout, Part.get?_changeFields_singleton hplace, hpresent, hchange]
    cases o.change <;> rfl
  -- The object without the property.
  obtain ⟨filled, hfilled, hvalue⟩ := (validate_declaring_iff hm).2
    ⟨_, property_of_default hends hdefault hmissing, rfl, rfl⟩
  have hdefault : filled.value.get? name =
      some ((val.formats.reading? node (.string text)).getD (.string text)) := by
    rw [hvalue]
    exact Part.get?_changeFields_singleton (p := ⟨name, some _, s, []⟩) rfl others
  refine ⟨filled, _, _, hfilled, hexplicit, hdefault, rfl, ?_⟩
  cases hreading : val.formats.reading? node (.string text) with
  | none => simp [eq_comm]
  | some typed =>
    obtain ⟨m, scope', here', o', ho', heq, -⟩ := visit_of_endsAt hends ho
    have htyped := visit_reading hformats hends.reference?_eq_none hreading ho'
    rw [heq] at htyped
    simp [htyped]

end Validator

namespace Calendar

/-- A day with a default. -/
def day : Value := .object [("format", .string "date"), ("default", .string "2017-07-26")]

/-- A validator that fills, for a document that defines days. -/
def validator : Validator :=
  ⟨.ofRoot "" (.object [("definitions", .object [("day", day)])]), Dialect.oas3.formats, true⟩

/-- A reference to the definition. -/
def byReference : Value := .object [("$ref", .string "#/definitions/day")]

/-- The same schema as the only branch of a conjunction. -/
def inBranch : Value := .object [("allOf", .array [day])]

/-- An object that holds the default. -/
def explicit : Fields := [("note", .null), ("day", .string "2017-07-26")]

/-- The object without it. -/
def missing : Fields := [("note", .null)]

end Calendar

/-- A default that is found by reference is filled in as a date, as it is read where it is
given. -/
theorem default_by_reference_is_read :
    ∃ out filled date,
      Calendar.validator.validate (.object Calendar.explicit)
        (Validator.declaring "day" Calendar.byReference) = .ok out ∧
      Calendar.validator.validate (.object Calendar.missing)
        (Validator.declaring "day" Calendar.byReference) = .ok filled ∧
      out.value.get? "day" = some (.date date) ∧ filled.value.get? "day" = some (.date date) := by
  have hends : Calendar.validator.store.EndsAt Calendar.validator.store.baseUri
      Calendar.byReference Calendar.day := .jump rfl rfl rfl (.here rfl)
  obtain ⟨out, date, hout, hdate⟩ : ∃ out date,
      Calendar.validator.validate (.object Calendar.explicit)
        (Validator.declaring "day" Calendar.byReference) = .ok out ∧
      out.value.get? "day" = some (.date date) := ⟨_, _, rfl, rfl⟩
  have hreads : Calendar.validator.formats.reading? Calendar.day (.string "2017-07-26") ≠ none := by
    decide
  have hmissing : Calendar.missing.lookup "day" = none := rfl
  obtain ⟨filled, explicit, default, hfilled, hexplicit, hdefault, -, hiff⟩ :=
    Validator.validate_missing Dialect.oas3.readTexts_formats hends rfl rfl hmissing hout
  obtain rfl := Option.some.inj (hexplicit.symm.trans hdate)
  rw [hiff.2 (Or.inl hreads)] at hdefault
  exact ⟨out, filled, date, hout, hfilled, hdate, hdefault⟩

/-- A default that is found in a branch is filled in as a text, although it is read as a date
where it is given. -/
theorem default_in_branch_stays_text :
    (Calendar.validator.run (Calendar.validator.declaredDefault Calendar.inBranch)).toOption.any
        (·.bind Value.string? = some "2017-07-26") ∧
    (Calendar.validator.validate (.object Calendar.explicit)
        (Validator.declaring "day" Calendar.inBranch)).toOption.any
          (fun out => (out.value.get? "day").any Value.isTyped) ∧
    (Calendar.validator.validate (.object Calendar.missing)
        (Validator.declaring "day" Calendar.inBranch)).toOption.any
          (fun out => (out.value.get? "day").bind Value.string? = some "2017-07-26") := by
  decide

end ApiContract
