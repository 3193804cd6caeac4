/-
# Values that come back untouched

Only two things make validation change a value: a format that replaces a text, and a default for a
missing field.  Without both, nothing is changed at any depth.  To change nothing is a law of
changes: parts none of which was changed make no new object and no new array, branches none of which
has changed the value are not merged, and nothing is laid over nothing.
-/
import ApiContract.Proofs.Schema.Rewriting

namespace ApiContract

/-- The formats replace nothing. -/
def Formats.ReplaceNothing (formats : Formats) : Prop :=
  ∀ name v w, formats.check name v ≠ .ok (some w)

lemma Formats.replaceNothing_empty : Formats.empty.ReplaceNothing := by
  intro name v w h
  simp [check, empty] at h

variable {val : Validator} {Named : String → Prop}

/-- **To change nothing is a law of changes** if missing fields are not filled and the formats that
are named replace nothing. -/
theorem untouched_law (hfills : val.fills = false)
    (hformats : ∀ name, Named name → ∀ v w, val.formats.check name v ≠ .ok (some w)) :
    ChangeLaw val Named fun _ change => change = none where
  unchanged _ := rfl
  formatted := by
    intro name v change hnamed hcheck
    cases change with
    | none => rfl
    | some w => exact absurd hcheck (hformats name hnamed v w)
  fields := by
    intro fields parts hparts
    refine if_pos (List.all_eq_true.2 fun p hp => Option.isNone_iff_eq_none.2 ?_)
    cases hparts p hp with
    | present _ hnone => exact hnone
    | missing _ hfilled =>
      by_contra hchange
      simpa [hfills] using hfilled hchange
  items := by
    intro items parts hparts
    refine if_pos (List.all_eq_true.2 fun p hp => Option.isNone_iff_eq_none.2 ?_)
    obtain ⟨-, -, hnone⟩ := hparts p hp
    exact hnone
  combined := by
    intro v outcomes hnone violations
    exact if_pos (List.all_eq_true.2 fun o ho => Option.isNone_iff_eq_none.2 (hnone o ho))
  layered := by
    rintro v earlier later rfl rfl
    rfl

namespace Validator

/-- **Validation changes nothing by itself**: if missing fields are not filled and formats replace
nothing, a valid value comes back unchanged.  Neither does any schema change a value that is visited
on the way, at whatever depth and in whatever scope, nor any keyword of it. -/
theorem validate_untouched (store : Store) (formats : Formats) (hformats : formats.ReplaceNothing)
    (v schema : Value) :
    let val := Validator.mk store formats false
    (∀ out, val.validate v schema = .ok out → out.isChanged = false ∧ out.value = v) ∧
    (∀ n scope here w s o, store.Knows schema s →
      (val.visit n w s).resultAt scope here = .ok o → o.change = none) ∧
    ∀ n scope here w fields k value c, store.Knows schema (.object fields) →
      fields.lookup (Keyword.name k) = some value →
      (k.contribution val (Applicator.follow store (val.visit n)) (val.visit n) fields w
        value).resultAt scope here = .ok c → c.change = none := by
  intro val
  have law : ChangeLaw val (store.NamesFormat schema) fun _ change => change = none :=
    untouched_law rfl fun name _ => hformats name
  have hvisit : ∀ n scope here w s o, store.Knows schema s →
      (val.visit n w s).resultAt scope here = .ok o → o.change = none :=
    fun n scope here w s o hknows h => visit_obeys law hknows h
  refine ⟨fun out hout => ?_, hvisit, fun n scope here w fields k value c hknows hlookup hc => ?_⟩
  · obtain ⟨o, ho, -, rfl⟩ := validate_eq_ok_iff.1 hout
    have hnone := hvisit _ _ _ _ _ o (Or.inl (.refl schema)) ho
    simp [hnone]
  · exact contribution_obeys law (fun hs ho => hvisit n _ _ _ _ _ hs ho) hknows hlookup hc

end Validator

namespace Order

/-- A schema with a reference, branches, fields, items, a default and the name of a format. -/
def schema : Value := .object [
  ("definitions", .object [("line", .object [("properties", .object [
    ("day", .object [("type", .string "string"), ("format", .string "date")]),
    ("count", .object [("default", .integer 1)])])])]),
  ("allOf", .array [.object [("items", .object [("$ref", .string "#/definitions/line")])]]),
  ("items", .object [("type", .string "object")])]

/-- Lines of an order in which there is a date to read and a field to fill. -/
def lines : Value := .array [.object [("day", .string "2017-07-26")]]

end Order

/-- Neither is the date read nor the field filled. -/
theorem order_is_untouched :
    ∃ out, (Validator.mk (.ofRoot "" Order.schema) Formats.empty false).validate Order.lines
        Order.schema = .ok out ∧ out.isChanged = false ∧ out.value = Order.lines := by
  obtain ⟨huntouched, -, -⟩ := Validator.validate_untouched (.ofRoot "" Order.schema) Formats.empty
    Formats.replaceNothing_empty Order.lines Order.schema
  exact ⟨_, rfl, huntouched _ rfl⟩

end ApiContract
