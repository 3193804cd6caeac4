/-
# Parts in their places

Where every part of a value is visited once, what stands in its place afterwards is what was made
of the part, or the part as it was.  Everything else is left alone.
-/
import ApiContract.Proofs.Value.Pairs

namespace ApiContract

/-- What a value has become. -/
def Outcome.result (o : Outcome) (v : Value) : Value :=
  o.change.getD v

@[simp] lemma Outcome.result_under (o : Outcome) (path schemaPath : List PathStep) (v : Value) :
    (o.under path schemaPath).result v = o.result v :=
  rfl

namespace Part

/-! ## Objects -/

/-- Fields with their changed parts in their places. -/
def changedFields (fields : Fields) (parts : List (Part String)) : Fields :=
  parts.foldl
    (fun fields p => p.outcome.change.elim fields fun v => Fields.insert p.place v fields) fields

section

variable {fields : Fields} {parts : List (Part String)} {p : Part String} {name : String}

lemma changedFields_cons (fields : Fields) (p : Part String) (parts : List (Part String)) :
    changedFields fields (p :: parts) = changedFields (changedFields fields [p]) parts :=
  rfl

lemma changedFields_singleton_of_none (h : p.outcome.change = none) :
    changedFields fields [p] = fields := by
  simp [changedFields, h]

lemma changedFields_singleton_of_some {v : Value} (h : p.outcome.change = some v) :
    changedFields fields [p] = Fields.insert p.place v fields := by
  simp [changedFields, h]

/-- An object with its changed parts, whether there are any or not. -/
lemma changeFields_getD (fields : Fields) (parts : List (Part String)) :
    (changeFields fields parts).getD (.object fields) = .object (changedFields fields parts) := by
  rw [changeFields]
  split
  · rename_i hnone
    rw [List.all_eq_true] at hnone
    have hsame : changedFields fields parts = fields := by
      induction parts with
      | nil => rfl
      | cons p parts ih =>
        have hp : p.outcome.change = none := Option.isNone_iff_eq_none.1 (hnone p (by simp))
        rw [changedFields_cons, changedFields_singleton_of_none hp]
        exact ih fun q hq => hnone q (by simp [hq])
    rw [hsame]
    rfl
  · rfl

lemma lookup_changedFields_singleton (fields : Fields) (p : Part String) (name : String) :
    (changedFields fields [p]).lookup name =
      if name = p.place then p.outcome.change.or (fields.lookup name) else fields.lookup name := by
  cases hchange : p.outcome.change with
  | none => simp [changedFields_singleton_of_none hchange]
  | some v =>
    rw [changedFields_singleton_of_some hchange]
    split
    · rename_i hname
      rw [hname, Fields.lookup_insert, Option.some_or]
    · rename_i hname
      exact Fields.lookup_insert_of_ne hname v fields

/-- A field that is no place of a part is left alone. -/
lemma lookup_changedFields_of_not_mem (h : name ∉ parts.map Part.place) :
    (changedFields fields parts).lookup name = fields.lookup name := by
  induction parts generalizing fields with
  | nil => rfl
  | cons p parts ih =>
    obtain ⟨hp, hparts⟩ := not_or.1 (mt List.mem_cons.2 h)
    rw [changedFields_cons, ih hparts, lookup_changedFields_singleton, if_neg hp]

/-- In the place of a part stands what it has become. -/
lemma lookup_changedFields_of_mem (hnodup : (parts.map Part.place).Nodup) (hp : p ∈ parts)
    (hplace : p.place = name) :
    (changedFields fields parts).lookup name = p.outcome.change.or (fields.lookup name) := by
  subst hplace
  induction parts generalizing fields with
  | nil => cases hp
  | cons q parts ih =>
    obtain ⟨hq, hnodup⟩ := List.nodup_cons.1 hnodup
    rw [changedFields_cons]
    rcases List.mem_cons.1 hp with rfl | hp
    · rw [lookup_changedFields_of_not_mem hq, lookup_changedFields_singleton, if_pos rfl]
    · have hne : p.place ≠ q.place := fun heq => hq (heq ▸ List.mem_map_of_mem hp)
      rw [ih hnodup hp, lookup_changedFields_singleton, if_neg hne]

/-- Where only fields that are there are changed, the keys stay. -/
lemma keys_changedFields (h : ∀ p ∈ parts, p.outcome.change ≠ none → p.place ∈ Fields.keys fields) :
    Fields.keys (changedFields fields parts) = Fields.keys fields := by
  induction parts generalizing fields with
  | nil => rfl
  | cons p parts ih =>
    obtain ⟨hp, hparts⟩ := List.forall_mem_cons.1 h
    have hkeys : Fields.keys (changedFields fields [p]) = Fields.keys fields := by
      cases hchange : p.outcome.change with
      | none => rw [changedFields_singleton_of_none hchange]
      | some v =>
        rw [changedFields_singleton_of_some hchange]
        exact Fields.keys_insert (hp (by simp [hchange])) v
    rw [changedFields_cons, ih (by rwa [hkeys]), hkeys]

end

/-! ## Arrays -/

/-- Items with their changed parts in their places. -/
def changedItems (items : List Value) (parts : List (Part Nat)) : List Value :=
  parts.foldl (fun items p => p.outcome.change.elim items fun v => items.set p.place v) items

section

variable {items : List Value} {parts : List (Part Nat)} {p : Part Nat} {i : Nat}

lemma changedItems_cons (items : List Value) (p : Part Nat) (parts : List (Part Nat)) :
    changedItems items (p :: parts) = changedItems (changedItems items [p]) parts :=
  rfl

lemma changedItems_singleton_of_none (h : p.outcome.change = none) :
    changedItems items [p] = items := by
  simp [changedItems, h]

lemma changedItems_singleton_of_some {v : Value} (h : p.outcome.change = some v) :
    changedItems items [p] = items.set p.place v := by
  simp [changedItems, h]

/-- An array with its changed parts, whether there are any or not. -/
lemma changeItems_getD (items : List Value) (parts : List (Part Nat)) :
    (changeItems items parts).getD (.array items) = .array (changedItems items parts) := by
  rw [changeItems]
  split
  · rename_i hnone
    rw [List.all_eq_true] at hnone
    have hsame : changedItems items parts = items := by
      induction parts with
      | nil => rfl
      | cons p parts ih =>
        have hp : p.outcome.change = none := Option.isNone_iff_eq_none.1 (hnone p (by simp))
        rw [changedItems_cons, changedItems_singleton_of_none hp]
        exact ih fun q hq => hnone q (by simp [hq])
    rw [hsame]
    rfl
  · rfl

lemma getElem?_changedItems_singleton (items : List Value) (p : Part Nat) (i : Nat) :
    (changedItems items [p])[i]? =
      if i = p.place then items[i]?.map p.outcome.result else items[i]? := by
  cases hchange : p.outcome.change with
  | none =>
    have hid : p.outcome.result = id := by
      funext v
      simp [Outcome.result, hchange]
    simp [changedItems_singleton_of_none hchange, hid]
  | some v =>
    have hconst : p.outcome.result = fun _ => v := by
      funext w
      simp [Outcome.result, hchange]
    rw [changedItems_singleton_of_some hchange, List.getElem?_set, hconst]
    simp only [eq_comm (a := p.place)]
    split
    · rename_i hi
      subst hi
      split
      · rename_i hlt
        rw [List.getElem?_eq_getElem hlt, Option.map_some]
      · rename_i hlt
        rw [List.getElem?_eq_none (Nat.not_lt.1 hlt), Option.map_none]
    · rfl

lemma length_changedItems (items : List Value) (parts : List (Part Nat)) :
    (changedItems items parts).length = items.length := by
  induction parts generalizing items with
  | nil => rfl
  | cons p parts ih =>
    rw [changedItems_cons, ih]
    cases hchange : p.outcome.change with
    | none => rw [changedItems_singleton_of_none hchange]
    | some v => rw [changedItems_singleton_of_some hchange, List.length_set]

/-- An item that is no place of a part is left alone. -/
lemma getElem?_changedItems_of_not_mem (h : i ∉ parts.map Part.place) :
    (changedItems items parts)[i]? = items[i]? := by
  induction parts generalizing items with
  | nil => rfl
  | cons p parts ih =>
    obtain ⟨hp, hparts⟩ := not_or.1 (mt List.mem_cons.2 h)
    rw [changedItems_cons, ih hparts, getElem?_changedItems_singleton, if_neg hp]

/-- In the place of a part stands what it has become. -/
lemma getElem?_changedItems_of_mem (hnodup : (parts.map Part.place).Nodup) (hp : p ∈ parts)
    (hplace : p.place = i) :
    (changedItems items parts)[i]? = items[i]?.map p.outcome.result := by
  subst hplace
  induction parts generalizing items with
  | nil => cases hp
  | cons q parts ih =>
    obtain ⟨hq, hnodup⟩ := List.nodup_cons.1 hnodup
    rw [changedItems_cons]
    rcases List.mem_cons.1 hp with rfl | hp
    · rw [getElem?_changedItems_of_not_mem hq, getElem?_changedItems_singleton, if_pos rfl]
    · have hne : p.place ≠ q.place := fun heq => hq (heq ▸ List.mem_map_of_mem hp)
      rw [ih hnodup hp, getElem?_changedItems_singleton, if_neg hne]

end

end Part

end ApiContract
