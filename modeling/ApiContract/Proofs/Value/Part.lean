/-
# The values in a value

A value contains its items and the values of its fields, and through them further values.  Their
number bounds how far one can go into a value, and all references in it can be listed.
-/
import ApiContract.Schema.Validate
import Mathlib.Logic.Relation
import Mathlib.Tactic.Common

namespace ApiContract

lemma Fields.mem_of_lookup {α : Type} {key : String} {a : α} {entries : List (String × α)}
    (h : entries.lookup key = some a) : (key, a) ∈ entries := by
  obtain ⟨before, after, rfl, -⟩ := List.lookup_eq_some_iff.1 h
  simp

namespace Value

/-! ## Parts -/

/-- The values that a value is made of. -/
inductive PartOf : Value → Value → Prop
  /-- The items of an array. -/
  | item {w : Value} {items : List Value} : w ∈ items → PartOf w (.array items)
  /-- The values of the fields of an object. -/
  | field {name : String} {w : Value} {fields : List (String × Value)} :
      (name, w) ∈ fields → PartOf w (.object fields)

/-- A value and everything in it. -/
def Contains (v w : Value) : Prop :=
  Relation.ReflTransGen PartOf w v

lemma Contains.refl (v : Value) : v.Contains v :=
  Relation.ReflTransGen.refl

lemma Contains.trans {u v w : Value} (huv : u.Contains v) (hvw : v.Contains w) : u.Contains w :=
  Relation.ReflTransGen.trans hvw huv

lemma PartOf.contains {v w : Value} (h : PartOf w v) : v.Contains w :=
  Relation.ReflTransGen.single h

lemma partOf_of_lookup {name : String} {w : Value} {fields : Fields}
    (h : fields.lookup name = some w) : PartOf w (.object fields) :=
  .field (Fields.mem_of_lookup h)

lemma partOf_of_getElem? {i : Nat} {w : Value} {items : List Value}
    (h : items[i]? = some w) : PartOf w (.array items) :=
  .item (List.mem_of_getElem? h)

/-! ## Sizes -/

lemma size_pos (v : Value) : 0 < v.size := by
  cases v <;> simp only [size] <;> omega

lemma size_le_sizeItems {w : Value} {items : List Value} (h : w ∈ items) :
    w.size ≤ sizeItems items := by
  induction items with
  | nil => simp at h
  | cons v items ih =>
    rw [sizeItems]
    rcases List.mem_cons.1 h with rfl | h
    · omega
    · have hle := ih h
      omega

lemma size_le_sizeFields {name : String} {w : Value} {fields : Fields}
    (h : (name, w) ∈ fields) : w.size ≤ sizeFields fields := by
  induction fields with
  | nil => simp at h
  | cons field fields ih =>
    obtain ⟨name', v⟩ := field
    rw [sizeFields]
    rcases List.mem_cons.1 h with heq | h
    · obtain ⟨-, rfl⟩ := Prod.mk.inj heq
      omega
    · have hle := ih h
      omega

lemma PartOf.size_lt {v w : Value} (h : PartOf w v) : w.size < v.size := by
  cases h with
  | item hmem =>
    have hle := size_le_sizeItems hmem
    rw [size]
    omega
  | field hmem =>
    have hle := size_le_sizeFields hmem
    rw [size]
    omega

lemma Contains.size_le {v w : Value} (h : v.Contains w) : w.size ≤ v.size := by
  induction h with
  | refl => exact Nat.le_refl _
  | tail _ hpart ih => exact Nat.le_trans ih (Nat.le_of_lt hpart.size_lt)

/-! ## Links -/

/-- The text that a field links to: what it refers to, or the scope it opens. -/
def link (name : String) : Value → List String
  | string s => if name = Keyword.ref.name ∨ name = "id" then [s] else []
  | _ => []

mutual

/-- All texts that fields in a value link to. -/
def links : Value → List String
  | array items => linksOfItems items
  | object fields => linksOfFields fields
  | _ => []

/-- All texts that fields in some items link to. -/
def linksOfItems : List Value → List String
  | [] => []
  | v :: vs => links v ++ linksOfItems vs

/-- All texts that some fields, or fields in them, link to. -/
def linksOfFields : List (String × Value) → List String
  | [] => []
  | (name, v) :: fs => link name v ++ (links v ++ linksOfFields fs)

end

lemma length_link_le (name : String) (v : Value) : (link name v).length ≤ 1 := by
  unfold link
  split
  · split <;> simp
  · simp

mutual

lemma length_links_lt (v : Value) : v.links.length < v.size := by
  cases v with
  | array items =>
    have hle := length_linksOfItems_le items
    rw [links, size]
    omega
  | object fields =>
    have hle := length_linksOfFields_le fields
    rw [links, size]
    omega
  | null | bool | integer | number | string | date | dateTime | bytes | ip =>
    simp [links, size]

lemma length_linksOfItems_le (items : List Value) :
    (linksOfItems items).length ≤ sizeItems items := by
  cases items with
  | nil => simp [linksOfItems]
  | cons v items =>
    have hv := length_links_lt v
    have hitems := length_linksOfItems_le items
    rw [linksOfItems, sizeItems, List.length_append]
    omega

lemma length_linksOfFields_le (fields : List (String × Value)) :
    (linksOfFields fields).length ≤ sizeFields fields := by
  cases fields with
  | nil => simp [linksOfFields]
  | cons field fields =>
    obtain ⟨name, v⟩ := field
    have hlink := length_link_le name v
    have hv := length_links_lt v
    have hfields := length_linksOfFields_le fields
    rw [linksOfFields, sizeFields, List.length_append, List.length_append]
    omega

end

lemma links_subset_items {w : Value} {items : List Value} (h : w ∈ items) :
    w.links ⊆ linksOfItems items := by
  induction items with
  | nil => simp at h
  | cons v items ih =>
    rw [linksOfItems]
    rcases List.mem_cons.1 h with rfl | h
    · exact List.subset_append_left _ _
    · exact List.Subset.trans (ih h) (List.subset_append_right _ _)

lemma links_subset_fields {name : String} {w : Value} {fields : Fields}
    (h : (name, w) ∈ fields) : link name w ++ w.links ⊆ linksOfFields fields := by
  induction fields with
  | nil => simp at h
  | cons field fields ih =>
    obtain ⟨name', v⟩ := field
    rw [linksOfFields, ← List.append_assoc]
    rcases List.mem_cons.1 h with heq | h
    · obtain ⟨rfl, rfl⟩ := Prod.mk.inj heq
      exact List.subset_append_left _ _
    · exact List.Subset.trans (ih h) (List.subset_append_right _ _)

lemma PartOf.links_subset {v w : Value} (h : PartOf w v) : w.links ⊆ v.links := by
  cases h with
  | item hmem =>
    rw [Value.links]
    exact links_subset_items hmem
  | field hmem =>
    rw [Value.links]
    exact List.Subset.trans (List.subset_append_right _ _) (links_subset_fields hmem)

lemma Contains.links_subset {v w : Value} (h : v.Contains w) : w.links ⊆ v.links := by
  induction h with
  | refl => exact List.Subset.refl _
  | tail _ hpart ih => exact List.Subset.trans ih hpart.links_subset

/-- Every text that a field in a value links to is listed. -/
lemma mem_links {v : Value} {fields : Fields} {name text : String}
    (h : v.Contains (.object fields)) (hname : name = Keyword.ref.name ∨ name = "id")
    (hlookup : fields.lookup name = some (.string text)) : text ∈ v.links := by
  refine h.links_subset ?_
  rw [links]
  refine links_subset_fields (Fields.mem_of_lookup hlookup) ?_
  simp [link, hname]

/-! ## Paths -/

/-- A path leads from a value to one inside it: keys lead into objects, and indices lead into
arrays. -/
inductive Leads : List PathStep → Value → Value → Prop
  | here (v : Value) : Leads [] v v
  | key {name : String} {path : List PathStep} {u w : Value} {fields : Fields} :
      (name, u) ∈ fields → Leads path u w → Leads (.key name :: path) (.object fields) w
  | index {i : Nat} {path : List PathStep} {u w : Value} {items : List Value} :
      items[i]? = some u → Leads path u w → Leads (.index i :: path) (.array items) w

lemma Leads.append {path path' : List PathStep} {u v w : Value} (h : Leads path u v)
    (h' : Leads path' v w) : Leads (path ++ path') u w := by
  induction h with
  | here => exact h'
  | key hmem _ ih => exact .key hmem (ih h')
  | index hi _ ih => exact .index hi (ih h')

end Value

/-! ## Pointers -/

namespace Pointer

lemma step?_contains {part : List Char} {v w : Value} (h : step? part v = some w) :
    Value.PartOf w v := by
  unfold step? at h
  split at h
  · obtain ⟨i, -, hi⟩ := Option.bind_eq_some_iff.1 h
    exact Value.partOf_of_getElem? hi
  · exact Value.partOf_of_lookup h
  · simp at h

lemma walk?_contains {parts : List (List Char)} {v w : Value} (h : walk? parts v = some w) :
    v.Contains w := by
  induction parts generalizing v with
  | nil =>
    obtain rfl := Option.some.inj h
    exact Value.Contains.refl v
  | cons part parts ih =>
    rw [walk?] at h
    obtain ⟨u, hu, hw⟩ := Option.bind_eq_some_iff.1 h
    exact (step?_contains hu).contains.trans (ih hw)

/-- A pointer leads to a value inside the document. -/
lemma resolve?_contains {pointer : List Char} {document w : Value}
    (h : resolve? pointer document = some w) : document.Contains w := by
  rw [resolve?] at h
  split at h
  · obtain rfl := Option.some.inj h
    exact Value.Contains.refl _
  · obtain ⟨decoded, -, hw⟩ := Option.bind_eq_some_iff.1 h
    exact walk?_contains hw

end Pointer

end ApiContract
