/-
# Reading queries

A query can be read exactly if it is empty or every piece between its ampersands has an `=`.  Each
piece is one field then, and no field is lost: under every key stand the values of its fields in the
order in which they arrive, and the keys stand in the order in which they come first.
-/
import ApiContract.Parameter.Query
import ApiContract.Proofs.Text.Percent
import ApiContract.Proofs.Value.Pairs
import ApiContract.Proofs.Walk.Result

namespace ApiContract

/-! ## Single fields -/

/-- The field that a text is in a form: its key is before the first `=`, and its value is after
it. -/
def fieldOf (cs : List Char) : String × String :=
  (String.ofList (Percent.decodeForm (cs.takeWhile (· ≠ '='))),
    String.ofList (Percent.decodeForm ((cs.dropWhile (· ≠ '=')).drop 1)))

/-- A piece with an `=` is a field: what it is up to its first ampersand. -/
lemma formField?_eq (piece : List Char) :
    formField? piece =
      if '=' ∈ piece then some (fieldOf (Text.firstPiece '&' piece)) else none := by
  by_cases hmem : '=' ∈ piece
  · rw [formField?, if_pos (by simpa using hmem), if_pos hmem, Percent.formPairs, List.head?_map,
      Text.head?_filter_split hmem (by decide), Option.map_some, Text.cut_getD]
    rfl
  · rw [formField?, if_neg (by simpa using hmem), if_neg hmem]

lemma formField?_eq_some {key value : List Char} (hkey : '=' ∉ key) (hampersand : '&' ∉ key)
    (hvalue : '&' ∉ value) : formField? (key ++ '=' :: value) =
      some (String.ofList (Percent.decodeForm key), String.ofList (Percent.decodeForm value)) := by
  have hcut := Text.cut_getD '=' (key ++ '=' :: value)
  rw [Text.cut_eq_some_iff.2 ⟨rfl, hkey⟩] at hcut
  obtain ⟨hbefore, hafter⟩ := Prod.mk.inj hcut.symm
  rw [formField?_eq, if_pos (by simp),
    Text.firstPiece_eq_self_iff.2 (by simp [hampersand, hvalue]), fieldOf, hbefore, hafter]

/-- A piece is a field exactly if it has an `=`. -/
lemma exists_formField?_iff {piece : List Char} :
    (∃ field, formField? piece = some field) ↔ '=' ∈ piece := by
  rw [formField?_eq]
  split <;> simp [*]

/-- A field as a form writes it. -/
def fieldText (field : String × String) : List Char :=
  Percent.encodeForm field.1.toList ++ '=' :: Percent.encodeForm field.2.toList

/-- A piece of a query spells a field: its key, an `=` and its value, in which the delimiters are
encoded. -/
def SpellsField (piece : List Char) (field : String × String) : Prop :=
  ∃ key value, piece = key ++ '=' :: value ∧ '=' ∉ key ∧ '&' ∉ key ∧ '&' ∉ value ∧
    Percent.FormSpells key field.1.toList ∧ Percent.FormSpells value field.2.toList

/-- A form writes fields in one of the spellings that they have. -/
lemma spellsField_fieldText (field : String × String) : SpellsField (fieldText field) field := by
  have hequals := Percent.not_mem_encodeForm (d := '=') rfl (by decide) (by decide) (by decide) rfl
  have hampersand :=
    Percent.not_mem_encodeForm (d := '&') rfl (by decide) (by decide) (by decide) rfl
  exact ⟨_, _, rfl, hequals _, hampersand _, hampersand _, Percent.formSpells_encodeForm _,
    Percent.formSpells_encodeForm _⟩

/-- A form reads the fields that are spelled in it. -/
lemma SpellsField.formField?_eq {piece : List Char} {field : String × String}
    (h : SpellsField piece field) : formField? piece = some field := by
  obtain ⟨key, value, rfl, hequals, hkey, hvalue, hspellsKey, hspellsValue⟩ := h
  rw [formField?_eq_some hequals hkey hvalue, hspellsKey.decodeForm_eq, hspellsValue.decodeForm_eq,
    String.ofList_toList, String.ofList_toList]

/-- A form reads the fields that it writes. -/
lemma formField?_fieldText (field : String × String) :
    formField? (fieldText field) = some field :=
  (spellsField_fieldText field).formField?_eq

lemma SpellsField.ampersand_not_mem {piece : List Char} {field : String × String}
    (h : SpellsField piece field) : '&' ∉ piece := by
  obtain ⟨key, value, rfl, -, hkey, hvalue, -, -⟩ := h
  simp [hkey, hvalue]

namespace Query

variable {name key value text : String} {pairs : List (String × String)} {query : Query}

/-! ## Adding fields -/

@[simp] lemma add_nil (key value : String) : add key value [] = [(key, [value])] := rfl

/-- A field is added to the values of its key, or else at the end. -/
@[simp] lemma add_cons (key value : String) (entry : String × List String) (query : Query) :
    add key value (entry :: query) =
      if entry.1 = key then (key, entry.2 ++ [value]) :: query
      else entry :: add key value query := by
  obtain ⟨k, values⟩ := entry
  by_cases hk : k = key
  · subst hk
    simp [add, Fields.insert]
  · simp [add, Fields.insert, hk, List.lookup_cons, beq_false_of_ne (Ne.symm hk)]

/-- The fields of a list, added one after another. -/
def collect (pairs : List (String × String)) (query : Query) : Query :=
  pairs.foldl (fun query (key, value) => query.add key value) query

lemma collect_append (pairs later : List (String × String)) (query : Query) :
    collect (pairs ++ later) query = collect later (collect pairs query) :=
  List.foldl_append

/-- The number of all values of a query. -/
def total (query : Query) : Nat :=
  (query.flatMap Prod.snd).length

lemma total_add (key value : String) (query : Query) :
    (query.add key value).total = query.total + 1 := by
  induction query with
  | nil => rfl
  | cons entry query ih =>
    rw [add_cons]
    split
    · simp only [total, List.flatMap_cons, List.length_append, List.length_singleton]
      omega
    · simp only [total, List.flatMap_cons, List.length_append] at ih ⊢
      omega

/-- No field is lost. -/
lemma total_collect (pairs : List (String × String)) (query : Query) :
    (collect pairs query).total = query.total + pairs.length := by
  induction pairs generalizing query with
  | nil => rfl
  | cons pair pairs ih =>
    rw [collect, List.foldl_cons, ← collect, ih, total_add, List.length_cons]
    omega

/-! ## The values of each key -/

/-- The values of the fields with a key. -/
def valuesOf (key : String) (pairs : List (String × String)) : List String :=
  (pairs.filter (·.1 = key)).map Prod.snd

lemma valuesOf_append (key : String) (pairs later : List (String × String)) :
    valuesOf key (pairs ++ later) = valuesOf key pairs ++ valuesOf key later := by
  simp [valuesOf]

lemma valuesOf_singleton (name key value : String) :
    valuesOf name [(key, value)] = if key = name then [value] else [] := by
  by_cases hkey : key = name <;> simp [valuesOf, hkey]

lemma valuesOf_eq_nil_iff : valuesOf key pairs = [] ↔ key ∉ pairs.map Prod.fst := by
  simp only [valuesOf, List.map_eq_nil_iff, List.filter_eq_nil_iff, decide_eq_true_eq, List.mem_map,
    not_exists, not_and]

/-- Fields by their keys: the keys in the order in which they come first, each with its values in
the order in which they arrive. -/
def grouped (pairs : List (String × String)) : Query :=
  (pairs.map Prod.fst).eraseDups.map fun key => (key, valuesOf key pairs)

lemma nodup_eraseDups (keys : List String) : keys.eraseDups.Nodup := by
  induction hn : keys.length using Nat.strong_induction_on generalizing keys with
  | _ n ih =>
    cases keys with
    | nil => simp
    | cons key keys =>
      rw [List.eraseDups_cons, List.nodup_cons, List.mem_eraseDups]
      refine ⟨by simp, ih _ ?_ _ rfl⟩
      have hle := List.length_filter_le (fun k => !k == key) keys
      rw [List.length_cons] at hn
      omega

lemma keys_grouped (pairs : List (String × String)) :
    Fields.keys (grouped pairs) = (pairs.map Prod.fst).eraseDups := by
  simp [Fields.keys, grouped, Function.comp_def]

/-- A field whose key is there is added to the values of the key, in its place. -/
lemma add_map_of_mem {keys : List String} {values : String → List String} (hnodup : keys.Nodup)
    (hkey : key ∈ keys) (value : String) :
    add key value (keys.map fun k => (k, values k)) =
      keys.map fun k => (k, values k ++ if key = k then [value] else []) := by
  induction keys with
  | nil => cases hkey
  | cons k keys ih =>
    obtain ⟨hk, hnodup⟩ := List.nodup_cons.1 hnodup
    rw [List.map_cons, add_cons, List.map_cons]
    by_cases hkk : k = key
    · subst hkk
      rw [if_pos rfl, if_pos rfl, List.cons.injEq, and_iff_right rfl, List.map_inj_left]
      intro k' hk'
      have hne : k ≠ k' := by
        rintro rfl
        exact hk hk'
      rw [if_neg hne, List.append_nil]
    · rw [if_neg hkk, if_neg (Ne.symm hkk), List.append_nil,
        ih hnodup ((List.mem_cons.1 hkey).resolve_left (Ne.symm hkk))]

/-- A field whose key is not there is added at the end. -/
lemma add_of_not_mem (hkey : key ∉ Fields.keys query) (value : String) :
    add key value query = query ++ [(key, [value])] := by
  rw [add, Fields.lookup_eq_none_iff_not_mem.2 hkey, Fields.insert_of_not_mem hkey]
  rfl

lemma grouped_append_singleton (pairs : List (String × String)) (key value : String) :
    grouped (pairs ++ [(key, value)]) = (grouped pairs).add key value := by
  have hvalues (k : String) : valuesOf k (pairs ++ [(key, value)]) =
      valuesOf k pairs ++ if key = k then [value] else [] := by
    rw [valuesOf_append, valuesOf_singleton]
  simp only [grouped, List.map_append, List.map_cons, List.map_nil, List.eraseDups_append, hvalues]
  by_cases hkey : key ∈ pairs.map Prod.fst
  · rw [show [key].removeAll (pairs.map Prod.fst) = [] by simpa [List.removeAll] using hkey,
      List.eraseDups_nil, List.map_nil, List.append_nil,
      add_map_of_mem (nodup_eraseDups _) (List.mem_eraseDups.2 hkey)]
  · have hdistinct : key ∉ (pairs.map Prod.fst).eraseDups := mt List.mem_eraseDups.1 hkey
    rw [show [key].removeAll (pairs.map Prod.fst) = [key] by simpa [List.removeAll] using hkey,
      show [key].eraseDups = [key] from rfl, List.map_singleton,
      add_of_not_mem (by simpa [Fields.keys, Function.comp_def] using hdistinct),
      if_pos rfl, valuesOf_eq_nil_iff.2 hkey, List.nil_append, List.append_left_inj,
      List.map_inj_left]
    intro k hk
    have hne : key ≠ k := by
      rintro rfl
      exact hdistinct hk
    rw [if_neg hne, List.append_nil]

/-- Fields with different keys stay apart. -/
lemma grouped_of_nodup (h : (Fields.keys pairs).Nodup) :
    grouped pairs = pairs.map fun (key, value) => (key, [value]) := by
  induction pairs using List.reverseRecOn with
  | nil => rfl
  | append_singleton pairs pair ih =>
    obtain ⟨key, value⟩ := pair
    rw [Fields.keys, List.map_append, List.nodup_append] at h
    obtain ⟨hnodup, -, hdisjoint⟩ := h
    have hkey : key ∉ Fields.keys pairs := fun hmem => hdisjoint key hmem key (by simp) rfl
    rw [grouped_append_singleton, ih hnodup, List.map_append,
      add_of_not_mem (by simpa [Fields.keys, Function.comp_def] using hkey)]
    rfl

/-- Fields that are added one after another come by their keys. -/
lemma collect_nil (pairs : List (String × String)) : collect pairs [] = grouped pairs := by
  induction pairs using List.reverseRecOn with
  | nil => rfl
  | append_singleton pairs pair ih =>
    rw [collect_append, ih, grouped_append_singleton]
    rfl

lemma lookup_grouped (key : String) (pairs : List (String × String)) :
    (grouped pairs).lookup key =
      if valuesOf key pairs = [] then none else some (valuesOf key pairs) := by
  by_cases hkey : key ∈ pairs.map Prod.fst
  · have hmem : (key, valuesOf key pairs) ∈ grouped pairs :=
      List.mem_map.2 ⟨key, List.mem_eraseDups.2 hkey, rfl⟩
    rw [if_neg (mt valuesOf_eq_nil_iff.1 (not_not.2 hkey))]
    exact Fields.lookup_of_mem (keys_grouped pairs ▸ nodup_eraseDups _) hmem
  · rw [if_pos (valuesOf_eq_nil_iff.2 hkey), Fields.lookup_eq_none_iff_not_mem, keys_grouped]
    exact mt List.mem_eraseDups.1 hkey

lemma ne_nil_of_mem_grouped {entry : String × List String} (h : entry ∈ grouped pairs) :
    entry.2 ≠ [] := by
  obtain ⟨key, hkey, rfl⟩ := List.mem_map.1 h
  exact mt valuesOf_eq_nil_iff.1 (not_not.2 (List.mem_eraseDups.1 hkey))

/-! ## Texts -/

/-- The pieces of a query between its ampersands; an empty query has none. -/
def pieces (text : String) : List (List Char) :=
  if text = "" then [] else Text.split '&' text.toList

lemma fields_eq_ok_iff {pieces : List (List Char)} :
    fields pieces = .ok pairs ↔
      List.Forall₂ (fun piece pair => formField? piece = some pair) pieces pairs := by
  induction pieces generalizing pairs with
  | nil => simp [fields, eq_comm]
  | cons piece pieces ih =>
    rw [fields, List.forall₂_cons_left_iff]
    cases hpiece : formField? piece with
    | none => simp
    | some pair =>
      dsimp only
      rw [Except.bind_eq_ok_iff]
      simp [ih, eq_comm, pure, Except.pure]

/-- Reading a query is reading its pieces as fields and adding these one after another. -/
lemma ofText_eq (text : String) :
    ofText text = (fields (pieces text)).map fun pairs => collect pairs [] := by
  rw [ofText, pieces]
  split
  · rfl
  · rfl

/-- A query that can be read holds the fields that its pieces are, by their keys. -/
theorem ofText_eq_ok_iff :
    ofText text = .ok query ↔
      ∃ pairs, List.Forall₂ (fun piece pair => formField? piece = some pair) (pieces text) pairs ∧
        query = grouped pairs := by
  rw [ofText_eq]
  change (fun pairs => collect pairs []) <$> fields (pieces text) = _ ↔ _
  rw [Except.map_eq_ok_iff]
  simp only [fields_eq_ok_iff, collect_nil, eq_comm (a := query)]

/-- The fields of a query with a key have some values, in the order in which they arrive. -/
def HasValues (text key : String) (values : List String) : Prop :=
  ∃ pairs, List.Forall₂ (fun piece pair => formField? piece = some pair) (pieces text) pairs ∧
    valuesOf key pairs = values

lemma HasValues.lookup_eq {values : List String} (h : HasValues text key values)
    (hne : values ≠ []) (hread : ofText text = .ok query) : query.lookup key = some values := by
  obtain ⟨pairs, hpairs, rfl⟩ := h
  obtain rfl : grouped pairs = query :=
    Except.ok.inj ((ofText_eq_ok_iff.2 ⟨pairs, hpairs, rfl⟩).symm.trans hread)
  rw [lookup_grouped, if_neg hne]

/-- Fields as a form writes them. -/
def formText (pairs : List (String × String)) : String :=
  String.ofList (Text.join '&' (pairs.map fieldText))

lemma pieces_formText (pairs : List (String × String)) :
    pieces (formText pairs) = pairs.map fieldText := by
  cases pairs with
  | nil => rfl
  | cons pair pairs =>
    have hsplit : Text.split '&' (formText (pair :: pairs)).toList =
        (pair :: pairs).map fieldText := by
      rw [formText, String.toList_ofList]
      refine Text.split_join_of_not_mem (by simp) fun piece hpiece => ?_
      obtain ⟨field, -, rfl⟩ := List.mem_map.1 hpiece
      exact (spellsField_fieldText field).ampersand_not_mem
    rw [pieces, if_neg, hsplit]
    intro hempty
    rw [hempty] at hsplit
    simp [Text.split, fieldText] at hsplit

/-- **Queries are read exactly.**  A query can be read exactly if it is empty or every piece between
its ampersands has an `=`.  What a form writes is read as the fields that were written, by their
keys.  Whatever is read has as many values as the query has pieces, and no key is without values. -/
theorem ofText_exact :
    (∀ text, (∃ query, ofText text = .ok query) ↔
      text = "" ∨ ∀ piece ∈ Text.split '&' text.toList, '=' ∈ piece) ∧
    (∀ pairs, ofText (formText pairs) = .ok (grouped pairs) ∧
      (grouped pairs).total = pairs.length ∧ ∀ entry ∈ grouped pairs, entry.2 ≠ []) ∧
    ∀ text query, ofText text = .ok query →
      query.total = (pieces text).length ∧ ∀ entry ∈ query, entry.2 ≠ [] := by
  have htotal (pairs : List (String × String)) : (grouped pairs).total = pairs.length := by
    rw [← collect_nil, total_collect]
    exact Nat.zero_add _
  refine ⟨fun text => ?_, fun pairs => ?_, fun text query hquery => ?_⟩
  · have hpieces : (∃ query, ofText text = .ok query) ↔ ∀ piece ∈ pieces text, '=' ∈ piece := by
      simp only [ofText_eq_ok_iff]
      constructor
      · rintro ⟨_, pairs, hpairs, -⟩ piece hpiece
        obtain ⟨field, -, hfield⟩ := exists_right_of_forall₂ hpairs hpiece
        exact exists_formField?_iff.1 ⟨field, hfield⟩
      · intro hall
        obtain ⟨pairs, hpairs⟩ := exists_forall₂ fun piece hpiece =>
          exists_formField?_iff.2 (hall piece hpiece)
        exact ⟨_, pairs, hpairs, rfl⟩
    rw [hpieces, pieces]
    split
    · simp [*]
    · simp [*]
  · refine ⟨ofText_eq_ok_iff.2 ⟨pairs, ?_, rfl⟩, htotal pairs, fun _ => ne_nil_of_mem_grouped⟩
    rw [pieces_formText, List.forall₂_map_left_iff, List.forall₂_same]
    exact fun field _ => formField?_fieldText field
  · obtain ⟨pairs, hpairs, rfl⟩ := ofText_eq_ok_iff.1 hquery
    exact ⟨(htotal pairs).trans hpairs.length_eq.symm, fun _ => ne_nil_of_mem_grouped⟩

end Query

end ApiContract
