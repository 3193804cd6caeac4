/-
# From encoded parts to their values

The parts of a value are encoded one by one before they are joined, so a comma in a part comes as
`%2C`.  What arrives is decoded as a whole before it is taken apart.  So a list arrives with its
elements exactly if no element has a comma.  The pairs of an object are decoded once more when they
have been taken apart, as fields of a form.  So an object arrives with its pairs exactly if its keys
and values mean themselves in a form.
-/
import ApiContract.Proofs.Exchange.Carriage
import ApiContract.Proofs.Parameter.TextList

namespace ApiContract

open Percent

/-! ## Encoded parts -/

/-- A list in a text: the elements are encoded, with commas between them. -/
def listText (elements : List String) : List Char :=
  Text.join ',' (elements.map fun element => encode element.toList)

/-- An object in a text: keys and values are encoded, with an `=` between them and commas between
the pairs. -/
def pairText (pairs : List (String × String)) : List Char :=
  Text.join ',' (pairs.map fun (key, value) => encode key.toList ++ '=' :: encode value.toList)

lemma spells_listText (elements : List String) :
    Spells (listText elements) (Text.join ',' (elements.map String.toList)) := by
  refine Spells.join (by decide) ?_
  rw [List.forall₂_map_left_iff, List.forall₂_map_right_iff, List.forall₂_same]
  exact fun element _ => spells_encode element.toList

lemma spells_pairText (pairs : List (String × String)) :
    Spells (pairText pairs)
      (Text.join ',' (pairs.map fun (key, value) => key.toList ++ '=' :: value.toList)) := by
  refine Spells.join (by decide) ?_
  rw [List.forall₂_map_left_iff, List.forall₂_map_right_iff, List.forall₂_same]
  rintro ⟨key, value⟩ -
  exact (spells_encode key.toList).append (.plain (by decide) (spells_encode value.toList))

/-- Nothing in an encoded list stands for a space in a form. -/
lemma plus_not_mem_listText (elements : List String) : '+' ∉ listText elements := by
  refine Text.not_mem_join (by decide) fun piece hpiece => ?_
  obtain ⟨element, -, rfl⟩ := List.mem_map.1 hpiece
  exact not_mem_encode rfl (by decide) (by decide) _

/-! ## Lists -/

/-- The elements of a list as they arrive: they have come apart at the commas inside of them. -/
def arriving (elements : List String) : List String :=
  elements.flatMap fun element => (Text.split ',' element.toList).map String.ofList

/-- The elements of a list arrive exactly if none of them has a comma. -/
lemma arriving_eq_self_iff {elements : List String} :
    arriving elements = elements ↔ ∀ element ∈ elements, ',' ∉ element.toList := by
  have hpieces : (arriving elements).map String.toList =
      (elements.map String.toList).flatMap (Text.split ',') := by
    simp [arriving, List.map_flatMap, List.flatMap_map, Function.comp_def]
  have hinjective : Function.Injective String.toList := fun _ _ => String.toList_injective
  rw [← (List.map_injective_iff.2 hinjective).eq_iff, hpieces, Text.flatMap_split_eq_self_iff]
  simp

/-- A text in which elements are joined is taken apart into what arrives of them. -/
lemma apply_splitList {elements : List String} (hne : elements ≠ []) :
    Strategy.splitList.apply (String.ofList (Text.join ',' (elements.map String.toList))) =
      .ok (.array ((arriving elements).map .string)) := by
  have hsplit : Text.split ',' (Text.join ',' (elements.map String.toList)) =
      (elements.map String.toList).flatMap (Text.split ',') :=
    Text.split_join ',' (by simpa using hne)
  simp [Strategy.apply, hsplit, arriving, List.map_flatMap, List.flatMap_map, Function.comp_def]

/-! ## Pairs -/

/-- The fields of an object as they arrive: each key and each value has been decoded once more, as
a text of a form. -/
def rereadFields (pairs : List (String × String)) : Fields :=
  pairs.map fun (key, value) => (String.ofList (decodeForm key.toList),
    .string (String.ofList (decodeForm value.toList)))

lemma ofList_decodeForm_eq_iff {s : String} :
    String.ofList (decodeForm s.toList) = s ↔ IsPlain s.toList := by
  rw [← decodeForm_eq_self_iff, ← String.toList_inj, String.toList_ofList]

/-- The pairs of an object arrive exactly if their keys and values are plain. -/
lemma rereadFields_eq_iff {pairs : List (String × String)} :
    rereadFields pairs = pairs.map (fun (key, value) => (key, .string value)) ↔
      ∀ pair ∈ pairs, IsPlain pair.1.toList ∧ IsPlain pair.2.toList := by
  rw [rereadFields, List.map_inj_left]
  refine forall₂_congr fun pair _ => ?_
  rw [Prod.mk.injEq, Value.string.injEq, ofList_decodeForm_eq_iff, ofList_decodeForm_eq_iff]

/-- Two keys may become one: then fewer fields arrive than pairs are sent. -/
lemma ofPairs_rereadFields_eq_iff {pairs : List (String × String)}
    (hdistinct : (Fields.keys pairs).Nodup) :
    Fields.ofPairs (rereadFields pairs) = pairs.map (fun (key, value) => (key, .string value)) ↔
      ∀ pair ∈ pairs, IsPlain pair.1.toList ∧ IsPlain pair.2.toList := by
  rw [← rereadFields_eq_iff]
  constructor
  · intro h
    have hlength : (Fields.ofPairs (rereadFields pairs)).length = (rereadFields pairs).length := by
      rw [h, rereadFields, List.length_map, List.length_map]
    rwa [Fields.ofPairs_of_nodup (Fields.length_ofPairs_eq_iff.1 hlength)] at h
  · intro h
    rw [h, Fields.ofPairs_of_nodup]
    simpa [Fields.keys, Function.comp_def] using hdistinct

/-- Characters that have a meaning between the parts of an object. -/
def isDelimiter (c : Char) : Prop :=
  c = ',' ∨ c = '=' ∨ c = '&'

lemma pairFields_eq_ok {pairs : List (String × String)}
    (hplain : ∀ pair ∈ pairs, ∀ c, isDelimiter c → c ∉ pair.1.toList ∧ c ∉ pair.2.toList) :
    Strategy.pairFields (pairs.map fun (key, value) => key.toList ++ '=' :: value.toList) =
      .ok (rereadFields pairs) := by
  induction pairs with
  | nil => rfl
  | cons pair pairs ih =>
    obtain ⟨key, value⟩ := pair
    obtain ⟨hpair, hrest⟩ := List.forall_mem_cons.1 hplain
    have hfield := formField?_eq_some (hpair '=' (by simp [isDelimiter])).1
      (hpair '&' (by simp [isDelimiter])).1 (hpair '&' (by simp [isDelimiter])).2
    rw [List.map_cons, Strategy.pairFields]
    dsimp only
    rw [hfield]
    dsimp only
    rw [ih hrest]
    rfl

/-- A text in which pairs are joined is taken apart into what arrives of them. -/
lemma apply_splitPairs {pairs : List (String × String)} (hne : pairs ≠ [])
    (hplain : ∀ pair ∈ pairs, ∀ c, isDelimiter c → c ∉ pair.1.toList ∧ c ∉ pair.2.toList) :
    Strategy.splitPairs.apply (String.ofList
        (Text.join ',' (pairs.map fun (key, value) => key.toList ++ '=' :: value.toList))) =
      .ok (.object (Fields.ofPairs (rereadFields pairs))) := by
  have hpieces : ∀ piece ∈ pairs.map (fun (key, value) => key.toList ++ '=' :: value.toList),
      ',' ∉ piece := by
    intro piece hpiece
    obtain ⟨pair, hpair, rfl⟩ := List.mem_map.1 hpiece
    obtain ⟨hkey, hvalue⟩ := hplain pair hpair ',' (Or.inl rfl)
    simp [hkey, hvalue]
  rw [Strategy.apply, String.toList_ofList,
    Text.split_join_of_not_mem (by simpa using hne) hpieces]
  dsimp only
  rw [pairFields_eq_ok hplain]
  rfl

namespace Parameter

variable {p : Parameter} {val : Validator} {schema : Value} {elements : List String}

lemma decode_of_apply {type text : String} {strategy : Strategy} {v : Value}
    (hchoose : Strategy.choose p.style p.explode type = .ok strategy)
    (happly : strategy.apply text = .ok v) : p.decode type (.string text) = .ok v := by
  simp [decode, hchoose, happly, Except.mapError, bind, Except.bind, pure, Except.pure]

/-- A list that is found as the text in which its elements are joined has the value that arrives. -/
lemma check_joined {source : Source} (hempty : p.allowsEmpty = false)
    (hsupported : p.style.isSupported = true)
    (hchoose : Strategy.choose p.style p.explode "array" = .ok .splitList)
    (hp : p.schema = some schema) (hschema : IsTextListSchema schema) (hne : elements ≠ [])
    (hfind : p.find val "array" source =
      .ok (.raw (.string (String.ofList (Text.join ',' (elements.map String.toList)))))) :
    p.check val source = .ok (some (.array ((arriving elements).map .string))) :=
  check_of_raw hempty hsupported (declaredType_textList hp hschema) hfind
    (decode_of_apply hchoose (apply_splitList hne)) (typed_textList hp hschema _)

/-- **Lists of texts in paths and queries.**  A list that is encoded into a path or a query arrives
with its elements taken apart at the commas inside of them, and so it is the list that was sent
exactly if no element has a comma. -/
theorem check_textList_iff (hnonempty : listText elements ≠ []) (hp : p.schema = some schema)
    (hschema : IsTextListSchema schema) (hempty : p.allowsEmpty = false) :
    (p.location = .path → p.style = .simple →
      ∀ (api : Api) (method : Method) (path : String) (op : Operation),
        api.Carries method path op p.name (listText elements) →
        ∃ parameters, api.find? method path = some (op, parameters) ∧
          ∀ query request, p.check api.validator ⟨parameters, query, request⟩ =
            .ok (some (.array ((arriving elements).map .string)))) ∧
    (p.location = .query → p.style = .form → p.explode = false →
      ∀ (val : Validator) (request : Request),
        Query.Carries request.query p.name (listText elements) →
        ∃ query, Operation.readQuery request = .ok query ∧
          ∀ parameters, p.check val ⟨parameters, query, request⟩ =
            .ok (some (.array ((arriving elements).map .string)))) ∧
    (arriving elements = elements ↔ ∀ element ∈ elements, ',' ∉ element.toList) := by
  have hne : elements ≠ [] := by
    rintro rfl
    exact hnonempty rfl
  refine ⟨?_, ?_, arriving_eq_self_iff⟩
  · intro hlocation hstyle api method path op hcarries
    obtain ⟨parameters, hfind, hlookup⟩ := Api.find?_of_carries hcarries
    refine ⟨parameters, hfind, fun query request => ?_⟩
    rw [Api.decodeParameter, (spells_listText elements).decode?_eq, Option.getD_some] at hlookup
    refine check_joined hempty (by rw [hstyle]; rfl) (by rw [hstyle]; rfl) hp hschema hne ?_
    simp [find, hlocation, hlookup, Found.ofRaw]
  · intro hlocation hstyle hexplode val request hcarries
    obtain ⟨query, values, hquery, hlookup⟩ := Query.ofText_of_carries hcarries
    refine ⟨query, by rw [Operation.readQuery, hquery], fun parameters => ?_⟩
    rw [(spells_listText elements).decodeForm_eq (plus_not_mem_listText elements)] at hlookup
    refine check_joined hempty (by rw [hstyle]; rfl) (by rw [hstyle, hexplode]; rfl) hp hschema
      hne ?_
    simp [find, findInQuery, hlocation, hstyle, hexplode, hlookup, Found.ofRaw]

/-- **Objects in paths.**  An object that is encoded into a path arrives with its keys and values
decoded once more, and so it is the object that was sent exactly if every key and every value means
itself in a form. -/
theorem decode_pairs_iff {pairs : List (String × String)} (hne : pairs ≠ [])
    (hdistinct : (Fields.keys pairs).Nodup)
    (hplain : ∀ pair ∈ pairs, ∀ c, isDelimiter c → c ∉ pair.1.toList ∧ c ∉ pair.2.toList)
    (hstyle : p.style = .simple) (hexplode : p.explode = true) {api : Api} {method : Method}
    {path : String} {op : Operation}
    (hcarries : api.Carries method path op p.name (pairText pairs)) :
    ∃ parameters raw, api.find? method path = some (op, parameters) ∧
      parameters.lookup p.name = some raw ∧
      p.decode "object" (.string raw) = .ok (.object (Fields.ofPairs (rereadFields pairs))) ∧
      (Fields.ofPairs (rereadFields pairs) =
          pairs.map (fun (key, value) => (key, .string value)) ↔
        ∀ pair ∈ pairs, IsPlain pair.1.toList ∧ IsPlain pair.2.toList) := by
  obtain ⟨parameters, hfind, hlookup⟩ := Api.find?_of_carries hcarries
  rw [Api.decodeParameter, (spells_pairText pairs).decode?_eq, Option.getD_some] at hlookup
  refine ⟨parameters, _, hfind, hlookup, ?_, ofPairs_rereadFields_eq_iff hdistinct⟩
  exact decode_of_apply (by rw [hstyle, hexplode]; rfl) (apply_splitPairs hne hplain)

/-! ### A parameter at the end of a path -/

namespace Items

/-- A parameter with a schema. -/
def parameter (location : Location) (style : Style) (explode : Bool) (schema : Fields) :
    Parameter :=
  ⟨"p", location, style, explode, true, false, some (.object schema)⟩

/-- The schema of lists of texts. -/
def texts : Fields :=
  [("type", .string "array"), ("items", .object [("type", .string "string")])]

/-- A list of texts that is not written apart. -/
def list (location : Location) (style : Style) : Parameter :=
  parameter location style false texts

/-- An object in the path. -/
def object : Parameter :=
  parameter .path .simple true [("type", .string "object")]

/-- An operation with a parameter. -/
def operation (p : Parameter) : Operation := ⟨[p], none, .empty⟩

/-- The template `/x/{p}`. -/
def template : RouteTemplate := ⟨[.char '/', .char 'x', .char '/', .parameter], ["p"]⟩

/-- An interface with one operation at one path. -/
def api (p : Parameter) : Api :=
  ⟨[⟨template, [(.get, operation p)]⟩], 1, {}, Dialect.oas3.alone⟩

/-- A path with a text at its end carries the text. -/
lemma carries (p : Parameter) {path : String} {text : List Char} (hne : text ≠ [])
    (hslash : '/' ∉ text) (hpath : path.toList = '/' :: 'x' :: '/' :: text) :
    (api p).Carries .get path (operation p) "p" text := by
  refine ⟨?_, _, List.mem_singleton_self _, Or.inl rfl, rfl, [text], ?_, by simp [template], ?_⟩
  · intro route hroute
    obtain rfl := List.mem_singleton.1 hroute
    have htidy : RouteTemplate.IsTidy template.parts := ⟨by decide, by decide⟩
    exact htidy
  · rw [hpath]
    simpa [template] using RouteTemplate.Fills.char (.char (.char (.parameter hne hslash .nil)))
  · simp [template]

end Items

open Items

/-- An object whose values have slashes and letters outside of ASCII arrives. -/
theorem plain_values_arrive :
    ∃ parameters raw,
      (api object).find? .get "/x/k=a%2Fb,l=%C3%BC" = some (operation object, parameters) ∧
      parameters.lookup "p" = some raw ∧
      object.decode "object" (.string raw) =
        .ok (.object [("k", .string "a/b"), ("l", .string "ü")]) := by
  have hplain : ∀ pair ∈ [("k", "a/b"), ("l", "ü")], ∀ c, isDelimiter c →
      c ∉ pair.1.toList ∧ c ∉ pair.2.toList := by
    rintro pair hpair c (rfl | rfl | rfl) <;> revert pair <;> decide
  have harrives : ∀ pair ∈ [("k", "a/b"), ("l", "ü")],
      IsPlain pair.1.toList ∧ IsPlain pair.2.toList := by
    simp only [← decodeForm_eq_self_iff]
    decide
  have hcarries : (api object).Carries .get "/x/k=a%2Fb,l=%C3%BC" (operation object) object.name
      (pairText [("k", "a/b"), ("l", "ü")]) := by
    rw [show pairText [("k", "a/b"), ("l", "ü")] = "k=a%2Fb,l=%C3%BC".toList by decide]
    exact carries object (by decide) (by decide) (by decide)
  obtain ⟨parameters, raw, hfind, hlookup, hdecode, hfields⟩ :=
    decode_pairs_iff (List.cons_ne_nil _ _) (by decide) hplain rfl rfl hcarries
  rw [hfields.2 harrives] at hdecode
  exact ⟨parameters, raw, hfind, hlookup, hdecode⟩

/-- **A plus becomes a space.**  The key and the value have no delimiters and are encoded once, but
the text that the path is decoded to is decoded again. -/
theorem plus_becomes_space :
    pairText [("k", "a+b")] = "k=a%2Bb".toList ∧
    ((api object).find? .get "/x/k=a%2Bb").bind (fun found => found.2.lookup "p") =
      some "k=a+b" ∧
    ((object.decode "object" (.string "k=a+b")).toOption.bind (·.get? "k")).bind Value.string? =
      some "a b" := by
  decide +kernel

/-- Lists whose elements have slashes arrive in a path and in a query. -/
theorem slashes_arrive :
    (∃ parameters,
      (api (list .path .simple)).find? .get "/x/a%2Fb,c" =
        some (operation (list .path .simple), parameters) ∧
      ∀ query request, (list .path .simple).check (api (list .path .simple)).validator
        ⟨parameters, query, request⟩ = .ok (some (.array [.string "a/b", .string "c"]))) ∧
    ∃ query, Operation.readQuery { query := "p=a%2Fb,c" } = .ok query ∧
      ∀ parameters, (list .query .form).check (api (list .query .form)).validator
        ⟨parameters, query, { query := "p=a%2Fb,c" }⟩ =
          .ok (some (.array [.string "a/b", .string "c"])) := by
  have hschema : IsTextListSchema (.object texts) :=
    ⟨texts, _, rfl, ⟨_, rfl, rfl⟩, rfl⟩
  have htext : listText ["a/b", "c"] = "a%2Fb,c".toList := by decide
  have harriving : arriving ["a/b", "c"] = ["a/b", "c"] := by decide
  have hpath : (api (list .path .simple)).Carries .get "/x/a%2Fb,c"
      (operation (list .path .simple)) (list .path .simple).name (listText ["a/b", "c"]) := by
    rw [htext]
    exact carries _ (by decide) (by decide) (by decide)
  have hquery : Query.Carries "p=a%2Fb,c" (list .query .form).name (listText ["a/b", "c"]) := by
    rw [htext]
    exact ⟨[], ['p'], [], by decide, by decide, by decide, by simp, by simp⟩
  have hnonempty : listText ["a/b", "c"] ≠ [] := by
    rw [htext]
    decide
  obtain ⟨hinPath, -, -⟩ := check_textList_iff (p := list .path .simple) hnonempty rfl hschema rfl
  obtain ⟨-, hinQuery, -⟩ := check_textList_iff (p := list .query .form) hnonempty rfl hschema rfl
  rw [harriving] at hinPath hinQuery
  exact ⟨hinPath rfl rfl _ _ _ _ hpath, hinQuery rfl rfl rfl _ { query := "p=a%2Fb,c" } hquery⟩

/-- **An encoded comma splits an element.**  The comma is encoded, but it is decoded before the
elements are taken apart, in a path as in a query. -/
theorem comma_splits_element :
    listText ["a,b"] = "a%2Cb".toList ∧
    ((api (list .path .simple)).find? .get "/x/a%2Cb").any (fun found =>
      ((list .path .simple).check (api (list .path .simple)).validator
        ⟨found.2, [], {}⟩).toOption.join.any fun v =>
          (v.array?.getD []).filterMap Value.string? = ["a", "b"]) ∧
    (Operation.readQuery { query := "p=a%2Cb" }).toOption.any (fun query =>
      ((list .query .form).check (api (list .query .form)).validator
        ⟨[], query, { query := "p=a%2Cb" }⟩).toOption.join.any fun v =>
          (v.array?.getD []).filterMap Value.string? = ["a", "b"]) := by
  decide +kernel

end Parameter

end ApiContract
