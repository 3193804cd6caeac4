/-
# Parameters that are lists of integers

A list of integers may be sent joined by commas in a path, in a header or in a query, or field by
field in a query.  It is found in different ways, but the same texts come out, and these are
converted one by one.  So the parameter has the integers that the texts denote, in order, however
they are sent, and it is invalid if one of them is out of range.
-/
import ApiContract.Proofs.Number.Decimal
import ApiContract.Proofs.Parameter.Transport
import ApiContract.Proofs.Schema.Coverage
import ApiContract.Proofs.Schema.Reach
import ApiContract.Proofs.Schema.References

namespace ApiContract

open Walk

variable {format : Option String} {texts : List String}

/-! ## Schemas -/

/-- A schema for integers: its only keywords are its type and its format, if it has one. -/
def IsIntegerSchema (format : Option String) (fields : Fields) : Prop :=
  Validator.keywordsOf fields = (.type, .string "integer") ::
    (format.map fun name => (Keyword.format, Value.string name)).toList

/-- A schema for lists: its only keywords are its type and the schema of its items. -/
def IsListSchema (item fields : Fields) : Prop :=
  OpensNoScope fields ∧
    Validator.keywordsOf fields = [(.type, .string "array"), (.items, .object item)]

/-- A schema in a scope is for lists of integers: it is a schema for lists, or references lead to
one, and the schema of its items is one for integers, or references lead to one. -/
inductive Store.ListsIntegers (store : Store) (format : Option String) (scope : String) :
    Value → Prop
  | intro {k j : Nat} {fields item : Fields} {list integer : Standpoint} :
      store.LeadsTo k ⟨scope, [], fields⟩ list → IsListSchema item list.fields →
      store.LeadsTo j ⟨list.scope, [], item⟩ integer → IsIntegerSchema format integer.fields →
      k + j < Validator.lookupDepth → ListsIntegers store format scope (.object fields)

namespace IsIntegerSchema

variable {fields : Fields}

lemma lookup_type (h : IsIntegerSchema format fields) :
    fields.lookup Keyword.type.name = some (.string "integer") :=
  Keyword.mem_keywordsOf.1 (by simp [show Validator.keywordsOf fields = _ from h])

lemma reference?_eq (h : IsIntegerSchema format fields) :
    Validator.reference? (.object fields) = none := by
  refine Coercion.reference?_eq_none (Validator.lookup_eq_none_of_not_mem ?_)
  rw [show Validator.keywordsOf fields = _ from h]
  cases format <;> simp

/-- The format that integers are converted with. -/
lemma format?_eq (h : IsIntegerSchema format fields) :
    ((Value.object fields).get? "format").bind Value.string? = format := by
  change (fields.lookup Keyword.format.name).bind Value.string? = format
  cases format with
  | none =>
    rw [Validator.lookup_eq_none_of_not_mem (by simp [show Validator.keywordsOf fields = _ from h])]
    rfl
  | some name =>
    have hlookup : fields.lookup Keyword.format.name = some (.string name) :=
      Keyword.mem_keywordsOf.1 (by simp [show Validator.keywordsOf fields = _ from h])
    rw [hlookup]
    rfl

end IsIntegerSchema

/-! ## Conversion -/

namespace Coercion

open Number (Denotes)

variable {val : Validator} {scope : String} {here : List String} {item fields : Fields} {n : Nat}

/-- An integer is outside of the range of a format: of 64 bits, or of 32 bits if the format says
so. -/
def IsOutside (format : Option String) (n : Int) : Prop :=
  n < Number.least64 ∨ Number.greatest64 < n ∨
    format = some "int32" ∧ (n < -2147483648 ∨ 2147483647 < n)

/-- A decimal is converted to the integer that it denotes, unless that is out of range.  The 128
bits that it is read with are enough to tell. -/
lemma integer_of_denotes {text : String} {n : Int} (h : Denotes text.toList n) :
    (¬ IsOutside format n → integer format text = .ok (.integer (Int64.ofInt n))) ∧
      (IsOutside format n → ∃ e, integer format text = .error e) := by
  have hwide : Int.pow 2 127 = 170141183460469231731687303715884105728 := by decide
  have hread : Number.readInteger 10 (-(Int.pow 2 127)) (Int.pow 2 127 - 1) text.toList = _ :=
    Number.readInteger_of_denotes (by decide) (by decide) h
  rw [integer, hread, IsOutside, Number.least64, Number.greatest64, hwide]
  by_cases hsmall : n < -170141183460469231731687303715884105728
  · rw [if_pos hsmall]
    exact ⟨fun hin => absurd (Or.inl (by omega)) hin, fun _ => ⟨_, rfl⟩⟩
  by_cases hlarge : 170141183460469231731687303715884105728 - 1 < n
  · rw [if_neg hsmall, if_pos hlarge]
    exact ⟨fun hin => absurd (Or.inr (Or.inl (by omega))) hin, fun _ => ⟨_, rfl⟩⟩
  rw [if_neg hsmall, if_neg hlarge]
  dsimp only
  by_cases hformat : format = some "int32"
  · simp only [if_pos hformat]
    refine ⟨fun hin => if_neg fun hout => hin (Or.inr (Or.inr ⟨hformat, hout⟩)),
      fun hout => ⟨_, if_pos ?_⟩⟩
    rcases hout with hout | hout | ⟨-, hout⟩ <;> omega
  · simp only [if_neg hformat]
    refine ⟨fun hin => if_neg (by tauto), fun hout => ⟨_, if_pos ?_⟩⟩
    tauto

lemma convert_integer (h : IsIntegerSchema format fields) (text : String) :
    (convert val (n + 1) (.object fields) (.string text)).resultAt scope here =
      integer format text := by
  rw [convert_of_type h.reference?_eq h.lookup_type]
  change (ofType.liftExcept (integer _ text)).resultAt scope here = _
  rw [h.format?_eq]
  cases integer format text <;> rfl

/-- A list of integers is converted integer by integer. -/
lemma coerced_integers {schema : Value}
    (h : val.store.ListsIntegers format val.store.baseUri schema) (texts : List String) :
    val.run (val.coerced schema (.array (texts.map .string))) =
      Value.array <$> texts.mapM (integer format) := by
  cases h with
  | @intro k j fields item list node hlist hlistSchema hitem hinteger hdepth =>
    obtain ⟨m, hm⟩ : ∃ m, Validator.lookupDepth + 1 = m + 1 + j + 1 + k :=
      ⟨Validator.lookupDepth - 1 - j - k, by omega⟩
    have hconvert (text : String) : (convert val (m + 1 + j) (.object item) (.string text)).resultAt
        list.scope [] = integer format text := by
      rw [(looksThrough_convert val _).resultAt_eq hitem, convert_integer hinteger]
    rw [run_eq_resultAt, Validator.coerced, hm, (looksThrough_convert val _).resultAt_eq hlist,
      convert_list hlistSchema.2, List.mapM_map]
    exact congrArg _ (congrArg (texts.mapM ·) (funext hconvert))

lemma not_isOutside_toInt (n : Int64) : ¬ IsOutside none n.toInt := by
  have hle := n.le_toInt
  have hlt := n.toInt_lt
  rw [IsOutside, Number.least64, Number.greatest64]
  simp only [reduceCtorEq, false_and, or_false]
  omega

/-- Decimals of 64-bit integers are converted to these. -/
lemma mapM_integer_eq_ok {ns : List Int64}
    (h : List.Forall₂ (fun text n => Denotes text.toList n.toInt) texts ns) :
    texts.mapM (integer none) = .ok (ns.map .integer) := by
  rw [Except.mapM_eq_ok_iff, List.forall₂_map_right_iff]
  refine h.imp fun text n hn => ?_
  rw [(integer_of_denotes hn).1 (not_isOutside_toInt n), Int64.ofInt_toInt]

/-- Decimals of which one is out of range are not converted, for a reason that is none of the
schema. -/
lemma mapM_integer_eq_error {ns : List Int}
    (h : List.Forall₂ (fun text n => Denotes text.toList n) texts ns)
    (houtside : ∃ n ∈ ns, IsOutside format n) :
    ∃ e, texts.mapM (integer format) = .error e ∧ ∀ error, e ≠ .schema error := by
  obtain ⟨n, hn, hnout⟩ := houtside
  obtain ⟨text, htext, hdenotes⟩ := exists_left_of_forall₂ h hn
  obtain ⟨_, herror⟩ := (integer_of_denotes hdenotes).2 hnout
  cases hmap : texts.mapM (integer format) with
  | ok vs =>
    obtain ⟨_, -, hok⟩ := exists_right_of_forall₂ (Except.mapM_eq_ok_iff.1 hmap) htext
    rw [herror] at hok
    cases hok
  | error e =>
    -- The error is the one of some text, which need not be the one that is out of range.
    obtain ⟨text', -, he⟩ := Except.exists_of_mapM_eq_error hmap
    refine ⟨e, rfl, ?_⟩
    rintro error rfl
    exact integer_isOwn format text' error he

end Coercion

/-! ## Validation -/

namespace Validator

variable {val : Validator}

/-- A list of integers is valid and stays as it is. -/
lemma validate_integers {schema : Value} (h : val.store.ListsIntegers none val.store.baseUri schema)
    (ns : List Int64) :
    ∃ out, val.validate (.array (ns.map .integer)) schema = .ok out ∧
      out.value = .array (ns.map .integer) := by
  cases h with
  | @intro k j fields item list node hlist hlistSchema hitem hinteger hdepth =>
    refine validate_of_silent ?_
    have hdeep : 2 ^ 8 ≤ val.visitDepth (.array (ns.map .integer)) (.object fields) :=
      Nat.pow_le_pow_left (by omega) 8
    rw [lookupDepth] at hdepth
    obtain ⟨m, hm⟩ : ∃ m, val.visitDepth (.array (ns.map .integer)) (.object fields) =
        m + 1 + j + 1 + k :=
      ⟨val.visitDepth (.array (ns.map .integer)) (.object fields) - 2 - j - k, by omega⟩
    rw [outcome, hm]
    refine visit_silent_of_leadsTo hlist (visit_list hlistSchema.2 fun v hv => ?_)
    obtain ⟨i, -, rfl⟩ := List.mem_map.1 hv
    rw [scopeInside_of_none hlistSchema.1]
    exact visit_silent_of_leadsTo hitem (visit_typed hinteger rfl rfl)

end Validator

/-! ## Ways of sending -/

namespace Parameter

open Number (Denotes)

variable {p : Parameter} {val : Validator} {source : Source} {schema : Value}

/-- Texts with commas between them. -/
def joined (texts : List String) : String :=
  String.ofList (Text.join ',' (texts.map String.toList))

/-- The ways in which a list is sent with a request: as one text in the path, in a header or in the
query, or field by field in the query. -/
inductive Sends (p : Parameter) (source : Source) (texts : List String) : Prop
  | path : p.location = .path → p.style = .simple →
      source.path.lookup p.name = some (joined texts) → Sends p source texts
  | header : p.location = .header → p.style = .simple →
      source.request.header? p.name = some (joined texts) → Sends p source texts
  | query : p.location = .query → p.style = .form → p.explode = false →
      Query.ofText source.request.query = .ok source.query →
      Query.HasValues source.request.query p.name [joined texts] → Sends p source texts
  | fields : p.location = .query → p.style = .form → p.explode = true →
      Query.ofText source.request.query = .ok source.query →
      Query.HasValues source.request.query p.name texts → Sends p source texts

lemma Sends.isSupported (h : p.Sends source texts) : p.style.isSupported = true := by
  cases h with
  | path _ hstyle => rw [hstyle]; rfl
  | header _ hstyle => rw [hstyle]; rfl
  | query _ hstyle => rw [hstyle]; rfl
  | fields _ hstyle => rw [hstyle]; rfl

/-- Texts without commas come apart as they have been joined. -/
lemma decode_joined (hne : texts ≠ []) (hcomma : ∀ text ∈ texts, ',' ∉ text.toList)
    (hchoose : Strategy.choose p.style p.explode "array" = .ok .splitList) :
    p.decode "array" (.string (joined texts)) = .ok (.array (texts.map .string)) := by
  refine decode_of_apply hchoose ?_
  rw [joined, apply_splitList hne, arriving_eq_self_iff.2 hcomma]

/-- However a list is sent, the same texts are found. -/
lemma Sends.found (h : p.Sends source texts) (val : Validator) (hne : texts ≠ [])
    (hcomma : ∀ text ∈ texts, ',' ∉ text.toList) :
    ∃ raw, p.find val "array" source = .ok (.raw raw) ∧
      p.decode "array" raw = .ok (.array (texts.map .string)) := by
  cases h with
  | path hlocation hstyle hlookup =>
    refine ⟨.string (joined texts), ?_, decode_joined hne hcomma (by rw [hstyle]; rfl)⟩
    simp [find, hlocation, hlookup, Found.ofRaw]
  | header hlocation hstyle hheader =>
    refine ⟨.string (joined texts), ?_, decode_joined hne hcomma (by rw [hstyle]; rfl)⟩
    simp [find, hlocation, hheader, Found.ofRaw]
  | query hlocation hstyle hexplode hread hvalues =>
    refine ⟨.string (joined texts), ?_,
      decode_joined hne hcomma (by rw [hstyle, hexplode]; rfl)⟩
    simp [find, findInQuery, hlocation, hstyle, hexplode,
      hvalues.lookup_eq (List.cons_ne_nil _ _) hread, Found.ofRaw]
  | fields hlocation hstyle hexplode hread hvalues =>
    refine ⟨.array (texts.map .string), ?_, rfl⟩
    simp [find, findInQuery, hlocation, hstyle, hexplode, hvalues.lookup_eq hne hread]

lemma declaredType_integers (hp : p.schema = some schema)
    (hschema : val.store.ListsIntegers format val.store.baseUri schema) :
    p.declaredType val = .ok "array" := by
  cases hschema with
  | @intro k _ fields _ list _ hlist hlistSchema _ _ hdepth =>
    obtain ⟨m, hm⟩ : ∃ m, Validator.lookupDepth + 1 = m + 1 + k :=
      ⟨Validator.lookupDepth - k, by omega⟩
    have htype : val.run (val.declaredType (.object fields)) = .ok "array" := by
      rw [run_eq_resultAt, Validator.declaredType, hm,
        (Coercion.looksThrough_typeOf val.store).resultAt_eq hlist,
        Coercion.typeOf_list hlistSchema.2, resultAt_pure]
    rw [declaredType, hp]
    dsimp only
    rw [htype]
    rfl

/-- However a list of integers is sent, its check is the conversion and validation of its texts. -/
lemma Sends.check_eq (h : p.Sends source texts) (hp : p.schema = some schema)
    (hempty : p.allowsEmpty = false)
    (hschema : val.store.ListsIntegers format val.store.baseUri schema) (hne : texts ≠ [])
    (hcomma : ∀ text ∈ texts, ',' ∉ text.toList) :
    p.check val source = (p.typed val (.array (texts.map .string))).map some := by
  obtain ⟨raw, hfind, hdecode⟩ := h.found val hne hcomma
  rw [Sought.check_of_raw ⟨hempty, h.isSupported, declaredType_integers hp hschema⟩ hfind, hdecode]
  rfl

lemma typed_integers (hp : p.schema = some schema)
    (hschema : val.store.ListsIntegers none val.store.baseUri schema) {ns : List Int64}
    (h : List.Forall₂ (fun text n => Denotes text.toList n.toInt) texts ns) :
    p.typed val (.array (texts.map .string)) = .ok (.array (ns.map .integer)) := by
  obtain ⟨out, hout, hvalue⟩ := val.validate_integers hschema ns
  refine (typed_eq_ok_iff hp).2 ⟨_, out, ?_, hout, hvalue⟩
  rw [Coercion.coerced_integers hschema, Coercion.mapM_integer_eq_ok h]
  rfl

lemma typed_isOutside (hp : p.schema = some schema)
    (hschema : val.store.ListsIntegers format val.store.baseUri schema) {ns : List Int}
    (h : List.Forall₂ (fun text n => Denotes text.toList n) texts ns)
    (houtside : ∃ n ∈ ns, Coercion.IsOutside format n) :
    ∃ violations, p.typed val (.array (texts.map .string)) = .error (.invalid violations) := by
  obtain ⟨e, he, hown⟩ := Coercion.mapM_integer_eq_error h houtside
  obtain ⟨violations, hviolations⟩ := (p.coercionFailure_eq e).resolve_right
    fun ⟨error, heq, _⟩ => hown error heq
  refine ⟨violations, ?_⟩
  rw [typed, hp]
  dsimp only
  rw [Coercion.coerced_integers hschema, he, ← hviolations]
  rfl

/-- **Every way of sending integers gives the same list.**  A list of integers that is sent with a
request, in a path, in a header or in a query, joined by commas or field by field, has the integers
that its texts denote as 64-bit integers, in order.  If one of them is out of range, then the
parameter is invalid, however the list is sent. -/
theorem check_integers (hp : p.schema = some schema) (hempty : p.allowsEmpty = false)
    (hschema : val.store.ListsIntegers format val.store.baseUri schema) (hne : texts ≠ [])
    (hsends : p.Sends source texts) :
    (format = none → ∀ ns : List Int64,
      List.Forall₂ (fun text n => Denotes text.toList n.toInt) texts ns →
      p.check val source = .ok (some (.array (ns.map .integer)))) ∧
    ∀ ns : List Int, List.Forall₂ (fun text n => Denotes text.toList n) texts ns →
      (∃ n ∈ ns, Coercion.IsOutside format n) →
      ∃ violations, p.check val source = .error (.invalid violations) := by
  have hcheck (hdenotes : ∀ text ∈ texts, ∃ n, Denotes text.toList n) :
      p.check val source = (p.typed val (.array (texts.map .string))).map some := by
    refine hsends.check_eq hp hempty hschema hne fun text htext => ?_
    obtain ⟨n, hn⟩ := hdenotes text htext
    exact hn.not_mem rfl (by decide) (by decide)
  constructor
  · rintro rfl ns hns
    have hdenotes : ∀ text ∈ texts, ∃ n, Denotes text.toList n := by
      intro text htext
      obtain ⟨n, -, hn⟩ := exists_right_of_forall₂ hns htext
      exact ⟨_, hn⟩
    rw [hcheck hdenotes, typed_integers hp hschema hns]
    rfl
  · intro ns hns houtside
    have hdenotes : ∀ text ∈ texts, ∃ n, Denotes text.toList n := by
      intro text htext
      obtain ⟨n, -, hn⟩ := exists_right_of_forall₂ hns htext
      exact ⟨_, hn⟩
    obtain ⟨violations, htyped⟩ := typed_isOutside hp hschema hns houtside
    refine ⟨violations, ?_⟩
    rw [hcheck hdenotes, htyped]
    rfl

/-! ### Both ends of the range -/

namespace Ids

/-- A schema that refers to another one. -/
def refer (name : String) : Fields := [("$ref", .string ("#/" ++ name))]

/-- A schema for lists whose items a reference leads to. -/
def listOf (name : String) : Fields :=
  [("type", .string "array"), ("items", .object (refer name))]

/-- A schema for integers. -/
def long : Fields := [("type", .string "integer")]

/-- A schema for integers of 32 bits. -/
def short : Fields := [("type", .string "integer"), ("format", .string "int32")]

/-- A document of schemas for integers and for lists of them. -/
def document : Value :=
  .object [("long", .object long), ("short", .object short), ("longs", .object (listOf "long")),
    ("shorts", .object (listOf "short"))]

/-- A validator with the document. -/
def validator : Validator := Dialect.oas3.validator (.ofRoot "" document)

/-- A parameter whose schema is a reference. -/
def parameter (location : Location) (style : Style) (explode : Bool) (schema : String) :
    Parameter :=
  ⟨"ids", location, style, explode, true, false, some (.object (refer schema))⟩

/-- A reference leads to the schema with its name, from every scope that its URL does not depend
on. -/
lemma jumps {scope name : String} (fields : Fields)
    (hjoin : Reference.join scope ("#/" ++ name) = "#/" ++ name)
    (hurl : Reference.normalize (String.ofList (Reference.document ("#/" ++ name))) = "")
    (hfound : Store.resolvePointer document (Reference.cutFragment ("#/" ++ name).toList).2 =
      .ok (.object fields)) :
    validator.store.Jumps ⟨scope, [], refer name⟩ ⟨"#/" ++ name, ["#/" ++ name], fields⟩ := by
  have htarget : validator.store.resolveUrl ("#/" ++ name) = .ok (.object fields) := by
    rw [Store.resolveUrl_eq, hurl]
    exact hfound
  have hjump : validator.store.Jumps ⟨scope, [], refer name⟩
      ⟨Reference.join scope ("#/" ++ name), ["#/" ++ name], fields⟩ :=
    .intro rfl rfl hjoin htarget (by simp)
  rwa [hjoin] at hjump

lemma longs : validator.store.ListsIntegers none "" (.object (refer "longs")) :=
  .intro (.jump (jumps (listOf "long") rfl (by decide) rfl) (.here _))
    ⟨rfl, rfl⟩ (.jump (jumps long (by decide) (by decide) rfl)
      (.here _)) rfl (by decide)

lemma shorts : validator.store.ListsIntegers (some "int32") "" (.object (refer "shorts")) :=
  .intro (.jump (jumps (listOf "short") rfl (by decide) rfl) (.here _))
    ⟨rfl, rfl⟩ (.jump (jumps short (by decide) (by decide) rfl)
      (.here _)) rfl (by decide)

/-- The text of the least integer. -/
def least : String := "-9223372036854775808"

/-- The text of the greatest integer. -/
def greatest : String := "9223372036854775807"

end Ids

open Ids in
/-- The ends of the range of 64 bits arrive joined in a path and apart in a query.  In a header, an
integer that is above the range of 32 bits is found invalid. -/
theorem both_ends_arrive :
    (parameter .path .simple true "longs").check validator
        ⟨[("ids", least ++ "," ++ greatest)], [], {}⟩ =
      .ok (some (.array [.integer Int64.minValue, .integer Int64.maxValue])) ∧
    (∃ query, Query.ofText ("ids=" ++ least ++ "&page=2&ids=" ++ greatest) = .ok query ∧
      (parameter .query .form true "longs").check validator
          ⟨[], query, { query := "ids=" ++ least ++ "&page=2&ids=" ++ greatest }⟩ =
        .ok (some (.array [.integer Int64.minValue, .integer Int64.maxValue]))) ∧
    ∃ violations, (parameter .header .simple false "shorts").check validator
        ⟨[], [], { headers := [("ids", "1,2147483648")] }⟩ = .error (.invalid violations) := by
  have hdenotes (text : String) (n : Int) (h : text.toList = Value.integerText n) :
      Denotes text.toList n := h ▸ Number.denotes_integerText n
  have hends : List.Forall₂ (fun text (n : Int64) => Denotes text.toList n.toInt)
      [least, greatest] [Int64.minValue, Int64.maxValue] :=
    .cons (hdenotes _ _ (by decide)) (.cons (hdenotes _ _ (by decide)) .nil)
  have hvalues : Query.HasValues ("ids=" ++ least ++ "&page=2&ids=" ++ greatest) "ids"
      [least, greatest] := by
    refine ⟨[("ids", least), ("page", "2"), ("ids", greatest)], ?_, by decide⟩
    rw [show Query.pieces ("ids=" ++ least ++ "&page=2&ids=" ++ greatest) =
      ["ids=-9223372036854775808".toList, "page=2".toList, "ids=9223372036854775807".toList] by
      decide]
    exact .cons (by decide) (.cons (by decide) (.cons (by decide) .nil))
  refine ⟨?_, ?_, ?_⟩
  · exact (check_integers rfl rfl longs (by simp) (.path rfl rfl (by decide))).1 rfl _ hends
  · obtain ⟨pairs, hpairs, -⟩ := id hvalues
    have hread := Query.ofText_eq_ok_iff.2 ⟨pairs, hpairs, rfl⟩
    refine ⟨_, hread, ?_⟩
    exact (check_integers rfl rfl longs (by simp) (.fields rfl rfl rfl hread hvalues)).1 rfl _ hends
  · have hsends : (parameter .header .simple false "shorts").Sends
        ⟨[], [], { headers := [("ids", "1,2147483648")] }⟩ ["1", "2147483648"] :=
      .header rfl rfl (by decide)
    refine (check_integers rfl rfl shorts (by simp) hsends).2 [1, 2147483648] ?_
      ⟨2147483648, by simp, ?_⟩
    · exact .cons (hdenotes _ _ (by decide)) (.cons (hdenotes _ _ (by decide)) .nil)
    · exact Or.inr (Or.inr ⟨rfl, by decide⟩)

end Parameter

end ApiContract
