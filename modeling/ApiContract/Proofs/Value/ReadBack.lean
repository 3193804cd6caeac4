/-
# Reading what has been written

A value is written as one text, however it is written, and this text is read as the value again.
Every piece of it is read on its own: an integer up to where it ends, a text up to its closing
quote, and the parts of an array or of an object one after the other.  So it is shown of each piece
what reading it leaves, whatever text comes after it.
-/
import ApiContract.Proofs.Text.Digits
import ApiContract.Proofs.Text.Utf8
import ApiContract.Proofs.Value.Pairs
import ApiContract.Value.Reader

namespace ApiContract

/-! ## Documents -/

namespace Value

/-- A value in the shapes of JSON, doubles apart: null, a truth value, an integer or a text, an
array of such values, or an object of such values that has each of its keys once. -/
inductive IsDocument : Value → Prop
  | null : IsDocument null
  | bool (b : Bool) : IsDocument (bool b)
  | integer (n : Int64) : IsDocument (integer n)
  | string (s : String) : IsDocument (string s)
  | array {items : List Value} : (∀ v ∈ items, IsDocument v) → IsDocument (array items)
  | object {fields : Fields} : (Fields.keys fields).Nodup →
      (∀ field ∈ fields, IsDocument field.2) → IsDocument (object fields)

mutual

/-- How deep arrays and objects are nested in a value. -/
def nesting : Value → Nat
  | array items => nestingOfItems items + 1
  | object fields => nestingOfFields fields + 1
  | _ => 0

/-- How deep arrays and objects are nested in some items. -/
def nestingOfItems : List Value → Nat
  | [] => 0
  | v :: vs => max (nesting v) (nestingOfItems vs)

/-- How deep arrays and objects are nested in some fields. -/
def nestingOfFields : List (String × Value) → Nat
  | [] => 0
  | (_, v) :: fs => max (nesting v) (nestingOfFields fs)

end

lemma plainItems_eq_map (items : List Value) : plainItems items = items.map plain := by
  induction items with
  | nil => rfl
  | cons v items ih => rw [plainItems, ih, List.map_cons]

lemma plainFields_eq_map (fields : Fields) :
    plainFields fields = fields.map fun field => (field.1, field.2.plain) := by
  induction fields with
  | nil => rfl
  | cons field fields ih => rw [plainFields, ih, List.map_cons]

/-- A document is in the shapes of JSON already. -/
lemma IsDocument.plain_eq {v : Value} (h : v.IsDocument) : v.plain = v := by
  induction h with
  | null | bool | integer | string => rfl
  | array _ ih =>
    rw [plain, plainItems_eq_map]
    exact congrArg Value.array ((List.map_congr_left ih).trans (List.map_id _))
  | object _ _ ih =>
    rw [plain, plainFields_eq_map]
    exact congrArg Value.object ((List.map_congr_left fun field hfield =>
      congrArg (field.1, ·) (ih field hfield)).trans (List.map_id _))

mutual

/-- Typed leaves are written as the texts that stand for them, and a double that is not finite as
null. -/
lemma written_plain (v : Value) : v.plain.written = v.written := by
  cases v with
  | array items => rw [plain, written, writtenItems_plain true items, ← written]
  | object fields => rw [plain, written, writtenFields_plain true fields, ← written]
  | number x =>
    rw [plain, written]
    split <;> simp [written, *]
  | date | dateTime | bytes | ip => simp [plain, written]
  | null | bool | integer | string => rfl

lemma writtenItems_plain (first : Bool) (items : List Value) :
    writtenItems first (plainItems items) = writtenItems first items := by
  cases items with
  | nil => rfl
  | cons v items =>
    rw [plainItems, writtenItems, written_plain v, writtenItems_plain false items, writtenItems]

lemma writtenFields_plain (first : Bool) (fields : List (String × Value)) :
    writtenFields first (plainFields fields) = writtenFields first fields := by
  cases fields with
  | nil => rfl
  | cons field fields =>
    obtain ⟨key, v⟩ := field
    rw [plainFields, writtenFields, written_plain v, writtenFields_plain false fields,
      writtenFields]

end

/-- **There is one text of a value**: it is sent as it is shown in messages. -/
lemma text_eq_serialized (v : Value) : v.text = v.serialized := by
  rw [text, serialized, written_plain, ← serialized]

end Value

namespace Json

open Number (AreDigits ofDigits)
open Value (escaped quoted integerText)

/-! ## Integers -/

/-- No number goes on with this text. -/
def MayFollow (rest : Input) : Prop :=
  ∀ c ∈ rest.head?, digit? c = none ∧ c ≠ some '.' ∧ isExponentMark c = false

lemma digit?_of_isDigit {c : Char} (h : c.isDigit = true) :
    digit? (some c) = some (c.toNat - '0'.toNat) :=
  Number.digitBelow?_of_isDigit h

/-- Digits before the point are taken up to their end as long as their number fits. -/
lemma takeDigits_append {ds : List Char} (hdigits : ∀ d ∈ ds, d.isDigit = true) {rest : Input}
    (hrest : MayFollow rest) (beyond e : Int) (a : Nat)
    (hfits : Nat.ofDigitChars 10 ds a ≤ Number.greatestUnsigned64.toNat) :
    takeDigits 0 beyond ⟨a, e, false⟩ (ds.map some ++ rest) =
      (⟨Nat.ofDigitChars 10 ds a, e, false⟩, rest) := by
  induction ds generalizing a with
  | nil =>
    cases rest with
    | nil => rfl
    | cons c rest =>
      rw [List.map_nil, List.nil_append, takeDigits, (hrest c rfl).1]
      rfl
  | cons d ds ih =>
    obtain ⟨hd, hdigits⟩ := List.forall_mem_cons.1 hdigits
    rw [Nat.ofDigitChars_cons] at hfits
    have hle := Nat.le_trans (Number.le_ofDigitChars ds _) hfits
    rw [List.map_cons, List.cons_append, takeDigits, digit?_of_isDigit hd, Nat.ofDigitChars_cons]
    dsimp only
    rw [Digits.push, if_neg Bool.false_ne_true, if_pos (by rwa [Nat.mul_comm]), Int.add_zero,
      Nat.mul_comm a 10]
    exact ih hdigits _ hfits

lemma readRest_eq {rest : Input} (hrest : MayFollow rest) (negative : Bool) (n : Nat) :
    readRest negative ⟨n, 0, false⟩ rest = .ok (whole negative n, rest) := by
  cases rest with
  | nil => rfl
  | cons c rest =>
    obtain ⟨-, hpoint, hmark⟩ := hrest c rfl
    simp [readRest, hpoint, hmark]

/-- A natural number is read from its digits. -/
lemma readNumber_decimalDigits {rest : Input} (hrest : MayFollow rest) (negative : Bool) {n : Nat}
    (hfits : n ≤ Number.greatestUnsigned64.toNat) :
    readNumber negative ((Text.decimalDigits n).map some ++ rest) =
      .ok (whole negative n, rest) := by
  rcases Nat.eq_zero_or_pos n with rfl | hpos
  · have hend : (rest.head?.bind digit?).isSome = false := by
      cases rest with
      | nil => rfl
      | cons c rest => simp [(hrest c rfl).1]
    change (if (rest.head?.bind digit?).isSome then _ else _) = _
    rw [hend, if_neg Bool.false_ne_true]
    exact readRest_eq hrest negative 0
  · obtain ⟨c, ds, hdigits⟩ := List.exists_cons_of_ne_nil (Number.areDigits_decimalDigits n).1
    have hall := (Number.areDigits_decimalDigits n).2
    have hvalue : Nat.ofDigitChars 10 (Text.decimalDigits n) 0 = n :=
      Number.ofDigits_decimalDigits n
    have hfirst := Text.head?_decimalDigits hpos
    rw [hdigits] at hall hvalue hfirst
    obtain ⟨hc, hds⟩ := List.forall_mem_cons.1 hall
    -- The first digit is not zero, so further ones may follow.
    obtain ⟨d, hd⟩ : ∃ d, c.toNat - '0'.toNat = d + 1 := by
      refine Nat.exists_eq_succ_of_ne_zero fun hzero => hfirst ?_
      have hbounds := Char.isDigit_iff_toNat.1 hc
      exact congrArg some (Char.toNat_inj.1 (by omega))
    rw [Nat.ofDigitChars_cons, Nat.mul_zero, Nat.zero_add, hd] at hvalue
    have htake := takeDigits_append hds hrest 1 0 (d + 1) (hvalue.symm ▸ hfits)
    rw [hvalue] at htake
    rw [hdigits, List.map_cons, List.cons_append, readNumber, digit?_of_isDigit hc, hd]
    change readRest negative (takeDigits 0 1 ⟨d + 1, 0, false⟩ (ds.map some ++ rest)).1
      (takeDigits 0 1 ⟨d + 1, 0, false⟩ (ds.map some ++ rest)).2 = _
    rw [htake]
    exact readRest_eq hrest negative n

/-- The absolute value of an integer of 64 bits and its sign make up the integer. -/
lemma whole_natAbs (n : Int64) : whole (n.toInt < 0) n.toInt.natAbs = .integer n := by
  have hle := n.le_toInt
  have hlt := n.toInt_lt
  have hof : Value.ofInt n.toInt = .integer n := by
    rw [Value.ofInt, if_pos (by simp only [Number.least64, Number.greatest64]; omega),
      Int64.ofInt_toInt]
  by_cases hneg : n.toInt < 0
  · have hnot : ¬ (n.toInt.natAbs = 0 ∨ (n.toInt.natAbs : Int) > -Number.least64) := by
      simp only [Number.least64]
      omega
    rw [whole, if_pos (by simpa using hneg), if_neg hnot,
      show -(n.toInt.natAbs : Int) = n.toInt by omega, hof]
  · rw [whole, if_neg (by simpa using hneg), show (n.toInt.natAbs : Int) = n.toInt by omega, hof]

/-! ## Texts -/

/-- Four digits of base sixteen are read as the number that they denote. -/
lemma readUnit_eq {a b c d : Char} {p q r s : Nat} (ha : Text.digit? a = some p)
    (hb : Text.digit? b = some q) (hc : Text.digit? c = some r) (hd : Text.digit? d = some s)
    (rest : Input) :
    readUnit (some a :: some b :: some c :: some d :: rest) =
      .ok (16 * (16 * (16 * p + q) + r) + s, rest) := by
  have hwidth : ¬ a.utf8Size + (b.utf8Size + (c.utf8Size + (d.utf8Size + 0))) < 4 := by
    have := a.utf8Size_pos
    have := b.utf8Size_pos
    have := c.utf8Size_pos
    have := d.utf8Size_pos
    omega
  rw [readUnit]
  simp only [List.take_succ_cons, List.take_zero, List.map_cons, List.map_nil, width,
    List.foldr_cons, List.foldr_nil, if_neg hwidth]
  simp [ha, hb, hc, hd]

/-- A control character is read from its code. -/
lemma readCode_hexDigits {c : Char} (h : c.toNat < 0x20) (rest : Input) :
    readCode ((Text.fill 4 (Text.hexDigits c.toNat)).map some ++ rest) = .ok (c, rest) := by
  have hfill : ∀ n < 0x20, Text.fill 4 (Text.hexDigits n) =
      ['0', '0', Nat.digitChar (n / 16), Nat.digitChar (n % 16)] := by decide
  have hunit := readUnit_eq (show Text.digit? '0' = some 0 by decide)
    (show Text.digit? '0' = some 0 by decide) (Text.digit?_digitChar (n := c.toNat / 16) (by omega))
    (Text.digit?_digitChar (n := c.toNat % 16) (by omega)) rest
  rw [show 16 * (16 * (16 * 0 + 0) + c.toNat / 16) + c.toNat % 16 = c.toNat by omega] at hunit
  rw [hfill _ h, readCode]
  simp only [List.map_cons, List.map_nil, List.cons_append, List.nil_append]
  rw [hunit]
  simp only [bind, Except.bind]
  rw [if_neg (by omega), if_pos (by omega), Char.ofNat_toNat]

/-- However a character stands inside quotes, it is read as itself. -/
lemma readString_escaped (c : Char) (n : Nat) (before rest : Input) :
    readString (n + 1) before ((escaped c).map some ++ rest) =
      readString n (some c :: before) rest := by
  unfold escaped
  split
  case h_8 =>
    split
    · rename_i hcontrol
      have hcode := readCode_hexDigits hcontrol rest
      simp [readString, hcode]
    · rename_i hcontrol
      simp [readString, hcontrol]
  all_goals rfl

/-- A text is read up to its closing quote. -/
lemma readString_quoted (cs : List Char) {n : Nat} (hn : cs.length < n) (before : List Char)
    (rest : Input) :
    readString n (before.map some) ((cs.flatMap escaped).map some ++ some '"' :: rest) =
      .ok (String.ofList (before.reverse ++ cs), rest) := by
  induction cs generalizing n before with
  | nil =>
    obtain ⟨n, rfl⟩ := Nat.exists_eq_succ_of_ne_zero (Nat.ne_of_gt hn)
    have hread : (before.map some).reverse.mapM id = some before.reverse := by
      rw [← List.map_reverse, List.mapM_map]
      exact (List.mapM_pure (m := Option) (f := fun c => c)).trans (by simp)
    simp [readString, hread]
  | cons c cs ih =>
    obtain ⟨n, rfl⟩ := Nat.exists_eq_succ_of_ne_zero (Nat.ne_of_gt (Nat.zero_lt_of_lt hn))
    have hrest := ih (Nat.lt_of_succ_lt_succ hn) (c :: before)
    rw [List.flatMap_cons, List.map_append, List.append_assoc, readString_escaped]
    simpa using hrest

/-! ## Values -/

lemma mayFollow_cons {c : Char} (h : c = ',' ∨ c = ']' ∨ c = '\x7d') (rest : Input) :
    MayFollow (some c :: rest) := by
  intro d hd
  obtain rfl := Option.some.inj hd
  rcases h with rfl | rfl | rfl <;> decide

lemma skip_cons {c : Option Char} (h : isBlank c = false) (rest : Input) :
    skip (c :: rest) = c :: rest :=
  List.dropWhile_cons_of_neg (by simp [h])

lemma readWord_append (v : Value) (word : List Char) (rest : Input) :
    readWord v word (word.map some ++ rest) = .ok (v, rest) := by
  induction word with
  | nil => rfl
  | cons w word ih =>
    rw [List.map_cons, List.cons_append, readWord, if_pos (by simp), ih]

/-- A value is read from where it is written, whatever follows. -/
def ReadsBack (v : Value) : Prop :=
  ∀ ⦃n depth : Nat⦄ ⦃rest : Input⦄, v.written.length ≤ n → v.nesting ≤ depth → MayFollow rest →
    readValue n depth (v.written.map some ++ rest) = .ok (v, rest)

lemma isBlank_of_isDigit {c : Char} (h : c.isDigit = true) : isBlank (some c) = false := by
  rw [← Bool.not_eq_true]
  intro hblank
  simp only [isBlank, Bool.or_eq_true, beq_iff_eq, Option.some.injEq] at hblank
  rcases hblank with ((rfl | rfl) | rfl) | rfl <;> exact absurd h (by decide)

/-- What a value is written with begins neither with white space nor with a closing bracket. -/
lemma exists_written_eq_cons {v : Value} (h : v.IsDocument) :
    ∃ c cs, v.written = c :: cs ∧ isBlank (some c) = false ∧ c ≠ ']' := by
  cases h with
  | null => exact ⟨_, _, rfl, by decide⟩
  | bool b => cases b <;> exact ⟨_, _, rfl, by decide⟩
  | string | array | object => exact ⟨_, _, rfl, by decide⟩
  | integer n =>
    rw [Value.written, integerText]
    split
    · exact ⟨_, _, rfl, by decide⟩
    · have hall := Number.areDigits_decimalDigits n.toInt.natAbs
      obtain ⟨c, cs, hdigits⟩ := List.exists_cons_of_ne_nil hall.1
      have hc : c.isDigit = true := hall.2 c (by simp [hdigits])
      refine ⟨c, cs, hdigits, isBlank_of_isDigit hc, ?_⟩
      rintro rfl
      exact absurd hc (by decide)

lemma readValue_of_isDigit {c : Char} (h : c.isDigit = true) (n depth : Nat) (rest : Input) :
    readValue (n + 1) depth (some c :: rest) = readNumber false (some c :: rest) := by
  rw [readValue, skip_cons (isBlank_of_isDigit h)]
  dsimp only
  split
  case h_8 =>
    rw [digit?_of_isDigit h]
    rfl
  all_goals
    rename_i heq
    obtain rfl := Option.some.inj heq
    exact absurd h (by decide)

lemma readsBack_integer (n : Int64) : ReadsBack (.integer n) := by
  intro fuel depth rest hlength _ hrest
  have hwhole := whole_natAbs n
  have hfits : n.toInt.natAbs ≤ Number.greatestUnsigned64.toNat := by
    have hle := n.le_toInt
    have hlt := n.toInt_lt
    rw [show Number.greatestUnsigned64.toNat = 18446744073709551615 from rfl]
    omega
  rw [Value.written, integerText] at hlength ⊢
  have hdigits := Number.areDigits_decimalDigits n.toInt.natAbs
  split
  · rename_i hneg
    rw [if_pos hneg] at hlength
    obtain ⟨fuel, rfl⟩ := Nat.exists_eq_succ_of_ne_zero (Nat.ne_of_gt (Nat.zero_lt_of_lt hlength))
    rw [decide_eq_true hneg] at hwhole
    rw [List.map_cons, List.cons_append, readValue,
      skip_cons (show isBlank (some '-') = false by decide)]
    exact (readNumber_decimalDigits hrest true hfits).trans (by rw [hwhole])
  · rename_i hneg
    rw [if_neg hneg] at hlength
    have hpos := List.length_pos_iff.2 hdigits.1
    obtain ⟨fuel, rfl⟩ :=
      Nat.exists_eq_succ_of_ne_zero (Nat.ne_of_gt (Nat.lt_of_lt_of_le hpos hlength))
    have hread := readNumber_decimalDigits hrest false hfits
    rw [decide_eq_false hneg] at hwhole
    obtain ⟨c, cs, heq⟩ := List.exists_cons_of_ne_nil hdigits.1
    have hc : c.isDigit = true := hdigits.2 c (by simp [heq])
    rw [heq, List.map_cons, List.cons_append] at hread ⊢
    rw [readValue_of_isDigit hc, hread, hwhole]

/-- A text in quotes is read up to its end. -/
lemma readString_of_quoted (cs : List Char) (rest : Input) :
    readString (((cs.flatMap escaped).map some ++ some '"' :: rest).length + 1) []
        ((cs.flatMap escaped).map some ++ some '"' :: rest) = .ok (String.ofList cs, rest) := by
  refine readString_quoted cs ?_ [] rest
  have hle : ∀ cs : List Char, cs.length ≤ (cs.flatMap escaped).length := by
    intro cs
    induction cs with
    | nil => simp
    | cons c cs ih =>
      have hc : 0 < (escaped c).length := by
        rw [List.length_pos_iff]
        unfold escaped
        split
        case h_8 => split <;> simp
        all_goals simp
      rw [List.flatMap_cons, List.length_append, List.length_cons]
      omega
  have hcs := hle cs
  simp only [List.length_append, List.length_map, List.length_cons]
  omega

lemma map_quoted_append (cs : List Char) (rest : Input) :
    (quoted cs).map some ++ rest =
      some '"' :: ((cs.flatMap escaped).map some ++ some '"' :: rest) := by
  simp [quoted]

lemma readsBack_string (s : String) : ReadsBack (.string s) := by
  intro fuel depth rest hlength _ hrest
  rw [Value.written] at hlength ⊢
  obtain ⟨fuel, rfl⟩ := Nat.exists_eq_succ_of_ne_zero (Nat.ne_of_gt (Nat.zero_lt_of_lt hlength))
  rw [map_quoted_append, readValue, skip_cons (show isBlank (some '"') = false by decide)]
  simp only [readString_of_quoted, Except.map, String.ofList_toList]

/-! ### Arrays -/

section

variable {n depth : Nat} {before : List Value} {c : Char} {v : Value} {input rest : Input}

lemma readValue_array (hdepth : depth ≠ 0) :
    readValue (n + 1) depth (some '[' :: rest) = readItems n (depth - 1) true [] rest := by
  simp [readValue, skip_cons (show isBlank (some '[') = false by decide), hdepth]

lemma readItems_end (n depth : Nat) (first : Bool) (before : List Value) (rest : Input) :
    readItems (n + 1) depth first before (some ']' :: rest) =
      .ok (.array before.reverse, rest) := by
  simp [readItems, skip_cons (show isBlank (some ']') = false by decide)]

/-- The first item begins at once. -/
lemma readItems_first (hblank : isBlank (some c) = false) (hbracket : c ≠ ']')
    (h : readValue n depth (some c :: input) = .ok (v, rest)) :
    readItems (n + 1) depth true before (some c :: input) =
      readItems n depth false (v :: before) rest := by
  simp [readItems, skip_cons hblank, hbracket, h]

/-- A further item begins after a comma. -/
lemma readItems_next (hblank : isBlank (some c) = false) (hbracket : c ≠ ']')
    (h : readValue n depth (some c :: input) = .ok (v, rest)) :
    readItems (n + 1) depth false before (some ',' :: some c :: input) =
      readItems n depth false (v :: before) rest := by
  simp [readItems, skip_cons (show isBlank (some ',') = false by decide), skip_cons hblank,
    hbracket, h]

end

/-- Items are read up to the closing bracket. -/
lemma readItems_written {items : List Value} (hdocument : ∀ v ∈ items, v.IsDocument)
    (hback : ∀ v ∈ items, ReadsBack v) {n : Nat} (depth : Nat) (first : Bool)
    (before : List Value) (rest : Input) (hlength : (Value.writtenItems first items).length < n)
    (hdepth : Value.nestingOfItems items ≤ depth) :
    readItems n depth first before
        ((Value.writtenItems first items).map some ++ some ']' :: rest) =
      .ok (.array (before.reverse ++ items), rest) := by
  induction items generalizing n first before with
  | nil =>
    obtain ⟨n, rfl⟩ := Nat.exists_eq_succ_of_ne_zero (Nat.ne_of_gt (Nat.zero_lt_of_lt hlength))
    rw [Value.writtenItems, List.map_nil, List.nil_append, readItems_end, List.append_nil]
  | cons v items ih =>
    obtain ⟨n, rfl⟩ := Nat.exists_eq_succ_of_ne_zero (Nat.ne_of_gt (Nat.zero_lt_of_lt hlength))
    obtain ⟨hv, hdocument⟩ := List.forall_mem_cons.1 hdocument
    obtain ⟨hvback, hback⟩ := List.forall_mem_cons.1 hback
    obtain ⟨c, cs, hc, hblank, hbracket⟩ := exists_written_eq_cons hv
    rw [Value.nestingOfItems, Nat.max_le] at hdepth
    rw [Value.writtenItems, List.length_append, List.length_append] at hlength
    have hpos : 0 < v.written.length := by simp [hc]
    -- After the item comes a comma or the closing bracket.
    have hfollow : MayFollow ((Value.writtenItems false items).map some ++ some ']' :: rest) := by
      cases items with
      | nil => exact mayFollow_cons (by decide) rest
      | cons => exact mayFollow_cons (by decide) _
    have hread := hvback (n := n) (by omega) hdepth.1 hfollow
    have hrest := ih hdocument hback (n := n) false (v :: before) (by omega) hdepth.2
    rw [List.reverse_cons, List.append_assoc, List.singleton_append] at hrest
    rw [hc, List.map_cons, List.cons_append] at hread
    rw [Value.writtenItems, hc, ← hrest]
    cases first with
    | true => simpa using readItems_first hblank hbracket hread
    | false => simpa using readItems_next hblank hbracket hread

/-! ### Objects -/

section

variable {n depth : Nat} {before : Fields} {key : String} {v : Value} {cs input rest : Input}

lemma readValue_object (hdepth : depth ≠ 0) :
    readValue (n + 1) depth (some '\x7b' :: rest) = readFields n (depth - 1) true [] rest := by
  simp [readValue, skip_cons (show isBlank (some '\x7b') = false by decide), hdepth]

lemma readFields_end (n depth : Nat) (first : Bool) (before : Fields) (rest : Input) :
    readFields (n + 1) depth first before (some '\x7d' :: rest) = .ok (.object before, rest) := by
  simp [readFields, skip_cons (show isBlank (some '\x7d') = false by decide)]

/-- The first field begins at once. -/
lemma readFields_first
    (hkey : readString (cs.length + 1) [] cs = .ok (key, some ':' :: input))
    (h : readValue n depth input = .ok (v, rest)) :
    readFields (n + 1) depth true before (some '"' :: cs) =
      readFields n depth false (Fields.insert key v before) rest := by
  simp [readFields, skip_cons (show isBlank (some '"') = false by decide), hkey,
    skip_cons (show isBlank (some ':') = false by decide), h]

/-- A further field begins after a comma. -/
lemma readFields_next
    (hkey : readString (cs.length + 1) [] cs = .ok (key, some ':' :: input))
    (h : readValue n depth input = .ok (v, rest)) :
    readFields (n + 1) depth false before (some ',' :: some '"' :: cs) =
      readFields n depth false (Fields.insert key v before) rest := by
  simp [readFields, skip_cons (show isBlank (some ',') = false by decide),
    skip_cons (show isBlank (some '"') = false by decide), hkey,
    skip_cons (show isBlank (some ':') = false by decide), h]

end

/-- Fields with different keys are read up to the closing brace. -/
lemma readFields_written {fields : Fields} (hback : ∀ field ∈ fields, ReadsBack field.2)
    {n : Nat} (depth : Nat) (first : Bool) (before : Fields) (rest : Input)
    (hnodup : (Fields.keys (before ++ fields)).Nodup)
    (hlength : (Value.writtenFields first fields).length < n)
    (hdepth : Value.nestingOfFields fields ≤ depth) :
    readFields n depth first before
        ((Value.writtenFields first fields).map some ++ some '\x7d' :: rest) =
      .ok (.object (before ++ fields), rest) := by
  induction fields generalizing n first before with
  | nil =>
    obtain ⟨n, rfl⟩ := Nat.exists_eq_succ_of_ne_zero (Nat.ne_of_gt (Nat.zero_lt_of_lt hlength))
    rw [Value.writtenFields, List.map_nil, List.nil_append, readFields_end, List.append_nil]
  | cons field fields ih =>
    obtain ⟨key, v⟩ := field
    obtain ⟨n, rfl⟩ := Nat.exists_eq_succ_of_ne_zero (Nat.ne_of_gt (Nat.zero_lt_of_lt hlength))
    obtain ⟨hvback, hback⟩ := List.forall_mem_cons.1 hback
    rw [Value.nestingOfFields, Nat.max_le] at hdepth
    rw [Value.writtenFields] at hlength
    simp only [List.length_append, List.length_cons] at hlength
    -- After the field comes a comma or the closing brace.
    have hfollow :
        MayFollow ((Value.writtenFields false fields).map some ++ some '\x7d' :: rest) := by
      cases fields with
      | nil => exact mayFollow_cons (by decide) rest
      | cons => exact mayFollow_cons (by decide) _
    have hread := hvback (n := n) (show v.written.length ≤ n by omega) hdepth.1 hfollow
    have hkey := readString_of_quoted key.toList
      (some ':' :: (v.written.map some ++
        ((Value.writtenFields false fields).map some ++ some '\x7d' :: rest)))
    rw [String.ofList_toList] at hkey
    -- The key is new, so the field comes last.
    have hnew : key ∉ Fields.keys before := by
      rw [Fields.keys, List.map_append, List.nodup_append] at hnodup
      exact fun hmem => hnodup.2.2 key hmem key List.mem_cons_self rfl
    have hrest := ih hback (n := n) false (before ++ [(key, v)]) (by rwa [List.append_assoc])
      (by omega) hdepth.2
    rw [List.append_assoc, List.singleton_append, ← Fields.insert_of_not_mem hnew v] at hrest
    rw [Value.writtenFields, ← hrest]
    cases first with
    | true =>
      rw [← readFields_first hkey hread, ← map_quoted_append]
      simp
    | false =>
      rw [← readFields_next hkey hread, ← map_quoted_append]
      simp

/-! ### Documents -/

/-- Documents are read from where they are written. -/
lemma readsBack_of_isDocument {v : Value} (h : v.IsDocument) : ReadsBack v := by
  induction h with
  | null =>
    intro n depth rest hlength _ _
    obtain ⟨n, rfl⟩ := Nat.exists_eq_succ_of_ne_zero (Nat.ne_of_gt (Nat.zero_lt_of_lt hlength))
    exact readWord_append .null ['u', 'l', 'l'] rest
  | bool b =>
    intro n depth rest hlength _ _
    cases b with
    | true =>
      obtain ⟨n, rfl⟩ := Nat.exists_eq_succ_of_ne_zero (Nat.ne_of_gt (Nat.zero_lt_of_lt hlength))
      exact readWord_append (.bool true) ['r', 'u', 'e'] rest
    | false =>
      obtain ⟨n, rfl⟩ := Nat.exists_eq_succ_of_ne_zero (Nat.ne_of_gt (Nat.zero_lt_of_lt hlength))
      exact readWord_append (.bool false) ['a', 'l', 's', 'e'] rest
  | integer n => exact readsBack_integer n
  | string s => exact readsBack_string s
  | @array items hitems ih =>
    intro n depth rest hlength hdepth hrest
    rw [Value.nesting] at hdepth
    rw [Value.written] at hlength ⊢
    simp only [List.length_cons, List.length_append, List.length_nil] at hlength
    obtain ⟨n, rfl⟩ := Nat.exists_eq_succ_of_ne_zero (show n ≠ 0 by omega)
    have hread := readItems_written hitems ih (n := n) (depth - 1) true [] rest (by omega)
      (by omega)
    rw [List.map_cons, List.map_append, List.cons_append, List.append_assoc,
      readValue_array (by omega)]
    exact hread
  | @object fields hnodup _ ih =>
    intro n depth rest hlength hdepth hrest
    rw [Value.nesting] at hdepth
    rw [Value.written] at hlength ⊢
    simp only [List.length_cons, List.length_append, List.length_nil] at hlength
    obtain ⟨n, rfl⟩ := Nat.exists_eq_succ_of_ne_zero (show n ≠ 0 by omega)
    have hread := readFields_written ih (n := n) (depth - 1) true [] rest hnodup (by omega)
      (by omega)
    rw [List.map_cons, List.map_append, List.cons_append, List.append_assoc,
      readValue_object (by omega)]
    exact hread

/-- A text that is a document and nothing else is read as this document. -/
lemma read_written {v : Value} (h : v.IsDocument) (hdepth : v.nesting ≤ 127) :
    read (v.written.map some) = .ok v := by
  have hlength : v.written.length ≤ 2 * (v.written.map some).length + 2 := by
    rw [List.length_map]
    omega
  have hend : MayFollow [] := by simp [MayFollow]
  have hread := readsBack_of_isDocument h hlength hdepth hend
  rw [List.append_nil] at hread
  rw [read, hread]
  rfl

/-- What a document is sent as is read as this document. -/
lemma ofText_serialized {v : Value} (h : v.IsDocument) (hdepth : v.nesting ≤ 127) :
    ofText v.serialized = .ok v := by
  rw [ofText, Value.serialized, String.toList_ofList]
  exact read_written h hdepth

end Json

namespace Value

/-- **What is written is read back.**  A document in which arrays and objects are nested at most 127
deep is read from its text, and from the bytes of its text, as the same value: everything has the
same kind and all keys have the same order.  The text that is sent is the text shown in messages. -/
theorem ofText_text {v : Value} (h : v.IsDocument) (hdepth : v.nesting ≤ 127) :
    Json.ofText v.text = .ok v ∧ Json.ofBytes (Utf8.encode v.text.toList) = .ok v ∧
      v.serialized = v.text := by
  rw [text_eq_serialized, Json.ofBytes, Utf8.scan_encode]
  exact ⟨Json.ofText_serialized h hdepth, Json.ofText_serialized h hdepth, rfl⟩

namespace Letter

/-- A value with escapes in keys and texts, both ends of the integers, and empty containers. -/
def sent : Value := object [
  ("to \"Ada\"", array [integer Int64.minValue, integer Int64.maxValue, array []]),
  ("\\\x01", string "a\tb\n\x1fé/😀\x7f"),
  ("", object [("b", null), ("a", bool true)])]

/-- How it is written. -/
def text : String :=
  "\x7b\"to \\\"Ada\\\"\":[-9223372036854775808,9223372036854775807,[]]," ++
  "\"\\\\\\u0001\":\"a\\tb\\n\\u001fé/😀\x7f\",\"\":\x7b\"b\":null,\"a\":true\x7d\x7d"

lemma isDocument_sent : sent.IsDocument := by
  refine .object (by decide) (List.forall_mem_cons.2 ⟨.array ?_, List.forall_mem_cons.2
    ⟨.string _, List.forall_mem_singleton.2 (.object (by decide) ?_)⟩⟩)
  · exact List.forall_mem_cons.2 ⟨.integer _, List.forall_mem_cons.2
      ⟨.integer _, List.forall_mem_singleton.2 (.array (by simp))⟩⟩
  · exact List.forall_mem_cons.2 ⟨.null, List.forall_mem_singleton.2 (.bool true)⟩

end Letter

/-- The letter is written with its escapes, and it is read from there with its keys in order. -/
theorem letter_is_read_back :
    Letter.sent.IsDocument ∧ Letter.sent.nesting ≤ 127 ∧ Letter.sent.text = Letter.text ∧
      Json.ofText Letter.text = .ok Letter.sent ∧
      Json.ofBytes (Utf8.encode Letter.text.toList) = .ok Letter.sent ∧
      Letter.sent.serialized = Letter.text := by
  have hdepth : Letter.sent.nesting ≤ 127 := by decide
  have htext : Letter.sent.text = Letter.text := by decide
  rw [← htext]
  exact ⟨Letter.isDocument_sent, hdepth, rfl, ofText_text Letter.isDocument_sent hdepth⟩

end Value

end ApiContract
