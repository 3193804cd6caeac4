/-
# The declaration that a response is judged by

Responses are declared one after another, under texts that are keys for a status, for the
statuses of a hundred or for all others.  An attempt may fail, because the text is no key or the
declaration is broken, and then nothing is declared.

Whatever has been attempted before, a response is judged by the latest declaration for exactly
its status; if there is none, by the latest one for its hundred; if there is none either, by the
latest default.  Keys are read more generously than they are meant to be written: two digits may
follow a plus sign.
-/
import ApiContract.Exchange.Responses
import ApiContract.Proofs.Number.Decimal
import Mathlib.Data.List.Induction

namespace ApiContract

/-! ## Keys -/

lemma toUpper_eq_x_iff {c : Char} : c.toUpper = 'X' ↔ c = 'x' ∨ c = 'X' := by
  constructor
  · intro h
    unfold Char.toUpper at h
    split at h
    · have hval : c.val + ('A'.val - 'a'.val) = 'x'.val + ('A'.val - 'a'.val) :=
        (congrArg Char.val h).trans (by decide)
      exact Or.inl (Char.ext ((UInt32.add_left_inj _).1 hval))
    · exact Or.inr h
  · rintro (rfl | rfl) <;> rfl

namespace StatusKey

variable {cs : List Char} {key key' : StatusKey} {text : String}

/-- The keys as they are meant to be written: `default`, a digit from one to five and two letters
`x` in any case, or three digits. -/
inductive Spells : List Char → StatusKey → Prop
  | default : Spells "default".toList .default
  | hundred {d x y : Char} :
      '1' ≤ d ∧ d ≤ '5' → x = 'x' ∨ x = 'X' → y = 'x' ∨ y = 'X' →
      Spells [d, x, y] (.hundred (Number.ofDigits [d]))
  | code {a b c : Char} :
      a.isDigit → b.isDigit → c.isDigit → Spells [a, b, c] (.code (Number.ofDigits [a, b, c]))

/-- A number of two digits after a plus sign. -/
inductive SpellsSigned : List Char → StatusKey → Prop
  | code {b c : Char} :
      b.isDigit → c.isDigit → SpellsSigned ['+', b, c] (.code (Number.ofDigits [b, c]))

/-- The keys as they are read. -/
def Denotes (cs : List Char) (key : StatusKey) : Prop :=
  Spells cs key ∨ SpellsSigned cs key

/-- Three characters are read as a number if they are digits, or two digits after a plus sign. -/
lemma readUnsigned16?_three_iff {a b c : Char} {n : Nat} :
    Number.readUnsigned16? [a, b, c] = some n ↔
      (a.isDigit ∧ b.isDigit ∧ c.isDigit ∧ n = Number.ofDigits [a, b, c]) ∨
        (a = '+' ∧ b.isDigit ∧ c.isDigit ∧ n = Number.ofDigits [b, c]) := by
  have hsmall {a b c : Char} (ha : a.isDigit) (hb : b.isDigit) (hc : c.isDigit) :
      Number.ofDigits [a, b, c] ≤ 65535 := by
    rw [Char.isDigit_iff_toNat] at ha hb hc
    simp only [Number.ofDigits, List.foldl_cons, List.foldl_nil]
    have h9 : '9'.toNat = 57 := rfl
    have h0 : '0'.toNat = 48 := rfl
    omega
  rw [Number.readUnsigned16?_eq_some_iff]
  constructor
  · rintro ⟨ds, rfl | hds, hdigits, rfl, -⟩
    · simp only [Number.AreDigits, List.forall_mem_cons] at hdigits
      exact Or.inl ⟨hdigits.2.1, hdigits.2.2.1, hdigits.2.2.2.1, rfl⟩
    · obtain ⟨rfl, rfl⟩ := List.cons.inj hds
      simp only [Number.AreDigits, List.forall_mem_cons] at hdigits
      exact Or.inr ⟨rfl, hdigits.2.1, hdigits.2.2.1, rfl⟩
  · rintro (⟨ha, hb, hc, rfl⟩ | ⟨rfl, hb, hc, rfl⟩)
    · exact ⟨_, Or.inl rfl, by simp [Number.AreDigits, ha, hb, hc], rfl, hsmall ha hb hc⟩
    · have hle : Number.ofDigits [b, c] ≤ 65535 := hsmall (a := '0') rfl hb hc
      exact ⟨_, Or.inr rfl, by simp [Number.AreDigits, hb, hc], rfl, hle⟩

/-- A text is read as the key that it denotes. -/
lemma ofText?_eq_some_iff : ofText? text = some key ↔ Denotes text.toList key := by
  unfold ofText?
  constructor
  · intro h
    split at h
    · rename_i hdefault
      subst hdefault
      obtain rfl := Option.some.inj h
      exact Or.inl .default
    · split at h
      · rename_i a b c hchars
        rw [hchars]
        split at h
        · rename_i hletters
          rw [toUpper_eq_x_iff, toUpper_eq_x_iff] at hletters
          split at h
          · rename_i hdigit
            obtain rfl := Option.some.inj h
            rw [show a.toNat - '0'.toNat = Number.ofDigits [a] by simp [Number.ofDigits]]
            exact Or.inl (.hundred hdigit hletters.1 hletters.2)
          · cases h
        · obtain ⟨n, hn, rfl⟩ := Option.map_eq_some_iff.1 h
          rcases readUnsigned16?_three_iff.1 hn with ⟨ha, hb, hc, rfl⟩ | ⟨rfl, hb, hc, rfl⟩
          · exact Or.inl (.code ha hb hc)
          · exact Or.inr (.code hb hc)
      · cases h
  · -- A digit is no letter, so that a number is not taken for a hundred.
    have hletter {c : Char} (hc : c.isDigit) : ¬ c.toUpper = 'X' := by
      rw [toUpper_eq_x_iff]
      rintro (rfl | rfl) <;> cases hc
    have hshort {a b c : Char} (hchars : text.toList = [a, b, c]) : text ≠ "default" := by
      rintro rfl
      cases hchars
    intro h
    generalize hchars : text.toList = cs at h
    cases h with
    | inl h =>
      cases h with
      | default => rw [if_pos (String.toList_inj.1 hchars)]
      | @hundred d x y hd hx hy =>
        rw [if_neg (hshort hchars)]
        simp only [toUpper_eq_x_iff, hx, hy, hd, and_self, if_true]
        simp [Number.ofDigits]
      | code ha hb hc =>
        rw [if_neg (hshort hchars)]
        dsimp only
        rw [if_neg fun h => hletter hb h.1,
          readUnsigned16?_three_iff.2 (Or.inl ⟨ha, hb, hc, rfl⟩), Option.map_some]
    | inr h =>
      cases h with
      | code hb hc =>
        rw [if_neg (hshort hchars)]
        dsimp only
        rw [if_neg fun h => hletter hb h.1,
          readUnsigned16?_three_iff.2 (Or.inr ⟨rfl, hb, hc, rfl⟩), Option.map_some]

/-- The key of exactly one status. -/
def IsExact (status : Nat) (key : StatusKey) : Prop :=
  key = .code status

/-- The key of the hundred that a status is in. -/
def IsRange (status : Nat) (key : StatusKey) : Prop :=
  ∃ n, key = .hundred n ∧ 100 * n ≤ status ∧ status < 100 * (n + 1)

/-- The key of all other statuses. -/
def IsDefault (key : StatusKey) : Prop :=
  key = .default

lemma isRange_iff {status : Nat} : IsRange status key ↔ key = .hundred (status / 100) := by
  constructor
  · rintro ⟨n, rfl, hle, hlt⟩
    rw [show status / 100 = n by omega]
  · rintro rfl
    exact ⟨_, rfl, by omega, by omega⟩

end StatusKey

/-! ## Attempts -/

namespace Responses

open StatusKey (Spells SpellsSigned Denotes IsExact IsRange IsDefault)

variable {responses after : Responses} {call : String × Value} {calls : List (String × Value)}
  {key : StatusKey} {content : Content} {status : Nat}

/-- An attempt declares content for a key: its text denotes the key, and what is declared is
well-formed. -/
def Declares (call : String × Value) (key : StatusKey) (content : Content) : Prop :=
  Denotes call.1.toList key ∧ Content.ofDeclaration call.2 = .ok content

/-- The responses after an attempt to declare one; if it fails, they are as they were. -/
def attempt (responses : Responses) (call : String × Value) : Responses :=
  (responses.add call.1 call.2).toOption.getD responses

/-- The responses after some attempts. -/
def afterAll (calls : List (String × Value)) : Responses :=
  calls.foldl attempt empty

/-! ### A single attempt -/

lemma Declares.unique {key' : StatusKey} {content' : Content} (h : Declares call key content)
    (h' : Declares call key' content') : key = key' ∧ content = content' := by
  have hkey := StatusKey.ofText?_eq_some_iff.2 h.1
  rw [StatusKey.ofText?_eq_some_iff.2 h'.1] at hkey
  exact ⟨(Option.some.inj hkey).symm, Except.ok.inj (h.2.symm.trans h'.2)⟩

lemma Declares.add_eq (h : Declares call key content) (responses : Responses) :
    responses.add call.1 call.2 = .ok ⟨(key, content) :: responses.declared⟩ := by
  rw [add, h.2, StatusKey.ofText?_eq_some_iff.2 h.1]
  rfl

/-- A well-formed declaration under a text that is no key is refused. -/
lemma add_of_not_denotes (hcontent : Content.ofDeclaration call.2 = .ok content)
    (hno : ∀ key, ¬ Denotes call.1.toList key) (responses : Responses) :
    responses.add call.1 call.2 =
      .error (.malformed s!"invalid response status {Text.inQuotes call.1}") := by
  have hnone : StatusKey.ofText? call.1 = none := by
    rw [Option.eq_none_iff_forall_ne_some]
    exact fun key hkey => hno key (StatusKey.ofText?_eq_some_iff.1 hkey)
  rw [add, hcontent, hnone]
  rfl

/-- An attempt succeeds if it declares something. -/
lemma exists_add_iff :
    (∃ after, responses.add call.1 call.2 = .ok after) ↔
      ∃ key content, Declares call key content := by
  constructor
  · rintro ⟨after, h⟩
    cases hcontent : Content.ofDeclaration call.2 with
    | error e =>
      rw [add, hcontent] at h
      cases h
    | ok content =>
      by_contra hno
      rw [add_of_not_denotes hcontent fun key hkey => hno ⟨key, content, hkey, hcontent⟩] at h
      cases h
  · rintro ⟨key, content, h⟩
    exact ⟨_, h.add_eq responses⟩

lemma Declares.attempt_eq (h : Declares call key content) (responses : Responses) :
    responses.attempt call = ⟨(key, content) :: responses.declared⟩ := by
  rw [attempt, h.add_eq]
  rfl

lemma attempt_eq_self (hno : ∀ key content, ¬ Declares call key content) (responses : Responses) :
    responses.attempt call = responses := by
  have hfails : ∀ after, responses.add call.1 call.2 ≠ .ok after := fun after h => by
    obtain ⟨key, content, hdeclares⟩ := exists_add_iff.1 ⟨after, h⟩
    exact hno key content hdeclares
  rw [attempt]
  cases hadd : responses.add call.1 call.2 with
  | error e => rfl
  | ok after => exact absurd hadd (hfails after)

/-- What is declared for a key after an attempt is what the attempt declares for it, or else what
was declared before. -/
lemma lookup_attempt_iff :
    (responses.attempt call).declared.lookup key = some content ↔
      Declares call key content ∨
        (∀ other, ¬ Declares call key other) ∧ responses.declared.lookup key = some content := by
  by_cases h : ∃ key' content', Declares call key' content'
  · obtain ⟨key', content', h⟩ := h
    rw [h.attempt_eq, List.lookup_cons]
    by_cases hkey : key = key'
    · subst hkey
      simp only [beq_self_eq_true, Option.some.injEq]
      constructor
      · rintro rfl
        exact Or.inl h
      · rintro (hcontent | ⟨hno, -⟩)
        · exact (h.unique hcontent).2
        · exact absurd h (hno _)
    · have hother (other : Content) : ¬ Declares call key other := fun hother =>
        hkey (hother.unique h).1
      simp [beq_false_of_ne hkey, hother]
  · have hno (key : StatusKey) (content : Content) : ¬ Declares call key content := fun h' =>
      h ⟨key, content, h'⟩
    simp [attempt_eq_self hno, hno]

/-! ### All attempts -/

/-- What the latest attempt declares that declares something for one of some keys. -/
def IsLatest (calls : List (String × Value)) (keys : StatusKey → Prop) (content : Content) : Prop :=
  ∃ before call after, calls = before ++ call :: after ∧
    (∃ key, keys key ∧ Declares call key content) ∧
    ∀ call' ∈ after, ∀ key content', keys key → ¬ Declares call' key content'

lemma isLatest_append_singleton_iff :
    IsLatest (calls ++ [call]) (· = key) content ↔
      Declares call key content ∨
        (∀ other, ¬ Declares call key other) ∧ IsLatest calls (· = key) content := by
  constructor
  · rintro ⟨before, call', after, h, hdeclares, hafter⟩
    rcases List.eq_nil_or_concat after with rfl | ⟨after, last, rfl⟩
    · obtain ⟨-, hcall⟩ := List.append_inj' h rfl
      obtain rfl := List.singleton_inj.1 hcall
      obtain ⟨_, rfl, hdeclares⟩ := hdeclares
      exact Or.inl hdeclares
    · rw [List.concat_eq_append] at h hafter
      rw [← List.cons_append, ← List.append_assoc] at h
      obtain ⟨rfl, hcall⟩ := List.append_inj' h rfl
      obtain rfl := List.singleton_inj.1 hcall
      exact Or.inr ⟨fun other => hafter call (by simp) key other rfl, before, call', after, rfl,
        hdeclares, fun call' hcall' => hafter call' (List.mem_append_left _ hcall')⟩
  · rintro (hdeclares | ⟨hno, before, call', after, rfl, hdeclares, hafter⟩)
    · exact ⟨calls, call, [], rfl, ⟨key, rfl, hdeclares⟩, by simp⟩
    · refine ⟨before, call', after ++ [call], by simp, hdeclares, fun c hc => ?_⟩
      rcases List.mem_append.1 hc with hc | hc
      · exact hafter c hc
      · rw [List.mem_singleton.1 hc]
        rintro _ other rfl
        exact hno other

/-- What is declared for a key after some attempts is what the latest of them declares for it. -/
lemma lookup_afterAll_iff :
    (afterAll calls).declared.lookup key = some content ↔ IsLatest calls (· = key) content := by
  induction calls using List.reverseRecOn with
  | nil => simp [afterAll, empty, IsLatest]
  | append_singleton calls call ih =>
    rw [afterAll, List.foldl_append, List.foldl_cons, List.foldl_nil, lookup_attempt_iff,
      ← afterAll, ih, isLatest_append_singleton_iff]

/-- The declaration that counts for a status after some attempts: the latest one for exactly this
status, or else the latest one for its hundred, or else the latest default, or else none. -/
inductive Counts (calls : List (String × Value)) (status : Nat) : Option Content → Prop
  | exact {content : Content} :
      IsLatest calls (IsExact status) content → Counts calls status (some content)
  | range {content : Content} :
      (∀ other, ¬ IsLatest calls (IsExact status) other) →
      IsLatest calls (IsRange status) content → Counts calls status (some content)
  | default {content : Content} :
      (∀ other, ¬ IsLatest calls (IsExact status) other) →
      (∀ other, ¬ IsLatest calls (IsRange status) other) →
      IsLatest calls IsDefault content → Counts calls status (some content)
  | undeclared :
      (∀ other, ¬ IsLatest calls (IsExact status) other) →
      (∀ other, ¬ IsLatest calls (IsRange status) other) →
      (∀ other, ¬ IsLatest calls IsDefault other) → Counts calls status none

/-- The declaration that is found for a status is the one that counts. -/
lemma counts_iff {found : Option Content} :
    Counts calls status found ↔ (afterAll calls).find? status = found := by
  have hexact {content : Content} : IsLatest calls (IsExact status) content ↔
      (afterAll calls).declared.lookup (.code status) = some content := lookup_afterAll_iff.symm
  have hrange {content : Content} : IsLatest calls (IsRange status) content ↔
      (afterAll calls).declared.lookup (.hundred (status / 100)) = some content := by
    rw [show IsRange status = (· = StatusKey.hundred (status / 100)) from
      funext fun _ => propext StatusKey.isRange_iff, lookup_afterAll_iff]
  have hdefault {content : Content} : IsLatest calls IsDefault content ↔
      (afterAll calls).declared.lookup .default = some content := lookup_afterAll_iff.symm
  rw [find?]
  constructor
  · intro h
    cases h with
    | exact h => simp [hexact.1 h]
    | range hno h =>
      simp only [hexact, ← Option.eq_none_iff_forall_ne_some] at hno
      simp [hno, hrange.1 h]
    | default hno hno' h =>
      simp only [hexact, hrange, ← Option.eq_none_iff_forall_ne_some] at hno hno'
      simp [hno, hno', hdefault.1 h]
    | undeclared hno hno' hno'' =>
      simp only [hexact, hrange, hdefault, ← Option.eq_none_iff_forall_ne_some] at hno hno' hno''
      simp [hno, hno', hno'']
  · rintro rfl
    cases h : (afterAll calls).declared.lookup (.code status) with
    | some content => exact .exact (hexact.2 h)
    | none =>
      have hno (other : Content) : ¬ IsLatest calls (IsExact status) other := by
        simp [hexact, h]
      cases h' : (afterAll calls).declared.lookup (.hundred (status / 100)) with
      | some content => exact .range hno (hrange.2 h')
      | none =>
        have hno' (other : Content) : ¬ IsLatest calls (IsRange status) other := by
          simp [hrange, h']
        cases h'' : (afterAll calls).declared.lookup .default with
        | some content => exact .default hno hno' (hdefault.2 h'')
        | none => exact .undeclared hno hno' (by simp [hdefault, h''])

/-! ### What is judged, and what is refused -/

/-- **A response is judged by the latest declaration that is for its status.**  After any attempts
to declare responses there is a declaration that counts for a status, or none counts; a response
with this status is judged by the one that counts, and if none counts it breaks its contract.  An
attempt succeeds just if it declares something, and one that fails might as well not have been
made. -/
theorem check_afterAll (calls : List (String × Value)) (val : Validator) (response : Response) :
    (∃ found, Counts calls response.status found) ∧
    (∀ found, Counts calls response.status found →
      (afterAll calls).check val response = found.elim
        (.error (broken "invalid response status code")) (judge · val response)) ∧
    (∀ (responses : Responses) (call : String × Value),
      (∃ after, responses.add call.1 call.2 = .ok after) ↔
        ∃ key content, Declares call key content) ∧
    ∀ (before after : List (String × Value)) (call : String × Value),
      (∀ key content, ¬ Declares call key content) →
      (afterAll (before ++ call :: after)).check val response =
        (afterAll (before ++ after)).check val response := by
  refine ⟨⟨_, counts_iff.2 rfl⟩, fun found hcounts => ?_, fun _ _ => exists_add_iff,
    fun before after call hno => ?_⟩
  · rw [check, counts_iff.1 hcounts]
    cases found <;> rfl
  · simp only [afterAll, List.foldl_append, List.foldl_cons, attempt_eq_self hno]

namespace Declared

/-- A response of JSON. -/
def json : Value := .object [("content", .object [("application/json", .object [])])]

/-- Attempts to declare responses, the third and the fifth of which fail. -/
def history : List (String × Value) :=
  [("200", json), ("2xx", json), ("2X", json), ("2XX", .object []),
    ("204", .object [("content", .null)]), ("default", json)]

end Declared

/-- A response with a status that could not be declared is judged by the latest declaration for its
hundred. -/
theorem status_without_declaration :
    Counts Declared.history 204 (some []) ∧
      (afterAll Declared.history).check Dialect.oas3.alone ⟨204, none, [48]⟩ =
        .error (broken "invalid response: body must be empty") := by
  have hcounts : Counts Declared.history 204 (some []) := counts_iff.2 rfl
  exact ⟨hcounts, (check_afterAll _ _ ⟨204, none, [48]⟩).2.1 _ hcounts⟩

/-- **Keys of responses are read just as they are meant to be written, but for plus signs.**  A
well-formed declaration is taken under a text that spells a key, or that is a plus sign and two
digits; it is then declared for that key.  Under any other text it is refused, and nothing is
declared. -/
theorem add_of_content {declaration : Value} {content : Content}
    (hcontent : Content.ofDeclaration declaration = .ok content) (responses : Responses)
    (text : String) :
    ((∃ after, responses.add text declaration = .ok after) ↔
      (∃ key, Spells text.toList key) ∨ ∃ key, SpellsSigned text.toList key) ∧
    (∀ key, Denotes text.toList key →
      responses.add text declaration = .ok ⟨(key, content) :: responses.declared⟩) ∧
    ((∀ key, ¬ Denotes text.toList key) →
      responses.add text declaration =
          .error (.malformed s!"invalid response status {Text.inQuotes text}") ∧
        responses.attempt (text, declaration) = responses) := by
  have hdeclares {key : StatusKey} (hkey : Denotes text.toList key) :
      Declares (text, declaration) key content := ⟨hkey, hcontent⟩
  refine ⟨?_, fun key hkey => (hdeclares hkey).add_eq responses, fun hno => ⟨?_, ?_⟩⟩
  · rw [@exists_add_iff responses (text, declaration), ← exists_or]
    exact exists_congr fun key => ⟨fun ⟨_, h⟩ => h.1, fun h => ⟨content, hdeclares h⟩⟩
  · exact @add_of_not_denotes (text, declaration) content hcontent hno responses
  · exact attempt_eq_self (fun key _ h => hno key h.1) responses

/-- A hundred is declared in small letters; there is no ninth hundred to be declared. -/
theorem fourth_hundred_is_declared :
    Content.ofDeclaration (.object []) = .ok [] ∧
      empty.add "4xx" (.object []) = .ok ⟨[(.hundred 4, [])]⟩ ∧
      empty.add "9XX" (.object []) = .error (.malformed "invalid response status \"9XX\"") := by
  have hkey : Denotes "4xx".toList (.hundred 4) :=
    Or.inl (.hundred (by decide) (Or.inl rfl) (Or.inl rfl))
  have hno (key : StatusKey) : ¬ Denotes "9XX".toList key := by
    rw [← StatusKey.ofText?_eq_some_iff, show StatusKey.ofText? "9XX" = none from rfl]
    simp
  exact ⟨rfl, (add_of_content rfl empty "4xx").2.1 _ hkey,
    ((add_of_content rfl empty "9XX").2.2 hno).1⟩

/-- **Two digits after a plus sign are declared as a status**, although no key is meant to be
written like this. -/
theorem signed_number_is_declared :
    (∀ key, ¬ Spells "+20".toList key) ∧ Content.ofDeclaration (.object []) = .ok [] ∧
      empty.add "+20" (.object []) = .ok ⟨[(.code 20, [])]⟩ := by
  refine ⟨fun key h => ?_, rfl, rfl⟩
  generalize hchars : "+20".toList = cs at h
  cases h with
  | default => cases hchars
  | hundred hd =>
    obtain ⟨rfl, -⟩ := List.cons.inj hchars
    exact absurd hd (by decide)
  | code ha =>
    obtain ⟨rfl, -⟩ := List.cons.inj hchars
    cases ha

end Responses

end ApiContract
