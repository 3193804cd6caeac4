/-
# Pointers there and back

The parts of a pointer are escaped one by one, so the slashes between them are the only ones, and
escapes are undone in the order in which they cannot be mistaken for each other.  So a pointer that
is written for a path and encoded leads along that path, whatever the keys are.

The exception is at the beginning: slashes there do not count, so empty keys with which a path
begins are passed over.
-/
import ApiContract.Proofs.Number.Decimal
import ApiContract.Proofs.Text.Percent
import ApiContract.Proofs.Value.Refinement

namespace ApiContract

namespace Text

lemma replacePair_cons_of_ne {a b c new : Char} (h : c ≠ a) (cs : List Char) :
    replacePair a b new (c :: cs) = c :: replacePair a b new cs := by
  cases cs with
  | nil => rfl
  | cons d cs => rw [replacePair, if_neg fun hcd => h hcd.1]

lemma replacePair_pair (a b new : Char) (cs : List Char) :
    replacePair a b new (a :: b :: cs) = new :: replacePair a b new cs :=
  if_pos ⟨rfl, rfl⟩

lemma replaceChar_cons (c : Char) (new : List Char) (d : Char) (cs : List Char) :
    replaceChar c new (d :: cs) = (if d = c then new else [d]) ++ replaceChar c new cs :=
  List.flatMap_cons

end Text

namespace Pointer

open Text Percent

variable {keep : Char → Bool} {document v : Value} {path : List PathStep}

/-! ## Escapes -/

/-- A character of a part of a pointer, escaped. -/
lemma escape_cons (c : Char) (cs : List Char) :
    escape (c :: cs) =
      (if c = '~' then ['~', '0'] else if c = '/' then ['~', '1'] else [c]) ++ escape cs := by
  rw [escape, replaceChar_cons, replaceChar, List.flatMap_append]
  by_cases htilde : c = '~'
  · rw [if_pos htilde, if_pos htilde]
    rfl
  · rw [if_neg htilde, if_neg htilde, List.flatMap_singleton]
    rfl

/-- The slashes are unescaped first: then every tilde that is left stands before a zero. -/
lemma replacePair_escape (cs : List Char) :
    replacePair '~' '1' '/' (escape cs) = replaceChar '~' ['~', '0'] cs := by
  induction cs with
  | nil => rfl
  | cons c cs ih =>
    rw [escape_cons, replaceChar_cons]
    split
    · rw [List.cons_append, List.singleton_append, replacePair,
        if_neg (by decide), replacePair_cons_of_ne (by decide), ih]
      rfl
    · rename_i htilde
      split
      · rename_i hslash
        rw [List.cons_append, List.singleton_append, replacePair_pair, ih, hslash]
        rfl
      · rw [List.singleton_append, replacePair_cons_of_ne htilde, ih]
        rfl

/-- Escapes are undone. -/
lemma unescape_escape (cs : List Char) : unescape (escape cs) = cs := by
  rw [unescape, replacePair_escape]
  induction cs with
  | nil => rfl
  | cons c cs ih =>
    rw [replaceChar_cons]
    split
    · rename_i htilde
      rw [List.cons_append, List.singleton_append, replacePair_pair, ih, htilde]
    · rename_i htilde
      rw [List.singleton_append, replacePair_cons_of_ne htilde, ih]

lemma slash_not_mem_escape (cs : List Char) : '/' ∉ escape cs := by
  induction cs with
  | nil => exact List.not_mem_nil
  | cons c cs ih =>
    rw [escape_cons, List.mem_append, not_or]
    refine ⟨?_, ih⟩
    split
    · decide
    · split
      · decide
      · rename_i hslash
        simpa using Ne.symm hslash

lemma escape_ne_nil {cs : List Char} (h : cs ≠ []) : escape cs ≠ [] := by
  obtain ⟨c, cs, rfl⟩ := List.exists_cons_of_ne_nil h
  rw [escape_cons]
  split
  · simp
  · split <;> simp

/-! ## Parts -/

/-- The parts of the pointer of a path. -/
def parts (path : List PathStep) : List (List Char) :=
  path.map fun step => escape step.text

@[simp] lemma parts_nil : parts [] = [] := rfl

@[simp] lemma parts_cons (step : PathStep) (path : List PathStep) :
    parts (step :: path) = escape step.text :: parts path := rfl

lemma slash_not_mem_parts : ∀ part ∈ parts path, '/' ∉ part := by
  intro part hpart
  obtain ⟨step, -, rfl⟩ := List.mem_map.1 hpart
  exact slash_not_mem_escape step.text

/-- Only an empty key has no text. -/
lemma text_eq_nil_iff {step : PathStep} : step.text = [] ↔ step = .key "" := by
  cases step with
  | key name => simp [PathStep.text]
  | index i => simpa [PathStep.text] using (Number.areDigits_decimalDigits i).1

/-- The parts that are written for a path lead along it. -/
lemma walk?_parts (hkeys : document.hasUniqueKeys)
    (hfits : ∀ i : Nat, .index i ∈ path → i ≤ Number.greatestUnsigned64)
    (h : document.Leads path v) :
    walk? (parts path) document = some v := by
  induction h with
  | here => rfl
  | @key name path u w fields hmem _ ih =>
    have hlookup : fields.lookup name = some u :=
      Fields.lookup_of_mem (Value.nodup_of_hasUniqueKeys hkeys) hmem
    have hstep : step? name.toList (.object fields) = some u := by
      rw [step?, String.ofList_toList, hlookup]
    rw [parts_cons, walk?, unescape_escape, PathStep.text, hstep, Option.bind_some]
    exact ih (Value.hasUniqueKeys_of_partOf hkeys (.field hmem))
      fun i hi => hfits i (List.mem_cons_of_mem _ hi)
  | @index i path u w items hi _ ih =>
    have hstep : step? (decimalDigits i) (.array items) = some u := by
      rw [step?, Number.readUnsigned64?_decimalDigits (hfits i List.mem_cons_self),
        Option.bind_some, hi]
    rw [parts_cons, walk?, unescape_escape, PathStep.text, hstep, Option.bind_some]
    exact ih (Value.hasUniqueKeys_of_partOf hkeys (Value.partOf_of_getElem? hi))
      fun i hi => hfits i (List.mem_cons_of_mem _ hi)

/-- A pointer has a slash before each of its parts: it is its parts joined by slashes, with one
more slash at the beginning. -/
lemma write_cons (step : PathStep) (path : List PathStep) :
    write (step :: path) = '/' :: Text.join '/' (parts (step :: path)) := by
  induction path generalizing step with
  | nil => simp [write, Text.join]
  | cons next path ih =>
    rw [write, List.flatMap_cons, ← write, ih, parts_cons step, parts_cons next, join_cons_cons]
    rfl

/-! ## Encoded pointers -/

lemma encodeExcept_cons_of_keep {c : Char} (h : keep c = true) (cs : List Char) :
    encodeExcept keep (c :: cs) = c :: encodeExcept keep cs := by
  rw [encodeExcept, List.flatMap_cons, if_pos h]
  rfl

/-- What is encoded is not empty, and it begins with a slash only if it did so before. -/
lemma exists_encodeExcept_cons {c : Char} (hc : c ≠ '/') (cs : List Char) :
    ∃ d ds, encodeExcept keep (c :: cs) = d :: ds ∧ d ≠ '/' := by
  rw [encodeExcept, List.flatMap_cons]
  split
  · exact ⟨c, _, rfl, hc⟩
  · obtain ⟨b, bs, hbytes, -⟩ := Utf8.exists_first_byte c
    rw [hbytes]
    exact ⟨'%', _, rfl, by decide⟩

/-- A slash at the beginning of a pointer does not count. -/
lemma resolvePointer_slash (document : Value) (pointer : List Char) :
    Store.resolvePointer document ('/' :: pointer) = Store.resolvePointer document pointer := by
  have hdrop : ('/' :: pointer).dropWhile (· = '/') = pointer.dropWhile (· = '/') :=
    List.dropWhile_cons_of_pos rfl
  rw [Store.resolvePointer, Store.resolvePointer, resolve?, resolve?, hdrop]

/-- A pointer whose first part is not empty is decoded to the parts it was written with. -/
lemma resolve?_write (hpercent : keep '%' = false) (hslash : keep '/' = true)
    (hhead : path.head? ≠ some (.key "")) :
    resolve? (encodeExcept keep (write path)) document = walk? (parts path) document := by
  cases path with
  | nil => rfl
  | cons step path =>
    have hfirst : escape step.text ≠ [] :=
      escape_ne_nil fun hnil => hhead (congrArg some (text_eq_nil_iff.1 hnil))
    obtain ⟨c, cs, hc⟩ := List.exists_cons_of_ne_nil hfirst
    have hne : c ≠ '/' := by
      rintro rfl
      exact slash_not_mem_escape step.text (by simp [hc])
    -- The joined parts begin with the first character of the first part.
    obtain ⟨ds, hds⟩ : ∃ ds, Text.join '/' (parts (step :: path)) = c :: ds := by
      rw [parts_cons, hc]
      cases path with
      | nil => exact ⟨cs, rfl⟩
      | cons next path => exact ⟨_, rfl⟩
    obtain ⟨d, es, hes, hd⟩ : ∃ d es, encodeExcept keep (c :: ds) = d :: es ∧ d ≠ '/' :=
      exists_encodeExcept_cons hne ds
    have hdrop : (encodeExcept keep (write (step :: path))).dropWhile (· = '/') = d :: es := by
      rw [write_cons, encodeExcept_cons_of_keep hslash, List.dropWhile_cons_of_pos (by simp), hds,
        hes, List.dropWhile_cons_of_neg (by simpa using hd)]
    have hdecode : decode? (d :: es) = some (Text.join '/' (parts (step :: path))) := by
      rw [hds, ← hes]
      exact (spells_encodeExcept hpercent _).decode?_eq
    rw [resolve?, hdrop]
    dsimp only
    rw [hdecode, Option.bind_some, split_join_of_not_mem (by simp) slash_not_mem_parts]

/-- **A pointer that is written for a path leads along the path.**  In a document without repeated
keys, where a path leads to a value and does not begin with an empty key, its pointer leads to that
value, in any encoding that leaves the slashes as they are; indices have 64 bits.  An empty key at
the beginning is passed over, as if the path began after it. -/
theorem resolvePointer_write (hpercent : keep '%' = false) (hslash : keep '/' = true)
    (hkeys : document.hasUniqueKeys) :
    (∀ path v, (∀ i : Nat, .index i ∈ path → i ≤ Number.greatestUnsigned64) →
      document.Leads path v → path.head? ≠ some (.key "") →
      Store.resolvePointer document (encodeExcept keep (write path)) = .ok v) ∧
    ∀ path, Store.resolvePointer document (encodeExcept keep (write (.key "" :: path))) =
      Store.resolvePointer document (encodeExcept keep (write path)) := by
  refine ⟨fun path v hfits hleads hhead => ?_, fun path => ?_⟩
  · rw [Store.resolvePointer, resolve?_write hpercent hslash hhead,
      walk?_parts hkeys hfits hleads]
  · have hwrite : write (.key "" :: path) = '/' :: write path := rfl
    rw [hwrite, encodeExcept_cons_of_keep hslash, resolvePointer_slash]

/-! ### Keys that need escapes -/

/-- The characters that fragments have as they are. -/
def standsInFragment (c : Char) : Bool :=
  isUnreserved c || c == '/'

/-- A document whose keys have slashes, tildes, percent signs and letters outside of ASCII, and
among which is an empty one. -/
def labyrinth : Value :=
  .object [("a/~1", .object [("", .array [.null, .object [("%ü", .bool true)]])])]

/-- A path to the innermost value. -/
def wayOut : List PathStep := [.key "a/~1", .key "", .index 1, .key "%ü"]

/-- All keys survive, also an empty one that is not the first. -/
theorem way_out_is_found :
    labyrinth.Leads wayOut (.bool true) ∧
      Store.resolvePointer labyrinth "/a~1~01//1/%25%C3%BC".toList = .ok (.bool true) := by
  have hleads : labyrinth.Leads wayOut (.bool true) :=
    .key List.mem_cons_self (.key List.mem_cons_self
      (.index (by rfl) (.key List.mem_cons_self (.here _))))
  have hwritten : encodeExcept standsInFragment (write wayOut) =
      "/a~1~01//1/%25%C3%BC".toList := by
    decide
  have hfits : ∀ i : Nat, .index i ∈ wayOut → i ≤ Number.greatestUnsigned64 := by
    intro i hi
    obtain rfl : i = 1 := by simpa [wayOut] using hi
    decide
  refine ⟨hleads, ?_⟩
  rw [← hwritten]
  exact (resolvePointer_write rfl rfl rfl).1 wayOut _ hfits hleads (by decide)

/-- **An empty key at the beginning is lost.**  Two keys lead to one value and one key to another
one, but the pointer of the two keys leads to the other value. -/
theorem empty_first_key_is_lost :
    Value.Leads [.key "", .key "a"]
      (.object [("", .object [("a", .integer 1)]), ("a", .integer 2)]) (.integer 1) ∧
    encodeExcept standsInFragment (write [.key "", .key "a"]) = "//a".toList ∧
    Store.resolvePointer (.object [("", .object [("a", .integer 1)]), ("a", .integer 2)])
      "//a".toList = .ok (.integer 2) :=
  ⟨.key List.mem_cons_self (.key List.mem_cons_self (.here _)), by decide, rfl⟩

end Pointer

end ApiContract
