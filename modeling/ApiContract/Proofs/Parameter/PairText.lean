/-
# Objects that are written as pairs

A text of pairs is cut at its commas, and every piece must have an `=`.  A piece is then read as a
form of its own, and of the pairs of that form the first one counts.  A form is cut at its
ampersands, and its empty parts do not count, so of a piece only the part before its first ampersand
is read, where ampersands at its beginning are passed over.  A piece without ampersands is read as a
whole.
-/
import ApiContract.Proofs.Parameter.Query

namespace ApiContract

namespace Strategy

variable {pieces before after : List (List Char)} {piece : List Char}

/-- The field that is read in a piece. -/
def fieldIn (piece : List Char) : String × Value :=
  let (key, value) := fieldOf (Text.firstPiece '&' piece)
  (key, .string value)

/-- Pieces that all have an `=` are read one by one. -/
lemma pairFields_append (h : ∀ piece ∈ before, '=' ∈ piece) (pieces : List (List Char)) :
    pairFields (before ++ pieces) = (before.map fieldIn ++ ·) <$> pairFields pieces := by
  induction before with
  | nil => exact (id_map (pairFields pieces)).symm
  | cons piece before ih =>
    rw [List.forall_mem_cons] at h
    rw [List.cons_append, pairFields, formField?_eq, if_pos h.1, ih h.2]
    cases pairFields pieces <;> rfl

/-- The first piece without an `=` is what is wrong with a text. -/
lemma pairFields_eq_error (h : ∀ piece ∈ before, '=' ∈ piece) (hpiece : '=' ∉ piece) :
    pairFields (before ++ piece :: after) = .error (.malformedPair (String.ofList piece)) := by
  rw [pairFields_append h, pairFields, formField?_eq, if_neg hpiece]
  rfl

/-- **Pairs are read as far as their ampersands.**  A text of pairs is read exactly if every piece
between its commas has an `=`; otherwise it is malformed by the first piece without one.  Of every
piece what is before its first ampersand is a field, after the ampersands with which it begins: so a
piece is read as a whole exactly if it has no ampersand.  The last field with a key counts. -/
theorem apply_splitPairs_exact (text : String) :
    ((∀ piece ∈ Text.split ',' text.toList, '=' ∈ piece) →
      splitPairs.apply text =
          .ok (.object (Fields.ofPairs ((Text.split ',' text.toList).map fieldIn))) ∧
        ∀ key, (Fields.ofPairs ((Text.split ',' text.toList).map fieldIn)).lookup key =
          ((Text.split ',' text.toList).map fieldIn).reverse.lookup key) ∧
    (∀ before piece after, Text.split ',' text.toList = before ++ piece :: after →
      (∀ p ∈ before, '=' ∈ p) → '=' ∉ piece →
      splitPairs.apply text = .error (.malformedPair (String.ofList piece))) ∧
    ∀ piece, Text.firstPiece '&' piece = piece ↔ '&' ∉ piece := by
  refine ⟨fun h => ⟨?_, fun key => Fields.lookup_ofPairs key _⟩, fun before piece after hsplit h
    hpiece => ?_, fun piece => Text.firstPiece_eq_self_iff⟩
  · have hfields := pairFields_append h []
    rw [List.append_nil] at hfields
    rw [apply, hfields, pairFields]
    exact congrArg (fun fields => Except.ok (Value.object (Fields.ofPairs fields)))
      (List.append_nil _)
  · rw [apply, hsplit, pairFields_eq_error h hpiece]
    rfl

/-- Keys and values keep their delimiters if these are encoded, and the last value of a key counts.
The first piece without an `=` is what is wrong. -/
theorem encoded_pairs_are_read :
    splitPairs.apply "k=a+b,k=c%26d%2C=,m=" =
      .ok (.object [("k", .string "c&d,="), ("m", .string "")]) ∧
    splitPairs.apply "k=1,flag,," = .error (.malformedPair "flag") := by
  obtain ⟨hread, -, -⟩ := apply_splitPairs_exact "k=a+b,k=c%26d%2C=,m="
  obtain ⟨-, hrefuse, -⟩ := apply_splitPairs_exact "k=1,flag,,"
  refine ⟨(hread (by decide)).1.trans ?_,
    hrefuse ["k=1".toList] "flag".toList [[], []] (by decide) (by decide)
      (by decide)⟩
  rfl

/-- **What is after an ampersand is lost.**  In a header or a path an ampersand is a character like
others, but it ends what is read of a piece: the value, and even the key. -/
theorem ampersand_cuts_pair :
    splitPairs.apply "k=a&b,x&l=2" = .ok (.object [("k", .string "a"), ("x", .string "")]) ∧
    (Text.split ',' "k=a&b,x&l=2".toList).map fieldOf = [("k", "a&b"), ("x&l", "2")] := by
  refine ⟨?_, by decide⟩
  rfl

end Strategy

end ApiContract
