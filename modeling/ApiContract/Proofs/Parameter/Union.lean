/-
# Unions in other documents

The conversion of a value goes into other documents and reads their references from there.  But
the candidates of a union are judged by a validation of its own, which begins in the root document
wherever the union is.  There a reference in a member of the union may lead to something else than
it did when the candidate was converted.

As long as the links in the members read alike in both scopes, this makes no difference, and the
value is converted as if the document of the union were the root.
-/
import ApiContract.Proofs.Parameter.Lookup
import ApiContract.Proofs.Schema.ReadAlike

namespace ApiContract

open Validator (reference? lookupDepth)

/-- The members of a union, if a schema is one, read alike in two scopes. -/
def Value.MembersReadAlike (s t : String) (schema : Value) : Prop :=
  ∀ branches branch, unionBranches? schema = some branches → branch ∈ branches →
    branch.ReadsAlike s t

namespace Coercion

variable {val : Validator} {scope : String} {schema : Value}

/-- Candidates are judged alike from two documents in which the members read alike. -/
lemma judgesUpTo_based {document : String}
    (h : schema.MembersReadAlike val.store.baseUri document) :
    JudgesUpTo SchemaError.IsCycle val (val.based document) schema := by
  intro branches branch candidate hbranches hmem
  rw [Validator.violationsOf_based]
  exact (val.violations_readsAlike (h branches branch hbranches hmem) candidate).result []

/-- A conversion does not depend on which document is the root, if the members of all unions it
comes to read alike, nor on the scope if the schema does. -/
lemma convert_based {document : String} {n n' : Nat} (hle : n ≤ n')
    (hreads : schema.ReadsAlike scope document)
    (h : val.store.Everywhere .conversion
      (fun _ node => node.MembersReadAlike val.store.baseUri document) scope schema) (v : Value) :
    (convert val n schema v).UpTo SchemaError.IsCycle scope document
      (convert (val.based document) n' schema v) := by
  refine convert_upTo hle (fun _ url => ⟨url, rfl⟩) hreads (fun path scope' node hcomes => ?_) v
  exact ⟨fun _ _ => rfl, judgesUpTo_based (h path scope' node hcomes)⟩

/-- **A union in another document is converted as if that document were the root**, as long as the
links in the union read alike in the document and in the scope that the reference to the union has
led to, and the links in the members of the unions that the conversion comes to read alike in the
root document, in the scope where the conversion has come to them, and in the other document.  Then
candidates are judged as in the scope of the conversion.  The exception is a search that is given
up. -/
theorem convert_as_from_root (val : Validator) (uri document : String) (union : Value)
    (hreads : union.ReadsAlike uri document)
    (halike : val.store.Everywhere .conversion (fun scope node =>
      node.MembersReadAlike val.store.baseUri scope ∧
        node.MembersReadAlike val.store.baseUri document) uri union) :
    (∀ path scope node branches branch candidate,
      val.store.Comes .conversion (fun _ _ => True) uri union path scope node →
      unionBranches? node = some branches → branch ∈ branches →
      Except.UpTo SchemaError.IsCycle (val.violationsOf candidate branch)
        ((val.violations candidate branch).resultAt scope [])) ∧
    (∀ n ≤ lookupDepth + 1, ∀ v, Except.UpTo SchemaError.IsCycle
      ((convert val n union v).resultAt uri [])
      ((val.based document).run ((val.based document).coerced union v))) ∧
    (∀ schema reference, reference? schema = some reference →
      val.store.resolveUrl (Reference.join val.store.baseUri reference) = .ok union →
      Reference.join val.store.baseUri (Reference.join val.store.baseUri reference) = uri →
      ∀ v, Except.UpTo SchemaError.IsCycle (val.run (val.coerced schema v))
        ((val.based document).run ((val.based document).coerced union v))) := by
  have hconvert : ∀ n ≤ lookupDepth + 1, ∀ v, Except.UpTo SchemaError.IsCycle
      ((convert val n union v).resultAt uri [])
      ((val.based document).run ((val.based document).coerced union v)) := fun n hle v =>
    (convert_based hle hreads (fun _ _ _ hcomes => (halike _ _ _ hcomes).2) v).result []
  refine ⟨fun path scope node branches branch candidate hcomes hbranches hmem => ?_, hconvert,
    fun schema reference href hfound huri v => ?_⟩
  · have hmember := (halike path scope node hcomes).1 branches branch hbranches hmem
    exact (val.violations_readsAlike hmember candidate).result []
  · have hrun : val.run (val.coerced schema v) =
        (convert val lookupDepth union v).resultAt uri [] := by
      change (convert val (lookupDepth + 1) schema v).resultAt val.store.baseUri [] = _
      rw [convert, href]
      have h := Walk.resultAt_resolve_inScope (s := val.store.baseUri) val.store reference
        (f := (convert val lookupDepth · v)) (convert_steady val lookupDepth · v) []
      rw [hfound, huri] at h
      exact h
    rw [hrun]
    exact hconvert lookupDepth (Nat.le_succ _) v

end Coercion

namespace Abroad

/-- The root document, in which a name stands for texts. -/
def home : Value := .object [("n", .object [("type", .string "string")])]

/-- A schema with a reference. -/
def referring (reference : String) : Value := .object [("$ref", .string reference)]

/-- A union of the schema that a reference leads to. -/
def union (reference : String) : Value := .object [("oneOf", .array [referring reference])]

/-- The schema of integers. -/
def integers : Value := .object [("type", .string "integer")]

/-- Another document, in which the name stands for integers, with a union of what a reference leads
to. -/
def abroad (reference : String) : Value :=
  .object [("u", union reference), ("n", integers)]

/-- A validator with both documents. -/
def validator (reference : String) : Validator :=
  Dialect.oas3.validator
    ⟨"http://x/a.json", [("http://x/a.json", home), ("http://x/b.json", abroad reference)]⟩

/-- What becomes of a text by way of the root document. -/
def converted (reference : String) : Except CoercionError Value :=
  (validator reference).run ((validator reference).coerced (referring "b.json#/u") (.string "5"))

/-- What becomes of it where the other document is the root. -/
def convertedAbroad (reference : String) : Except CoercionError Value :=
  ((validator reference).based "http://x/b.json").run
    (((validator reference).based "http://x/b.json").coerced (union reference) (.string "5"))

/-- The URLs that references are joined to, and the documents they are in. -/
lemma join_eq :
    Reference.join "http://x/a.json" "b.json#/u" = "http://x/b.json#/u" ∧
    Reference.join "http://x/a.json" "http://x/b.json#/u" = "http://x/b.json#/u" ∧
    Reference.join "http://x/b.json#/u" "http://x/b.json#/n" = "http://x/b.json#/n" ∧
    Reference.join "http://x/b.json#/u" "#/n" = "http://x/b.json#/n" ∧
    Reference.join "http://x/a.json" "#/n" = "http://x/a.json#/n" ∧
    (∀ scope ∈ ["http://x/b.json#/u", "http://x/b.json"],
      Reference.ReadsAlike "http://x/a.json" scope "http://x/b.json#/n") ∧
    (∀ url ∈ ["http://x/b.json#/u", "http://x/b.json#/n"],
      Reference.normalize (String.ofList (Reference.document url)) = "http://x/b.json") := by
  decide +kernel

/-- The other document has a union under a name. -/
lemma resolveUrl_union (reference : String) :
    (validator reference).store.resolveUrl "http://x/b.json#/u" = .ok (union reference) := by
  obtain ⟨-, -, -, -, -, -, hdocument⟩ := join_eq
  rw [Store.resolveUrl_eq, hdocument _ (by simp)]
  rfl

/-- The other document has the schema of integers under another name. -/
lemma resolveUrl_integers (reference : String) :
    (validator reference).store.resolveUrl "http://x/b.json#/n" = .ok integers := by
  obtain ⟨-, -, -, -, -, -, hdocument⟩ := join_eq
  rw [Store.resolveUrl_eq, hdocument _ (by simp)]
  rfl

/-- An absolute reference in the union reads alike wherever it is. -/
lemma readsAlike_union {scope : String} (h : scope ∈ ["http://x/b.json#/u", "http://x/b.json"]) :
    (union "http://x/b.json#/n").ReadsAlike "http://x/a.json" scope := by
  obtain ⟨-, -, -, -, -, halike, -⟩ := join_eq
  intro link hlink
  obtain rfl : link = "http://x/b.json#/n" := List.mem_singleton.1 hlink
  exact halike scope h

/-- The conversion of the union comes to no other one. -/
lemma everywhere_union :
    (validator "http://x/b.json#/n").store.Everywhere .conversion (fun scope node =>
      node.MembersReadAlike "http://x/a.json" scope ∧
        node.MembersReadAlike "http://x/a.json" "http://x/b.json")
      "http://x/b.json#/u" (union "http://x/b.json#/n") := by
  obtain ⟨-, -, hjoin, -⟩ := join_eq
  have hmembers {scope : String} (h : scope ∈ ["http://x/b.json#/u", "http://x/b.json"]) :
      (union "http://x/b.json#/n").MembersReadAlike "http://x/a.json" scope :=
    fun branches branch hbranches hmem =>
      (readsAlike_union h).of_contains (Coercion.contains_of_unionBranches? hbranches hmem)
  have hnone {schema : Value} (h : unionBranches? schema = none) (s t : String) :
      schema.MembersReadAlike s t := by
    intro branches branch hbranches
    simp [h] at hbranches
  refine .of_parts ⟨hmembers (by simp), hmembers (by simp)⟩ rfl ?_
  intro k value steps s hpasses hvalue happlies
  obtain rfl : s = referring "http://x/b.json#/n" := by
    cases hpasses with
    | part _ hbranches => cases hbranches
    | member _ hk =>
      rcases hk with rfl | rfl
      · obtain rfl := Option.some.inj hvalue
        cases happlies with
        | whole hk => simp at hk
        | listed _ hs => simpa using List.mem_of_getElem? hs
      · cases hvalue
  refine .of_target ⟨hnone rfl _ _, hnone rfl _ _⟩ rfl
    (hjoin ▸ resolveUrl_integers _) ?_
  refine .of_parts ⟨hnone rfl _ _, hnone rfl _ _⟩ rfl fun k value steps s hpasses hvalue _ => ?_
  cases hpasses with
  | member _ _ hbranches => cases hbranches
  | part hk _ hfields => rcases hk with rfl | rfl | rfl <;> cases hfields

end Abroad

/-- With an absolute reference in its member, a union in another document is converted as if that
document were the root. -/
theorem union_abroad_is_converted :
    ∃ v, Abroad.converted "http://x/b.json#/n" = .ok v ∧
      Abroad.convertedAbroad "http://x/b.json#/n" = .ok v := by
  have hok : (Abroad.converted "http://x/b.json#/n").toOption.isSome := by
    decide +kernel
  have hreads : (Abroad.union "http://x/b.json#/n").ReadsAlike "http://x/b.json#/u"
      "http://x/b.json" :=
    (Abroad.readsAlike_union (by simp)).symm.trans (Abroad.readsAlike_union (by simp))
  obtain ⟨-, -, hcoerced⟩ := Coercion.convert_as_from_root (Abroad.validator "http://x/b.json#/n")
    "http://x/b.json#/u" "http://x/b.json" (Abroad.union "http://x/b.json#/n") hreads
    Abroad.everywhere_union
  obtain ⟨hjoin, hagain, -⟩ := Abroad.join_eq
  have hfound : (Abroad.validator "http://x/b.json#/n").store.resolveUrl
      (Reference.join "http://x/a.json" "b.json#/u") = .ok (Abroad.union "http://x/b.json#/n") := by
    rw [hjoin]
    exact Abroad.resolveUrl_union _
  have hscope : Reference.join "http://x/a.json" (Reference.join "http://x/a.json" "b.json#/u") =
      "http://x/b.json#/u" := by
    rw [hjoin, hagain]
  have hupTo := hcoerced (Abroad.referring "b.json#/u") "b.json#/u" rfl hfound hscope (.string "5")
  rcases hupTo with heq | ⟨e, -, herror⟩
  · rcases hv : Abroad.converted "http://x/b.json#/n" with e | v
    · simp [hv, Except.toOption] at hok
    · exact ⟨v, rfl, heq.symm.trans hv⟩
  · rw [Abroad.converted, herror] at hok
    simp [Except.toOption] at hok

/-- **A union in another document refuses what it would take at home.**  The reference in its
member is relative: the text is converted to an integer as the other document has it, but the
integer is judged by the schema that has the same name in the root document, which is for texts.
With the other document as root the integer is taken. -/
theorem union_abroad_refuses :
    Reference.join "http://x/b.json#/u" "#/n" = "http://x/b.json#/n" ∧
    Reference.join "http://x/a.json" "#/n" = "http://x/a.json#/n" ∧
    (match Abroad.converted "#/n" with
      | .error (.noCandidate _ _) => true
      | _ => false) = true ∧
    (Abroad.convertedAbroad "#/n").toOption.any Value.isNumber := by
  obtain ⟨-, -, -, habroad, hhome, -⟩ := Abroad.join_eq
  refine ⟨habroad, hhome, ?_⟩
  decide +kernel

end ApiContract
