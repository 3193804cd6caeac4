/-
# Chains of references to components

What a declaration stands for is found reference by reference.  At each declaration there are four
possibilities: it has no reference, its reference leads to another declaration, its reference is to
something that is no component of the kind, or its reference leads nowhere.  Only the second one
goes on, so whatever the first references lead to decides what is found.

At most sixteen declarations are looked at.  A component behind sixteen references is the
seventeenth one, so it is not found any more, although every reference to it is met.
-/
import ApiContract.Description.Component
import ApiContract.Proofs.Schema.Reach
import ApiContract.Proofs.Text.Pieces
import ApiContract.Schema.Default
import Mathlib.Data.List.Infix

namespace ApiContract.Component

open Validator (reference?)

variable {store : Store} {kind : Component} {m n : Nat} {u v w : Value} {reference : String}

/-! ## Single references -/

/-- A reference is one to components of a kind. -/
def IsOfKind (kind : Component) (reference : String) : Prop :=
  kind.start.toList <+: reference.toList

lemma dropPrefix?_isNone_iff :
    (Text.dropPrefix? kind.start.toList reference.toList).isNone ↔ ¬ kind.IsOfKind reference := by
  rw [Option.isNone_iff_eq_none, Option.eq_none_iff_forall_ne_some]
  simp only [ne_eq, Text.dropPrefix?_eq_some_iff, IsOfKind, List.IsPrefix, not_exists,
    eq_comm (a := reference.toList)]

/-- A declaration refers to another one: as a component of the kind, which is there. -/
inductive RefersTo (store : Store) (kind : Component) (v w : Value) : Prop
  | intro {reference url : String} : reference? v = some reference → kind.IsOfKind reference →
      store.resolve store.scopes reference = .ok (url, w) → RefersTo store kind v w

lemma follow_of_none (h : reference? v = none) : follow store kind (n + 1) v = .ok v := by
  rw [follow, show (v.get? "$ref").bind Value.string? = none from h]

lemma follow_of_some (h : reference? v = some reference) (hkind : kind.IsOfKind reference) :
    follow store kind (n + 1) v =
      store.resolve store.scopes reference >>= fun found => follow store kind n found.2 := by
  rw [follow, show (v.get? "$ref").bind Value.string? = some reference from h]
  exact if_neg fun hnone => dropPrefix?_isNone_iff.1 hnone hkind

lemma follow_of_refersTo (h : RefersTo store kind v w) :
    follow store kind (n + 1) v = follow store kind n w := by
  obtain ⟨href, hkind, hfound⟩ := h
  rw [follow_of_some href hkind, hfound]
  rfl

lemma follow_of_unresolvable {e : SchemaError} (h : reference? v = some reference)
    (hkind : kind.IsOfKind reference) (herror : store.resolve store.scopes reference = .error e) :
    follow store kind (n + 1) v = .error e := by
  rw [follow_of_some h hkind, herror]
  rfl

lemma follow_of_misdirected (h : reference? v = some reference)
    (hkind : ¬ kind.IsOfKind reference) :
    follow store kind (n + 1) v = .error (.malformed
      s!"invalid reference: {reference}. Expected prefix: {kind.start}") := by
  rw [follow, show (v.get? "$ref").bind Value.string? = some reference from h]
  exact if_pos (dropPrefix?_isNone_iff.2 hkind)

/-! ## Chains -/

/-- References lead from a declaration to another one; the number says how many there are. -/
inductive Chain (store : Store) (kind : Component) : Nat → Value → Value → Prop
  | here (v : Value) : Chain store kind 0 v v
  | hop {n : Nat} {u v w : Value} : RefersTo store kind u v → Chain store kind n v w →
      Chain store kind (n + 1) u w

lemma Chain.trans (h : Chain store kind m u v) (h' : Chain store kind n v w) :
    Chain store kind (m + n) u w := by
  induction h with
  | here => rwa [Nat.zero_add]
  | @hop m _ _ _ hrefers _ ih =>
    rw [Nat.add_right_comm]
    exact .hop hrefers (ih h')

/-- The beginning of a chain is a chain. -/
lemma Chain.take (h : Chain store kind (m + n) u w) : ∃ v, Chain store kind m u v := by
  induction m generalizing u with
  | zero => exact ⟨u, .here u⟩
  | succ m ih =>
    rw [Nat.add_right_comm] at h
    cases h with
    | hop hrefers hrest =>
      obtain ⟨v, hv⟩ := ih hrest
      exact ⟨v, .hop hrefers hv⟩

/-- A chain that comes back to a declaration has no end. -/
lemma Chain.endless (h : Chain store kind m u v) (hcircle : Chain store kind (n + 1) v v)
    (k : Nat) : ∃ w, Chain store kind k u w := by
  have hrounds : ∀ rounds, ∃ l, rounds ≤ l ∧ Chain store kind l v v := by
    intro rounds
    induction rounds with
    | zero => exact ⟨0, Nat.le_refl 0, .here v⟩
    | succ rounds ih =>
      obtain ⟨l, hl, hround⟩ := ih
      exact ⟨n + 1 + l, by omega, hcircle.trans hround⟩
  obtain ⟨l, hl, hround⟩ := hrounds k
  obtain ⟨r, hr⟩ : ∃ r, m + l = k + r := ⟨m + l - k, by omega⟩
  exact (hr ▸ h.trans hround).take

/-- What a declaration stands for is what the end of a chain stands for. -/
lemma follow_of_chain (h : Chain store kind m v w) (n : Nat) :
    follow store kind (m + n) v = follow store kind n w := by
  induction h with
  | here => rw [Nat.zero_add]
  | hop hrefers _ ih => rw [Nat.add_right_comm, follow_of_refersTo hrefers, ih]

/-- What is found is the end of a chain, and has no reference. -/
lemma exists_chain_of_follow (h : follow store kind n v = .ok w) :
    ∃ k < n, Chain store kind k v w ∧ reference? w = none := by
  induction n generalizing v with
  | zero => cases h
  | succ n ih =>
    cases href : reference? v with
    | none =>
      rw [follow_of_none href] at h
      obtain rfl := Except.ok.inj h
      exact ⟨0, by omega, .here v, href⟩
    | some reference =>
      by_cases hkind : kind.IsOfKind reference
      · cases hfound : store.resolve store.scopes reference with
        | error e =>
          rw [follow_of_unresolvable href hkind hfound] at h
          cases h
        | ok found =>
          obtain ⟨url, u⟩ := found
          have hrefers : RefersTo store kind v u := ⟨href, hkind, hfound⟩
          rw [follow_of_refersTo hrefers] at h
          obtain ⟨k, hk, hchain, hend⟩ := ih h
          exact ⟨k + 1, by omega, .hop hrefers hchain, hend⟩
      · rw [follow_of_misdirected href hkind] at h
        cases h

/-- Where a chain is short enough, its end decides. -/
lemma resolve_of_chain (h : Chain store kind n v w) (hn : n < greatestDistance) :
    ∃ k, resolve store kind v = follow store kind (k + 1) w := by
  obtain ⟨k, hk⟩ : ∃ k, greatestDistance = n + (k + 1) := ⟨greatestDistance - n - 1, by omega⟩
  exact ⟨k, by rw [resolve, hk, follow_of_chain h]⟩

lemma resolve_of_chain_greatestDistance (h : Chain store kind greatestDistance v w) :
    resolve store kind v = .error (.referenceCycle kind.start) :=
  follow_of_chain h 0

/-- **What a declaration stands for.**  It is the declaration without a reference in which a chain
of fewer than sixteen references ends.  If there are sixteen references, of which each is one to
components of the kind and leads to a declaration, then they count as a cycle, as does every chain
that comes back to a declaration.  If one of the first sixteen references is no such reference,
then it is malformed, and if it leads nowhere, then the reason for that is what comes out. -/
theorem resolve_exact (store : Store) (kind : Component) (v : Value) :
    (∀ w, resolve store kind v = .ok w ↔
      ∃ n < greatestDistance, Chain store kind n v w ∧ reference? w = none) ∧
    ((∃ w, Chain store kind greatestDistance v w) →
      resolve store kind v = .error (.referenceCycle kind.start)) ∧
    (∀ m n w, Chain store kind m v w → Chain store kind (n + 1) w w →
      resolve store kind v = .error (.referenceCycle kind.start)) ∧
    ∀ n < greatestDistance, ∀ w reference, Chain store kind n v w →
      reference? w = some reference →
      (¬ kind.IsOfKind reference → resolve store kind v = .error (.malformed
        s!"invalid reference: {reference}. Expected prefix: {kind.start}")) ∧
      ∀ e, kind.IsOfKind reference → store.resolve store.scopes reference = .error e →
        resolve store kind v = .error e := by
  have hcycle : (∃ w, Chain store kind greatestDistance v w) →
      resolve store kind v = .error (.referenceCycle kind.start) :=
    fun ⟨_, hchain⟩ => resolve_of_chain_greatestDistance hchain
  refine ⟨fun w => ⟨exists_chain_of_follow, ?_⟩, hcycle,
    fun m n w hchain hcircle => hcycle (hchain.endless hcircle _),
    fun n hn w reference hchain href => ?_⟩
  · rintro ⟨n, hn, hchain, hend⟩
    obtain ⟨k, hk⟩ := resolve_of_chain hchain hn
    rw [hk, follow_of_none hend]
  · obtain ⟨k, hk⟩ := resolve_of_chain hchain hn
    rw [hk]
    exact ⟨follow_of_misdirected href, fun e hkind => follow_of_unresolvable href hkind⟩

/-! ### A chain of sixteen references -/

namespace Relay

/-- A reference to a parameter. -/
def refer (name : String) : Value :=
  .object [("$ref", .string ("#/components/parameters/" ++ name))]

/-- A parameter. -/
def limit : Value := .object [("name", .string "limit")]

/-- Parameters that refer one to the next; the sixteenth has no reference. -/
def fields : Fields :=
  [("a", refer "b"), ("b", refer "c"), ("c", refer "d"), ("d", refer "e"), ("e", refer "f"),
    ("f", refer "g"), ("g", refer "h"), ("h", refer "i"), ("i", refer "j"), ("j", refer "k"),
    ("k", refer "l"), ("l", refer "m"), ("m", refer "n"), ("n", refer "o"), ("o", refer "p"),
    ("p", limit), ("ping", refer "pong"), ("pong", refer "ping"),
    ("stray", .object [("$ref", .string "#/components/responses/r")])]

/-- The document of the parameters. -/
def document : Value := .object [("components", .object [("parameters", .object fields)])]

/-- The store of the document. -/
def documents : Store := ⟨"", [("", document)]⟩

/-- A reference within the document is to the document itself. -/
lemma document_eq (name : String) : Reference.normalize
    (String.ofList (Reference.document ("#/components/parameters/" ++ name))) = "" := by
  rw [Reference.document_eq_nil String.toList_append]
  decide

lemma refersTo {name : String} {w : Value}
    (hurl : Reference.normalize
      (String.ofList (Reference.document ("#/components/parameters/" ++ name))) = "")
    (hfound : Store.resolvePointer document
      (Reference.cutFragment ("#/components/parameters/" ++ name).toList).2 = .ok w) :
    RefersTo documents .parameter (refer name) w := by
  have hjoin (reference : String) :
      Reference.join documents.scopes.current reference = reference := if_pos rfl
  have hresolve : documents.resolve documents.scopes ("#/components/parameters/" ++ name) =
      .ok ("#/components/parameters/" ++ name, w) := by
    rw [Store.resolve, hjoin, Store.resolveUrl_eq, hurl]
    exact congrArg (· >>= _) hfound
  exact ⟨rfl, ⟨name.toList, String.toList_append.symm⟩, hresolve⟩

/-- The references from the second parameter on. -/
lemma fifteen : Chain documents .parameter 15 (refer "b") limit := by
  iterate 15 refine .hop (refersTo (document_eq _) rfl) ?_
  exact .here limit

lemma sixteen : Chain documents .parameter 16 (refer "a") limit :=
  .hop (refersTo (document_eq _) rfl) fifteen

end Relay

open Relay in
/-- Fifteen references are followed.  Two parameters that refer to each other are a cycle, and a
reference to a response is none to a parameter. -/
theorem fifteen_references_are_followed :
    resolve documents .parameter (refer "b") = .ok limit ∧
    resolve documents .parameter (refer "ping") =
      .error (.referenceCycle "#/components/parameters/") ∧
    resolve documents .parameter (refer "stray") = .error (.malformed
      "invalid reference: #/components/responses/r. Expected prefix: #/components/parameters/") := by
  have hping : RefersTo documents .parameter (refer "ping") (refer "pong") :=
    refersTo (by decide) rfl
  have hpong : RefersTo documents .parameter (refer "pong") (refer "ping") :=
    refersTo (by decide) rfl
  have hstray : RefersTo documents .parameter (refer "stray")
      (.object [("$ref", .string "#/components/responses/r")]) :=
    refersTo (by decide) rfl
  refine ⟨?_, ?_, ?_⟩
  · exact ((resolve_exact documents .parameter (refer "b")).1 limit).2
      ⟨15, by decide, fifteen, rfl⟩
  · obtain ⟨-, -, hcircle, -⟩ := resolve_exact documents .parameter (refer "ping")
    exact hcircle 0 1 _ (.here _) (.hop hping (.hop hpong (.here _)))
  · obtain ⟨-, -, -, hend⟩ := resolve_exact documents .parameter (refer "stray")
    refine (hend 1 (by decide) _ _ (.hop hstray (.here _)) rfl).1 ?_
    rw [IsOfKind]
    decide

open Relay in
/-- **A component behind sixteen references is not found.**  Sixteen references to parameters lead
to one, which has no reference, but they count as a cycle. -/
theorem sixteen_references_are_refused :
    greatestDistance = 16 ∧ Chain documents .parameter 16 (refer "a") limit ∧
      reference? limit = none ∧
      resolve documents .parameter (refer "a") =
        .error (.referenceCycle "#/components/parameters/") :=
  ⟨rfl, sixteen, rfl, resolve_of_chain_greatestDistance sixteen⟩

end ApiContract.Component
