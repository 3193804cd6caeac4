/-
# The URLs that references lead to

Scopes are changed by references and by the schemas that open scopes of their own, and there
may be infinitely many of them.  But the URLs under which something is found are few: the
document of such a URL is a key of the store or is named by a link of the schema or of the
documents, and its fragment comes from such a link.

This needs the URLs that are joined to be spelled in the usual way.
-/
import ApiContract.Proofs.Schema.Asks
import ApiContract.Proofs.Url.Reference
import ApiContract.Proofs.Value.Part
import Mathlib.Algebra.Order.BigOperators.Group.List
import Mathlib.Algebra.Order.Group.Nat
import Mathlib.Data.List.ProdSigma

namespace ApiContract

namespace Store

variable {store : Store} {start url : String} {schema s target : Value}

/-! ## What a schema and the documents contain -/

/-- The values in a schema and in the documents. -/
def Knows (store : Store) (schema s : Value) : Prop :=
  schema.Contains s ∨ ∃ entry ∈ store.documents, entry.2.Contains s

/-- A schema among the known values refers to something. -/
def Refers (store : Store) (schema : Value) (reference : String) : Prop :=
  ∃ fields, store.Knows schema (.object fields) ∧
    fields.lookup Keyword.ref.name = some (.string reference)

/-- A schema among the known values opens a scope. -/
def Opens (store : Store) (schema : Value) (uri : String) : Prop :=
  ∃ fields, store.Knows schema (.object fields) ∧
    (fields.lookup "id").bind Value.string? = some uri

/-- All texts that a schema and the documents link to. -/
def links (store : Store) (schema : Value) : List String :=
  schema.links ++ store.documents.flatMap fun entry => entry.2.links

lemma Knows.contains {w : Value} (h : store.Knows schema s) (hw : s.Contains w) :
    store.Knows schema w := by
  rcases h with h | ⟨entry, hentry, h⟩
  · exact Or.inl (h.trans hw)
  · exact Or.inr ⟨entry, hentry, h.trans hw⟩

lemma Knows.mem_links {fields : Fields} {name text : String}
    (h : store.Knows schema (.object fields)) (hname : name = Keyword.ref.name ∨ name = "id")
    (hlookup : fields.lookup name = some (.string text)) : text ∈ store.links schema := by
  rw [links, List.mem_append, List.mem_flatMap]
  rcases h with h | ⟨entry, hentry, h⟩
  · exact Or.inl (Value.mem_links h hname hlookup)
  · exact Or.inr ⟨entry, hentry, Value.mem_links h hname hlookup⟩

lemma Refers.mem_links {reference : String} (h : store.Refers schema reference) :
    reference ∈ store.links schema := by
  obtain ⟨fields, hknows, hlookup⟩ := h
  exact hknows.mem_links (Or.inl rfl) hlookup

lemma Opens.mem_links {uri : String} (h : store.Opens schema uri) :
    uri ∈ store.links schema := by
  obtain ⟨fields, hknows, hid⟩ := h
  obtain ⟨value, hlookup, hvalue⟩ := Option.bind_eq_some_iff.1 hid
  obtain rfl := Value.string?_eq_some_iff.1 hvalue
  exact hknows.mem_links (Or.inr rfl) hlookup

/-! ### Their numbers -/

lemma size_le_size {entry : String × Value} (h : entry ∈ store.documents) :
    entry.2.size ≤ store.size :=
  List.single_le_sum (by simp) _ (List.mem_map_of_mem h)

lemma Knows.size_le (h : store.Knows schema s) : s.size ≤ store.size + schema.size := by
  rcases h with h | ⟨entry, hentry, h⟩
  · have hle := h.size_le
    omega
  · have hle := h.size_le
    have hentry := size_le_size hentry
    omega

lemma length_links_le (store : Store) (schema : Value) :
    (store.links schema).length ≤ store.size + schema.size := by
  have hschema := schema.length_links_lt
  have hdocuments : (store.documents.flatMap fun entry => entry.2.links).length ≤ store.size := by
    rw [List.length_flatMap, size]
    exact List.sum_le_sum fun entry _ => entry.2.length_links_lt.le
  rw [links, List.length_append]
  omega

lemma length_documents_le (store : Store) : store.documents.length ≤ store.size := by
  have hle : (store.documents.map fun _ => 1).sum ≤ store.size :=
    List.sum_le_sum fun entry _ => entry.2.size_pos
  simpa using hle

/-! ## What is found -/

lemma resolveUrl_eq (store : Store) (url : String) :
    store.resolveUrl url =
      match store.documents.lookup
        (Reference.normalize (String.ofList (Reference.document url))) with
      | some v => resolvePointer v (Reference.cutFragment url.toList).2
      | none => .error (.unresolvableReference url) := rfl

/-- What is found under a URL: a document of the store has the name of the URL's document in
its usual spelling, and contains the target. -/
lemma exists_document_of_resolveUrl (h : store.resolveUrl url = .ok target) :
    ∃ entry ∈ store.documents,
      entry.1 = Reference.normalize (String.ofList (Reference.document url)) ∧
        entry.2.Contains target := by
  rw [resolveUrl_eq] at h
  generalize Reference.normalize (String.ofList (Reference.document url)) = key at h ⊢
  split at h
  · rename_i document hlookup
    refine ⟨(_, document), Fields.mem_of_lookup hlookup, rfl, ?_⟩
    rw [resolvePointer] at h
    split at h
    · rename_i w hw
      obtain rfl := Except.ok.inj h
      exact Pointer.resolve?_contains hw
    · simp at h
  · simp at h

lemma knows_of_resolveUrl (h : store.resolveUrl url = .ok target) :
    store.Knows schema target := by
  obtain ⟨entry, hentry, -, hcontains⟩ := exists_document_of_resolveUrl h
  exact Or.inr ⟨entry, hentry, hcontains⟩

/-! ## Scopes -/

/-- The scopes that may come about: the first one, and those that schemas open and references
lead to. -/
inductive Base (store : Store) (start : String) (schema : Value) : String → Prop
  | start : Base store start schema start
  | opens {base uri : String} :
      Base store start schema base → store.Opens schema uri →
      Base store start schema (Reference.join base uri)
  | follows {base reference : String} {target : Value} :
      Base store start schema base → store.Refers schema reference →
      store.resolveUrl (Reference.join base reference) = .ok target →
      Base store start schema (Reference.join base reference)

/-- What is expected of the URLs that come about: those that references are joined to come
back when they are joined again, and all of them are spelled in the usual way. -/
structure JoinsWell (store : Store) (start : String) (schema : Value) : Prop where
  /-- A URL that a reference has been joined to comes back. -/
  comesBack : ∀ {base reference}, Base store start schema base →
    store.Refers schema reference → Reference.ComesBack base reference
  /-- A URL that has been joined is spelled in the usual way. -/
  respelled : ∀ {base reference}, Base store start schema base →
    store.Refers schema reference ∨ store.Opens schema reference →
    Reference.Respelled base reference

/-- Scopes among which all links lead are all scopes that come about, so that it is enough to
look at the URLs that links are joined to in them. -/
lemma joinsWell_of_closed {bases : List String} (hstart : start ∈ bases)
    (hbases : ∀ base ∈ bases, ∀ link ∈ store.links schema,
      Reference.join base link ∈ bases ∧ Reference.ComesBack base link ∧
        Reference.Respelled base link) :
    store.JoinsWell start schema := by
  have hmem : ∀ {base}, store.Base start schema base → base ∈ bases := by
    intro base h
    induction h with
    | start => exact hstart
    | opens _ hopens ih => exact (hbases _ ih _ hopens.mem_links).1
    | follows _ hrefers _ ih => exact (hbases _ ih _ hrefers.mem_links).1
  refine ⟨fun hbase hrefers => (hbases _ (hmem hbase) _ hrefers.mem_links).2.1,
    fun hbase hlink => (hbases _ (hmem hbase) _ ?_).2.2⟩
  exact hlink.elim Refers.mem_links Opens.mem_links

/-- The documents that may be named by links alone. -/
def homes (store : Store) (start : String) (schema : Value) : List (List Char) :=
  Reference.document start :: (store.links schema).map Reference.document

/-- The document of a scope is named by a link, or it is spelled in the usual way. -/
def AtHome (store : Store) (start : String) (schema : Value) (base : String) : Prop :=
  Reference.document base ∈ store.homes start schema ∨
    Reference.normalize (String.ofList (Reference.document base)) =
      String.ofList (Reference.document base)

/-- The fragments, with their hashes, that links declare; as they are or in encoded form. -/
def endings (store : Store) (schema : Value) : List (List Char) :=
  (store.links schema).map Reference.ending ++
    (store.links schema).map fun link =>
      Url.fragmentText (Url.fragmentOf (Url.significant link.toList))

/-- The URLs under which something may be found. -/
def candidates (store : Store) (start : String) (schema : Value) : List String :=
  ((store.homes start schema ++ store.documents.map fun entry => entry.1.toList) ×ˢ
    store.endings schema).map fun parts => String.ofList (parts.1 ++ parts.2)

/-- There are not many candidates. -/
lemma length_candidates_le (store : Store) (start : String) (schema : Value) :
    (store.candidates start schema).length ≤
      (2 * (store.size + schema.size) + 1) * (2 * (store.size + schema.size)) := by
  have hlinks := store.length_links_le schema
  have hdocuments := store.length_documents_le
  rw [candidates, List.length_map, List.length_product]
  refine Nat.mul_le_mul ?_ ?_
  · simp only [homes, List.length_append, List.length_cons, List.length_map]
    omega
  · simp only [endings, List.length_append, List.length_map]
    omega

section

variable {base reference : String}

lemma atHome_of_mem_links (h : reference ∈ store.links schema) :
    AtHome store start schema reference :=
  Or.inl (List.mem_cons_of_mem _ (List.mem_map_of_mem h))

/-- The document of a URL that has been read and joined is spelled as it is found. -/
lemma document_of_joined {b u : Url} (hread : Url.read? base.toList = some b)
    (hurl : Url.join? b reference.toList = some u) :
    Reference.document (String.ofList u.text) = u.stem ∧
      u.text = u.stem ++
        Url.fragmentText (Url.fragmentOf (Url.significant reference.toList)) ∧
      (Reference.Respelled base reference →
        Reference.normalize (String.ofList u.stem) = String.ofList u.stem) := by
  have hjoined := Url.join_read (Url.read_read hread).unhashed hurl
  have hnot := hjoined.unhashed.stem
  have htext := hjoined.fragment ▸ u.text_eq_stem
  refine ⟨?_, htext, fun h => ?_⟩
  · rw [htext]
    exact Reference.document_append hnot (Reference.beginsFragment_fragmentText _)
  · obtain ⟨u', hu', hspelled⟩ := Option.map_eq_some_iff.1 (h b u hread hurl)
    rw [Reference.normalize_of_read hnot hu', hspelled]

/-- Joining a link to a scope leads to a scope whose document is named by a link or spelled in
the usual way. -/
lemma AtHome.join (h : AtHome store start schema base) (href : reference ∈ store.links schema)
    (hspelled : Reference.Respelled base reference) :
    AtHome store start schema (Reference.join base reference) := by
  rcases Reference.joined base reference with ⟨hread, hurl, hjoin⟩ | hjoin | ⟨-, -, hjoin⟩
  · obtain ⟨hdocument, -, hnormal⟩ := document_of_joined hread hurl
    right
    rw [hjoin, hdocument]
    exact hnormal hspelled
  · rw [hjoin]
    exact atHome_of_mem_links href
  · rw [AtHome, hjoin, Reference.document_append (Reference.not_mem_document base)
      (Or.inr ⟨_, rfl⟩)]
    exact h

lemma Base.atHome (hwell : store.JoinsWell start schema) (h : store.Base start schema base) :
    AtHome store start schema base := by
  induction h with
  | start => exact Or.inl (List.mem_cons_self ..)
  | opens hbase hopens ih =>
    exact ih.join hopens.mem_links (hwell.respelled hbase (Or.inr hopens))
  | follows hbase hrefers _ ih =>
    exact ih.join hrefers.mem_links (hwell.respelled hbase (Or.inl hrefers))

lemma mem_candidates {d e : List Char}
    (hd : d ∈ store.homes start schema ∨ ∃ entry ∈ store.documents, entry.1 = String.ofList d)
    (he : e ∈ store.endings schema) :
    String.ofList (d ++ e) ∈ store.candidates start schema := by
  rw [candidates, List.mem_map]
  refine ⟨(d, e), List.mem_product.2 ⟨List.mem_append.2 (hd.imp id ?_), he⟩, rfl⟩
  rintro ⟨entry, hentry, hkey⟩
  exact List.mem_map.2 ⟨entry, hentry, by rw [hkey, String.toList_ofList]⟩

/-- **The URLs that references lead to are few**: whatever is found for a reference in a scope
that comes about is found under a candidate. -/
theorem Base.mem_candidates (hwell : store.JoinsWell start schema)
    (h : store.Base start schema base) (href : store.Refers schema reference)
    (hfound : store.resolveUrl (Reference.join base reference) = .ok target) :
    Reference.join base reference ∈ store.candidates start schema := by
  have hlink := href.mem_links
  have hending : Reference.ending reference ∈ store.endings schema :=
    List.mem_append_left _ (List.mem_map_of_mem hlink)
  obtain ⟨entry, hentry, hkey, -⟩ := exists_document_of_resolveUrl hfound
  rcases Reference.joined base reference with ⟨hread, hurl, hjoin⟩ | hjoin | ⟨-, hcs, hjoin⟩
  · -- A URL that has been read is found under its document.
    obtain ⟨hdocument, heq, hnormal⟩ := document_of_joined hread hurl
    rw [hjoin, hdocument, hnormal (hwell.respelled h (Or.inl href))] at hkey
    rw [hjoin, heq]
    refine Store.mem_candidates (Or.inr ⟨entry, hentry, hkey⟩) (List.mem_append_right _ ?_)
    exact List.mem_map_of_mem hlink
  · -- The reference stands for itself.
    rw [hjoin, ← @String.ofList_toList reference, ← Reference.document_append_ending]
    refine Store.mem_candidates (Or.inl ?_) hending
    exact List.mem_cons_of_mem _ (List.mem_map_of_mem hlink)
  · -- The reference is an ending only, which the document of the base gets.
    rename_i cs
    have hdocument := Reference.document_eq_nil hcs
    have hcs' : Reference.ending reference = '#' :: cs := by
      rw [← hcs, ← Reference.document_append_ending, hdocument, List.nil_append]
    rw [hjoin, Reference.document_append (Reference.not_mem_document base) (Or.inr ⟨_, rfl⟩)]
      at hkey
    rw [hjoin, ← hcs']
    refine Store.mem_candidates ?_ hending
    rcases h.atHome hwell with hhome | hnormal
    · exact Or.inl hhome
    · exact Or.inr ⟨entry, hentry, hkey.trans hnormal⟩

end

/-- What is not found is no error of circular references. -/
lemma resolveUrl_ne_cycle (store : Store) (url url' : String) :
    store.resolveUrl url ≠ .error (.referenceCycle url') := by
  rw [resolveUrl_eq]
  split
  · rw [resolvePointer]
    split <;> simp
  · simp

end Store

end ApiContract
