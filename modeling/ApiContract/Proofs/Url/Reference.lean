/-
# Joining references

A reference that has been joined is its document with the fragment it declares.  Joining it
once more to the same base changes nothing, as long as this holds of the URLs among them: a
base that is no URL takes over nothing but fragments.
-/
import ApiContract.Proofs.Url.Fragment
import ApiContract.Schema.Store

namespace ApiContract

namespace Reference

/-! ## Documents and fragments -/

/-- The document that a URI names, which is the URI without its fragment. -/
def document (uri : String) : List Char :=
  (cutFragment uri.toList).1

/-- The part of a URI after its document: nothing, or a hash and the fragment. -/
def ending (uri : String) : List Char :=
  uri.toList.drop (document uri).length

variable {cs ds : List Char}

/-- A text begins a fragment if it is empty or begins with a hash. -/
def BeginsFragment (cs : List Char) : Prop :=
  cs = [] ∨ ∃ ds, cs = '#' :: ds

lemma beginsFragment_fragmentText (fragment : Option (List Char)) :
    BeginsFragment (Url.fragmentText fragment) := by
  cases fragment with
  | none => exact Or.inl rfl
  | some ds => exact Or.inr ⟨ds, rfl⟩

lemma cutFragment_eq_none (h : '#' ∉ cs) : cutFragment cs = (cs, []) := by
  have hcut : Text.cut '#' cs = none := by
    cases hcut : Text.cut '#' cs with
    | none => rfl
    | some parts =>
      rw [(Text.cut_eq_some_iff.1 hcut).1] at h
      simp at h
  rw [cutFragment, hcut, Option.getD_none]

lemma cutFragment_append (h : '#' ∉ cs) (ds : List Char) :
    cutFragment (cs ++ '#' :: ds) = (cs, ds) := by
  rw [cutFragment, Text.cut_eq_some_iff.2 ⟨rfl, h⟩, Option.getD_some]

lemma cutFragment_cases (cs : List Char) :
    ('#' ∉ cs ∧ cutFragment cs = (cs, [])) ∨
      ∃ before after, cs = before ++ '#' :: after ∧ '#' ∉ before ∧
        cutFragment cs = (before, after) := by
  by_cases h : '#' ∈ cs
  · obtain ⟨before, after, rfl, hbefore⟩ := List.eq_append_cons_of_mem h
    exact Or.inr ⟨before, after, rfl, hbefore, cutFragment_append hbefore after⟩
  · exact Or.inl ⟨h, cutFragment_eq_none h⟩

lemma document_append (hcs : '#' ∉ cs) (hds : BeginsFragment ds) :
    document (String.ofList (cs ++ ds)) = cs := by
  rw [document, String.toList_ofList]
  rcases hds with rfl | ⟨ds, rfl⟩
  · rw [List.append_nil, cutFragment_eq_none hcs]
  · rw [cutFragment_append hcs]

lemma not_mem_document (uri : String) : '#' ∉ document uri := by
  rw [document]
  rcases cutFragment_cases uri.toList with ⟨hnot, hcut⟩ | ⟨before, after, -, hnot, hcut⟩
  · rw [hcut]
    exact hnot
  · rw [hcut]
    exact hnot

lemma document_append_ending (uri : String) : document uri ++ ending uri = uri.toList := by
  rw [ending, document]
  rcases cutFragment_cases uri.toList with ⟨-, hcut⟩ | ⟨before, after, huri, -, hcut⟩
  · simp [hcut]
  · rw [hcut, huri, List.drop_left]

lemma document_eq_nil {uri : String} (h : uri.toList = '#' :: cs) : document uri = [] := by
  have happend := @document_append [] ('#' :: cs) (by simp) (Or.inr ⟨cs, rfl⟩)
  rwa [List.nil_append, ← h, String.ofList_toList] at happend

/-! ## The usual spelling -/

lemma normalize_of_read (h : '#' ∉ cs) {u : Url} (hread : Url.read? cs = some u) :
    normalize (String.ofList cs) = String.ofList u.text := by
  simp only [normalize, String.toList_ofList, cutFragment_eq_none h, hread]

/-! ## Joining -/

/-- How a reference is joined: either as a URL to a base that is one, or not at all, or as a
fragment to a base that is no URL. -/
inductive Joined (base reference : String) : Prop
  /-- The base is a URL, and the reference is joined to it. -/
  | url {b u : Url} : Url.read? base.toList = some b → Url.join? b reference.toList = some u →
      join base reference = String.ofList u.text → Joined base reference
  /-- The base plays no part. -/
  | alone : join base reference = reference → Joined base reference
  /-- The base takes over a fragment. -/
  | fragment {cs : List Char} : Url.read? base.toList = none → reference.toList = '#' :: cs →
      join base reference = String.ofList (document base ++ '#' :: cs) → Joined base reference

lemma significant_cons_hash (cs : List Char) :
    (Url.significant ('#' :: cs)).head? = some '#' := by
  rw [Url.significant, List.dropWhile_cons_of_neg (by simp), List.reverse_cons,
    List.dropWhile_append]
  split
  · simp
  · simp

/-- A fragment can be joined to every URL. -/
lemma join?_hash_ne_none (b : Url) (cs : List Char) : Url.join? b ('#' :: cs) ≠ none := by
  obtain ⟨ds, hds⟩ := List.head?_eq_some_iff.1 (significant_cons_hash cs)
  have hscheme : Url.cutScheme ('#' :: ds) = none := by
    rw [Url.cutScheme, Text.cut, if_neg (by decide)]
    rcases Text.cut ':' ds with _ | ⟨before, after⟩
    · rfl
    · simp [show Char.isAlpha '#' = false by decide]
  rw [Url.join?, Url.readAgainst?, hds]
  simp [hscheme]

lemma join_of_none {base reference : String} (hbase : base ≠ "")
    (h : (Url.read? base.toList).bind (Url.join? · reference.toList) = none) :
    (∃ cs, reference.toList = '#' :: cs ∧
        join base reference = String.ofList (document base ++ '#' :: cs)) ∨
      join base reference = reference := by
  rw [join, if_neg hbase, h]
  dsimp only
  split
  · rename_i cs href
    exact Or.inl ⟨cs, href, rfl⟩
  · exact Or.inr rfl

lemma joined (base reference : String) : Joined base reference := by
  by_cases hbase : base = ""
  · exact .alone (by rw [join, if_pos hbase])
  · rcases hread : Url.read? base.toList with _ | b
    · rcases @join_of_none base reference hbase (by rw [hread, Option.bind_none]) with
        ⟨cs, href, hjoin⟩ | hjoin
      · exact .fragment hread href hjoin
      · exact .alone hjoin
    · rcases hurl : Url.join? b reference.toList with _ | u
      · rcases @join_of_none base reference hbase (by rw [hread, Option.bind_some, hurl])
          with ⟨cs, href, -⟩ | hjoin
        · rw [href] at hurl
          exact absurd hurl (join?_hash_ne_none b cs)
        · exact .alone hjoin
      · refine .url hread hurl ?_
        rw [join, if_neg hbase, hread, Option.bind_some, hurl]

/-- A URL that has been joined to a base comes back when it is joined to it again. -/
def ComesBack (base reference : String) : Prop :=
  ∀ b u, Url.read? base.toList = some b → Url.join? b reference.toList = some u →
    (Url.join? b u.text).map Url.text = some u.text

/-- Reading the text of a URL that has been joined, without its fragment, and writing it again
changes nothing. -/
def Respelled (base reference : String) : Prop :=
  ∀ b u, Url.read? base.toList = some b → Url.join? b reference.toList = some u →
    (Url.read? u.stem).map Url.text = some u.stem

instance (base reference : String) : Decidable (ComesBack base reference) :=
  decidable_of_iff
    (∀ b ∈ Url.read? base.toList, ∀ u ∈ Url.join? b reference.toList,
      (Url.join? b u.text).map Url.text = some u.text)
    ⟨fun h b u hb hu => h b hb u hu, fun h b hb u hu => h b u hb hu⟩

instance (base reference : String) : Decidable (Respelled base reference) :=
  decidable_of_iff
    (∀ b ∈ Url.read? base.toList, ∀ u ∈ Url.join? b reference.toList,
      (Url.read? u.stem).map Url.text = some u.stem)
    ⟨fun h b u hb hu => h b hb u hu, fun h b hb u hu => h b u hb hu⟩

/-- Joining a reference twice to the same base is joining it once. -/
lemma join_join {base reference : String} (h : ComesBack base reference) :
    join base (join base reference) = join base reference := by
  by_cases hbase : base = ""
  · rw [join, if_pos hbase]
  · rcases joined base reference with ⟨hread, hurl, hjoin⟩ | hjoin | ⟨hread, href, hjoin⟩
    · obtain ⟨u', hu', htext⟩ := Option.map_eq_some_iff.1 (h _ _ hread hurl)
      rw [hjoin, join, if_neg hbase, hread, Option.bind_some, String.toList_ofList, hu']
      dsimp only
      rw [htext]
    · rw [hjoin, hjoin]
    · rw [hjoin, join, if_neg hbase, hread, Option.bind_none, String.toList_ofList]
      dsimp only
      have hnot := not_mem_document base
      -- The document takes over the fragment again only if it is empty.
      cases hdocument : document base with
      | nil =>
        rw [List.nil_append]
        show String.ofList ((cutFragment base.toList).1 ++ '#' :: _) = _
        rw [← document, hdocument, List.nil_append]
      | cons c ds =>
        rw [hdocument, List.mem_cons, not_or] at hnot
        rw [List.cons_append]
        split
        · rename_i heq
          exact absurd (List.cons.inj heq).1.symm hnot.1
        · rfl

end Reference

end ApiContract
