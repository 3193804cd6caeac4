/-
# Parameters that replace others

A parameter is told from others by its location and name.  One that is declared again stands where
the first one with its location and name stood and is what the last one says.  So of two lists of
declarations the later one wins, and what it does not name is kept from the earlier one.
-/
import ApiContract.Proofs.Parameter.Collection

namespace ApiContract.Parameters

variable {p q : Parameter} {ps : Parameters} {declared earlier later : List Parameter}

/-- What parameters are told apart by. -/
def identity (p : Parameter) : Location × String :=
  (p.location, p.name)

lemma clash_iff_identity_eq : clash p q = true ↔ identity p = identity q := by
  rw [clash_iff, identity, identity, Prod.mk.injEq]

/-- A declaration that none after it replaces. -/
def IsLast (p : Parameter) (declared : List Parameter) : Prop :=
  ∃ before after, declared = before ++ p :: after ∧ ∀ q ∈ after, identity q ≠ identity p

lemma not_isLast_nil : ¬ IsLast p [] := by
  rintro ⟨before, after, h, -⟩
  simp at h

lemma isLast_append_singleton_iff :
    IsLast p (declared ++ [q]) ↔ p = q ∨ IsLast p declared ∧ identity q ≠ identity p := by
  constructor
  · rintro ⟨before, after, h, hafter⟩
    rcases List.eq_nil_or_concat after with rfl | ⟨after, r, rfl⟩
    · obtain ⟨-, hp⟩ := List.append_inj' h rfl
      exact Or.inl (List.singleton_inj.1 hp).symm
    · rw [List.concat_eq_append] at h hafter
      rw [← List.cons_append, ← List.append_assoc] at h
      obtain ⟨rfl, hr⟩ := List.append_inj' h rfl
      obtain rfl := List.singleton_inj.1 hr
      exact Or.inr ⟨⟨before, after, rfl, fun q hq => hafter q (List.mem_append_left _ hq)⟩,
        hafter q (by simp)⟩
  · rintro (rfl | ⟨⟨before, after, rfl, hafter⟩, hne⟩)
    · exact ⟨declared, [], rfl, fun _ hq => absurd hq List.not_mem_nil⟩
    · refine ⟨before, after ++ [q], by simp, fun r hr => ?_⟩
      rcases List.mem_append.1 hr with hr | hr
      · exact hafter r hr
      · rwa [List.mem_singleton.1 hr]

/-- A declaration of the later list replaces those of the earlier one. -/
lemma IsLast.append_left (h : IsLast p later) (earlier : List Parameter) :
    IsLast p (earlier ++ later) := by
  obtain ⟨before, after, rfl, hafter⟩ := h
  exact ⟨earlier ++ before, after, by simp, hafter⟩

/-- A declaration of the earlier list is kept if the later one does not have its identity. -/
lemma IsLast.append_right (h : IsLast p earlier)
    (hlater : ∀ q ∈ later, identity q ≠ identity p) : IsLast p (earlier ++ later) := by
  obtain ⟨before, after, rfl, hafter⟩ := h
  refine ⟨before, after ++ later, by simp, fun q hq => ?_⟩
  exact (List.mem_append.1 hq).elim (hafter q) (hlater q)

/-! ## Adding -/

/-- A parameter that is added takes the place of the one with its identity, or else the last
place. -/
lemma map_identity_add (p : Parameter) (ps : Parameters) :
    (ps.add p).map identity =
      if identity p ∈ ps.map identity then ps.map identity
      else ps.map identity ++ [identity p] := by
  induction ps with
  | nil => rfl
  | cons q ps ih =>
    rw [add]
    by_cases hclash : identity p = identity q
    · rw [if_pos (clash_iff_identity_eq.2 hclash)]
      simp [hclash]
    · rw [if_neg (mt clash_iff_identity_eq.1 hclash), List.map_cons, List.map_cons, ih]
      simp only [List.mem_cons, hclash, false_or]
      split <;> rfl

/-- A parameter that is added replaces the one with its identity, and no other. -/
lemma mem_add_iff (hdistinct : ps.Pairwise fun q r => clash q r = false) :
    p ∈ ps.add q ↔ p = q ∨ p ∈ ps ∧ identity q ≠ identity p := by
  induction ps with
  | nil => simp [add]
  | cons r ps ih =>
    obtain ⟨hr, hps⟩ := List.pairwise_cons.1 hdistinct
    rw [add]
    split
    · rename_i hclash
      rw [clash_iff_identity_eq] at hclash
      have hother : p ∈ ps → identity q ≠ identity p := fun hp heq => by
        have hclash' := clash_iff_identity_eq.2 (hclash.symm.trans heq)
        rw [hr p hp] at hclash'
        cases hclash'
      rw [List.mem_cons, List.mem_cons]
      constructor
      · exact Or.imp_right fun hp => ⟨Or.inr hp, hother hp⟩
      · rintro (rfl | ⟨rfl | hp, hne⟩)
        · exact Or.inl rfl
        · exact absurd hclash hne
        · exact Or.inr hp
    · rename_i hclash
      rw [clash_iff_identity_eq] at hclash
      rw [List.mem_cons, ih hps, List.mem_cons]
      constructor
      · rintro (rfl | rfl | ⟨hp, hne⟩)
        · exact Or.inr ⟨Or.inl rfl, hclash⟩
        · exact Or.inl rfl
        · exact Or.inr ⟨Or.inr hp, hne⟩
      · rintro (rfl | ⟨rfl | hp, hne⟩)
        · exact Or.inr (Or.inl rfl)
        · exact Or.inl rfl
        · exact Or.inr (Or.inr ⟨hp, hne⟩)

/-! ## Declaring -/

lemma eraseDups_append_of_mem {α : Type} [BEq α] [LawfulBEq α] {xs : List α} {x : α}
    (h : x ∈ xs) : (xs ++ [x]).eraseDups = xs.eraseDups := by
  have hnone : [x].removeAll xs = [] := by simpa [List.removeAll] using h
  rw [List.eraseDups_append, hnone, List.eraseDups_nil, List.append_nil]

lemma eraseDups_append_of_not_mem {α : Type} [BEq α] [LawfulBEq α] {xs : List α} {x : α}
    (h : x ∉ xs) : (xs ++ [x]).eraseDups = xs.eraseDups ++ [x] := by
  have hall : [x].removeAll xs = [x] := by simpa [List.removeAll] using h
  rw [List.eraseDups_append, hall]
  rfl

/-- Every identity has the place at which it is declared first. -/
lemma map_identity_ofList (declared : List Parameter) :
    (ofList declared).map identity = (declared.map identity).eraseDups := by
  induction declared using List.reverseRecOn with
  | nil => rfl
  | append_singleton declared p ih =>
    rw [ofList_append_singleton, map_identity_add, ih, List.map_append, List.map_singleton]
    by_cases hmem : identity p ∈ declared.map identity
    · rw [if_pos (List.mem_eraseDups.2 hmem), eraseDups_append_of_mem hmem]
    · rw [if_neg (mt List.mem_eraseDups.1 hmem), eraseDups_append_of_not_mem hmem]

/-- Every parameter is what is declared last. -/
lemma mem_ofList_iff : p ∈ ofList declared ↔ IsLast p declared := by
  induction declared using List.reverseRecOn with
  | nil => exact iff_of_false List.not_mem_nil not_isLast_nil
  | append_singleton declared q ih =>
    rw [ofList_append_singleton, mem_add_iff (pairwise_ofList declared), ih,
      isLast_append_singleton_iff]

/-- Parameters are made of two lists of declarations, of which the later one goes before. -/
structure Overrides (earlier later : List Parameter) (ps : Parameters) : Prop where
  /-- There is one parameter for each identity, in the order in which these come first. -/
  identities : ps.map identity = ((earlier ++ later).map identity).eraseDups
  /-- Each parameter is the last declaration that has its identity. -/
  last : ∀ p, p ∈ ps ↔ IsLast p (earlier ++ later)
  /-- What the later list says always counts. -/
  wins : ∀ p, IsLast p later → p ∈ ps
  /-- What the later list does not name is kept. -/
  keeps : ∀ p, IsLast p earlier → (∀ q ∈ later, identity q ≠ identity p) → p ∈ ps

theorem overrides_ofList (earlier later : List Parameter) :
    Overrides earlier later (ofList (earlier ++ later)) where
  identities := map_identity_ofList _
  last _ := mem_ofList_iff
  wins _ h := mem_ofList_iff.2 (h.append_left earlier)
  keeps _ h hlater := mem_ofList_iff.2 (h.append_right hlater)

end ApiContract.Parameters
