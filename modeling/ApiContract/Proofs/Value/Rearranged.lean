/-
# Lists with related entries in another order

Two lists are rearrangements of each other along a relation if the entries of one can be paired
off with those of the other, in whatever order.  What is done to all entries alike, and does not
look at their order, keeps lists rearranged.
-/
import ApiContract.Proofs.Walk.Result
import Mathlib.Data.List.Perm.Basic
import Mathlib.Tactic.Lemma

namespace ApiContract

variable {α α' β β' γ γ' : Type}

lemma forall₂_zip {R : α → α' → Prop} {S : β → β' → Prop} {l : List α} {l' : List α'}
    {k : List β} {k' : List β'} (h : List.Forall₂ R l l') (hk : List.Forall₂ S k k') :
    List.Forall₂ (fun p p' => R p.1 p'.1 ∧ S p.2 p'.2) (l.zip k) (l'.zip k') := by
  induction h generalizing k k' with
  | nil => exact .nil
  | cons hr _ ih =>
    cases hk with
    | nil => exact .nil
    | cons hs hk => exact .cons ⟨hr, hs⟩ (ih hk)

lemma forall₂_zipIdx {R : α → α' → Prop} {l : List α} {l' : List α'} (h : List.Forall₂ R l l')
    (start : Nat) :
    List.Forall₂ (fun p p' => R p.1 p'.1 ∧ p.2 = p'.2) (l.zipIdx start) (l'.zipIdx start) := by
  induction h generalizing start with
  | nil => exact .nil
  | cons hr _ ih => exact .cons ⟨hr, rfl⟩ (ih (start + 1))

/-- The entries of two lists are related in pairs, in whatever order they come. -/
def Rearranged (R : α → α' → Prop) (l : List α) (l' : List α') : Prop :=
  ∃ paired, List.Forall₂ R l paired ∧ paired.Perm l'

namespace Rearranged

variable {R : α → α' → Prop} {S : β → β' → Prop} {l : List α} {l' : List α'}

lemma of_forall₂ (h : List.Forall₂ R l l') : Rearranged R l l' :=
  ⟨l', h, .refl l'⟩

lemma nil : Rearranged R [] [] :=
  of_forall₂ .nil

lemma length_eq (h : Rearranged R l l') : l.length = l'.length := by
  obtain ⟨paired, hpairs, hperm⟩ := h
  exact hpairs.length_eq.trans hperm.length_eq

lemma eq_nil_iff (h : Rearranged R l l') : l = [] ↔ l' = [] := by
  rw [← List.length_eq_zero_iff, ← List.length_eq_zero_iff, h.length_eq]

lemma isEmpty_eq (h : Rearranged R l l') : l.isEmpty = l'.isEmpty := by
  rw [Bool.eq_iff_iff, List.isEmpty_iff, List.isEmpty_iff, h.eq_nil_iff]

/-- The list whose entries are paired off may itself be put into another order first. -/
lemma of_perm {m : List α} (hperm : l.Perm m) (h : List.Forall₂ R m l') : Rearranged R l l' :=
  List.perm_comp_forall₂ hperm h

lemma symm {R' : α' → α → Prop} (hsymm : ∀ a a', R a a' → R' a' a) (h : Rearranged R l l') :
    Rearranged R' l' l := by
  obtain ⟨paired, hpairs, hperm⟩ := h
  exact of_perm hperm.symm (hpairs.imp hsymm).flip

lemma imp {R' : α → α' → Prop} (h : Rearranged R l l')
    (himp : ∀ a ∈ l, ∀ a' ∈ l', R a a' → R' a a') : Rearranged R' l l' := by
  obtain ⟨paired, hpairs, hperm⟩ := h
  exact ⟨paired, forall₂_imp_mem hpairs fun a ha a' ha' =>
    himp a ha a' (hperm.mem_iff.1 ha'), hperm⟩

lemma exists_right (h : Rearranged R l l') {a : α} (ha : a ∈ l) : ∃ a' ∈ l', R a a' := by
  obtain ⟨paired, hpairs, hperm⟩ := h
  obtain ⟨a', ha', hr⟩ := exists_right_of_forall₂ hpairs ha
  exact ⟨a', hperm.mem_iff.1 ha', hr⟩

lemma exists_left (h : Rearranged R l l') {a' : α'} (ha' : a' ∈ l') : ∃ a ∈ l, R a a' := by
  obtain ⟨paired, hpairs, hperm⟩ := h
  exact exists_left_of_forall₂ hpairs (hperm.mem_iff.2 ha')

/-! ## What keeps lists rearranged -/

lemma append {k : List α} {k' : List α'} (h : Rearranged R l l') (hk : Rearranged R k k') :
    Rearranged R (l ++ k) (l' ++ k') := by
  obtain ⟨paired, hpairs, hperm⟩ := h
  obtain ⟨paired', hpairs', hperm'⟩ := hk
  exact ⟨paired ++ paired', List.rel_append hpairs hpairs', hperm.append hperm'⟩

lemma map {f : α → β} {f' : α' → β'} (h : Rearranged R l l')
    (hf : ∀ a a', R a a' → S (f a) (f' a')) : Rearranged S (l.map f) (l'.map f') := by
  obtain ⟨paired, hpairs, hperm⟩ := h
  refine ⟨paired.map f', ?_, hperm.map f'⟩
  rw [List.forall₂_map_left_iff, List.forall₂_map_right_iff]
  exact hpairs.imp hf

/-- A map under which related entries come to the same gives lists that are permutations. -/
lemma map_perm {f : α → β} {f' : α' → β} (h : Rearranged R l l')
    (hf : ∀ a a', R a a' → f a = f' a') : (l.map f).Perm (l'.map f') := by
  obtain ⟨paired, heq, hperm⟩ := h.map (S := Eq) hf
  rw [List.forall₂_eq_eq_eq] at heq
  exact heq ▸ hperm

lemma filter {p : α → Bool} {p' : α' → Bool} (h : Rearranged R l l')
    (hp : ∀ a a', R a a' → p a = p' a') : Rearranged R (l.filter p) (l'.filter p') := by
  obtain ⟨paired, hpairs, hperm⟩ := h
  refine ⟨paired.filter p', ?_, hperm.filter p'⟩
  exact List.rel_filter (fun a a' hr => by simp only [hp a a' hr]) hpairs

lemma any_eq {p : α → Bool} {p' : α' → Bool} (h : Rearranged R l l')
    (hp : ∀ a a', R a a' → p a = p' a') : l.any p = l'.any p' := by
  rw [Bool.eq_iff_iff, List.any_eq_true, List.any_eq_true]
  constructor
  · rintro ⟨a, ha, hpa⟩
    obtain ⟨a', ha', hr⟩ := h.exists_right ha
    exact ⟨a', ha', hp a a' hr ▸ hpa⟩
  · rintro ⟨a', ha', hpa⟩
    obtain ⟨a, ha, hr⟩ := h.exists_left ha'
    exact ⟨a, ha, (hp a a' hr).symm ▸ hpa⟩

/-- Lists that are put after each other may come in another order, too. -/
lemma flatten {ls : List (List α)} {ls' : List (List α')}
    (h : Rearranged (Rearranged R) ls ls') : Rearranged R ls.flatten ls'.flatten := by
  obtain ⟨paired, hpairs, hperm⟩ := h
  -- The lists are rearranged one by one, and then they change places.
  have hone : Rearranged R ls.flatten paired.flatten := by
    clear hperm
    induction hpairs with
    | nil => exact nil
    | cons hr _ ih => exact hr.append ih
  obtain ⟨m, hm, hm'⟩ := hone
  exact ⟨m, hm, hm'.trans hperm.flatten⟩

lemma flatMap {f : α → List β} {f' : α' → List β'} (h : Rearranged R l l')
    (hf : ∀ a a', R a a' → Rearranged S (f a) (f' a')) :
    Rearranged S (l.flatMap f) (l'.flatMap f') := by
  rw [List.flatMap_def, List.flatMap_def]
  exact (h.map hf).flatten

end Rearranged

/-! ## Results of the entries -/

/-- A monadic map under which related entries come to the same comes to the same. -/
lemma mapM_eq_of_forall₂ {m : Type → Type} [Monad m] [LawfulMonad m] {R : α → α' → Prop}
    {l : List α} {l' : List α'} {f : α → m β} {f' : α' → m β} (h : List.Forall₂ R l l')
    (hf : ∀ a a', R a a' → f a = f' a') : l.mapM f = l'.mapM f' := by
  induction h with
  | nil => rfl
  | cons hr _ ih => rw [List.mapM_cons, List.mapM_cons, hf _ _ hr, ih]

variable {R : α → α' → Prop} {P : α → β → Prop} {P' : α' → β' → Prop} {Q : β → β' → Prop}
  {l : List α} {l' : List α'} {bs : List β}

/-- Results of related entries that carry over one by one carry over together. -/
lemma carry_forall₂ (h : List.Forall₂ R l l') (hbs : List.Forall₂ P l bs)
    (hcarry : ∀ a a' b, R a a' → P a b → ∃ b', P' a' b' ∧ Q b b') :
    ∃ bs', List.Forall₂ P' l' bs' ∧ List.Forall₂ Q bs bs' := by
  induction h generalizing bs with
  | nil =>
    obtain rfl := List.forall₂_nil_left_iff.1 hbs
    exact ⟨[], .nil, .nil⟩
  | cons hr _ ih =>
    obtain ⟨b, rest, hb, hrest, rfl⟩ := List.forall₂_cons_left_iff.1 hbs
    obtain ⟨b', hb', hq⟩ := hcarry _ _ b hr hb
    obtain ⟨bs', hbs', hqs⟩ := ih hrest
    exact ⟨b' :: bs', .cons hb' hbs', .cons hq hqs⟩

/-- The results of rearranged entries are rearranged. -/
lemma Rearranged.carry (h : Rearranged R l l') (hbs : List.Forall₂ P l bs)
    (hcarry : ∀ a a' b, R a a' → P a b → ∃ b', P' a' b' ∧ Q b b') :
    ∃ bs', List.Forall₂ P' l' bs' ∧ Rearranged Q bs bs' := by
  obtain ⟨paired, hpairs, hperm⟩ := h
  obtain ⟨cs, hcs, hqs⟩ := carry_forall₂ hpairs hbs hcarry
  -- The results follow their entries into the other order.
  obtain ⟨bs', hbs', hperm'⟩ := List.perm_comp_forall₂ hperm.symm hcs
  exact ⟨bs', hbs', cs, hqs, hperm'.symm⟩

end ApiContract
