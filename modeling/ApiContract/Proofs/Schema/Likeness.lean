/-
# Violations that are alike

What a violation is about is told by its paths and its keyword, apart from the words of its
message.  Violations are alike if they are about the same and if their contexts hold violations
that are alike, in whatever order.
-/
import ApiContract.Proofs.Value.Rearranged
import ApiContract.Schema.Applicator

namespace ApiContract

/-- What a violation is about. -/
structure Violation.Subject where
  /-- The path to the value. -/
  path : List PathStep
  /-- The path to the constraint. -/
  schemaPath : List PathStep
  /-- The keyword that states the constraint. -/
  keyword : Option Keyword
deriving DecidableEq, Repr

namespace Violation

/-! ## Subjects -/

mutual

/-- What a violation and those in its context are about. -/
def subjects : Violation → List Subject
  | ⟨_, k, p, s, c, _⟩ => ⟨p, s, k⟩ :: subjectsIn c

/-- What some violations and those in their contexts are about. -/
def subjectsIn : List Violation → List Subject
  | [] => []
  | v :: vs => subjects v ++ subjectsIn vs

end

lemma subjectsIn_eq_flatMap (vs : List Violation) : subjectsIn vs = vs.flatMap subjects := by
  induction vs with
  | nil => rfl
  | cons v vs ih => rw [subjectsIn, ih, List.flatMap_cons]

/-! ## Likeness -/

mutual

/-- Two violations are about the same, and their contexts are alike up to order. -/
def Like : Violation → Violation → Prop
  | ⟨_, k, p, s, c, _⟩, w => w.keyword = k ∧ w.path = p ∧ w.schemaPath = s ∧
      ∃ paired, LikeAll c paired ∧ paired.Perm w.context

/-- Violations are alike one by one. -/
def LikeAll : List Violation → List Violation → Prop
  | [], ws => ws = []
  | v :: vs, ws => ∃ w rest, ws = w :: rest ∧ Like v w ∧ LikeAll vs rest

end

lemma likeAll_iff {vs ws : List Violation} : LikeAll vs ws ↔ List.Forall₂ Like vs ws := by
  induction vs generalizing ws with
  | nil => simp [LikeAll]
  | cons v vs ih =>
    rw [LikeAll, List.forall₂_cons_left_iff]
    constructor
    · rintro ⟨w, rest, rfl, hw, hrest⟩
      exact ⟨w, rest, hw, ih.1 hrest, rfl⟩
    · rintro ⟨w, rest, hw, hrest, rfl⟩
      exact ⟨w, rest, rfl, hw, ih.2 hrest⟩

lemma like_iff {v w : Violation} :
    v.Like w ↔ w.keyword = v.keyword ∧ w.path = v.path ∧ w.schemaPath = v.schemaPath ∧
      Rearranged Like v.context w.context := by
  obtain ⟨_, k, p, s, c, _⟩ := v
  simp only [Like, likeAll_iff, Rearranged]

mutual

lemma Like.subjects_perm : ∀ {v w : Violation}, v.Like w → v.subjects.Perm w.subjects
  | ⟨_, k, p, s, c, _⟩, ⟨_, k', p', s', c', _⟩, h => by
    obtain ⟨rfl, rfl, rfl, paired, hpaired, hperm⟩ := h
    rw [subjects, subjects]
    refine List.Perm.cons _ ((LikeAll.subjects_perm hpaired).trans ?_)
    rw [subjectsIn_eq_flatMap, subjectsIn_eq_flatMap]
    exact hperm.flatMap_right subjects

lemma LikeAll.subjects_perm : ∀ {vs ws : List Violation},
    LikeAll vs ws → (subjectsIn vs).Perm (subjectsIn ws)
  | [], _, h => by
    obtain rfl := h
    exact .refl _
  | _ :: _, _, h => by
    obtain ⟨w, rest, rfl, hw, hrest⟩ := h
    exact (Like.subjects_perm hw).append (LikeAll.subjects_perm hrest)

end

/-- Violations that are alike up to order have the same subjects, up to order. -/
lemma subjectsIn_perm {vs ws : List Violation} (h : Rearranged Like vs ws) :
    (subjectsIn vs).Perm (subjectsIn ws) := by
  obtain ⟨paired, hpaired, hperm⟩ := h
  refine (likeAll_iff.2 hpaired).subjects_perm.trans ?_
  rw [subjectsIn_eq_flatMap, subjectsIn_eq_flatMap]
  exact hperm.flatMap_right subjects

/-! ## Violations that stay alike -/

lemma like_ofMessage (message message' : String) :
    (ofMessage message).Like (ofMessage message') :=
  like_iff.2 ⟨rfl, rfl, rfl, .nil⟩

lemma Like.tagged {v w : Violation} (h : v.Like w) (k : Keyword) :
    (v.tagged k).Like (w.tagged k) := by
  obtain ⟨hkeyword, hpath, hschemaPath, hcontext⟩ := like_iff.1 h
  exact like_iff.2 ⟨congrArg (·.or (some k)) hkeyword, hpath,
    congrArg (PathStep.key k.name :: ·) hschemaPath, hcontext⟩

end Violation

/-- What is made of two values is alike: the violations are. -/
def Outcome.Like (o o' : Outcome) : Prop :=
  Rearranged Violation.Like o.violations o'.violations

lemma Outcome.Like.under {o o' : Outcome} (h : o.Like o') (path schemaPath : List PathStep) :
    (o.under path schemaPath).Like (o'.under path schemaPath) := by
  refine h.map fun v w hlike => ?_
  obtain ⟨hkeyword, hpath, hschemaPath, hcontext⟩ := Violation.like_iff.1 hlike
  exact Violation.like_iff.2 ⟨hkeyword, congrArg (path ++ ·) hpath,
    congrArg (schemaPath ++ ·) hschemaPath, hcontext⟩

/-- What a keyword makes of two values is alike: the violations are. -/
def Contribution.Like (c c' : Contribution) : Prop :=
  Rearranged Violation.Like c.violations c'.violations

namespace Contribution

lemma like_nothing : nothing.Like nothing :=
  Rearranged.nil

lemma like_ofMessage (message message' : String) :
    (ofMessage message).Like (ofMessage message') :=
  .of_forall₂ (.cons (Violation.like_ofMessage message message') .nil)

end Contribution

/-- Parts of two values stand for alike outcomes. -/
def Part.Like {κ : Type} (p p' : Part κ) : Prop :=
  p.outcome.Like p'.outcome

lemma Part.like_violations {κ : Type} {parts parts' : List (Part κ)}
    (h : Rearranged Part.Like parts parts') :
    Rearranged Violation.Like (violations parts) (violations parts') :=
  h.flatMap fun _ _ hlike => hlike

end ApiContract
