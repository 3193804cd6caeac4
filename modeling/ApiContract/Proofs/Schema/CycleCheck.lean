/-
# Circular references

References may lead in a circle, and a validation that went round such a circle would never
come to an end.  It stops as soon as a reference is to be followed that is already being
followed for the same value.  This is exact: nothing is stopped that would come to an end.

A validation comes to an end because there are only finitely many URLs to follow for a value,
and whatever is asked for a value besides is a part of the value or of the schema.
-/
import ApiContract.Proofs.Schema.Reach
import ApiContract.Proofs.Schema.Recursion
import Mathlib.Tactic.Ring

namespace ApiContract

/-! ## What is asked for -/

section

variable {fields : Fields} {v value : Value} {k : Keyword} {a : Ask}

/-- The schemas that are asked for are inside the value of the keyword. -/
lemma Keyword.Asks.contains (h : k.Asks fields v value a) : value.Contains a.schema := by
  cases h with
  | property hmem _ => exact (Value.PartOf.field hmem).contains
  | matching hmem _ _ _ => exact (Value.PartOf.field hmem).contains
  | extra _ _ => exact Value.Contains.refl _
  | item _ _ => exact Value.Contains.refl _
  | tuple _ hs => exact (Value.partOf_of_getElem? hs).contains
  | laterItem _ _ _ => exact Value.Contains.refl _
  | branch _ hs => exact (Value.partOf_of_getElem? hs).contains
  | not => exact Value.Contains.refl _

/-- The values that are asked for are the value at hand and its parts. -/
lemma Keyword.Asks.value_cases (h : k.Asks fields v value a) :
    (a.path = [] ∧ a.value = v) ∨ (a.path ≠ [] ∧ a.value.PartOf v) := by
  cases h with
  | property _ hw => exact Or.inr ⟨by simp, Value.partOf_of_lookup hw⟩
  | matching _ _ hw _ => exact Or.inr ⟨by simp, .field hw⟩
  | extra hw _ => exact Or.inr ⟨by simp, .field hw⟩
  | item _ hw => exact Or.inr ⟨by simp, Value.partOf_of_getElem? hw⟩
  | tuple hw _ => exact Or.inr ⟨by simp, Value.partOf_of_getElem? hw⟩
  | laterItem _ _ hw => exact Or.inr ⟨by simp, Value.partOf_of_getElem? hw⟩
  | branch _ _ => exact Or.inl ⟨rfl, rfl⟩
  | not => exact Or.inl ⟨rfl, rfl⟩

/-- The value of a keyword in force is part of the schema. -/
lemma Keyword.InForce.partOf (h : Keyword.InForce fields v k value) :
    value.PartOf (.object fields) :=
  Value.partOf_of_lookup h.1

end

namespace Store

variable {store : Store} {start scope : String} {schema v : Value} {fields : Fields}

/-- The scope inside a schema comes about if the scope around it does. -/
lemma Base.inside (h : store.Base start schema scope)
    (hknows : store.Knows schema (.object fields)) :
    store.Base start schema (scopeInside scope fields) := by
  unfold scopeInside
  cases hid : (fields.lookup "id").bind Value.string? with
  | none => exact h
  | some uri => exact .opens h ⟨fields, hknows, hid⟩

/-- A visit that is asked for: its schema is known and smaller, and its value is the value at
hand or smaller. -/
lemma Knows.asked {a : Ask} (h : store.Knows schema (.object fields))
    (hputs : Validator.Puts fields v (.visit a)) :
    store.Knows schema a.schema ∧ a.schema.size < (Value.object fields).size ∧
      ((a.path = [] ∧ a.value = v) ∨ (a.path ≠ [] ∧ a.value.size < v.size)) := by
  obtain ⟨k, value, hforce, hputs⟩ := hputs
  cases hputs with
  | visit hasks =>
    have hpart := hforce.partOf
    refine ⟨h.contains (hpart.contains.trans hasks.contains), ?_, ?_⟩
    · exact Nat.lt_of_le_of_lt hasks.contains.size_le hpart.size_lt
    · exact hasks.value_cases.imp id fun hpath => ⟨hpath.1, hpath.2.size_lt⟩

/-- A reference that is asked for is known, and it is followed for the value at hand. -/
lemma Knows.refers {w : Value} {reference : String} (h : store.Knows schema (.object fields))
    (hputs : Validator.Puts fields v (.follow w reference)) :
    w = v ∧ store.Refers schema reference := by
  obtain ⟨k, value, hforce, hputs⟩ := hputs
  cases hputs with
  | follow hk hvalue =>
    refine ⟨rfl, fields, h, ?_⟩
    rw [← hvalue, ← hk]
    exact hforce.1

/-- A reference that is followed leads to a scope that comes about, and its own scope is the
one it leads to. -/
lemma Base.followed (hwell : store.JoinsWell start schema) (h : store.Base start schema scope)
    {reference : String} {target : Value} (hrefers : store.Refers schema reference)
    (hfound : store.resolveUrl (Reference.join scope reference) = .ok target) :
    Reference.join scope (Reference.join scope reference) = Reference.join scope reference ∧
      store.Base start schema (Reference.join scope reference) :=
  ⟨Reference.join_join (hwell.comesBack h hrefers), .follows h hrefers hfound⟩

/-! ## How deep it goes -/

/-- How deep a visit may go: the sizes of the value and of the schema count, and the number of
URLs that may still be followed for the value. -/
def reach (store : Store) (start : String) (schema v s : Value) (here : List String) : Nat :=
  (v.size * ((store.candidates start schema).length + 1) +
      ((store.candidates start schema).length - here.length)) *
    (store.size + schema.size + 1) + s.size

lemma reach_pos {s : Value} (here : List String) : 0 < store.reach start schema v s here :=
  Nat.lt_of_lt_of_le s.size_pos (Nat.le_add_left _ _)

/-- A visit of a smaller value goes less deep, whatever the schema. -/
lemma reach_part {w s t : Value} (h : w.size < v.size) (hs : store.Knows schema s)
    (here : List String) :
    store.reach start schema w s [] < store.reach start schema v t here := by
  have hsize := hs.size_le
  unfold reach
  generalize (store.candidates start schema).length = n
  have hvalue : w.size * (n + 1) + n + 1 ≤ v.size * (n + 1) :=
    calc w.size * (n + 1) + n + 1 = (w.size + 1) * (n + 1) := by ring
      _ ≤ v.size * (n + 1) := Nat.mul_le_mul_right _ h
  calc (w.size * (n + 1) + (n - 0)) * (store.size + schema.size + 1) + s.size
      < (w.size * (n + 1) + n + 1) * (store.size + schema.size + 1) := by
        rw [Nat.sub_zero, Nat.add_mul _ 1]
        omega
    _ ≤ (v.size * (n + 1) + (n - here.length)) * (store.size + schema.size + 1) + t.size := by
        refine Nat.le_trans (Nat.mul_le_mul_right _ ?_) (Nat.le_add_right _ _)
        omega

/-- A visit of the same value against a smaller schema goes less deep. -/
lemma reach_branch {s t : Value} (h : s.size < t.size) (here : List String) :
    store.reach start schema v s here < store.reach start schema v t here := by
  unfold reach
  omega

/-- A visit goes less deep after one more of the candidates is being followed. -/
lemma reach_target {s t : Value} {url : String} {here : List String}
    (hs : store.Knows schema s) (hnodup : (url :: here).Nodup)
    (hsub : url :: here ⊆ store.candidates start schema) :
    store.reach start schema v s (url :: here) < store.reach start schema v t here := by
  have hsize := hs.size_le
  have hlength := (List.subperm_of_subset hnodup hsub).length_le
  unfold reach
  rw [List.length_cons] at hlength ⊢
  generalize (store.candidates start schema).length = n at hlength ⊢
  have hvalue : v.size * (n + 1) + (n - (here.length + 1)) + 1 =
      v.size * (n + 1) + (n - here.length) := by omega
  rw [← hvalue, Nat.add_mul _ 1]
  omega

/-- The depth that visits are allowed to go is deep enough. -/
lemma reach_le_visitDepth (val : Validator) (start : String) (v schema : Value) :
    val.store.reach start schema v schema [] ≤ val.visitDepth v schema := by
  have hlength := val.store.length_candidates_le start schema
  unfold reach Validator.visitDepth
  generalize (val.store.candidates start schema).length = n at hlength ⊢
  -- All numbers are bounded by powers of the sum of the sizes.
  obtain ⟨x, hx⟩ : ∃ x, x = val.store.size + v.size + schema.size + 2 := ⟨_, rfl⟩
  have hn : n + 1 ≤ x ^ 4 :=
    calc n + 1 ≤ (2 * x) * (2 * x) := by
          have hle : n ≤ (2 * x - 1) * (2 * x - 1) :=
            hlength.trans (Nat.mul_le_mul (by omega) (by omega))
          have hlt : (2 * x - 1) * (2 * x - 1) < (2 * x) * (2 * x) :=
            Nat.mul_self_lt_mul_self (by omega)
          omega
      _ = (2 * 2) * x ^ 2 := by ring
      _ ≤ (x * x) * x ^ 2 := Nat.mul_le_mul_right _ (Nat.mul_le_mul (by omega) (by omega))
      _ = x ^ 4 := by ring
  rw [← hx]
  calc (v.size * (n + 1) + (n - 0)) * (val.store.size + schema.size + 1) + schema.size
      ≤ (v.size * x ^ 4 + x ^ 4) * x + x := by
        have hvalue := Nat.mul_le_mul_left v.size hn
        exact Nat.add_le_add (Nat.mul_le_mul (by omega) (by omega)) (by omega)
    _ = (v.size + 1) * x ^ 4 * x + x := by ring
    _ ≤ x * x ^ 4 * x + x * x ^ 5 := by
        refine Nat.add_le_add ?_ (Nat.le_mul_of_pos_right _ (Nat.pow_pos (by omega)))
        exact Nat.mul_le_mul_right _ (Nat.mul_le_mul_right _ (by omega))
    _ = 2 * x ^ 6 := by ring
    _ ≤ (x * x) * x ^ 6 := Nat.mul_le_mul_right _ (Nat.le_trans (by omega) (Nat.le_mul_self x))
    _ = x ^ 8 := by ring

end Store

/-! ## Visits come to an end -/

namespace Validator

variable {val : Validator} {start scope : String} {schema v s : Value} {here : List String}

/-- Steady visits of some depth, with references followed as they are in a validation. -/
lemma checked_steadies {floor : Visit} (hfloor : floor.Steady) (n : Nat) :
    Steadies (Applicator.follow val.store (val.visitAbove (Applicator.follow val.store) floor n))
      (val.visitAbove (Applicator.follow val.store) floor n) :=
  visitAbove_steadies (Applicator.follow_steadily val.store) hfloor n

/-- Two visits agree on all that is known and goes less deep than a bound. -/
def AgreeBelow (val : Validator) (start : String) (schema : Value) (bound : Nat)
    (f g : Visit) : Prop :=
  ∀ ⦃scope v s here⦄, val.store.Base start schema scope → val.store.Knows schema s →
    here.Nodup → here ⊆ val.store.candidates start schema →
    val.store.reach start schema v s here < bound →
    (f v s).resultAt scope here = (g v s).resultAt scope here

/-- A reference leads to a visit that goes less deep, as one more candidate is being followed
from then on. -/
lemma AgreeBelow.follow {f g : Visit} {bound : Nat} (h : val.AgreeBelow start schema bound f g)
    (hf : f.Steady) (hg : g.Steady) (hwell : val.store.JoinsWell start schema)
    (hbase : val.store.Base start schema scope) (hnodup : here.Nodup)
    (hsub : here ⊆ val.store.candidates start schema)
    (hbound : val.store.reach start schema v s here ≤ bound) {reference : String}
    (hrefers : val.store.Refers schema reference) :
    (Applicator.follow val.store f v reference).resultAt scope here =
      (Applicator.follow val.store g v reference).resultAt scope here := by
  rw [Applicator.resultAt_follow hf, Applicator.resultAt_follow hg]
  cases hfound : val.store.resolveUrl (Reference.join scope reference) with
  | error e => rfl
  | ok target =>
    obtain ⟨hjoin, hfollowed⟩ := hbase.followed hwell hrefers hfound
    have hcandidate := hbase.mem_candidates hwell hrefers hfound
    have htarget : val.store.Knows schema target := Store.knows_of_resolveUrl hfound
    show (if _ then _ else _) = (if _ then _ else _)
    split
    · -- A reference that is being followed is stopped in both.
      rfl
    · rename_i hnot
      rw [hjoin]
      have hnodup' := List.nodup_cons.2 ⟨hnot, hnodup⟩
      have hsub' := List.cons_subset.2 ⟨hcandidate, hsub⟩
      have hless : val.store.reach start schema v target (_ :: here) <
          val.store.reach start schema v s here :=
        Store.reach_target htarget hnodup' hsub'
      exact h hfollowed htarget hnodup' hsub' (Nat.lt_of_lt_of_le hless hbound)

/-- What a visit asks for goes less deep than the visit, so that two visits that agree on this
give the same answers. -/
lemma AgreeBelow.answer_eq {f g : Visit} {fields : Fields}
    (h : val.AgreeBelow start schema (val.store.reach start schema v (.object fields) here) f g)
    (hf : f.Steady) (hg : g.Steady) (hwell : val.store.JoinsWell start schema)
    (hbase : val.store.Base start schema scope)
    (hknows : val.store.Knows schema (.object fields)) (hnodup : here.Nodup)
    (hsub : here ⊆ val.store.candidates start schema) {q : Question} (hq : Puts fields v q) :
    q.answer (Applicator.follow val.store f) f scope here =
      q.answer (Applicator.follow val.store g) g scope here := by
  cases q with
  | visit a =>
    obtain ⟨hasked, hsize, hvalue⟩ := hknows.asked hq
    rw [Question.answer, Question.answer, Visit.answer, Visit.answer]
    congr 1
    rcases hvalue with ⟨hpath, rfl⟩ | ⟨hpath, hvalue⟩
    · -- The same value, against a part of the schema.
      rw [if_pos hpath]
      exact h hbase hasked hnodup hsub (Store.reach_branch hsize here)
    · -- A part of the value, for which no reference is being followed yet.
      rw [if_neg hpath]
      exact h hbase hasked List.nodup_nil (List.nil_subset _)
        (Store.reach_part hvalue hasked here)
  | follow w reference =>
    obtain ⟨rfl, hrefers⟩ := hknows.refers hq
    exact h.follow hf hg hwell hbase hnodup hsub (Nat.le_refl _) hrefers

/-- **Visits come to an end**: a visit that is allowed to go deep enough has the same result
for every such depth and above every floor. -/
theorem visitAbove_eq_of_reach (hfills : val.fills = false)
    (hwell : val.store.JoinsWell start schema) {m n : Nat} {f g : Visit} (hf : f.Steady)
    (hg : g.Steady) (hbase : val.store.Base start schema scope)
    (hknows : val.store.Knows schema s) (hnodup : here.Nodup)
    (hsub : here ⊆ val.store.candidates start schema)
    (hm : val.store.reach start schema v s here ≤ m)
    (hn : val.store.reach start schema v s here ≤ n) :
    (val.visitAbove (Applicator.follow val.store) f m v s).resultAt scope here =
      (val.visitAbove (Applicator.follow val.store) g n v s).resultAt scope here := by
  -- The depth is an upper bound, so the bound itself is what goes down with every question.
  induction m generalizing n v s scope here with
  | zero => exact absurd (Nat.le_zero.1 hm) (Store.reach_pos here).ne'
  | succ m ih =>
    cases n with
    | zero => exact absurd (Nat.le_zero.1 hn) (Store.reach_pos here).ne'
    | succ n =>
      rcases s.object_or with ⟨fields, rfl⟩ | hnot
      · obtain ⟨plan, hwithin, hplan⟩ := visitNode_planned hfills v fields
        have hvisit := @checked_steadies val _ hf m
        have hvisit' := @checked_steadies val _ hg n
        rw [visitAbove, visitAbove, hplan hvisit, hplan hvisit']
        have hagree : val.AgreeBelow start schema
            (val.store.reach start schema v (.object fields) here)
            (val.visitAbove (Applicator.follow val.store) f m)
            (val.visitAbove (Applicator.follow val.store) g n) :=
          fun _ _ _ _ hbase hknows hnodup hsub hless =>
            ih hbase hknows hnodup hsub (by omega) (by omega)
        exact hwithin.run_congr fun q hq => hagree.answer_eq hvisit.visit hvisit'.visit hwell
          (hbase.inside hknows) hknows hnodup hsub hq
      · rw [visitAbove_of_not_object hnot, visitAbove_of_not_object hnot]

/-! ## Nothing is stopped that would come to an end -/

lemma unchecked_add {r : Except SchemaError Outcome} {k n : Nat} (hle : k ≤ n)
    (h : (val.unchecked k v s scope).Settles r) : (val.unchecked n v s scope).Settles r := by
  intro floor hfloor here
  obtain ⟨m, rfl⟩ := Nat.exists_eq_add_of_le' hle
  rw [unchecked, visitAbove_add]
  exact h _ (visitAbove_steady (Applicator.followUnchecked_steadily val.store) hfloor m) here

/-- There is a least depth at which a recursion settles. -/
lemma exists_least_settles {r : Except SchemaError Outcome} {n : Nat}
    (h : (val.unchecked n v s scope).Settles r) :
    ∃ k ≤ n, (val.unchecked k v s scope).Settles r ∧
      ∀ m < k, ∀ r', ¬ (val.unchecked m v s scope).Settles r' := by
  classical
  have hexists : ∃ k r, (val.unchecked k v s scope).Settles r := ⟨n, r, h⟩
  have hle : Nat.find hexists ≤ n := Nat.find_min' hexists ⟨r, h⟩
  obtain ⟨r', hr'⟩ := Nat.find_spec hexists
  obtain rfl := (unchecked_add hle hr').eq h
  exact ⟨_, hle, hr', fun m hm r₀ hr₀ => Nat.find_min hexists hm ⟨r₀, hr₀⟩⟩

/-- No recursion from the target of a reference being followed, in its own scope, comes to an
end above a given depth: it would meet itself at a lower depth. -/
def StillOpen (val : Validator) (v : Value) (here : List String) (n : Nat) : Prop :=
  ∀ url ∈ here, ∀ target, val.store.resolveUrl url = .ok target →
    ∀ m < n, ∀ r, ¬ (val.unchecked m v target url).Settles r

lemma StillOpen.mono {k n : Nat} (h : val.StillOpen v here n) (hle : k ≤ n) :
    val.StillOpen v here k :=
  fun url hurl target htarget m hm => h url hurl target htarget m (Nat.lt_of_lt_of_le hm hle)

lemma StillOpen.nil (n : Nat) : val.StillOpen v [] n := by
  simp [StillOpen]

/-- The reference that is followed next joins the others from the least depth at which its
target settles. -/
lemma StillOpen.cons {k : Nat} {url : String} {target : Value} (h : val.StillOpen v here k)
    (hfound : val.store.resolveUrl url = .ok target)
    (hleast : ∀ m < k, ∀ r, ¬ (val.unchecked m v target url).Settles r) :
    val.StillOpen v (url :: here) k := by
  intro url' hurl target' htarget m hm r
  rcases List.mem_cons.1 hurl with rfl | hurl
  · obtain rfl := Except.ok.inj (hfound.symm.trans htarget)
    exact hleast m hm r
  · exact h url' hurl target' htarget m hm r

/-- Up to a depth, what settles without the question has the same result with it. -/
def AgreesUpTo (val : Validator) (start : String) (schema : Value) (n : Nat) : Prop :=
  ∀ ⦃k⦄, k ≤ n → ∀ ⦃scope v s here r⦄, val.store.Base start schema scope →
    val.store.Knows schema s → val.StillOpen v here k → (val.unchecked k v s scope).Settles r →
    ∀ ⦃floor : Visit⦄, floor.Steady →
    (val.visitAbove (Applicator.follow val.store) floor k v s).resultAt scope here = r

/-- A reference whose target settles is followed to the same result. -/
lemma AgreesUpTo.follow {n : Nat} (h : val.AgreesUpTo start schema n)
    (hfills : val.fills = false) (hwell : val.store.JoinsWell start schema)
    (hbase : val.store.Base start schema scope) (hopen : val.StillOpen v here (n + 1))
    {floor : Visit} (hfloor : floor.Steady) {reference : String}
    (hrefers : val.store.Refers schema reference) {r : Except SchemaError Outcome}
    (hr : (val.uncheckedAnswers n scope (.follow v reference)).Settles r) :
    (Applicator.follow val.store (val.visitAbove (Applicator.follow val.store) floor n) v
      reference).resultAt scope here = r := by
  rw [Applicator.resultAt_follow (checked_steadies hfloor n).visit]
  rcases settles_of_follow hfills hr with ⟨e, hfound, rfl⟩ | ⟨target, hfound, hsettles⟩
  · rw [hfound]
    rfl
  · obtain ⟨hjoin, hfollowed⟩ := hbase.followed hwell hrefers hfound
    rw [hjoin] at hsettles
    rw [hfound, hjoin]
    -- The reference is not being followed yet, as its target settles at this depth.
    have hnot : Reference.join scope reference ∉ here :=
      fun hmem => hopen _ hmem target hfound n (by omega) r hsettles
    -- From the least depth at which it settles, it cannot meet itself.
    obtain ⟨k, hle, hk, hleast⟩ := exists_least_settles hsettles
    have hopen_k := (hopen.mono (Nat.le_succ_of_le hle)).cons hfound hleast
    obtain ⟨m, rfl⟩ := Nat.exists_eq_add_of_le' hle
    show (if _ then _ else _) = r
    rw [if_neg hnot, visitAbove_add]
    exact h hle hfollowed (Store.knows_of_resolveUrl hfound) hopen_k hk
      (visitAbove_steady (Applicator.follow_steadily val.store) hfloor m)

/-- Answers that settle are the same with the question. -/
lemma AgreesUpTo.answer_eq {n : Nat} (h : val.AgreesUpTo start schema n)
    (hfills : val.fills = false) (hwell : val.store.JoinsWell start schema)
    (hbase : val.store.Base start schema scope) {fields : Fields}
    (hknows : val.store.Knows schema (.object fields)) (hopen : val.StillOpen v here (n + 1))
    {floor : Visit} (hfloor : floor.Steady) {q : Question} (hq : Puts fields v q)
    {r : Except SchemaError Outcome} (hr : (val.uncheckedAnswers n scope q).Settles r) :
    q.answer (Applicator.follow val.store (val.visitAbove (Applicator.follow val.store) floor n))
      (val.visitAbove (Applicator.follow val.store) floor n) scope here = r := by
  cases q with
  | visit a =>
    obtain ⟨r', hr', rfl⟩ := settles_of_visit hfills hr
    obtain ⟨hasked, -, hvalue⟩ := hknows.asked hq
    rw [Question.answer, Visit.answer]
    congr 1
    rcases hvalue with ⟨hpath, hvalue⟩ | ⟨hpath, -⟩
    · rw [if_pos hpath]
      exact h (Nat.le_refl n) hbase hasked (hvalue ▸ hopen.mono (Nat.le_succ n)) hr' hfloor
    · rw [if_neg hpath]
      exact h (Nat.le_refl n) hbase hasked (.nil n) hr' hfloor
  | follow w reference =>
    obtain ⟨rfl, hrefers⟩ := hknows.refers hq
    exact h.follow hfills hwell hbase hopen hfloor hrefers hr

/-- **Nothing is stopped that would come to an end**: where the recursion that follows
references without asking settles, a visit with the question has the same result. -/
theorem visitAbove_eq_of_settles (hfills : val.fills = false)
    (hwell : val.store.JoinsWell start schema) {n : Nat} {r : Except SchemaError Outcome}
    (hbase : val.store.Base start schema scope) (hknows : val.store.Knows schema s)
    (hopen : val.StillOpen v here n) (h : (val.unchecked n v s scope).Settles r) {floor : Visit}
    (hfloor : floor.Steady) :
    (val.visitAbove (Applicator.follow val.store) floor n v s).resultAt scope here = r := by
  -- A reference is followed from the least depth that suffices, so all lower depths matter.
  induction n using Nat.strong_induction_on generalizing v s scope here r floor with
  | _ n ih =>
    cases n with
    | zero =>
      have hsinks : (val.unchecked 0 v s scope).Sinks := fun _ _ _ => rfl
      exact absurd hsinks h.not_sinks
    | succ n =>
      rcases s.object_or with ⟨fields, rfl⟩ | hnot
      · obtain ⟨plan, hwithin, hplan⟩ := visitNode_planned hfills v fields
        have hagrees : val.AgreesUpTo start schema n :=
          fun k hk _ _ _ _ _ hbase hknows hopen h _ hfloor =>
            ih k (by omega) hbase hknows hopen h hfloor
        have habove : (plan.runAbove (val.uncheckedAnswers n (scopeInside scope fields))).Settles
            r := fun floor hfloor here => by
          rw [← h floor hfloor here]
          exact (hplan (visitAbove_steadies
            (Applicator.followUnchecked_steadily val.store) hfloor n) scope here).symm
        rw [visitAbove, hplan (checked_steadies hfloor n)]
        exact hwithin.run_of_settles (fun q _ => uncheckedAnswers_settles_or_sinks
            (unchecked_settles_or_sinks hfills n) (scopeInside scope fields) q)
          (fun q r' hq hr' => hagrees.answer_eq hfills hwell (hbase.inside hknows) hknows hopen
            hfloor hq hr') habove
      · rw [visitAbove_of_not_object hnot, ← h floor hfloor here, unchecked,
          visitAbove_of_not_object hnot]

/-- Without the question, no answer is an error of circular references if no visit of the same
depth is one. -/
lemma uncheckedAnswers_ne_cycle {n : Nat} {floor : Visit} (hfloor : floor.Steady)
    (h : ∀ v s scope here url,
      val.unchecked n v s scope floor here ≠ .error (.referenceCycle url))
    (scope : String) (here : List String) (q : Question) (url : String) :
    val.uncheckedAnswers n scope q floor here ≠ .error (.referenceCycle url) := by
  cases q with
  | visit a =>
    -- The paths that are put before a result leave errors alone.
    rw [uncheckedAnswers_visit]
    have hvisit := h a.value a.schema scope (if a.path = [] then here else []) url
    cases hresult : val.unchecked n a.value a.schema scope floor
        (if a.path = [] then here else []) with
    | error e =>
      rw [hresult] at hvisit
      intro heq
      exact hvisit (by rw [Except.error.inj heq])
    | ok o => simp [Functor.map, Except.map]
  | follow w reference =>
    rw [uncheckedAnswers_follow n scope w reference hfloor]
    cases hfound : val.store.resolveUrl (Reference.join scope reference) with
    | error e =>
      intro heq
      obtain rfl : e = .referenceCycle url := Except.error.inj heq
      exact val.store.resolveUrl_ne_cycle _ url hfound
    | ok target => exact h w target _ _ url

/-- Without the question, no error of circular references comes about. -/
lemma unchecked_ne_cycle (hfills : val.fills = false) {e : SchemaError} (he : e ≠ .scopeUnderflow)
    (hcycle : ∀ url, e ≠ .referenceCycle url) (n : Nat) (v s : Value) (scope : String)
    (here : List String) (url : String) :
    val.unchecked n v s scope (fun _ _ => Walk.broken e) here ≠ .error (.referenceCycle url) := by
  have hsteady := Floored.broken_steady he
  induction n generalizing v s scope here url with
  | zero =>
    intro heq
    exact hcycle url (Except.error.inj heq)
  | succ n ih =>
    rcases s.object_or with ⟨fields, rfl⟩ | hnot
    · obtain ⟨plan, hwithin, hplan⟩ := visitNode_planned hfills v fields
      rw [unchecked, visitAbove, hplan (visitAbove_steadies
        (Applicator.followUnchecked_steadily val.store) hsteady n)]
      exact hwithin.run_ne_cycle (fun q _ url => uncheckedAnswers_ne_cycle hsteady ih
        (scopeInside scope fields) here q url) url
    · rw [unchecked, visitAbove_of_not_object hnot]
      simp

/-- A visit that comes to a good end does so without the question, too. -/
lemma visitAbove_followUnchecked_of_ok (hfills : val.fills = false) {floor : Visit}
    (hfloor : floor.Steady) {n : Nat} {o : Outcome}
    (h : (val.visitAbove (Applicator.follow val.store) floor n v s).resultAt scope here = .ok o) :
    (val.visitAbove (Applicator.followUnchecked val.store) floor n v s).resultAt scope here =
      .ok o := by
  induction n generalizing v s scope here o with
  | zero => exact h
  | succ n ih =>
    have hunchecked := @visitAbove_steadies val _ _
      (Applicator.followUnchecked_steadily val.store) hfloor n
    refine visitNode_of_ok hfills (checked_steadies hfloor n) hunchecked (fun scope q o ho => ?_) h
    cases q with
    | visit a =>
      obtain ⟨o', ho', rfl⟩ := Visit.answer_eq_ok_iff.1 ho
      exact Visit.answer_eq_ok_iff.2 ⟨o', ih ho', rfl⟩
    | follow w reference =>
      obtain ⟨target, hfound, -, ho⟩ :=
        (Applicator.follow_ok_iff (checked_steadies hfloor n).visit).1 ho
      rw [Question.answer, Applicator.resultAt_followUnchecked hunchecked.visit, hfound]
      exact ih ho

/-! ## The check is exact -/

lemma settles_of_haltsUnchecked (hfills : val.fills = false) {r : Except SchemaError Outcome}
    (h : val.HaltsUnchecked scope v s r) : ∃ n, (val.unchecked n v s scope).Settles r := by
  obtain ⟨n, hn⟩ := h
  refine ⟨n, ?_⟩
  rcases unchecked_settles_or_sinks hfills n v s scope with ⟨r', hr'⟩ | hsinks
  · have hsteady := Floored.broken_steady (e := .malformed "") (by simp)
    obtain rfl : r' = r := (hr' _ hsteady []).symm.trans (hn _ hsteady)
    exact hr'
  · -- The result would be the error of the floor, whatever it is.
    have hone := hn _ (Floored.broken_steady (e := .malformed "") (by simp))
    have htwo := hn _ (Floored.broken_steady (e := .invalidPattern "") (by simp))
    have hcontra := (hsinks (.malformed "") (by simp) []).symm.trans
      (hone.trans (htwo.symm.trans (hsinks (.invalidPattern "") (by simp) [])))
    simp at hcontra

/-- **The check for circular references is exact**, as long as missing properties are not
filled and URLs are joined well.  In any scope, a validation comes to an end: the depth it is
allowed to go is never used up, so that nothing below it has a say.  If the recursion comes to
an end without the check, then the validation has the same result, and this is no error of
circular references; otherwise the validation ends with an error. -/
theorem cycle_check_exact (hfills : val.fills = false) (start : String) (v schema : Value)
    (hwell : val.store.JoinsWell start schema) :
    (∀ n, val.visitDepth v schema ≤ n → ∀ floor : Visit, floor.Steady →
      (val.visitAbove (Applicator.follow val.store) floor n v schema).resultAt start [] =
        (val.outcome v schema).resultAt start []) ∧
    (∀ r, val.HaltsUnchecked start v schema r →
      (val.outcome v schema).resultAt start [] = r ∧ ∀ url, r ≠ .error (.referenceCycle url)) ∧
    ((¬ ∃ r, val.HaltsUnchecked start v schema r) →
      ∃ e, (val.outcome v schema).resultAt start [] = .error e) := by
  have hdepth := Store.reach_le_visitDepth val start v schema
  have hbottom : Visit.Steady fun _ _ => tooDeep := fun _ _ => Walk.Steady.tooDeep
  have houtcome : val.outcome v schema = val.visitAbove (Applicator.follow val.store)
      (fun _ _ => tooDeep) (val.visitDepth v schema) v schema := by
    rw [outcome, visit_eq_visitAbove]
  have hends : ∀ n, val.visitDepth v schema ≤ n → ∀ floor : Visit, floor.Steady →
      (val.visitAbove (Applicator.follow val.store) floor n v schema).resultAt start [] =
        (val.outcome v schema).resultAt start [] := by
    intro n hn floor hfloor
    rw [houtcome]
    exact visitAbove_eq_of_reach hfills hwell hfloor hbottom .start (Or.inl (.refl schema))
      List.nodup_nil (List.nil_subset _) (hdepth.trans hn) hdepth
  refine ⟨hends, fun r hr => ?_, fun hnever => ?_⟩
  · obtain ⟨n, hn⟩ := settles_of_haltsUnchecked hfills hr
    constructor
    · -- Both depths are reached from the greater one.
      have hmax := unchecked_add (Nat.le_max_left n (val.visitDepth v schema)) hn
      rw [← hends _ (Nat.le_max_right n _) _ hbottom]
      exact visitAbove_eq_of_settles hfills hwell .start (Or.inl (.refl schema))
        (.nil _) hmax hbottom
    · intro url
      rw [← hn _ (Floored.broken_steady (e := .malformed "") (by simp)) []]
      exact unchecked_ne_cycle hfills (by simp) (by simp) n v schema start [] url
  · cases hresult : (val.outcome v schema).resultAt start [] with
    | error e => exact ⟨e, rfl⟩
    | ok o =>
      -- A good end is no matter of what is below, nor of the check.
      refine absurd ⟨.ok o, val.visitDepth v schema, fun floor hfloor => ?_⟩ hnever
      refine visitAbove_followUnchecked_of_ok hfills hfloor ?_
      rw [hends _ (Nat.le_refl _) floor hfloor, hresult]

end Validator

namespace Circle

/-- A document with a definition that refers to itself. -/
def document : Value := .object [
  ("definitions", .object [("loop", .object [("$ref", .string "#/definitions/loop")])])]

/-- A validator for this document. -/
def validator : Validator := ⟨.ofRoot "http://a/s" document, .oas3, false⟩

/-- The schema that refers to the definition. -/
def schema : Value := .object [("$ref", .string "#/definitions/loop")]

end Circle

/-- A circle is stopped, and without the check it would never come to an end. -/
theorem circle_is_stopped_and_never_halts :
    Circle.validator.fills = false ∧
      Circle.validator.store.JoinsWell "http://a/s" Circle.schema ∧
      (Circle.validator.outcome .null Circle.schema).resultAt "http://a/s" [] =
        .error (.referenceCycle "http://a/s#/definitions/loop") ∧
      ¬ ∃ r, Circle.validator.HaltsUnchecked "http://a/s" .null Circle.schema r := by
  have hwell : Circle.validator.store.JoinsWell "http://a/s" Circle.schema := by
    -- Whatever is joined, no more than two bases come about.
    have hbases : ∀ base ∈ ["http://a/s", "http://a/s#/definitions/loop"],
        ∀ link ∈ Circle.validator.store.links Circle.schema,
          Reference.join base link ∈ ["http://a/s", "http://a/s#/definitions/loop"] ∧
            Reference.ComesBack base link ∧ Reference.Respelled base link := by
      decide +kernel
    exact Store.joinsWell_of_closed (by simp) hbases
  have hstopped : (Circle.validator.outcome .null Circle.schema).resultAt "http://a/s" [] =
      .error (.referenceCycle "http://a/s#/definitions/loop") := by
    -- Outcomes cannot be compared, but whether there is one can be seen.
    have herror : (fun _ => ()) <$>
        (Circle.validator.outcome .null Circle.schema).resultAt "http://a/s" [] =
          .error (.referenceCycle "http://a/s#/definitions/loop") := by
      decide +kernel
    rcases hresult : (Circle.validator.outcome .null Circle.schema).resultAt "http://a/s" [] with
      e | o
    · rw [hresult] at herror
      rw [Except.error.inj herror]
    · rw [hresult] at herror
      simp [Functor.map, Except.map] at herror
  refine ⟨rfl, hwell, hstopped, ?_⟩
  rintro ⟨r, hr⟩
  obtain ⟨heq, hne⟩ :=
    (Circle.validator.cycle_check_exact rfl "http://a/s" .null Circle.schema hwell).2.1 r hr
  exact hne _ (heq.symm.trans hstopped)

end ApiContract
