/-
# Fields from pairs

Of several values of one key the last one counts.  The fields of a list of pairs are as many as the
pairs, and are these pairs, exactly if no key comes twice.
-/
import ApiContract.Proofs.Value.Refinement
import Mathlib.Data.List.Induction
import Mathlib.Data.List.Perm.Subperm

namespace ApiContract.Fields

variable {α : Type} {key : String} {fields pairs : List (String × α)}

/-! ## Setting a key -/

lemma lookup_insert (key : String) (a : α) (fields : List (String × α)) :
    (insert key a fields).lookup key = some a := by
  induction fields with
  | nil => simp [insert]
  | cons field fields ih =>
    obtain ⟨k, b⟩ := field
    by_cases hk : k = key
    · simp [insert, hk]
    · rw [insert, if_neg hk, List.lookup_cons, ih]
      simp [beq_eq_false_iff_ne.2 (Ne.symm hk)]

lemma lookup_insert_of_ne {k : String} (hk : key ≠ k) (a : α) (fields : List (String × α)) :
    (insert k a fields).lookup key = fields.lookup key := by
  induction fields with
  | nil => simp [insert, hk]
  | cons field fields ih =>
    obtain ⟨k', b⟩ := field
    by_cases hk' : k' = k
    · subst hk'
      simp [insert, List.lookup_cons, beq_false_of_ne hk]
    · rw [insert, if_neg hk', List.lookup_cons, List.lookup_cons, ih]

lemma keys_insert (hkey : key ∈ keys fields) (a : α) :
    keys (insert key a fields) = keys fields := by
  induction fields with
  | nil => simp [keys] at hkey
  | cons field fields ih =>
    obtain ⟨k, b⟩ := field
    by_cases hk : k = key
    · rw [insert, if_pos hk]
      rfl
    · rw [insert, if_neg hk]
      exact congrArg (List.cons k) (ih ((List.mem_cons.1 hkey).resolve_left (Ne.symm hk)))

lemma insert_of_not_mem (hkey : key ∉ keys fields) (a : α) :
    insert key a fields = fields ++ [(key, a)] := by
  have happend := @insert_append_of_not_mem α key a [] fields hkey
  rwa [List.append_nil] at happend

lemma nodup_insert (hnodup : (keys fields).Nodup) (key : String) (a : α) :
    (keys (insert key a fields)).Nodup := by
  by_cases hkey : key ∈ keys fields
  · rwa [keys_insert hkey]
  · rw [insert_of_not_mem hkey, keys, List.map_append, List.nodup_append]
    refine ⟨hnodup, by simp, fun k hk k' hk' => ?_⟩
    obtain rfl := List.mem_singleton.1 hk'
    rintro rfl
    exact hkey hk

/-! ## One key after another -/

lemma lookup_foldl_insert (key : String) (pairs fields : List (String × α)) :
    (pairs.foldl (fun fields (k, a) => insert k a fields) fields).lookup key =
      (pairs.reverse.lookup key).or (fields.lookup key) := by
  induction pairs generalizing fields with
  | nil => simp
  | cons pair pairs ih =>
    obtain ⟨k, a⟩ := pair
    rw [List.foldl_cons, ih, List.reverse_cons, List.lookup_append, Option.or_assoc]
    by_cases hk : key = k
    · subst hk
      simp [lookup_insert]
    · simp [lookup_insert_of_ne hk, List.lookup_cons, beq_false_of_ne hk]

/-- Of several values of a key the last one counts. -/
theorem lookup_ofPairs (key : String) (pairs : List (String × α)) :
    (ofPairs pairs).lookup key = pairs.reverse.lookup key := by
  rw [ofPairs, lookup_foldl_insert]
  simp

/-- The only value of a key is the one that counts. -/
lemma lookup_ofPairs_of_forall {a : α} (hmem : (key, a) ∈ pairs)
    (honly : ∀ b, (key, b) ∈ pairs → b = a) : (ofPairs pairs).lookup key = some a := by
  rw [lookup_ofPairs]
  cases hlookup : pairs.reverse.lookup key with
  | none =>
    have hnot := lookup_eq_none_iff_not_mem.1 hlookup
    exact absurd (mem_keys_of_mem (List.mem_reverse.2 hmem)) hnot
  | some b => rw [honly b (List.mem_reverse.1 (mem_of_lookup hlookup))]

lemma mem_keys_ofPairs : key ∈ keys (ofPairs pairs) ↔ key ∈ keys pairs := by
  rw [← not_iff_not, ← lookup_eq_none_iff_not_mem, lookup_ofPairs, lookup_eq_none_iff_not_mem, keys,
    List.map_reverse, List.mem_reverse, keys]

lemma ofPairs_append_singleton (pairs : List (String × α)) (key : String) (a : α) :
    ofPairs (pairs ++ [(key, a)]) = insert key a (ofPairs pairs) := by
  rw [ofPairs, List.foldl_append]
  rfl

lemma nodup_ofPairs (pairs : List (String × α)) : (keys (ofPairs pairs)).Nodup := by
  induction pairs using List.reverseRecOn with
  | nil => simp [ofPairs, keys]
  | append_singleton pairs pair ih =>
    obtain ⟨key, a⟩ := pair
    rw [ofPairs_append_singleton]
    exact nodup_insert ih key a

/-- Pairs with different keys stay as they are. -/
lemma ofPairs_of_nodup (h : (keys pairs).Nodup) : ofPairs pairs = pairs := by
  induction pairs using List.reverseRecOn with
  | nil => rfl
  | append_singleton pairs pair ih =>
    obtain ⟨key, a⟩ := pair
    rw [keys, List.map_append, List.nodup_append] at h
    obtain ⟨hnodup, -, hdisjoint⟩ := h
    have hkey : key ∉ keys pairs := fun hmem => hdisjoint key hmem key (by simp) rfl
    rw [ofPairs_append_singleton, ih hnodup, insert_of_not_mem hkey]

/-- No pair is lost exactly if no key comes twice. -/
theorem length_ofPairs_eq_iff : (ofPairs pairs).length = pairs.length ↔ (keys pairs).Nodup := by
  constructor
  · intro h
    have hsubset : keys (ofPairs pairs) ⊆ keys pairs := fun _ hkey => mem_keys_ofPairs.1 hkey
    have hperm := ((nodup_ofPairs pairs).subperm hsubset).perm_of_length_le
      (by simp [keys, h])
    exact hperm.nodup_iff.1 (nodup_ofPairs pairs)
  · intro h
    rw [ofPairs_of_nodup h]

end ApiContract.Fields
