/-
# Joined patterns

Patterns are joined by bars into one.  The joined pattern matches what one of them matches, in
whichever order they are, as long as reading one leaves no trace for the next: the flags that
are set in a pattern hold in those after it, and a name may be given to one group only.  What is
read has to be compiled as well, and patterns that are small enough one by one need not be so
together.
-/
import ApiContract.Proofs.Regex.Continuation
import Mathlib.Data.List.Perm.Basic

namespace ApiContract.Regex

/-! ## Either of two expressions -/

lemma mem_union {xs ys : List Nat} {n : Nat} : n ∈ union xs ys ↔ n ∈ xs ∨ n ∈ ys := by
  fun_induction union xs ys <;> simp_all <;> grind

lemma union_eq_nil {xs ys : List Nat} : union xs ys = [] ↔ xs = [] ∧ ys = [] := by
  simp only [List.eq_nil_iff_forall_not_mem, mem_union, not_or, forall_and]

/-- An expression that takes a place where either of two does. -/
def IsEither (r s t : Regex) : Prop :=
  ∀ (text : Array Char) (places : List Nat),
    r.ends text places ≠ [] ↔ s.ends text places ≠ [] ∨ t.ends text places ≠ []

namespace IsEither

lemma alt (r s : Regex) : IsEither (.alt r s) r s :=
  fun _ _ => by rw [ends, Ne, union_eq_nil, not_and_or]

lemma alt_left {r s t : Regex} (h : IsEither r s t) (q : Regex) :
    IsEither (.alt q r) (.alt q s) t := by
  intro text places
  rw [ends, ends, Ne, union_eq_nil, not_and_or, Ne, union_eq_nil, not_and_or, or_assoc]
  exact or_congr_right (h text places)

lemma isMatch_iff {r s t : Regex} (h : IsEither r s t) (text : String) :
    r.isMatch text ↔ s.isMatch text ∨ t.isMatch text := by
  simp only [isMatch, decide_eq_true_eq]
  exact h _ _

end IsEither

/-! ## Reading on behind a bar -/

/-- Alternatives that are read up to the end are followed by those behind a bar. -/
lemma alternatives_bar {n k m : Nat} {p p' q : Pattern} {r s : Regex} {behind : List Char}
    (hr : (Reader.alternatives n).run p = some (r, p')) (hend : p'.rest = [])
    (hflags : p'.flags.verbose = false)
    (hs : (Reader.alternatives k).run ⟨behind, p'.flags, []⟩ = some (s, q))
    (hnames : List.Disjoint q.names p'.names) (hn : n ≤ m) (hk : k + p.rest.length + 1 ≤ m) :
    ∃ j, (Reader.alternatives m).run ⟨p.rest ++ '|' :: behind, p.flags, p.names⟩ =
        some (j, ⟨q.rest, q.flags, q.names ++ p'.names⟩) ∧ IsEither j r s := by
  induction n generalizing m p r with
  | zero =>
    rw [Reader.alternatives] at hr
    cases hr
  | succ n ih =>
    obtain ⟨m, rfl⟩ : ∃ l, m = l + 1 := ⟨m - 1, by omega⟩
    rw [Reader.alternatives] at hr ⊢
    obtain ⟨a, p₁, ha, hr⟩ := Reader.run_bind_iff.1 hr
    have hbar : BeginsWithBar ('|' :: behind) := Or.inr ⟨behind, rfl⟩
    obtain ⟨honward, hread⟩ := (persists hbar [] n).2.1 m p (by omega) a p₁ ha
    have hread' (hclear : p₁.IsClear ('|' :: behind)) :
        (Reader.sequence m).run ⟨p.rest ++ '|' :: behind, p.flags, p.names⟩ =
          some (a, ⟨p₁.rest ++ '|' :: behind, p₁.flags, p₁.names⟩) := by
      simpa [Pattern.followedBy] using hread hclear (List.disjoint_nil_right _)
    have hlength := honward.length_le
    rw [Reader.run_rest_bind] at hr
    split at hr
    · rename_i cs hcs
      rw [hcs] at hlength hread'
      obtain ⟨_, _, ⟨⟩, hr⟩ := Reader.run_bind_iff.1 hr
      obtain ⟨b, _, hb, ⟨⟩⟩ := Reader.run_bind_iff.1 hr
      obtain ⟨j, hj, heither⟩ := ih (m := m) hb (by omega) (by simp at hlength ⊢; omega)
      refine ⟨.alt a j, ?_, heither.alt_left a⟩
      have hclear : p₁.IsClear ('|' :: behind) := Pattern.isClear_of_rest_ne_nil (by simp [hcs])
      refine Reader.run_bind_iff.2 ⟨a, _, hread' hclear, ?_⟩
      rw [Reader.run_rest_bind]
      exact Reader.run_bind_iff.2 ⟨(), _, rfl, Reader.run_bind_iff.2 ⟨j, _, hj, rfl⟩⟩
    · cases hr
      rw [hend] at hread'
      refine ⟨.alt r s, ?_, .alt r s⟩
      refine Reader.run_bind_iff.2 ⟨r, _, hread' (Or.inr (Or.inr hflags)), ?_⟩
      have hbehind := ((persists (Or.inl rfl) p'.names k).1 m ⟨behind, p'.flags, []⟩ (by omega)
        s q hs).2 (Or.inl rfl) hnames
      rw [Reader.run_rest_bind]
      refine Reader.run_bind_iff.2 ⟨(), _, rfl, Reader.run_bind_iff.2 ⟨s, _, ?_, rfl⟩⟩
      simpa [Pattern.followedBy] using hbehind

/-! ## Joining -/

/-- Whether a pattern, read on its own, matches a text. -/
def matchesAlone (source text : String) : Bool :=
  (ofText? source).any (·.isMatch text)

/-- What a pattern is read as, with the place where reading it ends. -/
def reading (source : String) : Option (Regex × Pattern) :=
  (Reader.alternatives (3 * source.toList.length + 3)).run ⟨source.toList, Flags.standard, []⟩

/-- The names of the groups in a pattern. -/
def groupNames (source : String) : List (List Char) :=
  (reading source).elim [] fun (_, p) => p.names

lemma read?_eq_some_iff {source : String} {r : Regex} :
    read? source = some r ↔ ∃ p, reading source = some (r, p) ∧ p.rest = [] := by
  rw [read?, reading]
  rcases (Reader.alternatives (3 * source.toList.length + 3)).run
    ⟨source.toList, Flags.standard, []⟩ with _ | ⟨r', ⟨_ | ⟨c, cs⟩, flags, names⟩⟩
  · simp
  · simp
  · simp

lemma ofText?_eq_some_iff {source : String} {r : Regex} :
    ofText? source = some r ↔ read? source = some r ∧ r.isSmall := by
  rw [ofText?, Option.filter_eq_some_iff]

/-- A pattern is small enough to be compiled, as far as it can be read. -/
def Fits (source : String) : Prop :=
  ∀ r, read? source = some r → r.isSmall

/-- Whether a pattern is small enough can be computed. -/
instance (source : String) : Decidable (Fits source) :=
  decidable_of_iff ((read? source).all isSmall) (by simp [Fits, Option.all_eq_true])

/-- Patterns that may be joined: none sets flags for those after it, and no name is given in two
of them. -/
structure Joinable (sources : List String) : Prop where
  /-- After each of them the flags are those at the beginning. -/
  flags_eq : ∀ source ∈ sources, ∀ r p, reading source = some (r, p) → p.flags = Flags.standard
  /-- No two of them have a group of the same name. -/
  names_disjoint : sources.Pairwise fun s t => List.Disjoint (groupNames s) (groupNames t)

deriving instance DecidableEq for Flags

/-- Whether patterns may be joined can be computed. -/
instance (sources : List String) : Decidable (Joinable sources) :=
  decidable_of_iff
    ((∀ source ∈ sources, (reading source).all fun (_, p) => p.flags = Flags.standard) ∧
      sources.Pairwise fun s t => ∀ name ∈ groupNames s, name ∉ groupNames t)
    ⟨fun ⟨hflags, hnames⟩ =>
      ⟨fun source hsource r p hp => by simpa [hp] using hflags source hsource,
        hnames.imp fun h name hs ht => h name hs ht⟩,
    fun h => ⟨fun source hsource => by
        rcases hp : reading source with _ | ⟨r, p⟩
        · rfl
        · simpa using h.flags_eq source hsource r p hp,
      h.names_disjoint.imp fun h name hs ht => h hs ht⟩⟩

/-- The order of patterns does not matter for joining them. -/
lemma Joinable.perm {sources sources' : List String} (h : Joinable sources)
    (hperm : sources.Perm sources') : Joinable sources' where
  flags_eq source hsource := h.flags_eq source (hperm.mem_iff.2 hsource)
  names_disjoint := (hperm.pairwise_iff List.disjoint_symm).1 h.names_disjoint

lemma toList_joinStrings_cons_cons (source source' : String) (sources : List String) :
    (Text.joinStrings "|" (source :: source' :: sources)).toList =
      source.toList ++ '|' :: (Text.joinStrings "|" (source' :: sources)).toList := by
  simp [Text.joinStrings, String.intercalate_cons_cons]

/-- What is read from joined patterns matches what one of them matches. -/
lemma reading_join {sources : List String} (hne : sources ≠ [])
    (hread : ∀ source ∈ sources, ∃ r p, reading source = some (r, p) ∧ p.rest = [])
    (hflags : ∀ source ∈ sources, ∀ r p, reading source = some (r, p) → p.flags = .standard)
    (hnames : sources.Pairwise fun s t => List.Disjoint (groupNames s) (groupNames t)) :
    ∃ r names, reading (Text.joinStrings "|" sources) = some (r, ⟨[], .standard, names⟩) ∧
      (∀ name ∈ names, ∃ source ∈ sources, name ∈ groupNames source) ∧
      ∀ text, r.isMatch text ↔
        ∃ source ∈ sources, ∃ s p, reading source = some (s, p) ∧ s.isMatch text := by
  induction sources with
  | nil => exact absurd rfl hne
  | cons source sources ih =>
    obtain ⟨r, ⟨_, flags, names⟩, hr, rfl⟩ := hread source List.mem_cons_self
    obtain rfl : flags = .standard := hflags source List.mem_cons_self r _ hr
    have hgroups : groupNames source = names := by simp [groupNames, hr]
    cases sources with
    | nil =>
      refine ⟨r, names, by simpa [Text.joinStrings] using hr, ?_, ?_⟩
      · simp [hgroups]
      · simp [hr]
    | cons source' sources =>
      obtain ⟨s, names', hs, hnames', hmatch'⟩ := ih (by simp)
        (fun t ht => hread t (List.mem_cons_of_mem _ ht))
        (fun t ht => hflags t (List.mem_cons_of_mem _ ht)) hnames.of_cons
      have hjoin := toList_joinStrings_cons_cons source source' sources
      -- No name is given on both sides of the first bar.
      have hapart : List.Disjoint names' names := by
        intro name hname' hname
        obtain ⟨t, ht, hgroup⟩ := hnames' name hname'
        exact (List.rel_of_pairwise_cons hnames ht) (hgroups ▸ hname) hgroup
      obtain ⟨j, hj, heither⟩ := alternatives_bar hr rfl rfl hs hapart
        (m := 3 * (Text.joinStrings "|" (source :: source' :: sources)).toList.length + 3)
        (by rw [hjoin, List.length_append, List.length_cons]; omega)
        (by
          change 3 * _ + 3 + source.toList.length + 1 ≤ _
          rw [hjoin, List.length_append, List.length_cons]
          omega)
      refine ⟨j, names' ++ names, ?_, ?_, fun text => ?_⟩
      · rw [reading, ← hj, hjoin]
      · intro name hname
        rcases List.mem_append.1 hname with hname | hname
        · obtain ⟨t, ht, hgroup⟩ := hnames' name hname
          exact ⟨t, List.mem_cons_of_mem _ ht, hgroup⟩
        · exact ⟨source, List.mem_cons_self, hgroups ▸ hname⟩
      · rw [heither.isMatch_iff, hmatch', List.exists_mem_cons_iff]
        simp [hr]

/-- **Patterns that may be joined are joined into one that matches what one of them matches**, as
long as it is small enough to be compiled. -/
theorem ofText?_join {sources : List String} (hne : sources ≠ [])
    (hread : ∀ source ∈ sources, (ofText? source).isSome) (hjoin : Joinable sources)
    (hfits : Fits (Text.joinStrings "|" sources)) :
    ∃ r, ofText? (Text.joinStrings "|" sources) = some r ∧
      ∀ text, r.isMatch text ↔ ∃ source ∈ sources, matchesAlone source text := by
  have hreading : ∀ source ∈ sources, ∃ r p, ofText? source = some r ∧
      reading source = some (r, p) ∧ p.rest = [] := by
    intro source hsource
    obtain ⟨r, hr⟩ := Option.isSome_iff_exists.1 (hread source hsource)
    obtain ⟨p, hp, hrest⟩ := read?_eq_some_iff.1 (ofText?_eq_some_iff.1 hr).1
    exact ⟨r, p, hr, hp, hrest⟩
  obtain ⟨r, names, hr, -, hmatch⟩ := reading_join hne
    (fun source hsource => ((hreading source hsource).imp fun _ => .imp fun _ => And.right))
    hjoin.flags_eq hjoin.names_disjoint
  have hread : read? (Text.joinStrings "|" sources) = some r := read?_eq_some_iff.2 ⟨_, hr, rfl⟩
  refine ⟨r, ofText?_eq_some_iff.2 ⟨hread, hfits r hread⟩, fun text => (hmatch text).trans ?_⟩
  refine exists_congr fun source => and_congr_right fun hsource => ?_
  obtain ⟨s, p, hs, hp, -⟩ := hreading source hsource
  simp [matchesAlone, hs, hp]

end ApiContract.Regex
