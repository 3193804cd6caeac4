/-
# Patterns that go on

What is read at the beginning of a pattern is read there too when the pattern goes on behind
it, as long as it goes on with a bar: nothing that is read reaches over a bar that it has not
taken itself.  There are two exceptions.  A comment that has not come to its end takes over
what follows, and a group may not have a name that is taken.

The first part says this for a single reader; then it is shown for one reader after another.
-/
import ApiContract.Proofs.Regex.Lookahead

namespace ApiContract.Regex

/-! ## Readers one after another -/

namespace Reader

variable {α β : Type} {p p' : Pattern}

lemma run_bind_iff {m : Reader α} {f : α → Reader β} {b : β} :
    (m >>= f).run p = some (b, p') ↔
      ∃ a q, m.run p = some (a, q) ∧ (f a).run q = some (b, p') := by
  rw [StateT.run_bind]
  rcases m.run p with _ | ⟨a, q⟩ <;> simp

lemma run_rest_bind (f : List Char → Reader α) : (rest >>= f).run p = (f p.rest).run p := rfl

end Reader

/-! ## What follows a pattern -/

/-- A pattern with more text behind it, and with the names of other groups before it. -/
def Pattern.followedBy (p : Pattern) (more : List Char) (names : List (List Char)) : Pattern :=
  ⟨p.rest ++ more, p.flags, p.names ++ names⟩

/-- What follows a pattern is not mistaken for the rest of a comment. -/
def Pattern.IsClear (more : List Char) (p : Pattern) : Prop :=
  more = [] ∨ p.rest ≠ [] ∨ p.flags.verbose = false

/-- One place in a pattern comes after another. -/
structure Pattern.Onward (more : List Char) (p p' : Pattern) : Prop where
  /-- There is no more to read. -/
  length_le : p'.rest.length ≤ p.rest.length
  /-- Names are kept. -/
  names_subset : p.names ⊆ p'.names
  /-- What follows was not mistaken before if it is not mistaken now. -/
  isClear : p'.IsClear more → p.IsClear more

namespace Pattern

variable {more : List Char} {p p' q : Pattern}

lemma isClear_of_rest_ne_nil (h : p.rest ≠ []) : p.IsClear more :=
  Or.inr (Or.inl h)

namespace Onward

lemma refl (p : Pattern) : p.Onward more p :=
  ⟨Nat.le_refl _, List.Subset.refl _, id⟩

lemma trans (h : p.Onward more q) (h' : q.Onward more p') : p.Onward more p' :=
  ⟨Nat.le_trans h'.length_le h.length_le, List.Subset.trans h.names_subset h'.names_subset,
    fun hclear => h.isClear (h'.isClear hclear)⟩

/-- A place with the same flags and no more to read. -/
lemma of_length_le {cs : List Char} (h : cs.length ≤ p.rest.length) :
    p.Onward more { p with rest := cs } := by
  refine ⟨h, List.Subset.refl _, ?_⟩
  rintro (hmore | hrest | hverbose)
  · exact Or.inl hmore
  · refine isClear_of_rest_ne_nil fun hnil => hrest ?_
    rw [hnil] at h
    exact List.eq_nil_of_length_eq_zero (Nat.le_zero.1 h)
  · exact Or.inr (Or.inr hverbose)

end Onward
end Pattern

/-! ## Readers that persist -/

/-- What the first reader reads at a place, the second reads there when the pattern goes on. -/
def Persists {α : Type} (more : List Char) (names : List (List Char)) (p : Pattern)
    (m m' : Reader α) : Prop :=
  ∀ a p', m.run p = some (a, p') → p.Onward more p' ∧
    (p'.IsClear more → List.Disjoint p'.names names →
      m'.run (p.followedBy more names) = some (a, p'.followedBy more names))

namespace Persists

variable {α β : Type} {more : List Char} {names : List (List Char)} {p : Pattern}

lemma pure (a : α) : Persists more names p (Pure.pure a) (Pure.pure a) := by
  rintro _ _ ⟨⟩
  exact ⟨.refl p, fun _ _ => rfl⟩

lemma failure {m' : Reader α} : Persists more names p Alternative.failure m' := by
  rintro _ _ ⟨⟩

lemma ofOption (o : Option α) :
    Persists more names p (liftM o : Reader α) (liftM o : Reader α) := by
  cases o with
  | none => rintro _ _ ⟨⟩
  | some a => exact pure a

/-- A reader that looks ahead, and then goes on from there or comes back. -/
lemma bind_orBack {m m' : Reader α} {f f' : α → Reader β} (hm : Persists more names p m m')
    (hf : ∀ a q, m.run p = some (a, q) → Persists more names q (f a) (f' a) ∨
      q.rest ≠ [] ∧ q.names = p.names ∧ ∃ b, (f a).run q = some (b, p) ∧
        (f' a).run (q.followedBy more names) = some (b, p.followedBy more names)) :
    Persists more names p (m >>= f) (m' >>= f') := by
  intro b p' h
  obtain ⟨a, q, ha, hb⟩ := Reader.run_bind_iff.1 h
  obtain ⟨honward, hread⟩ := hm a q ha
  rcases hf a q ha with hon | ⟨hrest, hkept, c, hback, hback'⟩
  · obtain ⟨honward', hread'⟩ := hon b p' hb
    refine ⟨honward.trans honward', fun hclear hnames => Reader.run_bind_iff.2 ?_⟩
    have hdisjoint : List.Disjoint q.names names :=
      fun _ hq hname => hnames (honward'.names_subset hq) hname
    exact ⟨a, _, hread (honward'.isClear hclear) hdisjoint, hread' hclear hnames⟩
  · obtain ⟨rfl, rfl⟩ : c = b ∧ p = p' := by simpa [hback] using hb
    refine ⟨.refl p, fun _ hnames => Reader.run_bind_iff.2 ⟨a, _, ?_, hback'⟩⟩
    exact hread (Pattern.isClear_of_rest_ne_nil hrest) (hkept ▸ hnames)

lemma bind {m m' : Reader α} {f f' : α → Reader β} (hm : Persists more names p m m')
    (hf : ∀ a q, m.run p = some (a, q) → Persists more names q (f a) (f' a)) :
    Persists more names p (m >>= f) (m' >>= f') :=
  hm.bind_orBack fun a q ha => Or.inl (hf a q ha)

lemma rest_bind {f f' : List Char → Reader α}
    (h : Persists more names p (f p.rest) (f' (p.rest ++ more))) :
    Persists more names p (Reader.rest >>= f) (Reader.rest >>= f') :=
  h

lemma flags_bind {f f' : Flags → Reader α}
    (h : Persists more names p (f p.flags) (f' p.flags)) :
    Persists more names p (Reader.flags >>= f) (Reader.flags >>= f') :=
  h

lemma ite {c : Prop} [Decidable c] {m n m' n' : Reader α}
    (hm : c → Persists more names p m m') (hn : ¬ c → Persists more names p n n') :
    Persists more names p (if c then m else n) (if c then m' else n') := by
  split
  · exact hm ‹_›
  · exact hn ‹_›

/-- A reader that refuses a place under some condition. -/
lemma refuse {c : Prop} [Decidable c] {f f' : Unit → Reader α}
    (h : ¬ c → Persists more names p (f ()) (f' ())) :
    Persists more names p (if c then Alternative.failure >>= f else f ())
      (if c then Alternative.failure >>= f' else f' ()) :=
  ite (fun _ => failure.bind fun _ _ hrun => by cases hrun) h

/-- Going on to a rest that is no longer. -/
lemma goTo {cs : List Char} (h : cs.length ≤ p.rest.length) :
    Persists more names p (Reader.goTo cs) (Reader.goTo (cs ++ more)) := by
  rintro _ _ ⟨⟩
  exact ⟨.of_length_le h, fun _ _ => rfl⟩

lemma discard {m m' : Reader α} (h : Persists more names p m m') :
    Persists more names p (Functor.discard m) (Functor.discard m') := by
  rw [Functor.discard, Functor.discard]
  exact h.bind fun a q _ => pure ()

lemma forIn {γ : Type} (xs : List γ) {f f' : γ → PUnit → Reader (ForInStep PUnit)}
    (h : ∀ x ∈ xs, ∀ q, Persists more names q (f x ⟨⟩) (f' x ⟨⟩)) :
    Persists more names p (ForIn.forIn xs PUnit.unit f) (ForIn.forIn xs PUnit.unit f') := by
  induction xs generalizing p with
  | nil => exact pure _
  | cons x xs ih =>
    rw [List.forIn_cons, List.forIn_cons]
    refine (h x List.mem_cons_self p).bind fun step q _ => ?_
    cases step with
    | done => exact pure _
    | yield => exact ih fun y hy => h y (List.mem_cons_of_mem _ hy)

/-! ### Characters -/

lemma skipBlanks : Persists more names p Reader.skipBlanks Reader.skipBlanks := by
  refine flags_bind (ite (fun hverbose => ?_) fun _ => pure ())
  rintro _ _ ⟨⟩
  refine ⟨.of_length_le (Reader.length_dropBlanks_le false p.rest), ?_⟩
  intro hclear _
  have happend : Reader.dropBlanks false (p.rest ++ more) =
      Reader.dropBlanks false p.rest ++ more := by
    rcases hclear with rfl | hrest | hflags
    · simp
    · exact Reader.dropBlanks_append hrest more
    · simp [hverbose] at hflags
  change some ((),
    (⟨Reader.dropBlanks false (p.rest ++ more), p.flags, p.names ++ names⟩ : Pattern)) = _
  rw [happend]
  rfl

lemma take : Persists more names p Reader.take Reader.take := by
  refine rest_bind ?_
  rcases hrest : p.rest with _ | ⟨c, cs⟩
  · exact failure
  · exact (goTo (by simp [hrest])).bind fun _ _ _ => pure c

lemma takeIf (hmore : BeginsWithBar more) (text : String) (htext : '|' ∉ text.toList) :
    Persists more names p (Reader.takeIf text) (Reader.takeIf text) := by
  refine rest_bind ?_
  rw [Reader.dropPrefix?_append hmore htext]
  cases hdrop : Text.dropPrefix? text.toList p.rest with
  | none => exact pure false
  | some cs => exact (goTo (Reader.length_dropPrefix?_le hdrop)).bind fun _ _ _ => pure true

lemma advance : Persists more names p Reader.advance Reader.advance := by
  refine take.discard.bind fun _ _ _ => skipBlanks.bind fun _ q _ => rest_bind ?_
  cases q.rest with
  | nil => exact failure
  | cons c cs => exact pure ()

/-! ### Escapes -/

lemma untilBrace {n n' : Nat} (h : n ≤ n') :
    Persists more names p (Reader.untilBrace n) (Reader.untilBrace n') := by
  induction n generalizing n' p with
  | zero => exact failure
  | succ n ih =>
    obtain ⟨n', rfl⟩ : ∃ m, n' = m + 1 := ⟨n' - 1, by omega⟩
    refine take.bind fun c _ _ => ite (fun _ => pure []) fun _ => ?_
    exact skipBlanks.bind fun _ _ _ => (ih (by omega)).bind fun cs _ _ => pure (c :: cs)

lemma taking (n : Nat) : Persists more names p (Reader.taking n) (Reader.taking n) := by
  induction n generalizing p with
  | zero => exact pure []
  | succ n ih =>
    exact take.bind fun c _ _ => skipBlanks.bind fun _ _ _ => ih.bind fun cs _ _ => pure (c :: cs)

lemma hexEscape (hmore : BeginsWithBar more) (width : Nat) :
    Persists more names p (Reader.hexEscape width) (Reader.hexEscape width) := by
  refine skipBlanks.bind fun _ q _ => rest_bind ?_
  split
  · rename_i cs hcs
    rw [hcs, List.cons_append]
    refine (goTo (by simp [hcs])).bind fun _ _ _ => skipBlanks.bind fun _ _ _ => ?_
    refine (untilBrace (by simp)).bind fun _ _ _ => (ofOption _).bind fun n _ _ => ?_
    exact skipBlanks.bind fun _ _ _ => (ofOption _).bind fun c _ _ => pure _
  · rename_i hcs
    split
    · exact absurd ‹_› (hmore.append_ne_cons (by decide) hcs _)
    · refine (taking width).bind fun _ _ _ => (ofOption _).bind fun n _ _ => flags_bind ?_
      refine ite (fun _ => pure _) fun _ => ?_
      exact (ofOption _).bind fun c _ _ => pure _

lemma propertyEscape (hmore : BeginsWithBar more) (negated : Bool) :
    Persists more names p (Reader.propertyEscape negated) (Reader.propertyEscape negated) := by
  refine skipBlanks.bind fun _ q _ => rest_bind ?_
  dsimp only
  split
  · rename_i cs hcs
    rw [hcs, List.cons_append]
    refine (goTo (by simp [hcs])).bind fun _ _ _ => skipBlanks.bind fun _ _ _ => ?_
    refine (untilBrace (by simp)).bind fun _ _ _ => (ofOption _).bind fun found _ _ => ?_
    refine flags_bind (refuse fun _ => flags_bind (flags_bind ?_))
    exact (ofOption _).bind fun _ _ _ => pure _
  · rename_i hcs
    split
    · exact absurd ‹_› (hmore.append_ne_cons (by decide) hcs _)
    · refine take.bind fun c _ _ => skipBlanks.bind fun _ _ _ => (ofOption _).bind fun _ _ _ => ?_
      refine flags_bind (refuse fun _ => flags_bind (flags_bind ?_))
      exact (ofOption _).bind fun _ _ _ => pure _

lemma skipBlanks_keeps {q : Pattern} {u : Unit} (h : Reader.skipBlanks.run p = some (u, q)) :
    q.flags = p.flags ∧ q.names = p.names := by
  change (if p.flags.verbose then _ else _ : Reader Unit).run p = _ at h
  split at h
  all_goals
    cases h
    exact ⟨rfl, rfl⟩

/-- Braces after an edge are looked into, and left alone if they hold no name. -/
lemma edgeEscape (hmore : BeginsWithBar more) :
    Persists more names p Reader.edgeEscape Reader.edgeEscape := by
  refine flags_bind (rest_bind ?_)
  split
  · rename_i cs hcs
    rw [hcs, List.cons_append]
    change Persists more names p (Reader.goTo cs >>= _) (Reader.goTo (cs ++ more) >>= _)
    rw [← bind_assoc (Reader.goTo cs), ← bind_assoc (Reader.goTo (cs ++ more))]
    have hlook : Persists more names p (Reader.goTo cs >>= fun _ => Reader.skipBlanks)
        (Reader.goTo (cs ++ more) >>= fun _ => Reader.skipBlanks) :=
      (goTo (by simp [hcs])).bind fun _ _ _ => skipBlanks
    refine hlook.bind_orBack fun _ q hq => ?_
    rcases hrest : q.rest with _ | ⟨c, ds⟩
    · refine Or.inl (rest_bind ?_)
      rw [hrest]
      exact failure
    · by_cases hc : c.isAlpha || c == '-'
      · refine Or.inl (rest_bind ?_)
        simp only [hrest, List.cons_append, hc, if_true]
        refine (untilBrace (by simp)).bind fun name _ _ => ?_
        exact (ofOption _).bind fun _ _ _ => pure _
      · obtain ⟨hflags, hnames⟩ := skipBlanks_keeps (p := { p with rest := cs }) hq
        refine Or.inr ⟨by simp, hnames, .look (.edge p.flags.word), ?_⟩
        have hback : p = ⟨'{' :: cs, q.flags, q.names⟩ := by rw [hflags, hnames, ← hcs]
        simp only [Reader.run_rest_bind, Pattern.followedBy, hrest, List.cons_append, hc]
        rw [hback]
        exact ⟨rfl, rfl⟩
  · rename_i hcs
    split
    · exact absurd ‹_› (hmore.append_ne_cons (by decide) hcs _)
    · exact pure _

lemma classEscape (letter : Char) :
    Persists more names p (Reader.classEscape letter) (Reader.classEscape letter) :=
  flags_bind ((ofOption _).bind fun chars _ _ => pure (Reader.Atom.chars chars))

lemma escape (hmore : BeginsWithBar more) :
    Persists more names p Reader.escape Reader.escape := by
  refine take.bind fun c _ _ => ite (fun _ => pure _) fun _ => flags_bind ?_
  split
  any_goals exact pure _
  any_goals exact classEscape _
  · exact hexEscape hmore 2
  · exact hexEscape hmore 4
  · exact hexEscape hmore 8
  · exact propertyEscape hmore false
  · exact propertyEscape hmore true
  · exact edgeEscape hmore
  · exact failure

/-! ### Classes in brackets -/

lemma classAtom (hmore : BeginsWithBar more) :
    Persists more names p Reader.classAtom Reader.classAtom := by
  refine take.bind fun c _ _ => ?_
  split
  · exact escape hmore
  · exact pure _

lemma atomClass (atom : Reader.Atom) :
    Persists more names p (Reader.atomClass atom) (Reader.atomClass atom) := by
  cases atom with
  | char c => exact flags_bind (refuse fun _ => pure _)
  | byte n => exact pure _
  | chars c => exact pure c
  | look _ => exact failure

lemma atomPoint (atom : Reader.Atom) :
    Persists more names p (Reader.atomPoint atom) (Reader.atomPoint atom) := by
  cases atom with
  | char c => exact flags_bind (refuse fun _ => pure _)
  | byte n => exact pure n
  | chars _ => exact failure
  | look _ => exact failure

lemma advance_fails {c : Char} {cs : List Char} (hp : p.rest = c :: cs)
    (h : (if p.flags.verbose then Reader.dropBlanks false cs else cs) = []) :
    Reader.advance.run p = none := by
  obtain ⟨_, flags, names⟩ := p
  obtain rfl := hp
  change ((if flags.verbose then _ else _ : Reader Unit) >>= fun _ => _).run _ = _
  cases hverbose : flags.verbose with
  | false =>
    obtain rfl : cs = [] := by simpa [hverbose] using h
    rfl
  | true =>
    have hblank : Reader.dropBlanks false cs = [] := by simpa [hverbose] using h
    change (if (Reader.dropBlanks false cs).isEmpty then _ else _ : Reader Unit).run _ = _
    rw [hblank]
    rfl

/-- A hyphen at the end of a pattern makes no range. -/
lemma classRange (hmore : BeginsWithBar more) :
    Persists more names p Reader.classRange Reader.classRange := by
  refine (classAtom hmore).bind fun first _ _ => skipBlanks.bind fun _ q _ => rest_bind ?_
  split
  · exact failure
  · rename_i cs hcs
    rw [hcs, List.cons_append]
    refine flags_bind ?_
    dsimp only
    by_cases hafter : (if q.flags.verbose then Reader.dropBlanks false cs else cs) = []
    · rw [hafter]
      intro a p' hrun
      obtain ⟨_, _, hadvance, -⟩ := Reader.run_bind_iff.1 hrun
      rw [advance_fails hcs hafter] at hadvance
      cases hadvance
    · rw [Reader.afterBlanks_append hafter, List.head?_append_of_ne_nil _ hafter]
      split
      · exact atomClass first
      · exact atomClass first
      · refine advance.bind fun _ _ _ => (classAtom hmore).bind fun last _ _ => ?_
        refine (atomPoint first).bind fun _ _ _ => (atomPoint last).bind fun _ _ _ => ?_
        exact refuse fun _ => pure _
  · rename_i hnil hcs
    split
    · rename_i happend
      exact absurd (List.append_eq_nil_iff.1 happend).1 hnil
    · exact absurd ‹_› (hmore.append_ne_cons (by decide) hcs _)
    · exact atomClass first

lemma takeNamed (hmore : BeginsWithBar more) (negated : Bool) {cs : List Char}
    (h : cs.length ≤ p.rest.length) :
    Persists more names p (Reader.takeNamed negated cs)
      (Reader.takeNamed negated (cs ++ more)) := by
  rw [Reader.takeNamed, Reader.takeNamed, Reader.namedBefore?_append hmore]
  rcases hnamed : Reader.namedBefore? cs with _ | ⟨chars, after⟩
  · exact pure none
  · have hafter := Reader.length_namedBefore?_le hnamed
    refine (goTo (by omega)).bind fun _ _ _ => flags_bind (flags_bind ?_)
    exact (ofOption _).bind fun _ _ _ => pure _

lemma classNamed (hmore : BeginsWithBar more) :
    Persists more names p Reader.classNamed Reader.classNamed := by
  rw [Reader.classNamed_eq]
  refine rest_bind ?_
  split
  · rename_i cs hcs
    rw [hcs]
    exact takeNamed hmore true (by rw [hcs]; simp; omega)
  · rename_i cs hcaret hcs
    rw [hcs]
    split
    · rename_i happend
      rw [List.cons_append, List.cons_append, List.cons.injEq, List.cons.injEq] at happend
      exact absurd happend.2.2 (hmore.append_ne_cons (by decide) (by simpa [hcs] using hcaret) _)
    · rename_i happend
      cases happend
      exact takeNamed hmore false (by rw [hcs]; simp; omega)
    · rename_i happend
      exact absurd rfl (happend _)
  · rename_i hcs
    split
    · exact absurd ‹_› (hmore.append_ne_cons_cons (by decide) (by decide) hcs _)
    · exact absurd ‹_› (hmore.append_ne_cons_cons (by decide) (by decide) hcs _)
    · exact pure none

lemma leadingHyphens (hmore : BeginsWithBar more) {n n' : Nat} (h : n ≤ n')
    (items : Reader.Members) :
    Persists more names p (Reader.leadingHyphens n items) (Reader.leadingHyphens n' items) := by
  induction n generalizing n' items p with
  | zero => exact failure
  | succ n ih =>
    obtain ⟨n', rfl⟩ : ∃ m, n' = m + 1 := ⟨n' - 1, by omega⟩
    refine rest_bind ?_
    split
    · rename_i cs hcs
      rw [hcs, List.cons_append]
      exact advance.bind fun _ _ _ => ih (by omega) _
    · rename_i hcs
      split
      · exact absurd ‹_› (hmore.append_ne_cons (by decide) hcs _)
      · exact pure items

lemma classOpening (hmore : BeginsWithBar more) :
    Persists more names p Reader.classOpening Reader.classOpening := by
  refine rest_bind ?_
  have hnegated : ((p.rest ++ more).head? == some '^') = (p.rest.head? == some '^') := by
    rw [Bool.eq_iff_iff, beq_iff_eq, beq_iff_eq]
    exact hmore.head?_append_eq_some_iff (by decide) p.rest
  rw [hnegated]
  refine ite (fun _ => advance.bind fun _ _ _ => ?_) fun _ => ?_
  all_goals
    refine rest_bind ((leadingHyphens hmore (by simp) _).bind fun items q hitems => ?_)
    clear hitems
    refine rest_bind ?_
    split
    · rename_i hcount hcs
      rw [hcount, hcs, List.cons_append]
      exact advance.bind fun _ _ _ => pure _
    · rename_i hfirst
      split
      · rename_i hcount happend
        exact absurd happend (hmore.append_ne_cons (by decide) (fun ds => hfirst ds hcount) _)
      · exact pure _

/-- A class in brackets and its members, for every number of steps that is enough. -/
lemma brackets_classItems (hmore : BeginsWithBar more) (n : Nat) :
    (∀ n' p, n ≤ n' → Persists more names p (Reader.brackets n) (Reader.brackets n')) ∧
      ∀ n' p left items, n ≤ n' →
        Persists more names p (Reader.classItems n left items)
          (Reader.classItems n' left items) := by
  induction n with
  | zero =>
    refine ⟨fun n' p _ => ?_, fun n' p left items _ => ?_⟩
    · rw [Reader.brackets]
      exact failure
    · rw [Reader.classItems]
      exact failure
  | succ n ih =>
    refine ⟨fun n' p h => ?_, fun n' p left items h => ?_⟩
    all_goals obtain ⟨n', rfl⟩ : ∃ m, n' = m + 1 := ⟨n' - 1, by omega⟩
    · rw [Reader.brackets, Reader.brackets]
      refine advance.bind fun _ _ _ => (classOpening hmore).bind fun opening _ _ => ?_
      refine (ih.2 _ _ _ _ (by omega)).bind fun members _ _ => flags_bind (flags_bind ?_)
      exact (ofOption _).bind fun chars _ _ => pure _
    · rw [Reader.classItems, Reader.classItems]
      refine skipBlanks.bind fun _ q _ => rest_bind ?_
      split
      · exact failure
      · rename_i cs hcs
        rw [hcs, List.cons_append]
        exact (goTo (by simp [hcs])).bind fun _ _ _ => flags_bind (pure _)
      · rename_i cs hcs
        rw [hcs, List.cons_append]
        refine (classNamed hmore).bind fun found _ _ => ?_
        cases found with
        | some chars => exact ih.2 _ _ _ _ (by omega)
        | none => exact (ih.1 _ _ (by omega)).bind fun chars _ _ => ih.2 _ _ _ _ (by omega)
      iterate 3
        rename_i cs hcs
        rw [hcs, List.cons_append, List.cons_append]
        exact (goTo (by simp [hcs]; omega)).bind fun _ _ _ => flags_bind (ih.2 _ _ _ _ (by omega))
      · rename_i hnil hclose hopen hinter hdiff hsymm
        split
        · exact absurd (List.append_eq_nil_iff.1 ‹_›).1 hnil
        · exact absurd ‹_› (hmore.append_ne_cons (by decide) hclose _)
        · exact absurd ‹_› (hmore.append_ne_cons (by decide) hopen _)
        · exact absurd ‹_› (hmore.append_ne_cons_cons (by decide) (by decide) hinter _)
        · exact absurd ‹_› (hmore.append_ne_cons_cons (by decide) (by decide) hdiff _)
        · exact absurd ‹_› (hmore.append_ne_cons_cons (by decide) (by decide) hsymm _)
        · exact (classRange hmore).bind fun chars _ _ => ih.2 _ _ _ _ (by omega)

/-! ### Repetitions -/

lemma decimal (hmore : BeginsWithBar more) :
    Persists more names p Reader.decimal Reader.decimal := by
  refine rest_bind (flags_bind ?_)
  have hdigit : '|'.isDigit = false := rfl
  have hspace : Text.isSpace '|' = false := rfl
  dsimp only
  rw [hmore.dropWhile_append hspace, Reader.digits_append hmore,
    hmore.dropWhile_append (by simp [hdigit, hspace]), hmore.dropWhile_append hspace]
  have hlength (f g h : Char → Bool) :
      (((p.rest.dropWhile f).dropWhile g).dropWhile h).length ≤ p.rest.length :=
    (((List.dropWhile_sublist h).trans (List.dropWhile_sublist g)).trans
      (List.dropWhile_sublist f)).length_le
  refine (goTo (hlength _ _ _)).bind fun _ _ _ => skipBlanks.bind fun _ _ _ => ?_
  exact ite (fun _ => pure none) fun _ => refuse fun _ => pure _

lemma closeBounds (hmore : BeginsWithBar more) (least : Nat) (most : Option Nat) :
    Persists more names p (Reader.closeBounds least most) (Reader.closeBounds least most) := by
  refine take.bind fun c _ _ => ?_
  split
  · refine skipBlanks.bind fun _ _ _ => (takeIf hmore "?" (by decide)).discard.bind fun _ _ _ => ?_
    exact refuse fun _ => pure _
  · exact failure

lemma bounds (hmore : BeginsWithBar more) :
    Persists more names p Reader.bounds Reader.bounds := by
  refine advance.bind fun _ _ _ => (decimal hmore).bind fun least? _ _ => ?_
  refine (ofOption least?).bind fun least q _ => rest_bind ?_
  dsimp only
  split
  · rename_i cs hcs
    rw [hcs, List.cons_append]
    refine advance.bind fun _ q _ => rest_bind ?_
    split
    · rename_i cs hcs
      rw [hcs, List.cons_append]
      exact (pure none).bind fun most _ _ => closeBounds hmore least most
    · rename_i hcs
      split
      · exact absurd ‹_› (hmore.append_ne_cons (by decide) hcs _)
      · refine (decimal hmore).bind fun most? _ _ => (ofOption most?).bind fun most _ _ => ?_
        exact (pure _).bind fun most _ _ => closeBounds hmore least most
  · rename_i hcs
    split
    · exact absurd ‹_› (hmore.append_ne_cons (by decide) hcs _)
    · exact (pure _).bind fun most _ _ => closeBounds hmore least most

/-- An expression with the repetitions after it, for every number of steps that is enough. -/
lemma repetitions (hmore : BeginsWithBar more) {n n' : Nat} (h : n ≤ n') (r : Regex) :
    Persists more names p (Reader.repetitions n r) (Reader.repetitions n' r) := by
  induction n generalizing n' r p with
  | zero => exact failure
  | succ n ih =>
    obtain ⟨n', rfl⟩ : ∃ m, n' = m + 1 := ⟨n' - 1, by omega⟩
    refine skipBlanks.bind fun _ q _ => rest_bind ?_
    split
    iterate 3
      rename_i cs hcs
      rw [hcs, List.cons_append]
      refine (goTo (by simp [hcs])).bind fun _ _ _ => ?_
      exact (takeIf hmore "?" (by decide)).discard.bind fun _ _ _ => ih (by omega) _
    · rename_i cs hcs
      rw [hcs, List.cons_append]
      exact (bounds hmore).bind fun _ _ _ => ih (by omega) _
    · rename_i hopt hstar hplus hbrace
      split
      · exact absurd ‹_› (hmore.append_ne_cons (by decide) hopt _)
      · exact absurd ‹_› (hmore.append_ne_cons (by decide) hstar _)
      · exact absurd ‹_› (hmore.append_ne_cons (by decide) hplus _)
      · exact absurd ‹_› (hmore.append_ne_cons (by decide) hbrace _)
      · exact pure r

/-! ### Groups -/

/-- Flags and a rest that is shorter. -/
lemma setFlags {flags : Flags} {cs : List Char} (h : cs.length < p.rest.length) :
    Persists more names p (modify fun p => { p with rest := cs, flags := flags })
      (modify fun p => { p with rest := cs ++ more, flags := flags }) := by
  rintro _ _ ⟨⟩
  have hclear : p.IsClear more :=
    Pattern.isClear_of_rest_ne_nil (List.ne_nil_of_length_pos (Nat.zero_lt_of_lt h))
  exact ⟨⟨Nat.le_of_lt h, List.Subset.refl _, fun _ => hclear⟩, fun _ _ => rfl⟩

/-- A name that is none of those before the pattern may be given. -/
lemma giveName (name : List Char) :
    Persists more names p
      (do
        if (← get).names.contains name then Alternative.failure
        modify fun p => { p with names := name :: p.names })
      (do
        if (← get).names.contains name then Alternative.failure
        modify fun p => { p with names := name :: p.names }) := by
  intro _ p' h
  obtain ⟨_, _, ⟨⟩, h⟩ := Reader.run_bind_iff.1 h
  split at h
  · obtain ⟨_, _, ⟨⟩, _⟩ := Reader.run_bind_iff.1 h
  · rename_i hfresh
    cases h
    refine ⟨⟨Nat.le_refl _, List.subset_cons_self _ _, id⟩, fun _ hnames => ?_⟩
    have hother : name ∉ names := fun hname => hnames List.mem_cons_self hname
    refine Reader.run_bind_iff.2 ⟨_, _, rfl, ?_⟩
    rw [if_neg (by simpa [Pattern.followedBy, hother] using hfresh)]
    rfl

lemma groupName :
    Persists more names p Reader.groupName Reader.groupName := by
  refine rest_bind (rest_bind ?_)
  dsimp only
  by_cases hend : '>' ∈ p.rest
  · obtain ⟨name, after, hrest, hname⟩ := List.eq_append_cons_of_mem hend
    have htake (cs : List Char) : (name ++ '>' :: cs).takeWhile (· != '>') = name := by
      rw [List.takeWhile_append_of_pos fun c hc => bne_iff_ne.2 (ne_of_mem_of_not_mem hc hname)]
      simp
    rw [hrest, List.append_assoc, List.cons_append, htake, htake, List.drop_left, List.drop_left]
    refine (goTo (by simp [hrest])).bind fun _ _ _ => take.discard.bind fun _ _ _ => ?_
    exact refuse fun _ => giveName _
  · have htake : p.rest.takeWhile (· != '>') = p.rest :=
      List.takeWhile_eq_self_iff.2 fun c hc => bne_iff_ne.2 (ne_of_mem_of_not_mem hc hend)
    rw [htake, List.drop_length]
    intro a p' h
    obtain ⟨_, _, ⟨⟩, h⟩ := Reader.run_bind_iff.1 h
    obtain ⟨_, _, ⟨⟩, -⟩ := Reader.run_bind_iff.1 h

lemma groupOpening (hmore : BeginsWithBar more) :
    Persists more names p Reader.groupOpening Reader.groupOpening := by
  refine skipBlanks.bind fun _ _ _ => ?_
  refine (forIn _ fun mark hmark q => ?_).bind fun _ _ _ => ?_
  · have hbar : '|' ∉ mark.toList := by
      revert mark
      decide
    exact (takeIf hmore mark hbar).bind fun _ _ _ => refuse fun _ => pure _
  refine (takeIf hmore "?P<" (by decide)).bind fun b _ _ => ?_
  refine (takeIf hmore "?<" (by decide)).bind fun b' _ _ => ite (fun _ => ?_) fun _ => ?_
  · exact groupName.bind fun _ _ _ => pure (some true)
  refine (takeIf hmore "?" (by decide)).bind fun b q _ => ite (fun _ => ?_) fun _ => pure _
  refine flags_bind (rest_bind ?_)
  rcases hsettings : Reader.settings true [] q.flags q.rest with _ | ⟨flags, mark, cs⟩
  · rintro _ _ ⟨⟩
  · obtain ⟨hlength, happend⟩ := Reader.settings_append hsettings more
    rw [happend]
    exact (setFlags hlength).bind fun _ _ _ => pure _

lemma single (atom : Reader.Atom) :
    Persists more names p (Reader.single atom) (Reader.single atom) := by
  cases atom with
  | char c => exact flags_bind (pure _)
  | byte n => exact failure
  | chars c => exact pure _
  | look l => exact pure _

lemma point : Persists more names p Reader.point Reader.point :=
  flags_bind (refuse fun _ => ite (fun _ => pure _) fun _ => ite (fun _ => pure _) fun _ => pure _)

end Persists

/-! ### Terms -/

/-- What the first reader reads at a place without coming to the end, the second reads there
when the pattern goes on. -/
def PersistsInside {α : Type} (more : List Char) (names : List (List Char)) (p : Pattern)
    (m m' : Reader α) : Prop :=
  ∀ a p', m.run p = some (a, p') → p.Onward more p' ∧
    (more = [] ∨ p'.rest ≠ [] → List.Disjoint p'.names names →
      m'.run (p.followedBy more names) = some (a, p'.followedBy more names))

variable {α β : Type} {more : List Char} {names : List (List Char)} {p : Pattern}

lemma Persists.bind_inside {m m' : Reader α} {f f' : α → Reader β}
    (hm : Persists more names p m m')
    (hf : ∀ a q, m.run p = some (a, q) → PersistsInside more names q (f a) (f' a)) :
    PersistsInside more names p (m >>= f) (m' >>= f') := by
  intro b p' h
  obtain ⟨a, q, ha, hb⟩ := Reader.run_bind_iff.1 h
  obtain ⟨honward, hread⟩ := hm a q ha
  obtain ⟨honward', hread'⟩ := hf a q ha b p' hb
  refine ⟨honward.trans honward', fun hrest hnames => Reader.run_bind_iff.2 ?_⟩
  have hclear : q.IsClear more := honward'.isClear (hrest.imp_right Or.inl)
  have hdisjoint : List.Disjoint q.names names :=
    fun _ hq hname => hnames (honward'.names_subset hq) hname
  exact ⟨a, _, hread hclear hdisjoint, hread' hrest hnames⟩

namespace PersistsInside

lemma rest_bind {f f' : List Char → Reader α}
    (h : PersistsInside more names p (f p.rest) (f' (p.rest ++ more))) :
    PersistsInside more names p (Reader.rest >>= f) (Reader.rest >>= f') :=
  h

lemma map {m m' : Reader α} (hm : PersistsInside more names p m m') (f : α → β) :
    PersistsInside more names p (m >>= fun a => pure (f a)) (m' >>= fun a => pure (f a)) := by
  intro b p' h
  obtain ⟨a, _, ha, ⟨⟩⟩ := Reader.run_bind_iff.1 h
  obtain ⟨honward, hread⟩ := hm a _ ha
  exact ⟨honward, fun hrest hnames => Reader.run_bind_iff.2 ⟨a, _, hread hrest hnames, rfl⟩⟩

/-- A group is read up to its parenthesis, so that it does not come to the end. -/
lemma inGroup {m m' : Reader Regex} (hm : PersistsInside more names p m m') (flags : Flags)
    (isKept : Bool) :
    Persists more names p
      (do
        let r ← m
        if !(← Reader.takeIf ")") then failure
        modify fun p => { p with flags := flags }
        return some (Regex.group isKept r))
      (do
        let r ← m'
        if !(← Reader.takeIf ")") then failure
        modify fun p => { p with flags := flags }
        return some (Regex.group isKept r)) := by
  intro a p' h
  obtain ⟨r, q, hr, h⟩ := Reader.run_bind_iff.1 h
  obtain ⟨honward, hread⟩ := hm r q hr
  obtain ⟨closed, q', hclosed, h⟩ := Reader.run_bind_iff.1 h
  obtain ⟨rest, flags', names'⟩ := q
  rcases rest with _ | ⟨c, cs⟩
  · cases hclosed
    cases h
  · by_cases hc : c = ')'
    · subst hc
      cases hclosed
      cases h
      refine ⟨⟨Nat.le_of_succ_le honward.length_le, honward.names_subset, fun _ => ?_⟩, ?_⟩
      · exact honward.isClear (Pattern.isClear_of_rest_ne_nil (by simp))
      · intro _ hnames
        exact Reader.run_bind_iff.2 ⟨r, _, hread (Or.inr (by simp)) hnames, rfl⟩
    · have hopen : (Reader.takeIf ")").run ⟨c :: cs, flags', names'⟩ =
          some (false, ⟨c :: cs, flags', names'⟩) := by
        have hparen : ")".toList = [')'] := rfl
        have hdrop : Text.dropPrefix? ")".toList (c :: cs) = none := by
          simp [hparen, Text.dropPrefix?, hc]
        rw [Reader.takeIf, Reader.run_rest_bind, hdrop]
        rfl
      rw [hopen] at hclosed
      cases hclosed
      cases h

end PersistsInside

section

variable {n n' : Nat}

/-- One alternative is read, and those after it if a bar follows. -/
lemma PersistsInside.alternatives
    (halternatives : ∀ q, PersistsInside more names q (Reader.alternatives n)
      (Reader.alternatives n'))
    (hsequence : Persists more names p (Reader.sequence n) (Reader.sequence n')) :
    PersistsInside more names p (Reader.alternatives (n + 1)) (Reader.alternatives (n' + 1)) := by
  rw [Reader.alternatives, Reader.alternatives]
  refine hsequence.bind_inside fun r q _ => PersistsInside.rest_bind ?_
  split
  · rename_i cs hcs
    rw [hcs, List.cons_append]
    exact (Persists.goTo (by simp [hcs])).bind_inside fun _ q _ => (halternatives q).map _
  · -- Nothing but a bar goes on here, and the only one is behind the end.
    rename_i hbar
    rintro _ _ ⟨⟩
    refine ⟨.refl q, fun hrest _ => ?_⟩
    split
    · rename_i happend
      rcases hrest with rfl | hrest
      · exact absurd (by simpa using happend) (hbar _)
      · obtain ⟨c, cs, hcs⟩ := List.exists_cons_of_ne_nil hrest
        rw [hcs] at happend
        cases happend
        exact absurd hcs (hbar cs)
    · rfl

/-- Terms are read up to a bar, a parenthesis or the end. -/
lemma Persists.sequence (hmore : BeginsWithBar more)
    (hsequence : ∀ q, Persists more names q (Reader.sequence n) (Reader.sequence n'))
    (hterm : ∀ q, Persists more names q (Reader.term n) (Reader.term n')) :
    Persists more names p (Reader.sequence (n + 1)) (Reader.sequence (n' + 1)) := by
  rw [Reader.sequence, Reader.sequence]
  refine skipBlanks.bind fun _ q _ => rest_bind ?_
  split
  · rename_i hcs
    rw [hcs]
    rcases hmore with rfl | ⟨ds, rfl⟩
    · exact pure _
    · exact pure _
  · rename_i cs hcs
    rw [hcs]
    exact pure _
  · rename_i cs hcs
    rw [hcs]
    exact pure _
  · rename_i hnil hbar hclose
    split
    · exact absurd (List.append_eq_nil_iff.1 ‹_›).1 hnil
    · rename_i happend
      obtain ⟨c, cs, hcs⟩ := List.exists_cons_of_ne_nil hnil
      rw [hcs] at happend
      cases happend
      exact absurd hcs (hbar cs)
    · exact absurd ‹_› (hmore.append_ne_cons (by decide) hclose _)
    · refine (hterm q).bind fun r? q _ => ?_
      cases r? with
      | none => exact (hsequence q).bind fun s _ _ => pure _
      | some r =>
        refine rest_bind ((repetitions hmore (by simp) r).bind fun r q _ => ?_)
        exact (hsequence q).bind fun s _ _ => pure _

/-- A term is a class, a group, an escape, a point, an edge of a line or a character. -/
lemma Persists.term (hmore : BeginsWithBar more)
    (halternatives : ∀ q, PersistsInside more names q (Reader.alternatives n)
      (Reader.alternatives n')) :
    Persists more names p (Reader.term (n + 1)) (Reader.term (n' + 1)) := by
  rw [Reader.term, Reader.term]
  refine flags_bind (rest_bind ?_)
  generalize (if p.flags.multiLine then Look.lineStart p.flags.crlf else Look.start) = before
  generalize (if p.flags.multiLine then Look.lineEnd p.flags.crlf else Look.finish) = after
  split
  · rename_i cs hcs
    rw [hcs]
    refine rest_bind (.bind ?_ fun _ _ _ => pure _)
    exact (brackets_classItems hmore _).1 _ _ (by simp)
  · rename_i hcs
    split
    · exact absurd ‹_› (hmore.append_ne_cons (by decide) hcs _)
    · refine take.bind fun c q _ => ?_
      split
      any_goals exact failure
      · refine (groupOpening hmore).bind fun contents q _ => ?_
        cases contents with
        | none => exact pure none
        | some isKept => exact (halternatives q).inGroup p.flags isKept
      · refine (escape hmore).bind fun atom _ _ => ?_
        exact (single atom).bind fun r _ _ => pure (some r)
      · exact point.bind fun r _ _ => pure (some r)
      · exact pure _
      · exact pure _
      · exact (single _).bind fun r _ _ => pure (some r)

end

/-- **What is read at the beginning of a pattern is read there when the pattern goes on behind a
bar**, in as many steps or more. -/
lemma persists (hmore : BeginsWithBar more) (names : List (List Char)) (n : Nat) :
    (∀ n' p, n ≤ n' →
        PersistsInside more names p (Reader.alternatives n) (Reader.alternatives n')) ∧
      (∀ n' p, n ≤ n' → Persists more names p (Reader.sequence n) (Reader.sequence n')) ∧
      ∀ n' p, n ≤ n' → Persists more names p (Reader.term n) (Reader.term n') := by
  induction n with
  | zero =>
    refine ⟨fun n' p _ => ?_, fun n' p _ => ?_, fun n' p _ => ?_⟩
    · rw [Reader.alternatives]
      rintro _ _ ⟨⟩
    · rw [Reader.sequence]
      exact .failure
    · rw [Reader.term]
      exact .failure
  | succ n ih =>
    obtain ⟨halternatives, hsequence, hterm⟩ := ih
    refine ⟨fun n' p h => ?alternatives, fun n' p h => ?sequence, fun n' p h => ?term⟩
    all_goals
      obtain ⟨n', rfl⟩ : ∃ m, n' = m + 1 := ⟨n' - 1, by omega⟩
      replace h : n ≤ n' := Nat.le_of_succ_le_succ h
    case alternatives =>
      exact .alternatives (fun q => halternatives n' q h) (hsequence n' p h)
    case sequence => exact .sequence hmore (fun q => hsequence n' q h) fun q => hterm n' q h
    case term => exact .term hmore fun q => halternatives n' q h

end ApiContract.Regex
