/-
# Looking ahead in a pattern

What a reader looks for in the rest of a pattern is there, or is not there, just the same when
more text comes behind the rest, as long as that text begins with a bar: none of the signs that
are looked for holds a bar.  Only white space and comments that reach the end of the rest may
reach over it.
-/
import ApiContract.Proofs.Text.Pieces
import ApiContract.Regex.Reader
import Mathlib.Data.List.Basic
import Mathlib.Data.List.TakeWhile
import Mathlib.Tactic.Common

namespace ApiContract.Regex

/-! ## Text behind a bar -/

/-- Text that may follow an alternative: none, or a bar and whatever comes after it. -/
def BeginsWithBar (more : List Char) : Prop :=
  more = [] ∨ ∃ cs, more = '|' :: cs

variable {more : List Char}

namespace BeginsWithBar

/-- What begins with another character than a bar does not begin behind the pattern. -/
lemma eq_cons_of_append_eq (hmore : BeginsWithBar more) {d : Char} (hd : d ≠ '|')
    {cs ds : List Char} (h : cs ++ more = d :: ds) : ∃ es, cs = d :: es ∧ ds = es ++ more := by
  cases cs with
  | nil =>
    rcases hmore with rfl | ⟨_, rfl⟩
    · cases h
    · cases h
      exact absurd rfl hd
  | cons c cs =>
    cases h
    exact ⟨cs, rfl, rfl⟩

lemma append_ne_cons (hmore : BeginsWithBar more) {d : Char} (hd : d ≠ '|') {cs : List Char}
    (h : ∀ ds, cs ≠ d :: ds) (ds : List Char) : cs ++ more ≠ d :: ds := by
  intro happend
  obtain ⟨es, hcs, -⟩ := hmore.eq_cons_of_append_eq hd happend
  exact h es hcs

lemma append_ne_cons_cons (hmore : BeginsWithBar more) {d e : Char} (hd : d ≠ '|') (he : e ≠ '|')
    {cs : List Char} (h : ∀ ds, cs ≠ d :: e :: ds) (ds : List Char) :
    cs ++ more ≠ d :: e :: ds := by
  intro happend
  obtain ⟨es, rfl, htail⟩ := hmore.eq_cons_of_append_eq hd happend
  obtain ⟨fs, rfl, -⟩ := hmore.eq_cons_of_append_eq he htail.symm
  exact h fs rfl

lemma head?_append_eq_some_iff (hmore : BeginsWithBar more) {d : Char} (hd : d ≠ '|')
    (cs : List Char) : (cs ++ more).head? = some d ↔ cs.head? = some d := by
  cases cs with
  | nil => rcases hmore with rfl | ⟨_, rfl⟩ <;> simp [hd.symm]
  | cons c cs => rfl

/-- What a bar does not go on with ends before what follows. -/
lemma takeWhile_append (hmore : BeginsWithBar more) {f : Char → Bool} (hf : f '|' = false)
    (cs : List Char) : (cs ++ more).takeWhile f = cs.takeWhile f := by
  induction cs with
  | nil => rcases hmore with rfl | ⟨_, rfl⟩ <;> simp [hf]
  | cons c cs ih => simp [List.takeWhile_cons, ih]

lemma dropWhile_append (hmore : BeginsWithBar more) {f : Char → Bool} (hf : f '|' = false)
    (cs : List Char) : (cs ++ more).dropWhile f = cs.dropWhile f ++ more := by
  induction cs with
  | nil => rcases hmore with rfl | ⟨_, rfl⟩ <;> simp [hf]
  | cons c cs ih =>
    rw [List.cons_append, List.dropWhile_cons, List.dropWhile_cons]
    split
    · exact ih
    · rfl

end BeginsWithBar

/-! ## Signs in the rest of a pattern -/

namespace Reader

/-! ### Blanks -/

lemma length_dropBlanks_le (inComment : Bool) (cs : List Char) :
    (dropBlanks inComment cs).length ≤ cs.length := by
  fun_induction dropBlanks inComment cs <;> simp_all <;> omega

/-- Blanks that come to an end do so before what follows. -/
lemma dropBlanks_append {inComment : Bool} {cs : List Char}
    (h : dropBlanks inComment cs ≠ []) (more : List Char) :
    dropBlanks inComment (cs ++ more) = dropBlanks inComment cs ++ more := by
  fun_induction dropBlanks inComment cs <;> simp_all [dropBlanks]

/-- The rest of a pattern without the white space and the comments it begins with. -/
lemma afterBlanks_append {verbose : Bool} {cs : List Char}
    (h : (if verbose then dropBlanks false cs else cs) ≠ []) (more : List Char) :
    (if verbose then dropBlanks false (cs ++ more) else cs ++ more) =
      (if verbose then dropBlanks false cs else cs) ++ more := by
  cases verbose with
  | false => rfl
  | true => exact dropBlanks_append h more

/-! ### Beginnings -/

lemma length_dropPrefix?_le {start cs ds : List Char} (h : Text.dropPrefix? start cs = some ds) :
    ds.length ≤ cs.length := by
  rw [Text.dropPrefix?_eq_some_iff.1 h, List.length_append]
  exact Nat.le_add_left _ _

/-- A text without a bar does not begin with what follows a bar. -/
lemma dropPrefix?_append (hmore : BeginsWithBar more) {start : List Char} (hstart : '|' ∉ start)
    (cs : List Char) :
    Text.dropPrefix? start (cs ++ more) = (Text.dropPrefix? start cs).map (· ++ more) := by
  induction start generalizing cs with
  | nil => rfl
  | cons s start ih =>
    rw [List.mem_cons, not_or] at hstart
    cases cs with
    | nil =>
      rcases hmore with rfl | ⟨ds, rfl⟩
      · rfl
      · simp [Text.dropPrefix?, hstart.1]
    | cons c cs =>
      simp only [List.cons_append, Text.dropPrefix?]
      split
      · exact ih hstart.2 cs
      · rfl

/-! ### Names of classes -/

lemma cutAt?_colon_cons (c : Char) (cs : List Char) :
    cutAt? ":" (c :: cs) =
      if c = ':' then some ([], cs)
      else (cutAt? ":" cs).map fun (before, after) => (c :: before, after) := by
  have hcolon : ":".toList = [':'] := rfl
  rw [cutAt?, hcolon]
  by_cases hc : c = ':' <;> simp [Text.dropPrefix?, hc]

lemma cutAt?_append_of_some {cs name after : List Char}
    (h : cutAt? ":" cs = some (name, after)) (more : List Char) :
    cutAt? ":" (cs ++ more) = some (name, after ++ more) := by
  induction cs generalizing name with
  | nil => cases h
  | cons c cs ih =>
    rw [List.cons_append, cutAt?_colon_cons]
    rw [cutAt?_colon_cons] at h
    split at h
    · cases h
      simp [*]
    · obtain ⟨⟨before, after'⟩, hcut, hname⟩ := Option.map_eq_some_iff.1 h
      cases hname
      simp [*, ih hcut]

lemma cutAt?_append_of_none {cs : List Char} (h : cutAt? ":" cs = none)
    (more : List Char) :
    cutAt? ":" (cs ++ more) =
      (cutAt? ":" more).map fun (name, after) => (cs ++ name, after) := by
  induction cs with
  | nil => cases h : cutAt? ":" more <;> simp [h]
  | cons c cs ih =>
    rw [List.cons_append, cutAt?_colon_cons]
    rw [cutAt?_colon_cons] at h
    split at h
    · cases h
    · rw [ih (by simpa using h)]
      cases cutAt? ":" more <;> simp [*]

lemma length_cutAt?_le {cs name after : List Char}
    (h : cutAt? ":" cs = some (name, after)) : after.length ≤ cs.length := by
  induction cs generalizing name with
  | nil => cases h
  | cons c cs ih =>
    rw [cutAt?_colon_cons] at h
    split at h
    · cases h
      simp
    · obtain ⟨⟨before, after'⟩, hcut, hname⟩ := Option.map_eq_some_iff.1 h
      cases hname
      exact Nat.le_succ_of_le (ih hcut)

/-- No class is named with a bar. -/
lemma lookup_named_eq_none {name : List Char} (h : '|' ∈ name) :
    CharClass.named.lookup (String.ofList name) = none := by
  have hnames : ∀ entry ∈ CharClass.named, '|' ∉ entry.1.toList := by decide
  refine List.lookup_eq_none_iff.2 fun entry hentry => bne_iff_ne.2 ?_
  rintro heq
  refine hnames entry hentry ?_
  rwa [← heq, String.toList_ofList]

/-- The class with a name up to `:]`, with what comes after it. -/
def namedBefore? (cs : List Char) : Option (CharClass × List Char) :=
  match cutAt? ":" cs with
  | some (name, ']' :: after) => (CharClass.named.lookup (String.ofList name)).map (·, after)
  | _ => none

/-- The name of a class comes to its end before a bar. -/
lemma namedBefore?_append (hmore : BeginsWithBar more) (cs : List Char) :
    namedBefore? (cs ++ more) =
      (namedBefore? cs).map fun (chars, after) => (chars, after ++ more) := by
  rcases hcut : cutAt? ":" cs with _ | ⟨name, after⟩
  · rw [namedBefore?, namedBefore?, cutAt?_append_of_none hcut, hcut]
    rcases hmore with rfl | ⟨ds, rfl⟩
    · rfl
    · -- the colon may come after the bar, and the name reaches over the bar then
      rcases hcut' : cutAt? ":" ds with _ | ⟨name, after⟩
      · simp [cutAt?_colon_cons, hcut']
      · have hbar : '|' ∈ cs ++ '|' :: name := by simp
        simp only [cutAt?_colon_cons, hcut', Option.map_some]
        split
        · rename_i heq
          cases heq
          rw [lookup_named_eq_none hbar]
          rfl
        · rfl
  · rw [namedBefore?, namedBefore?, cutAt?_append_of_some hcut, hcut]
    rcases after with _ | ⟨c, after⟩
    · rcases hmore with rfl | ⟨ds, rfl⟩
      · rfl
      · rfl
    · by_cases hc : c = ']'
      · subst hc
        simp only [List.cons_append, Option.map_map]
        rfl
      · simp [hc]

lemma length_namedBefore?_le {cs after : List Char} {chars : CharClass}
    (h : namedBefore? cs = some (chars, after)) : after.length ≤ cs.length := by
  rw [namedBefore?] at h
  split at h
  · rename_i name after' hcut
    obtain ⟨_, -, heq⟩ := Option.map_eq_some_iff.1 h
    cases heq
    exact Nat.le_of_succ_le (length_cutAt?_le hcut)
  · cases h

/-- The end of reading a class with a name. -/
def takeNamed (negated : Bool) (cs : List Char) : Reader (Option CharClass) :=
  match namedBefore? cs with
  | some (chars, after) => do
    goTo after
    return some (← (← flags).negate? negated ((← flags).fold chars))
  | none => return none

lemma takeNamed_eq (negated : Bool) (cs : List Char) :
    takeNamed negated cs =
      match cutAt? ":" cs with
      | some (name, ']' :: after) =>
        match CharClass.named.lookup (String.ofList name) with
        | some chars => do
          goTo after
          return some (← (← flags).negate? negated ((← flags).fold chars))
        | none => return none
      | _ => return none := by
  rw [takeNamed, namedBefore?]
  rcases cutAt? ":" cs with _ | ⟨name, _ | ⟨c, after⟩⟩
  · rfl
  · rfl
  · by_cases hc : c = ']'
    · subst hc
      cases hlookup : CharClass.named.lookup (String.ofList name) <;> simp [hlookup]
    · simp [hc]

lemma classNamed_eq :
    classNamed = (rest >>= fun
      | '[' :: ':' :: '^' :: cs => takeNamed true cs
      | '[' :: ':' :: cs => takeNamed false cs
      | _ => Pure.pure none) := by
  rw [classNamed]
  congr 1
  funext cs
  split
  · rename_i cs
    split
    rename_i hsign
    split at hsign
    · cases hsign
      exact (takeNamed_eq true _).symm
    · rename_i hcaret
      cases hsign
      refine (takeNamed_eq false cs).symm.trans ?_
      split
      · rename_i ds heq
        exact absurd (List.cons.inj (List.cons.inj heq).2).2 (hcaret ds)
      · rename_i heq
        cases heq
        rfl
      · rename_i hnone
        exact absurd rfl (hnone cs)
  · split <;> simp_all

/-! ### Numbers -/

/-- The digits of a number, with white space among them if it does not count. -/
lemma digits_append (hmore : BeginsWithBar more) (verbose : Bool) (cs : List Char) :
    ((if verbose then (cs ++ more).filter (!Text.isSpace ·) else cs ++ more).takeWhile
        Char.isDigit) =
      (if verbose then cs.filter (!Text.isSpace ·) else cs).takeWhile Char.isDigit := by
  cases verbose with
  | false => exact hmore.takeWhile_append rfl cs
  | true =>
    have hfilter : BeginsWithBar (more.filter (!Text.isSpace ·)) := by
      rcases hmore with rfl | ⟨ds, rfl⟩
      · exact Or.inl rfl
      · exact Or.inr ⟨ds.filter (!Text.isSpace ·), rfl⟩
    simp only [if_true, List.filter_append]
    exact hfilter.takeWhile_append rfl _

/-- The end of reading a counted repetition. -/
def closeBounds (least : Nat) (most : Option Nat) : Reader (Nat × Option Nat) := do
  match ← take with
  | '}' =>
    skipBlanks
    Functor.discard (takeIf "?")
    if most.any (· < least) then Alternative.failure
    return (least, most)
  | _ => Alternative.failure

/-! ### Flags -/

/-- Flags end with a colon or a parenthesis, so they end before what follows. -/
lemma settings_append {on : Bool} {seen cs after : List Char} {flags flags' : Flags} {mark : Char}
    (h : settings on seen flags cs = some (flags', mark, after)) (more : List Char) :
    after.length < cs.length ∧
      settings on seen flags (cs ++ more) = some (flags', mark, after ++ more) := by
  induction cs generalizing on seen flags with
  | nil => cases h
  | cons c cs ih =>
    rw [List.cons_append, List.length_cons, Nat.lt_succ_iff]
    rw [settings] at h ⊢
    split at h
    · rw [if_pos ‹_›]
      split at h
      · cases h
      · rw [if_neg ‹_›]
        cases h
        exact ⟨Nat.le_refl _, rfl⟩
    · rw [if_neg ‹_›]
      split at h
      · cases h
      · rw [if_neg ‹_›]
        split at h
        · rw [if_pos ‹_›]
          exact ⟨Nat.le_of_lt (ih h).1, (ih h).2⟩
        · rw [if_neg ‹_›]
          obtain ⟨flags, hset, hsettings⟩ := Option.bind_eq_some_iff.1 h
          rw [hset, Option.bind_some]
          exact ⟨Nat.le_of_lt (ih hsettings).1, (ih hsettings).2⟩

end Reader
end ApiContract.Regex
