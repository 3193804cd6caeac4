/-
# Forms of expressions

Before an expression is compiled it is brought into a form in which characters that follow one
another are texts of bytes, alternatives that are single characters or classes are one class,
and alternatives that begin alike share their beginning.
-/
import ApiContract.Regex.Basic

namespace ApiContract

/-! ## Ranges of classes -/

namespace CharClass

/-- The ranges of code points of a class, ascending and apart. -/
def ranges : CharClass → List (Nat × Nat)
  | none => []
  | range first last => if last < first then [] else [(first, last)]
  | table ranges => Unicode.insertRanges ranges []
  | alphabetic => Unicode.alphabeticRanges
  | word => Unicode.wordRanges
  | space => Unicode.spaceRanges
  | union a b => Unicode.insertRanges a.ranges b.ranges
  | inter a b =>
    Unicode.gaps 0 (Unicode.insertRanges (Unicode.gaps 0 a.ranges) (Unicode.gaps 0 b.ranges))
  | complement a => Unicode.gaps 0 a.ranges
  | folded a => Unicode.foldRanges a.ranges
  | foldedAscii a => Unicode.foldRangesAscii a.ranges
  | bracketed _ a => a.ranges

end CharClass

namespace Regex

/-! ## Forms -/

/-- A form of an expression. -/
inductive Form where
  /-- The empty text. -/
  | empty
  /-- A text. -/
  | literal (chars : List Nat)
  /-- One character in some ranges, which are not a single character. -/
  | set (ranges : List (Nat × Nat))
  /-- A condition on the place. -/
  | look (condition : Look)
  /-- A form at least `least` times, and at most `most` times if there is a limit. -/
  | repeated (r : Form) (least : Nat) (most : Option Nat)
  /-- A form whose text is kept. -/
  | kept (r : Form)
  /-- One form after another; the first is not such a form itself. -/
  | seq (r s : Form)
  /-- Either of two forms; the first is not such a form itself. -/
  | alt (r s : Form)
deriving DecidableEq

namespace Form

/-- The form of a class with some ranges. -/
def ofRanges : List (Nat × Nat) → Form
  | [(first, last)] => if first = last then literal [first] else set [(first, last)]
  | ranges => set ranges

/-- The ranges of a form that takes one character. -/
def ranges? : Form → Option (List (Nat × Nat))
  | set ranges => some ranges
  | _ => none

/-- The character of a text that is one character. -/
def single? : Form → Option Nat
  | literal [n] => some n
  | _ => none

/-- One form after another: texts that follow one another are one text. -/
def andThen : Form → Form → Form
  | empty, s => s
  | r, empty => r
  | literal a, literal b => literal (a ++ b)
  | literal a, seq (literal b) s => seq (literal (a ++ b)) s
  | seq r s, t => seq r (s.andThen t)
  | r, s => seq r s

/-- Whether a form matches the empty text, as far as it tells. -/
def matchesEmpty : Form → Bool
  | empty | look _ => true
  | literal _ | set _ => false
  | repeated r least _ => least = 0 || r.matchesEmpty
  | kept r => r.matchesEmpty
  | seq r s => r.matchesEmpty && s.matchesEmpty
  | alt r s => r.matchesEmpty || s.matchesEmpty

/-- Whether a form matches nothing but the empty text, as far as it tells. -/
def takesNothing : Form → Bool
  | empty | look _ => true
  | literal _ | set _ => false
  | repeated r _ most => most = some 0 || r.takesNothing
  | kept r => r.takesNothing
  | seq r s | alt r s => r.takesNothing && s.takesNothing

/-- A form some times.  There is no need to repeat what takes nothing. -/
def times (r : Form) (least : Nat) (most : Option Nat) : Form :=
  let least := if r.takesNothing then min least 1 else least
  let most := if r.takesNothing then some (min (most.getD 1) 1) else most
  if most = some 0 then empty
  else if least = 1 ∧ most = some 1 then r
  else repeated r least most

/-- The forms that follow one another in a form. -/
def members : Form → List Form
  | seq r s => r :: s.members
  | r => [r]

/-- The forms between which a form is a choice. -/
def alternatives : Form → List Form
  | alt r s => r :: s.alternatives
  | r => [r]

/-- Whether the text of a part of a form is kept. -/
def keeps : Form → Bool
  | empty | literal _ | set _ | look _ => false
  | repeated r _ _ => r.keeps
  | kept _ => true
  | seq r s | alt r s => r.keeps || s.keeps

/-- How many forms a form is made of. -/
def count : Form → Nat
  | empty | literal _ | set _ | look _ => 1
  | repeated r _ _ | kept r => r.count + 1
  | seq r s | alt r s => r.count + s.count + 1

/-- What two sequences of forms begin with.  Texts are kept in different places. -/
def shared : List Form → List Form → List Form
  | r :: rs, s :: ss => if r = s && !r.keeps then r :: shared rs ss else []
  | _, _ => []

/-- What some sequences begin with, if there is more than one member in each. -/
def sharedByAll : List (List Form) → List Form
  | [] => []
  | first :: others =>
    if (first :: others).all fun members => 1 < members.length then others.foldl shared first
    else []

/-- Forms that are all characters, or that are all classes, as one class. -/
def merged? (forms : List Form) : Option Form :=
  match forms.mapM single?, forms.mapM ranges? with
  | some chars, _ => some (ofRanges (Unicode.insertRanges (chars.map fun n => (n, n)) []))
  | none, some ranges => some (ofRanges (Unicode.insertRanges ranges.flatten []))
  | none, none => none

/-- A choice between forms.  What all of them begin with is taken out; the number bounds how
often this is done. -/
def choice : Nat → List Form → Form
  | 0, forms => forms.dropLast.foldr alt (forms.getLastD empty)
  | n + 1, forms =>
    let forms := forms.flatMap alternatives
    match merged? forms, sharedByAll (forms.map members) with
    | some r, _ => r
    | none, [] => forms.dropLast.foldr alt (forms.getLastD empty)
    | none, start =>
      let rests := forms.map fun form => (form.members.drop start.length).foldr andThen empty
      start.foldr andThen (choice n rests)

/-- The form of some alternatives. -/
def ofAlternatives : List Form → Form
  | [r] => r
  | forms => choice (forms.foldl (fun n r => n + r.count) 1) forms

end Form

/-- The forms of the alternatives of an expression. -/
def forms : Regex → List Form
  | empty => [.empty]
  | set chars => [.ofRanges chars.ranges]
  | look condition => [.look condition]
  | seq r s => [(Form.ofAlternatives r.forms).andThen (Form.ofAlternatives s.forms)]
  | alt r s => Form.ofAlternatives r.forms :: s.forms
  | repeated r least most => [(Form.ofAlternatives r.forms).times least most]
  | group isKept r =>
    [if isKept then .kept (.ofAlternatives r.forms) else .ofAlternatives r.forms]

/-- The form of an expression. -/
def form (r : Regex) : Form :=
  .ofAlternatives r.forms

end Regex

end ApiContract
