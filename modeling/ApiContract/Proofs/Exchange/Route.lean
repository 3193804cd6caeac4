/-
# Filled templates

A path fills a template if it has the characters of the template and a text in the place of each
parameter.  What the search of a table finds is a route whose template the path fills, with these
texts as values; where no segment has two parameters, the path determines them.  A route that is
alone in its table is found by every path that fills its template.
-/
import ApiContract.Exchange.Route
import ApiContract.Proofs.Text.Pieces
import Mathlib.Data.List.TakeWhile

namespace ApiContract

namespace RouteTemplate

variable {part : RoutePart} {parts : List RoutePart} {values : List (List Char)} {path : List Char}

/-! ## Templates that may be added -/

/-- What is asked of the parts of a template before it is added: no segment has two parameters, and
a parameter for all the rest is the last part. -/
structure IsTidy (parts : List RoutePart) : Prop where
  uncrowded : ∀ segment ∈ segments parts, ¬ isCrowded segment
  rest_last : .rest ∉ parts.dropLast

/-- The first segment goes up to the first slash. -/
lemma exists_segments_eq (parts : List RoutePart) :
    ∃ more, segments parts = parts.takeWhile (· ≠ .char '/') :: more := by
  induction parts with
  | nil => exact ⟨[], rfl⟩
  | cons part parts ih =>
    obtain ⟨more, hmore⟩ := ih
    rw [segments]
    split
    · rename_i hslash
      exact ⟨segments parts, by simp [hslash]⟩
    · rename_i hother
      rw [hmore, List.takeWhile_cons_of_pos (by simpa using hother)]
      exact ⟨more, rfl⟩

lemma IsTidy.tail (h : IsTidy (part :: parts)) : IsTidy parts := by
  constructor
  · intro segment hsegment hcrowded
    by_cases hslash : part = .char '/'
    · exact h.uncrowded segment (by simp [segments, hslash, hsegment]) hcrowded
    · obtain ⟨more, hmore⟩ := exists_segments_eq parts
      have hall := h.uncrowded
      rw [segments, if_neg hslash, hmore] at hall
      rw [hmore] at hsegment
      rcases List.mem_cons.1 hsegment with rfl | hsegment
      · refine hall _ List.mem_cons_self ?_
        simp only [isCrowded, decide_eq_true_eq] at hcrowded ⊢
        exact Nat.lt_of_lt_of_le hcrowded (List.sublist_cons_self part _).countP_le
      · exact hall segment (List.mem_cons_of_mem _ hsegment) hcrowded
  · intro hmem
    cases parts with
    | nil => simp at hmem
    | cons next parts => exact h.rest_last (List.mem_cons_of_mem part hmem)

lemma IsTidy.append_right {before : List RoutePart} (h : IsTidy (before ++ parts)) :
    IsTidy parts := by
  induction before with
  | nil => exact h
  | cons part before ih => exact ih h.tail

/-- There are only characters between a parameter and the next slash. -/
lemma IsTidy.after_parameter (h : IsTidy (.parameter :: parts)) :
    ∀ part ∈ parts.takeWhile (· ≠ .char '/'), isWild part = false := by
  obtain ⟨more, hmore⟩ := exists_segments_eq (.parameter :: parts)
  have hfirst := h.uncrowded _ (hmore ▸ List.mem_cons_self)
  rw [List.takeWhile_cons_of_pos (by simp), isCrowded,
    List.countP_cons_of_pos (by simp [isWild])] at hfirst
  have hzero : (parts.takeWhile (· ≠ .char '/')).countP isWild = 0 := by
    simp only [decide_eq_true_eq] at hfirst
    omega
  exact fun part hpart => by simpa using List.countP_eq_zero.1 hzero part hpart

lemma IsTidy.after_rest (h : IsTidy (.rest :: parts)) : parts = [] := by
  cases parts with
  | nil => rfl
  | cons next parts => exact absurd List.mem_cons_self h.rest_last

lemma clash_self (segments : List (List RoutePart)) : clash segments segments = true := by
  induction segments with
  | nil => rfl
  | cons segment segments ih => rw [clash, if_pos rfl, ih]

/-! ## Filling in -/

/-- A path is made of the parts of a template, with values in the places of the parameters. -/
inductive Fills : List RoutePart → List (List Char) → List Char → Prop
  | nil : Fills [] [] []
  | char {c : Char} {parts : List RoutePart} {values : List (List Char)} {path : List Char} :
      Fills parts values path → Fills (.char c :: parts) values (c :: path)
  | parameter {value : List Char} {parts : List RoutePart} {values : List (List Char)}
      {path : List Char} :
      value ≠ [] → '/' ∉ value → Fills parts values path →
        Fills (.parameter :: parts) (value :: values) (value ++ path)
  | rest {value : List Char} : value ≠ [] → Fills [.rest] [value] value

lemma fills_nil_iff : Fills [] values path ↔ values = [] ∧ path = [] := by
  constructor
  · rintro ⟨⟩
    exact ⟨rfl, rfl⟩
  · rintro ⟨rfl, rfl⟩
    exact .nil

lemma fills_chars_iff {cs : List Char} :
    Fills (cs.map .char ++ parts) values path ↔
      ∃ rest, path = cs ++ rest ∧ Fills parts values rest := by
  induction cs generalizing path with
  | nil => simp
  | cons c cs ih =>
    constructor
    · rintro (_ | hpath)
      obtain ⟨rest, rfl, h⟩ := ih.1 hpath
      exact ⟨rest, rfl, h⟩
    · rintro ⟨rest, rfl, h⟩
      exact .char (ih.2 ⟨rest, rfl, h⟩)

/-- Characters up to the next slash take as much room in a path as in its template. -/
lemma Fills.length_takeWhile (h : Fills parts values path)
    (hchars : ∀ part ∈ parts.takeWhile (· ≠ .char '/'), isWild part = false) :
    (path.takeWhile (· ≠ '/')).length = (parts.takeWhile (· ≠ .char '/')).length := by
  induction h with
  | nil => rfl
  | @char c parts values path _ ih =>
    by_cases hslash : c = '/'
    · simp [hslash]
    · rw [List.takeWhile_cons_of_pos (by simpa using hslash)] at hchars ⊢
      rw [List.takeWhile_cons_of_pos (by simpa using hslash), List.length_cons, List.length_cons,
        ih fun part hpart => hchars part (List.mem_cons_of_mem _ hpart)]
  | parameter => exact absurd (hchars .parameter (by simp)) (by decide)
  | rest => exact absurd (hchars .rest (by simp)) (by decide)

/-- A path determines the values of the parameters. -/
theorem Fills.values_eq {values' : List (List Char)} (h : Fills parts values path)
    (h' : Fills parts values' path) (htidy : IsTidy parts) : values = values' := by
  induction h generalizing values' with
  | nil =>
    cases h'
    rfl
  | char _ ih =>
    cases h' with
    | char h' => exact ih h' htidy.tail
  | @parameter value parts values path _ hslash h ih =>
    obtain ⟨path', hpath'⟩ : ∃ path', value ++ path = path' := ⟨_, rfl⟩
    rw [hpath'] at h'
    cases h' with
    | @parameter value' _ values' rest _ hslash' h' =>
      -- The next slash is at the same place, and what stands before it has the same length.
      have hlength := h.length_takeWhile htidy.after_parameter
      rw [← h'.length_takeWhile htidy.after_parameter] at hlength
      have hwhole := congrArg (fun cs => (cs.takeWhile (· ≠ '/')).length) hpath'
      have hinside {value : List Char} (hvalue : '/' ∉ value) :
          ∀ c ∈ value, decide (c ≠ '/') = true := fun c hc => by
        simpa using fun heq : c = '/' => hvalue (heq ▸ hc)
      simp only [List.takeWhile_append_of_pos (hinside hslash),
        List.takeWhile_append_of_pos (hinside hslash'), List.length_append] at hwhole
      obtain ⟨rfl, rfl⟩ := List.append_inj hpath' (by omega)
      rw [ih h' htidy.tail]
  | rest =>
    cases h'
    rfl

end RouteTemplate

namespace Routes

open RouteTemplate

variable {α : Type} {part : RoutePart} {parts : List RoutePart} {route : Route α}
  {rests : List (Rest α)} {values : List (List Char)} {path : List Char}

/-! ## Adding -/

/-- A table has tidy templates only. -/
def AreTidy (routes : Routes α) : Prop :=
  ∀ route ∈ routes, IsTidy route.template.parts

/-- A route that is added comes last; its template is tidy and conflicts with no older one. -/
lemma exists_of_add {routes routes' : Routes α} {text : String} {target : α}
    (h : routes.add text target = .ok routes') :
    ∃ template, ofText? text = some template ∧ routes' = routes ++ [⟨template, target⟩] ∧
      IsTidy template.parts ∧
      ∀ route ∈ routes,
        clash (segments route.template.parts) (segments template.parts) = false := by
  rw [add] at h
  split at h
  · cases h
  rename_i template htemplate
  dsimp only at h
  split_ifs at h with hclash hcrowded hrest
  cases h
  exact ⟨template, htemplate, rfl, ⟨by simpa using hcrowded, by simpa using hrest⟩,
    by simpa using hclash⟩

/-- A route that is added has a tidy template. -/
theorem areTidy_add {routes routes' : Routes α} {text : String} {target : α}
    (h : routes.add text target = .ok routes') (htidy : routes.AreTidy) : routes'.AreTidy := by
  obtain ⟨template, -, rfl, htemplate, -⟩ := exists_of_add h
  intro route hroute
  rcases List.mem_append.1 hroute with hroute | hroute
  · exact htidy route hroute
  · rwa [List.mem_singleton.1 hroute]

/-- The templates of a table are all different. -/
def AreApart (routes : Routes α) : Prop :=
  (routes.map Route.template).Nodup

/-- The templates of a table stay different when a route is added. -/
theorem areApart_add {routes routes' : Routes α} {text : String} {target : α}
    (h : routes.add text target = .ok routes') (hapart : routes.AreApart) : routes'.AreApart := by
  obtain ⟨template, -, rfl, -, hclash⟩ := exists_of_add h
  rw [AreApart, List.map_append, List.map_singleton, List.nodup_append]
  refine ⟨hapart, by simp, fun other hother template' htemplate' heq => ?_⟩
  obtain ⟨route, hroute, rfl⟩ := List.mem_map.1 hother
  obtain rfl := List.mem_singleton.1 htemplate'
  have hno := hclash route hroute
  rw [heq, clash_self] at hno
  cases hno

/-! ## Searching -/

lemma mem_after_iff : (parts, route) ∈ after part rests ↔ (part :: parts, route) ∈ rests := by
  rw [after, List.mem_filterMap]
  constructor
  · rintro ⟨⟨parts', route'⟩, hmem, h⟩
    dsimp only at h
    split at h
    · cases h
    · split at h
      · rename_i heq
        cases h
        rwa [← heq]
      · cases h
  · exact fun hmem => ⟨_, hmem, by simp⟩

lemma mem_of_ended (h : ended rests = some route) : ([], route) ∈ rests := by
  obtain ⟨⟨parts, route'⟩, hfind, rfl⟩ := Option.map_eq_some_iff.1 h
  have hempty := List.find?_some hfind
  obtain rfl : parts = [] := by simpa using hempty
  exact List.mem_of_find?_eq_some hfind

lemma eq_suffix_append (parts : List RoutePart) :
    parts = (suffix parts).1.map .char ++ (suffix parts).2 := by
  fun_induction suffix parts with
  | case1 => rfl
  | case2 c parts hc cs rest hsuffix ih =>
    rw [hsuffix] at ih
    rw [List.map_cons, List.cons_append, ← ih]
  | case3 => rfl

lemma mem_withSuffix_iff {cs : List Char} :
    (parts, route) ∈ withSuffix cs rests ↔
      ∃ parts', (parts', route) ∈ rests ∧ suffix parts' = (cs, parts) := by
  rw [withSuffix, List.mem_filterMap]
  constructor
  · rintro ⟨⟨parts', route'⟩, hmem, h⟩
    dsimp only at h
    split at h
    · rename_i hcs
      cases h
      exact ⟨parts', hmem, Prod.ext hcs rfl⟩
    · cases h
  · rintro ⟨parts', hmem, hsuffix⟩
    exact ⟨_, hmem, by simp [hsuffix]⟩

lemma before?_eq_some_iff {segment cs value : List Char} :
    before? segment cs = some value ↔ segment = value ++ cs ∧ value ≠ [] := by
  rw [before?, Option.filter_eq_some_iff, Text.dropSuffix?_eq_some_iff]
  simp

/-- The first segment of a path, with the slash after it. -/
def firstSegment (path : List Char) : List Char :=
  path.takeWhile (· ≠ '/') ++ if path.contains '/' then ['/'] else []

lemma exists_eq_firstSegment_append (path : List Char) :
    ∃ rest, path = firstSegment path ++ rest := by
  induction path with
  | nil => exact ⟨[], rfl⟩
  | cons c path ih =>
    by_cases hslash : c = '/'
    · exact ⟨path, by simp [firstSegment, hslash]⟩
    · obtain ⟨rest, hrest⟩ := ih
      refine ⟨rest, ?_⟩
      rw [firstSegment] at hrest
      rw [firstSegment, List.takeWhile_cons_of_pos (by simpa using hslash), List.contains_cons,
        show ('/' == c) = false by simpa using Ne.symm hslash, Bool.false_or, List.cons_append,
        List.cons_append, ← hrest]

/-- A value before a suffix has no slash. -/
lemma slash_not_mem_before {value cs : List Char} (hcs : cs ≠ [])
    (h : firstSegment path = value ++ cs) : '/' ∉ value := by
  have hfront : '/' ∉ path.takeWhile (· ≠ '/') := fun hmem => by
    simpa using List.mem_takeWhile_imp hmem
  rcases List.append_eq_append_iff.1 h with ⟨between, rfl, hend⟩ | ⟨between, hvalue, -⟩
  · -- The slash that may end the segment belongs to the suffix.
    obtain rfl : between = [] := by
      have hlength := congrArg List.length hend
      have hpos := List.length_pos_iff.2 hcs
      rw [List.length_append] at hlength
      refine List.length_eq_zero_iff.1 ?_
      split_ifs at hlength <;> simp only [List.length_cons, List.length_nil] at hlength <;> omega
    simpa using hfront
  · rw [hvalue, List.mem_append, not_or] at hfront
    exact hfront.1

/-- A parameter takes what stands before a suffix, and the path goes on after it. -/
lemma fills_before {value stop : List Char} {parts' : List RoutePart} (hvalue : value ≠ [])
    (hstop : stop ≠ []) (hsegment : firstSegment path = value ++ stop)
    (hsuffix : suffix parts' = (stop, parts))
    (h : Fills parts values (path.drop (value.length + stop.length))) :
    Fills (.parameter :: parts') (value :: values) path := by
  obtain ⟨rest, hrest⟩ := exists_eq_firstSegment_append path
  have hslash := slash_not_mem_before hstop hsegment
  rw [hsegment] at hrest
  rw [hrest, ← List.length_append, List.drop_left] at h
  rw [hrest, List.append_assoc, eq_suffix_append parts', hsuffix]
  exact .parameter hvalue hslash (fills_chars_iff.2 ⟨rest, rfl, h⟩)

lemma ne_nil_of_mem_suffixes {cs : List Char} (h : cs ∈ suffixes rests) : cs ≠ [] := by
  rw [suffixes, List.mem_mergeSort, List.mem_eraseDups, List.mem_filter] at h
  simpa using h.2

lemma tidy_after (htidy : ∀ rest ∈ rests, IsTidy rest.1) :
    ∀ rest ∈ after part rests, IsTidy rest.1 :=
  fun _ hrest => (htidy _ (mem_after_iff.1 hrest)).tail

lemma tidy_withSuffix {cs : List Char} (htidy : ∀ rest ∈ rests, IsTidy rest.1) :
    ∀ rest ∈ withSuffix cs rests, IsTidy rest.1 := by
  rintro ⟨parts, route⟩ hrest
  obtain ⟨parts', hmem, hsuffix⟩ := mem_withSuffix_iff.1 hrest
  have hparts' := htidy _ hmem
  rw [eq_suffix_append parts', hsuffix] at hparts'
  exact hparts'.append_right

/-- What a search finds is a route whose template the path fills with the values. -/
theorem fills_of_search {n : Nat} (htidy : ∀ rest ∈ rests, IsTidy rest.1)
    (h : search n rests path = some (route, values)) :
    ∃ parts, (parts, route) ∈ rests ∧ Fills parts values path := by
  induction n generalizing rests path values with
  | zero => cases h
  | succ n ih =>
    cases path with
    | nil =>
      obtain ⟨route, hended, heq⟩ := Option.map_eq_some_iff.1 h
      cases heq
      exact ⟨[], mem_of_ended hended, .nil⟩
    | cons c cs =>
      rw [search] at h
      dsimp only at h
      split at h
      · rename_i hchar
        cases h
        split at hchar
        · cases hchar
        · obtain ⟨parts, hmem, hfills⟩ := ih (tidy_after htidy) hchar
          exact ⟨_, mem_after_iff.1 hmem, .char hfills⟩
      · split at h
        · rename_i parts route' _ hrest
          cases h
          have hmem : (parts, route) ∈ after .rest rests := hrest ▸ List.mem_cons_self
          rw [mem_after_iff] at hmem
          obtain rfl := (htidy _ hmem).after_rest
          exact ⟨_, hmem, .rest (List.cons_ne_nil _ _)⟩
        · split at h
          · rename_i value stop _ hfirst
            have hmem := List.mem_filterMap.1 (hfirst ▸ List.mem_cons_self)
            obtain ⟨stop, hstop, hbefore⟩ := hmem
            obtain ⟨value, hbefore, hpair⟩ := Option.map_eq_some_iff.1 hbefore
            cases hpair
            obtain ⟨hsegment, hvalue⟩ := before?_eq_some_iff.1 hbefore
            obtain ⟨⟨route, values⟩, hsearch, hfound⟩ := Option.map_eq_some_iff.1 h
            cases hfound
            obtain ⟨parts, hmem, hfills⟩ := ih (tidy_withSuffix (tidy_after htidy)) hsearch
            obtain ⟨parts', hmem', hsuffix⟩ := mem_withSuffix_iff.1 hmem
            exact ⟨_, mem_after_iff.1 hmem',
              fills_before hvalue (ne_nil_of_mem_suffixes hstop) hsegment hsuffix hfills⟩
          · -- No suffix fits: the parameter takes all, if that is one segment.
            split at h
            · cases h
            · rename_i hslash
              obtain ⟨route, hended, hfound⟩ := Option.map_eq_some_iff.1 h
              cases hfound
              refine ⟨_, mem_after_iff.1 (mem_of_ended hended), ?_⟩
              have hnot : '/' ∉ c :: cs := by simpa using hslash
              simpa using Fills.parameter (List.cons_ne_nil c cs) hnot .nil

/-! ## A single route -/

lemma after_singleton (route : Route α) (part : RoutePart) (parts : List RoutePart) :
    after part [(part :: parts, route)] = [(parts, route)] := by
  simp [after]

lemma after_singleton_of_ne {other : RoutePart} (route : Route α) (h : part ≠ other)
    (parts : List RoutePart) : after other [(part :: parts, route)] = [] := by
  simp [after, h]

lemma suffixes_singleton (route : Route α) (h : (suffix parts).1 ≠ []) :
    suffixes [(parts, route)] = [(suffix parts).1] := by
  simp [suffixes, h, List.eraseDups_cons]

lemma suffixes_singleton_of_eq_nil (route : Route α) (h : (suffix parts).1 = []) :
    suffixes [(parts, route)] = [] := by
  simp [suffixes, h]

lemma withSuffix_singleton (route : Route α) (parts : List RoutePart) :
    withSuffix (suffix parts).1 [(parts, route)] = [((suffix parts).2, route)] := by
  simp [withSuffix]

/-- What a segment after a parameter is made of: its characters, and the slash after it. -/
lemma suffix_cases (h : ∀ part ∈ parts.takeWhile (· ≠ .char '/'), isWild part = false) :
    (suffix parts).2 = [] ∧ '/' ∉ (suffix parts).1 ∨
      ∃ cs, (suffix parts).1 = cs ++ ['/'] ∧ '/' ∉ cs := by
  fun_induction suffix parts with
  | case1 parts => exact Or.inr ⟨[], rfl, by simp⟩
  | case2 c parts hc cs rest hsuffix ih =>
    rw [List.takeWhile_cons_of_pos (by simpa using hc)] at h
    rw [hsuffix] at ih
    rcases ih fun part hpart => h part (List.mem_cons_of_mem _ hpart) with
      ⟨hrest, hcs⟩ | ⟨cs', hcs, hcs'⟩
    · exact Or.inl ⟨hrest, by simp [hcs, Ne.symm hc]⟩
    · exact Or.inr ⟨c :: cs', congrArg (c :: ·) hcs, by simp [hcs', Ne.symm hc]⟩
  | case3 parts hparts =>
    refine Or.inl ⟨?_, by simp⟩
    cases parts with
    | nil => rfl
    | cons part parts =>
      cases part with
      | char c => exact absurd rfl (hparts c parts)
      | parameter => exact absurd (h .parameter (by simp)) (by decide)
      | rest => exact absurd (h .rest (by simp)) (by decide)

lemma eq_nil_of_suffix (hchars : ∀ part ∈ parts.takeWhile (· ≠ .char '/'), isWild part = false)
    (h : (suffix parts).1 = []) : parts = [] := by
  have hparts := eq_suffix_append parts
  rw [h] at hparts
  rcases suffix_cases hchars with ⟨hend, -⟩ | ⟨cs, hcs, -⟩
  · rw [hparts, hend]
    rfl
  · simp [h] at hcs

lemma firstSegment_of_not_mem (h : '/' ∉ path) : firstSegment path = path := by
  rw [firstSegment, List.takeWhile_eq_self_iff.2 fun c hc => ?_]
  · simp [h]
  · simpa using fun heq : c = '/' => h (heq ▸ hc)

lemma firstSegment_append {cs rest : List Char} (h : '/' ∉ cs) :
    firstSegment (cs ++ '/' :: rest) = cs ++ ['/'] := by
  rw [firstSegment, List.takeWhile_append_of_pos fun c hc => ?_]
  · simp
  · simpa using fun heq : c = '/' => h (heq ▸ hc)

/-- The first segment of a path is a value with the suffix that the template has after it. -/
lemma firstSegment_eq {value rest : List Char} (hslash : '/' ∉ value)
    (hparts : ∀ part ∈ parts.takeWhile (· ≠ .char '/'), isWild part = false)
    (h : Fills (suffix parts).2 values rest) :
    firstSegment (value ++ ((suffix parts).1 ++ rest)) = value ++ (suffix parts).1 := by
  rcases suffix_cases hparts with ⟨hend, hstop⟩ | ⟨cs, hstop, hcs⟩
  · rw [hend] at h
    cases h
    rw [List.append_nil, firstSegment_of_not_mem (by simp [hslash, hstop])]
  · rw [hstop, List.append_assoc, ← List.append_assoc, List.singleton_append,
      firstSegment_append (by simp [hslash, hcs]), List.append_assoc]

/-- The only route of a table is found by every path that fills its template. -/
theorem search_singleton {n : Nat} (hn : path.length < n) (htidy : IsTidy parts)
    (h : Fills parts values path) : search n [(parts, route)] path = some (route, values) := by
  induction n generalizing parts values path with
  | zero => cases hn
  | succ n ih =>
    cases h with
    | nil => rfl
    | @char c parts values path h =>
      rw [search]
      dsimp only
      rw [after_singleton]
      dsimp only
      rw [ih (by simpa using hn) htidy.tail h]
    | @parameter value parts values path hvalue hslash h =>
      have hparts := htidy.after_parameter
      obtain ⟨c, cs, rfl⟩ := List.exists_cons_of_ne_nil hvalue
      rw [eq_suffix_append parts, fills_chars_iff] at h
      obtain ⟨rest, rfl, h⟩ := h
      have hsegment := firstSegment_eq hslash hparts h
      rw [List.cons_append, search]
      dsimp only
      rw [after_singleton_of_ne route (by simp), after_singleton_of_ne route (by simp),
        after_singleton]
      dsimp only
      by_cases hstop : (suffix parts).1 = []
      · -- Nothing follows in the template.
        obtain rfl := eq_nil_of_suffix hparts hstop
        obtain ⟨rfl, rfl⟩ := fills_nil_iff.1 h
        rw [suffixes_singleton_of_eq_nil route hstop]
        simpa [suffix, ended] using hslash
      · have hbefore := before?_eq_some_iff.2 ⟨hsegment, hvalue⟩
        rw [firstSegment] at hbefore
        have hdrop : (c :: (cs ++ ((suffix parts).1 ++ rest))).drop
            ((c :: cs).length + (suffix parts).1.length) = rest := by
          rw [← List.cons_append, ← List.append_assoc, ← List.length_append, List.drop_left]
        have htidy' := htidy.tail
        rw [eq_suffix_append parts] at htidy'
        rw [suffixes_singleton route hstop, List.filterMap_cons, ← List.cons_append, hbefore]
        dsimp only [Option.map_some]
        rw [withSuffix_singleton, List.cons_append, hdrop,
          ih (by simp only [List.length_append, List.length_cons] at hn; omega)
            htidy'.append_right h]
        rfl
    | rest hvalue =>
      obtain ⟨c, value, rfl⟩ := List.exists_cons_of_ne_nil hvalue
      rw [search]
      dsimp only
      rw [after_singleton_of_ne route (by simp), after_singleton]

/-! ## Tables -/

/-- A table as a search begins with it. -/
def start (routes : Routes α) : List (Rest α) :=
  routes.map fun route => (route.template.parts, route)

/-- A table leads a path to a route of it: there is no other route, or it is the one that the search
comes to. -/
def Leads (routes : Routes α) (path : String) (route : Route α) : Prop :=
  routes = [route] ∨
    ∃ values, search (path.toList.length + 1) routes.start path.toList = some (route, values)

/-- A path that is led to a route finds what the route leads to, and the texts in the places of the
parameters. -/
theorem find?_eq_of_leads {routes : Routes α} {path : String} (htidy : routes.AreTidy)
    (hleads : routes.Leads path route) (h : Fills route.template.parts values path.toList) :
    routes.find? path = some (route.target, route.template.names.zip values) := by
  suffices hsearch : search (path.toList.length + 1) routes.start path.toList =
      some (route, values) by
    rw [find?]
    dsimp only
    rw [← start, hsearch, Option.map_some]
  rcases hleads with rfl | ⟨values', hsearch⟩
  · exact search_singleton (Nat.lt_succ_self _) (htidy route List.mem_cons_self) h
  · have hall : ∀ rest ∈ routes.start, IsTidy rest.1 := by
      intro rest hrest
      obtain ⟨route, hroute, rfl⟩ := List.mem_map.1 hrest
      exact htidy route hroute
    obtain ⟨parts, hmem, hfills⟩ := fills_of_search hall hsearch
    obtain ⟨route, hroute, heq⟩ := List.mem_map.1 hmem
    cases heq
    rw [hsearch, hfills.values_eq h (htidy route hroute)]

end Routes

end ApiContract
