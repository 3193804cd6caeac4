/-
# The fragment of a URL

The text of a URL that has been read or joined consists of a stem without a hash and of its
fragment, and the fragment is what follows the first hash of the reference, in encoded form.
So the base of a join has no say in the fragment.
-/
import ApiContract.Proofs.Url.Hash

namespace ApiContract

/-- No part of the path has a hash in it. -/
def UrlPath.Unhashed : UrlPath → Prop
  | opaqueText text => '#' ∉ text
  | segments parts => ∀ part ∈ parts, '#' ∉ part

namespace Url

/-- No part before the fragment has a hash in it. -/
structure Unhashed (u : Url) : Prop where
  /-- There is none in the scheme. -/
  scheme : '#' ∉ u.scheme
  /-- There is none in the user. -/
  userInfo : '#' ∉ u.userInfo
  /-- There is none in the host. -/
  host : ∀ host, u.host = some host → '#' ∉ host
  /-- There is none in the path. -/
  path : u.path.Unhashed
  /-- There is none in the query. -/
  query : ∀ query, u.query = some query → '#' ∉ query

/-- The text of a URL before its fragment. -/
def stem (u : Url) : List Char :=
  { u with fragment := none }.text

/-- A fragment with the hash before it. -/
def fragmentText : Option (List Char) → List Char
  | some fragment => '#' :: fragment
  | none => []

/-- The fragment that a text declares. -/
def fragmentOf (cs : List Char) : Option (List Char) :=
  (Text.afterHash cs).map (Percent.encodeExcept inFragment)

lemma text_eq_stem (u : Url) : u.text = u.stem ++ fragmentText u.fragment := by
  obtain ⟨scheme, userInfo, host, service, path, query, fragment⟩ := u
  cases fragment <;> simp [stem, text, authorityText, fragmentText]

lemma Unhashed.authorityText {u : Url} (h : u.Unhashed) : '#' ∉ u.authorityText := by
  rw [Url.authorityText]
  split
  · rename_i host hhost
    have huser : '#' ∉ (if u.userInfo = [] then [] else u.userInfo ++ ['@']) := by
      split
      · simp
      · simp [h.userInfo]
    cases hservice : u.service with
    | none => simp [huser, h.host host hhost]
    | some n => simp [huser, h.host host hhost, Text.decimalDigits, Text.not_mem_toDigits]
  · split <;> simp

lemma UrlPath.Unhashed.text {path : UrlPath} (h : path.Unhashed) : '#' ∉ path.text := by
  cases path with
  | opaqueText text => exact h
  | segments parts =>
    intro hmem
    obtain ⟨part, hpart, hmem⟩ := List.mem_flatMap.1 hmem
    rcases List.mem_cons.1 hmem with hmem | hmem
    · exact absurd hmem (by decide)
    · exact h part hpart hmem

lemma Unhashed.stem {u : Url} (h : u.Unhashed) : '#' ∉ u.stem := by
  have hscheme := h.scheme
  have hauthority : '#' ∉ Url.authorityText { u with fragment := none } := h.authorityText
  have hpath := UrlPath.Unhashed.text h.path
  have hquery := h.query
  unfold Url.stem Url.text
  generalize Url.authorityText { u with fragment := none } = authority at hauthority
  cases hcase : u.query with
  | none => simp [hscheme, hauthority, hpath]
  | some query => simp [hscheme, hauthority, hpath, hquery query hcase]

/-! ## Paths -/

variable {kind : SchemeKind} {parts : List (List Char)} {cs : List Char}

/-- A text is at the end of a path if it is empty or a query or a fragment begins there. -/
def AtEnd (cs : List Char) : Prop :=
  ∀ c, cs.head? = some c → endsPath c

lemma atEnd_dropWhile (cs : List Char) : AtEnd (cs.dropWhile fun c => !endsPath c) := by
  intro c hc
  have hnot := List.head?_dropWhile_not (fun c => !endsPath c) cs
  rw [hc] at hnot
  simpa using hnot

lemma not_mem_parent (hparts : ∀ part ∈ parts, '#' ∉ part) :
    ∀ part ∈ parent kind parts, '#' ∉ part := by
  rw [parent]
  split
  · exact hparts
  · exact fun part hpart => hparts part ((List.dropLast_sublist _).mem hpart)

lemma atEnd_question (cs : List Char) : AtEnd ('?' :: cs) := by
  rintro c ⟨⟩
  rfl

lemma addSegment_unhashed {isLast : Bool} {segment : List Char}
    (hparts : ∀ part ∈ parts, '#' ∉ part) (hsegment : '#' ∉ segment) :
    ∀ part ∈ (addSegment kind isLast parts segment).1, '#' ∉ part := by
  have hlast : ∀ part ∈ (if isLast then [[]] else [] : List (List Char)), '#' ∉ part := by
    cases isLast <;> simp
  rw [addSegment]
  split
  · intro part hpart
    rcases List.mem_append.1 hpart with hpart | hpart
    · exact not_mem_parent hparts part hpart
    · exact hlast part hpart
  · split
    · intro part hpart
      rcases List.mem_append.1 hpart with hpart | hpart
      · exact hparts part hpart
      · exact hlast part hpart
    · split
      · intro part hpart
        obtain rfl := List.mem_singleton.1 hpart
        rw [List.mem_append, not_or]
        exact ⟨fun hmem => hsegment (List.mem_of_mem_take hmem), by decide⟩
      · intro part hpart
        rcases List.mem_append.1 hpart with hpart | hpart
        · exact hparts part hpart
        · rwa [List.mem_singleton.1 hpart]

lemma addSegments_unhashed {isDrive : Bool} {segment : List Char}
    (hparts : ∀ part ∈ parts, '#' ∉ part) (hsegment : '#' ∉ segment) :
    ∀ part ∈ (addSegments kind parts isDrive segment cs).1, '#' ∉ part := by
  -- Characters wait in the segment, encoded, until the next slash adds it to the parts.
  induction cs generalizing parts isDrive segment with
  | nil => exact addSegment_unhashed hparts (by simpa using hsegment)
  | cons c cs ih =>
    rw [addSegments]
    split
    · exact ih (addSegment_unhashed hparts (by simpa using hsegment)) (by simp)
    · refine ih hparts ?_
      rw [List.mem_append, not_or, List.mem_reverse]
      exact ⟨Percent.hash_not_mem_encodeExcept (Or.inl (by decide)), hsegment⟩

lemma dropEmpty_unhashed (hparts : ∀ part ∈ parts, '#' ∉ part) :
    ∀ part ∈ dropEmpty parts, '#' ∉ part := by
  fun_induction dropEmpty parts with
  | case1 part parts ih => exact ih fun p hp => hparts p (List.mem_cons_of_mem _ hp)
  | case2 => exact hparts

/-- A path that has been read has no hash in it, and the text after it is at the end of a
path and declares the same fragment. -/
structure PathRead (cs : List Char) (read : UrlPath × Bool × List Char) : Prop where
  /-- The path has no hash. -/
  unhashed : read.1.Unhashed
  /-- The rest is at the end of a path. -/
  atEnd : AtEnd read.2.2
  /-- The rest declares the same fragment. -/
  afterHash : Text.afterHash read.2.2 = Text.afterHash cs

lemma readPath_read (hparts : ∀ part ∈ parts, '#' ∉ part) (cs : List Char) :
    PathRead cs (readPath kind parts cs) := by
  have hadded : ∀ part ∈ (addSegments kind parts false []
      (cs.takeWhile fun c => !endsPath c)).1, '#' ∉ part :=
    addSegments_unhashed hparts (by simp)
  refine ⟨?_, atEnd_dropWhile cs, Text.afterHash_dropWhile (by decide)⟩
  rw [readPath]
  dsimp only [UrlPath.Unhashed]
  split
  · exact dropEmpty_unhashed hadded
  · exact hadded

lemma readPathStart_read (cs : List Char) : PathRead cs (readPathStart kind cs) := by
  unfold readPathStart
  split
  · split
    · exact readPath_read (by simp) []
    · exact ⟨by simp [UrlPath.Unhashed], by simp [AtEnd], rfl⟩
  · rename_i c rest
    split
    · rename_i hslash
      have hread : PathRead rest (readPath kind [] rest) := readPath_read (by simp) rest
      have hc : '#' ∉ [c] := by
        rintro hmem
        obtain rfl := List.mem_singleton.1 hmem
        cases kind <;> exact absurd hslash (by decide)
      refine ⟨hread.unhashed, hread.atEnd, hread.afterHash.trans ?_⟩
      exact (Text.afterHash_append hc rest).symm
    · split
      · rename_i hend
        refine ⟨by simp [UrlPath.Unhashed], fun c' hc' => ?_, rfl⟩
        obtain rfl : c = c' := by simpa using hc'
        simp only [Bool.and_eq_true] at hend
        exact hend.2
      · exact readPath_read (by simp) _

/-! ## The end of a URL -/

/-- A URL that has been read from a text: there is no hash before the fragment, and the
fragment is the one that the text declares. -/
structure ReadFrom (cs : List Char) (u : Url) : Prop where
  /-- There is no hash before the fragment. -/
  unhashed : u.Unhashed
  /-- The fragment is the one of the text. -/
  fragment : u.fragment = fragmentOf cs

lemma ReadFrom.of_afterHash {cs' : List Char} {u : Url} (h : ReadFrom cs' u)
    (hcs : Text.afterHash cs' = Text.afterHash cs) : ReadFrom cs u :=
  ⟨h.unhashed, by rw [h.fragment, fragmentOf, fragmentOf, hcs]⟩

lemma fragmentOf_cons_hash (cs : List Char) :
    fragmentOf ('#' :: cs) = some (Percent.encodeExcept inFragment cs) := by
  simp [fragmentOf, Text.afterHash_cons]

lemma fragmentOf_cons {c : Char} (h : c ≠ '#') (cs : List Char) :
    fragmentOf (c :: cs) = fragmentOf cs := by
  simp [fragmentOf, Text.afterHash_cons, h]

/-- What is read at the end of a text or at a hash is the fragment that the text declares. -/
lemma readFragment_eq (h : ∀ c, cs.head? = some c → c = '#') :
    readFragment? cs = fragmentOf cs := by
  cases cs with
  | nil => rfl
  | cons c cs =>
    obtain rfl := h c rfl
    exact (fragmentOf_cons_hash cs).symm

lemma readEnd_read {u : Url} (hu : u.Unhashed) (hcs : AtEnd cs) : ReadFrom cs (readEnd u cs) := by
  unfold readEnd
  dsimp only
  split
  · rename_i rest
    refine ⟨⟨hu.scheme, hu.userInfo, hu.host, hu.path, ?_⟩, ?_⟩
    · rintro query hquery
      obtain rfl := Option.some.inj hquery
      exact Percent.hash_not_mem_encodeExcept (Or.inr (Text.not_mem_takeWhile (by decide)))
    · refine (readFragment_eq fun c hc => ?_).trans ?_
      · have hnot := List.head?_dropWhile_not (· != '#') rest
        rw [hc] at hnot
        simpa using hnot
      · rw [fragmentOf_cons (by decide), fragmentOf, fragmentOf,
          Text.afterHash_dropWhile (by decide)]
  · rename_i hquestion
    refine ⟨⟨hu.scheme, hu.userInfo, hu.host, hu.path, by simp⟩, readFragment_eq fun c hc => ?_⟩
    have hc' := hcs c hc
    obtain ⟨ds, rfl⟩ : ∃ ds, cs = c :: ds := by
      cases cs with
      | nil => simp at hc
      | cons d ds => exact ⟨ds, by simpa using hc⟩
    rw [endsPath, Bool.or_eq_true, beq_iff_eq, beq_iff_eq] at hc'
    exact hc'.resolve_left fun h => hquestion ds (by rw [h])

lemma ReadFrom.cons {u : Url} {c : Char} (h : ReadFrom cs u) (hc : c ≠ '#') :
    ReadFrom (c :: cs) u :=
  ⟨h.unhashed, h.fragment.trans (fragmentOf_cons hc cs).symm⟩

lemma withFragment_read {u : Url} (hu : u.Unhashed) (cs : List Char) :
    ReadFrom ('#' :: cs) (withFragment u ('#' :: cs)) :=
  ⟨⟨hu.scheme, hu.userInfo, hu.host, hu.path, hu.query⟩, (fragmentOf_cons_hash cs).symm⟩

lemma noFragment_read {u : Url} (hu : u.Unhashed) : ReadFrom [] { u with fragment := none } :=
  ⟨⟨hu.scheme, hu.userInfo, hu.host, hu.path, hu.query⟩, rfl⟩

/-- A path and what follows it, put onto a URL. -/
lemma readEnd_path {u : Url} (hu : u.Unhashed) {read : UrlPath × Bool × List Char}
    (h : PathRead cs read) : ReadFrom cs (readEnd { u with path := read.1 } read.2.2) := by
  have hpath : Unhashed { u with path := read.1 } :=
    ⟨hu.scheme, hu.userInfo, hu.host, h.unhashed, hu.query⟩
  exact (readEnd_read hpath h.atEnd).of_afterHash h.afterHash

/-! ## Authorities -/

lemma afterHash_cutUser {user rest : List Char} (h : cutUser kind cs = some (user, rest)) :
    Text.afterHash rest = Text.afterHash cs := by
  rw [cutUser] at h
  dsimp only at h
  split at h
  · simp at h
  · rename_i hlength
    obtain ⟨-, rfl⟩ := Prod.mk.inj (Option.some.inj h)
    refine Text.afterHash_drop fun hmem => ?_
    -- Only characters of the authority are passed, and it ends before a hash.
    generalize hauthority : cs.takeWhile (fun c => !(isSlash kind c || endsPath c)) =
      authority at hmem hlength
    have hnot : '#' ∉ authority := hauthority ▸ Text.not_mem_takeWhile (by simp [endsPath])
    obtain ⟨rest, rfl⟩ : authority <+: cs := hauthority ▸ List.takeWhile_prefix _
    have hle : (authority.reverse.takeWhile (· != '@')).length ≤ authority.length :=
      (List.takeWhile_prefix _).length_le.trans_eq List.length_reverse
    rw [List.take_append_of_le_length (by omega)] at hmem
    exact hnot (List.mem_of_mem_take hmem)

lemma not_mem_userInfoText (cs : List Char) : '#' ∉ userInfoText cs := by
  have hencode : ∀ ds, '#' ∉ Percent.encodeExcept inUserInfo ds :=
    fun ds => Percent.hash_not_mem_encodeExcept (Or.inl (by decide))
  unfold userInfoText
  dsimp only
  split
  · exact hencode cs
  · split <;> simp [hencode]

lemma not_mem_hostText (kind : SchemeKind) (inBrackets : Bool) (cs : List Char) :
    '#' ∉ cs.take (hostLength kind inBrackets cs) := by
  induction cs generalizing inBrackets with
  | nil => simp
  | cons c cs ih =>
    rw [hostLength]
    split
    · simp
    · rename_i hgoes
      rw [Nat.add_comm, List.take_succ_cons, List.mem_cons, not_or]
      refine ⟨?_, ih _⟩
      rintro rfl
      exact hgoes (by simp [endsPath])

lemma afterHash_readService {scheme rest : List Char} {service : Option Nat}
    (h : readService? scheme cs = some (service, rest)) :
    Text.afterHash rest = Text.afterHash cs := by
  unfold readService? at h
  dsimp only at h
  split at h
  · simp at h
  · split at h <;> obtain ⟨-, rfl⟩ := Prod.mk.inj (Option.some.inj h) <;>
      exact Text.afterHash_dropWhile (by decide)

lemma readUser_read {user rest : List Char} (h : readUser? kind cs = some (user, rest)) :
    '#' ∉ user ∧ Text.afterHash rest = Text.afterHash cs := by
  rw [readUser?] at h
  split at h
  · obtain ⟨rfl, rfl⟩ := Prod.mk.inj (Option.some.inj h)
    exact ⟨by simp, rfl⟩
  · rename_i hcut
    split at h
    · simp at h
    · obtain ⟨rfl, rfl⟩ := Prod.mk.inj (Option.some.inj h)
      exact ⟨by simp, afterHash_cutUser hcut⟩
  · rename_i hcut
    obtain ⟨rfl, rfl⟩ := Prod.mk.inj (Option.some.inj h)
    exact ⟨not_mem_userInfoText _, afterHash_cutUser hcut⟩

lemma not_mem_readHost {host : List Char} (h : readHost? kind cs = some host) : '#' ∉ host := by
  rw [readHost?] at h
  split at h
  · split at h
    · simp at h
    · exact not_mem_webHost h
  · exact not_mem_otherHost h

lemma afterHash_readAfterHost {scheme rest : List Char} {service : Option Nat}
    (h : readAfterHost? scheme cs = some (service, rest)) :
    Text.afterHash rest = Text.afterHash cs := by
  unfold readAfterHost? at h
  split at h
  · rw [Text.afterHash_cons, if_neg (by decide)]
    exact afterHash_readService h
  · obtain ⟨-, rfl⟩ := Prod.mk.inj (Option.some.inj h)
    rfl

lemma readAuthority_read {scheme : List Char} (hscheme : '#' ∉ scheme) {u : Url}
    (h : readAuthority? scheme cs = some u) : ReadFrom cs u := by
  rw [readAuthority?] at h
  obtain ⟨⟨user, afterUser⟩, huser, h⟩ := Option.bind_eq_some_iff.1 h
  obtain ⟨host, hhost, h⟩ := Option.bind_eq_some_iff.1 h
  dsimp only at h
  split at h
  · simp at h
  obtain ⟨⟨service, afterHost⟩, hservice, h⟩ := Option.bind_eq_some_iff.1 h
  obtain rfl := Option.some.inj h
  obtain ⟨huser, hafterUser⟩ := readUser_read huser
  have hafterHost : Text.afterHash afterHost = Text.afterHash afterUser :=
    (afterHash_readAfterHost hservice).trans (Text.afterHash_drop (not_mem_hostText _ _ _))
  have hu : Unhashed ⟨scheme, user, some host, service, .segments [], none, none⟩ :=
    ⟨hscheme, huser, by simpa using not_mem_readHost hhost, by simp [UrlPath.Unhashed], by simp⟩
  exact (readEnd_path hu (readPathStart_read afterHost)).of_afterHash
    (hafterHost.trans hafterUser)

/-! ## Files -/

lemma file_unhashed {host : List Char} (hhost : '#' ∉ host) :
    Unhashed { file (.segments []) with host := some host } := by
  have hscheme : '#' ∉ fileScheme := by decide
  exact ⟨hscheme, by simp [file], by simpa using hhost, by simp [file, UrlPath.Unhashed],
    by simp [file]⟩

lemma readPlain_read (cs : List Char) :
    ReadFrom cs (readEnd (file (readPath .file [] cs).1) (readPath .file [] cs).2.2) := by
  have hempty : '#' ∉ ([] : List Char) := by simp
  exact readEnd_path (file_unhashed hempty) (readPath_read (by simp) cs)

lemma not_mem_localHost {host : List Char} (h : localHost? cs = some host) : '#' ∉ host := by
  rw [localHost?] at h
  split at h
  · obtain rfl := Option.some.inj h
    simp
  · obtain ⟨host', hhost', rfl⟩ := Option.map_eq_some_iff.1 h
    split
    · simp
    · exact not_mem_webHost hhost'

lemma readFileHost_read {u : Url} (h : readFileHost? cs = some u) : ReadFrom cs u := by
  rw [readFileHost?] at h
  dsimp only at h
  split at h
  · obtain rfl := Option.some.inj h
    exact readPlain_read cs
  · obtain ⟨host, hhost, h⟩ := Option.bind_eq_some_iff.1 h
    obtain rfl := Option.some.inj h
    refine (readEnd_path (file_unhashed ?_) (readPathStart_read _)).of_afterHash
      (Text.afterHash_drop ?_)
    · split
      · simp
      · exact not_mem_localHost hhost
    · rw [← List.prefix_iff_eq_take.1 (List.takeWhile_prefix _)]
      exact Text.not_mem_takeWhile (by decide)

lemma not_mem_basePath {base : Option Url} (hbase : ∀ b ∈ base, b.Unhashed) :
    ∀ part ∈ basePath base, '#' ∉ part := by
  unfold basePath
  split
  · exact (hbase _ rfl).path
  · simp

lemma readRooted_read {base : Option Url} (hbase : ∀ b ∈ base, b.Unhashed) (cs : List Char) :
    ReadFrom cs (readFile?.rooted base cs) := by
  have hnone : ∀ part ∈ ([] : List (List Char)), '#' ∉ part := by simp
  have hempty : '#' ∉ ([] : List Char) := by simp
  unfold readFile?.rooted
  dsimp only
  split
  · exact readEnd_path (file_unhashed hempty) (readPath_read hnone cs)
  · split
    · exact readEnd_path (file_unhashed hempty) (readPath_read hnone cs)
    · rename_i b
      split
      · rename_i hdrive
        refine readEnd_path (file_unhashed hempty) (readPath_read (fun part hpart => ?_) cs)
        obtain rfl := List.mem_singleton.1 hpart
        cases hparts : basePath (some b) with
        | nil => simp
        | cons first rest => exact not_mem_basePath hbase first (by simp [hparts])
      · refine readEnd_path (file_unhashed ?_) (readPath_read hnone cs)
        cases hhost : b.host with
        | none => simp
        | some host => exact (hbase b rfl).host host hhost

lemma readFileRelative_read {base : Option Url} (hbase : ∀ b ∈ base, b.Unhashed) {u : Url}
    (h : readFile?.relative base cs
      (fun cs => readEnd (file (readPath .file [] cs).1) (readPath .file [] cs).2.2) = some u) :
    ReadFrom cs u := by
  unfold readFile?.relative at h
  split at h
  · obtain rfl := Option.some.inj h
    exact readPlain_read cs
  · rename_i b
    have hb := hbase b rfl
    -- The base gives all that comes before the first part that the text declares.
    split at h
    · obtain rfl := Option.some.inj h
      exact noFragment_read hb
    · obtain rfl := Option.some.inj h
      have hquery : Unhashed { b with query := none } :=
        ⟨hb.scheme, hb.userInfo, hb.host, hb.path, by simp⟩
      exact readEnd_read hquery (atEnd_question _)
    · obtain rfl := Option.some.inj h
      exact withFragment_read hb _
    · split at h
      · obtain rfl := Option.some.inj h
        exact readPlain_read cs
      · obtain rfl := Option.some.inj h
        exact readEnd_path hb (readPath_read (not_mem_parent (not_mem_basePath hbase)) cs)

lemma readFile_read {base : Option Url} (hbase : ∀ b ∈ base, b.Unhashed) {u : Url}
    (h : readFile? base cs = some u) : ReadFrom cs u := by
  have hslash : ∀ {c : Char}, isAnySlash c = true → c ≠ '#' := by
    rintro c hc rfl
    exact absurd hc (by decide)
  unfold readFile? at h
  dsimp only at h
  -- Two slashes lead to a host, one to a path from the root.
  split at h
  · rename_i c d rest
    split at h
    · rename_i hslashes
      rw [Bool.and_eq_true] at hslashes
      exact ((readFileHost_read h).cons (hslash hslashes.2)).cons (hslash hslashes.1)
    · split at h
      · rename_i hc
        obtain rfl := Option.some.inj h
        exact (readRooted_read hbase _).cons (hslash hc)
      · exact readFileRelative_read hbase h
  · split at h
    · rename_i hc
      obtain rfl := Option.some.inj h
      exact (readRooted_read hbase _).cons (hslash hc)
    · exact readFileRelative_read hbase h
  · exact readFileRelative_read hbase h

/-! ## URLs -/

lemma readRelative_read {b u : Url} (hb : b.Unhashed) (h : readRelative? b cs = some u) :
    ReadFrom cs u := by
  unfold readRelative? at h
  dsimp only at h
  split at h
  · obtain rfl := Option.some.inj h
    exact noFragment_read hb
  · obtain rfl := Option.some.inj h
    exact readEnd_read hb (atEnd_question _)
  · obtain rfl := Option.some.inj h
    exact withFragment_read hb _
  · rename_i c rest _ hc
    split at h
    · split at h
      · -- One slash or more are skipped, none of which is a hash.
        refine (readAuthority_read hb.scheme h).of_afterHash ?_
        split
        · rename_i hslashes
          rw [Bool.and_eq_true, beq_iff_eq, beq_iff_eq] at hslashes
          obtain ⟨rfl, hrest⟩ := hslashes
          obtain ⟨ds, rfl⟩ : ∃ ds, rest = '/' :: ds := List.head?_eq_some_iff.1 hrest
          simp [Text.afterHash_cons]
        · exact Text.afterHash_dropWhile (by decide)
      · obtain rfl := Option.some.inj h
        exact (readEnd_path hb (readPath_read (by simp) rest)).cons hc
    · obtain rfl := Option.some.inj h
      refine readEnd_path hb (readPath_read (not_mem_parent (not_mem_basePath ?_)) _)
      simpa using hb

lemma toLower_ne_hash {c : Char} (h : c ≠ '#') : c.toLower ≠ '#' := by
  unfold Char.toLower
  split
  · rename_i hupper
    -- The lower case of a letter has a number above that of a hash.
    intro heq
    have hval := congrArg Char.toNat heq
    have hlow := hupper.1
    have hhigh := hupper.2
    simp only [Char.toNat, ge_iff_le, UInt32.le_iff_toNat_le] at hval hlow hhigh
    simp at hval hlow hhigh
    omega
  · exact h

lemma cutScheme_read {scheme rest : List Char} (h : cutScheme cs = some (scheme, rest)) :
    '#' ∉ scheme ∧ Text.afterHash rest = Text.afterHash cs := by
  obtain ⟨⟨before, after⟩, hcut, h⟩ := Option.bind_eq_some_iff.1 h
  dsimp only at h
  split at h
  · rename_i hscheme
    obtain ⟨rfl, rfl⟩ := Prod.mk.inj (Option.some.inj h)
    have hbefore : '#' ∉ before := by
      intro hmem
      rw [Bool.and_eq_true] at hscheme
      exact absurd (List.all_eq_true.1 hscheme.2 '#' hmem) (by decide)
    refine ⟨fun hmem => ?_, ?_⟩
    · obtain ⟨c, hc, hlower⟩ := List.mem_map.1 hmem
      exact toLower_ne_hash (fun heq => hbefore (heq ▸ hc)) hlower
    · rw [(Text.cut_eq_some_iff.1 hcut).1, Text.afterHash_append hbefore, Text.afterHash_cons,
        if_neg (by decide)]
  · simp at h

lemma readAfterScheme_read {base : Option Url} (hbase : ∀ b ∈ base, b.Unhashed)
    {scheme : List Char} (hscheme : '#' ∉ scheme) {u : Url}
    (h : readAfterScheme? base scheme cs = some u) : ReadFrom cs u := by
  have hbare : ∀ path : UrlPath, path.Unhashed →
      Unhashed ⟨scheme, [], none, none, path, none, none⟩ :=
    fun path hpath => ⟨hscheme, by simp, by simp, hpath, by simp⟩
  unfold readAfterScheme? at h
  dsimp only at h
  split at h
  · exact readFile_read (fun b hb => hbase b ((Option.mem_filter_iff.1 hb).1)) h
  · split at h
    · rename_i b hb
      exact readRelative_read (hbase b ((Option.mem_filter_iff.1 hb).1)) h
    · refine (readAuthority_read hscheme h).of_afterHash (Text.afterHash_drop ?_)
      rw [← List.prefix_iff_eq_take.1 (List.takeWhile_prefix _)]
      exact Text.not_mem_takeWhile (by decide)
  · split at h
    · exact ((readAuthority_read hscheme h).cons (by decide)).cons (by decide)
    · obtain rfl := Option.some.inj h
      have hu := hbare (.segments []) (by simp [UrlPath.Unhashed])
      exact (readEnd_path hu (readPath_read (by simp) _)).cons (by decide)
    · obtain rfl := Option.some.inj h
      have hpath : '#' ∉ Percent.encodeExcept (fun c => !isControl c)
          (cs.takeWhile fun c => !endsPath c) :=
        Percent.hash_not_mem_encodeExcept (Or.inr (Text.not_mem_takeWhile (by decide)))
      exact (readEnd_read (hbare (.opaqueText _) hpath) (atEnd_dropWhile cs)).of_afterHash
        (Text.afterHash_dropWhile (by decide))

lemma readAgainst_read {base : Option Url} (hbase : ∀ b ∈ base, b.Unhashed) {u : Url}
    (h : readAgainst? base cs = some u) : ReadFrom (significant cs) u := by
  unfold readAgainst? at h
  dsimp only at h
  split at h
  · rename_i hcut
    obtain ⟨hscheme, hrest⟩ := cutScheme_read hcut
    exact (readAfterScheme_read hbase hscheme h).of_afterHash hrest
  · split at h
    · simp at h
    · rename_i b
      have hb := hbase b rfl
      split at h
      · rename_i hhead
        obtain rfl := Option.some.inj h
        obtain ⟨rest, hrest⟩ := List.head?_eq_some_iff.1 hhead
        rw [hrest]
        exact withFragment_read hb rest
      · split at h
        · simp at h
        · split at h
          · exact readFile_read hbase h
          · exact readRelative_read hb h

/-- The fragment of a URL that has been read is the one that the text declares. -/
theorem read_read {u : Url} (h : read? cs = some u) : ReadFrom (significant cs) u :=
  readAgainst_read (by simp) h

/-- The fragment of a URL that has been joined is the one that the reference declares. -/
theorem join_read {base u : Url} (hbase : base.Unhashed) {reference : List Char}
    (h : join? base reference = some u) : ReadFrom (significant reference) u :=
  readAgainst_read (by simpa using hbase) h

end Url

end ApiContract
