import ArtifactPipeline.Proofs.Searching
import ArtifactPipeline.Policy.Evaluate

/-!
# Where module names are found

Every shape of a statement that names a module has the quoted name in the middle, something before
it and possibly something after it. The name is the only group, so a match tells where the name
stands. A source text has module names exactly if one of the shapes fits somewhere, and each name
that is found stands between two quotes with no quote in it.
-/

namespace ArtifactPipeline.Imports

open Text Regex Program

/-- A quote of either kind. -/
def IsQuote (c : Char) : Prop := c = '\'' ∨ c = '"'

/-- Whether a character is a quote can be looked up. -/
instance : DecidablePred IsQuote := fun c => inferInstanceAs (Decidable (c = '\'' ∨ c = '"'))

/-- A property that is checked of the characters of a text one by one. -/
theorem forall_mem_of_all {P : Char → Prop} [DecidablePred P] {text : List Char}
    (h : (text.all fun c => decide (P c)) = true) : ∀ c ∈ text, P c :=
  fun c hc => of_decide_eq_true (List.all_eq_true.mp h c hc)

/-- What stands before the name of a module in a statement that takes names from it. -/
def fromLead (word : String) : List Regex :=
  [keyword word, plus (set .whitespace), opt (seq (literal "type") (plus (set .whitespace))),
    clause, keyword "from", blanks]

/-- What stands before the name of a module in an import for its effect. -/
def bareLead : List Regex := [keyword "import", blanks]

/-- What stands before the name of a module in a call. -/
def callLead (word : String) : List Regex := [keyword word, blanks, literal "(", blanks]

/-- What stands after the name of a module in a call. -/
def callTail : List Regex := [blanks, literal ")"]

/-- What the shapes demand before the quoted name of a module and after it. -/
def surroundings : List (List Regex × List Regex) :=
  [(fromLead "import", []), (bareLead, []), (callLead "import", callTail),
    (callLead "require", callTail), (fromLead "export", [])]

/-- Each shape is a quoted name with its surroundings. -/
theorem shapes_eq :
    shapes = surroundings.map fun (lead, tail) => concat (lead ++ specifier :: tail) := rfl

/-- No shape has a group besides the name. -/
theorem hasGroup_surroundings :
    ∀ s ∈ surroundings, (concat s.1).hasGroup = false ∧ (concat s.2).hasGroup = false := by
  decide

section Sets

variable {c : Char}

/-- The set of the quotes, as a condition on characters. -/
theorem mem_quotes : (CharSet.union (.single '\'') (.single '"')).mem c = true ↔ IsQuote c := by
  rw [CharSet.mem_union (CharSet.single_wellformed _) (CharSet.single_wellformed _),
    CharSet.mem_single, CharSet.mem_single]
  simp [IsQuote]

/-- The set of what may stand between quotes, as a condition on characters. -/
theorem mem_compl_quotes :
    (CharSet.compl (.union (.single '\'') (.single '"'))).mem c = true ↔ ¬ IsQuote c := by
  rw [CharSet.mem_compl ((CharSet.single_wellformed _).union (CharSet.single_wellformed _)),
    ← mem_quotes]
  simp

end Sets

section Specifiers

variable {before piece after : List Char} {marks : List (Nat × Nat)}

/-- A quoted name is a quote, a name without quotes and another quote. The name is group 1. -/
theorem matches_specifier :
    specifier.Matches before piece after marks ↔ ∃ q name q', IsQuote q ∧ IsQuote q' ∧ name ≠ [] ∧
      (∀ c ∈ name, ¬ IsQuote c) ∧ piece = q :: (name ++ [q']) ∧
      marks = [(3, before.length + 1 + name.length), (2, before.length + 1)] := by
  constructor
  · rintro ⟨_, _, _, _, rfl, rfl, ⟨q, hq, rfl, rfl⟩, name, _, _, _, rfl, rfl,
      ⟨inner, hname, rfl⟩, q', hq', rfl, rfl⟩
    obtain ⟨hlength, hplain, rfl⟩ := matches_rep_set.mp hname
    refine ⟨q, name, q', mem_quotes.mp hq, mem_quotes.mp hq', List.ne_nil_of_length_pos hlength,
      fun c hc => mem_compl_quotes.mp (hplain c hc), rfl, by simp⟩
  · rintro ⟨q, name, q', hq, hq', hne, hplain, rfl, rfl⟩
    refine ⟨[q], name ++ [q'], [], _, rfl, (List.append_nil _).symm,
      ⟨q, mem_quotes.mpr hq, rfl, rfl⟩, name, [q'], _, [], rfl, rfl,
      ⟨[], matches_rep_set.mpr ⟨?_, ?_, rfl⟩, ?_⟩, q', mem_quotes.mpr hq', rfl, rfl⟩
    · exact List.length_pos_iff.mpr hne
    · exact fun c hc => mem_compl_quotes.mpr (hplain c hc)
    · simp

end Specifiers

/-- A module name between quotes, with what some shape demands around it. The text before the
opening quote is `front`. -/
def NamedIn (code front name : List Char) : Prop :=
  ∃ s ∈ surroundings, ∃ before lead tail after q q', front = before ++ lead ∧
    code = front ++ q :: (name ++ q' :: (tail ++ after)) ∧ IsQuote q ∧ IsQuote q' ∧ name ≠ [] ∧
    (∀ c ∈ name, ¬ IsQuote c) ∧
    (concat s.1).Matches before lead (q :: (name ++ q' :: (tail ++ after))) [] ∧
    (concat s.2).Matches (front ++ q :: (name ++ [q'])) tail after []

variable {code front name : List Char} {start : Nat} {m : Match}

/-- A module name between quotes with its surroundings, and the ends of the piece that the shape
reads. -/
structure ShapeParts (s : List Regex × List Regex) (code : List Char) (start stop : Nat) where
  before : List Char
  lead : List Char
  name : List Char
  tail : List Char
  after : List Char
  opening : Char
  closing : Char
  text : code = before ++ lead ++ opening :: (name ++ closing :: (tail ++ after))
  start_eq : start = before.length
  stop_eq : stop = (before ++ lead).length + name.length + 2 + tail.length
  opening_quote : IsQuote opening
  closing_quote : IsQuote closing
  name_ne : name ≠ []
  name_plain : ∀ c ∈ name, ¬ IsQuote c
  lead_matches : (concat s.1).Matches before lead
    (opening :: (name ++ closing :: (tail ++ after))) []
  tail_matches : (concat s.2).Matches (before ++ lead ++ opening :: (name ++ [closing])) tail
    after []

/-- The place of the name. -/
def ShapeParts.ends {s : List Regex × List Regex} {stop : Nat}
    (parts : ShapeParts s code start stop) : Nat × Nat :=
  ((parts.before ++ parts.lead).length + 1,
    (parts.before ++ parts.lead).length + 1 + parts.name.length)

/-- A match of a shape is a quoted name with the surroundings that the shape demands. -/
theorem parts_of_matchesAt {s : List Regex × List Regex} (hs : s ∈ surroundings)
    (h : (concat (s.1 ++ specifier :: s.2)).MatchesAt code m) :
    ∃ parts : ShapeParts s code m.start m.stop, m.group? 1 = some parts.ends := by
  obtain ⟨before, piece, after, rfl, hstart, hstop, hmatches⟩ := h
  obtain ⟨lead, _, leadMarks, _, rfl, hmarks, hlead, hrest⟩ := matches_concat_append.mp hmatches
  obtain ⟨_, tail, _, tailMarks, rfl, rfl, hspecifier, htail⟩ := matches_concat_cons.mp hrest
  obtain ⟨q, name, q', hq, hq', hne, hplain, rfl, rfl⟩ := matches_specifier.mp hspecifier
  obtain rfl := hlead.marks_eq_nil (hasGroup_surroundings s hs).1
  obtain rfl := htail.marks_eq_nil (hasGroup_surroundings s hs).2
  refine ⟨⟨before, lead, name, tail, after, q, q', by simp, hstart, ?_, hq, hq', hne, hplain,
    by simpa using hlead, htail⟩, ?_⟩
  · rw [hstop]
    simp
    omega
  · rw [Match.group?, hmarks]
    rfl

/-- A quoted name with the surroundings that a shape demands is a match of the shape. -/
theorem ShapeParts.matchesAt {s : List Regex × List Regex} {stop : Nat}
    (parts : ShapeParts s code start stop) :
    ∃ m, (concat (s.1 ++ specifier :: s.2)).MatchesAt code m ∧ m.start = start := by
  obtain ⟨before, lead, name, tail, after, q, q', rfl, rfl, -, hq, hq', hne, hplain, hlead,
    htail⟩ := parts
  have hspecifier : specifier.Matches (before ++ lead) (q :: (name ++ [q'])) (tail ++ after) _ :=
    matches_specifier.mpr ⟨q, name, q', hq, hq', hne, hplain, rfl, rfl⟩
  have hrest := matches_concat_cons.mpr ⟨q :: (name ++ [q']), tail, _, [], rfl, rfl, hspecifier,
    htail⟩
  have hwhole := matches_concat_append.mpr ⟨lead, q :: (name ++ [q']) ++ tail, [], _, rfl, rfl,
    by simpa using hlead, hrest⟩
  exact ⟨⟨before.length, _, _⟩, ⟨before, _, after, by simp, rfl, rfl, hwhole⟩, rfl⟩

/-- The parts of a shape show that the name stands there. -/
theorem ShapeParts.namedIn {s : List Regex × List Regex} {stop : Nat} (hs : s ∈ surroundings)
    (parts : ShapeParts s code start stop) :
    NamedIn code (parts.before ++ parts.lead) parts.name :=
  ⟨s, hs, parts.before, parts.lead, parts.tail, parts.after, parts.opening, parts.closing, rfl,
    parts.text, parts.opening_quote, parts.closing_quote, parts.name_ne, parts.name_plain,
    parts.lead_matches, parts.tail_matches⟩

/-- Where a shape matches, a module name stands between quotes. -/
theorem namedIn_of_matchesAt {r : Regex} (hr : r ∈ shapes) (h : r.MatchesAt code m) :
    ∃ front name, NamedIn code front name ∧
      m.group? 1 = some (front.length + 1, front.length + 1 + name.length) := by
  rw [shapes_eq, List.mem_map] at hr
  obtain ⟨s, hs, rfl⟩ := hr
  obtain ⟨parts, hgroup⟩ := parts_of_matchesAt hs h
  exact ⟨_, _, parts.namedIn hs, hgroup⟩

/-- A name that stands in a source does so in the parts of some shape. -/
theorem NamedIn.exists_parts (h : NamedIn code front name) : ∃ s ∈ surroundings, ∃ start stop,
    ∃ parts : ShapeParts s code start stop,
      front = parts.before ++ parts.lead ∧ name = parts.name := by
  obtain ⟨s, hs, before, lead, tail, after, q, q', rfl, htext, hq, hq', hne, hplain, hlead,
    htail⟩ := h
  exact ⟨s, hs, _, _, ⟨before, lead, name, tail, after, q, q', htext, rfl, rfl, hq, hq', hne,
    hplain, hlead, htail⟩, rfl, rfl⟩

/-- Where a module name stands between quotes, a shape matches. -/
theorem NamedIn.exists_matchesAt (h : NamedIn code front name) :
    ∃ r ∈ shapes, ∃ m, r.MatchesAt code m := by
  obtain ⟨s, hs, _, _, parts, -⟩ := h.exists_parts
  obtain ⟨m, hm, -⟩ := parts.matchesAt
  exact ⟨concat (s.1 ++ specifier :: s.2), shapes_eq ▸ List.mem_map.mpr ⟨s, hs, rfl⟩, m, hm⟩

/-- Cutting out a name that stands between quotes. -/
theorem NamedIn.text (h : NamedIn code front name) :
    (code.drop (front.length + 1)).take name.length = name := by
  obtain ⟨_, -, _, _, _, _, q, _, -, rfl, -⟩ := h
  rw [← List.drop_drop, List.drop_left]
  exact List.take_left

/-! ## The names that are found -/

/-- Each module name that is found stands between quotes, where a shape fits. -/
theorem namedIn_of_mem_specifiers (h : (start, name) ∈ specifiers code) :
    ∃ front, NamedIn code front name ∧ start = front.length + 1 := by
  obtain ⟨p, hp, hm⟩ := List.mem_flatMap.mp h
  obtain ⟨m, hm, hgroup⟩ := List.mem_filterMap.mp hm
  obtain ⟨r, hr, rfl⟩ := List.mem_map.mp hp
  obtain ⟨front, found, hnamed, hends⟩ :=
    namedIn_of_matchesAt hr (finds_ofRegex.mp (findAll_finds hm))
  rw [hends, Option.map_some, Option.some.injEq, Prod.mk.injEq, Nat.add_sub_cancel_left,
    hnamed.text] at hgroup
  exact ⟨front, hgroup.2 ▸ hnamed, hgroup.1.symm⟩

/-- Where a shape fits somewhere, some module name is found. -/
theorem NamedIn.exists_mem_specifiers (h : NamedIn code front name) :
    ∃ start found, (start, found) ∈ specifiers code := by
  obtain ⟨r, hr, m, hm⟩ := h.exists_matchesAt
  obtain ⟨m', hm', -⟩ := exists_mem_findAll (finds_ofRegex.mpr hm)
  obtain ⟨front', name', hnamed, hends⟩ :=
    namedIn_of_matchesAt hr (finds_ofRegex.mp (findAll_finds hm'))
  have hprogram : ofRegex r ∈ programs := List.mem_map.mpr ⟨r, hr, rfl⟩
  refine ⟨front'.length + 1, name', List.mem_flatMap.mpr ⟨_, hprogram, ?_⟩⟩
  refine List.mem_filterMap.mpr ⟨m', hm', ?_⟩
  simp only [hends, Option.map_some, Nat.add_sub_cancel_left, hnamed.text]

/-- The packages are those of the module names that are found. -/
theorem mem_packages {package : String} : package ∈ packages code ↔ ∃ start name,
    (start, name) ∈ specifiers code ∧ (packageName name).map String.ofList = some package := by
  simp only [packages, List.mem_eraseDups, List.mem_map, List.mem_mergeSort, List.mem_filterMap,
    Option.map_eq_some_iff]
  constructor
  · rintro ⟨-, ⟨⟨start, name⟩, hmem, p, hp, rfl⟩, rfl⟩
    exact ⟨start, name, hmem, p, hp, rfl⟩
  · rintro ⟨start, name, hmem, p, hp, rfl⟩
    exact ⟨(start, String.ofList p), ⟨(start, name), hmem, p, hp, rfl⟩, rfl⟩

/-- A text without quotes imports nothing. -/
theorem packages_eq_nil_of_plain (h : ∀ c ∈ code, ¬ IsQuote c) : packages code = [] := by
  refine List.eq_nil_iff_forall_not_mem.mpr fun package hpackage => ?_
  obtain ⟨start, name, hmem, -⟩ := mem_packages.mp hpackage
  obtain ⟨front, ⟨s, -, before, lead, tail, after, q, q', -, htext, hq, -⟩, -⟩ :=
    namedIn_of_mem_specifiers hmem
  exact h q (by simp [htext]) hq

/-- The allowlist rule fails if a package is imported that is not allowed. -/
theorem check_isSome_iff {allowlist : List String} (rule : Rule) (cache : RegexCache) :
    (Policy.check code allowlist { rule with kind := .dependencyAllowlist } cache).1.isSome ↔
      ∃ package, package ∈ disallowed code allowlist := by
  cases hdisallowed : disallowed code allowlist with
  | nil => simp [Policy.check, Policy.checkImports, hdisallowed]
  | cons package packages => simp [Policy.check, Policy.checkImports, hdisallowed]

end ArtifactPipeline.Imports
