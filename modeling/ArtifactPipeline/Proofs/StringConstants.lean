import ArtifactPipeline.Proofs.ImportLeads
import ArtifactPipeline.Proofs.Trimming

/-!
# Texts that are no imports

In a source that consists of string constants the only names between quotes are the texts themselves
and what stands between two texts. A text is never taken for the name of a module, since an equals
sign stands before it. What follows a text is taken for one if the text ends like the beginning of
an import and another constant comes after it; so this is what tells whether such a source is seen
to import anything.
-/

namespace ArtifactPipeline.Imports

open Text Regex

/-- A line that gives a name to a text. -/
structure StringConstant where
  name : List Char
  text : List Char
  /-- How the line ends. -/
  ending : List Char
  name_plain : ∀ c ∈ name, ¬ IsQuote c ∧ c ≠ '/'
  text_plain : ∀ c ∈ text, ¬ IsQuote c ∧ c ≠ '/' ∧ c ≠ ';' ∧ c ≠ '('
  ending_blank : IsBlank ending

namespace StringConstant

/-- The line before its text. -/
def opening (line : StringConstant) : List Char :=
  ['c', 'o', 'n', 's', 't', ' '] ++ line.name ++ [' ', '=', ' ']

/-- The line after the quote that closes its text. -/
def closing (line : StringConstant) : List Char := ';' :: line.ending

/-- The line. -/
def source (line : StringConstant) : List Char :=
  line.opening ++ '\'' :: (line.text ++ '\'' :: line.closing)

end StringConstant

/-- The lines one after another. -/
def sourceOf (lines : List StringConstant) : List Char := lines.flatMap (·.source)

/-- The text ends like the beginning of an import, just before the name of a module. -/
def EndsLikeImport (text : List Char) : Prop :=
  ∃ before lead, text = before ++ lead ∧ ¬ EndsInWord before ∧ Introduces lead

variable {lines : List StringConstant} {line : StringConstant} {front back name : List Char}
  {q : Char}

/-- What stands before a text has neither quotes nor slashes. -/
theorem opening_plain : ∀ c ∈ line.opening, ¬ IsQuote c ∧ c ≠ '/' := by
  simp only [StringConstant.opening, List.forall_mem_append]
  exact ⟨⟨forall_mem_of_all (by decide), line.name_plain⟩, forall_mem_of_all (by decide)⟩

/-- What stands behind a text has neither quotes nor slashes. -/
theorem closing_plain : ∀ c ∈ line.closing, ¬ IsQuote c ∧ c ≠ '/' := by
  intro c hc
  rcases List.mem_cons.mp hc with rfl | hc
  · decide
  · have hclause := isClauseChar_of_isWhitespace (line.ending_blank c hc)
    exact ⟨hclause.1, hclause.2.2⟩

/-- The first constant is the first line, its text between quotes. -/
theorem sourceOf_cons (line : StringConstant) (lines : List StringConstant) :
    sourceOf (line :: lines) =
      line.opening ++ '\'' :: (line.text ++ '\'' :: (line.closing ++ sourceOf lines)) := by
  simp [sourceOf, StringConstant.source]

/-- Constants in two parts give the source of the parts one after another. -/
theorem sourceOf_append (earlier later : List StringConstant) :
    sourceOf (earlier ++ later) = sourceOf earlier ++ sourceOf later := List.flatMap_append

/-- A quote opens the text of a line or closes it. -/
theorem quote_in_source (h : sourceOf lines = front ++ q :: back) (hq : IsQuote q) :
    ∃ earlier line later, lines = earlier ++ line :: later ∧
      ((front = sourceOf earlier ++ line.opening ∧
          back = line.text ++ '\'' :: (line.closing ++ sourceOf later)) ∨
        (front = sourceOf earlier ++ (line.opening ++ '\'' :: line.text) ∧
          back = line.closing ++ sourceOf later)) := by
  exact quote_in_lines (fun line => rfl) (fun line c hc => (opening_plain c hc).1)
    (fun line c hc => (line.text_plain c hc).1) (fun line c hc => (closing_plain c hc).1) h hq

/-! ## Before a name -/

/-- There are no slashes in a source of such constants, so there are no comments. -/
theorem slash_not_mem_sourceOf : '/' ∉ sourceOf lines := by
  intro h
  obtain ⟨line, -, hline⟩ := List.mem_flatMap.mp h
  simp only [StringConstant.source, List.mem_append, List.mem_cons] at hline
  rcases hline with hopening | hquote | htext | hquote | hclosing
  · exact (opening_plain '/' hopening).2 rfl
  · cases hquote
  · exact (line.text_plain '/' htext).2.1 rfl
  · cases hquote
  · exact (closing_plain '/' hclosing).2 rfl

/-- What is taken for the name of a module stands between two texts, the first of which ends like
the beginning of an import. -/
theorem between_of_namedIn (h : NamedIn (sourceOf lines) front name) :
    ∃ earlier line next later, lines = earlier ++ line :: next :: later ∧
      EndsLikeImport line.text ∧ name = line.closing ++ next.opening := by
  obtain ⟨s, hs, before, lead, tail, after, q, q', hfront, hcode, hq, hq', -, hplain, hlead, -⟩ := h
  have hnone : '/' ∉ sourceOf lines := slash_not_mem_sourceOf
  have hslash : '/' ∉ lead := fun hmem => hnone (by simp [hcode, hfront, hmem])
  obtain ⟨hintroduces, hbefore⟩ := introduces_of_surroundings hs hlead hslash
  obtain ⟨earlier, line, later, rfl, ⟨hplace, hback⟩ | ⟨hplace, hback⟩⟩ := quote_in_source hcode hq
  · -- An equals sign stands before a text.
    obtain ⟨start, c, blank, rfl, hblank, hc⟩ := hintroduces.last
    have hends : (before ++ start) ++ c :: blank =
        (sourceOf earlier ++ (['c', 'o', 'n', 's', 't', ' '] ++ line.name ++ [' '])) ++ '=' :: [' ']
        := by
      simpa [StringConstant.opening] using hfront.symm.trans hplace
    have hspace : isWhitespace c = false := by rcases hc with rfl | rfl | rfl <;> decide
    have heq := last_before_blank hends hblank (by decide) hspace (by decide)
    rcases hc with rfl | rfl | rfl <;> cases heq
  · rw [← List.append_assoc, hfront] at hplace
    obtain ⟨start, rfl, htext⟩ := suffix_of_text hplace hintroduces.plain
    rw [endsInWord_after_quote] at hbefore
    have hclosing : ∀ c ∈ line.closing, ¬ IsQuote c := fun c hc => (closing_plain c hc).1
    obtain ⟨inLater, rfl, hinLater⟩ := split_behind hback.symm hclosing hq'
    cases later with
    | nil => simp [sourceOf] at hinLater
    | cons next later =>
      refine ⟨earlier, line, next, later, rfl, ⟨start, lead, htext, hbefore, hintroduces⟩, ?_⟩
      have hopening : ∀ c ∈ next.opening, ¬ IsQuote c := fun c hc => (opening_plain c hc).1
      rw [sourceOf_cons] at hinLater
      rcases split_at_quote hinLater hopening hq' with ⟨rfl, -⟩ | ⟨more, rfl, -⟩
      · rfl
      · exact absurd (Or.inl rfl) (hplain '\'' (by simp))

/-- What stands after a text that ends like the beginning of an import is taken for the name of a
module, if another text comes next. -/
theorem namedIn_between (earlier : List StringConstant) (next : StringConstant)
    (later : List StringConstant) (h : EndsLikeImport line.text) :
    ∃ front, NamedIn (sourceOf (earlier ++ line :: next :: later)) front
      (line.closing ++ next.opening) := by
  obtain ⟨start, lead, htext, hstart, hintroduces⟩ := h
  have hbefore : ¬ EndsInWord (sourceOf earlier ++ line.opening ++ '\'' :: start) := by
    rwa [endsInWord_after_quote]
  have hleads (after : List Char) :
      Leads (sourceOf earlier ++ line.opening ++ '\'' :: start) lead after := by
    cases hintroduces with
    | taking hword hne hgap hmiddle hends hblank =>
      exact leads_of_taking hbefore hword hne hgap hmiddle hends hblank
    | bare hblank => exact leads_of_bare hbefore hblank
    | call =>
      have hparen : '(' ∈ line.text := by simp [htext]
      exact absurd rfl (line.text_plain '(' hparen).2.2.2
  have hplain : ∀ c ∈ line.closing ++ next.opening, ¬ IsQuote c := List.forall_mem_append.mpr
    ⟨fun c hc => (closing_plain c hc).1, fun c hc => (opening_plain c hc).1⟩
  have hsource : sourceOf (earlier ++ line :: next :: later) =
      (sourceOf earlier ++ line.opening ++ '\'' :: start) ++ lead ++ '\'' ::
        ((line.closing ++ next.opening) ++ '\'' :: (next.text ++ '\'' :: (next.closing ++
          sourceOf later))) := by
    simp [sourceOf_append, sourceOf_cons, htext]
  rw [hsource]
  exact ⟨_, (hleads _).namedIn (Or.inl rfl) (Or.inl rfl) (by simp [StringConstant.closing]) hplain⟩

/-! ## The packages of a source -/

/-- What stands between two texts is the name of some package. -/
theorem packageName_between (line next : StringConstant) :
    ∃ package, packageName (line.closing ++ next.opening) = some package := by
  obtain ⟨more, htrim⟩ :=
    trim_cons (show isWhitespace ';' = false by decide) (line.ending ++ next.opening)
  have hlocal : isLocal (';' :: more) = false := by simp [isLocal, localStarts, List.isPrefixOf]
  have hname : trim (line.closing ++ next.opening) = ';' :: more := htrim
  rw [packageName, hname]
  simp only [hlocal, Bool.false_eq_true, if_false]
  exact ⟨_, rfl⟩

/-- An item is followed by another one exactly if it is among all but the last. -/
theorem mem_dropLast_iff {α : Type} {items : List α} {item : α} :
    item ∈ items.dropLast ↔ ∃ earlier next later, items = earlier ++ item :: next :: later := by
  constructor
  · intro h
    obtain rfl | ⟨front, last, rfl⟩ := List.eq_nil_or_concat items
    · cases h
    · rw [List.concat_eq_append, List.dropLast_concat] at h
      obtain ⟨earlier, later, rfl⟩ := List.mem_iff_append.mp h
      obtain _ | ⟨next, later⟩ := later
      · exact ⟨earlier, last, [], by simp⟩
      · exact ⟨earlier, next, later ++ [last], by simp⟩
  · rintro ⟨earlier, next, later, rfl⟩
    rw [List.dropLast_append_of_ne_nil (by simp)]
    simp

/-- A source of string constants is seen to import nothing exactly if no text before the last one
ends like the beginning of an import. -/
theorem packages_sourceOf_eq_nil :
    packages (sourceOf lines) = [] ↔ ∀ line ∈ lines.dropLast, ¬ EndsLikeImport line.text := by
  rw [List.eq_nil_iff_forall_not_mem]
  constructor
  · intro hnone line hline hends
    obtain ⟨earlier, next, later, rfl⟩ := mem_dropLast_iff.mp hline
    obtain ⟨front, hnamed⟩ := namedIn_between earlier next later hends
    obtain ⟨start, found, hmem⟩ := hnamed.exists_mem_specifiers
    obtain ⟨front', hfound, -⟩ := namedIn_of_mem_specifiers hmem
    obtain ⟨_, line', next', _, -, -, rfl⟩ := between_of_namedIn hfound
    obtain ⟨package, hpackage⟩ := packageName_between line' next'
    exact hnone (String.ofList package) (mem_packages.mpr ⟨start, _, hmem, by rw [hpackage]; rfl⟩)
  · intro hends package hpackage
    obtain ⟨start, name, hmem, -⟩ := mem_packages.mp hpackage
    obtain ⟨front, hnamed, -⟩ := namedIn_of_mem_specifiers hmem
    obtain ⟨earlier, line, next, later, rfl, hline, -⟩ := between_of_namedIn hnamed
    exact hends line (mem_dropLast_iff.mpr ⟨earlier, next, later, rfl⟩) hline

/-- Two constants. The text of the first one is a keyword. -/
def keywordFirst : List StringConstant :=
  [{ name := ['a']
     text := ['i', 'm', 'p', 'o', 'r', 't']
     ending := ['\n']
     name_plain := forall_mem_of_all (by decide)
     text_plain := forall_mem_of_all (by decide)
     ending_blank := by decide },
   { name := ['b']
     text := ['x']
     ending := ['\n']
     name_plain := forall_mem_of_all (by decide)
     text_plain := forall_mem_of_all (by decide)
     ending_blank := by decide }]

/-- A keyword in a text is taken for the beginning of an import. -/
theorem packages_keywordFirst :
    sourceOf keywordFirst = "const a = 'import';\nconst b = 'x';\n".toList ∧
      packages (sourceOf keywordFirst) ≠ [] := by
  refine ⟨by decide, fun hnil => ?_⟩
  have hends : EndsLikeImport ['i', 'm', 'p', 'o', 'r', 't'] :=
    ⟨[], _, rfl, by simp [EndsInWord], .bare (by decide : IsBlank [])⟩
  exact packages_sourceOf_eq_nil.mp hnil _ (List.mem_cons_self ..) hends

/-- String constants are not imports, and the allowlist rule passes for every allowlist, exactly if
no text before the last one ends like the beginning of an import. -/
theorem imports_nothing_iff (lines : List StringConstant) (rule : Rule) (cache : RegexCache) :
    (packages (sourceOf lines) = [] ↔ ∀ line ∈ lines.dropLast, ¬ EndsLikeImport line.text) ∧
    ((∀ allowlist, (Policy.check (sourceOf lines) allowlist
        { rule with kind := .dependencyAllowlist } cache).1 = none) ↔
      ∀ line ∈ lines.dropLast, ¬ EndsLikeImport line.text) := by
  refine ⟨packages_sourceOf_eq_nil, ?_⟩
  rw [← packages_sourceOf_eq_nil]
  constructor
  · intro hpasses
    have hnone : ¬ ∃ package, package ∈ disallowed (sourceOf lines) [] := by
      rw [← check_isSome_iff rule cache, hpasses []]
      simp
    rw [List.eq_nil_iff_forall_not_mem]
    exact fun package hpackage => hnone ⟨package, by simpa [disallowed] using hpackage⟩
  · intro hnil allowlist
    rw [← Option.not_isSome_iff_eq_none, check_isSome_iff]
    simp [disallowed, hnil]

end ArtifactPipeline.Imports
