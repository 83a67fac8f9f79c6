import ArtifactPipeline.Proofs.ImportLeads
import Mathlib.Data.List.Chain

/-!
# The white space of an import

A statement that takes names from a module may have white space after its keyword and around its
`from`. The module is found however much there is, except that the keyword must be followed by some:
without it the statement has no shape that is looked for, and the allowlist does not see the
package.
-/

namespace ArtifactPipeline.Imports

open Text Regex

/-- A statement that takes names from a module, with the white space in it. -/
structure TakingImport where
  names : List (List Char)
  /-- The name of the module, as it is quoted. -/
  path : List Char
  /-- The white space after the keyword. -/
  afterImport : List Char
  /-- The white space before `from`. -/
  beforeFrom : List Char
  /-- The white space after `from`. -/
  afterFrom : List Char
  names_plain : ∀ name ∈ names, ∀ c ∈ name, IsClauseChar c ∧ isWhitespace c = false
  path_plain : ∀ c ∈ path, ¬ IsQuote c
  afterImport_blank : IsBlank afterImport
  beforeFrom_blank : IsBlank beforeFrom
  afterFrom_blank : IsBlank afterFrom

namespace TakingImport

variable (t : TakingImport) {front name : List Char}

/-- The names in braces. -/
def braced : List Char := ['{'] ++ [','].intercalate t.names ++ ['}']

/-- The statement before the quoted name of the module. -/
def lead : List Char :=
  ['i', 'm', 'p', 'o', 'r', 't'] ++ (t.afterImport ++ ((t.braced ++ t.beforeFrom) ++
    (['f', 'r', 'o', 'm'] ++ t.afterFrom)))

/-- The text of the statement. -/
def source : List Char := t.lead ++ '\'' :: (t.path ++ ['\'', ';'])

/-- What is written between the braces is a comma or part of a name. -/
theorem mem_separated {names : List (List Char)} {c : Char} (h : c ∈ [','].intercalate names) :
    c = ',' ∨ ∃ name ∈ names, c ∈ name := by
  induction names with
  | nil => cases h
  | cons name names ih =>
    cases names with
    | nil => exact Or.inr ⟨name, by simp, by simpa [List.intercalate] using h⟩
    | cons other names =>
      have hsplit : c ∈ name ∨ c = ',' ∨ c ∈ [','].intercalate (other :: names) := by
        simpa [List.intercalate] using h
      rcases hsplit with hname | hcomma | hrest
      · exact Or.inr ⟨name, by simp, hname⟩
      · exact Or.inl hcomma
      · exact (ih hrest).imp id fun ⟨found, hfound, hc⟩ => ⟨found, by simp [hfound], hc⟩

/-- What is taken, with its braces, may stand in a clause and has no white space. -/
theorem braced_plain : ∀ c ∈ t.braced, IsClauseChar c ∧ isWhitespace c = false := by
  intro c hc
  simp only [braced, List.mem_append, List.mem_singleton] at hc
  rcases hc with (rfl | hjoined) | rfl
  · decide
  · rcases mem_separated hjoined with rfl | ⟨name, hname, hc⟩
    · decide
    · exact t.names_plain name hname c hc
  · decide

/-- Everything before the quote may stand in a clause. -/
theorem lead_plain : ∀ c ∈ t.lead, IsClauseChar c := by
  have hblank {text : List Char} (h : IsBlank text) : ∀ c ∈ text, IsClauseChar c :=
    fun c hc => isClauseChar_of_isWhitespace (h c hc)
  have himport : ∀ c ∈ ['i', 'm', 'p', 'o', 'r', 't'], IsClauseChar c :=
    forall_mem_of_all (by decide)
  have hfrom : ∀ c ∈ ['f', 'r', 'o', 'm'], IsClauseChar c := forall_mem_of_all (by decide)
  simp only [lead, List.forall_mem_append]
  exact ⟨himport, hblank t.afterImport_blank,
    ⟨fun c hc => (t.braced_plain c hc).1, hblank t.beforeFrom_blank⟩, hfrom,
    hblank t.afterFrom_blank⟩

/-- The only quotes are those around the name of the module. -/
theorem eq_of_namedIn (h : NamedIn t.source front name) : front = t.lead ∧ name = t.path := by
  obtain ⟨s, -, before, lead, tail, after, q, q', -, hcode, hq, hq', -, hplain, -, -⟩ := h
  have hlead : ∀ c ∈ t.lead, ¬ IsQuote c := fun c hc => (t.lead_plain c hc).1
  rcases split_at_quote hcode hlead hq with ⟨hfront, hback⟩ | ⟨more, -, hrest⟩
  · rcases split_at_quote hback hplain (Or.inl rfl) with ⟨hname, -⟩ | ⟨more, hname, -⟩
    · exact ⟨hfront, hname.symm⟩
    · have hquote : q' ∈ t.path := by simp [hname]
      exact absurd hq' (t.path_plain q' hquote)
  · -- A later quote is the closing one, and no quote comes after that.
    rcases split_at_quote hrest t.path_plain hq with ⟨-, hback⟩ | ⟨more', -, hrest'⟩
    · have hmem : q' ∈ [';'] := hback ▸ by simp
      exact absurd hq' (List.mem_singleton.mp hmem ▸ by decide)
    · have hmem : q ∈ [';'] := hrest' ▸ by simp
      exact absurd hq (List.mem_singleton.mp hmem ▸ by decide)

/-- The statement before the name of the module is what a shape demands there, if there is white
space after the keyword. -/
theorem namedIn (hgap : t.afterImport ≠ []) (hpath : t.path ≠ []) :
    NamedIn t.source t.lead t.path := by
  have hmiddle : ∀ c ∈ t.braced ++ t.beforeFrom, IsClauseChar c := fun c hc =>
    (List.mem_append.mp hc).elim (fun hc => (t.braced_plain c hc).1)
      fun hc => isClauseChar_of_isWhitespace (t.beforeFrom_blank c hc)
  have hends : ¬ EndsInWord (t.afterImport ++ (t.braced ++ t.beforeFrom)) := by
    rw [endsInWord_append _ (by simp [braced])]
    have hbraced : ¬ EndsInWord t.braced := by
      rw [EndsInWord, braced, List.getLast?_concat]
      decide
    exact endsInWord_blank t.beforeFrom_blank hbraced
  have hleads : Leads [] t.lead ('\'' :: (t.path ++ '\'' :: [';'])) :=
    leads_of_taking (by simp [EndsInWord]) (Or.inl rfl) hgap t.afterImport_blank hmiddle hends
      t.afterFrom_blank
  have hnamed := hleads.namedIn (Or.inl rfl) (Or.inl rfl) hpath t.path_plain
  exact hnamed

/-- In the statement before the name of the module no `t` stands before white space, unless it is
that of the keyword. -/
theorem isChain_lead (hgap : t.afterImport = []) :
    t.lead.IsChain fun c d => c = 't' → isWhitespace d = false := by
  have hplain {text : List Char} (h : ∀ c ∈ text, isWhitespace c = false) :
      text.IsChain fun c d => c = 't' → isWhitespace d = false := by
    have hpairs : text.Pairwise fun c d => c = 't' → isWhitespace d = false :=
      List.pairwise_of_forall_mem_list fun _ _ d hd _ => h d hd
    exact hpairs.isChain
  have hblank {text : List Char} (h : IsBlank text) :
      text.IsChain fun c d => c = 't' → isWhitespace d = false := by
    have hpairs : text.Pairwise fun c d => c = 't' → isWhitespace d = false :=
      List.pairwise_of_forall_mem_list fun c hc _ _ ht =>
        absurd (ht ▸ h c hc) (by decide)
    exact hpairs.isChain
  have hfrom : (['f', 'r', 'o', 'm'] ++ t.afterFrom).IsChain
      fun c d => c = 't' → isWhitespace d = false :=
    List.isChain_append.mpr ⟨hplain (forall_mem_of_all (by decide)), hblank t.afterFrom_blank,
      by simp⟩
  have hrest : (t.beforeFrom ++ (['f', 'r', 'o', 'm'] ++ t.afterFrom)).IsChain
      fun c d => c = 't' → isWhitespace d = false := by
    refine List.isChain_append.mpr ⟨hblank t.beforeFrom_blank, hfrom, fun c _ d hd _ => ?_⟩
    obtain rfl : 'f' = d := by simpa using hd
    decide
  have hbraced : (t.braced ++ (t.beforeFrom ++ (['f', 'r', 'o', 'm'] ++ t.afterFrom))).IsChain
      fun c d => c = 't' → isWhitespace d = false := by
    refine List.isChain_append.mpr ⟨hplain fun c hc => (t.braced_plain c hc).2, hrest,
      fun c hc d _ ht => ?_⟩
    rw [braced, List.getLast?_concat] at hc
    cases hc
    cases ht
  rw [lead, hgap, List.nil_append, List.append_assoc]
  refine List.isChain_append.mpr ⟨hplain (forall_mem_of_all (by decide)), hbraced,
    fun c _ d hd _ => ?_⟩
  obtain rfl : '{' = d := by simpa [braced] using hd
  decide

/-- A shape fits only if there is white space after the keyword. -/
theorem afterImport_ne_nil (h : NamedIn t.source front name) : t.afterImport ≠ [] := by
  intro hgap
  obtain ⟨rfl, -⟩ := t.eq_of_namedIn h
  obtain ⟨s, hs, before, lead, _, _, _, _, hfront, -, -, -, -, -, hlead, -⟩ := h
  have hslash : '/' ∉ lead := fun hmem =>
    (t.lead_plain '/' (by simp [hfront, hmem])).2.2 rfl
  have hlast : t.lead = (['i', 'm', 'p', 'o', 'r', 't'] ++ (t.afterImport ++ ((t.braced ++
      t.beforeFrom) ++ ['f', 'r', 'o']))) ++ 'm' :: t.afterFrom := by simp [TakingImport.lead]
  -- The last character before the white space in front of the quote is that of `from`.
  have hend (front : List Char) {blank : List Char} {c : Char} (hblank : IsBlank blank)
      (hc : isWhitespace c = false) (h : t.lead = front ++ c :: blank) : c = 'm' :=
    last_before_blank (h.symm.trans hlast) hblank t.afterFrom_blank hc (by decide)
  obtain ⟨hintroduces, -⟩ := introduces_of_surroundings hs hlead hslash
  cases hintroduces with
  | @taking word gap middle blank hword hne hblank _ _ _ =>
    obtain ⟨start, rfl⟩ : ∃ start, word = start ++ ['t'] := by
      rcases hword with rfl | rfl
      · exact ⟨['i', 'm', 'p', 'o', 'r'], rfl⟩
      · exact ⟨['e', 'x', 'p', 'o', 'r'], rfl⟩
    obtain ⟨c, gap, rfl⟩ := List.exists_cons_of_ne_nil hne
    have hchain := t.isChain_lead hgap
    rw [hfront, List.append_assoc, ← List.append_assoc] at hchain
    have hspace := (List.isChain_cons_cons.mp (List.isChain_append.mp hchain).2.1).1 rfl
    rw [hblank c (by simp)] at hspace
    cases hspace
  | @bare blank hblank =>
    have hm : 't' = 'm' := hend (before ++ ['i', 'm', 'p', 'o', 'r']) hblank (by decide)
      (by simpa using hfront)
    cases hm
  | @call word gap blank _ _ hblank =>
    have hm : '(' = 'm' := hend (before ++ (word ++ gap)) hblank (by decide)
      (by simpa using hfront)
    cases hm

/-- The packages of the statement: that of its module, if there is white space after the
keyword. -/
theorem mem_packages_source {package : String} : package ∈ packages t.source ↔
    t.afterImport ≠ [] ∧ (packageName t.path).map String.ofList = some package := by
  rw [mem_packages]
  constructor
  · rintro ⟨start, name, hmem, hname⟩
    obtain ⟨front, hnamed, -⟩ := namedIn_of_mem_specifiers hmem
    obtain ⟨-, rfl⟩ := t.eq_of_namedIn hnamed
    exact ⟨t.afterImport_ne_nil hnamed, hname⟩
  · rintro ⟨hgap, hpackage⟩
    have hpath : t.path ≠ [] := by
      intro hnil
      rw [hnil] at hpackage
      cases hpackage
    obtain ⟨start, found, hmem⟩ := (t.namedIn hgap hpath).exists_mem_specifiers
    obtain ⟨front, hnamed, -⟩ := namedIn_of_mem_specifiers hmem
    obtain ⟨-, rfl⟩ := t.eq_of_namedIn hnamed
    exact ⟨start, t.path, hmem, hpackage⟩

/-- An import without white space after its keyword. -/
def packed : TakingImport where
  names := [['p', 'a', 'd']]
  path := ['l', 'e', 'f', 't', '-', 'p', 'a', 'd']
  afterImport := []
  beforeFrom := []
  afterFrom := [' ']
  names_plain := List.forall_mem_singleton.mpr (forall_mem_of_all (by decide))
  path_plain := forall_mem_of_all (by decide)
  afterImport_blank := by decide
  beforeFrom_blank := by decide
  afterFrom_blank := by decide

/-- The allowlist does not see the package of an import without white space after its keyword. -/
theorem disallowed_packed :
    packed.source = "import{pad}from 'left-pad';".toList ∧
      packageName packed.path = some "left-pad".toList ∧
      disallowed packed.source ["react"] = [] := by
  refine ⟨by decide, by decide, List.eq_nil_iff_forall_not_mem.mpr fun package hmem => ?_⟩
  have hpackage := packed.mem_packages_source.mp (List.mem_filter.mp hmem).1
  exact hpackage.1 rfl

/-- The package of the module is reported, and the allowlist rule fails, exactly if the package is
not allowed and there is white space after the keyword. -/
theorem disallowed_iff_spaced (allowlist : List String) (rule : Rule) (cache : RegexCache) :
    (∀ package, package ∈ disallowed t.source allowlist ↔ t.afterImport ≠ [] ∧
      (packageName t.path).map String.ofList = some package ∧ package ∉ allowlist) ∧
    ((Policy.check t.source allowlist { rule with kind := .dependencyAllowlist } cache).1.isSome ↔
      t.afterImport ≠ [] ∧ ∃ package, (packageName t.path).map String.ofList = some package ∧
        package ∉ allowlist) := by
  have hmem (package : String) : package ∈ disallowed t.source allowlist ↔ t.afterImport ≠ [] ∧
      (packageName t.path).map String.ofList = some package ∧ package ∉ allowlist := by
    rw [disallowed, List.mem_filter, t.mem_packages_source]
    simp [and_assoc]
  refine ⟨hmem, ?_⟩
  rw [check_isSome_iff]
  simp [hmem]

end TakingImport

end ArtifactPipeline.Imports
