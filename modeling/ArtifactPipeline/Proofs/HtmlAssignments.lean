import ArtifactPipeline.Proofs.ImportLeads
import ArtifactPipeline.Proofs.StandardPolicy

/-!
# Assignments to the inner HTML of an element

The rule against the injection of HTML looks for the name of the property, white space and an equals
sign. A compound assignment has other characters before its equals sign, so the rule does not see
it: it fails on such a component only for what stands before or behind the assignment.
-/

namespace ArtifactPipeline.StandardPolicy

open Text Regex Imports

/-! ## Pieces of a text in two parts -/

section Pieces

variable {x front back middle : List Char} {c : Char}

/-- A piece without the characters of a separator lies on one side of it. -/
theorem infix_of_separated (hne : middle ≠ []) (hmiddle : ∀ c ∈ middle, c ∉ x)
    (h : x <:+: front ++ (middle ++ back)) : x <:+: front ∨ x <:+: back := by
  have hshared : ∀ {y : List Char}, y ≠ [] → y ⊆ x → ¬ y ⊆ middle := by
    intro y hy hx hsub
    obtain ⟨c, hc⟩ := List.exists_mem_of_ne_nil y hy
    exact hmiddle c (hsub hc) (hx hc)
  rcases List.infix_append_iff_ne_nil.mp h with hfront | hlater | ⟨_, y, -, hy, rfl, -, hstarts⟩
  · exact .inl hfront
  · rcases List.infix_append_iff_ne_nil.mp hlater with hmid | hback | ⟨y, _, hy, -, rfl, hsuffix, -⟩
    · by_cases hx : x = []
      · exact .inl (hx ▸ List.nil_infix)
      · exact absurd hmid.subset (hshared hx (List.Subset.refl _))
    · exact .inr hback
    · exact absurd hsuffix.subset (hshared hy (List.subset_append_left ..))
  · obtain ⟨c, rest, rfl⟩ := List.exists_cons_of_ne_nil hne
    obtain ⟨d, y, rfl⟩ := List.exists_cons_of_ne_nil hy
    obtain rfl : d = c := (List.cons_prefix_cons.mp hstarts).1
    exact absurd (by simp) (hmiddle d (by simp))

/-- A piece lies within a text if its last character is not behind the text. -/
theorem infix_of_last (hc : c ∉ back) (h : x ++ [c] <:+: front ++ back) : x ++ [c] <:+: front := by
  rcases List.infix_append_iff_ne_nil.mp h with hfront | hback | ⟨_, y, -, hy, hsplit, -, hstarts⟩
  · exact hfront
  · exact absurd (hback.subset (by simp)) hc
  · have hlast : (x ++ [c]).getLast? = y.getLast? := by
      rw [hsplit, List.getLast?_append_of_ne_nil _ hy]
    rw [List.getLast?_concat] at hlast
    exact absurd (hstarts.subset (List.mem_of_getLast? hlast.symm)) hc

end Pieces

/-! ## What the rule looks for -/

/-- The name of the property with its dot. -/
def innerHtml : List Char := ['.', 'i', 'n', 'n', 'e', 'r', 'H', 'T', 'M', 'L']

/-- The name of the attribute that has the same effect. -/
def dangerousHtml : List Char :=
  ['d', 'a', 'n', 'g', 'e', 'r', 'o', 'u', 's', 'l', 'y', 'S', 'e', 't', 'I', 'n', 'n', 'e', 'r',
    'H', 'T', 'M', 'L']

/-- The text has the property with nothing but white space between it and an equals sign, or it has
the attribute. -/
def InjectsHtml (text : List Char) : Prop :=
  (∃ blank, IsBlank blank ∧ innerHtml ++ (blank ++ ['=']) <:+: text) ∨ dangerousHtml <:+: text

/-- The operators that assign to a property: the plain one, the one that appends, and those that
assign under a condition. -/
inductive Assignment where
  | plain
  | append
  | or
  | and
  | coalesce
  deriving DecidableEq

namespace Assignment

/-- What stands before the equals sign. -/
def sign : Assignment → List Char
  | plain => []
  | append => ['+']
  | or => ['|', '|']
  | and => ['&', '&']
  | coalesce => ['?', '?']

/-- How an operator is written. -/
def text (op : Assignment) : List Char := op.sign ++ ['=']

end Assignment

/-- A component that assigns to the property between two texts. -/
def assigning (pre w : List Char) (op : Assignment) (post : List Char) : List Char :=
  pre ++ (innerHtml ++ (w ++ (op.text ++ post)))

section Assigning

variable {w pre post code : List Char} {op : Assignment} {cache : RegexCache}

/-- The expression of the rule occurs in the texts that inject HTML. -/
theorem htmlInjection_occursIn : htmlInjection.OccursIn code ↔ InjectsHtml code := by
  constructor
  · rintro ⟨before, piece, after, htext, hreads⟩
    have hwithin : piece <:+: code := ⟨before, after, by rw [htext, List.append_assoc]⟩
    rcases reads_alt.mp hreads with hassigns | hattribute
    · obtain ⟨first, _, rfl, hfirst, hrest⟩ := reads_concat_cons.mp hassigns
      obtain ⟨blank, last, rfl, ⟨marks, hblank⟩, hlast⟩ := reads_concat_cons.mp hrest
      rw [reads_chars.mp hfirst, reads_chars.mp hlast] at hwithin
      exact .inl ⟨blank, (matches_blanks.mp hblank).1, hwithin⟩
    · rw [reads_chars.mp hattribute] at hwithin
      exact .inr hwithin
  · rintro (⟨blank, hblank, before, after, htext⟩ | ⟨before, after, htext⟩)
    · refine ⟨before, _, after, (List.append_assoc .. ▸ htext).symm, reads_alt.mpr (.inl ?_)⟩
      refine reads_concat_cons.mpr ⟨_, _, rfl, reads_chars.mpr rfl, ?_⟩
      exact reads_concat_cons.mpr ⟨_, _, rfl, ⟨[], matches_blanks.mpr ⟨hblank, rfl⟩⟩,
        reads_chars.mpr rfl⟩
    · refine ⟨before, _, after, (List.append_assoc .. ▸ htext).symm, reads_alt.mpr (.inr ?_)⟩
      exact reads_chars.mpr rfl

/-- What injects markup within a text does so in the text. -/
theorem InjectsHtml.mono {text : List Char} (h : InjectsHtml text) (hwithin : text <:+: code) :
    InjectsHtml code := by
  rcases h with ⟨blank, hblank, hassigns⟩ | hattribute
  · exact .inl ⟨blank, hblank, hassigns.trans hwithin⟩
  · exact .inr (hattribute.trans hwithin)

/-- Without a capital H there is no name of the property. -/
theorem not_injectsHtml_of_not_mem (h : 'H' ∉ code) : ¬ InjectsHtml code := by
  rintro (⟨blank, -, hassigns⟩ | hattribute)
  · have hletter : 'H' ∈ innerHtml := by decide
    exact h (hassigns.subset (List.mem_append_left _ hletter))
  · have hletter : 'H' ∈ dangerousHtml := by decide
    exact h (hattribute.subset hletter)

/-- What stands before the equals sign of a compound operator is neither white space nor in the
name of the property or of the attribute. -/
theorem Assignment.sign_apart (op : Assignment) : ∀ c ∈ op.sign,
    isWhitespace c = false ∧ c ≠ '=' ∧ c ∉ innerHtml ∧ c ∉ dangerousHtml := by
  cases op <;> exact forall_mem_of_all (by decide)

/-- The assignment of a compound operator is not what the rule looks for. -/
theorem injectsHtml_around (hw : IsBlank w) (hop : op.sign ≠ []) :
    InjectsHtml (assigning pre w op post) ↔ InjectsHtml pre ∨ InjectsHtml post := by
  have hparts : assigning pre w op post =
      (pre ++ (innerHtml ++ w)) ++ (op.sign ++ ('=' :: post)) := by
    simp [assigning, Assignment.text]
  have hequals : '=' ∉ innerHtml ++ w := by
    intro hmem
    rcases List.mem_append.mp hmem with hname | hblank
    · exact absurd hname (by decide)
    · exact absurd (hw _ hblank) (by decide)
  constructor
  · rintro (⟨blank, hblank, hassigns⟩ | hattribute)
    · -- The piece ends in the first equals sign behind the property, so it has no operator sign.
      have hapart : ∀ c ∈ op.sign, c ∉ innerHtml ++ (blank ++ ['=']) := by
        intro c hc hmem
        obtain ⟨hspace, hother, hname, -⟩ := op.sign_apart c hc
        simp only [List.mem_append, List.mem_singleton] at hmem
        rcases hmem with hmem | hmem | hmem
        · exact hname hmem
        · rw [hblank c hmem] at hspace
          cases hspace
        · exact hother hmem
      rw [hparts] at hassigns
      rcases infix_of_separated hop hapart hassigns with hfront | hback
      · rw [← List.append_assoc] at hfront
        have hpre := infix_of_last hequals hfront
        rw [List.append_assoc] at hpre
        exact .inl (.inl ⟨blank, hblank, hpre⟩)
      · rcases List.infix_cons_iff.mp hback with hstarts | hpost
        · obtain ⟨rest, hrest⟩ := hstarts
          cases hrest
        · exact .inr (.inl ⟨blank, hblank, hpost⟩)
    · -- The attribute has neither the dot of the property nor a character of the operator.
      have hapart : ∀ c ∈ op.text, c ∉ dangerousHtml := by
        intro c hc
        rcases List.mem_append.mp hc with hsign | hequal
        · exact (op.sign_apart c hsign).2.2.2
        · rw [List.mem_singleton.mp hequal]
          decide
      have htext : assigning pre w op post = (pre ++ (innerHtml ++ w)) ++ (op.text ++ post) := by
        simp [assigning]
      rw [htext] at hattribute
      rcases infix_of_separated (by simp [Assignment.text]) hapart hattribute with hfront | hback
      · have hdot : innerHtml ++ w = ['.'] ++ (innerHtml.tail ++ w) := rfl
        have hother : ∀ c ∈ ['.'], c ∉ dangerousHtml := forall_mem_of_all (by decide)
        rw [hdot] at hfront
        rcases infix_of_separated (by simp) hother hfront with hpre | hname
        · exact .inl (.inr hpre)
        · have hmem : 'd' ∈ innerHtml.tail ++ w := hname.subset (by decide)
          rcases List.mem_append.mp hmem with hletter | hblank
          · exact absurd hletter (by decide)
          · exact absurd (hw _ hblank) (by decide)
      · exact .inr (.inr hback)
  · rintro (hpre | hpost)
    · exact hpre.mono (List.prefix_append ..).isInfix
    · refine hpost.mono ⟨pre ++ (innerHtml ++ (w ++ op.text)), [], ?_⟩
      simp [assigning]

/-- The rule sees a plain assignment and no other one. -/
theorem injectsHtml_assigning (hw : IsBlank w) : InjectsHtml (assigning pre w op post) ↔
    op = .plain ∨ InjectsHtml pre ∨ InjectsHtml post := by
  by_cases hop : op = .plain
  · subst hop
    have hplain : InjectsHtml (assigning pre w .plain post) :=
      .inl ⟨w, hw, pre, post, by simp [assigning, Assignment.text, Assignment.sign]⟩
    simp [hplain]
  · have hsign : op.sign ≠ [] := by
      cases op <;> simp_all [Assignment.sign]
    rw [injectsHtml_around hw hsign]
    simp [hop]

/-- A compound assignment amid text without a letter that both names have does not inject HTML. -/
theorem not_injectsHtml_assigning (hw : IsBlank w) (hop : op ≠ .plain) (hpre : 'H' ∉ pre)
    (hpost : 'H' ∉ post) : ¬ InjectsHtml (assigning pre w op post) := by
  rw [injectsHtml_assigning hw]
  rintro (hplain | hbefore | hbehind)
  · exact hop hplain
  · exact not_injectsHtml_of_not_mem hpre hbefore
  · exact not_injectsHtml_of_not_mem hpost hbehind

/-! ## The verdict on an assignment -/

/-- The rule against the injection of HTML. -/
theorem htmlRule_mem : ∃ rule ∈ (defaultRules 0).tail, rule.name = "no_inner_html" ∧
    rule.severity = .block ∧ ∃ pattern, rule.kind = .pattern pattern ∧
      (pattern, htmlInjection) ∈ expressions := by
  refine ⟨_, .tail _ (.tail _ (.head _)), rfl, rfl, _, rfl, ?_⟩
  exact .tail _ (.tail _ (.head _))

/-- An assignment to the inner HTML fails the rule against it, and makes the component invalid, if
it is a plain one. Any other operator goes unnoticed: then the rule fails only if the text before or
behind the assignment injects HTML by itself. -/
theorem innerHtml_assignment_rejected_iff (hw : IsBlank w) (pre : List Char) (op : Assignment)
    (post : List Char) (n : Nat) (allowlist : List String) (hcache : cache.Standard) :
    let verdict := (Policy.evaluate (String.ofList (assigning pre w op post)) (defaultRules n)
      allowlist cache).1
    ("no_inner_html" ∈ verdict.failed ↔ op = .plain ∨ InjectsHtml pre ∨ InjectsHtml post) ∧
      ("no_inner_html" ∈ verdict.failed → verdict.isValid = false) := by
  intro verdict
  obtain ⟨rule, hrule, hname, hblock, pattern, hkind, hpattern⟩ := htmlRule_mem
  have hmem := mem_defaultRules hrule n
  have hfailed : "no_inner_html" ∈ verdict.failed ↔
      Policy.Fails (assigning pre w op post) allowlist cache rule := by
    have hiff : rule.name ∈ verdict.failed ↔
        Policy.Fails (String.ofList (assigning pre w op post)).toList allowlist cache rule :=
      Policy.mem_failed_iff_fails (nodup_names n) hmem
    rwa [hname, String.toList_ofList] at hiff
  constructor
  · rw [hfailed, fails_iff_occursIn hcache hkind hpattern, htmlInjection_occursIn,
      injectsHtml_assigning hw]
  · intro hfails
    refine Policy.isValid_eq_false_iff.mpr ⟨rule, hmem, hblock, ?_⟩
    rw [String.toList_ofList]
    exact hfailed.mp hfails

/-- An assignment under a condition is not noticed. -/
theorem innerHtml_coalesce_unnoticed :
    let verdict := (Policy.evaluate "el.innerHTML ??= x;" (defaultRules 500) defaultAllowlist
      { limit := ({} : Config).validation.regexLimit }).1
    "no_inner_html" ∉ verdict.failed := by
  intro verdict hfailed
  have hiff := (innerHtml_assignment_rejected_iff (w := [' ']) (by decide) "el".toList .coalesce
    " x;".toList 500 defaultAllowlist RegexCache.standard_fresh).1
  have hhtml : ¬ InjectsHtml (assigning "el".toList [' '] .coalesce " x;".toList) :=
    not_injectsHtml_assigning (by decide) (by decide) (by decide) (by decide)
  exact hhtml ((injectsHtml_assigning (by decide)).mpr (hiff.mp hfailed))

/-- A component is accepted if it is short, has no quotes, does not inject HTML, and misses a part
of every alternative of the other expressions. -/
theorem accepted_of_missing {n : Nat} {allowlist : List String} (hcache : cache.Standard)
    (hlines : lineCount code ≤ n) (hplain : ∀ c ∈ code, ¬ IsQuote c) (hhtml : ¬ InjectsHtml code)
    (hmissing : ∀ x ∈ expressions, x.2 = htmlInjection ∨ ∀ parts ∈ x.2.alternatives,
      ∃ part ∈ parts, MissingFrom code part) :
    let verdict := (Policy.evaluate (String.ofList code) (defaultRules n) allowlist cache).1
    verdict.isValid = true ∧ verdict.failed = [] := by
  refine Policy.accepted_of_not_fails fun rule hrule => ?_
  rw [String.toList_ofList]
  rw [defaultRules_eq] at hrule
  rcases List.mem_cons.mp hrule with rfl | hrule
  · simp [Policy.Fails, Policy.check, Policy.checkLimit, Metric.measure, hlines]
  · rcases kind_cases rule hrule with himports | ⟨x, hx, hpattern⟩
    · simp [Policy.Fails, Policy.check, himports, Policy.checkImports, disallowed,
        packages_eq_nil_of_plain hplain]
    · rw [fails_iff_occursIn hcache hpattern hx]
      rcases hmissing x hx with hinjection | hparts
      · rwa [hinjection, htmlInjection_occursIn]
      · exact not_occursIn_of_missing hparts

/-- A component that appends to the inner HTML of an element is accepted, and no rule fails on
it. -/
theorem innerHtml_append_accepted :
    let verdict := (Policy.evaluate "el.innerHTML += x;" (defaultRules 500) defaultAllowlist
      { limit := ({} : Config).validation.regexLimit }).1
    verdict.isValid = true ∧ verdict.failed = [] := by
  have hhtml : ¬ InjectsHtml (assigning "el".toList [' '] .append " x;".toList) :=
    not_injectsHtml_assigning (by decide) (by decide) (by decide) (by decide)
  have hplain : ∀ c ∈ assigning "el".toList [' '] .append " x;".toList, ¬ IsQuote c :=
    forall_mem_of_all (by decide)
  exact accepted_of_missing RegexCache.standard_fresh (by decide) hplain hhtml (by decide +kernel)

end Assigning

end ArtifactPipeline.StandardPolicy
