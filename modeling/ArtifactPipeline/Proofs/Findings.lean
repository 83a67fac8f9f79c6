import ArtifactPipeline.Proofs.Cache
import Mathlib.Data.List.Nodup

/-!
# What a verdict reports

Rules are checked one after another, but checking one leaves every program of the cache as it was,
so each finding is that of the rule alone. A verdict names the rules that fail, and it is invalid
exactly if one that blocks is among them.
-/

namespace ArtifactPipeline.Policy

variable {code : List Char} {text : String} {allowlist allowlist' : List String} {rule : Rule}
  {rules : List Rule} {cache cache' : RegexCache}

/-- The rule fails on the text. -/
def Fails (code : List Char) (allowlist : List String) (cache : RegexCache) (rule : Rule) : Prop :=
  (check code allowlist rule cache).1.isSome = true

/-- Each rule is found as if it were the only one. -/
theorem inspect_eq_map (code : List Char) (allowlist : List String) (rules : List Rule)
    (cache : RegexCache) : (inspect code allowlist rules cache).1 =
      rules.map fun rule => (rule, (check code allowlist rule cache).1) := by
  induction rules generalizing cache with
  | nil => rfl
  | cons rule rules ih =>
    have hlater : ∀ later, (check code allowlist later (check code allowlist rule cache).2).1 =
        (check code allowlist later cache).1 := fun later =>
      check_congr code allowlist later (check_program code allowlist rule cache)
    simp only [inspect, List.map_cons, ih, hlater]

/-- The failed rules are named, whatever their severity. -/
theorem mem_failed {name : String} :
    name ∈ (evaluate text rules allowlist cache).1.failed ↔
      ∃ rule ∈ rules, rule.name = name ∧ Fails text.toList allowlist cache rule := by
  have hfailed : (evaluate text rules allowlist cache).1.failed =
      ((inspect text.toList allowlist rules cache).1.filter (·.2.isSome)).map (·.1.name) := rfl
  rw [hfailed, inspect_eq_map]
  simp only [List.mem_map, List.mem_filter]
  constructor
  · rintro ⟨_, ⟨⟨rule, hrule, rfl⟩, hfails⟩, hname⟩
    exact ⟨rule, hrule, hname, hfails⟩
  · rintro ⟨rule, hrule, hname, hfails⟩
    exact ⟨_, ⟨⟨rule, hrule, rfl⟩, hfails⟩, hname⟩

/-- Where no two rules share a name, the name of a rule is reported iff that rule fails. -/
theorem mem_failed_iff_fails (hnames : (rules.map (·.name)).Nodup) (hrule : rule ∈ rules) :
    rule.name ∈ (evaluate text rules allowlist cache).1.failed ↔
      Fails text.toList allowlist cache rule := by
  rw [mem_failed]
  constructor
  · rintro ⟨other, hother, hname, hfails⟩
    rwa [← List.inj_on_of_nodup_map hnames hother hrule hname]
  · intro hfails
    exact ⟨rule, hrule, rfl, hfails⟩

/-- The errors are the issues of the rules that block and fail. -/
theorem mem_errors {issue : Issue} : issue ∈ (evaluate text rules allowlist cache).1.errors ↔
    ∃ rule ∈ rules, rule.severity = .block ∧
      issue? (rule, (check text.toList allowlist rule cache).1) = some issue := by
  have herrors : (evaluate text rules allowlist cache).1.errors =
      ((inspect text.toList allowlist rules cache).1.filterMap issue?).filter
        (·.severity == .block) := rfl
  have hseverity : ∀ {finding : Finding} {issue : Issue}, issue? finding = some issue →
      issue.severity = finding.1.severity := by
    intro finding issue hissue
    obtain ⟨violation, -, rfl⟩ := Option.map_eq_some_iff.mp hissue
    rfl
  rw [herrors, inspect_eq_map]
  simp only [List.mem_filter, List.mem_filterMap, List.mem_map, beq_iff_eq]
  constructor
  · rintro ⟨⟨_, ⟨rule, hrule, rfl⟩, hissue⟩, hblock⟩
    exact ⟨rule, hrule, hseverity hissue ▸ hblock, hissue⟩
  · rintro ⟨rule, hrule, hblock, hissue⟩
    exact ⟨⟨_, ⟨rule, hrule, rfl⟩, hissue⟩, (hseverity hissue).trans hblock⟩

/-- A verdict is invalid iff a rule that blocks fails. -/
theorem isValid_eq_false_iff : (evaluate text rules allowlist cache).1.isValid = false ↔
    ∃ rule ∈ rules, rule.severity = .block ∧ Fails text.toList allowlist cache rule := by
  have hvalid : (evaluate text rules allowlist cache).1.isValid =
      (evaluate text rules allowlist cache).1.errors.isEmpty := rfl
  rw [hvalid, List.isEmpty_eq_false_iff_exists_mem]
  constructor
  · rintro ⟨issue, hissue⟩
    obtain ⟨rule, hrule, hblock, hfound⟩ := mem_errors.mp hissue
    obtain ⟨violation, hviolation, -⟩ := Option.map_eq_some_iff.mp hfound
    exact ⟨rule, hrule, hblock, Option.isSome_of_eq_some hviolation⟩
  · rintro ⟨rule, hrule, hblock, hfails⟩
    have hissue : (issue? (rule, (check text.toList allowlist rule cache).1)).isSome = true := by
      rw [issue?, Option.isSome_map]
      exact hfails
    obtain ⟨issue, hissue⟩ := Option.isSome_iff_exists.mp hissue
    exact ⟨issue, mem_errors.mpr ⟨rule, hrule, hblock, hissue⟩⟩

/-- A component on which no rule fails is accepted, and no rule is reported. -/
theorem accepted_of_not_fails (h : ∀ rule ∈ rules, ¬ Fails text.toList allowlist cache rule) :
    (evaluate text rules allowlist cache).1.isValid = true ∧
      (evaluate text rules allowlist cache).1.failed = [] := by
  constructor
  · rw [← Bool.not_eq_false, isValid_eq_false_iff]
    rintro ⟨rule, hrule, -, hfails⟩
    exact h rule hrule hfails
  · refine List.eq_nil_iff_forall_not_mem.mpr fun name hname => ?_
    obtain ⟨rule, hrule, -, hfails⟩ := mem_failed.mp hname
    exact h rule hrule hfails

/-- A rule other than that of the allowed packages does not look at the allowlist. -/
theorem fails_congr (hkind : rule.kind ≠ .dependencyAllowlist)
    (hcache : cache.program = cache'.program) :
    Fails code allowlist cache rule ↔ Fails code allowlist' cache' rule := by
  have hallowlist :
      (check code allowlist rule cache').1 = (check code allowlist' rule cache').1 := by
    unfold check
    split
    · rfl
    · next h => exact absurd h hkind
    · rfl
  rw [Fails, Fails, check_congr code allowlist rule hcache, hallowlist]

/-- A pattern that compiles fails on the texts in which its program finds a match. -/
theorem fails_pattern {pattern : String} {program : Regex.Program}
    (hkind : rule.kind = .pattern pattern) (hprogram : cache.program pattern = some program) :
    Fails code allowlist cache rule ↔ (program.find? code).isSome = true := by
  have hcheck : (check code allowlist rule cache).1 = checkPattern code program := by
    unfold check
    rw [hkind]
    simp only [RegexCache.get_fst, hprogram, Option.bind_some]
  rw [Fails, hcheck, checkPattern, Option.isSome_map]

end ArtifactPipeline.Policy

namespace ArtifactPipeline.StandardPolicy

/-! ## The standard rules -/

/-- The standard rules are the limit on lines and rules that do not depend on it. -/
theorem defaultRules_eq (n : Nat) : defaultRules n =
    { name := "max_lines", kind := .resourceLimit .lineCount n, severity := .block } ::
      (defaultRules 0).tail := rfl

/-- Of the standard rules only the first one depends on the limit on lines. -/
theorem mem_defaultRules {rule : Rule} (h : rule ∈ (defaultRules 0).tail) (n : Nat) :
    rule ∈ defaultRules n := by
  rw [defaultRules_eq]
  exact List.mem_cons_of_mem _ h

/-- No two of the standard rules have the same name. -/
theorem nodup_names (n : Nat) : ((defaultRules n).map (·.name)).Nodup := by
  have hnames : (defaultRules n).map (·.name) = (defaultRules 0).map (·.name) := by
    rw [defaultRules_eq n, defaultRules_eq 0]
    rfl
  rw [hnames]
  decide

end ArtifactPipeline.StandardPolicy
