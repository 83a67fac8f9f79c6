import ArtifactPipeline.Proofs.Findings
import ArtifactPipeline.Proofs.Interleaving

/-!
# Verdicts in parts

A verdict is put together from what is found of each rule alone, in the order of the rules. So the
verdict on two lists of rules is made of the verdicts on each of them, every rule is accounted for
exactly once, and another order of the rules gives the same parts in another order. Neither depends
on what has been checked before with the same compiled patterns.
-/

namespace ArtifactPipeline

open Policy

/-- A component that is checked against rules. -/
structure Inspection where
  text : String
  rules : List Rule
  allowlist : List String

/-- The compiled patterns after components have been checked one after another. -/
def RegexCache.after (cache : RegexCache) (earlier : List Inspection) : RegexCache :=
  earlier.foldl (fun cache i => (evaluate i.text i.rules i.allowlist cache).2) cache

/-- What a pattern is compiled to does not depend on what was checked before. -/
theorem RegexCache.after_program (cache : RegexCache) (earlier : List Inspection) :
    (cache.after earlier).program = cache.program := by
  induction earlier generalizing cache with
  | nil => rfl
  | cons i earlier ih => exact (ih _).trans (evaluate_program i.text i.rules i.allowlist cache)

/-- A list is merged from the items that fail a test and those that pass it, one by one. -/
theorem interleaves_filter {α β : Type} (p : α → Bool) (f : α → β) (l : List α) :
    Interleaves (l.map fun a => if p a then .second else .first)
      ((l.filter (!p ·)).map f) ((l.filter p).map f) (l.map f) := by
  induction l with
  | nil => exact .done
  | cons a l ih =>
    cases ha : p a with
    | false => simpa [ha] using Interleaves.first (f a) ih
    | true => simpa [ha] using Interleaves.second (f a) ih

namespace Policy

/-- Why a rule fails on a text, if it does, when its pattern is compiled under a limit. -/
def violation? (limit : Nat) (code : List Char) (allowlist : List String) (rule : Rule) :
    Option Violation :=
  match rule.kind with
  | .resourceLimit metric max => checkLimit code metric max
  | .dependencyAllowlist => checkImports code allowlist
  | .pattern pattern => (Regex.compile? limit pattern).bind (checkPattern code)

/-- A rule that is checked with an empty cache fails for the reason that it fails for. -/
theorem check_fresh (limit : Nat) (code : List Char) (allowlist : List String) (rule : Rule) :
    (check code allowlist rule { limit }).1 = violation? limit code allowlist rule := by
  cases hkind : rule.kind with
  | pattern pattern =>
    simp only [check, violation?, hkind, RegexCache.get_fst]
    rfl
  | dependencyAllowlist => simp only [check, violation?, hkind]
  | resourceLimit metric max => simp only [check, violation?, hkind]

/-- A pattern that does not compile is never violated. -/
theorem violation?_of_not_compiles {limit : Nat} {code : List Char} {allowlist : List String}
    {rule : Rule} {pattern : String} (hkind : rule.kind = .pattern pattern)
    (hcompile : Regex.compile? limit pattern = none) :
    violation? limit code allowlist rule = none := by
  simp only [violation?, hkind, hcompile, Option.bind_none]

end Policy

namespace Verdict

/-- What a verdict says of rules, given what is found of each of them. -/
structure AccountsFor (find : Rule → Option Violation) (rules : List Rule) (v : Verdict) :
    Prop where
  /-- Each rule is named in its turn, among the failed ones iff it fails. -/
  interleaved : Interleaves (rules.map fun rule => if (find rule).isSome then .second else .first)
    v.passed v.failed (rules.map (·.name))
  errors : v.errors = rules.filterMap fun rule =>
    if rule.severity = .block then issue? (rule, find rule) else none
  warnings : v.warnings = rules.filterMap fun rule =>
    if rule.severity = .warn then issue? (rule, find rule) else none
  isValid : v.isValid = v.errors.isEmpty
  score : v.score =
    if rules.isEmpty then 0.0 else v.passed.length.toFloat / rules.length.toFloat

/-- The parts of a verdict are those of a first verdict and then those of a second one. -/
structure Joins (v w both : Verdict) : Prop where
  errors : both.errors = v.errors ++ w.errors
  warnings : both.warnings = v.warnings ++ w.warnings
  passed : both.passed = v.passed ++ w.passed
  failed : both.failed = v.failed ++ w.failed
  isValid : both.isValid = true ↔ v.isValid = true ∧ w.isValid = true

/-- Two verdicts have the same parts, in whatever order. -/
structure Rearranged (v w : Verdict) : Prop where
  errors : v.errors.Perm w.errors
  warnings : v.warnings.Perm w.warnings
  passed : v.passed.Perm w.passed
  failed : v.failed.Perm w.failed
  isValid : v.isValid = w.isValid
  score : v.score = w.score

variable {findings more : List Finding}

/-- The issues of a severity, rule by rule. -/
theorem issuesOf_map (severity : Severity) (find : Rule → Option Violation) (rules : List Rule) :
    issuesOf severity (rules.map fun rule => (rule, find rule)) = rules.filterMap fun rule =>
      if rule.severity = severity then issue? (rule, find rule) else none := by
  rw [issuesOf, List.filterMap_map, List.filter_filterMap]
  refine List.filterMap_congr fun rule _ => ?_
  cases hfind : find rule with
  | none => simp [issue?, hfind]
  | some violation =>
    by_cases hseverity : rule.severity = severity
    · simp [issue?, hfind, hseverity]
    · simp [issue?, hfind, hseverity]

/-- A verdict that is put together from what is found of the rules accounts for each of them. -/
theorem ofFindings_accountsFor (find : Rule → Option Violation) (rules : List Rule) :
    (ofFindings (rules.map fun rule => (rule, find rule))).AccountsFor find rules where
  interleaved := by
    have hmerged := interleaves_filter (fun rule => (find rule).isSome) (·.name) rules
    simpa [ofFindings, List.filter_map, Function.comp_def] using hmerged
  errors := issuesOf_map .block find rules
  warnings := issuesOf_map .warn find rules
  isValid := rfl
  score := by simp [ofFindings]

/-- The issues of two lists of findings follow each other. -/
theorem issuesOf_append (severity : Severity) (findings more : List Finding) :
    issuesOf severity (findings ++ more) =
      issuesOf severity findings ++ issuesOf severity more := by
  simp only [issuesOf, List.filterMap_append, List.filter_append]

/-- The verdict on two lists of findings joins the verdicts on each of them. -/
theorem ofFindings_append (findings more : List Finding) :
    Joins (ofFindings findings) (ofFindings more) (ofFindings (findings ++ more)) where
  errors := issuesOf_append .block findings more
  warnings := issuesOf_append .warn findings more
  passed := by simp [ofFindings]
  failed := by simp [ofFindings]
  isValid := by simp [ofFindings, issuesOf_append]

/-- In another order the findings have the same issues, in another order. -/
theorem issuesOf_perm (severity : Severity) (h : findings.Perm more) :
    (issuesOf severity findings).Perm (issuesOf severity more) :=
  (h.filterMap issue?).filter _

/-- In another order the findings have a verdict of the same parts. -/
theorem ofFindings_perm (h : findings.Perm more) :
    (ofFindings findings).Rearranged (ofFindings more) where
  errors := issuesOf_perm .block h
  warnings := issuesOf_perm .warn h
  passed := (h.filter _).map _
  failed := (h.filter _).map _
  isValid := (issuesOf_perm .block h).isEmpty_eq
  score := by
    have hpassed := ((h.filter (·.2.isNone)).map (·.1.name)).length_eq
    simp only [ofFindings, hpassed, h.isEmpty_eq, h.length_eq]

end Verdict

namespace Policy

/-- The verdict is that of the findings of each rule alone, whatever has been checked before. -/
theorem evaluate_after (limit : Nat) (earlier : List Inspection) (text : String)
    (rules : List Rule) (allowlist : List String) :
    (evaluate text rules allowlist (RegexCache.after { limit } earlier)).1 =
      .ofFindings (rules.map fun rule =>
        (rule, violation? limit text.toList allowlist rule)) := by
  rw [evaluate_congr text rules allowlist (RegexCache.after_program { limit } earlier)]
  change Verdict.ofFindings (inspect text.toList allowlist rules { limit }).1 = _
  simp only [inspect_eq_map, check_fresh]

/-- A verdict on a text is put together from what is found of each rule alone. -/
theorem verdict_eq (limit : Nat) (text : String) (rules : List Rule) (allowlist : List String) :
    verdict limit text rules allowlist = .ofFindings (rules.map fun rule =>
      (rule, violation? limit text.toList allowlist rule)) :=
  evaluate_after limit [] text rules allowlist

end Policy

end ArtifactPipeline
