import ArtifactPipeline.Policy.Evaluate

/-!
# The cache of compiled patterns

Seen from outside, a cache is the function that gives each pattern its program. Asking for a pattern
does not change that function, so neither does checking a component, and the verdict on a component
depends on the cache through that function only.
-/

namespace ArtifactPipeline

open Regex

namespace RegexCache

/-- The program that a cache gives for a pattern, whether it is known already or not. -/
def program (c : RegexCache) (pattern : String) : Option Program :=
  (c.compiled.lookup pattern).getD (compile? c.limit pattern)

/-- Asking a cache for a pattern gives its program. -/
theorem get_fst (c : RegexCache) (pattern : String) : (c.get pattern).1 = c.program pattern := by
  unfold get program
  split
  · next known h => rw [h, Option.getD_some]
  · next h => rw [h, Option.getD_none]

/-- Asking for a pattern changes no program, neither that of the pattern nor that of another. -/
theorem program_get (c : RegexCache) (pattern : String) :
    (c.get pattern).2.program = c.program := by
  funext other
  unfold get
  split
  · rfl
  · next h =>
    unfold program
    rw [List.lookup_cons]
    by_cases hother : other = pattern
    · subst hother
      rw [beq_self_eq_true, h]
      rfl
    · rw [beq_false_of_ne hother]

end RegexCache

namespace Policy

/-- Checking a rule leaves the program of every pattern as it was. -/
theorem check_program (code : List Char) (allowlist : List String) (rule : Rule)
    (c : RegexCache) : (check code allowlist rule c).2.program = c.program := by
  unfold check
  split
  · rfl
  · rfl
  · exact c.program_get _

/-- What is found of a rule depends on the cache only by the programs. -/
theorem check_congr (code : List Char) (allowlist : List String) (rule : Rule) {c d : RegexCache}
    (h : c.program = d.program) :
    (check code allowlist rule c).1 = (check code allowlist rule d).1 := by
  unfold check
  split
  · rfl
  · rfl
  · simp only [RegexCache.get_fst, h]

/-- Checking a component leaves the program of every pattern as it was. -/
theorem inspect_program (code : List Char) (allowlist : List String) (rules : List Rule)
    (c : RegexCache) : (inspect code allowlist rules c).2.program = c.program := by
  induction rules generalizing c with
  | nil => rfl
  | cons rule rules ih => exact (ih _).trans (check_program code allowlist rule c)

/-- The verdict on a component depends on the cache only by the programs. -/
theorem inspect_congr (code : List Char) (allowlist : List String) (rules : List Rule)
    {c d : RegexCache} (h : c.program = d.program) :
    (inspect code allowlist rules c).1 = (inspect code allowlist rules d).1 := by
  induction rules generalizing c d with
  | nil => rfl
  | cons rule rules ih =>
    have hnext :
        (check code allowlist rule c).2.program = (check code allowlist rule d).2.program := by
      rw [check_program, check_program, h]
    simp only [inspect, check_congr code allowlist rule h, ih hnext]

/-- Checking a component changes no program of the cache. -/
theorem evaluate_program (code : String) (rules : List Rule) (allowlist : List String)
    (c : RegexCache) : (evaluate code rules allowlist c).2.program = c.program :=
  inspect_program code.toList allowlist rules c

/-- The verdict on a component depends on the cache through its programs only. -/
theorem evaluate_congr (code : String) (rules : List Rule) (allowlist : List String)
    {c d : RegexCache} (h : c.program = d.program) :
    (evaluate code rules allowlist c).1 = (evaluate code rules allowlist d).1 :=
  congrArg Verdict.ofFindings (inspect_congr code.toList allowlist rules h)

end Policy

end ArtifactPipeline
