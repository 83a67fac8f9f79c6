import ArtifactPipeline.Config.Basic
import ArtifactPipeline.Proofs.Alternatives
import ArtifactPipeline.Proofs.Findings
import Mathlib

/-!
# The patterns of the standard rules

Under the default limit all patterns of the standard rules compile, whatever the limit on lines is.
So each of these rules fails exactly on the texts in which the expression of its pattern occurs.
-/

namespace ArtifactPipeline

open Regex Imports

/-- Whether the cache gives the programs of a fresh one under the default limit. -/
def RegexCache.Standard (cache : RegexCache) : Prop :=
  cache.program = compile? ({} : Config).validation.regexLimit

/-- An empty cache with the default limit is one of the standard. -/
theorem RegexCache.standard_fresh :
    RegexCache.Standard { limit := ({} : Config).validation.regexLimit } := rfl

namespace StandardPolicy

/-- A place between a word character and none. -/
def boundary : Regex := look .wordBoundary

/-- White space, at least one character. -/
def gap : Regex := plus (set .whitespace)

/-- A call of `eval`. -/
def evalCall : Regex := concat [boundary, literal "eval", blanks, literal "("]

/-- A function that is made from text. -/
def functionConstructor : Regex :=
  concat [boundary, literal "new", gap, literal "Function", blanks, literal "("]

/-- Markup that is put into the page as text. -/
def htmlInjection : Regex :=
  alt (concat [literal ".innerHTML", blanks, literal "="]) (literal "dangerouslySetInnerHTML")

/-- A text that is written into the document. -/
def documentWrite : Regex :=
  concat [boundary, literal "document.write", opt (group 1 (literal "ln")), blanks, literal "("]

/-- The parser draws the boundary that all branches begin with out of the choice. -/
def networkAccess : Regex :=
  seq boundary (choice [
    concat [literal "fetch", blanks, literal "("],
    concat [literal "XMLHttpRequest", boundary],
    concat [literal "new", gap, literal "WebSocket", boundary],
    concat [literal "navigator.sendBeacon", boundary]])

/-- Data that the browser keeps. -/
def browserStorage : Regex :=
  seq boundary (choice [
    seq (group 1 (choice [literal "localStorage", literal "sessionStorage", literal "indexedDB"]))
      boundary,
    seq (literal "document.cookie") boundary])

/-- Output on the console. -/
def consoleLog : Regex := concat [boundary, literal "console.log", blanks, literal "("]

/-- A comment that says that something is still to be done. -/
def unfinishedWork : Regex :=
  concat [literal "//", blanks, group 1 (choice [literal "TODO", literal "FIXME"]), boundary]

/-- The patterns of the standard rules with what they say. -/
def expressions : List (String × Regex) := [
  ("\\beval\\s*\\(", evalCall),
  ("\\bnew\\s+Function\\s*\\(", functionConstructor),
  ("\\.innerHTML\\s*=|dangerouslySetInnerHTML", htmlInjection),
  ("\\bdocument\\.write(ln)?\\s*\\(", documentWrite),
  ("\\bfetch\\s*\\(|\\bXMLHttpRequest\\b|\\bnew\\s+WebSocket\\b|\\bnavigator\\.sendBeacon\\b",
    networkAccess),
  ("\\b(localStorage|sessionStorage|indexedDB)\\b|\\bdocument\\.cookie\\b", browserStorage),
  ("\\bconsole\\.log\\s*\\(", consoleLog),
  ("//\\s*(TODO|FIXME)\\b", unfinishedWork)]

set_option maxRecDepth 100000 in
/-- The patterns of the standard rules are parsed as these expressions. -/
theorem parse_expressions : ∀ x ∈ expressions, (parse x.1).toOption = some x.2 := by
  decide +kernel

/-- An expression fits if neither of its two automata is over the limit. -/
theorem fits_of_footprints {r : Regex} {limit : Nat}
    (hforward : (Footprint.forward limit r).isOver = false)
    (hbackward : (Footprint.backward limit r).isOver = false) : r.fits limit = true := by
  simp [fits, hforward, hbackward]

set_option maxRecDepth 100000 in
/-- The expressions of the standard rules fit into the default limit. -/
theorem fits_expressions :
    ∀ x ∈ expressions, x.2.fits ({} : Config).validation.regexLimit = true := by
  simp only [expressions, List.forall_mem_cons, List.not_mem_nil, false_imp_iff, implies_true,
    and_true]
  refine ⟨?_, ?_, ?_, ?_, ?_, ?_, ?_, ?_⟩ <;>
  · apply fits_of_footprints
    · cbv
    · cbv

/-- The patterns of the standard rules compile under the default limit. -/
theorem compile?_expressions {x : String × Regex} (hx : x ∈ expressions) :
    compile? ({} : Config).validation.regexLimit x.1 = some (Program.ofRegex x.2) := by
  have hparse := parse_expressions x hx
  have hfits := fits_expressions x hx
  unfold compile?
  cases hresult : parse x.1 with
  | error e => simp [hresult, Except.toOption] at hparse
  | ok r =>
    obtain rfl : r = x.2 := by simpa [hresult, Except.toOption] using hparse
    simp [hfits]

/-- A rule with one of these patterns fails exactly where the expression occurs. -/
theorem fails_iff_occursIn {code : List Char} {allowlist : List String} {cache : RegexCache}
    {rule : Rule} {pattern : String} {r : Regex} (hcache : cache.Standard)
    (hkind : rule.kind = .pattern pattern) (hpattern : (pattern, r) ∈ expressions) :
    Policy.Fails code allowlist cache rule ↔ r.OccursIn code := by
  have hprogram : cache.program pattern = some (Program.ofRegex r) := by
    rw [hcache]
    exact compile?_expressions (x := (pattern, r)) hpattern
  rw [Policy.fails_pattern hkind hprogram, find?_isSome_iff]

/-! ## The rules -/

/-- Apart from the limit on lines, a standard rule checks the imports or one of the patterns. -/
theorem kind_cases : ∀ rule ∈ (defaultRules 0).tail,
    rule.kind = .dependencyAllowlist ∨ ∃ x ∈ expressions, rule.kind = .pattern x.1 := by
  decide

end StandardPolicy

end ArtifactPipeline
