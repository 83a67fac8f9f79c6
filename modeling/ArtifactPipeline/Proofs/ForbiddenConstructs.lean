import ArtifactPipeline.Proofs.ImportLeads
import ArtifactPipeline.Proofs.StandardPolicy

/-!
# Constructs that the standard rules forbid

A forbidden construct is spelled by fixed texts with white space between some of them. Wherever it
stands, as long as no word runs into it at either end, the rule that forbids it fails: one of the
alternatives of its expression consists of the parts of the construct, at most with a boundary at
either end.
-/

namespace ArtifactPipeline.StandardPolicy

open Text Regex Imports

/-- The text begins within a word. -/
def StartsInWord (text : List Char) : Prop := text.head?.any isWord = true

/-- Whether a text begins within a word can be seen at its first character. -/
instance (text : List Char) : Decidable (StartsInWord text) :=
  inferInstanceAs (Decidable (text.head?.any isWord = true))

/-- Whether a text ends within a word can be seen at its last character. -/
instance (text : List Char) : Decidable (EndsInWord text) :=
  inferInstanceAs (Decidable (text.getLast?.any isWord = true))

/-- A part of the spelling of a construct: its own text, white space that may stand there, or white
space that must. -/
inductive Part where
  | code (text : String)
  | blank
  | gap
  deriving DecidableEq

namespace Part

/-- The text of a part, given the white space that may stand somewhere and the one that must. -/
def text (w u : List Char) : Part → List Char
  | code text => text.toList
  | blank => w
  | gap => u

/-- What reads a part. -/
def regex : Part → Regex
  | code text => literal text
  | blank => Imports.blanks
  | gap => StandardPolicy.gap

/-- Whether a part is fixed text that begins with a word character. -/
def beginsWord : Part → Bool
  | code text => text.toList.head?.any isWord
  | blank | gap => false

/-- Whether a part is fixed text that ends with a word character. -/
def endsWord : Part → Bool
  | code text => text.toList.getLast?.any isWord
  | blank | gap => false

end Part

/-- A construct and the name of the rule that forbids it. -/
structure Construct where
  rule : String
  parts : List Part
  deriving DecidableEq

/-- How a construct is written with the given white space. -/
def Construct.text (k : Construct) (w u : List Char) : List Char := k.parts.flatMap (·.text w u)

/-- What the standard rules forbid. -/
def constructs : List Construct := [
  ⟨"no_eval", [.code "eval", .blank, .code "("]⟩,
  ⟨"no_function_constructor", [.code "new", .gap, .code "Function", .blank, .code "("]⟩,
  ⟨"no_inner_html", [.code ".innerHTML", .blank, .code "="]⟩,
  ⟨"no_inner_html", [.code "dangerouslySetInnerHTML"]⟩,
  ⟨"no_document_write", [.code "document.write", .blank, .code "("]⟩,
  ⟨"no_document_write", [.code "document.write", .code "ln", .blank, .code "("]⟩,
  ⟨"no_network_access", [.code "fetch", .blank, .code "("]⟩,
  ⟨"no_network_access", [.code "XMLHttpRequest"]⟩,
  ⟨"no_network_access", [.code "new", .gap, .code "WebSocket"]⟩,
  ⟨"no_network_access", [.code "navigator.sendBeacon"]⟩,
  ⟨"no_browser_storage", [.code "localStorage"]⟩,
  ⟨"no_browser_storage", [.code "sessionStorage"]⟩,
  ⟨"no_browser_storage", [.code "indexedDB"]⟩,
  ⟨"no_browser_storage", [.code "document.cookie"]⟩]

/-- A place where an alternative may demand a boundary. -/
def edges : List (List Regex) := [[], [boundary]]

/-- An alternative reads the parts of a construct, and it demands a boundary at most at an end where
the construct has a word character. -/
def Frames (alternative : List Regex) (parts : List Part) : Prop :=
  ∃ front ∈ edges, ∃ back ∈ edges, alternative = front ++ (parts.map Part.regex ++ back) ∧
    (front ≠ [] → parts.head?.any Part.beginsWord = true) ∧
    (back ≠ [] → parts.getLast?.any Part.endsWord = true)

/-- Whether an alternative reads the parts of a construct can be tried out. -/
instance (alternative : List Regex) (parts : List Part) : Decidable (Frames alternative parts) :=
  inferInstanceAs (Decidable (∃ front ∈ edges, ∃ back ∈ edges, _))

section Reading

variable {w u before after pre post text : List Char} {parts : List Part}

/-- The parts of a construct are read one after another. -/
theorem reads_parts (hw : IsBlank w) (hu : IsBlank u) (hne : u ≠ []) :
    (concat (parts.map Part.regex)).Reads before (parts.flatMap (·.text w u)) after := by
  induction parts generalizing before with
  | nil => exact reads_empty.mpr rfl
  | cons part parts ih =>
    have hpart : ∀ rest, part.regex.Reads before (part.text w u) rest := by
      intro rest
      cases part with
      | code text => exact reads_chars.mpr rfl
      | blank => exact ⟨[], matches_blanks.mpr ⟨hw, rfl⟩⟩
      | gap => exact ⟨[], matches_gap.mpr ⟨hne, hu, rfl⟩⟩
    rw [List.map_cons, List.flatMap_cons]
    exact reads_concat_cons.mpr ⟨_, _, rfl, hpart _, ih⟩

/-- A construct that begins with a word character begins within a word, whatever follows it. -/
theorem startsInWord_of_parts (post : List Char) (h : parts.head?.any Part.beginsWord = true) :
    StartsInWord (parts.flatMap (·.text w u) ++ post) := by
  obtain _ | ⟨part, parts⟩ := parts
  · cases h
  · cases part with
    | code text =>
      have hbegins : text.toList.head?.any isWord = true := h
      cases htext : text.toList with
      | nil => simp [htext] at hbegins
      | cons c cs => simpa [StartsInWord, Part.text, htext] using hbegins
    | blank => cases h
    | gap => cases h

/-- A construct that ends with a word character ends within a word, whatever is before it. -/
theorem endsInWord_of_parts (pre : List Char) (h : parts.getLast?.any Part.endsWord = true) :
    EndsInWord (pre ++ parts.flatMap (·.text w u)) := by
  obtain rfl | ⟨init, part, rfl⟩ := List.eq_nil_or_concat parts
  · cases h
  · rw [List.concat_eq_append, List.getLast?_concat] at h
    cases part with
    | code text =>
      have hends : EndsInWord text.toList := h
      have hne : text.toList ≠ [] := by
        intro hnil
        rw [hnil] at hends
        cases hends
      rw [List.concat_eq_append, List.flatMap_append, ← List.append_assoc,
        List.flatMap_singleton]
      exact (endsInWord_append _ hne).mpr hends
    | blank => cases h
    | gap => cases h

/-- A boundary is where a word ends or begins, but not both. -/
theorem reads_boundary : boundary.Reads before [] after ↔
    ¬ (EndsInWord before ↔ StartsInWord after) := by
  rw [boundary, reads_look, and_iff_left rfl, EndsInWord, StartsInWord, ← Bool.eq_iff_iff]
  exact bne_iff_ne

/-- Where no word runs into a construct, whatever frames its parts can be read. -/
theorem Frames.reads {alternative : List Regex} (hframes : Frames alternative parts)
    (hw : IsBlank w) (hu : IsBlank u) (hne : u ≠ [])
    (hpre : StartsInWord (parts.flatMap (·.text w u)) → ¬ EndsInWord pre)
    (hpost : EndsInWord (parts.flatMap (·.text w u)) → ¬ StartsInWord post) :
    (concat alternative).Reads pre (parts.flatMap (·.text w u)) post := by
  obtain ⟨front, hfront, back, hback, rfl, hbegins, hends⟩ := hframes
  have hparts : (concat (parts.map Part.regex)).Reads pre (parts.flatMap (·.text w u)) post :=
    reads_parts hw hu hne
  have hfirst : (concat front).Reads pre [] (parts.flatMap (·.text w u) ++ post) := by
    simp only [edges, List.mem_cons, List.not_mem_nil, or_false] at hfront
    obtain rfl | rfl := hfront
    · exact reads_empty.mpr rfl
    · have hword := hbegins (List.cons_ne_nil _ _)
      have hstart : StartsInWord (parts.flatMap (·.text w u)) := by
        simpa using startsInWord_of_parts [] hword
      refine reads_boundary.mpr fun hiff => hpre hstart ?_
      exact hiff.mpr (startsInWord_of_parts post hword)
  have hlast : (concat back).Reads (pre ++ parts.flatMap (·.text w u)) [] post := by
    simp only [edges, List.mem_cons, List.not_mem_nil, or_false] at hback
    obtain rfl | rfl := hback
    · exact reads_empty.mpr rfl
    · have hword := hends (List.cons_ne_nil _ _)
      have hend : EndsInWord (parts.flatMap (·.text w u)) := by
        simpa using endsInWord_of_parts [] hword
      refine reads_boundary.mpr fun hiff => hpost hend ?_
      exact hiff.mp (endsInWord_of_parts pre hword)
  refine reads_concat_append.mpr ⟨[], _, rfl, hfirst, ?_⟩
  refine reads_concat_append.mpr ⟨_, [], (List.append_nil _).symm, ?_, ?_⟩
  · rwa [List.nil_append, List.append_nil]
  · rwa [List.append_nil]

end Reading

/-! ## The constructs and the standard rules -/

/-- Each construct is forbidden by a rule that blocks, and some alternative of its expression frames
the parts of the construct. -/
theorem constructs_framed : ∀ k ∈ constructs, ∃ rule ∈ (defaultRules 0).tail, rule.name = k.rule ∧
    rule.severity = .block ∧ ∃ x ∈ expressions, rule.kind = .pattern x.1 ∧
      ∃ alternative ∈ x.2.alternatives, Frames alternative k.parts := by
  decide +kernel

section Verdicts

variable {k : Construct} {w u : List Char} {cache : RegexCache}

/-- No surrounding text hides a forbidden construct. Whatever stands before and behind it, as long
as no word runs into it, the component is invalid and the rule that forbids the construct is among
the failed ones. -/
theorem construct_rejected (hk : k ∈ constructs) (hw : IsBlank w) (hu : IsBlank u) (hne : u ≠ [])
    (pre post : List Char) (hpre : StartsInWord (k.text w u) → ¬ EndsInWord pre)
    (hpost : EndsInWord (k.text w u) → ¬ StartsInWord post) (n : Nat)
    (allowlist : List String) (hcache : cache.Standard) :
    let verdict := (Policy.evaluate (String.ofList (pre ++ (k.text w u ++ post)))
      (defaultRules n) allowlist cache).1
    verdict.isValid = false ∧ k.rule ∈ verdict.failed := by
  intro verdict
  obtain ⟨rule, hrule, hname, hblock, ⟨pattern, r⟩, hpattern, hkind, alternative, halternative,
    hframes⟩ := constructs_framed k hk
  have hoccurs : r.OccursIn (pre ++ (k.text w u ++ post)) :=
    occursIn_iff_alternative.mpr ⟨alternative, halternative, pre, k.text w u, post, rfl,
      hframes.reads hw hu hne hpre hpost⟩
  have hfails : Policy.Fails (String.ofList (pre ++ (k.text w u ++ post))).toList allowlist cache
      rule := by
    rw [String.toList_ofList]
    exact (fails_iff_occursIn hcache hkind hpattern).mpr hoccurs
  have hmem := mem_defaultRules hrule n
  constructor
  · exact Policy.isValid_eq_false_iff.mpr ⟨rule, hmem, hblock, hfails⟩
  · exact Policy.mem_failed.mpr ⟨rule, hmem, hname, hfails⟩

/-- Neither a line break within the construct nor an assignment right before it hides it. -/
theorem webSocket_rejected :
    let verdict := (Policy.evaluate "const s=new\n\tWebSocket(url);" (defaultRules 500)
      defaultAllowlist { limit := ({} : Config).validation.regexLimit }).1
    verdict.isValid = false ∧ "no_network_access" ∈ verdict.failed :=
  construct_rejected (k := ⟨"no_network_access", [.code "new", .gap, .code "WebSocket"]⟩)
    (w := []) (u := ['\n', '\t']) (by decide) (by decide) (by decide) (by decide)
    "const s=".toList "(url);".toList (by decide) (by decide) 500 defaultAllowlist
    RegexCache.standard_fresh

end Verdicts

end ArtifactPipeline.StandardPolicy
