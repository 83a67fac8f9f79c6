import ArtifactPipeline.Proofs.Placeholders
import ArtifactPipeline.Run.Repair

/-!
# The code in a repair prompt

A template is rendered line by line as long as no name holds a newline, since then no placeholder
runs from one line into the next, whatever the values bring. The placeholder of the code has a line
of its own, and no other name has a placeholder on it or on the lines below.
-/

namespace ArtifactPipeline

namespace Template

variable {values : List (String × String)} {name : String} {before text rest : List Char}

/-- A character that stands in no placeholder divides a text into parts that are rendered on their
own. -/
theorem foldl_fill_append_cons {c : Char} (hc : ∀ value ∈ values, c ∉ placeholder value.1) :
    values.foldl fill (before ++ c :: rest) =
      values.foldl fill before ++ c :: values.foldl fill rest := by
  induction values generalizing before rest with
  | nil => rfl
  | cons value values ih =>
    have hfirst : ∀ v ∈ [value], c ∉ placeholder v.1 := by
      intro v hv
      exact hc v (List.mem_cons.mpr (.inl (List.mem_singleton.mp hv)))
    simp only [List.foldl_cons, fill_eq_substitute, substitute_append_cons hfirst]
    simp only [← fill_eq_substitute]
    exact ih fun v hv => hc v (List.mem_cons_of_mem _ hv)

/-- A text without a placeholder of any of the names is left as it is. -/
theorem foldl_fill_of_no_holes (h : ∀ value ∈ values, holes value.1 text = 0) :
    values.foldl fill text = text := by
  induction values with
  | nil => rfl
  | cons value values ih =>
    rw [List.foldl_cons, fill_of_no_holes value.2 (h value List.mem_cons_self)]
    exact ih fun v hv => h v (List.mem_cons_of_mem _ hv)

/-- The lines of a template are rendered on their own. -/
theorem render_append_newline (hnames : ∀ value ∈ values, '\n' ∉ placeholder value.1)
    (before rest : String) :
    render (before ++ "\n" ++ rest) values =
      render before values ++ "\n" ++ render rest values := by
  have hlines : values.foldl fill (before.toList ++ '\n' :: rest.toList) = _ :=
    foldl_fill_append_cons hnames
  apply String.toList_injective
  simpa [render] using hlines

/-- What has no opening brace is not changed by rendering. -/
theorem render_of_not_mem {template : String} (h : '\x7b' ∉ template.toList) :
    render template values = template := by
  have hholes : ∀ value ∈ values, holes value.1 template.toList = 0 := by
    intro value _
    have hcopy : holes value.1 (template.toList ++ []) = 0 := holes_copy h []
    rwa [List.append_nil] at hcopy
  rw [render, foldl_fill_of_no_holes hholes, String.ofList_toList]

/-- A placeholder alone is rendered as its value if its name comes last. -/
theorem render_placeholder (hvalues : ∀ value ∈ values, Braceless value.1.toList)
    (hname : Braceless name.toList) (hnew : name ∉ values.map (·.1)) (value : String) :
    render (String.ofList (placeholder name)) (values ++ [(name, value)]) = value := by
  have hholes : ∀ v ∈ values, holes v.1 (placeholder name) = 0 := by
    intro v hv
    have hne : v.1 ≠ name := fun heq => hnew (heq ▸ List.mem_map_of_mem hv)
    simpa [holes, hne] using holes_placeholder (hvalues v hv) hname []
  have hown : ∀ v ∈ [(name, value)], Braceless v.1.toList := by simpa using hname
  have hlast := substitute_placeholder hown hname []
  rw [List.append_nil] at hlast
  rw [render, String.toList_ofList, List.foldl_append, foldl_fill_of_no_holes hholes,
    List.foldl_cons, List.foldl_nil, fill_eq_substitute, hlast]
  simp [filled, substitute]

end Template

namespace Prompt

/-- The repair prompt up to the code. -/
def repairOpening : String :=
  Text.join "\n" [
    "The following React component failed automated policy validation.",
    "This is repair attempt \x7b\x7battempt\x7d\x7d of \x7b\x7bmax_attempts\x7d\x7d.",
    "",
    "Validation errors:",
    "\x7b\x7berrors\x7d\x7d",
    "",
    "Previous failed attempts (do not repeat these fixes):",
    "\x7b\x7bprevious_attempts\x7d\x7d",
    "",
    "Change ONLY what is necessary to resolve the errors above. Keep the diff minimal,",
    "preserve the component's behaviour and structure, and do not introduce new imports",
    "outside the existing allowlist.",
    ""]

/-- The repair prompt from the code on. -/
def repairClosing : String :=
  Text.join "\n" [
    "",
    "Start with one or two sentences describing the fix, then return the full corrected",
    "component in one fenced ```tsx code block."]

/-- The template has the placeholder of the code on a line of its own. -/
theorem repair_eq :
    repair = repairOpening ++ "\n" ++ ("Code:\n```tsx" ++ "\n" ++
      (String.ofList (Template.placeholder "code") ++ "\n" ++ ("```\n" ++ repairClosing))) := by
  decide +kernel

end Prompt

namespace RepairTask

/-- No placeholder of a repair runs over the end of a line. -/
theorem newline_not_mem_names (t : RepairTask) :
    ∀ value ∈ t.values, '\n' ∉ Template.placeholder value.1 := by
  simp only [values, List.forall_mem_cons]
  decide

/-- The line of the code is rendered as the code, whatever the other values are. -/
theorem render_code (t : RepairTask) :
    Template.render (String.ofList (Template.placeholder "code")) t.values = t.code := by
  have hvalues : ∀ value ∈ t.values.dropLast, Template.Braceless value.1.toList := by
    simp only [values, List.dropLast, List.forall_mem_cons]
    decide
  have hnew : "code" ∉ t.values.dropLast.map (·.1) := by
    simp only [values, List.dropLast, List.map_cons, List.map_nil]
    decide
  exact Template.render_placeholder hvalues (by decide) hnew t.code

/-- A repair prompt holds the code as it is between the words that lead up to it and the closing
words of the instructions, whatever the code, the errors and the earlier attempts are. -/
theorem prompt_carries_code (t : RepairTask) :
    t.prompt = Template.render Prompt.repairOpening t.values ++ "\n" ++
      ("Code:\n```tsx\n" ++ t.code ++ "\n```\n" ++ Prompt.repairClosing) ∧
    Prompt.repair = Prompt.repairOpening ++ "\n" ++
      ("Code:\n```tsx\n" ++ "\x7b\x7bcode\x7d\x7d" ++ "\n```\n" ++ Prompt.repairClosing) := by
  have hnames := t.newline_not_mem_names
  have hlead : Template.render "Code:\n```tsx" t.values = "Code:\n```tsx" :=
    Template.render_of_not_mem (by decide)
  have hclosing : Template.render ("```\n" ++ Prompt.repairClosing) t.values =
      "```\n" ++ Prompt.repairClosing :=
    Template.render_of_not_mem (by decide +kernel)
  constructor
  · rw [prompt, Prompt.repair_eq, Template.render_append_newline hnames,
      Template.render_append_newline hnames, Template.render_append_newline hnames, hlead,
      t.render_code, hclosing]
    apply String.toList_injective
    simp
  · rw [Prompt.repair_eq]
    apply String.toList_injective
    simp [Template.placeholder]

end RepairTask

end ArtifactPipeline
