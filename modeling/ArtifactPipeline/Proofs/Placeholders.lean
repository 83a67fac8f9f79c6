import ArtifactPipeline.Prompt.Template
import Mathlib.Data.List.Find

/-!
# Placeholders

Placeholders whose names have no braces cannot overlap, so each of them divides a text into parts
that are filled on their own. One pass over a template that fills the placeholders of all names is
the measure for filling them one name after another, which is the same pass taken with one name at a
time.
-/

namespace ArtifactPipeline.Template

open Text

/-- A text without braces. -/
def Braceless (text : List Char) : Prop := ∀ c ∈ text, c ≠ '\x7b' ∧ c ≠ '\x7d'

/-- A text has no braces if none of its characters is one, which can be looked up. -/
instance (text : List Char) : Decidable (Braceless text) :=
  List.decidableBAll (fun c => c ≠ '\x7b' ∧ c ≠ '\x7d') text

/-- The name and the value whose placeholder a text begins with. -/
def placeholderAt? (values : List (String × String)) (text : List Char) :
    Option (String × String) :=
  values.find? fun value => (placeholder value.1).isPrefixOf text

/-- One pass from left to right that puts its value in place of each placeholder and copies
everything else. The first argument counts the characters of the placeholder just replaced that are
still to be skipped. -/
def substitute (values : List (String × String)) : (skip : Nat) → List Char → List Char
  | _, [] => []
  | skip + 1, _ :: rest => substitute values skip rest
  | 0, c :: rest =>
    match placeholderAt? values (c :: rest) with
    | some (name, value) =>
      value.toList ++ substitute values ((placeholder name).length - 1) rest
    | none => c :: substitute values 0 rest

/-- A template with all its placeholders filled in one pass. -/
def renderOnce (template : String) (values : List (String × String)) : String :=
  String.ofList (substitute values 0 template.toList)

/-- How often the placeholder of a name stands in a text. -/
def holes (name : String) : List Char → Nat
  | [] => 0
  | c :: rest => (if (placeholder name).isPrefixOf (c :: rest) then 1 else 0) + holes name rest

/-- What one pass leaves in place of the placeholder of a name. -/
def filled (values : List (String × String)) (name : String) : List Char :=
  match values.lookup name with
  | some value => value.toList
  | none => placeholder name

/-! ## Placeholders do not overlap -/

/-- What follows the two opening braces of a placeholder. -/
def body (name : String) : List Char := name.toList ++ ['\x7d', '\x7d']

/-- A placeholder begins with two braces. -/
theorem placeholder_eq (name : String) : placeholder name = '\x7b' :: '\x7b' :: body name := rfl

section Overlaps

variable {name other : String} {text before rest : List Char} {c d : Char}

/-- After the two opening braces there is none any more. -/
theorem not_mem_body (hname : Braceless name.toList) : '\x7b' ∉ body name := by
  intro h
  rcases List.mem_append.mp h with h | h
  · exact (hname _ h).1 rfl
  · revert h
    decide

/-- A text that ends before a separator which it does not hold. -/
theorem prefix_append_cons_iff (h : c ∉ text) :
    text <+: before ++ c :: rest ↔ text <+: before := by
  induction text generalizing before with
  | nil => simp
  | cons a text ih =>
    have hne : a ≠ c := fun heq => h (by simp [heq])
    have hrest : c ∉ text := fun hmem => h (by simp [hmem])
    cases before with
    | nil => simp [List.cons_prefix_cons, hne]
    | cons b before => simp [List.cons_prefix_cons, ih hrest]

/-- A placeholder begins with a brace. -/
theorem not_placeholder_prefix_cons (hc : c ≠ '\x7b') : ¬ placeholder name <+: c :: rest :=
  fun h => hc (List.cons_prefix_cons.mp h).1.symm

/-- A placeholder begins with two braces. -/
theorem not_placeholder_prefix_cons_cons (hd : d ≠ '\x7b') :
    ¬ placeholder name <+: c :: d :: rest := by
  intro h
  rw [placeholder_eq, List.cons_prefix_cons, List.cons_prefix_cons] at h
  exact hd h.2.1.symm

/-- No placeholder begins at the second brace of another one. -/
theorem not_placeholder_prefix_second (hname : Braceless name.toList) (rest : List Char) :
    ¬ placeholder other <+: '\x7b' :: (body name ++ rest) := by
  cases hparts : body name with
  | nil => simp [body] at hparts
  | cons c more =>
    refine not_placeholder_prefix_cons_cons fun heq => ?_
    exact not_mem_body hname (by simp [hparts, heq])

/-- A placeholder that begins before two braces ends before them. -/
theorem placeholder_prefix_before (hname : Braceless name.toList) (hbefore : before ≠ []) :
    placeholder name <+: before ++ '\x7b' :: '\x7b' :: rest ↔ placeholder name <+: before := by
  obtain ⟨b, before, rfl⟩ := List.exists_cons_of_ne_nil hbefore
  cases before with
  | nil =>
    have hbody : ¬ body name <+: '\x7b' :: rest := by
      intro h
      rw [← List.nil_append ('\x7b' :: rest), prefix_append_cons_iff (not_mem_body hname)] at h
      simp [body] at h
    simp [placeholder_eq, List.cons_prefix_cons, hbody]
  | cons b' before =>
    simp only [placeholder_eq, List.cons_append, List.cons_prefix_cons]
    rw [prefix_append_cons_iff (not_mem_body hname)]

/-- Where one placeholder begins, another one begins only if it is the same. -/
theorem placeholder_prefix_placeholder (hname : Braceless name.toList)
    (hother : Braceless other.toList) (rest : List Char) :
    placeholder other <+: placeholder name ++ rest ↔ other = name := by
  refine ⟨fun h => String.toList_injective ?_, fun h => h ▸ List.prefix_append _ _⟩
  simp only [placeholder_eq, body, List.cons_append, List.cons_prefix_cons, true_and,
    List.append_assoc] at h
  generalize other.toList = os at h hother
  generalize name.toList = ns at h hname
  induction os generalizing ns with
  | nil =>
    cases ns with
    | nil => rfl
    | cons n ns => exact absurd (List.cons_prefix_cons.mp h).1.symm (hname n (by simp)).2
  | cons o os ih =>
    cases ns with
    | nil => exact absurd (List.cons_prefix_cons.mp h).1 (hother o (by simp)).2
    | cons n ns =>
      obtain ⟨rfl, hrest⟩ := List.cons_prefix_cons.mp h
      have hos : Braceless os := fun c hc => hother c (by simp [hc])
      have hns : Braceless ns := fun c hc => hname c (by simp [hc])
      rw [ih hos ns hrest hns]

end Overlaps

/-! ## One pass -/

section OnePass

variable {values : List (String × String)} {name : String} {before text rest : List Char}

/-- Where no placeholder begins, none is found. -/
theorem placeholderAt?_eq_none (h : ∀ name, ¬ placeholder name <+: text) :
    placeholderAt? values text = none := by
  simp [placeholderAt?, List.find?_eq_none, h]

/-- What is found begins there. -/
theorem placeholder_prefix_of_placeholderAt? {value : String × String}
    (h : placeholderAt? values text = some value) : placeholder value.1 <+: text := by
  simpa using List.find?_some h

/-- What is found does not depend on what comes behind a place that no placeholder runs over. -/
theorem placeholderAt?_congr {text' : List Char}
    (h : ∀ value ∈ values, placeholder value.1 <+: text ↔ placeholder value.1 <+: text') :
    placeholderAt? values text = placeholderAt? values text' := by
  refine List.find?_congr fun value hvalue => ?_
  rw [Bool.eq_iff_iff, List.isPrefixOf_iff_prefix, List.isPrefixOf_iff_prefix]
  exact h value hvalue

/-- The placeholder of a name is found as that of the name, if the name has a value. -/
theorem placeholderAt?_placeholder (hvalues : ∀ value ∈ values, Braceless value.1.toList)
    (hname : Braceless name.toList) (rest : List Char) :
    placeholderAt? values (placeholder name ++ rest) = (values.lookup name).map (name, ·) := by
  induction values with
  | nil => rfl
  | cons value values ih =>
    obtain ⟨other, text⟩ := value
    have hother : Braceless other.toList := hvalues (other, text) (by simp)
    have hrest := ih fun value hvalue => hvalues value (by simp [hvalue])
    have hstarts := placeholder_prefix_placeholder hname hother rest
    by_cases hsame : name = other
    · subst hsame
      simp [placeholderAt?]
    · have hne : ¬ placeholder other <+: placeholder name ++ rest := by
        rw [hstarts]
        exact Ne.symm hsame
      rw [List.lookup_cons, beq_false_of_ne hsame, ← hrest, placeholderAt?,
        List.find?_cons_of_neg (by simpa using hne)]
      rfl

/-- Without values a pass copies the text. -/
@[simp] theorem substitute_nil (text : List Char) : substitute [] 0 text = text := by
  induction text with
  | nil => rfl
  | cons c text ih => exact congrArg (c :: ·) ih

/-- What is to be skipped leaves no trace. -/
theorem substitute_skip (values : List (String × String)) (before rest : List Char) :
    substitute values before.length (before ++ rest) = substitute values 0 rest := by
  induction before with
  | nil => rfl
  | cons c before ih => exact ih

/-- The two sides of a border that no placeholder runs over are filled on their own. -/
theorem substitute_append {skip : Nat} (hskip : skip ≤ before.length)
    (hborder : ∀ part, part ≠ [] →
      placeholderAt? values (part ++ rest) = placeholderAt? values part) :
    substitute values skip (before ++ rest) =
      substitute values skip before ++ substitute values 0 rest := by
  induction before generalizing skip with
  | nil =>
    obtain rfl : skip = 0 := Nat.le_zero.mp hskip
    rfl
  | cons c before ih =>
    cases skip with
    | succ skip => exact ih (by simpa using hskip)
    | zero =>
      have hat := hborder (c :: before) (by simp)
      rw [List.cons_append] at hat ⊢
      rw [substitute, substitute, hat]
      cases hfound : placeholderAt? values (c :: before) with
      | none =>
        rw [List.cons_append, ← ih (Nat.zero_le _)]
      | some value =>
        have hlength := (placeholder_prefix_of_placeholderAt? hfound).length_le
        rw [List.append_assoc, ← ih (by simp only [List.length_cons] at hlength; omega)]

/-- A text without opening braces is copied. -/
theorem substitute_copy (htext : '\x7b' ∉ text) :
    substitute values 0 (text ++ rest) = text ++ substitute values 0 rest := by
  induction text with
  | nil => rfl
  | cons c text ih =>
    have hc : c ≠ '\x7b' := fun heq => htext (by simp [heq])
    have hnone : placeholderAt? values (c :: (text ++ rest)) = none :=
      placeholderAt?_eq_none fun name => not_placeholder_prefix_cons hc
    rw [List.cons_append, substitute, hnone, ih fun hmem => htext (by simp [hmem])]
    rfl

/-- A placeholder makes way for its value, or is copied if it has none. -/
theorem substitute_placeholder (hvalues : ∀ value ∈ values, Braceless value.1.toList)
    (hname : Braceless name.toList) (rest : List Char) :
    substitute values 0 (placeholder name ++ rest) =
      filled values name ++ substitute values 0 rest := by
  have hat := placeholderAt?_placeholder hvalues hname rest
  rw [placeholder_eq, List.cons_append] at hat ⊢
  rw [substitute, hat, filled]
  cases values.lookup name with
  | some value =>
    have hskip := substitute_skip values ('\x7b' :: body name) rest
    rw [Option.map_some, placeholder_eq]
    exact congrArg (value.toList ++ ·) hskip
  | none =>
    have hinside : placeholderAt? values ('\x7b' :: (body name ++ rest)) = none :=
      placeholderAt?_eq_none fun other => not_placeholder_prefix_second hname rest
    rw [Option.map_none, List.cons_append]
    dsimp only
    rw [substitute, hinside, substitute_copy (not_mem_body hname), placeholder_eq]
    rfl

/-- A placeholder divides a text into parts that are filled on their own. -/
theorem substitute_cut (hvalues : ∀ value ∈ values, Braceless value.1.toList)
    (hname : Braceless name.toList) :
    substitute values 0 (before ++ (placeholder name ++ rest)) =
      substitute values 0 before ++ (filled values name ++ substitute values 0 rest) := by
  rw [← substitute_placeholder hvalues hname]
  refine substitute_append (Nat.zero_le _) fun part hpart => ?_
  exact placeholderAt?_congr fun value hvalue =>
    placeholder_prefix_before (hvalues value hvalue) hpart

/-- A character that stands in no placeholder divides a text into parts that are filled on their
own. -/
theorem substitute_append_cons {c : Char} (hc : ∀ value ∈ values, c ∉ placeholder value.1) :
    substitute values 0 (before ++ c :: rest) =
      substitute values 0 before ++ c :: substitute values 0 rest := by
  have hnone : placeholderAt? values (c :: rest) = none := by
    rw [placeholderAt?, List.find?_eq_none]
    intro value hvalue h
    obtain ⟨hhead, -⟩ := List.cons_prefix_cons.mp (List.isPrefixOf_iff_prefix.mp h)
    exact hc value hvalue (by simp [placeholder_eq, ← hhead])
  have hrest : substitute values 0 (c :: rest) = c :: substitute values 0 rest := by
    rw [substitute, hnone]
  rw [← hrest]
  refine substitute_append (Nat.zero_le _) fun part _ => ?_
  exact placeholderAt?_congr fun value hvalue => prefix_append_cons_iff (hc value hvalue)

/-- Filling the placeholders of one name is a pass with that name alone. -/
theorem fill_eq_substitute (text : List Char) (value : String × String) :
    fill text value = substitute [value] 0 text := by
  have hskipping (skip : Nat) (text : List Char) :
      replaceSkipping (placeholder value.1) value.2.toList skip text =
        substitute [value] skip text := by
    induction text generalizing skip with
    | nil => cases skip <;> rfl
    | cons c rest ih =>
      cases skip with
      | succ skip => exact ih skip
      | zero =>
        rw [replaceSkipping, substitute, placeholderAt?, List.find?_singleton, ih, ih]
        by_cases h : (placeholder value.1).isPrefixOf (c :: rest) = true
        · simp only [h, if_true]
        · simp only [h, if_false, Bool.false_eq_true]
  exact hskipping 0 text

end OnePass

/-! ## Counting placeholders -/

section Holes

variable {values : List (String × String)} {name other : String} {before text rest : List Char}

/-- Holes are counted in two parts of a text where no placeholder goes across the border. -/
theorem holes_append (hborder : ∀ part, part ≠ [] →
    (placeholder name <+: part ++ rest ↔ placeholder name <+: part)) :
    holes name (before ++ rest) = holes name before + holes name rest := by
  induction before with
  | nil => simp [holes]
  | cons c before ih =>
    have hat : (placeholder name).isPrefixOf (c :: (before ++ rest)) =
        (placeholder name).isPrefixOf (c :: before) := by
      rw [Bool.eq_iff_iff, List.isPrefixOf_iff_prefix, List.isPrefixOf_iff_prefix]
      exact hborder (c :: before) (by simp)
    rw [List.cons_append, holes, holes, hat, ih, Nat.add_assoc]

/-- Where no opening brace stands, there is no placeholder. -/
theorem holes_copy (htext : '\x7b' ∉ text) (rest : List Char) :
    holes name (text ++ rest) = holes name rest := by
  induction text with
  | nil => rfl
  | cons c text ih =>
    have hc : c ≠ '\x7b' := fun heq => htext (by simp [heq])
    have hnot : ¬ placeholder name <+: c :: (text ++ rest) := not_placeholder_prefix_cons hc
    rw [List.cons_append, holes, if_neg (by simpa using hnot), Nat.zero_add,
      ih fun hmem => htext (by simp [hmem])]

/-- A placeholder is a hole for its own name only. -/
theorem holes_placeholder (hname : Braceless name.toList) (hother : Braceless other.toList)
    (rest : List Char) :
    holes name (placeholder other ++ rest) = (if name = other then 1 else 0) + holes name rest := by
  have hfirst := placeholder_prefix_placeholder hother hname rest
  have hinside : ¬ placeholder name <+: '\x7b' :: (body other ++ rest) :=
    not_placeholder_prefix_second hother rest
  rw [placeholder_eq other, List.cons_append, List.cons_append] at hfirst ⊢
  have hsecond : holes name ('\x7b' :: (body other ++ rest)) = holes name rest := by
    rw [holes, if_neg (by simpa using hinside), Nat.zero_add, holes_copy (not_mem_body hother)]
  rw [holes, hsecond]
  simp only [List.isPrefixOf_iff_prefix, hfirst]

/-- A placeholder in the middle divides the holes of a text into those before it, itself and
those behind it. -/
theorem holes_cut (hname : Braceless name.toList) (hother : Braceless other.toList) :
    holes name (before ++ (placeholder other ++ rest)) =
      holes name before + ((if name = other then 1 else 0) + holes name rest) := by
  rw [← holes_placeholder hname hother]
  exact holes_append fun part hpart => placeholder_prefix_before hname hpart

/-- A text with a placeholder of some name is divided by the first one of them. -/
theorem exists_first_hole (h : holes name text ≠ 0) :
    ∃ before rest, text = before ++ (placeholder name ++ rest) ∧ holes name before = 0 := by
  induction text with
  | nil => exact absurd rfl h
  | cons c text ih =>
    by_cases hat : placeholder name <+: c :: text
    · obtain ⟨rest, hrest⟩ := hat
      exact ⟨[], rest, hrest.symm, rfl⟩
    · rw [holes, if_neg (by simpa using hat), Nat.zero_add] at h
      obtain ⟨before, rest, rfl, hnone⟩ := ih h
      refine ⟨c :: before, rest, rfl, ?_⟩
      have hshort : ¬ placeholder name <+: c :: before := fun hstarts =>
        hat (hstarts.trans ⟨placeholder name ++ rest, rfl⟩)
      rw [holes, if_neg (by simpa using hshort), hnone]

/-- What holds of texts without placeholders of a name, and of a text that begins with one of them
if it holds of the rest, holds of all texts. -/
theorem cut_induction {motive : List Char → Prop} (name : String)
    (none : ∀ text, holes name text = 0 → motive text)
    (cut : ∀ before rest, holes name before = 0 → motive rest →
      motive (before ++ (placeholder name ++ rest))) (text : List Char) : motive text := by
  by_cases h : holes name text = 0
  · exact none text h
  · obtain ⟨before, rest, htext, hbefore⟩ := exists_first_hole h
    have hshorter : rest.length < text.length := by
      rw [htext]
      simp only [List.length_append, placeholder_eq, List.length_cons]
      omega
    rw [htext]
    exact cut before rest hbefore (cut_induction name none cut rest)
termination_by text.length

/-- A name without placeholders in a text has no part in the pass over it. -/
theorem substitute_concat_of_no_holes (value : String) (h : holes name text = 0) :
    substitute (values ++ [(name, value)]) 0 text = substitute values 0 text := by
  have hpass (skip : Nat) :
      substitute (values ++ [(name, value)]) skip text = substitute values skip text := by
    induction text generalizing skip with
    | nil => cases skip <;> rfl
    | cons c text ih =>
      have hat : ¬ placeholder name <+: c :: text := by
        intro hstarts
        rw [holes, if_pos (by simpa using hstarts)] at h
        omega
      have hrest := ih (by rw [holes] at h; omega)
      cases skip with
      | succ skip => exact hrest skip
      | zero =>
        have hfound : placeholderAt? (values ++ [(name, value)]) (c :: text) =
            placeholderAt? values (c :: text) := by
          rw [placeholderAt?, placeholderAt?, List.find?_append,
            List.find?_cons_of_neg (by simpa using hat), List.find?_nil, Option.or_none]
        rw [substitute, substitute, hfound, hrest]
        simp only [hrest]
  exact hpass 0

/-- A text without placeholders of a name is left as it is when they are filled. -/
theorem fill_of_no_holes (value : String) (h : holes name text = 0) :
    fill text (name, value) = text := by
  rw [fill_eq_substitute, ← List.nil_append [(name, value)], substitute_concat_of_no_holes value h,
    substitute_nil]

end Holes

end ArtifactPipeline.Template
