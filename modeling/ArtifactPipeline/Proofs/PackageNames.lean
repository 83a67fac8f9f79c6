import ArtifactPipeline.Policy.Imports
import ArtifactPipeline.Proofs.Trimming

/-!
# Names of modules and packages

The name of a module is cut off before the slash that ends its package. What is left is never the
name of a module of the project itself: such a name would have been followed by a slash, and then the
whole name would have belonged to the project. So paths inside of a package make no difference, and
a package is its own package.
-/

namespace ArtifactPipeline.Imports

open Text

variable {name package path : List Char} {slashes : Nat}

/-! ## Segments -/

/-- A name is cut off before a slash, or left whole. -/
theorem segments_cases (count : Nat) (name : List Char) :
    segments count name = name ∨ ∃ rest, name = segments count name ++ '/' :: rest := by
  fun_induction segments count name with
  | case1 count => exact Or.inl rfl
  | case2 count rest => exact Or.inr ⟨rest, rfl⟩
  | case3 count rest _ ih | case4 count c rest _ ih =>
    rcases ih with heq | ⟨more, heq⟩
    · exact Or.inl (by rw [heq])
    · exact Or.inr ⟨more, by rw [List.cons_append, ← heq]⟩

/-- The first segments of a name are its beginning. -/
theorem segments_isPrefix (count : Nat) (name : List Char) : segments count name <+: name := by
  rcases segments_cases count name with heq | ⟨rest, heq⟩
  · exact ⟨[], by rw [List.append_nil, heq]⟩
  · exact ⟨_, heq.symm⟩

/-- Fewer slashes than segments are kept. -/
theorem count_segments (slashes : Nat) (name : List Char) :
    (segments (slashes + 1) name).count '/' ≤ slashes := by
  induction name generalizing slashes with
  | nil => simp [segments]
  | cons c rest ih =>
    rw [segments]
    by_cases hc : c = '/'
    · rw [if_pos hc]
      cases slashes with
      | zero => simp
      | succ slashes =>
        have hrest := ih slashes
        rw [if_neg (by omega), hc, List.count_cons_self]
        exact Nat.succ_le_succ hrest
    · rw [if_neg hc, List.count_cons_of_ne hc]
      exact ih slashes

/-- A name with fewer slashes than segments is left whole. -/
theorem segments_eq_self (h : name.count '/' ≤ slashes) : segments (slashes + 1) name = name := by
  induction name generalizing slashes with
  | nil => rw [segments]
  | cons c rest ih =>
    rw [segments]
    by_cases hc : c = '/'
    · rw [hc, List.count_cons_self] at h
      obtain ⟨more, rfl⟩ : ∃ more, slashes = more + 1 := ⟨slashes - 1, by omega⟩
      rw [if_pos hc, if_neg (by omega), Nat.add_sub_cancel, ih (by omega)]
    · rw [List.count_cons_of_ne hc] at h
      rw [if_neg hc, ih h]

/-- A name is cut off where its segments end. -/
theorem segments_append (h : name.count '/' = slashes) (path : List Char) :
    segments (slashes + 1) (name ++ '/' :: path) = name := by
  induction name generalizing slashes with
  | nil =>
    obtain rfl : slashes = 0 := by simpa using h.symm
    rfl
  | cons c rest ih =>
    rw [List.cons_append, segments]
    by_cases hc : c = '/'
    · rw [hc, List.count_cons_self] at h
      obtain ⟨more, rfl⟩ : ∃ more, slashes = more + 1 := ⟨slashes - 1, by omega⟩
      rw [if_pos hc, if_neg (by omega), Nat.add_sub_cancel, ih (by omega)]
    · rw [List.count_cons_of_ne hc] at h
      rw [if_neg hc, ih h]

/-! ## Packages -/

/-- Where a module of the project itself is looked for: `./`, `../`, `/`, `@/` and `~/`. -/
def projectPlaces : List (List Char) := [['.'], ['.', '.'], [], ['@'], ['~']]

/-- How the name of a module of the project itself reads: it is empty, one or two dots, or begins
with a place of the project and a slash. -/
def OfProject (name : List Char) : Prop :=
  name = [] ∨ name = ['.'] ∨ name = ['.', '.'] ∨ ∃ place ∈ projectPlaces, place ++ ['/'] <+: name

/-- The test for names of the project decides what it says. -/
theorem isLocal_iff : isLocal name = true ↔ OfProject name := by
  simp [isLocal, localStarts, OfProject, projectPlaces, or_assoc]

/-- How many slashes the name of a package may hold: the name of a scoped package has two
segments. -/
def slashesOf (name : List Char) : Nat := if name.head? = some '@' then 1 else 0

/-- The package of a name that does not belong to the project is its first segments, one more
than there are slashes in a package name of its kind. -/
theorem packageName_eq (s : List Char) :
    packageName s =
      if isLocal (trim s) then none else some (segments (slashesOf (trim s) + 1) (trim s)) := by
  have hcount : (if (trim s).head? == some '@' then 2 else 1) = slashesOf (trim s) + 1 := by
    rw [slashesOf]
    by_cases hscope : (trim s).head? = some '@'
    · simp [hscope]
    · simp [hscope]
  rw [packageName, ← hcount]

/-- A name has no package exactly if it belongs to the project. -/
theorem packageName_eq_none (s : List Char) : packageName s = none ↔ OfProject (trim s) := by
  rw [packageName_eq, ← isLocal_iff]
  simp

/-- A name has a package exactly if it belongs to another project, and then it is the first
segments. -/
theorem packageName_eq_some (s : List Char) :
    packageName s = some package ↔
      ¬ OfProject (trim s) ∧ segments (slashesOf (trim s) + 1) (trim s) = package := by
  rw [packageName_eq, ← isLocal_iff]
  simp

/-- What is left of the name of a module of a package is no name of a module of the project. -/
theorem not_ofProject_segments (count : Nat) (h : ¬ OfProject name) :
    ¬ OfProject (segments count name) := by
  rcases segments_cases count name with heq | ⟨rest, heq⟩
  · rwa [heq]
  · -- A name of the project would have been followed by the slash.
    have hfollowed {place : List Char} (hplace : place ∈ projectPlaces)
        (hsegments : segments count name = place) : OfProject name := by
      rw [heq, hsegments]
      exact Or.inr (Or.inr (Or.inr ⟨place, hplace, by simp⟩))
    rintro (hnil | hdot | hdots | ⟨place, hplace, hstart⟩)
    · exact h (hfollowed (by simp [projectPlaces]) hnil)
    · exact h (hfollowed (by simp [projectPlaces]) hdot)
    · exact h (hfollowed (by simp [projectPlaces]) hdots)
    · exact h (Or.inr (Or.inr (Or.inr ⟨place, hplace, hstart.trans (segments_isPrefix count name)⟩)))

/-- What is left of a name that is not empty begins as the name does. -/
theorem slashesOf_segments (h : ¬ OfProject name) (count : Nat) :
    slashesOf (segments count name) = slashesOf name := by
  have hleft := not_ofProject_segments count h
  obtain ⟨rest, hrest⟩ := segments_isPrefix count name
  generalize segments count name = front at hleft hrest
  cases front with
  | nil => exact absurd (Or.inl rfl) hleft
  | cons c front =>
    rw [← hrest]
    rfl

/-- A package is its own package. -/
theorem packageName_package (hblank : trim package = package) {s : List Char}
    (h : packageName s = some package) : packageName package = some package := by
  obtain ⟨houtside, rfl⟩ := (packageName_eq_some s).mp h
  rw [packageName_eq_some, hblank]
  refine ⟨not_ofProject_segments _ houtside, ?_⟩
  rw [slashesOf_segments houtside]
  exact segments_eq_self (count_segments _ _)

/-- A slash behind a text without slashes is the first slash. -/
theorem before_slash {base : List Char} (hbase : '/' ∉ base)
    (h : base ++ ['/'] <+: name ++ '/' :: path) : base ++ ['/'] <+: name ∨ base = name := by
  induction base generalizing name with
  | nil =>
    cases name with
    | nil => exact Or.inr rfl
    | cons c name =>
      obtain ⟨hc, -⟩ := List.cons_prefix_cons.mp h
      exact Or.inl (by simp [← hc])
  | cons b base ih =>
    rw [List.mem_cons, not_or] at hbase
    cases name with
    | nil =>
      obtain ⟨hb, -⟩ := List.cons_prefix_cons.mp h
      exact absurd hb.symm hbase.1
    | cons c name =>
      obtain ⟨rfl, hrest⟩ := List.cons_prefix_cons.mp h
      rcases ih hbase.2 hrest with hstart | rfl
      · exact Or.inl (List.cons_prefix_cons.mpr ⟨rfl, hstart⟩)
      · exact Or.inr rfl

/-- A package with a slash and a path behind it is no module of the project, as the name of a scoped
package goes on behind its scope. -/
theorem not_ofProject_append (h : ¬ OfProject name) (hscope : name.count '/' = slashesOf name)
    (htilde : name ≠ ['~']) (path : List Char) : ¬ OfProject (name ++ '/' :: path) := by
  have hslash : '/' ∈ name ++ '/' :: path := by simp
  rintro (heq | heq | heq | ⟨place, hplace, hstart⟩)
  · simp [heq] at hslash
  · simp [heq] at hslash
  · simp [heq] at hslash
  · have hplain : '/' ∉ place := (by decide : ∀ place ∈ projectPlaces, '/' ∉ place) place hplace
    rcases before_slash hplain hstart with hname | rfl
    · exact h (Or.inr (Or.inr (Or.inr ⟨place, hplace, hname⟩)))
    · simp only [projectPlaces, List.mem_cons, List.not_mem_nil, or_false] at hplace
      rcases hplace with rfl | rfl | rfl | rfl | rfl
      · exact h (by simp [OfProject])
      · exact h (by simp [OfProject])
      · exact h (by simp [OfProject])
      · cases hscope
      · exact htilde rfl

/-- Paths inside of a package make no difference. -/
theorem packageName_append (hblank : trim name = name) (htilde : name ≠ ['~'])
    (hscope : name.head? = some '@' → name.count '/' = 1) (h : packageName name = some name)
    (path : List Char) : packageName (name ++ '/' :: path) = some name := by
  rw [packageName_eq_some, hblank] at h
  obtain ⟨houtside, hwhole⟩ := h
  have hslashes : name.count '/' = slashesOf name := by
    have hmost := count_segments (slashesOf name) name
    rw [hwhole, slashesOf] at hmost
    rw [slashesOf]
    by_cases hat : name.head? = some '@'
    · rw [if_pos hat]
      exact hscope hat
    · rw [if_neg hat] at hmost ⊢
      omega
  have hname : name ≠ [] := by
    rintro rfl
    exact houtside (Or.inl rfl)
  obtain ⟨more, htrim⟩ := trim_append_cons hblank hname (show isWhitespace '/' = false by decide) path
  have hbegins : slashesOf (name ++ '/' :: more) = slashesOf name := by
    obtain ⟨c, rest, rfl⟩ := List.exists_cons_of_ne_nil hname
    rfl
  rw [packageName_eq_some, htrim, hbegins]
  exact ⟨not_ofProject_append houtside hslashes htilde more, segments_append hslashes more⟩

/-- The package of a module. A module has none exactly if its trimmed name is empty or reads as that
of a module of the project itself. Otherwise the package is a beginning of the trimmed name, with one
segment or, if it is scoped, at most two. A path inside of a package has that package, and a package
is its own package. -/
theorem packageName_reduces (s : List Char) :
    (packageName s = none ↔ OfProject (trim s)) ∧
    (∀ package, packageName s = some package → package ≠ [] ∧ package <+: trim s ∧
      ((trim s).head? ≠ some '@' → '/' ∉ package) ∧
      ((trim s).head? = some '@' → package.count '/' ≤ 1)) ∧
    (trim s = s → s ≠ ['~'] → (s.head? = some '@' → s.count '/' = 1) → packageName s = some s →
      ∀ path, packageName (s ++ '/' :: path) = some s) ∧
    ((∀ c ∈ s, isWhitespace c = false) → (packageName s).bind packageName = packageName s) := by
  refine ⟨packageName_eq_none s, ?_, packageName_append, ?_⟩
  · intro package hpackage
    obtain ⟨houtside, rfl⟩ := (packageName_eq_some s).mp hpackage
    have hmost := count_segments (slashesOf (trim s)) (trim s)
    refine ⟨fun hnil => ?_, segments_isPrefix _ _, fun hplain => ?_, fun hscope => ?_⟩
    · exact not_ofProject_segments _ houtside (Or.inl hnil)
    · rw [slashesOf, if_neg hplain] at hmost ⊢
      exact List.count_eq_zero.mp (Nat.le_zero.mp hmost)
    · rwa [slashesOf, if_pos hscope] at hmost ⊢
  · intro hblank
    cases hpackage : packageName s with
    | none => rfl
    | some package =>
      have hwhole : ∀ c ∈ package, isWhitespace c = false := by
        obtain ⟨-, rfl⟩ := (packageName_eq_some s).mp hpackage
        rw [trim_eq_self hblank]
        exact fun c hc => hblank c ((segments_isPrefix _ s).subset hc)
      exact packageName_package (trim_eq_self hwhole) hpackage

example : packageName " @radix-ui/react-dialog/dist".toList = some "@radix-ui/react-dialog".toList ∧
    packageName "~/lib".toList = none := by decide

end ArtifactPipeline.Imports
