import ArtifactPipeline.Proofs.Placeholders
import Mathlib.Data.List.Find
import Mathlib.Data.List.Nodup

/-!
# Filling a template name by name

The placeholders of a template are filled one name after another, so a value that brings or
completes the placeholder of a name whose turn comes later is filled as if it belonged to the
template. The main statement says that nothing else sets this apart from filling all placeholders in
one pass, and that it cannot happen where the values hold no braces and the template has none beside
its placeholders.
-/

namespace ArtifactPipeline.Template

variable {values : List (String × String)} {name value : String} {before text rest : List Char}

/-- A text whose braces all belong to placeholders. -/
inductive Tidy : List Char → Prop
  | nil : Tidy []
  | plain {c : Char} {rest : List Char} (hopen : c ≠ '\x7b') (hclose : c ≠ '\x7d')
      (hrest : Tidy rest) : Tidy (c :: rest)
  | hole {name : String} {rest : List Char} (hname : Braceless name.toList) (hrest : Tidy rest) :
      Tidy (placeholder name ++ rest)

/-! ## The first placeholder of the next name -/

section Cut

variable (hvalues : ∀ v ∈ values, Braceless v.1.toList) (hname : Braceless name.toList)
  (hnew : name ∉ values.map (·.1)) (hbefore : holes name before = 0)

include hname in
/-- Filling a text at a placeholder puts the value there and fills what stands on either side.
-/
theorem fill_cut (value : String) :
    fill (before ++ (placeholder name ++ rest)) (name, value) =
      fill before (name, value) ++ (value.toList ++ fill rest (name, value)) := by
  have hone : ∀ v ∈ [(name, value)], Braceless v.1.toList := by simpa using hname
  have hfilled : filled [(name, value)] name = value.toList := by simp [filled]
  rw [fill_eq_substitute, substitute_cut hone hname, hfilled, ← fill_eq_substitute,
    ← fill_eq_substitute]

include hnew in
/-- A name that has not had its turn has no value yet. -/
theorem lookup_of_new : values.lookup name = none := by
  rw [List.lookup_eq_none_iff]
  intro v hv
  exact bne_iff_ne.mpr fun heq => hnew (heq ▸ List.mem_map_of_mem hv)

include hvalues hname hnew in
/-- The pass without a name keeps its placeholders. -/
theorem substitute_cut_of_new :
    substitute values 0 (before ++ (placeholder name ++ rest)) =
      substitute values 0 before ++ (placeholder name ++ substitute values 0 rest) := by
  rw [substitute_cut hvalues hname, filled, lookup_of_new hnew]

include hvalues hname hnew hbefore in
/-- The pass with a name puts its value in their place. -/
theorem substitute_concat_cut (value : String) :
    substitute (values ++ [(name, value)]) 0 (before ++ (placeholder name ++ rest)) =
      substitute values 0 before ++
        (value.toList ++ substitute (values ++ [(name, value)]) 0 rest) := by
  have hall : ∀ v ∈ values ++ [(name, value)], Braceless v.1.toList := by
    intro v hv
    rcases List.mem_append.mp hv with hv | hv
    · exact hvalues v hv
    · rw [List.mem_singleton.mp hv]
      exact hname
  have hfilled : filled (values ++ [(name, value)]) name = value.toList := by
    simp [filled, List.lookup_append, lookup_of_new hnew]
  rw [substitute_cut hall hname, hfilled, substitute_concat_of_no_holes value hbefore]

end Cut

/-! ## How long the texts become -/

section Lengths

variable (hvalues : ∀ v ∈ values, Braceless v.1.toList) (hname : Braceless name.toList)
  (hnew : name ∉ values.map (·.1))

include hname in
/-- Each hole that is filled takes the length of its placeholder off a text and adds that of the
value. -/
theorem length_fill (value : String) (text : List Char) :
    (fill text (name, value)).length + holes name text * (placeholder name).length =
      text.length + holes name text * value.toList.length := by
  induction text using cut_induction name with
  | none text h => simp [fill_of_no_holes value h, h]
  | cut before rest hbefore ih =>
    rw [fill_cut hname, fill_of_no_holes value hbefore, holes_cut hname hname, hbefore]
    simp only [List.length_append, if_true, Nat.zero_add, Nat.add_mul, Nat.one_mul]
    omega

include hvalues hname hnew in
/-- One name more makes the result of a pass longer or shorter by what the template has holes
for it. -/
theorem length_substitute_concat (value : String) (text : List Char) :
    (substitute (values ++ [(name, value)]) 0 text).length +
        holes name text * (placeholder name).length =
      (substitute values 0 text).length + holes name text * value.toList.length := by
  induction text using cut_induction name with
  | none text h => simp [substitute_concat_of_no_holes value h, h]
  | cut before rest hbefore ih =>
    rw [substitute_concat_cut hvalues hname hnew hbefore, substitute_cut_of_new hvalues hname hnew,
      holes_cut hname hname, hbefore]
    simp only [List.length_append, if_true, Nat.zero_add, Nat.add_mul, Nat.one_mul]
    omega

include hvalues hname hnew in
/-- The values of other names only add to the placeholders of a name. -/
theorem holes_le_holes_substitute (text : List Char) :
    holes name text ≤ holes name (substitute values 0 text) := by
  induction text using cut_induction name with
  | none text h => simp [h]
  | cut before rest hbefore ih =>
    rw [substitute_cut_of_new hvalues hname hnew, holes_cut hname hname, holes_cut hname hname,
      hbefore]
    omega

end Lengths

/-! ## The next name -/

section NextName

variable (hvalues : ∀ v ∈ values, Braceless v.1.toList) (hname : Braceless name.toList)
  (hnew : name ∉ values.map (·.1))

include hname in
/-- A value that is the placeholder of its own name changes nothing. -/
theorem fill_own_placeholder (hvalue : value.toList = placeholder name) (text : List Char) :
    fill text (name, value) = text := by
  induction text using cut_induction name with
  | none text h => exact fill_of_no_holes value h
  | cut before rest hbefore ih =>
    rw [fill_cut hname, fill_of_no_holes value hbefore, hvalue, ih]

include hvalues hname hnew in
/-- In one pass too a value that is the placeholder of its own name might as well be missing. -/
theorem substitute_own_placeholder (hvalue : value.toList = placeholder name)
    (text : List Char) :
    substitute (values ++ [(name, value)]) 0 text = substitute values 0 text := by
  induction text using cut_induction name with
  | none text h => exact substitute_concat_of_no_holes value h
  | cut before rest hbefore ih =>
    rw [substitute_concat_cut hvalues hname hnew hbefore, substitute_cut_of_new hvalues hname hnew,
      hvalue, ih]

include hvalues hname hnew in
/-- Where the other values add no placeholder of a name, its turn may come last. -/
theorem fill_substitute (value : String) (text : List Char)
    (h : holes name (substitute values 0 text) = holes name text) :
    fill (substitute values 0 text) (name, value) =
      substitute (values ++ [(name, value)]) 0 text := by
  induction text using cut_induction name with
  | none text hnone =>
    rw [substitute_concat_of_no_holes value hnone, fill_of_no_holes value (h.trans hnone)]
  | cut before rest hbefore ih =>
    rw [substitute_cut_of_new hvalues hname hnew, holes_cut hname hname, holes_cut hname hname,
      hbefore] at h
    have hrest := holes_le_holes_substitute hvalues hname hnew rest
    rw [substitute_cut_of_new hvalues hname hnew, substitute_concat_cut hvalues hname hnew hbefore,
      fill_cut hname, fill_of_no_holes value (by omega), ih (by omega)]

include hname in
/-- Where a text is divided at the first placeholder of a name, and has stood its filling, the value
is the placeholder. -/
theorem own_placeholder_of_fill_cut {after : List Char}
    (hlength : value.toList.length = (placeholder name).length)
    (h : fill before (name, value) ++ after = before ++ rest) (hbefore : holes name before ≠ 0) :
    value.toList = placeholder name := by
  obtain ⟨first, more, rfl, hfirst⟩ := exists_first_hole hbefore
  rw [fill_cut hname, fill_of_no_holes value hfirst, List.append_assoc, List.append_assoc,
    List.append_assoc, List.append_assoc] at h
  exact (List.append_inj (List.append_cancel_left h) hlength).1

include hvalues hname hnew in
/-- A value of the length of the placeholder shows where it is filled in. -/
theorem own_placeholder_of_fill_substitute (text : List Char)
    (hlength : value.toList.length = (placeholder name).length)
    (h : fill (substitute values 0 text) (name, value) =
      substitute (values ++ [(name, value)]) 0 text)
    (hmore : holes name (substitute values 0 text) ≠ holes name text) :
    value.toList = placeholder name := by
  induction text using cut_induction name with
  | none text hnone =>
    rw [substitute_concat_of_no_holes value hnone] at h
    have hsame : fill (substitute values 0 text) (name, value) ++ [] =
        substitute values 0 text ++ [] := by rw [h]
    exact own_placeholder_of_fill_cut hname hlength hsame (hnone ▸ hmore)
  | cut before rest hbefore ih =>
    rw [substitute_cut_of_new hvalues hname hnew, holes_cut hname hname, holes_cut hname hname,
      hbefore] at hmore
    rw [substitute_cut_of_new hvalues hname hnew, substitute_concat_cut hvalues hname hnew hbefore,
      fill_cut hname] at h
    by_cases hnone : holes name (substitute values 0 before) = 0
    · rw [fill_of_no_holes value hnone] at h
      exact ih (List.append_cancel_left (List.append_cancel_left h)) (by omega)
    · exact own_placeholder_of_fill_cut hname hlength h hnone

include hvalues hname hnew in
/-- Filling one more name in what a pass has left is the pass with that name too exactly if the pass
has added no placeholder of the name, or the value is the placeholder itself. -/
theorem fill_substitute_iff (value : String) (text : List Char) :
    fill (substitute values 0 text) (name, value) =
        substitute (values ++ [(name, value)]) 0 text ↔
      value.toList = placeholder name ∨
        holes name (substitute values 0 text) = holes name text := by
  constructor
  · intro h
    by_cases hmore : holes name (substitute values 0 text) = holes name text
    · exact .inr hmore
    refine .inl (own_placeholder_of_fill_substitute hvalues hname hnew text ?_ h hmore)
    have hfilled := length_fill hname value (substitute values 0 text)
    have hpassed := length_substitute_concat hvalues hname hnew value text
    have hless := holes_le_holes_substitute hvalues hname hnew text
    obtain ⟨extra, hextra⟩ := Nat.exists_eq_add_of_lt (Nat.lt_of_le_of_ne hless (Ne.symm hmore))
    rw [h, hextra] at hfilled
    have hcancel : (extra + 1) * value.toList.length = (extra + 1) * (placeholder name).length := by
      simp only [Nat.add_mul, Nat.one_mul] at hfilled ⊢
      omega
    exact Nat.eq_of_mul_eq_mul_left (Nat.succ_pos extra) hcancel
  · rintro (hvalue | h)
    · rw [fill_own_placeholder hname hvalue,
        substitute_own_placeholder hvalues hname hnew hvalue]
    · exact fill_substitute hvalues hname hnew value text h

end NextName

/-! ## All names -/

/-- The values so far have distinct names, and the name that comes next is new. -/
theorem not_mem_take_names {n : Nat} {v : String × String}
    (hdistinct : (values.map (·.1)).Nodup) (hv : values[n]? = some v) :
    v.1 ∉ (values.take n).map (·.1) := by
  obtain ⟨hn, hv⟩ := List.getElem?_eq_some_iff.mp hv
  have hsplit : values.take n ++ v :: values.drop (n + 1) = values := by
    rw [← hv, List.getElem_cons_drop, List.take_append_drop]
  rw [← hsplit, List.map_append, List.map_cons, List.nodup_append] at hdistinct
  exact fun hmem => hdistinct.2.2 _ hmem _ List.mem_cons_self rfl

/-- Filling name by name agrees with one pass after each name exactly if no name has more holes
when its turn comes than the template had for it, unless its value is its own placeholder. -/
theorem foldl_fill_iff (hvalues : ∀ v ∈ values, Braceless v.1.toList)
    (hdistinct : (values.map (·.1)).Nodup) (text : List Char) :
    (∀ n, (values.take n).foldl fill text = substitute (values.take n) 0 text) ↔
      ∀ n v, values[n]? = some v → v.2.toList = placeholder v.1 ∨
        holes v.1 (substitute (values.take n) 0 text) = holes v.1 text := by
  have hsome (n : Nat) (v : String × String) (hv : values[n]? = some v) :
      values.take (n + 1) = values.take n ++ [v] := by
    rw [List.take_add_one, hv, Option.toList_some]
  have hstep (n : Nat) (v : String × String) (hv : values[n]? = some v) :=
    fill_substitute_iff (fun w hw => hvalues w (List.mem_of_mem_take hw))
      (hvalues v (List.mem_of_getElem? hv)) (not_mem_take_names hdistinct hv) v.2 text
  constructor
  · intro h n v hv
    have hnext := h (n + 1)
    rw [hsome n v hv, List.foldl_append, h n] at hnext
    exact (hstep n v hv).mp hnext
  · intro h n
    induction n with
    | zero => exact (substitute_nil text).symm
    | succ n ih =>
      cases hv : values[n]? with
      | none =>
        rw [List.take_add_one, hv, Option.toList_none, List.append_nil]
        exact ih
      | some v =>
        rw [hsome n v hv, List.foldl_append, ih]
        exact (hstep n v hv).mpr (h n v hv)

/-- One pass does not depend on the order of the values. -/
theorem substitute_perm {values' : List (String × String)}
    (hvalues : ∀ v ∈ values, Braceless v.1.toList) (hdistinct : (values.map (·.1)).Nodup)
    (hperm : values'.Perm values) (text : List Char) :
    substitute values' 0 text = substitute values 0 text := by
  -- Two placeholders at one place have the same name, and then are the same value.
  have hat (text : List Char) : placeholderAt? values' text = placeholderAt? values text := by
    refine List.find?_eq_find?_of_perm hperm ?_
    rintro v ⟨hv, hstarts⟩ w ⟨hw, hsame⟩
    have hv := hperm.mem_iff.mp hv
    have hw := hperm.mem_iff.mp hw
    obtain ⟨rest, hrest⟩ := List.isPrefixOf_iff_prefix.mp hstarts
    rw [List.isPrefixOf_iff_prefix, ← hrest,
      placeholder_prefix_placeholder (hvalues v hv) (hvalues w hw)] at hsame
    exact List.inj_on_of_nodup_map hdistinct hv hw hsame.symm
  have hpass (skip : Nat) (text : List Char) :
      substitute values' skip text = substitute values skip text := by
    induction text generalizing skip with
    | nil => cases skip <;> rfl
    | cons c text ih =>
      cases skip with
      | succ skip => exact ih skip
      | zero => simp only [substitute, hat, ih]
  exact hpass 0 text

/-! ## Values without braces -/

/-- A text without braces adds no holes. -/
theorem holes_braceless (hvalue : Braceless text) :
    holes name (text ++ rest) = holes name rest :=
  holes_copy (fun hmem => (hvalue _ hmem).1 rfl) rest

/-- In a tidy template, values without braces bring no placeholders. -/
theorem Tidy.holes_substitute (htidy : Tidy text)
    (hvalues : ∀ v ∈ values, Braceless v.1.toList ∧ Braceless v.2.toList)
    (hname : Braceless name.toList) (hnew : name ∉ values.map (·.1)) :
    holes name (substitute values 0 text) = holes name text := by
  have hnames : ∀ v ∈ values, Braceless v.1.toList := fun v hv => (hvalues v hv).1
  induction htidy with
  | nil => rfl
  | @plain c rest hopen _ _ ih =>
    have hc : '\x7b' ∉ [c] := by simpa using hopen.symm
    rw [← List.singleton_append, substitute_copy hc, holes_copy hc, holes_copy hc, ih]
  | @hole other rest hother _ ih =>
    rw [substitute_placeholder hnames hother, holes_placeholder hname hother, filled]
    cases hfound : values.lookup other with
    | none => rw [holes_placeholder hname hother, ih]
    | some value =>
      have hmem : (other, value) ∈ values := by
        obtain ⟨_, _, rfl, -⟩ := List.lookup_eq_some_iff.mp hfound
        simp
      have hne : name ≠ other := fun heq => hnew (heq ▸ List.mem_map_of_mem hmem)
      rw [holes_braceless (hvalues _ hmem).2, ih, if_neg hne, Nat.zero_add]

/-! ## Rendering -/

/-- Rendering fills the placeholders of a template in one pass, after each of the names, exactly if
no value so far has brought a placeholder of the name whose turn comes next, or that name stands for
its own placeholder. One pass does not depend on the order of the values. A tidy template is
rendered in one pass, whatever the order, if the values hold no braces. -/
theorem render_simultaneous_iff (template : String) (values : List (String × String))
    (hnames : ∀ value ∈ values, Braceless value.1.toList)
    (hdistinct : (values.map (·.1)).Nodup) :
    ((∀ n, render template (values.take n) = renderOnce template (values.take n)) ↔
      ∀ n value, values[n]? = some value → value.2.toList = placeholder value.1 ∨
        holes value.1 (renderOnce template (values.take n)).toList =
          holes value.1 template.toList) ∧
    (∀ values' : List (String × String), values'.Perm values →
      renderOnce template values' = renderOnce template values ∧
      (Tidy template.toList → (∀ value ∈ values, Braceless value.2.toList) →
        render template values' = renderOnce template values)) := by
  refine ⟨?_, fun values' hperm => ⟨?_, fun htidy hbraceless => ?_⟩⟩
  · simp only [render, renderOnce, String.ofList_inj, String.toList_ofList]
    exact foldl_fill_iff hnames hdistinct template.toList
  · rw [renderOnce, substitute_perm hnames hdistinct hperm, renderOnce]
  · have hvalues : ∀ v ∈ values', Braceless v.1.toList ∧ Braceless v.2.toList := fun v hv =>
      ⟨hnames v (hperm.mem_iff.mp hv), hbraceless v (hperm.mem_iff.mp hv)⟩
    have hdistinct' : (values'.map (·.1)).Nodup := (hperm.map _).nodup_iff.mpr hdistinct
    have hstages := (foldl_fill_iff (fun v hv => (hvalues v hv).1) hdistinct'
      template.toList).mpr fun n v hv => .inr (htidy.holes_substitute
        (fun w hw => hvalues w (List.mem_of_mem_take hw)) (hvalues v (List.mem_of_getElem? hv)).1
        (not_mem_take_names hdistinct' hv))
    have hlast := hstages values'.length
    rw [List.take_length] at hlast
    rw [render, hlast, substitute_perm hnames hdistinct hperm, renderOnce]

/-- A report on code, and the code. -/
def quotingValues : List (String × String) :=
  [("errors", "style=\x7b\x7bcode\x7d\x7d is not allowed"), ("code", "<br />")]

/-- A template for the report and the code. -/
def reportTemplate : String := "\x7b\x7berrors\x7d\x7d: \x7b\x7bcode\x7d\x7d"

/-- Where the report quotes no code, the order of report and code does not matter. -/
theorem render_simultaneous_report :
    render reportTemplate [("code", "<br />"), ("errors", "no style")] = "no style: <br />" := by
  have hnames : ∀ value ∈ [("errors", "no style"), ("code", "<br />")],
      Braceless value.1.toList := by decide
  have hvalues : ∀ value ∈ [("errors", "no style"), ("code", "<br />")],
      Braceless value.2.toList := by decide
  have htidy : Tidy reportTemplate.toList :=
    .hole (show Braceless "errors".toList by decide) <| .plain (by decide) (by decide) <|
      .plain (by decide) (by decide) <| .hole (show Braceless "code".toList by decide) .nil
  obtain ⟨-, hrender⟩ :=
    (render_simultaneous_iff reportTemplate _ hnames (by decide)).2 _ (List.Perm.swap _ _ _)
  exact (hrender htidy hvalues).trans (by decide)

/-- A report that quotes the placeholder of the code is rendered with the code in its place, while
one pass leaves the quotation as it is. -/
theorem render_fills_quotation :
    (∀ value ∈ quotingValues, Braceless value.1.toList) ∧ (quotingValues.map (·.1)).Nodup ∧
    render reportTemplate quotingValues = "style=<br /> is not allowed: <br />" ∧
    renderOnce reportTemplate quotingValues =
      "style=\x7b\x7bcode\x7d\x7d is not allowed: <br />" ∧
    render reportTemplate quotingValues.reverse = renderOnce reportTemplate quotingValues ∧
    render reportTemplate quotingValues ≠ renderOnce reportTemplate quotingValues := by
  decide

end ArtifactPipeline.Template
