import ArtifactPipeline.Proofs.JsonWriting
import Mathlib.Data.List.Nodup

/-!
# The parts of a record in JSON text

A record that is written as an object finds its parts by their names. Members with other names and
the order of the members make no difference, and a part for which there is no member is missing.
-/

namespace ArtifactPipeline

open Json

/-- Items that are written one by one are read back one by one. -/
theorem mapM_map_eq_some {α β : Type} {f : α → β} {g : β → Option α} (h : ∀ a, g (f a) = some a)
    (items : List α) : (items.map f).mapM g = some items := by
  induction items with
  | nil => rfl
  | cons a items ih => simp [List.mapM_cons, h a, ih]

section Lookup

variable {ν : Type} {parts members : List (String × ν)} {name : String}

/-- Nothing is found under a name that does not occur. -/
theorem lookup_of_notMem (h : name ∉ parts.map (·.1)) : parts.lookup name = none := by
  rw [List.lookup_eq_none_iff]
  intro part hpart
  exact bne_iff_ne.mpr fun heq => h (heq ▸ List.mem_map_of_mem hpart)

/-- What stands under a name is found if no name occurs twice. -/
theorem lookup_of_mem {v : ν} (hnames : (parts.map (·.1)).Nodup) (h : (name, v) ∈ parts) :
    parts.lookup name = some v := by
  obtain ⟨front, rest, rfl⟩ := List.append_of_mem h
  refine List.lookup_eq_some_iff.mpr ⟨front, rest, rfl, fun part hpart => ?_⟩
  rw [List.map_append, List.map_cons, List.nodup_append] at hnames
  exact bne_iff_ne.mpr fun heq =>
    hnames.2.2 part.1 (List.mem_map_of_mem hpart) name List.mem_cons_self heq.symm

/-- Where no name occurs twice, the order of the parts makes no difference. -/
theorem lookup_perm (hnames : (parts.map (·.1)).Nodup) (h : members.Perm parts) (name : String) :
    members.lookup name = parts.lookup name := by
  cases hpart : parts.lookup name with
  | none =>
    rw [List.lookup_eq_none_iff] at hpart ⊢
    intro part hmem
    exact hpart part (h.mem_iff.mp hmem)
  | some v =>
    obtain ⟨front, rest, hsplit, -⟩ := List.lookup_eq_some_iff.mp hpart
    have hmem : (name, v) ∈ parts := by simp [hsplit]
    exact lookup_of_mem ((h.map (·.1)).nodup_iff.mpr hnames) (h.mem_iff.mpr hmem)

/-- Parts whose names are dropped are no longer found. -/
theorem lookup_filter_key (keep : String → Bool) (parts : List (String × ν)) (name : String) :
    (parts.filter fun part => keep part.1).lookup name =
      if keep name then parts.lookup name else none := by
  induction parts with
  | nil => simp
  | cons part parts ih =>
    obtain ⟨other, v⟩ := part
    rw [List.filter_cons, List.lookup_cons]
    by_cases hname : name = other
    · subst hname
      by_cases hkeep : keep name = true
      · simp [hkeep]
      · simp [hkeep, ih]
    · have hne : (name == other) = false := beq_eq_false_iff_ne.mpr hname
      by_cases hkeep : keep other = true
      · simp [hkeep, hne, ih, List.lookup_cons]
      · simp [hkeep, hne, ih]

end Lookup

namespace Record

/-- Names none of which occurs twice pass the test for that. -/
theorem distinct_eq_true {names : List String} (h : names.Nodup) : distinct names = true := by
  induction names with
  | nil => rfl
  | cons name names ih =>
    obtain ⟨hnew, hrest⟩ := List.nodup_cons.mp h
    simp [distinct, hnew, ih hrest]

/-- A part that has been left out is read as its default value. -/
theorem withDefault_eq {ν α : Type} {r : Record ν} {name : String} {absent : Prop}
    [Decidable absent] {node : ν} {v : α} {read : ν → Option α} (default : α)
    (hget : r.get? name = if absent then none else some node) (hread : read node = some v) :
    r.withDefault name default read = some (if absent then default else v) := by
  rw [withDefault, hget]
  by_cases habsent : absent
  · simp only [if_pos habsent]
  · simp only [if_neg habsent, hread]

/-- Members with other names, and the order of the members, make no difference to a record. -/
theorem ofNode?_obj {names : List String} {members parts : List (String × Node)}
    (hnames : (parts.map (·.1)).Nodup)
    (h : (members.filter fun m => names.contains m.1).Perm parts) :
    ∃ r, ofNode? names (.obj (members.map fun m => (some m.1, m.2))) = some r ∧
      ∀ name, r.get? name = parts.lookup name := by
  have hdistinct := (h.map (·.1)).nodup_iff.mpr hnames
  refine ⟨⟨false, members.filter fun m => names.contains m.1⟩, ?_, lookup_perm hnames h⟩
  have hnamed := mapM_map_eq_some (f := fun m : String × Node => (some m.1, m.2))
    (g := fun m => m.1.map (·, m.2)) (fun _ => rfl) members
  have hmembers : ofMembers? names members =
      some ⟨false, members.filter fun m => names.contains m.1⟩ :=
    if_pos (distinct_eq_true hdistinct)
  rw [ofNode?, ← hmembers]
  exact congrArg (·.bind (ofMembers? names)) hnamed

/-- The parts of a record that is an object are told apart by their names. -/
theorem positional_of_obj {names : List String} {members : List (Option String × Node)}
    {r : Record Node} (h : ofNode? names (.obj members) = some r) : r.positional = false := by
  obtain ⟨named, -, h⟩ := Option.bind_eq_some_iff.mp h
  dsimp only [ofMembers?] at h
  split at h
  · cases h
    rfl
  · cases h

end Record

/-- A list of texts is read back. -/
theorem Json.list?_texts (texts : List String) :
    Node.list? Node.text? (.arr (texts.map fun s => .str (some s))) = some texts :=
  mapM_map_eq_some (f := fun s => Node.str (some s)) (g := Node.text?) (fun _ => rfl) texts

end ArtifactPipeline
