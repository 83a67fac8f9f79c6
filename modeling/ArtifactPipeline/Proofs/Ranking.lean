import Mathlib.Data.List.FinRange

/-!
# Rankings

A ranking compares items by what counts about them, and several of them may be level. Sorting keeps
level items in the order of the list, so it puts the places of the list into an order in which no
two of them are level. That order says which items are the first ones, and which is the first that
satisfies a condition. A list that is sorted by a number is known from the items with each number.
-/

namespace ArtifactPipeline

/-- A comparison that ranks items: it can be chained, and of two items one is at least as high as
the other. -/
structure IsRanking {α : Type} (above : α → α → Bool) : Prop where
  trans : ∀ a b c, above a b = true → above b c = true → above a c = true
  total : ∀ a b, (above a b || above b a) = true

/-- The first places of a list in some order, as many as asked for if there are so many. They are in
order, and all others come after them. -/
structure Leading {n : Nat} (before : Fin n → Fin n → Prop) (count : Nat)
    (places : List (Fin n)) : Prop where
  length : places.length = min count n
  ordered : places.Pairwise before
  ahead : ∀ i ∈ places, ∀ j, j ∉ places → before i j

/-- The first places of an order are the first places of any order that says as much. -/
theorem Leading.imp {n count : Nat} {before before' : Fin n → Fin n → Prop} {places : List (Fin n)}
    (h : Leading before count places) (himp : ∀ i j, before i j → before' i j) :
    Leading before' count places where
  length := h.length
  ordered := h.ordered.imp (himp _ _)
  ahead i hi j hj := himp i j (h.ahead i hi j hj)

namespace Ranking

variable {α : Type} {above : α → α → Bool} {items : List α}

/-- Items are ranked by a number, the highest first. -/
theorem isRanking_key (key : α → Nat) : IsRanking fun a b => key b ≤ key a where
  trans a b c hab hbc := by
    rw [decide_eq_true_eq] at *
    omega
  total a b := by
    rw [Bool.or_eq_true, decide_eq_true_eq, decide_eq_true_eq]
    omega

/-! ## The order of the places -/

/-- A place of a list comes before another one: its item is at least as high, and if they are level
it stands first. -/
def Before (above : α → α → Bool) (items : List α) (i j : Fin items.length) : Prop :=
  above items[i] items[j] = true ∧ (above items[j] items[i] = true → i < j)

/-- The places of a list in the order of a ranking. -/
def places (above : α → α → Bool) (items : List α) : List (Fin items.length) :=
  (List.finRange items.length).mergeSort fun i j =>
    List.zipIdxLE above (items[i], i.val) (items[j], j.val)

/-- Sorting a list brings its places into order. -/
theorem map_places (above : α → α → Bool) (items : List α) :
    (places above items).map (items[·]) = items.mergeSort above := by
  have hitems : (List.finRange items.length).map (fun i => (items[i], i.val)) = items.zipIdx := by
    apply List.ext_getElem
    · simp
    · intro i h₁ h₂
      simp
  have hsorted : (places above items).map (fun i => (items[i], i.val)) =
      items.zipIdx.mergeSort (List.zipIdxLE above) := by
    rw [← hitems]
    exact List.map_mergeSort fun _ _ _ _ => rfl
  rw [← List.mergeSort_zipIdx, ← hsorted, List.map_map]
  rfl

/-- Every place of the list is ranked. -/
theorem mem_places (above : α → α → Bool) (i : Fin items.length) : i ∈ places above items := by
  rw [places, List.mem_mergeSort]
  exact List.mem_finRange i

/-- No place is ranked twice. -/
theorem nodup_places (above : α → α → Bool) (items : List α) : (places above items).Nodup :=
  (List.nodup_finRange _).perm (List.mergeSort_perm _ _).symm

/-- There are as many ranked places as items. -/
theorem length_places (above : α → α → Bool) (items : List α) :
    (places above items).length = items.length := by
  rw [places, List.length_mergeSort, List.length_finRange]

/-- Sorting items with their places compares places as the ranking does. -/
theorem before_of_zipIdxLE {i j : Fin items.length} (hne : i ≠ j)
    (h : List.zipIdxLE above (items[i], i.val) (items[j], j.val) = true) :
    Before above items i j := by
  unfold List.zipIdxLE at h
  by_cases hij : above items[i] items[j] = true
  · refine ⟨hij, fun hji => ?_⟩
    rw [if_pos hij, if_pos hji, decide_eq_true_eq] at h
    omega
  · rw [if_neg hij] at h
    cases h

/-- Each place comes before those that are listed after it. -/
theorem pairwise_places (h : IsRanking above) (items : List α) :
    (places above items).Pairwise (Before above items) := by
  have hsorted : (places above items).Pairwise fun i j =>
      List.zipIdxLE above (items[i], i.val) (items[j], j.val) = true := by
    apply List.pairwise_mergeSort
    · intro i j k
      exact List.zipIdxLE_trans h.trans _ _ _
    · intro i j
      exact List.zipIdxLE_total h.total _ _
  exact (hsorted.and (nodup_places above items)).imp fun ⟨hle, hne⟩ => before_of_zipIdxLE hne hle

/-- In an ordered list, what is taken from the front comes before what is left. -/
theorem rel_of_not_mem_take {r : α → α → Prop} {count : Nat} (hordered : items.Pairwise r) {a b : α}
    (ha : a ∈ items.take count) (hb : b ∈ items) (hnot : b ∉ items.take count) : r a b := by
  rw [← List.take_append_drop count items, List.mem_append] at hb
  exact hordered.rel_of_mem_take_of_mem_drop ha (hb.resolve_left hnot)

/-- The first places in the order of a ranking. -/
theorem leading_take (h : IsRanking above) (items : List α) (count : Nat) :
    Leading (Before above items) count ((places above items).take count) where
  length := by rw [List.length_take, length_places]
  ordered := (pairwise_places h items).sublist (List.take_sublist _ _)
  ahead i hi j hj := rel_of_not_mem_take (pairwise_places h items) hi (mem_places above j) hj

/-- A search through a sorted list finds the item whose place comes before those of all others that
satisfy the condition, or there are none. -/
theorem find?_mergeSort_cases (h : IsRanking above) (p : α → Bool) (items : List α) :
    (∃ i : Fin items.length, p items[i] = true ∧
      (∀ j, p items[j] = true → j ≠ i → Before above items i j) ∧
      (items.mergeSort above).find? p = some items[i]) ∨
    ((∀ a ∈ items, p a = false) ∧ (items.mergeSort above).find? p = none) := by
  rw [← map_places, List.find?_map]
  cases hfind : (places above items).find? (p ∘ (items[·])) with
  | none =>
    refine .inr ⟨fun a ha => ?_, rfl⟩
    obtain ⟨i, hi, rfl⟩ := List.getElem_of_mem ha
    exact eq_false_of_ne_true (List.find?_eq_none.mp hfind ⟨i, hi⟩ (mem_places above _))
  | some i =>
    obtain ⟨hi, front, back, hplaces, hfront⟩ := List.find?_eq_some_iff_append.mp hfind
    refine .inl ⟨i, hi, fun j hj hne => ?_, rfl⟩
    have hordered := pairwise_places h items
    have hmem := mem_places above j
    rw [hplaces] at hordered hmem
    have hnot : j ∉ front := by
      intro hjfront
      have hfalse := hfront j hjfront
      rw [Function.comp_apply, hj] at hfalse
      cases hfalse
    have hback : j ∈ back := by simpa [hnot, hne] using hmem
    exact List.rel_of_pairwise_cons (List.pairwise_append.mp hordered).2.1 hback

/-- If no two items are level, the sorted list does not depend on the order of the list. -/
theorem mergeSort_eq_of_perm (h : IsRanking above)
    (hstrict : ∀ a b, above a b = true → above b a = true → a = b) {items' : List α}
    (hperm : items'.Perm items) : items'.mergeSort above = items.mergeSort above := by
  have hsorted (l : List α) : (l.mergeSort above).Pairwise fun a b => above a b = true :=
    List.pairwise_mergeSort h.trans h.total l
  apply List.Perm.eq_of_pairwise _ (hsorted items') (hsorted items)
  · exact (List.mergeSort_perm _ _).trans (hperm.trans (List.mergeSort_perm _ _).symm)
  · intro a b _ _
    exact hstrict a b

/-! ## Lists that are sorted by a number -/

/-- Sorting keeps items of one kind in order if they are level with each other. -/
theorem filter_mergeSort (h : IsRanking above) {p : α → Bool}
    (hlevel : ∀ a b, p a = true → p b = true → above a b = true) (items : List α) :
    (items.mergeSort above).filter p = items.filter p := by
  have hsorted : (items.filter p).Pairwise fun a b => above a b = true := by
    refine List.pairwise_of_forall_mem_list fun a ha b hb => ?_
    exact hlevel a b (List.mem_filter.mp ha).2 (List.mem_filter.mp hb).2
  have hsublist : (items.filter p).Sublist ((items.mergeSort above).filter p) := by
    have hkept := (List.sublist_mergeSort h.trans h.total hsorted List.filter_sublist).filter p
    simpa only [List.filter_filter, Bool.and_self] using hkept
  have hlength := ((List.mergeSort_perm items above).filter p).length_eq
  exact (hsublist.eq_of_length hlength.symm).symm

/-- What a list holds is known from the items with each number. -/
theorem mem_iff_of_filter_key {key : α → Nat} {items' : List α}
    (h : ∀ k, items.filter (key · == k) = items'.filter (key · == k)) (a : α) :
    a ∈ items ↔ a ∈ items' := by
  have hkey := congrArg (a ∈ ·) (h (key a))
  simpa only [List.mem_filter, BEq.rfl, and_true, eq_iff_iff] using hkey

/-- Lists that are sorted by a number are the same if they hold the same items with each number. -/
theorem eq_of_filter_key {key : α → Nat} {items' : List α}
    (hsorted : items.Pairwise fun a b => key b ≤ key a)
    (hsorted' : items'.Pairwise fun a b => key b ≤ key a)
    (h : ∀ k, items.filter (key · == k) = items'.filter (key · == k)) : items = items' := by
  induction items generalizing items' with
  | nil =>
    cases items' with
    | nil => rfl
    | cons b items' => cases (mem_iff_of_filter_key h b).mpr List.mem_cons_self
  | cons a items ih =>
    cases items' with
    | nil => cases (mem_iff_of_filter_key h a).mp List.mem_cons_self
    | cons b items' =>
      -- Both begin with the highest number, and so with the first item that has it.
      have hba : key b ≤ key a := by
        rcases List.mem_cons.mp ((mem_iff_of_filter_key h b).mpr List.mem_cons_self) with rfl | hb
        · exact Nat.le_refl _
        · exact List.rel_of_pairwise_cons hsorted hb
      have hab : key a ≤ key b := by
        rcases List.mem_cons.mp ((mem_iff_of_filter_key h a).mp List.mem_cons_self) with rfl | ha
        · exact Nat.le_refl _
        · exact List.rel_of_pairwise_cons hsorted' ha
      have hsame : key b = key a := Nat.le_antisymm hba hab
      have hfirst := h (key a)
      rw [List.filter_cons_of_pos (by simp), List.filter_cons_of_pos (by simp [hsame])] at hfirst
      obtain ⟨rfl, hrest⟩ := List.cons.inj hfirst
      rw [ih hsorted.of_cons hsorted'.of_cons fun k => ?_]
      by_cases hk : key a = k
      · rwa [← hk]
      · have hother := h k
        rwa [List.filter_cons_of_neg (by simp [hk]),
          List.filter_cons_of_neg (by simp [hk])] at hother

/-- Sorting by a number gives the same list for two lists that hold the same items with each
number in the same order. -/
theorem mergeSort_key_congr (key : α → Nat) {items' : List α}
    (hfilter : ∀ k, items.filter (key · == k) = items'.filter (key · == k)) :
    items.mergeSort (fun a b => key b ≤ key a) = items'.mergeSort (fun a b => key b ≤ key a) := by
  have hrank := isRanking_key key
  have hsorted (l : List α) :
      (l.mergeSort fun a b => key b ≤ key a).Pairwise fun a b => key b ≤ key a := by
    simpa only [decide_eq_true_eq] using List.pairwise_mergeSort hrank.trans hrank.total l
  refine eq_of_filter_key (hsorted items) (hsorted items') fun k => ?_
  have hlevel : ∀ a b, (key a == k) = true → (key b == k) = true →
      decide (key b ≤ key a) = true := by
    intro a b ha hb
    rw [beq_iff_eq] at ha hb
    rw [decide_eq_true_eq]
    omega
  rw [filter_mergeSort hrank hlevel, filter_mergeSort hrank hlevel, hfilter]

end Ranking

end ArtifactPipeline
