import ArtifactPipeline.Store.Memory
import Mathlib.Data.List.Induction
import Mathlib.Data.List.Nodup

/-!
# Lists with keys

The store finds a record by its key and replaces it where it stands. Replacing keeps the order of
the keys and changes what is found under one key only; putting a record under a new key adds the key
at the end. Where no key occurs twice, a list is known by the order of its keys and by what is found
under each of them.
-/

namespace ArtifactPipeline

variable {α β : Type}

/-! ## Replacing the first item that satisfies a condition -/

section Replacing

variable {p q : α → Bool} {change : α → α} {items items' : List α}

/-- Nothing is replaced if nothing is found. -/
theorem replaceFirst?_eq_none : replaceFirst? p change items = none ↔ items.find? p = none := by
  induction items with
  | nil => simp [replaceFirst?]
  | cons a items ih =>
    cases hp : p a with
    | true => simp [replaceFirst?, hp]
    | false => simp [replaceFirst?, hp, ih]

/-- The item that is replaced is the first one that satisfies the condition. -/
theorem replaceFirst?_eq_modify :
    replaceFirst? p change items = (items.findIdx? p).map (items.modify · change) := by
  induction items with
  | nil => rfl
  | cons a items ih =>
    cases hp : p a with
    | true => simp [replaceFirst?, List.findIdx?_cons, hp]
    | false => simp [replaceFirst?, List.findIdx?_cons, hp, ih, Function.comp_def]

/-- Where an item is replaced, it stands behind items that do not satisfy the condition. -/
theorem replaceFirst?_eq_some (h : replaceFirst? p change items = some items') :
    ∃ before a after, items = before ++ a :: after ∧ items' = before ++ change a :: after ∧
      p a = true ∧ ∀ b ∈ before, p b = false := by
  induction items generalizing items' with
  | nil => cases h
  | cons a items ih =>
    by_cases hp : p a = true
    · have hitems : change a :: items = items' := by simpa [replaceFirst?, hp] using h
      exact ⟨[], a, items, rfl, hitems.symm, hp, by simp⟩
    · have hrest : (replaceFirst? p change items).map (a :: ·) = some items' := by
        simpa [replaceFirst?, hp] using h
      obtain ⟨rest, hreplace, rfl⟩ := Option.map_eq_some_iff.mp hrest
      obtain ⟨before, b, after, rfl, rfl, hb, hbefore⟩ := ih hreplace
      refine ⟨a :: before, b, after, rfl, rfl, hb, ?_⟩
      intro c hc
      rcases List.mem_cons.mp hc with rfl | hc
      · simpa using hp
      · exact hbefore c hc

/-- Replacing the first item that satisfies a condition by another one changes what is found. -/
theorem find?_replaceFirst? (h : replaceFirst? p change items = some items')
    (hchange : ∀ a, p (change a) = true) : items'.find? p = (items.find? p).map change := by
  obtain ⟨before, a, after, rfl, rfl, ha, hbefore⟩ := replaceFirst?_eq_some h
  have hnone : before.find? p = none := by simpa using hbefore
  simp [List.find?_append, hnone, ha, hchange]

/-- The first item that satisfies a condition is looked for behind those that do not. -/
theorem replaceFirst?_append (change : α → α) {before : List α} (items : List α)
    (hbefore : ∀ a ∈ before, p a = false) :
    replaceFirst? p change (before ++ items) =
      (replaceFirst? p change items).map (before ++ ·) := by
  induction before with
  | nil => simp
  | cons a before ih =>
    have ha : p a = false := hbefore a (by simp)
    have hrest := ih fun b hb => hbefore b (by simp [hb])
    rw [List.cons_append, replaceFirst?, if_neg (by simp [ha]), hrest, Option.map_map]
    rfl

/-- Items of another kind are not affected when an item is replaced by one of its own kind. -/
theorem filter_replaceFirst? (h : replaceFirst? p change items = some items')
    (hold : ∀ a ∈ items, p a = true → q a = false)
    (hnew : ∀ a, p a = true → q (change a) = false) : items'.filter q = items.filter q := by
  obtain ⟨before, a, after, rfl, rfl, ha, -⟩ := replaceFirst?_eq_some h
  simp [List.filter_append, hold a (by simp) ha, hnew a ha]

/-- A record outside a selection may be put in the place of one outside it, and the selection
stays. -/
theorem filter_putFirst {a : α} (hold : ∀ b ∈ items, p b = true → q b = false)
    (hnew : q a = false) : (putFirst p a items).filter q = items.filter q := by
  unfold putFirst
  cases hreplace : replaceFirst? p (fun _ => a) items with
  | some items' => exact filter_replaceFirst? hreplace hold fun _ _ => hnew
  | none => simp [List.filter_append, hnew]

/-- What is in a list after a record was put into it is the record or was there before. -/
theorem mem_of_mem_putFirst {a b : α} (hb : b ∈ putFirst p a items) : b = a ∨ b ∈ items := by
  unfold putFirst at hb
  cases hreplace : replaceFirst? p (fun _ => a) items with
  | some items' =>
    obtain ⟨before, c, after, rfl, rfl, -⟩ := replaceFirst?_eq_some hreplace
    rw [hreplace, Option.getD_some] at hb
    rcases List.mem_append.mp hb with hb | hb
    · exact .inr (List.mem_append_left _ hb)
    · rcases List.mem_cons.mp hb with rfl | hb
      · exact .inl rfl
      · exact .inr (List.mem_append_right _ (List.mem_cons_of_mem _ hb))
  | none =>
    rw [hreplace, Option.getD_none] at hb
    rcases List.mem_append.mp hb with hb | hb
    · exact .inr hb
    · exact .inl (List.mem_singleton.mp hb)

end Replacing

/-! ## Lists without repetitions -/

section Distinct

variable [BEq α] [LawfulBEq α] {items : List α} {a : α}

/-- An item at the end is kept if it is new. -/
theorem eraseDups_concat : (items ++ [a]).eraseDups =
    if a ∈ items then items.eraseDups else items.eraseDups ++ [a] := by
  rw [List.eraseDups_append]
  by_cases ha : a ∈ items
  · have hold : [a].removeAll items = [] := by simp [List.removeAll, ha]
    rw [hold, if_pos ha]
    exact List.append_nil _
  · have hnew : [a].removeAll items = [a] := by simp [List.removeAll, ha]
    rw [hnew, if_neg ha]
    rfl

/-- No item occurs twice once the repetitions are erased. -/
theorem nodup_eraseDups (items : List α) : items.eraseDups.Nodup := by
  induction items using List.reverseRecOn with
  | nil => exact List.nodup_nil
  | append_singleton items a ih =>
    rw [eraseDups_concat]
    by_cases ha : a ∈ items
    · rwa [if_pos ha]
    · rw [if_neg ha, ← List.concat_eq_append]
      exact List.Nodup.concat (mt List.mem_eraseDups.mp ha) ih

/-- Erasing the repetitions keeps the order of what is left. -/
theorem eraseDups_sublist (items : List α) : items.eraseDups.Sublist items := by
  induction items using List.reverseRecOn with
  | nil => exact List.Sublist.refl _
  | append_singleton items a ih =>
    rw [eraseDups_concat]
    split
    · exact ih.trans (List.sublist_append_left items [a])
    · exact ih.append (List.Sublist.refl [a])

/-- Dropping what comes again before a list is mapped makes no difference if it is dropped
afterwards. -/
theorem eraseDups_map_eraseDups [BEq β] [LawfulBEq β] (f : α → β) (items : List α) :
    (items.eraseDups.map f).eraseDups = (items.map f).eraseDups := by
  induction items using List.reverseRecOn with
  | nil => rfl
  | append_singleton items a ih =>
    rw [List.map_append, List.map_singleton, eraseDups_concat, eraseDups_concat, ← ih]
    split
    · next ha => rw [if_pos (List.mem_map_of_mem ha)]
    · have hmem : f a ∈ items.eraseDups.map f ↔ f a ∈ items.map f := by
        simp [List.mem_map, List.mem_eraseDups]
      rw [List.map_append, List.map_singleton, eraseDups_concat]
      exact if_congr hmem rfl rfl

/-- A list in which nothing is repeated is left alone. -/
theorem eraseDups_of_nodup (h : items.Nodup) : items.eraseDups = items := by
  induction items using List.reverseRecOn with
  | nil => rfl
  | append_singleton items a ih =>
    obtain ⟨hitems, -, hnew⟩ := List.nodup_append.mp h
    have ha : a ∉ items := fun ha => hnew a ha a (by simp) rfl
    rw [eraseDups_concat, if_neg ha, ih hitems]

end Distinct

/-! ## Keys -/

section Keys

variable [DecidableEq β] {key : α → β} {k : β} {change : α → α} {items items' : List α} {a : α}

/-- Nothing is found under a key that no record has. -/
theorem find?_key_eq_none : items.find? (key · == k) = none ↔ k ∉ items.map key := by
  simp [List.find?_eq_none]

/-- Under each key of the list an item with that key is found. -/
theorem exists_find?_key (h : k ∈ items.map key) :
    ∃ a ∈ items, key a = k ∧ items.find? (key · == k) = some a := by
  cases hfind : items.find? (key · == k) with
  | none => exact absurd h (find?_key_eq_none.mp hfind)
  | some a => exact ⟨a, List.mem_of_find?_eq_some hfind, by simpa using List.find?_some hfind, rfl⟩

/-- Nothing is replaced under a key that no record has. -/
theorem replaceFirst?_key_eq_none :
    replaceFirst? (key · == k) change items = none ↔ k ∉ items.map key :=
  replaceFirst?_eq_none.trans find?_key_eq_none

/-- Only what has the key is replaced. -/
theorem mem_of_replaceFirst?_key (h : replaceFirst? (key · == k) change items = some items') :
    k ∈ items.map key := by
  by_contra hnew
  rw [replaceFirst?_key_eq_none.mpr hnew] at h
  cases h

/-- Where no two items have the same key, changing the first item with a key changes each item that
has it. -/
theorem replaceFirst?_eq_map (hnodup : (items.map key).Nodup)
    (h : replaceFirst? (key · == k) change items = some items') :
    items' = items.map fun a => if key a = k then change a else a := by
  obtain ⟨before, a, after, rfl, rfl, ha, -⟩ := replaceFirst?_eq_some h
  have hkey : key a = k := by simpa using ha
  rw [List.map_append, List.map_cons, List.nodup_middle, List.nodup_cons] at hnodup
  have hothers : ∀ {others : List α}, others ⊆ before ++ after →
      others.map (fun b => if key b = k then change b else b) = others := by
    intro others hsubset
    have hsame : ∀ b ∈ others, (if key b = k then change b else b) = id b := by
      intro b hb
      refine if_neg fun hb' => hnodup.1 ?_
      rw [hkey, ← hb', ← List.map_append]
      exact List.mem_map_of_mem (hsubset hb)
    rw [List.map_congr_left hsame, List.map_id]
  rw [List.map_append, List.map_cons, if_pos hkey, hothers (List.subset_append_left ..),
    hothers (List.subset_append_right ..)]

/-- Replacing an item by one with the same key keeps the order of the keys. -/
theorem map_key_replaceFirst? (h : replaceFirst? (key · == k) change items = some items')
    (hchange : ∀ a, key a = k → key (change a) = k) : items'.map key = items.map key := by
  obtain ⟨before, a, after, rfl, rfl, ha, -⟩ := replaceFirst?_eq_some h
  have hkey : key a = k := by simpa using ha
  simp [hchange a hkey, hkey]

/-- Replacing an item by one with the same key changes what is found under that key only. -/
theorem find?_key_replaceFirst? (h : replaceFirst? (key · == k) change items = some items')
    (hchange : ∀ a, key a = k → key (change a) = k) (k' : β) : items'.find? (key · == k') =
      if k' = k then (items.find? (key · == k)).map change else items.find? (key · == k') := by
  obtain ⟨before, a, after, rfl, rfl, ha, hbefore⟩ := replaceFirst?_eq_some h
  have hkey : key a = k := by simpa using ha
  have hnone : before.find? (key · == k) = none := by simpa using hbefore
  by_cases hk : k' = k
  · subst hk
    simp [List.find?_append, hnone, hkey, hchange a hkey]
  · have hother : (k == k') = false := beq_false_of_ne (Ne.symm hk)
    simp [List.find?_append, hkey, hchange a hkey, hother, hk]

/-- A put adds its key at the end unless the key is there already. -/
theorem map_key_putFirst : (putFirst (key · == key a) a items).map key =
    if key a ∈ items.map key then items.map key else items.map key ++ [key a] := by
  unfold putFirst
  cases hreplace : replaceFirst? (key · == key a) (fun _ => a) items with
  | some items' =>
    rw [if_pos (mem_of_replaceFirst?_key hreplace)]
    exact map_key_replaceFirst? hreplace fun _ _ => rfl
  | none => simp [replaceFirst?_key_eq_none.mp hreplace]

/-- A put is found under its key and changes nothing else. -/
theorem find?_key_putFirst (k : β) : (putFirst (key · == key a) a items).find? (key · == k) =
    if k = key a then some a else items.find? (key · == k) := by
  unfold putFirst
  cases hreplace : replaceFirst? (key · == key a) (fun _ => a) items with
  | some items' =>
    obtain ⟨b, -, -, hb⟩ := exists_find?_key (mem_of_replaceFirst?_key hreplace)
    rw [Option.getD_some, find?_key_replaceFirst? hreplace (fun _ _ => rfl), hb]
    rfl
  | none =>
    have hnone := replaceFirst?_eq_none.mp hreplace
    by_cases hk : k = key a
    · subst hk
      simp [List.find?_append, hnone]
    · have hother : (key a == k) = false := beq_false_of_ne (Ne.symm hk)
      simp [List.find?_append, hother, hk]

/-- Items with keys of their own are put one behind the other. -/
theorem foldl_putFirst {new : List α} (hnodup : ((items ++ new).map key).Nodup) :
    new.foldl (fun items a => putFirst (key · == key a) a items) items = items ++ new := by
  induction new generalizing items with
  | nil => exact (List.append_nil _).symm
  | cons a new ih =>
    have hsplit : items ++ a :: new = (items ++ [a]) ++ new := by simp
    have hfresh : key a ∉ items.map key := by
      rw [List.map_append, List.map_cons, List.nodup_middle, List.nodup_cons] at hnodup
      exact fun hmem => hnodup.1 (List.mem_append_left _ hmem)
    have hput : putFirst (key · == key a) a items = items ++ [a] := by
      rw [putFirst, replaceFirst?_key_eq_none.mpr hfresh, Option.getD_none]
    rw [List.foldl_cons, hput, hsplit]
    exact ih (hsplit ▸ hnodup)

/-- A list without a key twice is known by the order of its keys and what is found under each. -/
theorem eq_filterMap_find? (hnodup : (items.map key).Nodup) :
    (items.map key).filterMap (fun k => items.find? (key · == k)) = items := by
  have hfound : ∀ b ∈ items, items.find? (key · == key b) = some b := by
    intro b hb
    have hlisted : key b ∈ items.map key := List.mem_map_of_mem hb
    obtain ⟨c, hmem, hkey, hc⟩ := exists_find?_key hlisted
    rw [hc, List.inj_on_of_nodup_map hnodup hmem hb hkey]
  rw [List.filterMap_map]
  exact (List.filterMap_congr hfound).trans List.filterMap_some

/-- Looking up a key gives the value of the first entry that is found under it. -/
theorem lookup_eq_find? (k : β) (items : List (β × α)) :
    items.lookup k = (items.find? (·.1 == k)).map (·.2) := by
  induction items with
  | nil => rfl
  | cons entry items ih =>
    obtain ⟨k', a⟩ := entry
    by_cases hk : k' = k
    · simp [hk]
    · have hother : (k == k') = false := beq_false_of_ne (Ne.symm hk)
      simp [List.lookup_cons, hk, hother, ih]

/-- A key is not looked up if no entry has it. -/
theorem lookup_eq_none_iff {items : List (β × α)} :
    items.lookup k = none ↔ k ∉ items.map (·.1) := by
  rw [lookup_eq_find?, Option.map_eq_none_iff, find?_key_eq_none]

/-- A put is looked up under its key and changes nothing else. -/
theorem lookup_putFirst (k k' : β) (a : α) (items : List (β × α)) :
    (putFirst (·.1 == k) (k, a) items).lookup k' =
      if k' = k then some a else items.lookup k' := by
  have hfound : (putFirst (·.1 == k) (k, a) items).find? (·.1 == k') =
      if k' = k then some (k, a) else items.find? (·.1 == k') :=
    @find?_key_putFirst _ _ _ Prod.fst items (k, a) k'
  rw [lookup_eq_find?, lookup_eq_find?, hfound]
  by_cases hk : k' = k
  · simp [hk]
  · simp [hk]

end Keys

/-! ## What a list holds under its keys -/

/-- The list is a table: it has the given keys, in order and each once, and the given item under
each key. -/
structure IsTable (key : α → β) (items : List α) (keys : List β) (version : β → Option α) [BEq β] :
    Prop where
  order : items.map key = keys
  distinct : keys.Nodup
  found : ∀ k, items.find? (key · == k) = version k

namespace IsTable

variable [DecidableEq β] {key : α → β} {items : List α} {keys : List β} {version : β → Option α}

/-- The empty list is the table without keys. -/
theorem nil : IsTable key [] [] fun _ => none := ⟨rfl, List.nodup_nil, fun _ => rfl⟩

/-- A table may be told in other words. -/
theorem congr {version' : β → Option α} (h : IsTable key items keys version)
    (hversion : ∀ k, version' k = version k) : IsTable key items keys version' :=
  ⟨h.order, h.distinct, fun k => (h.found k).trans (hversion k).symm⟩

/-- The list is its keys with what is found under them. -/
theorem eq_filterMap (h : IsTable key items keys version) : items = keys.filterMap version := by
  have hnodup : (items.map key).Nodup := h.order ▸ h.distinct
  have hfound : (fun k => items.find? (key · == k)) = version := funext h.found
  rw [← h.order, ← hfound, eq_filterMap_find? hnodup]

/-- A table has nothing under a key that is not among its keys. -/
theorem version_eq_none (h : IsTable key items keys version) {k : β} :
    version k = none ↔ k ∉ keys := by
  rw [← h.found, ← h.order, find?_key_eq_none]

/-- Putting an item keeps the order of the keys and changes what is found under its key. -/
theorem put (h : IsTable key items keys version) (a : α) :
    IsTable key (putFirst (key · == key a) a items) (if key a ∈ keys then keys else keys ++ [key a])
      fun k => if k = key a then some a else version k := by
  constructor
  · rw [map_key_putFirst, h.order]
  · by_cases hmem : key a ∈ keys
    · rw [if_pos hmem]
      exact h.distinct
    · rw [if_neg hmem, ← List.concat_eq_append]
      exact h.distinct.concat hmem
  · intro k
    rw [find?_key_putFirst, h.found]

/-- Changing an item under its key changes what is found under that key. -/
theorem change (h : IsTable key items keys version) {k : β} {change : α → α} {items' : List α}
    (hreplace : replaceFirst? (key · == k) change items = some items')
    (hchange : ∀ a, key a = k → key (change a) = k) :
    IsTable key items' keys fun k' => if k' = k then (version k).map change else version k' := by
  constructor
  · rw [map_key_replaceFirst? hreplace hchange, h.order]
  · exact h.distinct
  · intro k'
    rw [find?_key_replaceFirst? hreplace hchange, h.found, h.found]

end IsTable

end ArtifactPipeline
