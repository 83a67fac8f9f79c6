import ArtifactPipeline.Component.Chunk
import Mathlib.Tactic.Common

/-!
# A component in chunks

The chunks of a component are its pieces between multiples of the chunk size, so they are as many as
it takes to hold all characters, and they give the component when they are put together again. A
stream that remembers where the rest begins hands out these chunks one by one, and then nothing
more.
-/

namespace ArtifactPipeline

namespace Chunk

/-! ## The chunks as a list -/

/-- How many chunks it takes to hold a number of characters. One chunk is handed out anyway. -/
def needed (size length : Nat) : Nat := max 1 ((length + size - 1) / size)

/-- A chunk beyond the first one is needed iff the text reaches beyond the chunks before it. -/
theorem lt_needed_iff {size length i : Nat} (hsize : 0 < size) :
    i < needed size length ↔ i = 0 ∨ i * size < length := by
  have hreach : i < (length + size - 1) / size ↔ i * size < length := by
    rw [← Nat.succ_le_iff, Nat.le_div_iff_mul_le hsize, Nat.succ_mul]
    omega
  rw [← hreach, needed]
  omega

/-- A component that fits into one chunk needs one. -/
theorem needed_of_le {size length : Nat} (hsize : 0 < size) (h : length ≤ size) :
    needed size length = 1 := by
  have hfirst : 0 < needed size length := (lt_needed_iff hsize).mpr (.inl rfl)
  have hsecond : ¬ 1 < needed size length := by
    rw [lt_needed_iff hsize]
    omega
  omega

/-- Behind a full chunk, the rest is needed as well. -/
theorem needed_of_lt {size length : Nat} (hsize : 0 < size) (h : size < length) :
    needed size length = needed size (length - size) + 1 := by
  have hmore : (length + size - 1) / size = (length - size + size - 1) / size + 1 := by
    rw [← Nat.add_div_right _ hsize]
    congr 1
    omega
  have hone : 1 ≤ (length - size + size - 1) / size := by
    rw [Nat.le_div_iff_mul_le hsize]
    omega
  rw [needed, needed, hmore]
  omega

/-- The piece of a text between two neighbouring multiples of the size. -/
def piece (size : Nat) (code : List Char) (i : Nat) : List Char := (code.drop (i * size)).take size

/-- The chunk with a number in the rest of a component. -/
def nth (size index emitted : Nat) (code : List Char) (i : Nat) : Chunk where
  index := index + i
  content := String.ofList (piece size code i)
  tokensSoFar := (emitted + min ((i + 1) * size) code.length) / 4
  done := decide (i + 1 = needed size code.length)

/-- The chunks behind the first one are those of the text behind it. -/
theorem nth_succ {size index emitted : Nat} {code : List Char} (hsize : 0 < size)
    (hmore : size < code.length) (i : Nat) : nth size index emitted code (i + 1) =
      nth size (index + 1) (emitted + size) (code.drop size) i := by
  have hpiece : piece size code (i + 1) = piece size (code.drop size) i := by
    rw [piece, piece, List.drop_drop, Nat.succ_mul, Nat.add_comm]
  have hemitted : emitted + min ((i + 1 + 1) * size) code.length =
      emitted + size + min ((i + 1) * size) (code.length - size) := by
    rw [Nat.succ_mul]
    omega
  have hindex : index + (i + 1) = index + 1 + i := by omega
  have hdone : decide (i + 1 + 1 = needed size (code.length - size) + 1) =
      decide (i + 1 = needed size (code.length - size)) :=
    decide_eq_decide.mpr Nat.add_right_cancel_iff
  rw [nth, nth, List.length_drop, hpiece, needed_of_lt hsize hmore, hemitted, hindex, hdone]

/-- The chunks of the rest of a component, one by one. -/
theorem cutFrom_eq_map (sizePred index emitted : Nat) (code : List Char) :
    cutFrom sizePred index emitted code =
      (List.range (needed (sizePred + 1) code.length)).map
        (nth (sizePred + 1) index emitted code) := by
  have hsize : 0 < sizePred + 1 := Nat.succ_pos sizePred
  fun_induction cutFrom sizePred index emitted code with
  | case1 index emitted code content emitted' chunk hrest =>
    have hneeded : needed (sizePred + 1) code.length = 1 :=
      needed_of_le hsize (List.drop_eq_nil_iff.mp hrest)
    rw [hneeded]
    simp [chunk, content, emitted', nth, piece, hneeded]
  | case2 index emitted code content emitted' chunk c rest hrest ih =>
    have hmore : sizePred + 1 < code.length := by
      have hdrop := congrArg List.length hrest
      rw [List.length_drop, List.length_cons] at hdrop
      omega
    have hemitted : emitted' = emitted + (sizePred + 1) :=
      congrArg (emitted + ·) (List.length_take_of_le (Nat.le_of_lt hmore))
    have hneeded : needed (sizePred + 1) code.length =
        needed (sizePred + 1) (c :: rest).length + 1 := by
      rw [needed_of_lt hsize hmore, ← List.length_drop, hrest]
    have hmany : 0 < needed (sizePred + 1) (c :: rest).length :=
      (lt_needed_iff hsize).mpr (.inl rfl)
    have hfirst : chunk false = nth (sizePred + 1) index emitted code 0 := by
      have hnotDone : decide (0 + 1 = needed (sizePred + 1) code.length) = false :=
        decide_eq_false (by omega)
      rw [nth, hnotDone, Nat.zero_add, Nat.one_mul, Nat.min_eq_left (Nat.le_of_lt hmore),
        ← hemitted, piece, Nat.zero_mul, List.drop_zero, Nat.add_zero]
    rw [ih, hfirst, hneeded, List.range_succ_eq_map, List.map_cons, List.map_map]
    congr 1
    refine List.map_congr_left fun i _ => ?_
    rw [Function.comp_apply, nth_succ hsize hmore, hrest, hemitted]

/-- The chunks of a component, one by one. -/
theorem cut_eq_map (size : Nat) (code : List Char) :
    cut size code = (List.range (needed (max size 1) code.length)).map
      (nth (max size 1) 0 0 code) := by
  have hsize : size - 1 + 1 = max size 1 := by omega
  rw [cut, cutFrom_eq_map, hsize]

/-- A component is cut into one chunk at least. -/
theorem cut_ne_nil (size : Nat) (code : List Char) : cut size code ≠ [] := by
  have hfirst : 0 < needed (max size 1) code.length :=
    (lt_needed_iff (Nat.le_max_right size 1)).mpr (.inl rfl)
  rw [cut_eq_map, ← List.length_pos_iff, List.length_map, List.length_range]
  exact hfirst

/-- The first pieces of a text put together are its beginning. -/
theorem join_map_nth (size index emitted : Nat) (code : List Char) (count : Nat) :
    String.join (((List.range count).map (nth size index emitted code)).map (·.content)) =
      String.ofList (code.take (count * size)) := by
  induction count with
  | zero => simp
  | succ count ih =>
    rw [List.range_succ, List.map_append, List.map_append, String.join_append, ih, Nat.succ_mul,
      List.take_add, String.ofList_append]
    simp [nth, piece]

/-- The contents of the chunks of a component are the component. -/
theorem join_cut (size : Nat) (code : List Char) :
    String.join ((cut size code).map (·.content)) = String.ofList code := by
  have hall : code.length ≤ needed (max size 1) code.length * max size 1 := by
    have hlast := Nat.lt_irrefl (needed (max size 1) code.length)
    rw [lt_needed_iff (Nat.le_max_right size 1)] at hlast
    omega
  rw [cut_eq_map, join_map_nth, List.take_of_length_le hall]

/-- The chunks are a component in parts. -/
structure Partition (size : Nat) (code : String) (chunks : List Chunk) : Prop where
  /-- There are as many chunks as it takes to hold all characters, and one at least. -/
  length : chunks.length = max 1 ((code.length + size - 1) / size)
  /-- Nothing is lost or added. -/
  content : String.join (chunks.map (·.content)) = code
  /-- Every chunk but the last one is full. -/
  full : ∀ i (h : i + 1 < chunks.length), chunks[i].content.length = size
  /-- The last chunk holds some characters, unless there are none. -/
  last : ∀ i (h : i < chunks.length), i + 1 = chunks.length →
    chunks[i].content.length ≤ size ∧ (chunks[i].content.length = 0 → code = "")
  index : ∀ i (h : i < chunks.length), chunks[i].index = i
  /-- A chunk tells a quarter of the characters in it and the chunks before it. -/
  tokensSoFar : ∀ i (h : i < chunks.length), chunks[i].tokensSoFar =
    (String.join ((chunks.take (i + 1)).map (·.content))).length / 4
  done : ∀ i (h : i < chunks.length), chunks[i].done = true ↔ i + 1 = chunks.length

/-- The chunks of a component are a partition of it, for any size; a size of zero counts as one.
-/
theorem cut_partition (size : Nat) (code : String) :
    Partition (max size 1) code (cut size code.toList) := by
  have hsize : 0 < max size 1 := Nat.le_max_right size 1
  have hlength : (cut size code.toList).length = needed (max size 1) code.length := by
    rw [cut_eq_map, List.length_map, List.length_range, String.length_toList]
  have hnth : ∀ i (h : i < (cut size code.toList).length),
      (cut size code.toList)[i] = nth (max size 1) 0 0 code.toList i := by
    intro i h
    simp [cut_eq_map]
  have hcontent : ∀ i (h : i < (cut size code.toList).length),
      (cut size code.toList)[i].content.length =
        min (max size 1) (code.length - i * max size 1) := by
    intro i h
    rw [hnth, nth, String.length_ofList, piece, List.length_take, List.length_drop,
      String.length_toList]
  constructor
  case length => exact hlength
  case content => rw [join_cut, String.ofList_toList]
  case full =>
    intro i h
    have hmore : (i + 1) * max size 1 < code.length := by
      rw [hlength, lt_needed_iff hsize] at h
      omega
    rw [hcontent, Nat.min_eq_left]
    rw [Nat.succ_mul] at hmore
    omega
  case last =>
    intro i h hlast
    rw [hcontent]
    refine ⟨Nat.min_le_left _ _, fun hempty => ?_⟩
    rw [hlength, lt_needed_iff hsize] at h
    have hnone : code.length = 0 := by
      rcases h with rfl | hreach
      · omega
      · omega
    exact String.length_eq_zero_iff.mp hnone
  case index =>
    intro i h
    rw [hnth, nth, Nat.zero_add]
  case tokensSoFar =>
    intro i h
    have hsofar : (cut size code.toList).take (i + 1) =
        (List.range (i + 1)).map (nth (max size 1) 0 0 code.toList) := by
      rw [hlength] at h
      rw [cut_eq_map, String.length_toList, ← List.map_take, List.take_range, Nat.min_eq_left h]
    simp only [hnth, nth, hsofar, join_map_nth, String.length_ofList, List.length_take,
      Nat.zero_add]
  case done =>
    intro i h
    rw [hnth, nth, hlength, String.length_toList, decide_eq_true_iff]

end Chunk

/-! ## The chunks one by one -/

namespace ChunkStream

variable {s : ChunkStream} {before : String} {rest : List Char}

/-- The stream after a number of calls. -/
def after (s : ChunkStream) : (calls : Nat) → ChunkStream
  | 0 => s
  | calls + 1 => s.next.2.after calls

/-- A stream that has finished hands out nothing. -/
theorem next_of_finished (h : s.finished = true) : s.next = (none, s) := if_pos h

/-- A stream that has nothing to hand out has finished. -/
theorem finished_of_next {s' : ChunkStream} (h : s.next = (none, s')) :
    s.finished = true ∧ s' = s := by
  unfold next at h
  split at h
  · next hfinished =>
    cases h
    exact ⟨hfinished, rfl⟩
  · cases h

/-- A stream that has finished stays as it is. -/
theorem after_of_finished (h : s.finished = true) (calls : Nat) : s.after calls = s := by
  induction calls with
  | zero => rfl
  | succ calls ih => rw [after, next_of_finished h, ih]

/-- The list of all chunks to come has those that are handed out call by call. -/
theorem getElem?_toList (s : ChunkStream) (calls : Nat) :
    s.toList[calls]? = (s.after calls).next.1 := by
  fun_induction toList s generalizing calls with
  | case1 s s' hnext =>
    obtain ⟨hfinished, -⟩ := finished_of_next hnext
    rw [after_of_finished hfinished, hnext, List.getElem?_nil]
  | case2 s chunk s' hnext ih =>
    cases calls with
    | zero => rw [after, hnext, List.getElem?_cons_zero]
    | succ calls => rw [after, hnext, List.getElem?_cons_succ, ih]

/-- The part of a text between two places. -/
theorem extract_of_splits {text first second third : String} {p q : text.Pos}
    (hp : p.Splits first (second ++ third)) (hq : q.Splits (first ++ second) third) :
    text.extract p q = second := by
  obtain ⟨hle, hslice⟩ := String.copy_slice_eq_iff_splits.mpr ⟨first, third, hp, hq⟩
  rw [String.extract_eq_copy_slice p q hle, hslice]

/-- What is handed out next is the beginning of the rest. -/
theorem next_of_splits (h : s.place.Splits before (String.ofList rest))
    (hopen : s.finished = false) :
    let content := rest.take s.size
    let emitted := s.emitted + content.length
    let finished := (rest.drop s.size).isEmpty
    ∃ place : s.code.Pos,
      place.Splits (before ++ String.ofList content) (String.ofList (rest.drop s.size)) ∧
      s.next = (some ⟨s.index, String.ofList content, emitted / 4, finished⟩,
        { s with place, index := s.index + 1, emitted, finished }) := by
  intro content emitted finished
  have hstop : (s.place.nextn s.size).Splits (before ++ String.ofList content)
      (String.ofList (rest.drop s.size)) := by
    simpa using h.nextn s.size
  have hextract : s.code.extract s.place (s.place.nextn s.size) = String.ofList content := by
    refine extract_of_splits ?_ hstop
    rwa [← String.ofList_append, List.take_append_drop]
  have hfinished : decide (s.place.nextn s.size = s.code.endPos) = finished := by
    rw [Bool.eq_iff_iff, decide_eq_true_iff, hstop.eq_endPos_iff, List.isEmpty_iff,
      String.ofList_eq_empty_iff]
  refine ⟨s.place.nextn s.size, hstop, ?_⟩
  rw [next, if_neg (by simp [hopen])]
  simp only [hextract, hfinished, String.length_ofList]
  rfl

/-- A stream hands out the chunks of the rest, and then nothing more. -/
theorem next_after (sizePred : Nat) (hsize : s.size = sizePred + 1)
    (h : s.place.Splits before (String.ofList rest)) (hopen : s.finished = false) (calls : Nat) :
    (s.after calls).next.1 = (Chunk.cutFrom sizePred s.index s.emitted rest)[calls]? := by
  induction calls generalizing s before rest with
  | zero =>
    obtain ⟨place, -, hnext⟩ := next_of_splits h hopen
    rw [after, hnext, Chunk.cutFrom]
    dsimp only
    rw [hsize]
    split
    · next hrest => simp [hrest]
    · next hrest => simp [hrest]
  | succ calls ih =>
    obtain ⟨place, hsplits, hnext⟩ := next_of_splits h hopen
    rw [after, hnext, Chunk.cutFrom]
    dsimp only
    split
    · next hrest =>
      have hfinished : (rest.drop s.size).isEmpty = true := by rw [hsize, hrest, List.isEmpty_nil]
      rw [after_of_finished hfinished, next_of_finished hfinished]
      simp
    · next c later hrest =>
      have hmore : (rest.drop s.size).isEmpty = false := by rw [hsize, hrest, List.isEmpty_cons]
      rw [← hsize] at hrest
      rw [hrest] at hsplits
      rw [List.getElem?_cons_succ, ← hsize]
      exact ih hsize hsplits hmore

/-- All chunks of a component are those that it is cut into. -/
theorem toList_start (code : String) (size : Nat) :
    (start code size).toList = Chunk.cut size code.toList := by
  have hsize : (start code size).size = (size - 1) + 1 := by
    change max size 1 = _
    omega
  have hplace : (start code size).place.Splits "" (String.ofList code.toList) := by
    rw [String.ofList_toList]
    exact code.splits_startPos
  refine List.ext_getElem? fun calls => ?_
  rw [getElem?_toList, next_after (size - 1) hsize hplace rfl]
  rfl

/-- A stream hands out a component in parts, and then nothing more. -/
theorem start_hands_out_partition (code : String) (size : Nat) :
    Chunk.Partition (max size 1) code (start code size).toList ∧
      ∀ calls, ((start code size).after calls).next.1 = (start code size).toList[calls]? := by
  refine ⟨?_, fun calls => (getElem?_toList _ calls).symm⟩
  rw [toList_start]
  exact Chunk.cut_partition size code

end ChunkStream

end ArtifactPipeline
