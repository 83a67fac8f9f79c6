import ArtifactPipeline.Json.Record
import ArtifactPipeline.Json.Value

/-!
# Chunks

A finished component is handed out in chunks of a fixed number of characters. Each chunk tells its
position, about how many tokens have been handed out with it, and whether it is the last one. The
chunks can be had as a list, or one by one from a stream that remembers where the rest begins.
-/

namespace ArtifactPipeline

open Json

/-- A piece of a component. -/
structure Chunk where
  index : Nat
  content : String
  /-- A quarter of the characters handed out so far, this chunk included. -/
  tokensSoFar : Nat
  done : Bool
  deriving Repr, DecidableEq

namespace Chunk

/-- The chunks of the rest of a component, given how many chunks and characters went before. The
size is one more than `sizePred`. -/
def cutFrom (sizePred : Nat) (index emitted : Nat) (code : List Char) : List Chunk :=
  let content := code.take (sizePred + 1)
  let emitted := emitted + content.length
  let chunk done := ⟨index, String.ofList content, emitted / 4, done⟩
  match _h : code.drop (sizePred + 1) with
  | [] => [chunk true]
  | c :: rest => chunk false :: cutFrom sizePred (index + 1) emitted (c :: rest)
termination_by code.length
decreasing_by
  have := congrArg List.length _h
  simp only [List.length_drop, List.length_cons] at this ⊢
  omega

/-- The chunks of a component. A size of zero counts as one, and an empty component is one empty
chunk. -/
def cut (size : Nat) (code : List Char) : List Chunk :=
  cutFrom (size - 1) 0 0 code

/-- The JSON value of a chunk. -/
def toJson (c : Chunk) : Value :=
  .obj [
    ("index", .nat c.index),
    ("content", .str c.content),
    ("tokens_so_far", .nat c.tokensSoFar),
    ("done", .bool c.done)]

/-- Reads a chunk. -/
def ofNode? (node : Node) : Option Chunk := do
  let r ← Record.ofNode? ["index", "content", "tokens_so_far", "done"] node
  return {
    index := ← r.required "index" Node.nat64?
    content := ← r.required "content" Node.text?
    tokensSoFar := ← r.required "tokens_so_far" Node.nat64?
    done := ← r.required "done" Node.bool? }

end Chunk

/-- A component that is handed out chunk by chunk. The rest begins at a place between two
characters, so no character is ever cut. -/
structure ChunkStream where
  code : String
  /-- How many characters a chunk holds. -/
  size : Nat
  size_pos : 0 < size
  /-- Where the rest begins. -/
  place : code.Pos
  /-- How many chunks have been handed out. -/
  index : Nat
  /-- How many characters have been handed out. -/
  emitted : Nat
  finished : Bool

namespace ChunkStream

/-- The stream of a component. A size of zero counts as one. -/
def start (code : String) (size : Nat) : ChunkStream where
  code
  size := max size 1
  size_pos := Nat.le_max_right size 1
  place := code.startPos
  index := 0
  emitted := 0
  finished := false

/-- Hands out the next chunk, if there is one. -/
def next (s : ChunkStream) : Option Chunk × ChunkStream :=
  if s.finished then (none, s)
  else
    let stop := s.place.nextn s.size
    let content := s.code.extract s.place stop
    let emitted := s.emitted + content.length
    let finished := decide (stop = s.code.endPos)
    (some ⟨s.index, content, emitted / 4, finished⟩,
      { s with place := stop, index := s.index + 1, emitted, finished })

/-- A bound on how many chunks are to come. -/
def remaining (s : ChunkStream) : Nat := if s.finished then 0 else s.place.remainingBytes + 1

/-- A chunk takes at least one character of a rest that is not empty. -/
theorem place_lt_nextn (s : ChunkStream) (h : s.place ≠ s.code.endPos) :
    s.place < s.place.nextn s.size := by
  have hsplits := s.place.splits
  have hrest : (s.code.sliceFrom s.place).copy.toList ≠ [] := by
    intro hnil
    exact h (hsplits.eq_endPos_iff.mpr (String.toList_eq_nil_iff.mp hnil))
  refine (hsplits.lt_iff_exists_eq_append (hsplits.nextn s.size)).mpr ⟨_, ?_, rfl, ?_⟩
  · have hpos := s.size_pos
    have hlength := List.length_pos_iff.mpr hrest
    intro hnil
    have := congrArg String.length hnil
    rw [String.length_ofList, List.length_take, String.length_empty] at this
    omega
  · rw [← String.ofList_append, List.take_append_drop, String.ofList_toList]

/-- Handing out a chunk leaves fewer to come. -/
theorem remaining_next {s s' : ChunkStream} {chunk : Chunk}
    (h : s.next = (some chunk, s')) : s'.remaining < s.remaining := by
  unfold next at h
  split at h
  · cases h
  · next hopen =>
    cases h
    unfold remaining
    dsimp only
    rw [if_neg hopen]
    split
    · exact Nat.succ_pos _
    · next hrest =>
      have hstop : s.place.nextn s.size ≠ s.code.endPos := by simpa using hrest
      have hplace : s.place ≠ s.code.endPos := by
        intro hend
        rw [hend, String.Pos.nextn_endPos] at hstop
        exact hstop rfl
      have hlt := (String.Pos.lt_iff_remainingBytes_lt _ _).mp (s.place_lt_nextn hplace)
      exact Nat.succ_lt_succ hlt

/-- All chunks that are to come. -/
def toList (s : ChunkStream) : List Chunk :=
  match _h : s.next with
  | (none, _) => []
  | (some chunk, s) => chunk :: s.toList
termination_by s.remaining
decreasing_by exact remaining_next _h

end ChunkStream

end ArtifactPipeline
