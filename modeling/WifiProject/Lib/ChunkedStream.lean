import Mathlib.Data.List.Basic

/-!
A stream that hands out its elements in chunks. One read takes what it can from
one chunk: it may return less than it was asked for although more will come.
-/

namespace WifiProject.Lib

structure ChunkedStream (α : Type) where
  chunks : List (List α)
  nonempty : ∀ chunk ∈ chunks, chunk ≠ []

namespace ChunkedStream

variable {α : Type}

/-- Everything the stream delivers until it is closed. -/
def elements (stream : ChunkedStream α) : List α := stream.chunks.flatten

/-- What is left of the chunks when elements of the first one were taken. -/
def chunksAfter (count : Nat) : List (List α) → List (List α)
  | [] => []
  | chunk :: chunks => if chunk.length ≤ count then chunks else chunk.drop count :: chunks

theorem nonempty_chunksAfter (count : Nat) {chunks : List (List α)}
    (h : ∀ chunk ∈ chunks, chunk ≠ []) : ∀ chunk ∈ chunksAfter count chunks, chunk ≠ [] := by
  intro chunk hchunk
  cases chunks with
  | nil => simp [chunksAfter] at hchunk
  | cons first chunks =>
      rw [chunksAfter] at hchunk
      split at hchunk
      · exact h chunk (List.mem_cons_of_mem _ hchunk)
      · rename_i hlong
        rcases List.mem_cons.mp hchunk with rfl | hchunk
        · simpa using hlong
        · exact h chunk (List.mem_cons_of_mem _ hchunk)

def read (count : Nat) (stream : ChunkedStream α) : List α × ChunkedStream α :=
  ((stream.chunks.headD []).take count,
    ⟨chunksAfter count stream.chunks, nonempty_chunksAfter count stream.nonempty⟩)

@[simp] theorem read_fst (count : Nat) (stream : ChunkedStream α) :
    (stream.read count).1 = (stream.chunks.headD []).take count := rfl

@[simp] theorem read_snd_chunks (count : Nat) (stream : ChunkedStream α) :
    (stream.read count).2.chunks = chunksAfter count stream.chunks := rfl

/-- One element; `none` is the end of the stream. -/
def readOne (stream : ChunkedStream α) : Option (α × ChunkedStream α) :=
  (stream.read 1).1.head?.map fun element => (element, (stream.read 1).2)

/-- The chunk that goes on at a position of the stream, from there on. -/
def chunkAt : Nat → List (List α) → List α
  | _, [] => []
  | skip, chunk :: chunks =>
      if skip < chunk.length then chunk.drop skip else chunkAt (skip - chunk.length) chunks

variable {stream : ChunkedStream α}

/-- Reading drops and adds nothing. -/
theorem read_append (count : Nat) (stream : ChunkedStream α) :
    (stream.read count).1 ++ (stream.read count).2.elements = stream.elements := by
  simp only [elements, read_fst, read_snd_chunks]
  cases stream.chunks with
  | nil => simp [chunksAfter]
  | cons chunk chunks =>
      simp only [chunksAfter, List.headD_cons, List.flatten_cons]
      split
      · rename_i hshort
        rw [List.take_of_length_le hshort]
      · rw [List.flatten_cons, ← List.append_assoc, List.take_append_drop]

theorem chunkAt_zero (stream : ChunkedStream α) :
    chunkAt 0 stream.chunks = stream.chunks.headD [] := by
  have hnonempty := stream.nonempty
  cases hchunks : stream.chunks with
  | nil => rfl
  | cons chunk chunks =>
      have hpositive : 0 < chunk.length :=
        List.length_pos_iff.mpr (hnonempty chunk (hchunks ▸ List.mem_cons_self ..))
      simp only [chunkAt, if_pos hpositive, List.headD_cons, List.drop_zero]

theorem chunkAt_chunksAfter_one {chunks : List (List α)} (h : ∀ chunk ∈ chunks, chunk ≠ [])
    (skip : Nat) : chunkAt skip (chunksAfter 1 chunks) = chunkAt (skip + 1) chunks := by
  cases chunks with
  | nil => rfl
  | cons chunk chunks =>
      have hpositive : 0 < chunk.length :=
        List.length_pos_iff.mpr (h chunk (List.mem_cons_self ..))
      rw [chunksAfter]
      split
      · rename_i hlast
        rw [chunkAt, if_neg (by omega)]
        congr 1
        omega
      · simp only [chunkAt, List.length_drop, List.drop_drop]
        by_cases hskip : skip + 1 < chunk.length
        · rw [if_pos (by omega), if_pos hskip, Nat.add_comm]
        · rw [if_neg (by omega), if_neg hskip]
          congr 1
          omega

theorem readOne_nil (h : stream.elements = []) : stream.readOne = none := by
  have hread := read_append 1 stream
  rw [h, List.append_eq_nil_iff] at hread
  rw [readOne, hread.1]
  rfl

/-- The first element, and the stream goes on after it. -/
theorem readOne_cons {element : α} {rest : List α} (h : stream.elements = element :: rest) :
    ∃ after : ChunkedStream α, stream.readOne = some (element, after) ∧ after.elements = rest ∧
      ∀ skip, chunkAt skip after.chunks = chunkAt (skip + 1) stream.chunks := by
  have hread := read_append 1 stream
  have hskip := chunkAt_chunksAfter_one stream.nonempty
  have hone : (stream.read 1).1 = [element] := by
    unfold elements at h
    rw [read_fst]
    cases hchunks : stream.chunks with
    | nil => simp [hchunks] at h
    | cons chunk chunks =>
        have hne := stream.nonempty chunk (hchunks ▸ List.mem_cons_self ..)
        obtain ⟨first, chunk, rfl⟩ := List.exists_cons_of_ne_nil hne
        simp only [hchunks, List.flatten_cons, List.cons_append, List.cons.injEq] at h
        simp [h.1]
  refine ⟨(stream.read 1).2, ?_, ?_, hskip⟩
  · rw [readOne, hone]
    rfl
  · rw [hone, h, List.singleton_append, List.cons.injEq] at hread
    exact hread.2

end ChunkedStream

end WifiProject.Lib
