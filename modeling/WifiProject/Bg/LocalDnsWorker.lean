import WifiProject.Lib.Bits
import WifiProject.Lib.ChunkedStream

/-!
`LocalDnsWorker.accept`: a query comes over the local socket with its length in
front and goes to the resolver. The body is read with one `read`, which returns
as soon as it has something; the rest of the buffer stays zero.
-/

namespace WifiProject.Bg.LocalDnsWorker

open Lib

/-- `readUnsignedShort`; `none` is an `EOFException`. -/
def readUnsignedShort (input : ChunkedStream UInt8) : Option (Nat × ChunkedStream UInt8) := do
  let (high, input) ← input.readOne
  let (low, input) ← input.readOne
  return (high.toNat * 256 + low.toNat, input)

/-- `ByteArray(size).also { input.read(it) }`; how much was read is not looked
at. -/
def readBuffer (size : Nat) (input : ChunkedStream UInt8) : List UInt8 :=
  (input.read size).1 ++ List.replicate (size - (input.read size).1.length) 0

/-- What a connection leads to: the query the resolver was called with, and what
was sent back. -/
structure Served where
  query : Option (List UInt8) := none
  output : List UInt8 := []
  deriving DecidableEq, Repr

section Accept

variable {ε : Type} (resolver : List UInt8 → Except ε (List UInt8))
  (servfail : List UInt8 → Option (List UInt8))

/-- A resolver that throws is answered for with `SERVFAIL`, or with nothing when
the query cannot be parsed. -/
def respond (query : List UInt8) : List UInt8 :=
  match resolver query with
  | .ok response => response
  | .error _ => (servfail query).getD []

def accept (input : ChunkedStream UInt8) : Served :=
  match readUnsignedShort input with
  | none => {}
  | some (size, input) =>
      let query := readBuffer size input
      let response := respond resolver servfail query
      { query := some query, output := bigEndian 2 response.length ++ response }

end Accept

/-- The body of the query in what the peer sends until it closes the stream;
`none` when it is not complete. -/
def frameBody : List UInt8 → Option (List UInt8)
  | high :: low :: body =>
      let size := high.toNat * 256 + low.toNat
      if size ≤ body.length then some (body.take size) else none
  | _ => none

/-- Either the length does not arrive, or all of the body does and what is not
in the chunk that goes on after the length is zero. -/
def ArrivesAtOnce (input : ChunkedStream UInt8) : Prop :=
  match input.elements with
  | high :: low :: body =>
      high.toNat * 256 + low.toNat ≤ body.length ∧
        ∀ byte ∈ (body.take (high.toNat * 256 + low.toNat)).drop
          (ChunkedStream.chunkAt 2 input.chunks).length, byte = 0
  | _ => True

section Reading

variable {input : ChunkedStream UInt8}

theorem readUnsignedShort_cons {high low : UInt8} {body : List UInt8}
    (h : input.elements = high :: low :: body) :
    ∃ after : ChunkedStream UInt8,
      readUnsignedShort input = some (high.toNat * 256 + low.toNat, after) ∧
        after.elements = body ∧
          ChunkedStream.chunkAt 0 after.chunks = ChunkedStream.chunkAt 2 input.chunks := by
  obtain ⟨second, hfirst, hsecond, hchunks⟩ := ChunkedStream.readOne_cons h
  obtain ⟨after, hlast, hafter, hrest⟩ := ChunkedStream.readOne_cons hsecond
  refine ⟨after, ?_, hafter, ?_⟩
  · simp [readUnsignedShort, hfirst, hlast]
  · rw [hrest, hchunks]

theorem readUnsignedShort_short (h : input.elements.length < 2) :
    readUnsignedShort input = none := by
  cases hinput : input.elements with
  | nil => simp [readUnsignedShort, ChunkedStream.readOne_nil hinput]
  | cons high rest =>
      have hrest : rest = [] := by
        rw [hinput, List.length_cons] at h
        exact List.length_eq_zero_iff.mp (by omega)
      obtain ⟨second, hfirst, hsecond, -⟩ := ChunkedStream.readOne_cons hinput
      rw [hrest] at hsecond
      simp [readUnsignedShort, hfirst, ChunkedStream.readOne_nil hsecond]

/-- The rest of the body is what comes in later chunks. -/
theorem take_elements (size : Nat) (input : ChunkedStream UInt8) :
    ∃ rest, input.elements.take size = (input.read size).1 ++ rest ∧
      (input.elements.take size).drop (ChunkedStream.chunkAt 0 input.chunks).length = rest := by
  have helements : input.elements = input.chunks.headD [] ++ input.chunks.tail.flatten := by
    unfold ChunkedStream.elements
    cases input.chunks with
    | nil => rfl
    | cons chunk chunks => rw [List.flatten_cons, List.headD_cons, List.tail_cons]
  have htake : input.elements.take size =
      (input.read size).1 ++
        input.chunks.tail.flatten.take (size - (input.chunks.headD []).length) := by
    rw [helements, List.take_append, ChunkedStream.read_fst]
  refine ⟨_, htake, ?_⟩
  rw [ChunkedStream.chunkAt_zero, htake, ChunkedStream.read_fst]
  by_cases hsize : (input.chunks.headD []).length ≤ size
  · rw [List.take_of_length_le hsize, List.drop_left]
  · rw [Nat.sub_eq_zero_of_le (by omega), List.take_zero, List.append_nil]
    apply List.drop_of_length_le
    rw [List.length_take]
    omega

/-- The buffer is the body exactly when what later chunks bring is zero. -/
theorem readBuffer_eq_iff (size : Nat) (input : ChunkedStream UInt8)
    (hsize : size ≤ input.elements.length) :
    readBuffer size input = input.elements.take size ↔
      ∀ byte ∈ (input.elements.take size).drop
        (ChunkedStream.chunkAt 0 input.chunks).length, byte = 0 := by
  obtain ⟨rest, htake, hdrop⟩ := take_elements size input
  have hlength := congrArg List.length htake
  rw [List.length_take, Nat.min_eq_left hsize, List.length_append] at hlength
  have hrest : size - (input.read size).1.length = rest.length := by omega
  rw [hdrop, htake, readBuffer, hrest, List.append_cancel_left_eq, eq_comm, List.eq_replicate_iff]
  simp

end Reading

/-- The resolver is called with the body of the query, if that is complete, and
not called otherwise, exactly when the query arrives at once. -/
theorem accept_query_eq_frameBody_iff {ε : Type} (resolver : List UInt8 → Except ε (List UInt8))
    (servfail : List UInt8 → Option (List UInt8)) (input : ChunkedStream UInt8) :
    (accept resolver servfail input).query = frameBody input.elements ↔ ArrivesAtOnce input := by
  unfold ArrivesAtOnce
  rcases hinput : input.elements with _ | ⟨high, _ | ⟨low, body⟩⟩
  · have hlength : readUnsignedShort input = none := readUnsignedShort_short (by simp [hinput])
    simp [accept, hlength, frameBody]
  · have hlength : readUnsignedShort input = none := readUnsignedShort_short (by simp [hinput])
    simp [accept, hlength, frameBody]
  · obtain ⟨after, hlength, hafter, hchunks⟩ := readUnsignedShort_cons hinput
    have hquery : (accept resolver servfail input).query =
        some (readBuffer (high.toNat * 256 + low.toNat) after) := by
      simp [accept, hlength]
    rw [hquery]
    simp only [frameBody]
    by_cases hsize : high.toNat * 256 + low.toNat ≤ body.length
    · have hbody := readBuffer_eq_iff _ after (hafter.symm ▸ hsize)
      rw [hafter, hchunks] at hbody
      simpa [hsize] using hbody
    · simp [hsize]

theorem splitQuery_nonempty : ∀ chunk ∈ ([[0, 3, 7], [8, 9]] : List (List UInt8)), chunk ≠ [] := by
  decide

/-- A query whose body comes in two chunks. -/
def splitQuery : ChunkedStream UInt8 where
  chunks := [[0, 3, 7], [8, 9]]
  nonempty := splitQuery_nonempty

/-- The resolver gets the first byte of the body and zeros. -/
theorem accept_not_frameBody :
    (accept (ε := Unit) (fun query => .ok query) (fun _ => none) splitQuery).query =
        some [7, 0, 0] ∧
      frameBody splitQuery.elements = some [7, 8, 9] := by
  decide +kernel

end WifiProject.Bg.LocalDnsWorker
