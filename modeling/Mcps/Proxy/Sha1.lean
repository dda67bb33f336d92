import Mcps.Lib.Sha1
import Mcps.Proxy.OcspResponse

/-!
# The proxy's SHA-1

The hash that the proxy implements for responder ids is SHA-1: its bytes have the bits that the
standard gives for the bits of the data.
-/

namespace Mcps.Proxy.Ocsp

open Sha1 List

variable (b c d : UInt32)

theorem choose_eq : b &&& c ||| ~~~b &&& d = ch b c d := by
  apply UInt32.toBitVec_inj.mp
  ext i inside
  simp only [ch, UInt32.toBitVec_or, UInt32.toBitVec_and, UInt32.toBitVec_not, UInt32.toBitVec_xor,
    BitVec.getElem_or, BitVec.getElem_and, BitVec.getElem_not, BitVec.getElem_xor]
  cases b.toBitVec[i] <;> simp

theorem majority_eq : b &&& c ||| b &&& d ||| c &&& d = maj b c d := by
  apply UInt32.toBitVec_inj.mp
  ext i inside
  simp only [maj, UInt32.toBitVec_or, UInt32.toBitVec_and, UInt32.toBitVec_xor,
    BitVec.getElem_or, BitVec.getElem_and, BitVec.getElem_xor]
  cases b.toBitVec[i] <;> cases c.toBitVec[i] <;> simp

theorem u32FromBeBytes_eq (word : Bytes) :
    u32FromBeBytes word = UInt32.ofNat (ofBits (ofBytes word)) := by
  induction word using reverseRecOn with
  | nil => rfl
  | append_singleton word byte ih =>
    rw [u32FromBeBytes, foldl_append, ← u32FromBeBytes, ih, ofBits_ofBytes_concat]
    generalize ofBits (ofBytes word) = read
    have small := byte.toNat_lt
    have apart := Nat.shiftLeft_add_eq_or_of_lt small (read % 2 ^ 24)
    apply UInt32.toNat_inj.mp
    simp only [foldl_cons, foldl_nil, UInt32.toNat_or, UInt32.toNat_shiftLeft,
      UInt8.toNat_toUInt32, UInt32.toNat_ofNat', UInt32.reduceToNat]
    rw [show (read % 2 ^ 32) <<< 8 % 2 ^ 32 = (read % 2 ^ 24) <<< 8 by
      simp only [Nat.shiftLeft_eq]; omega]
    omega

/-- The words that the source mixes in are those of the schedule. -/
theorem sha1Schedule_eq {chunk : Bytes} (size : chunk.length = 64) :
    sha1Schedule chunk = (range 80).map (schedule (ofBytes chunk)) := by
  have first : (chunksExact 4 chunk).map u32FromBeBytes =
      (range 16).map (schedule (ofBytes chunk)) := by
    rw [chunksExact, size, map_map]
    apply map_congr_left
    intro t member
    rw [schedule, if_pos (mem_range.mp member), piece_ofBytes chunk 4 t]
    exact u32FromBeBytes_eq _
  rw [sha1Schedule, first]
  change _ = (range (16 + 64)).map _
  generalize 64 = count
  induction count with
  | zero => rfl
  | succ count ih =>
    rw [range'_concat, foldl_append, ih, ← Nat.add_assoc, range_succ,
      map_append, map_singleton, schedule.eq_def _ (16 + count)]
    simp [rotl]

/-- Five words of the source. -/
def Sha1State.words (state : Sha1State) : Words := ⟨state.a, state.b, state.c, state.d, state.e⟩

theorem sha1Round_words (words : Nat → UInt32) (state : Sha1State) (t : Nat) :
    (sha1Round state (words t, t)).words = step words state.words t := by
  simp only [sha1Round, step, mix, constant, choose_eq, majority_eq]
  split_ifs <;> rfl

theorem foldl_sha1Round_words (words : Nat → UInt32) (state : Sha1State) (count : Nat) :
    (((range count).map words).zipIdx.foldl sha1Round state).words =
      (range count).foldl (step words) state.words := by
  induction count with
  | zero => rfl
  | succ count ih =>
    rw [range_succ, map_append, zipIdx_append, foldl_append,
      foldl_append, ← ih, length_map, length_range, Nat.zero_add]
    exact sha1Round_words words _ count

theorem sha1Chunk_words (state : Sha1State) {chunk : Bytes} (size : chunk.length = 64) :
    (sha1Chunk state chunk).words = compress state.words (ofBytes chunk) := by
  rw [compress, ← foldl_sha1Round_words, ← sha1Schedule_eq size]
  simp only [sha1Chunk, Sha1State.words, UInt32.add_comm]

theorem foldl_sha1Chunk_words {chunks : List Bytes} (sizes : ∀ chunk ∈ chunks, chunk.length = 64)
    (state : Sha1State) :
    (chunks.foldl sha1Chunk state).words = (chunks.map ofBytes).foldl compress state.words := by
  induction chunks generalizing state with
  | nil => rfl
  | cons chunk chunks ih =>
    rw [foldl_cons, ih (fun chunk member => sizes chunk (by simp [member])),
      sha1Chunk_words state (sizes chunk (by simp))]
    rfl

/-! ## The message -/

theorem length_of_mem_chunksExact {size : Nat} {bytes chunk : Bytes}
    (member : chunk ∈ chunksExact size bytes) : chunk.length = size := by
  obtain ⟨i, inside, rfl⟩ := mem_map.mp member
  have whole := Nat.mul_le_of_le_div size (i + 1) bytes.length (mem_range.mp inside)
  rw [length_take, length_drop]
  apply Nat.min_eq_left
  apply Nat.le_sub_of_add_le
  rwa [Nat.add_comm, ← Nat.mul_succ, Nat.mul_comm]

theorem ofBytes_chunksExact (bytes : Bytes) :
    (chunksExact 64 bytes).map ofBytes =
      (range ((ofBytes bytes).length / 512)).map (piece 512 (ofBytes bytes)) := by
  rw [length_ofBytes, show 8 * bytes.length / 512 = bytes.length / 64 by omega, chunksExact,
    map_map]
  apply map_congr_left
  intro i _
  exact (piece_ofBytes bytes 64 i).symm

theorem ofBytes_sha1Message {data : Bytes} (short : data.length < 2 ^ 61) :
    ofBytes (sha1Message data) = pad (ofBytes data) := by
  have size := length_ofBytes data
  have zeros : Nat.find (exists_zeros (ofBytes data).length) =
      7 + 8 * ((120 - (data.length + 1) % 64) % 64) := by
    rw [Nat.find_eq_iff]
    refine ⟨by omega, fun fewer less => by omega⟩
  have length : toBeBytes (data.length * 8) = beBytes 8 (ofBytes data).length := by
    have fits : ((data.length * 8 : Int) % 2 ^ 64).toNat = 8 * data.length := by omega
    rw [toBeBytes, fits, size]
    simp [beBytes, ← UInt8.toNat_inj]
  rw [sha1Message, fillBlock_eq, pad, zeros, ofBytes_append, ofBytes_append, ofBytes_append,
    length_append, length_singleton, ofBytes_zeros, length, ofBytes_beBytes,
    ← replicate_append_replicate]
  simp only [append_assoc]
  rfl

theorem beBytes_toNat (word : UInt32) :
    beBytes 4 word.toNat =
      [(word >>> 24).toUInt8, (word >>> 16).toUInt8, (word >>> 8).toUInt8, word.toUInt8] := by
  simp only [beBytes, cons.injEq, ← UInt8.toNat_inj]
  simp [Nat.shiftRight_eq_div_pow]

/-- The hash of data shorter than `2 ^ 61` bytes is its SHA-1 digest. -/
theorem sha1Hash_eq_digest (data : Bytes) (short : data.length < 2 ^ 61) :
    ofBytes (sha1Hash data) = digest (ofBytes data) := by
  have hashed := foldl_sha1Chunk_words
    (fun chunk => @length_of_mem_chunksExact 64 (sha1Message data) chunk)
    ⟨0x67452301, 0xEFCDAB89, 0x98BADCFE, 0x10325476, 0xC3D2E1F0⟩
  rw [ofBytes_chunksExact, ofBytes_sha1Message short] at hashed
  simp only [digest]
  rw [show (⟨0x67452301, 0xEFCDAB89, 0x98BADCFE, 0x10325476, 0xC3D2E1F0⟩ : Words) =
    Sha1State.words ⟨0x67452301, 0xEFCDAB89, 0x98BADCFE, 0x10325476, 0xC3D2E1F0⟩ from rfl, ← hashed]
  simp only [sha1Hash, ← beBytes_toNat, ← ofBytes_beBytes 4, ofBytes, List.flatMap_assoc]
  rfl

/-- The digest of three bytes. -/
theorem sha1Hash_eq_digest_abc :
    digest (ofBytes [0x61, 0x62, 0x63]) =
      ofBytes [0xa9, 0x99, 0x3e, 0x36, 0x47, 0x06, 0x81, 0x6a, 0xba, 0x3e, 0x25, 0x71, 0x78, 0x50,
        0xc2, 0x6c, 0x9c, 0xd0, 0xd8, 0x9d] := by
  rw [← sha1Hash_eq_digest [0x61, 0x62, 0x63] (by decide), sha1Hash, sha1Message, fillBlock_eq]
  decide +kernel

end Mcps.Proxy.Ocsp
