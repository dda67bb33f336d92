import Mcps.Core.Vocabulary

/-!
# The captured stderr of an inner server

What an inner server writes to its stderr is kept up to a number of bytes and a number of
lines.  Byte by byte the capture takes one more, unless it is full: so it does not depend on
the chunks, and it holds the longest beginning of the input that fits.

The line that fills the capture marks it as truncated at once, before anything is dropped.
-/

namespace Mcps.Proxy

open List

structure BoundedStderr where
  capBytes : Nat
  capLines : Nat
  bytes : Bytes
  lines : Nat
  truncated : Bool
  deriving DecidableEq, Repr

namespace BoundedStderr

def newline : UInt8 := 10

def new (capBytes capLines : Nat) : BoundedStderr := ⟨capBytes, capLines, [], 0, false⟩

/-- A capture that takes no more. -/
def full (capture : BoundedStderr) : Bool :=
  capture.bytes.length ≥ capture.capBytes || capture.lines ≥ capture.capLines

/-- Append a chunk; the rest of it is dropped once a cap is reached. -/
def push (capture : BoundedStderr) : Bytes → BoundedStderr
  | [] => capture
  | byte :: chunk =>
    if capture.full then { capture with truncated := true }
    else
      let taken := { capture with bytes := capture.bytes ++ [byte] }
      if byte = newline then
        let counted := { taken with lines := taken.lines + 1 }
        if counted.lines ≥ counted.capLines then { counted with truncated := true }
        else counted.push chunk
      else taken.push chunk

/-! ## Byte by byte -/

/-- What one byte does to a capture. -/
def take (capture : BoundedStderr) (byte : UInt8) : BoundedStderr := capture.push [byte]

variable {capture : BoundedStderr}

theorem take_of_full (full : capture.full = true) (byte : UInt8) :
    capture.take byte = { capture with truncated := true } := by
  simp [take, push, full]

theorem take_of_not_full (room : capture.full = false) (byte : UInt8) :
    capture.take byte =
      { capture with
        bytes := capture.bytes ++ [byte]
        lines := if byte = newline then capture.lines + 1 else capture.lines
        truncated := capture.truncated ||
          (byte = newline && capture.lines + 1 ≥ capture.capLines) } := by
  by_cases line : byte = newline
  · by_cases last : capture.lines + 1 ≥ capture.capLines
    · simp [take, push, room, line, last]
    · simp [take, push, room, line, last]
  · simp [take, push, room, line]

theorem push_of_full (full : capture.full = true) (marked : capture.truncated = true)
    (chunk : Bytes) : capture.push chunk = capture := by
  cases chunk with
  | nil => rfl
  | cons byte chunk =>
    rw [push, if_pos full, ← marked]

theorem push_cons (capture : BoundedStderr) (byte : UInt8) (chunk : Bytes) :
    capture.push (byte :: chunk) = (capture.take byte).push chunk := by
  cases room : capture.full with
  | true =>
    have full : { capture with truncated := true : BoundedStderr }.full = true := room
    rw [take_of_full room, push, if_pos room]
    exact (push_of_full full rfl chunk).symm
  | false =>
    by_cases line : byte = newline
    · by_cases last : capture.lines + 1 ≥ capture.capLines
      · have full : { capture with
            bytes := capture.bytes ++ [byte]
            lines := capture.lines + 1
            truncated := true : BoundedStderr }.full = true := by
          simp [BoundedStderr.full, last]
        simpa [take, push, room, line, last] using (push_of_full full rfl chunk).symm
      · simp [take, push, room, line, last]
    · simp [take, push, room, line]

theorem push_eq_foldl (capture : BoundedStderr) (chunk : Bytes) :
    capture.push chunk = chunk.foldl take capture := by
  induction chunk generalizing capture with
  | nil => rfl
  | cons byte chunk ih => rw [push_cons, ih, foldl_cons]

/-- The capture after some chunks. -/
def pushAll (capture : BoundedStderr) (chunks : List Bytes) : BoundedStderr :=
  chunks.foldl push capture

theorem pushAll_eq_foldl (capture : BoundedStderr) (chunks : List Bytes) :
    capture.pushAll chunks = chunks.flatten.foldl take capture := by
  induction chunks generalizing capture with
  | nil => rfl
  | cons chunk chunks ih =>
    rw [flatten_cons, foldl_append, ← ih, ← push_eq_foldl]
    rfl

/-! ## What is captured -/

/-- No more bytes than the cap, and none after the last line of the other cap. -/
def Fits (capBytes capLines : Nat) (text : Bytes) : Prop :=
  text.length ≤ capBytes ∧ text.dropLast.count newline < capLines

/-- A capture of an input: its bytes are a beginning of it that fits, and they are all of it
unless a cap is reached. -/
structure Captures (capBytes capLines : Nat) (input : Bytes) (capture : BoundedStderr) : Prop where
  caps : capture.capBytes = capBytes ∧ capture.capLines = capLines
  kept : capture.bytes <+: input
  fits : Fits capBytes capLines capture.bytes
  lines : capture.lines = capture.bytes.count newline
  full : capture.bytes ≠ input → capture.full = true
  truncated : capture.truncated = true ↔ capture.bytes ≠ input ∨ capture.lines = capLines

variable {capLines : Nat}

theorem captures_new (capBytes : Nat) (some : 0 < capLines) :
    Captures capBytes capLines [] (new capBytes capLines) where
  caps := ⟨rfl, rfl⟩
  kept := nil_prefix
  fits := ⟨Nat.zero_le _, some⟩
  lines := rfl
  full := fun dropped => absurd rfl dropped
  truncated := by
    simp only [new, Bool.false_eq_true, ne_eq, not_true_eq_false, false_or, false_iff]
    exact some.ne

variable {capBytes : Nat} {input : Bytes}

theorem Captures.dropped (captures : Captures capBytes capLines input capture) (byte : UInt8) :
    capture.bytes ≠ input ++ [byte] := by
  intro same
  have shorter := captures.kept.length_le
  rw [same, length_append, length_singleton] at shorter
  omega

theorem Captures.take (captures : Captures capBytes capLines input capture) (byte : UInt8) :
    Captures capBytes capLines (input ++ [byte]) (capture.take byte) := by
  cases room : capture.full with
  | true =>
    rw [take_of_full room]
    exact
      { caps := captures.caps
        kept := captures.kept.trans (prefix_append _ _)
        fits := captures.fits
        lines := captures.lines
        full := fun _ => room
        truncated := by simp [captures.dropped byte] }
  | false =>
    have whole : capture.bytes = input := by
      by_contra dropped
      rw [captures.full dropped] at room
      cases room
    have below : capture.bytes.length < capBytes ∧ capture.lines < capLines := by
      simpa [BoundedStderr.full, captures.caps] using room
    have unmarked : capture.truncated = false := by
      have marked := captures.truncated
      simp only [whole] at marked
      simpa [below.2.ne] using marked
    rw [take_of_not_full room]
    exact
      { caps := captures.caps
        kept := by simp [whole]
        fits := by
          refine ⟨?_, ?_⟩
          · simpa using below.1
          · rw [dropLast_concat, ← captures.lines]
            exact below.2
        lines := by
          rw [count_append, ← captures.lines]
          by_cases line : byte = newline
          · simp [line]
          · simp [line]
        full := by simp [whole]
        truncated := by
          simp only [unmarked, whole, captures.caps]
          by_cases line : byte = newline
          · simp [line]
            omega
          · simp [line]
            exact below.2.ne }

theorem captures_pushAll (capBytes : Nat) (some : 0 < capLines) (chunks : List Bytes) :
    Captures capBytes capLines chunks.flatten ((new capBytes capLines).pushAll chunks) := by
  rw [pushAll_eq_foldl]
  induction chunks.flatten using reverseRecOn with
  | nil => exact captures_new capBytes some
  | append_singleton input byte ih =>
    rw [foldl_append]
    exact ih.take byte

/-- Nothing longer would fit. -/
theorem Captures.longest (captures : Captures capBytes capLines input capture) {other : Bytes}
    (begins : other <+: input) (fits : Fits capBytes capLines other) :
    other.length ≤ capture.bytes.length := by
  by_contra longer
  have dropped : capture.bytes ≠ input := by
    intro whole
    exact longer (whole ▸ begins.length_le)
  have reached : capBytes ≤ capture.bytes.length ∨ capLines ≤ capture.lines := by
    simpa [BoundedStderr.full, captures.caps] using captures.full dropped
  cases reached with
  | inl bytes => exact longer (fits.1.trans bytes)
  | inr lines =>
    have inside : capture.bytes <+: other.dropLast := by
      apply prefix_of_prefix_length_le captures.kept
        (( dropLast_prefix other).trans begins)
      rw [length_dropLast]
      omega
    have counted := inside.sublist.count_le newline
    rw [← captures.lines] at counted
    have few := fits.2
    omega

/-- The longest beginning of the input that fits, whatever the chunks. -/
def LongestFitting (capBytes capLines : Nat) (input kept : Bytes) : Prop :=
  kept <+: input ∧ Fits capBytes capLines kept ∧
    ∀ other, other <+: input → Fits capBytes capLines other → other.length ≤ kept.length

theorem Captures.whole_iff (captures : Captures capBytes capLines input capture) :
    capture.bytes = input ↔ Fits capBytes capLines input := by
  constructor
  · rintro rfl
    exact captures.fits
  · intro fits
    exact captures.kept.eq_of_length_le (captures.longest ( prefix_refl _) fits)

/-- The capture is the longest beginning that fits.  Its flag says whether a byte was dropped
exactly unless all of the input fits and completes the last line of the cap. -/
theorem truncated_iff_dropped_iff (capBytes capLines : Nat) (someLines : 0 < capLines)
    (chunks : List Bytes) :
    LongestFitting capBytes capLines chunks.flatten
        ((new capBytes capLines).pushAll chunks).bytes ∧
      ((((new capBytes capLines).pushAll chunks).truncated = true ↔
          ((new capBytes capLines).pushAll chunks).bytes ≠ chunks.flatten) ↔
        ¬ (Fits capBytes capLines chunks.flatten ∧
          chunks.flatten.count newline = capLines)) := by
  have captures := captures_pushAll capBytes someLines chunks
  refine ⟨⟨captures.kept, captures.fits, fun other begins fits => captures.longest begins fits⟩, ?_⟩
  rw [captures.truncated, captures.lines, ← captures.whole_iff]
  by_cases whole : ((new capBytes capLines).pushAll chunks).bytes = chunks.flatten
  · simp [whole]
  · simp [whole]

/-- Two chunks of which a byte is dropped. -/
theorem truncated_iff_dropped_two :
    0 < 1 ∧ ((new 64 1).pushAll [[97, newline], [98]]).bytes = [97, newline] ∧
      LongestFitting 64 1 [97, newline, 98] ((new 64 1).pushAll [[97, newline], [98]]).bytes := by
  have settled := truncated_iff_dropped_iff 64 1 (by decide) [[97, newline], [98]]
  exact ⟨by decide, by decide, settled.1⟩

/-- One complete line is the whole input and is kept, and the capture claims a loss. -/
theorem truncated_without_loss :
    ((new 64 1).push [97, newline]).truncated = true ∧
      ((new 64 1).push [97, newline]).bytes = [97, newline] := by
  decide

end BoundedStderr

end Mcps.Proxy
