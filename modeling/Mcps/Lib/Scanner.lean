import Mathlib.Data.List.Basic
import Mathlib.Tactic

/-!
# Cutting a text at separators

A scan of a text from the left keeps a state and cuts at some of the items it meets: a
separator cuts where the state says it is not quoted or escaped.  The pieces between the
cuts are what remains of the text.

Cutting the pieces again with another scan is one scan of the whole text, provided the
first cuts only in the state the second starts from.
-/

structure Scanner (α σ : Type) where
  step : σ → α → σ
  cuts : σ → α → Bool

namespace Scanner

open List

variable {α σ τ : Type} (scanner : Scanner α σ) {state start : σ} {text rest : List α}

/-- The state behind a text. -/
def after (state : σ) (text : List α) : σ := text.foldl scanner.step state

/-- The pieces between the cuts. -/
def pieces (state : σ) : List α → List (List α)
  | [] => [[]]
  | item :: rest =>
    if scanner.cuts state item then [] :: pieces (scanner.step state item) rest
    else (pieces (scanner.step state item) rest).modifyHead (item :: ·)

/-- No item of the text is cut at. -/
def Uncut (state : σ) : List α → Prop
  | [] => True
  | item :: rest => scanner.cuts state item = false ∧ Uncut (scanner.step state item) rest

@[simp] theorem after_nil : scanner.after state [] = state := rfl

@[simp] theorem after_cons (item : α) :
    scanner.after state (item :: rest) = scanner.after (scanner.step state item) rest := rfl

theorem after_append (left right : List α) :
    scanner.after state (left ++ right) = scanner.after (scanner.after state left) right :=
  foldl_append

theorem uncut_append (left right : List α) :
    scanner.Uncut state (left ++ right) ↔
      scanner.Uncut state left ∧ scanner.Uncut (scanner.after state left) right := by
  induction left generalizing state with
  | nil => simp [Uncut]
  | cons item left ih => simp [Uncut, ih, and_assoc]

theorem pieces_ne_nil (state : σ) (text : List α) : scanner.pieces state text ≠ [] := by
  induction text generalizing state with
  | nil => simp [pieces]
  | cons item rest ih =>
    rw [pieces]
    split
    · simp
    · simpa [modifyHead_eq_nil_iff] using ih _

theorem exists_pieces (state : σ) (text : List α) :
    ∃ first others, scanner.pieces state text = first :: others :=
  exists_cons_of_ne_nil (scanner.pieces_ne_nil state text)

variable {scanner}

theorem pieces_append (uncut : scanner.Uncut state text) (rest : List α) :
    scanner.pieces state (text ++ rest) =
      (scanner.pieces (scanner.after state text) rest).modifyHead (text ++ ·) := by
  induction text generalizing state with
  | nil =>
    obtain ⟨_, _, split⟩ := scanner.exists_pieces state rest
    simp [split]
  | cons item text ih =>
    rw [cons_append, pieces, if_neg (by simp [uncut.1]), ih uncut.2, modifyHead_modifyHead]
    rfl

theorem pieces_of_uncut (uncut : scanner.Uncut state text) : scanner.pieces state text = [text] := by
  have joined := pieces_append uncut []
  rw [append_nil] at joined
  simp [joined, pieces]

theorem pieces_append_cons (uncut : scanner.Uncut state text) {separator : α}
    (cut : scanner.cuts (scanner.after state text) separator = true) (rest : List α) :
    scanner.pieces state (text ++ separator :: rest) =
      text :: scanner.pieces (scanner.step (scanner.after state text) separator) rest := by
  rw [pieces_append uncut, pieces, if_pos cut]
  simp

/-! ## Passing over a text -/

/-- A text the scan does not cut, and that leads back to where it starts. -/
def Passes (scanner : Scanner α σ) (start : σ) (text : List α) : Prop :=
  scanner.Uncut start text ∧ scanner.after start text = start

theorem Passes.append {left right : List α} (first : scanner.Passes start left)
    (second : scanner.Passes start right) : scanner.Passes start (left ++ right) := by
  rw [Passes, uncut_append, after_append, first.2]
  exact ⟨⟨first.1, second.1⟩, second.2⟩

theorem Passes.flatMap {β : Type} {items : List β} {render : β → List α}
    (passes : ∀ item ∈ items, scanner.Passes start (render item)) :
    scanner.Passes start (items.flatMap render) := by
  induction items with
  | nil => exact ⟨trivial, rfl⟩
  | cons item items ih =>
    exact (passes item (by simp)).append (ih fun item member => passes item (by simp [member]))

theorem Passes.of_forall (passes : ∀ item ∈ text, scanner.Passes start [item]) :
    scanner.Passes start text := by
  simpa using Passes.flatMap passes

theorem Passes.singleton {item : α} (kept : scanner.cuts start item = false)
    (resumes : scanner.step start item = start) : scanner.Passes start [item] :=
  ⟨⟨kept, trivial⟩, resumes⟩

theorem Passes.intercalate {separator : List α} {parts : List (List α)}
    (between : scanner.Passes start separator) (passes : ∀ part ∈ parts, scanner.Passes start part) :
    scanner.Passes start (intercalate separator parts) := by
  induction parts with
  | nil => exact ⟨trivial, rfl⟩
  | cons part parts ih =>
    have first := passes part (by simp)
    have tail := ih fun part member => passes part (by simp [member])
    cases parts with
    | nil => simpa using first
    | cons next parts =>
      rw [intercalate_cons_cons]
      exact (first.append between).append tail

theorem pieces_intercalate {separator : α} {parts : List (List α)} (some : parts ≠ [])
    (cut : scanner.cuts start separator = true) (resumes : scanner.step start separator = start)
    (passes : ∀ part ∈ parts, scanner.Passes start part) :
    scanner.pieces start (intercalate [separator] parts) = parts := by
  induction parts with
  | nil => exact absurd rfl some
  | cons part parts ih =>
    have first := passes part (by simp)
    cases parts with
    | nil => simp [pieces_of_uncut first.1]
    | cons next parts =>
      have tail := ih (by simp) fun part member => passes part (by simp [member])
      rw [intercalate_cons_cons, append_assoc, singleton_append,
        pieces_append_cons first.1 (by rw [first.2, cut]), first.2, resumes, tail]

/-! ## Two scans -/

theorem pieces_map {other : Scanner α τ} (view : σ → τ)
    (steps : ∀ state item, other.step (view state) item = view (scanner.step state item))
    (cuts : ∀ state item, other.cuts (view state) item = scanner.cuts state item)
    (state : σ) (text : List α) : other.pieces (view state) text = scanner.pieces state text := by
  induction text generalizing state with
  | nil => rfl
  | cons item rest ih => rw [pieces, pieces, cuts, steps, ih]

theorem after_map {other : Scanner α τ} (view : σ → τ)
    (steps : ∀ state item, other.step (view state) item = view (scanner.step state item))
    (state : σ) (text : List α) : other.after (view state) text = view (scanner.after state text) := by
  induction text generalizing state with
  | nil => rfl
  | cons item rest ih => rw [after_cons, after_cons, steps, ih]

/-- Cuts only where it starts, and goes on from there. -/
def CutsAt (scanner : Scanner α σ) (start : σ) : Prop :=
  ∀ state item, scanner.cuts state item = true → state = start ∧ scanner.step state item = start

/-- Cuts where either of two scans with the same states does. -/
def either (outer inner : Scanner α σ) : Scanner α σ where
  step := outer.step
  cuts state item := outer.cuts state item || inner.cuts state item

theorem after_pieces (cutsAt : scanner.CutsAt start) {first : List α} {others : List (List α)}
    (split : scanner.pieces state text = first :: others) (returns : scanner.after state text = start) :
    scanner.after state first = start ∧ ∀ piece ∈ others, scanner.after start piece = start := by
  induction text generalizing state first others with
  | nil =>
    cases split
    exact ⟨returns, nofun⟩
  | cons item rest ih =>
    obtain ⟨_, _, splitRest⟩ := scanner.exists_pieces (scanner.step state item) rest
    have tail := ih splitRest returns
    rw [pieces, splitRest] at split
    by_cases cut : scanner.cuts state item = true
    · rw [if_pos cut] at split
      cases split
      obtain ⟨here, resumes⟩ := cutsAt state item cut
      rw [resumes] at tail
      exact ⟨here, by simpa using tail⟩
    · rw [if_neg cut] at split
      cases split
      exact tail

theorem pieces_either {outer inner : Scanner α σ} (same : inner.step = outer.step)
    (cutsAt : outer.CutsAt start) {first : List α} {others : List (List α)}
    (split : outer.pieces state text = first :: others) :
    (outer.either inner).pieces state text =
      inner.pieces state first ++ others.flatMap (inner.pieces start) := by
  induction text generalizing state first others with
  | nil =>
    cases split
    simp [pieces]
  | cons item rest ih =>
    obtain ⟨next, _, splitRest⟩ := outer.exists_pieces (outer.step state item) rest
    have tail := ih splitRest
    have step : (outer.either inner).step state item = outer.step state item := rfl
    have cuts : (outer.either inner).cuts state item =
      (outer.cuts state item || inner.cuts state item) := rfl
    rw [pieces, splitRest] at split
    rw [pieces, step, cuts, tail]
    by_cases cut : outer.cuts state item = true
    · rw [if_pos cut] at split
      cases split
      rw [cut, (cutsAt state item cut).2]
      simp [pieces]
    · rw [if_neg cut] at split
      cases split
      rw [pieces, same, Bool.eq_false_iff.mpr cut, Bool.false_or]
      obtain ⟨_, _, splitNext⟩ := inner.exists_pieces (outer.step state item) next
      rw [splitNext]
      split <;> simp

end Scanner
