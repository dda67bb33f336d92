import Mathlib.Data.List.DropRight
import Mathlib.Tactic

/-!
# Parts with commas between them

A reader of comma-separated parts between brackets, with blanks around every part, against
the texts of such lists.  Whatever it reads has such a text, and it reads all of them, if that
is so for the parts.
-/

namespace Separated

open List

variable {α β : Type} (isBlank : Char → Bool) (close : Char)

section

variable (readPart : List Char → Option (α × List Char))

/-- The loop over the parts, up to the closing bracket. -/
def readParts : Nat → List Char → Option (List α × List Char)
  | 0, _ => none
  | fuel + 1, input => do
    let (part, input) ← readPart (input.dropWhile isBlank)
    match input.dropWhile isBlank with
    | [] => none
    | c :: rest =>
      if c = ',' then do
        let (parts, rest) ← readParts fuel rest
        return (part :: parts, rest)
      else if c = close then return ([part], rest)
      else none

/-- The parts behind an opening bracket. -/
def readRest (input : List Char) : Option (List α × List Char) :=
  match input.dropWhile isBlank with
  | [] => none
  | c :: rest =>
    if c = close then some ([], rest)
    else readParts isBlank close readPart (c :: rest).length (c :: rest)

end

section

variable (PartText : β → List Char → Prop)

def Blank (text : List Char) : Prop := ∀ c ∈ text, isBlank c = true

/-- One part or more, with commas between them. -/
inductive PartsText : List β → List Char → Prop
  | last {part : β} {before text after : List Char} : Blank isBlank before →
      PartText part text → Blank isBlank after → PartsText [part] (before ++ (text ++ after))
  | more {part : β} {parts : List β} {before text after rest : List Char} :
      Blank isBlank before → PartText part text → Blank isBlank after → PartsText parts rest →
      PartsText (part :: parts) (before ++ (text ++ (after ++ ',' :: rest)))

/-- Any number of parts up to the closing bracket. -/
inductive RestText : List β → List Char → Prop
  | empty {blank : List Char} : Blank isBlank blank → RestText [] (blank ++ [close])
  | parts {parts : List β} {text : List Char} : PartsText isBlank PartText parts text →
      RestText parts (text ++ [close])

end

variable {isBlank close} {PartText : β → List Char → Prop}
  {readPart : List Char → Option (α × List Char)} {input rest text : List Char}

theorem blank_split (input : List Char) :
    ∃ blank, Blank isBlank blank ∧ input = blank ++ input.dropWhile isBlank :=
  ⟨input.takeWhile isBlank, fun _ member => mem_takeWhile_imp member,
    takeWhile_append_dropWhile.symm⟩

theorem dropWhile_blank {blank : List Char} (blanks : Blank isBlank blank) (rest : List Char) :
    (blank ++ rest).dropWhile isBlank = rest.dropWhile isBlank :=
  dropWhile_append_of_pos blanks

theorem Blank.append {left right : List Char} (first : Blank isBlank left)
    (second : Blank isBlank right) : Blank isBlank (left ++ right) :=
  forall_mem_append.mpr ⟨first, second⟩

theorem PartsText.blank {parts : List β} {blank : List Char} (blanks : Blank isBlank blank)
    (spelled : PartsText isBlank PartText parts text) :
    PartsText isBlank PartText parts (blank ++ text) := by
  cases spelled with
  | last before part after =>
    rw [← append_assoc]
    exact .last (blanks.append before) part after
  | more before part after others =>
    rw [← append_assoc]
    exact .more (blanks.append before) part after others

/-! ## What is read -/

section

variable {Good : α → Prop} {Read : β → α → Prop}
  (sound : ∀ input part rest, readPart input = some (part, rest) → Good part →
    ∃ tree text, input = text ++ rest ∧ PartText tree text ∧ Read tree part)

include sound

theorem readParts_eq_some {fuel : Nat} {parts : List α} (good : ∀ part ∈ parts, Good part)
    (read : readParts isBlank close readPart fuel input = some (parts, rest)) :
    ∃ pairs : List (β × α), parts = pairs.map Prod.snd ∧ (∀ pair ∈ pairs, Read pair.1 pair.2) ∧
      ∃ text, input = text ++ close :: rest ∧
        PartsText isBlank PartText (pairs.map Prod.fst) text := by
  induction fuel generalizing input parts with
  | zero => cases read
  | succ fuel ih =>
    rw [readParts] at read
    simp only [Option.bind_eq_bind, Option.bind_eq_some_iff, Prod.exists] at read
    obtain ⟨part, behind, first, read⟩ := read
    obtain ⟨before, blankBefore, inputSplit⟩ := @blank_split isBlank input
    obtain ⟨after, blankAfter, behindSplit⟩ := @blank_split isBlank behind
    split at read
    next => cases read
    next c others next =>
      split_ifs at read with comma closing
      · simp only [Option.bind_eq_some_iff, Prod.exists] at read
        obtain ⟨_, _, found, same⟩ := read
        cases same
        obtain ⟨good, goodMore⟩ := forall_mem_cons.mp good
        obtain ⟨tree, text, split, spelled, reads⟩ := sound _ _ _ first good
        obtain ⟨pairs, rfl, every, tail, rfl, spelledTail⟩ := ih goodMore found
        refine ⟨(tree, part) :: pairs, rfl, forall_mem_cons.mpr ⟨reads, every⟩,
          before ++ (text ++ (after ++ ',' :: tail)), ?_,
          .more blankBefore spelled blankAfter spelledTail⟩
        rw [inputSplit, split, behindSplit, next, comma]
        simp
      · cases read
        obtain ⟨tree, text, split, spelled, reads⟩ := sound _ _ _ first (good part (by simp))
        refine ⟨[(tree, part)], rfl, by simpa using reads, before ++ (text ++ after), ?_,
          .last blankBefore spelled blankAfter⟩
        rw [inputSplit, split, behindSplit, next, closing]
        simp

theorem readRest_eq_some {parts : List α} (good : ∀ part ∈ parts, Good part)
    (read : readRest isBlank close readPart input = some (parts, rest)) :
    ∃ pairs : List (β × α), parts = pairs.map Prod.snd ∧ (∀ pair ∈ pairs, Read pair.1 pair.2) ∧
      ∃ text, input = text ++ rest ∧
        RestText isBlank close PartText (pairs.map Prod.fst) text := by
  obtain ⟨blank, blanks, split⟩ := @blank_split isBlank input
  unfold readRest at read
  split at read
  next => cases read
  next c others next =>
    split_ifs at read with closing
    · cases read
      refine ⟨[], rfl, nofun, blank ++ [close], ?_, .empty blanks⟩
      rw [split, next, closing]
      simp
    · obtain ⟨pairs, same, every, text, inside, spelled⟩ := readParts_eq_some sound good read
      refine ⟨pairs, same, every, (blank ++ text) ++ [close], ?_, .parts (spelled.blank blanks)⟩
      rw [split, next, inside]
      simp

end

/-! ## What must be read -/

variable (isBlank close) in
/-- The text starts with a character that is no blank and does not close the list. -/
def Opens (text : List Char) : Prop :=
  ∃ c tail, text = c :: tail ∧ isBlank c = false ∧ c ≠ close

theorem Opens.dropWhile (opens : Opens isBlank close text) (rest : List Char) :
    (text ++ rest).dropWhile isBlank = text ++ rest := by
  obtain ⟨c, _, rfl, visible, -⟩ := opens
  simp [visible]

theorem readParts_dropWhile (fuel : Nat) (input : List Char) :
    readParts isBlank close readPart fuel (input.dropWhile isBlank) =
      readParts isBlank close readPart fuel input := by
  cases fuel with
  | zero => rfl
  | succ fuel => rw [readParts, readParts, dropWhile_idempotent]

theorem PartsText.opens {parts : List β} (spelled : PartsText isBlank PartText parts text)
    (opens : ∀ part ∈ parts, ∀ text, PartText part text → Opens isBlank close text) :
    ∃ before shown, Blank isBlank before ∧ Opens isBlank close shown ∧ text = before ++ shown ∧
      parts.length ≤ shown.length := by
  induction spelled with
  | @last part before text after blanks spelled _ =>
    obtain ⟨c, tail, rfl, visible⟩ := opens part (by simp) text spelled
    exact ⟨before, c :: tail ++ after, blanks, ⟨c, tail ++ after, rfl, visible⟩, rfl, by simp⟩
  | @more part parts before text after rest blanks spelled _ _ ih =>
    obtain ⟨c, tail, rfl, visible⟩ := opens part (by simp) text spelled
    obtain ⟨_, _, _, _, rfl, _⟩ := ih fun part member => opens part (by simp [member])
    refine ⟨before, c :: tail ++ (after ++ ',' :: _), blanks, ⟨c, _, rfl, visible⟩, rfl, ?_⟩
    simp only [length_cons, length_append]
    omega

section

variable {Ends : List Char → Prop} (commaVisible : isBlank ',' = false)
  (closeVisible : isBlank close = false) (notComma : close ≠ ',')
  (ends : ∀ blank c rest, Blank isBlank blank → c = ',' ∨ c = close → Ends (blank ++ c :: rest))
  {pairs : List (β × α)} (opens : ∀ pair ∈ pairs, ∀ text, PartText pair.1 text →
    Opens isBlank close text)
  (reads : ∀ pair ∈ pairs, ∀ text, PartText pair.1 text → ∀ rest, Ends rest →
    readPart (text ++ rest) = some (pair.2, rest))

include commaVisible closeVisible notComma ends opens reads

theorem readParts_complete (spelled : PartsText isBlank PartText (pairs.map Prod.fst) text)
    {fuel : Nat} (enough : pairs.length ≤ fuel) (rest : List Char) :
    readParts isBlank close readPart fuel (text ++ close :: rest) =
      some (pairs.map Prod.snd, rest) := by
  induction pairs generalizing text fuel with
  | nil => cases spelled
  | cons pair pairs ih =>
    obtain ⟨fuel, rfl⟩ := Nat.exists_eq_add_of_lt (Nat.lt_of_succ_le enough)
    obtain ⟨opensFirst, opensOthers⟩ := forall_mem_cons.mp opens
    obtain ⟨readsFirst, readsOthers⟩ := forall_mem_cons.mp reads
    rw [map_cons] at spelled
    generalize others : pairs.map Prod.fst = trees at spelled
    cases spelled with
    | @last _ before text after blankBefore spelled blankAfter =>
      have parsed := readsFirst text spelled _ (ends after close rest blankAfter (.inr rfl))
      have input : before ++ (text ++ after) ++ close :: rest =
          before ++ (text ++ (after ++ close :: rest)) := by simp
      rw [input, readParts, dropWhile_blank blankBefore, (opensFirst text spelled).dropWhile,
        parsed]
      simp [dropWhile_blank blankAfter, closeVisible, notComma, map_eq_nil_iff.mp others]
    | @more _ _ before text after tail blankBefore spelled blankAfter spelledTail =>
      have parsed := readsFirst text spelled _
        (ends after ',' (tail ++ close :: rest) blankAfter (.inl rfl))
      have input : before ++ (text ++ (after ++ ',' :: tail)) ++ close :: rest =
          before ++ (text ++ (after ++ ',' :: (tail ++ close :: rest))) := by simp
      have behind := ih opensOthers readsOthers (others ▸ spelledTail)
        (Nat.le_of_succ_le_succ enough)
      rw [input, readParts, dropWhile_blank blankBefore, (opensFirst text spelled).dropWhile,
        parsed]
      simp [dropWhile_blank blankAfter, commaVisible, behind]

theorem readRest_complete (spelled : RestText isBlank close PartText (pairs.map Prod.fst) text)
    (rest : List Char) :
    readRest isBlank close readPart (text ++ rest) = some (pairs.map Prod.snd, rest) := by
  generalize trees_eq : pairs.map Prod.fst = trees at spelled
  cases spelled with
  | empty blanks =>
    rw [append_assoc, readRest, dropWhile_blank blanks]
    simp [closeVisible, map_eq_nil_iff.mp trees_eq]
  | parts spelled =>
    subst trees_eq
    obtain ⟨before, _, blanks, ⟨c, tail, rfl, visible, notClose⟩, rfl, long⟩ :=
      @PartsText.opens _ isBlank close _ _ _ spelled fun part member text spelled => by
        obtain ⟨pair, held, rfl⟩ := mem_map.mp member
        exact opens pair held text spelled
    have shown : (before ++ (c :: tail) ++ [close] ++ rest).dropWhile isBlank =
        c :: (tail ++ close :: rest) := by
      simp [dropWhile_blank blanks, visible]
    have read := @readParts_complete _ _ _ _ _ _ _ _ commaVisible closeVisible notComma ends
      _ opens reads spelled (c :: (tail ++ close :: rest)).length (by simp at long ⊢; omega) rest
    rw [← readParts_dropWhile] at read
    simp only [append_assoc, singleton_append] at shown read ⊢
    rw [shown] at read
    rw [readRest, shown]
    simp only [notClose, ↓reduceIte, read]

end

end Separated
