import Mcps.Core.CanonicalDomain

/-!
# The documents that canonicalize

A document is taken over into the JCS-safe domain exactly when no object of it has two
members under one key, its numbers are safe integers and it nests no deeper than the limit.
What is taken over is always written again, so these are the documents that canonicalize.
-/

namespace Mcps

open List Option Json

/-! ## The documents that are taken over -/

/-- A node the JCS-safe domain admits: distinct keys, and a safe integer if a number. -/
def SafeNode : Document → Prop
  | .number spelling => (safeNumber spelling).isSome
  | .object members => (members.map Prod.fst).Nodup
  | _ => True

instance : DecidablePred SafeNode
  | .number spelling => inferInstanceAs (Decidable ((safeNumber spelling).isSome = true))
  | .object members => inferInstanceAs (Decidable (members.map Prod.fst).Nodup)
  | .null | .bool _ | .string _ | .array _ => isTrue trivial

variable {convert : Document → Option JcsValue}

theorem mapM_isSome_iff {items : List Document} :
    (items.mapM convert).isSome ↔ ∀ item ∈ items, (convert item).isSome := by
  induction items with
  | nil => simp
  | cons item rest ih =>
    cases value : convert item with
    | none => simp [value]
    | some value' => cases others : rest.mapM convert <;> simp_all

theorem jcsMembers_isSome_iff {seen : List String} {members : List (String × Document)} :
    (jcsMembers convert seen members).isSome ↔ (members.map Prod.fst).Nodup ∧
      (∀ member ∈ members, member.1 ∉ seen) ∧ ∀ member ∈ members, (convert member.2).isSome := by
  induction members generalizing seen with
  | nil => simp [jcsMembers]
  | cons member rest ih =>
    obtain ⟨key, document⟩ := member
    by_cases duplicate : key ∈ seen
    · simp [jcsMembers, duplicate]
    · cases value : convert document with
      | none => simp [jcsMembers, value]
      | some value' =>
        have rests := @ih (key :: seen)
        cases others : jcsMembers convert (key :: seen) rest <;>
          simp_all [jcsMembers] <;> grind

variable {document : Document} {room : Nat}

theorem jcsAt_isSome_iff :
    (jcsAt room document).isSome ↔ document.Everywhere SafeNode ∧ document.depth ≤ room := by
  induction document using inductionOn generalizing room with
  | null | bool _ | string _ =>
    cases room <;> simp [jcsAt, jcsWith, Json.Everywhere, SafeNode, depth]
  | number spelling =>
    cases room <;> simp [jcsAt, jcsWith, Json.Everywhere, SafeNode, depth]
  | array items ih =>
    cases room with
    | zero => simp [jcsAt, jcsWith, depth]
    | succ room =>
      rw [everywhere_array, depth_array_le]
      have parts : (jcsAt (room + 1) (.array items)).isSome ↔
          (items.mapM (jcsAt room)).isSome := by
        cases made : items.mapM (jcsAt room) <;> simp [jcsAt, jcsWith, made]
      rw [parts, mapM_isSome_iff]
      constructor
      · intro every
        exact ⟨⟨trivial, fun item held => ((ih item held).mp (every item held)).1⟩,
          fun item held => ((ih item held).mp (every item held)).2⟩
      · rintro ⟨⟨_, safe⟩, low⟩ item held
        exact (ih item held).mpr ⟨safe item held, low item held⟩
  | object members ih =>
    cases room with
    | zero => simp [jcsAt, jcsWith, depth]
    | succ room =>
      rw [everywhere_object, depth_object_le]
      have parts : (jcsAt (room + 1) (.object members)).isSome ↔
          (jcsMembers (jcsAt room) [] members).isSome := by
        cases made : jcsMembers (jcsAt room) [] members <;> simp [jcsAt, jcsWith, made]
      rw [parts, jcsMembers_isSome_iff]
      constructor
      · rintro ⟨distinct, _, every⟩
        exact ⟨⟨distinct, fun member held => ((ih member held).mp (every member held)).1⟩,
          fun member held => ((ih member held).mp (every member held)).2⟩
      · rintro ⟨⟨distinct, safe⟩, low⟩
        exact ⟨distinct, by simp,
          fun member held => (ih member held).mpr ⟨safe member held, low member held⟩⟩

/-! ## What is taken over -/

section

variable {convert : Document → Option JcsValue} {image : Document → JcsValue}

theorem eq_map_of_mapM {items : List Document} {parts : List JcsValue}
    (agree : ∀ item ∈ items, ∀ part, convert item = some part → part = image item)
    (made : items.mapM convert = some parts) : parts = items.map image := by
  induction items generalizing parts with
  | nil =>
    cases made
    rfl
  | cons item items ih =>
    simp only [mapM_cons, bind_eq_bind, bind_eq_some_iff, Option.pure_def, some.injEq] at made
    obtain ⟨part, first, _, rest, rfl⟩ := made
    rw [map_cons, agree item (by simp) part first,
      ih (fun item held => agree item (by simp [held])) rest]

theorem eq_map_of_jcsMembers {seen : List String} {members : List (String × Document)}
    {parts : List (String × JcsValue)}
    (agree : ∀ member ∈ members, ∀ part, convert member.2 = some part → part = image member.2)
    (made : jcsMembers convert seen members = some parts) :
    parts = members.map fun member => (member.1, image member.2) := by
  induction members generalizing seen parts with
  | nil =>
    cases made
    rfl
  | cons member members ih =>
    simp only [jcsMembers, ite_none_left_eq_some, bind_eq_bind,
      bind_eq_some_iff, Option.pure_def, some.injEq] at made
    obtain ⟨_, part, first, _, rest, rfl⟩ := made
    rw [map_cons, agree member (by simp) part first,
      ih (fun member held => agree member (by simp [held])) rest]

end

variable {value : JcsValue}

theorem jcsAt_eq_mapNumbers (made : jcsAt room document = some value) :
    value = document.mapNumbers fun spelling => (safeNumber spelling).getD 0 := by
  induction document using inductionOn generalizing room value with
  | null | bool _ | string _ => cases room <;> (cases made; rfl)
  | number spelling =>
    have read : (safeNumber spelling).map number = some value := by
      cases room <;> exact made
    obtain ⟨i, spelled, rfl⟩ := map_eq_some_iff.mp read
    rw [mapNumbers, spelled, getD_some]
  | array items ih =>
    cases room with
    | zero => cases made
    | succ room =>
      obtain ⟨parts, each, same⟩ := bind_eq_some_iff.mp made
      cases same
      rw [mapNumbers, mapItems_eq_map,
        eq_map_of_mapM (fun item held part converted => ih item held converted) each]
  | object members ih =>
    cases room with
    | zero => cases made
    | succ room =>
      obtain ⟨parts, each, same⟩ := bind_eq_some_iff.mp made
      cases same
      rw [mapNumbers, mapMembers_eq_map,
        eq_map_of_jcsMembers (fun member held part converted => ih member held converted) each]

theorem safeNumber_eq_some {spelling : List Char} {i : Int} :
    safeNumber spelling = some i ↔ JsonGrammar.IntegerLiteral spelling i ∧ SafeInteger i := by
  constructor
  · intro read
    unfold safeNumber wholeNumber at read
    split at read
    next parsed =>
      cases read
      obtain ⟨literal, _, whole, denotes, same, safe⟩ := parseNumber_eq_some parsed
      cases same
      rw [append_nil] at whole
      exact ⟨whole ▸ denotes, safe⟩
    next => cases read
  · intro ⟨literal, safe⟩
    have parsed := parseNumber_literal literal safe endsNumber_nil
    rw [append_nil] at parsed
    rw [safeNumber, parsed, wholeNumber]

/-- A value of the JCS-safe domain with room for some levels. -/
structure InDomain (room : Nat) (value : JcsValue) : Prop where
  unique : value.UniqueKeys
  safe : value.Everywhere NumberSafe
  fits : value.depth ≤ room

theorem inDomain_of_jcsAt (made : jcsAt room document = some value) : InDomain room value := by
  rcases jcsAt_isSome_iff.mp (by rw [made]; rfl : (jcsAt room document).isSome) with ⟨safe, fits⟩
  rw [jcsAt_eq_mapNumbers made]
  constructor
  · apply uniqueKeys_mapNumbers.mpr
    refine everywhere_mono ?_ safe
    intro node safe
    cases node with
    | object members => exact safe
    | _ => trivial
  · apply everywhere_mapNumbers.mpr
    refine everywhere_mono ?_ safe
    intro node safe
    cases node with
    | number spelling =>
      obtain ⟨i, read⟩ := isSome_iff_exists.mp safe
      rw [mapNumbers, read]
      exact (safeNumber_eq_some.mp read).2
    | _ => trivial
  · rw [depth_mapNumbers]
    exact fits

theorem safeNumber_writeInteger {i : Int} (safe : SafeInteger i) :
    safeNumber (writeInteger i) = some i :=
  safeNumber_eq_some.mpr ⟨integerLiteral_writeInteger i, safe⟩

theorem jcsAt_mapNumbers_writeInteger (inside : InDomain room value) :
    jcsAt room (value.mapNumbers writeInteger) = some value := by
  have safe : (value.mapNumbers writeInteger).Everywhere SafeNode := by
    apply everywhere_mapNumbers.mpr
    refine everywhere_mono ?_ (everywhere_and.mpr ⟨inside.unique, inside.safe⟩)
    intro node ⟨unique, safe⟩
    cases node with
    | number i =>
      rw [mapNumbers, SafeNode, safeNumber_writeInteger safe]
      rfl
    | object members =>
      rw [mapNumbers, SafeNode, mapMembers_eq_map, List.map_map]
      exact unique
    | _ => trivial
  have fits : (value.mapNumbers writeInteger).depth ≤ room := by
    rw [depth_mapNumbers]
    exact inside.fits
  rcases isSome_iff_exists.mp (jcsAt_isSome_iff.mpr ⟨safe, fits⟩) with ⟨_, made⟩
  have back : value.Everywhere fun node =>
      ∀ i, node = .number i → (safeNumber (writeInteger i)).getD 0 = id i := by
    refine everywhere_mono ?_ inside.safe
    intro node safe i same
    subst same
    rw [safeNumber_writeInteger safe]
    rfl
  rw [made, jcsAt_eq_mapNumbers made, mapNumbers_mapNumbers back, mapNumbers_id]

/-! ## Writing -/

variable {depth : Nat}

theorem writeItems_isOk {items : List JcsValue}
    (every : ∀ item ∈ items, ∃ text, writeValue item depth = .ok text) :
    ∃ texts, writeItems items depth = .ok texts := by
  induction items with
  | nil => exact ⟨[], rfl⟩
  | cons item rest ih =>
    obtain ⟨text, written⟩ := every item mem_cons_self
    obtain ⟨texts, others⟩ := ih fun item held => every item (mem_cons_of_mem _ held)
    exact ⟨text :: texts, by simp [writeItems, written, others]⟩

theorem writeMembers_isOk {members : List (String × JcsValue)}
    (every : ∀ member ∈ members, ∃ text, writeValue member.2 depth = .ok text) :
    ∃ texts, writeMembers members depth = .ok texts ∧
      texts.map Prod.fst = members.map Prod.fst := by
  induction members with
  | nil => exact ⟨[], rfl, rfl⟩
  | cons member rest ih =>
    obtain ⟨key, value⟩ := member
    rcases every (key, value) mem_cons_self with ⟨text, written⟩
    rcases ih fun member held => every member (mem_cons_of_mem _ held) with
      ⟨texts, others, keys⟩
    exact ⟨(key, text) :: texts, by simp [writeMembers, written, others], by simp [keys]⟩

theorem writeValue_isOk (unique : value.UniqueKeys) (fits : depth + value.depth ≤ maxParseDepth) :
    ∃ text, writeValue value depth = .ok text := by
  induction value using inductionOn generalizing depth with
  | null => exact ⟨_, rfl⟩
  | bool b => cases b <;> exact ⟨_, rfl⟩
  | number _ | string _ => exact ⟨_, rfl⟩
  | array items ih =>
    have room : depth < maxParseDepth := by
      rw [Json.depth] at fits
      omega
    have low : (array items).depth ≤ (maxParseDepth - depth - 1) + 1 := by omega
    have every : ∀ item ∈ items, ∃ text, writeValue item (depth + 1) = .ok text := by
      intro item held
      have lower := depth_array_le.mp low item held
      exact ih item held ((everywhere_array.mp unique).2 item held) (by omega)
    obtain ⟨texts, written⟩ := writeItems_isOk every
    exact ⟨_, writeValue_array room written⟩
  | object members ih =>
    have room : depth < maxParseDepth := by
      rw [Json.depth] at fits
      omega
    have low : (object members).depth ≤ (maxParseDepth - depth - 1) + 1 := by omega
    have every : ∀ member ∈ members, ∃ text, writeValue member.2 (depth + 1) = .ok text := by
      intro member held
      have lower := depth_object_le.mp low member held
      exact ih member held ((everywhere_object.mp unique).2 member held) (by omega)
    obtain ⟨texts, written, keys⟩ := writeMembers_isOk every
    exact ⟨_, writeValue_object room written (keys ▸ (everywhere_object.mp unique).1)⟩

theorem canonicalize_isOk_iff {input : Bytes} (read : readDocument input = some document) :
    (∃ bytes, canonicalize input = .ok bytes) ↔
      document.Everywhere SafeNode ∧ document.depth ≤ maxParseDepth := by
  rw [← jcsAt_isSome_iff, canonicalize, parse_eq, read, bind_some]
  cases made : jcsAt maxParseDepth document with
  | none => simp [okOr]
  | some value =>
    have inside := inDomain_of_jcsAt made
    rcases writeValue_isOk inside.unique (Nat.zero_add value.depth ▸ inside.fits) with
      ⟨_, written⟩
    simp [canonicalizeValue, written]

end Mcps
