import Mcps.Core.ReaderGrammar

/-!
# The reader reads what the writer wrote

Reading the canonical text of a value gives the document of the value back: its members in
canonical order, and each integer spelled as the writer spells it.  It makes the writer
injective: two values with the same canonical bytes differ at most in the order of their
members.

What the writer emits is the text of a tree that resolves to the document, by induction on the
value, and such a text is read.
-/

namespace Mcps

open List Option Except Json

open JsonGrammar (Spelled ValueText MemberText Unescapes Resolves)

/-! ## Values -/

/-- The document of a value's canonical text. -/
def canonicalDocument (value : JcsValue) : Document :=
  (value.sortMembers leUtf16).mapNumbers writeInteger

theorem canonicalDocument_array (items : List JcsValue) :
    canonicalDocument (.array items) = .array (items.map canonicalDocument) := by
  rw [canonicalDocument, sortMembers, mapNumbers, sortItems_eq_map, mapItems_eq_map, List.map_map]
  rfl

theorem canonicalDocument_object (members : List (String × JcsValue)) :
    canonicalDocument (.object members) =
      .object ((members.map fun member => (member.1, canonicalDocument member.2)).insertionSort
        fun a b => leUtf16 a.1 b.1) := by
  rw [canonicalDocument, sortMembers, mapNumbers, sortEach_eq_map,
    mapMembers_eq_map, ← Assoc.insertionSort_map_snd leUtf16, List.map_map]
  rfl

variable {depth : Nat}

theorem writeItems_eq_ok {items : List JcsValue} {texts : List (List Char)}
    (written : writeItems items depth = .ok texts) :
    List.Forall₂ (fun item text => writeValue item depth = .ok text) items texts := by
  induction items generalizing texts with
  | nil =>
    cases written
    exact .nil
  | cons item items ih =>
    simp only [writeItems, bind_eq_ok] at written
    obtain ⟨_, first, _, rest, written⟩ := written
    cases written
    exact .cons first (ih rest)

theorem writeMembers_eq_ok {members : List (String × JcsValue)}
    {entries : List (String × List Char)} (written : writeMembers members depth = .ok entries) :
    List.Forall₂ (fun member entry => member.1 = entry.1 ∧ writeValue member.2 depth = .ok entry.2)
      members entries := by
  induction members generalizing entries with
  | nil =>
    cases written
    exact .nil
  | cons member members ih =>
    simp only [writeMembers, bind_eq_ok] at written
    obtain ⟨_, first, _, rest, written⟩ := written
    cases written
    exact .cons ⟨rfl, first⟩ (ih rest)

theorem restText_commaSeparated {α β : Type} {PartText : β → List Char → Prop} {close : Char}
    {tree : α → β} {text : α → List Char} (pieces : List α)
    (every : ∀ piece ∈ pieces, PartText (tree piece) (text piece)) :
    Separated.RestText isWs close PartText (pieces.map tree)
      (commaSeparated (pieces.map text) ++ [close]) := by
  have none : Separated.Blank isWs [] := nofun
  cases pieces with
  | nil => exact .empty none
  | cons piece pieces =>
    apply Separated.RestText.parts
    induction pieces generalizing piece with
    | nil =>
      have last := Separated.PartsText.last none (every piece (by simp)) none
      simpa [commaSeparated] using last
    | cons next pieces ih =>
      have others := ih next fun piece held => every piece (by simp [mem_cons.mp held])
      simpa [commaSeparated] using .more none (every piece (by simp)) none others

/-- A text of a tree of bounded depth that resolves to the document. -/
def SpellsDocument (room : Nat) (document : Document) (text : List Char) (tree : Spelled) : Prop :=
  ValueText tree text ∧ Resolves tree document ∧ tree.depth ≤ room

theorem memberText_writeMember {tree : Spelled} {text : List Char} (key : String)
    (spelled : ValueText tree text) :
    MemberText (String.ofList (writeChars key.toList), tree) (writeMember (key, text)) := by
  refine ⟨[], [], text, nofun, nofun, ?_, spelled, ?_⟩
  · simpa using (unescapes_writeChars key.toList).stringText
  · simp [writeMember, writeString]

variable {value : JcsValue}

theorem spells_writeValue {room : Nat} {text : List Char}
    (written : writeValue value depth = .ok text) (levels : maxParseDepth ≤ depth + room) :
    ∃ tree, SpellsDocument room (canonicalDocument value) text tree := by
  induction value using inductionOn generalizing depth room text with
  | null =>
    cases written
    exact ⟨.null, .null, .null, Nat.zero_le _⟩
  | bool value =>
    cases value <;> cases written
    · exact ⟨.bool false, .false, .bool, Nat.zero_le _⟩
    · exact ⟨.bool true, .true, .bool, Nat.zero_le _⟩
  | number i =>
    cases written
    have literal := integerLiteral_writeInteger i
    exact ⟨_, .number literal.numberText, .number literal, Nat.zero_le _⟩
  | string s =>
    cases written
    have unescapes := unescapes_writeChars s.toList
    rw [writeString, textChars_eq, ← String.toList_ofList (l := writeChars _)]
    rw [← String.toList_ofList (l := writeChars _)] at unescapes
    exact ⟨.string _, .string unescapes.stringText, .string unescapes, Nat.zero_le _⟩
  | array items ih =>
    rw [writeValue, guard_eq_ok] at written
    obtain ⟨shallow, written⟩ := written
    obtain ⟨texts, each, written⟩ := bind_eq_ok.mp written
    cases written
    obtain ⟨room, rfl⟩ := Nat.exists_eq_succ_of_ne_zero (by omega : room ≠ 0)
    have spells : ∀ item ∈ items, ∀ text, writeValue item (depth + 1) = .ok text →
        ∃ tree, SpellsDocument room (canonicalDocument item) text tree := by
      intro item held text written
      exact ih item held written (by omega)
    obtain ⟨triples, rfl, rfl, every⟩ := exists_triples (writeItems_eq_ok each) spells
    refine ⟨.array (triples.map (·.2.2)), JsonGrammar.valueText_array_iff.mpr ⟨_, rfl,
      restText_commaSeparated triples fun triple held => (every triple held).2.1⟩, ?_,
      depth_array_le.mpr (forall_mem_map.mpr fun triple held =>
        (every triple held).2.2.2)⟩
    let pairs := triples.map fun triple => (triple.2.2, canonicalDocument triple.1)
    have resolves : ∀ pair ∈ pairs, Resolves pair.1 pair.2 :=
      forall_mem_map.mpr fun triple held => (every triple held).2.2.1
    simpa [pairs, canonicalDocument_array, Function.comp_def] using Resolves.array resolves
  | object members ih =>
    rw [writeValue, guard_eq_ok] at written
    obtain ⟨shallow, written⟩ := written
    obtain ⟨texts, each, written⟩ := bind_eq_ok.mp written
    obtain ⟨-, written⟩ := guard_eq_ok.mp written
    cases written
    obtain ⟨room, rfl⟩ := Nat.exists_eq_succ_of_ne_zero (by omega : room ≠ 0)
    have spells : ∀ member ∈ members, ∀ entry : String × List Char,
        member.1 = entry.1 ∧ writeValue member.2 (depth + 1) = .ok entry.2 →
        ∃ tree, SpellsDocument room (canonicalDocument member.2) entry.2 tree := by
      intro member held entry written
      exact ih member held written.2 (by omega)
    obtain ⟨triples, rfl, rfl, every⟩ := exists_triples (writeMembers_eq_ok each) spells
    let entries := triples.map fun triple => (triple.1.1, triple)
    have texts : triples.map (·.2.1) = entries.map fun entry => (entry.1, entry.2.2.1.2) := by
      rw [List.map_map]
      apply map_congr_left
      intro triple held
      exact Prod.ext (every triple held).1.1.symm rfl
    have documents : (triples.map Prod.fst).map (fun member =>
        (member.1, canonicalDocument member.2)) =
          entries.map fun entry => (entry.1, canonicalDocument entry.2.1.2) := by
      rw [List.map_map, List.map_map]
      rfl
    let sorted := entries.insertionSort fun a b => leUtf16 a.1 b.1
    have spelled : ∀ entry ∈ sorted, SpellsDocument room (canonicalDocument entry.2.1.2) entry.2.2.1.2
        entry.2.2.2 := by
      intro entry held
      obtain ⟨triple, inside, rfl⟩ := mem_map.mp
        ((perm_insertionSort _ _).mem_iff.mp held)
      exact (every triple inside).2
    let spell (entry : String × (String × JcsValue) × (String × List Char) × Spelled) :
        String × Spelled := (String.ofList (writeChars entry.1.toList), entry.2.2.2)
    rw [texts, Assoc.insertionSort_map_snd leUtf16 (fun triple => triple.2.1.2) entries,
      List.map_map]
    refine ⟨.object (sorted.map spell), JsonGrammar.valueText_object_iff.mpr ⟨_, rfl,
      restText_commaSeparated sorted fun entry held =>
        memberText_writeMember entry.1 (spelled entry held).1⟩, ?_,
      depth_object_le.mpr (forall_mem_map.mpr fun entry held =>
        (spelled entry held).2.2)⟩
    let pairs := sorted.map fun entry => (spell entry, (entry.1, canonicalDocument entry.2.1.2))
    have names : ∀ pair ∈ pairs, Unescapes pair.1.1.toList pair.2.1.toList := by
      rw [List.forall_mem_map]
      intro entry _
      simpa [spell] using unescapes_writeChars entry.1.toList
    have values : ∀ pair ∈ pairs, Resolves pair.1.2 pair.2.2 :=
      forall_mem_map.mpr fun entry held => (spelled entry held).2.1
    rw [canonicalDocument_object, documents,
      Assoc.insertionSort_map_snd leUtf16 (fun triple => canonicalDocument triple.1.2) entries]
    simpa [pairs, Function.comp_def] using Resolves.object names values

variable {bytes : Bytes}

theorem canonicalizeValue_eq_ok (canonical : canonicalizeValue value = .ok bytes) :
    ∃ text, writeValue value 0 = .ok text ∧ bytes = encodeUtf8 text := by
  obtain ⟨text, written, canonical⟩ := bind_eq_ok.mp canonical
  cases canonical
  exact ⟨text, written, rfl⟩

theorem readDocument_canonicalizeValue (canonical : canonicalizeValue value = .ok bytes) :
    readDocument bytes = some (canonicalDocument value) := by
  obtain ⟨text, written, rfl⟩ := canonicalizeValue_eq_ok canonical
  have levels : maxParseDepth ≤ 0 + (text.length + maxParseDepth) := by omega
  obtain ⟨_, spelled, resolves, fits⟩ := spells_writeValue written levels
  have visible : skipWs (text ++ []) = text ++ [] := (opens_of_resolves resolves spelled).dropWhile []
  have read := readValue_complete resolves fits spelled endsNumber_nil
  rw [append_nil] at visible read
  have ended : skipWs [] = [] := rfl
  simp [readDocument, decodeUtf8_encodeUtf8, readText, visible, read, ended]

/-- A number node holds a safe integer. -/
def NumberSafe : JcsValue → Prop
  | .number i => SafeInteger i
  | _ => True

instance : DecidablePred NumberSafe
  | .number i => inferInstanceAs (Decidable (SafeInteger i))
  | .null | .bool _ | .string _ | .array _ | .object _ => isTrue trivial

/-! ## Injectivity -/

/-- The integer a number denotes; floats denote none. -/
def Number.integer? : Number → Option Int
  | .posInt value _ => some value
  | .negInt value _ => some value
  | .float _ => none

theorem integerOfNumber_eq_ok {n : Number} {i : Int} :
    integerOfNumber n = .ok i ↔ n.integer? = some i ∧ SafeInteger i := by
  cases n with
  | posInt value bounded =>
    by_cases small : value < 2 ^ 63
    · by_cases safe : SafeInteger value
      · simp only [integerOfNumber, Number.asI64, small, ↓reduceIte, checkSafeInteger, safe,
          bind_ok, pure_eq_ok, ok.injEq, Number.integer?,
          some.injEq]
        constructor
        · rintro rfl
          exact ⟨rfl, safe⟩
        · exact And.left
      · simp only [integerOfNumber, Number.asI64, small, ↓reduceIte, checkSafeInteger, safe,
          bind_error, reduceCtorEq, Number.integer?, some.injEq, false_iff,
          not_and]
        rintro rfl
        exact safe
    · have large : (value : Int) > maxSafeInteger := by
        simp only [maxSafeInteger]
        omega
      simp only [integerOfNumber, Number.asI64, small, ↓reduceIte, Number.asU64, large,
        reduceCtorEq, Number.integer?, some.injEq, false_iff, not_and]
      rintro rfl safe
      exact absurd safe.2 (not_le.mpr large)
  | negInt value bounded =>
    by_cases safe : SafeInteger value
    · simp only [integerOfNumber, Number.asI64, checkSafeInteger, safe, ↓reduceIte,
        bind_ok, pure_eq_ok, ok.injEq, Number.integer?, some.injEq]
      constructor
      · rintro rfl
        exact ⟨rfl, safe⟩
      · exact And.left
    · simp only [integerOfNumber, Number.asI64, checkSafeInteger, safe, ↓reduceIte,
        bind_error, reduceCtorEq, Number.integer?, some.injEq, false_iff, not_and]
      rintro rfl
      exact safe
  | float bits => simp [integerOfNumber, Number.asI64, Number.asU64, Number.integer?]

/-- The number an integer is written as. -/
def numberOfInteger (i : Int) : Number :=
  if nonneg : 0 ≤ i ∧ i < 2 ^ 64 then .posInt i.toNat (by omega)
  else if negative : -2 ^ 63 ≤ i ∧ i < 0 then .negInt i negative
  else .float 0

theorem numberOfInteger_integer? {n : Number} {i : Int} (denotes : n.integer? = some i) :
    numberOfInteger i = n := by
  cases n with
  | posInt value bounded =>
    rw [Number.integer?, some.injEq] at denotes
    subst denotes
    have nonneg : 0 ≤ (value : Int) ∧ (value : Int) < 2 ^ 64 := by omega
    rw [numberOfInteger, dif_pos nonneg]
    rfl
  | negInt value bounded =>
    rw [Number.integer?, some.injEq] at denotes
    subst denotes
    have negative : ¬ (0 ≤ value ∧ value < 2 ^ 64) := by omega
    rw [numberOfInteger, dif_neg negative, dif_pos bounded]
  | float bits => simp [Number.integer?] at denotes

mutual
theorem fromSerdeValueAt_eq_ok {value : Value} {depth : Nat} {jcs : JcsValue}
    (converted : fromSerdeValueAt value depth = .ok jcs) :
    jcs.mapNumbers numberOfInteger = value ∧ jcs.Everywhere NumberSafe := by
  cases value with
  | null | bool _ | string _ => cases converted; exact ⟨rfl, trivial⟩
  | number n =>
    obtain ⟨i, read, ⟨⟩⟩ := Except.bind_eq_ok.mp converted
    obtain ⟨denotes, safe⟩ := integerOfNumber_eq_ok.mp read
    exact ⟨by rw [Json.mapNumbers, numberOfInteger_integer? denotes], safe⟩
  | array items =>
    simp only [fromSerdeValueAt, Except.guard_eq_ok, Except.bind_eq_ok] at converted
    obtain ⟨-, parts, read, ⟨⟩⟩ := converted
    obtain ⟨same, safe⟩ := fromSerdeItems_eq_ok read
    exact ⟨by rw [Json.mapNumbers, same], Json.everywhere_array.mpr ⟨trivial, safe⟩⟩
  | object members =>
    simp only [fromSerdeValueAt, Except.guard_eq_ok, Except.bind_eq_ok] at converted
    obtain ⟨-, parts, read, ⟨⟩⟩ := converted
    obtain ⟨same, safe⟩ := fromSerdeMembers_eq_ok read
    exact ⟨by rw [Json.mapNumbers, same], Json.everywhere_object.mpr ⟨trivial, safe⟩⟩

theorem fromSerdeItems_eq_ok {items : List Value} {depth : Nat} {parts : List JcsValue}
    (converted : fromSerdeItems items depth = .ok parts) :
    Json.mapItems numberOfInteger parts = items ∧
      ∀ part ∈ parts, part.Everywhere NumberSafe := by
  cases items with
  | nil => cases converted; exact ⟨rfl, nofun⟩
  | cons item rest =>
    simp only [fromSerdeItems, Except.bind_eq_ok] at converted
    obtain ⟨head, read, tail, readTail, ⟨⟩⟩ := converted
    obtain ⟨same, safe⟩ := fromSerdeValueAt_eq_ok read
    obtain ⟨sameTail, safeTail⟩ := fromSerdeItems_eq_ok readTail
    exact ⟨by rw [Json.mapItems, same, sameTail], List.forall_mem_cons.mpr ⟨safe, safeTail⟩⟩

theorem fromSerdeMembers_eq_ok {members : List (String × Value)} {depth : Nat}
    {parts : List (String × JcsValue)} (converted : fromSerdeMembers members depth = .ok parts) :
    Json.mapMembers numberOfInteger parts = members ∧
      ∀ part ∈ parts, part.2.Everywhere NumberSafe := by
  cases members with
  | nil => cases converted; exact ⟨rfl, nofun⟩
  | cons member rest =>
    obtain ⟨key, value⟩ := member
    simp only [fromSerdeMembers, Except.bind_eq_ok] at converted
    obtain ⟨head, read, tail, readTail, ⟨⟩⟩ := converted
    obtain ⟨same, safe⟩ := fromSerdeValueAt_eq_ok read
    obtain ⟨sameTail, safeTail⟩ := fromSerdeMembers_eq_ok readTail
    exact ⟨by rw [Json.mapMembers, same, sameTail], List.forall_mem_cons.mpr ⟨safe, safeTail⟩⟩
end

theorem canonicalizeJsonValue_eq_ok {value : MapValue}
    (canonical : canonicalizeJsonValue value = .ok bytes) :
    ∃ jcs : JcsValue, jcs.mapNumbers numberOfInteger = value.val ∧ jcs.SortedKeys ∧
      jcs.Everywhere NumberSafe ∧ canonicalizeValue jcs = .ok bytes := by
  obtain ⟨jcs, converted, canonical⟩ := bind_eq_ok.mp canonical
  obtain ⟨same, safe⟩ := fromSerdeValueAt_eq_ok converted
  have sorted : jcs.SortedKeys := by
    rw [← sortedKeys_mapNumbers, same]
    exact value.property
  exact ⟨jcs, same, sorted, safe, canonical⟩

theorem canonicalizeJsonValue_injective {left right : MapValue}
    (fromLeft : canonicalizeJsonValue left = .ok bytes)
    (fromRight : canonicalizeJsonValue right = .ok bytes) : left = right := by
  obtain ⟨jcs, same, sorted, -, canonical⟩ := canonicalizeJsonValue_eq_ok fromLeft
  obtain ⟨otherJcs, otherSame, otherSorted, -, otherCanonical⟩ :=
    canonicalizeJsonValue_eq_ok fromRight
  have documents : canonicalDocument jcs = canonicalDocument otherJcs := by
    have read := readDocument_canonicalizeValue canonical
    rw [readDocument_canonicalizeValue otherCanonical] at read
    exact (some.inj read).symm
  have members := mapNumbers_injective writeInteger_injective documents
  have forms : jcs = otherJcs := eq_of_sortMembers_eq leUtf16 sorted otherSorted members
  apply Subtype.ext
  rw [← same, ← otherSame, forms]

end Mcps
