import Mcps.Core.Reference
import Mcps.Core.SerdeText

/-!
# Reference crates that read documents

Concrete crates for texts that are not canonical.  They read every document of safe
integers, and the number 0.5 as the one float; what they write is a list of documents, each
given with its text.
-/

namespace Mcps

open Option

/-- The number 0.5. -/
def half : Number := .float 0x3FE0000000000000

/-- Safe integers in decimal, any other number as 0.5. -/
def spellNumber (n : Number) : List Char :=
  if n.Safe then writeInteger (n.integer?.getD 0) else ['0', '.', '5']

def numberOfSpelling (spelling : List Char) : Option Number :=
  if spelling = ['0', '.', '5'] then some half else (safeNumber spelling).map numberOfInteger

@[reducible] def documentReader (base : Crates) : Crates :=
  { base with
    fromSlice := fun input => (readDocument input).bind fun document =>
      if document.depth ≤ serdeRecursionLimit then serdeValue numberOfSpelling document
      else none }

theorem serdeReads_documentReader (base : Crates) :
    @SerdeReads (documentReader base) numberOfSpelling := by
  let crates := documentReader base
  constructor
  · intro input document read shallow
    change (readDocument input).bind _ = _
    rw [read, bind_some, if_pos shallow]
  · intro spelling safe
    unfold numberOfSpelling
    split
    · rfl
    · rwa [isSome_map]

theorem numberOfSpelling_writeInteger {i : Int} (safe : SafeInteger i) :
    numberOfSpelling (writeInteger i) = some (numberOfInteger i) := by
  have integer : writeInteger i ≠ ['0', '.', '5'] := by
    intro same
    have read := safeNumber_writeInteger safe
    rw [same] at read
    cases read
  rw [numberOfSpelling, if_neg integer, safeNumber_writeInteger safe, map_some]

theorem serdeWrites_documentReader (base : Crates) {documents : List (Bytes × MapValue)}
    (texts : ∀ document ∈ documents,
      readDocument document.1 = some (document.2.val.mapNumbers spellNumber)) :
    @SerdeWrites (documentReader (documentCrates base documents)) spellNumber
      numberOfSpelling := by
  let crates := documentReader (documentCrates base documents)
  constructor
  · intro value bytes written
    obtain ⟨document, found, rfl⟩ := map_eq_some_iff.mp written
    have same : document.2.val = value.val := by
      simpa using List.find?_some found
    rw [← same]
    exact texts document (List.mem_of_find?_eq_some found)
  · intro n i denotes safe
    rw [spellNumber, if_pos ⟨i, denotes, safe⟩, denotes, getD_some]
  · intro n unsafeNumber
    rw [spellNumber, if_neg unsafeNumber]
    decide
  · exact numberOfSpelling_writeInteger

end Mcps
