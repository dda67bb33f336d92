import Mcps.Core.Serialization

/-!
# Canonical bytes as a normal form

The raw-bytes parser reads canonical bytes back as the value with its members in canonical
order.  For parsed values this makes canonicalization a normal form: it forgets the order of
members and nothing else.

A value that was not parsed may hold an integer beyond the safe ones.  The writer emits it,
and the parser refuses what was written.
-/

namespace Mcps

variable {value : JcsValue} {bytes : Bytes}

theorem parse_canonicalizeValue (canonical : canonicalizeValue value = .ok bytes)
    (safe : value.Everywhere NumberSafe) : parse bytes = .ok (value.sortMembers leUtf16) := by
  obtain ⟨_, written, _⟩ := canonicalizeValue_eq_ok canonical
  have sorted := Json.reordered_sortMembers leUtf16 value
  have inside : InDomain maxParseDepth (value.sortMembers leUtf16) := by
    constructor
    · exact (Serializes.reordered sorted (serializes_writeValue written)).uniqueKeys
    · exact sorted.symm.everywhere (fun _ => trivial) (fun _ => trivial) safe
    · exact sorted.symm.depth_le _ (canonicalizeValue_isOk_iff.mp ⟨bytes, canonical⟩).2
  rw [parse_eq, readDocument_canonicalizeValue canonical, Option.bind_some, canonicalDocument,
    jcsAt_mapNumbers_writeInteger inside]
  rfl

theorem inDomain_of_parse {input : Bytes} (parsed : parse input = .ok value) :
    InDomain maxParseDepth value := by
  rw [parse_eq, Option.okOr_eq_ok] at parsed
  obtain ⟨_, _, made⟩ := Option.bind_eq_some_iff.mp parsed
  exact inDomain_of_jcsAt made

theorem canonicalize_eq {input : Bytes} (parsed : parse input = .ok value) :
    canonicalize input = canonicalizeValue value := by
  rw [canonicalize, parsed, Except.bind_ok]

theorem canonicalizeValue_reordered {other : JcsValue}
    (canonical : canonicalizeValue value = .ok bytes) (inside : InDomain maxParseDepth other)
    (reordered : value.Reordered other) : canonicalizeValue other = .ok bytes := by
  obtain ⟨_, written, rfl⟩ := canonicalizeValue_eq_ok canonical
  rcases canonicalizeValue_isOk_iff.mpr ⟨inside.unique, inside.fits⟩ with ⟨_, canonicalOther⟩
  obtain ⟨_, writtenOther, rfl⟩ := canonicalizeValue_eq_ok canonicalOther
  have same := (serializes_writeValue writtenOther).unique
    (Serializes.reordered reordered (serializes_writeValue written))
  rw [canonicalOther, same]

theorem canonicalize_canonicalizeValue (canonical : canonicalizeValue value = .ok bytes)
    (safe : value.Everywhere NumberSafe) : canonicalize bytes = .ok bytes := by
  have reread := parse_canonicalizeValue canonical safe
  rw [canonicalize_eq reread]
  exact canonicalizeValue_reordered canonical (inDomain_of_parse reread)
    (Json.reordered_sortMembers leUtf16 value)

/-- Canonicalization is a normal form of the accepted texts. -/
theorem canonicalize_normalForm (input : Bytes) (value : JcsValue) (parsed : parse input = .ok value) :
    ∃ bytes, canonicalize input = .ok bytes ∧
      (∃ again, parse bytes = .ok again ∧ value.Reordered again) ∧
      canonicalize bytes = .ok bytes ∧
      ∀ other otherValue, parse other = .ok otherValue →
        (canonicalize other = .ok bytes ↔ value.Reordered otherValue) := by
  have inside := inDomain_of_parse parsed
  rcases canonicalizeValue_isOk_iff.mpr ⟨inside.unique, inside.fits⟩ with ⟨bytes, canonical⟩
  have reread := parse_canonicalizeValue canonical inside.safe
  refine ⟨bytes, by rw [canonicalize_eq parsed, canonical],
    ⟨_, reread, Json.reordered_sortMembers leUtf16 value⟩, ?_, ?_⟩
  · exact canonicalize_canonicalizeValue canonical inside.safe
  · intro other otherValue parsedOther
    rw [canonicalize_eq parsedOther]
    have insideOther := inDomain_of_parse parsedOther
    constructor
    · intro canonicalOther
      have rereadOther := parse_canonicalizeValue canonicalOther insideOther.safe
      rw [reread, Except.ok.injEq] at rereadOther
      exact Json.reordered_of_sortMembers_eq leUtf16 rereadOther
    · exact canonicalizeValue_reordered canonical insideOther

/-- An object out of order, with blanks. -/
def looseText : Bytes := textBytes "\x7b\"b\" : 1, \"a\" : [ ]\x7d"

theorem canonicalize_normalForm_loose :
    parse looseText = .ok (.object [("b", .number 1), ("a", .array [])]) ∧
      ∃ bytes, canonicalize looseText = .ok bytes ∧
        (∃ again, parse bytes = .ok again ∧
          (Json.object [("b", .number 1), ("a", .array [])]).Reordered again) ∧
        canonicalize bytes = .ok bytes := by
  have parsed : parse looseText = .ok (.object [("b", .number 1), ("a", .array [])]) := by
    decide +kernel
  rcases canonicalize_normalForm looseText _ parsed with ⟨bytes, canonical, again, fixed, _⟩
  exact ⟨parsed, bytes, canonical, again, fixed⟩

/-! ## Values that were not parsed -/

/-- The canonical bytes of a value parse to the value up to the order of members exactly if
there are none, or all integers of the value are safe. -/
theorem parse_canonicalizeValue_iff (value : JcsValue) :
    (∀ bytes, canonicalizeValue value = .ok bytes →
      ∃ again, parse bytes = .ok again ∧ value.Reordered again) ↔
    ¬ value.UniqueKeys ∨ maxParseDepth < value.depth ∨ value.Everywhere NumberSafe := by
  rw [← or_assoc, ← not_le, ← not_and_or, ← canonicalizeValue_isOk_iff]
  constructor
  · intro readable
    by_cases written : ∃ bytes, canonicalizeValue value = .ok bytes
    · right
      rcases written with ⟨bytes, canonical⟩
      rcases readable bytes canonical with ⟨again, parsed, reordered⟩
      exact reordered.everywhere (fun _ => trivial) (fun _ => trivial) (inDomain_of_parse parsed).safe
    · exact .inl written
  · intro condition bytes canonical
    have safe := condition.resolve_left (not_not.mpr ⟨bytes, canonical⟩)
    exact ⟨_, parse_canonicalizeValue canonical safe, Json.reordered_sortMembers leUtf16 value⟩

/-- The integer after the last safe one is written and not read back. -/
theorem parse_unsafe_integer :
    canonicalizeValue (.number 9007199254740992) = .ok (textBytes "9007199254740992") ∧
      parse (textBytes "9007199254740992") = .error .canonicalizationFailed := by
  decide +kernel

end Mcps
