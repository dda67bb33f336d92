import Mcps.Core.DocumentReference
import Mcps.Core.NormalForm

/-!
# The raw-bytes path and the value path

A document is canonicalized from its bytes, or read with `serde_json` and canonicalized as a
value.  The two paths are meant to accept the same documents, apart from duplicate names,
which only the first one sees.

They differ in two places.  The crate gives up at the bracket that would be the 128th open
one, which the raw-bytes parser still takes; and it reads `-0` as a float, which is 0 on the
raw-bytes path.  Everywhere else they agree on the bytes.
-/

namespace Mcps

open Option Json

/-! ## The JSON crate with its default features -/

/-- The spelling of negative zero. -/
def minusZero : List Char := ['-', '0']

/-- How `serde_json::from_slice` reads any bytes: documents only, up to its recursion limit;
a safe integer as that integer, apart from `-0`, which is a float; and no other spelling as
a safe integer. -/
structure SerdeDefaults [Crates] (numberOf : List Char → Option Number) : Prop
    extends SerdeReads numberOf where
  limits : ∀ {input : Bytes} {document : Document}, readDocument input = some document →
    serdeRecursionLimit < document.depth → Crates.fromSlice input = none
  rejects : ∀ {input : Bytes}, readDocument input = none → Crates.fromSlice input = none
  exact : ∀ {spelling : List Char} {i : Int}, safeNumber spelling = some i →
    spelling ≠ minusZero → numberOf spelling = some (numberOfInteger i)
  zero : ∃ bits, numberOf minusZero = some (.float bits)
  others : ∀ {spelling : List Char} {n : Number}, safeNumber spelling = none →
    numberOf spelling = some n → ¬ n.Safe

/-- A node the value path admits: a safe integer other than `-0` if it is a number. -/
def PlainInteger : Document → Prop
  | .number spelling => (safeNumber spelling).isSome ∧ spelling ≠ minusZero
  | _ => True

/-- A node that is not the number `-0`. -/
def NotMinusZero : Document → Prop
  | .number spelling => spelling ≠ minusZero
  | _ => True

instance : DecidablePred NotMinusZero
  | .number spelling => inferInstanceAs (Decidable (spelling ≠ minusZero))
  | .null | .bool _ | .string _ | .array _ | .object _ => isTrue trivial

/-- No object of the document in the bytes has two members under one name. -/
def NoDuplicateNames (input : Bytes) : Prop :=
  ∀ document, readDocument input = some document → document.UniqueKeys

/-- Both paths canonicalize the bytes, to the same, or neither does. -/
def PathsAgree [Crates] (input : Bytes) : Prop :=
  ∀ bytes, canonicalize input = .ok bytes ↔
    NoDuplicateNames input ∧ ∃ value, Crates.fromSlice input = some value ∧
      canonicalizeJsonValue value.val = .ok bytes

theorem integer?_numberOfInteger {i : Int} (safe : SafeInteger i) :
    (numberOfInteger i).integer? = some i := by
  simp only [SafeInteger, maxSafeInteger] at safe
  rw [numberOfInteger]
  split
  · simp only [Number.integer?, some.injEq]
    omega
  · split
    · rfl
    · omega

theorem SerdeDefaults.safe_iff [Crates] {numberOf : List Char → Option Number}
    (serde : SerdeDefaults numberOf) {spelling : List Char} {n : Number}
    (read : numberOf spelling = some n) :
    n.Safe ↔ (safeNumber spelling).isSome ∧ spelling ≠ minusZero := by
  cases spelled : safeNumber spelling with
  | none => simp [serde.others spelled read]
  | some i =>
    by_cases zero : spelling = minusZero
    · obtain ⟨_, float⟩ := serde.zero
      rw [zero, float] at read
      cases read
      simp [zero, Number.Safe, Number.integer?]
    · have integer := serde.exact spelled zero
      rw [read] at integer
      cases integer
      have safe := (safeNumber_eq_some.mp spelled).2
      simp only [isSome_some, true_and, ne_eq, zero, not_false_eq_true, iff_true]
      exact ⟨i, integer?_numberOfInteger safe, safe⟩

/-! ## Documents as values -/

/-- The integer of a number, or 0. -/
def integerOr0 (n : Number) : Int := n.integer?.getD 0

theorem mapNumbers_integerOr0 {jcs : JcsValue} (safe : jcs.Everywhere NumberSafe) :
    (jcs.mapNumbers numberOfInteger).mapNumbers integerOr0 = jcs := by
  have back : jcs.Everywhere fun node =>
      ∀ i, node = .number i → integerOr0 (numberOfInteger i) = id i := by
    refine everywhere_mono ?_ safe
    intro node safe i same
    subst same
    rw [integerOr0, integer?_numberOfInteger safe]
    rfl
  rw [mapNumbers_mapNumbers back, mapNumbers_id]

theorem canonicalizeJsonValue_reordered {jcs : JcsValue} (inside : InDomain maxParseDepth jcs)
    {value : MapValue} (held : (jcs.mapNumbers numberOfInteger).Reordered value.val) :
    canonicalizeJsonValue value.val = canonicalizeValue jcs := by
  have safe : value.val.Everywhere SafeNumber := by
    apply held.symm.everywhere (fun _ => trivial) (fun _ => trivial)
    rw [everywhere_mapNumbers]
    refine everywhere_mono ?_ inside.safe
    intro node safe
    cases node with
    | number i => exact ⟨i, integer?_numberOfInteger safe, safe⟩
    | _ => trivial
  have fits : value.val.depth ≤ maxParseDepth := by
    apply held.symm.depth_le
    rw [depth_mapNumbers]
    exact inside.fits
  rcases (canonicalizeJsonValue_isOk_iff value).mpr (jcsSafe_iff.mpr ⟨safe, fits⟩) with
    ⟨_, canonical⟩
  rw [canonical]
  obtain ⟨converted, conversion, canonical⟩ := Except.bind_eq_ok.mp canonical
  obtain ⟨same, convertedSafe⟩ := fromSerdeValueAt_eq_ok conversion
  have reordered : converted.Reordered jcs := by
    rw [← mapNumbers_integerOr0 inside.safe, ← mapNumbers_integerOr0 convertedSafe, same]
    exact held.symm.mapNumbers integerOr0
  exact (canonicalizeValue_reordered canonical inside reordered).symm

theorem plain_iff {document : Document} :
    document.UniqueKeys ∧ document.Everywhere PlainInteger ↔
      document.Everywhere SafeNode ∧ document.Everywhere NotMinusZero := by
  have node : ∀ node : Document, node.KeysDistinct ∧ PlainInteger node ↔
      SafeNode node ∧ NotMinusZero node := by
    intro node
    cases node with
    | number spelling => exact iff_of_eq (true_and _)
    | object members => exact Iff.rfl
    | _ => exact Iff.rfl
  rw [Json.UniqueKeys, ← everywhere_and, ← everywhere_and]
  simp only [node]

/-! ## The two paths -/

section

variable [Crates] {numberOf : List Char → Option Number} {input : Bytes} {document : Document}

theorem SerdeDefaults.plain_of_canonicalizeJsonValue (serde : SerdeDefaults numberOf)
    (read : readDocument input = some document) (unique : document.UniqueKeys) {value : MapValue}
    (taken : Crates.fromSlice input = some value) {bytes : Bytes}
    (canonical : canonicalizeJsonValue value.val = .ok bytes) :
    document.Everywhere PlainInteger ∧ document.depth ≤ serdeRecursionLimit := by
  have shallow : document.depth ≤ serdeRecursionLimit := by
    by_contra deep
    rw [serde.limits read (not_le.mp deep)] at taken
    cases taken
  refine ⟨?_, shallow⟩
  have safe := (jcsSafe_iff.mp ((canonicalizeJsonValue_isOk_iff value).mp ⟨bytes, canonical⟩)).1
  rw [serde.reads read shallow, serdeValue, ite_none_right_eq_some] at taken
  obtain ⟨denotes, same⟩ := taken
  cases same
  have inText := (reordered_intoMaps (uniqueKeys_mapNumbers.mpr unique)).everywhere
    (fun _ => trivial) (fun _ => trivial) safe
  rw [everywhere_mapNumbers] at inText
  refine everywhere_mono ?_ (everywhere_and.mpr ⟨denotes, inText⟩)
  rintro node ⟨denotes, safe⟩
  cases node with
  | number spelling =>
    obtain ⟨n, read⟩ := isSome_iff_exists.mp denotes
    simp only [mapNumbers, read] at safe
    exact (serde.safe_iff read).mp safe
  | _ => trivial

theorem SerdeDefaults.canonicalizeJsonValue_eq (serde : SerdeDefaults numberOf)
    (read : readDocument input = some document) (unique : document.UniqueKeys)
    (plain : document.Everywhere PlainInteger) (shallow : document.depth ≤ serdeRecursionLimit) :
    ∃ value, Crates.fromSlice input = some value ∧
      canonicalizeJsonValue value.val = canonicalize input := by
  have fits : document.depth ≤ maxParseDepth := shallow.trans (by decide)
  have taken := jcsAt_isSome_iff.mpr ⟨(plain_iff.mp ⟨unique, plain⟩).1, fits⟩
  obtain ⟨jcs, made⟩ := isSome_iff_exists.mp taken
  have parsed : parse input = .ok jcs := by
    rw [parse_eq, read, bind_some, made]
    rfl
  have spelled : ∀ {spelling : List Char}, PlainInteger (.number spelling) →
      numberOf spelling = some (numberOfInteger ((safeNumber spelling).getD 0)) := by
    intro spelling ⟨isSafe, plain⟩
    obtain ⟨i, safe⟩ := isSome_iff_exists.mp isSafe
    rw [serde.exact safe plain, safe, getD_some]
  have denotes : document.Everywhere (Denotes numberOf) := by
    refine everywhere_mono ?_ plain
    intro node plain
    cases node with
    | number spelling => exact isSome_iff_exists.mpr ⟨_, spelled plain⟩
    | _ => trivial
  have numbers : jcs.mapNumbers numberOfInteger =
      document.mapNumbers fun spelling => (numberOf spelling).getD (numberOfInteger 0) := by
    rw [jcsAt_eq_mapNumbers made]
    apply mapNumbers_mapNumbers
    refine everywhere_mono ?_ plain
    intro node plain spelling same
    subst same
    rw [spelled plain, getD_some]
  refine ⟨_, by rw [serde.reads read shallow, serdeValue, if_pos denotes], ?_⟩
  rw [canonicalize_eq parsed]
  apply canonicalizeJsonValue_reordered (inDomain_of_parse parsed)
  rw [numbers]
  exact reordered_intoMaps (uniqueKeys_mapNumbers.mpr unique)

omit [Crates] in
theorem writeInteger_ne_minusZero (i : Int) : writeInteger i ≠ minusZero := by
  intro same
  by_cases negative : i < 0
  · rw [writeInteger, if_pos negative] at same
    have digits := congrArg (Nat.ofDigitChars 10 · 0) (List.cons.inj same).2
    simp only [Nat.ofDigitChars_ten_toDigits] at digits
    have zero : i.natAbs = 0 := digits
    omega
  · rw [writeInteger, if_neg negative] at same
    exact (integerText_toDigits _).ne_minus _ same

theorem SerdeDefaults.fromSlice_canonicalizeJsonValue (serde : SerdeDefaults numberOf)
    {value : MapValue} {bytes : Bytes} (canonical : canonicalizeJsonValue value.val = .ok bytes)
    (shallow : ∀ document, readDocument bytes = some document →
      document.depth ≤ serdeRecursionLimit) :
    canonicalize bytes = .ok bytes ∧ Crates.fromSlice bytes = some value := by
  obtain ⟨jcs, _, _, safe, written⟩ := canonicalizeJsonValue_eq_ok canonical
  have fixed := canonicalize_canonicalizeValue written safe
  have read := readDocument_canonicalizeValue written
  have plain : (canonicalDocument jcs).Everywhere NotMinusZero := by
    apply everywhere_mapNumbers.mpr
    refine everywhere_mono ?_ (inDomain_of_parse (parse_canonicalizeValue written safe)).safe
    intro node _
    cases node with
    | number i => exact writeInteger_ne_minusZero i
    | _ => trivial
  have safeNodes := ((canonicalize_isOk_iff read).mp ⟨bytes, fixed⟩).1
  rcases plain_iff.mpr ⟨safeNodes, plain⟩ with ⟨unique, plain⟩
  rcases serde.canonicalizeJsonValue_eq read unique plain (shallow _ read) with
    ⟨_, taken, same⟩
  rw [fixed] at same
  refine ⟨fixed, ?_⟩
  rw [taken, canonicalizeJsonValue_injective same canonical]

/-- The two paths agree on the bytes exactly if a document in them that the raw-bytes path
accepts nests within the recursion limit of the crate and does not spell a number `-0`. -/
theorem pathsAgree_iff (serde : SerdeDefaults numberOf) (input : Bytes) :
    PathsAgree input ↔ ∀ document, readDocument input = some document →
      document.Everywhere SafeNode → document.depth ≤ maxParseDepth →
        document.depth ≤ serdeRecursionLimit ∧ document.Everywhere NotMinusZero := by
  constructor
  · intro agree document read safe fits
    rcases (canonicalize_isOk_iff read).mpr ⟨safe, fits⟩ with ⟨bytes, canonical⟩
    rcases (agree bytes).mp canonical with ⟨unique, value, taken, canonical⟩
    rcases serde.plain_of_canonicalizeJsonValue read (unique document read) taken canonical with
      ⟨plain, shallow⟩
    exact ⟨shallow, (plain_iff.mp ⟨unique document read, plain⟩).2⟩
  · intro condition bytes
    cases read : readDocument input with
    | none =>
      simp [canonicalize, parse_eq, read, Option.okOr, serde.rejects read]
    | some document =>
      constructor
      · intro canonical
        rcases (canonicalize_isOk_iff read).mp ⟨bytes, canonical⟩ with ⟨safe, fits⟩
        rcases condition document read safe fits with ⟨shallow, notZero⟩
        rcases plain_iff.mpr ⟨safe, notZero⟩ with ⟨unique, plain⟩
        rcases serde.canonicalizeJsonValue_eq read unique plain shallow with ⟨value, taken, same⟩
        refine ⟨?_, value, taken, same.trans canonical⟩
        intro other again
        rw [read] at again
        cases again
        exact unique
      · rintro ⟨noDuplicates, value, taken, canonical⟩
        have unique := noDuplicates document read
        rcases serde.plain_of_canonicalizeJsonValue read unique taken canonical with
          ⟨plain, shallow⟩
        rcases serde.canonicalizeJsonValue_eq read unique plain shallow with ⟨other, again, same⟩
        rw [taken] at again
        cases again
        exact same.symm.trans canonical

end

theorem SerdeWrites.exists_mapNumbers [Crates] {spell : Number → List Char}
    {numberOf : List Char → Option Number} (writes : SerdeWrites spell numberOf)
    (reads : SerdeDefaults numberOf) {value read : MapValue} {bytes : Bytes}
    (written : Crates.toVec value.val = some bytes) (taken : Crates.fromSlice bytes = some read) :
    ∃ image : Number → Number, read.val = value.val.mapNumbers image := by
  have document := writes.writes written
  have shallow : (value.val.mapNumbers spell).depth ≤ serdeRecursionLimit := by
    by_contra deep
    rw [reads.limits document (not_le.mp deep)] at taken
    cases taken
  rw [reads.reads document shallow, serdeValue, ite_none_right_eq_some] at taken
  obtain ⟨_, same⟩ := taken
  cases same
  let image := fun n => (numberOf (spell n)).getD (numberOfInteger 0)
  refine ⟨image, ?_⟩
  have agree : value.val.Everywhere fun node => ∀ n, node = .number n →
      (numberOf (spell n)).getD (numberOfInteger 0) = image n :=
    everywhere_mono (fun _ _ _ _ => rfl) value.property.uniqueKeys
  change intoMaps _ = _
  rw [mapNumbers_mapNumbers agree,
    intoMaps_of_sortedKeys (sortedKeys_mapNumbers.mpr value.property)]

/-! ## Concrete bytes -/

/-- Safe integers as they are, `-0` and 0.5 as floats. -/
def numberOfDefaults (spelling : List Char) : Option Number :=
  if spelling = minusZero then some (.float 0x8000000000000000) else numberOfSpelling spelling

/-- Crates that read every document as `serde_json` does. -/
@[reducible] def defaultsReader (base : Crates) : Crates :=
  { base with
    fromSlice := fun input => (readDocument input).bind fun document =>
      if document.depth ≤ serdeRecursionLimit then serdeValue numberOfDefaults document
      else none }

theorem serdeDefaults_defaultsReader (base : Crates) :
    @SerdeDefaults (defaultsReader base) numberOfDefaults := by
  let crates := defaultsReader base
  have plain {spelling : List Char} (other : spelling ≠ minusZero) :
      numberOfDefaults spelling = numberOfSpelling spelling := if_neg other
  refine ⟨⟨?_, ?_⟩, ?_, ?_, ?_, ?_, ?_⟩
  · intro input document read shallow
    change (readDocument input).bind _ = _
    rw [read, bind_some, if_pos shallow]
  · intro spelling safe
    by_cases zero : spelling = minusZero
    · rw [zero]
      rfl
    · rw [plain zero]
      exact @SerdeReads.integers (documentReader base) _ (serdeReads_documentReader base) _ safe
  · intro input document read deep
    change (readDocument input).bind _ = _
    rw [read, bind_some, if_neg (not_le.mpr deep)]
  · intro input unread
    change (readDocument input).bind _ = _
    rw [unread, bind_none]
  · intro spelling i safe other
    have integer : spelling ≠ ['0', '.', '5'] := by
      rintro rfl
      cases safe
    rw [plain other, numberOfSpelling, if_neg integer, safe, map_some]
  · exact ⟨_, if_pos rfl⟩
  · intro spelling n unread read
    have other : spelling ≠ minusZero := by
      rintro rfl
      cases unread
    rw [plain other, numberOfSpelling, unread] at read
    split at read
    · cases read
      decide
    · cases read

theorem serdeWrites_defaultsReader (base : Crates) {documents : List (Bytes × MapValue)}
    (texts : ∀ document ∈ documents,
      readDocument document.1 = some (document.2.val.mapNumbers spellNumber)) :
    @SerdeWrites (defaultsReader (documentCrates base documents)) spellNumber
      numberOfDefaults := by
  have written := serdeWrites_documentReader base texts
  let crates := defaultsReader (documentCrates base documents)
  constructor
  · exact @SerdeWrites.writes (documentReader (documentCrates base documents)) _ _ written
  · exact @SerdeWrites.integers (documentReader (documentCrates base documents)) _ _ written
  · exact @SerdeWrites.others (documentReader (documentCrates base documents)) _ _ written
  · intro i safe
    rw [numberOfDefaults, if_neg (writeInteger_ne_minusZero i), numberOfSpelling_writeInteger safe]

/-- As many opening brackets as the raw-bytes parser takes, and as many closing ones. -/
def deepArrays : Bytes := List.replicate 128 91 ++ List.replicate 128 93

/-- A document both paths canonicalize. -/
theorem pathsAgree_plain :
    letI := defaultsReader vectorCrates
    SerdeDefaults numberOfDefaults ∧ PathsAgree (textBytes "[1, -2]") := by
  let crates := defaultsReader vectorCrates
  have serde := serdeDefaults_defaultsReader vectorCrates
  refine ⟨serde, (pathsAgree_iff serde _).mpr ?_⟩
  intro document read _ _
  have same : readDocument (textBytes "[1, -2]") =
      some (.array [.number ['1'], .number ['-', '2']]) := by
    decide +kernel
  rw [same] at read
  cases read
  exact ⟨by decide, by decide⟩

/-- The raw-bytes path takes `-0` and 128 nested arrays, the value path neither. -/
theorem paths_disagree :
    letI := defaultsReader vectorCrates
    SerdeDefaults numberOfDefaults ∧ ¬ PathsAgree (textBytes "-0") ∧ ¬ PathsAgree deepArrays := by
  let crates := defaultsReader vectorCrates
  refine ⟨serdeDefaults_defaultsReader vectorCrates, ?_, ?_⟩
  · intro agree
    have canonical : canonicalize (textBytes "-0") = .ok (textBytes "0") := by decide +kernel
    rcases (agree _).mp canonical with ⟨_, value, taken, canonical⟩
    have float : Crates.fromSlice (textBytes "-0") =
        some ⟨.number (.float 0x8000000000000000), trivial⟩ := by
      decide +kernel
    rw [float] at taken
    cases taken
    cases canonical
  · intro agree
    have canonical : canonicalize deepArrays = .ok deepArrays := by decide +kernel
    have unread : Crates.fromSlice deepArrays = none := by decide +kernel
    rcases (agree _).mp canonical with ⟨_, value, taken, _⟩
    rw [unread] at taken
    cases taken

end Mcps
