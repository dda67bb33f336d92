import Mcps.Core.DocumentDomain

/-!
# The language of the raw-bytes parser

The parser accepts exactly the JSON texts of the safe domain, and returns the value they
denote: the numbers are integer literals of safe magnitude, no object repeats a name once
its escapes are resolved, surrogate escapes come in pairs, and containers nest no deeper
than the limit.

The parser is the reader followed by a restriction of documents, and the reader reads the
texts of trees that resolve to a document.  What is left is to compare the restrictions on a
tree with those on the document it resolves to.
-/

namespace Mcps

open List Option Json

open JsonGrammar (Spelled Unescapes IntegerWithin NamesDiffer SurrogatesPaired Resolves)

/-! ## Trees and documents -/

variable {tree document : Spelled}

theorem everywhere_iff_of_resolves {onTree : Spelled → Prop} {onDocument : Document → Prop}
    (nodes : ∀ tree document, Resolves tree document → (onTree tree ↔ onDocument document))
    (resolves : Resolves tree document) :
    tree.Everywhere onTree ↔ document.Everywhere onDocument := by
  induction resolves with
  | null => exact nodes _ _ .null
  | bool => exact nodes _ _ .bool
  | number literal => exact nodes _ _ (.number literal)
  | string unescapes => exact nodes _ _ (.string unescapes)
  | array each ih =>
    rw [everywhere_array, everywhere_array, nodes _ _ (.array each),
      List.forall_mem_map, List.forall_mem_map]
    exact and_congr_right' (forall₂_congr ih)
  | object names each ih =>
    rw [everywhere_object, everywhere_object, nodes _ _ (.object names each),
      List.forall_mem_map, List.forall_mem_map]
    exact and_congr_right' (forall₂_congr ih)

theorem namesDiffer_iff {pairs : List ((String × Spelled) × (String × Document))}
    (names : ∀ pair ∈ pairs, Unescapes pair.1.1.toList pair.2.1.toList) :
    NamesDiffer (.object (pairs.map Prod.fst)) ↔ ((pairs.map Prod.snd).map Prod.fst).Nodup := by
  rw [NamesDiffer, List.Nodup, List.map_map, pairwise_map, pairwise_map]
  apply List.Pairwise.iff_of_mem
  intro first second held also
  rw [Function.comp_apply, Function.comp_apply]
  constructor
  · intro differ same
    exact differ _ ⟨names first held, same ▸ names second also⟩
  · intro differ chars ⟨here, there⟩
    apply differ
    apply String.toList_injective
    rw [unescapes_unique (names first held) here, unescapes_unique (names second also) there]

theorem safeNode_iff (tree document : Spelled) (resolves : Resolves tree document) :
    (IntegerWithin maxSafeInteger tree ∧ NamesDiffer tree ∧ SurrogatesPaired tree) ↔
      SafeNode document := by
  cases resolves with
  | null | bool | array _ => simp [IntegerWithin, NamesDiffer, SurrogatesPaired, SafeNode]
  | number _ =>
    simp only [IntegerWithin, NamesDiffer, SurrogatesPaired, SafeNode, and_true,
      isSome_iff_exists, safeNumber_eq_some, SafeInteger]
  | string unescapes =>
    simp [IntegerWithin, NamesDiffer, SurrogatesPaired, SafeNode, unescapes.paired]
  | object names _ =>
    rw [namesDiffer_iff names]
    exact ⟨fun safe => safe.2.1, fun distinct => ⟨trivial, distinct,
      forall_mem_map.mpr fun pair held => (names pair held).paired⟩⟩

theorem depth_le_of_resolves (resolves : Resolves tree document) (levels : Nat) :
    tree.depth ≤ levels ↔ document.depth ≤ levels := by
  induction resolves generalizing levels with
  | null | bool | number _ | string _ => rfl
  | array _ ih =>
    cases levels with
    | zero => simp [depth]
    | succ levels =>
      rw [depth_array_le, depth_array_le, List.forall_mem_map, List.forall_mem_map]
      exact forall₂_congr fun pair held => ih pair held levels
  | object _ _ ih =>
    cases levels with
    | zero => simp [depth]
    | succ levels =>
      rw [depth_object_le, depth_object_le, List.forall_mem_map, List.forall_mem_map]
      exact forall₂_congr fun pair held => ih pair held levels

/-- The value of a document whose numbers are safe integers. -/
def denoted (document : Document) : JcsValue :=
  document.mapNumbers fun spelling => (safeNumber spelling).getD 0

theorem denotes_denoted (resolves : Resolves tree document) (safe : document.Everywhere SafeNode) :
    JsonGrammar.Denotes tree (denoted document) := by
  induction resolves with
  | null => exact .null
  | bool => exact .bool
  | @number spelling _ _ =>
    obtain ⟨i, read⟩ := isSome_iff_exists.mp safe
    rw [denoted, mapNumbers, read]
    exact .number (safeNumber_eq_some.mp read).1
  | string unescapes => exact .string unescapes
  | @array pairs _ ih =>
    have inside := forall_mem_map.mp (everywhere_array.mp safe).2
    rw [denoted, mapNumbers, mapItems_eq_map]
    apply JsonGrammar.Denotes.array
    rw [JsonGrammar.denotesItems_iff, List.map_map, forall₂_map_left_iff,
      forall₂_map_right_iff, forall₂_same]
    exact fun pair held => ih pair held (inside pair held)
  | @object pairs names _ ih =>
    have inside := forall_mem_map.mp (everywhere_object.mp safe).2
    rw [denoted, mapNumbers, mapMembers_eq_map]
    apply JsonGrammar.Denotes.object
    rw [JsonGrammar.denotesMembers_iff, List.map_map, forall₂_map_left_iff,
      forall₂_map_right_iff, forall₂_same]
    exact fun pair held => ⟨names pair held, ih pair held (inside pair held)⟩

theorem exists_resolves {value : JcsValue} (denotes : JsonGrammar.Denotes tree value)
    (integers : tree.Everywhere (IntegerWithin maxSafeInteger)) :
    ∃ document, Resolves tree document ∧ denoted document = value := by
  induction tree using inductionOn generalizing value with
  | null =>
    cases denotes
    exact ⟨_, .null, rfl⟩
  | bool =>
    cases denotes
    exact ⟨_, .bool, rfl⟩
  | number spelling =>
    cases denotes with
    | number literal =>
      obtain ⟨i, again, safe⟩ := integers
      have read := safeNumber_eq_some.mpr ⟨again, safe⟩
      rw [again.unique literal] at read
      exact ⟨_, .number literal, by rw [denoted, mapNumbers, read, getD_some]⟩
  | string =>
    cases denotes with
    | string unescapes => exact ⟨_, .string unescapes, rfl⟩
  | array items ih =>
    cases denotes with
    | array each =>
      obtain ⟨triples, rfl, rfl, every⟩ := exists_triples
        (JsonGrammar.denotesItems_iff.mp each) fun item held value denotes =>
          ih item held denotes ((everywhere_array.mp integers).2 item held)
      let pairs := triples.map fun triple => (triple.1, triple.2.2)
      have resolves : ∀ pair ∈ pairs, Resolves pair.1 pair.2 :=
        forall_mem_map.mpr fun triple held => (every triple held).2.1
      refine ⟨.array (pairs.map Prod.snd),
        by simpa [pairs, Function.comp_def] using Resolves.array resolves, ?_⟩
      rw [denoted, mapNumbers, mapItems_eq_map, List.map_map, List.map_map]
      exact congrArg _ (map_congr_left fun triple held => (every triple held).2.2)
  | object members ih =>
    cases denotes with
    | object each =>
      obtain ⟨triples, rfl, rfl, every⟩ := exists_triples
        (JsonGrammar.denotesMembers_iff.mp each) fun member held value denotes =>
          ih member held denotes.2 ((everywhere_object.mp integers).2 member held)
      let pairs := triples.map fun triple => (triple.1, (triple.2.1.1, triple.2.2))
      have names : ∀ pair ∈ pairs, Unescapes pair.1.1.toList pair.2.1.toList :=
        forall_mem_map.mpr fun triple held => (every triple held).1.1
      have resolves : ∀ pair ∈ pairs, Resolves pair.1.2 pair.2.2 :=
        forall_mem_map.mpr fun triple held => (every triple held).2.1
      refine ⟨.object (pairs.map Prod.snd),
        by simpa [pairs, Function.comp_def] using Resolves.object names resolves, ?_⟩
      rw [denoted, mapNumbers, mapMembers_eq_map, List.map_map, List.map_map]
      exact congrArg _ (map_congr_left fun triple held =>
        Prod.ext rfl (every triple held).2.2)

theorem jcsAt_of_tree {room : Nat} {value : JcsValue} :
    (∃ document, Resolves tree document ∧ jcsAt room document = some value) ↔
      tree.Everywhere (IntegerWithin maxSafeInteger) ∧ tree.Everywhere NamesDiffer ∧
        tree.Everywhere SurrogatesPaired ∧ tree.depth ≤ room ∧ JsonGrammar.Denotes tree value := by
  constructor
  · intro ⟨document, resolves, made⟩
    obtain ⟨safe, fits⟩ := jcsAt_isSome_iff.mp (by rw [made]; rfl)
    have nodes := (everywhere_iff_of_resolves safeNode_iff resolves).mpr safe
    rw [everywhere_and, everywhere_and] at nodes
    obtain ⟨integers, names, paired⟩ := nodes
    rw [jcsAt_eq_mapNumbers made]
    exact ⟨integers, names, paired, (depth_le_of_resolves resolves room).mpr fits,
      denotes_denoted resolves safe⟩
  · intro ⟨integers, names, paired, fits, denotes⟩
    obtain ⟨document, resolves, same⟩ := exists_resolves denotes integers
    have safe := (everywhere_iff_of_resolves safeNode_iff resolves).mp
      (everywhere_and.mpr ⟨integers, everywhere_and.mpr ⟨names, paired⟩⟩)
    obtain ⟨_, made⟩ := isSome_iff_exists.mp
      (jcsAt_isSome_iff.mpr ⟨safe, (depth_le_of_resolves resolves room).mp fits⟩)
    exact ⟨document, resolves, by rw [made, jcsAt_eq_mapNumbers made, ← same]; rfl⟩

/-! ## Whole texts -/

theorem readText_eq_some_iff {text : List Char} {document : Document}
    (integral : document.Everywhere Integral) (fits : document.depth ≤ maxParseDepth) :
    readText text = some document ↔
      ∃ tree, JsonGrammar.JsonText text tree ∧ Resolves tree document := by
  constructor
  · intro read
    simp only [readText, bind_eq_bind, bind_eq_some_iff, Prod.exists,
      ite_none_right_eq_some, Option.pure_def, some.injEq] at read
    obtain ⟨_, rest, read, ended, rfl⟩ := read
    obtain ⟨tree, valueText, split, spelled, resolves⟩ :=
      readsSpelled_value _ _ _ _ read integral
    obtain ⟨before, blankBefore, textSplit⟩ := @Separated.blank_split isWs text
    obtain ⟨after, blankAfter, restSplit⟩ := @Separated.blank_split isWs rest
    have nothing : rest.dropWhile isWs = [] := isEmpty_iff.mp ended
    rw [nothing, append_nil] at restSplit
    refine ⟨tree, ⟨before, valueText, after, JsonGrammar.blank_iff.mpr blankBefore, spelled,
      JsonGrammar.blank_iff.mpr blankAfter, ?_⟩, resolves⟩
    rw [← restSplit, ← split]
    exact textSplit
  · rintro ⟨tree, ⟨before, valueText, after, blankBefore, spelled, blankAfter, same⟩, resolves⟩
    have low := (depth_le_of_resolves resolves maxParseDepth).mpr fits
    have ends : EndsNumber after := by
      cases after with
      | nil => exact endsNumber_nil
      | cons c after => exact endsNumber_ws (JsonGrammar.blank_iff.mp blankAfter c (by simp)) after
    have read := readValue_complete resolves (le_trans low (Nat.le_add_left _ text.length)) spelled
      ends
    have shown : skipWs text = valueText ++ after := by
      rw [same]
      exact (Separated.dropWhile_blank (JsonGrammar.blank_iff.mp blankBefore) _).trans
        ((opens_of_resolves resolves spelled).dropWhile after)
    have nothing : skipWs after = [] :=
      dropWhile_eq_nil_iff.mpr (JsonGrammar.blank_iff.mp blankAfter)
    simp [readText, shown, read, nothing]

/-- The parser accepts exactly the texts of the safe domain, as the values they denote. -/
theorem parse_eq_ok_iff (input : Bytes) (value : JcsValue) :
    parse input = .ok value ↔
      ∃ text tree, decodeUtf8 input = some text ∧ JsonGrammar.JsonText text tree ∧
        tree.Everywhere (IntegerWithin maxSafeInteger) ∧ tree.Everywhere NamesDiffer ∧
        tree.Everywhere SurrogatesPaired ∧ tree.depth ≤ maxParseDepth ∧
        JsonGrammar.Denotes tree value := by
  have integral {document : Document} (made : jcsAt maxParseDepth document = some value) :
      document.Everywhere Integral ∧ document.depth ≤ maxParseDepth := by
    obtain ⟨safe, fits⟩ := jcsAt_isSome_iff.mp (by rw [made]; rfl)
    refine ⟨Json.everywhere_mono ?_ safe, fits⟩
    intro node safe
    cases node with
    | number spelling => exact Option.isSome_iff_exists.mp safe
    | null | bool _ | string _ | array _ | object _ => trivial
  simp only [parse_eq, Option.okOr_eq_ok, readDocument, Option.bind_eq_some_iff, ← jcsAt_of_tree]
  constructor
  · rintro ⟨document, ⟨text, decoded, read⟩, made⟩
    obtain ⟨safe, fits⟩ := integral made
    obtain ⟨tree, spelled, resolves⟩ := (readText_eq_some_iff safe fits).mp read
    exact ⟨text, tree, decoded, spelled, document, resolves, made⟩
  · rintro ⟨text, tree, decoded, spelled, document, resolves, made⟩
    obtain ⟨safe, fits⟩ := integral made
    exact ⟨document, ⟨text, decoded, (readText_eq_some_iff safe fits).mpr ⟨tree, spelled, resolves⟩⟩,
      made⟩

end Mcps
