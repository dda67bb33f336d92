import Mcps.Proxy.XfccIdentity

/-!
# Envoy's rendering of client certificates

Envoy joins the pairs of a certificate element by semicolons and the elements by commas.  A
value with a reserved character is put in double quotes, and a quote inside it is written
behind a backslash.

Reading such a header back finds the values that were rendered as long as none of them holds
a double quote.  One that does can end the quoting early and add pairs of its own.
-/

namespace Mcps

open List

/-- The pairs of one certificate. -/
abbrev CertElement := List (List Char × List Char)

/-! ## Rendering -/

def reserved (c : Char) : Bool := c = ',' || c = ';' || c = '=' || c = '"'

def renderValue (value : List Char) : List Char :=
  if value.any reserved then
    '"' :: value.flatMap (fun c => if c = '"' then ['\\', '"'] else [c]) ++ ['"']
  else value

def renderPair (pair : List Char × List Char) : List Char := pair.1 ++ '=' :: renderValue pair.2

def renderElement (element : CertElement) : List Char :=
  List.intercalate [';'] (element.map renderPair)

def renderXfcc (elements : List CertElement) : List Char :=
  List.intercalate [','] (elements.map renderElement)

namespace IdentityPolicy

/-- The trimmed values the elements carry under the selected key. -/
def suppliedValues (policy : IdentityPolicy) (elements : List CertElement) : List (List Char) :=
  (elements.flatten.filter fun pair => policy.Selects pair.1).map fun pair => trim pair.2

/-- The trimmed values read off a header under the selected key. -/
def readValues (policy : IdentityPolicy) (header : List Char) : List (List Char) :=
  (paritySplit header).filterMap fun pair =>
    (policy.selectedField pair).map fun field => trim field.2

/-- An element carries the identity, and all that have the key agree on it. -/
def SuppliedBy (policy : IdentityPolicy) (elements : List CertElement) (identity : List Char) :
    Prop :=
  identity ∈ policy.suppliedValues elements ∧ ∀ value ∈ policy.suppliedValues elements, value = identity

end IdentityPolicy

/-! ## Without quotes in the values -/

/-- A key of plain characters and a value without double quotes. -/
structure QuoteFree (pair : List Char × List Char) : Prop where
  key : ∀ c ∈ pair.1, reserved c = false
  value : '"' ∉ pair.2

variable {value : List Char}

theorem renderValue_cases (unquoted : '"' ∉ value) :
    renderValue value = '"' :: (value ++ ['"']) ∨
      renderValue value = value ∧ ∀ c ∈ value, reserved c = false := by
  by_cases special : value.any reserved = true
  · left
    have escaped : value.flatMap (fun c => if c = '"' then ['\\', '"'] else [c]) = value := by
      have plain : ∀ c ∈ value, (if c = '"' then ['\\', '"'] else [c]) = [c] := by
        rintro c member
        rw [if_neg]
        rintro rfl
        exact unquoted member
      rw [flatMap_congr plain, flatMap_singleton']
    rw [renderValue, if_pos special, escaped, cons_append]
  · right
    rw [renderValue, if_neg special]
    exact ⟨rfl, by simpa using special⟩

variable {separator : Char} {text : List Char}

theorem passes_of_notMem (absent : separator ∉ text) (unquoted : '"' ∉ text) :
    (quoteScanner separator).Passes false text := by
  apply Scanner.Passes.of_forall
  intro c member
  have other : c ≠ separator := ne_of_mem_of_not_mem member absent
  have plain : c ≠ '"' := ne_of_mem_of_not_mem member unquoted
  apply Scanner.Passes.singleton
  · simp [quoteScanner, other]
  · simp [quoteScanner, plain]

theorem passes_inside (separator : Char) (unquoted : '"' ∉ text) :
    (quoteScanner separator).Passes true text := by
  apply Scanner.Passes.of_forall
  intro c member
  have plain : c ≠ '"' := ne_of_mem_of_not_mem member unquoted
  apply Scanner.Passes.singleton
  · simp [quoteScanner]
  · simp [quoteScanner, plain]

theorem passes_quoted (separator : Char) (unquoted : '"' ∉ text) :
    (quoteScanner separator).Passes false ('"' :: (text ++ ['"'])) := by
  have opened : (quoteScanner separator).step false '"' = true := by simp [quoteScanner]
  have closed : (quoteScanner separator).step true '"' = false := by simp [quoteScanner]
  have inside := passes_inside separator unquoted
  constructor
  · refine ⟨by simp [quoteScanner], ?_⟩
    rw [Scanner.uncut_append]
    exact ⟨inside.1, by simp [quoteScanner], trivial⟩
  · rw [Scanner.after_cons, opened, Scanner.after_append, inside.2]
    exact closed

theorem passes_renderValue (splits : reserved separator = true) (unquoted : '"' ∉ value) :
    (quoteScanner separator).Passes false (renderValue value) := by
  rcases renderValue_cases unquoted with quoted | ⟨plain, clean⟩
  · rw [quoted]
    exact passes_quoted separator unquoted
  · rw [plain]
    apply passes_of_notMem ?_ unquoted
    intro member
    simp [clean separator member] at splits

variable {pair : List Char × List Char}

theorem passes_renderPair (splits : separator = ',' ∨ separator = ';') (free : QuoteFree pair) :
    (quoteScanner separator).Passes false (renderPair pair) := by
  have special : reserved separator = true := by rcases splits with rfl | rfl <;> decide
  have equals : separator ≠ '=' := by rcases splits with rfl | rfl <;> decide
  have absent : ∀ c, reserved c = true → c ∉ pair.1 := by
    intro c special member
    simp [free.key c member] at special
  have key : (quoteScanner separator).Passes false (pair.1 ++ ['=']) :=
    passes_of_notMem (by simp [absent separator special, equals]) (by simp [absent '"' (by decide)])
  have split : renderPair pair = (pair.1 ++ ['=']) ++ renderValue pair.2 := by simp [renderPair]
  rw [split]
  exact key.append (passes_renderValue special free.value)

theorem paritySplit_intercalate {parts : List (List Char)} (some : parts ≠ [])
    (passes : ∀ separator, separator = ',' ∨ separator = ';' →
      ∀ part ∈ parts, (quoteScanner separator).Passes false part) :
    paritySplit (intercalate [';'] parts) = parts := by
  have semicolon : (quoteScanner ',').Passes false [';'] := by
    apply Scanner.Passes.singleton <;> simp [quoteScanner]
  have whole := Scanner.Passes.intercalate semicolon (passes ',' (.inl rfl))
  have steps : (quoteScanner ';').step = (quoteScanner ',').step := rfl
  rw [← pieces_either_eq, Scanner.pieces_either steps (quoteScanner_cutsAt ',')
    (Scanner.pieces_of_uncut whole.1), flatMap_nil, append_nil]
  exact Scanner.pieces_intercalate some (by simp [quoteScanner]) (by simp [quoteScanner])
    (passes ';' (.inr rfl))

variable {elements : List CertElement} {element : CertElement}

theorem passes_renderElement (free : ∀ pair ∈ element, QuoteFree pair) :
    (quoteScanner ',').Passes false (renderElement element) := by
  apply Scanner.Passes.intercalate
  · apply Scanner.Passes.singleton <;> simp [quoteScanner]
  · exact forall_mem_map.mpr fun pair member => passes_renderPair (.inl rfl) (free pair member)

theorem pieces_renderElement (free : ∀ pair ∈ element, QuoteFree pair) :
    (quoteScanner ';').pieces false (renderElement element) =
      if element = [] then [[]] else element.map renderPair := by
  cases element with
  | nil => rfl
  | cons pair element =>
    apply Scanner.pieces_intercalate (by simp) (by simp [quoteScanner]) (by simp [quoteScanner])
    exact forall_mem_map.mpr fun pair member =>
      passes_renderPair (.inr rfl) (free pair member)

theorem paritySplit_renderXfcc (some : elements ≠ [])
    (free : ∀ element ∈ elements, ∀ pair ∈ element, QuoteFree pair) :
    paritySplit (renderXfcc elements) =
      elements.flatMap fun element => if element = [] then [[]] else element.map renderPair := by
  have split : (quoteScanner ',').pieces false (renderXfcc elements) =
      elements.map renderElement := by
    apply Scanner.pieces_intercalate (by simpa using some) (by simp [quoteScanner])
      (by simp [quoteScanner])
    exact forall_mem_map.mpr fun element member => passes_renderElement (free element member)
  have steps : (quoteScanner ';').step = (quoteScanner ',').step := rfl
  cases elements with
  | nil => exact absurd rfl some
  | cons element elements =>
    rw [← pieces_either_eq, Scanner.pieces_either steps (quoteScanner_cutsAt ',') split,
      ← flatMap_cons, ← map_cons, flatMap_map]
    apply flatMap_congr
    intro element member
    exact pieces_renderElement (free element member)

theorem bare_quoted (text : List Char) : Bare ('"' :: (text ++ ['"'])) := by
  constructor
  · intro c head
    cases head
    decide
  · intro c last
    rw [← cons_append, getLast?_concat] at last
    cases last
    decide

@[simp] theorem stripOptionalQuotes_quoted (text : List Char) :
    stripOptionalQuotes ('"' :: (text ++ ['"'])) = text := by
  simp [stripOptionalQuotes]

theorem stripOptionalQuotes_of_notMem (unquoted : '"' ∉ text) :
    stripOptionalQuotes text = text := by
  unfold stripOptionalQuotes
  split
  · simp at unquoted
  · rfl

theorem trim_stripOptionalQuotes (unquoted : '"' ∉ value) :
    trim (stripOptionalQuotes (trim (renderValue value))) = trim value := by
  rcases renderValue_cases unquoted with quoted | ⟨plain, _⟩
  · rw [quoted, trim_of_bare (bare_quoted value), stripOptionalQuotes_quoted]
  · rw [plain, stripOptionalQuotes_of_notMem (notMem_trim unquoted), trim_trim]

variable (policy : IdentityPolicy)

theorem selectedField_renderPair (free : QuoteFree pair) :
    ((policy.selectedField (renderPair pair)).map fun field => trim field.2) =
      if policy.Selects pair.1 then some (trim pair.2) else none := by
  have absent : '=' ∉ pair.1 := by
    intro member
    exact absurd (free.key _ member) (by decide)
  rw [renderPair]
  by_cases selects : policy.Selects pair.1
  · rw [if_pos selects, IdentityPolicy.selectedField_eq_some.mpr
      ⟨_, _, splitOnce_append absent _, selects, rfl⟩, Option.map_some,
      trim_stripOptionalQuotes free.value]
  · rw [IdentityPolicy.selectedField, splitOnce_append absent]
    simp [selects]

theorem filterMap_renderPair (free : ∀ pair ∈ element, QuoteFree pair) :
    (element.map renderPair).filterMap (fun pair =>
        (policy.selectedField pair).map fun field => trim field.2) =
      (element.filter fun pair => policy.Selects pair.1).map fun pair => trim pair.2 := by
  induction element with
  | nil => rfl
  | cons pair element ih =>
    have rest := ih fun pair member => free pair (by simp [member])
    rw [map_cons, filterMap_cons, selectedField_renderPair policy (free pair (by simp)), rest]
    by_cases selects : policy.Selects pair.1
    · simp [selects]
    · simp [selects]

theorem readValues_renderXfcc (some : elements ≠ [])
    (free : ∀ element ∈ elements, ∀ pair ∈ element, QuoteFree pair) :
    policy.readValues (renderXfcc elements) = policy.suppliedValues elements := by
  rw [IdentityPolicy.readValues, paritySplit_renderXfcc some free, IdentityPolicy.suppliedValues,
    filterMap_flatMap, filter_flatten, map_flatten, map_map, flatMap_def]
  congr 1
  apply map_congr_left
  intro element member
  cases element with
  | nil => rfl
  | cons pair element =>
    rw [if_neg (by simp), filterMap_renderPair policy (free _ member)]
    rfl

/-! ## What the header asserts -/

theorem mem_readValues {policy : IdentityPolicy}
    (san : policy = .uriSan ∨ policy = .dnsSan) {header found : List Char}
    (agreed : policy.Agreed (paritySplit header) found) (value : List Char) :
    value ∈ policy.readValues header ↔ value = trim found := by
  simp only [IdentityPolicy.readValues, mem_filterMap, Option.map_eq_some_iff]
  constructor
  · rintro ⟨pair, member, field, selected, rfl⟩
    have yields := agreed.same pair member field selected
    rw [IdentityPolicy.extracted_san san selected] at yields
    rw [Option.some.inj yields]
  · rintro rfl
    obtain ⟨pair, member, field, selected⟩ := agreed.present
    have yields := agreed.same pair member field selected
    rw [IdentityPolicy.extracted_san san selected] at yields
    exact ⟨pair, member, field, selected, by rw [Option.some.inj yields]⟩

/-- An identity that is read off a rendered header is supplied by its elements, if their keys are
plain and none of their values holds a double quote. -/
theorem verifiedIdentity_supplied (provider : ReverseProxyMtlsProvider)
    (request : RequestHeaders) (elements : List CertElement)
    (san : provider.policy = .uriSan ∨ provider.policy = .dnsSan) (xfcc : provider.format = .xfcc)
    (rendered : request.first provider.headerName = some (String.ofList (renderXfcc elements)))
    (nonempty : elements ≠ []) (free : ∀ element ∈ elements, ∀ pair ∈ element, QuoteFree pair)
    (identity : TransportIdentity) (accepted : provider.verifiedIdentity request = some identity) :
    provider.policy.SuppliedBy elements (textChars identity.value) := by
  obtain ⟨_, _, found, parsed⟩ := (ReverseProxyMtlsProvider.verifiedIdentity_xfcc xfcc).mp accepted
  cases rendered.symm.trans found
  obtain ⟨_, asserts, rfl⟩ := ReverseProxyMtlsProvider.parseXfcc_eq_some.mp parsed
  rw [textChars_eq, String.toList_ofList] at asserts ⊢
  have same := mem_readValues san asserts.agreed
  rw [readValues_renderXfcc _ nonempty free] at same
  exact ⟨(same _).mpr rfl, fun value member => (same value).mp member⟩

/-- A request with the rendered elements in Envoy's header. -/
def forwarded (elements : List CertElement) : RequestHeaders :=
  .fromPairs [("x-forwarded-client-cert", String.ofList (renderXfcc elements))]

def envoyProvider : ReverseProxyMtlsProvider := ⟨"x-forwarded-client-cert", .xfcc, .uriSan⟩

/-- A subject with reserved characters beside the name that is selected. -/
def plainElements : List CertElement :=
  [[(textChars "Subject", textChars "CN=a,O=b;c"), (textChars "URI", textChars "spiffe://a")],
    [(textChars "By", textChars "p")]]

/-- Elements without quotes in their values supply the identity. -/
theorem verifiedIdentity_supplied_plain :
    envoyProvider.verifiedIdentity (forwarded plainElements) = some ⟨"spiffe://a", .uriSan⟩ ∧
      envoyProvider.policy.SuppliedBy plainElements (textChars "spiffe://a") := by
  have accepted : envoyProvider.verifiedIdentity (forwarded plainElements) =
      some ⟨"spiffe://a", .uriSan⟩ := by
    decide +kernel
  have free : ∀ element ∈ plainElements, ∀ pair ∈ element,
      (∀ c ∈ pair.1, reserved c = false) ∧ '"' ∉ pair.2 := by decide +kernel
  exact ⟨accepted, verifiedIdentity_supplied envoyProvider (forwarded plainElements) plainElements
    (.inl rfl) rfl (by decide +kernel) (by simp [plainElements])
    (fun element member pair inside => ⟨(free element member pair inside).1,
      (free element member pair inside).2⟩) _ accepted⟩

/-- A certificate without a URI whose subject holds double quotes. -/
def quotingElements : List CertElement :=
  [[(textChars "Subject", textChars "\";URI=spiffe://evil;\"")]]

/-- The subject ends its quoting and supplies the identity. -/
theorem verifiedIdentity_injected :
    envoyProvider.verifiedIdentity (forwarded quotingElements) = some ⟨"spiffe://evil", .uriSan⟩ ∧
      envoyProvider.policy.suppliedValues quotingElements = [] := by
  decide +kernel

end Mcps
