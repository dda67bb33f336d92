import Mcps.Proxy.ReverseProxy

/-!
# What a forwarded certificate header asserts

The header is split into elements and every element into pairs, each time with the quotes
counted anew.  That is one split of the whole value at the commas and semicolons that have an
even number of double quotes before them, so no pair is hidden from the comparison of the
selected values.

The count does not know Envoy's escaped quote: a quote inside a value ends the quoting, and
what follows it in the value is read as pairs of its own.
-/

namespace Mcps

open List

/-! ## One scan -/

/-- Counts the double quotes; a comma or a semicolon cuts behind an even number of them. -/
def quoteCounter : Scanner Char Nat where
  step quotes c := if c = '"' then quotes + 1 else quotes
  cuts quotes c := (c = ',' || c = ';') && quotes % 2 = 0

/-- The text between the commas and semicolons with an even number of quotes before them. -/
def paritySplit (value : List Char) : List (List Char) := quoteCounter.pieces 0 value

theorem quoteCounter_after (quotes : Nat) (text : List Char) :
    quoteCounter.after quotes text = quotes + text.count '"' := by
  induction text generalizing quotes with
  | nil => rfl
  | cons c text ih =>
    rw [Scanner.after_cons, ih]
    by_cases quote : c = '"'
    · simp only [quoteCounter, quote]
      simp
      omega
    · simp [quoteCounter, quote]

variable (separator : Char)

theorem quoteScanner_step (quotes : Nat) (c : Char) :
    (quoteScanner separator).step (quotes % 2 = 1) c =
      decide (quoteCounter.step quotes c % 2 = 1) := by
  by_cases quote : c = '"'
  · simp only [quoteScanner, quoteCounter, if_pos quote]
    rcases Nat.mod_two_eq_zero_or_one quotes with even | odd
    · simp [even, Nat.add_mod]
    · simp [odd, Nat.add_mod]
  · simp [quoteScanner, quoteCounter, quote]

theorem quoteScanner_after (text : List Char) :
    (quoteScanner separator).after false text = decide (text.count '"' % 2 = 1) := by
  have scanned := Scanner.after_map (fun quotes : Nat => decide (quotes % 2 = 1))
    (quoteScanner_step separator) 0 text
  rw [quoteCounter_after, Nat.zero_add] at scanned
  exact scanned

theorem quoteScanner_cutsAt : (quoteScanner separator).CutsAt false := by
  intro inQuotes c cut
  simp only [quoteScanner, Bool.and_eq_true, Bool.not_eq_true', decide_eq_true_eq] at cut
  obtain ⟨⟨unquoted, _⟩, outside⟩ := cut
  exact ⟨outside, by simp [quoteScanner, unquoted, outside]⟩

theorem pieces_either_eq (value : List Char) :
    ((quoteScanner ',').either (quoteScanner ';')).pieces false value = paritySplit value := by
  have cuts : ∀ quotes c, ((quoteScanner ',').either (quoteScanner ';')).cuts
      (decide (quotes % 2 = 1)) c = quoteCounter.cuts quotes c := by
    intro quotes c
    by_cases quote : c = '"'
    · simp [Scanner.either, quoteScanner, quoteCounter, quote]
    · rcases Nat.mod_two_eq_zero_or_one quotes with even | odd
      · simp [Scanner.either, quoteScanner, quoteCounter, quote, even]
      · simp [Scanner.either, quoteScanner, quoteCounter, odd]
  refine Scanner.pieces_map (fun quotes : Nat => decide (quotes % 2 = 1)) ?_ cuts 0 value
  exact quoteScanner_step ','

theorem splitOutsideQuotes_eq (value : List Char) (separator : Char) :
    splitOutsideQuotes value separator =
      if value.count '"' % 2 = 1 then none else some ((quoteScanner separator).pieces false value) := by
  simp [splitOutsideQuotes, quoteScanner_after]

theorem foldlM_elements {State : Type} (read : State → List Char → Option State)
    {elements : List (List Char)}
    (balanced : ∀ element ∈ elements, (quoteScanner ';').after false element = false) (found : State) :
    elements.foldlM (fun found element => do
        let pairs ← splitXfccElementPairs element
        pairs.foldlM read found) found =
      (elements.flatMap ((quoteScanner ';').pieces false)).foldlM read found := by
  induction elements generalizing found with
  | nil => rfl
  | cons element elements ih =>
    have pairs : splitXfccElementPairs element =
        some ((quoteScanner ';').pieces false element) := by
      simp [splitXfccElementPairs, splitOutsideQuotes, balanced element (by simp)]
    rw [foldlM_cons, pairs, flatMap_cons, foldlM_append]
    congr 1
    funext next
    exact ih (fun element member => balanced element (by simp [member])) next

theorem foldlM_splitXfcc {State : Type} (read : State → List Char → Option State)
    (value : List Char) (found : State) :
    (do
      let elements ← splitXfccElements value
      elements.foldlM (fun found element => do
        let pairs ← splitXfccElementPairs element
        pairs.foldlM read found) found) =
      if value.count '"' % 2 = 1 then none else (paritySplit value).foldlM read found := by
  rw [splitXfccElements, splitOutsideQuotes_eq]
  by_cases odd : value.count '"' % 2 = 1
  · simp [odd]
  · rw [if_neg odd, if_neg odd]
    rcases (quoteScanner ',').exists_pieces false value with ⟨_, _, split⟩
    have closed : (quoteScanner ',').after false value = false := by
      simp [quoteScanner_after, odd]
    have balanced := Scanner.after_pieces (quoteScanner_cutsAt ',') split closed
    have steps : (quoteScanner ';').step = (quoteScanner ',').step := rfl
    rw [← pieces_either_eq, Scanner.pieces_either steps (quoteScanner_cutsAt ',') split, split]
    apply foldlM_elements
    intro element member
    rcases mem_cons.mp member with rfl | member
    · exact balanced.1
    · exact balanced.2 element member

/-! ## Agreement -/

namespace IdentityPolicy

variable {policy : IdentityPolicy} {pairs : List (List Char)} {pair value : List Char}

/-- There are pairs with a selected key, and all of them yield this value. -/
structure Agreed (policy : IdentityPolicy) (pairs : List (List Char)) (value : List Char) :
    Prop where
  nonempty : value ≠ []
  present : ∃ pair ∈ pairs, ∃ field, policy.selectedField pair = some field
  same : ∀ pair ∈ pairs, ∀ field, policy.selectedField pair = some field →
    extracted field = some value

theorem readPair_unselected (unselected : policy.selectedField pair = none)
    (found : Option (List Char)) : policy.readPair found pair = some found := by
  rw [readPair, unselected]

theorem readPair_selected {field : List Char × List Char}
    (selected : policy.selectedField pair = some field) {found next : Option (List Char)} :
    policy.readPair found pair = some next ↔
      ∃ value, extracted field = some value ∧ value ≠ [] ∧ next = some value ∧
        (found = none ∨ found = some value) := by
  simp only [readPair, selected]
  cases yields : extracted field with
  | none => simp
  | some value =>
    by_cases empty : value = []
    · simp [empty]
    · cases found with
      | none => simp [eq_comm]
      | some existing =>
        by_cases same : existing = value
        · simp [same, eq_comm]
        · simp [same]

theorem foldlM_readPair_some {final : Option (List Char)} :
    pairs.foldlM policy.readPair (some value) = some final ↔
      final = some value ∧ ∀ pair ∈ pairs, ∀ field, policy.selectedField pair = some field →
        value ≠ [] ∧ extracted field = some value := by
  induction pairs with
  | nil => simp [eq_comm]
  | cons pair pairs ih =>
    rw [foldlM_cons, forall_mem_cons, Option.bind_eq_bind, Option.bind_eq_some_iff]
    cases selected : policy.selectedField pair with
    | none => simp [readPair_unselected selected, ih]
    | some field =>
      simp only [readPair_selected selected, Option.some.injEq, forall_eq']
      constructor
      · rintro ⟨_, ⟨_, yields, some, rfl, none | rfl⟩, rest⟩
        · cases none
        · exact ⟨(ih.mp rest).1, ⟨some, yields⟩, (ih.mp rest).2⟩
      · rintro ⟨rfl, ⟨some, yields⟩, rest⟩
        exact ⟨_, ⟨value, yields, some, rfl, .inr rfl⟩, ih.mpr ⟨rfl, rest⟩⟩

theorem foldlM_readPair :
    pairs.foldlM policy.readPair none = some (some value) ↔ policy.Agreed pairs value := by
  induction pairs with
  | nil =>
    constructor
    · nofun
    · intro agreed
      obtain ⟨_, member, _⟩ := agreed.present
      cases member
  | cons pair pairs ih =>
    rw [foldlM_cons, Option.bind_eq_bind, Option.bind_eq_some_iff]
    cases selected : policy.selectedField pair with
    | none =>
      simp only [readPair_unselected selected, Option.some.injEq, exists_eq_left', ih]
      constructor
      · rintro ⟨some, present, same⟩
        refine ⟨some, ?_, ?_⟩
        · obtain ⟨other, member, field, selects⟩ := present
          exact ⟨other, by simp [member], field, selects⟩
        · intro other member field selects
          rcases mem_cons.mp member with rfl | member
          · simp [selected] at selects
          · exact same other member field selects
      · rintro ⟨some, present, same⟩
        refine ⟨some, ?_, fun other member => same other (by simp [member])⟩
        obtain ⟨other, member, field, selects⟩ := present
        rcases mem_cons.mp member with rfl | member
        · simp [selected] at selects
        · exact ⟨other, member, field, selects⟩
    | some field =>
      simp only [readPair_selected selected]
      constructor
      · rintro ⟨_, ⟨_, yields, some, rfl, _⟩, rest⟩
        obtain ⟨final, others⟩ := foldlM_readPair_some.mp rest
        cases final
        refine ⟨some, ⟨pair, by simp, field, selected⟩, ?_⟩
        intro other member otherField selects
        rcases mem_cons.mp member with rfl | member
        · cases selected.symm.trans selects
          exact yields
        · exact (others other member otherField selects).2
      · intro agreed
        refine ⟨some value, ⟨value, agreed.same pair (by simp) field selected, agreed.nonempty,
          rfl, .inl trivial⟩, foldlM_readPair_some.mpr ⟨rfl, ?_⟩⟩
        intro other member otherField selects
        exact ⟨agreed.nonempty, agreed.same other (by simp [member]) otherField selects⟩

end IdentityPolicy

namespace ReverseProxyMtlsProvider

variable {provider : ReverseProxyMtlsProvider}

/-- What an accepted header value says: its quotes are balanced, and the selected pairs of the
one split agree on a value that is well formed once trimmed. -/
structure Asserts (policy : IdentityPolicy) (value found : List Char) : Prop where
  balanced : value.count '"' % 2 = 0
  agreed : policy.Agreed (paritySplit value) found
  wellFormed : WellFormedIdentity (trim found)

variable {identity : TransportIdentity}

theorem parseXfcc_eq_some {value : String} :
    provider.parseXfcc value = some identity ↔
      ∃ found, Asserts provider.policy (textChars value) found ∧
        identity = ⟨String.ofList (trim found), provider.source⟩ := by
  have reads := foldlM_splitXfcc provider.policy.readPair (textChars value) none
  have parsed : provider.parseXfcc value =
      (if (textChars value).count '"' % 2 = 1 then none
        else (paritySplit (textChars value)).foldlM provider.policy.readPair none) >>=
      fun found => found >>= fun found =>
        (validateAssertedIdentityValue (String.ofList found)).toOption >>= fun identity =>
          some ⟨String.ofList identity, provider.source⟩ := by
    rw [← reads, bind_assoc]
    rfl
  rw [parsed]
  constructor
  · intro accepted
    split at accepted
    · cases accepted
    · rename_i balanced
      simp only [Option.bind_eq_bind, Option.bind_eq_some_iff, Option.some.injEq] at accepted
      obtain ⟨_, read, found, rfl, _, valid, rfl⟩ := accepted
      rcases validateAssertedIdentityValue_eq_ok.mp (Except.toOption_eq_some.mp valid) with
        ⟨trimmed, wellFormed⟩
      rw [textChars_eq, String.toList_ofList] at trimmed
      subst trimmed
      exact ⟨found, ⟨by omega, IdentityPolicy.foldlM_readPair.mp read, wellFormed⟩, rfl⟩
  · rintro ⟨found, asserts, rfl⟩
    have valid : validateAssertedIdentityValue (String.ofList found) = .ok (trim found) :=
      validateAssertedIdentityValue_eq_ok.mpr ⟨by simp, asserts.wellFormed⟩
    rw [if_neg (by rw [asserts.balanced]; decide), IdentityPolicy.foldlM_readPair.mpr asserts.agreed,
      Option.bind_eq_bind, Option.bind_some, Option.bind_eq_bind, Option.bind_some, valid]
    rfl

variable {request : RequestHeaders}

theorem verifiedIdentity_eq_some :
    provider.verifiedIdentity request = some identity ↔
      request.count provider.headerName = 1 ∧
        ∃ value, request.first provider.headerName = some value ∧
          (match provider.format with
            | .plain => provider.parsePlain value
            | .xfcc => provider.parseXfcc value) = some identity := by
  rw [verifiedIdentity]
  by_cases once : request.count provider.headerName = 1
  · rw [if_neg (not_not.mpr once), Option.bind_eq_bind, Option.bind_eq_some_iff]
    exact (and_iff_right once).symm
  · rw [if_pos once]
    simp [once]

theorem verifiedIdentity_xfcc (xfcc : provider.format = .xfcc) :
    provider.verifiedIdentity request = some identity ↔
      request.count provider.headerName = 1 ∧
        ∃ value, request.first provider.headerName = some value ∧
          provider.parseXfcc value = some identity := by
  rw [verifiedIdentity_eq_some, xfcc]

theorem wellFormed_verifiedIdentity (accepted : provider.verifiedIdentity request = some identity) :
    WellFormedIdentity (textChars identity.value) := by
  obtain ⟨_, _, _, parsed⟩ := verifiedIdentity_eq_some.mp accepted
  cases format : provider.format with
  | plain =>
    simp only [format, parsePlain, Option.bind_eq_bind, Option.bind_eq_some_iff] at parsed
    obtain ⟨_, valid, made⟩ := parsed
    cases made
    simpa using (validateAssertedIdentityValue_eq_ok.mp (Except.toOption_eq_some.mp valid)).2
  | xfcc =>
    simp only [format] at parsed
    obtain ⟨_, asserts, rfl⟩ := parseXfcc_eq_some.mp parsed
    simpa using asserts.wellFormed

/-- The trusted header occurs once, its quotes are balanced, and every piece of the one split
whose key is selected has the same unquoted value, the identity once trimmed. -/
def ReadsOneValue (provider : ReverseProxyMtlsProvider) (request : RequestHeaders)
    (identity : List Char) : Prop :=
  request.count provider.headerName = 1 ∧
    ∃ value, request.first provider.headerName = some value ∧
      (textChars value).count '"' % 2 = 0 ∧
        ∃ unquoted, unquoted ≠ [] ∧ trim unquoted = identity ∧
          (∃ piece ∈ paritySplit (textChars value), ∃ key raw,
            splitOnce '=' piece = some (key, raw) ∧ provider.policy.Selects key) ∧
          ∀ piece ∈ paritySplit (textChars value), ∀ key raw,
            splitOnce '=' piece = some (key, raw) → provider.policy.Selects key →
              stripOptionalQuotes (trim raw) = unquoted

end ReverseProxyMtlsProvider

namespace IdentityPolicy

variable {policy : IdentityPolicy}

variable {field : List Char × List Char}

theorem selectedField_eq_some {pair : List Char} :
    policy.selectedField pair = some field ↔
      ∃ key raw, splitOnce '=' pair = some (key, raw) ∧ policy.Selects key ∧
        field = (toAsciiLowercase (trim key), stripOptionalQuotes (trim raw)) := by
  simp only [selectedField, Option.bind_eq_bind, Option.bind_eq_some_iff, Prod.exists]
  constructor
  · rintro ⟨key, raw, split, selected⟩
    by_cases selects : policy.Selects key
    · rw [if_pos selects] at selected
      exact ⟨key, raw, split, selects, (Option.some.inj selected).symm⟩
    · rw [if_neg selects] at selected
      cases selected
  · rintro ⟨key, raw, split, selects, rfl⟩
    exact ⟨key, raw, split, if_pos selects⟩

theorem extracted_san (san : policy = .uriSan ∨ policy = .dnsSan) {pair : List Char}
    (selected : policy.selectedField pair = some field) : extracted field = some field.2 := by
  obtain ⟨key, _, _, selects, rfl⟩ := selectedField_eq_some.mp selected
  have other : toAsciiLowercase (trim key) ≠ ['s', 'u', 'b', 'j', 'e', 'c', 't'] := by
    rcases san with rfl | rfl
    · simp [mem_singleton.mp selects]
    · simp [mem_singleton.mp selects]
  rw [extracted, if_neg other]

end IdentityPolicy

/-- No conflicting value is hidden from the comparison. -/
theorem verifiedIdentity_readsOneValue (provider : ReverseProxyMtlsProvider)
    (request : RequestHeaders) (identity : TransportIdentity)
    (san : provider.policy = .uriSan ∨ provider.policy = .dnsSan) (xfcc : provider.format = .xfcc)
    (accepted : provider.verifiedIdentity request = some identity) :
    provider.ReadsOneValue request (textChars identity.value) := by
  rcases (ReverseProxyMtlsProvider.verifiedIdentity_xfcc xfcc).mp accepted with
    ⟨once, value, first, parsed⟩
  rcases ReverseProxyMtlsProvider.parseXfcc_eq_some.mp parsed with ⟨found, asserts, rfl⟩
  refine ⟨once, value, first, asserts.balanced, found, asserts.agreed.nonempty, by simp, ?_, ?_⟩
  · rcases asserts.agreed.present with ⟨piece, member, field, selected⟩
    rcases IdentityPolicy.selectedField_eq_some.mp selected with ⟨key, raw, split, selects, _⟩
    exact ⟨piece, member, key, raw, split, selects⟩
  · intro piece member key raw split selects
    have selected := IdentityPolicy.selectedField_eq_some.mpr ⟨key, raw, split, selects, rfl⟩
    have yields := asserts.agreed.same piece member _ selected
    rw [IdentityPolicy.extracted_san san selected] at yields
    exact Option.some.inj yields

/-- A header with the identity twice, once quoted. -/
theorem verifiedIdentity_readsOneValue_repeated :
    let provider : ReverseProxyMtlsProvider := ⟨"X-Forwarded-Client-Cert", .xfcc, .uriSan⟩
    let request := RequestHeaders.fromPairs
      [("x-forwarded-client-cert", "Hash=1;URI=spiffe://a,By=p;uri =\"spiffe://a\"")]
    provider.verifiedIdentity request = some ⟨"spiffe://a", .uriSan⟩ ∧
      provider.ReadsOneValue request (textChars "spiffe://a") := by
  intro provider request
  have accepted : provider.verifiedIdentity request = some ⟨"spiffe://a", .uriSan⟩ := by
    decide +kernel
  exact ⟨accepted, verifiedIdentity_readsOneValue provider request _ (.inl rfl) rfl accepted⟩

end Mcps
