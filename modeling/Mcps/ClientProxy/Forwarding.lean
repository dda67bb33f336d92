import Mcps.ClientCore.Acceptance
import Mcps.ClientProxy.InnerErrors

/-!
# What the proxy sends of the request it was given

The request on the wire is the plain request with an envelope in the `_meta` of its
parameters.  Parameters that are not an object, and a `_meta` that is not one, have no
place for the envelope; the proxy replaces them by empty objects and signs what is left.
-/

namespace Mcps.ClientProxy

open ClientCore Option Json Assoc

/-! ## Parameters up to the envelope -/

section

variable {ν μ : Type}

/-- Delete a `_meta` without members. -/
def dropEmptyMeta (params : Json ν) : Json ν :=
  match params.get "_meta" with
  | some (.object []) => params.removeMember "_meta"
  | _ => params

/-- Delete the request envelope, and then a `_meta` without members. -/
def withoutEnvelope (params : Json ν) : Json ν :=
  dropEmptyMeta (params.updateMember "_meta" (Json.removeMember requestMetaKey))

theorem dropEmptyMeta_mapNumbers (image : ν → μ) (params : Json ν) :
    dropEmptyMeta (params.mapNumbers image) = (dropEmptyMeta params).mapNumbers image := by
  unfold dropEmptyMeta
  rw [get_mapNumbers]
  cases params.get "_meta" with
  | none => rfl
  | some metaValue =>
    cases metaValue with
    | object members =>
      cases members with
      | nil => exact (mapNumbers_removeMember image "_meta" params).symm
      | cons member rest => rfl
    | _ => rfl

theorem withoutEnvelope_mapNumbers (image : ν → μ) (params : Json ν) :
    withoutEnvelope (params.mapNumbers image) = (withoutEnvelope params).mapNumbers image := by
  rw [withoutEnvelope, withoutEnvelope, ← dropEmptyMeta_mapNumbers]
  congr 1
  exact (mapNumbers_modifyAt (mapNumbers_removeMember image requestMetaKey)
    ["_meta"] params).symm

variable {members : List (String × Json ν)}

theorem dropEmptyMeta_object (members : List (String × Json ν)) :
    ∃ rest, dropEmptyMeta (.object members) = .object rest := by
  unfold dropEmptyMeta
  split
  · exact ⟨_, rfl⟩
  · exact ⟨_, rfl⟩

theorem withoutEnvelope_of_none (absent : find? "_meta" members = none) :
    withoutEnvelope (.object members) = .object members := by
  have same : (object members).updateMember "_meta" (removeMember requestMetaKey) =
      .object members := by
    rw [updateMember, object.injEq]
    refine (List.map_congr_left ?_).trans (List.map_id _)
    intro member inside
    rw [if_neg (find?_eq_none_iff.mp absent member inside)]
    rfl
  rw [withoutEnvelope, same, dropEmptyMeta, get_object, absent]

theorem get_withoutEnvelope {metaValue : Json ν}
    (found : find? "_meta" members = some metaValue) (other : metaValue.asObject = none) :
    (withoutEnvelope (.object members)).get "_meta" = some metaValue := by
  have same : metaValue.removeMember requestMetaKey = metaValue := by
    cases metaValue <;> first | rfl | cases other
  have held : ((object members).updateMember "_meta"
      (removeMember requestMetaKey)).get "_meta" = some metaValue := by
    rw [get_updateMember_self, get_object, found, map_some, same]
  rw [withoutEnvelope, dropEmptyMeta, held]
  cases metaValue with
  | object inner => cases other
  | _ => exact held

end

/-! ## Plain requests -/

variable (plainRequest : MapValue)

theorem sortedKeys_plainId : ((plainRequest.val.get "id").getD .null).SortedKeys := by
  cases found : plainRequest.val.get "id" with
  | none => exact sortedKeys_null
  | some id => exact plainRequest.property.get found

theorem sortedKeys_plainParams :
    (object (((plainRequest.val.get "params").bind asObject).getD [])).SortedKeys := by
  cases found : plainRequest.val.get "params" with
  | none => simp [Assoc.Ordered]
  | some params =>
    have sorted := plainRequest.property.get found
    cases params with
    | object members => exact sorted
    | _ => simp [asObject, Assoc.Ordered]

variable {members : List (String × Value)}

theorem withoutEnvelope_paramsWithEnvelope (sorted : (object members).SortedKeys)
    (envelope : Value) :
    withoutEnvelope (.object (paramsWithEnvelope members envelope)) =
      dropEmptyMeta (.object (insert codePointLt "_meta"
        (.object (erase requestMetaKey (metaMembers members)))
        (erase "_meta" members))) := by
  have ordered := (sortedKeys_object.mp (sorted.erase "_meta")).1
  rw [withoutEnvelope, paramsWithEnvelope_eq, updateMember_insert ordered,
    removeMember, erase_insert_self]

theorem withoutEnvelope_sent (sorted : (object members).SortedKeys) (envelope : Value)
    (place : ∀ metaValue, find? "_meta" members = some metaValue →
      metaValue.asObject.isSome) :
    withoutEnvelope (.object (paramsWithEnvelope members envelope)) =
      withoutEnvelope (.object members) := by
  rw [withoutEnvelope_paramsWithEnvelope sorted]
  cases found : find? "_meta" members with
  | none =>
    rw [metaMembers, found, withoutEnvelope_of_none found, dropEmptyMeta, get_insert_self]
    change object (erase "_meta" (insert _ _ _ _)) = _
    rw [erase_insert_self, erase_of_find?_none (find?_erase_self _ _), erase_of_find?_none found]
  | some metaValue =>
    cases metaValue with
    | object inner =>
      have ordered := (sortedKeys_object.mp sorted).1
      have whole := insert_erase ordered found
      nth_rewrite 3 [← whole]
      rw [withoutEnvelope, updateMember_insert (ordered.erase "_meta"), metaMembers, found]
      rfl
    | _ => cases place _ found

theorem get_withoutEnvelope_sent (sorted : (object members).SortedKeys) (envelope : Value)
    {metaValue : Value} (found : find? "_meta" members = some metaValue)
    (other : metaValue.asObject = none) :
    (withoutEnvelope (.object (paramsWithEnvelope members envelope))).get "_meta" = none := by
  rw [withoutEnvelope_paramsWithEnvelope sorted, metaMembers, found, bind_some, other,
    dropEmptyMeta, get_insert_self]
  exact find?_erase_self _ _

/-- The sent parameters are the given ones up to the envelope exactly if there is a place for
it in them. -/
theorem withoutEnvelope_sent_eq_iff (spell : Number → List Char) (given : Option Value)
    (sorted : (object ((given.bind asObject).getD [])).SortedKeys) (envelope : Value) :
    (withoutEnvelope (.object (paramsWithEnvelope ((given.bind asObject).getD [])
        envelope))).mapNumbers spell =
        (withoutEnvelope (given.getD (.object []))).mapNumbers spell ↔
      ∀ params, given = some params → params.asObject.isSome ∧
        ∀ metaValue, params.get "_meta" = some metaValue → metaValue.asObject.isSome := by
  cases given with
  | none => exact iff_of_true (congrArg _ (withoutEnvelope_sent sorted envelope nofun)) nofun
  | some params =>
    cases params with
    | object members =>
      constructor
      · rintro same params ⟨⟩
        refine ⟨rfl, ?_⟩
        intro metaValue inside
        by_contra other
        have notObject := not_isSome_iff_eq_none.mp other
        have dropped := congrArg (get "_meta") same
        rw [get_mapNumbers, get_mapNumbers,
          get_withoutEnvelope_sent sorted envelope inside notObject, getD_some,
          get_withoutEnvelope inside notObject] at dropped
        cases dropped
      · intro place
        exact congrArg _ (withoutEnvelope_sent sorted envelope (place _ rfl).2)
    | _ =>
      refine iff_of_false ?_ fun place => by cases (place _ rfl).1
      intro same
      rcases dropEmptyMeta_object (insert codePointLt "_meta" (object
        (erase requestMetaKey (metaMembers []))) (erase "_meta" [])) with
        ⟨members, isObject⟩
      have object := same.symm.trans (congrArg (mapNumbers spell) isObject)
      cases object

/-! ## The request that is sent -/

/-- The bytes are the text of an object with the id and the method of the plain request, and
with its parameters up to the envelope. -/
def Forwards (spell : Number → List Char) (plainRequest : Value) (sent : Bytes) : Prop :=
  ∃ document params, readDocument sent = some document ∧
    document.get "id" = some (((plainRequest.get "id").getD .null).mapNumbers spell) ∧
    document.get "method" = (plainRequest.get "method").map (Json.mapNumbers spell) ∧
    document.get "params" = some params ∧
    withoutEnvelope params =
      withoutEnvelope (((plainRequest.get "params").getD (.object [])).mapNumbers spell)

/-- The parameters, if there are any, are an object, and so is their `_meta`. -/
def HasPlace (plainRequest : Value) : Prop :=
  ∀ params, plainRequest.get "params" = some params → params.asObject.isSome ∧
    ∀ metaValue, params.get "_meta" = some metaValue → metaValue.asObject.isSome

section

variable [Crates] {spell : Number → List Char} {numberOf : List Char → Option Number}

/-- The bytes that are sent are the text of the request around some envelope. -/
theorem readDocument_sent (writes : SerdeWrites spell numberOf) {proxy : ClientProxy}
    {correlation : CorrelationStore} {routeId : String} {plainRequest : MapValue}
    {params : CallParams} {sent : Bytes}
    (sends : (proxy.handle correlation routeId plainRequest.val params).sent = some sent) :
    ∃ method envelope, plainRequest.val.get "method" = some (.string method) ∧
      readDocument sent = some ((requestWith ((plainRequest.val.get "id").getD .null) method
        (((plainRequest.val.get "params").bind asObject).getD []) envelope).mapNumbers
          spell) := by
  rcases proxy.handle_cases correlation routeId plainRequest.val params with
    ⟨_, refused⟩ | ⟨_, signs, wire, _⟩
  · rw [refused] at sends
    cases sends
  · rw [wire, some.injEq] at sends
    subst sends
    obtain ⟨_, _, _, _, method, inputs, named, built⟩ := sign_eq_ok signs
    obtain ⟨_, _, signature, _, _, shape, _, written⟩ := buildSignedRequestWith_eq_ok built
    have sorted := sortedKeys_plainParams plainRequest
    have idSorted := sortedKeys_plainId plainRequest
    rw [graftSignature_unsignedRequest sorted] at shape
    rw [shape] at written
    let object : MapValue := ⟨_, sortedKeys_requestWith idSorted method sorted
      (sortedKeys_signedEnvelope inputs signature)⟩
    exact ⟨method, _, bind_asStr_eq_some.mp named, @SerdeWrites.writes _ _ _ writes object _ written⟩

/-- What the proxy sends forwards the plain request exactly if there is a place for the
envelope in it. -/
theorem forwards_iff (writes : SerdeWrites spell numberOf) (proxy : ClientProxy)
    (correlation : CorrelationStore) (routeId : String) (plainRequest : MapValue)
    (params : CallParams) (sent : Bytes)
    (sends : (proxy.handle correlation routeId plainRequest.val params).sent = some sent) :
    Forwards spell plainRequest.val sent ↔ HasPlace plainRequest.val := by
  rcases readDocument_sent writes sends with ⟨method, envelope, named, text⟩
  have same_iff := withoutEnvelope_sent_eq_iff spell (plainRequest.val.get "params")
    (sortedKeys_plainParams plainRequest) envelope
  constructor
  · rintro ⟨document, params, read, _, _, held, same⟩
    cases text.symm.trans read
    rw [Json.get_mapNumbers] at held
    cases held
    rw [withoutEnvelope_mapNumbers, withoutEnvelope_mapNumbers] at same
    exact same_iff.mp same
  · intro place
    refine ⟨_, _, text, ?_, ?_, Json.get_mapNumbers .., ?_⟩
    · rw [Json.get_mapNumbers]
      rfl
    · rw [Json.get_mapNumbers, named]
      rfl
    · rw [withoutEnvelope_mapNumbers, withoutEnvelope_mapNumbers]
      exact same_iff.mpr place

end

/-! ## Two calls -/

def plainCallValue : MapValue := ⟨plainCall, by decide +kernel⟩

theorem handle_plainCall_sent :
    letI := acceptanceCrates
    ((callingProxy []).handle .new "tools" plainCall callParams).sent =
      some (bytesOf (signedCall [])) := by
  decide +kernel

/-- The call is forwarded. -/
theorem forwards_plainCall : Forwards spellNumber plainCall (bytesOf (signedCall [])) := by
  apply (@forwards_iff acceptanceCrates _ _ serdeWrites_acceptanceCrates (callingProxy []) .new
    "tools" plainCallValue callParams _ handle_plainCall_sent).mpr
  rintro params ⟨⟩
  exact ⟨rfl, nofun⟩

/-- A call whose parameters are given by position. -/
def positionalCall : Value :=
  .object [("id", .string "req-1"), ("jsonrpc", .string "2.0"), ("method", .string "tools/call"),
    ("params", .array [.string "echo", .string "hello"])]

/-- What is signed for the positional call, without its signature value. -/
def positionalRequest : Value :=
  unsignedRequest (.string "req-1") "tools/call" [] callInputs

def positionalSignatures : List KnownSignature :=
  [⟨vectorKey, bytesOf positionalRequest,
    "pE56S6d80CIjBikp252iRUsRGcZZZK9fpQ35Gd8smDtd6PGiur6Qb37GXCw_vzqTR7bn_stCHD6Z9vGne3yWAg"⟩]

@[reducible] def positionalCrates : Crates :=
  referenceCrates "FOlZHKiHcmn9tL9sOzpiQjxVOoRSmzUbxDR0dFLWPiY" positionalSignatures []

def positionalProxy : ClientProxy :=
  { callingProxy [] with
    signer := { agentSigner with
      signPreimage := fun preimage => .ok (referenceSignature positionalSignatures
        ((b64urlDecodeText vectorKey).getD []) preimage) } }

/-- The positional call is sent without its parameters. -/
theorem forwards_without_positional :
    letI := positionalCrates
    let sent := (positionalProxy.handle .new "tools" positionalCall callParams).sent
    (sent.bind readDocument).map (fun document =>
        (document.get "method", (document.get "params").map withoutEnvelope)) =
        some (some (.string "tools/call"), some (.object [])) ∧
      (positionalCall.get "params").map withoutEnvelope =
        some (.array [.string "echo", .string "hello"]) := by
  let crates := positionalCrates
  decide +kernel

end Mcps.ClientProxy
