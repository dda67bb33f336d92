import Mcps.Proxy.ResponseSafety

/-!
# Wrapping and unwrapping

The proxy wraps the inner server's outcome and the client takes it out again.  The
wrapper is recognised by its shape alone and the outcome's own `_meta` is dropped with
the envelope, so unwrapping gives the outcome back without its `_meta`, unless the
outcome is itself an object that looks like a wrapper.
-/

namespace Mcps.Proxy

open Except

/-! ## Outcomes without proxy-owned keys -/

/-- An object whose `_meta`, if it is an object, has no proxy-owned key. -/
def UnownedMeta : Value → Prop
  | .object members => ∀ metaMembers, ("_meta", .object metaMembers) ∈ members →
      ∀ member ∈ metaMembers, member.1 ∉ proxyOwnedMetaKeys
  | _ => True

theorem scrubAt_eq_self {value : Value} {own : Bool} (unowned : value.Everywhere UnownedMeta)
    (clean : own = true → ∀ members, value = .object members →
      ∀ member ∈ members, member.1 ∉ proxyOwnedMetaKeys) :
    scrubAt own value = value := by
  induction value using Json.inductionOn generalizing own with
  | null | bool _ | number _ | string _ => rfl
  | array items ih =>
    have every := (Json.everywhere_array.mp unowned).2
    have same : items.map (scrubAt false) = items.map id := by
      apply List.map_congr_left
      intro item member
      exact ih item member (every item member) nofun
    rw [scrubAt, scrubItems_eq_map, same, List.map_id]
  | object members ih =>
    obtain ⟨ownMeta, every⟩ := Json.everywhere_object.mp unowned
    have kept : members.filter (fun member => keepsMember own member.1) = members := by
      apply List.filter_eq_self.mpr
      intro member held
      cases own with
      | false => rfl
      | true => simpa [keepsMember] using clean rfl members rfl member held
    have same : (members.map fun member =>
        (member.1, scrubAt (member.1 = "_meta") member.2)) = members.map id := by
      apply List.map_congr_left
      rintro ⟨key, value⟩ held
      have unchanged : scrubAt (key = "_meta") value = value := by
        apply ih (key, value) held (every (key, value) held)
        intro isMeta metaMembers object
        have here : key = "_meta" := by simpa using isMeta
        rw [here, show value = .object metaMembers from object] at held
        exact ownMeta metaMembers held
      simp [unchanged]
    rw [scrubAt, scrubMembers_eq_map, kept, same, List.map_id]

/-! ## Unwrapping what was wrapped -/

/-- An object that looks like a wrapper: besides `_meta` it has one member, under one of
the wrapper keys. -/
def LooksWrapped (members : List (String × Value)) : Prop :=
  ∃ key value, Assoc.erase "_meta" members = [(key, value)] ∧
    (key = responseWrapValueKey ∨ key = responseWrapInnerErrorKey)

theorem unwrapPayload_plain {members : List (String × Value)} (plain : ¬ LooksWrapped members) :
    unwrapPayload (Assoc.erase "_meta" members) =
      .object (.object (Assoc.erase "_meta" members)) := by
  cases payload : Assoc.erase "_meta" members with
  | nil => rfl
  | cons member rest =>
    cases rest with
    | cons next rest => rfl
    | nil =>
      obtain ⟨key, value⟩ := member
      have notValue : key ≠ responseWrapValueKey := by
        intro same
        exact plain ⟨key, value, payload, .inl same⟩
      have notError : key ≠ responseWrapInnerErrorKey := by
        intro same
        exact plain ⟨key, value, payload, .inr same⟩
      simp [unwrapPayload, notValue, notError]

theorem scrubMembers_wrapper {key : String} (value : Value) (other : key ≠ "_meta") :
    scrubMembers false [(key, value)] = [(key, scrubAt false value)] := by
  simp [scrubMembers, keepsMember, other]

theorem unwrapVerifiedResult_resultWith (members metaMembers : List (String × Value))
    (envelope : Value) :
    unwrapVerifiedResult (resultWith members metaMembers envelope) =
      .ok (unwrapPayload (Assoc.erase "_meta" members)) := by
  rw [resultWith, unwrapVerifiedResult, Assoc.erase_insert_self]

theorem identified_of_responseEnvelope {proxy : Proxy} {verified : VerifiedRequest} {now : Int}
    {block envelope : Value} (built : proxy.responseEnvelope verified now block = .ok envelope) :
    ∀ binding, verified.authorization = .draft02Binding binding →
      verified.canonicalizationId.isSome := by
  intro binding authorization
  rw [responseEnvelope, authorization] at built
  obtain ⟨_, held, _⟩ := bind_eq_ok.mp built
  rw [Option.okOr_eq_ok.mp held]
  rfl

section

variable [Crates] {proxy : Proxy} {verified : VerifiedRequest} {now : Int} {id : Value}
  {innerResponse bytes : Bytes} {inner : MapValue}

theorem buildSignedResponse_eq_ok (read : Crates.fromSlice innerResponse = some inner)
    (built : proxy.buildSignedResponse innerResponse verified now id = .ok bytes) :
    ∃ metaMembers fields signature, outcomeMeta inner.val = some metaMembers ∧
      proxy.EnvelopeFields verified now fields ∧
      (∃ preimage, responseSigningPreimage
          (emitted id inner.val metaMembers fields proxy.unsignedBlock) = .ok preimage ∧
        proxy.signer preimage = some signature) ∧
      Crates.toVec (emitted id inner.val metaMembers fields (proxy.signedBlock signature)) =
        some bytes := by
  have identified : ∀ binding, verified.authorization = .draft02Binding binding →
      verified.canonicalizationId.isSome := by
    obtain ⟨_, _, built⟩ := bind_eq_ok.mp built
    obtain ⟨_, enveloped, _⟩ := bind_eq_ok.mp built
    exact identified_of_responseEnvelope (mapError_eq_ok.mp enveloped)
  obtain ⟨fields, described⟩ := exists_envelopeFields identified proxy now
  rw [buildSignedResponse_eq described read] at built
  cases indexes : outcomeMeta inner.val with
  | none =>
    rw [indexes] at built
    cases built
  | some metaMembers =>
    rw [indexes, Option.elim_some] at built
    simp only [signEmitted, bind_eq_ok, mapError_eq_ok, Option.okOr_eq_ok] at built
    obtain ⟨preimage, preimaged, signature, signed, written⟩ := built
    exact ⟨metaMembers, fields, signature, rfl, described, ⟨preimage, preimaged, signed⟩, written⟩

/-- Unwrapping inverts wrapping, up to the outcome's own `_meta`.  If the payload has no
proxy-owned key in any `_meta`, the emitted result unwraps to an object result without
its `_meta` unless that looks like a wrapper, to any other result as it was, and to the
whole message where there was no result. -/
theorem unwrapVerifiedResult_buildSignedResponse
    (read : Crates.fromSlice innerResponse = some inner)
    (unowned : ((inner.val.get "result").getD inner.val).Everywhere UnownedMeta)
    (built : proxy.buildSignedResponse innerResponse verified now id = .ok bytes) :
    ∃ response result, Crates.toVec response = some bytes ∧ response.get "result" = some result ∧
      (∀ members, inner.val.get "result" = some (.object members) → ¬ LooksWrapped members →
        unwrapVerifiedResult result =
          .ok (.object (.object (Assoc.erase "_meta" members)))) ∧
      (∀ value, inner.val.get "result" = some value → value.asObject = none →
        unwrapVerifiedResult result = .ok (.scalar value)) ∧
      (inner.val.get "result" = none →
        unwrapVerifiedResult result = .ok (.innerError inner.val)) := by
  rcases buildSignedResponse_eq_ok read built with
    ⟨metaMembers, fields, signature, _, _, _, written⟩
  refine ⟨_, _, written, get_responseWith _ _, ?_⟩
  rw [unwrapVerifiedResult_resultWith]
  have unscrubbed := @scrubAt_eq_self _ false unowned nofun
  refine ⟨?_, ?_, ?_⟩
  · intro members found plain
    rw [found, Option.getD_some, scrubAt, Json.object.injEq] at unscrubbed
    rw [outcomeMembers, found]
    simp only [unscrubbed]
    rw [unwrapPayload_plain plain]
  · intro value found scalar
    rw [found, Option.getD_some] at unscrubbed
    have wrapped : outcomeMembers inner.val = [(responseWrapValueKey, value)] := by
      rw [outcomeMembers, found]
      cases value <;> first | rfl | cases scalar
    rw [wrapped, scrubMembers_wrapper _ (by decide), unscrubbed]
    rfl
  · intro found
    rw [found, Option.getD_none] at unscrubbed
    have wrapped : outcomeMembers inner.val = [(responseWrapInnerErrorKey, inner.val)] := by
      rw [outcomeMembers, found]
    rw [wrapped, scrubMembers_wrapper _ (by decide), unscrubbed]
    rfl

end

/-- What the client takes out of the proxy's answer to a reply. -/
def roundTrip (reply : Bytes) : Option UnwrappedResult :=
  letI := exchangeCrates
  do
    let bytes ← ((replyingProxy reply).buildSignedResponse reply vectorVerified 1779998460
      (.string "req-1")).toOption
    let response ← Crates.fromSlice bytes
    let result ← response.val.get "result"
    (unwrapVerifiedResult result).toOption

/-- An object result comes back without its `_meta`, and one with `value` as its only
member comes back as a scalar. -/
theorem roundTrip_changes_objects :
    roundTrip (textBytes "\x7b\"result\":\x7b\"_meta\":\x7b\"a\":\"b\"\x7d,\"x\":\"y\"\x7d\x7d") =
        some (.object (.object [("x", .string "y")])) ∧
      roundTrip (textBytes "\x7b\"result\":\x7b\"value\":\"y\"\x7d\x7d") =
        some (.scalar (.string "y")) := by
  decide +kernel

/-- The plain reply comes back as the object it was. -/
theorem unwrapVerifiedResult_plainReply :
    letI := exchangeCrates
    ∃ bytes response result,
      (replyingProxy plainReply).buildSignedResponse plainReply vectorVerified 1779998460
        (.string "req-1") = .ok bytes ∧
      Crates.toVec response = some bytes ∧ response.get "result" = some result ∧
      unwrapVerifiedResult result = .ok (.object (.object [("content", .string "hello")])) := by
  let crates := exchangeCrates
  have built : ((replyingProxy plainReply).buildSignedResponse plainReply vectorVerified
      1779998460 (.string "req-1")).toOption.isSome = true := by
    decide +kernel
  cases made : (replyingProxy plainReply).buildSignedResponse plainReply vectorVerified 1779998460
      (.string "req-1") with
  | error stop =>
    rw [made] at built
    cases built
  | ok bytes =>
    have unowned : ((plainMessage.val.get "result").getD plainMessage.val).Everywhere
        UnownedMeta := by
      refine Json.everywhere_object.mpr ⟨?_, ?_⟩
      · intro metaMembers held
        simp at held
      · simp [Json.Everywhere, UnownedMeta]
    rcases unwrapVerifiedResult_buildSignedResponse fromSlice_plainReply unowned made with
      ⟨response, result, written, found, object, _⟩
    refine ⟨bytes, response, result, rfl, written, found, object _ rfl ?_⟩
    rintro ⟨key, value, payload, wrapper⟩
    cases payload
    exact absurd wrapper (by decide)

end Mcps.Proxy
