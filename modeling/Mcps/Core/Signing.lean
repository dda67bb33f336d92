import Mcps.Core.CanonicalRoundTrip

/-!
# Signing preimages

What a signature covers: the canonical bytes of the whole JSON-RPC object without
the signature value itself and without the trace-context keys of the container's own
`_meta`.  The code publishes those exclusions as a list of paths; the preimage is the
canonical form of the object with exactly these paths deleted, so two objects share a
preimage only if they agree everywhere else.
-/

namespace Mcps

open List Json

/-- Where an envelope lives in a JSON-RPC object. -/
inductive EnvelopeLocation where
  | request
  | response
  deriving DecidableEq, Repr

namespace EnvelopeLocation

def containerKey : EnvelopeLocation → String
  | .request => "params"
  | .response => "result"

def metaKey : EnvelopeLocation → String
  | .request => requestMetaKey
  | .response => responseMetaKey

/-- The path of the `_meta` object an envelope is carried in. -/
def metaPath (location : EnvelopeLocation) : List String := [location.containerKey, "_meta"]

/-- The path of an envelope's signature block. -/
def signaturePath (location : EnvelopeLocation) : List String :=
  [location.containerKey, "_meta", location.metaKey, "signature"]

end EnvelopeLocation

/-- Remove `signature.value` from the envelope; a missing part of the way to it is
`missingEnvelope`. -/
def stripSignatureValue (object : Value) (location : EnvelopeLocation) :
    Except McpsError Value := do
  let container ← (object.get location.containerKey).okOr .missingEnvelope
  let metaValue ← (container.get "_meta").okOr .missingEnvelope
  let envelope ← (metaValue.get location.metaKey).okOr .missingEnvelope
  let signature ← (envelope.get "signature").okOr .missingEnvelope
  let _ ← signature.asObject.okOr McpsError.missingEnvelope
  return object.modifyAt location.signaturePath (Json.removeMember "value")

/-- Remove the trace-context keys from the container's own `_meta`. -/
def stripObservabilityMeta (object : Value) (location : EnvelopeLocation) : Value :=
  object.modifyAt location.metaPath fun metaValue =>
    observabilityMetaKeys.foldl (fun metaValue key => metaValue.removeMember key) metaValue

/-- The canonical bytes a signature is made over. -/
def signingPreimage (object : Value) (location : EnvelopeLocation) :
    Except McpsError Bytes := do
  let stripped ← stripSignatureValue object location
  canonicalizeJsonValue (stripObservabilityMeta stripped location)

def requestSigningPreimage (object : Value) : Except McpsError Bytes :=
  signingPreimage object .request

def responseSigningPreimage (object : Value) : Except McpsError Bytes :=
  signingPreimage object .response

/-- The paths the preimage leaves out. -/
def preimageExclusionPaths (location : EnvelopeLocation) : List (List String) :=
  [location.containerKey, "_meta", location.metaKey, "signature", "value"] ::
    observabilityMetaKeys.map fun key => [location.containerKey, "_meta", key]

/-- Delete every path of a list, in order. -/
def deletePaths (paths : List (List String)) (object : Value) : Value :=
  paths.foldl (fun object path => object.erasePath path) object

theorem stripObservabilityMeta_stripSignatureValue {object stripped : Value}
    {location : EnvelopeLocation} (strip : stripSignatureValue object location = .ok stripped) :
    stripObservabilityMeta stripped location =
      deletePaths (preimageExclusionPaths location) object := by
  simp only [stripSignatureValue, Except.bind_eq_ok, Except.pure_eq_ok, Except.ok.injEq] at strip
  obtain ⟨_, _, _, _, _, _, _, _, _, _, rfl⟩ := strip
  have value : erasePath [location.containerKey, "_meta", location.metaKey, "signature",
      "value"] = modifyAt (ν := Number) location.signaturePath (removeMember "value") :=
    erasePath_append_singleton location.signaturePath "value"
  have trace : ∀ key, erasePath [location.containerKey, "_meta", key] =
      modifyAt (ν := Number) location.metaPath (removeMember key) :=
    fun key => erasePath_append_singleton location.metaPath key
  simp only [deletePaths, preimageExclusionPaths, observabilityMetaKeys, map_cons, foldl_cons, trace, modifyAt_modifyAt]
  rfl

theorem sortedKeys_deletePaths {object : Value} (sorted : object.SortedKeys)
    (location : EnvelopeLocation) :
    (deletePaths (preimageExclusionPaths location) object).SortedKeys := by
  have erased : ∀ (path : List String) (key : String) {object : Value}, object.SortedKeys →
      (object.erasePath (path ++ [key])).SortedKeys := by
    intro path key object sorted
    rw [erasePath_append_singleton]
    exact sorted.modifyAt path fun value sorted => sorted.removeMember key
  exact erased location.metaPath _ <| erased location.metaPath _ <| erased location.metaPath _ <|
    erased location.signaturePath _ sorted

theorem signingPreimage_eq_ok {object : Value} {location : EnvelopeLocation} {preimage : Bytes}
    (signed : signingPreimage object location = .ok preimage) :
    canonicalizeJsonValue (deletePaths (preimageExclusionPaths location) object) =
      .ok preimage := by
  obtain ⟨_, strip, canonical⟩ := Except.bind_eq_ok.mp signed
  rw [← stripObservabilityMeta_stripSignatureValue strip]
  exact canonical

/-- The signature covers everything but the excluded paths: two objects that have a
preimage have the same one exactly when they are equal as JSON values once those paths
are deleted from both. -/
theorem signingPreimage_eq_iff (location : EnvelopeLocation) (x y : MapValue)
    {preimageX preimageY : Bytes}
    (signedX : signingPreimage x.val location = .ok preimageX)
    (signedY : signingPreimage y.val location = .ok preimageY) :
    preimageX = preimageY ↔
      deletePaths (preimageExclusionPaths location) x.val =
        deletePaths (preimageExclusionPaths location) y.val := by
  have canonicalX := signingPreimage_eq_ok signedX
  have canonicalY := signingPreimage_eq_ok signedY
  constructor
  · intro same
    let restX : MapValue := ⟨_, sortedKeys_deletePaths x.property location⟩
    let restY : MapValue := ⟨_, sortedKeys_deletePaths y.property location⟩
    have rests : restX = restY :=
      canonicalizeJsonValue_injective canonicalX (same ▸ canonicalY)
    exact congrArg Subtype.val rests
  · intro same
    rw [same, canonicalY] at canonicalX
    exact (Except.ok.inj canonicalX).symm

/-- A request that is signed and traced as given. -/
def tracedRequest (signature trace : String) : MapValue :=
  ⟨.object [("id", .string "req-1"), ("params", .object [("_meta", .object
      [(requestMetaKey, .object [("signature", .object [("alg", .string sigAlgEd25519),
        ("value", .string signature)])]), ("traceparent", .string trace)])])], by
    simp [Assoc.Ordered, requestMetaKey]
    decide⟩

/-- The bytes both signatures of a traced request are made over. -/
def tracedPreimage : Bytes :=
  textBytes ("\x7b\"id\":\"req-1\",\"params\":\x7b\"_meta\":\x7b" ++
    "\"se.syncom/mcps.request\":\x7b\"signature\":\x7b\"alg\":\"Ed25519\"\x7d\x7d\x7d\x7d\x7d")

/-- Two requests that differ in the signature and in the trace only share a preimage. -/
theorem signingPreimage_tracedRequest :
    ∃ preimage, signingPreimage (tracedRequest "c2ln" "00-a").val .request = .ok preimage ∧
      signingPreimage (tracedRequest "b3RoZXI" "00-b").val .request = .ok preimage ∧
      (preimage = preimage ↔
        deletePaths (preimageExclusionPaths .request) (tracedRequest "c2ln" "00-a").val =
          deletePaths (preimageExclusionPaths .request) (tracedRequest "b3RoZXI" "00-b").val) := by
  have first : signingPreimage (tracedRequest "c2ln" "00-a").val .request =
      .ok tracedPreimage := by
    decide +kernel
  have second : signingPreimage (tracedRequest "b3RoZXI" "00-b").val .request =
      .ok tracedPreimage := by
    decide +kernel
  exact ⟨_, first, second, signingPreimage_eq_iff .request _ _ first second⟩

end Mcps
