import Mcps.Lib.JsonPath
import Mcps.Proxy.ResponseSafety

/-!
# The proxy is the sole writer of MCP-S metadata

What the inner server receives, position by position: a proxy-owned key of a `_meta`, at
any depth and also in arrays, is there only if the proxy put it there, and everything else
is as in the request.  Removing and injecting are each described by what they leave at a
position, by induction along the path to it.
-/

namespace Mcps

open List Option Json Assoc

open Json (Step)

/-- The position is at or below a proxy-owned key of a `_meta`. -/
def ProxyOwned (path : List Step) : Prop :=
  ∃ name ∈ proxyOwnedMetaKeys, [.key "_meta", .key name] <:+: path

/-! ## Removing -/

/-- Following the path from a value that is, or is not, a `_meta` passes a proxy-owned key. -/
def crossesOwned (own : Bool) : List Step → Bool
  | [] => false
  | .key name :: path => !keepsMember own name || crossesOwned (name = "_meta") path
  | .index _ :: path => crossesOwned false path

/-- Whether the path leads to a `_meta`. -/
def endsInMeta (own : Bool) : List Step → Bool
  | [] => own
  | .key name :: path => endsInMeta (name = "_meta") path
  | .index _ :: path => endsInMeta false path

theorem proxyOwned_cons (step : Step) (path : List Step) :
    ProxyOwned (step :: path) ↔
      (step = .key "_meta" ∧ ∃ name ∈ proxyOwnedMetaKeys, [.key name] <+: path) ∨
        ProxyOwned path := by
  constructor
  · rintro ⟨name, owned, here⟩
    rcases infix_cons_iff.mp here with start | below
    · obtain ⟨same, start⟩ := cons_prefix_cons.mp start
      exact .inl ⟨same.symm, name, owned, start⟩
    · exact .inr ⟨name, owned, below⟩
  · rintro (⟨rfl, name, owned, start⟩ | ⟨name, owned, below⟩)
    · exact ⟨name, owned, (cons_prefix_cons.mpr ⟨rfl, start⟩).isInfix⟩
    · exact ⟨name, owned, infix_cons below⟩

variable (own : Bool)

theorem crossesOwned_iff (path : List Step) :
    crossesOwned own path = true ↔
      ProxyOwned (if own then .key "_meta" :: path else path) := by
  induction path generalizing own with
  | nil => cases own <;> simp [crossesOwned, ProxyOwned, infix_cons_iff]
  | cons step path ih =>
    cases step with
    | index place =>
      rw [crossesOwned, ih]
      cases own with
      | false | true => simp [proxyOwned_cons]
    | key name =>
      have below : crossesOwned (name = "_meta") path = true ↔
          ProxyOwned (.key name :: path) := by
        rw [ih]
        by_cases same : name = "_meta"
        · simp [same]
        · simp [same, proxyOwned_cons]
      rw [crossesOwned, Bool.or_eq_true, below]
      cases own with
      | false => simp [keepsMember]
      | true => simp [keepsMember, proxyOwned_cons (.key "_meta")]

theorem child_key_scrubAt (name : String) (value : Value) :
    (scrubAt own value).child (.key name) =
      if keepsMember own name then (value.child (.key name)).map (scrubAt (name = "_meta"))
      else none := by
  cases value with
  | object members =>
    split
    next kept => exact find?_scrubMembers kept members
    next removed =>
      show find? name (scrubMembers own members) = none
      rw [find?_eq_none_iff, scrubMembers_eq_map]
      simp only [List.mem_map, mem_filter]
      rintro _ ⟨_, ⟨_, kept⟩, rfl⟩ rfl
      exact removed kept
  | _ => simp [scrubAt, child, Json.get]

theorem child_index_scrubAt (own : Bool) (place : Nat) (value : Value) :
    (scrubAt own value).child (.index place) = (value.child (.index place)).map (scrubAt false) := by
  cases value with
  | array items => simp [child, scrubAt, scrubItems_eq_map]
  | _ => rfl

theorem lookup_scrubAt (path : List Step) (value : Value) :
    (scrubAt own value).lookup path =
      if crossesOwned own path then none
      else (value.lookup path).map (scrubAt (endsInMeta own path)) := by
  induction path generalizing own value with
  | nil => rfl
  | cons step path ih =>
    cases step with
    | index place =>
      rw [lookup_cons, child_index_scrubAt, lookup_cons, crossesOwned, endsInMeta]
      cases value.child (.index place) with
      | none => simp
      | some below => simpa using ih false below
    | key name =>
      rw [lookup_cons, child_key_scrubAt, lookup_cons, crossesOwned, endsInMeta]
      cases keepsMember own name with
      | false => simp
      | true =>
        cases value.child (.key name) with
        | none => simp
        | some below => simpa using ih _ below

theorem label_scrubAt (value : Value) : (scrubAt own value).label = value.label := by
  cases value with
  | array items => simp [scrubAt, label, scrubItems_eq_map]
  | _ => rfl

theorem lookup_scrubProxyOwnedMeta_owned {path : List Step} (owned : ProxyOwned path)
    (value : Value) : (scrubProxyOwnedMeta value).lookup path = none := by
  have crosses := (crossesOwned_iff false path).mpr owned
  rw [scrubProxyOwnedMeta, lookup_scrubAt, if_pos crosses]

theorem label_scrubProxyOwnedMeta {path : List Step} (other : ¬ ProxyOwned path) (value : Value) :
    ((scrubProxyOwnedMeta value).lookup path).map label =
      (value.lookup path).map label := by
  have crosses := mt (crossesOwned_iff false path).mp other
  rw [scrubProxyOwnedMeta, lookup_scrubAt, if_neg crosses, Option.map_map]
  congr 1
  funext held
  exact label_scrubAt _ held

/-! ## Injecting -/

variable {keys : List String} {change : Value → Value} {edited : Value}

theorem indexMut_found {key : String} {value held : Value}
    (indexed : indexMut (key :: keys) change value = .ok edited)
    (found : value.child (.key key) = some held) :
    ∃ members updated, value = .object members ∧ indexMut keys change held = .ok updated ∧
      edited = .object (insert codePointLt key updated members) := by
  obtain ⟨members, rfl, inside⟩ := get_eq_some found
  rw [indexMut_cons rfl, inside, getD_some] at indexed
  cases step : indexMut keys change held with
  | error panic =>
    rw [step] at indexed
    cases indexed
  | ok updated =>
    rw [step] at indexed
    cases indexed
    exact ⟨members, updated, rfl, rfl, rfl⟩

theorem lookup_indexMut {value held : Value} (indexed : indexMut keys change value = .ok edited)
    (found : value.lookup (keys.map .key) = some held) (below : List Step) :
    edited.lookup (keys.map .key ++ below) = (change held).lookup below := by
  induction keys generalizing value edited with
  | nil =>
    cases indexed
    cases found
    rfl
  | cons key keys ih =>
    obtain ⟨_, here, foundBelow⟩ := bind_eq_some_iff.mp found
    obtain ⟨_, _, rfl, indexedBelow, rfl⟩ := indexMut_found indexed here
    rw [map_cons, cons_append, lookup_cons, child_object_insert, if_pos rfl]
    exact ih indexedBelow foundBelow

theorem label_indexMut {value held : Value} (indexed : indexMut keys change value = .ok edited)
    (found : value.lookup (keys.map .key) = some held) {path : List Step}
    (elsewhere : ¬ keys.map .key <+: path) :
    (edited.lookup path).map label = (value.lookup path).map label := by
  induction keys generalizing value edited path with
  | nil => exact absurd nil_prefix elsewhere
  | cons key keys ih =>
    obtain ⟨_, here, foundBelow⟩ := bind_eq_some_iff.mp found
    obtain ⟨_, _, rfl, indexedBelow, rfl⟩ := indexMut_found indexed here
    cases path with
    | nil => rfl
    | cons step path =>
      rw [lookup_cons, lookup_cons, child_object_insert]
      by_cases same : step = .key key
      · subst same
        rw [if_pos rfl, here]
        apply ih indexedBelow foundBelow
        intro further
        exact elsewhere (cons_prefix_cons.mpr ⟨rfl, further⟩)
      · rw [if_neg same]

/-- The position of the context. -/
def verifiedPath : List Step := [.key "params", .key "_meta", .key verifiedMetaKey]

namespace Proxy

section

variable {context scrubbed forwarded : Value} {members : List (String × Value)}
  (indexed : indexMut ["params", "_meta"] (injectContext context) scrubbed = .ok forwarded)
  (found : scrubbed.lookup [.key "params", .key "_meta"] = some (.object members))

include indexed found

theorem lookup_injected (below : List Step) :
    forwarded.lookup (verifiedPath ++ below) = context.lookup below := by
  have reached := lookup_indexMut indexed found (.key verifiedMetaKey :: below)
  rw [injectContext, lookup_cons, child_object_insert] at reached
  exact reached

theorem label_injected {path : List Step} (elsewhere : ¬ verifiedPath <+: path) :
    (forwarded.lookup path).map label = (scrubbed.lookup path).map label := by
  by_cases inMeta : [Step.key "params", .key "_meta"] <+: path
  · obtain ⟨below, rfl⟩ := inMeta
    have reached := lookup_indexMut indexed found below
    refine (congrArg _ reached).trans ?_
    rw [lookup_append, found]
    cases below with
    | nil => rfl
    | cons step below =>
      have other : step ≠ .key verifiedMetaKey := by
        rintro rfl
        exact elsewhere ⟨below, rfl⟩
      rw [injectContext, lookup_cons, child_object_insert, if_neg other]
      rfl
  · exact label_indexMut indexed found inMeta

end

theorem buildVerifiedContext_noMeta {proxy : Proxy} {verified : VerifiedRequest} {now : Int}
    {context : Value} (built : proxy.buildVerifiedContext verified now = .ok context) :
    context.Everywhere (·.get "_meta" = none) := by
  unfold buildVerifiedContext at built
  cases authorization : verified.authorization with
  | draft01Hash authorizationHash =>
    rw [authorization] at built
    cases built
    simp [Json.Everywhere, Json.EverywhereMembers, Json.get, Assoc.find?]
  | draft02Binding binding =>
    rw [authorization] at built
    obtain ⟨_, _, built⟩ := Except.bind_eq_ok.mp built
    cases built
    cases binding <;>
      simp [Json.Everywhere, Json.EverywhereMembers, Json.get, Assoc.find?, bindingValue]

/-- What the inner server is sent for a request: of the proxy-owned keys it holds only the
context, and every other position is as in the request. -/
structure SoleWriter (request forwarded context : Value) : Prop where
  owned : ∀ path name, name ∈ proxyOwnedMetaKeys →
    forwarded.lookup (path ++ [.key "_meta", .key name]) =
      if path = [.key "params"] ∧ name = verifiedMetaKey then some context else none
  others : ∀ path, ¬ ProxyOwned path →
    (forwarded.lookup path).map Json.label = (request.lookup path).map Json.label

theorem proxyOwned_verifiedPath {path : List Step} (below : verifiedPath <+: path) :
    ProxyOwned path :=
  ⟨verifiedMetaKey, by simp [proxyOwnedMetaKeys],
    (List.IsInfix.trans ⟨[.key "params"], [], rfl⟩ below.isInfix)⟩

theorem verifiedPath_begins {path : List Step} {name : String}
    (below : verifiedPath <+: path ++ [.key "_meta", .key name]) :
    (path = [.key "params"] ∧ name = verifiedMetaKey) ∨ verifiedPath <+: path := by
  rw [append_cons] at below
  rcases prefix_concat_iff.mp below with whole | below
  · have front := congrArg dropLast whole
    have last := congrArg getLast? whole
    rw [dropLast_concat] at front
    rw [getLast?_concat] at last
    have inside := congrArg dropLast front
    rw [dropLast_concat] at inside
    exact .inl ⟨inside.symm, (Step.key.inj (some.inj last)).symm⟩
  · rcases prefix_concat_iff.mp below with whole | below
    · have last := congrArg getLast? whole
      rw [getLast?_concat] at last
      exact absurd last (by decide)
    · exact .inr below

theorem lookup_noMeta {value : Value} (noMeta : value.Everywhere (·.get "_meta" = none))
    (path : List Step) (name : String) :
    value.lookup (path ++ [.key "_meta", .key name]) = none := by
  rw [lookup_append]
  cases found : value.lookup path with
  | none => rfl
  | some held =>
    have absent : held.child (.key "_meta") = none := (noMeta.lookup found).root
    rw [bind_some, lookup_cons, absent, bind_none]

theorem soleWriter_of_indexMut {context request forwarded : Value}
    {members : List (String × Value)}
    (indexed : indexMut ["params", "_meta"] (injectContext context)
      (scrubProxyOwnedMeta request) = .ok forwarded)
    (held : request.lookup [.key "params", .key "_meta"] = some (.object members))
    (noMeta : context.Everywhere (·.get "_meta" = none)) :
    SoleWriter request forwarded context := by
  have found : (scrubProxyOwnedMeta request).lookup [.key "params", .key "_meta"] =
      some (.object (scrubMembers true members)) := by
    rw [scrubProxyOwnedMeta, lookup_scrubAt, held]
    rfl
  constructor
  · intro path name owned
    by_cases here : path = [.key "params"] ∧ name = verifiedMetaKey
    · obtain ⟨rfl, rfl⟩ := here
      exact lookup_injected indexed found []
    · rw [if_neg here]
      by_cases below : verifiedPath <+: path ++ [.key "_meta", .key name]
      · obtain ⟨inside, rfl⟩ := (verifiedPath_begins below).resolve_left here
        rw [append_assoc, lookup_injected indexed found]
        exact lookup_noMeta noMeta inside name
      · have removed : ProxyOwned (path ++ [.key "_meta", .key name]) :=
          ⟨name, owned, infix_append_right⟩
        have same := label_injected indexed found below
        rw [lookup_scrubProxyOwnedMeta_owned removed] at same
        exact map_eq_none_iff.mp same
  · intro path other
    rw [label_injected indexed found (mt proxyOwned_verifiedPath other),
      label_scrubProxyOwnedMeta other]

section

variable [Crates]

variable {requestBytes forwardedBytes : Bytes} {verified : VerifiedRequest}

theorem buildForwardedRequest_eq_ok {proxy : Proxy} {now : Int} :
    proxy.buildForwardedRequest requestBytes verified now = .ok forwardedBytes ↔
      ∃ (request : MapValue) (context forwarded : Value),
        Crates.fromSlice requestBytes = some request ∧
          proxy.buildVerifiedContext verified now = .ok context ∧
          indexMut ["params", "_meta"] (injectContext context)
            (scrubProxyOwnedMeta request.val) = .ok forwarded ∧
          Crates.toVec forwarded = some forwardedBytes := by
  simp only [buildForwardedRequest, Except.bind_eq_ok, okOr_eq_ok, Except.mapError_eq_ok]
  constructor
  · rintro ⟨request, read, context, built, forwarded, indexed, written⟩
    exact ⟨request, context, forwarded, read, built, indexed, written⟩
  · rintro ⟨request, context, forwarded, read, built, indexed, written⟩
    exact ⟨request, read, context, built, forwarded, indexed, written⟩

theorem Verified.held (known : Verified requestBytes verified) :
    ∃ (request : MapValue) (members : List (String × Value)),
      Crates.fromSlice requestBytes = some request ∧
        request.val.lookup [.key "params", .key "_meta"] = some (.object members) := by
  obtain ⟨request, _, read, located, _⟩ := known.request
  obtain ⟨_, found, inMeta⟩ := bind_eq_some_iff.mp (okOr_eq_ok.mp located)
  obtain ⟨_, inRequest, inParams⟩ := bind_eq_some_iff.mp found
  obtain ⟨members, rfl, _⟩ := get_eq_some inMeta
  refine ⟨request, members, read, ?_⟩
  simp [Json.lookup, child, inRequest, inParams]

theorem mem_dispatched_dispatchAndSign {proxy : Proxy} {now : Int} {idValue : Value}
    (sent : forwardedBytes ∈
      (proxy.dispatchAndSign requestBytes verified now idValue).2.filterMap Effect.request?) :
    proxy.buildForwardedRequest requestBytes verified now = .ok forwardedBytes := by
  unfold dispatchAndSign at sent
  cases built : proxy.buildForwardedRequest requestBytes verified now with
  | error stop => simp [built] at sent
  | ok forwarded =>
    cases signs : proxy.buildSignedResponse (proxy.inner forwarded) verified now idValue with
    | error _ | ok _ => simp_all [filterMap_log, Effect.request?]

/-- Whatever the handler sends to the inner server holds, of the proxy-owned keys, only the
context of the request that was admitted, and is otherwise that request. -/
theorem soleWriter_of_dispatched {σ : Type} [ReplayCache σ] (proxy : Proxy) (replay : RefCell σ)
    (requestBytes : Bytes) (now : Int) (transportIdentity : Option TransportIdentity)
    (header : Option String)
    (sent : forwardedBytes ∈ (proxy.handleWithTransport replay requestBytes now transportIdentity
      header).dispatched) :
    ∃ (verified : VerifiedRequest) (request : MapValue) (forwarded context : Value),
      proxy.Admits replay requestBytes now transportIdentity header verified ∧
        Crates.fromSlice requestBytes = some request ∧
        Crates.toVec forwarded = some forwardedBytes ∧
        proxy.buildVerifiedContext verified now = .ok context ∧
        SoleWriter request.val forwarded context := by
  unfold Handled.dispatched at sent
  by_cases admitted :
      ∃ verified, proxy.Admits replay requestBytes now transportIdentity header verified
  · obtain ⟨verified, admits⟩ := admitted
    rw [(handleWithTransport_admits proxy replay requestBytes now transportIdentity header
      admits).1] at sent
    obtain ⟨request, _, read, held⟩ := admits.known.held
    rcases buildForwardedRequest_eq_ok.mp (mem_dispatched_dispatchAndSign sent) with
      ⟨_, context, forwarded, again, built, indexed, written⟩
    cases read.symm.trans again
    exact ⟨verified, request, forwarded, context, admits, read, written, built,
      soleWriter_of_indexMut indexed held (buildVerifiedContext_noMeta built)⟩
  · rw [(handleWithTransport_refuses proxy replay requestBytes now transportIdentity header
      (not_exists.mp admitted)).1] at sent
    cases sent

end

/-- The conformance vector is forwarded once. -/
theorem soleWriter_of_dispatched_vector :
    letI := exchangeCrates
    let proxy := replyingProxy plainReply
    let handled := proxy.handleWithTransport freshReplay vectorBytes 1779998460 vectorChannel none
    handled.dispatched.length = 1 ∧ ∀ forwardedBytes ∈ handled.dispatched,
      ∃ (verified : VerifiedRequest) (request : MapValue) (forwarded context : Value),
        proxy.Admits freshReplay vectorBytes 1779998460 vectorChannel none verified ∧
          Crates.fromSlice vectorBytes = some request ∧
          Crates.toVec forwarded = some forwardedBytes ∧
          proxy.buildVerifiedContext verified 1779998460 = .ok context ∧
          SoleWriter request.val forwarded context := by
  let crates := exchangeCrates
  intro proxy handled
  have once : handled.dispatched.length = 1 := by decide +kernel
  exact ⟨once, fun forwardedBytes sent => soleWriter_of_dispatched proxy freshReplay vectorBytes
    1779998460 vectorChannel none sent⟩

section

variable [Crates]

/-- The proxy is the sole writer: whenever a request whose `params._meta` is an object is
forwarded, what the inner server is sent holds the context as its only proxy-owned key, and
is otherwise the request. -/
theorem soleWriter_of_buildForwardedRequest (proxy : Proxy) (requestBytes : Bytes)
    (verified : VerifiedRequest) (now : Int) (forwardedBytes : Bytes) (request : MapValue)
    (members : List (String × Value)) (read : Crates.fromSlice requestBytes = some request)
    (held : request.val.lookup [.key "params", .key "_meta"] = some (.object members))
    (forwards : proxy.buildForwardedRequest requestBytes verified now = .ok forwardedBytes) :
    ∃ (forwarded : MapValue) (context : Value),
      Crates.toVec forwarded.val = some forwardedBytes ∧
        proxy.buildVerifiedContext verified now = .ok context ∧
        SoleWriter request.val forwarded.val context := by
  rcases buildForwardedRequest_eq_ok.mp forwards with
    ⟨parsed, context, forwarded, again, built, indexed, written⟩
  cases read.symm.trans again
  have sorted : forwarded.SortedKeys :=
    sortedKeys_indexMut (sortedKeys_scrubAt request.property false)
      (sortedKeys_injectContext (sortedKeys_buildVerifiedContext built)) indexed
  exact ⟨⟨forwarded, sorted⟩, context, written, built,
    soleWriter_of_indexMut indexed held (buildVerifiedContext_noMeta built)⟩

end

/-- A request with forged keys in the `_meta` of an argument, inside an array, and in a
`_meta` of that `_meta`. -/
def forgedRequest : MapValue :=
  ⟨.object [("id", .string "req-1"), ("params", .object [
    ("_meta", .object [("progressToken", .string "token"), (requestMetaKey, .object [])]),
    ("arguments", .array [.object [("_meta", .object [
      ("_meta", .object [(verifiedMetaKey, .string "forged")]),
      (authorizationMetaKey, .null), ("traced", .bool true)])]])])], by decide +kernel⟩

/-- The forged keys are not forwarded. -/
theorem soleWriter_of_buildForwardedRequest_forged :
    letI := exchangeCrates
    let proxy := replyingProxy plainReply
    ∃ forwardedBytes,
      proxy.buildForwardedRequest (bytesOf forgedRequest.val) vectorVerified 1779998460 =
          .ok forwardedBytes ∧
        ∃ (forwarded : MapValue) (context : Value),
          Crates.toVec forwarded.val = some forwardedBytes ∧
            proxy.buildVerifiedContext vectorVerified 1779998460 = .ok context ∧
            SoleWriter forgedRequest.val forwarded.val context := by
  let crates := exchangeCrates
  intro proxy
  have read : Crates.fromSlice (bytesOf forgedRequest.val) = some forgedRequest := by
    decide +kernel
  have forwards : (proxy.buildForwardedRequest (bytesOf forgedRequest.val) vectorVerified
      1779998460).toOption.isSome = true := by decide +kernel
  rcases Option.isSome_iff_exists.mp forwards with ⟨forwardedBytes, built⟩
  have built := Except.toOption_eq_some.mp built
  exact ⟨forwardedBytes, built, soleWriter_of_buildForwardedRequest proxy _ vectorVerified
    1779998460 forwardedBytes forgedRequest _ read rfl built⟩

end Proxy

end Mcps
