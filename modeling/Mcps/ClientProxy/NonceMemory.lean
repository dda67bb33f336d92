import Mcps.ClientProxy.Calls

/-!
# What a client proxy remembers of its nonces

The correlation store keeps a nonce until a sweep finds its window closed, and no call of
the proxy sweeps.  So the proxy holds the nonce of every request it has sent, unless a
later request took it over, and a window that closes frees nothing.
-/

namespace Mcps.ClientProxy

open ClientCore List

/-- The call's deadline has not passed. -/
def Call.isOpen (now : Int) (call : Call) : Bool := now ≤ call.params.deadlineUnix

section

variable [Crates]

/-- The call's request can be signed: the route is there, and its binding and envelope can be
built. -/
def Call.signs (call : Call) : Bool :=
  (call.proxy.sign call.routeId call.plainRequest call.params).isOk

variable {correlation : CorrelationStore} {call : Call} {calls : List Call}

/-- A call leaves the nonces as they are, or signs its request and enters its own. -/
theorem nonceWindow_step (correlation : CorrelationStore) (call : Call) :
    (machine.step correlation call).2.nonceWindow = correlation.nonceWindow ∨
      call.signs = true ∧ (machine.step correlation call).2.nonceWindow =
        (call.params.nonce, call.params.deadlineUnix) ::
          Assoc.erase call.params.nonce correlation.nonceWindow := by
  rcases call.proxy.handle_cases correlation call.routeId call.plainRequest call.params with
    ⟨_, refused⟩ | ⟨_, signs, _, kept, _⟩
  · exact .inl (by simp [machine, refused])
  · obtain ⟨_, _, nonce, deadline, _⟩ := sign_eq_ok signs
    refine .inr ⟨by rw [Call.signs, signs]; rfl, ?_⟩
    simp [machine, kept, CorrelationStore.entered, nonce, deadline]

theorem nonceWindow_step_of_new (signs : call.signs = true) (empty : correlation.pending = [])
    (new : ∀ entry ∈ correlation.nonceWindow, entry.1 ≠ call.params.nonce) :
    (machine.step correlation call).2.nonceWindow =
      (call.params.nonce, call.params.deadlineUnix) :: correlation.nonceWindow := by
  rcases call.proxy.handle_cases correlation call.routeId call.plainRequest call.params with
    ⟨_, refused⟩ | ⟨_, signed, _, kept, _⟩
  · cases signed : call.proxy.sign call.routeId call.plainRequest call.params with
    | error error =>
      rw [Call.signs, signed] at signs
      cases signs
    | ok exchange =>
      -- nothing is outstanding and the nonce is new, so the request is registered and sent
      have unused : Assoc.find? exchange.pending.nonce correlation.nonceWindow = none := by
        rw [(sign_eq_ok signed).2.2.1]
        exact Assoc.find?_eq_none_iff.mpr new
      have registers : correlation.register exchange.pending call.params.nowUnix =
          (.ok (), correlation.entered exchange.pending) := by
        simp [CorrelationStore.register, CorrelationStore.entered, empty, unused]
      have sent := congrArg Handled.sent refused
      simp only [handle, signed, registers] at sent
      split at sent
      next => cases sent
      next =>
        split at sent
        next => cases sent
        next => cases sent
  · obtain ⟨_, _, nonce, deadline, _⟩ := sign_eq_ok signed
    simp [machine, kept, CorrelationStore.entered, nonce, deadline,
      Assoc.erase_of_find?_none (Assoc.find?_eq_none_iff.mpr new)]

theorem pending_after (calls : List Call) : (machine.after .new calls).pending = [] := by
  induction calls using reverseRecOn with
  | nil => rfl
  | append_singleton calls call ih =>
    rw [Machine.after_append]
    exact (pending_handle ..).trans ih

/-- Each nonce is that of a call that signs. -/
theorem length_nonceWindow_le (calls : List Call) :
    (machine.after .new calls).nonceWindow.length ≤ calls.countP Call.signs := by
  induction calls using reverseRecOn with
  | nil => exact Nat.le_refl 0
  | append_singleton calls call ih =>
    rw [Machine.after_append, countP_append]
    change (machine.step (machine.after .new calls) call).2.nonceWindow.length ≤ _
    rcases nonceWindow_step (machine.after .new calls) call with kept | ⟨signs, entered⟩
    · rw [kept]
      exact ih.trans (Nat.le_add_right _ _)
    · have fewer : (Assoc.erase call.params.nonce (machine.after .new calls).nonceWindow).length ≤
          (machine.after .new calls).nonceWindow.length := length_filter_le _ _
      rw [entered, length_cons, countP_singleton, if_pos signs]
      omega

/-- Calls that sign under different nonces leave them all. -/
theorem nonces_after (distinct : (calls.map fun call => call.params.nonce).Nodup)
    (signs : ∀ call ∈ calls, call.signs = true) :
    (machine.after .new calls).nonceWindow.map Prod.fst =
      (calls.map fun call => call.params.nonce).reverse := by
  induction calls using reverseRecOn with
  | nil => rfl
  | append_singleton calls call ih =>
    obtain ⟨signsEarlier, signsLast⟩ := forall_mem_append.mp signs
    rw [map_append, nodup_append] at distinct
    have earlier := ih distinct.1 signsEarlier
    have new : ∀ entry ∈ (machine.after .new calls).nonceWindow,
        entry.1 ≠ call.params.nonce := by
      intro entry member
      have held := mem_map_of_mem (f := Prod.fst) member
      rw [earlier, mem_reverse] at held
      exact distinct.2.2 _ held _ (by simp)
    rw [Machine.after_append]
    change (machine.step (machine.after .new calls) call).2.nonceWindow.map Prod.fst = _
    rw [nonceWindow_step_of_new (signsLast call (by simp)) (pending_after calls) new, map_cons,
      earlier]
    simp

/-- The bound on the nonces after a call: not more are kept than calls so far have an open
window.  It holds if every call so far that could be signed has an open window, and where all
could, under different nonces, only then. -/
theorem nonces_le_openCalls (calls : List Call) (call : Call) :
    let run := calls ++ [call]
    let now := call.params.nowUnix
    let bounded := (machine.after .new run).nonceWindow.length ≤ run.countP (Call.isOpen now)
    ((∀ made ∈ run, made.signs = true → made.isOpen now = true) → bounded) ∧
      ((run.map fun made => made.params.nonce).Nodup → (∀ made ∈ run, made.signs = true) →
        bounded → ∀ made ∈ run, made.isOpen now = true) := by
  intro run now bounded
  constructor
  · intro current
    exact (length_nonceWindow_le run).trans (countP_mono_left current)
  · intro distinct signs few
    have all : (machine.after .new run).nonceWindow.length = run.length := by
      simpa using congrArg length (nonces_after distinct signs)
    exact countP_eq_length.mp (Nat.le_antisymm countP_le_length (all ▸ few))

end

/-! ## Two calls -/

def laterNonce : String := "bGF0ZXItbm9uY2UtMTIzNDU2Nzg5MA"

/-- The same tool is called again twenty minutes later. -/
def laterParams : CallParams where
  onBehalfOf := "did:example:user-1"
  nonce := laterNonce
  issuedAt := "2026-05-28T20:20:00Z"
  expiresAt := "2026-05-28T20:25:00Z"
  nowUnix := 1779999600
  deadlineUnix := 1779999900

/-- The request the later call is signed as, without its signature value. -/
def laterRequest : Value :=
  unsignedRequest (.string "req-1") "tools/call" (ClientCore.callParams [])
    { callInputs with
      nonce := laterNonce
      issuedAt := "2026-05-28T20:20:00Z"
      expiresAt := "2026-05-28T20:25:00Z" }

def laterSignature : String :=
  "mhrNmRBHpK0x80qSnxRhT8D2jNGqr86bW0FLN2ib3H53UKChoF4OgjO1FFDuGVOSXKKBgmvprMC-0ER_pwA9DA"

/-- The crates with the digests of both requests. -/
@[reducible] def twoCallCrates : Crates :=
  { callCrates with
    sha256 := fun message =>
      if message = bytesOf laterRequest then
        (b64urlDecodeText "hhIpWsWMuwJcZlYd3PtQJ1fe8bS8iBX-B-_VkdOxw-k").getD []
      else callCrates.sha256 message }

/-- The client that signs both requests; the remote end cannot be reached the second time. -/
def laterCall : Call where
  proxy := {
    registry := RouteRegistry.register ⟨[]⟩ toolsRoute
    signer := { agentSigner with
      signPreimage := fun preimage => .ok (referenceSignature
        (⟨vectorKey, bytesOf laterRequest, laterSignature⟩ :: callSignatures)
        ((b64urlDecodeText vectorKey).getD []) preimage) }
    signerPolicy := agentPolicy
    trustResolver := remoteResolver
    transport := fun _ => .error ⟨"connection refused"⟩ }
  routeId := "tools"
  plainRequest := plainCall
  params := laterParams

/-- A call is answered; fifteen minutes after its deadline the next one finds its nonce still
kept, and leaves two nonces for one open window. -/
theorem nonces_gt_openCalls_later :
    letI := twoCallCrates
    let run := [answeredCall, laterCall]
    (run.map fun call => call.params.nowUnix).Pairwise (· ≤ ·) ∧
      (machine.answers .new run).map (fun answered => answered.handled.outcome) =
        [.ok (plainSuccess (.object [successMember])),
          .error (.failedClosed .downgradeForbidden)] ∧
      (machine.after .new run).nonceWindow =
        [(laterNonce, 1779999900), ("Zm9vYmFyYmF6cXV4MTIzNDU2Nzg5MA", 1779998700)] ∧
      run.countP (Call.isOpen 1779999600) = 1 := by
  let crates := twoCallCrates
  decide +kernel

end Mcps.ClientProxy
