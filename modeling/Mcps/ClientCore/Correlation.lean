import Mcps.Core.Time
import Mcps.Lib.Result

/-!
# In-flight request correlation

What a client remembers of every request it has sent and not yet had answered: the
correlation store.  An entry is entered by `register`, and leaves the store when a
response is correlated with it, when the request is cancelled, or when a sweep finds its
deadline passed.  The nonces of a request stay in their own window until they are swept.
-/

namespace Mcps.ClientCore

open Assoc

/-- Everything retained for one outstanding request. -/
structure PendingRequest where
  correlationId : String
  requestHash : String
  nonce : String
  issuedAtUnix : Int
  deadlineUnix : Int
  routeId : String
  audience : String
  expectedServerSigners : List String
  version : String
  canonicalizationId : String
  authzDigest : String
  deriving DecidableEq, Repr

inductive CorrelationError where
  | duplicateCorrelationId
  | nonceReuse
  | uncorrelatable
  | expired
  deriving DecidableEq, Repr

/-- The wire reason of a correlation failure. -/
def CorrelationError.toMcpsError : CorrelationError → McpsError
  | .duplicateCorrelationId | .nonceReuse => .replayDetected
  | .uncorrelatable => .responseHashMismatch
  | .expired => .expiredRequest

/-- The outstanding requests by correlation id, and each nonce with the deadline it is
kept until. -/
structure CorrelationStore where
  pending : List (String × PendingRequest)
  nonceWindow : List (String × Int)
  deriving DecidableEq, Repr

namespace CorrelationStore

def new : CorrelationStore := ⟨[], []⟩

/-- The number of outstanding requests. -/
def outstanding (store : CorrelationStore) : Nat := store.pending.length

/-- Enter an outstanding request, unless its id is outstanding or its nonce is still in
the window of an earlier use. -/
def register (store : CorrelationStore) (request : PendingRequest) (nowUnix : Int) :
    Except CorrelationError Unit × CorrelationStore :=
  if (Assoc.find? request.correlationId store.pending).isSome then
    (.error .duplicateCorrelationId, store)
  else if (Assoc.find? request.nonce store.nonceWindow).any fun retained => retained > nowUnix then
    (.error .nonceReuse, store)
  else
    (.ok (), {
      pending := (request.correlationId, request) :: store.pending
      nonceWindow :=
        (request.nonce, request.deadlineUnix) :: Assoc.erase request.nonce store.nonceWindow })

/-- Correlate a response with an outstanding request, and forget the request. -/
def takeForResponse (store : CorrelationStore) (correlationId : String) (nowUnix : Int) :
    Except CorrelationError PendingRequest × CorrelationStore :=
  match Assoc.find? correlationId store.pending with
  | none => (.error .uncorrelatable, store)
  | some entry =>
    let rest := { store with pending := Assoc.erase correlationId store.pending }
    if nowUnix > entry.deadlineUnix then (.error .expired, rest) else (.ok entry, rest)

/-- Forget an outstanding request. -/
def cancel (store : CorrelationStore) (correlationId : String) :
    Option PendingRequest × CorrelationStore :=
  (Assoc.find? correlationId store.pending,
    { store with pending := Assoc.erase correlationId store.pending })

/-- Drop what is past its deadline; with the number of requests dropped. -/
def sweepExpired (store : CorrelationStore) (nowUnix : Int) : Nat × CorrelationStore :=
  let pending := store.pending.filter fun entry => entry.2.deadlineUnix ≥ nowUnix
  (store.pending.length - pending.length, {
    pending
    nonceWindow := store.nonceWindow.filter fun entry => entry.2 ≥ nowUnix })

/-! ## What a step does to the outstanding requests -/

/-- The store with a request outstanding and its nonce in the window. -/
def entered (store : CorrelationStore) (request : PendingRequest) : CorrelationStore where
  pending := (request.correlationId, request) :: store.pending
  nonceWindow :=
    (request.nonce, request.deadlineUnix) :: Assoc.erase request.nonce store.nonceWindow

/-- A request is refused and changes nothing, or its id is not outstanding, no window of its
nonce is open, and it is entered. -/
theorem register_cases (store : CorrelationStore) (request : PendingRequest) (nowUnix : Int) :
    (∃ error, store.register request nowUnix = (.error error, store)) ∨
      find? request.correlationId store.pending = none ∧
        (∀ retained, find? request.nonce store.nonceWindow = some retained →
          retained ≤ nowUnix) ∧
        store.register request nowUnix = (.ok (), store.entered request) := by
  unfold register
  split
  next => exact .inl ⟨_, rfl⟩
  next absent =>
    split
    next => exact .inl ⟨_, rfl⟩
    next closed =>
      refine .inr ⟨Option.not_isSome_iff_eq_none.mp absent, ?_, rfl⟩
      intro retained found
      simpa [found] using closed

theorem find?_register {store : CorrelationStore} {request : PendingRequest} {nowUnix : Int}
    (registered : (store.register request nowUnix).1 = .ok ()) :
    find? request.correlationId store.pending = none ∧
      (store.register request nowUnix).2.pending =
        (request.correlationId, request) :: store.pending := by
  rcases store.register_cases request nowUnix with ⟨_, refused⟩ | ⟨absent, _, entered⟩
  · rw [refused] at registered
    cases registered
  · rw [entered]
    exact ⟨absent, rfl⟩

/-- Whatever a correlation answers, nothing is outstanding under the id afterwards, and the
nonces stay. -/
theorem takeForResponse_snd (store : CorrelationStore) (correlationId : String)
    (nowUnix : Int) :
    (store.takeForResponse correlationId nowUnix).2 =
      { store with pending := erase correlationId store.pending } := by
  unfold takeForResponse
  cases found : find? correlationId store.pending with
  | none => rw [erase_of_find?_none found]
  | some entry =>
    dsimp only
    split <;> rfl

/-- A request that comes and goes leaves its nonce in the window. -/
theorem erase_entered {store : CorrelationStore} {request : PendingRequest}
    (absent : find? request.correlationId store.pending = none) :
    { store.entered request with
        pending := erase request.correlationId (store.entered request).pending } =
      { store with nonceWindow := (store.entered request).nonceWindow } := by
  simp [entered, erase_of_find?_none absent]

theorem takeForResponse_eq_ok {store : CorrelationStore} {correlationId : String}
    {nowUnix : Int} {entry : PendingRequest} :
    (store.takeForResponse correlationId nowUnix).1 = .ok entry ↔
      find? correlationId store.pending = some entry ∧ nowUnix ≤ entry.deadlineUnix := by
  unfold takeForResponse
  cases found : find? correlationId store.pending with
  | none => simp
  | some held =>
    dsimp only
    split
    next late =>
      constructor
      · intro impossible
        cases impossible
      · rintro ⟨⟨⟩, inTime⟩
        exact absurd inTime (not_le.mpr late)
    next inTime =>
      constructor
      · rintro ⟨⟩
        exact ⟨rfl, not_lt.mp inTime⟩
      · rintro ⟨⟨⟩, _⟩
        rfl

end CorrelationStore

end Mcps.ClientCore
