import Mcps.Core.Pipeline
import Mcps.Lib.Program

/-!
# The shared replay cache

A replay cache over a store that several proxies share.  The store's one operation puts a
key if it is absent; the cache gives it one key for the triple of signer, audience and
nonce, and the expiry widened by the tolerated clock skew.  The operation runs in a monad
of the store's own: the in-memory store passes its state on, a remote store exchanges
requests with a server.
-/

namespace Mcps.Proxy

inductive ReplayStoreError where
  | unavailable (details : String)
  deriving DecidableEq, Repr

def ReplayStoreError.toReplayCacheError : ReplayStoreError → ReplayCacheError
  | .unavailable details => .unavailable details

/-- The remaining window is not positive. -/
def isStalePreStore (retainUntilUnix nowUnix : Int) : Bool :=
  saturatingSub retainUntilUnix nowUnix ≤ 0

/-- What every store answers before it is consulted about a stale request. -/
def staleError (retainUntilUnix nowUnix : Int) : ReplayStoreError :=
  .unavailable ("replay request already stale: retain_until (" ++ toString retainUntilUnix ++
    ") is at or before now (" ++ toString nowUnix ++
    ") — rejected pre-store (MCPS-08, fail closed) rather than recorded as Fresh")

/-- A shared store with its one atomic operation. -/
structure AtomicReplayStore (m : Type → Type) where
  insertIfAbsent : (key : String) → (expiresAtUnix nowUnix : Int) →
    m (Except ReplayStoreError ReplayDecision)

structure SharedReplayCache (m : Type → Type) where
  store : AtomicReplayStore m
  maxClockSkewSecs : Int

namespace SharedReplayCache

/-- The fields of a key, each with its length in bytes before it. -/
def keyPreimage (signer audience nonce : String) : String :=
  toString (textBytes signer).length ++ ":" ++ signer ++ "|" ++
    toString (textBytes audience).length ++ ":" ++ audience ++ "|" ++
    toString (textBytes nonce).length ++ ":" ++ nonce

variable [Crates]

def compositeKey (signer audience nonce : String) : String :=
  sha256HashId (textBytes (keyPreimage signer audience nonce))

def checkAndInsert {m : Type → Type} [Monad m] (cache : SharedReplayCache m)
    (signer audience nonce : String) (expiresAtUnix : Int) :
    m (Except ReplayCacheError ReplayDecision) := do
  let key := compositeKey signer audience nonce
  let retainUntil := saturatingAdd expiresAtUnix cache.maxClockSkewSecs
  let decision ← cache.store.insertIfAbsent key retainUntil 0
  return decision.mapError ReplayStoreError.toReplayCacheError

end SharedReplayCache

/-! ## Remote stores -/

/-- An error of the `redis` crate, with what it says about the connection. -/
structure RedisError where
  display : String
  isIoError : Bool
  isConnectionDropped : Bool
  isConnectionRefusal : Bool
  isUnrecoverableError : Bool
  deriving DecidableEq, Repr

/-- What a proxy with a remote store asks its surroundings for: the time it verifies
with, the time on the store's own clock, the lock of the Redis connection, the two Redis
commands, a new Redis connection, and a POST to the etcd gateway. -/
inductive RemoteRequest where
  | now
  | storeClock
  | lockConnection
  | redisSet (key : String) (ttlMs : Nat)
  | redisWait (quorum timeoutMs : Nat)
  | redisConnect
  | etcdPost (path : String) (body : Value)
  deriving DecidableEq

@[reducible] def RemoteRequest.Reply : RemoteRequest → Type
  | now | storeClock => Int
  | lockConnection => Except String Unit
  | redisSet _ _ => Except RedisError (Option String)
  | redisWait _ _ => Except RedisError Int
  | redisConnect => Except ReplayStoreError Unit
  | etcdPost _ _ => Except ReplayStoreError Value

def RemoteRequest.isRedisSet : RemoteRequest → Bool
  | redisSet _ _ => true
  | _ => false

def RemoteRequest.isRedisConnect : RemoteRequest → Bool
  | redisConnect => true
  | _ => false

abbrev Remote := Program RemoteRequest.Reply

abbrev RemoteExchange := Sigma RemoteRequest.Reply

end Mcps.Proxy
