import Mcps.Proxy.SharedMemory
import Mcps.Proxy.TrustCache

/-!
# Where keys are looked up

Two trust resolvers that hold their keys themselves.  The in-memory one keeps a key or a
revocation for a pair of a signer and a key id, under the composed text of the two.  The
authorized key set lists the keys of a fleet by key id, each bound to an audience, and its
resolver admits one audience: with any active key of the set, or with one shared key.
-/

namespace Mcps.Proxy

open List Except

/-! ## The in-memory resolver -/

inductive Binding where
  | active (key : VerificationKey)
  | revoked
  deriving DecidableEq

structure InMemoryTrustResolver where
  bindings : Assoc.SortedMap codePointLt Binding

namespace InMemoryTrustResolver

def new : InMemoryTrustResolver := ⟨.empty⟩

/-- The key of a pair: both fields, each after its length in bytes. -/
def composeKey (signer keyId : String) : String :=
  toString (textBytes signer).length ++ ":" ++ signer ++ "|" ++
    toString (textBytes keyId).length ++ ":" ++ keyId

def insert (resolver : InMemoryTrustResolver) (signer keyId : String) (key : VerificationKey) :
    InMemoryTrustResolver :=
  ⟨resolver.bindings.insert (composeKey signer keyId) (.active key)⟩

def revoke (resolver : InMemoryTrustResolver) (signer keyId : String) : InMemoryTrustResolver :=
  ⟨resolver.bindings.insert (composeKey signer keyId) .revoked⟩

def resolve (resolver : InMemoryTrustResolver) : TrustResolver := fun signer keyId =>
  match resolver.bindings.get? (composeKey signer keyId) with
  | some (.active key) => .ok key
  | some .revoked => .error .revoked
  | none => .error .notFound

variable {signer keyId signer' keyId' : String}

theorem pair_eq_of_composeKey (same : composeKey signer keyId = composeKey signer' keyId') :
    signer = signer' ∧ keyId = keyId' :=
  BoundedTrustCache.composeKey_injective same

/-- A change of the binding of a pair. -/
structure TrustUpdate where
  signer : String
  keyId : String
  binding : Binding

def update (resolver : InMemoryTrustResolver) (change : TrustUpdate) : InMemoryTrustResolver :=
  match change.binding with
  | .active key => resolver.insert change.signer change.keyId key
  | .revoked => resolver.revoke change.signer change.keyId

/-- What a pair resolves to under its binding. -/
def TrustUpdate.answer (change : TrustUpdate) : Except TrustResolverError VerificationKey :=
  match change.binding with
  | .active key => .ok key
  | .revoked => .error .revoked

theorem resolve_update (resolver : InMemoryTrustResolver) (change : TrustUpdate) :
    (resolver.update change).resolve signer keyId =
      if change.signer = signer ∧ change.keyId = keyId then change.answer
      else resolver.resolve signer keyId := by
  have written : resolver.update change =
      ⟨resolver.bindings.insert (composeKey change.signer change.keyId) change.binding⟩ := by
    unfold update
    cases change.binding <;> rfl
  rw [written]
  split
  next own =>
    rw [own.1, own.2, resolve, Assoc.SortedMap.get?_insert_self, TrustUpdate.answer]
    cases change.binding <;> rfl
  next other =>
    have different : composeKey signer keyId ≠ composeKey change.signer change.keyId :=
      fun same => other (pair_eq_of_composeKey same.symm)
    rw [resolve, Assoc.SortedMap.get?_insert_ne different, resolve]

/-- Whatever is inserted and revoked, a pair resolves by the last change to exactly that pair,
and is not found without one. -/
theorem resolve_updates (updates : List TrustUpdate) (signer keyId : String) :
    (updates.foldl update new).resolve signer keyId =
      ((updates.reverse.find? fun change => change.signer = signer ∧ change.keyId = keyId).map
        TrustUpdate.answer).getD (.error .notFound) := by
  induction updates using List.reverseRecOn with
  | nil => rfl
  | append_singleton updates change ih =>
    rw [List.foldl_append, List.foldl_cons, List.foldl_nil, resolve_update, ih]
    by_cases own : change.signer = signer ∧ change.keyId = keyId <;> simp [own]

end InMemoryTrustResolver

/-- Neither the preimage of a replay key nor the key of a trusted pair has two readings. -/
theorem compositeKeys_injective :
    (∀ signer audience nonce signer' audience' nonce' : String,
      SharedReplayCache.keyPreimage signer audience nonce =
        SharedReplayCache.keyPreimage signer' audience' nonce' →
      signer = signer' ∧ audience = audience' ∧ nonce = nonce') ∧
    (∀ signer keyId signer' keyId' : String,
      BoundedTrustCache.composeKey signer keyId = BoundedTrustCache.composeKey signer' keyId' →
      signer = signer' ∧ keyId = keyId') ∧
    ∀ signer keyId signer' keyId' : String,
      InMemoryTrustResolver.composeKey signer keyId =
        InMemoryTrustResolver.composeKey signer' keyId' →
      signer = signer' ∧ keyId = keyId' := by
  refine ⟨?_, ?_, ?_⟩
  · intro signer audience nonce signer' audience' nonce' same
    exact SharedReplayCache.keyPreimage_injective same
  · intro signer keyId signer' keyId' same
    exact BoundedTrustCache.composeKey_injective same
  · intro signer keyId signer' keyId' same
    exact InMemoryTrustResolver.pair_eq_of_composeKey same

/-! ## The authorized key set -/

inductive KeyStatus where
  | active
  | revoked
  | disabled
  deriving DecidableEq

structure AuthorizedKeyEntry where
  keyId : String
  publicKey : VerificationKey
  audience : String
  validFrom : Int
  validUntil : Option Int
  status : KeyStatus
  deriving DecidableEq

inductive KeySetError where
  | duplicateKeyId (keyId : String)
  | sharedKeyNotActive (keyId : String)
  | sharedModeMultipleActive (audience : String)
  deriving DecidableEq

/-- The entries of a fleet, each under its own key id. -/
structure AuthorizedKeySet where
  byKeyId : Assoc.SortedMap codePointLt AuthorizedKeyEntry
  keyed : ∀ held ∈ byKeyId.val, held.2.keyId = held.1

namespace AuthorizedKeySet

def empty : AuthorizedKeySet := ⟨.empty, nofun⟩

theorem keyed_insert (keySet : AuthorizedKeySet) (entry : AuthorizedKeyEntry) :
    ∀ held ∈ (keySet.byKeyId.insert entry.keyId entry).val, held.2.keyId = held.1 := by
  intro held member
  cases Assoc.mem_insert codePointLt member with
  | inl new =>
    rw [new]
  | inr old => exact keySet.keyed held old

def insertEntry (keySet : AuthorizedKeySet) (entry : AuthorizedKeyEntry) :
    Except KeySetError AuthorizedKeySet :=
  if (keySet.byKeyId.get? entry.keyId).isSome then .error (.duplicateKeyId entry.keyId)
  else .ok ⟨keySet.byKeyId.insert entry.keyId entry, keySet.keyed_insert entry⟩

/-- A set of entries whose key ids all differ. -/
def new (entries : List AuthorizedKeyEntry) : Except KeySetError AuthorizedKeySet :=
  entries.foldlM insertEntry empty

def lookup (keySet : AuthorizedKeySet) (audience keyId : String) : Option AuthorizedKeyEntry :=
  (keySet.byKeyId.get? keyId).filter fun entry => entry.audience = audience

/-- The entries in the order of their key ids. -/
def entries (keySet : AuthorizedKeySet) : List AuthorizedKeyEntry := keySet.byKeyId.val.map Prod.snd

def activeCountFor (keySet : AuthorizedKeySet) (audience : String) : Nat :=
  (keySet.entries.filter fun entry =>
    entry.audience = audience && entry.status = .active).length

end AuthorizedKeySet

inductive ResponseSigningIdentityMode where
  | perNodeKeyset
  | sharedRemoteSigner
  deriving DecidableEq

structure KeySetTrustResolver where
  keySet : AuthorizedKeySet
  audience : String
  mode : ResponseSigningIdentityMode
  sharedKeyId : Option String

namespace KeySetTrustResolver

def perNodeKeyset (keySet : AuthorizedKeySet) (audience : String) : KeySetTrustResolver :=
  ⟨keySet, audience, .perNodeKeyset, none⟩

def sharedRemoteSigner (keySet : AuthorizedKeySet) (audience sharedKeyId : String) :
    Except KeySetError KeySetTrustResolver := do
  let entry ← (keySet.lookup audience sharedKeyId).okOr (.sharedKeyNotActive sharedKeyId)
  if entry.status ≠ .active then throw (.sharedKeyNotActive sharedKeyId)
  if keySet.activeCountFor audience > 1 then throw (.sharedModeMultipleActive audience)
  return ⟨keySet, audience, .sharedRemoteSigner, some sharedKeyId⟩

/-- What the resolver answers when its clock shows `now`. -/
def resolve (resolver : KeySetTrustResolver) (now : Int) : TrustResolver := fun signer keyId =>
  if signer ≠ resolver.audience then .error .notFound
  else
    match resolver.keySet.lookup resolver.audience keyId with
    | none => .error .notFound
    | some entry =>
      if resolver.mode = .sharedRemoteSigner ∧ resolver.sharedKeyId ≠ some keyId then
        .error .notFound
      else if entry.status ≠ .active then .error .revoked
      else if now < entry.validFrom then .error .notFound
      else if entry.validUntil.any (now > ·) then .error .notFound
      else .ok entry.publicKey

/-- A resolver from the listed entries: for the key set of a fleet, or for one shared key. -/
def ofEntries (entries : List AuthorizedKeyEntry) (audience : String) (shared : Option String) :
    Except KeySetError KeySetTrustResolver := do
  let keySet ← AuthorizedKeySet.new entries
  match shared with
  | none => return perNodeKeyset keySet audience
  | some sharedKeyId => sharedRemoteSigner keySet audience sharedKeyId

end KeySetTrustResolver

/-! ## What a set holds -/

namespace AuthorizedKeySet

variable {keySet : AuthorizedKeySet} {keyId : String} {entry : AuthorizedKeyEntry}

theorem get?_eq_some :
    keySet.byKeyId.get? keyId = some entry ↔ entry ∈ keySet.entries ∧ entry.keyId = keyId := by
  constructor
  · intro found
    have member := Assoc.mem_of_find? found
    exact ⟨mem_map.mpr ⟨_, member, rfl⟩, keySet.keyed _ member⟩
  · rintro ⟨member, named⟩
    obtain ⟨held, inside, same⟩ := mem_map.mp member
    have key : held.1 = keyId := by rw [← keySet.keyed held inside, same, named]
    have pair : held = (keyId, entry) := Prod.ext key same
    exact Assoc.find?_of_mem (keySet.byKeyId.property.imp ne_of_irrefl) (pair ▸ inside)

theorem get?_eq_none :
    keySet.byKeyId.get? keyId = none ↔ keyId ∉ keySet.entries.map AuthorizedKeyEntry.keyId := by
  rw [Option.eq_none_iff_forall_ne_some]
  simp [get?_eq_some]

theorem lookup_eq_some {audience : String} :
    keySet.lookup audience keyId = some entry ↔
      entry ∈ keySet.entries ∧ entry.keyId = keyId ∧ entry.audience = audience := by
  simp only [lookup, Option.filter_eq_some_iff, get?_eq_some, decide_eq_true_eq, and_assoc]

theorem insertEntry_eq_ok {next : AuthorizedKeySet}
    (inserted : keySet.insertEntry entry = .ok next) :
    entry.keyId ∉ keySet.entries.map AuthorizedKeyEntry.keyId ∧
      next.entries.Perm (entry :: keySet.entries) := by
  obtain ⟨absent, inserted⟩ := guard_eq_ok.mp inserted
  have missing : keySet.byKeyId.get? entry.keyId = none := by simpa using absent
  cases inserted
  exact ⟨get?_eq_none.mp missing, (Assoc.insert_perm codePointLt entry missing).map Prod.snd⟩

theorem exists_insertEntry (absent : entry.keyId ∉ keySet.entries.map AuthorizedKeyEntry.keyId) :
    ∃ next, keySet.insertEntry entry = .ok next := by
  rw [← get?_eq_none] at absent
  exact ⟨_, guard_eq_ok.mpr ⟨by simp [absent], rfl⟩⟩

variable {listed : List AuthorizedKeyEntry}

theorem entries_foldlM {final : AuthorizedKeySet}
    (built : listed.foldlM insertEntry keySet = .ok final) :
    final.entries.Perm (listed ++ keySet.entries) := by
  induction listed generalizing keySet with
  | nil =>
    cases built
    exact .refl _
  | cons entry listed ih =>
    obtain ⟨_, inserted, built⟩ := bind_eq_ok.mp built
    have held := (ih built).trans ((insertEntry_eq_ok inserted).2.append_left listed)
    exact held.trans perm_middle

theorem nodup_keyIds (keySet : AuthorizedKeySet) :
    (keySet.entries.map AuthorizedKeyEntry.keyId).Nodup := by
  have named : keySet.entries.map AuthorizedKeyEntry.keyId = keySet.byKeyId.val.map Prod.fst := by
    rw [entries, map_map]
    exact map_congr_left keySet.keyed
  rw [named, List.Nodup, pairwise_map]
  exact keySet.byKeyId.property.imp ne_of_irrefl

theorem exists_foldlM (distinct : ((listed ++ keySet.entries).map AuthorizedKeyEntry.keyId).Nodup) :
    ∃ final, listed.foldlM insertEntry keySet = .ok final := by
  induction listed generalizing keySet with
  | nil => exact ⟨keySet, rfl⟩
  | cons entry listed ih =>
    have absent : entry.keyId ∉ keySet.entries.map AuthorizedKeyEntry.keyId := by
      intro member
      rw [cons_append, map_cons, map_append, nodup_cons] at distinct
      exact distinct.1 (mem_append_right _ member)
    obtain ⟨next, inserted⟩ := exists_insertEntry absent
    have moved : (listed ++ next.entries).Perm (entry :: listed ++ keySet.entries) :=
      ((insertEntry_eq_ok inserted).2.append_left listed).trans perm_middle
    obtain ⟨final, built⟩ := @ih next
      ((moved.map AuthorizedKeyEntry.keyId).nodup_iff.mpr distinct)
    exact ⟨final, bind_eq_ok.mpr ⟨next, inserted, built⟩⟩

theorem entries_new (built : new listed = .ok keySet) : keySet.entries.Perm listed := by
  simpa [entries, empty, Assoc.SortedMap.empty] using entries_foldlM built

theorem exists_new_iff :
    (∃ keySet, new listed = .ok keySet) ↔
      (listed.map AuthorizedKeyEntry.keyId).Nodup := by
  constructor
  · rintro ⟨keySet, built⟩
    exact ((entries_new built).map AuthorizedKeyEntry.keyId).nodup_iff.mp keySet.nodup_keyIds
  · intro distinct
    apply exists_foldlM
    simpa [entries, empty, Assoc.SortedMap.empty] using distinct

end AuthorizedKeySet

/-! ## Admission -/

/-- The entries with a key id are this one alone. -/
def SoleEntry (listed : List AuthorizedKeyEntry) (keyId : String) (entry : AuthorizedKeyEntry) :
    Prop :=
  listed.filter (fun other => other.keyId = keyId) = [entry]

variable {listed : List AuthorizedKeyEntry}

theorem soleEntry_iff {keyId : String} {entry : AuthorizedKeyEntry}
    (distinct : (listed.map AuthorizedKeyEntry.keyId).Nodup) :
    SoleEntry listed keyId entry ↔ entry ∈ listed ∧ entry.keyId = keyId := by
  unfold SoleEntry
  constructor
  · intro sole
    have member : entry ∈ listed.filter fun other => other.keyId = keyId := by simp [sole]
    simpa using member
  · rintro ⟨member, named⟩
    induction listed with
    | nil => cases member
    | cons head rest ih =>
      rw [map_cons, nodup_cons] at distinct
      cases mem_cons.mp member with
      | inl same =>
        have others : rest.filter (fun other => other.keyId = keyId) = [] := by
          apply filter_eq_nil_iff.mpr
          intro other inRest
          simp only [decide_eq_true_eq]
          intro clash
          apply distinct.1
          rw [← same, named, ← clash]
          exact mem_map_of_mem inRest
        rw [← same, filter_cons_of_pos (by simpa using named), others]
      | inr inRest =>
        have different : head.keyId ≠ keyId := by
          intro clash
          apply distinct.1
          rw [clash, ← named]
          exact mem_map_of_mem inRest
        rw [filter_cons_of_neg (by simpa using different)]
        exact ih distinct.2 inRest

/-- The shared key is the only active entry of the audience. -/
def OnlyActive (listed : List AuthorizedKeyEntry) (audience sharedKeyId : String) : Prop :=
  ∃ entry, listed.filter (fun entry => entry.audience = audience && entry.status = .active) =
    [entry] ∧ entry.keyId = sharedKeyId

theorem OnlyActive.of_perm {other : List AuthorizedKeyEntry} {audience sharedKeyId : String}
    (only : OnlyActive listed audience sharedKeyId) (same : listed.Perm other) :
    OnlyActive other audience sharedKeyId := by
  obtain ⟨entry, alone, named⟩ := only
  have kept := same.filter fun entry => entry.audience = audience && entry.status = .active
  rw [alone] at kept
  exact ⟨entry, (singleton_perm.mp kept).symm, named⟩

/-- Time is in the validity of an entry, both ends included. -/
def AuthorizedKeyEntry.ValidAt (entry : AuthorizedKeyEntry) (now : Int) : Prop :=
  entry.validFrom ≤ now ∧ ∀ last ∈ entry.validUntil, now ≤ last

/-- A key is admitted for a signer and a key id. -/
structure AdmitsKey (listed : List AuthorizedKeyEntry) (audience : String) (shared : Option String)
    (now : Int) (signer keyId : String) (key : VerificationKey) (entry : AuthorizedKeyEntry) :
    Prop where
  signer : signer = audience
  sole : SoleEntry listed keyId entry
  bound : entry.audience = audience
  active : entry.status = .active
  valid : entry.ValidAt now
  key : entry.publicKey = key
  shared : ∀ sharedKeyId ∈ shared, keyId = sharedKeyId

namespace KeySetTrustResolver

variable {audience : String}

theorem exists_sharedRemoteSigner_iff {keySet : AuthorizedKeySet} {sharedKeyId : String} :
    (∃ resolver, sharedRemoteSigner keySet audience sharedKeyId = .ok resolver) ↔
      OnlyActive keySet.entries audience sharedKeyId := by
  have count : keySet.activeCountFor audience = (keySet.entries.filter fun entry =>
      entry.audience = audience && entry.status = .active).length := rfl
  simp only [sharedRemoteSigner, throw_eq_error, bind_error, bind_eq_ok, guard_eq_ok,
    Option.okOr_eq_ok, AuthorizedKeySet.lookup_eq_some]
  constructor
  · rintro ⟨_, entry, ⟨member, named, bound⟩, active, single, _⟩
    have among : entry ∈ keySet.entries.filter fun entry =>
        entry.audience = audience && entry.status = .active := by
      simpa [member, bound] using active
    have atMost : (keySet.entries.filter fun entry =>
        entry.audience = audience && entry.status = .active).length ≤ 1 := by
      exact Nat.not_lt.mp single
    obtain ⟨only, alone⟩ := length_eq_one_iff.mp
      (Nat.le_antisymm atMost (length_pos_of_mem among))
    rw [alone, mem_singleton] at among
    exact ⟨entry, among ▸ alone, named⟩
  · rintro ⟨entry, only, named⟩
    have among : entry ∈ keySet.entries.filter fun entry =>
        entry.audience = audience && entry.status = .active := by simp [only]
    simp only [mem_filter, Bool.and_eq_true, decide_eq_true_eq] at among
    obtain ⟨member, bound, active⟩ := among
    rw [only] at count
    exact ⟨_, entry, ⟨member, named, bound⟩, by simp [active], by simp [count], rfl⟩

theorem validAt_iff {entry : AuthorizedKeyEntry} {now : Int} :
    entry.ValidAt now ↔ ¬ now < entry.validFrom ∧ ¬ entry.validUntil.any (now > ·) = true := by
  unfold AuthorizedKeyEntry.ValidAt
  cases entry.validUntil with
  | none | some _ => simp

variable {resolver : KeySetTrustResolver}

theorem resolve_eq_ok {now : Int} {signer keyId : String} {key : VerificationKey} :
    resolver.resolve now signer keyId = .ok key ↔
      signer = resolver.audience ∧ ∃ entry ∈ resolver.keySet.entries, entry.keyId = keyId ∧
        entry.audience = resolver.audience ∧
        (resolver.mode = .sharedRemoteSigner → resolver.sharedKeyId = some keyId) ∧
        entry.status = .active ∧ entry.ValidAt now ∧ entry.publicKey = key := by
  unfold resolve
  rw [guard_eq_ok, not_ne_iff]
  apply and_congr_right
  intro _
  constructor
  · intro resolved
    split at resolved
    next => cases resolved
    next entry found =>
      obtain ⟨member, named, bound⟩ := AuthorizedKeySet.lookup_eq_some.mp found
      simp only [guard_eq_ok] at resolved
      obtain ⟨admitted, active, started, going, resolved⟩ := resolved
      exact ⟨entry, member, named, bound, by simpa using admitted, by simpa using active,
        validAt_iff.mpr ⟨started, going⟩, ok.inj resolved⟩
  · rintro ⟨entry, member, named, bound, admitted, active, valid, same⟩
    rw [AuthorizedKeySet.lookup_eq_some.mpr ⟨member, named, bound⟩]
    obtain ⟨started, going⟩ := validAt_iff.mp valid
    exact guard_eq_ok.mpr ⟨by simpa using admitted, guard_eq_ok.mpr
      ⟨by simpa using active, guard_eq_ok.mpr ⟨started, guard_eq_ok.mpr
        ⟨going, congrArg ok same⟩⟩⟩⟩

/-- A resolver that was built holds the listed entries, and knows the shared key. -/
structure Holds (listed : List AuthorizedKeyEntry) (audience : String) (shared : Option String)
    (resolver : KeySetTrustResolver) : Prop where
  entries : resolver.keySet.entries.Perm listed
  audience : resolver.audience = audience
  shared : ∀ keyId, (resolver.mode = .sharedRemoteSigner → resolver.sharedKeyId = some keyId) ↔
    ∀ sharedKeyId ∈ shared, keyId = sharedKeyId

variable {listed : List AuthorizedKeyEntry} {shared : Option String}

theorem holds_of_ofEntries (built : ofEntries listed audience shared = .ok resolver) :
    Holds listed audience shared resolver := by
  obtain ⟨_, setBuilt, built⟩ := bind_eq_ok.mp built
  have entries := AuthorizedKeySet.entries_new setBuilt
  cases shared with
  | none =>
    cases built
    exact ⟨entries, rfl, by simp [perNodeKeyset]⟩
  | some sharedKeyId =>
    simp only [sharedRemoteSigner, throw_eq_error, bind_error, bind_eq_ok, guard_eq_ok] at built
    obtain ⟨_, _, _, _, ⟨⟩⟩ := built
    exact ⟨entries, rfl, by simp [eq_comm]⟩

theorem exists_ofEntries_iff :
    (∃ resolver, ofEntries listed audience shared = .ok resolver) ↔
      (listed.map AuthorizedKeyEntry.keyId).Nodup ∧
        ∀ sharedKeyId ∈ shared, OnlyActive listed audience sharedKeyId := by
  constructor
  · rintro ⟨resolver, built⟩
    obtain ⟨keySet, setBuilt, built⟩ := bind_eq_ok.mp built
    refine ⟨AuthorizedKeySet.exists_new_iff.mp ⟨keySet, setBuilt⟩, ?_⟩
    intro sharedKeyId isShared
    cases isShared
    exact (exists_sharedRemoteSigner_iff.mp ⟨resolver, built⟩).of_perm
      (AuthorizedKeySet.entries_new setBuilt)
  · rintro ⟨distinct, only⟩
    obtain ⟨keySet, setBuilt⟩ := AuthorizedKeySet.exists_new_iff.mpr distinct
    cases shared with
    | none => exact ⟨_, bind_eq_ok.mpr ⟨keySet, setBuilt, rfl⟩⟩
    | some sharedKeyId =>
      have held := (only sharedKeyId rfl).of_perm (AuthorizedKeySet.entries_new setBuilt).symm
      obtain ⟨resolver, built⟩ := exists_sharedRemoteSigner_iff.mpr held
      exact ⟨resolver, bind_eq_ok.mpr ⟨keySet, setBuilt, built⟩⟩

/-- A resolver is built exactly from entries with different key ids of which, for a shared
key, that key is the only active one; and it answers with a key exactly if it admits it. -/
theorem keySet_admission_exact (listed : List AuthorizedKeyEntry) (audience : String)
    (shared : Option String) :
    ((∃ resolver, ofEntries listed audience shared = .ok resolver) ↔
      (listed.map AuthorizedKeyEntry.keyId).Nodup ∧
        ∀ sharedKeyId ∈ shared, OnlyActive listed audience sharedKeyId) ∧
    ∀ resolver, ofEntries listed audience shared = .ok resolver →
      ∀ now signer keyId key, resolver.resolve now signer keyId = .ok key ↔
        ∃ entry, AdmitsKey listed audience shared now signer keyId key entry := by
  refine ⟨exists_ofEntries_iff, ?_⟩
  intro resolver built now signer keyId key
  have holds := holds_of_ofEntries built
  have distinct := (exists_ofEntries_iff.mp ⟨resolver, built⟩).1
  rw [resolve_eq_ok, holds.audience, holds.shared]
  constructor
  · rintro ⟨same, entry, member, named, bound, admitted, active, valid, isKey⟩
    exact ⟨entry, same, (soleEntry_iff distinct).mpr ⟨holds.entries.mem_iff.mp member, named⟩,
      bound, active, valid, isKey, admitted⟩
  · rintro ⟨entry, admits⟩
    obtain ⟨member, named⟩ := (soleEntry_iff distinct).mp admits.sole
    exact ⟨admits.signer, entry, holds.entries.mem_iff.mpr member, named, admits.bound,
      admits.shared, admits.active, admits.valid, admits.key⟩

end KeySetTrustResolver

end Mcps.Proxy
