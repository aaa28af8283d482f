import AzureShell.Azure.Retrying
import AzureShell.Prog.LockOrder

/-!
# Cached account keys and services

`StorageService` keeps the access key of each storage account and the services made
with it.  A cache is looked up without its lock first, and again under the lock.
The service of an account is made under the lock of its cache, and asks for the key
of the account meanwhile, which takes the lock of the keys.
-/

namespace AzureShell.StorageService

open Prog

/-! ## The caches -/

/-- The key of the caches: group and name of a storage account. -/
structure StorageAccount where
  groupName : Text
  storageName : Text
deriving DecidableEq, Repr

inductive ServiceKind where
  | file
  | blob
deriving DecidableEq, Repr

/-- A `FileService` or `BlockBlobService`; the serial number tells objects apart. -/
structure ServiceClient where
  serial : Nat
  accountName : Text
  accountKey : Text
deriving DecidableEq, Repr

/-- `_cached_account_keys`, `_cached_file_services` and `_cached_blob_services`, and
how many calls left the shell. -/
structure Caches where
  accountKeys : StorageAccount → Option Text
  services : ServiceKind → StorageAccount → Option ServiceClient
  calls : Nat

/-- Caches of a new `StorageService`. -/
def Caches.empty : Caches where
  accountKeys := fun _ => none
  services := fun _ _ => none
  calls := 0

inductive CacheRequest where
  | cachedKey (account : StorageAccount)
  | cacheKey (account : StorageAccount) (accountKey : Text)
  | cachedService (kind : ServiceKind) (account : StorageAccount)
  | cacheService (kind : ServiceKind) (account : StorageAccount) (client : ServiceClient)
  /-- `storage_accounts.list_keys`. -/
  | listKeys (account : StorageAccount)
  /-- The constructor of the service. -/
  | newService (kind : ServiceKind) (accountName accountKey : Text)
deriving DecidableEq

@[reducible]
def CacheRequest.Answer : CacheRequest → Type
  | cachedKey _ => Option Text
  | cachedService _ _ => Option ServiceClient
  | listKeys _ => List Text
  | newService _ _ _ => ServiceClient
  | _ => Unit

/-- `_account_keys_lock`, `_file_services_lock` and `_blob_services_lock`. -/
inductive CacheLock where
  | accountKeys
  | services (kind : ServiceKind)
deriving DecidableEq

abbrev StorageCaches : Signature where
  Request := CacheRequest
  Answer := CacheRequest.Answer
  Error := PyException
  Lock := CacheLock

/-- The caches and the calls that leave the shell; what comes of the latter, in the
order in which they are made, is not known. -/
def Caches.handle (outside : Nat → Except PyException (List Text)) : Handler StorageCaches Caches
  | .cachedKey account, caches => (.ok (caches.accountKeys account), caches)
  | .cacheKey account accountKey, caches =>
      (.ok (), { caches with
        accountKeys := Function.update caches.accountKeys account (some accountKey) })
  | .cachedService kind account, caches => (.ok (caches.services kind account), caches)
  | .cacheService kind account client, caches =>
      (.ok (), { caches with
        services := Function.update caches.services kind
          (Function.update (caches.services kind) account (some client)) })
  | .listKeys _, caches => (outside caches.calls, { caches with calls := caches.calls + 1 })
  | .newService _ accountName accountKey, caches =>
      ((outside caches.calls).map fun _ => ⟨caches.calls, accountName, accountKey⟩,
        { caches with calls := caches.calls + 1 })

/-! ## The look-ups -/

/-- `account_keys.keys[0]`. -/
def firstKey : List Text → Except PyException Text
  | [] => .error (.indexError "list index out of range".toList)
  | accountKey :: _ => .ok accountKey

/-- What `_get_storage_account_key` does when the key is not cached. -/
def fetchAccountKey (account : StorageAccount) : Prog StorageCaches Text := do
  let accountKeys ← perform (S := StorageCaches) (.listKeys account)
  let accountKey ← ofExcept (firstKey accountKeys)
  perform (S := StorageCaches) (.cacheKey account accountKey)
  pure accountKey

/-- `_get_storage_account_key`. -/
def getStorageAccountKey (account : StorageAccount) : Prog StorageCaches Text :=
  retry retryIfConnectionError 19 <|
    doubleChecked (.accountKeys : CacheLock) (perform (S := StorageCaches) (.cachedKey account))
      (fetchAccountKey account)

/-- What `_get_file_service` and `_get_blob_service` do when the service is not
cached. -/
def makeService (kind : ServiceKind) (account : StorageAccount) :
    Prog StorageCaches ServiceClient := do
  let accountKey ← getStorageAccountKey account
  let client ← perform (S := StorageCaches) (.newService kind account.storageName accountKey)
  perform (S := StorageCaches) (.cacheService kind account client)
  pure client

def getService (kind : ServiceKind) (account : StorageAccount) : Prog StorageCaches ServiceClient :=
  doubleChecked (CacheLock.services kind) (perform (S := StorageCaches) (.cachedService kind account))
    (makeService kind account)

/-- `_get_file_service`. -/
def getFileService (account : StorageAccount) : Prog StorageCaches ServiceClient :=
  getService .file account

/-- `_get_blob_service`. -/
def getBlobService (account : StorageAccount) : Prog StorageCaches ServiceClient :=
  getService .blob account

/-! ## The order of the locks -/

/-- Every cached service was made for its account with the key that is cached for
it. -/
def Caches.Consistent (caches : Caches) : Prop :=
  ∀ kind account client, caches.services kind account = some client →
    client.accountName = account.storageName ∧ caches.accountKeys account = some client.accountKey

/-- What is cached stays. -/
structure Caches.Grow (before after : Caches) : Prop where
  accountKeys : ∀ account accountKey, before.accountKeys account = some accountKey →
    after.accountKeys account = some accountKey
  services : ∀ kind account client, before.services kind account = some client →
    after.services kind account = some client

/-- Without its lock a cache is left alone. -/
def CacheLock.Guards : CacheLock → Caches → Caches → Prop
  | accountKeys, before, after => after.accountKeys = before.accountKeys
  | services kind, before, after => after.services kind = before.services kind

/-- The lock of the keys is taken last. -/
def CacheLock.rank : CacheLock → Nat
  | accountKeys => 1
  | services _ => 0

def cacheOrder : LockOrder StorageCaches Caches where
  rank := CacheLock.rank
  invariant := Caches.Consistent
  others := Caches.Grow
  own := Caches.Grow
  without := CacheLock.Guards
  others_refl caches := ⟨fun _ _ cached => cached, fun _ _ _ cached => cached⟩
  others_trans first second :=
    ⟨fun account accountKey cached => second.accountKeys _ _ (first.accountKeys _ _ cached),
      fun kind account client cached => second.services _ _ _ (first.services _ _ _ cached)⟩
  without_refl lock caches := by cases lock <;> rfl
  without_trans {lock _ _ _} first second := by cases lock <;> exact second.trans first

variable {outside : Nat → Except PyException (List Text)} {held : List CacheLock}
  {account : StorageAccount} {kind : ServiceKind} {kept : Caches → Prop}

theorem persistent_of_grow {claim : Caches → Prop}
    (grows : ∀ before after, Caches.Grow before after → claim before → claim after) :
    cacheOrder.Persistent claim :=
  fun before after grow => grows before after (or_self_iff.mp grow)

theorem persistent_accountKey (accountKey : Text) :
    cacheOrder.Persistent fun caches => caches.accountKeys account = some accountKey :=
  persistent_of_grow fun _ _ grow cached => grow.accountKeys account accountKey cached

theorem persistent_service (client : ServiceClient) :
    cacheOrder.Persistent fun caches => caches.services kind account = some client :=
  persistent_of_grow fun _ _ grow cached => grow.services kind account client cached

/-- Under the lock of the keys a key that is absent stays absent. -/
theorem stable_accountKey_none :
    cacheOrder.Stable (.accountKeys :: held) fun caches => caches.accountKeys account = none := by
  intro before after follows absent
  have same : after.accountKeys = before.accountKeys :=
    follows.without .accountKeys List.mem_cons_self
  rw [same]
  exact absent

theorem stable_service_none :
    cacheOrder.Stable (.services kind :: held) fun caches => caches.services kind account = none := by
  intro before after follows absent
  have same : after.services kind = before.services kind :=
    follows.without (.services kind) List.mem_cons_self
  rw [same]
  exact absent

/-- A request that changes no cache. -/
theorem grow_of_same {before after : Caches} (sameKeys : after.accountKeys = before.accountKeys)
    (sameServices : after.services = before.services) :
    before.Grow after ∧ ∀ lock : CacheLock, lock.Guards before after := by
  refine ⟨⟨?_, ?_⟩, ?_⟩
  · intro account accountKey cached
    rw [sameKeys]
    exact cached
  · intro kind account client cached
    rw [sameServices]
    exact cached
  · intro lock
    cases lock with
    | accountKeys => exact sameKeys
    | services kind => exact congrFun sameServices kind

/-! ## Account keys -/

section AccountKeys

variable {kept : (ServiceKind → StorageAccount → Option ServiceClient) → Prop}

/-- A call that leaves the shell changes no cache. -/
theorem returns_listKeys (keptStable : cacheOrder.Stable held fun caches => kept caches.services) :
    Returns cacheOrder (Caches.handle outside) (.accountKeys :: held)
      (fun caches => kept caches.services ∧ caches.accountKeys account = none)
      (fun _ caches => kept caches.services ∧ caches.accountKeys account = none)
      (perform (S := StorageCaches) (.listKeys account)) := by
  have stable : cacheOrder.Stable (.accountKeys :: held)
      fun caches => kept caches.services ∧ caches.accountKeys account = none :=
    keptStable.cons.and stable_accountKey_none
  apply returns_perform stable (fun _ => stable)
  intro caches consistent holds
  have unchanged : caches.Grow (Caches.handle outside (.listKeys account) caches).2 ∧ _ :=
    grow_of_same rfl rfl
  exact ⟨consistent, unchanged.1, fun lock _ => unchanged.2 lock, holds⟩

theorem returns_cacheKey (keptStable : cacheOrder.Stable held fun caches => kept caches.services)
    (accountKey : Text) :
    Returns cacheOrder (Caches.handle outside) (.accountKeys :: held)
      (fun caches => kept caches.services ∧ caches.accountKeys account = none)
      (fun _ caches => kept caches.services ∧ caches.accountKeys account = some accountKey)
      (perform (S := StorageCaches) (.cacheKey account accountKey)) := by
  apply returns_perform (keptStable.cons.and stable_accountKey_none)
    (fun _ => keptStable.cons.and (persistent_accountKey accountKey).stable)
  rintro caches consistent ⟨holds, absent⟩
  have others : ∀ other otherKey, caches.accountKeys other = some otherKey →
      Function.update caches.accountKeys account (some accountKey) other = some otherKey := by
    intro other otherKey cached
    rw [Function.update_of_ne]
    · exact cached
    · rintro rfl
      rw [absent] at cached
      cases cached
  refine ⟨?_, ⟨others, fun _ _ _ cached => cached⟩, ?_, holds, Function.update_self _ _ _⟩
  · intro kind other client cached
    exact ⟨(consistent kind other client cached).1, others _ _ (consistent kind other client cached).2⟩
  · intro lock notHeld
    cases lock with
    | accountKeys => exact absurd List.mem_cons_self notHeld
    | services kind => rfl

/-- A key that is absent is fetched and cached. -/
theorem fetchAccountKey_returns
    (keptStable : cacheOrder.Stable held fun caches => kept caches.services) :
    Returns cacheOrder (Caches.handle outside) (.accountKeys :: held)
      (fun caches => kept caches.services ∧ caches.accountKeys account = none)
      (fun outcome caches => kept caches.services ∧
        ∀ accountKey, outcome = .ok accountKey → caches.accountKeys account = some accountKey)
      (fetchAccountKey account) := by
  have failed : ∀ e : PyException, cacheOrder.Stable (.accountKeys :: held) fun caches =>
      kept caches.services ∧ ∀ accountKey : Text, Except.error e = .ok accountKey →
        caches.accountKeys account = some accountKey :=
    fun e before after follows holds =>
      ⟨keptStable.cons before after follows holds.1, nofun⟩
  apply (returns_listKeys keptStable).bind failed
  · intro accountKeys
    cases found : firstKey accountKeys with
    | error e => exact returns_done (failed e) fun caches _ holds => ⟨holds.1, nofun⟩
    | ok accountKey =>
        apply (returns_cacheKey keptStable accountKey).bind failed
        · intro _
          apply returns_done
          · intro before after follows holds
            exact ⟨keptStable.cons before after follows holds.1, fun other isKey =>
              follows.others.accountKeys account other (holds.2 other isKey)⟩
          · rintro caches _ ⟨holds, cached⟩
            refine ⟨holds, ?_⟩
            rintro _ ⟨⟩
            exact cached
        · exact fun e caches _ holds => ⟨holds.1, nofun⟩
  · exact fun e caches _ holds => ⟨holds.1, nofun⟩

/-- What `_get_storage_account_key` returns is cached. -/
theorem getStorageAccountKey_returns (above : ∀ lock ∈ held, lock.rank < 1)
    (keptStable : cacheOrder.Stable held fun caches => kept caches.services) :
    Returns cacheOrder (Caches.handle outside) held (fun caches => kept caches.services)
      (fun outcome caches => kept caches.services ∧
        ∀ accountKey, outcome = .ok accountKey → caches.accountKeys account = some accountKey)
      (getStorageAccountKey account) := by
  have failed : ∀ e : PyException, cacheOrder.Stable held fun caches =>
      kept caches.services ∧ ∀ accountKey : Text, Except.error e = .ok accountKey →
        caches.accountKeys account = some accountKey :=
    fun e before after follows holds => ⟨keptStable before after follows holds.1, nofun⟩
  apply Returns.retry
  · apply Returns.doubleChecked above keptStable persistent_accountKey
    · apply returns_perform keptStable
      · rintro outcome before after follows ⟨holds, cached⟩
        exact ⟨keptStable before after follows holds, fun accountKey found =>
          follows.others.accountKeys account accountKey (cached accountKey found)⟩
      · intro caches consistent holds
        have unchanged : caches.Grow (Caches.handle outside (.cachedKey account) caches).2 ∧ _ :=
          grow_of_same rfl rfl
        exact ⟨consistent, unchanged.1, fun lock _ => unchanged.2 lock, holds,
          fun accountKey found => Except.ok.inj found⟩
    · apply returns_perform keptStable.cons
      · rintro outcome before after follows ⟨holds, cached⟩
        have same : after.accountKeys = before.accountKeys :=
          follows.without .accountKeys List.mem_cons_self
        exact ⟨keptStable.cons before after follows holds, fun found isOk =>
          (congrFun same account).trans (cached found isOk)⟩
      · intro caches consistent holds
        have unchanged : caches.Grow (Caches.handle outside (.cachedKey account) caches).2 ∧ _ :=
          grow_of_same rfl rfl
        exact ⟨consistent, unchanged.1, fun lock _ => unchanged.2 lock, holds,
          fun found isOk => Except.ok.inj isOk⟩
    · exact fetchAccountKey_returns keptStable
  · exact fun e caches _ holds => holds.1
  · exact failed

end AccountKeys

/-! ## Services -/

/-- Under the lock of the services, the account's own service is still to be made and
its key is cached. -/
def Lacks (kind : ServiceKind) (account : StorageAccount) (accountKey : Text) (caches : Caches) :
    Prop :=
  caches.services kind account = none ∧ caches.accountKeys account = some accountKey

theorem stable_lacks {accountKey : Text} :
    cacheOrder.Stable [.services kind] (Lacks kind account accountKey) :=
  stable_service_none.and (persistent_accountKey accountKey).stable

theorem returns_newService {accountKey : Text} :
    Returns cacheOrder (Caches.handle outside) [.services kind] (Lacks kind account accountKey)
      (fun outcome caches => Lacks kind account accountKey caches ∧ ∀ client, outcome = .ok client →
        client.accountName = account.storageName ∧ client.accountKey = accountKey)
      (perform (S := StorageCaches) (.newService kind account.storageName accountKey)) := by
  apply returns_perform stable_lacks
  · intro outcome
    exact stable_lacks.and fun _ _ _ isMade => isMade
  · intro caches consistent lacks
    have unchanged : caches.Grow (Caches.handle outside
        (.newService kind account.storageName accountKey) caches).2 ∧ _ := grow_of_same rfl rfl
    refine ⟨consistent, unchanged.1, fun lock _ => unchanged.2 lock, lacks, fun client isOk => ?_⟩
    simp only [Caches.handle, Except.map] at isOk
    split at isOk
    · cases isOk
    · cases isOk
      exact ⟨rfl, rfl⟩

theorem returns_cacheService {client : ServiceClient}
    (named : client.accountName = account.storageName) :
    Returns cacheOrder (Caches.handle outside) [.services kind]
      (Lacks kind account client.accountKey)
      (fun _ caches => caches.services kind account = some client)
      (perform (S := StorageCaches) (.cacheService kind account client)) := by
  apply returns_perform stable_lacks (fun _ => (persistent_service client).stable)
  rintro caches consistent ⟨absent, keyCached⟩
  have cases : ∀ otherKind other otherClient,
      Function.update caches.services kind
          (Function.update (caches.services kind) account (some client)) otherKind other =
        some otherClient →
      (otherKind = kind ∧ other = account ∧ otherClient = client) ∨
        caches.services otherKind other = some otherClient := by
    intro otherKind other otherClient cached
    by_cases sameKind : otherKind = kind
    · subst sameKind
      rw [Function.update_self] at cached
      by_cases sameAccount : other = account
      · subst sameAccount
        rw [Function.update_self, Option.some.injEq] at cached
        exact Or.inl ⟨rfl, rfl, cached.symm⟩
      · rw [Function.update_of_ne sameAccount] at cached
        exact Or.inr cached
    · rw [Function.update_of_ne sameKind] at cached
      exact Or.inr cached
  refine ⟨?_, ⟨fun _ _ cached => cached, ?_⟩, ?_, ?_⟩
  · intro otherKind other otherClient cached
    rcases cases otherKind other otherClient cached with ⟨rfl, rfl, rfl⟩ | before
    · exact ⟨named, keyCached⟩
    · exact consistent otherKind other otherClient before
  · intro otherKind other otherClient cached
    change Function.update caches.services kind _ otherKind other = some otherClient
    by_cases sameKind : otherKind = kind
    · subst sameKind
      rw [Function.update_self, Function.update_of_ne]
      · exact cached
      · rintro rfl
        rw [absent] at cached
        cases cached
    · rw [Function.update_of_ne sameKind]
      exact cached
  · intro lock notHeld
    cases lock with
    | accountKeys => rfl
    | services other =>
        have different : other ≠ kind := by
          rintro rfl
          exact notHeld List.mem_cons_self
        exact Function.update_of_ne different _ _
  · change Function.update caches.services kind _ kind account = some client
    rw [Function.update_self, Function.update_self]

theorem storeService_returns {client : ServiceClient}
    (named : client.accountName = account.storageName) :
    Returns cacheOrder (Caches.handle outside) [.services kind]
      (Lacks kind account client.accountKey)
      (fun outcome caches => ∀ other, outcome = .ok other →
        caches.services kind account = some other) (do
      perform (S := StorageCaches) (.cacheService kind account client)
      pure client) := by
  apply (returns_cacheService named).bind (fun e before after follows _ => nofun)
  · intro _
    apply returns_done
    · intro before after follows cached other isClient
      exact follows.others.services kind account other (cached other isClient)
    · rintro caches _ cached _ ⟨⟩
      exact cached
  · exact fun e caches _ _ => nofun

/-- The service of an account is made with the key that is cached for it. -/
theorem makeService_returns :
    Returns cacheOrder (Caches.handle outside) [.services kind]
      (fun caches => caches.services kind account = none)
      (fun outcome caches => ∀ client, outcome = .ok client →
        caches.services kind account = some client)
      (makeService kind account) := by
  have failed : ∀ e : PyException, cacheOrder.Stable [.services kind] fun caches =>
      ∀ client, Except.error e = .ok client → caches.services kind account = some client :=
    fun e before after follows _ => nofun
  have above : ∀ lock ∈ [CacheLock.services kind], lock.rank < 1 := by simp [CacheLock.rank]
  let absent : (ServiceKind → StorageAccount → Option ServiceClient) → Prop :=
    fun services => services kind account = none
  have absentStable : cacheOrder.Stable [.services kind] fun caches => absent caches.services :=
    stable_service_none
  have keyed : Returns cacheOrder (Caches.handle outside) [.services kind]
      (fun caches => absent caches.services)
      (fun outcome caches => absent caches.services ∧
        ∀ accountKey, outcome = .ok accountKey → caches.accountKeys account = some accountKey)
      (getStorageAccountKey account) := getStorageAccountKey_returns above absentStable
  apply keyed.bind failed
  · intro accountKey
    have made : Returns cacheOrder (Caches.handle outside) [.services kind]
        (Lacks kind account accountKey)
        (fun outcome caches => ∀ client, outcome = .ok client →
          caches.services kind account = some client) (do
        let client ← perform (S := StorageCaches) (.newService kind account.storageName accountKey)
        perform (S := StorageCaches) (.cacheService kind account client)
        pure client) := by
      apply returns_newService.bind failed
      · rintro client caches consistent ⟨lacks, isMade⟩
        rcases isMade client rfl with ⟨named, isKey⟩
        rw [← isKey] at lacks
        exact storeService_returns named caches consistent lacks
      · exact fun e caches _ _ => nofun
    exact made.mono (fun caches holds => ⟨holds.1, holds.2 accountKey rfl⟩) fun _ _ ended => ended
  · exact fun e caches _ _ => nofun

/-- What `_get_file_service` and `_get_blob_service` return is cached. -/
theorem getService_returns :
    Returns cacheOrder (Caches.handle outside) [] (fun _ => True)
      (fun outcome caches => True ∧ ∀ client, outcome = .ok client →
        caches.services kind account = some client) (getService kind account) := by
  have above : ∀ other ∈ ([] : List CacheLock), other.rank < (CacheLock.services kind).rank := nofun
  have unconditional : cacheOrder.Stable [] fun _ => True := fun _ _ _ _ => trivial
  apply Returns.doubleChecked above unconditional persistent_service
  · apply returns_perform unconditional
    · rintro outcome before after follows ⟨_, cached⟩
      exact ⟨trivial, fun client found => follows.others.services kind account client
        (cached client found)⟩
    · intro caches consistent _
      have unchanged : caches.Grow (Caches.handle outside (.cachedService kind account) caches).2 ∧
          _ := grow_of_same rfl rfl
      exact ⟨consistent, unchanged.1, fun lock _ => unchanged.2 lock, trivial,
        fun client found => Except.ok.inj found⟩
  · apply returns_perform unconditional.cons
    · rintro outcome before after follows ⟨_, cached⟩
      have same : after.services kind = before.services kind :=
        follows.without (.services kind) List.mem_cons_self
      exact ⟨trivial, fun found isOk => (congrFun same account).trans (cached found isOk)⟩
    · intro caches consistent _
      have unchanged : caches.Grow (Caches.handle outside (.cachedService kind account) caches).2 ∧
          _ := grow_of_same rfl rfl
      exact ⟨consistent, unchanged.1, fun lock _ => unchanged.2 lock, trivial,
        fun found isOk => Except.ok.inj isOk⟩
  · exact makeService_returns.mono (fun _ holds => holds.2) fun _ _ ended => ⟨trivial, ended⟩

/-! ## Concurrent calls -/

/-- A look-up that another method of `StorageService` makes. -/
inductive StorageCall where
  | accountKey (account : StorageAccount)
  | fileService (account : StorageAccount)
  | blobService (account : StorageAccount)
deriving DecidableEq, Repr

/-- What is cached for a call. -/
inductive Cached where
  | accountKey (value : Text)
  | service (client : ServiceClient)
deriving DecidableEq, Repr

namespace StorageCall

def program : StorageCall → Prog StorageCaches Cached
  | accountKey account => do
      let value ← getStorageAccountKey account
      pure (.accountKey value)
  | fileService account => do
      let client ← getFileService account
      pure (.service client)
  | blobService account => do
      let client ← getBlobService account
      pure (.service client)

/-- What the caches hold for a call. -/
def cachedIn (caches : Caches) : StorageCall → Option Cached
  | accountKey account => (caches.accountKeys account).map .accountKey
  | fileService account => (caches.services .file account).map .service
  | blobService account => (caches.services .blob account).map .service

theorem persistent_cachedIn (call : StorageCall) (value : Cached) :
    cacheOrder.Persistent fun caches => call.cachedIn caches = some value := by
  apply persistent_of_grow
  intro before after grow cached
  cases call with
  | accountKey account =>
      rcases Option.map_eq_some_iff.mp cached with ⟨accountKey, isCached, rfl⟩
      exact Option.map_eq_some_iff.mpr ⟨_, grow.accountKeys _ _ isCached, rfl⟩
  | fileService account =>
      rcases Option.map_eq_some_iff.mp cached with ⟨client, isCached, rfl⟩
      exact Option.map_eq_some_iff.mpr ⟨_, grow.services _ _ _ isCached, rfl⟩
  | blobService account =>
      rcases Option.map_eq_some_iff.mp cached with ⟨client, isCached, rfl⟩
      exact Option.map_eq_some_iff.mpr ⟨_, grow.services _ _ _ isCached, rfl⟩

/-- What a call returns is cached. -/
theorem program_returns (call : StorageCall) :
    Returns cacheOrder (Caches.handle outside) [] (fun _ => True)
      (fun outcome caches => ∀ value, outcome = .ok value → call.cachedIn caches = some value)
      call.program := by
  have failed : ∀ e : PyException, cacheOrder.Stable [] fun caches =>
      ∀ value, Except.error e = .ok value → call.cachedIn caches = some value :=
    fun e before after follows _ => nofun
  have ended : ∀ value, Returns cacheOrder (Caches.handle outside) []
      (fun caches => call.cachedIn caches = some value)
      (fun outcome caches => ∀ value, outcome = .ok value → call.cachedIn caches = some value)
      (.done (.ok value)) := by
    intro value
    apply returns_done
    · intro before after follows cached other isValue
      exact call.persistent_cachedIn other before after (Or.inl follows.others) (cached other isValue)
    · rintro caches _ cached _ ⟨⟩
      exact cached
  have above : ∀ lock ∈ ([] : List CacheLock), lock.rank < 1 := nofun
  cases call with
  | accountKey account =>
      let kept : (ServiceKind → StorageAccount → Option ServiceClient) → Prop := fun _ => True
      have keptStable : cacheOrder.Stable [] fun caches => kept caches.services :=
        fun _ _ _ _ => trivial
      apply (getStorageAccountKey_returns above keptStable).bind failed
      · intro value
        exact (ended (.accountKey value)).mono
          (fun caches holds => congrArg (Option.map Cached.accountKey) (holds.2 value rfl))
          fun _ _ isEnded => isEnded
      · exact fun e caches _ _ => nofun
  | fileService account =>
      apply getService_returns.bind failed
      · intro client
        exact (ended (.service client)).mono
          (fun caches holds => congrArg (Option.map Cached.service) (holds.2 client rfl))
          fun _ _ isEnded => isEnded
      · exact fun e caches _ _ => nofun
  | blobService account =>
      apply getService_returns.bind failed
      · intro client
        exact (ended (.service client)).mono
          (fun caches holds => congrArg (Option.map Cached.service) (holds.2 client rfl))
          fun _ _ isEnded => isEnded
      · exact fun e caches _ _ => nofun

end StorageCall

/-- A thread of the shell makes calls one after the other; an exception ends the call,
not the thread. -/
def caller (calls : List StorageCall) : Prog StorageCaches (List (StorageCall × Option Cached)) :=
  collect calls fun call =>
    (do
      let value ← call.program
      pure (call, some value)).catching fun _ => pure (call, none)

/-- The result of a call, if it has one, is what is cached for the call. -/
def IsCached (result : StorageCall × Option Cached) (caches : Caches) : Prop :=
  ∀ value, result.2 = some value → result.1.cachedIn caches = some value

theorem persistent_isCached (result : StorageCall × Option Cached) :
    cacheOrder.Persistent (IsCached result) :=
  fun before after grow cached value isResult =>
    result.1.persistent_cachedIn value before after grow (cached value isResult)

theorem caller_returns (calls : List StorageCall) :
    Returns cacheOrder (Caches.handle outside) [] (fun _ => True)
      (fun outcome caches => ∀ results, outcome = .ok results →
        ∀ result ∈ results, IsCached result caches) (caller calls) := by
  apply Returns.collect persistent_isCached
  intro call _
  have recorded : ∀ result, Returns cacheOrder (Caches.handle outside) [] (IsCached result)
      (fun outcome caches => ∀ result, outcome = .ok result → IsCached result caches)
      (.done (.ok result)) := by
    intro result
    apply returns_done
    · intro before after follows cached other isResult
      exact persistent_isCached other before after (Or.inl follows.others) (cached other isResult)
    · rintro caches _ cached _ ⟨⟩
      exact cached
  have failed : ∀ e : PyException, cacheOrder.Stable [] fun caches =>
      ∀ result, Except.error e = .ok result → IsCached result caches := by
    rintro e before after follows _ result ⟨⟩
  have answered : Returns cacheOrder (Caches.handle outside) [] (fun _ => True)
      (fun outcome caches => ∀ result, outcome = .ok result → IsCached result caches) (do
        let value ← call.program
        pure (call, some value)) := by
    apply call.program_returns.bind failed
    · intro value
      refine (recorded (call, some value)).mono ?_ fun _ _ isEnded => isEnded
      rintro caches cached _ ⟨⟩
      exact cached value rfl
    · rintro e caches _ _ result ⟨⟩
  apply answered.catching
  · intro e
    refine (recorded (call, none)).mono ?_ fun _ _ isEnded => isEnded
    rintro caches _ value ⟨⟩
  · exact fun _ _ _ cached => cached

section Threads

variable {ι : Type} [DecidableEq ι] {calls : ι → List StorageCall} {start : Caches}
  {config : Config StorageCaches Caches ι (List (StorageCall × Option Cached))}

theorem callers_inOrder (consistent : start.Consistent)
    (reaches : Reaches (Caches.handle outside) (.initial (fun i => caller (calls i)) start) config) :
    ∃ locks, AllInOrder (fun _ => cacheOrder) (Caches.handle outside)
      (fun _ held outcome caches => held = [] ∧ cacheOrder.invariant caches ∧
        ∀ results, outcome = .ok results → ∀ result ∈ results, IsCached result caches)
      locks config :=
  reaches.inOrder (compatible_const fun _ _ grow => grow) (fun i => caller_returns (calls i))
    fun _ => consistent

/-- However calls overlap, and whatever comes of the calls that leave the shell, all
calls for one account that end well return the same key or the same service object,
namely the one that is cached, and each cached service was made with the key that is
cached for its account. -/
theorem storageCalls_agree (consistent : start.Consistent)
    (reaches : Reaches (Caches.handle outside) (.initial (fun i => caller (calls i)) start) config) :
    config.shared.Consistent ∧
      ∀ i results, config.threads i = .done (.ok results) → ∀ call value,
        (call, some value) ∈ results → call.cachedIn config.shared = some value := by
  rcases callers_inOrder consistent reaches with ⟨locks, all⟩
  have stillConsistent : config.shared.Consistent := by
    by_cases threads : Nonempty ι
    · rcases threads with ⟨i⟩
      exact all.invariant i
    · cases reaches with
      | refl => exact consistent
      | tail _ moves =>
          rcases moves with ⟨i, _⟩
          exact absurd ⟨i⟩ threads
  refine ⟨stillConsistent, fun i results ended call value member => ?_⟩
  exact (all.ended ended).2.2 results rfl (call, some value) member value rfl

/-- Every call that leaves the shell succeeds. -/
def sandboxKeys : Nat → Except PyException (List Text) :=
  fun _ => .ok ["key1".toList, "key2".toList]

def sandboxAccount : StorageAccount :=
  ⟨"r1".toList, "storager1".toList⟩

/-- One thread asks for the file service, the other for the blob service and the
key. -/
def overlappingCalls : Bool → List StorageCall
  | false => [.fileService sandboxAccount]
  | true => [.blobService sandboxAccount, .accountKey sandboxAccount]

def twoCallers : Config StorageCaches Caches Bool (List (StorageCall × Option Cached)) :=
  .initial (fun i => caller (overlappingCalls i)) .empty

/-- The second thread waits for the lock of the keys, which the first one holds. -/
def waiting : Option (Config StorageCaches Caches Bool (List (StorageCall × Option Cached))) :=
  twoCallers.play (Caches.handle sandboxKeys) (fun _ _ => true)
    (List.replicate 5 false ++ List.replicate 4 true)

theorem consistent_empty : Caches.empty.Consistent :=
  nofun

theorem storageCalls_agree_example :
    ∃ config, Reaches (Caches.handle sandboxKeys) twoCallers config ∧
      config.threads true = .done (.ok
        [(.blobService sandboxAccount, some (.service ⟨2, "storager1".toList, "key1".toList⟩)),
          (.accountKey sandboxAccount, some (.accountKey "key1".toList))]) ∧
      config.shared.accountKeys sandboxAccount = some "key1".toList := by
  have played : (waiting.bind fun config => config.play (Caches.handle sandboxKeys) (fun _ _ => true)
      (List.replicate 7 false ++ List.replicate 7 true)).map (fun config => config.threads true) =
      some (.done (.ok
        [(.blobService sandboxAccount, some (.service ⟨2, "storager1".toList, "key1".toList⟩)),
          (.accountKey sandboxAccount, some (.accountKey "key1".toList))])) := by rfl
  rcases Option.map_eq_some_iff.mp played with ⟨config, ran, ended⟩
  rcases Option.bind_eq_some_iff.mp ran with ⟨between, first, second⟩
  have reaches : Reaches (Caches.handle sandboxKeys) twoCallers config :=
    (reaches_of_play first).trans (reaches_of_play second)
  refine ⟨config, reaches, ended, ?_⟩
  have agree := (storageCalls_agree consistent_empty reaches).2 true _ ended
    (.accountKey sandboxAccount) (.accountKey "key1".toList) (by simp)
  rcases Option.map_eq_some_iff.mp agree with ⟨accountKey, cached, same⟩
  cases same
  exact cached

/-- Calls never wait for each other: while one of them has not ended, one can move. -/
theorem storageCalls_progress (consistent : start.Consistent)
    (reaches : Reaches (Caches.handle outside) (.initial (fun i => caller (calls i)) start) config)
    {i : ι} (unfinished : ∀ outcome, config.threads i ≠ .done outcome) :
    ∃ next, Moves (Caches.handle outside) config next := by
  rcases callers_inOrder consistent reaches with ⟨locks, all⟩
  have bounded : ∀ (_ : ι) lock, cacheOrder.rank lock ≤ 1 := by
    intro _ lock
    cases lock <;> simp [cacheOrder, CacheLock.rank]
  exact all.moves (compatible_const fun _ _ grow => grow) (fun _ _ _ _ returned => returned.1)
    bounded unfinished

/-- One thread waits, and the other can move. -/
theorem storageCalls_progress_example :
    ∃ config, Reaches (Caches.handle sandboxKeys) twoCallers config ∧
      config.owner .accountKeys = some false ∧
      ∃ next, Moves (Caches.handle sandboxKeys) config next := by
  have played : waiting.map (fun config => (config.owner .accountKeys,
      match config.threads true with
      | .acquire lock _ => decide (lock = CacheLock.accountKeys)
      | _ => false)) = some (some false, true) := by rfl
  rcases Option.map_eq_some_iff.mp played with ⟨config, ran, state⟩
  rcases Prod.mk.inj state with ⟨owned, waits⟩
  have reaches : Reaches (Caches.handle sandboxKeys) twoCallers config := reaches_of_play ran
  have unfinished : ∀ outcome, config.threads true ≠ .done outcome := by
    intro outcome ended
    rw [ended] at waits
    cases waits
  exact ⟨config, reaches, owned, storageCalls_progress consistent_empty reaches unfinished⟩

end Threads

end AzureShell.StorageService
