import AzureShell.Conc.Pool
import AzureShell.Text.Core

/-!
# The cache of copied blobs

Threads call `copy_blob` on one `StorageService`.  Its cache maps a destination
blob to a dictionary with the state and the result of the copy; the dictionary
is replaced when a failed copy is claimed again, and a thread may still hold the
old one.  Every read or write of a dictionary, every operation on
`_copied_blob_urls_lock` and every check for cancellation is one move of a
thread; the copy itself ends in one move, and the other threads move meanwhile.
-/

namespace AzureShell

open Conc

inductive BlobCopyOperationState where
  | success
  | failed
  | copying
deriving DecidableEq, Repr

/-- `copied_blob_key`: storage account, container and blob. -/
structure CopiedBlobKey where
  storageName : Text
  containerName : Text
  blobName : Text
deriving DecidableEq, Repr

/-- A dictionary in the cache. -/
structure CopiedBlob where
  state : BlobCopyOperationState
  result : Option Text
deriving DecidableEq, Repr

namespace StorageService

/-- The cache with all dictionaries ever made for a key, numbered in the order of
their creation. -/
structure Cache where
  /-- The dictionary that `_cached_copied_blob_urls` holds for a key. -/
  latest : CopiedBlobKey → Option Nat
  entry : CopiedBlobKey → Nat → CopiedBlob

namespace Cache

/-- An empty cache; dictionaries that do not exist yet count as failed. -/
def empty : Cache where
  latest := fun _ => none
  entry := fun _ _ => ⟨.failed, none⟩

/-- The state of the cache entry of a key. -/
def stateOf (cache : Cache) (key : CopiedBlobKey) : Option BlobCopyOperationState :=
  (cache.latest key).map fun ref => (cache.entry key ref).state

/-- The number of the next dictionary for a key. -/
def nextRef (cache : Cache) (key : CopiedBlobKey) : Nat :=
  (cache.latest key).elim 0 (· + 1)

/-- `self._cached_copied_blob_urls[copied_blob_key] = {"state": copying, ...}`. -/
def claim (cache : Cache) (key : CopiedBlobKey) : Cache where
  latest := Function.update cache.latest key (some (cache.nextRef key))
  entry := Function.update cache.entry key <|
    Function.update (cache.entry key) (cache.nextRef key) ⟨.copying, none⟩

/-- Change one dictionary. -/
def modify (cache : Cache) (key : CopiedBlobKey) (ref : Nat) (change : CopiedBlob → CopiedBlob) :
    Cache :=
  { cache with entry := Function.update cache.entry key <|
      Function.update (cache.entry key) ref (change (cache.entry key ref)) }

/-- `copied_blob["state"] = state`. -/
def setState (cache : Cache) (key : CopiedBlobKey) (ref : Nat) (state : BlobCopyOperationState) :
    Cache :=
  cache.modify key ref fun copied => { copied with state := state }

/-- `copied_blob["result"] = result`. -/
def setResult (cache : Cache) (key : CopiedBlobKey) (ref : Nat) (result : Text) : Cache :=
  cache.modify key ref fun copied => { copied with result := some result }

end Cache

/-- What a dictionary is looked up for. -/
inductive Purpose where
  /-- Read the state, without the lock. -/
  | firstTest
  /-- Read the state in the waiting loop. -/
  | poll
  /-- Write the state of a failed copy. -/
  | fail
  /-- Write the state of a copy that returned a URL. -/
  | succeed (url : Text)
  /-- Write its result. -/
  | store (url : Text)
  /-- Read the result. -/
  | result
deriving DecidableEq, Repr

/-- Lookups that are made with the lock held. -/
def Purpose.isLocked : Purpose → Bool
  | fail => true
  | succeed _ => true
  | store _ => true
  | _ => false

/-- What the lock is taken for. -/
inductive Intent where
  | claim
  | fail
  | succeed (url : Text)
deriving DecidableEq, Repr

/-- What follows when the lock is given back. -/
inductive After where
  | wait
  | copy
  | result
  | raise
deriving DecidableEq, Repr

/-- Where a thread stands in `copy_blob`. -/
inductive Pc where
  | idle
  /-- About to test `copied_blob_key in self._cached_copied_blob_urls`. -/
  | contains (key : CopiedBlobKey)
  /-- About to look up `self._cached_copied_blob_urls[copied_blob_key]`. -/
  | lookup (key : CopiedBlobKey) (purpose : Purpose)
  /-- About to use the dictionary found. -/
  | use (key : CopiedBlobKey) (ref : Nat) (purpose : Purpose)
  | acquire (key : CopiedBlobKey) (intent : Intent)
  /-- About to `get` the dictionary, with the lock held. -/
  | get (key : CopiedBlobKey)
  /-- About to test whether the state is `failed`. -/
  | testFailed (key : CopiedBlobKey) (ref : Nat)
  /-- About to test whether the state is `copying`. -/
  | testCopying (key : CopiedBlobKey) (ref : Nat)
  /-- About to put a new dictionary into the cache. -/
  | claim (key : CopiedBlobKey)
  | release (key : CopiedBlobKey) (after : After)
  | checkIfCancelled (key : CopiedBlobKey)
  /-- `_copy_blob` is running. -/
  | copyBlob (key : CopiedBlobKey)
  | returned (key : CopiedBlobKey) (result : Option Text)
  | raised (key : CopiedBlobKey)
deriving DecidableEq, Repr

/-- What the threads share: the lock, the cache, and the URLs that calls of
`_copy_blob` have returned for a key. -/
structure Shared (ι : Type) where
  lock : Option ι
  cache : Cache
  copied : CopiedBlobKey → List Text

variable {ι : Type}

/-- Where a thread stands after it has taken the lock. -/
def Intent.locked (key : CopiedBlobKey) : Intent → Pc
  | claim => .get key
  | fail => .lookup key .fail
  | succeed url => .lookup key (.succeed url)

/-- Where a thread stands after it has given the lock back. -/
def After.unlocked (key : CopiedBlobKey) : After → Pc
  | wait => .checkIfCancelled key
  | copy => .copyBlob key
  | result => .lookup key .result
  | raise => .raised key

/-- The moves of a thread in `copy_blob`. -/
inductive CopyBlob (i : ι) : Shared ι → Pc → Shared ι → Pc → Prop where
  | call (s : Shared ι) (key : CopiedBlobKey) : CopyBlob i s .idle s (.contains key)
  | present {s : Shared ι} {key : CopiedBlobKey} (found : s.cache.latest key ≠ none) :
      CopyBlob i s (.contains key) s (.lookup key .firstTest)
  | absent {s : Shared ι} {key : CopiedBlobKey} (absent : s.cache.latest key = none) :
      CopyBlob i s (.contains key) s (.acquire key .claim)
  | found {s : Shared ι} {key : CopiedBlobKey} {purpose : Purpose} {ref : Nat}
      (found : s.cache.latest key = some ref) :
      CopyBlob i s (.lookup key purpose) s (.use key ref purpose)
  /-- `KeyError`. -/
  | missing {s : Shared ι} {key : CopiedBlobKey} {purpose : Purpose}
      (absent : s.cache.latest key = none) :
      CopyBlob i s (.lookup key purpose) s
        (if purpose.isLocked then .release key .raise else .raised key)
  /-- The fast path. -/
  | finished {s : Shared ι} {key : CopiedBlobKey} {ref : Nat}
      (success : (s.cache.entry key ref).state = .success) :
      CopyBlob i s (.use key ref .firstTest) s (.lookup key .result)
  | unfinished {s : Shared ι} {key : CopiedBlobKey} {ref : Nat}
      (other : (s.cache.entry key ref).state ≠ .success) :
      CopyBlob i s (.use key ref .firstTest) s (.acquire key .claim)
  | acquire {s : Shared ι} {key : CopiedBlobKey} {intent : Intent} (free : s.lock = none) :
      CopyBlob i s (.acquire key intent) { s with lock := some i } (intent.locked key)
  | getNone {s : Shared ι} {key : CopiedBlobKey} (absent : s.cache.latest key = none) :
      CopyBlob i s (.get key) s (.claim key)
  | getSome {s : Shared ι} {key : CopiedBlobKey} {ref : Nat}
      (found : s.cache.latest key = some ref) :
      CopyBlob i s (.get key) s (.testFailed key ref)
  | isFailed {s : Shared ι} {key : CopiedBlobKey} {ref : Nat}
      (failed : (s.cache.entry key ref).state = .failed) :
      CopyBlob i s (.testFailed key ref) s (.claim key)
  | notFailed {s : Shared ι} {key : CopiedBlobKey} {ref : Nat}
      (other : (s.cache.entry key ref).state ≠ .failed) :
      CopyBlob i s (.testFailed key ref) s (.testCopying key ref)
  | isCopying {s : Shared ι} {key : CopiedBlobKey} {ref : Nat}
      (copying : (s.cache.entry key ref).state = .copying) :
      CopyBlob i s (.testCopying key ref) s (.release key .wait)
  | notCopying {s : Shared ι} {key : CopiedBlobKey} {ref : Nat}
      (other : (s.cache.entry key ref).state ≠ .copying) :
      CopyBlob i s (.testCopying key ref) s (.release key .result)
  | claim (s : Shared ι) (key : CopiedBlobKey) :
      CopyBlob i s (.claim key) { s with cache := s.cache.claim key } (.release key .copy)
  | release {s : Shared ι} {key : CopiedBlobKey} {after : After} (held : s.lock = some i) :
      CopyBlob i s (.release key after) { s with lock := none } (after.unlocked key)
  | cancelled (s : Shared ι) (key : CopiedBlobKey) :
      CopyBlob i s (.checkIfCancelled key) s (.raised key)
  | notCancelled (s : Shared ι) (key : CopiedBlobKey) :
      CopyBlob i s (.checkIfCancelled key) s (.lookup key .poll)
  | pollSuccess {s : Shared ι} {key : CopiedBlobKey} {ref : Nat}
      (success : (s.cache.entry key ref).state = .success) :
      CopyBlob i s (.use key ref .poll) s (.lookup key .result)
  | pollFailed {s : Shared ι} {key : CopiedBlobKey} {ref : Nat}
      (failed : (s.cache.entry key ref).state = .failed) :
      CopyBlob i s (.use key ref .poll) s (.raised key)
  | pollCopying {s : Shared ι} {key : CopiedBlobKey} {ref : Nat}
      (copying : (s.cache.entry key ref).state = .copying) :
      CopyBlob i s (.use key ref .poll) s (.checkIfCancelled key)
  /-- `_copy_blob` raises, also because it was cancelled. -/
  | copyFails (s : Shared ι) (key : CopiedBlobKey) :
      CopyBlob i s (.copyBlob key) s (.acquire key .fail)
  | copyReturns (s : Shared ι) (key : CopiedBlobKey) (url : Text) :
      CopyBlob i s (.copyBlob key)
        { s with copied := Function.update s.copied key (url :: s.copied key) }
        (.acquire key (.succeed url))
  | writeFailed (s : Shared ι) (key : CopiedBlobKey) (ref : Nat) :
      CopyBlob i s (.use key ref .fail) { s with cache := s.cache.setState key ref .failed }
        (.release key .raise)
  | writeSuccess (s : Shared ι) (key : CopiedBlobKey) (ref : Nat) (url : Text) :
      CopyBlob i s (.use key ref (.succeed url))
        { s with cache := s.cache.setState key ref .success } (.lookup key (.store url))
  | writeResult (s : Shared ι) (key : CopiedBlobKey) (ref : Nat) (url : Text) :
      CopyBlob i s (.use key ref (.store url))
        { s with cache := s.cache.setResult key ref url } (.release key .result)
  | readResult (s : Shared ι) (key : CopiedBlobKey) (ref : Nat) :
      CopyBlob i s (.use key ref .result) s (.returned key (s.cache.entry key ref).result)
  | returns (s : Shared ι) (key : CopiedBlobKey) (result : Option Text) :
      CopyBlob i s (.returned key result) s .idle
  | raises (s : Shared ι) (key : CopiedBlobKey) : CopyBlob i s (.raised key) s .idle

/-- A new `StorageService`: nothing cached, nobody in `copy_blob`. -/
def initial (ι : Type) : Pool ι (Shared ι) Pc where
  shared := ⟨none, .empty, fun _ => []⟩
  pc := fun _ => .idle

/-- Every interleaving of calls of `copy_blob`. -/
def Reachable [DecidableEq ι] (pool : Pool ι (Shared ι) Pc) : Prop :=
  Pool.Reaches CopyBlob (fun _ _ => True) (initial ι) pool

end StorageService

end AzureShell
