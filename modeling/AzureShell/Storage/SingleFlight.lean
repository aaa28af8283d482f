import AzureShell.Storage.CopyBlob

/-!
# One copy at a time

The entry of a key is `copying` exactly while one thread is between its claim and
the record of how its copy ended.  The thread that claimed an entry is not
written down anywhere in the service, so the invariant carries it along.
-/

namespace AzureShell.StorageService

open Conc

variable {ι : Type}

/-! ## The cache under writes -/

namespace Cache

variable {cache : Cache} {key other : CopiedBlobKey} {ref otherRef : Nat}

theorem stateOf_eq_some_iff {state : BlobCopyOperationState} :
    cache.stateOf key = some state ↔
      ∃ ref, cache.latest key = some ref ∧ (cache.entry key ref).state = state := by
  unfold stateOf
  exact Option.map_eq_some_iff

theorem stateOf_of_latest (found : cache.latest key = some ref) :
    cache.stateOf key = some (cache.entry key ref).state := by
  rw [stateOf, found]
  rfl

theorem stateOf_eq_none_iff : cache.stateOf key = none ↔ cache.latest key = none := by
  unfold stateOf
  exact Option.map_eq_none_iff

@[simp]
theorem latest_claim_self : (cache.claim key).latest key = some (cache.nextRef key) := by
  simp [claim]

theorem latest_claim_of_ne (different : other ≠ key) :
    (cache.claim key).latest other = cache.latest other := by
  simp [claim, different]

theorem entry_claim_self :
    (cache.claim key).entry key (cache.nextRef key) = ⟨.copying, none⟩ := by
  simp [claim]

theorem entry_claim_of_ne_ref (different : otherRef ≠ cache.nextRef key) :
    (cache.claim key).entry key otherRef = cache.entry key otherRef := by
  simp [claim, different]

theorem entry_claim_of_ne (different : other ≠ key) :
    (cache.claim key).entry other = cache.entry other := by
  simp [claim, different]

@[simp]
theorem stateOf_claim_self : (cache.claim key).stateOf key = some .copying := by
  rw [stateOf_of_latest latest_claim_self, entry_claim_self]

theorem stateOf_claim_of_ne (different : other ≠ key) :
    (cache.claim key).stateOf other = cache.stateOf other := by
  unfold stateOf
  rw [latest_claim_of_ne different, entry_claim_of_ne different]

@[simp]
theorem latest_modify {change : CopiedBlob → CopiedBlob} :
    (cache.modify key ref change).latest = cache.latest :=
  rfl

theorem entry_modify_self {change : CopiedBlob → CopiedBlob} :
    (cache.modify key ref change).entry key ref = change (cache.entry key ref) := by
  simp [modify]

theorem entry_modify_of_ne_ref {change : CopiedBlob → CopiedBlob} (different : otherRef ≠ ref) :
    (cache.modify key ref change).entry key otherRef = cache.entry key otherRef := by
  simp [modify, different]

theorem entry_modify_of_ne {change : CopiedBlob → CopiedBlob} (different : other ≠ key) :
    (cache.modify key ref change).entry other = cache.entry other := by
  simp [modify, different]

theorem stateOf_modify_of_ne {change : CopiedBlob → CopiedBlob} (different : other ≠ key) :
    (cache.modify key ref change).stateOf other = cache.stateOf other := by
  unfold stateOf
  rw [latest_modify, entry_modify_of_ne different]

theorem stateOf_setState_self {state : BlobCopyOperationState}
    (found : cache.latest key = some ref) :
    (cache.setState key ref state).stateOf key = some state := by
  have kept : (cache.setState key ref state).latest key = some ref := found
  rw [stateOf_of_latest kept, setState, entry_modify_self]

theorem entry_setState_of_ne {state : BlobCopyOperationState} (different : other ≠ key) :
    (cache.setState key ref state).entry other = cache.entry other :=
  entry_modify_of_ne different

theorem entry_setResult_of_ne {result : Text} (different : other ≠ key) :
    (cache.setResult key ref result).entry other = cache.entry other :=
  entry_modify_of_ne different

/-- Writing a result changes no state. -/
theorem state_setResult {result : Text} (other : CopiedBlobKey) (otherRef : Nat) :
    ((cache.setResult key ref result).entry other otherRef).state =
      (cache.entry other otherRef).state := by
  unfold setResult
  by_cases sameKey : other = key
  · subst sameKey
    by_cases sameRef : otherRef = ref
    · rw [sameRef, entry_modify_self]
    · rw [entry_modify_of_ne_ref sameRef]
  · rw [entry_modify_of_ne sameKey]

end Cache

/-! ## What a thread knows -/

/-- Positions with the lock held. -/
def Pc.holdsLock : Pc → Bool
  | get _ => true
  | testFailed _ _ => true
  | testCopying _ _ => true
  | claim _ => true
  | release _ _ => true
  | lookup _ purpose => purpose.isLocked
  | use _ _ purpose => purpose.isLocked
  | _ => false

/-- The key of the copying section a thread is in: from the claim of the entry to
the record of success or failure. -/
def Pc.copies : Pc → Option CopiedBlobKey
  | release key .copy => some key
  | copyBlob key => some key
  | acquire key .fail => some key
  | acquire key (.succeed _) => some key
  | lookup key .fail => some key
  | lookup key (.succeed _) => some key
  | use key _ .fail => some key
  | use key _ (.succeed _) => some key
  | _ => none

/-- What a thread knows about the cache where it stands. -/
def Pc.Knows (cache : Cache) : Pc → Prop
  | testFailed key ref => cache.latest key = some ref
  | testCopying key ref => cache.latest key = some ref ∧ (cache.entry key ref).state ≠ .failed
  | claim key => cache.stateOf key = none ∨ cache.stateOf key = some .failed
  | release key .result => cache.stateOf key = some .success
  | lookup key (.store _) => cache.stateOf key = some .success
  | lookup key .result => cache.stateOf key = some .success
  | use key ref .fail => cache.latest key = some ref
  | use key ref (.succeed _) => cache.latest key = some ref
  | use key ref (.store _) => cache.latest key = some ref ∧ (cache.entry key ref).state = .success
  | use key ref .result => cache.latest key = some ref ∧ (cache.entry key ref).state = .success
  | _ => True

/-- Who has claimed which entry. -/
abbrev Owners (ι : Type) :=
  CopiedBlobKey → Option ι

/-- The claimed entries are those that are copying, and replaced dictionaries
belong to failed copies. -/
structure Claimed (owner : Owners ι) (s : Shared ι) : Prop where
  copying : ∀ key, s.cache.stateOf key = some .copying ↔ owner key ≠ none
  replaced : ∀ key ref, s.cache.latest key ≠ some ref → (s.cache.entry key ref).state = .failed

/-- What holds of a thread. -/
structure Own (owner : Owners ι) (s : Shared ι) (i : ι) (pc : Pc) : Prop where
  lock : pc.holdsLock = true ↔ s.lock = some i
  copies : ∀ key, pc.copies = some key ↔ owner key = some i
  knows : pc.Knows s.cache

/-- A successful entry stays. -/
def SuccessStays (s after : Shared ι) : Prop :=
  ∀ key ref, s.cache.latest key = some ref → (s.cache.entry key ref).state = .success →
    after.cache.latest key = some ref ∧ (after.cache.entry key ref).state = .success

/-- What a move of another thread leaves to thread `j`. -/
structure Undisturbed (owner next : Owners ι) (s after : Shared ι) (j : ι) : Prop where
  lock : s.lock = some j ↔ after.lock = some j
  owner : ∀ key, owner key = some j ↔ next key = some j
  /-- The states change only under the lock. -/
  locked : s.lock = some j → after.cache.latest = s.cache.latest ∧
    ∀ key ref, (after.cache.entry key ref).state = (s.cache.entry key ref).state
  success : SuccessStays s after

variable {owner next : Owners ι} {s after : Shared ι} {i j : ι} {pc : Pc}

theorem Undisturbed.stateOf (undisturbed : Undisturbed owner next s after j)
    (held : s.lock = some j) (key : CopiedBlobKey) :
    after.cache.stateOf key = s.cache.stateOf key := by
  rcases undisturbed.locked held with ⟨sameLatest, sameState⟩
  unfold Cache.stateOf
  rw [sameLatest]
  exact congrArg (fun f => Option.map f (s.cache.latest key)) (funext fun ref => sameState key ref)

theorem SuccessStays.stateOf (stays : SuccessStays s after) {key : CopiedBlobKey}
    (success : s.cache.stateOf key = some .success) : after.cache.stateOf key = some .success := by
  rcases Cache.stateOf_eq_some_iff.mp success with ⟨ref, found, state⟩
  exact Cache.stateOf_eq_some_iff.mpr ⟨ref, stays key ref found state⟩

/-- An undisturbed thread still knows what it knew. -/
theorem Own.undisturbed (own : Own owner s j pc)
    (undisturbed : Undisturbed owner next s after j) : Own next after j pc := by
  refine ⟨own.lock.trans undisturbed.lock, fun key => (own.copies key).trans (undisturbed.owner key),
    ?_⟩
  have knows := own.knows
  have held : pc.holdsLock = true → s.lock = some j := own.lock.mp
  cases pc with
  | testFailed key ref =>
      rcases undisturbed.locked (held rfl) with ⟨sameLatest, _⟩
      exact (congrFun sameLatest key).trans knows
  | testCopying key ref =>
      rcases undisturbed.locked (held rfl) with ⟨sameLatest, sameState⟩
      exact ⟨(congrFun sameLatest key).trans knows.1, fun failed =>
        knows.2 ((sameState key ref).symm.trans failed)⟩
  | claim key =>
      have same := undisturbed.stateOf (held rfl) key
      simp only [Pc.Knows] at knows ⊢
      rwa [same]
  | release key next =>
      cases next with
      | result => exact undisturbed.success.stateOf knows
      | _ => trivial
  | lookup key purpose =>
      cases purpose with
      | store url => exact undisturbed.success.stateOf knows
      | result => exact undisturbed.success.stateOf knows
      | _ => trivial
  | use key ref purpose =>
      cases purpose with
      | fail =>
          rcases undisturbed.locked (held rfl) with ⟨sameLatest, _⟩
          exact (congrFun sameLatest key).trans knows
      | succeed url =>
          rcases undisturbed.locked (held rfl) with ⟨sameLatest, _⟩
          exact (congrFun sameLatest key).trans knows
      | store url => exact undisturbed.success key ref knows.1 knows.2
      | result => exact undisturbed.success key ref knows.1 knows.2
      | _ => trivial
  | _ => trivial

/-! ## Moves -/

/-- A move that touches neither the lock nor the cache. -/
theorem Own.quiet {pc' : Pc} (own : Own owner s i pc) (sameLock : after.lock = s.lock)
    (held : pc'.holdsLock = pc.holdsLock) (copies : pc'.copies = pc.copies)
    (knows : pc'.Knows after.cache) : Own owner after i pc' := by
  constructor
  · rw [held, sameLock]
    exact own.lock
  · rw [copies]
    exact own.copies
  · exact knows

theorem Undisturbed.of_same (sameLock : after.lock = s.lock) (sameCache : after.cache = s.cache) :
    Undisturbed owner owner s after j := by
  constructor
  · rw [sameLock]
  · intro key
    rfl
  · intro _
    rw [sameCache]
    exact ⟨rfl, fun _ _ => rfl⟩
  · intro key ref found success
    rw [sameCache]
    exact ⟨found, success⟩

/-- The lock changes hands between nobody and thread `i`. -/
theorem Undisturbed.of_lock {lock : Option ι} (before : s.lock = none ∨ s.lock = some i)
    (afterwards : lock = none ∨ lock = some i) (other : j ≠ i) :
    Undisturbed owner owner s { s with lock := lock } j := by
  have notOurs : ∀ lock : Option ι, lock = none ∨ lock = some i → lock ≠ some j := by
    rintro lock (rfl | rfl) same
    · cases same
    · exact other (Option.some.inj same).symm
  constructor
  · constructor
    · intro same
      exact absurd same (notOurs _ before)
    · intro same
      exact absurd same (notOurs _ afterwards)
  · intro key
    rfl
  · intro _
    exact ⟨rfl, fun _ _ => rfl⟩
  · intro key ref found success
    exact ⟨found, success⟩

/-- The holder of the lock writes to the cache and gains or loses one entry. -/
theorem Undisturbed.of_write {cache : Cache} {key : CopiedBlobKey} {holder : Option ι}
    (held : s.lock = some i) (other : j ≠ i) (mine : owner key = none ∨ owner key = some i)
    (mineAfter : holder = none ∨ holder = some i)
    (success : SuccessStays s { s with cache := cache }) :
    Undisturbed owner (Function.update owner key holder) s { s with cache := cache } j := by
  have notOurs : ∀ holder : Option ι, holder = none ∨ holder = some i → holder ≠ some j := by
    rintro holder (rfl | rfl) same
    · cases same
    · exact other (Option.some.inj same).symm
  constructor
  · rfl
  · intro otherKey
    by_cases same : otherKey = key
    · subst same
      rw [Function.update_self]
      constructor
      · intro ours
        exact absurd ours (notOurs _ mine)
      · intro ours
        exact absurd ours (notOurs _ mineAfter)
    · rw [Function.update_of_ne same]
  · intro ours
    rw [held] at ours
    exact absurd (Option.some.inj ours).symm other
  · exact success

theorem Claimed.owner_none (claimed : Claimed owner s) {key : CopiedBlobKey}
    (notCopying : s.cache.stateOf key ≠ some .copying) : owner key = none := by
  by_contra isOwned
  exact notCopying ((claimed.copying key).mpr isOwned)

/-- The claim of an entry that is absent or failed. -/
theorem Claimed.claim (claimed : Claimed owner s) {key : CopiedBlobKey}
    (free : s.cache.stateOf key = none ∨ s.cache.stateOf key = some .failed) :
    Claimed (Function.update owner key (some i)) { s with cache := s.cache.claim key } := by
  constructor
  · intro other
    by_cases same : other = key
    · subst same
      simp
    · rw [Function.update_of_ne same, Cache.stateOf_claim_of_ne same]
      exact claimed.copying other
  · intro other ref notLatest
    by_cases same : other = key
    · subst same
      rw [Cache.latest_claim_self] at notLatest
      rw [Cache.entry_claim_of_ne_ref fun isNext => notLatest (congrArg some isNext.symm)]
      by_cases wasLatest : s.cache.latest other = some ref
      · rw [Cache.stateOf_of_latest wasLatest] at free
        rcases free with absent | failed
        · cases absent
        · exact Option.some.inj failed
      · exact claimed.replaced other ref wasLatest
    · rw [Cache.latest_claim_of_ne same] at notLatest
      rw [Cache.entry_claim_of_ne same]
      exact claimed.replaced other ref notLatest

/-- The record of how a copy ended. -/
theorem Claimed.setState (claimed : Claimed owner s) {key : CopiedBlobKey} {ref : Nat}
    {state : BlobCopyOperationState} (found : s.cache.latest key = some ref)
    (ended : state ≠ .copying) :
    Claimed (Function.update owner key none)
      { s with cache := s.cache.setState key ref state } := by
  constructor
  · intro other
    by_cases same : other = key
    · subst same
      rw [Function.update_self, Cache.stateOf_setState_self found]
      simp [ended]
    · rw [Function.update_of_ne same, Cache.setState, Cache.stateOf_modify_of_ne same]
      exact claimed.copying other
  · intro other otherRef notLatest
    have wasNotLatest : s.cache.latest other ≠ some otherRef := notLatest
    by_cases same : other = key
    · subst same
      have different : otherRef ≠ ref := by
        rintro rfl
        exact wasNotLatest found
      rw [Cache.setState, Cache.entry_modify_of_ne_ref different]
      exact claimed.replaced other otherRef wasNotLatest
    · rw [Cache.setState, Cache.entry_modify_of_ne same]
      exact claimed.replaced other otherRef wasNotLatest

theorem Claimed.setResult (claimed : Claimed owner s) (key : CopiedBlobKey) (ref : Nat)
    (url : Text) : Claimed owner { s with cache := s.cache.setResult key ref url } := by
  have sameState : (s.cache.setResult key ref url).stateOf = s.cache.stateOf := by
    funext other
    unfold Cache.stateOf
    exact congrArg (fun f => Option.map f (s.cache.latest other))
      (funext fun otherRef => Cache.state_setResult other otherRef)
  constructor
  · intro other
    rw [sameState]
    exact claimed.copying other
  · intro other otherRef notLatest
    rw [Cache.state_setResult]
    exact claimed.replaced other otherRef notLatest

/-- A success stays when another entry is written, or another dictionary. -/
theorem successStays_setState {key : CopiedBlobKey} {ref : Nat} {state : BlobCopyOperationState}
    (copying : (s.cache.entry key ref).state = .copying) :
    SuccessStays s { s with cache := s.cache.setState key ref state } := by
  intro other otherRef found success
  refine ⟨found, ?_⟩
  by_cases same : other = key
  · subst same
    have different : otherRef ≠ ref := by
      rintro rfl
      rw [copying] at success
      contradiction
    rw [Cache.setState, Cache.entry_modify_of_ne_ref different]
    exact success
  · rw [Cache.setState, Cache.entry_modify_of_ne same]
    exact success

theorem successStays_claim {key : CopiedBlobKey}
    (free : s.cache.stateOf key = none ∨ s.cache.stateOf key = some .failed) :
    SuccessStays s { s with cache := s.cache.claim key } := by
  intro other otherRef found success
  have different : other ≠ key := by
    rintro rfl
    rw [Cache.stateOf_of_latest found, success] at free
    simp at free
  constructor
  · rw [Cache.latest_claim_of_ne different]
    exact found
  · rw [Cache.entry_claim_of_ne different]
    exact success

theorem successStays_setResult (s : Shared ι) (key : CopiedBlobKey) (ref : Nat) (url : Text) :
    SuccessStays s { s with cache := s.cache.setResult key ref url } := by
  intro other otherRef found success
  refine ⟨found, ?_⟩
  rw [Cache.state_setResult]
  exact success

theorem SuccessStays.of_sameCache (same : after.cache = s.cache) : SuccessStays s after := by
  intro key ref found success
  rw [same]
  exact ⟨found, success⟩

/-- What a move of thread `i` establishes. -/
def Establishes (owner : Owners ι) (s after : Shared ι) (i : ι) (pc : Pc) : Prop :=
  SuccessStays s after ∧ ∃ next, Claimed next after ∧ Own next after i pc ∧
    ∀ j, j ≠ i → Undisturbed owner next s after j

/-- A move that changes neither the lock nor the cache nor who copies what. -/
theorem establishes_quiet {pc' : Pc} (claimed : Claimed owner s) (own : Own owner s i pc)
    (sameLock : after.lock = s.lock) (sameCache : after.cache = s.cache)
    (held : pc'.holdsLock = pc.holdsLock) (copies : pc'.copies = pc.copies)
    (knows : pc'.Knows s.cache) : Establishes owner s after i pc' := by
  refine ⟨.of_sameCache sameCache, owner, ?_, own.quiet sameLock held copies (sameCache ▸ knows),
    fun _ _ => .of_same sameLock sameCache⟩
  constructor
  · rw [sameCache]
    exact claimed.copying
  · rw [sameCache]
    exact claimed.replaced

theorem establishes_acquire {key : CopiedBlobKey} {intent : Intent} (claimed : Claimed owner s)
    (own : Own owner s i (.acquire key intent)) (free : s.lock = none) :
    Establishes owner s { s with lock := some i } i (intent.locked key) := by
  refine ⟨.of_sameCache rfl, owner, ⟨claimed.copying, claimed.replaced⟩, ?_, fun j other =>
    .of_lock (Or.inl free) (Or.inr rfl) other⟩
  have copies := own.copies
  cases intent with
  | claim => exact ⟨by simp [Intent.locked, Pc.holdsLock], copies, trivial⟩
  | fail => exact ⟨by simp [Intent.locked, Pc.holdsLock, Purpose.isLocked], copies, trivial⟩
  | succeed url =>
      exact ⟨by simp [Intent.locked, Pc.holdsLock, Purpose.isLocked], copies, trivial⟩

theorem establishes_release {key : CopiedBlobKey} {next : After} (claimed : Claimed owner s)
    (own : Own owner s i (.release key next)) (held : s.lock = some i) :
    Establishes owner s { s with lock := none } i (next.unlocked key) := by
  refine ⟨.of_sameCache rfl, owner, ⟨claimed.copying, claimed.replaced⟩, ?_, fun j other =>
    .of_lock (Or.inr held) (Or.inl rfl) other⟩
  have copies := own.copies
  have knows := own.knows
  cases next with
  | wait => exact ⟨by simp [After.unlocked, Pc.holdsLock], copies, trivial⟩
  | copy => exact ⟨by simp [After.unlocked, Pc.holdsLock], copies, trivial⟩
  | result => exact ⟨by simp [After.unlocked, Pc.holdsLock, Purpose.isLocked], copies, knows⟩
  | raise => exact ⟨by simp [After.unlocked, Pc.holdsLock], copies, trivial⟩

theorem establishes_claim [DecidableEq ι] {key : CopiedBlobKey} (claimed : Claimed owner s)
    (own : Own owner s i (.claim key)) :
    Establishes owner s { s with cache := s.cache.claim key } i (.release key .copy) := by
  have held : s.lock = some i := own.lock.mp rfl
  have free : s.cache.stateOf key = none ∨ s.cache.stateOf key = some .failed := own.knows
  have unowned : owner key = none := by
    apply claimed.owner_none
    rcases free with absent | failed
    · simp [absent]
    · simp [failed]
  have stays : SuccessStays s { s with cache := s.cache.claim key } := successStays_claim free
  refine ⟨stays, Function.update owner key (some i), claimed.claim free, ?_, ?_⟩
  · constructor
    · exact own.lock
    · intro other
      by_cases same : other = key
      · subst same
        simp [Pc.copies]
      · rw [Function.update_of_ne same, ← own.copies other]
        simp [Pc.copies, Ne.symm same]
    · trivial
  · intro j other
    exact .of_write held other (Or.inl unowned) (Or.inr rfl) stays

/-- The record of a failure or of a success. -/
theorem establishes_setState [DecidableEq ι] {key : CopiedBlobKey} {ref : Nat}
    {state : BlobCopyOperationState} {pc' : Pc} (claimed : Claimed owner s)
    (own : Own owner s i pc) (isHeld : pc.holdsLock = true) (copying : pc.copies = some key)
    (found : s.cache.latest key = some ref) (ended : state ≠ .copying)
    (held : pc'.holdsLock = true) (copies : pc'.copies = none)
    (knows : pc'.Knows (s.cache.setState key ref state)) :
    Establishes owner s { s with cache := s.cache.setState key ref state } i pc' := by
  have owned : owner key = some i := (own.copies key).mp copying
  have isCopying : (s.cache.entry key ref).state = .copying := by
    have inSection := (claimed.copying key).mpr (by simp [owned])
    rw [Cache.stateOf_of_latest found] at inSection
    exact Option.some.inj inSection
  have stays : SuccessStays s { s with cache := s.cache.setState key ref state } :=
    successStays_setState isCopying
  refine ⟨stays, Function.update owner key none, claimed.setState found ended, ?_, ?_⟩
  · constructor
    · exact iff_of_true held (own.lock.mp isHeld)
    · intro other
      rw [copies]
      by_cases same : other = key
      · subst same
        simp
      · rw [Function.update_of_ne same, ← own.copies other, copying]
        simp [Ne.symm same]
    · exact knows
  · intro j other
    exact .of_write (own.lock.mp isHeld) other (Or.inr owned) (Or.inl rfl) stays

theorem establishes_setResult {key : CopiedBlobKey} {ref : Nat} {url : Text}
    (claimed : Claimed owner s) (own : Own owner s i (.use key ref (.store url))) :
    Establishes owner s { s with cache := s.cache.setResult key ref url } i
      (.release key .result) := by
  rcases own.knows with ⟨found, success⟩
  have held : s.lock = some i := own.lock.mp rfl
  refine ⟨successStays_setResult s key ref url, owner, claimed.setResult key ref url, ?_, ?_⟩
  · refine ⟨own.lock, own.copies, ?_⟩
    refine Cache.stateOf_eq_some_iff.mpr ⟨ref, found, ?_⟩
    rw [Cache.state_setResult]
    exact success
  · intro j other
    constructor
    · rfl
    · intro _
      rfl
    · intro ours
      rw [held] at ours
      exact absurd (Option.some.inj ours).symm other
    · exact successStays_setResult s key ref url

variable [DecidableEq ι]

omit [DecidableEq ι] in
/-- An entry that was finished has not been replaced. -/
theorem Claimed.stateOf_of_success (claimed : Claimed owner s) {key : CopiedBlobKey} {ref : Nat}
    (success : (s.cache.entry key ref).state = .success) :
    s.cache.stateOf key = some .success := by
  have isLatest : s.cache.latest key = some ref := by
    by_contra notLatest
    rw [claimed.replaced key ref notLatest] at success
    cases success
  exact Cache.stateOf_eq_some_iff.mpr ⟨ref, isLatest, success⟩

/-- One lemma for every move of a thread. -/
theorem CopyBlob.establishes {pc' : Pc} (move : CopyBlob i s pc after pc')
    (claimed : Claimed owner s) (own : Own owner s i pc) : Establishes owner s after i pc' := by
  have knows := own.knows
  have absent_of_copies : ∀ key, pc.copies = some key → s.cache.latest key ≠ none := by
    intro key copying absent
    have isCopying := (claimed.copying key).mpr (by simp [(own.copies key).mp copying])
    rw [Cache.stateOf_eq_none_iff.mpr absent] at isCopying
    cases isCopying
  have quiet : ∀ pc' : Pc, pc'.holdsLock = pc.holdsLock → pc'.copies = pc.copies →
      pc'.Knows s.cache → Establishes owner s s i pc' :=
    fun _ => establishes_quiet claimed own rfl rfl
  cases move with
  | call key => exact quiet _ rfl rfl trivial
  | present found => exact quiet _ rfl rfl trivial
  | absent absent => exact quiet _ rfl rfl trivial
  | found found =>
      rename_i key purpose ref
      cases purpose with
      | fail => exact quiet _ rfl rfl found
      | succeed url => exact quiet _ rfl rfl found
      | store url =>
          have success := (Cache.stateOf_of_latest found).symm.trans knows
          exact quiet _ rfl rfl ⟨found, Option.some.inj success⟩
      | result =>
          have success := (Cache.stateOf_of_latest found).symm.trans knows
          exact quiet _ rfl rfl ⟨found, Option.some.inj success⟩
      | _ => exact quiet _ rfl rfl trivial
  | missing absent =>
      rename_i key purpose
      have noState := Cache.stateOf_eq_none_iff.mpr absent
      cases purpose with
      | fail => exact absurd absent (absent_of_copies key rfl)
      | succeed url => exact absurd absent (absent_of_copies key rfl)
      | store url =>
          rw [Pc.Knows, noState] at knows
          cases knows
      | result =>
          rw [Pc.Knows, noState] at knows
          cases knows
      | _ => exact quiet _ rfl rfl trivial
  | finished success => exact quiet _ rfl rfl (claimed.stateOf_of_success success)
  | unfinished other => exact quiet _ rfl rfl trivial
  | acquire free => exact establishes_acquire claimed own free
  | getNone absent => exact quiet _ rfl rfl (Or.inl (Cache.stateOf_eq_none_iff.mpr absent))
  | getSome found => exact quiet _ rfl rfl found
  | isFailed failed =>
      exact quiet _ rfl rfl (Or.inr (Cache.stateOf_eq_some_iff.mpr ⟨_, knows, failed⟩))
  | notFailed other => exact quiet _ rfl rfl ⟨knows, other⟩
  | isCopying copying => exact quiet _ rfl rfl trivial
  | notCopying other =>
      rename_i key ref
      refine quiet _ rfl rfl (Cache.stateOf_eq_some_iff.mpr ⟨ref, knows.1, ?_⟩)
      cases state : (s.cache.entry key ref).state with
      | success => rfl
      | failed => exact absurd state knows.2
      | copying => exact absurd state other
  | claim key => exact establishes_claim claimed own
  | release held => exact establishes_release claimed own held
  | cancelled key => exact quiet _ rfl rfl trivial
  | notCancelled key => exact quiet _ rfl rfl trivial
  | pollSuccess success => exact quiet _ rfl rfl (claimed.stateOf_of_success success)
  | pollFailed failed => exact quiet _ rfl rfl trivial
  | pollCopying copying => exact quiet _ rfl rfl trivial
  | copyFails key => exact quiet _ rfl rfl trivial
  | copyReturns key url => exact establishes_quiet claimed own rfl rfl rfl rfl trivial
  | writeFailed key ref =>
      exact establishes_setState claimed own rfl rfl knows (by decide) rfl rfl trivial
  | writeSuccess key ref url =>
      exact establishes_setState claimed own rfl rfl knows (by decide) rfl rfl
        (Cache.stateOf_setState_self knows)
  | writeResult key ref url => exact establishes_setResult claimed own
  | readResult key ref => exact quiet _ rfl rfl trivial
  | returns key result => exact quiet _ rfl rfl trivial
  | raises key => exact quiet _ rfl rfl trivial

/-! ## Reachable pools -/

/-- The threads and the cache agree about who copies what. -/
def Orderly (pool : Pool ι (Shared ι) Pc) : Prop :=
  Pool.Explained Claimed Own pool

omit [DecidableEq ι] in
theorem orderly_initial : Orderly (initial ι) := by
  refine ⟨fun _ => none, ⟨?_, ?_⟩, ?_⟩
  · intro key
    simp [initial, Cache.stateOf, Cache.empty]
  · intro key ref _
    rfl
  · intro i
    exact ⟨by simp [initial, Pc.holdsLock], by simp [initial, Pc.copies], trivial⟩

/-- A move keeps the pool orderly and what was copied. -/
theorem Orderly.moves {pool next : Pool ι (Shared ι) Pc} (orderly : Orderly pool)
    (moves : Pool.Moves CopyBlob i pool next) :
    Orderly next ∧ SuccessStays pool.shared next.shared := by
  constructor
  · apply Pool.Explained.moves orderly moves
    intro owner shared pc claimed owns move
    rcases move.establishes claimed (owns i) with ⟨_, nextOwner, nextClaimed, self, others⟩
    exact ⟨nextOwner, nextClaimed, self, fun j other => (owns j).undisturbed (others j other)⟩
  · rcases orderly with ⟨owner, claimed, owns⟩
    rcases moves with ⟨shared, pc, move, rfl⟩
    exact (move.establishes claimed (owns i)).1

theorem Reachable.orderly {pool : Pool ι (Shared ι) Pc} (reachable : Reachable pool) :
    Orderly pool :=
  Pool.Reaches.preserves (fun _ _ _ _ moves orderly => (orderly.moves moves).1) reachable
    orderly_initial

omit [DecidableEq ι] in
/-- The entry is copying exactly when one thread is in its copying section. -/
theorem Orderly.copying_iff {pool : Pool ι (Shared ι) Pc} (orderly : Orderly pool)
    (key : CopiedBlobKey) :
    pool.shared.cache.stateOf key = some .copying ↔ ∃! i, (pool.pc i).copies = some key := by
  rcases orderly with ⟨owner, claimed, owns⟩
  rw [claimed.copying key]
  constructor
  · intro isOwned
    rcases Option.ne_none_iff_exists'.mp isOwned with ⟨i, owned⟩
    refine ⟨i, ((owns i).copies key).mpr owned, ?_⟩
    intro j copies
    have alsoOwned := ((owns j).copies key).mp copies
    rw [owned] at alsoOwned
    exact (Option.some.inj alsoOwned).symm
  · rintro ⟨i, copies, _⟩ unowned
    rw [((owns i).copies key).mp copies] at unowned
    cases unowned

omit [DecidableEq ι] in
theorem Orderly.copies_unique {pool : Pool ι (Shared ι) Pc} (orderly : Orderly pool)
    {key : CopiedBlobKey} (first : (pool.pc i).copies = some key)
    (second : (pool.pc j).copies = some key) : i = j := by
  rcases orderly with ⟨owner, claimed, owns⟩
  have firstOwned := ((owns i).copies key).mp first
  rw [((owns j).copies key).mp second] at firstOwned
  exact (Option.some.inj firstOwned).symm

omit [DecidableEq ι] in
theorem Orderly.not_copies {pool : Pool ι (Shared ι) Pc} (orderly : Orderly pool)
    {key : CopiedBlobKey} (notCopying : pool.shared.cache.stateOf key ≠ some .copying) (i : ι) :
    (pool.pc i).copies ≠ some key := by
  intro copies
  apply notCopying
  rw [orderly.copying_iff key]
  exact ⟨i, copies, fun _ also => orderly.copies_unique also copies⟩

/-- In every reachable pool an entry is copying exactly while one thread is in
its copying section, at most one copy of a blob is running, and a successful
entry stays so and is never copied again. -/
theorem copyBlob_single_flight {pool : Pool ι (Shared ι) Pc} (reachable : Reachable pool)
    (key : CopiedBlobKey) :
    (pool.shared.cache.stateOf key = some .copying ↔ ∃! i, (pool.pc i).copies = some key) ∧
      (∀ i j, pool.pc i = .copyBlob key → pool.pc j = .copyBlob key → i = j) ∧
      (pool.shared.cache.stateOf key = some .success →
        ∀ later, Pool.Reaches CopyBlob (fun _ _ => True) pool later →
          later.shared.cache.stateOf key = some .success ∧
            ∀ i, (later.pc i).copies ≠ some key) := by
  refine ⟨reachable.orderly.copying_iff key, ?_, ?_⟩
  · intro i j first second
    apply reachable.orderly.copies_unique
    · rw [first]
      rfl
    · rw [second]
      rfl
  · intro success later reaches
    have stays : Orderly later ∧ later.shared.cache.stateOf key = some .success := by
      apply Pool.Reaches.preserves _ reaches ⟨reachable.orderly, success⟩
      rintro i before after _ moves ⟨orderly, wasSuccess⟩
      have next := orderly.moves moves
      exact ⟨next.1, next.2.stateOf wasSuccess⟩
    refine ⟨stays.2, stays.1.not_copies ?_⟩
    rw [stays.2]
    simp

/-- The blob of the examples. -/
def imageKey : CopiedBlobKey :=
  ⟨"account".toList, "images".toList, "image.vhd".toList⟩

def imageUrl : Text :=
  "https://account.blob.core.windows.net/images/image.vhd".toList

/-- A thread that has claimed the entry of a new blob. -/
theorem claimed_reachable : ∃ pool : Pool Bool (Shared Bool) Pc, Reachable pool ∧
    pool.pc true = .copyBlob imageKey ∧ pool.pc false = .idle ∧
      pool.shared.lock = none ∧ pool.shared.cache = Cache.empty.claim imageKey := by
  have start : Reachable (initial Bool) := .refl
  have called := Pool.Reaches.move start true trivial (.call _ imageKey)
  have absent := called.move true trivial (.absent rfl)
  have locked := absent.move true trivial (.acquire rfl)
  have got := locked.move true trivial (.getNone rfl)
  have claimed := got.move true trivial (.claim _ imageKey)
  have released := claimed.move true trivial (.release rfl)
  exact ⟨_, released, rfl, rfl, rfl, rfl⟩

theorem copyBlob_single_flight_example : ∃ pool : Pool Bool (Shared Bool) Pc, Reachable pool ∧
    pool.shared.cache.stateOf imageKey = some .copying ∧
      ∃! i, (pool.pc i).copies = some imageKey := by
  rcases claimed_reachable with ⟨pool, reachable, _, _, _, cached⟩
  have copying : pool.shared.cache.stateOf imageKey = some .copying := by
    rw [cached, Cache.stateOf_claim_self]
  exact ⟨pool, reachable, copying, (copyBlob_single_flight reachable imageKey).1.mp copying⟩

end AzureShell.StorageService
