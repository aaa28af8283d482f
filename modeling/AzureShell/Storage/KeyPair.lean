import AzureShell.Azure.Model

/-!
# The cache of key pairs

A `KeyPairService` saves the key pair of a sandbox to two files of its storage
account and keeps every pair it has read in a cache.  The cache is never told
about a save, so it agrees with the files as long as no save changes a pair that
has been read.
-/

namespace AzureShell

/-- `SSHKey`. -/
structure SSHKey where
  privateKey : Text
  publicKey : Text
deriving DecidableEq, Repr

namespace KeyPairService

def sshPubKeyName : Text :=
  "id_rsa.pub".toList

def sshPrivateKeyName : Text :=
  "id_rsa".toList

/-- `cached_key`: the resource group and the storage account. -/
structure CachedKey where
  groupName : Text
  storageName : Text
deriving DecidableEq, Repr

/-- The files in the share of each storage account, and the cache. -/
structure State where
  /-- The resource group of a storage account. -/
  groupOf : Text → Option Text
  /-- The content last written to a file of a storage account. -/
  files : Text → Text → Option Text
  cachedKeyPairs : CachedKey → Option SSHKey

/-- `_get_file_service`: the keys of an account are listed in its group only. -/
def getFileService (key : CachedKey) (s : State) : Except PyException Unit :=
  if s.groupOf key.storageName = some key.groupName then .ok () else .error .notFound

/-- A file is written. -/
def State.withFile (s : State) (storageName fileName fileContent : Text) : State :=
  { s with files := Function.update s.files storageName <|
      Function.update (s.files storageName) fileName (some fileContent) }

/-- `StorageService.create_file`. -/
def createFile (key : CachedKey) (fileName fileContent : Text) (s : State) :
    Except PyException State := do
  getFileService key s
  pure (s.withFile key.storageName fileName fileContent)

/-- `StorageService.get_file`. -/
def getFile (key : CachedKey) (fileName : Text) (s : State) : Except PyException Text := do
  getFileService key s
  match s.files key.storageName fileName with
  | some content => pure content
  | none => throw .notFound

/-- `save_key_pair`. -/
def saveKeyPair (key : CachedKey) (keyPair : SSHKey) (s : State) : Except PyException State := do
  let s ← createFile key sshPubKeyName keyPair.publicKey s
  createFile key sshPrivateKeyName keyPair.privateKey s

/-- `get_key_pair`. -/
def getKeyPair (key : CachedKey) (s : State) : Except PyException (SSHKey × State) :=
  match s.cachedKeyPairs key with
  | some keyPair => pure (keyPair, s)
  | none => do
      let publicKey ← getFile key sshPubKeyName s
      let privateKey ← getFile key sshPrivateKeyName s
      let keyPair := ⟨privateKey, publicKey⟩
      pure (keyPair, { s with
        cachedKeyPairs := Function.update s.cachedKeyPairs key (some keyPair) })

/-- A completed call, with what it saved or returned. -/
inductive Event where
  | saved (key : CachedKey) (keyPair : SSHKey)
  | got (key : CachedKey) (keyPair : SSHKey)
deriving DecidableEq, Repr

/-- The completed calls of a service, oldest first. -/
inductive Runs (start : State) : List Event → State → Prop where
  | start : Runs start [] start
  | save {events : List Event} {s next : State} {key : CachedKey} {keyPair : SSHKey}
      (runs : Runs start events s) (completed : saveKeyPair key keyPair s = .ok next) :
      Runs start (events ++ [.saved key keyPair]) next
  | get {events : List Event} {s next : State} {key : CachedKey} {keyPair : SSHKey}
      (runs : Runs start events s) (completed : getKeyPair key s = .ok (keyPair, next)) :
      Runs start (events ++ [.got key keyPair]) next

/-! ## What the files hold -/

/-- The pair in the files of a storage account, if both are there. -/
def State.pairOf (s : State) (storageName : Text) : Option SSHKey :=
  (s.files storageName sshPrivateKeyName).bind fun privateKey =>
    (s.files storageName sshPubKeyName).map fun publicKey => ⟨privateKey, publicKey⟩

/-- The pair a call has saved under a key. -/
def Event.savedUnder (key : CachedKey) : Event → Option SSHKey
  | .saved other keyPair => if other = key then some keyPair else none
  | .got _ _ => none

/-- The pair of the most recent save under a key. -/
def lastSaved (key : CachedKey) (events : List Event) : Option SSHKey :=
  events.reverse.findSome? (Event.savedUnder key)

/-- The pair that the files under a key hold after some calls. -/
def stored (start : State) (key : CachedKey) (events : List Event) : Option SSHKey :=
  (lastSaved key events).or (start.pairOf key.storageName)

variable {start s next : State} {key other : CachedKey} {keyPair : SSHKey} {events : List Event}

theorem lastSaved_append (key : CachedKey) (events : List Event) (event : Event) :
    lastSaved key (events ++ [event]) = (event.savedUnder key).or (lastSaved key events) := by
  rw [lastSaved, List.reverse_append, List.findSome?_append]
  simp [lastSaved]

theorem lastSaved_eq_none_of_append {later : List Event}
    (unsaved : lastSaved key (events ++ later) = none) : lastSaved key events = none := by
  rw [lastSaved, List.reverse_append, List.findSome?_append, Option.or_eq_none_iff] at unsaved
  exact unsaved.2

theorem stored_of_lastSaved (saved : lastSaved key events = some keyPair) :
    stored start key events = some keyPair := by
  rw [stored, saved]
  rfl

theorem stored_of_unsaved (unsaved : lastSaved key events = none) :
    stored start key events = start.pairOf key.storageName := by
  rw [stored, unsaved]
  rfl

theorem sshPubKeyName_ne : sshPubKeyName ≠ sshPrivateKeyName := by
  decide

theorem createFile_eq_ok {fileName fileContent : Text}
    (completed : createFile key fileName fileContent s = .ok next) :
    s.groupOf key.storageName = some key.groupName ∧
      next = s.withFile key.storageName fileName fileContent := by
  unfold createFile getFileService at completed
  split at completed
  · rename_i isGroup
    cases completed
    exact ⟨isGroup, rfl⟩
  · cases completed

/-- A completed save is made in the group of the account. -/
theorem saveKeyPair_eq_ok (completed : saveKeyPair key keyPair s = .ok next) :
    s.groupOf key.storageName = some key.groupName ∧ next.groupOf = s.groupOf ∧
      next.cachedKeyPairs = s.cachedKeyPairs ∧ next.pairOf key.storageName = some keyPair ∧
        ∀ storageName, storageName ≠ key.storageName →
          next.pairOf storageName = s.pairOf storageName := by
  unfold saveKeyPair at completed
  cases first : createFile key sshPubKeyName keyPair.publicKey s with
  | error e =>
      rw [first] at completed
      cases completed
  | ok between =>
      rw [first] at completed
      have second : createFile key sshPrivateKeyName keyPair.privateKey between = .ok next :=
        completed
      rcases createFile_eq_ok first with ⟨isGroup, isBetween⟩
      rcases createFile_eq_ok second with ⟨_, isNext⟩
      subst isBetween isNext
      refine ⟨isGroup, rfl, rfl, ?_, ?_⟩
      · simp [State.pairOf, State.withFile, sshPubKeyName_ne]
      · intro storageName different
        simp [State.pairOf, State.withFile, different]

/-- A completed read finds the pair in the cache or in the files, and caches
it. -/
theorem getKeyPair_eq_ok (completed : getKeyPair key s = .ok (keyPair, next)) :
    next.groupOf = s.groupOf ∧ next.files = s.files ∧
      next.cachedKeyPairs = Function.update s.cachedKeyPairs key (some keyPair) ∧
        (s.cachedKeyPairs key = some keyPair ∨ s.cachedKeyPairs key = none ∧
          s.groupOf key.storageName = some key.groupName ∧
            s.pairOf key.storageName = some keyPair) := by
  unfold getKeyPair at completed
  split at completed
  · rename_i cachedPair cached
    cases completed
    refine ⟨rfl, rfl, ?_, Or.inl cached⟩
    rw [← cached, Function.update_eq_self]
  · rename_i absent
    by_cases isGroup : s.groupOf key.storageName = some key.groupName
    · simp only [getFile, getFileService, isGroup, if_true] at completed
      cases isPub : s.files key.storageName sshPubKeyName with
      | none =>
          rw [isPub] at completed
          cases completed
      | some publicKey =>
      cases isPrivate : s.files key.storageName sshPrivateKeyName with
      | none =>
          rw [isPub, isPrivate] at completed
          cases completed
      | some privateKey =>
          rw [isPub, isPrivate] at completed
          cases completed
          refine ⟨rfl, rfl, rfl, Or.inr ⟨absent, isGroup, ?_⟩⟩
          rw [State.pairOf, isPub, isPrivate]
          rfl
    · simp only [getFile, getFileService, isGroup, if_false] at completed
      cases completed

/-! ## Runs -/

/-- The cached pair of a key is the one the files held at its first read. -/
def FirstRead (start : State) (key : CachedKey) (keyPair : SSHKey) (events : List Event) : Prop :=
  ∃ earlier later, events = earlier ++ .got key keyPair :: later ∧
    (∀ other, .got key other ∉ earlier) ∧ stored start key earlier = some keyPair

theorem FirstRead.append (firstRead : FirstRead start key keyPair events) (event : Event) :
    FirstRead start key keyPair (events ++ [event]) := by
  rcases firstRead with ⟨earlier, later, rfl, isFirst, held⟩
  exact ⟨earlier, later ++ [event], by simp, isFirst, held⟩

/-- What holds after every run from an empty cache. -/
structure Kept (start : State) (events : List Event) (s : State) : Prop where
  groupOf : s.groupOf = start.groupOf
  files : ∀ key, start.groupOf key.storageName = some key.groupName →
    s.pairOf key.storageName = stored start key events
  cached : ∀ key keyPair, s.cachedKeyPairs key = some keyPair →
    FirstRead start key keyPair events
  got : ∀ key keyPair, .got key keyPair ∈ events → s.cachedKeyPairs key = some keyPair

theorem Kept.save (kept : Kept start events s)
    (completed : saveKeyPair key keyPair s = .ok next) :
    Kept start (events ++ [.saved key keyPair]) next := by
  rcases saveKeyPair_eq_ok completed with ⟨isGroup, sameGroups, sameCache, written, others⟩
  rw [kept.groupOf] at isGroup
  constructor
  · rw [sameGroups, kept.groupOf]
  · intro other otherGroup
    by_cases same : other = key
    · subst same
      rw [written, stored, lastSaved_append]
      simp [Event.savedUnder]
    · have different : other.storageName ≠ key.storageName := by
        intro sameStorage
        rw [sameStorage, isGroup] at otherGroup
        apply same
        cases other
        cases key
        simp only [CachedKey.mk.injEq]
        exact ⟨(Option.some.inj otherGroup).symm, sameStorage⟩
      rw [others _ different, kept.files other otherGroup, stored, stored, lastSaved_append]
      simp [Event.savedUnder, Ne.symm same]
  · intro other otherPair cached
    rw [sameCache] at cached
    exact (kept.cached other otherPair cached).append _
  · intro other otherPair member
    rw [sameCache]
    apply kept.got other otherPair
    simpa using member

theorem Kept.get (kept : Kept start events s)
    (completed : getKeyPair key s = .ok (keyPair, next)) :
    Kept start (events ++ [.got key keyPair]) next := by
  rcases getKeyPair_eq_ok completed with ⟨sameGroups, sameFiles, cachedNow, source⟩
  have sameCached : ∀ other otherPair, s.cachedKeyPairs other = some otherPair →
      next.cachedKeyPairs other = some otherPair := by
    intro other otherPair cached
    rw [cachedNow]
    by_cases same : other = key
    · subst same
      rw [Function.update_self]
      rcases source with wasCached | ⟨absent, _⟩
      · rw [← wasCached, cached]
      · rw [absent] at cached
        cases cached
    · rw [Function.update_of_ne same]
      exact cached
  constructor
  · rw [sameGroups, kept.groupOf]
  · intro other otherGroup
    have samePair : next.pairOf other.storageName = s.pairOf other.storageName := by
      rw [State.pairOf, State.pairOf, sameFiles]
    rw [samePair, kept.files other otherGroup, stored, stored, lastSaved_append]
    rfl
  · intro other otherPair cached
    rw [cachedNow] at cached
    by_cases same : other = key
    · subst same
      rw [Function.update_self] at cached
      cases cached
      rcases source with wasCached | ⟨absent, isGroup, held⟩
      · exact (kept.cached other _ wasCached).append _
      · rw [kept.groupOf] at isGroup
        refine ⟨events, [], rfl, ?_, ?_⟩
        · intro earlierPair member
          rw [kept.got other earlierPair member] at absent
          cases absent
        · rw [← kept.files other isGroup]
          exact held
    · rw [Function.update_of_ne same] at cached
      exact (kept.cached other otherPair cached).append _
  · intro other otherPair member
    rcases List.mem_append.mp member with earlier | now
    · exact sameCached other otherPair (kept.got other otherPair earlier)
    · cases List.mem_singleton.mp now
      rw [cachedNow, Function.update_self]

theorem Runs.kept (runs : Runs start events s) (fresh : ∀ key, start.cachedKeyPairs key = none) :
    Kept start events s := by
  induction runs with
  | start =>
      refine ⟨rfl, fun _ _ => rfl, ?_, ?_⟩
      · intro key keyPair cached
        rw [fresh key] at cached
        cases cached
      · intro key keyPair member
        cases member
  | save _ completed ih => exact ih.save completed
  | get _ completed ih => exact ih.get completed

/-- Every read that follows a save under its key returns the pair of the most
recent one. -/
def Coherent (events : List Event) : Prop :=
  ∀ before key keyPair later, events = before ++ .got key keyPair :: later →
    ∀ saved, lastSaved key before = some saved → keyPair = saved

/-- No save changes a pair between two reads of it: what the most recent save
before a read stored is what the files held at any earlier read. -/
def UnchangedAfterRead (start : State) (events : List Event) : Prop :=
  ∀ before key keyPair later, events = before ++ .got key keyPair :: later →
    ∀ earlier earlierPair between, before = earlier ++ .got key earlierPair :: between →
      ∀ saved, lastSaved key before = some saved → stored start key earlier = some saved

/-- A list without an element ends before the element in any other split. -/
theorem prefix_of_first {α : Type} {a : α} {first rest before later : List α} {b : α}
    (same : first ++ b :: rest = before ++ a :: later) (isFirst : a ∉ first) :
    first = before ∧ b = a ∨ ∃ between, before = first ++ b :: between := by
  rcases List.append_eq_append_iff.mp same with ⟨middle, rfl, tail⟩ | ⟨middle, rfl, tail⟩
  · cases middle with
    | nil =>
        left
        exact ⟨(List.append_nil _).symm, (List.cons.inj tail).1⟩
    | cons c between =>
        right
        exact ⟨between, by rw [(List.cons.inj tail).1]⟩
  · cases middle with
    | nil =>
        left
        exact ⟨List.append_nil _, (List.cons.inj tail).1.symm⟩
    | cons c between =>
        exfalso
        apply isFirst
        rw [(List.cons.inj tail).1]
        simp

/-- The cache of key pairs is coherent exactly in the runs in which no save
changes a pair between two reads of it. -/
theorem keyPairs_coherent_iff (runs : Runs start events s)
    (fresh : ∀ key, start.cachedKeyPairs key = none) :
    Coherent events ↔ UnchangedAfterRead start events := by
  have kept := runs.kept fresh
  constructor
  · intro coherent before key keyPair later split earlier earlierPair between isBefore saved isSaved
    have isKeyPair := coherent before key keyPair later split saved isSaved
    have cached : s.cachedKeyPairs key = some keyPair := kept.got key keyPair (by simp [split])
    have sameEarlier : earlierPair = keyPair := by
      have cachedEarlier := kept.got key earlierPair (by simp [split, isBefore])
      rw [cached] at cachedEarlier
      exact (Option.some.inj cachedEarlier).symm
    cases savedEarlier : lastSaved key earlier with
    | some otherSaved =>
        have isEarlier := coherent earlier key earlierPair
          (between ++ .got key keyPair :: later) (by simp [split, isBefore]) otherSaved savedEarlier
        rw [stored_of_lastSaved savedEarlier, ← isEarlier, sameEarlier, isKeyPair]
    | none =>
        rcases kept.cached key keyPair cached with ⟨first, rest, isFirstRead, unread, held⟩
        have firstSplit : first ++ .got key keyPair :: rest =
            earlier ++ .got key earlierPair :: (between ++ .got key keyPair :: later) := by
          rw [← isFirstRead, split, isBefore]
          simp
        have unsavedFirst : lastSaved key first = none := by
          rcases prefix_of_first firstSplit (unread earlierPair) with ⟨rfl, _⟩ | ⟨middle, rfl⟩
          · exact savedEarlier
          · exact lastSaved_eq_none_of_append savedEarlier
        rw [stored_of_unsaved savedEarlier, ← stored_of_unsaved unsavedFirst, held, isKeyPair]
  · intro unchanged before key keyPair later split saved isSaved
    have cached : s.cachedKeyPairs key = some keyPair := kept.got key keyPair (by simp [split])
    rcases kept.cached key keyPair cached with ⟨first, rest, isFirstRead, unread, held⟩
    have firstSplit : first ++ .got key keyPair :: rest = before ++ .got key keyPair :: later := by
      rw [← isFirstRead, split]
    have heldSaved : stored start key first = some saved := by
      rcases prefix_of_first firstSplit (unread keyPair) with ⟨rfl, _⟩ | ⟨between, isBefore⟩
      · exact stored_of_lastSaved isSaved
      · exact unchanged before key keyPair later split first keyPair between isBefore saved isSaved
    rw [held] at heldSaved
    exact Option.some.inj heldSaved

/-- A sandbox with its storage account. -/
def sandboxKey : CachedKey :=
  ⟨"r1".toList, "r1cs".toList⟩

/-- A new service, before the sandbox has a key pair. -/
def newService : State where
  groupOf := fun storageName => if storageName = "r1cs".toList then some "r1".toList else none
  files := fun _ _ => none
  cachedKeyPairs := fun _ => none

def firstPair : SSHKey :=
  ⟨"private1".toList, "public1".toList⟩

def secondPair : SSHKey :=
  ⟨"private2".toList, "public2".toList⟩

theorem keyPairs_coherent_example :
    Coherent [.saved sandboxKey firstPair, .got sandboxKey firstPair] := by
  have saved : Runs newService [.saved sandboxKey firstPair] _ := .save .start rfl
  have got : Runs newService [.saved sandboxKey firstPair, .got sandboxKey firstPair] _ :=
    .get saved rfl
  apply (keyPairs_coherent_iff got fun _ => rfl).mpr
  intro before key keyPair later split earlier earlierPair between isBefore
  -- nothing is read before the only read
  have readAt : ∀ i, [Event.saved sandboxKey firstPair, .got sandboxKey firstPair][i]? =
      some (.got key earlierPair) → i = 1 := by
    intro i isRead
    match i with
    | 0 => cases isRead
    | 1 => rfl
    | i + 2 => cases isRead
  have first : earlier.length = 1 := by
    apply readAt
    rw [split, isBefore]
    simp
  have lengths := congrArg List.length split
  rw [isBefore] at lengths
  simp [first] at lengths
  omega

/-- A sandbox that is prepared again: the second pair is saved and the first one
is still returned. -/
theorem keyPairs_stale : ¬ ∀ events s, Runs newService events s → Coherent events := by
  intro coherent
  have saved : Runs newService [.saved sandboxKey firstPair] _ := .save .start rfl
  have got : Runs newService [.saved sandboxKey firstPair, .got sandboxKey firstPair] _ :=
    .get saved rfl
  have savedAgain : Runs newService [.saved sandboxKey firstPair, .got sandboxKey firstPair,
      .saved sandboxKey secondPair] _ := .save got rfl
  have gotAgain : Runs newService [.saved sandboxKey firstPair, .got sandboxKey firstPair,
      .saved sandboxKey secondPair, .got sandboxKey firstPair] _ := .get savedAgain rfl
  have stale := coherent _ _ gotAgain
    [.saved sandboxKey firstPair, .got sandboxKey firstPair, .saved sandboxKey secondPair]
    sandboxKey firstPair [] rfl secondPair (by decide)
  exact absurd stale (by decide)

end KeyPairService

end AzureShell
