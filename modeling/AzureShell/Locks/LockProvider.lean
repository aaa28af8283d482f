import AzureShell.Conc.Pool
import Mathlib.Data.List.Basic

/-!
# The lock provider

`GenericLockProvider` keeps a dictionary of locks.  A lock is created, and taken
out again, under a lock of the provider; the membership test before and the
lookup that returns a lock are made without it.  Every dictionary operation and
every lock operation is one move of a thread.
-/

namespace AzureShell.GenericLockProvider

open Conc

/-- What is noted about the dictionary: lookups that returned a lock, and
removals that took effect. -/
inductive Event (κ : Type) where
  | read (key : κ) (lock : Nat)
  | deleted (key : κ)

/-- What the threads share.  A lock is known by its place among the allocated
ones, of which the keys are noted; the history has the latest event first. -/
structure Provider (ι κ : Type) where
  lockDictionary : κ → Option Nat
  lock : Option ι
  allocated : List κ
  history : List (Event κ)

/-- Where a thread stands. -/
inductive Pc (κ : Type) where
  | idle
  /-- About to test `lock_key not in self.lock_dictionary`. -/
  | getTest (key : κ)
  | getAcquire (key : κ)
  /-- About to test again, with the lock held. -/
  | getTestLocked (key : κ)
  /-- About to allocate a lock and put it into the dictionary. -/
  | getStore (key : κ)
  | getRelease (key : κ)
  /-- About to look up `self.lock_dictionary[lock_key]`. -/
  | getRead (key : κ)
  | returned (key : κ) (lock : Nat)
  /-- About to test `lock_key in self.lock_dictionary`. -/
  | removeTest (key : κ)
  | removeAcquire (key : κ)
  | removeTestLocked (key : κ)
  /-- About to delete `self.lock_dictionary[lock_key]`. -/
  | removeDelete (key : κ)
  | removeRelease (key : κ)
  /-- About to give back the lock and raise. -/
  | removeFailed (key : κ)
  | raised (key : κ)

variable {ι κ : Type}

namespace Provider

/-- Note a lookup that returned a lock. -/
def read (s : Provider ι κ) (key : κ) (lock : Nat) : Provider ι κ :=
  { s with history := .read key lock :: s.history }

variable [DecidableEq κ]

/-- `self.lock_dictionary[lock_key] = self._allocate_lock()`. -/
def store (s : Provider ι κ) (key : κ) : Provider ι κ :=
  { s with
    lockDictionary := Function.update s.lockDictionary key (some s.allocated.length)
    allocated := s.allocated ++ [key] }

/-- `del self.lock_dictionary[lock_key]`. -/
def delete (s : Provider ι κ) (key : κ) : Provider ι κ :=
  { s with
    lockDictionary := Function.update s.lockDictionary key none
    history := .deleted key :: s.history }

end Provider

variable [DecidableEq κ]

/-- The moves of a thread in `get_resource_lock` and `remove_lock_resource`; it
calls them in any order and with any keys. -/
inductive LockProvider (i : ι) : Provider ι κ → Pc κ → Provider ι κ → Pc κ → Prop where
  | callGet (s : Provider ι κ) (key : κ) : LockProvider i s .idle s (.getTest key)
  | getFound {s : Provider ι κ} {key : κ} (found : s.lockDictionary key ≠ none) :
      LockProvider i s (.getTest key) s (.getRead key)
  | getMissing {s : Provider ι κ} {key : κ} (missing : s.lockDictionary key = none) :
      LockProvider i s (.getTest key) s (.getAcquire key)
  | getAcquire {s : Provider ι κ} {key : κ} (free : s.lock = none) :
      LockProvider i s (.getAcquire key) { s with lock := some i } (.getTestLocked key)
  | getFoundLocked {s : Provider ι κ} {key : κ} (found : s.lockDictionary key ≠ none) :
      LockProvider i s (.getTestLocked key) s (.getRelease key)
  | getMissingLocked {s : Provider ι κ} {key : κ} (missing : s.lockDictionary key = none) :
      LockProvider i s (.getTestLocked key) s (.getStore key)
  | getStore (s : Provider ι κ) (key : κ) :
      LockProvider i s (.getStore key) (s.store key) (.getRelease key)
  | getRelease (s : Provider ι κ) (key : κ) :
      LockProvider i s (.getRelease key) { s with lock := none } (.getRead key)
  | getRead {s : Provider ι κ} {key : κ} {lock : Nat} (found : s.lockDictionary key = some lock) :
      LockProvider i s (.getRead key) (s.read key lock) (.returned key lock)
  | getFails {s : Provider ι κ} {key : κ} (missing : s.lockDictionary key = none) :
      LockProvider i s (.getRead key) s (.raised key)
  | callRemove (s : Provider ι κ) (key : κ) : LockProvider i s .idle s (.removeTest key)
  | removeMissing {s : Provider ι κ} {key : κ} (missing : s.lockDictionary key = none) :
      LockProvider i s (.removeTest key) s .idle
  | removeFound {s : Provider ι κ} {key : κ} (found : s.lockDictionary key ≠ none) :
      LockProvider i s (.removeTest key) s (.removeAcquire key)
  | removeAcquire {s : Provider ι κ} {key : κ} (free : s.lock = none) :
      LockProvider i s (.removeAcquire key) { s with lock := some i } (.removeTestLocked key)
  | removeMissingLocked {s : Provider ι κ} {key : κ} (missing : s.lockDictionary key = none) :
      LockProvider i s (.removeTestLocked key) s (.removeRelease key)
  | removeFoundLocked {s : Provider ι κ} {key : κ} (found : s.lockDictionary key ≠ none) :
      LockProvider i s (.removeTestLocked key) s (.removeDelete key)
  | removeDelete {s : Provider ι κ} {key : κ} (found : s.lockDictionary key ≠ none) :
      LockProvider i s (.removeDelete key) (s.delete key) (.removeRelease key)
  | removeDeleteFails {s : Provider ι κ} {key : κ} (missing : s.lockDictionary key = none) :
      LockProvider i s (.removeDelete key) s (.removeFailed key)
  | removeRelease (s : Provider ι κ) (key : κ) :
      LockProvider i s (.removeRelease key) { s with lock := none } .idle
  | removeFailed (s : Provider ι κ) (key : κ) :
      LockProvider i s (.removeFailed key) { s with lock := none } (.raised key)
  | goOn (s : Provider ι κ) (key : κ) (lock : Nat) :
      LockProvider i s (.returned key lock) s .idle
  | recover (s : Provider ι κ) (key : κ) : LockProvider i s (.raised key) s .idle

/-- A new provider that nobody uses yet. -/
def initial (ι κ : Type) : Pool ι (Provider ι κ) (Pc κ) where
  shared := ⟨fun _ => none, none, [], []⟩
  pc := fun _ => .idle

/-- No thread deletes the entry of a key that another one is about to look up. -/
def SparesReaders (pool : Pool ι (Provider ι κ) (Pc κ)) (i : ι) : Prop :=
  ∀ key, pool.pc i = .removeDelete key → ∀ j, pool.pc j ≠ .getRead key

/-! ## Progress of a call -/

namespace Pc

/-- How many moves a call takes at most until it has ended. -/
def remaining : Pc κ → Nat
  | getTest _ => 6
  | getAcquire _ => 5
  | getTestLocked _ => 4
  | getStore _ => 3
  | getRelease _ => 2
  | getRead _ => 1
  | removeTest _ => 6
  | removeAcquire _ => 5
  | removeTestLocked _ => 4
  | removeDelete _ => 3
  | removeRelease _ => 1
  | removeFailed _ => 1
  | _ => 0

/-- Positions before a lock operation that may have to wait. -/
def waits : Pc κ → Bool
  | getAcquire _ => true
  | removeAcquire _ => true
  | _ => false

/-- Positions with the lock held. -/
def holdsLock : Pc κ → Bool
  | getTestLocked _ => true
  | getStore _ => true
  | getRelease _ => true
  | removeTestLocked _ => true
  | removeDelete _ => true
  | removeRelease _ => true
  | removeFailed _ => true
  | _ => false

omit [DecidableEq κ] in
theorem remaining_pos_of_holdsLock {pc : Pc κ} (holds : pc.holdsLock = true) :
    0 < pc.remaining := by
  cases pc <;> simp [holdsLock, remaining] at holds ⊢

omit [DecidableEq κ] in
theorem not_waits_of_holdsLock {pc : Pc κ} (holds : pc.holdsLock = true) : pc.waits = false := by
  cases pc <;> simp [holdsLock, waits] at holds ⊢

end Pc

variable {s after : Provider ι κ} {i j : ι} {pc pc' : Pc κ} {key : κ}

theorem remaining_lt_of_move (move : LockProvider i s pc after pc') (inCall : 0 < pc.remaining) :
    pc'.remaining < pc.remaining := by
  cases move <;> simp [Pc.remaining] at inCall ⊢

/-- A thread in a call moves, unless it has to wait for the lock. -/
theorem exists_move (i : ι) (inCall : 0 < pc.remaining) (free : pc.waits = true → s.lock = none) :
    ∃ after pc', LockProvider i s pc after pc' := by
  cases pc with
  | idle => simp [Pc.remaining] at inCall
  | getTest key =>
      cases found : s.lockDictionary key with
      | none => exact ⟨_, _, .getMissing found⟩
      | some lock => exact ⟨_, _, .getFound (by simp [found])⟩
  | getAcquire key => exact ⟨_, _, .getAcquire (free rfl)⟩
  | getTestLocked key =>
      cases found : s.lockDictionary key with
      | none => exact ⟨_, _, .getMissingLocked found⟩
      | some lock => exact ⟨_, _, .getFoundLocked (by simp [found])⟩
  | getStore key => exact ⟨_, _, .getStore s key⟩
  | getRelease key => exact ⟨_, _, .getRelease s key⟩
  | getRead key =>
      cases found : s.lockDictionary key with
      | none => exact ⟨_, _, .getFails found⟩
      | some lock => exact ⟨_, _, .getRead found⟩
  | returned key lock => simp [Pc.remaining] at inCall
  | removeTest key =>
      cases found : s.lockDictionary key with
      | none => exact ⟨_, _, .removeMissing found⟩
      | some lock => exact ⟨_, _, .removeFound (by simp [found])⟩
  | removeAcquire key => exact ⟨_, _, .removeAcquire (free rfl)⟩
  | removeTestLocked key =>
      cases found : s.lockDictionary key with
      | none => exact ⟨_, _, .removeMissingLocked found⟩
      | some lock => exact ⟨_, _, .removeFoundLocked (by simp [found])⟩
  | removeDelete key =>
      cases found : s.lockDictionary key with
      | none => exact ⟨_, _, .removeDeleteFails found⟩
      | some lock => exact ⟨_, _, .removeDelete (by simp [found])⟩
  | removeRelease key => exact ⟨_, _, .removeRelease s key⟩
  | removeFailed key => exact ⟨_, _, .removeFailed s key⟩
  | raised key => simp [Pc.remaining] at inCall

/-! ## Calls without interference -/

/-- A get that nobody interferes with returns a lock; the key is in the dictionary
then, and the other keys are as they were. -/
theorem getResourceLock_alone (i : ι) (free : s.lock = none) (key : κ) :
    ∃ after lock, Pool.Alone LockProvider i (s, .idle) (after, .returned key lock) ∧
      after.lock = none ∧
      ∀ other, after.lockDictionary other ≠ none ↔ other = key ∨ s.lockDictionary other ≠ none := by
  have called : Pool.Alone LockProvider i (s, .idle) (s, .getTest key) :=
    .single (.callGet s key)
  cases found : s.lockDictionary key with
  | some lock =>
      have present : s.lockDictionary key ≠ none := by simp [found]
      have read := called.move (.getFound present)
      refine ⟨s.read key lock, lock, read.move (.getRead found), free, ?_⟩
      intro other
      constructor
      · exact Or.inr
      · rintro (rfl | known)
        · simp [Provider.read, found]
        · exact known
  | none =>
      let held : Provider ι κ := { s with lock := some i }
      let freed : Provider ι κ := { held.store key with lock := none }
      have stored : freed.lockDictionary key = some s.allocated.length :=
        Function.update_self _ _ _
      have missing := called.move (.getMissing found)
      have locked := missing.move (.getAcquire free)
      have absent := locked.move (.getMissingLocked found)
      have allocated := absent.move (.getStore held key)
      have released := allocated.move (.getRelease (held.store key) key)
      refine ⟨freed.read key s.allocated.length, _, released.move (.getRead stored), rfl, ?_⟩
      intro other
      by_cases same : other = key
      · subst same
        simp [Provider.read, stored]
      · simp [Provider.read, freed, held, Provider.store, same]

/-- A removal that nobody interferes with takes the key out of the dictionary. -/
theorem removeLockResource_alone (i : ι) (free : s.lock = none) (key : κ) :
    ∃ after, Pool.Alone LockProvider i (s, .idle) (after, .idle) ∧ after.lock = none ∧
      ∀ other, after.lockDictionary other ≠ none ↔ other ≠ key ∧ s.lockDictionary other ≠ none := by
  have called : Pool.Alone LockProvider i (s, .idle) (s, .removeTest key) :=
    .single (.callRemove s key)
  by_cases found : s.lockDictionary key = none
  · refine ⟨s, called.move (.removeMissing found), free, ?_⟩
    intro other
    constructor
    · intro known
      exact ⟨fun same => known (same ▸ found), known⟩
    · exact And.right
  · let held : Provider ι κ := { s with lock := some i }
    have present := called.move (.removeFound found)
    have locked := present.move (.removeAcquire free)
    have again := locked.move (.removeFoundLocked found)
    have deleted := again.move (.removeDelete found)
    refine ⟨{ held.delete key with lock := none },
      deleted.move (.removeRelease (held.delete key) key), rfl, ?_⟩
    intro other
    by_cases same : other = key
    · subst same
      simp [held, Provider.delete]
    · simp [held, Provider.delete, same]

/-! ## What is noted -/

/-- Two lookups of a key return the same lock, unless a removal of the key took
effect between them. -/
def SameLock (history : List (Event κ)) : Prop :=
  ∀ later between earlier key first second,
    history = later ++ .read key second :: (between ++ .read key first :: earlier) →
    first ≠ second → .deleted key ∈ between

/-- The dictionary still has the lock of the latest lookup, unless it was removed
since. -/
def Current (s : Provider ι κ) : Prop :=
  ∀ later earlier key lock, s.history = later ++ .read key lock :: earlier →
    .deleted key ∉ later → s.lockDictionary key = some lock

/-- What holds of the dictionary and the history. -/
structure Recorded (s : Provider ι κ) : Prop where
  sameLock : SameLock s.history
  current : Current s
  /-- Every lock in the dictionary was allocated for its key. -/
  allocated : ∀ key lock, s.lockDictionary key = some lock → s.allocated[lock]? = some key
  returned : ∀ key lock, .read key lock ∈ s.history → s.allocated[lock]? = some key

omit [DecidableEq κ] in
theorem Recorded.withLock (recorded : Recorded s) (lock : Option ι) :
    Recorded { s with lock := lock } :=
  ⟨recorded.sameLock, recorded.current, recorded.allocated, recorded.returned⟩

theorem Recorded.store (recorded : Recorded s) (missing : s.lockDictionary key = none) :
    Recorded (s.store key) := by
  have kept : ∀ {lock : Nat} {other : κ}, s.allocated[lock]? = some other →
      (s.allocated ++ [key])[lock]? = some other := by
    intro lock other found
    rw [List.getElem?_append_left (List.getElem?_eq_some_iff.mp found).1]
    exact found
  refine ⟨recorded.sameLock, ?_, ?_, fun other lock member =>
    kept (recorded.returned other lock member)⟩
  · intro later earlier other lock split notDeleted
    have found := recorded.current later earlier other lock split notDeleted
    have different : other ≠ key := by
      rintro rfl
      rw [missing] at found
      contradiction
    exact (Function.update_of_ne different _ _).trans found
  · intro other lock found
    by_cases same : other = key
    · subst same
      have isNew : s.allocated.length = lock := by simpa [Provider.store] using found
      rw [← isNew]
      simp [Provider.store]
    · have old : s.lockDictionary other = some lock := by
        simpa [Provider.store, same] using found
      exact kept (recorded.allocated other lock old)

theorem Recorded.delete (recorded : Recorded s) (key : κ) : Recorded (s.delete key) := by
  refine ⟨?_, ?_, ?_, ?_⟩
  · intro later between earlier other first second split different
    cases later with
    | nil => cases split
    | cons event later =>
        exact recorded.sameLock later between earlier other first second
          (List.tail_eq_of_cons_eq split) different
  · intro later earlier other lock split notDeleted
    cases later with
    | nil => cases split
    | cons event later =>
        have isDeletion : Event.deleted key = event := List.head_eq_of_cons_eq split
        rw [List.mem_cons, not_or, ← isDeletion] at notDeleted
        have different : other ≠ key := fun same => notDeleted.1 (same ▸ rfl)
        exact (Function.update_of_ne different _ _).trans
          (recorded.current later earlier other lock (List.tail_eq_of_cons_eq split) notDeleted.2)
  · intro other lock found
    by_cases same : other = key
    · subst same
      simp [Provider.delete] at found
    · have old : s.lockDictionary other = some lock := by
        simpa [Provider.delete, same] using found
      exact recorded.allocated other lock old
  · intro other lock member
    exact recorded.returned other lock (by simpa [Provider.delete] using member)

omit [DecidableEq κ] in
theorem Recorded.read (recorded : Recorded s) {lock : Nat}
    (found : s.lockDictionary key = some lock) : Recorded (s.read key lock) := by
  refine ⟨?_, ?_, recorded.allocated, ?_⟩
  · intro later between earlier other first second split different
    cases later with
    | nil =>
        have rest := List.tail_eq_of_cons_eq split
        have isLatest : Event.read key lock = .read other second := List.head_eq_of_cons_eq split
        cases isLatest
        by_contra notDeleted
        have stillFirst := recorded.current between earlier _ first rest notDeleted
        exact different (Option.some.inj (stillFirst.symm.trans found))
    | cons event later =>
        exact recorded.sameLock later between earlier other first second
          (List.tail_eq_of_cons_eq split) different
  · intro later earlier other otherLock split notDeleted
    cases later with
    | nil =>
        have isLatest : Event.read key lock = .read other otherLock :=
          List.head_eq_of_cons_eq split
        cases isLatest
        exact found
    | cons event later =>
        rw [List.mem_cons, not_or] at notDeleted
        exact recorded.current later earlier other otherLock
          (List.tail_eq_of_cons_eq split) notDeleted.2
  · intro other otherLock member
    rcases List.mem_cons.mp member with isNew | old
    · cases isNew
      exact recorded.allocated key lock found
    · exact recorded.returned other otherLock old

/-! ## One move -/

/-- What a thread knows at its position.  It never gets to one of the positions
after a failed lookup or deletion. -/
def Pc.Knows (s : Provider ι κ) : Pc κ → Prop
  | .getStore key => s.lockDictionary key = none
  | .getRelease key => s.lockDictionary key ≠ none
  | .getRead key => s.lockDictionary key ≠ none
  | .removeDelete key => s.lockDictionary key ≠ none
  | .returned key lock => .read key lock ∈ s.history
  | .raised _ => False
  | .removeFailed _ => False
  | _ => True

/-- What holds of a thread at position `pc`. -/
structure Own (s : Provider ι κ) (i : ι) (pc : Pc κ) : Prop where
  lock : pc.holdsLock = true ↔ s.lock = some i
  knows : pc.Knows s

variable {position : Pc κ}

theorem recorded_of_move (move : LockProvider i s pc after pc') (own : Own s i pc)
    (recorded : Recorded s) : Recorded after := by
  cases move with
  | getAcquire free => exact recorded.withLock _
  | getStore => exact recorded.store own.knows
  | getRelease => exact recorded.withLock _
  | getRead found => exact recorded.read found
  | removeAcquire free => exact recorded.withLock _
  | removeDelete found => exact recorded.delete _
  | removeRelease => exact recorded.withLock _
  | removeFailed => exact recorded.withLock _
  | _ => exact recorded

theorem own_of_move (move : LockProvider i s pc after pc') (own : Own s i pc) :
    Own after i pc' := by
  have lock := own.lock
  have knows := own.knows
  cases move with
  | getAcquire free => exact ⟨by simp [Pc.holdsLock], trivial⟩
  | getRelease => exact ⟨by simp [Pc.holdsLock], knows⟩
  | removeAcquire free => exact ⟨by simp [Pc.holdsLock], trivial⟩
  | removeRelease => exact ⟨by simp [Pc.holdsLock], trivial⟩
  | getFound found => exact ⟨lock, found⟩
  | getFoundLocked found => exact ⟨lock, found⟩
  | getMissingLocked missing => exact ⟨lock, missing⟩
  | getStore => exact ⟨lock, by simp [Pc.Knows, Provider.store]⟩
  | getRead found => exact ⟨lock, List.mem_cons_self⟩
  | removeFoundLocked found => exact ⟨lock, found⟩
  -- a failed lookup or deletion, and what comes after it
  | getFails missing => exact absurd missing knows
  | removeDeleteFails missing => exact absurd missing knows
  | removeFailed => exact knows.elim
  | recover => exact knows.elim
  | _ => exact ⟨lock, trivial⟩

/-- A move leaves the lock alone, or the thread takes it or gives it back. -/
theorem lock_cases (move : LockProvider i s pc after pc') (own : Own s i pc) :
    after.lock = s.lock ∨ (s.lock = none ∧ after.lock = some i) ∨
      (s.lock = some i ∧ after.lock = none) := by
  cases move with
  | getAcquire free => exact Or.inr (Or.inl ⟨free, rfl⟩)
  | removeAcquire free => exact Or.inr (Or.inl ⟨free, rfl⟩)
  | getRelease => exact Or.inr (Or.inr ⟨own.lock.mp rfl, rfl⟩)
  | removeRelease => exact Or.inr (Or.inr ⟨own.lock.mp rfl, rfl⟩)
  | removeFailed => exact Or.inr (Or.inr ⟨own.lock.mp rfl, rfl⟩)
  | _ => exact Or.inl rfl

theorem lock_of_move (move : LockProvider i s pc after pc') (own : Own s i pc) (other : j ≠ i) :
    after.lock = some j ↔ s.lock = some j := by
  rcases lock_cases move own with same | ⟨free, taken⟩ | ⟨held, freed⟩
  · rw [same]
  · simp [free, taken, other.symm]
  · simp [held, freed, other.symm]

/-- The dictionary is changed by the thread that holds the lock. -/
theorem lockDictionary_of_move (move : LockProvider i s pc after pc') (own : Own s i pc)
    (notHeld : s.lock ≠ some i) : after.lockDictionary = s.lockDictionary := by
  cases move with
  | getStore => exact absurd (own.lock.mp rfl) notHeld
  | removeDelete found => exact absurd (own.lock.mp rfl) notHeld
  | _ => rfl

theorem entry_of_move (move : LockProvider i s pc after pc') (spared : pc ≠ .removeDelete key)
    (present : s.lockDictionary key ≠ none) : after.lockDictionary key ≠ none := by
  cases move with
  | getStore =>
      rename_i stored
      by_cases same : key = stored
      · subst same
        simp [Provider.store]
      · simpa [Provider.store, same] using present
  | removeDelete found =>
      rename_i deleted
      have different : key ≠ deleted := fun same => spared (same ▸ rfl)
      simpa [Provider.delete, different] using present
  | _ => exact present

theorem history_of_move (move : LockProvider i s pc after pc') : s.history ⊆ after.history := by
  cases move with
  | getRead found => exact List.subset_cons_self _ _
  | removeDelete found => exact List.subset_cons_self _ _
  | _ => exact List.Subset.refl _

/-- A move of thread `i` leaves what another thread relies on. -/
theorem own_of_other_move (move : LockProvider i s pc after pc') (own : Own s i pc)
    (other : j ≠ i) (spares : ∀ key, pc = .removeDelete key → position ≠ .getRead key)
    (otherOwn : Own s j position) : Own after j position := by
  have lock := otherOwn.lock
  have knows := otherOwn.knows
  have unchanged : position.holdsLock = true → after.lockDictionary = s.lockDictionary := by
    intro holds
    apply lockDictionary_of_move move own
    rw [lock.mp holds]
    exact fun same => other (Option.some.inj same)
  refine ⟨lock.trans (lock_of_move move own other).symm, ?_⟩
  cases position with
  | getStore key => exact (congrFun (unchanged rfl) key).trans knows
  | getRelease key =>
      rw [Pc.Knows, unchanged rfl]
      exact knows
  | getRead key => exact entry_of_move move (fun deletes => spares key deletes rfl) knows
  | returned key lock => exact history_of_move move knows
  | removeDelete key =>
      rw [Pc.Knows, unchanged rfl]
      exact knows
  | raised key => exact knows
  | removeFailed key => exact knows
  | _ => trivial

/-! ## Runs -/

variable [DecidableEq ι] {pool next : Pool ι (Provider ι κ) (Pc κ)}

/-- What holds of a pool whose readers were spared so far. -/
structure Sound (pool : Pool ι (Provider ι κ) (Pc κ)) : Prop where
  recorded : Recorded pool.shared
  owns : ∀ i, Own pool.shared i (pool.pc i)

omit [DecidableEq κ] [DecidableEq ι] in
theorem sound_initial : Sound (initial ι κ) := by
  refine ⟨⟨?_, ?_, ?_, ?_⟩, ?_⟩
  · intro later between earlier key first second split
    simp [initial] at split
  · intro later earlier key lock split
    simp [initial] at split
  · simp [initial]
  · simp [initial]
  · intro i
    exact ⟨by simp [initial, Pc.holdsLock], trivial⟩

theorem Sound.moves (sound : Sound pool) (spares : SparesReaders pool i)
    (moves : Pool.Moves LockProvider i pool next) : Sound next := by
  rcases moves with ⟨shared, pc, move, rfl⟩
  refine ⟨recorded_of_move move (sound.owns i) sound.recorded, ?_⟩
  intro j
  by_cases same : j = i
  · subst same
    rw [Pool.moved_self]
    exact own_of_move move (sound.owns j)
  · rw [Pool.moved_of_ne pool same]
    exact own_of_other_move move (sound.owns i) same (fun key deletes => spares key deletes j)
      (sound.owns j)

theorem sound_of_reaches (reaches : Pool.Reaches LockProvider SparesReaders (initial ι κ) pool) :
    Sound pool :=
  reaches.preserves (fun _ _ _ spares moves sound => sound.moves spares moves) sound_initial

/-- The lock provider answers every call, and answers it rightly. -/
structure Linearizable (pool : Pool ι (Provider ι κ) (Pc κ)) : Prop where
  neverRaises : ∀ i key, pool.pc i ≠ .raised key
  /-- A call that returns a lock has found it in the dictionary. -/
  returned : ∀ i key lock, pool.pc i = .returned key lock → .read key lock ∈ pool.shared.history
  /-- A thread in a call can move, or the one that holds the lock can. -/
  progress : ∀ i, 0 < (pool.pc i).remaining → ∃ j after,
    (j = i ∨ pool.shared.lock = some j) ∧ Pool.Moves LockProvider j pool after
  /-- Every move of a thread in a call brings it closer to the end of the call. -/
  closer : ∀ i after, 0 < (pool.pc i).remaining → Pool.Moves LockProvider i pool after →
    (after.pc i).remaining < (pool.pc i).remaining
  sameLock : SameLock pool.shared.history
  differentLocks : ∀ key other lock, .read key lock ∈ pool.shared.history →
    .read other lock ∈ pool.shared.history → key = other

theorem Sound.progress (sound : Sound pool) (inCall : 0 < (pool.pc i).remaining) :
    ∃ j after, (j = i ∨ pool.shared.lock = some j) ∧ Pool.Moves LockProvider j pool after := by
  cases held : pool.shared.lock with
  | none =>
      rcases exists_move i inCall (fun _ => held) with ⟨shared, pc, move⟩
      exact ⟨i, _, Or.inl rfl, shared, pc, move, rfl⟩
  | some j =>
      have holds : (pool.pc j).holdsLock = true := (sound.owns j).lock.mpr held
      have free : (pool.pc j).waits = true → pool.shared.lock = none := by
        rw [Pc.not_waits_of_holdsLock holds]
        exact fun impossible => absurd impossible Bool.false_ne_true
      rcases exists_move j (Pc.remaining_pos_of_holdsLock holds) free with ⟨shared, pc, move⟩
      exact ⟨j, _, Or.inr rfl, shared, pc, move, rfl⟩

theorem Sound.linearizable (sound : Sound pool) : Linearizable pool where
  neverRaises := by
    intro i key raised
    have knows := (sound.owns i).knows
    rw [raised] at knows
    exact knows
  returned := by
    intro i key lock returned
    have knows := (sound.owns i).knows
    rw [returned] at knows
    exact knows
  progress := fun i inCall => sound.progress inCall
  closer := by
    rintro i after inCall ⟨shared, pc, move, rfl⟩
    rw [Pool.moved_self]
    exact remaining_lt_of_move move inCall
  sameLock := sound.recorded.sameLock
  differentLocks := by
    intro key other lock first second
    have isKey := sound.recorded.returned key lock first
    have isOther := sound.recorded.returned other lock second
    exact Option.some.inj (isKey.symm.trans isOther)

/-- A deletion under a reader's eyes lets its lookup fail. -/
theorem Sound.can_raise (sound : Sound pool) (notSpared : ¬ SparesReaders pool i) :
    ∃ j key after, Pool.Reaches LockProvider (fun _ _ => True) pool after ∧
      after.pc j = .raised key := by
  simp only [SparesReaders, not_forall, not_not] at notSpared
  rcases notSpared with ⟨key, deletes, j, reads⟩
  have different : j ≠ i := by
    rintro rfl
    rw [deletes] at reads
    cases reads
  have knows := (sound.owns i).knows
  rw [deletes] at knows
  have deletion : LockProvider i pool.shared (pool.pc i) (pool.shared.delete key)
      (.removeRelease key) := by
    rw [deletes]
    exact .removeDelete knows
  have start : Pool.Reaches LockProvider (fun _ _ => True) pool pool := .refl
  have deleted := start.move i trivial deletion
  have lookup : LockProvider j (pool.shared.delete key)
      ((pool.moved i (pool.shared.delete key) (.removeRelease key)).pc j)
      (pool.shared.delete key) (.raised key) := by
    rw [Pool.moved_of_ne pool different, reads]
    exact .getFails (by simp [Provider.delete])
  exact ⟨j, key, _, deleted.move j trivial lookup, Pool.moved_self _ _ _ _⟩

/-- As long as no removal deletes a key that a get is about to look up, every
call is answered rightly; as soon as one is about to, a get may raise. -/
theorem getResourceLock_linearizable
    (reaches : Pool.Reaches LockProvider SparesReaders (initial ι κ) pool) :
    Linearizable pool ∧ ∀ i, ¬ SparesReaders pool i → ∃ j key after,
      Pool.Reaches LockProvider (fun _ _ => True) pool after ∧ after.pc j = .raised key :=
  ⟨(sound_of_reaches reaches).linearizable,
    fun _ notSpared => (sound_of_reaches reaches).can_raise notSpared⟩

omit [DecidableEq κ] [DecidableEq ι] in
/-- A thread that deletes nothing spares every reader. -/
theorem sparesReaders_of_not_deleting (notDeleting : ∀ key, pool.pc i ≠ .removeDelete key) :
    SparesReaders pool i :=
  fun key deletes => absurd deletes (notDeleting key)

/-- Two gets with a removal between them return different locks. -/
theorem getResourceLock_linearizable_example :
    ∃ pool : Pool Bool (Provider Bool Unit) (Pc Unit), pool.pc false = .returned () 1 ∧
      pool.shared.history = [.read () 1, .deleted (), .read () 0] ∧ Linearizable pool := by
  have start : Pool.Reaches LockProvider SparesReaders (initial Bool Unit) (initial Bool Unit) :=
    .refl
  have called := start.move false (sparesReaders_of_not_deleting nofun) (.callGet _ ())
  have missing := called.move false (sparesReaders_of_not_deleting nofun) (.getMissing rfl)
  have locked := missing.move false (sparesReaders_of_not_deleting nofun) (.getAcquire rfl)
  have absent := locked.move false (sparesReaders_of_not_deleting nofun) (.getMissingLocked rfl)
  have stored := absent.move false (sparesReaders_of_not_deleting nofun) (.getStore _ ())
  have released := stored.move false (sparesReaders_of_not_deleting nofun) (.getRelease _ ())
  have returned := released.move false (sparesReaders_of_not_deleting nofun) (.getRead rfl)
  -- the other thread removes the lock
  have remove := returned.move true (sparesReaders_of_not_deleting nofun) (.callRemove _ ())
  have found := remove.move true (sparesReaders_of_not_deleting nofun) (.removeFound nofun)
  have taken := found.move true (sparesReaders_of_not_deleting nofun) (.removeAcquire rfl)
  have foundAgain := taken.move true (sparesReaders_of_not_deleting nofun)
    (.removeFoundLocked nofun)
  have deleted := foundAgain.move true (by rintro _ _ (_ | _) <;> nofun) (.removeDelete nofun)
  have freed := deleted.move true (sparesReaders_of_not_deleting nofun) (.removeRelease _ ())
  -- and the first one asks for it again
  have goesOn := freed.move false (sparesReaders_of_not_deleting nofun) (.goOn _ () 0)
  have calledAgain := goesOn.move false (sparesReaders_of_not_deleting nofun) (.callGet _ ())
  have missingAgain := calledAgain.move false (sparesReaders_of_not_deleting nofun)
    (.getMissing rfl)
  have lockedAgain := missingAgain.move false (sparesReaders_of_not_deleting nofun)
    (.getAcquire rfl)
  have absentAgain := lockedAgain.move false (sparesReaders_of_not_deleting nofun)
    (.getMissingLocked rfl)
  have storedAgain := absentAgain.move false (sparesReaders_of_not_deleting nofun)
    (.getStore _ ())
  have releasedAgain := storedAgain.move false (sparesReaders_of_not_deleting nofun)
    (.getRelease _ ())
  have returnedAgain := releasedAgain.move false (sparesReaders_of_not_deleting nofun)
    (.getRead rfl)
  exact ⟨_, rfl, rfl, (getResourceLock_linearizable returnedAgain).1⟩

/-- A get whose lock is removed before its final lookup raises. -/
theorem removed_lock_raises :
    ¬ ∀ pool : Pool Bool (Provider Bool Unit) (Pc Unit),
      Pool.Reaches LockProvider (fun _ _ => True) (initial Bool Unit) pool →
        Linearizable pool := by
  intro linearizable
  have start : Pool.Reaches LockProvider (fun _ _ => True) (initial Bool Unit) (initial Bool Unit) :=
    .refl
  have called := start.move false trivial (.callGet _ ())
  have missing := called.move false trivial (.getMissing rfl)
  have locked := missing.move false trivial (.getAcquire rfl)
  have absent := locked.move false trivial (.getMissingLocked rfl)
  have stored := absent.move false trivial (.getStore _ ())
  have released := stored.move false trivial (.getRelease _ ())
  -- the whole removal runs before the lookup
  have remove := released.move true trivial (.callRemove _ ())
  have found := remove.move true trivial (.removeFound nofun)
  have taken := found.move true trivial (.removeAcquire rfl)
  have foundAgain := taken.move true trivial (.removeFoundLocked nofun)
  have deleted := foundAgain.move true trivial (.removeDelete nofun)
  have freed := deleted.move true trivial (.removeRelease _ ())
  have raised := freed.move false trivial (.getFails rfl)
  exact (linearizable _ raised).neverRaises false () rfl

end AzureShell.GenericLockProvider
