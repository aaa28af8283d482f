import AzureShell.Storage.SingleFlight
import Mathlib.Logic.Relation

/-!
# The copy behind a returned URL

Calls of `copy_blob` for one destination blob, one after the other, with the
requests that `_copy_blob` makes, the retries of connection errors around it and
around its waiting loop, and a copy that goes on by itself at the storage
service.
-/

namespace AzureShell.StorageService

/-- `properties.copy.status` of a blob. -/
inductive CopyStatus where
  | pending
  | success
  | aborted
  | failed
deriving DecidableEq, Repr

/-- An exception of a request: one that `retry_if_connection_error` accepts, or
another one. -/
inductive RequestError where
  | connection
  | other
deriving DecidableEq, Repr

/-- Where a call of `copy_blob` stands.  The numbers count the attempts of
`_copy_blob` and of `_wait_until_blob_copied`. -/
inductive CopyPc where
  | idle
  /-- About to get the blob services. -/
  | getBlobService (attempt : Nat)
  | blobExists (attempt : Nat)
  | createContainer (attempt : Nat)
  | startCopy (attempt : Nat)
  | getBlobProperties (attempt polling : Nat)
  /-- About to check for cancellation, with the status just read. -/
  | observed (attempt polling : Nat) (status : CopyStatus)
  | abortCopy (attempt polling : Nat)
  /-- `_copy_blob` has returned the URL of the blob. -/
  | copied
  /-- `_copy_blob` has raised. -/
  | failed
  /-- Waiting for another operation. -/
  | waiting
  | returned (result : Option Text)
  | raised
deriving DecidableEq, Repr

/-- The stop of both retry decorators: `stop_max_attempt_number=5`. -/
def copyMaxAttempts : Nat :=
  5

/-- Where `_copy_blob` goes on after an exception in an attempt. -/
def CopyPc.afterError (attempt : Nat) : RequestError → CopyPc
  | .connection => if attempt < copyMaxAttempts then .getBlobService (attempt + 1) else .failed
  | .other => .failed

/-- Where `_wait_until_blob_copied` goes on after an exception. -/
def CopyPc.afterPollingError (attempt polling : Nat) : RequestError → CopyPc
  | .connection =>
      if polling < copyMaxAttempts then .getBlobProperties attempt (polling + 1)
      else .afterError attempt .connection
  | .other => .failed

/-- The entry of the cache, the destination blob, and the call under way. -/
structure CopyState where
  cached : Option CopiedBlob
  /-- The copy status of the destination blob, if the blob exists. -/
  blob : Option CopyStatus
  /-- Whether the copy status has become `success`. -/
  succeeded : Bool
  pc : CopyPc
deriving DecidableEq, Repr

namespace CopyState

/-- The call goes on. -/
def goto (s : CopyState) (pc : CopyPc) : CopyState :=
  { s with pc := pc }

/-- The destination blob gets a copy status. -/
def setStatus (s : CopyState) (status : CopyStatus) : CopyState :=
  { s with blob := some status, succeeded := s.succeeded || status = .success }

end CopyState

/-- What the storage service, the call under way and its caller may do next; the
service makes the URL of the blob. -/
inductive CopyStep (url : Text) : CopyState → CopyState → Prop where
  /-- A pending copy ends. -/
  | progress {s : CopyState} (status : CopyStatus) (pending : s.blob = some .pending) :
      CopyStep url s (s.setStatus status)
  | callCached {s : CopyState} {result : Option Text} (pc : s.pc = .idle)
      (cached : s.cached = some ⟨.success, result⟩) : CopyStep url s (s.goto (.returned result))
  | callCopying {s : CopyState} {result : Option Text} (pc : s.pc = .idle)
      (cached : s.cached = some ⟨.copying, result⟩) : CopyStep url s (s.goto .waiting)
  | claim {s : CopyState} (pc : s.pc = .idle)
      (free : ∀ copied, s.cached = some copied → copied.state = .failed) :
      CopyStep url s { s.goto (.getBlobService 1) with cached := some ⟨.copying, none⟩ }
  | waitCancelled {s : CopyState} (pc : s.pc = .waiting) : CopyStep url s (s.goto .raised)
  | getBlobService {s : CopyState} {attempt : Nat} (pc : s.pc = .getBlobService attempt) :
      CopyStep url s (s.goto (.blobExists attempt))
  | getBlobServiceFails {s : CopyState} {attempt : Nat} (pc : s.pc = .getBlobService attempt)
      (e : RequestError) : CopyStep url s (s.goto (.afterError attempt e))
  /-- The destination blob exists, whatever its copy status. -/
  | present {s : CopyState} {attempt : Nat} (pc : s.pc = .blobExists attempt)
      (blob : s.blob ≠ none) : CopyStep url s (s.goto .copied)
  | absent {s : CopyState} {attempt : Nat} (pc : s.pc = .blobExists attempt)
      (blob : s.blob = none) : CopyStep url s (s.goto (.createContainer attempt))
  | blobExistsFails {s : CopyState} {attempt : Nat} (pc : s.pc = .blobExists attempt)
      (e : RequestError) : CopyStep url s (s.goto (.afterError attempt e))
  | createContainer {s : CopyState} {attempt : Nat} (pc : s.pc = .createContainer attempt) :
      CopyStep url s (s.goto (.startCopy attempt))
  | createContainerFails {s : CopyState} {attempt : Nat} (pc : s.pc = .createContainer attempt)
      (e : RequestError) : CopyStep url s (s.goto (.afterError attempt e))
  /-- The copy creates the destination blob at once. -/
  | startCopy {s : CopyState} {attempt : Nat} (pc : s.pc = .startCopy attempt) :
      CopyStep url s ((s.setStatus .pending).goto (.getBlobProperties attempt 1))
  | startCopyFails {s : CopyState} {attempt : Nat} (pc : s.pc = .startCopy attempt)
      (e : RequestError) : CopyStep url s (s.goto (.afterError attempt e))
  /-- The request took effect, but its answer was lost. -/
  | startCopyLost {s : CopyState} {attempt : Nat} (pc : s.pc = .startCopy attempt)
      (e : RequestError) : CopyStep url s ((s.setStatus .pending).goto (.afterError attempt e))
  | getBlobProperties {s : CopyState} {attempt polling : Nat} {status : CopyStatus}
      (pc : s.pc = .getBlobProperties attempt polling) (blob : s.blob = some status) :
      CopyStep url s (s.goto (.observed attempt polling status))
  | getBlobPropertiesFails {s : CopyState} {attempt polling : Nat}
      (pc : s.pc = .getBlobProperties attempt polling) (e : RequestError) :
      CopyStep url s (s.goto (.afterPollingError attempt polling e))
  | cancelled {s : CopyState} {attempt polling : Nat} {status : CopyStatus}
      (pc : s.pc = .observed attempt polling status) :
      CopyStep url s (s.goto (.abortCopy attempt polling))
  | observedSuccess {s : CopyState} {attempt polling : Nat}
      (pc : s.pc = .observed attempt polling .success) : CopyStep url s (s.goto .copied)
  | observedFailure {s : CopyState} {attempt polling : Nat} {status : CopyStatus}
      (pc : s.pc = .observed attempt polling status)
      (ended : status = .aborted ∨ status = .failed) : CopyStep url s (s.goto .failed)
  | observedPending {s : CopyState} {attempt polling : Nat}
      (pc : s.pc = .observed attempt polling .pending) :
      CopyStep url s (s.goto (.getBlobProperties attempt polling))
  /-- The `CancellationException` is raised again. -/
  | abortCopy {s : CopyState} {attempt polling : Nat} (pc : s.pc = .abortCopy attempt polling)
      (pending : s.blob = some .pending) :
      CopyStep url s ((s.setStatus .aborted).goto .failed)
  | abortCopyFails {s : CopyState} {attempt polling : Nat} (pc : s.pc = .abortCopy attempt polling)
      (e : RequestError) : CopyStep url s (s.goto (.afterPollingError attempt polling e))
  | recordSuccess {s : CopyState} (pc : s.pc = .copied) :
      CopyStep url s { s.goto (.returned (some url)) with cached := some ⟨.success, some url⟩ }
  | recordFailure {s : CopyState} (pc : s.pc = .failed) :
      CopyStep url s { s.goto .raised with cached := some ⟨.failed, none⟩ }
  | returns {s : CopyState} {result : Option Text} (pc : s.pc = .returned result) :
      CopyStep url s (s.goto .idle)
  | raises {s : CopyState} (pc : s.pc = .raised) : CopyStep url s (s.goto .idle)

/-- Before the first call: nothing is cached, and the destination blob is absent
or has some copy status. -/
def CopyState.start (blob : Option CopyStatus) : CopyState where
  cached := none
  blob := blob
  succeeded := blob = some .success
  pc := .idle

/-- An existence test that finds the blob finds it with a finished copy. -/
def FindsFinished (s next : CopyState) : Prop :=
  ∀ attempt, s.pc = .blobExists attempt → next.pc = .copied → s.succeeded = true

/-- What has been copied when, along a run of finished tests. -/
structure CopiedBefore (s : CopyState) : Prop where
  observed : ∀ attempt polling, s.pc = .observed attempt polling .success → s.succeeded = true
  copied : s.pc = .copied → s.succeeded = true
  returned : ∀ url, s.pc = .returned (some url) → s.succeeded = true
  cached : ∀ url, s.cached = some ⟨.success, some url⟩ → s.succeeded = true
  blob : s.blob = some .success → s.succeeded = true

theorem copiedBefore_start (blob : Option CopyStatus) : CopiedBefore (.start blob) := by
  constructor <;> simp [CopyState.start]

variable {url : Text} {s next : CopyState}

/-- A copy that has succeeded has succeeded. -/
theorem CopyStep.succeeded_stays (step : CopyStep url s next) (succeeded : s.succeeded = true) :
    next.succeeded = true := by
  cases step with
  | progress status pending => simp [CopyState.setStatus, succeeded]
  | startCopy pc => simp [CopyState.setStatus, CopyState.goto, succeeded]
  | startCopyLost pc e => simp [CopyState.setStatus, CopyState.goto, succeeded]
  | abortCopy pc pending => simp [CopyState.setStatus, CopyState.goto, succeeded]
  | _ => exact succeeded

/-- The blob succeeds only together with the mark. -/
theorem CopyStep.blob_success (step : CopyStep url s next)
    (before : s.blob = some .success → s.succeeded = true) (success : next.blob = some .success) :
    next.succeeded = true := by
  cases step with
  | progress status pending =>
      cases success
      simp [CopyState.setStatus]
  | startCopy pc => cases success
  | startCopyLost pc e => cases success
  | abortCopy pc pending => cases success
  | _ => exact before success

theorem afterError_cases (attempt : Nat) (e : RequestError) :
    (∃ later, CopyPc.afterError attempt e = .getBlobService later) ∨
      CopyPc.afterError attempt e = .failed := by
  cases e with
  | connection =>
      unfold CopyPc.afterError
      dsimp only
      split
      · exact Or.inl ⟨_, rfl⟩
      · exact Or.inr rfl
  | other => exact Or.inr rfl

theorem afterPollingError_cases (attempt polling : Nat) (e : RequestError) :
    (∃ later, CopyPc.afterPollingError attempt polling e = .getBlobProperties attempt later) ∨
      (∃ later, CopyPc.afterPollingError attempt polling e = .getBlobService later) ∨
        CopyPc.afterPollingError attempt polling e = .failed := by
  cases e with
  | connection =>
      unfold CopyPc.afterPollingError
      dsimp only
      split
      · exact Or.inl ⟨_, rfl⟩
      · exact Or.inr (afterError_cases attempt .connection)
  | other => exact Or.inr (Or.inr rfl)

/-- Positions that promise nothing about the copy. -/
def CopyPc.Unpromising (pc : CopyPc) : Prop :=
  (∀ attempt polling, pc ≠ .observed attempt polling .success) ∧ pc ≠ .copied ∧
    ∀ url, pc ≠ .returned (some url)

theorem unpromising_afterError (attempt : Nat) (e : RequestError) :
    (CopyPc.afterError attempt e).Unpromising := by
  rcases afterError_cases attempt e with ⟨later, same⟩ | same <;> rw [same] <;>
    simp [CopyPc.Unpromising]

theorem unpromising_afterPollingError (attempt polling : Nat) (e : RequestError) :
    (CopyPc.afterPollingError attempt polling e).Unpromising := by
  rcases afterPollingError_cases attempt polling e with ⟨later, same⟩ | ⟨later, same⟩ | same <;>
    rw [same] <;> simp [CopyPc.Unpromising]

/-- A step into a position that promises nothing, with the cache as it was. -/
theorem CopiedBefore.quiet (copiedBefore : CopiedBefore s) (step : CopyStep url s next)
    (unpromising : next.pc.Unpromising) (cached : next.cached = s.cached) : CopiedBefore next := by
  constructor
  · intro attempt polling isObserved
    exact absurd isObserved (unpromising.1 attempt polling)
  · intro isCopied
    exact absurd isCopied unpromising.2.1
  · intro url isReturned
    exact absurd isReturned (unpromising.2.2 url)
  · intro url isCached
    exact step.succeeded_stays (copiedBefore.cached url (cached ▸ isCached))
  · exact step.blob_success copiedBefore.blob

/-- Once the copy has succeeded there is nothing left to promise. -/
theorem CopiedBefore.of_succeeded (succeeded : s.succeeded = true) : CopiedBefore s :=
  ⟨fun _ _ _ => succeeded, fun _ => succeeded, fun _ _ => succeeded, fun _ _ => succeeded,
    fun _ => succeeded⟩

/-- One lemma for every step whose existence test finds a finished copy only. -/
theorem CopiedBefore.step (copiedBefore : CopiedBefore s) (step : CopyStep url s next)
    (finished : FindsFinished s next) : CopiedBefore next := by
  have quiet := copiedBefore.quiet step
  cases step with
  | progress status pending =>
      by_cases isSuccess : status = .success
      · apply CopiedBefore.of_succeeded
        simp [CopyState.setStatus, isSuccess]
      · have stays : ∀ succeeded, s.succeeded = succeeded →
            (s.setStatus status).succeeded = succeeded := by
          intro succeeded same
          simp [CopyState.setStatus, isSuccess, same]
        refine ⟨fun a p at_ => stays _ (copiedBefore.observed a p at_),
          fun at_ => stays _ (copiedBefore.copied at_),
          fun url at_ => stays _ (copiedBefore.returned url at_),
          fun url at_ => stays _ (copiedBefore.cached url at_), ?_⟩
        intro success
        exact absurd (Option.some.inj success) isSuccess
  | callCached pc cached =>
      rename_i result
      cases result with
      | none => exact quiet (by simp [CopyState.goto, CopyPc.Unpromising]) rfl
      | some url => exact .of_succeeded (copiedBefore.cached url cached)
  | claim pc free =>
      refine ⟨by simp [CopyState.goto], by simp [CopyState.goto], by simp [CopyState.goto],
        by simp, copiedBefore.blob⟩
  | getBlobServiceFails pc e => exact quiet (unpromising_afterError _ e) rfl
  | present pc blob => exact .of_succeeded (finished _ pc rfl)
  | blobExistsFails pc e => exact quiet (unpromising_afterError _ e) rfl
  | createContainerFails pc e => exact quiet (unpromising_afterError _ e) rfl
  | startCopyFails pc e => exact quiet (unpromising_afterError _ e) rfl
  | startCopyLost pc e => exact quiet (unpromising_afterError _ e) rfl
  | getBlobProperties pc blob =>
      rename_i attempt polling status
      by_cases isSuccess : status = .success
      · exact .of_succeeded (copiedBefore.blob (isSuccess ▸ blob))
      · exact quiet (by simp [CopyState.goto, CopyPc.Unpromising, isSuccess]) rfl
  | getBlobPropertiesFails pc e => exact quiet (unpromising_afterPollingError _ _ e) rfl
  | observedSuccess pc => exact .of_succeeded (copiedBefore.observed _ _ pc)
  | abortCopyFails pc e => exact quiet (unpromising_afterPollingError _ _ e) rfl
  | recordSuccess pc => exact .of_succeeded (copiedBefore.copied pc)
  | recordFailure pc =>
      refine ⟨by simp [CopyState.goto], by simp [CopyState.goto], by simp [CopyState.goto],
        by simp, copiedBefore.blob⟩
  | _ => exact quiet (by simp [CopyState.goto, CopyPc.Unpromising]) rfl

/-- A run whose existence tests find the destination blob with a finished copy
only. -/
def FinishedRun (url : Text) : CopyState → CopyState → Prop :=
  Relation.ReflTransGen fun s next => CopyStep url s next ∧ FindsFinished s next

theorem FinishedRun.copiedBefore {before : CopyState} (run : FinishedRun url before s)
    (copiedBefore : CopiedBefore before) : CopiedBefore s := by
  induction run with
  | refl => exact copiedBefore
  | tail _ last ih => exact ih.step last.1 last.2

/-- In such a run a URL is returned only after the copy has succeeded. -/
theorem copyBlob_returns_finished_copy (blob : Option CopyStatus) {returnedUrl : Text}
    (run : FinishedRun url (.start blob) s) (returned : s.pc = .returned (some returnedUrl)) :
    s.succeeded = true :=
  (run.copiedBefore (copiedBefore_start blob)).returned returnedUrl returned

/-- A copy that ends while it is waited for. -/
theorem copyBlob_returns_finished_copy_example :
    ∃ s : CopyState, s.pc = .returned (some imageUrl) ∧ s.blob = some .success ∧
      s.succeeded = true := by
  have start : FinishedRun imageUrl (.start none) (.start none) := .refl
  have claimed := start.tail ⟨.claim rfl nofun, nofun⟩
  have opened := claimed.tail ⟨.getBlobService rfl, nofun⟩
  have tested := opened.tail ⟨.absent rfl rfl, nofun⟩
  have container := tested.tail ⟨.createContainer rfl, nofun⟩
  have started := container.tail ⟨.startCopy rfl, nofun⟩
  have finished := started.tail ⟨.progress .success rfl, nofun⟩
  have polled := finished.tail ⟨.getBlobProperties rfl rfl, nofun⟩
  have copied := polled.tail ⟨.observedSuccess rfl, nofun⟩
  have returned := copied.tail ⟨.recordSuccess rfl, nofun⟩
  exact ⟨_, rfl, rfl, copyBlob_returns_finished_copy none returned rfl⟩

/-- After a failed copy the next call finds the blob and returns its URL. -/
theorem copyBlob_returns_failed_copy : ¬ ∀ (s : CopyState) (url : Text),
    Relation.ReflTransGen (CopyStep imageUrl) (.start none) s →
      s.pc = .returned (some url) → s.succeeded = true := by
  intro finishes
  have start : Relation.ReflTransGen (CopyStep imageUrl) (.start none) (.start none) := .refl
  have claimed := start.tail (.claim rfl nofun)
  have opened := claimed.tail (.getBlobService rfl)
  have tested := opened.tail (.absent rfl rfl)
  have container := tested.tail (.createContainer rfl)
  have started := container.tail (.startCopy rfl)
  have ended := started.tail (.progress .failed rfl)
  have polled := ended.tail (.getBlobProperties rfl rfl)
  have failed := polled.tail (.observedFailure rfl (Or.inr rfl))
  have recorded := failed.tail (.recordFailure rfl)
  have raised := recorded.tail (.raises rfl)
  have claimedAgain := raised.tail (.claim rfl (by rintro _ ⟨⟩; rfl))
  have openedAgain := claimedAgain.tail (.getBlobService rfl)
  have found := openedAgain.tail (.present rfl nofun)
  have returned := found.tail (.recordSuccess rfl)
  have succeeded := finishes _ imageUrl returned rfl
  cases succeeded

end AzureShell.StorageService
