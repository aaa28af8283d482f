import AzureShell.Deploy.Faults
import AzureShell.Deploy.Requests
import AzureShell.Prog.Trace

/-!
# The lock keys of a deployment

A deployment asks the lock provider for the lock of its machine's security group
right after it created the group, and for the lock of the subnets' group after
that.  It makes no other request to the lock provider.
-/

namespace AzureShell

open Prog SecurityGroupService

/-- The key of a request to the lock provider. -/
def Request.lockKey : Request → Option Text
  | .getResourceLock lockKey => some lockKey
  | .removeLockResource lockKey => some lockKey
  | _ => none

/-- The request does not go to the lock provider. -/
def Lockless (request : Request) : Prop :=
  request.lockKey = none

/-- The request removes no lock. -/
def KeepsLocks (request : Request) : Prop :=
  ∀ lockKey, request ≠ .removeLockResource lockKey

theorem Lockless.keepsLocks {request : Request} (lockless : Lockless request) :
    KeepsLocks request := by
  rintro lockKey rfl
  cases lockless

theorem lockless_send {request : Request} (noKey : request.lockKey = none) :
    Within Lockless (send request) :=
  within_perform noKey

theorem keepsLocks_of_lockless {α : Type} {program : Shell α} (within : Within Lockless program) :
    Within KeepsLocks program :=
  within.mono fun _ => Lockless.keepsLocks

theorem keepsLocks_getResourceLock (lockKey : Text) :
    Within KeepsLocks (send (.getResourceLock lockKey)) := by
  apply within_perform
  rintro other ⟨⟩

namespace DeployAzureVMOperation

variable {request : DeployRequest} {data : DeployDataModel}

theorem lockless_of_reads {sent : Request} (reads : Reads sent) : Lockless sent := by
  cases reads <;> rfl

theorem keepsLocks_of_reads {sent : Request} (reads : Reads sent) : KeepsLocks sent :=
  (lockless_of_reads reads).keepsLocks

theorem createNetworkSecurityGroup_lockless (nsg : Text) :
    Within Lockless (createNetworkSecurityGroup nsg) :=
  Within.retry (lockless_send rfl) 4

theorem lockless_of_deletesNsgArtifacts {vmName : Text} {sent : Request}
    (deletes : NetworkService.DeletesNsgArtifacts vmName sent) : Lockless sent := by
  rcases deletes with rfl | ⟨_, _, rfl⟩ | ⟨_, _, _, _, rfl⟩ <;> rfl

theorem rollbackDeployedResources_lockless (privateIps : List Text) :
    Within Lockless (rollbackDeployedResources request data privateIps) := by
  apply (rollbackDeployedResources_sends privateIps).mono
  intro sent sends
  cases sends with
  | deletion deletes => cases deletes <;> rfl
  | releaseFromPool values isRelease => exact isRelease ▸ rfl
  | nsgArtifacts deletes => exact lockless_of_deletesNsgArtifacts deletes

theorem tryBlock_keepsLocks : Within KeepsLocks (tryBlock request data) := by
  apply tryBlock_sends.mono
  rintro sent sends lockKey rfl
  cases sends

/-! ## The first lock of a deployment -/

/-- The run ends with an exception and made no request to the lock provider. -/
structure FailsLockless {α : Type} (program : Shell α) (state : FaultyAzure) : Prop where
  fails : ∀ a finished, run services program state ≠ (.ok a, finished)
  lockless : ∀ sent ∈ requests services program state, Lockless sent

theorem FailsLockless.of_within {α : Type} {program : Shell α} {state : FaultyAzure}
    (within : Within Lockless program)
    (fails : ∀ a finished, run services program state ≠ (.ok a, finished)) :
    FailsLockless program state where
  fails := fails
  lockless := fun _ member => within.of_mem_requests member

theorem FailsLockless.bind {α β : Type} {program : Shell α} {state : FaultyAzure}
    (failed : FailsLockless program state) (rest : α → Shell β) :
    FailsLockless (program >>= rest) state where
  fails := by
    intro b finished success
    rcases run_bind_eq_ok success with ⟨a, between, ran, _⟩
    exact failed.fails a between ran
  lockless := by
    intro sent member
    rcases mem_requests_bind member with inFirst | ⟨a, between, ran, _⟩
    · exact failed.lockless sent inFirst
    · exact (failed.fails a between ran).elim

/-- What follows a part without locks fails in its place. -/
theorem FailsLockless.after {α β : Type} {program : Shell α} {rest : α → Shell β}
    {state : FaultyAzure} (within : Within Lockless program)
    (later : ∀ a between, run services program state = (.ok a, between) →
      FailsLockless (rest a) between) : FailsLockless (program >>= rest) state where
  fails := by
    intro b finished success
    rcases run_bind_eq_ok success with ⟨a, between, ran, success⟩
    exact (later a between ran).fails b finished success
  lockless := by
    intro sent member
    rcases mem_requests_bind member with inFirst | ⟨a, between, ran, inRest⟩
    · exact within.of_mem_requests inFirst
    · exact (later a between ran).lockless sent inRest

/-- A deployment up to the creation of its machine's security group. -/
def untilVmGroup (request : DeployRequest) : Shell DeployDataModel := do
  let data ← prepareDeployData request
  CommandCancellationService.checkIfCancelled
  let _ ← getManagementVnetCidr request.cloudProviderModel
  let _ ← NetworkService.getSandboxVirtualNetwork data.groupName
  createNetworkSecurityGroup (vmNsgName data.vmName)
  pure data

/-- A deployment that has created the group asks for the group's lock. -/
theorem deployVmGeneric_asks {state created : FaultyAzure}
    (success : run services (untilVmGroup request) state = (.ok data, created)) :
    .getResourceLock (vmNsgName data.vmName) ∈ requests services (deployVmGeneric request) state := by
  rcases run_bind_eq_ok success with ⟨found, prepared, preparedRun, success⟩
  rcases run_bind_eq_ok success with ⟨_, checked, checkRun, success⟩
  rcases run_bind_eq_ok success with ⟨managementVnetCidr, looked, cidrRun, success⟩
  rcases run_bind_eq_ok success with ⟨_, listed, listRun, success⟩
  rcases run_bind_eq_ok success with ⟨_, grouped, groupRun, success⟩
  cases success
  apply mem_requests_bind_of_rest preparedRun
  apply mem_requests_bind_of_rest checkRun
  apply mem_requests_bind_of_first
  rw [requests_recorded, List.mem_filter]
  refine ⟨?_, rfl⟩
  apply mem_requests_bind_of_first
  apply mem_requests_bind_of_first
  apply mem_requests_bind_of_rest cidrRun
  apply mem_requests_bind_of_rest listRun
  apply mem_requests_bind_of_rest groupRun
  exact List.mem_cons_self

/-- A deployment that fails before that asks for no lock. -/
theorem deployVmGeneric_failsLockless {state : FaultyAzure}
    (fails : ∀ data created, run services (untilVmGroup request) state ≠ (.ok data, created)) :
    FailsLockless (deployVmGeneric request) state := by
  apply FailsLockless.after (prepareDeployData_reads.mono fun _ => lockless_of_reads)
  intro data prepared preparedRun
  apply FailsLockless.after (checkIfCancelled_reads.mono fun _ => lockless_of_reads)
  intro _ checked checkRun
  have block : FailsLockless (tryBlock request data) checked := by
    apply FailsLockless.bind
    apply FailsLockless.bind
    apply FailsLockless.after ((getManagementVnetCidr_reads _).mono fun _ => lockless_of_reads)
    intro managementVnetCidr looked cidrRun
    apply FailsLockless.after ((getSandboxVirtualNetwork_reads _).mono fun _ => lockless_of_reads)
    intro found listed listRun
    apply FailsLockless.bind
    apply FailsLockless.of_within (createNetworkSecurityGroup_lockless _)
    intro _ grouped groupRun
    apply fails data grouped
    rw [untilVmGroup, run_bind_of_ok preparedRun, run_bind_of_ok checkRun, run_bind_of_ok cidrRun,
      run_bind_of_ok listRun, run_bind_of_ok groupRun]
    rfl
  cases ran : run services (tryBlock request data) checked with
  | mk outcome left =>
  cases outcome with
  | ok vm => exact (block.fails vm left ran).elim
  | error e =>
      -- the rollback raises the exception again
      have rollback : Within Lockless (rollbackDeployedResources request data
          (allPrivateIps request data checked)) := rollbackDeployedResources_lockless _
      constructor
      · intro result finished success
        change run services (fromBlock request data) checked = _ at success
        rw [run_fromBlock_of_error ran] at success
        rcases run_bind_eq_ok success with ⟨_, _, _, raised⟩
        cases raised
      · intro sent member
        change sent ∈ requests services (fromBlock request data) checked at member
        rw [requests_fromBlock_of_error ran] at member
        rcases List.mem_append.mp member with inBlock | inRollback
        · exact block.lockless sent (List.mem_filter.mp inBlock).1
        · exact rollback.of_mem_requests inRollback

theorem deployVmGeneric_keepsLocks : Within KeepsLocks (deployVmGeneric request) := by
  apply (prepareDeployData_reads.mono fun _ => keepsLocks_of_reads).bind
  intro data
  apply (checkIfCancelled_reads.mono fun _ => keepsLocks_of_reads).bind
  intro _
  apply fromBlock_within tryBlock_keepsLocks
  · intro privateIps
    exact keepsLocks_of_lockless (rollbackDeployedResources_lockless privateIps)
  · intro privateIps block
    exact (afterBlock_reads privateIps block).mono fun _ => keepsLocks_of_reads

end DeployAzureVMOperation

end AzureShell
