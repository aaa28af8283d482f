import AzureShell.Deploy.Interfaces
import AzureShell.Deploy.Requests
import AzureShell.Prog.Trace

/-!
# Which addresses a rollback releases

An interface checks an address out of the pool if the attribute of the cloud
provider, translated to Azure's type, is static.  The rollback asks whether the
attribute itself is static.  No text passes both tests: the addresses that were
checked out are kept, and under a method of the name "Static" addresses are
released that never were checked out.
-/

namespace AzureShell

open Prog

namespace DeployAzureVMOperation

variable {request : DeployRequest} {data : DeployDataModel}
  {start prepared raised : FaultyAzure} {e : PyException}

/-- Whether `create_nic` checks addresses out of the pool under this method. -/
def checksOut (privateIpAllocationMethod : Text) : Bool :=
  isStaticAllocation (.azureType (toAzureType privateIpAllocationMethod))

theorem checksOut_iff {method : Text} :
    checksOut method = true ↔ Text.lower method = "cloudshell allocation".toList := by
  unfold checksOut toAzureType
  split
  · rename_i isPool
    simp [isPool, isStaticAllocation]
  · rename_i notPool
    simp only [isStaticAllocation, notPool, iff_false]
    decide

/-- Under a method with checkouts every recorded address is released to the pool,
for the reservation and the owner, it was checked out with; under a method
without nothing is released. -/
structure ReleasesCheckedOut (method : Text) (recorded : List Text) (trace : List Request) :
    Prop where
  checkedOut : checksOut method = true → ∀ address ∈ recorded,
    ∃ values poolId reservationId ownerId,
      .releaseFromPool values poolId reservationId ownerId ∈ trace ∧ address ∈ values ∧
        ∀ otherPool otherReservation otherOwner subnetRange,
          .checkoutFromPool otherPool otherReservation otherOwner subnetRange ∈ trace →
            otherPool = poolId ∧ otherReservation = reservationId ∧ otherOwner = ownerId
  notCheckedOut : checksOut method = false → ∀ values poolId reservationId ownerId,
    .releaseFromPool values poolId reservationId ownerId ∈ trace → values = []

/-! ## The trace of a deployment that is rolled back -/

/-- The requests of a preparation are reads. -/
theorem preparation_reads : Within Reads (preparation request) :=
  prepareDeployData_reads.bind fun _ => checkIfCancelled_reads.bind fun _ => trivial

theorem requests_deployVmGeneric_of_error
    (isPrepared : run services (preparation request) start = (.ok data, prepared))
    (failed : run services (tryBlock request data) prepared = (.error e, raised)) :
    requests services (deployVmGeneric request) start =
      requests services (preparation request) start ++
        (((requests services (tryBlock request data) prepared).filter fun sent =>
          (privateIpNotes sent).isNone) ++
        requests services (rollbackDeployedResources request data
          (allPrivateIps request data prepared)) raised) := by
  rcases run_bind_eq_ok isPrepared with ⟨found, listed, foundRun, checked⟩
  rcases run_bind_eq_ok checked with ⟨_, _, checkRun, ending⟩
  cases ending
  rw [deployVmGeneric_eq, requests_bind_of_ok foundRun, requests_bind_of_ok checkRun,
    requests_fromBlock_of_error failed, preparation, requests_bind_of_ok foundRun,
    requests_bind_of_ok checkRun, requests_pure, List.append_nil, List.append_assoc]

/-! ## What a rollback releases -/

variable {privateIps : List Text}

/-- A rollback releases all addresses or none. -/
theorem values_of_mem_rollback {values : List Text} {poolId reservationId ownerId : Text}
    (member : .releaseFromPool values poolId reservationId ownerId ∈
      requests services (rollbackDeployedResources request data privateIps) raised) :
    isStaticAllocation (.attribute request.cloudProviderModel.privateIpAllocationMethod) = true ∧
      values = privateIps := by
  rw [rollbackDeployedResources_eq] at member
  rcases mem_requests_bind member with inDeletions | ⟨_, left, deleted, inRest⟩
  · cases deleteMachineAndInterfaces_sends.of_mem_requests inDeletions
  rcases mem_requests_bind inRest with inRelease | ⟨_, _, _, inArtifacts⟩
  · unfold Prog.when at inRelease
    split at inRelease
    · rename_i isStatic
      refine ⟨isStatic, ?_⟩
      rw [requests_catching] at inRelease
      rcases List.mem_append.mp inRelease with isRelease | inHandler
      · cases List.mem_singleton.mp isRelease
        rfl
      · split at inHandler <;> cases inHandler
    · cases inRelease
  · exact absurd rfl ((deleteNsgArtifacts_noRelease data.vmName).of_mem_requests inArtifacts
      values poolId reservationId ownerId)

/-- After its deletions a rollback releases the addresses, if the attribute itself is
static. -/
theorem mem_rollback_of_static {left : FaultyAzure}
    (deleted : run services (deleteMachineAndInterfaces data) raised = (.ok (), left))
    (isStatic : isStaticAllocation
      (.attribute request.cloudProviderModel.privateIpAllocationMethod) = true) :
    .releaseFromPool privateIps (IpService.getPoolId data.reservationId)
        data.reservationId IpService.poolItemOwner ∈
      requests services (rollbackDeployedResources request data privateIps) raised := by
  rw [rollbackDeployedResources_eq]
  apply mem_requests_bind_of_rest deleted
  apply mem_requests_bind_of_first
  rw [Prog.when, if_pos isStatic, requests_catching]
  exact List.mem_cons_self

/-! ## What a block notes -/

/-- A deployment that found no subnet notes no address. -/
theorem allPrivateIps_of_unfound
    (isPrepared : run services (preparation request) start = (.ok data, prepared))
    (unfound : none ∈ data.nicRequests) : allPrivateIps request data prepared = [] := by
  have alone := (preparation_prepared isPrepared).alone unfound
  have silent : Within Silent (tryBlock request data) := by
    apply tryBlock_sends.mono
    intro sent sends
    cases sends with
    | recordPrivateIp nicRequest member address =>
        rw [alone] at member
        cases List.mem_singleton.mp member
    | _ => rfl
  exact notedIps_of_silent silent prepared

/-! ## Which deployments keep an address -/

/-- The releases of a deployment that is rolled back are those of the rollback. -/
theorem mem_requests_release_iff {values : List Text} {poolId reservationId ownerId : Text}
    (isPrepared : run services (preparation request) start = (.ok data, prepared))
    (failed : run services (tryBlock request data) prepared = (.error e, raised)) :
    .releaseFromPool values poolId reservationId ownerId ∈
        requests services (deployVmGeneric request) start ↔
      .releaseFromPool values poolId reservationId ownerId ∈
        requests services (rollbackDeployedResources request data
          (allPrivateIps request data prepared)) raised := by
  rw [requests_deployVmGeneric_of_error isPrepared failed, List.mem_append, List.mem_append]
  constructor
  · rintro (inPreparation | inBlock | inRollback)
    · cases preparation_reads.of_mem_requests inPreparation
    · cases tryBlock_sends.of_mem_requests (List.mem_filter.mp inBlock).1
    · exact inRollback
  · exact fun inRollback => Or.inr (Or.inr inRollback)

/-- A rollback whose deletions succeed releases what was checked out, and nothing
else, if and only if no address was noted or the method is neither the pool's nor
"Static". -/
theorem rollback_releases_iff
    (isPrepared : run services (preparation request) start = (.ok data, prepared))
    (failed : run services (tryBlock request data) prepared = (.error e, raised))
    (deletes : none ∉ data.nicRequests →
      ∃ left, run services (deleteMachineAndInterfaces data) raised = (.ok (), left)) :
    ReleasesCheckedOut request.cloudProviderModel.privateIpAllocationMethod
        (allPrivateIps request data prepared)
        (requests services (deployVmGeneric request) start) ↔
      allPrivateIps request data prepared = [] ∨
        (Text.lower request.cloudProviderModel.privateIpAllocationMethod ≠
            "cloudshell allocation".toList ∧
          Text.lower request.cloudProviderModel.privateIpAllocationMethod ≠ "static".toList) := by
  have isReleased : ∀ {values : List Text} {poolId reservationId ownerId : Text},
      .releaseFromPool values poolId reservationId ownerId ∈
          requests services (deployVmGeneric request) start →
        isStaticAllocation (.attribute request.cloudProviderModel.privateIpAllocationMethod) = true ∧
          values = allPrivateIps request data prepared := by
    intro values poolId reservationId ownerId member
    exact values_of_mem_rollback ((mem_requests_release_iff isPrepared failed).mp member)
  constructor
  · intro releases
    rw [or_iff_not_imp_left]
    intro recorded
    constructor
    · intro isPool
      rcases List.exists_mem_of_ne_nil _ recorded with ⟨address, member⟩
      obtain ⟨_, _, _, _, isRelease, _⟩ :=
        releases.checkedOut (checksOut_iff.mpr isPool) address member
      have isStatic := of_decide_eq_true (isReleased isRelease).1
      rw [isPool] at isStatic
      revert isStatic
      decide
    · intro isStatic
      have found : none ∉ data.nicRequests :=
        fun unfound => recorded (allPrivateIps_of_unfound isPrepared unfound)
      rcases deletes found with ⟨left, deleted⟩
      have notPool : checksOut request.cloudProviderModel.privateIpAllocationMethod = false := by
        rw [Bool.eq_false_iff, ne_eq, checksOut_iff, isStatic]
        decide
      have inTrace := (mem_requests_release_iff isPrepared failed).mpr
        (mem_rollback_of_static deleted (decide_eq_true isStatic))
      exact recorded (releases.notCheckedOut notPool _ _ _ _ inTrace)
  · intro condition
    constructor
    · intro isPool address member
      rcases condition with noneNoted | ⟨notPool, _⟩
      · rw [noneNoted] at member
        cases member
      · exact (notPool (checksOut_iff.mp isPool)).elim
    · intro _ values poolId reservationId ownerId member
      rcases isReleased member with ⟨isStatic, isNoted⟩
      rcases condition with noneNoted | ⟨_, notStatic⟩
      · exact isNoted.trans noneNoted
      · exact (notStatic (of_decide_eq_true isStatic)).elim

/-! ## A machine of the pool -/

/-- The data of a machine on the subnet of the sandbox. -/
abbrev webData : DeployDataModel where
  reservationId := "r1".toList
  groupName := "r1".toList
  vmName := "web-0a1b2c3d".toList
  vmSize := "Basic_A0".toList
  nicRequests := [some ⟨"web-0a1b2c3d-0".toList,
    ⟨"r1_subnet".toList, "10.0.1.0/24".toList, none, none, none⟩, true⟩]

/-- The machine with addresses of the pool. -/
def poolRequest : DeployRequest :=
  { webRequest with
    cloudProviderModel :=
      { webRequest.cloudProviderModel with
        privateIpAllocationMethod := "Cloudshell Allocation".toList } }

/-- The sandbox with a free address, where the deployment is cancelled after its
interface was created. -/
def poolSandbox : FaultyAzure :=
  let sandbox := webSandbox [false, false, true]
  (sandbox.1, { sandbox.2 with availableIps := fun _ => ["10.0.1.4".toList] })

abbrev preparedFor (request : DeployRequest) (start : FaultyAzure) : FaultyAzure :=
  (run services (preparation request) start).2

abbrev raisedFor (request : DeployRequest) (start : FaultyAzure) : FaultyAzure :=
  (run services (tryBlock request webData) (preparedFor request start)).2

/-- The addresses that the block of the machine notes. -/
abbrev notedFor (request : DeployRequest) (start : FaultyAzure) : List Text :=
  allPrivateIps request webData (preparedFor request start)

/-- Where Azure allocates, a rollback releases nothing, as it should. -/
theorem rollback_releases_example :
    notedFor webRequest (webSandbox [false, false, true]) = ["10.0.0.4".toList] ∧
      ReleasesCheckedOut "Azure Allocation".toList ["10.0.0.4".toList]
        (requests services (deployVmGeneric webRequest) (webSandbox [false, false, true])) := by
  have isNoted : notedFor webRequest (webSandbox [false, false, true]) =
      ["10.0.0.4".toList] := by decide
  have isPrepared : run services (preparation webRequest) (webSandbox [false, false, true]) =
      (.ok webData, preparedFor webRequest (webSandbox [false, false, true])) :=
    Prod.ext (by decide) rfl
  have failed : run services (tryBlock webRequest webData)
      (preparedFor webRequest (webSandbox [false, false, true])) =
        (.error .cancellationException, raisedFor webRequest (webSandbox [false, false, true])) :=
    Prod.ext (by decide) rfl
  have deleted : (run services (deleteMachineAndInterfaces webData)
      (raisedFor webRequest (webSandbox [false, false, true]))).1 = .ok () := by decide
  constructor
  · exact isNoted
  · have releases := (rollback_releases_iff isPrepared failed fun _ =>
      ⟨_, Prod.ext deleted rfl⟩).mpr (Or.inr ⟨by decide, by decide⟩)
    rwa [show allPrivateIps webRequest webData _ = _ from isNoted] at releases

/-- An address checked out of the pool is noted, and no release is asked for
though the rollback deletes everything. -/
theorem rollback_keeps_address :
    "10.0.1.4".toList ∈ notedFor poolRequest poolSandbox ∧
      (run services (rollbackDeployedResources poolRequest webData
        (notedFor poolRequest poolSandbox)) (raisedFor poolRequest poolSandbox)).1 = .ok () ∧
      ¬ ReleasesCheckedOut "Cloudshell Allocation".toList (notedFor poolRequest poolSandbox)
        (requests services (deployVmGeneric poolRequest) poolSandbox) := by
  have isNoted : "10.0.1.4".toList ∈ notedFor poolRequest poolSandbox := by decide
  refine ⟨isNoted, by decide, ?_⟩
  · intro releases
    obtain ⟨values, poolId, reservationId, ownerId, member, _⟩ :=
      releases.checkedOut (by decide) _ isNoted
    have none : (requests services (deployVmGeneric poolRequest) poolSandbox).all fun sent =>
        match sent with
        | .releaseFromPool _ _ _ _ => false
        | _ => true := by decide
    have isOther := List.all_eq_true.mp none _ member
    cases isOther

end DeployAzureVMOperation

end AzureShell
