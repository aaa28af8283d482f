import AzureShell.Deploy.Footprint
import AzureShell.Prog.Calm

/-!
# Deployments with failing calls

The calls of a deployment may fail at any point.  Whatever fails, the log of
creations holds only planned resources, and what was created stays until
something deletes it.
-/

namespace AzureShell

open Prog SecurityGroupService NameProviderService

/-- The exceptions a call of Azure or CloudShell may raise. -/
inductive ServiceError where
  | clientRequestError (message : Text)
  | cloudError (reason message : Text)
  | other (message : Text)
deriving DecidableEq, Repr

def ServiceError.toException : ServiceError → PyException
  | clientRequestError message => .clientRequestError message
  | cloudError reason message => .cloudError reason message
  | other message => .exception message

/-- Whether a request is a call that may raise: reading the cancellation context
or the deployment's own data and asking for a lock do not, and `check_url`
catches everything. -/
def Request.mayFail : Request → Bool
  | .isCancelled => false
  | .checkUrl _ => false
  | .recordPrivateIp _ => false
  | .getResourceLock _ => false
  | .removeLockResource _ => false
  | _ => true

/-- Azure with the fates of the calls to come. -/
abbrev FaultyAzure :=
  List (Fate ServiceError) × Azure

/-- The services of a deployment; deleting what is absent is no failure. -/
def services : Handler AzureServices FaultyAzure :=
  faulty Request.mayFail ServiceError.toException (Azure.handle false)

/-- A call that is answered well took effect. -/
theorem run_services_of_ok {request : Request} {a : request.Answer} {state after : FaultyAzure}
    (answered : run services (send request) state = (.ok a, after)) :
    Azure.handle false request state.2 = (.ok a, after.2) := by
  rcases state with ⟨fates, azure⟩
  exact faulty_of_ok answered

/-- Where no call fails a program runs as usual. -/
theorem run_services_of_harmless {α : Type} (program : Shell α) {state : FaultyAzure}
    (harmless : Harmless state.1) :
    ∃ rest, Harmless rest ∧ run services program state =
      ((run (Azure.handle false) program state.2).1, rest,
        (run (Azure.handle false) program state.2).2) :=
  run_faulty_of_harmless harmless

theorem run_services_of_calmOn {α : Type} {program : Shell α} {kind : Request → Prop}
    {state : FaultyAzure} (within : Within kind program)
    (calm : CalmOn kind services program state) :
    ∃ rest, run services program state = ((run (Azure.handle false) program state.2).1, rest,
      (run (Azure.handle false) program state.2).2) :=
  run_faulty_of_calmOn within calm

/-! ## A deployment from its block on -/

namespace DeployAzureVMOperation

/-- No service sees the notes of a deployment. -/
theorem takesNotes_services : TakesNotes privateIpNotes services := by
  rintro request note answer isNote ⟨fates, azure⟩
  cases request with
  | recordPrivateIp address =>
      cases isNote
      rfl
  | _ => cases isNote

section Block

variable {request : DeployRequest} {data : DeployDataModel} {state after : FaultyAzure}

/-- The addresses that a block noted before it ended. -/
def allPrivateIps (request : DeployRequest) (data : DeployDataModel) (state : FaultyAzure) :
    List Text :=
  noted privateIpNotes services (tryBlock request data) state

/-- What a deployment does after its preparation. -/
def fromBlock (request : DeployRequest) (data : DeployDataModel) : Shell DeployAppResult := do
  let (outcome, allPrivateIpAddresses) ← recording privateIpNotes [] (tryBlock request data)
  let block ← (ofExcept outcome).catching fun e => do
    rollbackDeployedResources request data allPrivateIpAddresses
    raise e
  afterBlock request data allPrivateIpAddresses block

theorem deployVmGeneric_eq (request : DeployRequest) :
    deployVmGeneric request = (do
      let data ← prepareDeployData request
      CommandCancellationService.checkIfCancelled
      fromBlock request data) :=
  rfl

theorem run_recorded (request : DeployRequest) (data : DeployDataModel) (state : FaultyAzure) :
    run services (recording privateIpNotes [] (tryBlock request data)) state =
      (.ok ((run services (tryBlock request data) state).1, allPrivateIps request data state),
        (run services (tryBlock request data) state).2) :=
  run_recording takesNotes_services [] (tryBlock request data) state

/-- The notes of the block are no requests of the deployment. -/
theorem requests_recorded (request : DeployRequest) (data : DeployDataModel)
    (state : FaultyAzure) :
    requests services (recording privateIpNotes [] (tryBlock request data)) state =
      (requests services (tryBlock request data) state).filter fun sent =>
        (privateIpNotes sent).isNone :=
  requests_recording takesNotes_services [] (tryBlock request data) state

theorem run_fromBlock_of_ok {block : VirtualMachine × Option Text}
    (success : run services (tryBlock request data) state = (.ok block, after)) :
    run services (fromBlock request data) state =
      run services (afterBlock request data (allPrivateIps request data state) block) after := by
  have recorded := run_recorded request data state
  rw [success] at recorded
  exact run_bind_of_ok recorded

/-- A block that raises is rolled back, and the exception is raised again. -/
theorem run_fromBlock_of_error {e : PyException}
    (failed : run services (tryBlock request data) state = (.error e, after)) :
    run services (fromBlock request data) state =
      run services (do
        rollbackDeployedResources request data (allPrivateIps request data state)
        raise e) after := by
  have recorded := run_recorded request data state
  rw [failed] at recorded
  refine (run_bind_of_ok recorded).trans ?_
  change run services ((_ >>= fun _ => raise e) >>= _) after = _
  rw [bind_assoc]
  rfl

/-- The requests of a deployment from a block on that raised. -/
theorem requests_fromBlock_of_error {e : PyException}
    (failed : run services (tryBlock request data) state = (.error e, after)) :
    requests services (fromBlock request data) state =
      ((requests services (tryBlock request data) state).filter fun sent =>
        (privateIpNotes sent).isNone) ++
      requests services (rollbackDeployedResources request data (allPrivateIps request data state))
        after := by
  have recorded := run_recorded request data state
  rw [failed] at recorded
  rw [← requests_recorded, fromBlock, requests_bind_of_ok recorded]
  congr 1
  change requests services ((_ >>= fun _ => raise e) >>= _) after = _
  rw [bind_assoc]
  exact requests_bind_of_quiet (fun _ _ => rfl) after

/-- A footprint of the block, of every rollback and of every result is one of the
deployment from its block on. -/
theorem fromBlock_within {allowed : Request → Prop} (block : Within allowed (tryBlock request data))
    (rollback : ∀ privateIps, Within allowed (rollbackDeployedResources request data privateIps))
    (result : ∀ privateIps block, Within allowed (afterBlock request data privateIps block)) :
    Within allowed (fromBlock request data) := by
  apply (block.recording []).bind
  rintro ⟨outcome, privateIps⟩
  apply Within.bind
  · apply (within_ofExcept outcome).catching
    intro e
    exact (rollback privateIps).bind fun _ => within_raise e
  · exact result privateIps

end Block

end DeployAzureVMOperation

/-! ## Virtual networks -/

/-- The request leaves the virtual networks. -/
def LeavesNetworks (request : Request) : Prop :=
  ∀ azure, (Azure.handle false request azure).2.virtualNetworks = azure.virtualNetworks

theorem virtualNetworks_of_leaves {α : Type} {program : Shell α}
    (leaves : Within LeavesNetworks program) (state : FaultyAzure) :
    (run services program state).2.2.virtualNetworks = state.2.virtualNetworks := by
  apply leaves.run_faulty_preserves fun azure : Azure =>
    azure.virtualNetworks = state.2.virtualNetworks
  · exact fun request azure leavesNetworks same => (leavesNetworks azure).trans same
  · rfl

/-- Networks that are listed are those of the state. -/
theorem networks_of_getVirtualNetworks {groupName : Text} {networks : List VirtualNetwork}
    {state after : FaultyAzure}
    (success : run services (NetworkService.getVirtualNetworks groupName) state =
      (.ok networks, after)) :
    networks = state.2.virtualNetworks groupName := by
  let unchanged : FaultyAzure → Prop := fun later =>
    later.2.virtualNetworks = state.2.virtualNetworks
  have kept : ∀ later, unchanged later →
      unchanged (run services (send (.listVirtualNetworks groupName)) later).2 := by
    intro later same
    exact (virtualNetworks_of_leaves (within_perform fun _ => rfl) later).trans same
  rcases run_retry_eq_ok_of_preserved kept rfl success with ⟨start, same, success⟩
  have answered := congrArg Prod.fst (run_services_of_ok success)
  cases answered
  exact congrFun same groupName

/-- The sandbox network of a management group. -/
def Azure.sandboxNetwork (azure : Azure) (groupName : Text) : Option VirtualNetwork :=
  NetworkService.getVirtualNetworkByTag (azure.virtualNetworks groupName)
    NetworkService.networkTypeTagName NetworkService.sandboxNetworkTagValue

namespace DeployAzureVMOperation

/-- The data of a deployment are those of its request and of the sandbox
network. -/
structure Found (request : DeployRequest) (azure : Azure) (data : DeployDataModel) : Prop where
  reservationId : data.reservationId = request.reservationId
  named : prepareVmName request = .ok data.vmName
  nicRequests : ∃ network,
    azure.sandboxNetwork request.cloudProviderModel.managementGroupName = some network ∧
      data.nicRequests = nicRequestsFor request data.vmName network.subnets

/-- The interfaces a deployment asks for. -/
def requestedInterfaces (request : DeployRequest) (azure : Azure) : List NicRequest :=
  match prepareVmName request,
    azure.sandboxNetwork request.cloudProviderModel.managementGroupName with
  | .ok vmName, some network => (nicRequestsFor request vmName network.subnets).filterMap id
  | _, _ => []

theorem Found.requestedInterfaces_eq {request : DeployRequest} {azure : Azure}
    {data : DeployDataModel} (found : Found request azure data) :
    requestedInterfaces request azure = data.nicRequests.filterMap id := by
  rcases found.nicRequests with ⟨network, isNetwork, requested⟩
  rw [requestedInterfaces, found.named, isNetwork, requested]

theorem prepareDeployData_found {request : DeployRequest} {data : DeployDataModel}
    {state after : FaultyAzure}
    (success : run services (prepareDeployData request) state = (.ok data, after)) :
    Found request state.2 data := by
  have imageLeaves : Within LeavesNetworks (getImageDataModel request.createVmAction) := by
    unfold getImageDataModel
    split
    · exact Within.retry (within_perform fun _ => rfl) 4
    · exact within_perform fun _ => rfl
  rcases run_bind_eq_ok success with ⟨_, imaged, image, success⟩
  have sameNetworks := virtualNetworks_of_leaves imageLeaves state
  rw [image] at sameNetworks
  rcases run_bind_eq_ok success with ⟨_, _, valid, success⟩
  cases congrArg Prod.snd valid
  rcases run_bind_eq_ok success with ⟨vmName, _, named, success⟩
  cases congrArg Prod.snd named
  rcases run_bind_eq_ok success with ⟨vmSize, _, sized, success⟩
  cases congrArg Prod.snd sized
  rcases run_bind_eq_ok success with ⟨nicRequests, _, requested, success⟩
  rcases run_bind_eq_ok success with ⟨_, _, _, success⟩
  cases success
  rcases run_bind_eq_ok requested with ⟨sandboxVirtualNetwork, _, found, requested⟩
  rcases run_bind_eq_ok found with ⟨networks, _, listed, found⟩
  have isListed := networks_of_getVirtualNetworks listed
  cases found
  rw [isListed, sameNetworks] at requested
  constructor
  · rfl
  · exact congrArg Prod.fst named
  · cases isNetwork : state.2.sandboxNetwork request.cloudProviderModel.managementGroupName with
    | none =>
        rw [Azure.sandboxNetwork] at isNetwork
        rw [isNetwork] at requested
        cases requested
    | some network =>
        rw [Azure.sandboxNetwork] at isNetwork
        rw [isNetwork] at requested
        cases requested
        exact ⟨network, rfl, rfl⟩

end DeployAzureVMOperation

/-! ## What the deployment's requests preserve -/

section Preserved

variable {α β : Type} {planned : Resource → Prop} {program : Shell α} {state : FaultyAzure}

/-- What requests that build only planned resources preserve. -/
theorem BuildsOnly.run_preserves (builds : BuildsOnly planned program)
    (invariant : Azure → Prop)
    (preserved : ∀ request azure, Builds planned request → invariant azure →
      invariant (Azure.handle false request azure).2)
    (holds : invariant state.2) : invariant (run services program state).2.2 := by
  exact Within.run_faulty_preserves builds invariant preserved holds

/-- Only planned resources are created. -/
theorem BuildsOnly.created (builds : BuildsOnly planned program)
    (before : ∀ resource ∈ state.2.created, planned resource) :
    ∀ resource ∈ (run services program state).2.2.created, planned resource := by
  apply builds.run_preserves fun azure => ∀ resource ∈ azure.created, planned resource
  · intro request azure isBuilds
    exact Azure.created_subset_handle isBuilds.creates
  · exact before

/-- A program that plans nothing creates nothing. -/
theorem BuildsOnly.created_eq (builds : BuildsOnly (fun _ => False) program) :
    (run services program state).2.2.created = state.2.created := by
  apply builds.run_preserves fun azure => azure.created = state.2.created
  · intro request azure isBuilds same
    have creates : request.creates = none :=
      Option.eq_none_iff_forall_ne_some.mpr fun resource isCreated =>
        isBuilds.creates resource isCreated
    rw [Azure.created_handle_of_creates_none creates, same]
  · rfl

/-- A created resource stays in the log. -/
theorem BuildsOnly.created_grows (builds : BuildsOnly planned program) {resource : Resource}
    (created : resource ∈ state.2.created) :
    resource ∈ (run services program state).2.2.created := by
  apply builds.run_preserves fun azure => resource ∈ azure.created
  · intro request azure _ isCreated
    rcases Azure.created_handle false request azure with same | ⟨_, _, logged⟩
    · rwa [same]
    · rw [logged]
      exact List.mem_cons_of_mem _ isCreated
  · exact created

/-- A machine that exists stays. -/
theorem BuildsOnly.virtualMachine_stays (builds : BuildsOnly planned program) {name : Text}
    (present : state.2.Exists (.virtualMachine name)) :
    (run services program state).2.2.Exists (.virtualMachine name) := by
  apply builds.run_preserves fun azure => azure.Exists (.virtualMachine name)
  · intro request azure isBuilds
    apply Azure.exists_virtualMachine_handle
    · rintro rfl
      cases isBuilds.deletes
    · rintro group rfl
      cases isBuilds.deletes
  · exact present

/-- A created security group exists, as long as nothing is deleted. -/
def GroupsStand (azure : Azure) : Prop :=
  ∀ name, Resource.networkSecurityGroup name ∈ azure.created →
    azure.Exists (.networkSecurityGroup name)

theorem BuildsOnly.groupsStand (builds : BuildsOnly planned program)
    (before : GroupsStand state.2) : GroupsStand (run services program state).2.2 := by
  apply builds.run_preserves GroupsStand
  · intro request azure isBuilds stand name created
    have stays : azure.Exists (.networkSecurityGroup name) →
        (Azure.handle false request azure).2.Exists (.networkSecurityGroup name) := by
      apply Azure.exists_networkSecurityGroup_handle
      · rintro rfl
        cases isBuilds.deletes
      · rintro group rfl
        cases isBuilds.deletes
    rcases Azure.created_handle false request azure with same | ⟨resource, creates, logged⟩
    · exact stays (stand name (same ▸ created))
    · rw [logged] at created
      rcases List.mem_cons.mp created with rfl | old
      · cases request with
        | putNetworkSecurityGroup other =>
            cases creates
            exact ⟨⟨name, []⟩, Store.mem_upsert_self _ _, rfl⟩
        | _ => cases creates
      · exact stays (stand name old)
  · exact before

end Preserved

end AzureShell
