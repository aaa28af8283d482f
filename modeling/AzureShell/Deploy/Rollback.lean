import AzureShell.Deploy.Faults
import AzureShell.Deploy.Requests
import AzureShell.Nsg.Artifacts

/-!
# Whether a failed deployment leaves something behind

The rollback removes everything the deployment may have created, provided it
runs to its end.  Two things escape it: an exception after the `try` block is
not rolled back, and a request for an interface that found no subnet stops the
rollback before it reaches the machine's security group.
-/

namespace AzureShell

open Prog SecurityGroupService NameProviderService

namespace DeployAzureVMOperation

variable {request : DeployRequest} {data : DeployDataModel}

/-! ## The rollback -/

/-- The interface and the public address of a request. -/
def NetworkOf (nicRequest : Option NicRequest) (resource : Resource) : Prop :=
  ∃ wanted, nicRequest = some wanted ∧
    (resource = .networkInterface wanted.interfaceName ∨
      resource = .publicIpAddress (getIpFromInterfaceName wanted.interfaceName))

theorem deleteNetwork_clears {nicRequest : Option NicRequest} (found : nicRequest ≠ none) :
    Clears (do
        let nicRequest ← ofExcept (nicRequestOf nicRequest)
        NetworkService.deleteNic nicRequest.interfaceName
        NetworkService.deleteIp (getIpFromInterfaceName nicRequest.interfaceName))
      (NetworkOf nicRequest) := by
  rcases Option.ne_none_iff_exists'.mp found with ⟨wanted, rfl⟩
  have nic := (Clears.deleteNetworkInterface wanted.interfaceName).retryConnection
  have ip := (Clears.deletePublicIpAddress
    (getIpFromInterfaceName wanted.interfaceName)).retryConnection
  apply (nic.bind fun _ => ip).mono
  rintro resource ⟨other, same, isGone⟩
  cases same
  exact isGone

/-- The deletions at the start of a rollback with requests that all found their
subnets. -/
theorem deleteMachineAndInterfaces_clears (found : none ∉ data.nicRequests) :
    Clears (deleteMachineAndInterfaces data) fun resource =>
      resource = .virtualMachine data.vmName ∨
        ∃ nicRequest ∈ data.nicRequests, NetworkOf nicRequest resource := by
  have machine := (Clears.deleteVirtualMachine data.vmName).retryConnection
  have networks := Clears.forEach fun nicRequest (member : nicRequest ∈ data.nicRequests) =>
    deleteNetwork_clears (ne_of_mem_of_not_mem member found)
  exact machine.bind fun _ => networks

/-- The release, whose exceptions are caught, deletes nothing and creates nothing. -/
theorem run_releaseIps_caught (condition : Prop) [Decidable condition] (reservationId : Text)
    (privateIps : List Text) (state : FaultyAzure) :
    ∃ after, run services (when condition <|
        (IpService.releaseIps reservationId privateIps).catching fun _ => pure ()) state =
          (.ok (), after) ∧
      (∀ resource, after.2.Exists resource → state.2.Exists resource) ∧
      after.2.created = state.2.created := by
  unfold Prog.when
  split
  · let release : Request := .releaseFromPool privateIps (IpService.getPoolId reservationId)
      reservationId IpService.poolItemOwner
    have caught : run services ((IpService.releaseIps reservationId privateIps).catching
        fun _ => pure ()) state = (.ok (), (services release state).2) := by
      cases answered : services release state with
      | mk answer after =>
          cases answer with
          | ok a => exact run_catching_of_ok answered
          | error e => exact run_catching_of_error answered
    refine ⟨_, caught, ?_⟩
    rcases faulty_state Request.mayFail ServiceError.toException (Azure.handle false) release
      state with took | stayed
    · have isAfter : (services release state).2.2 = (Azure.handle false release state.2).2 := took
      rw [isAfter]
      exact ⟨fun resource remains => Azure.exists_of_exists_handle rfl remains, rfl⟩
    · have isAfter : (services release state).2.2 = state.2 := stayed
      rw [isAfter]
      exact ⟨fun _ remains => remains, rfl⟩
  · exact ⟨state, rfl, fun _ remains => remains, rfl⟩

/-- The request is not a release of addresses. -/
def NoRelease (sent : Request) : Prop :=
  ∀ values poolId reservationId ownerId,
    sent ≠ .releaseFromPool values poolId reservationId ownerId

theorem deleteMachineAndInterfaces_noRelease :
    Within NoRelease (deleteMachineAndInterfaces data) := by
  apply deleteMachineAndInterfaces_sends.mono
  rintro sent deletes _ _ _ _ rfl
  cases deletes

theorem deleteNsgArtifacts_noRelease (vmName : Text) :
    Within NoRelease (NetworkService.deleteNsgArtifactsAssociatedWithVm vmName) := by
  apply (NetworkService.deleteNsgArtifactsAssociatedWithVm_within vmName).mono
  rintro sent (rfl | ⟨_, _, rfl⟩ | ⟨_, _, _, _, rfl⟩) _ _ _ _ ⟨⟩

/-- A rollback with requests that all found their subnets leaves nothing that the
deployment plans, if no call but the release fails. -/
theorem rollbackDeployedResources_clears (request : DeployRequest)
    (found : none ∉ data.nicRequests) {privateIps : List Text} {state : FaultyAzure}
    (calm : CalmOn NoRelease services (rollbackDeployedResources request data privateIps) state) :
    ∃ after, run services (rollbackDeployedResources request data privateIps) state =
        (.ok (), after) ∧
      (∀ resource, Plans data resource → ¬ after.2.Exists resource) ∧
      (∀ resource, after.2.Exists resource → state.2.Exists resource) ∧
      after.2.created = state.2.created := by
  rcases state with ⟨fates, azure⟩
  rw [rollbackDeployedResources_eq] at calm ⊢
  -- the deletions
  rcases deleteMachineAndInterfaces_clears found azure with
    ⟨_, deleted, deletions, networksGone, deletionsShrink, deletedLog⟩
  rcases run_services_of_calmOn deleteMachineAndInterfaces_noRelease calm.first with
    ⟨deletedFates, deletedRun⟩
  rw [deletions] at deletedRun
  have afterDeletions := calm.rest_of_ok deletedRun
  -- the release
  obtain ⟨⟨releasedFates, released⟩, releasedRun, releaseShrinks, releasedLog⟩ :=
    run_releaseIps_caught (isStaticAllocation
      (.attribute request.cloudProviderModel.privateIpAllocationMethod) = true)
      data.reservationId privateIps (deletedFates, deleted)
  have afterRelease := Along.rest_of_ok afterDeletions releasedRun
  -- the security groups
  rcases NetworkService.deleteNsgArtifactsAssociatedWithVm_clears data.vmName released with
    ⟨_, after, artifacts, groupsGone, artifactsShrink, log⟩
  rcases run_services_of_calmOn (deleteNsgArtifacts_noRelease data.vmName) afterRelease with
    ⟨rest, artifactsRun⟩
  rw [artifacts] at artifactsRun
  refine ⟨(rest, after), ?_, ?_, ?_, log.trans (releasedLog.trans deletedLog)⟩
  · rw [run_bind_of_ok deletedRun]
    exact (run_bind_of_ok releasedRun).trans artifactsRun
  rotate_left
  · exact fun resource remains =>
      deletionsShrink resource (releaseShrinks resource (artifactsShrink resource remains))
  have own : data.vmName <:+: vmNsgName data.vmName := (List.suffix_append _ _).isInfix
  have groupGone : ¬ after.Exists (.networkSecurityGroup (vmNsgName data.vmName)) :=
    groupsGone (.networkSecurityGroup (vmNsgName data.vmName)) own
  have deletedGone : ∀ resource, resource = .virtualMachine data.vmName ∨
      (∃ nicRequest ∈ data.nicRequests, NetworkOf nicRequest resource) →
        ¬ after.Exists resource :=
    fun resource isGone remains =>
      networksGone resource isGone (releaseShrinks resource (artifactsShrink resource remains))
  intro resource isPlanned remains
  cases resource with
  | virtualMachine name => exact deletedGone _ (Or.inl (congrArg _ isPlanned)) remains
  | networkInterface name =>
      rcases isPlanned with ⟨nicRequest, member, rfl⟩
      exact deletedGone _ (Or.inr ⟨_, member, nicRequest, rfl, Or.inl rfl⟩) remains
  | publicIpAddress name =>
      rcases isPlanned with ⟨nicRequest, member, rfl⟩
      exact deletedGone _ (Or.inr ⟨_, member, nicRequest, rfl, Or.inr rfl⟩) remains
  | networkSecurityGroup name =>
      subst isPlanned
      exact groupGone remains
  | securityRule nsg name =>
      rcases isPlanned with rfl | ⟨rfl, carries⟩
      · -- a rule of the machine's own group goes with the group
        rcases remains with ⟨group, member, named, _⟩
        exact groupGone ⟨group, member, named⟩
      · have isSandbox : sandboxNsgName <:+: getSubnetsNsgName data.reservationId :=
          (List.prefix_append _ _).isInfix
        exact groupsGone (.securityRule (getSubnetsNsgName data.reservationId) name)
          ⟨isSandbox, carries⟩ remains

end DeployAzureVMOperation

end AzureShell
