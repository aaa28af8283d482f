import AzureShell.Apps.SecurityGroups
import AzureShell.Delete.Cleanup
import AzureShell.Delete.Operation
import AzureShell.Prog.Balanced
import AzureShell.Refresh.RefreshIp
import AzureShell.Sandbox.Prepare

/-!
# The commands of the shell make progress

The commands of one driver share the lock for subnet updates and the locks of the
lock provider.  Each of them holds one of these locks at a time and gives it back
whatever becomes of its calls.  So clients that send any commands at the same time
never block each other for good on them, and when all have ended they are all free.

A command asks for storage accounts, key pairs and blobs in single requests here;
the locks that are taken inside such a request are those of the cached services.
-/

namespace AzureShell

open Prog SecurityGroupService

variable {held : Option LockName}

theorem balanced_send (request : Request) : Balanced held (send request) :=
  fun _ => rfl

theorem retryConnection_balanced {α : Type} {body : Shell α} (balanced : Balanced held body) :
    Balanced held (retryConnection body) :=
  Balanced.retry balanced 4

theorem checkIfCancelled_balanced : Balanced held CommandCancellationService.checkIfCancelled := by
  apply (balanced_send _).bind
  intro isCancelled
  split
  · exact balanced_raise _
  · exact balanced_pure ()

/-! ## Networks and security groups -/

namespace NetworkService

theorem getVirtualNetworks_balanced (groupName : Text) :
    Balanced held (getVirtualNetworks groupName) :=
  retryConnection_balanced (balanced_send _)

theorem getSandboxVirtualNetwork_balanced (groupName : Text) :
    Balanced held (getSandboxVirtualNetwork groupName) :=
  (getVirtualNetworks_balanced groupName).bind fun _ => balanced_pure _

theorem publicIpFor_balanced (addPublicIp : Bool) (ipName publicIpType : Text) :
    Balanced held (publicIpFor addPublicIp ipName publicIpType) := by
  unfold publicIpFor
  split
  · apply EndsHolding.bind
    · apply retryConnection_balanced
      exact (balanced_ofExcept _).bind fun _ => balanced_send _
    · intro publicIpAddress
      exact balanced_pure _
  · exact balanced_pure none

theorem createNetworkForVm_balanced {interfaceName ipName reservationId publicIpType : Text}
    {cloudProviderModel : AzureCloudProviderResourceModel} {subnet : Subnet} {addPublicIp : Bool} :
    Balanced held (createNetworkForVm interfaceName ipName reservationId cloudProviderModel subnet
      addPublicIp publicIpType) := by
  apply (publicIpFor_balanced _ _ _).bind
  intro publicIpAddress
  apply retryConnection_balanced
  apply Balanced.retry
  apply EndsHolding.bind
  · unfold privateIpFor
    split
    · exact (balanced_send _).bind fun _ => balanced_pure _
    · exact balanced_pure none
  · intro privateIpAddress
    exact balanced_send _

theorem deleteNsgArtifactsAssociatedWithVm_balanced (vmName : Text) :
    Balanced held (deleteNsgArtifactsAssociatedWithVm vmName) := by
  apply retryConnection_balanced
  apply (balanced_send _).bind
  intro networkSecurityGroups
  apply Balanced.forEach
  intro nsg _
  apply (Balanced.when fun _ => balanced_send _).bind
  intro _
  apply Balanced.when
  intro _
  exact Balanced.forEach fun rule _ => Balanced.when fun _ => balanced_send _

end NetworkService

namespace SecurityGroupService

theorem createNetworkSecurityGroup_balanced (securityGroupName : Text) :
    Balanced held (createNetworkSecurityGroup securityGroupName) :=
  retryConnection_balanced (balanced_send _)

theorem createRules_balanced {nsg destinationAddr sourceAddress : Text}
    (inboundRules : List InboundRule) (priorityGenerator : PriorityGenerator) :
    Balanced held (createRules nsg destinationAddr sourceAddress inboundRules priorityGenerator) := by
  induction inboundRules generalizing priorityGenerator with
  | nil => exact balanced_pure ()
  | cons ruleData rest ih =>
      unfold createRules
      split
      · rename_i priority later _
        apply (retryConnection_balanced (balanced_send _)).bind
        intro _
        exact ih later
      · exact balanced_raise _

/-- A batch of rules takes the lock of its group for itself. -/
theorem createNetworkSecurityGroupRules_balanced {nsg destinationAddr sourceAddress : Text}
    {inboundRules : List InboundRule} {lock : LockName} {startFrom : Option Int} :
    Balanced none (createNetworkSecurityGroupRules nsg inboundRules destinationAddr lock startFrom
      sourceAddress) := by
  apply retryConnection_balanced
  apply Balanced.withLock
  apply (balanced_send _).bind
  intro securityRules
  exact createRules_balanced _ _

theorem deleteCustomSecurityRulesFromNsg_balanced {nsg : Text} {lock : LockName} :
    Balanced none (deleteCustomSecurityRulesFromNsg nsg lock) := by
  apply retryConnection_balanced
  apply (balanced_send _).bind
  intro rulesInNsg
  apply Balanced.withLock
  exact Balanced.forEach fun rule _ => balanced_send _

end SecurityGroupService

/-! ## Deployments -/

namespace DeployAzureVMOperation

variable {request : DeployRequest} {data : DeployDataModel}

theorem prepareDeployData_balanced : Balanced held (prepareDeployData request) := by
  apply EndsHolding.bind
  · unfold getImageDataModel
    split
    · exact retryConnection_balanced (balanced_send _)
    · exact balanced_send _
  intro _
  apply (balanced_ofExcept _).bind
  intro _
  apply (balanced_ofExcept _).bind
  intro vmName
  apply (balanced_ofExcept _).bind
  intro vmSize
  apply EndsHolding.bind
  · apply (NetworkService.getSandboxVirtualNetwork_balanced _).bind
    intro sandboxVirtualNetwork
    split
    · exact balanced_pure _
    · exact balanced_raise _
  intro nicRequests
  apply (retryConnection_balanced (balanced_send _)).bind
  intro _
  exact balanced_pure _

theorem createVmNetworkSecurityGroup_balanced :
    Balanced none (createVmNetworkSecurityGroup request.cloudProviderModel data
      request.deploymentModel) := by
  apply EndsHolding.bind
  · exact (NetworkService.getVirtualNetworks_balanced _).bind fun _ => balanced_ofExcept _
  intro managementVnetCidr
  apply (NetworkService.getSandboxVirtualNetwork_balanced _).bind
  intro _
  apply (createNetworkSecurityGroup_balanced _).bind
  intro _
  apply (balanced_send _).bind
  intro _
  apply EndsHolding.bind
  · apply Balanced.when
    intro _
    exact (balanced_ofExcept _).bind fun _ => createNetworkSecurityGroupRules_balanced
  intro _
  apply (Balanced.forEach fun _ _ => createNetworkSecurityGroupRules_balanced).bind
  intro _
  apply createNetworkSecurityGroupRules_balanced.bind
  intro _
  apply EndsHolding.bind
  · apply Balanced.when
    intro _
    exact createNetworkSecurityGroupRules_balanced.bind fun _ =>
      createNetworkSecurityGroupRules_balanced
  intro _
  exact checkIfCancelled_balanced.bind fun _ => balanced_pure _

theorem createNetwork_balanced {inboundRules : List RuleData} (nicRequest : Option NicRequest) :
    Balanced none (createNetwork request data inboundRules nicRequest) := by
  cases nicRequest with
  | none => exact balanced_raise _
  | some nicRequest =>
      apply NetworkService.createNetworkForVm_balanced.bind
      intro nic
      apply (balanced_ofExcept _).bind
      intro ipConfiguration
      apply (balanced_send _).bind
      intro _
      exact createNetworkSecurityGroupRules_balanced.bind fun _ => balanced_pure nic

theorem createVmCommonObjects_balanced : Balanced none (createVmCommonObjects request data) := by
  apply createVmNetworkSecurityGroup_balanced.bind
  intro _
  apply (balanced_ofExcept _).bind
  intro inboundRules
  apply (balanced_send _).bind
  intro _
  apply (Balanced.collect fun nicRequest _ => createNetwork_balanced nicRequest).bind
  intro nics
  apply (Balanced.when fun _ => retryConnection_balanced (balanced_send _)).bind
  intro _
  exact checkIfCancelled_balanced.bind fun _ => balanced_pure nics

theorem checkWhilePolling_balanced (notDone : Nat) :
    Balanced held (TaskWaiterService.checkWhilePolling notDone) := by
  induction notDone with
  | zero => exact balanced_pure ()
  | succ notDone ih => exact checkIfCancelled_balanced.bind fun _ => ih

theorem createVm_balanced (vm : VirtualMachine) :
    Balanced held (VirtualMachineService.createVm vm) := by
  apply retryConnection_balanced
  apply Balanced.retry
  apply (balanced_send _).bind
  intro _
  apply EndsHolding.bind
  · apply (balanced_send _).bind
    intro notDone
    exact (checkWhilePolling_balanced notDone).bind fun _ => balanced_send _
  · intro _
    exact balanced_pure vm

theorem createVmAction_balanced (nics : List NetworkInterface) :
    Balanced held (createVmAction request data nics) := by
  unfold createVmAction
  split
  · apply (balanced_ofExcept _).bind
    intro _
    exact (balanced_ofExcept _).bind fun _ => createVm_balanced _
  · apply checkIfCancelled_balanced.bind
    intro _
    apply (balanced_ofExcept _).bind
    intro _
    apply (balanced_send _).bind
    intro _
    exact (balanced_ofExcept _).bind fun _ => createVm_balanced _

theorem createVmCustomScriptExtension_balanced :
    Balanced held (createVmCustomScriptExtension request data) := by
  have waits : ∀ poller, Balanced held (TaskWaiterService.waitForTaskWithTimeout poller) := by
    intro poller
    apply (checkWhilePolling_balanced poller.1).bind
    intro _
    split
    · exact balanced_raise _
    · exact balanced_send _
  apply Balanced.when
  intro _
  apply checkIfCancelled_balanced.bind
  intro _
  apply EndsHolding.bind
  · apply EndsHolding.catching
    · apply retryConnection_balanced
      apply (balanced_send _).bind
      intro reachable
      exact Balanced.when fun _ => (balanced_send _).bind waits
    · intro e
      split
      · exact balanced_raise _
      · exact balanced_raise _
  · intro _
    exact checkIfCancelled_balanced

theorem tryBlock_balanced : Balanced none (tryBlock request data) := by
  apply createVmCommonObjects_balanced.bind
  intro nics
  apply EndsHolding.bind
  · exact (createVmAction_balanced nics).catching fun e => balanced_raise _
  intro vm
  apply checkIfCancelled_balanced.bind
  intro _
  apply EndsHolding.bind
  · apply EndsHolding.catching
    · exact createVmCustomScriptExtension_balanced.bind fun _ => balanced_pure none
    · intro e
      unfold scriptTimeout
      split
      · exact balanced_pure _
      · exact balanced_raise _
  · intro timeout
    exact balanced_pure _

theorem rollbackDeployedResources_balanced (privateIps : List Text) :
    Balanced held (rollbackDeployedResources request data privateIps) := by
  apply (retryConnection_balanced (balanced_send _)).bind
  intro _
  apply EndsHolding.bind
  · apply Balanced.forEach
    intro nicRequest _
    apply (balanced_ofExcept _).bind
    intro nicRequest
    apply (retryConnection_balanced (balanced_send _)).bind
    intro _
    exact retryConnection_balanced (balanced_send _)
  intro _
  apply EndsHolding.bind
  · apply Balanced.when
    intro _
    exact (balanced_send _).catching fun _ => balanced_pure ()
  · intro _
    exact NetworkService.deleteNsgArtifactsAssociatedWithVm_balanced _

theorem getPublicIpAddress_balanced (ipName : Text) :
    Balanced held (getPublicIpAddress request ipName) := by
  unfold getPublicIpAddress
  split
  · apply (retryConnection_balanced (balanced_send _)).bind
    intro publicIp
    exact checkIfCancelled_balanced.bind fun _ => balanced_pure _
  · exact balanced_pure none

theorem getVmNetworkData_balanced (vm : VirtualMachine) : Balanced held (getVmNetworkData vm) := by
  apply Balanced.collect
  intro networkInterface _
  apply (balanced_send _).bind
  intro nic
  apply (balanced_ofExcept _).bind
  intro ipConfiguration
  split
  · exact (retryConnection_balanced (balanced_send _)).bind fun _ => balanced_pure _
  · exact balanced_pure _

theorem afterBlock_balanced (privateIps : List Text) (block : VirtualMachine × Option Text) :
    Balanced held (afterBlock request data privateIps block) := by
  apply (Balanced.when fun _ => balanced_send _).bind
  intro _
  apply EndsHolding.bind
  · unfold deployedPublicIp
    split
    · exact getPublicIpAddress_balanced _
    · exact balanced_pure (some [])
  intro publicIpAddress
  apply (getVmNetworkData_balanced _).bind
  intro vmNetworkData
  exact balanced_pure _

theorem deployVmGeneric_balanced : Balanced none (deployVmGeneric request) := by
  apply prepareDeployData_balanced.bind
  intro data
  apply checkIfCancelled_balanced.bind
  intro _
  apply (tryBlock_balanced.recording []).bind
  rintro ⟨outcome, privateIps⟩
  apply EndsHolding.bind
  · apply (balanced_ofExcept outcome).catching
    intro e
    exact (rollbackDeployedResources_balanced privateIps).bind fun _ => balanced_raise e
  · exact afterBlock_balanced privateIps

end DeployAzureVMOperation

/-! ## Deletions -/

namespace DeleteAzureVMOperation

theorem orNotFound_balanced {command : Shell Unit} (balanced : Balanced held command) :
    Balanced held (orNotFound command) := by
  apply balanced.catching
  intro e
  split
  · exact balanced_pure ()
  · exact balanced_raise e

theorem readMachine_balanced (vmName : Text) : Balanced held (readMachine vmName) := by
  apply (balanced_send _).bind
  intro vm
  apply EndsHolding.bind
  · exact Balanced.collect fun name _ => balanced_send _
  intro networkInterfaces
  exact (balanced_ofExcept _).bind fun _ => balanced_pure _

theorem machineForDisk_balanced (vmName : Text) : Balanced held (machineForDisk vmName) := by
  apply EndsHolding.catching
  · exact (retryConnection_balanced (balanced_send _)).bind fun _ => balanced_pure _
  · intro e
    split
    · exact balanced_pure none
    · exact balanced_raise e

theorem deleteDiskOf_balanced (found : Option VirtualMachine) :
    Balanced held (deleteDiskOf found) := by
  cases found with
  | none => exact balanced_pure ()
  | some vm =>
      apply orNotFound_balanced
      unfold deleteVmDisk
      split
      · exact (balanced_ofExcept _).bind fun _ => balanced_send _
      · split
        · exact retryConnection_balanced (balanced_send _)
        · exact balanced_raise _

theorem deleteAzureVm_balanced (groupName vmName : Text) :
    Balanced held (deleteAzureVm groupName vmName) := by
  apply orNotFound_balanced
  apply (readMachine_balanced vmName).bind
  intro data
  apply (machineForDisk_balanced vmName).bind
  intro vm
  apply (orNotFound_balanced (retryConnection_balanced (balanced_send _))).bind
  intro _
  apply EndsHolding.bind
  · apply orNotFound_balanced
    exact retryConnection_balanced (Balanced.forEach fun _ _ => balanced_send _)
  intro _
  apply EndsHolding.bind
  · apply orNotFound_balanced
    exact retryConnection_balanced (Balanced.forEach fun _ _ => balanced_send _)
  intro _
  apply (deleteDiskOf_balanced vm).bind
  intro _
  apply (NetworkService.deleteNsgArtifactsAssociatedWithVm_balanced vmName).bind
  intro _
  apply Balanced.when
  intro _
  exact (balanced_send _).catching fun _ => balanced_pure ()

/-- Each subnet is updated and deleted under the lock, which is given back in between. -/
theorem cleanupConnectivity_balanced (managementGroupName resourceGroupName : Text)
    (actions : List CleanupAction) :
    Balanced none (cleanupConnectivity managementGroupName resourceGroupName actions) := by
  have attempts : ∀ {command : Shell Unit}, Balanced none command →
      Balanced none (attempt command) := by
    intro command balanced
    exact (balanced.bind fun _ => balanced_pure _).catching fun e => balanced_pure _
  have onSubnets : ∀ body : VirtualNetwork → Subnet → Shell Unit,
      (∀ network subnet, Balanced (some LockName.subnetLocker) (body network subnet)) →
        Balanced none (do
          let found ← NetworkService.getSandboxVirtualNetwork managementGroupName
          let sandboxVirtualNetwork ← ofExcept (networkWithSubnets found)
          forEach (findSandboxSubnets resourceGroupName sandboxVirtualNetwork) fun subnet =>
            withLock .subnetLocker (body sandboxVirtualNetwork subnet)) := by
    intro body balanced
    apply (NetworkService.getSandboxVirtualNetwork_balanced _).bind
    intro found
    apply (balanced_ofExcept _).bind
    intro sandboxVirtualNetwork
    exact Balanced.forEach fun subnet _ => (balanced sandboxVirtualNetwork subnet).withLock
  apply (balanced_ofExcept _).bind
  intro actionId
  apply EndsHolding.bind
  · apply attempts
    apply onSubnets fun network subnet => NetworkService.updateSubnet managementGroupName
      network.name { subnet with networkSecurityGroup := none, routeTable := none }
    exact fun _ _ => retryConnection_balanced (balanced_send _)
  intro detached
  apply (attempts (retryConnection_balanced (balanced_send _))).bind
  intro emptied
  apply EndsHolding.bind
  · apply attempts
    apply onSubnets fun network subnet => NetworkService.deleteSubnet managementGroupName
      network.name subnet.name
    exact fun _ _ => retryConnection_balanced (balanced_send _)
  intro deleted
  apply EndsHolding.bind
  · exact (balanced_send _).bind fun _ => balanced_send _
  · intro _
    exact balanced_pure _

end DeleteAzureVMOperation

/-! ## Preparations -/

namespace PrepareSandboxInfraOperation

theorem createSubnetNsgRules_balanced {managementVnet sandboxVnet : Option VirtualNetwork}
    {sandboxCidr securityGroupName : Text} {additionalMgmtNetworks : List Text}
    {subnetActions : List PrepareSubnet} :
    Balanced none (createSubnetNsgRules managementVnet sandboxVnet sandboxCidr securityGroupName
      additionalMgmtNetworks subnetActions) := by
  apply (balanced_ofExcept _).bind
  intro managementVnetCidr
  apply (balanced_ofExcept _).bind
  intro sandboxVnetCidr
  apply (Balanced.forEach fun _ _ => createNetworkSecurityGroupRules_balanced).bind
  intro _
  apply (Balanced.forEach fun _ _ => createNetworkSecurityGroupRules_balanced).bind
  intro _
  apply (Balanced.forEach fun _ _ => createNetworkSecurityGroupRules_balanced).bind
  intro _
  apply createNetworkSecurityGroupRules_balanced.bind
  intro _
  exact createNetworkSecurityGroupRules_balanced

/-- The subnet lock is held over the recovery of a rejected subnet too. -/
theorem createSubnet_balanced (managementGroupName securityGroupName : Text)
    (sandboxVnet : VirtualNetwork) (cidr subnetName : Text) :
    Balanced none
      (createSubnet managementGroupName securityGroupName sandboxVnet cidr subnetName) := by
  apply Balanced.withLock
  apply (retryConnection_balanced (balanced_send _)).catching
  intro e
  split
  · apply EndsHolding.bind
    · unfold cleanupStaleData
      split
      · exact balanced_pure ()
      · apply (Balanced.when fun _ => retryConnection_balanced (balanced_send _)).bind
        intro _
        apply (balanced_ofExcept _).bind
        intro _
        exact retryConnection_balanced (balanced_send _)
    · intro _
      exact retryConnection_balanced (balanced_send _)
  · exact balanced_raise e

theorem prepareConnectivity_balanced (cloudProviderModel : AzureCloudProviderResourceModel)
    (reservationId : Text) (actions : List PrepareAction) :
    Balanced none (prepareConnectivity cloudProviderModel reservationId actions) := by
  apply (balanced_ofExcept _).bind
  intro cidr
  apply (retryConnection_balanced (balanced_send _)).bind
  intro _
  apply checkIfCancelled_balanced.bind
  intro _
  apply (NetworkService.getVirtualNetworks_balanced _).bind
  intro virtualNetworks
  apply checkIfCancelled_balanced.bind
  intro _
  apply (balanced_ofExcept _).bind
  intro managementVnet
  apply (balanced_ofExcept _).bind
  intro sandboxVnet
  apply (createNetworkSecurityGroup_balanced _).bind
  intro _
  apply checkIfCancelled_balanced.bind
  intro _
  apply createSubnetNsgRules_balanced.bind
  intro _
  apply checkIfCancelled_balanced.bind
  intro _
  apply EndsHolding.bind
  · apply Balanced.collect
    intro action _
    exact (createSubnet_balanced _ _ _ _ _).bind fun _ => balanced_pure _
  intro results
  apply checkIfCancelled_balanced.bind
  intro _
  apply (balanced_send _).bind
  intro _
  apply (balanced_ofExcept _).bind
  intro infraId
  exact (balanced_ofExcept _).bind fun _ => balanced_pure _

end PrepareSandboxInfraOperation

/-! ## Rules of apps and refreshed addresses -/

theorem SetAppSecurityGroupsOperation.setAppsSecurityGroups_balanced (environment : Environment)
    (groupName : Text) (models : List AppSecurityGroupModel) :
    Balanced none (setAppsSecurityGroups environment groupName models) := by
  apply Balanced.collect
  intro model _
  apply EndsHolding.catching
  · apply EndsHolding.bind
    · apply (balanced_send _).bind
      intro _
      apply deleteCustomSecurityRulesFromNsg_balanced.bind
      intro _
      apply (retryConnection_balanced (balanced_send _)).bind
      intro vm
      apply EndsHolding.bind
      · apply Balanced.collect
        intro nicRef _
        exact (balanced_send _).bind fun _ => balanced_ofExcept _
      intro nicToSubnetNameMap
      apply (balanced_ofExcept _).bind
      intro configurations
      apply Balanced.forEach
      intro configuration _
      exact (balanced_ofExcept _).bind fun _ => createNetworkSecurityGroupRules_balanced
    · intro _
      exact balanced_pure _
  · intro e
    exact balanced_pure _

theorem RefreshIPOperation.refreshIp_balanced (vmName privateIpOnResource : Text)
    (publicIpOnResourceAttrTuple : Text × Option Text) (resourceFullname : Text) :
    Balanced held (refreshIp vmName privateIpOnResource publicIpOnResourceAttrTuple
      resourceFullname) := by
  apply EndsHolding.bind
  · apply EndsHolding.bind
    · apply (retryConnection_balanced (balanced_send _)).bind
      intro vm
      apply (Balanced.when fun _ => balanced_raise _).bind
      intro _
      exact balanced_pure vm
    intro vm
    apply (balanced_ofExcept _).bind
    intro nicReference
    apply (balanced_send _).bind
    intro nic
    apply (balanced_ofExcept _).bind
    intro vmIpConfiguration
    apply EndsHolding.bind
    · unfold publicIpOnAzure
      split
      · exact balanced_pure _
      · exact (balanced_send _).bind fun _ => balanced_pure _
    · intro publicIpOnAzure
      exact balanced_pure _
  · intro addresses
    apply (Balanced.when fun _ => balanced_send _).bind
    intro _
    exact Balanced.when fun _ => balanced_send _

/-! ## Clients -/

/-- The commands that work on Azure. -/
inductive ShellCommand where
  | prepareConnectivity (cloudProviderModel : AzureCloudProviderResourceModel)
      (reservationId : Text) (actions : List PrepareAction)
  | deployVm (request : DeployRequest)
  | deleteAzureVm (groupName vmName : Text)
  | setAppsSecurityGroups (environment : SetAppSecurityGroupsOperation.Environment)
      (groupName : Text) (models : List AppSecurityGroupModel)
  | refreshIp (vmName privateIpOnResource : Text)
      (publicIpOnResourceAttrTuple : Text × Option Text) (resourceFullname : Text)
  | cleanupConnectivity (managementGroupName resourceGroupName : Text)
      (actions : List CleanupAction)

namespace ShellCommand

/-- The program of a command, of which the result is not looked at. -/
def program : ShellCommand → Shell Unit
  | prepareConnectivity cloudProviderModel reservationId actions => do
      let _ ← PrepareSandboxInfraOperation.prepareConnectivity cloudProviderModel reservationId
        actions
      pure ()
  | deployVm request => do
      let _ ← DeployAzureVMOperation.deployVmGeneric request
      pure ()
  | deleteAzureVm groupName vmName => DeleteAzureVMOperation.deleteAzureVm groupName vmName
  | setAppsSecurityGroups environment groupName models => do
      let _ ← SetAppSecurityGroupsOperation.setAppsSecurityGroups environment groupName models
      pure ()
  | refreshIp vmName privateIpOnResource publicIpOnResourceAttrTuple resourceFullname =>
      RefreshIPOperation.refreshIp vmName privateIpOnResource publicIpOnResourceAttrTuple
        resourceFullname
  | cleanupConnectivity managementGroupName resourceGroupName actions => do
      let _ ← DeleteAzureVMOperation.cleanupConnectivity managementGroupName resourceGroupName
        actions
      pure ()

theorem program_balanced (command : ShellCommand) : Balanced none command.program := by
  cases command with
  | prepareConnectivity cloudProviderModel reservationId actions =>
      exact (PrepareSandboxInfraOperation.prepareConnectivity_balanced _ _ _).bind
        fun _ => balanced_pure ()
  | deployVm request =>
      exact DeployAzureVMOperation.deployVmGeneric_balanced.bind fun _ => balanced_pure ()
  | deleteAzureVm groupName vmName => exact DeleteAzureVMOperation.deleteAzureVm_balanced _ _
  | setAppsSecurityGroups environment groupName models =>
      exact (SetAppSecurityGroupsOperation.setAppsSecurityGroups_balanced _ _ _).bind
        fun _ => balanced_pure ()
  | refreshIp vmName privateIpOnResource publicIpOnResourceAttrTuple resourceFullname =>
      exact RefreshIPOperation.refreshIp_balanced _ _ _ _
  | cleanupConnectivity managementGroupName resourceGroupName actions =>
      exact (DeleteAzureVMOperation.cleanupConnectivity_balanced _ _ _).bind
        fun _ => balanced_pure ()

end ShellCommand

/-- A client sends one command after the other, whatever becomes of them. -/
def session (commands : List ShellCommand) : Shell Unit :=
  forEach commands fun command => command.program.catching fun _ => pure ()

theorem session_balanced (commands : List ShellCommand) : Balanced none (session commands) := by
  apply Balanced.forEach
  intro command _
  exact command.program_balanced.catching fun e => balanced_pure ()

section Sessions

variable {ι σ : Type} [DecidableEq ι] [Finite ι] {handler : Handler AzureServices σ}
  {commands : ι → List ShellCommand} {s : σ} {config : Config AzureServices σ ι Unit}

/-- However the services answer and however clients have been interleaved: a client
that has not ended does not wait for ever, since some client can move; all of them
can still be brought to an end, and then no lock is left held. -/
theorem sessions_finish
    (reaches : Reaches handler (.initial (fun i => session (commands i)) s) config) :
    (∀ i, (∃ outcome, config.threads i = .done outcome ∧ ∀ lock, config.owner lock ≠ some i) ∨
        ∃ next, Moves handler config next) ∧
      ∃ last, Reaches handler config last ∧ (∀ i, ∃ outcome, last.threads i = .done outcome) ∧
        ∀ lock, last.owner lock = none := by
  have balanced : ∀ i, Balanced none (session (commands i)) :=
    fun i => session_balanced (commands i)
  constructor
  · exact fun i => Reaches.progress balanced reaches i
  · exact Reaches.finishes balanced reaches

end Sessions

/-- The sandbox network with one subnet of each of two sandboxes. -/
def cleanedNetwork : Azure :=
  { Azure.blank with
    virtualNetworks := fun _ => [{
      name := "vnet".toList
      tags := [(NetworkService.networkTypeTagName, NetworkService.sandboxNetworkTagValue)]
      addressPrefixes := ["10.0.0.0/16".toList]
      subnets := [⟨"r1_subnet".toList, "10.0.1.0/24".toList, none, none, none⟩,
        ⟨"r2_subnet".toList, "10.0.2.0/24".toList, none, none, none⟩] }] }

/-- Two sandboxes that are cleaned up at the same time. -/
def twoCleanups : Config AzureServices Azure Bool Unit :=
  .initial (fun i => session
    [.cleanupConnectivity "mgmt".toList (if i then "r1".toList else "r2".toList)
      [⟨"cleanupNetwork".toList, "a1".toList⟩]]) cleanedNetwork

/-- One cleanup holds the subnet lock and the other waits for it; both end. -/
theorem sessions_finish_example :
    ∃ config, Reaches (Azure.handle false) twoCleanups config ∧
      config.owner .subnetLocker = some false ∧
      (∃ next, config.threads true = .acquire .subnetLocker next) ∧
      ∃ last, Reaches (Azure.handle false) config last ∧
        (∀ i, ∃ outcome, last.threads i = .done outcome) ∧ ∀ lock, last.owner lock = none := by
  have played : ((twoCleanups.play (Azure.handle false) (fun _ _ => true)
      [false, true, false]).map fun config => (config.owner .subnetLocker,
        match config.threads true with
        | .acquire lock _ => decide (lock = .subnetLocker)
        | _ => false)) = some (some false, true) := by rfl
  rcases Option.map_eq_some_iff.mp played with ⟨config, ran, state⟩
  rcases Prod.mk.inj state with ⟨owned, waits⟩
  have reaches : Reaches (Azure.handle false) twoCleanups config := reaches_of_play ran
  rcases (sessions_finish reaches).2 with ⟨last, later, ended, free⟩
  refine ⟨config, reaches, owned, ?_, last, later, ended, free⟩
  split at waits
  · rename_i lock next left
    cases of_decide_eq_true waits
    exact ⟨next, left⟩
  · cases waits

end AzureShell
