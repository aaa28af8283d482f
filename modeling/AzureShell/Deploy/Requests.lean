import AzureShell.Deploy.Operation
import AzureShell.Nsg.Footprint

/-!
# The requests of a deployment

Outside its `try` block a deployment only reads.  In the block it creates the
resources of its data, checks addresses out of its own pool and asks for two
locks.  The rollback deletes, and releases addresses to the same pool.
-/

namespace AzureShell

open Prog SecurityGroupService

/-- The reads before and after the block. -/
inductive Reads : Request → Prop where
  | external (service : External) : Reads (.external service)
  | listVirtualNetworks (group : Text) : Reads (.listVirtualNetworks group)
  | isCancelled : Reads .isCancelled
  | getNetworkInterface (name : Text) : Reads (.getNetworkInterface name)
  | getPublicIpAddress (name : Text) : Reads (.getPublicIpAddress name)

/-- The requests of the block.  Those for an interface are made for a request that
found its subnet. -/
inductive BlockSends (data : DeployDataModel) : Request → Prop where
  | external (service : External) : BlockSends data (.external service)
  | listVirtualNetworks (group : Text) : BlockSends data (.listVirtualNetworks group)
  | isCancelled : BlockSends data .isCancelled
  | putNetworkSecurityGroup : BlockSends data (.putNetworkSecurityGroup (vmNsgName data.vmName))
  | vmNsgLock : BlockSends data (.getResourceLock (vmNsgName data.vmName))
  | subnetsNsgLock : BlockSends data (.getResourceLock (getSubnetsNsgName data.reservationId))
  | listSecurityRules (nsg : Text) : BlockSends data (.listSecurityRules nsg)
  | putSecurityRule (nsg : Text) (rule : SecurityRule) : BlockSends data (.putSecurityRule nsg rule)
  | putPublicIpAddress (nicRequest : NicRequest) (member : some nicRequest ∈ data.nicRequests) :
      BlockSends data (.putPublicIpAddress (getIpFromInterfaceName nicRequest.interfaceName))
  | checkoutFromPool (nicRequest : NicRequest) (member : some nicRequest ∈ data.nicRequests) :
      BlockSends data (.checkoutFromPool (IpService.getPoolId data.reservationId)
        data.reservationId IpService.poolItemOwner nicRequest.subnet.addressPrefix)
  | putNetworkInterface (nicRequest : NicRequest) (member : some nicRequest ∈ data.nicRequests)
      (method : IPAllocationMethod) (privateIpAddress publicIpAddressId : Option Text) :
      BlockSends data (.putNetworkInterface ⟨nicRequest.interfaceName, method, privateIpAddress,
        nicRequest.subnet.name, publicIpAddressId⟩)
  | recordPrivateIp (nicRequest : NicRequest) (member : some nicRequest ∈ data.nicRequests)
      (address : Text) : BlockSends data (.recordPrivateIp address)
  | putVirtualMachine (nics : List NetworkInterface) :
      BlockSends data (.putVirtualMachine (VirtualMachineService.requestedMachine data.vmName nics))
  | pollVirtualMachine : BlockSends data .pollVirtualMachine
  | checkUrl (url : Text) : BlockSends data (.checkUrl url)
  | putExtension : BlockSends data (.putExtension data.vmName)

/-- The deletions at the start of a rollback. -/
inductive DeletionSends (data : DeployDataModel) : Request → Prop where
  | deleteVirtualMachine : DeletionSends data (.deleteVirtualMachine data.vmName)
  | deleteNetworkInterface (nicRequest : NicRequest) (member : some nicRequest ∈ data.nicRequests) :
      DeletionSends data (.deleteNetworkInterface nicRequest.interfaceName)
  | deletePublicIpAddress (nicRequest : NicRequest) (member : some nicRequest ∈ data.nicRequests) :
      DeletionSends data
        (.deletePublicIpAddress (getIpFromInterfaceName nicRequest.interfaceName))

/-- The requests of a rollback. -/
inductive RollbackSends (data : DeployDataModel) (sent : Request) : Prop where
  | deletion (deletes : DeletionSends data sent)
  | releaseFromPool (values : List Text) (isRelease : sent = .releaseFromPool values
      (IpService.getPoolId data.reservationId) data.reservationId IpService.poolItemOwner)
  | nsgArtifacts (deletes : NetworkService.DeletesNsgArtifacts data.vmName sent)

theorem checkIfCancelled_reads : Within Reads CommandCancellationService.checkIfCancelled := by
  apply Within.bind (within_perform .isCancelled)
  intro isCancelled
  split <;> trivial

theorem getVirtualNetworks_reads (groupName : Text) :
    Within Reads (NetworkService.getVirtualNetworks groupName) :=
  Within.retry (within_perform (.listVirtualNetworks groupName)) 4

theorem getSandboxVirtualNetwork_reads (groupName : Text) :
    Within Reads (NetworkService.getSandboxVirtualNetwork groupName) := by
  apply (getVirtualNetworks_reads groupName).bind
  intro virtualNetworks
  trivial

theorem getPublicIp_reads (ipName : Text) : Within Reads (NetworkService.getPublicIp ipName) :=
  Within.retry (within_perform (.getPublicIpAddress ipName)) 4

namespace DeployAzureVMOperation

variable {request : DeployRequest} {data : DeployDataModel}

/-! ## Around the block -/

theorem prepareDeployData_reads : Within Reads (prepareDeployData request) := by
  apply Within.bind
  · unfold getImageDataModel
    split
    · exact Within.retry (within_perform (.external _)) 4
    · exact within_perform (.external _)
  intro _
  apply Within.bind (within_ofExcept _)
  intro _
  apply Within.bind (within_ofExcept _)
  intro vmName
  apply Within.bind (within_ofExcept _)
  intro vmSize
  apply Within.bind
  · apply (getSandboxVirtualNetwork_reads _).bind
    intro sandboxVirtualNetwork
    split <;> trivial
  intro nicRequests
  apply Within.bind (Within.retry (within_perform (.external _)) 4)
  intro _
  trivial

theorem getManagementVnetCidr_reads (cloudProviderModel : AzureCloudProviderResourceModel) :
    Within Reads (getManagementVnetCidr cloudProviderModel) := by
  apply (getVirtualNetworks_reads _).bind
  intro virtualNetworks
  exact within_ofExcept _

theorem afterBlock_reads (privateIps : List Text) (block : VirtualMachine × Option Text) :
    Within Reads (afterBlock request data privateIps block) := by
  apply Within.bind
  · apply Within.when
    intro _
    exact within_perform (.external _)
  intro _
  apply Within.bind
  · unfold deployedPublicIp
    split
    · unfold getPublicIpAddress
      split
      · apply (getPublicIp_reads _).bind
        intro publicIp
        exact checkIfCancelled_reads.bind fun _ => trivial
      · trivial
    · trivial
  intro publicIpAddress
  apply Within.bind
  · apply Within.collect
    intro networkInterface _
    apply Within.bind (within_perform (.getNetworkInterface _))
    intro nic
    apply Within.bind (within_ofExcept _)
    intro ipConfiguration
    split
    · exact (getPublicIp_reads _).bind fun _ => trivial
    · trivial
  intro vmNetworkData
  trivial

/-! ## In the block -/

theorem checkIfCancelled_sends :
    Within (BlockSends data) CommandCancellationService.checkIfCancelled := by
  apply Within.bind (within_perform .isCancelled)
  intro isCancelled
  split <;> trivial

theorem createNetworkSecurityGroupRules_sends {nsg destinationAddr sourceAddress : Text}
    {inboundRules : List InboundRule} {lock : LockName} {startFrom : Option Int} :
    Within (BlockSends data) (createNetworkSecurityGroupRules nsg inboundRules destinationAddr lock
      startFrom sourceAddress) := by
  apply Within.mono (createNetworkSecurityGroupRules_within lock startFrom)
  rintro sent (rfl | ⟨ruleData, _, priority, rfl⟩)
  · exact .listSecurityRules nsg
  · exact .putSecurityRule nsg _

theorem createVmNetworkSecurityGroup_sends :
    Within (BlockSends data) (createVmNetworkSecurityGroup request.cloudProviderModel data
      request.deploymentModel) := by
  have listed : ∀ groupName, Within (BlockSends data)
      (NetworkService.getVirtualNetworks groupName) :=
    fun groupName => Within.retry (within_perform (.listVirtualNetworks groupName)) 4
  apply Within.bind
  · exact (listed _).bind fun _ => within_ofExcept _
  intro managementVnetCidr
  apply Within.bind
  · exact (listed _).bind fun _ => trivial
  intro _
  apply Within.bind (Within.retry (within_perform .putNetworkSecurityGroup) 4)
  intro _
  apply Within.bind (within_perform .vmNsgLock)
  intro _
  apply Within.bind
  · apply Within.when
    intro _
    exact (within_ofExcept _).bind fun _ => createNetworkSecurityGroupRules_sends
  intro _
  apply Within.bind (Within.forEach fun _ _ => createNetworkSecurityGroupRules_sends)
  intro _
  apply Within.bind createNetworkSecurityGroupRules_sends
  intro _
  apply Within.bind
  · apply Within.when
    intro _
    exact createNetworkSecurityGroupRules_sends.bind fun _ => createNetworkSecurityGroupRules_sends
  intro _
  exact checkIfCancelled_sends.bind fun _ => trivial

theorem createNetworkForVm_sends {nicRequest : NicRequest}
    (member : some nicRequest ∈ data.nicRequests)
    (cloudProviderModel : AzureCloudProviderResourceModel) (addPublicIp : Bool)
    (publicIpType : Text) :
    Within (BlockSends data) (NetworkService.createNetworkForVm nicRequest.interfaceName
      (getIpFromInterfaceName nicRequest.interfaceName) data.reservationId cloudProviderModel
      nicRequest.subnet addPublicIp publicIpType) := by
  apply Within.bind
  · unfold NetworkService.publicIpFor
    split
    · apply Within.bind
      · apply Within.retry
        apply Within.bind (within_ofExcept _)
        intro _
        exact within_perform (.putPublicIpAddress nicRequest member)
      · intro publicIpAddress
        trivial
    · trivial
  intro publicIpAddress
  apply Within.retry
  apply Within.retry
  apply Within.bind
  · unfold NetworkService.privateIpFor
    split
    · apply Within.bind (within_perform (.checkoutFromPool nicRequest member))
      intro address
      trivial
    · trivial
  intro privateIpAddress
  exact within_perform (.putNetworkInterface nicRequest member _ _ _)

theorem createNetwork_sends {inboundRules : List RuleData} {nicRequest : Option NicRequest}
    (member : nicRequest ∈ data.nicRequests) :
    Within (BlockSends data) (createNetwork request data inboundRules nicRequest) := by
  cases nicRequest with
  | none => trivial
  | some nicRequest =>
      apply (createNetworkForVm_sends member _ _ _).bind
      intro nic
      apply Within.bind (within_ofExcept _)
      intro ipConfiguration
      apply Within.bind (within_perform (.recordPrivateIp nicRequest member _))
      intro _
      exact createNetworkSecurityGroupRules_sends.bind fun _ => trivial

theorem createVmCommonObjects_sends :
    Within (BlockSends data) (createVmCommonObjects request data) := by
  apply createVmNetworkSecurityGroup_sends.bind
  intro _
  apply Within.bind (within_ofExcept _)
  intro inboundRules
  apply Within.bind (within_perform .subnetsNsgLock)
  intro _
  apply Within.bind (Within.collect fun nicRequest member => createNetwork_sends member)
  intro nics
  apply Within.bind
  · apply Within.when
    intro _
    exact Within.retry (within_perform (.external _)) 4
  intro _
  exact checkIfCancelled_sends.bind fun _ => trivial

theorem checkWhilePolling_sends (notDone : Nat) :
    Within (BlockSends data) (TaskWaiterService.checkWhilePolling notDone) := by
  induction notDone with
  | zero => trivial
  | succ notDone ih => exact checkIfCancelled_sends.bind fun _ => ih

theorem createVm_sends (nics : List NetworkInterface) :
    Within (BlockSends data)
      (VirtualMachineService.createVm (VirtualMachineService.requestedMachine data.vmName nics)) := by
  apply Within.retry
  apply Within.retry
  apply Within.bind (within_perform (.putVirtualMachine nics))
  intro _
  apply Within.bind
  · apply Within.bind (within_perform .pollVirtualMachine)
    intro notDone
    exact (checkWhilePolling_sends notDone).bind fun _ => within_perform (.external _)
  intro _
  trivial

theorem createVmAction_sends (nics : List NetworkInterface) :
    Within (BlockSends data) (createVmAction request data nics) := by
  unfold createVmAction
  split
  · apply Within.bind (within_ofExcept _)
    intro _
    apply Within.bind (within_ofExcept _)
    intro _
    exact createVm_sends nics
  · apply checkIfCancelled_sends.bind
    intro _
    apply Within.bind (within_ofExcept _)
    intro _
    apply Within.bind (within_perform (.external _))
    intro _
    apply Within.bind (within_ofExcept _)
    intro _
    exact createVm_sends nics

theorem createVmCustomScriptExtension_sends :
    Within (BlockSends data) (createVmCustomScriptExtension request data) := by
  apply Within.when
  intro _
  apply checkIfCancelled_sends.bind
  intro _
  apply Within.bind
  · apply Within.catching
    · apply Within.retry
      apply Within.bind (within_perform (.checkUrl _))
      intro reachable
      apply Within.when
      intro _
      apply Within.bind (within_perform .putExtension)
      intro poller
      apply (checkWhilePolling_sends poller.1).bind
      intro _
      split
      · trivial
      · exact within_perform (.external _)
    · intro e
      split <;> trivial
  · intro _
    exact checkIfCancelled_sends

theorem tryBlock_sends : Within (BlockSends data) (tryBlock request data) := by
  apply createVmCommonObjects_sends.bind
  intro nics
  apply Within.bind
  · apply (createVmAction_sends nics).catching
    intro e
    trivial
  intro vm
  apply checkIfCancelled_sends.bind
  intro _
  apply Within.bind
  · apply Within.catching
    · exact createVmCustomScriptExtension_sends.bind fun _ => trivial
    · intro e
      unfold scriptTimeout
      split <;> trivial
  intro timeout
  trivial

/-! ## The rollback -/

/-- The start of a rollback. -/
def deleteMachineAndInterfaces (data : DeployDataModel) : Shell Unit := do
  VirtualMachineService.deleteVm data.vmName
  forEach data.nicRequests fun nicRequest => do
    let nicRequest ← ofExcept (nicRequestOf nicRequest)
    NetworkService.deleteNic nicRequest.interfaceName
    NetworkService.deleteIp (getIpFromInterfaceName nicRequest.interfaceName)

/-- The rollback after its deletions. -/
def releaseAndDeleteArtifacts (request : DeployRequest) (data : DeployDataModel)
    (allPrivateIpAddresses : List Text) : Shell Unit := do
  when (isStaticAllocation
      (.attribute request.cloudProviderModel.privateIpAllocationMethod) = true) <|
    (IpService.releaseIps data.reservationId allPrivateIpAddresses).catching fun _ => pure ()
  NetworkService.deleteNsgArtifactsAssociatedWithVm data.vmName

theorem rollbackDeployedResources_eq (request : DeployRequest) (data : DeployDataModel)
    (privateIps : List Text) :
    rollbackDeployedResources request data privateIps =
      deleteMachineAndInterfaces data >>= fun _ =>
        releaseAndDeleteArtifacts request data privateIps :=
  (bind_assoc _ _ _).symm

theorem deleteMachineAndInterfaces_sends :
    Within (DeletionSends data) (deleteMachineAndInterfaces data) := by
  apply Within.bind (Within.retry (within_perform .deleteVirtualMachine) 4)
  intro _
  apply Within.forEach
  intro nicRequest member
  cases nicRequest with
  | none => trivial
  | some nicRequest =>
      apply Within.bind (Within.retry (within_perform (.deleteNetworkInterface _ member)) 4)
      intro _
      exact Within.retry (within_perform (.deletePublicIpAddress _ member)) 4

theorem rollbackDeployedResources_sends (privateIps : List Text) :
    Within (RollbackSends data) (rollbackDeployedResources request data privateIps) := by
  rw [rollbackDeployedResources_eq]
  apply (deleteMachineAndInterfaces_sends.mono fun _ => RollbackSends.deletion).bind
  intro _
  apply Within.bind
  · apply Within.when
    intro _
    exact Within.catching (within_perform (.releaseFromPool _ rfl)) fun _ => trivial
  intro _
  exact (NetworkService.deleteNsgArtifactsAssociatedWithVm_within data.vmName).mono
    fun _ => RollbackSends.nsgArtifacts

end DeployAzureVMOperation

end AzureShell
