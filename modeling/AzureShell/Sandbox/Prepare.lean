import AzureShell.Sandbox.SubnetNsg

/-!
# The preparation of a sandbox

`prepare_connectivity` carries out the actions of a request: it creates the
resource group, the security group of the subnets with the isolation rules, and
one subnet for each action that asks for one.  The storage account and the key
pair are created in another thread, of which only the outcome is awaited.
-/

namespace AzureShell

open Prog SecurityGroupService NameProviderService NetworkService

/-- The actions of a request, each with its `actionId`. -/
inductive PrepareAction where
  | prepareCloudInfra (actionId cidr : Text)
  | prepareSubnet (actionId : Text) (actionParams : PrepareSubnet)
  | createKeys (actionId : Text)
  | other (actionId : Text)
deriving DecidableEq, Repr

/-- The results of the actions; the result of a subnet carries its name. -/
inductive PrepareActionResult where
  | prepareCloudInfra (actionId : Text)
  | prepareSubnet (actionId subnetId : Text)
  | createKeys (actionId : Text)
deriving DecidableEq, Repr

namespace PrepareAction

/-- `actionParams.cidr` of the actions that `action_with_cidr` accepts. -/
def cidr : PrepareAction → Option Text
  | prepareCloudInfra _ cidr => some cidr
  | prepareSubnet _ actionParams => some actionParams.cidr
  | _ => none

/-- The block of a `PrepareCloudInfra` action. -/
def infraCidr : PrepareAction → Option Text
  | prepareCloudInfra _ cidr => some cidr
  | _ => none

/-- The id of a `PrepareCloudInfra` action. -/
def infraId : PrepareAction → Option Text
  | prepareCloudInfra actionId _ => some actionId
  | _ => none

/-- The id of a `CreateKeys` action. -/
def keysId : PrepareAction → Option Text
  | createKeys actionId => some actionId
  | _ => none

/-- The id and the parameters of a `PrepareSubnet` action. -/
def subnet : PrepareAction → Option (Text × PrepareSubnet)
  | prepareSubnet actionId actionParams => some (actionId, actionParams)
  | _ => none

end PrepareAction

namespace PrepareSandboxInfraOperation

/-- The parameters of the `PrepareSubnet` actions, in order. -/
def subnetActions (actions : List PrepareAction) : List PrepareSubnet :=
  (actions.filterMap PrepareAction.subnet).map Prod.snd

/-- The block of the first action that has one. -/
def networkCidr (actions : List PrepareAction) : Except PyException Text :=
  match actions.findSome? PrepareAction.cidr with
  | some cidr => .ok cidr
  | none => .error (.valueError "Actions list must contain a PrepareNetworkAction.".toList)

/-- `_get_action_id_by_type`. -/
def getActionIdByType (idOf : PrepareAction → Option Text) (actions : List PrepareAction) :
    Except PyException Text :=
  match actions.findSome? idOf with
  | some actionId => .ok actionId
  | none => .error .stopIteration

/-- `_validate_management_vnet`. -/
def validateManagementVnet (managementVnet : Option VirtualNetwork) :
    Except PyException VirtualNetwork :=
  match managementVnet with
  | some network => .ok network
  | none => .error (.exception "Could not find Management Virtual Network in Azure.".toList)

/-- `_validate_sandbox_vnet`. -/
def validateSandboxVnet (sandboxVnet : Option VirtualNetwork) :
    Except PyException VirtualNetwork :=
  match sandboxVnet with
  | some network => .ok network
  | none => .error (.exception "Could not find Sandbox Virtual Network in Azure.".toList)

/-! ## Subnets -/

/-- `_cleanup_stale_data`, on the subnets as they were listed before. -/
def cleanupStaleData (managementGroupName : Text) (sandboxVnet : VirtualNetwork)
    (subnetCidr : Text) : Shell Unit :=
  match sandboxVnet.subnets.find? fun subnet => subnet.addressPrefix = subnetCidr with
  | none => pure ()
  | some subnet => do
      when (subnet.networkSecurityGroup.isSome = true) <|
        retryConnection <| send <| .putSubnet managementGroupName sandboxVnet.name
          { subnet with networkSecurityGroup := none }
      let _resourceGroups ← ofExcept <|
        (subnet.ipConfigurations.getD []).mapM AzureResourceIdParser.getResourceGroupName
      retryConnection <| send <| .deleteSubnet managementGroupName sandboxVnet.name subnet.name

/-- Whether Azure rejects the block of a subnet. -/
def isInvalidSubnet : PyException → Bool
  | .cloudError _ message => "NetcfgInvalidSubnet".toList <:+: message
  | _ => false

/-- `_create_subnet`. -/
def createSubnet (managementGroupName securityGroupName : Text) (sandboxVnet : VirtualNetwork)
    (cidr subnetName : Text) : Shell Unit :=
  let createSubnetCommand := retryConnection <| send <|
    .putSubnet managementGroupName sandboxVnet.name
      ⟨subnetName, cidr, some securityGroupName, none, none⟩
  withLock .subnetLocker <| createSubnetCommand.catching fun e =>
    if isInvalidSubnet e then do
      cleanupStaleData managementGroupName sandboxVnet cidr
      createSubnetCommand
    else
      raise e

/-- The subnets of the request, each with its result. -/
def createSubnets (managementGroupName reservationId : Text) (sandboxVnet : VirtualNetwork)
    (actions : List PrepareAction) : Shell (List PrepareActionResult) :=
  collect (actions.filterMap PrepareAction.subnet) fun (actionId, subnet) => do
    let subnetName := formatSubnetName reservationId subnet.cidr
    createSubnet managementGroupName (getSubnetsNsgName reservationId) sandboxVnet subnet.cidr
      subnetName
    pure (.prepareSubnet actionId subnetName)

/-- What follows the isolation rules. -/
def finishPreparation (managementGroupName reservationId : Text) (sandboxVnet : VirtualNetwork)
    (actions : List PrepareAction) : Shell (List PrepareActionResult) := do
  CommandCancellationService.checkIfCancelled
  let results ← createSubnets managementGroupName reservationId sandboxVnet actions
  CommandCancellationService.checkIfCancelled
  send (.external .storageAndKeyPairs)
  let infraId ← ofExcept (getActionIdByType PrepareAction.infraId actions)
  let keysId ← ofExcept (getActionIdByType PrepareAction.keysId actions)
  pure (results ++ [.prepareCloudInfra infraId, .createKeys keysId])

/-- `prepare_connectivity`. -/
def prepareConnectivity (cloudProviderModel : AzureCloudProviderResourceModel)
    (reservationId : Text) (actions : List PrepareAction) : Shell (List PrepareActionResult) := do
  let cidr ← ofExcept (networkCidr actions)
  retryConnection (send (.external .resourceGroup))
  CommandCancellationService.checkIfCancelled
  let virtualNetworks ← NetworkService.getVirtualNetworks cloudProviderModel.managementGroupName
  CommandCancellationService.checkIfCancelled
  let managementVnet ← ofExcept <| validateManagementVnet <|
    NetworkService.getVirtualNetworkByTag virtualNetworks NetworkService.networkTypeTagName
      NetworkService.mgmtNetworkTagValue
  let sandboxVnet ← ofExcept <| validateSandboxVnet <|
    NetworkService.getVirtualNetworkByTag virtualNetworks NetworkService.networkTypeTagName
      NetworkService.sandboxNetworkTagValue
  let securityGroupName := getSubnetsNsgName reservationId
  createNetworkSecurityGroup securityGroupName
  CommandCancellationService.checkIfCancelled
  createSubnetNsgRules (some managementVnet) (some sandboxVnet) cidr securityGroupName
    cloudProviderModel.additionalMgmtNetworks (subnetActions actions)
  finishPreparation cloudProviderModel.managementGroupName reservationId sandboxVnet actions

/-! ## The rules of the group -/

/-- Every isolation rule of a preparation, the last one included. -/
def isolationRules (managementVnetCidr sandboxVnetCidr sandboxCidr : Text)
    (additionalMgmtNetworks : List Text) (subnetActions : List PrepareSubnet) :
    List IsolationRule :=
  openingRules managementVnetCidr sandboxCidr additionalMgmtNetworks subnetActions ++
    [denyOtherSandboxes sandboxVnetCidr sandboxCidr]

/-- The request leaves the rules of every group alone. -/
def LeavesRules (request : Request) : Prop :=
  ∀ nsg rules, request.onRules nsg rules = rules

theorem cleanupStaleData_leavesRules (managementGroupName : Text) (sandboxVnet : VirtualNetwork)
    (subnetCidr : Text) :
    Within LeavesRules (cleanupStaleData managementGroupName sandboxVnet subnetCidr) := by
  unfold cleanupStaleData
  split
  · trivial
  · apply Within.bind
    · apply Within.when
      intro _
      exact Within.retry (within_perform fun _ _ => rfl) 4
    · intro _
      apply Within.bind (within_ofExcept _)
      intro _
      exact Within.retry (within_perform fun _ _ => rfl) 4

theorem createSubnet_leavesRules (managementGroupName securityGroupName : Text)
    (sandboxVnet : VirtualNetwork) (cidr subnetName : Text) :
    Within LeavesRules
      (createSubnet managementGroupName securityGroupName sandboxVnet cidr subnetName) := by
  have command : ∀ subnet, Within LeavesRules
      (retryConnection (send (.putSubnet managementGroupName sandboxVnet.name subnet))) :=
    fun subnet => Within.retry (within_perform fun _ _ => rfl) 4
  apply Within.withLock
  apply Within.catching (command _)
  intro e
  split
  · apply Within.bind (cleanupStaleData_leavesRules managementGroupName sandboxVnet cidr)
    intro _
    exact command _
  · trivial

theorem checkIfCancelled_leavesRules :
    Within LeavesRules CommandCancellationService.checkIfCancelled := by
  apply Within.bind (within_perform fun _ _ => rfl)
  intro isCancelled
  split <;> trivial

theorem finishPreparation_leavesRules (managementGroupName reservationId : Text)
    (sandboxVnet : VirtualNetwork) (actions : List PrepareAction) :
    Within LeavesRules
      (finishPreparation managementGroupName reservationId sandboxVnet actions) := by
  apply Within.bind checkIfCancelled_leavesRules
  intro _
  apply Within.bind
  · apply Within.collect
    intro action _
    apply Within.bind
    · exact createSubnet_leavesRules _ _ _ _ _
    · intro _
      trivial
  intro results
  apply Within.bind checkIfCancelled_leavesRules
  intro _
  apply Within.bind (within_perform fun _ _ => rfl)
  intro _
  apply Within.bind (within_ofExcept _)
  intro infraId
  apply Within.bind (within_ofExcept _)
  intro keysId
  trivial

theorem rulesOf_of_leavesRules {α : Type} {program : Shell α} (strict : Bool)
    (leaves : Within LeavesRules program) (azure : Azure) (nsg : Text) :
    (run (Azure.handle strict) program azure).2.rulesOf nsg = azure.rulesOf nsg := by
  let unchanged : Azure → Prop := fun after => after.rulesOf nsg = azure.rulesOf nsg
  have preserved : ∀ request state, LeavesRules request → unchanged state →
      unchanged (Azure.handle strict request state).2 := by
    intro request state leavesRules same
    exact (Azure.rulesOf_handle strict request state nsg).trans ((leavesRules nsg _).trans same)
  exact leaves.run_preserves preserved rfl

/-- What the preparation finds: the address prefixes of the two networks, and
nobody who cancels. -/
structure Finds (azure : Azure) (cloudProviderModel : AzureCloudProviderResourceModel)
    (managementVnetCidr sandboxVnetCidr : Text) : Prop where
  management : NetworkService.firstAddressPrefix (NetworkService.getVirtualNetworkByTag
    (azure.virtualNetworks cloudProviderModel.managementGroupName)
    NetworkService.networkTypeTagName NetworkService.mgmtNetworkTagValue) = .ok managementVnetCidr
  sandbox : NetworkService.firstAddressPrefix (NetworkService.getVirtualNetworkByTag
    (azure.virtualNetworks cloudProviderModel.managementGroupName)
    NetworkService.networkTypeTagName NetworkService.sandboxNetworkTagValue) = .ok sandboxVnetCidr
  notCancelled : ∀ isCancelled ∈ azure.cancellations, isCancelled = false

variable {strict : Bool} {azure : Azure}

/-- A check that finds nobody who cancels. -/
theorem run_checkIfCancelled_of_calm
    (notCancelled : ∀ isCancelled ∈ azure.cancellations, isCancelled = false) :
    run (Azure.handle strict) CommandCancellationService.checkIfCancelled azure =
      (.ok (), { azure with cancellations := azure.cancellations.tail }) := by
  have first : azure.cancellations.headD false = false := by
    cases calm : azure.cancellations with
    | nil => rfl
    | cons isCancelled rest => exact notCancelled isCancelled (by simp [calm])
  rw [CommandCancellationService.run_checkIfCancelled, first]
  rfl

variable {cloudProviderModel : AzureCloudProviderResourceModel}
  {managementVnetCidr sandboxVnetCidr reservationId cidr : Text} {actions : List PrepareAction}

/-- Up to the isolation rules, the preparation creates an empty group. -/
theorem run_prepareConnectivity
    (finds : Finds azure cloudProviderModel managementVnetCidr sandboxVnetCidr)
    (cidrFound : networkCidr actions = .ok cidr) :
    ∃ sandboxVnet created, created.rulesOf (getSubnetsNsgName reservationId) = some [] ∧
      run (Azure.handle strict) (prepareConnectivity cloudProviderModel reservationId actions)
          azure =
        run (Azure.handle strict) (do
          createIsolationRules managementVnetCidr sandboxVnetCidr cidr
            (getSubnetsNsgName reservationId) cloudProviderModel.additionalMgmtNetworks
            (subnetActions actions)
          finishPreparation cloudProviderModel.managementGroupName reservationId sandboxVnet
            actions) created := by
  rcases exists_of_firstAddressPrefix finds.management with ⟨managementVnet, isManagement⟩
  rcases exists_of_firstAddressPrefix finds.sandbox with ⟨sandboxVnet, isSandbox⟩
  have management := isManagement ▸ finds.management
  have sandbox := isSandbox ▸ finds.sandbox
  have calmTail : ∀ isCancelled ∈ azure.cancellations.tail, isCancelled = false :=
    fun isCancelled member => finds.notCancelled isCancelled (List.mem_of_mem_tail member)
  have resourceGroup : run (Azure.handle strict)
      (retryConnection (send (.external .resourceGroup))) azure = (.ok (), azure) :=
    run_retry_of_ok rfl
  let first : Azure := { azure with cancellations := azure.cancellations.tail }
  let second : Azure := { azure with cancellations := azure.cancellations.tail.tail }
  have secondCheck : run (Azure.handle strict) CommandCancellationService.checkIfCancelled first =
      (.ok (), second) := run_checkIfCancelled_of_calm calmTail
  have listed : run (Azure.handle strict)
      (getVirtualNetworks cloudProviderModel.managementGroupName) first =
        (.ok (azure.virtualNetworks cloudProviderModel.managementGroupName), first) :=
    run_getVirtualNetworks strict cloudProviderModel.managementGroupName first
  have validManagement := congrArg validateManagementVnet isManagement
  have validSandbox := congrArg validateSandboxVnet isSandbox
  obtain ⟨created, createdRun, noRules, sameCancellations⟩ :=
    run_createNetworkSecurityGroup strict (getSubnetsNsgName reservationId) second
  have thirdCheck : run (Azure.handle strict) CommandCancellationService.checkIfCancelled created =
      (.ok (), { created with cancellations := created.cancellations.tail }) := by
    apply run_checkIfCancelled_of_calm
    rw [sameCancellations]
    exact fun isCancelled member => calmTail isCancelled (List.mem_of_mem_tail member)
  refine ⟨sandboxVnet, { created with cancellations := created.cancellations.tail }, noRules, ?_⟩
  unfold prepareConnectivity
  rw [run_ofExcept_bind_of_ok cidrFound, run_bind_of_ok resourceGroup,
    run_bind_of_ok (run_checkIfCancelled_of_calm finds.notCancelled), run_bind_of_ok listed,
    run_bind_of_ok secondCheck, run_ofExcept_bind_of_ok validManagement,
    run_ofExcept_bind_of_ok validSandbox, run_bind_of_ok createdRun, run_bind_of_ok thirdCheck]
  rw [createSubnetNsgRules, management, sandbox]
  rfl

/-- The preparation leaves its isolation rules in the group of the subnets. -/
theorem rulesOf_prepareConnectivity
    (finds : Finds azure cloudProviderModel managementVnetCidr sandboxVnetCidr)
    (cidrFound : networkCidr actions = .ok cidr) :
    (run (Azure.handle strict) (prepareConnectivity cloudProviderModel reservationId actions)
        azure).2.rulesOf (getSubnetsNsgName reservationId) =
      some (addAll (isolationRules managementVnetCidr sandboxVnetCidr cidr
        cloudProviderModel.additionalMgmtNetworks (subnetActions actions)) []) := by
  rcases run_prepareConnectivity finds cidrFound with ⟨sandboxVnet, created, noRules, ran⟩
  obtain ⟨prepared, preparedRun, rules, _⟩ := (createIsolationRules_rewrites managementVnetCidr
    sandboxVnetCidr cidr cloudProviderModel.additionalMgmtNetworks (subnetActions actions)).run_bind
      noRules (finishPreparation cloudProviderModel.managementGroupName reservationId sandboxVnet
        actions)
  rw [ran, preparedRun, rulesOf_of_leavesRules strict (finishPreparation_leavesRules _ _ _ _), rules,
    isolationRules, addAll_append]
  rfl

end PrepareSandboxInfraOperation

end AzureShell
