import AzureShell.Deploy.Services
import AzureShell.Deploy.VmNsg
import AzureShell.Naming.NameProvider
import AzureShell.Prog.Recording

/-!
# The deployment of a machine

`_deploy_vm_generic` prepares the data of the deployment, creates the security
group, the interfaces and the machine inside a `try` block, and collects the
result after it.  An exception of the block rolls the deployment back; the
timeout of the extension script only leaves a message, and the code after the
block is not protected.
-/

namespace AzureShell

open Prog SecurityGroupService NameProviderService

/-- What one deployment is asked for, with the unique string drawn for its
names. -/
structure DeployRequest where
  createVmAction : CreateVmAction
  deploymentModel : DeployAzureVMResourceModel
  cloudProviderModel : AzureCloudProviderResourceModel
  reservationId : Text
  /-- `actionParams.isPublic` of the network actions. -/
  networkActions : List Bool
  uniqueString : Text
  isPostfix : IsPostfix uniqueString

/-- The data of a finished deployment. -/
structure DeployAppResult where
  vmName : Text
  deployedAppAddress : Text
  publicIpAddress : Option Text
  /-- The interfaces of the machine, each with its public address. -/
  vmNetworkData : List (NetworkInterface × Option Text)
deriving DecidableEq, Repr

namespace DeployAzureVMOperation

/-! ## Before the block -/

/-- `_validate_deployment_model`. -/
def validateDeploymentModel (request : DeployRequest) : Except PyException Unit :=
  let deploymentModel := request.deploymentModel
  let allSubnetsArePrivate := request.networkActions ≠ [] ∧ request.networkActions.all (! ·)
  if allSubnetsArePrivate ∧ deploymentModel.addPublicIp then
    .error (.valueError
      "Cannot deploy app with public ip when connected only to private subnets".toList)
  else if deploymentModel.extensionScriptFile ≠ [] then
    VMExtensionService.validateScriptExtension request.createVmAction.osType
      deploymentModel.extensionScriptFile deploymentModel.extensionScriptConfigurations
  else
    .ok ()

/-- `get_image_data_model`, of which the shell keeps the operating system. -/
def getImageDataModel : CreateVmAction → Shell Unit
  | .marketplace _ => retryConnection (send (.external .imageData))
  | .customImage _ => send (.external .imageData)

/-- The name of the machine: `None` has no special characters to replace. -/
def prepareVmName (request : DeployRequest) : Except PyException Text :=
  if request.deploymentModel.appName = [] then
    .error (.typeError "expected string or buffer".toList)
  else
    .ok (generateName request.uniqueString (normalizeName request.deploymentModel.appName)
      (some request.uniqueString) 64)

/-- `_prepare_vm_size`. -/
def prepareVmSize (request : DeployRequest) : Except PyException Text :=
  if request.deploymentModel.vmSize ≠ [] then .ok request.deploymentModel.vmSize
  else if request.cloudProviderModel.vmSize ≠ [] then .ok request.cloudProviderModel.vmSize
  else .error <| .exception <| "There is no value for \"VM Size\" attribute neither on the ".toList ++
    "Deployment model nor on the Cloud Provider one".toList

/-- The requests for interfaces on the subnets of the sandbox network: one on the
subnet of the reservation, if there is one, or those of the network
configurations in the order of their device indices. -/
def nicRequestsFor (request : DeployRequest) (vmName : Text) (subnets : List Subnet) :
    List (Option NicRequest) :=
  let interfaceName := fun i => vmName ++ '-' :: Text.ofNat i
  match request.deploymentModel.networkConfigurations with
  | [] =>
      [(subnets.find? fun subnet => request.reservationId <:+: subnet.name).map fun subnet =>
        ⟨interfaceName 0, subnet, true⟩]
  | configurations =>
      let sorted := configurations.insertionSort fun first second =>
        SubnetConnectionParams.deviceIndexLe first.deviceIndex second.deviceIndex
      sorted.zipIdx.filterMap fun (params, i) =>
        (subnets.find? fun subnet => subnet.name = params.subnetId).map fun subnet =>
          some ⟨interfaceName i, subnet, params.isPublicSubnet⟩

/-- `_get_nic_requests`. -/
def getNicRequests (request : DeployRequest) (vmName : Text) : Shell (List (Option NicRequest)) := do
  let sandboxVirtualNetwork ← NetworkService.getSandboxVirtualNetwork
    request.cloudProviderModel.managementGroupName
  match sandboxVirtualNetwork with
  | some network => pure (nicRequestsFor request vmName network.subnets)
  | none => raise (.attributeError "'NoneType' object has no attribute 'subnets'".toList)

/-- `_prepare_deploy_data`. -/
def prepareDeployData (request : DeployRequest) : Shell DeployDataModel := do
  getImageDataModel request.createVmAction
  ofExcept (validateDeploymentModel request)
  let vmName ← ofExcept (prepareVmName request)
  let vmSize ← ofExcept (prepareVmSize request)
  let nicRequests ← getNicRequests request vmName
  retryConnection (send (.external .sandboxStorageAccount))
  pure ⟨request.reservationId, request.reservationId, vmName, vmSize, nicRequests⟩

/-! ## Inside the block -/

/-- `nic_request.interface_name` and the other attributes, where there is a
request. -/
def nicRequestOf : Option NicRequest → Except PyException NicRequest
  | some nicRequest => .ok nicRequest
  | none => .error (.attributeError
      "'NoneType' object has no attribute 'interface_name'".toList)

/-- One interface of the machine with its inbound rules in the group of the
subnets. -/
def createNetwork (request : DeployRequest) (data : DeployDataModel)
    (inboundRules : List RuleData) (nicRequest : Option NicRequest) : Shell NetworkInterface := do
  let subnetsNsgName := getSubnetsNsgName data.reservationId
  let nicRequest ← ofExcept (nicRequestOf nicRequest)
  let nic ← NetworkService.createNetworkForVm nicRequest.interfaceName
    (getIpFromInterfaceName nicRequest.interfaceName) data.reservationId
    request.cloudProviderModel nicRequest.subnet
    (request.deploymentModel.addPublicIp && nicRequest.isPublic)
    request.deploymentModel.publicIpType
  let ipConfiguration ← ofExcept nic.firstIpConfiguration
  send (.recordPrivateIp ipConfiguration.privateIpAddress)
  createNetworkSecurityGroupRules subnetsNsgName (namedInboundRules data.vmName inboundRules)
    ipConfiguration.privateIpAddress (.resource subnetsNsgName) (some 1000)
  pure nic

/-- `_create_vm_common_objects`. -/
def createVmCommonObjects (request : DeployRequest) (data : DeployDataModel) :
    Shell (List NetworkInterface) := do
  let _ ← createVmNetworkSecurityGroup request.cloudProviderModel data request.deploymentModel
  let inboundRules ← ofExcept <|
    RulesAttributeParser.parsePortGroupAttribute request.deploymentModel.inboundPorts
  send (.getResourceLock (getSubnetsNsgName data.reservationId))
  let nics ← collect data.nicRequests (createNetwork request data inboundRules)
  VMCredentialsService.prepareCredentials request.createVmAction.osType
    request.deploymentModel.password
  CommandCancellationService.checkIfCancelled
  pure nics

/-- Whether `storage account type .+ is not supported for vm size` is found. -/
def namesUnsupportedDisk (message : Text) : Bool :=
  let opening := "storage account type ".toList
  let ending := " is not supported for vm size".toList
  (Text.lower message).tails.any fun tail =>
    opening.isPrefixOf tail &&
      (tail.drop opening.length).tails.zipIdx.any fun (rest, i) =>
        0 < i && ending.isPrefixOf rest && '\n' ∉ (tail.drop opening.length).take i

/-- `_expand_cloud_error_message`. -/
def expandCloudErrorMessage (diskType : Text) : PyException → PyException
  | .cloudError reason message =>
      if namesUnsupportedDisk message then
        .cloudError reason (message ++ "\nDisk Type attribute value ".toList ++ diskType ++
          " doesn't support the selected VM size.".toList)
      else
        .cloudError reason message
  | e => e

/-- The two actions that create the machine. -/
def createVmAction (request : DeployRequest) (data : DeployDataModel)
    (nics : List NetworkInterface) : Shell VirtualMachine :=
  match request.createVmAction with
  | .marketplace _ =>
      VirtualMachineService.createVmFromMarketplace data.vmName request.deploymentModel.diskSize
        nics
  | .customImage _ => do
      CommandCancellationService.checkIfCancelled
      VirtualMachineService.createVmFromCustomImage data.vmName request.deploymentModel.diskSize
        nics

/-- The message of a script that ran into its timeout. -/
def scriptTimeoutMessage (deploymentModel : DeployAzureVMResourceModel) : Text :=
  let seconds := deploymentModel.extensionScriptTimeout
  "App ".toList ++ deploymentModel.appName ++ " was partially deployed - ".toList ++
    "Custom script extension reached maximum timeout of ".toList ++ Text.ofInt (seconds / 60) ++
    " minutes and ".toList ++ Text.ofInt (seconds % 60) ++ " seconds".toList

/-- `_create_vm_custom_script_extension`. -/
def createVmCustomScriptExtension (request : DeployRequest) (data : DeployDataModel) :
    Shell Unit :=
  when (request.deploymentModel.extensionScriptFile ≠ []) do
    CommandCancellationService.checkIfCancelled
    (VMExtensionService.createScriptExtension data.vmName
      request.deploymentModel.extensionScriptFile).catching fun
      | .qualiTimeoutException => raise <| .qualiScriptExecutionTimeoutException <|
          scriptTimeoutMessage request.deploymentModel
      | e => raise e
    CommandCancellationService.checkIfCancelled

/-- The message of the script's timeout, if the block ends with it. -/
def scriptTimeout : PyException → Shell (Option Text)
  | .qualiScriptExecutionTimeoutException message => pure (some message)
  | e => raise e

/-- The `try` block.  Only its last step raises the timeout of the script, so
the first `except` clause is where the block goes on with a message. -/
def tryBlock (request : DeployRequest) (data : DeployDataModel) :
    Shell (VirtualMachine × Option Text) := do
  let nics ← createVmCommonObjects request data
  let vm ← (createVmAction request data nics).catching fun e =>
    raise (expandCloudErrorMessage request.deploymentModel.diskType e)
  CommandCancellationService.checkIfCancelled
  let timeout ← (do
    createVmCustomScriptExtension request data
    pure none).catching scriptTimeout
  pure (vm, timeout)

/-- `_rollback_deployed_resources`. -/
def rollbackDeployedResources (request : DeployRequest) (data : DeployDataModel)
    (allPrivateIpAddresses : List Text) : Shell Unit := do
  VirtualMachineService.deleteVm data.vmName
  forEach data.nicRequests fun nicRequest => do
    let nicRequest ← ofExcept (nicRequestOf nicRequest)
    NetworkService.deleteNic nicRequest.interfaceName
    NetworkService.deleteIp (getIpFromInterfaceName nicRequest.interfaceName)
  when (isStaticAllocation
      (.attribute request.cloudProviderModel.privateIpAllocationMethod) = true) <|
    (IpService.releaseIps data.reservationId allPrivateIpAddresses).catching fun _ => pure ()
  NetworkService.deleteNsgArtifactsAssociatedWithVm data.vmName

/-! ## After the block -/

/-- `_get_public_ip_address`. -/
def getPublicIpAddress (request : DeployRequest) (ipName : Text) : Shell (Option Text) :=
  if request.deploymentModel.addPublicIp then do
    let publicIp ← NetworkService.getPublicIp ipName
    CommandCancellationService.checkIfCancelled
    pure publicIp.ipAddress
  else
    pure none

/-- The public address of the first request for a public subnet. -/
def deployedPublicIp (request : DeployRequest) (data : DeployDataModel) : Shell (Option Text) :=
  match (data.nicRequests.filterMap id).find? NicRequest.isPublic with
  | some nicRequest =>
      getPublicIpAddress request (getIpFromInterfaceName nicRequest.interfaceName)
  | none => pure (some [])

/-- `_get_vm_network_data` of the machine. -/
def getVmNetworkData (vm : VirtualMachine) : Shell (List (NetworkInterface × Option Text)) :=
  collect vm.networkInterfaces fun networkInterface => do
    let nicName := AzureResourceIdParser.getNameFromResourceId networkInterface.id
    let nic ← send (.getNetworkInterface nicName)
    let ipConfiguration ← ofExcept nic.firstIpConfiguration
    match ipConfiguration.publicIpAddressId with
    | some _ => do
        let publicIp ← NetworkService.getPublicIp (getIpFromInterfaceName nicName)
        pure (nic, publicIp.ipAddress)
    | none => pure (nic, none)

/-- What follows the block. -/
def afterBlock (request : DeployRequest) (data : DeployDataModel)
    (allPrivateIpAddresses : List Text) (block : VirtualMachine × Option Text) :
    Shell DeployAppResult := do
  when (block.2.isSome = true) <| send (.external .reservationOutput)
  let publicIpAddress ← deployedPublicIp request data
  let vmNetworkData ← getVmNetworkData block.1
  pure ⟨data.vmName, allPrivateIpAddresses.headD [], publicIpAddress, vmNetworkData⟩

/-- The notes that a block appends to `data.all_private_ip_addresses`. -/
def privateIpNotes : Notes AzureServices Text
  | .recordPrivateIp address => some (address, ())
  | _ => none

/-- `_deploy_vm_generic`.  The list of addresses is new, and it outlasts the
exception of the block. -/
def deployVmGeneric (request : DeployRequest) : Shell DeployAppResult := do
  let data ← prepareDeployData request
  CommandCancellationService.checkIfCancelled
  let (outcome, allPrivateIpAddresses) ← recording privateIpNotes [] (tryBlock request data)
  let block ← (ofExcept outcome).catching fun e => do
    rollbackDeployedResources request data allPrivateIpAddresses
    raise e
  afterBlock request data allPrivateIpAddresses block

end DeployAzureVMOperation

end AzureShell
