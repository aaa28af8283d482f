import AzureShell.Deploy.Model
import AzureShell.Nsg.Service

/-!
# The services of a deployment

Interfaces and public addresses, the CloudShell address pool, machines and the
pollers of their creation, and the custom script extension.
-/

namespace AzureShell

open Prog

/-! ## Address allocation -/

/-- What `is_static_allocation` is asked about: the attribute of the cloud
provider as it is, or the type Azure knows. -/
inductive AllocationMethod where
  | attribute (value : Text)
  | azureType (value : IPAllocationMethod)
deriving DecidableEq, Repr

/-- `is_static_allocation`: a text is compared with the name of the enumeration
value, anything without `lower` with the value itself. -/
def isStaticAllocation : AllocationMethod → Bool
  | .attribute value => Text.lower value = "static".toList
  | .azureType value => value = .static

/-- `to_azure_type`. -/
def toAzureType (privateIpAllocationMethod : Text) : IPAllocationMethod :=
  if Text.lower privateIpAllocationMethod = "cloudshell allocation".toList then .static
  else .dynamic

namespace IpService

/-- `_get_pool_id`. -/
def getPoolId (reservationId : Text) : Text :=
  reservationId ++ "-private-ips".toList

/-- `_get_pool_item_owner` without an owner. -/
def poolItemOwner : Text :=
  "Azure-Shell".toList

/-- `get_next_available_ip_from_cs_pool`. -/
def getNextAvailableIpFromCsPool (reservationId subnetCidr : Text) : Shell Text :=
  send (.checkoutFromPool (getPoolId reservationId) reservationId poolItemOwner subnetCidr)

/-- `release_ips`. -/
def releaseIps (reservationId : Text) (ipsToRelease : List Text) : Shell Unit :=
  send (.releaseFromPool ipsToRelease (getPoolId reservationId) reservationId poolItemOwner)

end IpService

/-! ## Interfaces and public addresses -/

/-- `get_ip_from_interface_name`. -/
def getIpFromInterfaceName (interfaceName : Text) : Text :=
  interfaceName ++ "_PublicIP".toList

namespace NetworkService

/-- `_get_ip_allocation_type`, of which only the check matters here. -/
def getIpAllocationType (ipType : Text) : Except PyException Unit :=
  if Text.lower ipType = "static".toList ∨ Text.lower ipType = "dynamic".toList then
    .ok ()
  else
    .error <| .exception <| "Incorrect allocation type ".toList ++ ipType ++
      ". Possible values are ['Static', 'Dynamic']".toList

/-- `_create_public_ip`. -/
def createPublicIp (ipName publicIpType : Text) : Shell PublicIpAddress :=
  retryConnection do
    ofExcept (getIpAllocationType publicIpType)
    send (.putPublicIpAddress ipName)

/-- The address a new interface asks for: one of the pool under static
allocation, none otherwise. -/
def privateIpFor (reservationId : Text) (subnet : Subnet)
    (privateIpAllocationMethod : IPAllocationMethod) : Shell (Option Text) :=
  if isStaticAllocation (.azureType privateIpAllocationMethod) then do
    let address ← IpService.getNextAvailableIpFromCsPool reservationId subnet.addressPrefix
    pure (some address)
  else
    pure none

/-- `create_nic`. -/
def createNic (interfaceName reservationId : Text) (publicIpAddress : Option PublicIpAddress)
    (subnet : Subnet) (privateIpAllocationMethod : IPAllocationMethod) : Shell NetworkInterface :=
  retryConnection <| retryRetryable do
    let privateIpAddress ← privateIpFor reservationId subnet privateIpAllocationMethod
    send (.putNetworkInterface ⟨interfaceName, privateIpAllocationMethod, privateIpAddress,
      subnet.name, publicIpAddress.map PublicIpAddress.name⟩)

/-- The public address of a new interface, if it gets one. -/
def publicIpFor (addPublicIp : Bool) (ipName publicIpType : Text) :
    Shell (Option PublicIpAddress) :=
  if addPublicIp then do
    let publicIpAddress ← createPublicIp ipName publicIpType
    pure (some publicIpAddress)
  else
    pure none

/-- `create_network_for_vm`. -/
def createNetworkForVm (interfaceName ipName reservationId : Text)
    (cloudProviderModel : AzureCloudProviderResourceModel) (subnet : Subnet) (addPublicIp : Bool)
    (publicIpType : Text) : Shell NetworkInterface := do
  let publicIpAddress ← publicIpFor addPublicIp ipName publicIpType
  createNic interfaceName reservationId publicIpAddress subnet
    (toAzureType cloudProviderModel.privateIpAllocationMethod)

/-- `delete_nic`. -/
def deleteNic (interfaceName : Text) : Shell Unit :=
  retryConnection (send (.deleteNetworkInterface interfaceName))

/-- `delete_ip`. -/
def deleteIp (ipName : Text) : Shell Unit :=
  retryConnection (send (.deletePublicIpAddress ipName))

/-- `get_public_ip`. -/
def getPublicIp (ipName : Text) : Shell PublicIpAddress :=
  retryConnection (send (.getPublicIpAddress ipName))

end NetworkService

/-! ## Pollers -/

namespace TaskWaiterService

/-- The checks of a poller that is found not done some number of times. -/
def checkWhilePolling : Nat → Shell Unit
  | 0 => pure ()
  | notDone + 1 => do
      CommandCancellationService.checkIfCancelled
      checkWhilePolling notDone

/-- `wait_for_task` on the poller of a virtual machine creation. -/
def waitForTask : Shell Unit := do
  let notDone ← send .pollVirtualMachine
  checkWhilePolling notDone
  send (.external .vmResult)

/-- `wait_for_task_with_timeout` on the poller of an extension: how often it is
found not done, and whether the timeout passes first. -/
def waitForTaskWithTimeout (poller : Nat × Bool) : Shell Unit := do
  checkWhilePolling poller.1
  if poller.2 then
    raise .qualiTimeoutException
  else
    send (.external .extensionResult)

end TaskWaiterService

/-! ## Virtual machines -/

namespace VirtualMachineService

/-- The resource id of an interface. -/
def networkInterfaceId (nic : NetworkInterface) : Text :=
  "/networkInterfaces/".toList ++ nic.name

/-- The references to the interfaces, of which the first is made primary. -/
def networkInterfaceReferences : List NetworkInterface → List NetworkInterfaceReference
  | [] => []
  | first :: rest =>
      ⟨networkInterfaceId first, true⟩ :: rest.map fun nic => ⟨networkInterfaceId nic, false⟩

/-- `SUCCEEDED_PROVISIONING_STATE`. -/
def succeededProvisioningState : Text :=
  "Succeeded".toList

/-- The name Azure gives to the managed OS disk of a new machine. -/
def osDiskName (vmName : Text) : Text :=
  vmName ++ "_OsDisk_1".toList

/-- The machine requested from Azure; Azure names its managed OS disk and reports
the state of a machine that is created. -/
def requestedMachine (vmName : Text) (nics : List NetworkInterface) : VirtualMachine where
  name := vmName
  networkInterfaces := networkInterfaceReferences nics
  osDisk := ⟨osDiskName vmName, none, true⟩
  provisioningState := succeededProvisioningState

/-- `_create_vm`. -/
def createVm (vm : VirtualMachine) : Shell VirtualMachine :=
  retryConnection <| retryRetryable do
    send (.putVirtualMachine vm)
    TaskWaiterService.waitForTask
    pure vm

/-- `network_interfaces[0]`, which is made the primary one. -/
def primaryInterface (nics : List NetworkInterface) : Except PyException Unit :=
  if nics = [] then .error (.indexError "list index out of range".toList) else .ok ()

/-- `_prepare_os_disk`, of which only the size check matters here. -/
def prepareOsDisk (diskSize : Text) : Except PyException Unit :=
  if diskSize ≠ [] ∧ diskSize.all Char.isDigit ∧ 1023 < Nat.ofDigitChars 10 diskSize 0 then
    .error (.exception "Disk size cannot be larger than 1023 GB".toList)
  else
    .ok ()

/-- `create_vm_from_custom_image`. -/
def createVmFromCustomImage (vmName diskSize : Text) (nics : List NetworkInterface) :
    Shell VirtualMachine := do
  ofExcept (primaryInterface nics)
  send (.external .customImage)
  ofExcept (prepareOsDisk diskSize)
  createVm (requestedMachine vmName nics)

/-- `create_vm_from_marketplace`. -/
def createVmFromMarketplace (vmName diskSize : Text) (nics : List NetworkInterface) :
    Shell VirtualMachine := do
  ofExcept (primaryInterface nics)
  ofExcept (prepareOsDisk diskSize)
  createVm (requestedMachine vmName nics)

/-- `delete_vm`. -/
def deleteVm (vmName : Text) : Shell Unit :=
  retryConnection (send (.deleteVirtualMachine vmName))

/-- `get_vm`. -/
def getVm (vmName : Text) : Shell VirtualMachine :=
  retryConnection (send (.getVirtualMachine vmName))

theorem run_getVm {strict : Bool} {vmName : Text} {vm : VirtualMachine} {azure : Azure}
    (stored : Store.lookup VirtualMachine.name vmName azure.virtualMachines = some vm) :
    run (Azure.handle strict) (getVm vmName) azure = (.ok vm, azure) :=
  run_retry_of_ok (run_getVirtualMachine stored)

end VirtualMachineService

namespace VMExtensionService

/-- `str.rstrip("/")`. -/
def stripSlashes (text : Text) : Text :=
  (text.reverse.dropWhile (· = '/')).reverse

/-- `validate_script_extension`. -/
def validateScriptExtension (imageOsType : OperatingSystemTypes)
    (scriptFile scriptConfigurations : Text) : Except PyException Unit :=
  match imageOsType with
  | .windows =>
      if "ps1".toList <:+ stripSlashes scriptFile then .ok ()
      else .error (.exception
        "Invalid format for the PowerShell script. It must have a 'ps1' extension".toList)
  | .linux =>
      if scriptConfigurations ≠ [] then .ok ()
      else .error (.exception <| "Linux Custom Script must have a command to execute in ".toList ++
        "'Extension Script Configurations' attribute".toList)

/-- `create_script_extension`. -/
def createScriptExtension (vmName scriptFile : Text) : Shell Unit :=
  retryConnection do
    let reachable ← send (.checkUrl scriptFile)
    when (reachable = true) do
      let poller ← send (.putExtension vmName)
      TaskWaiterService.waitForTaskWithTimeout poller

end VMExtensionService

namespace VMCredentialsService

/-- `prepare_credentials`: only a Linux machine without a password needs the key
pair in the storage. -/
def prepareCredentials (osType : OperatingSystemTypes) (password : Text) : Shell Unit :=
  when (osType = .linux ∧ password = []) <|
    retryConnection (send (.external .vmCredentials))

end VMCredentialsService

end AzureShell
