import AzureShell.Text.Core
import AzureShell.Store.Keyed

/-!
# Azure and CloudShell as the shell sees them

The resources of one sandbox: the resource group named after the reservation,
the virtual networks of the management group, and the address pool CloudShell
keeps for the reservation.  Only the attributes that the shell reads or that
decide what it does are kept.
-/

namespace AzureShell

/-! ## Exceptions -/

/-- The exceptions the shell raises or meets, with their messages. -/
inductive PyException where
  /-- `msrest` client request errors and `urllib3` connection errors. -/
  | clientRequestError (message : Text)
  /-- An error answer of Azure with its `response.reason`. -/
  | cloudError (reason message : Text)
  | cancellationException
  | qualiTimeoutException
  | qualiScriptExecutionTimeoutException (message : Text)
  | attributeError (message : Text)
  | typeError (message : Text)
  | indexError (message : Text)
  | ioError (message : Text)
  | keyError (message : Text)
  | valueError (message : Text)
  | stopIteration
  | exception (message : Text)
deriving DecidableEq, Repr

namespace PyException

/-- The `message` attribute of an exception. -/
def message : PyException → Text
  | clientRequestError message => message
  | cloudError _ message => message
  | cancellationException => "Command was cancelled".toList
  | qualiTimeoutException => []
  | qualiScriptExecutionTimeoutException message => message
  | attributeError message => message
  | typeError message => message
  | indexError message => message
  | ioError message => message
  | keyError message => message
  | valueError message => message
  | stopIteration => []
  | exception message => message

/-- The answer to a request whose target does not exist. -/
def notFound : PyException :=
  cloudError "Not Found".toList "The resource was not found.".toList

/-- The shell's test for an absent resource: a `CloudError` whose reason is
"Not Found". -/
def isNotFound : PyException → Bool
  | cloudError reason _ => reason = "Not Found".toList
  | _ => false

/-- Whether an exception is a `CloudError`. -/
def isCloudError : PyException → Bool
  | cloudError _ _ => true
  | _ => false

end PyException

/-! ## Network security groups -/

inductive SecurityRuleAccess where
  | allow
  | deny
deriving DecidableEq, Repr

/-- `RouteNextHopType.internet`, the service tag of the Internet. -/
def internet : Text :=
  "Internet".toList

/-- `SecurityRuleProtocol.asterisk`. -/
def asterisk : Text :=
  "*".toList

structure SecurityRule where
  name : Text
  access : SecurityRuleAccess
  direction : Text
  sourceAddressPrefix : Text
  sourcePortRange : Text
  destinationAddressPrefix : Text
  destinationPortRange : Text
  priority : Int
  protocol : Text
deriving DecidableEq, Repr

structure NetworkSecurityGroup where
  name : Text
  securityRules : List SecurityRule
deriving DecidableEq, Repr

/-! ## Networks -/

structure Subnet where
  name : Text
  addressPrefix : Text
  networkSecurityGroup : Option Text
  routeTable : Option Text
  /-- The ids of the attached IP configurations. -/
  ipConfigurations : Option (List Text)
deriving DecidableEq, Repr

structure VirtualNetwork where
  name : Text
  tags : List (Text × Text)
  addressPrefixes : List Text
  subnets : List Subnet
deriving DecidableEq, Repr

inductive IPAllocationMethod where
  | static
  | dynamic
deriving DecidableEq, Repr

structure IpConfiguration where
  privateIpAddress : Text
  privateIpAllocationMethod : IPAllocationMethod
  subnetId : Text
  publicIpAddressId : Option Text
deriving DecidableEq, Repr

structure NetworkInterface where
  name : Text
  ipConfigurations : List IpConfiguration
deriving DecidableEq, Repr

structure PublicIpAddress where
  name : Text
  ipAddress : Option Text
deriving DecidableEq, Repr

/-- `AzureResourceIdParser.get_name_from_resource_id`. -/
def AzureResourceIdParser.getNameFromResourceId (resourceId : Text) : Text :=
  Text.lastPart '/' (resourceId.reverse.dropWhile (· = '/')).reverse

private theorem dropWhile_reverse_append (left : Text) {name : Text} (nonempty : name ≠ [])
    (noSlash : '/' ∉ name) :
    ((left ++ name).reverse.dropWhile (· = '/')).reverse = left ++ name := by
  cases reversed : name.reverse with
  | nil => exact absurd (List.reverse_eq_nil_iff.mp reversed) nonempty
  | cons c rest =>
      have inName : c ∈ name := List.mem_reverse.mp (reversed ▸ List.mem_cons_self)
      have notSlash : c ≠ '/' := fun same => noSlash (same ▸ inName)
      rw [List.reverse_append, reversed, List.cons_append,
        List.dropWhile_cons_of_neg (by simpa using notSlash), ← List.cons_append, ← reversed,
        ← List.reverse_append, List.reverse_reverse]

theorem AzureResourceIdParser.getNameFromResourceId_of_noSlash {name : Text} (nonempty : name ≠ [])
    (noSlash : '/' ∉ name) : getNameFromResourceId name = name := by
  have stripped := dropWhile_reverse_append [] nonempty noSlash
  rw [List.nil_append] at stripped
  rw [getNameFromResourceId, stripped, Text.lastPart_of_not_mem noSlash]

theorem AzureResourceIdParser.getNameFromResourceId_append {left name : Text}
    (slash : left.getLast? = some '/') (nonempty : name ≠ []) (noSlash : '/' ∉ name) :
    getNameFromResourceId (left ++ name) = name := by
  rcases List.getLast?_eq_some_iff.mp slash with ⟨stem, rfl⟩
  rw [getNameFromResourceId, dropWhile_reverse_append _ nonempty noSlash, List.append_assoc]
  exact Text.lastPart_append_cons stem noSlash

/-- The group name at the start of an id, after a label in any case. -/
def AzureResourceIdParser.groupNameAt (text : Text) : Option Text :=
  let label := "resourcegroups/".toList
  let rest := text.drop label.length
  if label <+: Text.lower text ∧ '/' ∈ rest then some (rest.takeWhile (· ≠ '/')) else none

/-- The group name after the last label on the first line. -/
def AzureResourceIdParser.lastGroupName : Text → Option Text
  | [] => none
  | c :: rest =>
      (if c = '\n' then none else lastGroupName rest).or (groupNameAt (c :: rest))

/-- `AzureResourceIdParser.get_resource_group_name`. -/
def AzureResourceIdParser.getResourceGroupName (resourceId : Text) : Except PyException Text :=
  match lastGroupName resourceId with
  | some groupName => .ok groupName
  | none => .error (.attributeError "'NoneType' object has no attribute 'group'".toList)

/-- `nic.ip_configurations[0]`. -/
def NetworkInterface.firstIpConfiguration (nic : NetworkInterface) :
    Except PyException IpConfiguration :=
  match nic.ipConfigurations with
  | [] => .error (.indexError "list index out of range".toList)
  | ipConfiguration :: _ => .ok ipConfiguration

/-! ## Virtual machines -/

/-- The OS disk of a machine: a page blob at a URL, a managed disk, or neither. -/
structure OsDisk where
  name : Text
  vhdUri : Option Text
  managedDisk : Bool
deriving DecidableEq, Repr

/-- An attached interface, by its resource id. -/
structure NetworkInterfaceReference where
  id : Text
  primary : Bool
deriving DecidableEq, Repr

structure VirtualMachine where
  name : Text
  networkInterfaces : List NetworkInterfaceReference
  osDisk : OsDisk
  provisioningState : Text
deriving DecidableEq, Repr

/-- Where the content of an OS disk lives: in a managed disk or in a page blob of a
storage account. -/
inductive Disk where
  | managed (name : Text)
  | vhd (storageName containerName blobName : Text)
deriving DecidableEq, Repr

/-- The managed disk that is created with a machine. -/
def VirtualMachine.managedDisk (vm : VirtualMachine) : Option Disk :=
  if vm.osDisk.vhdUri = none ∧ vm.osDisk.managedDisk = true then some (.managed vm.osDisk.name)
  else none

/-! ## The CloudShell address pool -/

/-- An address checked out of a pool, with the reservation and owner it was
checked out for. -/
structure PoolItem where
  address : Text
  poolId : Text
  reservationId : Text
  ownerId : Text
deriving DecidableEq, Repr

/-! ## The whole state -/

/-- The resources a create request can bring into being. -/
inductive Resource where
  | virtualMachine (name : Text)
  | networkInterface (name : Text)
  | publicIpAddress (name : Text)
  | networkSecurityGroup (name : Text)
  | securityRule (nsg name : Text)
deriving DecidableEq, Repr

/-- The resources of a sandbox, the pool of its reservation, and what the
outside world decides for it. -/
structure Azure where
  networkSecurityGroups : List NetworkSecurityGroup
  virtualMachines : List VirtualMachine
  networkInterfaces : List NetworkInterface
  publicIpAddresses : List PublicIpAddress
  disks : List Disk
  /-- Virtual networks by resource group. -/
  virtualNetworks : Text → List VirtualNetwork
  /-- Free pool addresses by subnet range, in the order the pool hands them out. -/
  availableIps : Text → List Text
  checkedOut : List PoolItem
  /-- The release requests the pool received, each with its values. -/
  released : List PoolItem
  /-- Create requests that took effect, latest first. -/
  created : List Resource
  /-- Addresses Azure gives to dynamically allocated interfaces. -/
  dynamicIp : Text → Text
  /-- Addresses Azure gives to public address resources, if it gives one. -/
  publicIp : Text → Option Text
  /-- Observations of `cancellation_context.is_cancelled`, next first. -/
  cancellations : List Bool
  /-- How often a poller of a long operation is found not done. -/
  pendingPolls : Nat
  /-- Whether the custom script extension outlasts its timeout. -/
  extensionTimesOut : Bool
  /-- Whether a script URL answers. -/
  reachable : Text → Bool

namespace Azure

/-- A resource group without resources, in which nothing is cancelled and every
operation is done at once. -/
def blank : Azure where
  networkSecurityGroups := []
  virtualMachines := []
  networkInterfaces := []
  publicIpAddresses := []
  disks := []
  virtualNetworks := fun _ => []
  availableIps := fun _ => []
  checkedOut := []
  released := []
  created := []
  dynamicIp := fun _ => "10.0.0.4".toList
  publicIp := fun _ => none
  cancellations := []
  pendingPolls := 0
  extensionTimesOut := false
  reachable := fun _ => true

/-- The rules of a network security group, if the group exists. -/
def rulesOf (azure : Azure) (nsg : Text) : Option (List SecurityRule) :=
  (Store.lookup NetworkSecurityGroup.name nsg azure.networkSecurityGroups).map
    NetworkSecurityGroup.securityRules

/-- The rules of a group, none if the group does not exist. -/
def rulesIn (azure : Azure) (nsg : Text) : List SecurityRule :=
  (azure.rulesOf nsg).getD []

/-- Whether a resource exists. -/
def Exists (azure : Azure) : Resource → Prop
  | .virtualMachine name => ∃ vm ∈ azure.virtualMachines, vm.name = name
  | .networkInterface name => ∃ nic ∈ azure.networkInterfaces, nic.name = name
  | .publicIpAddress name => ∃ ip ∈ azure.publicIpAddresses, ip.name = name
  | .networkSecurityGroup name => ∃ nsg ∈ azure.networkSecurityGroups, nsg.name = name
  | .securityRule nsg name =>
      ∃ group ∈ azure.networkSecurityGroups,
        group.name = nsg ∧ ∃ rule ∈ group.securityRules, rule.name = name

instance (azure : Azure) (resource : Resource) : Decidable (azure.Exists resource) :=
  match resource with
  | .virtualMachine name => inferInstanceAs (Decidable (∃ vm ∈ azure.virtualMachines, vm.name = name))
  | .networkInterface name =>
      inferInstanceAs (Decidable (∃ nic ∈ azure.networkInterfaces, nic.name = name))
  | .publicIpAddress name =>
      inferInstanceAs (Decidable (∃ ip ∈ azure.publicIpAddresses, ip.name = name))
  | .networkSecurityGroup name =>
      inferInstanceAs (Decidable (∃ nsg ∈ azure.networkSecurityGroups, nsg.name = name))
  | .securityRule nsg name =>
      inferInstanceAs (Decidable (∃ group ∈ azure.networkSecurityGroups,
        group.name = nsg ∧ ∃ rule ∈ group.securityRules, rule.name = name))

end Azure

end AzureShell
