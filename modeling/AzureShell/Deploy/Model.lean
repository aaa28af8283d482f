import AzureShell.Azure.Retrying
import AzureShell.Nsg.Rule
import Mathlib.Data.List.Sort

/-!
# The data of a deployment

The request of a deployment, the cloud provider's attributes, the data that the
deployment passes between its steps, and the calls shared by several steps:
the lookup of the virtual networks and the cancellation check.
-/

namespace AzureShell

open Prog

/-! ## Requests -/

/-- The attributes of the cloud provider resource. -/
structure AzureCloudProviderResourceModel where
  vmSize : Text
  managementGroupName : Text
  additionalMgmtNetworks : List Text
  privateIpAllocationMethod : Text
deriving DecidableEq, Repr

structure NetworkActionAttribute where
  name : Text
  value : Text
deriving DecidableEq, Repr

structure SubnetConnectionParams where
  subnetId : Text
  subnetServiceAttributes : List NetworkActionAttribute
  customAttributes : List NetworkActionAttribute
deriving DecidableEq, Repr

namespace SubnetConnectionParams

/-- `is_public_subnet`: the first "Public" attribute decides, and a subnet
without one is public. -/
def isPublicSubnet (params : SubnetConnectionParams) : Bool :=
  match params.subnetServiceAttributes.find? fun attr => attr.name = "Public".toList with
  | some attr => Text.lower attr.value = "true".toList
  | none => true

/-- `int(value)`, without an exception. -/
def parseInt (value : Text) : Option Int :=
  let digits := fun text : Text =>
    if text ≠ [] ∧ text.all Char.isDigit then some (Nat.ofDigitChars 10 text 0) else none
  match Text.strip value with
  | '-' :: rest => (digits rest).map fun n => -(n : Int)
  | '+' :: rest => (digits rest).map Int.ofNat
  | text => (digits text).map Int.ofNat

/-- The `device_index` property. -/
def deviceIndex (params : SubnetConnectionParams) : Option Int :=
  (params.customAttributes.find? fun attr => attr.name = "Vnic Name".toList).bind fun attr =>
    parseInt attr.value

/-- The order of device indices: `None` comes before every number. -/
def deviceIndexLe (first second : Option Int) : Bool :=
  first.all fun a => second.any fun b => a ≤ b

end SubnetConnectionParams

inductive OperatingSystemTypes where
  | windows
  | linux
deriving DecidableEq, Repr

/-- Which action creates the machine, with what `get_image_data_model` finds
out about its image. -/
inductive CreateVmAction where
  | marketplace (osType : OperatingSystemTypes)
  | customImage (osType : OperatingSystemTypes)
deriving DecidableEq, Repr

def CreateVmAction.osType : CreateVmAction → OperatingSystemTypes
  | marketplace osType => osType
  | customImage osType => osType

/-- The attributes of the deployed app. -/
structure DeployAzureVMResourceModel where
  appName : Text
  vmSize : Text
  diskSize : Text
  diskType : Text
  addPublicIp : Bool
  inboundPorts : Text
  publicIpType : Text
  password : Text
  extensionScriptFile : Text
  extensionScriptConfigurations : Text
  extensionScriptTimeout : Int
  allowAllSandboxTraffic : Text
  /-- Connection parameters of `network_configurations`, if there are any. -/
  networkConfigurations : List SubnetConnectionParams
deriving DecidableEq, Repr

/-! ## Data between the steps -/

structure NicRequest where
  interfaceName : Text
  subnet : Subnet
  isPublic : Bool
deriving DecidableEq, Repr

/-- `DeployDataModel`; a request for an interface is `None` where no subnet of
the sandbox was found. -/
structure DeployDataModel where
  reservationId : Text
  groupName : Text
  vmName : Text
  vmSize : Text
  nicRequests : List (Option NicRequest)
deriving DecidableEq, Repr

namespace DeployAzureVMOperation

/-- The name of a machine's rule in the group of the sandbox subnets:
`"{vm_name}_inbound_ports:{port_range}:{protocol}"`, the machine name without
blanks. -/
def inboundPortsRuleName (vmName : Text) (rule : RuleData) : Text :=
  vmName.filter (· ≠ ' ') ++
    ("_inbound_ports:".toList ++ rule.portRange ++ ':' :: rule.protocol)

/-- The parsed inbound rules under their names in the group of the subnets. -/
def namedInboundRules (vmName : Text) (inboundRules : List RuleData) : List InboundRule :=
  inboundRules.map fun rule =>
    .ruleData { rule with name := some (inboundPortsRuleName vmName rule) }

theorem inboundPortsRuleName_ne_nil (vmName : Text) (rule : RuleData) :
    inboundPortsRuleName vmName rule ≠ [] := by
  intro empty
  have suffixEmpty := (List.append_eq_nil_iff.mp empty).2
  exact List.cons_ne_nil _ _ suffixEmpty

/-- The rule of the subnets' group made of an inbound rule. -/
theorem mem_namedInboundRules {vmName : Text} {inboundRules : List RuleData}
    {ruleData : InboundRule} (member : ruleData ∈ namedInboundRules vmName inboundRules)
    (priority : Int) :
    ∃ rule ∈ inboundRules,
      SecurityGroupService.nameAt ruleData priority = inboundPortsRuleName vmName rule ∧
        ∀ sourceAddress, ruleData.source sourceAddress = sourceAddress := by
  rcases List.mem_map.mp member with ⟨rule, ruleMem, rfl⟩
  refine ⟨rule, ruleMem, ?_, fun _ => rfl⟩
  rw [SecurityGroupService.nameAt, InboundRule.name,
    truthy_some (inboundPortsRuleName_ne_nil vmName rule)]
  rfl

end DeployAzureVMOperation

/-! ## Shared calls -/

namespace CommandCancellationService

/-- `check_if_cancelled`. -/
def checkIfCancelled : Shell Unit := do
  let isCancelled ← send .isCancelled
  if isCancelled then raise .cancellationException

/-- A check consumes one observation and changes nothing else. -/
theorem run_checkIfCancelled (strict : Bool) (azure : Azure) :
    run (Azure.handle strict) checkIfCancelled azure =
      (if azure.cancellations.headD false then .error .cancellationException else .ok (),
        { azure with cancellations := azure.cancellations.tail }) := by
  unfold checkIfCancelled
  rw [run_bind, run_send]
  simp only [Azure.handle]
  split <;> rfl

end CommandCancellationService

namespace NetworkService

def networkTypeTagName : Text :=
  "network_type".toList

def sandboxNetworkTagValue : Text :=
  "sandbox".toList

def mgmtNetworkTagValue : Text :=
  "mgmt".toList

/-- `get_virtual_networks`. -/
def getVirtualNetworks (groupName : Text) : Shell (List VirtualNetwork) :=
  retryConnection (send (.listVirtualNetworks groupName))

/-- `get_virtual_network_by_tag`. -/
def getVirtualNetworkByTag (virtualNetworks : List VirtualNetwork) (tagKey tagValue : Text) :
    Option VirtualNetwork :=
  virtualNetworks.find? fun network => network.tags.lookup tagKey = some tagValue

/-- `get_sandbox_virtual_network`. -/
def getSandboxVirtualNetwork (groupName : Text) : Shell (Option VirtualNetwork) := do
  let virtualNetworks ← getVirtualNetworks groupName
  pure (getVirtualNetworkByTag virtualNetworks networkTypeTagName sandboxNetworkTagValue)

theorem run_getVirtualNetworks (strict : Bool) (groupName : Text) (azure : Azure) :
    run (Azure.handle strict) (getVirtualNetworks groupName) azure =
      (.ok (azure.virtualNetworks groupName), azure) := by
  apply run_retry_of_ok
  rfl

theorem run_getSandboxVirtualNetwork (strict : Bool) (groupName : Text) (azure : Azure) :
    run (Azure.handle strict) (getSandboxVirtualNetwork groupName) azure =
      (.ok (getVirtualNetworkByTag (azure.virtualNetworks groupName) networkTypeTagName
        sandboxNetworkTagValue), azure) := by
  unfold getSandboxVirtualNetwork
  rw [run_bind_of_ok (run_getVirtualNetworks strict groupName azure)]
  rfl

/-- The first address prefix of a virtual network that may be absent. -/
def firstAddressPrefix : Option VirtualNetwork → Except PyException Text
  | none => .error (.attributeError
      "'NoneType' object has no attribute 'address_space'".toList)
  | some network =>
      match network.addressPrefixes with
      | [] => .error (.indexError "list index out of range".toList)
      | addressPrefix :: _ => .ok addressPrefix

theorem exists_of_firstAddressPrefix {found : Option VirtualNetwork} {addressPrefix : Text}
    (first : firstAddressPrefix found = .ok addressPrefix) : ∃ network, found = some network := by
  cases found with
  | none => cases first
  | some network => exact ⟨network, rfl⟩

end NetworkService

end AzureShell
