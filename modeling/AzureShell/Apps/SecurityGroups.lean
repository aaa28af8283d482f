import AzureShell.Naming.NameProvider
import AzureShell.Nsg.Batch
import AzureShell.Nsg.Effect

/-!
# Custom rules of apps

`set_apps_security_groups` replaces the custom rules in the security group of
each requested app: it deletes all of them and creates the requested ones, one
configuration after the other.  An exception ends the work on an app and is
reported in the app's result.
-/

namespace AzureShell

open Prog SecurityGroupService NameProviderService

/-! ## Requests and results -/

structure SecurityGroupConfiguration where
  subnetId : Text
  /-- `None` where the request carries no rules. -/
  rules : Option (List PortData)
deriving DecidableEq, Repr

structure AppSecurityGroupModel where
  /-- `deployed_app.name`. -/
  appName : Text
  /-- `None` where the request carries no configurations. -/
  securityGroupConfigurations : Option (List SecurityGroupConfiguration)
deriving DecidableEq, Repr

structure SetAppSecurityGroupActionResult where
  appName : Text
  success : Bool
  error : Text
deriving DecidableEq, Repr

namespace SetAppSecurityGroupsOperation

/-- The order in which a dictionary with the given items is iterated. -/
structure ItemOrder where
  arrange : List (NetworkInterface × Text) → List (NetworkInterface × Text)
  arrange_perm : ∀ items, (arrange items).Perm items

/-- What the operation takes from its environment: whether `netaddr` accepts a
text as a network, and the order of dictionary items. -/
structure Environment where
  isNetwork : Text → Bool
  itemOrder : ItemOrder

/-- `is_cidr_format`. -/
def isCidrFormat (environment : Environment) (cidr : Text) : Bool :=
  environment.isNetwork cidr && '/' ∈ cidr

/-- `_determine_name_of_subnet_from_security_group_configuration_of_request`. -/
def determineNameOfSubnet (environment : Environment) (groupName : Text)
    (configuration : SecurityGroupConfiguration) : Text :=
  AzureResourceIdParser.getNameFromResourceId <|
    if isCidrFormat environment configuration.subnetId then
      formatSubnetName groupName configuration.subnetId
    else
      configuration.subnetId

/-- An entry of the map from interfaces to subnet names. -/
def subnetNameOf (nic : NetworkInterface) : Except PyException (NetworkInterface × Text) := do
  let ipConfiguration ← nic.firstIpConfiguration
  return (nic, AzureResourceIdParser.getNameFromResourceId ipConfiguration.subnetId)

/-- `_create_nic_to_subnet_name_map`. -/
def createNicToSubnetNameMap (vm : VirtualMachine) : Shell (List (NetworkInterface × Text)) :=
  collect vm.networkInterfaces fun nicRef => do
    let nic ← send (.getNetworkInterface (AzureResourceIdParser.getNameFromResourceId nicRef.id))
    ofExcept (subnetNameOf nic)

/-- `_find_nic_by_subnet`. -/
def findNicBySubnet (environment : Environment) (nicToSubnetMap : List (NetworkInterface × Text))
    (subnetName : Text) : Option NetworkInterface :=
  ((environment.itemOrder.arrange nicToSubnetMap).find? fun item => item.2 = subnetName).map Prod.fst

/-- The destination and the requested rules of a configuration. -/
def resolve (environment : Environment) (groupName : Text)
    (nicToSubnetMap : List (NetworkInterface × Text))
    (configuration : SecurityGroupConfiguration) :
    Except PyException (Text × List PortData) := do
  let nic ← match findNicBySubnet environment nicToSubnetMap
      (determineNameOfSubnet environment groupName configuration) with
    | some nic => .ok nic
    | none => .error (.attributeError
        "'NoneType' object has no attribute 'ip_configurations'".toList)
  let ipConfiguration ← nic.firstIpConfiguration
  match configuration.rules with
  | some rules => .ok (ipConfiguration.privateIpAddress, rules)
  | none => .error (.typeError "'NoneType' object is not iterable".toList)

/-- `"custom_rule_{2}_for_{0}_to_{1}".format(vm_name, destination_ip, i)`. -/
def customRuleName (vmName destinationIp : Text) (i : Nat) : Text :=
  "custom_rule_".toList ++ (Text.ofNat i ++ ("_for_".toList ++ (vmName ++
    ("_to_".toList ++ destinationIp))))

/-- The rules of a configuration under their names, numbered from `start`. -/
def namedRules (vmName destinationIp : Text) (start : Nat) (rules : List PortData) :
    List InboundRule :=
  (rules.zipIdx start).map fun (rule, i) =>
    .portData { rule with name := some (customRuleName vmName destinationIp i) }

/-- The iteration over the configurations of a model. -/
def configurationsOf (model : AppSecurityGroupModel) :
    Except PyException (List SecurityGroupConfiguration) :=
  match model.securityGroupConfigurations with
  | some configurations => .ok configurations
  | none => .error (.typeError "'NoneType' object is not iterable".toList)

/-- The work on one app. -/
def setAppSecurityGroups (environment : Environment) (groupName : Text)
    (model : AppSecurityGroupModel) : Shell Unit := do
  let vmName := model.appName
  let lock := LockName.resource (vmNsgName vmName)
  send (.getResourceLock (vmNsgName vmName))
  deleteCustomSecurityRulesFromNsg (vmNsgName vmName) lock
  let vm ← retryConnection (send (.getVirtualMachine vmName))
  let nicToSubnetNameMap ← createNicToSubnetNameMap vm
  let configurations ← ofExcept (configurationsOf model)
  forEach configurations fun configuration => do
    let resolved ← ofExcept (resolve environment groupName nicToSubnetNameMap configuration)
    createNetworkSecurityGroupRules (vmNsgName vmName) (namedRules vmName resolved.1 0 resolved.2)
      resolved.1 lock

/-- `_create_security_group_action_result` for the outcome of the work on an app. -/
def actionResult (model : AppSecurityGroupModel) :
    Except PyException Unit → SetAppSecurityGroupActionResult
  | .ok () => ⟨model.appName, true, []⟩
  | .error e => ⟨model.appName, false,
      "Setting custom app security rules failed for '".toList ++ model.appName ++
        "' with error '".toList ++ e.message ++ "'.".toList⟩

/-- One round of `set_apps_security_groups`. -/
def setApp (environment : Environment) (groupName : Text) (model : AppSecurityGroupModel) :
    Shell SetAppSecurityGroupActionResult :=
  (do setAppSecurityGroups environment groupName model
      pure (actionResult model (.ok ()))).catching fun e => pure (actionResult model (.error e))

/-- `set_apps_security_groups`. -/
def setAppsSecurityGroups (environment : Environment) (groupName : Text)
    (models : List AppSecurityGroupModel) : Shell (List SetAppSecurityGroupActionResult) :=
  collect models (setApp environment groupName)

/-! ## A machine with two interfaces -/

/-- An interface with one address. -/
def interfaceOn (name subnetId privateIpAddress : Text) : NetworkInterface where
  name := name
  ipConfigurations := [⟨privateIpAddress, .dynamic, subnetId, none⟩]

/-- The machine `app` on the subnets `left` and `right`, with an empty group. -/
def twoInterfaces : Azure :=
  { Azure.blank with
    networkSecurityGroups := [⟨vmNsgName "app".toList, []⟩]
    virtualMachines := [⟨"app".toList, [⟨"n/nic-0".toList, true⟩, ⟨"n/nic-1".toList, false⟩],
      ⟨[], none, false⟩, "Succeeded".toList⟩]
    networkInterfaces := [interfaceOn "nic-0".toList "s/left".toList "10.0.1.4".toList,
      interfaceOn "nic-1".toList "s/right".toList "10.0.2.4".toList] }

/-- Dictionary items in the order of their insertion. -/
def ItemOrder.inserted : ItemOrder where
  arrange := id
  arrange_perm := fun _ => List.Perm.refl _

/-- Dictionary items in the opposite order. -/
def ItemOrder.reversed : ItemOrder where
  arrange := List.reverse
  arrange_perm := List.reverse_perm

/-- An environment that knows no networks by their addresses. -/
def namedSubnets : Environment where
  isNetwork := fun _ => false
  itemOrder := ItemOrder.inserted

/-- One TCP port from the Internet. -/
def tcpPort (port : Text) : PortData where
  fromPort := port
  toPort := port
  protocol := "Tcp".toList

end SetAppSecurityGroupsOperation

end AzureShell
