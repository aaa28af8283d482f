import AzureShell.Deploy.Model

/-!
# Parsing the request of a deployment

`AzureModelsParser` makes the deployment model from the attributes of the
requested app and from its `ConnectSubnet` actions.  Two Boolean attributes are
converted here; the attribute about sandbox traffic is copied as it is.
-/

namespace AzureShell

/-! ## The network actions -/

/-- The parameters of a `ConnectSubnet` action; before version 9.0 they have no
`vnicName`. -/
structure ConnectToSubnetParams where
  subnetId : Text
  subnetServiceAttributes : List (Text × Text)
  vnicName : Option Text := none
deriving DecidableEq, Repr

namespace ConnectionParamsParser

/-- `parse_subnet_service_attributes`. -/
def parseSubnetServiceAttributes (data : ConnectToSubnetParams) : List NetworkActionAttribute :=
  data.subnetServiceAttributes.map fun (name, value) => ⟨name, value⟩

/-- `parse` of the parameters of a `ConnectSubnet` action: the name of the
interface becomes a custom attribute. -/
def parse (paramsData : ConnectToSubnetParams) : SubnetConnectionParams where
  subnetId := paramsData.subnetId
  subnetServiceAttributes := parseSubnetServiceAttributes paramsData
  customAttributes := (paramsData.vnicName.map fun name => ⟨"Vnic Name".toList, name⟩).toList

end ConnectionParamsParser

/-! ## The deployment attributes -/

/-- The parameters of a `DeployApp` action. -/
structure DeployAppParams where
  appName : Text
  /-- `deployment.attributes`. -/
  deploymentAttributes : List (Text × Text)
  /-- `appResource.attributes`. -/
  appResourceAttributes : List (Text × Text)
deriving DecidableEq, Repr

namespace AzureModelsParser

/-- `convert_to_boolean`. -/
def convertToBoolean (value : Text) : Bool :=
  Text.lower value = "1".toList ∨ Text.lower value = "true".toList

/-- `data_attributes[name]`. -/
def dataAttribute (attributes : List (Text × Text)) (name : Text) : Except PyException Text :=
  match attributes.lookup name with
  | some value => .ok value
  | none => .error (.keyError name)

/-- `int(value)`. -/
def int (value : Text) : Except PyException Int :=
  match SubnetConnectionParams.parseInt value with
  | some n => .ok n
  | none => .error <| .valueError <|
      "invalid literal for int() with base 10: '".toList ++ value ++ "'".toList

/-- The first attribute with the name, or with a name that ends in a dot and the
name. -/
def gen2Attribute (attributes : List (Text × Text)) (name : Text) : Option Text :=
  (attributes.find? fun entry => entry.1 = name ∨ '.' :: name <:+ entry.1).map Prod.snd

/-- `parse_deploy_networking_configurations`. -/
def parseDeployNetworkingConfigurations (actions : List ConnectToSubnetParams) :
    List SubnetConnectionParams :=
  actions.map ConnectionParamsParser.parse

def allowAllSandboxTrafficName : Text :=
  "Allow all Sandbox Traffic".toList

/-- The password of the app's resource, decrypted where there is one. -/
def decryptedPassword (decryptPassword : Text → Except PyException Text)
    (attributes : List (Text × Text)) : Except PyException Text :=
  match truthy (gen2Attribute attributes "Password".toList) with
  | some password => decryptPassword password
  | none => .ok []

/-- `_set_base_deploy_azure_vm_model_params`, with CloudShell's decryption of
passwords as a parameter. -/
def setBaseDeployAzureVmModelParams (decryptPassword : Text → Except PyException Text)
    (deployAction : DeployAppParams) (networkActions : List ConnectToSubnetParams) :
    Except PyException DeployAzureVMResourceModel := do
  let dataAttribute := dataAttribute deployAction.deploymentAttributes
  let addPublicIp ← dataAttribute "Add Public IP".toList
  let _autoload ← dataAttribute "Autoload".toList
  let inboundPorts ← dataAttribute "Inbound Ports".toList
  let vmSize ← dataAttribute "VM Size".toList
  let diskSize ← dataAttribute "Disk Size".toList
  let publicIpType ← dataAttribute "Public IP Type".toList
  let extensionScriptFile ← dataAttribute "Extension Script file".toList
  let extensionScriptConfigurations ← dataAttribute "Extension Script Configurations".toList
  let extensionScriptTimeout ← dataAttribute "Extension Script Timeout".toList
  let extensionScriptTimeout ← int extensionScriptTimeout
  let diskType ← dataAttribute "Disk Type".toList
  let allowAllSandboxTraffic ← dataAttribute allowAllSandboxTrafficName
  let password ← decryptedPassword decryptPassword deployAction.appResourceAttributes
  return {
    appName := deployAction.appName
    vmSize := vmSize
    diskSize := diskSize
    diskType := diskType
    addPublicIp := convertToBoolean addPublicIp
    inboundPorts := inboundPorts
    publicIpType := publicIpType
    password := password
    extensionScriptFile := extensionScriptFile
    extensionScriptConfigurations := extensionScriptConfigurations
    extensionScriptTimeout := extensionScriptTimeout
    allowAllSandboxTraffic := allowAllSandboxTraffic
    networkConfigurations := parseDeployNetworkingConfigurations networkActions }

theorem bind_eq_ok {ε α β : Type} {outcome : Except ε α} {next : α → Except ε β} {b : β} :
    outcome >>= next = .ok b ↔ ∃ a, outcome = .ok a ∧ next a = .ok b := by
  cases outcome with
  | error e => simp [bind, Except.bind]
  | ok a => simp [bind, Except.bind]

variable {decryptPassword : Text → Except PyException Text} {deployAction : DeployAppParams}
  {networkActions : List ConnectToSubnetParams} {deploymentModel : DeployAzureVMResourceModel}

theorem dataAttribute_eq_ok {attributes : List (Text × Text)} {name value : Text} :
    dataAttribute attributes name = .ok value ↔ attributes.lookup name = some value := by
  unfold dataAttribute
  cases attributes.lookup name <;> simp

/-- The attribute about sandbox traffic reaches the deployment as it is. -/
theorem lookup_allowAllSandboxTraffic
    (built : setBaseDeployAzureVmModelParams decryptPassword deployAction networkActions =
      .ok deploymentModel) :
    deployAction.deploymentAttributes.lookup allowAllSandboxTrafficName =
      some deploymentModel.allowAllSandboxTraffic := by
  simp only [setBaseDeployAzureVmModelParams, bind_eq_ok] at built
  obtain ⟨_, _, _, _, _, _, _, _, _, _, _, _, _, _, _, _, _, _, _, _, _, _, value, read, _, _,
    made⟩ := built
  cases made
  exact dataAttribute_eq_ok.mp read

end AzureModelsParser

end AzureShell
