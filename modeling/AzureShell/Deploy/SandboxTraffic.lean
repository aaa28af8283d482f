import AzureShell.Deploy.RequestParser
import AzureShell.Deploy.VmNsgOrder

/-!
# Two readings of a Boolean attribute

`convert_to_boolean` reads the Boolean attributes of a request: `1` and `true`
in any letter case are true, everything else is false.  The attribute about
sandbox traffic is read by the deployment itself, for which only the empty text
and `False` are false.
-/

namespace AzureShell

open Prog SecurityGroupService AzureModelsParser

namespace DeployAzureVMOperation

/-- The texts that both readings understand alike: the empty text, `False`, and
every text that is read as true. -/
def ReadAlike (value : Text) : Prop :=
  value = [] ∨ value = "False".toList ∨ convertToBoolean value = true

/-- The rules hold one against sandbox traffic. -/
def HoldsDenyRule (rules : List SecurityRule) : Prop :=
  ∃ rule ∈ rules, rule.name = denySandboxRuleName

variable {strict : Bool} {cloudProviderModel : AzureCloudProviderResourceModel}
  {deploymentModel : DeployAzureVMResourceModel} {data : DeployDataModel}
  {entries : List RuleData} {managementVnetCidr : Text} {mgmtNetworks : List Text}

theorem unused_withAdditionalMgmtNetworks {rules : List SecurityRule}
    (unused : Unused denySandboxRuleName rules) :
    Unused denySandboxRuleName (withAdditionalMgmtNetworks mgmtNetworks rules) := by
  induction mgmtNetworks generalizing rules with
  | nil => exact unused
  | cons mgmtNetwork mgmtNetworks ih =>
      apply ih
      exact unused.addRules (additionalMgmtRuleName_ne_nil mgmtNetwork)
        (additionalMgmtRuleName_ne_denySandboxRuleName mgmtNetwork) .allow (some 3000) internet

/-- The rule is in the group just when the deployment denies sandbox traffic. -/
theorem holdsDenyRule_vmNsgRules_iff {portsAttribute : Text}
    (parsed : RulesAttributeParser.parsePortGroupAttribute portsAttribute = .ok entries)
    (denies : Bool) :
    HoldsDenyRule (vmNsgRules entries mgmtNetworks managementVnetCidr denies) ↔
      denies = true := by
  have networks : Unused denySandboxRuleName (withAdditionalMgmtNetworks mgmtNetworks
      (addRules (entries.map .ruleData) asterisk (some 1000) internet [])) :=
    unused_withAdditionalMgmtNetworks (inProgress_inboundPorts parsed).denySandboxUnused
  have opened := networks.addRules (by decide : managementVnetRuleName ≠ []) (by decide)
    .allow (some 4070) managementVnetCidr
  cases denies with
  | false =>
      rw [vmNsgRules, if_neg Bool.false_ne_true]
      simp only [Bool.false_eq_true, iff_false]
      rintro ⟨rule, member, named⟩
      exact opened rule member named
  | true =>
      rw [vmNsgRules, if_pos rfl, withoutSandboxTraffic, Function.comp_apply]
      simp only [iff_true]
      obtain ⟨priority, member⟩ := mem_addRules_anyTrafficRule .deny (some 4090)
        "VirtualNetwork".toList denySandboxRuleName _
      exact ⟨_, member, anyTrafficRule_name .deny asterisk _ priority (by decide)⟩

/-- The two readings agree on a text just when it is read alike. -/
theorem deniesSandboxTraffic_iff_convertToBoolean (deploymentModel : DeployAzureVMResourceModel) :
    (deniesSandboxTraffic deploymentModel ↔
        convertToBoolean deploymentModel.allowAllSandboxTraffic = false) ↔
      ReadAlike deploymentModel.allowAllSandboxTraffic := by
  have emptyFalse : convertToBoolean [] = false := by decide
  have falseFalse : convertToBoolean "False".toList = false := by decide
  unfold deniesSandboxTraffic ReadAlike
  generalize deploymentModel.allowAllSandboxTraffic = value
  cases converted : convertToBoolean value with
  | true =>
      have notEmpty : value ≠ [] := by
        rintro rfl
        rw [emptyFalse] at converted
        contradiction
      have notFalse : value ≠ "False".toList := by
        rintro rfl
        rw [falseFalse] at converted
        contradiction
      simp only [notEmpty, notFalse, or_self, Bool.true_eq_false, or_true]
  | false => simp

/-- A deployment built from a request creates the rule against sandbox traffic
when `convert_to_boolean` reads its attribute as false, and only then, exactly
for the texts that are read alike. -/
theorem createsDenyRule_iff_convertToBoolean {azure : Azure}
    {decryptPassword : Text → Except PyException Text} {deployAction : DeployAppParams}
    {networkActions : List ConnectToSubnetParams} {value : Text}
    (requested : deployAction.deploymentAttributes.lookup allowAllSandboxTrafficName = some value)
    (built : setBaseDeployAzureVmModelParams decryptPassword deployAction networkActions =
      .ok deploymentModel)
    (cidrFound : managementVnetCidrOf azure cloudProviderModel = .ok managementVnetCidr)
    (parsed : RulesAttributeParser.parsePortGroupAttribute deploymentModel.inboundPorts =
      .ok entries) :
    ∃ rules,
      (run (Azure.handle strict)
          (createVmNetworkSecurityGroup cloudProviderModel data deploymentModel) azure).2.rulesOf
          (vmNsgName data.vmName) = some rules ∧
        ((HoldsDenyRule rules ↔ convertToBoolean value = false) ↔ ReadAlike value) := by
  have copied : value = deploymentModel.allowAllSandboxTraffic :=
    Option.some.inj (requested.symm.trans (lookup_allowAllSandboxTraffic built))
  refine ⟨_, rulesOf_createVmNetworkSecurityGroup cidrFound parsed, ?_⟩
  rw [holdsDenyRule_vmNsgRules_iff parsed, decide_eq_true_iff, copied]
  exact deniesSandboxTraffic_iff_convertToBoolean deploymentModel

/-! An app that opens port 80, with a value of the attribute. -/

def exampleAttributes (value : Text) : DeployAppParams where
  appName := "web".toList
  deploymentAttributes := [("Add Public IP".toList, "False".toList),
    ("Autoload".toList, "True".toList), ("Inbound Ports".toList, "80".toList),
    ("VM Size".toList, []), ("Disk Size".toList, []), ("Public IP Type".toList, "Dynamic".toList),
    ("Extension Script file".toList, []), ("Extension Script Configurations".toList, []),
    ("Extension Script Timeout".toList, "0".toList), ("Disk Type".toList, "HDD".toList),
    (allowAllSandboxTrafficName, value)]
  appResourceAttributes := []

theorem built_exampleAttributes (value : Text) :
    setBaseDeployAzureVmModelParams .ok (exampleAttributes value) [] =
      .ok { exampleApp with allowAllSandboxTraffic := value } := by
  rfl

theorem createsDenyRule_iff_convertToBoolean_example :
    ∃ rules,
      (run (Azure.handle true) (createVmNetworkSecurityGroup (exampleProvider []) exampleData
          { exampleApp with allowAllSandboxTraffic := "False".toList })
        exampleNetworks).2.rulesOf (vmNsgName exampleData.vmName) = some rules ∧
      ((HoldsDenyRule rules ↔ convertToBoolean "False".toList = false) ↔
        ReadAlike "False".toList) := by
  have cidrFound : managementVnetCidrOf exampleNetworks (exampleProvider []) =
      .ok "10.1.0.0/16".toList := by decide
  have parsed : RulesAttributeParser.parsePortGroupAttribute exampleApp.inboundPorts =
      .ok [exampleEntry] := by decide
  exact createsDenyRule_iff_convertToBoolean (by decide) (built_exampleAttributes _) cidrFound
    parsed

/-- The attribute value `false` leaves the machine open to the whole sandbox. -/
theorem lowercase_false_opens_sandbox :
    setBaseDeployAzureVmModelParams .ok (exampleAttributes "false".toList) [] =
        .ok { exampleApp with allowAllSandboxTraffic := "false".toList } ∧
      convertToBoolean "false".toList = false ∧
      ∃ rules,
        (run (Azure.handle true) (createVmNetworkSecurityGroup (exampleProvider []) exampleData
            { exampleApp with allowAllSandboxTraffic := "false".toList })
          exampleNetworks).2.rulesOf (vmNsgName exampleData.vmName) = some rules ∧
        ¬ HoldsDenyRule rules := by
  have cidrFound : managementVnetCidrOf exampleNetworks (exampleProvider []) =
      .ok "10.1.0.0/16".toList := by decide
  have parsed : RulesAttributeParser.parsePortGroupAttribute exampleApp.inboundPorts =
      .ok [exampleEntry] := by decide
  refine ⟨rfl, by decide, _, rulesOf_createVmNetworkSecurityGroup cidrFound parsed, ?_⟩
  rw [holdsDenyRule_vmNsgRules_iff parsed]
  decide

end DeployAzureVMOperation

end AzureShell
