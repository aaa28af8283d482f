import AzureShell.Deploy.VmNsg
import AzureShell.Nsg.Order

/-!
# The order of the rules of a machine's security group

The rules of a machine's group are created by separate calls that start at
1000, 3000, 4070, 4080 and 4090, but every call takes the first free priority
from its start on.  A long list of inbound ports or of networks runs into the
later bands, and a network that is listed twice moves its rule and opens a hole.
There is never more than one hole, and the load balancer's rule closes it, so
the rule against sandbox traffic comes last.
-/

namespace AzureShell

open Prog SecurityGroupService Alloc

namespace DeployAzureVMOperation

/-- The characters of an address block: hexadecimal digits, `.`, `:` and `/`. -/
def cidrCharacters : Text :=
  "0123456789abcdefABCDEF.:/".toList

/-- A text made of the characters of an address block. -/
def IsCidrText (mgmtNetwork : Text) : Prop :=
  ∀ c ∈ mgmtNetwork, c ∈ cidrCharacters

/-- The rule of an address block is not named like the load balancer's. -/
theorem additionalMgmtRuleName_ne_loadBalancerRuleName {mgmtNetwork : Text}
    (isCidr : IsCidrText mgmtNetwork) :
    additionalMgmtRuleName mgmtNetwork ≠ loadBalancerRuleName := by
  intro same
  have rest : Text.replace '/' '-' mgmtNetwork = "Azure_Load_Balancer".toList :=
    (List.append_right_inj "Allow_".toList).mp same
  have underscore : '_' ∈ Text.replace '/' '-' mgmtNetwork := by
    rw [rest]
    decide
  rcases Text.mem_replace_iff.mp underscore with ⟨member, _⟩ | ⟨isDash, _⟩
  · exact absurd (isCidr '_' member) (by decide)
  · contradiction

theorem additionalMgmtRuleName_ne_denySandboxRuleName (mgmtNetwork : Text) :
    additionalMgmtRuleName mgmtNetwork ≠ denySandboxRuleName := by
  intro same
  exact absurd (List.head_eq_of_cons_eq same) (by decide)

/-- No rule has the name. -/
def Unused (name : Text) (rules : List SecurityRule) : Prop :=
  ∀ rule ∈ rules, rule.name ≠ name

theorem Unused.addRules {name other : Text} {rules : List SecurityRule}
    (unused : Unused name rules) (nonempty : other ≠ []) (different : other ≠ name)
    (access : SecurityRuleAccess) (startFrom : Option Int) (sourceAddress : Text) :
    Unused name
      (addRules [anyTrafficRule access other] asterisk startFrom sourceAddress rules) := by
  intro rule member
  rcases mem_addRules member with ⟨ruleData, requested, priority, rfl⟩ | old
  · rw [List.mem_singleton.mp requested, anyTrafficRule_name _ _ _ _ nonempty]
    exact different
  · exact unused rule old

/-- The rules of the group before the load balancer's: at most one hole from the
start on, and the last two names still unused. -/
structure InProgress (start : Int) (rules : List SecurityRule) : Prop where
  slotted : Slotted rules
  oneHole : AtMostOneHole IsSlot start (PriorityUsed rules)
  loadBalancerUnused : Unused loadBalancerRuleName rules
  denySandboxUnused : Unused denySandboxRuleName rules

theorem InProgress.later {start next : Int} {rules : List SecurityRule}
    (inProgress : InProgress start rules) (le : start ≤ next) : InProgress next rules :=
  { inProgress with oneHole := inProgress.oneHole.later le }

/-- One more rule for all traffic, under another name than the last two. -/
theorem InProgress.addRules {start : Int} {rules : List SecurityRule}
    (inProgress : InProgress start rules) (start_isSlot : IsSlot start) {name : Text}
    (nonempty : name ≠ []) (notLoadBalancer : name ≠ loadBalancerRuleName)
    (notDenySandbox : name ≠ denySandboxRuleName) (sourceAddress : Text) :
    InProgress start
      (addRules [anyTrafficRule .allow name] asterisk (some start) sourceAddress rules) := by
  obtain ⟨_, _, slotted, oneHole, _⟩ := addRules_singleton_holes (anyTrafficRule .allow name)
    asterisk start_isSlot sourceAddress inProgress.slotted inProgress.oneHole
  exact ⟨slotted, oneHole,
    inProgress.loadBalancerUnused.addRules nonempty notLoadBalancer _ _ _,
    inProgress.denySandboxUnused.addRules nonempty notDenySandbox _ _ _⟩

/-- The inbound ports leave no hole. -/
theorem inProgress_inboundPorts {portsAttribute : Text} {entries : List RuleData}
    (parsed : RulesAttributeParser.parsePortGroupAttribute portsAttribute = .ok entries) :
    InProgress 3000 (addRules (entries.map .ruleData) asterisk (some 1000) internet []) := by
  have unnamed : ∀ ruleData ∈ entries.map InboundRule.ruleData, truthy ruleData.name = none := by
    intro ruleData member
    rcases List.mem_map.mp member with ⟨entry, entryMem, rfl⟩
    rw [InboundRule.name, RulesAttributeParser.name_of_parsePortGroupAttribute parsed entryMem]
    rfl
  obtain ⟨slotted, noHole⟩ := noHole_addRules_nil asterisk
    (⟨200, rfl⟩ : IsSlot 1000) internet unnamed
  have generated : ∀ rule ∈ addRules (entries.map InboundRule.ruleData) asterisk (some 1000)
      internet [], ∃ priority, rule.name = ruleName priority := by
    intro rule member
    rcases mem_addRules member with ⟨ruleData, requested, priority, rfl⟩ | old
    · exact ⟨priority, by simp [prepareSecurityGroupRule, nameAt, unnamed ruleData requested]⟩
    · simp at old
  have unused : ∀ name : Text, name.head? ≠ some 'r' →
      Unused name (addRules (entries.map InboundRule.ruleData) asterisk (some 1000) internet []) := by
    intro name other rule member same
    rcases generated rule member with ⟨priority, isGenerated⟩
    rw [← same, isGenerated] at other
    exact other rfl
  exact ⟨slotted, noHole.atMostOneHole.later (by decide), unused _ (by decide),
    unused _ (by decide)⟩

/-- The additional management networks, listed twice or not, keep the
invariant. -/
theorem InProgress.withAdditionalMgmtNetworks {rules : List SecurityRule}
    (inProgress : InProgress 3000 rules) {mgmtNetworks : List Text}
    (areCidrs : ∀ mgmtNetwork ∈ mgmtNetworks, IsCidrText mgmtNetwork) :
    InProgress 3000 (withAdditionalMgmtNetworks mgmtNetworks rules) := by
  induction mgmtNetworks generalizing rules with
  | nil => exact inProgress
  | cons mgmtNetwork mgmtNetworks ih =>
      have isCidr := areCidrs mgmtNetwork List.mem_cons_self
      have added := inProgress.addRules ⟨600, rfl⟩ (additionalMgmtRuleName_ne_nil mgmtNetwork)
        (additionalMgmtRuleName_ne_loadBalancerRuleName isCidr)
        (additionalMgmtRuleName_ne_denySandboxRuleName mgmtNetwork) internet
      exact ih added fun other member => areCidrs other (List.mem_cons_of_mem mgmtNetwork member)

/-- The rule against sandbox traffic comes after all others, and among these
are the load balancer's and the management network's. -/
structure DeniesLast (others : List SecurityRule) (deny : SecurityRule) : Prop where
  name : deny.name = denySandboxRuleName
  access : deny.access = .deny
  last : ∀ other ∈ others, other.priority < deny.priority
  loadBalancer : ∃ rule ∈ others, rule.name = loadBalancerRuleName ∧ rule.access = .allow
  managementVnet : ∃ rule ∈ others, rule.name = managementVnetRuleName ∧ rule.access = .allow

/-- The load balancer's rule closes the hole, and the rule against sandbox
traffic gets a priority above all others. -/
theorem InProgress.withoutSandboxTraffic {rules : List SecurityRule}
    (inProgress : InProgress 4070 rules)
    (managed : ∃ rule ∈ rules, rule.name = managementVnetRuleName ∧ rule.access = .allow) :
    ∃ others deny, withoutSandboxTraffic rules = others ++ [deny] ∧ DeniesLast others deny := by
  obtain ⟨balancerPriority, balanced, slotted, _, closed⟩ := addRules_singleton_holes
    (anyTrafficRule .allow loadBalancerRuleName) asterisk (⟨816, rfl⟩ : IsSlot 4080)
    azureLoadBalancer inProgress.slotted (inProgress.oneHole.later (by decide))
  have noHole := closed inProgress.loadBalancerUnused
  have denyUnused := inProgress.denySandboxUnused.addRules
    (by decide : loadBalancerRuleName ≠ []) (by decide) .allow (some 4080) azureLoadBalancer
  let balancer := prepareSecurityGroupRule (anyTrafficRule .allow loadBalancerRuleName) asterisk
    balancerPriority azureLoadBalancer
  have balancerUnused : ∀ rule ∈ rules, rule.name ≠ balancer.name := inProgress.loadBalancerUnused
  rw [Store.upsert_of_absent balancerUnused] at balanced
  obtain ⟨denyPriority, isLeast, denied⟩ := addRules_singleton_isLeastFree
    (anyTrafficRule .deny denySandboxRuleName) asterisk (⟨818, rfl⟩ : IsSlot 4090)
    "VirtualNetwork".toList slotted
  let deny := prepareSecurityGroupRule (anyTrafficRule .deny denySandboxRuleName) asterisk
    denyPriority "VirtualNetwork".toList
  have absent : ∀ rule ∈ (_ : List SecurityRule), rule.name ≠ deny.name := denyUnused
  rw [Store.upsert_of_absent absent] at denied
  refine ⟨rules ++ [balancer], deny, ?_, rfl, rfl, ?_, ?_, ?_⟩
  · rw [DeployAzureVMOperation.withoutSandboxTraffic, Function.comp_apply, denied, balanced]
  · intro other member
    apply (noHole.later (by decide)).lt_of_isLeastFree isLeast
    rw [balanced]
    exact ⟨other, member, rfl⟩
  · exact ⟨balancer, List.mem_append_right rules (List.mem_singleton_self balancer), rfl, rfl⟩
  · rcases managed with ⟨rule, member, named⟩
    exact ⟨rule, List.mem_append_left [balancer] member, named⟩

variable {strict : Bool} {cloudProviderModel : AzureCloudProviderResourceModel}
  {deploymentModel : DeployAzureVMResourceModel} {data : DeployDataModel}
  {entries : List RuleData} {managementVnetCidr : Text}

/-- In the group of a machine whose app denies sandbox traffic, the rule against
it has the greatest priority number, however many ports and networks are opened
before it. -/
theorem createVmNetworkSecurityGroup_deniesLast {azure : Azure}
    (cidrFound : managementVnetCidrOf azure cloudProviderModel = .ok managementVnetCidr)
    (parsed : RulesAttributeParser.parsePortGroupAttribute deploymentModel.inboundPorts =
      .ok entries)
    (areCidrs : ∀ mgmtNetwork ∈ cloudProviderModel.additionalMgmtNetworks,
      IsCidrText mgmtNetwork)
    (denies : deniesSandboxTraffic deploymentModel) :
    ∃ others deny,
      (run (Azure.handle strict)
          (createVmNetworkSecurityGroup cloudProviderModel data deploymentModel) azure).2.rulesOf
          (vmNsgName data.vmName) = some (others ++ [deny]) ∧
        DeniesLast others deny := by
  rw [rulesOf_createVmNetworkSecurityGroup cidrFound parsed, decide_eq_true denies, vmNsgRules,
    if_pos rfl]
  have networks := (inProgress_inboundPorts parsed).withAdditionalMgmtNetworks areCidrs
  have managed := (networks.later (by decide)).addRules (⟨814, rfl⟩ : IsSlot 4070)
    (by decide : managementVnetRuleName ≠ []) (by decide) (by decide) managementVnetCidr
  obtain ⟨priority, member⟩ := mem_addRules_anyTrafficRule .allow (some 4070) managementVnetCidr
    managementVnetRuleName (withAdditionalMgmtNetworks cloudProviderModel.additionalMgmtNetworks
      (addRules (entries.map .ruleData) asterisk (some 1000) internet []))
  rcases managed.withoutSandboxTraffic ⟨_, member, rfl, rfl⟩ with ⟨others, deny, split, last⟩
  exact ⟨others, deny, congrArg some split, last⟩

theorem createVmNetworkSecurityGroup_deniesLast_example :
    ∃ others deny,
      (run (Azure.handle true)
          (createVmNetworkSecurityGroup
            (exampleProvider ["10.2.0.0/16".toList, "10.2.0.0/16".toList]) exampleData
            { exampleApp with allowAllSandboxTraffic := "False".toList })
          exampleNetworks).2.rulesOf (vmNsgName exampleData.vmName) = some (others ++ [deny]) ∧
        DeniesLast others deny := by
  have cidrFound : managementVnetCidrOf exampleNetworks
      (exampleProvider ["10.2.0.0/16".toList, "10.2.0.0/16".toList]) =
        .ok "10.1.0.0/16".toList := by decide
  have parsed : RulesAttributeParser.parsePortGroupAttribute exampleApp.inboundPorts =
      .ok [exampleEntry] := by decide
  have areCidrs : ∀ mgmtNetwork ∈ ["10.2.0.0/16".toList, "10.2.0.0/16".toList],
      mgmtNetwork ⊆ cidrCharacters := by decide
  exact createVmNetworkSecurityGroup_deniesLast cidrFound parsed areCidrs (Or.inr rfl)

end DeployAzureVMOperation

end AzureShell
