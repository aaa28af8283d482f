import AzureShell.Deploy.Model
import AzureShell.Nsg.Batch
import AzureShell.Nsg.Ports
import AzureShell.Nsg.Traffic

/-!
# The security group of a machine

`_create_vm_network_security_group` assembles the group of a machine in five
steps that share one helper.  The source address of a rule is the Internet tag
unless the step passes another one, and the step for the additional management
networks passes none.
-/

namespace AzureShell

open Prog SecurityGroupService

namespace DeployAzureVMOperation

/-- `_get_management_vnet_cidr`. -/
def getManagementVnetCidr (cloudProviderModel : AzureCloudProviderResourceModel) : Shell Text := do
  let virtualNetworks ← NetworkService.getVirtualNetworks cloudProviderModel.managementGroupName
  ofExcept <| NetworkService.firstAddressPrefix <| NetworkService.getVirtualNetworkByTag
    virtualNetworks NetworkService.networkTypeTagName NetworkService.mgmtNetworkTagValue

/-- The first address prefix of the management network, as Azure lists it. -/
def managementVnetCidrOf (azure : Azure)
    (cloudProviderModel : AzureCloudProviderResourceModel) : Except PyException Text :=
  NetworkService.firstAddressPrefix <| NetworkService.getVirtualNetworkByTag
    (azure.virtualNetworks cloudProviderModel.managementGroupName)
    NetworkService.networkTypeTagName NetworkService.mgmtNetworkTagValue

def additionalMgmtRuleName (mgmtNetwork : Text) : Text :=
  "Allow_".toList ++ Text.replace '/' '-' mgmtNetwork

def managementVnetRuleName : Text :=
  "Allow_Traffic_From_Management_Vnet_To_Any".toList

def loadBalancerRuleName : Text :=
  "Allow_Azure_Load_Balancer".toList

def denySandboxRuleName : Text :=
  "Deny_Sandbox_Traffic".toList

def azureLoadBalancer : Text :=
  "AzureLoadBalancer".toList

/-- Rule 1xxx: open traffic on the inbound ports. -/
def openInboundPorts (securityGroupName : Text) (lock : LockName)
    (deploymentModel : DeployAzureVMResourceModel) : Shell Unit :=
  when (deploymentModel.inboundPorts ≠ []) do
    let inboundRules ← ofExcept <|
      RulesAttributeParser.parsePortGroupAttribute deploymentModel.inboundPorts
    createNetworkSecurityGroupRules securityGroupName (inboundRules.map .ruleData) asterisk lock
      (some 1000)

/-- Rule 3xxx: open traffic from the additional management networks. -/
def openAdditionalMgmtNetworks (securityGroupName : Text) (lock : LockName)
    (cloudProviderModel : AzureCloudProviderResourceModel) : Shell Unit :=
  forEach cloudProviderModel.additionalMgmtNetworks fun mgmtNetwork =>
    createNetworkSecurityGroupRules securityGroupName
      [anyTrafficRule .allow (additionalMgmtRuleName mgmtNetwork)] asterisk lock (some 3000)

/-- Rule 4070: open traffic from the management network. -/
def openManagementVnet (securityGroupName : Text) (lock : LockName)
    (managementVnetCidr : Text) : Shell Unit :=
  createNetworkSecurityGroupRules securityGroupName [anyTrafficRule .allow managementVnetRuleName]
    asterisk lock (some 4070) managementVnetCidr

/-- Whether the app denies the traffic of its sandbox. -/
def deniesSandboxTraffic (deploymentModel : DeployAzureVMResourceModel) : Prop :=
  deploymentModel.allowAllSandboxTraffic = [] ∨
    deploymentModel.allowAllSandboxTraffic = "False".toList

instance (deploymentModel : DeployAzureVMResourceModel) :
    Decidable (deniesSandboxTraffic deploymentModel) :=
  inferInstanceAs (Decidable (_ ∨ _))

/-- Rules 4080 and 4090: deny sandbox traffic, with an exception for the load
balancer. -/
def denySandboxTraffic (securityGroupName : Text) (lock : LockName)
    (deploymentModel : DeployAzureVMResourceModel) : Shell Unit :=
  when (deniesSandboxTraffic deploymentModel) do
    createNetworkSecurityGroupRules securityGroupName [anyTrafficRule .allow loadBalancerRuleName]
      asterisk lock (some 4080) azureLoadBalancer
    createNetworkSecurityGroupRules securityGroupName [anyTrafficRule .deny denySandboxRuleName]
      asterisk lock (some 4090) "VirtualNetwork".toList

/-- `_create_vm_network_security_group`, which returns the group's name. -/
def createVmNetworkSecurityGroup (cloudProviderModel : AzureCloudProviderResourceModel)
    (data : DeployDataModel) (deploymentModel : DeployAzureVMResourceModel) : Shell Text := do
  let managementVnetCidr ← getManagementVnetCidr cloudProviderModel
  let _ ← NetworkService.getSandboxVirtualNetwork data.groupName
  let securityGroupName := vmNsgName data.vmName
  createNetworkSecurityGroup securityGroupName
  send (.getResourceLock securityGroupName)
  let vmNsgLock := LockName.resource securityGroupName
  openInboundPorts securityGroupName vmNsgLock deploymentModel
  openAdditionalMgmtNetworks securityGroupName vmNsgLock cloudProviderModel
  openManagementVnet securityGroupName vmNsgLock managementVnetCidr
  denySandboxTraffic securityGroupName vmNsgLock deploymentModel
  CommandCancellationService.checkIfCancelled
  pure securityGroupName

/-! ## The rules it leaves -/

/-- The rules for the additional management networks, on top of other rules. -/
def withAdditionalMgmtNetworks (mgmtNetworks : List Text) (rules : List SecurityRule) :
    List SecurityRule :=
  mgmtNetworks.foldl (fun rules mgmtNetwork =>
    addRules [anyTrafficRule .allow (additionalMgmtRuleName mgmtNetwork)] asterisk (some 3000)
      internet rules) rules

/-- The rules for the load balancer and against sandbox traffic, on top of other
rules. -/
def withoutSandboxTraffic : List SecurityRule → List SecurityRule :=
  addRules [anyTrafficRule .deny denySandboxRuleName] asterisk (some 4090)
      "VirtualNetwork".toList ∘
    addRules [anyTrafficRule .allow loadBalancerRuleName] asterisk (some 4080) azureLoadBalancer

/-- The rules of a new machine group. -/
def vmNsgRules (entries : List RuleData) (mgmtNetworks : List Text) (managementVnetCidr : Text)
    (deniesSandbox : Bool) : List SecurityRule :=
  let opened := addRules [anyTrafficRule .allow managementVnetRuleName] asterisk (some 4070)
    managementVnetCidr <|
    withAdditionalMgmtNetworks mgmtNetworks <|
    addRules (entries.map .ruleData) asterisk (some 1000) internet []
  if deniesSandbox then withoutSandboxTraffic opened else opened

variable {strict : Bool} {nsg : Text} {lock : LockName}
  {cloudProviderModel : AzureCloudProviderResourceModel}
  {deploymentModel : DeployAzureVMResourceModel} {data : DeployDataModel}
  {entries : List RuleData} {managementVnetCidr : Text}

theorem openInboundPorts_rewrites
    (parsed : RulesAttributeParser.parsePortGroupAttribute deploymentModel.inboundPorts =
      .ok entries) :
    Rewrites strict nsg (openInboundPorts nsg lock deploymentModel)
      (addRules (entries.map .ruleData) asterisk (some 1000) internet) := by
  unfold openInboundPorts Prog.when
  split
  · rw [parsed]
    exact createNetworkSecurityGroupRules_rewrites _ _ _ _ _
  · rename_i noPorts
    rw [not_not.mp noPorts] at parsed
    have noEntries : entries = [] := by
      cases parsed
      rfl
    subst noEntries
    exact Rewrites.pure

theorem denySandboxTraffic_rewrites :
    Rewrites strict nsg (denySandboxTraffic nsg lock deploymentModel)
      (if deniesSandboxTraffic deploymentModel then withoutSandboxTraffic else id) := by
  apply Rewrites.when
  unfold withoutSandboxTraffic
  exact (createNetworkSecurityGroupRules_rewrites _ _ _ _ _).bind
    (createNetworkSecurityGroupRules_rewrites _ _ _ _ _)

theorem openAdditionalMgmtNetworks_rewrites :
    Rewrites strict nsg (openAdditionalMgmtNetworks nsg lock cloudProviderModel)
      (withAdditionalMgmtNetworks cloudProviderModel.additionalMgmtNetworks) := by
  apply Rewrites.forEach
  intro mgmtNetwork _
  exact createNetworkSecurityGroupRules_rewrites _ _ _ _ _

theorem run_getManagementVnetCidr (azure : Azure) :
    run (Azure.handle strict) (getManagementVnetCidr cloudProviderModel) azure =
      (managementVnetCidrOf azure cloudProviderModel, azure) := by
  unfold getManagementVnetCidr
  rw [run_bind_of_ok (NetworkService.run_getVirtualNetworks strict _ azure)]
  rfl

/-- The group that is left, whether or not the final cancellation check raises. -/
theorem rulesOf_createVmNetworkSecurityGroup {azure : Azure}
    (cidrFound : managementVnetCidrOf azure cloudProviderModel = .ok managementVnetCidr)
    (parsed : RulesAttributeParser.parsePortGroupAttribute deploymentModel.inboundPorts =
      .ok entries) :
    (run (Azure.handle strict)
        (createVmNetworkSecurityGroup cloudProviderModel data deploymentModel) azure).2.rulesOf
        (vmNsgName data.vmName) =
      some (vmNsgRules entries cloudProviderModel.additionalMgmtNetworks managementVnetCidr
        (deniesSandboxTraffic deploymentModel)) := by
  unfold createVmNetworkSecurityGroup
  rw [run_bind, run_getManagementVnetCidr, cidrFound]
  simp only
  rw [run_bind_of_ok (NetworkService.run_getSandboxVirtualNetwork strict _ azure)]
  obtain ⟨created, createdRun, noRules, _⟩ :=
    run_createNetworkSecurityGroup strict (vmNsgName data.vmName) azure
  rw [run_bind_of_ok createdRun, run_bind_of_ok (run_getResourceLock strict _ created)]
  rcases (openInboundPorts_rewrites parsed).run_bind noRules _ with ⟨_, portsRun, ports, _⟩
  rw [portsRun]
  rcases openAdditionalMgmtNetworks_rewrites.run_bind ports _ with ⟨_, networksRun, networks, _⟩
  rw [networksRun]
  obtain ⟨_, vnetRun, vnet, _⟩ :=
    (createNetworkSecurityGroupRules_rewrites _ _ _ _ _).run_bind networks _
  rw [openManagementVnet, vnetRun]
  rcases denySandboxTraffic_rewrites.run_bind vnet _ with ⟨after, denyRun, denied, _⟩
  rw [denyRun, run_bind, CommandCancellationService.run_checkIfCancelled]
  have left : after.rulesOf (vmNsgName data.vmName) = some (vmNsgRules entries
      cloudProviderModel.additionalMgmtNetworks managementVnetCidr
      (deniesSandboxTraffic deploymentModel)) := by
    rw [denied, vmNsgRules]
    by_cases denies : deniesSandboxTraffic deploymentModel
    · rw [if_pos denies, if_pos (decide_eq_true denies)]
    · rw [if_neg denies, if_neg (by rw [decide_eq_true_eq]; exact denies)]
      rfl
  cases after.cancellations.headD false <;> exact left

/-! ## What the group admits from the Internet -/

/-- Whether an entry of the inbound ports covers a protocol and a port. -/
def entryCovers (entry : RuleData) (protocol : Text) (port : Nat) : Bool :=
  protocolCovers entry.protocol protocol && portRangeCovers entry.portRange port

/-- An allowing rule for the Internet covers only what some entry covers. -/
def AdmitsOnlyEntries (entries : List RuleData) (rules : List SecurityRule) : Prop :=
  ∀ rule ∈ rules, rule.access = .allow → rule.sourceAddressPrefix = internet →
    ∀ protocol port, rule.coversPort protocol port = true →
      ∃ entry ∈ entries, entryCovers entry protocol port = true

/-- The rule of an additional management network admits that network only. -/
def NetworkRulesScoped (mgmtNetworks : List Text) (rules : List SecurityRule) : Prop :=
  ∀ mgmtNetwork ∈ mgmtNetworks, ∀ rule ∈ rules,
    rule.name = additionalMgmtRuleName mgmtNetwork → rule.sourceAddressPrefix = mgmtNetwork

/-- The rule opens all protocols and ports to the Internet. -/
def OpenToInternet (rule : SecurityRule) : Prop :=
  rule.access = .allow ∧ rule.sourceAddressPrefix = internet ∧
    ∀ protocol port, rule.coversPort protocol port = true

section

variable (access : SecurityRuleAccess) (startFrom : Option Int) (sourceAddress : Text)
  {name : Text} {rules : List SecurityRule}

theorem openToInternet_anyTrafficRule (name : Text) (priority : Int) :
    OpenToInternet
      (prepareSecurityGroupRule (anyTrafficRule .allow name) asterisk priority internet) := by
  refine ⟨rfl, rfl, ?_⟩
  intro protocol port
  have anyPort : (anyTrafficRule .allow name).portRange = asterisk := rfl
  have anyProtocol : (anyTrafficRule .allow name).protocol = asterisk := rfl
  simp [SecurityRule.coversPort, prepareSecurityGroupRule, anyPort, anyProtocol]

/-- After a named rule is added, a name that was taken still is: by the old rule
or by the added one. -/
theorem named_addRules {wanted : Text} {P : SecurityRule → Prop} (nonempty : name ≠ [])
    (taken : ∃ rule ∈ rules, rule.name = wanted ∧ P rule) :
    ∃ rule ∈ addRules [anyTrafficRule access name] asterisk startFrom sourceAddress rules,
      rule.name = wanted ∧
        (P rule ∨ (wanted = name ∧ rule.sourceAddressPrefix = sourceAddress)) := by
  obtain ⟨priority, _, _, _, added⟩ :=
    addRules_singleton (anyTrafficRule access name) asterisk startFrom sourceAddress rules
  have addedName := anyTrafficRule_name access asterisk sourceAddress priority nonempty
  rcases taken with ⟨rule, member, named, property⟩
  rw [added]
  by_cases same : wanted = name
  · exact ⟨_, Store.mem_upsert_self _ _, addedName.trans same.symm, Or.inr ⟨same, rfl⟩⟩
  · refine ⟨rule, Store.mem_upsert_iff.mpr (Or.inr ⟨member, ?_⟩), named, Or.inl property⟩
    rw [addedName, named]
    exact same

/-- A named rule that is added is in the group. -/
theorem mem_addRules_anyTrafficRule (name : Text) (rules : List SecurityRule) :
    ∃ priority, prepareSecurityGroupRule (anyTrafficRule access name) asterisk priority
      sourceAddress ∈ addRules [anyTrafficRule access name] asterisk startFrom sourceAddress rules := by
  obtain ⟨priority, _, _, _, added⟩ :=
    addRules_singleton (anyTrafficRule access name) asterisk startFrom sourceAddress rules
  refine ⟨priority, ?_⟩
  rw [added]
  exact Store.mem_upsert_self _ _

theorem additionalMgmtRuleName_ne_nil (mgmtNetwork : Text) :
    additionalMgmtRuleName mgmtNetwork ≠ [] := by
  exact List.append_ne_nil_of_left_ne_nil (by decide) _

/-- The last additional management network leaves a rule open to the Internet. -/
theorem exists_openToInternet {mgmtNetworks : List Text} (nonempty : mgmtNetworks ≠ [])
    (rules : List SecurityRule) :
    ∃ mgmtNetwork ∈ mgmtNetworks, ∃ rule ∈ withAdditionalMgmtNetworks mgmtNetworks rules,
      rule.name = additionalMgmtRuleName mgmtNetwork ∧ OpenToInternet rule := by
  rcases List.eq_nil_or_concat mgmtNetworks with empty | ⟨earlier, last, equal⟩
  · contradiction
  · subst equal
    obtain ⟨priority, member⟩ := mem_addRules_anyTrafficRule .allow (some 3000) internet
      (additionalMgmtRuleName last) (withAdditionalMgmtNetworks earlier rules)
    refine ⟨last, by simp, _, ?_,
      anyTrafficRule_name .allow asterisk internet priority (additionalMgmtRuleName_ne_nil last),
      openToInternet_anyTrafficRule _ priority⟩
    simpa [withAdditionalMgmtNetworks] using member

end

section

variable {mgmtNetworks : List Text} {deniesSandbox : Bool}

/-- With additional management networks, the rule of the last one is open to the
Internet unless a later step took its name. -/
theorem exists_rule_of_mgmtNetworks (nonempty : mgmtNetworks ≠ []) :
    ∃ mgmtNetwork ∈ mgmtNetworks,
      ∃ rule ∈ vmNsgRules entries mgmtNetworks managementVnetCidr deniesSandbox,
        rule.name = additionalMgmtRuleName mgmtNetwork ∧
          (((OpenToInternet rule ∨
              additionalMgmtRuleName mgmtNetwork = managementVnetRuleName ∧
                rule.sourceAddressPrefix = managementVnetCidr) ∨
              additionalMgmtRuleName mgmtNetwork = loadBalancerRuleName ∧
                rule.sourceAddressPrefix = azureLoadBalancer) ∨
              additionalMgmtRuleName mgmtNetwork = denySandboxRuleName ∧
                rule.sourceAddressPrefix = "VirtualNetwork".toList) := by
  obtain ⟨mgmtNetwork, networkMem, open3000⟩ := exists_openToInternet nonempty
    (addRules (entries.map .ruleData) asterisk (some 1000) internet [])
  have vnetNamed : managementVnetRuleName ≠ [] := by decide
  have open4070 := named_addRules .allow (some 4070) managementVnetCidr vnetNamed open3000
  refine ⟨mgmtNetwork, networkMem, ?_⟩
  rw [vmNsgRules]
  split
  · rw [withoutSandboxTraffic, Function.comp_apply]
    have balancerNamed : loadBalancerRuleName ≠ [] := by decide
    have open4080 := named_addRules .allow (some 4080) azureLoadBalancer balancerNamed open4070
    exact named_addRules .deny (some 4090) "VirtualNetwork".toList (by decide) open4080
  · rcases open4070 with ⟨rule, member, named, kept⟩
    exact ⟨rule, member, named, Or.inl (Or.inl kept)⟩

/-- The source of a rule that no entry of the inbound ports asked for. -/
def HasInnerSource (managementVnetCidr : Text) (rule : SecurityRule) : Prop :=
  rule.sourceAddressPrefix = managementVnetCidr ∨
    rule.sourceAddressPrefix = azureLoadBalancer ∨
    rule.sourceAddressPrefix = "VirtualNetwork".toList

/-- A rule without additional management networks comes from an entry or has
another source than the Internet. -/
theorem mem_vmNsgRules_nil {rule : SecurityRule}
    (member : rule ∈ vmNsgRules entries [] managementVnetCidr deniesSandbox) :
    (∃ entry ∈ entries, ∃ priority,
      rule = prepareSecurityGroupRule (.ruleData entry) asterisk priority internet) ∨
      HasInnerSource managementVnetCidr rule := by
  have opened : ∀ rule ∈ addRules [anyTrafficRule .allow managementVnetRuleName] asterisk
        (some 4070) managementVnetCidr
        (addRules (entries.map .ruleData) asterisk (some 1000) internet []),
      (∃ entry ∈ entries, ∃ priority,
        rule = prepareSecurityGroupRule (.ruleData entry) asterisk priority internet) ∨
        HasInnerSource managementVnetCidr rule := by
    intro rule member
    rcases mem_addRules member with ⟨_, vnet, _, rfl⟩ | earlier
    · rw [List.mem_singleton.mp vnet]
      exact Or.inr (Or.inl rfl)
    · rcases mem_addRules earlier with ⟨_, requested, priority, rfl⟩ | none
      · rcases List.mem_map.mp requested with ⟨entry, entryMem, rfl⟩
        exact Or.inl ⟨entry, entryMem, priority, rfl⟩
      · contradiction
  rw [vmNsgRules] at member
  split at member
  · rw [withoutSandboxTraffic, Function.comp_apply] at member
    rcases mem_addRules member with ⟨_, deny, _, rfl⟩ | earlier
    · rw [List.mem_singleton.mp deny]
      exact Or.inr (Or.inr (Or.inr rfl))
    · rcases mem_addRules earlier with ⟨_, balancer, _, rfl⟩ | earlier
      · rw [List.mem_singleton.mp balancer]
        exact Or.inr (Or.inr (Or.inl rfl))
      · exact opened rule earlier
  · exact opened rule member

/-- An entry of the inbound ports attribute covers TCP or UDP only. -/
theorem not_entryCovers_icmp (inboundPorts : Text)
    (parsed : RulesAttributeParser.parsePortGroupAttribute inboundPorts = .ok entries)
    {entry : RuleData} (member : entry ∈ entries) (port : Nat) :
    entryCovers entry "icmp".toList port = false := by
  rcases RulesAttributeParser.protocol_of_parsePortGroupAttribute parsed member with isUdp | isTcp
  · have other : protocolCovers RulesAttributeParser.udp "icmp".toList = false := by decide
    rw [entryCovers, isUdp, other, Bool.false_and]
  · have other : protocolCovers RulesAttributeParser.tcp "icmp".toList = false := by decide
    rw [entryCovers, isTcp, other, Bool.false_and]

/-- A network whose rule name equals a name without dashes contains no slash,
so it equals the name's last part. -/
theorem eq_of_additionalMgmtRuleName_eq {mgmtNetwork suffix : Text} (noDash : '-' ∉ suffix)
    (named : additionalMgmtRuleName mgmtNetwork = "Allow_".toList ++ suffix) :
    mgmtNetwork = suffix := by
  have replaced : Text.replace '/' '-' mgmtNetwork = suffix := List.append_cancel_left named
  have noSlash : '/' ∉ mgmtNetwork := by
    intro slash
    apply noDash
    rw [← replaced, Text.mem_replace_iff]
    exact Or.inr ⟨rfl, slash⟩
  rw [← replaced, Text.replace_eq_self noSlash]

end

/-- The group admits from the Internet what the inbound ports open, and from
each additional management network that network only, exactly if there are no
additional management networks. -/
theorem vmNsg_admits_only_entries_iff {azure : Azure}
    (cidrFound : managementVnetCidrOf azure cloudProviderModel = .ok managementVnetCidr)
    (isCidr : '/' ∈ managementVnetCidr)
    (parsed : RulesAttributeParser.parsePortGroupAttribute deploymentModel.inboundPorts =
      .ok entries) :
    ∃ rules,
      (run (Azure.handle strict)
        (createVmNetworkSecurityGroup cloudProviderModel data deploymentModel) azure).2.rulesOf
        (vmNsgName data.vmName) = some rules ∧
      ((AdmitsOnlyEntries entries rules ∧
          NetworkRulesScoped cloudProviderModel.additionalMgmtNetworks rules) ↔
        cloudProviderModel.additionalMgmtNetworks = []) := by
  refine ⟨_, rulesOf_createVmNetworkSecurityGroup cidrFound parsed, ?_⟩
  constructor
  · rintro ⟨admits, scopedRules⟩
    by_contra nonempty
    obtain ⟨mgmtNetwork, networkMem, rule, ruleMem, named, taken⟩ :=
      exists_rule_of_mgmtNetworks nonempty
    have source := scopedRules mgmtNetwork networkMem rule ruleMem named
    rcases taken with ((isOpen | ⟨vnet, vnetSource⟩) | ⟨balancer, balancerSource⟩) | ⟨deny, _⟩
    · obtain ⟨entry, entryMem, entryCoversIcmp⟩ :=
        admits rule ruleMem isOpen.1 isOpen.2.1 "icmp".toList 0 (isOpen.2.2 _ _)
      rw [not_entryCovers_icmp _ parsed entryMem] at entryCoversIcmp
      contradiction
    · have equal := eq_of_additionalMgmtRuleName_eq (by decide) vnet
      rw [← vnetSource, source, equal] at isCidr
      exact absurd isCidr (by decide)
    · have equal := eq_of_additionalMgmtRuleName_eq (by decide) balancer
      rw [source, equal] at balancerSource
      exact absurd balancerSource (by decide)
    · have firstLetter : some 'A' = some 'D' := congrArg List.head? deny
      exact absurd firstLetter (by decide)
  · intro noNetworks
    rw [noNetworks]
    constructor
    · intro rule member _ fromInternet protocol port covered
      rcases mem_vmNsgRules_nil member with ⟨entry, entryMem, priority, rfl⟩ | otherSource
      · exact ⟨entry, entryMem, covered⟩
      · rw [HasInnerSource, fromInternet] at otherSource
        rcases otherSource with vnet | balancer | virtualNetwork
        · rw [← vnet] at isCidr
          exact absurd isCidr (by decide)
        · exact absurd balancer (by decide)
        · exact absurd virtualNetwork (by decide)
    · intro mgmtNetwork member
      contradiction

/-! A management network, and an app that opens port 80 of a machine. -/

def exampleNetworks : Azure :=
  { Azure.blank with
    virtualNetworks := fun _ =>
      [{ name := "vnet-mgmt".toList, tags := [("network_type".toList, "mgmt".toList)],
         addressPrefixes := ["10.1.0.0/16".toList], subnets := [] }] }

def exampleProvider (additionalMgmtNetworks : List Text) : AzureCloudProviderResourceModel where
  vmSize := "Standard_A1".toList
  managementGroupName := "mgmt".toList
  additionalMgmtNetworks := additionalMgmtNetworks
  privateIpAllocationMethod := "Azure Allocation".toList

def exampleApp : DeployAzureVMResourceModel where
  appName := "web".toList
  vmSize := []
  diskSize := []
  diskType := "HDD".toList
  addPublicIp := false
  inboundPorts := "80".toList
  publicIpType := "Dynamic".toList
  password := []
  extensionScriptFile := []
  extensionScriptConfigurations := []
  extensionScriptTimeout := 0
  allowAllSandboxTraffic := "True".toList
  networkConfigurations := []

def exampleData : DeployDataModel where
  reservationId := "b1f7e2d4".toList
  groupName := "b1f7e2d4".toList
  vmName := "web-0a1b2c3d".toList
  vmSize := "Standard_A1".toList
  nicRequests := []

def exampleEntry : RuleData :=
  { protocol := "tcp".toList, port := some "80".toList }

theorem vmNsg_admits_only_entries_example :
    ∃ rules,
      (run (Azure.handle true)
        (createVmNetworkSecurityGroup (exampleProvider []) exampleData exampleApp)
        exampleNetworks).2.rulesOf (vmNsgName exampleData.vmName) = some rules ∧
      ((AdmitsOnlyEntries [exampleEntry] rules ∧ NetworkRulesScoped [] rules) ↔
        ([] : List Text) = []) := by
  have cidrFound : managementVnetCidrOf exampleNetworks (exampleProvider []) =
      .ok "10.1.0.0/16".toList := by decide
  have parsed : RulesAttributeParser.parsePortGroupAttribute exampleApp.inboundPorts =
      .ok [exampleEntry] := by decide
  exact vmNsg_admits_only_entries_iff cidrFound (by decide) parsed

/-- With the additional network 10.2.0.0/16 the group opens UDP port 53, and
every other port, to the Internet. -/
theorem vmNsg_admits_more_than_entries :
    RulesAttributeParser.parsePortGroupAttribute exampleApp.inboundPorts = .ok [exampleEntry] ∧
      ∃ rules,
        (run (Azure.handle true)
          (createVmNetworkSecurityGroup (exampleProvider ["10.2.0.0/16".toList]) exampleData
            exampleApp) exampleNetworks).2.rulesOf (vmNsgName exampleData.vmName) = some rules ∧
        ¬ AdmitsOnlyEntries [exampleEntry] rules := by
  let mgmtNetwork := "10.2.0.0/16".toList
  have cidrFound : managementVnetCidrOf exampleNetworks (exampleProvider [mgmtNetwork]) =
      .ok "10.1.0.0/16".toList := by decide
  have parsed : RulesAttributeParser.parsePortGroupAttribute exampleApp.inboundPorts =
      .ok [exampleEntry] := by decide
  refine ⟨parsed, _, rulesOf_createVmNetworkSecurityGroup cidrFound parsed, ?_⟩
  intro admits
  let rule := prepareSecurityGroupRule
    (anyTrafficRule .allow (additionalMgmtRuleName mgmtNetwork)) asterisk 3000 internet
  obtain ⟨entry, member, covered⟩ :=
    admits rule (by decide) rfl rfl "udp".toList 53 (by decide)
  rw [List.mem_singleton.mp member] at covered
  exact absurd covered (by decide)

end DeployAzureVMOperation

end AzureShell
