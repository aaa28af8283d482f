import AzureShell.Deploy.Model
import AzureShell.Naming.NameProvider
import AzureShell.Nsg.Batch
import AzureShell.Nsg.Effect
import AzureShell.Nsg.Footprint
import AzureShell.Nsg.Traffic

/-!
# Sandbox isolation

The subnets of a sandbox share one security group.  Its preparation writes
isolation rules in four bands; deployments then open inbound ports in it and
deletions take such rules away.

Isolation rests on three facts.  The rule against other sandboxes is allocated
last and from the highest band, so it comes after every isolation rule even
where the bands spill into each other.  The names of isolation rules contain no
colon, so no inbound rule replaces them.  And no machine name occurs in them, so
no deletion takes them away.
-/

namespace AzureShell

open Prog Net SecurityGroupService

structure PrepareSubnet where
  cidr : Text
  isPublic : Bool
deriving DecidableEq, Repr

namespace PrepareSandboxInfraOperation

def allowSandboxRuleName (subnetCidr : Text) : Text :=
  "Allow_Sandbox_Traffic_To_".toList ++ Text.replace '/' '-' subnetCidr

def denyInternetRuleName (subnetCidr : Text) : Text :=
  "Deny_Internet_Traffic_To_Private_Subnet_".toList ++ Text.replace '/' '-' subnetCidr

def allowNetworkRuleName (network sandboxCidr : Text) : Text :=
  "Allow_".toList ++
    (Text.replace '/' '-' network ++ ("_To_".toList ++ Text.replace '/' '-' sandboxCidr))

def denyOtherSandboxesRuleName : Text :=
  "Deny_Traffic_From_Other_Sandboxes_To_Sandbox_CIDR".toList

/-- `allow_all_rule`. -/
def allowAllRule (securityRuleName : Text) : InboundRule :=
  anyTrafficRule .allow securityRuleName

/-- `deny_all_rule`. -/
def denyAllRule (securityRuleName : Text) : InboundRule :=
  anyTrafficRule .deny securityRuleName

/-- The part of `_create_subnet_nsg_rules` after the address prefixes are read. -/
def createIsolationRules (managementVnetCidr sandboxVnetCidr sandboxCidr securityGroupName : Text)
    (additionalMgmtNetworks : List Text) (subnetActions : List PrepareSubnet) : Shell Unit := do
  forEach subnetActions fun s =>
    createNetworkSecurityGroupRules securityGroupName [allowAllRule (allowSandboxRuleName s.cidr)]
      s.cidr .subnetLocker (some 2000) sandboxCidr
  forEach (subnetActions.filter fun s => !s.isPublic) fun p =>
    createNetworkSecurityGroupRules securityGroupName [denyAllRule (denyInternetRuleName p.cidr)]
      p.cidr .subnetLocker (some 2000) internet
  forEach additionalMgmtNetworks fun a =>
    createNetworkSecurityGroupRules securityGroupName
      [allowAllRule (allowNetworkRuleName a sandboxCidr)] sandboxCidr .subnetLocker (some 4000) a
  createNetworkSecurityGroupRules securityGroupName
    [allowAllRule (allowNetworkRuleName managementVnetCidr sandboxCidr)] sandboxCidr
    .subnetLocker (some 4080) managementVnetCidr
  createNetworkSecurityGroupRules securityGroupName [denyAllRule denyOtherSandboxesRuleName]
    sandboxCidr .subnetLocker (some 4090) sandboxVnetCidr

/-- `_create_subnet_nsg_rules`. -/
def createSubnetNsgRules (managementVnet sandboxVnet : Option VirtualNetwork)
    (sandboxCidr securityGroupName : Text) (additionalMgmtNetworks : List Text)
    (subnetActions : List PrepareSubnet) : Shell Unit := do
  let managementVnetCidr ← ofExcept (NetworkService.firstAddressPrefix managementVnet)
  let sandboxVnetCidr ← ofExcept (NetworkService.firstAddressPrefix sandboxVnet)
  createIsolationRules managementVnetCidr sandboxVnetCidr sandboxCidr securityGroupName
    additionalMgmtNetworks subnetActions

/-! ## Isolation rules -/

/-- A rule of the preparation, with the band its priority is allocated from. -/
structure IsolationRule where
  access : SecurityRuleAccess
  name : Text
  destination : Text
  startFrom : Int
  source : Text
deriving DecidableEq, Repr

namespace IsolationRule

/-- The rules of the group after the isolation rule is created. -/
def add (rule : IsolationRule) : List SecurityRule → List SecurityRule :=
  addRules [anyTrafficRule rule.access rule.name] rule.destination (some rule.startFrom)
    rule.source

/-- The security rule made of an isolation rule. -/
def atPriority (rule : IsolationRule) (priority : Int) : SecurityRule :=
  prepareSecurityGroupRule (anyTrafficRule rule.access rule.name) rule.destination priority
    rule.source

end IsolationRule

def allowSandbox (sandboxCidr subnetCidr : Text) : IsolationRule :=
  ⟨.allow, allowSandboxRuleName subnetCidr, subnetCidr, 2000, sandboxCidr⟩

def denyInternet (subnetCidr : Text) : IsolationRule :=
  ⟨.deny, denyInternetRuleName subnetCidr, subnetCidr, 2000, internet⟩

def allowNetwork (startFrom : Int) (sandboxCidr network : Text) : IsolationRule :=
  ⟨.allow, allowNetworkRuleName network sandboxCidr, sandboxCidr, startFrom, network⟩

def denyOtherSandboxes (sandboxVnetCidr sandboxCidr : Text) : IsolationRule :=
  ⟨.deny, denyOtherSandboxesRuleName, sandboxCidr, 4090, sandboxVnetCidr⟩

/-- The rules of the preparation up to the last one, in order. -/
def openingRules (managementVnetCidr sandboxCidr : Text) (additionalMgmtNetworks : List Text)
    (subnetActions : List PrepareSubnet) : List IsolationRule :=
  subnetActions.map (fun s => allowSandbox sandboxCidr s.cidr) ++
    ((subnetActions.filter fun s => !s.isPublic).map (fun p => denyInternet p.cidr) ++
      (additionalMgmtNetworks.map (allowNetwork 4000 sandboxCidr) ++
        [allowNetwork 4080 sandboxCidr managementVnetCidr]))

/-- Create isolation rules in order. -/
def addAll (isolationRules : List IsolationRule) (rules : List SecurityRule) :
    List SecurityRule :=
  isolationRules.foldl (fun rules rule => rule.add rules) rules

variable {strict : Bool} {nsg : Text}

theorem addAll_append (first second : List IsolationRule) :
    addAll (first ++ second) = addAll second ∘ addAll first := by
  funext rules
  exact List.foldl_append

private theorem rewrites_add (strict : Bool) (nsg : Text) (rule : IsolationRule)
    (lock : LockName) :
    Rewrites strict nsg
      (createNetworkSecurityGroupRules nsg [anyTrafficRule rule.access rule.name]
        rule.destination lock (some rule.startFrom) rule.source)
      rule.add :=
  createNetworkSecurityGroupRules_rewrites _ _ _ _ _

private theorem forEach_rewrites {β : Type} (items : List β) (isolationRule : β → IsolationRule)
    (lock : LockName) :
    Rewrites strict nsg
      (forEach items fun item => createNetworkSecurityGroupRules nsg
        [anyTrafficRule (isolationRule item).access (isolationRule item).name]
        (isolationRule item).destination lock (some (isolationRule item).startFrom)
        (isolationRule item).source)
      (addAll (items.map isolationRule)) := by
  have folded : addAll (items.map isolationRule) =
      fun rules => items.foldl (fun rules item => (isolationRule item).add rules) rules := by
    funext rules
    exact List.foldl_map
  rw [folded]
  apply Rewrites.forEach
  intro item _
  exact createNetworkSecurityGroupRules_rewrites _ _ _ _ _

/-- The preparation writes the isolation rules in order. -/
theorem createIsolationRules_rewrites
    (managementVnetCidr sandboxVnetCidr sandboxCidr : Text) (additionalMgmtNetworks : List Text)
    (subnetActions : List PrepareSubnet) :
    Rewrites strict nsg
      (createIsolationRules managementVnetCidr sandboxVnetCidr sandboxCidr nsg
        additionalMgmtNetworks subnetActions)
      ((denyOtherSandboxes sandboxVnetCidr sandboxCidr).add ∘
        addAll (openingRules managementVnetCidr sandboxCidr additionalMgmtNetworks
          subnetActions)) := by
  have sandbox : Rewrites strict nsg _ (addAll _) := forEach_rewrites subnetActions
    (fun s => allowSandbox sandboxCidr s.cidr) .subnetLocker
  have closed : Rewrites strict nsg _ (addAll _) := forEach_rewrites
    (subnetActions.filter fun s => !s.isPublic) (fun p => denyInternet p.cidr) .subnetLocker
  have networks : Rewrites strict nsg _ (addAll _) := forEach_rewrites additionalMgmtNetworks
    (allowNetwork 4000 sandboxCidr) .subnetLocker
  have management := rewrites_add strict nsg
    (allowNetwork 4080 sandboxCidr managementVnetCidr) .subnetLocker
  have others := rewrites_add strict nsg
    (denyOtherSandboxes sandboxVnetCidr sandboxCidr) .subnetLocker
  have whole := sandbox.bind <| closed.bind <| networks.bind <| management.bind others
  rw [openingRules, addAll_append, addAll_append, addAll_append]
  simp only [Function.comp_assoc] at whole ⊢
  exact whole

/-! ## Where the rules are laid -/

/-- A group holds exactly the rules of a list of isolation rules, each at a
multiple of the step, with no free multiple between its band's start and it. -/
structure Laid (done : List IsolationRule) (rules : List SecurityRule) : Prop where
  names : rules.map SecurityRule.name = done.map IsolationRule.name
  made : ∀ rule ∈ rules, ∃ isolationRule ∈ done,
    rule = isolationRule.atPriority rule.priority ∧
      FilledBelow rules isolationRule.startFrom rule.priority
  multiples : ∀ rule ∈ rules, rulePriorityIncreaseStep ∣ rule.priority
  present : ∀ isolationRule ∈ done, ∃ priority, isolationRule.atPriority priority ∈ rules

/-- The requirements on an isolation rule under which it can be added. -/
structure IsolationRule.Addable (rule : IsolationRule) : Prop where
  named : rule.name ≠ []
  start_dvd : rulePriorityIncreaseStep ∣ rule.startFrom

theorem IsolationRule.Addable.atPriority_name {rule : IsolationRule} (addable : rule.Addable)
    (priority : Int) : (rule.atPriority priority).name = rule.name :=
  anyTrafficRule_name _ _ _ priority addable.named

theorem laid_nil : Laid [] [] where
  names := rfl
  made := by simp
  multiples := by simp
  present := by simp

/-- A rule under a new name is appended. -/
theorem Laid.add {done : List IsolationRule} {rules : List SecurityRule} (laid : Laid done rules)
    {next : IsolationRule} (addable : next.Addable)
    (newName : next.name ∉ done.map IsolationRule.name) :
    ∃ priority, next.add rules = rules ++ [next.atPriority priority] ∧
      Laid (done ++ [next]) (next.add rules) ∧ next.startFrom ≤ priority ∧
      rulePriorityIncreaseStep ∣ priority ∧ ∀ other ∈ rules, other.priority ≠ priority := by
  have fresh : ∀ other ∈ rules, other.name ≠ next.name := by
    intro other member equal
    apply newName
    rw [← laid.names, ← equal]
    exact List.mem_map_of_mem member
  obtain ⟨priority, added, dvd, above, unused, filled⟩ :=
    addRules_anyTrafficRule_of_fresh next.access addable.named next.destination
      next.source fresh addable.start_dvd laid.multiples
  have appended : next.add rules = rules ++ [next.atPriority priority] := added
  refine ⟨priority, appended, ?_, above, dvd, unused⟩
  rw [appended]
  constructor
  · rw [List.map_append, List.map_append, laid.names]
    exact congrArg (_ ++ ·) (congrArg (· :: [])
      (addable.atPriority_name priority))
  · intro rule member
    rcases List.mem_append.mp member with old | new
    · rcases laid.made rule old with ⟨isolationRule, isDone, made, ruleFilled⟩
      exact ⟨isolationRule, List.mem_append_left _ isDone, made, ruleFilled.append _⟩
    · rw [List.mem_singleton.mp new]
      exact ⟨next, by simp, rfl, filled.append _⟩
  · intro rule member
    rcases List.mem_append.mp member with old | new
    · exact laid.multiples rule old
    · rw [List.mem_singleton.mp new]
      exact dvd
  · intro isolationRule member
    rcases List.mem_append.mp member with old | new
    · rcases laid.present isolationRule old with ⟨other, isPresent⟩
      exact ⟨other, List.mem_append_left _ isPresent⟩
    · rw [List.mem_singleton.mp new]
      exact ⟨priority, by simp⟩

/-- Rules under pairwise different names are laid one after another. -/
theorem Laid.addAll {done next : List IsolationRule} {rules : List SecurityRule}
    (laid : Laid done rules) (addable : ∀ rule ∈ next, rule.Addable)
    (distinct : ((done ++ next).map IsolationRule.name).Nodup) :
    Laid (done ++ next) (addAll next rules) := by
  induction next generalizing done rules with
  | nil => simpa [PrepareSandboxInfraOperation.addAll] using laid
  | cons first rest ih =>
      have newName : first.name ∉ done.map IsolationRule.name := by
        intro member
        rw [List.map_append, List.nodup_append] at distinct
        exact distinct.2.2 _ member _ (by simp) rfl
      rcases laid.add (addable first List.mem_cons_self) newName with ⟨_, _, laidFirst, _⟩
      have later := ih laidFirst (fun rule member => addable rule (List.mem_cons_of_mem first member))
        (by simpa using distinct)
      simpa [PrepareSandboxInfraOperation.addAll] using later

/-- A rule whose band starts no lower than the bands before it is laid last. -/
theorem Laid.add_last {done : List IsolationRule} {rules : List SecurityRule}
    (laid : Laid done rules) {last : IsolationRule} (addable : last.Addable)
    (newName : last.name ∉ done.map IsolationRule.name)
    (highest : ∀ rule ∈ done, rule.startFrom ≤ last.startFrom) :
    ∃ priority, last.add rules = rules ++ [last.atPriority priority] ∧
      ∀ rule ∈ rules, rule.priority < priority := by
  rcases laid.add addable newName with ⟨priority, appended, _, above, dvd, unused⟩
  refine ⟨priority, appended, ?_⟩
  intro rule member
  by_contra notBelow
  rcases laid.made rule member with ⟨isolationRule, isDone, _, filled⟩
  -- were the last rule lower, it would lie in a multiple that is already taken
  have below : priority < rule.priority :=
    lt_of_le_of_ne (not_lt.mp notBelow) (unused rule member).symm
  obtain ⟨taken, takenMem, equal⟩ :=
    filled priority dvd ((highest isolationRule isDone).trans above) below
  exact unused taken takenMem equal

end PrepareSandboxInfraOperation

end AzureShell
