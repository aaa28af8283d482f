import AzureShell.Sandbox.SubnetNsg

/-!
# Isolation in every reachable state

A plan of a sandbox network is prepared on an empty group; afterwards
deployments open inbound ports and machines' artifacts are deleted, in any
order.  In every state reached, traffic of other sandboxes is denied and traffic
inside the sandbox is allowed.
-/

namespace AzureShell

open Prog Net SecurityGroupService NameProviderService PrepareSandboxInfraOperation

/-- The address plan of a sandbox: its block inside the virtual network, its
subnets inside its block, and the management networks. -/
structure SandboxPlan where
  vnet : CidrText
  sandbox : CidrText
  management : CidrText
  /-- The subnets, each with whether it is public. -/
  subnets : List (CidrText × Bool)
  additionalMgmtNetworks : List CidrText
  sandbox_subset : ∀ address, sandbox.cidr.contains address = true →
    vnet.cidr.contains address = true
  subnets_subset : ∀ subnet ∈ subnets, ∀ address, subnet.1.cidr.contains address = true →
    sandbox.cidr.contains address = true
  subnets_nodup : (subnets.map fun subnet => subnet.1.text).Nodup
  networks_nodup : ((additionalMgmtNetworks ++ [management]).map CidrText.text).Nodup

namespace SandboxPlan

variable (plan : SandboxPlan)

def subnetActions : List PrepareSubnet :=
  plan.subnets.map fun subnet => ⟨subnet.1.text, subnet.2⟩

/-- The management networks, the additional ones first. -/
def networks : List CidrText :=
  plan.additionalMgmtNetworks ++ [plan.management]

/-- The isolation rules up to the last one. -/
def opening : List IsolationRule :=
  openingRules plan.management.text plan.sandbox.text
    (plan.additionalMgmtNetworks.map CidrText.text) plan.subnetActions

/-- The isolation rule against other sandboxes. -/
def closing : IsolationRule :=
  denyOtherSandboxes plan.vnet.text plan.sandbox.text

/-! ## The shape of an isolation rule -/

/-- The kinds of isolation rules of a plan. -/
inductive Opens : IsolationRule → Prop where
  | allowSandbox (subnet : CidrText × Bool) (member : subnet ∈ plan.subnets) :
      Opens (allowSandbox plan.sandbox.text subnet.1.text)
  | denyInternet (subnet : CidrText × Bool) (member : subnet ∈ plan.subnets) :
      Opens (denyInternet subnet.1.text)
  | allowNetwork (startFrom : Int) (network : CidrText) (member : network ∈ plan.networks)
      (band : startFrom = 4000 ∨ startFrom = 4080) :
      Opens (allowNetwork startFrom plan.sandbox.text network.text)

variable {plan}

theorem opens_of_mem_opening {rule : IsolationRule} (member : rule ∈ plan.opening) :
    Opens plan rule := by
  simp only [opening, openingRules, subnetActions, List.mem_append, List.mem_map,
    List.mem_filter, List.mem_singleton, exists_exists_and_eq_and] at member
  rcases member with ⟨subnet, subnetMem, rfl⟩ | ⟨action, ⟨⟨subnet, subnetMem, rfl⟩, _⟩, rfl⟩ |
    ⟨network, networkMem, rfl⟩ | rfl
  · exact Opens.allowSandbox subnet subnetMem
  · exact Opens.denyInternet subnet subnetMem
  · exact Opens.allowNetwork 4000 network (List.mem_append_left _ networkMem) (Or.inl rfl)
  · exact Opens.allowNetwork 4080 plan.management (by simp [networks]) (Or.inr rfl)

theorem allowSandbox_mem_opening {subnet : CidrText × Bool} (member : subnet ∈ plan.subnets) :
    allowSandbox plan.sandbox.text subnet.1.text ∈ plan.opening := by
  apply List.mem_append_left
  exact List.mem_map.mpr ⟨⟨subnet.1.text, subnet.2⟩, List.mem_map.mpr ⟨subnet, member, rfl⟩, rfl⟩

/-! ## Names of isolation rules -/

private theorem length_ofNat_lt : ∀ n : Fin 33, (Text.ofNat n).length < 8 := by
  decide

/-- A block in a name has a single dash, and no postfix behind it. -/
theorem not_dash_postfix_infix_dashed {resourcePostfix left : Text}
    (isPostfix : IsPostfix resourcePostfix) (noDash : '-' ∉ left) (block : CidrText) :
    ¬ '-' :: resourcePostfix <:+: left ++ block.dashed := by
  have shape : left ++ block.dashed = (left ++ block.cidr.address.render) ++
      '-' :: (Text.ofNat block.cidr.length ++ []) := by
    simp [CidrText.dashed_eq]
  rw [shape]
  apply not_dash_postfix_infix isPostfix
  · rw [List.mem_append, not_or]
    exact ⟨noDash, Address.not_mem_render (by decide) (by decide)⟩
  · exact length_ofNat_lt block.cidr.length
  · simp
  · rw [List.append_nil]
    exact Text.not_infix_of_mem List.mem_cons_self (Text.not_mem_ofNat (by decide))

/-- No machine name occurs in the name of an isolation rule. -/
theorem not_infix_name {vmName : Text} (isName : EndsInPostfix vmName) {rule : IsolationRule}
    (isRule : Opens plan rule ∨ rule = plan.closing) : ¬ vmName <:+: rule.name := by
  intro occurs
  rcases isName.dash_postfix_infix occurs with ⟨resourcePostfix, isPostfix, dashOccurs⟩
  rcases isRule with opens | rfl
  · cases opens with
    | allowSandbox subnet _ =>
        exact not_dash_postfix_infix_dashed isPostfix (by decide) subnet.1 dashOccurs
    | denyInternet subnet _ =>
        exact not_dash_postfix_infix_dashed isPostfix (by decide) subnet.1 dashOccurs
    | allowNetwork startFrom network _ _ =>
        have shape : (allowNetwork startFrom plan.sandbox.text network.text).name =
            ("Allow_".toList ++ network.cidr.address.render) ++
              '-' :: (Text.ofNat network.cidr.length ++
                ("_To_".toList ++ plan.sandbox.dashed)) := by
          change "Allow_".toList ++ (network.dashed ++ ("_To_".toList ++ plan.sandbox.dashed)) = _
          rw [CidrText.dashed_eq network]
          simp only [List.append_assoc, List.cons_append]
        rw [shape] at dashOccurs
        refine not_dash_postfix_infix isPostfix ?_ (length_ofNat_lt _) ?_ ?_ dashOccurs
        · rw [List.mem_append, not_or]
          exact ⟨by decide, Address.not_mem_render (by decide) (by decide)⟩
        · intro c isHead
          have first : '_' = c := by simpa using isHead
          rw [← first]
          decide
        · rw [← List.append_assoc]
          apply not_dash_postfix_infix_dashed isPostfix
          rw [List.mem_append, not_or]
          exact ⟨Text.not_mem_ofNat (by decide), by decide⟩
  · have noDash : '-' ∉ denyOtherSandboxesRuleName := by decide
    exact Text.not_infix_of_mem List.mem_cons_self noDash dashOccurs

/-- The name of an isolation rule contains no colon. -/
theorem colon_not_mem_name {rule : IsolationRule}
    (isRule : Opens plan rule ∨ rule = plan.closing) : ':' ∉ rule.name := by
  have notInBlock : ∀ block : CidrText, ':' ∉ block.dashed := fun block =>
    CidrText.not_mem_dashed (by decide) (by decide) (by decide)
  rcases isRule with opens | rfl
  · cases opens with
    | allowSandbox subnet _ =>
        change ':' ∉ "Allow_Sandbox_Traffic_To_".toList ++ subnet.1.dashed
        rw [List.mem_append, not_or]
        exact ⟨by decide, notInBlock subnet.1⟩
    | denyInternet subnet _ =>
        change ':' ∉ "Deny_Internet_Traffic_To_Private_Subnet_".toList ++ subnet.1.dashed
        rw [List.mem_append, not_or]
        exact ⟨by decide, notInBlock subnet.1⟩
    | allowNetwork startFrom network _ _ =>
        change ':' ∉ "Allow_".toList ++ (network.dashed ++ ("_To_".toList ++ plan.sandbox.dashed))
        simp only [List.mem_append, not_or]
        exact ⟨by decide, notInBlock network, by decide, notInBlock plan.sandbox⟩
  · have noColon : ':' ∉ denyOtherSandboxesRuleName := by decide
    exact noColon

/-- The seventh character tells the kinds of isolation rules apart. -/
theorem exists_digit_at_six (sandboxCidr : Text) (network : CidrText) :
    ∃ c, (allowNetworkRuleName network.text sandboxCidr)[6]? = some c ∧ c.isDigit = true := by
  rcases network.exists_dashed_eq_cons with ⟨c, rest, dashed, isDigit⟩
  refine ⟨c, ?_, isDigit⟩
  have shape : allowNetworkRuleName network.text sandboxCidr = "Allow_".toList ++
      (c :: rest ++ ("_To_".toList ++ Text.replace '/' '-' sandboxCidr)) := by
    rw [← dashed]
    rfl
  rw [shape]
  rfl

theorem names_opening (plan : SandboxPlan) :
    plan.opening.map IsolationRule.name =
      (plan.subnets.map fun subnet => allowSandboxRuleName subnet.1.text) ++
        (((plan.subnets.filter fun subnet => !subnet.2).map fun subnet =>
            denyInternetRuleName subnet.1.text) ++
          plan.networks.map fun network =>
            allowNetworkRuleName network.text plan.sandbox.text) := by
  simp [opening, openingRules, subnetActions, networks, List.filter_map, Function.comp_def,
    allowSandbox, denyInternet, allowNetwork]

/-- The isolation rules have pairwise different names. -/
theorem nodup_names_opening (plan : SandboxPlan) :
    (plan.opening.map IsolationRule.name).Nodup := by
  have subnetsPairwise : plan.subnets.Pairwise fun s t => s.1.text ≠ t.1.text :=
    List.pairwise_map.mp plan.subnets_nodup
  have networksPairwise : plan.networks.Pairwise fun m n => m.text ≠ n.text :=
    List.pairwise_map.mp plan.networks_nodup
  rw [names_opening]
  simp only [List.nodup_append, List.mem_append, List.mem_map]
  refine ⟨?_, ⟨?_, ?_, ?_⟩, ?_⟩
  · apply List.pairwise_map.mpr
    refine subnetsPairwise.imp fun different equal => different ?_
    exact CidrText.text_eq_of_dashed_eq (List.append_cancel_left equal)
  · apply List.pairwise_map.mpr
    refine (subnetsPairwise.filter _).imp fun different equal => different ?_
    exact CidrText.text_eq_of_dashed_eq (List.append_cancel_left equal)
  · apply List.pairwise_map.mpr
    refine networksPairwise.imp fun different equal => different ?_
    apply CidrText.text_eq_of_dashed_eq
    exact List.append_cancel_right (List.append_cancel_left equal)
  · rintro _ ⟨subnet, _, rfl⟩ _ ⟨network, _, rfl⟩ equal
    rcases exists_digit_at_six plan.sandbox.text network with ⟨c, atSix, isDigit⟩
    have letter : some 'n' = some c := (congrArg (·[6]?) equal).trans atSix
    cases letter
    exact absurd isDigit (by decide)
  · rintro _ ⟨subnet, _, rfl⟩ _ (⟨other, _, rfl⟩ | ⟨network, _, rfl⟩) equal
    · have letters : some 'S' = some 'n' := congrArg (·[6]?) equal
      exact absurd letters (by decide)
    · rcases exists_digit_at_six plan.sandbox.text network with ⟨c, atSix, isDigit⟩
      have letter : some 'S' = some c := (congrArg (·[6]?) equal).trans atSix
      cases letter
      exact absurd isDigit (by decide)

/-- No other isolation rule has the name of the last one. -/
theorem closing_name_ne {rule : IsolationRule} (opens : Opens plan rule) :
    rule.name ≠ plan.closing.name := by
  intro equal
  cases opens with
  | allowSandbox subnet _ =>
      have letters : some 'S' = some 'r' := congrArg (·[6]?) equal
      exact absurd letters (by decide)
  | denyInternet subnet _ =>
      have letters : some 'n' = some 'r' := congrArg (·[6]?) equal
      exact absurd letters (by decide)
  | allowNetwork startFrom network _ _ =>
      rcases exists_digit_at_six plan.sandbox.text network with ⟨c, atSix, isDigit⟩
      have letter : some c = some 'r' := atSix.symm.trans (congrArg (·[6]?) equal)
      cases letter
      exact absurd isDigit (by decide)

/-! ## The invariant -/

variable (plan) in
/-- An isolation rule of the plan, the last one included. -/
def Isolates (rule : IsolationRule) : Prop :=
  Opens plan rule ∨ rule = plan.closing

/-- The bands are multiples of the step, and none starts above the last one. -/
theorem Isolates.band {rule : IsolationRule} (isolates : Isolates plan rule) :
    rulePriorityIncreaseStep ∣ rule.startFrom ∧ rule.startFrom ≤ 4090 := by
  have bands : ∀ startFrom ∈ [(2000 : Int), 4000, 4080, 4090],
      rulePriorityIncreaseStep ∣ startFrom ∧ startFrom ≤ 4090 := by decide
  apply bands
  rcases isolates with opens | rfl
  · cases opens with
    | allowSandbox subnet _ => exact List.mem_cons_self
    | denyInternet subnet _ => exact List.mem_cons_self
    | allowNetwork startFrom network _ band =>
        rcases band with rfl | rfl <;> simp [allowNetwork]
  · simp [closing, denyOtherSandboxes]

theorem Isolates.addable {rule : IsolationRule} (isolates : Isolates plan rule) :
    rule.Addable := by
  refine ⟨?_, isolates.band.1⟩
  rcases isolates with opens | rfl
  · cases opens <;> exact List.cons_ne_nil _ _
  · exact List.cons_ne_nil _ _

variable (plan) in
/-- Every rule comes from the Internet or is an isolation rule, and the rule
against other sandboxes is there, behind the rules for the sandbox itself. -/
structure Isolated (rules : List SecurityRule) : Prop where
  origin : ∀ rule ∈ rules, rule.sourceAddressPrefix = internet ∨
    ∃ isolationRule, Isolates plan isolationRule ∧
      ∃ priority, rule = isolationRule.atPriority priority
  closed : ∃ priority, plan.closing.atPriority priority ∈ rules
  opened : ∀ priority, plan.closing.atPriority priority ∈ rules →
    ∀ subnet ∈ plan.subnets, ∃ earlier,
      (allowSandbox plan.sandbox.text subnet.1.text).atPriority earlier ∈ rules ∧
        earlier < priority

/-- The preparation of an empty group establishes the invariant. -/
theorem isolated_prepared (plan : SandboxPlan) :
    Isolated plan (plan.closing.add (addAll plan.opening [])) := by
  have laid : Laid plan.opening (addAll plan.opening []) := by
    refine laid_nil.addAll ?_ (nodup_names_opening plan)
    intro rule member
    exact Isolates.addable (Or.inl (opens_of_mem_opening member))
  have closingAddable : plan.closing.Addable := Isolates.addable (Or.inr rfl)
  have newName : plan.closing.name ∉ plan.opening.map IsolationRule.name := by
    intro member
    rcases List.mem_map.mp member with ⟨rule, ruleMem, equal⟩
    exact closing_name_ne (opens_of_mem_opening ruleMem) equal
  have highest : ∀ rule ∈ plan.opening, rule.startFrom ≤ plan.closing.startFrom := by
    intro rule member
    exact (Isolates.band (Or.inl (opens_of_mem_opening member))).2
  rcases laid.add_last closingAddable newName highest with ⟨last, appended, below⟩
  rw [appended]
  constructor
  · intro rule member
    apply Or.inr
    rcases List.mem_append.mp member with earlier | final
    · rcases laid.made rule earlier with ⟨isolationRule, isOpening, made, _⟩
      exact ⟨isolationRule, Or.inl (opens_of_mem_opening isOpening), _, made⟩
    · exact ⟨plan.closing, Or.inr rfl, last, List.mem_singleton.mp final⟩
  · exact ⟨last, by simp⟩
  · intro priority member subnet subnetMem
    rcases List.mem_append.mp member with earlier | final
    · have named := List.mem_map_of_mem (f := SecurityRule.name) earlier
      rw [laid.names, closingAddable.atPriority_name] at named
      exact absurd named newName
    · have same : priority = last := congrArg SecurityRule.priority (List.mem_singleton.mp final)
      rcases laid.present _ (allowSandbox_mem_opening subnetMem) with ⟨earlier, isPresent⟩
      refine ⟨earlier, List.mem_append_left _ isPresent, ?_⟩
      rw [same]
      exact below _ isPresent

/-- A change that touches no isolation rule, and adds rules for the Internet
only, keeps the invariant. -/
theorem Isolated.change {rules changed : List SecurityRule} (isolated : Isolated plan rules)
    (kept : ∀ rule, Isolates plan rule → ∀ priority,
      (rule.atPriority priority ∈ changed ↔ rule.atPriority priority ∈ rules))
    (added : ∀ rule ∈ changed, rule.sourceAddressPrefix = internet ∨ rule ∈ rules) :
    Isolated plan changed where
  origin := by
    intro rule member
    rcases added rule member with fromInternet | old
    · exact Or.inl fromInternet
    · exact isolated.origin rule old
  closed := by
    rcases isolated.closed with ⟨priority, member⟩
    exact ⟨priority, (kept _ (Or.inr rfl) priority).mpr member⟩
  opened := by
    intro priority member subnet subnetMem
    obtain ⟨earlier, allowed, below⟩ :=
      isolated.opened priority ((kept _ (Or.inr rfl) priority).mp member) subnet subnetMem
    have opens := Opens.allowSandbox subnet subnetMem
    exact ⟨earlier, (kept _ (Or.inl opens) earlier).mpr allowed, below⟩

/-- Creating a rule for the Internet under a name with a colon keeps the
invariant. -/
theorem Isolated.upsert {rules : List SecurityRule} (isolated : Isolated plan rules)
    {rule : SecurityRule} (colon : ':' ∈ rule.name)
    (fromInternet : rule.sourceAddressPrefix = internet) :
    Isolated plan (Store.upsert SecurityRule.name rule rules) := by
  apply isolated.change
  · intro isolationRule isolates priority
    have different : (isolationRule.atPriority priority).name ≠ rule.name := by
      rw [isolates.addable.atPriority_name]
      intro equal
      exact colon_not_mem_name isolates (equal ▸ colon)
    rw [Store.mem_upsert_iff]
    constructor
    · rintro (same | ⟨old, _⟩)
      · exact absurd (congrArg SecurityRule.name same) different
      · exact old
    · intro old
      exact Or.inr ⟨old, different⟩
  · intro other member
    rcases Store.mem_upsert_iff.mp member with rfl | ⟨old, _⟩
    · exact Or.inl fromInternet
    · exact Or.inr old

/-- Deleting a rule whose name contains a machine's name keeps the invariant. -/
theorem Isolated.erase {rules : List SecurityRule} (isolated : Isolated plan rules)
    {vmName name : Text} (isName : EndsInPostfix vmName) (carries : vmName <:+: name) :
    Isolated plan (Store.erase SecurityRule.name name rules) := by
  apply isolated.change
  · intro isolationRule isolates priority
    rw [Store.mem_erase_iff, isolates.addable.atPriority_name]
    constructor
    · exact And.left
    · intro old
      refine ⟨old, ?_⟩
      rintro rfl
      exact not_infix_name isName isolates carries
  · intro other member
    exact Or.inr (Store.mem_erase_iff.mp member).1

/-! ## Later operations -/

/-- What happens to the group of the subnets after its preparation. -/
inductive Operation where
  /-- A deployment opens the inbound ports of a machine for one of its addresses. -/
  | openInboundPorts (vmName : Text) (inboundRules : List RuleData) (privateIpAddress : Text)
  /-- The artifacts of a machine are deleted. -/
  | deleteNsgArtifacts (vmName : Text)

namespace Operation

def vmName : Operation → Text
  | openInboundPorts vmName _ _ => vmName
  | deleteNsgArtifacts vmName => vmName

/-- The call an operation makes. -/
def program (nsg : Text) : Operation → Shell Unit
  | openInboundPorts vmName inboundRules privateIpAddress =>
      createNetworkSecurityGroupRules nsg
        (DeployAzureVMOperation.namedInboundRules vmName inboundRules) privateIpAddress
        (.resource nsg) (some 1000)
  | deleteNsgArtifacts vmName => NetworkService.deleteNsgArtifactsAssociatedWithVm vmName

/-- The state after a sequence of operations, whether or not they raise. -/
def runAll (strict : Bool) (nsg : Text) (operations : List Operation) (azure : Azure) : Azure :=
  operations.foldl (fun azure operation =>
    (run (Azure.handle strict) (operation.program nsg) azure).2) azure

end Operation

/-- The group exists and is isolated. -/
def GroupIsolated (plan : SandboxPlan) (nsg : Text) (azure : Azure) : Prop :=
  ∃ rules, azure.rulesOf nsg = some rules ∧ Isolated plan rules

variable {strict : Bool} {nsg : Text}

/-- The requests of a rule creation for inbound ports keep the group isolated. -/
theorem groupIsolated_of_createsRules {vmName destinationAddr : Text}
    {inboundRules : List RuleData} {request : Request} {azure : Azure}
    (allowed : CreatesRules nsg (DeployAzureVMOperation.namedInboundRules vmName inboundRules)
      destinationAddr internet request)
    (isolated : GroupIsolated plan nsg azure) :
    GroupIsolated plan nsg (Azure.handle strict request azure).2 := by
  rcases isolated with ⟨rules, present, isolatedRules⟩
  rw [GroupIsolated, Azure.rulesOf_handle, present]
  rcases allowed with rfl | ⟨ruleData, requested, priority, rfl⟩
  · exact ⟨rules, rfl, isolatedRules⟩
  · obtain ⟨rule, _, named, source⟩ :=
      DeployAzureVMOperation.mem_namedInboundRules requested priority
    refine ⟨_, if_pos rfl, isolatedRules.upsert ?_ (source internet)⟩
    change ':' ∈ nameAt ruleData priority
    rw [named]
    simp [DeployAzureVMOperation.inboundPortsRuleName]

/-- The requests of a deletion of artifacts keep the group isolated. -/
theorem groupIsolated_of_deletesNsgArtifacts {vmName : Text} {request : Request} {azure : Azure}
    (isName : EndsInPostfix vmName) (notInGroup : ¬ vmName <:+: nsg)
    (allowed : NetworkService.DeletesNsgArtifacts vmName request)
    (isolated : GroupIsolated plan nsg azure) :
    GroupIsolated plan nsg (Azure.handle strict request azure).2 := by
  rcases isolated with ⟨rules, present, isolatedRules⟩
  rw [GroupIsolated, Azure.rulesOf_handle, present]
  rcases allowed with rfl | ⟨group, carries, rfl⟩ | ⟨group, name, _, carries, rfl⟩
  · exact ⟨rules, rfl, isolatedRules⟩
  · have other : group ≠ nsg := by
      rintro rfl
      exact notInGroup carries
    exact ⟨rules, if_neg other, isolatedRules⟩
  · by_cases same : group = nsg
    · exact ⟨_, if_pos same, isolatedRules.erase isName carries⟩
    · exact ⟨rules, if_neg same, isolatedRules⟩

/-- An operation keeps the group isolated. -/
theorem groupIsolated_operation {operation : Operation} {azure : Azure}
    (isName : EndsInPostfix operation.vmName) (notInGroup : ¬ operation.vmName <:+: nsg)
    (isolated : GroupIsolated plan nsg azure) :
    GroupIsolated plan nsg (run (Azure.handle strict) (operation.program nsg) azure).2 := by
  cases operation with
  | openInboundPorts vmName inboundRules privateIpAddress =>
      apply (createNetworkSecurityGroupRules_within _ _).run_preserves _ isolated
      intro request azure allowed
      exact groupIsolated_of_createsRules allowed
  | deleteNsgArtifacts vmName =>
      apply (NetworkService.deleteNsgArtifactsAssociatedWithVm_within _).run_preserves _ isolated
      intro request azure allowed
      exact groupIsolated_of_deletesNsgArtifacts isName notInGroup allowed

/-- A sequence of operations keeps the group isolated. -/
theorem groupIsolated_runAll {operations : List Operation} {azure : Azure}
    (names : ∀ operation ∈ operations,
      EndsInPostfix operation.vmName ∧ ¬ operation.vmName <:+: nsg)
    (isolated : GroupIsolated plan nsg azure) :
    GroupIsolated plan nsg (Operation.runAll strict nsg operations azure) := by
  induction operations generalizing azure with
  | nil => exact isolated
  | cons operation rest ih =>
      rcases names operation List.mem_cons_self with ⟨isName, notInGroup⟩
      exact ih (fun other member => names other (List.mem_cons_of_mem operation member))
        (groupIsolated_operation isName notInGroup isolated)

/-! ## Verdicts -/

variable {tagged : Text → Address → Bool} {packet : Packet}

/-- An isolation rule covers packets by their addresses alone. -/
theorem covers_atPriority (rule : IsolationRule) (priority : Int) :
    (rule.atPriority priority).covers tagged packet =
      (addressPrefixCovers tagged rule.source packet.source &&
        addressPrefixCovers tagged rule.destination packet.destination) := by
  have anyPort : (anyTrafficRule rule.access rule.name).portRange = asterisk := rfl
  have anyProtocol : (anyTrafficRule rule.access rule.name).protocol = asterisk := rfl
  have source : (anyTrafficRule rule.access rule.name).source rule.source = rule.source := rfl
  simp [SecurityRule.covers, SecurityRule.coversPort, IsolationRule.atPriority,
    prepareSecurityGroupRule, anyPort, anyProtocol, source]

/-- An isolation rule is an inbound rule. -/
theorem mem_inbound {rules : List SecurityRule} {rule : IsolationRule} {priority : Int}
    (member : rule.atPriority priority ∈ rules) :
    rule.atPriority priority ∈ rules.filter fun rule => rule.direction = "Inbound".toList :=
  List.mem_filter.mpr ⟨member, decide_eq_true rfl⟩

/-- A rule of an isolated group that covers a packet from the virtual network is
an isolation rule. -/
theorem Isolated.isolationRule_of_covers {rules : List SecurityRule}
    (isolated : Isolated plan rules)
    (untagged : ∀ address, plan.vnet.cidr.contains address = true →
      tagged internet address = false)
    (inVnet : plan.vnet.cidr.contains packet.source = true) {rule : SecurityRule}
    (member : rule ∈ rules) (covered : rule.covers tagged packet = true) :
    ∃ isolationRule priority, Isolates plan isolationRule ∧
      rule = isolationRule.atPriority priority ∧ isolationRule.source ≠ internet ∧
      addressPrefixCovers tagged isolationRule.source packet.source = true := by
  have notInternet : rule.sourceAddressPrefix ≠ internet := by
    intro fromInternet
    simp only [SecurityRule.covers, fromInternet, addressPrefixCovers_internet,
      untagged _ inVnet, Bool.and_false, Bool.false_and] at covered
    contradiction
  rcases isolated.origin rule member with fromInternet |
    ⟨isolationRule, isolates, priority, rfl⟩
  · exact absurd fromInternet notInternet
  · rw [covers_atPriority, Bool.and_eq_true] at covered
    exact ⟨isolationRule, priority, isolates, rfl, notInternet, covered.1⟩

/-- Traffic of other sandboxes is denied: every rule that covers it denies. -/
theorem Isolated.denies {rules : List SecurityRule} (isolated : Isolated plan rules)
    (untagged : ∀ address, plan.vnet.cidr.contains address = true →
      tagged internet address = false)
    (inVnet : plan.vnet.cidr.contains packet.source = true)
    (outside : plan.sandbox.cidr.contains packet.source = false)
    (noManagement : ∀ network ∈ plan.networks, network.cidr.contains packet.source = false)
    (inside : plan.sandbox.cidr.contains packet.destination = true) :
    inboundVerdict tagged rules packet = some .deny := by
  rcases isolated.closed with ⟨priority, closed⟩
  have covers : (plan.closing.atPriority priority).covers tagged packet = true := by
    rw [covers_atPriority, Bool.and_eq_true]
    exact ⟨(addressPrefixCovers_cidr plan.vnet.parsed _).trans inVnet,
      (addressPrefixCovers_cidr plan.sandbox.parsed _).trans inside⟩
  apply Filter.verdict_eq_some_of_forall (mem_inbound closed) covers
  intro rule member covered
  obtain ⟨isolationRule, _, isolates, rfl, notInternet, sourceCovers⟩ :=
    isolated.isolationRule_of_covers untagged inVnet (List.mem_filter.mp member).1 covered
  rcases isolates with opens | rfl
  · cases opens with
    | allowSandbox subnet _ =>
        have contained := (addressPrefixCovers_cidr plan.sandbox.parsed _).symm.trans sourceCovers
        rw [outside] at contained
        contradiction
    | denyInternet subnet _ => exact absurd rfl notInternet
    | allowNetwork startFrom network networkMem _ =>
        have contained := (addressPrefixCovers_cidr network.parsed _).symm.trans sourceCovers
        rw [noManagement network networkMem] at contained
        contradiction
  · rfl

/-- Traffic inside the sandbox is allowed: a rule for the subnet comes before
the only rule that denies it. -/
theorem Isolated.allows {rules : List SecurityRule} (isolated : Isolated plan rules)
    (untagged : ∀ address, plan.vnet.cidr.contains address = true →
      tagged internet address = false)
    (fromSandbox : plan.sandbox.cidr.contains packet.source = true)
    {subnet : CidrText × Bool} (subnetMem : subnet ∈ plan.subnets)
    (toSubnet : subnet.1.cidr.contains packet.destination = true) :
    inboundVerdict tagged rules packet = some .allow := by
  have inVnet := plan.sandbox_subset _ fromSandbox
  have allowing : ∀ earlier,
      ((allowSandbox plan.sandbox.text subnet.1.text).atPriority earlier).covers tagged packet =
        true := by
    intro earlier
    rw [covers_atPriority, Bool.and_eq_true]
    exact ⟨(addressPrefixCovers_cidr plan.sandbox.parsed _).trans fromSandbox,
      (addressPrefixCovers_cidr subnet.1.parsed _).trans toSubnet⟩
  rcases isolated.closed with ⟨priority, closed⟩
  rcases isolated.opened priority closed subnet subnetMem with ⟨first, firstMem, _⟩
  apply Filter.verdict_eq_some (mem_inbound firstMem) (allowing first)
  intro rule member covered notAllow
  obtain ⟨isolationRule, denied, isolates, rfl, notInternet, _⟩ :=
    isolated.isolationRule_of_covers untagged inVnet (List.mem_filter.mp member).1 covered
  rcases isolates with opens | rfl
  · cases opens with
    | allowSandbox subnet _ => exact absurd rfl notAllow
    | denyInternet subnet _ => exact absurd rfl notInternet
    | allowNetwork startFrom network _ _ => exact absurd rfl notAllow
  · obtain ⟨earlier, earlierMem, below⟩ :=
      isolated.opened denied (List.mem_filter.mp member).1 subnet subnetMem
    exact ⟨_, mem_inbound earlierMem, allowing earlier, below⟩

/-- In every state of the subnets' group that is reached from its preparation by
openings of inbound ports and deletions of artifacts, traffic of other sandboxes
is denied and traffic from the sandbox to its subnets is allowed. -/
theorem sandbox_isolated (plan : SandboxPlan)
    (untagged : ∀ address, plan.vnet.cidr.contains address = true →
      tagged internet address = false)
    {managementVnet sandboxVnet : Option VirtualNetwork}
    (management : NetworkService.firstAddressPrefix managementVnet = .ok plan.management.text)
    (vnet : NetworkService.firstAddressPrefix sandboxVnet = .ok plan.vnet.text)
    {reservationId : Text} {azure : Azure}
    (empty : azure.rulesOf (getSubnetsNsgName reservationId) = some [])
    (operations : List Operation)
    (names : ∀ operation ∈ operations, EndsInPostfix operation.vmName ∧
      ¬ operation.vmName <:+: getSubnetsNsgName reservationId) :
    ∃ prepared rules,
      run (Azure.handle strict)
        (createSubnetNsgRules managementVnet sandboxVnet plan.sandbox.text
          (getSubnetsNsgName reservationId) (plan.additionalMgmtNetworks.map CidrText.text)
          plan.subnetActions) azure = (.ok (), prepared) ∧
      (Operation.runAll strict (getSubnetsNsgName reservationId) operations prepared).rulesOf
        (getSubnetsNsgName reservationId) = some rules ∧
      ∀ packet : Packet,
        (plan.vnet.cidr.contains packet.source = true →
          plan.sandbox.cidr.contains packet.source = false →
          (∀ network ∈ plan.networks, network.cidr.contains packet.source = false) →
          plan.sandbox.cidr.contains packet.destination = true →
          inboundVerdict tagged rules packet = some .deny) ∧
        (plan.sandbox.cidr.contains packet.source = true →
          (∃ subnet ∈ plan.subnets, subnet.1.cidr.contains packet.destination = true) →
          inboundVerdict tagged rules packet = some .allow) := by
  obtain ⟨prepared, preparedRun, preparedRules, _⟩ := createIsolationRules_rewrites
    plan.management.text plan.vnet.text plan.sandbox.text
    (plan.additionalMgmtNetworks.map CidrText.text) plan.subnetActions azure [] empty
  have reachedIsolated : GroupIsolated plan (getSubnetsNsgName reservationId)
      (Operation.runAll strict (getSubnetsNsgName reservationId) operations prepared) :=
    groupIsolated_runAll names ⟨_, preparedRules, isolated_prepared plan⟩
  rcases reachedIsolated with ⟨rules, reached, isolated⟩
  refine ⟨prepared, rules, ?_, reached, ?_⟩
  · rw [createSubnetNsgRules, management, vnet]
    exact preparedRun
  · intro packet
    constructor
    · exact isolated.denies untagged
    · rintro fromSandbox ⟨subnet, subnetMem, toSubnet⟩
      exact isolated.allows untagged fromSandbox subnetMem toSubnet

/-! A sandbox 10.0.1.0/24 in the network 10.0.0.0/16, with a public and a private
subnet and one additional management network. -/

def examplePlan : SandboxPlan where
  vnet := ⟨"10.0.0.0/16".toList, ⟨⟨10, 0, 0, 0⟩, 16⟩, by decide⟩
  sandbox := ⟨"10.0.1.0/24".toList, ⟨⟨10, 0, 1, 0⟩, 24⟩, by decide⟩
  management := ⟨"10.1.0.0/16".toList, ⟨⟨10, 1, 0, 0⟩, 16⟩, by decide⟩
  subnets := [(⟨"10.0.1.0/25".toList, ⟨⟨10, 0, 1, 0⟩, 25⟩, by decide⟩, true),
    (⟨"10.0.1.128/25".toList, ⟨⟨10, 0, 1, 128⟩, 25⟩, by decide⟩, false)]
  additionalMgmtNetworks := [⟨"10.2.0.0/16".toList, ⟨⟨10, 2, 0, 0⟩, 16⟩, by decide⟩]
  sandbox_subset := fun _ => Cidr.contains_of_contains (by decide) (by decide)
  subnets_subset := by
    intro subnet member _
    simp only [List.mem_cons, List.not_mem_nil, or_false] at member
    rcases member with rfl | rfl
    · exact Cidr.contains_of_contains (by decide) (by decide)
    · exact Cidr.contains_of_contains (by decide) (by decide)
  subnets_nodup := by decide
  networks_nodup := by decide

def exampleVnet (addressPrefix : Text) : Option VirtualNetwork :=
  some { name := "vnet".toList, tags := [], addressPrefixes := [addressPrefix], subnets := [] }

/-- The Internet is everything outside the virtual network. -/
def exampleTags (tag : Text) (address : Address) : Bool :=
  tag = internet && !examplePlan.vnet.cidr.contains address

def exampleGroup : Azure :=
  { Azure.blank with networkSecurityGroups := [⟨getSubnetsNsgName "b1f7e2d4".toList, []⟩] }

theorem sandbox_isolated_example :
    ∃ prepared rules,
      run (Azure.handle true)
        (createSubnetNsgRules (exampleVnet "10.1.0.0/16".toList) (exampleVnet "10.0.0.0/16".toList)
          examplePlan.sandbox.text (getSubnetsNsgName "b1f7e2d4".toList)
          (examplePlan.additionalMgmtNetworks.map CidrText.text) examplePlan.subnetActions)
        exampleGroup = (.ok (), prepared) ∧
      (Operation.runAll true (getSubnetsNsgName "b1f7e2d4".toList)
        [.openInboundPorts "web-0a1b2c3d".toList [{ protocol := "tcp".toList, port := "80".toList }]
          "10.0.1.4".toList, .deleteNsgArtifacts "web-0a1b2c3d".toList] prepared).rulesOf
        (getSubnetsNsgName "b1f7e2d4".toList) = some rules ∧
      ∀ packet : Packet,
        (examplePlan.vnet.cidr.contains packet.source = true →
          examplePlan.sandbox.cidr.contains packet.source = false →
          (∀ network ∈ examplePlan.networks, network.cidr.contains packet.source = false) →
          examplePlan.sandbox.cidr.contains packet.destination = true →
          inboundVerdict exampleTags rules packet = some .deny) ∧
        (examplePlan.sandbox.cidr.contains packet.source = true →
          (∃ subnet ∈ examplePlan.subnets, subnet.1.cidr.contains packet.destination = true) →
          inboundVerdict exampleTags rules packet = some .allow) := by
  apply sandbox_isolated examplePlan
  · intro address inVnet
    simp [exampleTags, inVnet]
  · rfl
  · rfl
  · decide
  · have isName : EndsInPostfix "web-0a1b2c3d".toList :=
      ⟨"web".toList, "0a1b2c3d".toList, rfl, by decide⟩
    intro operation member
    simp only [List.mem_cons, List.not_mem_nil, or_false] at member
    rcases member with rfl | rfl
    · exact ⟨isName, by decide⟩
    · exact ⟨isName, by decide⟩

end SandboxPlan

end AzureShell
