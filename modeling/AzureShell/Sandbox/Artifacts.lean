import AzureShell.Nsg.Artifacts
import AzureShell.Nsg.Ports
import AzureShell.Sandbox.Isolation

/-!
# Deleting the artifacts of one machine

`delete_nsg_artifacts_associated_with_vm` recognises what belongs to a machine
by its name: a group or an inbound rule is taken to be the machine's if the
name of the machine occurs anywhere in it.  In a resource group of machines with
generated names this is exact unless the machine's name occurs in the name of
another machine, in one of its port ranges, or in the reservation id.
-/

namespace AzureShell

open Prog SecurityGroupService NameProviderService

/-- A machine of the resource group: its generated name and the inbound ports
opened for it. -/
structure Machine where
  vmName : Text
  generated : IsGeneratedName vmName
  inboundPorts : Text
  inboundRules : List RuleData
  parsed : RulesAttributeParser.parsePortGroupAttribute inboundPorts = .ok inboundRules

namespace Machine

/-- What the name of each inbound rule of a machine starts with. -/
def rulePrefix (vmName : Text) : Text :=
  vmName ++ "_inbound_ports:".toList

/-- The rule carries the name of one of the machine's inbound rules. -/
def Owns (vmName : Text) (rule : SecurityRule) : Prop :=
  rulePrefix vmName <+: rule.name

instance (vmName : Text) (rule : SecurityRule) : Decidable (Owns vmName rule) :=
  inferInstanceAs (Decidable (_ <+: _))

end Machine

/-- The security groups of a resource group: one for each machine, and the one
of the subnets with the isolation rules and the inbound rules of the machines. -/
structure HoldsMachines (azure : Azure) (reservationId : Text) (machines : List Machine) :
    Prop where
  different : (machines.map Machine.vmName).Nodup
  keyed : Store.Keyed NetworkSecurityGroup.name azure.networkSecurityGroups
  groups : ∀ nsg ∈ azure.networkSecurityGroups, nsg.name = getSubnetsNsgName reservationId ∨
    ∃ machine ∈ machines, nsg.name = vmNsgName machine.vmName
  ownGroup : ∀ machine ∈ machines, ∃ rules, azure.rulesOf (vmNsgName machine.vmName) = some rules
  subnetsGroup : ∃ rules, azure.rulesOf (getSubnetsNsgName reservationId) = some rules ∧
    (∀ rule ∈ rules,
      (∃ plan isolationRule, (SandboxPlan.Opens plan isolationRule ∨
        isolationRule = plan.closing) ∧ rule.name = isolationRule.name) ∨
      ∃ machine ∈ machines, ∃ ruleData ∈ machine.inboundRules,
        rule.name = DeployAzureVMOperation.inboundPortsRuleName machine.vmName ruleData) ∧
    ∀ machine ∈ machines, ∀ ruleData ∈ machine.inboundRules, ∃ rule ∈ rules,
      rule.name = DeployAzureVMOperation.inboundPortsRuleName machine.vmName ruleData

/-- Exactly the group and the inbound rules of a machine are gone. -/
structure RemovesOwn (vmName reservationId : Text) (before after : Azure) : Prop where
  ownGroup : after.rulesOf (vmNsgName vmName) = none
  subnetsGroup : after.rulesOf (getSubnetsNsgName reservationId) =
    (before.rulesOf (getSubnetsNsgName reservationId)).map
      (·.filter fun rule => ¬ Machine.Owns vmName rule)
  others : ∀ nsg, nsg ≠ vmNsgName vmName → nsg ≠ getSubnetsNsgName reservationId →
    after.rulesOf nsg = before.rulesOf nsg

/-- The name of a machine occurs in no name or port range of another machine,
and not in the reservation id. -/
structure OccursOnlyInOwn (vmName reservationId : Text) (machines : List Machine) : Prop where
  names : ∀ machine ∈ machines, machine.vmName ≠ vmName → ¬ vmName <:+: machine.vmName
  ranges : ∀ machine ∈ machines, machine.vmName ≠ vmName →
    ∀ ruleData ∈ machine.inboundRules, ¬ vmName <:+: ruleData.portRange
  reservation : ¬ vmName <:+: reservationId

/-! ## Where a generated name occurs -/

section Names

variable {vmName other reservationId : Text}

theorem infix_vmNsgName_iff (generated : IsGeneratedName vmName) :
    vmName <:+: vmNsgName other ↔ vmName <:+: other := by
  have noDash : ¬ vmName <:+: "NSG".toList :=
    Text.not_infix_of_mem generated.dash_mem (by decide)
  have shape : vmNsgName other = "NSG".toList ++ '_' :: other := rfl
  rw [shape, Text.infix_append_cons_iff (generated.not_mem (by decide))]
  exact or_iff_right noDash

theorem infix_getSubnetsNsgName_iff (generated : IsGeneratedName vmName) :
    vmName <:+: getSubnetsNsgName reservationId ↔ vmName <:+: reservationId := by
  have noDash : ¬ vmName <:+: "NSG_sandbox_all_subnets".toList :=
    Text.not_infix_of_mem generated.dash_mem (by decide)
  have split : sandboxNsgName = "NSG_sandbox_all_subnets".toList ++ ['_'] := by
    decide
  rw [getSubnetsNsgName, split, List.append_assoc, List.singleton_append,
    Text.infix_append_cons_iff (generated.not_mem (by decide))]
  exact or_iff_right noDash

theorem inboundPortsRuleName_eq (generated : IsGeneratedName other) (ruleData : RuleData) :
    DeployAzureVMOperation.inboundPortsRuleName other ruleData =
      other ++ '_' :: ("inbound".toList ++ '_' :: ("ports".toList ++ ':' ::
        (ruleData.portRange ++ ':' :: ruleData.protocol))) := by
  have noBlank : other.filter (· ≠ ' ') = other := by
    apply List.filter_eq_self.mpr
    intro c member
    have isName := generated.shape.2 c member
    simp only [ne_eq, decide_not, Bool.not_eq_true', decide_eq_false_iff_not]
    rintro rfl
    exact absurd isName (by decide)
  rw [DeployAzureVMOperation.inboundPortsRuleName, noBlank]
  simp only [List.append_assoc]
  rfl

/-- A machine's name occurs in the name of an inbound rule where it occurs in the
name of the rule's machine or in the port range. -/
theorem infix_inboundPortsRuleName_iff (generated : IsGeneratedName vmName)
    (otherGenerated : IsGeneratedName other) {ruleData : RuleData}
    (protocol : ruleData.protocol = RulesAttributeParser.udp ∨
      ruleData.protocol = RulesAttributeParser.tcp) :
    vmName <:+: DeployAzureVMOperation.inboundPortsRuleName other ruleData ↔
      vmName <:+: other ∨ vmName <:+: ruleData.portRange := by
  have noUnderscore : '_' ∉ vmName := generated.not_mem (by decide)
  have noColon : ':' ∉ vmName := generated.not_mem (by decide)
  have absent : ∀ {word : Text}, '-' ∉ word → ¬ vmName <:+: word :=
    Text.not_infix_of_mem generated.dash_mem
  have noDash : '-' ∉ ruleData.protocol := by
    rcases protocol with equal | equal <;> rw [equal] <;> decide
  rw [inboundPortsRuleName_eq otherGenerated, Text.infix_append_cons_iff noUnderscore,
    Text.infix_append_cons_iff noUnderscore, Text.infix_append_cons_iff noColon,
    Text.infix_append_cons_iff noColon]
  have inbound : ¬ vmName <:+: "inbound".toList := absent (by decide)
  have ports : ¬ vmName <:+: "ports".toList := absent (by decide)
  simp only [inbound, ports, absent noDash, false_or, or_false]

/-- The owner of an inbound rule is the machine that its name starts with. -/
theorem owns_iff (generated : IsGeneratedName vmName) (otherGenerated : IsGeneratedName other)
    {rule : SecurityRule} {ruleData : RuleData}
    (named : rule.name = DeployAzureVMOperation.inboundPortsRuleName other ruleData) :
    Machine.Owns vmName rule ↔ vmName = other := by
  rw [Machine.Owns, named, inboundPortsRuleName_eq otherGenerated]
  constructor
  · rintro ⟨rest, split⟩
    rw [Machine.rulePrefix, List.append_assoc] at split
    exact Text.append_cons_left_inj (generated.not_mem (by decide))
      (otherGenerated.not_mem (by decide)) split
  · rintro rfl
    rw [Machine.rulePrefix, List.prefix_append_right_inj]
    exact List.prefix_append _ _

/-- The group of a machine is not taken for a group of subnets. -/
theorem not_sandbox_infix_vmNsgName (generated : IsGeneratedName other) :
    ¬ sandboxNsgName <:+: vmNsgName other := by
  intro occurs
  have fewer := occurs.sublist.count_le '_'
  have none_in : other.count '_' = 0 := List.count_eq_zero.mpr (generated.not_mem (by decide))
  have four : sandboxNsgName.count '_' = 4 := by decide
  have one : (vmNsgName other).count '_' = 1 := by
    rw [vmNsgName, List.count_append, none_in]
    decide
  omega

theorem sandbox_infix_getSubnetsNsgName (reservationId : Text) :
    sandboxNsgName <:+: getSubnetsNsgName reservationId :=
  (List.prefix_append _ _).isInfix

theorem vmNsgName_ne_getSubnetsNsgName (generated : IsGeneratedName other) :
    vmNsgName other ≠ getSubnetsNsgName reservationId := by
  intro same
  apply not_sandbox_infix_vmNsgName generated
  rw [same]
  exact sandbox_infix_getSubnetsNsgName reservationId

end Names

/-! ## The deletion -/

namespace HoldsMachines

variable {azure after : Azure} {reservationId : Text} {machines : List Machine}
  {machine : Machine}

/-- Where the machine's name occurs only in what is its own, an inbound rule
carries it exactly if it belongs to the machine. -/
theorem carries_iff_owns (own : OccursOnlyInOwn machine.vmName reservationId machines)
    {rule : SecurityRule}
    (known : (∃ plan isolationRule, (SandboxPlan.Opens plan isolationRule ∨
        isolationRule = plan.closing) ∧ rule.name = isolationRule.name) ∨
      ∃ other ∈ machines, ∃ ruleData ∈ other.inboundRules,
        rule.name = DeployAzureVMOperation.inboundPortsRuleName other.vmName ruleData) :
    machine.vmName <:+: rule.name ↔ Machine.Owns machine.vmName rule := by
  constructor
  · intro carries
    rcases known with ⟨plan, isolationRule, isRule, named⟩ |
      ⟨other, otherMem, ruleData, ruleMem, named⟩
    · rw [named] at carries
      exact absurd carries (SandboxPlan.not_infix_name machine.generated.shape.1 isRule)
    · rw [owns_iff machine.generated other.generated named]
      by_contra different
      rw [named, infix_inboundPortsRuleName_iff machine.generated other.generated
        (RulesAttributeParser.protocol_of_parsePortGroupAttribute other.parsed ruleMem)] at carries
      rcases carries with inName | inRange
      · exact own.names other otherMem (Ne.symm different) inName
      · exact own.ranges other otherMem (Ne.symm different) ruleData ruleMem inRange
  · intro owns
    exact ((List.prefix_append _ _).trans owns).isInfix

/-- The deletion is exact where the name occurs only in what is the machine's. -/
theorem removesOwn (holds : HoldsMachines azure reservationId machines)
    (own : OccursOnlyInOwn machine.vmName reservationId machines)
    (left : ∀ nsg, after.rulesOf nsg =
      (azure.rulesOf nsg).bind (NetworkService.withoutArtifacts machine.vmName nsg)) :
    RemovesOwn machine.vmName reservationId azure after where
  ownGroup := by
    have carries : machine.vmName <:+: vmNsgName machine.vmName :=
      (List.suffix_append _ _).isInfix
    rw [left]
    cases azure.rulesOf (vmNsgName machine.vmName) with
    | none => rfl
    | some rules => simp [NetworkService.withoutArtifacts, carries]
  subnetsGroup := by
    rcases holds.subnetsGroup with ⟨rules, present, known, _⟩
    have notCarried : ¬ machine.vmName <:+: getSubnetsNsgName reservationId := by
      rw [infix_getSubnetsNsgName_iff machine.generated]
      exact own.reservation
    have isSandbox := sandbox_infix_getSubnetsNsgName reservationId
    rw [left, present, Option.bind_some, Option.map_some, NetworkService.withoutArtifacts,
      if_neg notCarried, if_pos isSandbox, Option.some.injEq]
    apply List.filter_congr
    intro rule member
    rw [decide_eq_decide, not_iff_not]
    exact carries_iff_owns own (known rule member)
  others := by
    intro nsg notOwn notSubnets
    rw [left]
    cases present : azure.rulesOf nsg with
    | none => rfl
    | some rules =>
        obtain ⟨group, groupMem, rfl⟩ := Store.lookup_isSome_iff.mp
          (Option.isSome_map ▸ Option.isSome_iff_exists.mpr ⟨rules, present⟩)
        rcases holds.groups group groupMem with isSubnets | ⟨other, otherMem, named⟩
        · exact absurd isSubnets notSubnets
        · have different : other.vmName ≠ machine.vmName := by
            intro same
            exact notOwn (named.trans (congrArg vmNsgName same))
          have notCarried : ¬ machine.vmName <:+: group.name := by
            rw [named, infix_vmNsgName_iff machine.generated]
            exact own.names other otherMem different
          have notSandbox : ¬ sandboxNsgName <:+: group.name :=
            named ▸ not_sandbox_infix_vmNsgName other.generated
          rw [Option.bind_some, NetworkService.withoutArtifacts, if_neg notCarried,
            if_neg notSandbox]

/-- Where the deletion is exact the name occurs only in what is the machine's. -/
theorem occursOnlyInOwn (holds : HoldsMachines azure reservationId machines)
    (left : ∀ nsg, after.rulesOf nsg =
      (azure.rulesOf nsg).bind (NetworkService.withoutArtifacts machine.vmName nsg))
    (removes : RemovesOwn machine.vmName reservationId azure after) :
    OccursOnlyInOwn machine.vmName reservationId machines := by
  rcases holds.subnetsGroup with ⟨subnetsRules, subnetsPresent, _, opened⟩
  have reservation : ¬ machine.vmName <:+: reservationId := by
    intro occurs
    have gone := left (getSubnetsNsgName reservationId)
    rw [removes.subnetsGroup, subnetsPresent, Option.bind_some, NetworkService.withoutArtifacts,
      if_pos ((infix_getSubnetsNsgName_iff machine.generated).mpr occurs)] at gone
    cases gone
  constructor
  · intro other otherMem different occurs
    rcases holds.ownGroup other otherMem with ⟨rules, present⟩
    have kept := removes.others (vmNsgName other.vmName)
      (fun same => different (vmNsgName_injective same))
      (vmNsgName_ne_getSubnetsNsgName other.generated)
    rw [left, present, Option.bind_some, NetworkService.withoutArtifacts,
      if_pos ((infix_vmNsgName_iff machine.generated).mpr occurs)] at kept
    cases kept
  · intro other otherMem different ruleData ruleMem occurs
    rcases opened other otherMem ruleData ruleMem with ⟨rule, member, named⟩
    have notOwned : ¬ Machine.Owns machine.vmName rule := by
      rw [owns_iff machine.generated other.generated named]
      exact Ne.symm different
    have carried : machine.vmName <:+: rule.name := by
      rw [named, infix_inboundPortsRuleName_iff machine.generated other.generated
        (RulesAttributeParser.protocol_of_parsePortGroupAttribute other.parsed ruleMem)]
      exact Or.inr occurs
    have same := left (getSubnetsNsgName reservationId)
    rw [removes.subnetsGroup, subnetsPresent, Option.bind_some, Option.map_some,
      NetworkService.withoutArtifacts,
      if_neg (mt (infix_getSubnetsNsgName_iff machine.generated).mp reservation),
      if_pos (sandbox_infix_getSubnetsNsgName reservationId), Option.some.injEq] at same
    have inOwned : rule ∈ subnetsRules.filter fun rule => ¬ Machine.Owns machine.vmName rule := by
      simp [member, notOwned]
    rw [same] at inOwned
    simp [carried] at inOwned
  · exact reservation

end HoldsMachines

/-- Deleting the artifacts of one machine removes exactly the machine's group and
inbound rules if and only if the machine's name occurs in no other machine's name
or port ranges and not in the reservation id. -/
theorem deletes_only_own_artifacts_iff {azure : Azure} {reservationId : Text}
    {machines : List Machine} (holds : HoldsMachines azure reservationId machines)
    (machine : Machine) :
    ∃ after, run (Azure.handle false)
        (NetworkService.deleteNsgArtifactsAssociatedWithVm machine.vmName) azure =
          (.ok (), after) ∧
      (RemovesOwn machine.vmName reservationId azure after ↔
        OccursOnlyInOwn machine.vmName reservationId machines) := by
  obtain ⟨after, deleted, left⟩ :=
    NetworkService.run_deleteNsgArtifactsAssociatedWithVm machine.vmName holds.keyed
  refine ⟨after, deleted, ?_, ?_⟩
  · intro removes
    exact holds.occursOnlyInOwn left removes
  · intro own
    exact holds.removesOwn own left

/-! ## A resource group of given machines -/

namespace Machine

/-- The rule of the subnets' group for an inbound rule of the machine. -/
def subnetsRule (machine : Machine) (ruleData : RuleData) : SecurityRule :=
  prepareSecurityGroupRule
    (.ruleData { ruleData with
      name := some (DeployAzureVMOperation.inboundPortsRuleName machine.vmName ruleData) })
    "10.0.1.4".toList 1000 internet

theorem subnetsRule_name (machine : Machine) (ruleData : RuleData) :
    (machine.subnetsRule ruleData).name =
      DeployAzureVMOperation.inboundPortsRuleName machine.vmName ruleData := by
  simp [subnetsRule, prepareSecurityGroupRule, nameAt, InboundRule.name,
    DeployAzureVMOperation.inboundPortsRuleName_ne_nil]

/-- The groups of the machines, with their inbound rules in that of the subnets. -/
def holding (reservationId : Text) (machines : List Machine) : Azure :=
  { Azure.blank with
    networkSecurityGroups :=
      ⟨getSubnetsNsgName reservationId, machines.flatMap fun machine =>
        machine.inboundRules.map machine.subnetsRule⟩ ::
      machines.map fun machine => ⟨vmNsgName machine.vmName, []⟩ }

theorem holdsMachines_holding (reservationId : Text) {machines : List Machine}
    (different : (machines.map Machine.vmName).Nodup) :
    HoldsMachines (holding reservationId machines) reservationId machines := by
  have keyed : Store.Keyed NetworkSecurityGroup.name
      (holding reservationId machines).networkSecurityGroups := by
    rw [Store.Keyed, holding, List.map_cons, List.map_map, List.nodup_cons]
    constructor
    · intro member
      rcases List.mem_map.mp member with ⟨machine, _, same⟩
      exact vmNsgName_ne_getSubnetsNsgName machine.generated same
    · have names := different.map vmNsgName_injective
      rwa [List.map_map] at names
  have rulesOf_mem : ∀ nsg ∈ (holding reservationId machines).networkSecurityGroups,
      (holding reservationId machines).rulesOf nsg.name = some nsg.securityRules := by
    intro nsg member
    rw [Azure.rulesOf, keyed.lookup_eq_some_iff.mpr ⟨member, rfl⟩]
    rfl
  constructor
  · exact different
  · exact keyed
  · intro nsg member
    rcases List.mem_cons.mp member with rfl | inMachines
    · exact Or.inl rfl
    · rcases List.mem_map.mp inMachines with ⟨machine, machineMem, rfl⟩
      exact Or.inr ⟨machine, machineMem, rfl⟩
  · intro machine machineMem
    exact ⟨[], rulesOf_mem ⟨_, _⟩ (List.mem_cons_of_mem _ (List.mem_map_of_mem machineMem))⟩
  · refine ⟨_, rulesOf_mem _ List.mem_cons_self, ?_, ?_⟩
    · intro rule member
      rcases List.mem_flatMap.mp member with ⟨machine, machineMem, opened⟩
      rcases List.mem_map.mp opened with ⟨ruleData, ruleMem, rfl⟩
      exact Or.inr ⟨machine, machineMem, ruleData, ruleMem, machine.subnetsRule_name ruleData⟩
    · intro machine machineMem ruleData ruleMem
      refine ⟨machine.subnetsRule ruleData, ?_, machine.subnetsRule_name ruleData⟩
      exact List.mem_flatMap.mpr ⟨machine, machineMem, List.mem_map_of_mem ruleMem⟩

end Machine

/-- The machine of the app `web`. -/
def webMachine : Machine where
  vmName := "web-0a1b2c3d".toList
  generated := ⟨[], "web".toList, "0a1b2c3d".toList, 64, by decide, by decide⟩
  inboundPorts := "80".toList
  inboundRules := [{ protocol := RulesAttributeParser.tcp, port := some "80".toList }]
  parsed := by decide

/-- The machine of an app that is named like the machine of `web`. -/
def namesakeMachine : Machine where
  vmName := "web-0a1b2c3d-11223344".toList
  generated := ⟨[], "web-0a1b2c3d".toList, "11223344".toList, 64, by decide, by decide⟩
  inboundPorts := "22".toList
  inboundRules := [{ protocol := RulesAttributeParser.tcp, port := some "22".toList }]
  parsed := by decide

theorem deletes_only_own_artifacts_example :
    let machines := [webMachine, namesakeMachine]
    let azure := Machine.holding "reservation".toList machines
    ∃ after, run (Azure.handle false)
        (NetworkService.deleteNsgArtifactsAssociatedWithVm namesakeMachine.vmName) azure =
          (.ok (), after) ∧
      (RemovesOwn namesakeMachine.vmName "reservation".toList azure after ↔
        OccursOnlyInOwn namesakeMachine.vmName "reservation".toList machines) := by
  intro machines azure
  have different : (machines.map Machine.vmName).Nodup := by
    decide
  exact deletes_only_own_artifacts_iff (Machine.holdsMachines_holding _ different) namesakeMachine

/-- Deleting the machine of `web` also deletes the group of its namesake. -/
theorem deletes_artifacts_of_namesake :
    let machines := [webMachine, namesakeMachine]
    let azure := Machine.holding "reservation".toList machines
    HoldsMachines azure "reservation".toList machines ∧
      ∃ after, run (Azure.handle false)
          (NetworkService.deleteNsgArtifactsAssociatedWithVm webMachine.vmName) azure =
            (.ok (), after) ∧
        ¬ RemovesOwn webMachine.vmName "reservation".toList azure after := by
  intro machines azure
  have different : (machines.map Machine.vmName).Nodup := by
    decide
  have holds := Machine.holdsMachines_holding "reservation".toList different
  obtain ⟨after, deleted, left⟩ :=
    NetworkService.run_deleteNsgArtifactsAssociatedWithVm webMachine.vmName holds.keyed
  refine ⟨holds, after, deleted, ?_⟩
  intro removes
  have own := holds.occursOnlyInOwn left removes
  exact own.names namesakeMachine (List.mem_cons_of_mem _ List.mem_cons_self) (by decide) (by decide)

end AzureShell
