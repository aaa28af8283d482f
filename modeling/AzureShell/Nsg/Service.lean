import AzureShell.Azure.Retrying
import AzureShell.Nsg.Priority
import AzureShell.Nsg.Rule

/-!
# The security group service

The writers of security groups: creation of a list of rules under the group's
lock, deletion of the custom rules, and the deletion of everything that carries
a machine's name.  Each program comes with what it leaves when it runs alone.
-/

namespace AzureShell

open Prog

namespace SecurityGroupService

def sandboxNsgName : Text :=
  "NSG_sandbox_all_subnets_".toList

/-- `get_subnets_nsg_name`. -/
def getSubnetsNsgName (reservationId : Text) : Text :=
  sandboxNsgName ++ reservationId

/-- The name of a machine's security group. -/
def vmNsgName (vmName : Text) : Text :=
  "NSG_".toList ++ vmName

theorem vmNsgName_injective : Function.Injective vmNsgName :=
  fun _ _ same => List.append_cancel_left same

/-- `create_network_security_group`. -/
def createNetworkSecurityGroup (securityGroupName : Text) : Shell Unit :=
  retryConnection (send (.putNetworkSecurityGroup securityGroupName))

/-- `create_network_security_group_rule`. -/
def createNetworkSecurityGroupRule (securityGroupName : Text) (ruleData : InboundRule)
    (destinationAddr : Text) (priority : Int) (sourceAddress : Text) : Shell Unit :=
  retryConnection <| send <| .putSecurityRule securityGroupName <|
    prepareSecurityGroupRule ruleData destinationAddr priority sourceAddress

/-- The loop over `inbound_rules`, each with the next priority. -/
def createRules (securityGroupName destinationAddr sourceAddress : Text) :
    List InboundRule → PriorityGenerator → Shell Unit
  | [], _ => pure ()
  | ruleData :: rest, priorityGenerator =>
      match nextPriority priorityGenerator with
      | some (priority, priorityGenerator) => do
          createNetworkSecurityGroupRule securityGroupName ruleData destinationAddr priority
            sourceAddress
          createRules securityGroupName destinationAddr sourceAddress rest priorityGenerator
      | none => raise (.indexError "list index out of range".toList)

/-- `create_network_security_group_rules`. -/
def createNetworkSecurityGroupRules (securityGroupName : Text) (inboundRules : List InboundRule)
    (destinationAddr : Text) (lock : LockName) (startFrom : Option Int := none)
    (sourceAddress : Text := internet) : Shell Unit :=
  retryConnection <| withLock lock do
    let securityRules ← send (.listSecurityRules securityGroupName)
    let priorityGenerator := rulePriorityGenerator
      (securityRules.map SecurityRule.priority) (startFrom.getD ruleDefaultPriority)
    createRules securityGroupName destinationAddr sourceAddress inboundRules priorityGenerator

def customRule : Text :=
  "custom_rule".toList

/-- `delete_custom_security_rules_from_nsg`: the rules are listed before the
lock is taken. -/
def deleteCustomSecurityRulesFromNsg (networkSecurityGroupName : Text) (lock : LockName) :
    Shell Unit :=
  retryConnection do
    let rulesInNsg ← send (.listSecurityRules networkSecurityGroupName)
    let customRules := rulesInNsg.filter fun rule => customRule <:+: rule.name
    withLock lock <| forEach customRules fun rule =>
      send (.deleteSecurityRule networkSecurityGroupName rule.name)

end SecurityGroupService

namespace NetworkService

open SecurityGroupService

/-- `delete_nsg_artifacts_associated_with_vm`. -/
def deleteNsgArtifactsAssociatedWithVm (vmName : Text) : Shell Unit :=
  retryConnection do
    let networkSecurityGroups ← send .listNetworkSecurityGroups
    forEach networkSecurityGroups fun nsg => do
      when (vmName <:+: nsg.name) <| send (.deleteNetworkSecurityGroup nsg.name)
      when (sandboxNsgName <:+: nsg.name) <| forEach nsg.securityRules fun rule =>
        when (vmName <:+: rule.name) <| send (.deleteSecurityRule nsg.name rule.name)

end NetworkService

namespace Azure

/-! ## Rules under the writes -/

variable (azure : Azure) {nsg other : Text}

@[simp]
theorem rulesOf_logCreated (resource : Resource) :
    (azure.logCreated resource).rulesOf nsg = azure.rulesOf nsg :=
  rfl

theorem rulesOf_modifyRules_self (change : List SecurityRule → List SecurityRule) :
    (azure.modifyRules nsg change).rulesOf nsg = (azure.rulesOf nsg).map change := by
  simp only [rulesOf, modifyRules, onSecurityGroups]
  rw [Store.lookup_modify_self (by intro group; rfl), Option.map_map, Option.map_map]
  rfl

theorem rulesOf_modifyRules_of_ne (different : other ≠ nsg)
    (change : List SecurityRule → List SecurityRule) :
    (azure.modifyRules nsg change).rulesOf other = azure.rulesOf other := by
  simp only [rulesOf, modifyRules, onSecurityGroups]
  rw [Store.lookup_modify_of_ne different (by intro group; rfl)]

/-- Create or replace one rule of a group. -/
def putRule (nsg : Text) (azure : Azure) (rule : SecurityRule) : Azure :=
  (azure.modifyRules nsg (Store.upsert SecurityRule.name rule)).logCreated
    (.securityRule nsg rule.name)

/-- Create or replace rules of a group, in order. -/
def putRules (nsg : Text) (rules : List SecurityRule) (azure : Azure) : Azure :=
  rules.foldl (putRule nsg) azure

/-- Create or replace rules in a list of rules, in order. -/
def upsertAll (added rules : List SecurityRule) : List SecurityRule :=
  added.foldl (fun rules rule => Store.upsert SecurityRule.name rule rules) rules

theorem rulesOf_putRule_self (rule : SecurityRule) :
    (azure.putRule nsg rule).rulesOf nsg =
      (azure.rulesOf nsg).map (Store.upsert SecurityRule.name rule) :=
  azure.rulesOf_modifyRules_self _

theorem rulesOf_putRules_self (added : List SecurityRule) :
    (azure.putRules nsg added).rulesOf nsg = (azure.rulesOf nsg).map (upsertAll added) := by
  induction added generalizing azure with
  | nil => exact Option.map_id_apply.symm
  | cons rule added ih =>
      have later := ih (azure.putRule nsg rule)
      rw [rulesOf_putRule_self, Option.map_map] at later
      exact later

theorem rulesOf_putRules_of_ne (different : other ≠ nsg) (added : List SecurityRule) :
    (azure.putRules nsg added).rulesOf other = azure.rulesOf other := by
  induction added generalizing azure with
  | nil => rfl
  | cons rule added ih =>
      exact (ih (azure.putRule nsg rule)).trans (azure.rulesOf_modifyRules_of_ne different _)

/-- A rule left by a series of writes is one of the written rules or an old one. -/
theorem mem_upsertAll {added rules : List SecurityRule} {rule : SecurityRule}
    (member : rule ∈ upsertAll added rules) : rule ∈ added ∨ rule ∈ rules := by
  induction added generalizing rules with
  | nil => exact Or.inr member
  | cons first added ih =>
      rcases ih member with written | kept
      · exact Or.inl (List.mem_cons_of_mem first written)
      · rcases Store.mem_upsert_iff.mp kept with rfl | ⟨old, _⟩
        · exact Or.inl List.mem_cons_self
        · exact Or.inr old

end Azure

namespace SecurityGroupService

variable {strict : Bool} {azure : Azure} {nsg destinationAddr sourceAddress : Text}

/-! ## What the writers leave -/

/-- A new group has no rules. -/
theorem run_createNetworkSecurityGroup (strict : Bool) (nsg : Text) (azure : Azure) :
    ∃ after, run (Azure.handle strict) (createNetworkSecurityGroup nsg) azure = (.ok (), after) ∧
      after.rulesOf nsg = some [] ∧ after.cancellations = azure.cancellations := by
  let group : NetworkSecurityGroup := ⟨nsg, []⟩
  refine ⟨(azure.onSecurityGroups (Store.upsert NetworkSecurityGroup.name group)).logCreated
    (.networkSecurityGroup nsg), run_retry_of_ok rfl, ?_, rfl⟩
  have stored : Store.lookup NetworkSecurityGroup.name nsg
      (Store.upsert NetworkSecurityGroup.name group azure.networkSecurityGroups) = some group :=
    Store.lookup_upsert_self group azure.networkSecurityGroups
  exact congrArg (Option.map NetworkSecurityGroup.securityRules) stored

/-- The security rules made of a list of requested rules. -/
def plannedRules (destinationAddr sourceAddress : Text) :
    List InboundRule → PriorityGenerator → List SecurityRule
  | [], _ => []
  | ruleData :: rest, priorityGenerator =>
      match nextPriority priorityGenerator with
      | some (priority, priorityGenerator) =>
          prepareSecurityGroupRule ruleData destinationAddr priority sourceAddress ::
            plannedRules destinationAddr sourceAddress rest priorityGenerator
      | none => []

theorem run_createNetworkSecurityGroupRule {rules : List SecurityRule}
    (present : azure.rulesOf nsg = some rules) (ruleData : InboundRule) (priority : Int) :
    run (Azure.handle strict)
        (createNetworkSecurityGroupRule nsg ruleData destinationAddr priority sourceAddress) azure =
      (.ok (), azure.putRule nsg
        (prepareSecurityGroupRule ruleData destinationAddr priority sourceAddress)) := by
  apply run_retry_of_ok
  refine (run_send _ _ _).trans ?_
  simp [Azure.handle, present, Azure.putRule]

/-- Along a generator that tracks its list, every requested rule gets one
security rule. -/
theorem run_createRules {rules : List SecurityRule} {used : Int → Prop}
    {generator : PriorityGenerator} (present : azure.rulesOf nsg = some rules)
    (tracks : Tracks generator used) (inboundRules : List InboundRule) :
    run (Azure.handle strict)
        (createRules nsg destinationAddr sourceAddress inboundRules generator) azure =
      (.ok (), azure.putRules nsg
        (plannedRules destinationAddr sourceAddress inboundRules generator)) := by
  induction inboundRules generalizing azure rules used generator with
  | nil => rfl
  | cons ruleData rest ih =>
      rcases tracks.next with ⟨priority, after, yielded, _, tracksAfter⟩
      simp only [createRules, plannedRules, yielded]
      rw [run_bind_of_ok (run_createNetworkSecurityGroupRule present ruleData priority)]
      let rule := prepareSecurityGroupRule ruleData destinationAddr priority sourceAddress
      have stillPresent : (azure.putRule nsg rule).rulesOf nsg =
          some (Store.upsert SecurityRule.name rule rules) := by
        rw [Azure.rulesOf_putRule_self, present, Option.map_some]
      exact ih stillPresent tracksAfter

/-- The rules `create_network_security_group_rules` writes into a group. -/
def rulesToCreate (rules : List SecurityRule) (inboundRules : List InboundRule)
    (destinationAddr : Text) (startFrom : Option Int) (sourceAddress : Text) :
    List SecurityRule :=
  plannedRules destinationAddr sourceAddress inboundRules
    (rulePriorityGenerator (rules.map SecurityRule.priority)
      (startFrom.getD ruleDefaultPriority))

/-- Rule creation on an existing group writes one rule for each requested one. -/
theorem run_createNetworkSecurityGroupRules {rules : List SecurityRule}
    (present : azure.rulesOf nsg = some rules) (inboundRules : List InboundRule)
    (lock : LockName) (startFrom : Option Int) :
    run (Azure.handle strict)
        (createNetworkSecurityGroupRules nsg inboundRules destinationAddr lock startFrom
          sourceAddress) azure =
      (.ok (), azure.putRules nsg
        (rulesToCreate rules inboundRules destinationAddr startFrom sourceAddress)) := by
  apply run_retry_of_ok
  rw [run_withLock]
  have listed : run (Azure.handle strict) (send (.listSecurityRules nsg)) azure =
      (.ok rules, azure) := by
    refine (run_send _ _ _).trans ?_
    simp [Azure.handle, present]
  rw [run_bind_of_ok listed]
  exact run_createRules present (tracks_rulePriorityGenerator _ _) inboundRules

end SecurityGroupService

end AzureShell
