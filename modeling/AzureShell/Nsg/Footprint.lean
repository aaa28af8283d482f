import AzureShell.Nsg.Service
import AzureShell.Prog.Footprint

/-!
# The requests of the security group service

Each writer of security groups makes few kinds of requests, whatever it reads
on the way: a creation writes the requested rules into its own group, the
deletion of custom rules deletes rules whose names say so, and the deletion of
a machine's artifacts deletes groups and rules that carry the machine's name.
-/

namespace AzureShell

open Prog

namespace SecurityGroupService

variable {nsg destinationAddr sourceAddress : Text} {inboundRules : List InboundRule}

/-- List the rules of the group, or write a rule made of a requested one. -/
def CreatesRules (nsg : Text) (inboundRules : List InboundRule)
    (destinationAddr sourceAddress : Text) (request : Request) : Prop :=
  request = .listSecurityRules nsg ∨
    ∃ ruleData ∈ inboundRules, ∃ priority, request = .putSecurityRule nsg
      (prepareSecurityGroupRule ruleData destinationAddr priority sourceAddress)

/-- List the rules of the group, or delete a rule with the custom mark. -/
def DeletesCustomRules (nsg : Text) (request : Request) : Prop :=
  request = .listSecurityRules nsg ∨
    ∃ name, customRule <:+: name ∧ request = .deleteSecurityRule nsg name

theorem createRules_within {wanted : List InboundRule} {generator : PriorityGenerator}
    (included : ∀ ruleData ∈ wanted, ruleData ∈ inboundRules) :
    Within (CreatesRules nsg inboundRules destinationAddr sourceAddress)
      (createRules nsg destinationAddr sourceAddress wanted generator) := by
  induction wanted generalizing generator with
  | nil => trivial
  | cons ruleData rest ih =>
      rw [createRules]
      split
      · rename_i priority after _
        apply Within.bind
        · apply Within.retry
          apply within_perform
          exact Or.inr ⟨ruleData, included ruleData List.mem_cons_self, priority, rfl⟩
        · intro _
          exact ih fun other member => included other (List.mem_cons_of_mem ruleData member)
      · trivial

theorem createNetworkSecurityGroupRules_within (lock : LockName) (startFrom : Option Int) :
    Within (CreatesRules nsg inboundRules destinationAddr sourceAddress)
      (createNetworkSecurityGroupRules nsg inboundRules destinationAddr lock startFrom
        sourceAddress) := by
  apply Within.retry
  apply Within.withLock
  apply Within.bind
  · exact within_perform (Or.inl rfl)
  · intro securityRules
    exact createRules_within fun _ member => member

theorem deleteCustomSecurityRulesFromNsg_within (lock : LockName) :
    Within (DeletesCustomRules nsg) (deleteCustomSecurityRulesFromNsg nsg lock) := by
  apply Within.retry
  apply Within.bind
  · exact within_perform (Or.inl rfl)
  · intro rulesInNsg
    apply Within.withLock
    apply Within.forEach
    intro rule member
    apply within_perform
    exact Or.inr ⟨rule.name, by simpa using (List.mem_filter.mp member).2, rfl⟩

end SecurityGroupService

namespace NetworkService

open SecurityGroupService

/-- List the groups, delete a group that carries the machine's name, or delete
such a rule from a group of subnets. -/
def DeletesNsgArtifacts (vmName : Text) (request : Request) : Prop :=
  request = .listNetworkSecurityGroups ∨
    (∃ name, vmName <:+: name ∧ request = .deleteNetworkSecurityGroup name) ∨
    ∃ nsg name, sandboxNsgName <:+: nsg ∧ vmName <:+: name ∧
      request = .deleteSecurityRule nsg name

theorem deleteNsgArtifactsAssociatedWithVm_within (vmName : Text) :
    Within (DeletesNsgArtifacts vmName) (deleteNsgArtifactsAssociatedWithVm vmName) := by
  apply Within.retry
  apply Within.bind
  · exact within_perform (Or.inl rfl)
  · intro networkSecurityGroups
    apply Within.forEach
    intro nsg _
    apply Within.bind
    · apply Within.when
      intro carries
      exact within_perform (Or.inr (Or.inl ⟨_, carries, rfl⟩))
    · intro _
      apply Within.when
      intro isSandbox
      apply Within.forEach
      intro rule _
      apply Within.when
      intro carries
      exact within_perform (Or.inr (Or.inr ⟨_, _, isSandbox, carries, rfl⟩))

end NetworkService

end AzureShell
