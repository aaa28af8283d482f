import AzureShell.Azure.Resources
import AzureShell.Nsg.Service

/-!
# What a request does to the rules of a group

Seen from the rules of one group, few requests write: creating, replacing and
deleting a rule of the group, creating and deleting the group itself, and
deleting the resource group.  Every other request leaves the rules alone.
-/

namespace AzureShell

open Prog

/-- The effect of a request on the rules of a group, if the group exists. -/
def Request.onRules (nsg : Text) (request : Request)
    (rules : Option (List SecurityRule)) : Option (List SecurityRule) :=
  match request with
  | .putSecurityRule group rule =>
      if group = nsg then rules.map (Store.upsert SecurityRule.name rule) else rules
  | .deleteSecurityRule group name =>
      if group = nsg then rules.map (Store.erase SecurityRule.name name) else rules
  | .putNetworkSecurityGroup group => if group = nsg then some [] else rules
  | .deleteNetworkSecurityGroup group => if group = nsg then none else rules
  | .deleteResourceGroup _ => none
  | _ => rules

namespace Azure

theorem rulesOf_modifyRules (azure : Azure) (nsg group : Text)
    (change : List SecurityRule → List SecurityRule) :
    (azure.modifyRules group change).rulesOf nsg =
      if group = nsg then (azure.rulesOf nsg).map change else azure.rulesOf nsg := by
  by_cases same : group = nsg
  · subst same
    rw [if_pos rfl, rulesOf_modifyRules_self]
  · rw [if_neg same, rulesOf_modifyRules_of_ne _ (Ne.symm same)]

/-- The handler changes the rules of a group as the request says. -/
theorem rulesOf_handle (strict : Bool) (request : Request) (azure : Azure) (nsg : Text) :
    (handle strict request azure).2.rulesOf nsg = request.onRules nsg (azure.rulesOf nsg) := by
  cases request with
  | putSecurityRule group rule =>
      simp only [handle, Request.onRules]
      split
      · exact azure.rulesOf_modifyRules nsg group _
      · rename_i absent
        have none_of : azure.rulesOf group = none := by simpa using absent
        by_cases same : group = nsg
        · subst same
          simp [none_of]
        · simp [same]
  | deleteSecurityRule group name => exact azure.rulesOf_modifyRules nsg group _
  | putNetworkSecurityGroup group =>
      simp only [Request.onRules]
      by_cases same : group = nsg
      · subst same
        rw [if_pos rfl]
        exact congrArg (Option.map NetworkSecurityGroup.securityRules)
          (Store.lookup_upsert_self (NetworkSecurityGroup.mk group []) _)
      · rw [if_neg same]
        exact congrArg (Option.map NetworkSecurityGroup.securityRules)
          (Store.lookup_upsert_of_ne (Ne.symm same) _)
  | deleteNetworkSecurityGroup group =>
      simp only [Request.onRules]
      by_cases same : group = nsg
      · subst same
        rw [if_pos rfl]
        exact congrArg (Option.map NetworkSecurityGroup.securityRules)
          (Store.lookup_erase_self group _)
      · rw [if_neg same]
        exact congrArg (Option.map NetworkSecurityGroup.securityRules)
          (Store.lookup_erase_of_ne (Ne.symm same) _)
  | checkoutFromPool poolId reservationId ownerId subnetRange =>
      simp only [handle, Request.onRules]
      split <;> rfl
  | putSubnet group network subnet =>
      rcases handle_putSubnet strict group network subnet azure with ⟨changed, same⟩
      rw [same]
      rfl
  | _ => rfl

end Azure

end AzureShell
