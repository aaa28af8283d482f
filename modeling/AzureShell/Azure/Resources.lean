import AzureShell.Azure.Service

/-!
# Resources under requests

Which resource a request creates, and which resources exist after it: a request
that creates nothing brings nothing into being, and a machine or a security
group stays until it is deleted by its name.
-/

namespace AzureShell

/-- The resource a request creates or replaces. -/
def Request.creates : Request → Option Resource
  | .putSecurityRule nsg rule => some (.securityRule nsg rule.name)
  | .putNetworkSecurityGroup name => some (.networkSecurityGroup name)
  | .putVirtualMachine vm => some (.virtualMachine vm.name)
  | .putNetworkInterface parameters => some (.networkInterface parameters.name)
  | .putPublicIpAddress name => some (.publicIpAddress name)
  | _ => none

/-- Whether a request deletes a resource. -/
def Request.deletes : Request → Bool
  | .deleteSecurityRule _ _ => true
  | .deleteNetworkSecurityGroup _ => true
  | .deleteVirtualMachine _ => true
  | .deleteNetworkInterface _ => true
  | .deletePublicIpAddress _ => true
  | .deleteDisk _ => true
  | .deleteSubnet _ _ _ => true
  | .deleteResourceGroup _ => true
  | _ => false

/-- The request deletes nothing, and what it creates is planned. -/
structure Builds (planned : Resource → Prop) (request : Request) : Prop where
  creates : ∀ resource, request.creates = some resource → planned resource
  deletes : request.deletes = false

/-- A request that neither creates nor deletes. -/
theorem builds_of_reads {planned : Resource → Prop} {request : Request}
    (creates : request.creates = none) (deletes : request.deletes = false) :
    Builds planned request where
  creates := by
    intro resource isCreated
    rw [creates] at isCreated
    contradiction
  deletes := deletes

namespace Azure

variable {strict : Bool} {request : Request} {azure : Azure}

/-- A subnet request changes virtual networks only. -/
theorem handle_putSubnet (strict : Bool) (group network : Text) (subnet : Subnet) (azure : Azure) :
    ∃ changed, (handle strict (.putSubnet group network subnet) azure).2 =
      { azure with virtualNetworks := changed } := by
  simp only [handle]
  split
  · exact ⟨azure.virtualNetworks, rfl⟩
  · split
    · exact ⟨azure.virtualNetworks, rfl⟩
    · exact ⟨_, rfl⟩

/-- A request logs the resource it creates, and nothing else. -/
theorem created_handle (strict : Bool) (request : Request) (azure : Azure) :
    (handle strict request azure).2.created = azure.created ∨
      ∃ resource, request.creates = some resource ∧
        (handle strict request azure).2.created = resource :: azure.created := by
  cases request with
  | putSecurityRule nsg rule =>
      simp only [handle]
      split
      · exact Or.inr ⟨_, rfl, rfl⟩
      · exact Or.inl rfl
  | putNetworkSecurityGroup name => exact Or.inr ⟨_, rfl, rfl⟩
  | putVirtualMachine vm => exact Or.inr ⟨_, rfl, rfl⟩
  | putNetworkInterface parameters => exact Or.inr ⟨_, rfl, rfl⟩
  | putPublicIpAddress name => exact Or.inr ⟨_, rfl, rfl⟩
  | checkoutFromPool poolId reservationId ownerId subnetRange =>
      simp only [handle]
      split <;> exact Or.inl rfl
  | putSubnet group network subnet =>
      rcases handle_putSubnet strict group network subnet azure with ⟨changed, same⟩
      rw [same]
      exact Or.inl rfl
  | _ => exact Or.inl rfl

theorem created_handle_of_creates_none (creates : request.creates = none) :
    (handle strict request azure).2.created = azure.created := by
  rcases created_handle strict request azure with same | ⟨resource, isCreated, _⟩
  · exact same
  · rw [creates] at isCreated
    contradiction

/-- Only planned resources are logged by requests that create planned ones. -/
theorem created_subset_handle {planned : Resource → Prop}
    (creates : ∀ resource, request.creates = some resource → planned resource)
    (before : ∀ resource ∈ azure.created, planned resource) :
    ∀ resource ∈ (handle strict request azure).2.created, planned resource := by
  rcases created_handle strict request azure with same | ⟨resource, isCreated, logged⟩
  · rw [same]
    exact before
  · rw [logged]
    exact List.forall_mem_cons.mpr ⟨creates resource isCreated, before⟩

/-! ## Deletions -/

private theorem exists_of_exists_modifyRules {nsg name : Text} {resource : Resource}
    (remains : (azure.modifyRules nsg (Store.erase SecurityRule.name name)).Exists resource) :
    azure.Exists resource := by
  cases resource with
  | networkSecurityGroup other =>
      rcases remains with ⟨group, member, named⟩
      rcases List.mem_map.mp member with ⟨before, beforeMem, rfl⟩
      refine ⟨before, beforeMem, ?_⟩
      split at named <;> exact named
  | securityRule other rule =>
      rcases remains with ⟨group, member, named, kept, keptMem, keptName⟩
      rcases List.mem_map.mp member with ⟨before, beforeMem, rfl⟩
      refine ⟨before, beforeMem, ?_, kept, ?_, keptName⟩
      · split at named <;> exact named
      · split at keptMem
        · exact (Store.mem_erase_iff.mp keptMem).1
        · exact keptMem
  | virtualMachine other => exact remains
  | networkInterface other => exact remains
  | publicIpAddress other => exact remains

/-- A request that creates nothing brings nothing into being. -/
theorem exists_of_exists_handle (creates : request.creates = none) {resource : Resource}
    (remains : (handle strict request azure).2.Exists resource) : azure.Exists resource := by
  cases request with
  | putSecurityRule nsg rule => cases creates
  | putNetworkSecurityGroup name => cases creates
  | putVirtualMachine vm => cases creates
  | putNetworkInterface parameters => cases creates
  | putPublicIpAddress name => cases creates
  | deleteSecurityRule nsg rule => exact exists_of_exists_modifyRules remains
  | deleteNetworkSecurityGroup name =>
      cases resource with
      | networkSecurityGroup other =>
          rcases remains with ⟨group, member, named⟩
          exact ⟨group, (Store.mem_erase_iff.mp member).1, named⟩
      | securityRule other rule =>
          rcases remains with ⟨group, member, kept⟩
          exact ⟨group, (Store.mem_erase_iff.mp member).1, kept⟩
      | _ => exact remains
  | deleteVirtualMachine name =>
      cases resource with
      | virtualMachine other =>
          rcases remains with ⟨vm, member, named⟩
          exact ⟨vm, (Store.mem_erase_iff.mp member).1, named⟩
      | _ => exact remains
  | deleteNetworkInterface name =>
      cases resource with
      | networkInterface other =>
          rcases remains with ⟨nic, member, named⟩
          exact ⟨nic, (Store.mem_erase_iff.mp member).1, named⟩
      | _ => exact remains
  | deletePublicIpAddress name =>
      cases resource with
      | publicIpAddress other =>
          rcases remains with ⟨ip, member, named⟩
          exact ⟨ip, (Store.mem_erase_iff.mp member).1, named⟩
      | _ => exact remains
  | checkoutFromPool poolId reservationId ownerId subnetRange =>
      simp only [handle] at remains
      split at remains <;> exact remains
  | putSubnet group network subnet =>
      rcases handle_putSubnet strict group network subnet azure with ⟨changed, same⟩
      rw [same] at remains
      cases resource <;> exact remains
  | deleteResourceGroup name =>
      cases resource <;> obtain ⟨_, none, _⟩ := remains <;> cases none
  | _ => exact remains

/-- A deleted machine, interface, address, group or rule is gone. -/
theorem not_exists_deleteVirtualMachine (name : Text) :
    ¬ (handle strict (.deleteVirtualMachine name) azure).2.Exists (.virtualMachine name) := by
  rintro ⟨vm, member, named⟩
  exact (Store.mem_erase_iff.mp member).2 named

theorem not_exists_deleteNetworkInterface (name : Text) :
    ¬ (handle strict (.deleteNetworkInterface name) azure).2.Exists (.networkInterface name) := by
  rintro ⟨nic, member, named⟩
  exact (Store.mem_erase_iff.mp member).2 named

theorem not_exists_deletePublicIpAddress (name : Text) :
    ¬ (handle strict (.deletePublicIpAddress name) azure).2.Exists (.publicIpAddress name) := by
  rintro ⟨ip, member, named⟩
  exact (Store.mem_erase_iff.mp member).2 named

theorem not_exists_deleteNetworkSecurityGroup (name : Text) :
    ¬ (handle strict (.deleteNetworkSecurityGroup name) azure).2.Exists
      (.networkSecurityGroup name) := by
  rintro ⟨group, member, named⟩
  exact (Store.mem_erase_iff.mp member).2 named

theorem not_exists_deleteSecurityRule (nsg name : Text) :
    ¬ (handle strict (.deleteSecurityRule nsg name) azure).2.Exists (.securityRule nsg name) := by
  rintro ⟨group, member, named, rule, ruleMem, ruleName⟩
  rcases List.mem_map.mp member with ⟨before, _, rfl⟩
  split at named
  · rename_i isGroup
    rw [if_pos isGroup] at ruleMem
    exact (Store.mem_erase_iff.mp ruleMem).2 ruleName
  · rename_i notGroup
    exact notGroup named

/-! ## What stays -/

/-- A machine stays until it is deleted. -/
theorem exists_virtualMachine_handle {name : Text}
    (kept : request ≠ .deleteVirtualMachine name)
    (groupKept : ∀ group, request ≠ .deleteResourceGroup group)
    (present : azure.Exists (.virtualMachine name)) :
    (handle strict request azure).2.Exists (.virtualMachine name) := by
  cases request with
  | putSecurityRule nsg rule =>
      simp only [handle]
      split <;> exact present
  | putVirtualMachine vm =>
      rcases present with ⟨old, member, named⟩
      by_cases same : old.name = vm.name
      · exact ⟨vm, Store.mem_upsert_self vm _, same.symm.trans named⟩
      · exact ⟨old, Store.mem_upsert_iff.mpr (Or.inr ⟨member, same⟩), named⟩
  | deleteVirtualMachine other =>
      rcases present with ⟨old, member, named⟩
      refine ⟨old, Store.mem_erase_iff.mpr ⟨member, ?_⟩, named⟩
      rintro rfl
      exact kept (congrArg Request.deleteVirtualMachine named)
  | checkoutFromPool poolId reservationId ownerId subnetRange =>
      simp only [handle]
      split <;> exact present
  | putSubnet group network subnet =>
      rcases handle_putSubnet strict group network subnet azure with ⟨changed, same⟩
      rw [same]
      exact present
  | deleteResourceGroup group => exact absurd rfl (groupKept group)
  | _ => exact present

private theorem exists_nsg_modifyRules {name nsg : Text}
    {change : List SecurityRule → List SecurityRule}
    (present : azure.Exists (.networkSecurityGroup name)) :
    (azure.modifyRules nsg change).Exists (.networkSecurityGroup name) := by
  rcases present with ⟨group, member, named⟩
  refine ⟨_, List.mem_map_of_mem member, ?_⟩
  split <;> exact named

/-- A security group stays until it is deleted. -/
theorem exists_networkSecurityGroup_handle {name : Text}
    (kept : request ≠ .deleteNetworkSecurityGroup name)
    (groupKept : ∀ group, request ≠ .deleteResourceGroup group)
    (present : azure.Exists (.networkSecurityGroup name)) :
    (handle strict request azure).2.Exists (.networkSecurityGroup name) := by
  cases request with
  | putSecurityRule nsg rule =>
      simp only [handle]
      split
      · exact exists_nsg_modifyRules present
      · exact present
  | deleteSecurityRule nsg rule => exact exists_nsg_modifyRules present
  | putNetworkSecurityGroup other =>
      rcases present with ⟨old, member, named⟩
      by_cases same : old.name = other
      · exact ⟨⟨other, []⟩, Store.mem_upsert_self _ _, same.symm.trans named⟩
      · exact ⟨old, Store.mem_upsert_iff.mpr (Or.inr ⟨member, same⟩), named⟩
  | deleteNetworkSecurityGroup other =>
      rcases present with ⟨old, member, named⟩
      refine ⟨old, Store.mem_erase_iff.mpr ⟨member, ?_⟩, named⟩
      rintro rfl
      exact kept (congrArg Request.deleteNetworkSecurityGroup named)
  | checkoutFromPool poolId reservationId ownerId subnetRange =>
      simp only [handle]
      split <;> exact present
  | putSubnet group network subnet =>
      rcases handle_putSubnet strict group network subnet azure with ⟨changed, same⟩
      rw [same]
      exact present
  | deleteResourceGroup group => exact absurd rfl (groupKept group)
  | _ => exact present

end Azure

end AzureShell
