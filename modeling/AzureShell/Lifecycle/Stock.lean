import AzureShell.Deploy.Faults
import AzureShell.Store.Rest

/-!
# The rest of a sandbox

A set of resources splits what is stored in the resource group: the resources of
the set, and the rest.  Requests that create and delete resources of the set
only leave the rest as it is, to the order in which Azure lists it.  Where no
resource of the set exists, the rest is all there is.
-/

namespace AzureShell

open Prog

/-- What is stored in the resource group of a sandbox. -/
@[ext]
structure Stock where
  networkSecurityGroups : List NetworkSecurityGroup
  virtualMachines : List VirtualMachine
  networkInterfaces : List NetworkInterface
  publicIpAddresses : List PublicIpAddress
deriving DecidableEq, Repr

def Azure.stock (azure : Azure) : Stock where
  networkSecurityGroups := azure.networkSecurityGroups
  virtualMachines := azure.virtualMachines
  networkInterfaces := azure.networkInterfaces
  publicIpAddresses := azure.publicIpAddresses

/-- A group without the rules of a set. -/
noncomputable def NetworkSecurityGroup.rest (own : Resource → Prop) (group : NetworkSecurityGroup) :
    NetworkSecurityGroup where
  name := group.name
  securityRules :=
    Store.rest SecurityRule.name (own ∘ Resource.securityRule group.name) group.securityRules

/-- What is stored apart from the resources of a set. -/
noncomputable def Stock.rest (own : Resource → Prop) (stock : Stock) : Stock where
  networkSecurityGroups :=
    (Store.rest NetworkSecurityGroup.name (own ∘ Resource.networkSecurityGroup)
      stock.networkSecurityGroups).map (NetworkSecurityGroup.rest own)
  virtualMachines :=
    Store.rest VirtualMachine.name (own ∘ Resource.virtualMachine) stock.virtualMachines
  networkInterfaces :=
    Store.rest NetworkInterface.name (own ∘ Resource.networkInterface)
      stock.networkInterfaces
  publicIpAddresses :=
    Store.rest PublicIpAddress.name (own ∘ Resource.publicIpAddress)
      stock.publicIpAddresses

/-- The resource a request deletes. -/
def Request.removes : Request → Option Resource
  | .deleteSecurityRule nsg rule => some (.securityRule nsg rule)
  | .deleteNetworkSecurityGroup name => some (.networkSecurityGroup name)
  | .deleteVirtualMachine name => some (.virtualMachine name)
  | .deleteNetworkInterface name => some (.networkInterface name)
  | .deletePublicIpAddress name => some (.publicIpAddress name)
  | _ => none

/-- The request creates and deletes resources of the set only. -/
structure ActsWithin (own : Resource → Prop) (request : Request) : Prop where
  creates : ∀ resource, request.creates = some resource → own resource
  removes : ∀ resource, request.removes = some resource → own resource
  keepsGroup : ∀ name, request ≠ .deleteResourceGroup name

theorem ActsWithin.of_builds {own : Resource → Prop} {request : Request}
    (builds : Builds own request) : ActsWithin own request where
  creates := builds.creates
  removes := by
    intro resource removed
    cases request with
    | deleteSecurityRule nsg rule => cases builds.deletes
    | deleteNetworkSecurityGroup name => cases builds.deletes
    | deleteVirtualMachine name => cases builds.deletes
    | deleteNetworkInterface name => cases builds.deletes
    | deletePublicIpAddress name => cases builds.deletes
    | _ => cases removed
  keepsGroup := by
    rintro name rfl
    cases builds.deletes

section Rest

variable {own : Resource → Prop} {azure : Azure}

/-- Changing rules of the set only leaves the rest. -/
theorem rest_modifyRules {nsg : Text} {change : List SecurityRule → List SecurityRule}
    (sameRest : ∀ rules,
      Store.rest SecurityRule.name (own ∘ Resource.securityRule nsg) (change rules) =
        Store.rest SecurityRule.name (own ∘ Resource.securityRule nsg) rules) :
    (azure.modifyRules nsg change).stock.rest own = azure.stock.rest own := by
  have groups : (Store.rest NetworkSecurityGroup.name (own ∘ Resource.networkSecurityGroup)
      (azure.modifyRules nsg change).networkSecurityGroups).map (NetworkSecurityGroup.rest own) =
        (Store.rest NetworkSecurityGroup.name (own ∘ Resource.networkSecurityGroup)
          azure.networkSecurityGroups).map (NetworkSecurityGroup.rest own) := by
    apply Store.map_rest_modify
    · intro group
      rfl
    · rintro _ group rfl
      exact congrArg (NetworkSecurityGroup.mk group.name) (sameRest group.securityRules)
  exact congrArg (fun groups => { azure.stock.rest own with networkSecurityGroups := groups }) groups

/-- A request that acts within the set leaves the rest. -/
theorem rest_handle {request : Request} (acts : ActsWithin own request) (strict : Bool) :
    (Azure.handle strict request azure).2.stock.rest own = azure.stock.rest own := by
  cases request with
  | putSecurityRule nsg rule =>
      simp only [Azure.handle]
      split
      · exact rest_modifyRules fun rules =>
          Store.rest_upsert (own ∘ Resource.securityRule nsg) (acts.creates _ rfl) rules
      · rfl
  | deleteSecurityRule nsg rule =>
      exact rest_modifyRules fun rules =>
        Store.rest_erase (own ∘ Resource.securityRule nsg) (acts.removes _ rfl) rules
  | putNetworkSecurityGroup name =>
      have isOwn : (own ∘ Resource.networkSecurityGroup) (NetworkSecurityGroup.mk name []).name :=
        acts.creates _ rfl
      have groups := Store.rest_upsert _ isOwn azure.networkSecurityGroups
      exact congrArg (fun groups => Stock.mk (groups.map (NetworkSecurityGroup.rest own)) _ _ _)
        groups
  | deleteNetworkSecurityGroup name =>
      have isOwn : (own ∘ Resource.networkSecurityGroup) name := acts.removes _ rfl
      have groups : Store.rest NetworkSecurityGroup.name _ _ = _ :=
        Store.rest_erase _ isOwn azure.networkSecurityGroups
      exact congrArg (fun groups => Stock.mk (groups.map (NetworkSecurityGroup.rest own)) _ _ _)
        groups
  | putVirtualMachine vm =>
      have isOwn : (own ∘ Resource.virtualMachine) vm.name := acts.creates _ rfl
      exact congrArg (Stock.mk _ · _ _) (Store.rest_upsert _ isOwn azure.virtualMachines)
  | deleteVirtualMachine name =>
      have isOwn : (own ∘ Resource.virtualMachine) name := acts.removes _ rfl
      exact congrArg (Stock.mk _ · _ _) (Store.rest_erase _ isOwn azure.virtualMachines)
  | putNetworkInterface parameters =>
      have isOwn : (own ∘ Resource.networkInterface) (azure.newInterface parameters).name :=
        acts.creates _ rfl
      exact congrArg (Stock.mk _ _ · _) (Store.rest_upsert _ isOwn azure.networkInterfaces)
  | deleteNetworkInterface name =>
      have isOwn : (own ∘ Resource.networkInterface) name := acts.removes _ rfl
      exact congrArg (Stock.mk _ _ · _) (Store.rest_erase _ isOwn azure.networkInterfaces)
  | putPublicIpAddress name =>
      have isOwn : (own ∘ Resource.publicIpAddress)
          (PublicIpAddress.mk name (azure.publicIp name)).name := acts.creates _ rfl
      exact congrArg (Stock.mk _ _ _ ·) (Store.rest_upsert _ isOwn azure.publicIpAddresses)
  | deletePublicIpAddress name =>
      have isOwn : (own ∘ Resource.publicIpAddress) name := acts.removes _ rfl
      exact congrArg (Stock.mk _ _ _ ·) (Store.rest_erase _ isOwn azure.publicIpAddresses)
  | checkoutFromPool poolId reservationId ownerId subnetRange =>
      simp only [Azure.handle]
      split <;> rfl
  | putSubnet group network subnet =>
      rcases Azure.handle_putSubnet strict group network subnet azure with ⟨changed, same⟩
      rw [same]
      rfl
  | deleteResourceGroup name => exact absurd rfl (acts.keepsGroup name)
  | _ => rfl

/-- Programs that act within the set leave the rest, whichever calls fail. -/
theorem rest_run {α : Type} {program : Shell α} (within : Within (ActsWithin own) program)
    (state : FaultyAzure) :
    (run services program state).2.2.stock.rest own = state.2.stock.rest own := by
  apply within.run_faulty_preserves fun azure : Azure => azure.stock.rest own = state.2.stock.rest own
  · exact fun request azure acts same => (rest_handle acts false).trans same
  · rfl

/-- Where no resource of the set exists, the rest is all there is. -/
theorem rest_eq_stock (absent : ∀ resource, own resource → ¬ azure.Exists resource) :
    azure.stock.rest own = azure.stock := by
  have sameGroup : ∀ group ∈ azure.networkSecurityGroups, group.rest own = group := by
    intro group member
    have rules := Store.rest_eq_self fun rule inGroup isOwn =>
      absent (.securityRule group.name rule.name) isOwn ⟨group, member, rfl, rule, inGroup, rfl⟩
    exact congrArg (NetworkSecurityGroup.mk group.name) rules
  have groups : (azure.stock.rest own).networkSecurityGroups = azure.networkSecurityGroups := by
    have kept : Store.rest NetworkSecurityGroup.name (own ∘ Resource.networkSecurityGroup)
        azure.networkSecurityGroups = azure.networkSecurityGroups :=
      Store.rest_eq_self fun group member isOwn => absent _ isOwn ⟨group, member, rfl⟩
    calc
      (azure.stock.rest own).networkSecurityGroups =
          azure.networkSecurityGroups.map (NetworkSecurityGroup.rest own) := congrArg (List.map _) kept
      _ = azure.networkSecurityGroups.map id := List.map_congr_left sameGroup
      _ = azure.networkSecurityGroups := List.map_id _
  have machines : (azure.stock.rest own).virtualMachines = azure.virtualMachines :=
    Store.rest_eq_self fun vm member isOwn => absent _ isOwn ⟨vm, member, rfl⟩
  have interfaces : (azure.stock.rest own).networkInterfaces = azure.networkInterfaces :=
    Store.rest_eq_self fun nic member isOwn => absent _ isOwn ⟨nic, member, rfl⟩
  have addresses : (azure.stock.rest own).publicIpAddresses = azure.publicIpAddresses :=
    Store.rest_eq_self fun ip member isOwn => absent _ isOwn ⟨ip, member, rfl⟩
  exact Stock.ext groups machines interfaces addresses

/-- Outside of a set with all rules of its groups, resources exist in the rest. -/
theorem exists_of_rest_eq {after : Azure} (same : after.stock.rest own = azure.stock.rest own)
    (closed : ∀ nsg rule, own (.networkSecurityGroup nsg) → own (.securityRule nsg rule))
    {resource : Resource} (notOwn : ¬ own resource) (remains : after.Exists resource) :
    azure.Exists resource := by
  have sameGroups := congrArg Stock.networkSecurityGroups same
  cases resource with
  | virtualMachine name =>
      rcases remains with ⟨vm, member, rfl⟩
      have inRest : vm ∈ (after.stock.rest own).virtualMachines :=
        Store.mem_rest_iff.mpr ⟨member, notOwn⟩
      rw [same] at inRest
      exact ⟨vm, (Store.mem_rest_iff.mp inRest).1, rfl⟩
  | networkInterface name =>
      rcases remains with ⟨nic, member, rfl⟩
      have inRest : nic ∈ (after.stock.rest own).networkInterfaces :=
        Store.mem_rest_iff.mpr ⟨member, notOwn⟩
      rw [same] at inRest
      exact ⟨nic, (Store.mem_rest_iff.mp inRest).1, rfl⟩
  | publicIpAddress name =>
      rcases remains with ⟨ip, member, rfl⟩
      have inRest : ip ∈ (after.stock.rest own).publicIpAddresses :=
        Store.mem_rest_iff.mpr ⟨member, notOwn⟩
      rw [same] at inRest
      exact ⟨ip, (Store.mem_rest_iff.mp inRest).1, rfl⟩
  | networkSecurityGroup name =>
      rcases remains with ⟨group, member, rfl⟩
      have inRest : group.rest own ∈ (after.stock.rest own).networkSecurityGroups :=
        List.mem_map_of_mem (Store.mem_rest_iff.mpr ⟨member, notOwn⟩)
      rw [same] at inRest
      rcases List.mem_map.mp inRest with ⟨other, otherMem, isSame⟩
      have sameName : (other.rest own).name = (group.rest own).name := congrArg _ isSame
      exact ⟨other, (Store.mem_rest_iff.mp otherMem).1, sameName⟩
  | securityRule nsg name =>
      rcases remains with ⟨group, member, rfl, rule, ruleMem, rfl⟩
      have notOwnGroup : ¬ own (.networkSecurityGroup group.name) :=
        fun isOwn => notOwn (closed group.name rule.name isOwn)
      have inRest : group.rest own ∈ (after.stock.rest own).networkSecurityGroups :=
        List.mem_map_of_mem (Store.mem_rest_iff.mpr ⟨member, notOwnGroup⟩)
      rw [same] at inRest
      rcases List.mem_map.mp inRest with ⟨other, otherMem, isSame⟩
      have ruleInRest : rule ∈ (other.rest own).securityRules := by
        rw [isSame]
        exact Store.mem_rest_iff.mpr ⟨ruleMem, notOwn⟩
      have sameName : (other.rest own).name = (group.rest own).name := congrArg _ isSame
      exact ⟨other, (Store.mem_rest_iff.mp otherMem).1, sameName, rule,
        (Store.mem_rest_iff.mp ruleInRest).1, rfl⟩

end Rest

end AzureShell
