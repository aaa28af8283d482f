import AzureShell.Sandbox.Prepare

/-!
# The order of the actions

The block of a sandbox is that of the first action with one.  The order of the
actions therefore matters exactly where a subnet with another block comes before
the `PrepareCloudInfra` action; the order of the subnets among themselves does
not show in the rules, apart from their priorities.
-/

namespace AzureShell

open Prog SecurityGroupService

namespace PrepareSandboxInfraOperation

/-! ## Rules up to priority -/

/-- What a rule of a preparation says, apart from its priority. -/
structure Policy where
  name : Text
  access : SecurityRuleAccess
  source : Text
  destination : Text
deriving DecidableEq, Repr

def policyOf (rule : SecurityRule) : Policy :=
  ⟨rule.name, rule.access, rule.sourceAddressPrefix, rule.destinationAddressPrefix⟩

def IsolationRule.policy (rule : IsolationRule) : Policy :=
  ⟨rule.name, rule.access, rule.source, rule.destination⟩

/-- Some rule of the group says it. -/
def Holds (rules : List SecurityRule) (policy : Policy) : Prop :=
  ∃ rule ∈ rules, policyOf rule = policy

instance (rules : List SecurityRule) (policy : Policy) : Decidable (Holds rules policy) :=
  inferInstanceAs (Decidable (∃ rule ∈ rules, policyOf rule = policy))

/-- The two groups say the same. -/
def SamePolicies (rules others : List SecurityRule) : Prop :=
  ∀ policy, Holds rules policy ↔ Holds others policy

theorem policyOf_atPriority {rule : IsolationRule} (named : rule.name ≠ []) (priority : Int) :
    policyOf (rule.atPriority priority) = rule.policy := by
  have sameName := anyTrafficRule_name rule.access rule.destination rule.source priority named
  rw [policyOf, IsolationRule.policy, IsolationRule.atPriority, sameName]
  rfl

/-- An added rule takes the place of the rule of its name. -/
theorem holds_add_iff {rule : IsolationRule} (named : rule.name ≠ []) (rules : List SecurityRule)
    (policy : Policy) :
    Holds (rule.add rules) policy ↔
      policy = rule.policy ∨ (Holds rules policy ∧ policy.name ≠ rule.name) := by
  obtain ⟨priority, _, _, _, added⟩ := addRules_singleton
    (anyTrafficRule rule.access rule.name) rule.destination (some rule.startFrom) rule.source rules
  have sameName : (rule.atPriority priority).name = rule.name :=
    anyTrafficRule_name rule.access rule.destination rule.source priority named
  have isUpsert : rule.add rules =
      Store.upsert SecurityRule.name (rule.atPriority priority) rules := added
  rw [isUpsert]
  constructor
  · rintro ⟨other, member, rfl⟩
    rcases Store.mem_upsert_iff.mp member with rfl | ⟨old, different⟩
    · exact Or.inl (policyOf_atPriority named priority)
    · exact Or.inr ⟨⟨other, old, rfl⟩, sameName ▸ different⟩
  · rintro (rfl | ⟨⟨other, old, rfl⟩, different⟩)
    · exact ⟨_, Store.mem_upsert_self _ _, policyOf_atPriority named priority⟩
    · exact ⟨other, Store.mem_upsert_iff.mpr (Or.inr ⟨old, sameName.symm ▸ different⟩), rfl⟩

/-- The last rule of a name decides what is said under it. -/
theorem holds_addAll_iff {isolationRules : List IsolationRule}
    (named : ∀ rule ∈ isolationRules, rule.name ≠ []) (policy : Policy) :
    Holds (addAll isolationRules []) policy ↔
      (Store.lookup IsolationRule.name policy.name isolationRules.reverse).map
        IsolationRule.policy = some policy := by
  induction isolationRules using List.reverseRecOn with
  | nil => simp [addAll, Holds, Store.lookup]
  | append_singleton earlier last ih =>
      have namedEarlier : ∀ rule ∈ earlier, rule.name ≠ [] := fun rule member =>
        named rule (List.mem_append_left _ member)
      have lastNamed : last.name ≠ [] := named last (by simp)
      have lastAdded : addAll (earlier ++ [last]) [] = last.add (addAll earlier []) := by
        rw [addAll_append]
        rfl
      rw [lastAdded, holds_add_iff lastNamed, ih namedEarlier, List.reverse_append,
        List.reverse_singleton, List.singleton_append, Store.lookup_cons]
      by_cases same : last.name = policy.name
      · simp only [same, if_true, Option.map_some, Option.some.injEq, ne_eq, not_true_eq_false,
          and_false, or_false]
        exact eq_comm
      · have other : policy ≠ last.policy := fun equal => same (congrArg Policy.name equal).symm
        simp [same, other, Ne.symm same]

/-! ## Blocks and orders -/

variable {managementVnetCidr sandboxVnetCidr cidr : Text} {additionalMgmtNetworks : List Text}
  {subnets others : List PrepareSubnet}

theorem isolationRules_named : ∀ rule ∈ isolationRules managementVnetCidr sandboxVnetCidr cidr
    additionalMgmtNetworks subnets, rule.name ≠ [] := by
  intro rule member
  simp only [isolationRules, openingRules, List.mem_append, List.mem_map, List.mem_singleton]
    at member
  rcases member with (⟨s, _, rfl⟩ | ⟨p, _, rfl⟩ | ⟨a, _, rfl⟩ | rfl) | rfl
  all_goals exact List.cons_ne_nil _ _

/-- Subnets of the same block ask for the same rule, so their order does not
matter. -/
theorem lookup_subnetRules (rule : Text → IsolationRule)
    (blockOfName : ∀ s ∈ subnets, ∀ t ∈ subnets, (rule s.cidr).name = (rule t.cidr).name →
      s.cidr = t.cidr) (perm : others.Perm subnets) (name : Text) :
    Store.lookup IsolationRule.name name (others.map fun s => rule s.cidr).reverse =
      Store.lookup IsolationRule.name name (subnets.map fun s => rule s.cidr).reverse := by
  apply Store.lookup_congr
  · intro item
    rw [List.mem_reverse, List.mem_reverse]
    exact (perm.map _).mem_iff
  · intro item itemMem other otherMem sameName
    rcases List.mem_map.mp (List.mem_reverse.mp itemMem) with ⟨s, sMem, rfl⟩
    rcases List.mem_map.mp (List.mem_reverse.mp otherMem) with ⟨t, tMem, rfl⟩
    rw [blockOfName s sMem t tMem sameName]

/-- The order of the subnets does not matter. -/
theorem lookup_isolationRules_perm (noDash : ∀ s ∈ subnets, '-' ∉ s.cidr)
    (perm : others.Perm subnets) (name : Text) :
    Store.lookup IsolationRule.name name (isolationRules managementVnetCidr sandboxVnetCidr cidr
        additionalMgmtNetworks others).reverse =
      Store.lookup IsolationRule.name name (isolationRules managementVnetCidr sandboxVnetCidr cidr
        additionalMgmtNetworks subnets).reverse := by
  have allowed := lookup_subnetRules (allowSandbox cidr) (fun s sMem t tMem same =>
    Text.replace_inj (noDash s sMem) (noDash t tMem) (List.append_cancel_left same)) perm name
  have closedNoDash : ∀ s ∈ subnets.filter fun s => !s.isPublic, '-' ∉ s.cidr :=
    fun s member => noDash s (List.mem_filter.mp member).1
  have denied := lookup_subnetRules denyInternet (fun s sMem t tMem same =>
    Text.replace_inj (closedNoDash s sMem) (closedNoDash t tMem) (List.append_cancel_left same))
    (perm.filter fun s => !s.isPublic) name
  simp only [isolationRules, openingRules, List.reverse_append, Store.lookup_append, allowed,
    denied]

/-- The rule against other sandboxes names the block of its sandbox. -/
theorem holds_denyOtherSandboxes_iff {sandboxCidr : Text} :
    Holds (addAll (isolationRules managementVnetCidr sandboxVnetCidr cidr additionalMgmtNetworks
      subnets) []) (denyOtherSandboxes sandboxVnetCidr sandboxCidr).policy ↔
      sandboxCidr = cidr := by
  rw [holds_addAll_iff isolationRules_named, isolationRules, List.reverse_append,
    List.reverse_singleton, List.singleton_append, Store.lookup_cons]
  constructor
  · intro said
    have sameName : (denyOtherSandboxes sandboxVnetCidr cidr).name =
        (denyOtherSandboxes sandboxVnetCidr sandboxCidr).policy.name := rfl
    rw [if_pos sameName] at said
    exact (congrArg Policy.destination (Option.some.inj said)).symm
  · rintro rfl
    exact congrArg (Option.map IsolationRule.policy) (if_pos rfl)

/-- Preparations with reordered subnets say the same exactly if they have the
same block. -/
theorem samePolicies_iff {otherCidr : Text} (noDash : ∀ s ∈ subnets, '-' ∉ s.cidr)
    (perm : others.Perm subnets) :
    SamePolicies
        (addAll (isolationRules managementVnetCidr sandboxVnetCidr cidr additionalMgmtNetworks
          subnets) [])
        (addAll (isolationRules managementVnetCidr sandboxVnetCidr otherCidr
          additionalMgmtNetworks others) []) ↔
      cidr = otherCidr := by
  constructor
  · intro same
    exact holds_denyOtherSandboxes_iff.mp ((same _).mp (holds_denyOtherSandboxes_iff.mpr rfl))
  · rintro rfl policy
    rw [holds_addAll_iff isolationRules_named, holds_addAll_iff isolationRules_named,
      lookup_isolationRules_perm noDash perm]

/-! ## Requests -/

variable {strict : Bool} {azure : Azure} {cloudProviderModel : AzureCloudProviderResourceModel}
  {reservationId : Text} {actions reordered : List PrepareAction}

/-- The rules of the subnets' group after the preparation. -/
def preparedRules (strict : Bool) (cloudProviderModel : AzureCloudProviderResourceModel)
    (reservationId : Text) (azure : Azure) (actions : List PrepareAction) : List SecurityRule :=
  (run (Azure.handle strict) (prepareConnectivity cloudProviderModel reservationId actions)
    azure).2.rulesIn (getSubnetsNsgName reservationId)

/-- The first action of the list with a block has this one. -/
def FirstBlock (actions : List PrepareAction) (cidr : Text) : Prop :=
  ∃ earlier first later, actions = earlier ++ first :: later ∧
    first.cidr = some cidr ∧ ∀ action ∈ earlier, action.cidr = none

theorem networkCidr_eq_ok_iff : networkCidr actions = .ok cidr ↔ FirstBlock actions cidr := by
  rw [FirstBlock, ← List.findSome?_eq_some_iff, networkCidr]
  cases actions.findSome? PrepareAction.cidr <;> simp

/-- A request with a `PrepareCloudInfra` action has a block. -/
theorem exists_networkCidr (infra : actions.filterMap PrepareAction.infraCidr = [cidr]) :
    ∃ first, networkCidr actions = .ok first := by
  have member : cidr ∈ actions.filterMap PrepareAction.infraCidr := by simp [infra]
  rcases List.mem_filterMap.mp member with ⟨action, actionMem, isInfra⟩
  have hasCidr : action.cidr = some cidr := by
    cases action with
    | prepareCloudInfra actionId block => exact isInfra
    | _ => cases isInfra
  unfold networkCidr
  cases found : actions.findSome? PrepareAction.cidr with
  | some first => exact ⟨first, rfl⟩
  | none =>
      have none_of := List.findSome?_eq_none_iff.mp found action actionMem
      rw [hasCidr] at none_of
      cases none_of

/-- Two orders of the actions of a request lead to the same rules for the block
of the `PrepareCloudInfra` action exactly if in both orders the first action
with a block has this block. -/
theorem prepareConnectivity_order_iff {sandboxCidr : Text}
    (finds : Finds azure cloudProviderModel managementVnetCidr sandboxVnetCidr)
    (infra : actions.filterMap PrepareAction.infraCidr = [sandboxCidr])
    (noDash : ∀ s ∈ subnetActions actions, '-' ∉ s.cidr) (perm : reordered.Perm actions) :
    (SamePolicies (preparedRules strict cloudProviderModel reservationId azure actions)
          (preparedRules strict cloudProviderModel reservationId azure reordered) ∧
        SamePolicies (preparedRules strict cloudProviderModel reservationId azure actions)
          (addAll (isolationRules managementVnetCidr sandboxVnetCidr sandboxCidr
            cloudProviderModel.additionalMgmtNetworks (subnetActions actions)) [])) ↔
      FirstBlock actions sandboxCidr ∧ FirstBlock reordered sandboxCidr := by
  have reorderedInfra : reordered.filterMap PrepareAction.infraCidr = [sandboxCidr] :=
    List.perm_singleton.mp (infra ▸ perm.filterMap PrepareAction.infraCidr)
  have subnetsPerm : (subnetActions reordered).Perm (subnetActions actions) :=
    (perm.filterMap PrepareAction.subnet).map Prod.snd
  rcases exists_networkCidr infra with ⟨first, firstFound⟩
  rcases exists_networkCidr reorderedInfra with ⟨second, secondFound⟩
  rw [preparedRules, preparedRules, Azure.rulesIn, Azure.rulesIn,
    rulesOf_prepareConnectivity finds firstFound, rulesOf_prepareConnectivity finds secondFound,
    Option.getD_some, Option.getD_some, samePolicies_iff noDash subnetsPerm,
    samePolicies_iff noDash (List.Perm.refl _), ← networkCidr_eq_ok_iff,
    ← networkCidr_eq_ok_iff, firstFound, secondFound]
  constructor
  · rintro ⟨rfl, rfl⟩
    exact ⟨rfl, rfl⟩
  · rintro ⟨sameFirst, sameSecond⟩
    cases sameFirst
    cases sameSecond
    exact ⟨rfl, rfl⟩

/-! ## A subnet before the network -/

/-- A management group with its two networks. -/
def twoNetworks : Azure :=
  { Azure.blank with virtualNetworks := fun _ =>
      [⟨"sandbox".toList, [("network_type".toList, "sandbox".toList)], ["10.0.0.0/16".toList], []⟩,
        ⟨"mgmt".toList, [("network_type".toList, "mgmt".toList)], ["10.1.0.0/16".toList], []⟩] }

def plainProvider : AzureCloudProviderResourceModel where
  vmSize := []
  managementGroupName := "mgmt".toList
  additionalMgmtNetworks := []
  privateIpAllocationMethod := "Azure Allocation".toList

def networkAction : PrepareAction :=
  .prepareCloudInfra "network".toList "10.0.1.0/24".toList

def lowerHalf : PrepareAction :=
  .prepareSubnet "lower".toList ⟨"10.0.1.0/25".toList, true⟩

theorem finds_twoNetworks :
    Finds twoNetworks plainProvider "10.1.0.0/16".toList "10.0.0.0/16".toList where
  management := by decide
  sandbox := by decide
  notCancelled := by simp [twoNetworks, Azure.blank]

/-- Where the network comes before the subnet, other actions may move. -/
theorem prepareConnectivity_order_example :
    SamePolicies
        (preparedRules true plainProvider "r1".toList twoNetworks
          [networkAction, lowerHalf, .createKeys "keys".toList])
        (preparedRules true plainProvider "r1".toList twoNetworks
          [.createKeys "keys".toList, networkAction, lowerHalf]) ∧
      SamePolicies
        (preparedRules true plainProvider "r1".toList twoNetworks
          [networkAction, lowerHalf, .createKeys "keys".toList])
        (addAll (isolationRules "10.1.0.0/16".toList "10.0.0.0/16".toList "10.0.1.0/24".toList []
          [⟨"10.0.1.0/25".toList, true⟩]) []) := by
  apply (prepareConnectivity_order_iff finds_twoNetworks rfl (by decide) (by decide)).mpr
  constructor
  · exact ⟨[], networkAction, _, rfl, rfl, by simp⟩
  · refine ⟨[.createKeys "keys".toList], networkAction, _, rfl, rfl, ?_⟩
    intro action member
    cases List.mem_singleton.mp member
    rfl

/-- A subnet before the network becomes the block of the sandbox. -/
theorem subnet_taken_for_sandbox :
    ¬ SamePolicies
      (preparedRules true plainProvider "r1".toList twoNetworks
        [networkAction, lowerHalf, .createKeys "keys".toList])
      (preparedRules true plainProvider "r1".toList twoNetworks
        [lowerHalf, networkAction, .createKeys "keys".toList]) := by
  intro same
  let denied := (denyOtherSandboxes "10.0.0.0/16".toList "10.0.1.0/24".toList).policy
  have lost : ¬ Holds (preparedRules true plainProvider "r1".toList twoNetworks
      [lowerHalf, networkAction, .createKeys "keys".toList]) denied := by
    decide
  apply lost
  apply (same denied).mp
  decide

end PrepareSandboxInfraOperation

end AzureShell
