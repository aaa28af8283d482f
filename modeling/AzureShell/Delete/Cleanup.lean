import AzureShell.Deploy.Faults

/-!
# The cleanup of a sandbox

`cleanup_connectivity` detaches the security group and the route table from the
subnets of the sandbox, deletes the resource group and then the subnets.  An
error of one command does not keep it from the next; the result names the
errors.  At the end two locks are removed.
-/

namespace AzureShell

open Prog

/-- An action of a cleanup request. -/
structure CleanupAction where
  type : Text
  actionId : Text
deriving DecidableEq, Repr

/-- The result of a cleanup, with the messages its error message lists. -/
structure CleanupResult where
  success : Bool
  actionId : Text
  errors : List Text
deriving DecidableEq, Repr

/-- `IpService.SANDBOX_LOCK_KEY`. -/
def IpService.sandboxLockKey (reservationId : Text) : Text :=
  reservationId ++ "-available-private-ip-key".toList

/-- `update_subnet`. -/
def NetworkService.updateSubnet (groupName networkName : Text) (subnet : Subnet) : Shell Unit :=
  retryConnection (send (.putSubnet groupName networkName subnet))

/-- `delete_subnet`. -/
def NetworkService.deleteSubnet (groupName networkName subnetName : Text) : Shell Unit :=
  retryConnection (send (.deleteSubnet groupName networkName subnetName))

/-- `delete_resource_group`. -/
def VirtualMachineService.deleteResourceGroup (groupName : Text) : Shell Unit :=
  retryConnection (send (.deleteResourceGroup groupName))

namespace DeleteAzureVMOperation

/-- `_find_sandbox_subnets`. -/
def findSandboxSubnets (resourceGroupName : Text) (sandboxVirtualNetwork : VirtualNetwork) :
    List Subnet :=
  sandboxVirtualNetwork.subnets.filter fun subnet => resourceGroupName <+: subnet.name

/-- The sandbox network, of which the subnets are read next. -/
def networkWithSubnets (sandboxVirtualNetwork : Option VirtualNetwork) :
    Except PyException VirtualNetwork :=
  match sandboxVirtualNetwork with
  | some network => .ok network
  | none => .error (.attributeError "'NoneType' object has no attribute 'subnets'".toList)

/-- `remove_nsg_and_routetable_from_subnets`. -/
def removeNsgAndRoutetableFromSubnets (managementGroupName resourceGroupName : Text) :
    Shell Unit := do
  let found ← NetworkService.getSandboxVirtualNetwork managementGroupName
  let sandboxVirtualNetwork ← ofExcept (networkWithSubnets found)
  forEach (findSandboxSubnets resourceGroupName sandboxVirtualNetwork) fun subnet =>
    withLock .subnetLocker <|
      NetworkService.updateSubnet managementGroupName sandboxVirtualNetwork.name
        { subnet with networkSecurityGroup := none, routeTable := none }

/-- `delete_sandbox_subnets`. -/
def deleteSandboxSubnets (managementGroupName resourceGroupName : Text) : Shell Unit := do
  let found ← NetworkService.getSandboxVirtualNetwork managementGroupName
  let sandboxVirtualNetwork ← ofExcept (networkWithSubnets found)
  forEach (findSandboxSubnets resourceGroupName sandboxVirtualNetwork) fun subnet =>
    withLock .subnetLocker <|
      NetworkService.deleteSubnet managementGroupName sandboxVirtualNetwork.name subnet.name

/-- The id of the action that asks for the cleanup. -/
def cleanupActionId (actions : List CleanupAction) : Except PyException Text :=
  match actions.find? fun action => action.type = "cleanupNetwork".toList with
  | some action => .ok action.actionId
  | none => .error .stopIteration

/-- Run a command and note the message of its error. -/
def attempt (command : Shell Unit) : Shell (List Text) :=
  (do
    command
    pure []).catching fun e => pure [e.message]

/-- The end of `cleanup_connectivity`. -/
def removeSandboxLocks (resourceGroupName : Text) : Shell Unit := do
  send (.removeLockResource resourceGroupName)
  send (.removeLockResource (IpService.sandboxLockKey resourceGroupName))

/-- `cleanup_connectivity`. -/
def cleanupConnectivity (managementGroupName resourceGroupName : Text)
    (actions : List CleanupAction) : Shell CleanupResult := do
  let actionId ← ofExcept (cleanupActionId actions)
  let detached ← attempt (removeNsgAndRoutetableFromSubnets managementGroupName resourceGroupName)
  let emptied ← attempt (VirtualMachineService.deleteResourceGroup resourceGroupName)
  let deleted ← attempt (deleteSandboxSubnets managementGroupName resourceGroupName)
  let errors := detached ++ emptied ++ deleted
  removeSandboxLocks resourceGroupName
  pure ⟨errors.isEmpty, actionId, errors⟩

/-! ## The sandbox network -/

/-- The sandbox network after the subnets of a network are changed. -/
theorem sandboxNetwork_modifySubnets (azure : Azure) (groupName networkName : Text)
    (change : List Subnet → List Subnet) :
    (azure.modifySubnets groupName networkName change).sandboxNetwork groupName =
      (azure.sandboxNetwork groupName).map fun network =>
        if network.name = networkName then { network with subnets := change network.subnets }
        else network := by
  have sameTags : ∀ network : VirtualNetwork,
      (if network.name = networkName then { network with subnets := change network.subnets }
        else network).tags = network.tags := by
    intro network
    split <;> rfl
  simp only [Azure.sandboxNetwork, Azure.modifySubnets, Function.update_self,
    NetworkService.getVirtualNetworkByTag, Store.modify, List.find?_map, Function.comp_def,
    sameTags]

theorem sandboxNetwork_modifySubnets_of_ne (azure : Azure) {groupName otherGroup : Text}
    (different : groupName ≠ otherGroup) (networkName : Text)
    (change : List Subnet → List Subnet) :
    (azure.modifySubnets otherGroup networkName change).sandboxNetwork groupName =
      azure.sandboxNetwork groupName := by
  simp only [Azure.sandboxNetwork, Azure.modifySubnets, Function.update_of_ne different]

/-- What a request does to the subnets of the sandbox network. -/
inductive Changes (request : Request) (before after : List Subnet) : Prop where
  | none (same : after = before)
  | put (groupName networkName : Text) (subnet : Subnet)
      (isPut : request = .putSubnet groupName networkName subnet)
      (replaced : after = Store.upsert Subnet.name subnet before)
  | delete (groupName networkName subnetName : Text)
      (isDelete : request = .deleteSubnet groupName networkName subnetName)
      (erased : after = Store.erase Subnet.name subnetName before)

theorem changes_modifySubnets {request : Request} {azure : Azure} {groupName : Text}
    {network : VirtualNetwork} (isNetwork : azure.sandboxNetwork groupName = some network)
    (otherGroup networkName : Text) {change : List Subnet → List Subnet}
    (changes : Changes request network.subnets (change network.subnets)) :
    ∃ changed, (azure.modifySubnets otherGroup networkName change).sandboxNetwork groupName =
        some changed ∧ changed.name = network.name ∧
          Changes request network.subnets changed.subnets := by
  by_cases sameGroup : groupName = otherGroup
  · subst sameGroup
    rw [sandboxNetwork_modifySubnets, isNetwork, Option.map_some]
    split
    · exact ⟨_, rfl, rfl, changes⟩
    · exact ⟨_, rfl, rfl, Changes.none rfl⟩
  · rw [sandboxNetwork_modifySubnets_of_ne azure sameGroup]
    exact ⟨network, isNetwork, rfl, Changes.none rfl⟩

/-- A request changes at most one subnet of the sandbox network. -/
theorem changes_handle {azure : Azure} {groupName : Text} {network : VirtualNetwork}
    (isNetwork : azure.sandboxNetwork groupName = some network) (request : Request) :
    ∃ changed, (Azure.handle false request azure).2.sandboxNetwork groupName = some changed ∧
      changed.name = network.name ∧ Changes request network.subnets changed.subnets := by
  have unchanged : ∀ after : Azure, after.virtualNetworks = azure.virtualNetworks →
      ∃ changed, after.sandboxNetwork groupName = some changed ∧
        changed.name = network.name ∧ Changes request network.subnets changed.subnets := by
    intro after same
    refine ⟨network, ?_, rfl, Changes.none rfl⟩
    rw [Azure.sandboxNetwork, same]
    exact isNetwork
  cases request with
  | putSubnet otherGroup networkName subnet =>
      simp only [Azure.handle]
      split
      · exact unchanged azure rfl
      · split
        · exact unchanged azure rfl
        · exact changes_modifySubnets isNetwork otherGroup networkName
            (Changes.put otherGroup networkName subnet rfl rfl)
  | deleteSubnet otherGroup networkName subnetName =>
      exact changes_modifySubnets isNetwork otherGroup networkName
        (Changes.delete otherGroup networkName subnetName rfl rfl)
  | putSecurityRule nsg rule =>
      simp only [Azure.handle]
      split <;> exact unchanged _ rfl
  | checkoutFromPool poolId reservationId ownerId subnetRange =>
      simp only [Azure.handle]
      split <;> exact unchanged _ rfl
  | _ => exact unchanged _ rfl

/-- What holds of the subnets of the sandbox network, whatever else it is. -/
def Subnets (groupName networkName : Text) (property : List Subnet → Prop) (azure : Azure) : Prop :=
  ∃ network, azure.sandboxNetwork groupName = some network ∧ network.name = networkName ∧
    property network.subnets

/-- What the changes of allowed requests preserve. -/
theorem Subnets.run {α : Type} {program : Shell α} {state finished : FaultyAzure}
    {outcome : Except PyException α} {groupName networkName : Text}
    {property : List Subnet → Prop} {allowed : Request → Prop}
    (holds : Subnets groupName networkName property state.2) (within : Within allowed program)
    (preserved : ∀ request before after, allowed request → Changes request before after →
      property before → property after)
    (ran : run services program state = (outcome, finished)) :
    Subnets groupName networkName property finished.2 := by
  have step : ∀ request azure, allowed request → Subnets groupName networkName property azure →
      Subnets groupName networkName property (Azure.handle false request azure).2 := by
    rintro request azure isAllowed ⟨network, isNetwork, named, propertyBefore⟩
    rcases changes_handle isNetwork request with ⟨changed, isChanged, sameName, changes⟩
    exact ⟨changed, isChanged, sameName.trans named,
      preserved request _ _ isAllowed changes propertyBefore⟩
  have kept : Subnets groupName networkName property (Prog.run services program state).2.2 :=
    within.run_faulty_preserves (Subnets groupName networkName property) step holds
  rwa [ran] at kept

/-! ## The commands -/

variable {managementGroupName resourceGroupName : Text} {state finished : FaultyAzure}

/-- The request touches only subnets with names that start with the group's. -/
def TouchesOwn (resourceGroupName : Text) : Request → Prop
  | .putSubnet _ _ subnet => resourceGroupName <+: subnet.name
  | .deleteSubnet _ _ subnetName => resourceGroupName <+: subnetName
  | _ => True

/-- The request creates no subnet. -/
def PutsNoSubnet : Request → Prop
  | .putSubnet _ _ _ => False
  | _ => True

theorem mem_findSandboxSubnets {network : VirtualNetwork} {subnet : Subnet} :
    subnet ∈ findSandboxSubnets resourceGroupName network ↔
      subnet ∈ network.subnets ∧ resourceGroupName <+: subnet.name := by
  simp [findSandboxSubnets]

/-- A loop over the subnets of the sandbox stays within the footprint of its
rounds. -/
theorem within_forSandboxSubnets {allowed : Request → Prop}
    {body : VirtualNetwork → Subnet → Shell Unit}
    (lists : Within allowed (send (.listVirtualNetworks managementGroupName)))
    (round : ∀ network, ∀ subnet ∈ findSandboxSubnets resourceGroupName network,
      Within allowed (body network subnet)) :
    Within allowed (do
      let found ← NetworkService.getSandboxVirtualNetwork managementGroupName
      let sandboxVirtualNetwork ← ofExcept (networkWithSubnets found)
      forEach (findSandboxSubnets resourceGroupName sandboxVirtualNetwork) fun subnet =>
        withLock .subnetLocker (body sandboxVirtualNetwork subnet)) := by
  apply Within.bind
  · exact (Within.retry lists 4).bind fun _ => within_pure _
  intro found
  apply Within.bind (within_ofExcept _)
  intro sandboxVirtualNetwork
  apply Within.forEach
  intro subnet member
  exact (round sandboxVirtualNetwork subnet member).withLock

theorem removeNsgAndRoutetableFromSubnets_touchesOwn :
    Within (TouchesOwn resourceGroupName)
      (removeNsgAndRoutetableFromSubnets managementGroupName resourceGroupName) := by
  apply within_forSandboxSubnets (within_perform trivial)
  intro sandboxVirtualNetwork subnet member
  exact Within.retry (within_perform (mem_findSandboxSubnets.mp member).2) 4

theorem deleteSandboxSubnets_touchesOwn :
    Within (TouchesOwn resourceGroupName)
      (deleteSandboxSubnets managementGroupName resourceGroupName) := by
  apply within_forSandboxSubnets (within_perform trivial)
  intro sandboxVirtualNetwork subnet member
  exact Within.retry (within_perform (mem_findSandboxSubnets.mp member).2) 4

theorem attempt_within {allowed : Request → Prop} {command : Shell Unit}
    (within : Within allowed command) : Within allowed (attempt command) :=
  (within.bind fun _ => within_pure _).catching fun _ => within_pure _

/-- A command without an error ended well. -/
theorem run_of_attempt {command : Shell Unit}
    (success : run services (attempt command) state = (.ok [], finished)) :
    run services command state = (.ok (), finished) := by
  unfold attempt at success
  rw [run_catching] at success
  split at success
  · rename_i ended
    rcases run_bind_eq_ok ended with ⟨_, _, ran, last⟩
    cases last
    cases success
    exact ran
  · cases success

/-- The subnets of other names are the same. -/
def SameOtherSubnets (resourceGroupName : Text) (before after : List Subnet) : Prop :=
  ∀ subnet, ¬ resourceGroupName <+: subnet.name → (subnet ∈ after ↔ subnet ∈ before)

theorem SameOtherSubnets.change {request : Request} {first before after : List Subnet}
    (touches : TouchesOwn resourceGroupName request) (changes : Changes request before after)
    (same : SameOtherSubnets resourceGroupName first before) :
    SameOtherSubnets resourceGroupName first after := by
  intro subnet other
  rw [← same subnet other]
  cases changes with
  | none unchanged => rw [unchanged]
  | put groupName networkName written isPut replaced =>
      subst isPut
      have different : ∀ {item : Subnet}, item.name = written.name → item = subnet → False := by
        rintro item sameName rfl
        exact other (sameName ▸ touches)
      rw [replaced, Store.mem_upsert_iff]
      constructor
      · rintro (isWritten | ⟨old, _⟩)
        · exact (different rfl isWritten.symm).elim
        · exact old
      · intro old
        exact Or.inr ⟨old, fun sameName => different sameName rfl⟩
  | delete groupName networkName subnetName isDelete erased =>
      subst isDelete
      rw [erased, Store.mem_erase_iff]
      constructor
      · exact And.left
      · intro old
        refine ⟨old, ?_⟩
        rintro rfl
        exact other touches

/-! ## Deleting the subnets -/

variable {networkName : Text} {property : Subnet → Prop}

/-- Every subnet of the sandbox network has the property. -/
abbrev AllSubnets (groupName networkName : Text) (property : Subnet → Prop) : Azure → Prop :=
  Subnets groupName networkName fun subnets => ∀ subnet ∈ subnets, property subnet

theorem AllSubnets.imp {other : Subnet → Prop} {azure : Azure}
    (all : AllSubnets managementGroupName networkName property azure)
    (weaker : ∀ subnet, property subnet → other subnet) :
    AllSubnets managementGroupName networkName other azure := by
  rcases all with ⟨network, isNetwork, named, holds⟩
  exact ⟨network, isNetwork, named, fun subnet member => weaker subnet (holds subnet member)⟩

/-- Where no subnet is created, what all subnets have they keep. -/
theorem AllSubnets.run {α : Type} {program : Shell α} {outcome : Except PyException α}
    (all : AllSubnets managementGroupName networkName property state.2)
    (within : Within PutsNoSubnet program)
    (ran : run services program state = (outcome, finished)) :
    AllSubnets managementGroupName networkName property finished.2 := by
  apply Subnets.run all within _ ran
  intro request before after puts changes holds subnet member
  cases changes with
  | none unchanged => exact holds subnet (unchanged ▸ member)
  | put groupName networkName written isPut replaced =>
      rw [isPut] at puts
      exact puts.elim
  | delete groupName networkName subnetName isDelete erased =>
      rw [erased] at member
      exact holds subnet (Store.mem_erase_iff.mp member).1

/-- After a deletion no subnet has the name. -/
theorem deleteSubnet_removes {subnetName : Text}
    (all : AllSubnets managementGroupName networkName property state.2)
    (success : run services
      (NetworkService.deleteSubnet managementGroupName networkName subnetName) state =
        (.ok (), finished)) :
    AllSubnets managementGroupName networkName
      (fun subnet => property subnet ∧ subnet.name ≠ subnetName) finished.2 := by
  let onAzure : FaultyAzure → Prop := fun later =>
    AllSubnets managementGroupName networkName property later.2
  have sends : Within PutsNoSubnet
      (send (.deleteSubnet managementGroupName networkName subnetName)) := within_perform trivial
  have kept : ∀ later, onAzure later → onAzure (run services
      (send (.deleteSubnet managementGroupName networkName subnetName)) later).2 := by
    intro later holds
    exact AllSubnets.run holds sends rfl
  have started : onAzure state := all
  rcases run_retry_eq_ok_of_preserved kept started success with ⟨start, holds, success⟩
  rcases holds with ⟨network, isNetwork, named, holds⟩
  have isAfter := congrArg Prod.snd (run_services_of_ok success)
  simp only at isAfter
  rw [← isAfter]
  refine ⟨{ network with subnets := Store.erase Subnet.name subnetName network.subnets }, ?_, ?_, ?_⟩
  · simp only [Azure.handle]
    rw [sandboxNetwork_modifySubnets, isNetwork, Option.map_some, if_pos named]
  · exact named
  · intro subnet member
    rcases Store.mem_erase_iff.mp member with ⟨old, different⟩
    exact ⟨holds subnet old, different⟩

/-- After the loop no subnet has the name of a listed one. -/
theorem deleteSubnets_removes {subnets : List Subnet}
    (all : AllSubnets managementGroupName networkName property state.2)
    (success : run services (forEach subnets fun subnet => withLock .subnetLocker <|
      NetworkService.deleteSubnet managementGroupName networkName subnet.name) state =
        (.ok (), finished)) :
    AllSubnets managementGroupName networkName
      (fun subnet => property subnet ∧ ∀ listed ∈ subnets, subnet.name ≠ listed.name)
      finished.2 := by
  induction subnets generalizing property state with
  | nil =>
      cases success
      exact all.imp fun subnet holds => ⟨holds, by simp⟩
  | cons listed rest ih =>
      rcases run_bind_eq_ok success with ⟨_, between, first, success⟩
      rw [run_withLock] at first
      apply (ih (deleteSubnet_removes all first) success).imp
      rintro subnet ⟨⟨holds, different⟩, others⟩
      exact ⟨holds, List.forall_mem_cons.mpr ⟨different, others⟩⟩

theorem getSandboxVirtualNetwork_putsNoSubnet :
    Within PutsNoSubnet (NetworkService.getSandboxVirtualNetwork managementGroupName) :=
  (Within.retry (within_perform trivial) 4).bind fun _ => within_pure _

/-- The network that is found is that of the state. -/
theorem network_of_getSandboxVirtualNetwork {found : Option VirtualNetwork}
    (success : run services (NetworkService.getSandboxVirtualNetwork managementGroupName) state =
      (.ok found, finished)) :
    found = state.2.sandboxNetwork managementGroupName := by
  rcases run_bind_eq_ok success with ⟨networks, _, listed, success⟩
  rw [Azure.sandboxNetwork, ← networks_of_getVirtualNetworks listed]
  exact (Except.ok.inj (congrArg Prod.fst success)).symm

/-- After the subnets are deleted none is left whose name starts with the group's. -/
theorem deleteSandboxSubnets_removes {network : VirtualNetwork}
    (isNetwork : state.2.sandboxNetwork managementGroupName = some network)
    (success : run services (deleteSandboxSubnets managementGroupName resourceGroupName) state =
      (.ok (), finished)) :
    AllSubnets managementGroupName network.name (fun subnet => ¬ resourceGroupName <+: subnet.name)
      finished.2 := by
  rcases run_bind_eq_ok success with ⟨found, listing, foundRun, success⟩
  rcases (network_of_getSandboxVirtualNetwork foundRun).trans isNetwork with rfl
  have listed : AllSubnets managementGroupName network.name (· ∈ network.subnets) state.2 :=
    ⟨network, isNetwork, rfl, fun _ => id⟩
  have atListing := listed.run getSandboxVirtualNetwork_putsNoSubnet foundRun
  apply (deleteSubnets_removes atListing success).imp
  rintro subnet ⟨member, different⟩ isOwn
  exact different subnet (mem_findSandboxSubnets.mpr ⟨member, isOwn⟩) rfl

theorem removeSandboxLocks_leaves (resourceGroupName : Text) :
    Within LeavesNetworks (removeSandboxLocks resourceGroupName) :=
  Within.bind (within_perform fun _ => rfl) fun _ => within_perform fun _ => rfl

theorem SameOtherSubnets.run {α : Type} {program : Shell α} {outcome : Except PyException α}
    {first : List Subnet}
    (same : Subnets managementGroupName networkName (SameOtherSubnets resourceGroupName first)
      state.2)
    (within : Within (TouchesOwn resourceGroupName) program)
    (ran : run services program state = (outcome, finished)) :
    Subnets managementGroupName networkName (SameOtherSubnets resourceGroupName first) finished.2 :=
  Subnets.run same within (fun _ _ _ touches changes before => before.change touches changes) ran

/-- A cleanup that reports success leaves the subnets whose names do not start
with the group's, as they were. -/
theorem cleanupConnectivity_leaves {network : VirtualNetwork} {actions : List CleanupAction}
    {result : CleanupResult}
    (isNetwork : state.2.sandboxNetwork managementGroupName = some network)
    (ran : run services (cleanupConnectivity managementGroupName resourceGroupName actions) state =
      (.ok result, finished))
    (success : result.success = true) :
    ∃ left, finished.2.sandboxNetwork managementGroupName = some left ∧ ∀ subnet,
      subnet ∈ left.subnets ↔ subnet ∈ network.subnets ∧ ¬ resourceGroupName <+: subnet.name := by
  have started : Subnets managementGroupName network.name
      (SameOtherSubnets resourceGroupName network.subnets) state.2 :=
    ⟨network, isNetwork, rfl, fun _ _ => Iff.rfl⟩
  rcases run_bind_eq_ok ran with ⟨actionId, _, isAction, ran⟩
  cases congrArg Prod.snd isAction
  rcases run_bind_eq_ok ran with ⟨detached, first, detachRun, ran⟩
  rcases run_bind_eq_ok ran with ⟨emptied, second, emptyRun, ran⟩
  rcases run_bind_eq_ok ran with ⟨deleted, third, deleteRun, ran⟩
  rcases run_bind_eq_ok ran with ⟨_, fourth, locksRun, ran⟩
  have sameNetworks := virtualNetworks_of_leaves (removeSandboxLocks_leaves resourceGroupName) third
  rw [locksRun] at sameNetworks
  cases ran
  have noError : deleted = [] := by
    simp only [List.isEmpty_iff, List.append_eq_nil_iff] at success
    exact success.2
  subst noError
  have atFirst := SameOtherSubnets.run started
    (attempt_within removeNsgAndRoutetableFromSubnets_touchesOwn) detachRun
  have atSecond := SameOtherSubnets.run atFirst
    (attempt_within (Within.retry (within_perform trivial) 4)) emptyRun
  have atThird := SameOtherSubnets.run atSecond
    (attempt_within deleteSandboxSubnets_touchesOwn) deleteRun
  rcases atSecond with ⟨before, isBefore, beforeNamed, _⟩
  have removed := deleteSandboxSubnets_removes isBefore (run_of_attempt deleteRun)
  rcases atThird with ⟨left, isLeft, _, same⟩
  rcases removed with ⟨_, isLeft', _, noneOwn⟩
  cases isLeft.symm.trans isLeft'
  refine ⟨left, ?_, ?_⟩
  · rw [Azure.sandboxNetwork, sameNetworks]
    exact isLeft
  · intro subnet
    constructor
    · intro member
      have other := noneOwn subnet member
      exact ⟨(same subnet other).mp member, other⟩
    · rintro ⟨old, other⟩
      exact (same subnet other).mpr old

/-! ## Cleanups in which no call raises -/

/-- The management group has a sandbox network. -/
def HasSandboxNetwork (managementGroupName : Text) (state : FaultyAzure) : Prop :=
  ∃ network, state.2.sandboxNetwork managementGroupName = some network

/-- No request takes the sandbox network away. -/
theorem HasSandboxNetwork.handle (has : HasSandboxNetwork managementGroupName state)
    (request : Request) : HasSandboxNetwork managementGroupName (services request state).2 := by
  let inAzure : Azure → Prop := fun azure =>
    ∃ network, azure.sandboxNetwork managementGroupName = some network
  have handled : inAzure (Azure.handle false request state.2).2 := by
    rcases has with ⟨network, isNetwork⟩
    rcases changes_handle isNetwork request with ⟨changed, isChanged, _⟩
    exact ⟨changed, isChanged⟩
  have before : inAzure state.2 := has
  exact faulty_preserves handled before

theorem endsWell_send (managementGroupName : Text) (request : Request) :
    EndsWell services (HasSandboxNetwork managementGroupName) (send request) fun _ => True := by
  apply endsWell_perform
  intro state a after has answered
  have kept := has.handle request
  rw [answered] at kept
  exact ⟨kept, trivial⟩

theorem getSandboxVirtualNetwork_endsWell :
    EndsWell services (HasSandboxNetwork managementGroupName)
      (NetworkService.getSandboxVirtualNetwork managementGroupName)
      fun found => ∃ network, found = some network := by
  have lists : EndsWell services (HasSandboxNetwork managementGroupName)
      (send (.listVirtualNetworks managementGroupName)) fun networks => ∃ network,
        NetworkService.getVirtualNetworkByTag networks NetworkService.networkTypeTagName
          NetworkService.sandboxNetworkTagValue = some network := by
    apply endsWell_perform
    intro state networks after has answered
    have kept := has.handle (.listVirtualNetworks managementGroupName)
    rw [answered] at kept
    have listed : run services (send (.listVirtualNetworks managementGroupName)) state =
      (.ok networks, after) := answered
    rcases has with ⟨network, isNetwork⟩
    cases congrArg Prod.fst (run_services_of_ok listed)
    exact ⟨kept, network, isNetwork⟩
  apply (lists.retry _ _).bind
  intro networks found
  exact endsWell_pure found

theorem attempt_endsWell {invariant : FaultyAzure → Prop} {command : Shell Unit}
    (ends : EndsWell services invariant command fun _ => True) :
    EndsWell services invariant (attempt command) (· = []) := by
  apply EndsWell.catching
  apply ends.bind
  intro _ _
  exact endsWell_pure rfl

/-- A command for each subnet of the sandbox. -/
theorem forSandboxSubnets_endsWell {body : VirtualNetwork → Subnet → Shell Unit}
    (round : ∀ network subnet, EndsWell services (HasSandboxNetwork managementGroupName)
      (body network subnet) fun _ => True) :
    EndsWell services (HasSandboxNetwork managementGroupName) (do
      let found ← NetworkService.getSandboxVirtualNetwork managementGroupName
      let sandboxVirtualNetwork ← ofExcept (networkWithSubnets found)
      forEach (findSandboxSubnets resourceGroupName sandboxVirtualNetwork) fun subnet =>
        withLock .subnetLocker (body sandboxVirtualNetwork subnet)) fun _ => True := by
  apply getSandboxVirtualNetwork_endsWell.bind
  rintro found ⟨network, rfl⟩
  have rounds : EndsWell services (HasSandboxNetwork managementGroupName)
      (forEach (findSandboxSubnets resourceGroupName network) fun subnet =>
        withLock .subnetLocker (body network subnet)) fun _ => True :=
    EndsWell.forEach fun subnet _ => (round network subnet).withLock _
  exact rounds

/-- A cleanup in which no call raises reports success. -/
theorem cleanupConnectivity_reports_success {actions : List CleanupAction} {actionId : Text}
    (isAction : cleanupActionId actions = .ok actionId)
    (has : HasSandboxNetwork managementGroupName state)
    (calm : failures services
      (cleanupConnectivity managementGroupName resourceGroupName actions) state = []) :
    (run services (cleanupConnectivity managementGroupName resourceGroupName actions) state).1 =
      .ok ⟨true, actionId, []⟩ := by
  have ends : EndsWell services (HasSandboxNetwork managementGroupName)
      (cleanupConnectivity managementGroupName resourceGroupName actions)
      (· = ⟨true, actionId, []⟩) := by
    have sends := endsWell_send managementGroupName
    rw [cleanupConnectivity, isAction]
    have detaches : EndsWell services (HasSandboxNetwork managementGroupName)
        (attempt (removeNsgAndRoutetableFromSubnets managementGroupName resourceGroupName))
        (· = []) :=
      attempt_endsWell (forSandboxSubnets_endsWell fun _ _ => (sends _).retry _ _)
    apply detaches.bind
    rintro _ rfl
    apply (attempt_endsWell ((sends _).retry _ _)).bind
    rintro _ rfl
    have deletes : EndsWell services (HasSandboxNetwork managementGroupName)
        (attempt (deleteSandboxSubnets managementGroupName resourceGroupName)) (· = []) :=
      attempt_endsWell (forSandboxSubnets_endsWell fun _ _ => (sends _).retry _ _)
    apply deletes.bind
    rintro _ rfl
    apply EndsWell.bind ((sends _).bind fun _ _ => sends _)
    intro _ _
    exact endsWell_pure rfl
  obtain ⟨result, finished, ran, _, isResult⟩ := ends state has calm
  rw [ran, isResult]

end DeleteAzureVMOperation

end AzureShell
