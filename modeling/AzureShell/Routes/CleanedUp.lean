import AzureShell.Delete.Cleanup
import AzureShell.Routes.RouteTables

/-!
# Route tables while a sandbox is cleaned up

A subnet is written back as a whole when it gets a route table.  The lock for subnet
updates is held from the reading to the writing, so a subnet that a cleanup has deleted
meanwhile does not come back, with the security group that it was read with.

The cleanup itself writes subnets back that it listed before it took the lock.  It
relies on nobody else deleting them: two sandboxes have no subnet in common, and
each is cleaned up by one client.
-/

namespace AzureShell

open Prog

/-- The subnets of the sandbox network. -/
def sandboxSubnets (managementGroupName : Text) (azure : Azure) : List Subnet :=
  ((azure.sandboxNetwork managementGroupName).map VirtualNetwork.subnets).getD []

/-- No subnet has this name. -/
def Absent (name : Text) (subnets : List Subnet) : Prop :=
  ∀ subnet ∈ subnets, subnet.name ≠ name

theorem Absent.upsert {name : Text} {subnets : List Subnet} {written : Subnet}
    (absent : Absent name subnets) (other : written.name ≠ name) :
    Absent name (Store.upsert Subnet.name written subnets) := by
  intro subnet member
  rcases Store.mem_upsert_iff.mp member with rfl | ⟨old, _⟩
  · exact other
  · exact absent subnet old

theorem Absent.erase {name : Text} {subnets : List Subnet} (absent : Absent name subnets)
    (deleted : Text) : Absent name (Store.erase Subnet.name deleted subnets) :=
  fun subnet member => absent subnet (Store.mem_erase_iff.mp member).1

theorem absent_erase (name : Text) (subnets : List Subnet) :
    Absent name (Store.erase Subnet.name name subnets) :=
  fun _ member => (Store.mem_erase_iff.mp member).2

/-- Whether a request writes or deletes a subnet. -/
def Request.touchesSubnets : Request → Bool
  | .putSubnet _ _ _ => true
  | .deleteSubnet _ _ _ => true
  | _ => false

/-! ## The order -/

/-- The sandbox network keeps its name, and where it is asked, no subnet of the sandbox
appears. -/
structure SubnetsKept (managementGroupName resourceGroupName : Text) (away : Bool)
    (before after : Azure) : Prop where
  named : (after.sandboxNetwork managementGroupName).map VirtualNetwork.name =
    (before.sandboxNetwork managementGroupName).map VirtualNetwork.name
  absent : away = true → ∀ name, resourceGroupName <+: name →
    Absent name (sandboxSubnets managementGroupName before) →
      Absent name (sandboxSubnets managementGroupName after)

section Order

variable {managementGroupName resourceGroupName : Text}

theorem SubnetsKept.refl {away : Bool} (azure : Azure) :
    SubnetsKept managementGroupName resourceGroupName away azure azure :=
  ⟨rfl, fun _ _ _ absent => absent⟩

theorem SubnetsKept.trans {away : Bool} {before between after : Azure}
    (first : SubnetsKept managementGroupName resourceGroupName away before between)
    (second : SubnetsKept managementGroupName resourceGroupName away between after) :
    SubnetsKept managementGroupName resourceGroupName away before after :=
  ⟨second.named.trans first.named, fun isAway name isPrefix absent =>
    second.absent isAway name isPrefix (first.absent isAway name isPrefix absent)⟩

end Order

/-- Only under the lock are subnets written.  It depends on the thread which others let
no subnet of the sandbox appear, and whether it does so itself. -/
def subnetOrder (managementGroupName resourceGroupName : Text) (othersAway ownAway : Bool) :
    LockOrder AzureServices FaultyRoutedAzure where
  rank := fun _ => 0
  invariant state := Store.Keyed VirtualNetwork.name
    (state.2.azure.virtualNetworks managementGroupName)
  others before after :=
    SubnetsKept managementGroupName resourceGroupName othersAway before.2.azure after.2.azure
  own before after :=
    SubnetsKept managementGroupName resourceGroupName ownAway before.2.azure after.2.azure
  without lock before after := lock = .subnetLocker →
    sandboxSubnets managementGroupName after.2.azure =
      sandboxSubnets managementGroupName before.2.azure
  others_refl := fun state => .refl state.2.azure
  others_trans := fun first second => first.trans second
  without_refl := fun _ _ _ => rfl
  without_trans := fun first second isLock => (second isLock).trans (first isLock)

section Claims

variable {managementGroupName resourceGroupName : Text} {othersAway ownAway : Bool}

/-- The sandbox network has this name. -/
def IsNamed (managementGroupName : Text) (network : Option Text) (state : FaultyRoutedAzure) :
    Prop :=
  (state.2.azure.sandboxNetwork managementGroupName).map VirtualNetwork.name = network

theorem persistent_isNamed (network : Option Text) :
    (subnetOrder managementGroupName resourceGroupName othersAway ownAway).Persistent
      (IsNamed managementGroupName network) := by
  rintro before after (others | own) isNamed
  · exact others.named.trans isNamed
  · exact own.named.trans isNamed

/-- A subnet of the sandbox that is not there does not appear. -/
theorem persistent_absent {name : Text} (isPrefix : resourceGroupName <+: name) :
    (subnetOrder managementGroupName resourceGroupName true true).Persistent
      fun state => Absent name (sandboxSubnets managementGroupName state.2.azure) := by
  rintro before after (others | own) absent
  · exact others.absent rfl name isPrefix absent
  · exact own.absent rfl name isPrefix absent

end Claims

/-! ## Requests -/

/-- What the order asks of a request. -/
structure Orderly (managementGroupName resourceGroupName : Text) (away locked : Bool)
    (before after : Azure) : Prop where
  keyed : Store.Keyed VirtualNetwork.name (before.virtualNetworks managementGroupName) →
    Store.Keyed VirtualNetwork.name (after.virtualNetworks managementGroupName)
  kept : SubnetsKept managementGroupName resourceGroupName away before after
  untouched : locked = false →
    sandboxSubnets managementGroupName after = sandboxSubnets managementGroupName before

section Requests

variable {managementGroupName resourceGroupName : Text} {away locked : Bool}

theorem Orderly.refl (azure : Azure) :
    Orderly managementGroupName resourceGroupName away locked azure azure :=
  ⟨fun keyed => keyed, .refl azure, fun _ => rfl⟩

theorem Orderly.of_virtualNetworks {before after : Azure}
    (same : after.virtualNetworks = before.virtualNetworks) :
    Orderly managementGroupName resourceGroupName away locked before after := by
  have sameNetwork : after.sandboxNetwork managementGroupName =
      before.sandboxNetwork managementGroupName := by
    rw [Azure.sandboxNetwork, Azure.sandboxNetwork, same]
  have sameSubnets : sandboxSubnets managementGroupName after =
      sandboxSubnets managementGroupName before := by
    rw [sandboxSubnets, sandboxSubnets, sameNetwork]
  refine ⟨fun keyed => same ▸ keyed, ⟨by rw [sameNetwork], ?_⟩, fun _ => sameSubnets⟩
  intro _ name _ absent
  rw [sameSubnets]
  exact absent

theorem names_modifySubnets (azure : Azure) (group network otherGroup : Text)
    (change : List Subnet → List Subnet) :
    ((azure.modifySubnets group network change).virtualNetworks otherGroup).map
        VirtualNetwork.name = (azure.virtualNetworks otherGroup).map VirtualNetwork.name := by
  by_cases same : otherGroup = group
  · subst same
    simp only [Azure.modifySubnets, Function.update_self, Store.modify, List.map_map]
    apply List.map_congr_left
    intro item _
    simp only [Function.comp_apply]
    split <;> rfl
  · simp only [Azure.modifySubnets, Function.update_of_ne same]

/-- The sandbox network after the subnets of some network are changed. -/
theorem sandboxNetwork_of_modifySubnets (managementGroupName : Text) (azure : Azure)
    (group network : Text) (change : List Subnet → List Subnet) :
    (azure.modifySubnets group network change).sandboxNetwork managementGroupName =
        azure.sandboxNetwork managementGroupName ∨
      ∃ item, azure.sandboxNetwork managementGroupName = some item ∧
        (azure.modifySubnets group network change).sandboxNetwork managementGroupName =
          some { item with subnets := change item.subnets } := by
  by_cases sameGroup : managementGroupName = group
  · subst sameGroup
    rw [DeleteAzureVMOperation.sandboxNetwork_modifySubnets]
    cases azure.sandboxNetwork managementGroupName with
    | none => exact Or.inl rfl
    | some item =>
        rw [Option.map_some]
        split
        · exact Or.inr ⟨item, rfl, rfl⟩
        · exact Or.inl rfl
  · exact Or.inl (DeleteAzureVMOperation.sandboxNetwork_modifySubnets_of_ne azure sameGroup _ _)

/-- The subnets of a network are changed under the lock. -/
theorem orderly_modifySubnets (azure : Azure) (group network : Text)
    {change : List Subnet → List Subnet}
    (keeps : away = true → ∀ name, resourceGroupName <+: name →
      Absent name (sandboxSubnets managementGroupName azure) →
        Absent name (change (sandboxSubnets managementGroupName azure))) :
    Orderly managementGroupName resourceGroupName away true azure
      (azure.modifySubnets group network change) := by
  have keyed : Store.Keyed VirtualNetwork.name (azure.virtualNetworks managementGroupName) →
      Store.Keyed VirtualNetwork.name
        ((azure.modifySubnets group network change).virtualNetworks managementGroupName) := by
    intro keyed
    rw [Store.Keyed, names_modifySubnets]
    exact keyed
  rcases sandboxNetwork_of_modifySubnets managementGroupName azure group network change with
    same | ⟨item, isNetwork, changed⟩
  · refine ⟨keyed, ⟨by rw [same], ?_⟩, by rintro ⟨⟩⟩
    intro _ name _ absent
    rw [sandboxSubnets, same]
    exact absent
  · refine ⟨keyed, ⟨by rw [changed, isNetwork]; rfl, ?_⟩, by rintro ⟨⟩⟩
    intro isAway name isPrefix absent
    have kept := keeps isAway name isPrefix absent
    rw [sandboxSubnets, isNetwork] at kept
    rw [sandboxSubnets, changed]
    exact kept

/-- A request keeps to the order if it touches subnets only under the lock and writes
none of the sandbox that is not there. -/
theorem orderly_handle {request : Request} {azure : Azure}
    (underLock : locked = false → request.touchesSubnets = false)
    (writes : ∀ group network written, request = .putSubnet group network written →
      away = true → resourceGroupName <+: written.name →
        ¬ Absent written.name (sandboxSubnets managementGroupName azure)) :
    Orderly managementGroupName resourceGroupName away locked azure
      (Azure.handle false request azure).2 := by
  cases request with
  | putSubnet group network written =>
      cases locked with
      | false => cases underLock rfl
      | true =>
          simp only [Azure.handle]
          split
          · exact .refl azure
          · split
            · exact .refl azure
            · apply orderly_modifySubnets
              intro isAway name isPrefix absent
              apply absent.upsert
              rintro rfl
              exact writes group network written rfl isAway isPrefix absent
  | deleteSubnet group network deleted =>
      cases locked with
      | false => cases underLock rfl
      | true =>
          exact orderly_modifySubnets azure group network fun _ _ _ absent => absent.erase deleted
  | putSecurityRule nsg rule =>
      simp only [Azure.handle]
      split <;> exact Orderly.of_virtualNetworks rfl
  | checkoutFromPool poolId reservationId ownerId subnetRange =>
      simp only [Azure.handle]
      split <;> exact Orderly.of_virtualNetworks rfl
  | _ => exact Orderly.of_virtualNetworks rfl

end Requests

/-! ## Calls that may fail -/

section Calls

variable {managementGroupName resourceGroupName : Text} {othersAway ownAway locked : Bool}
  {held : List LockName} {request : Request} {state : FaultyRoutedAzure}

/-- A call that is answered well took effect. -/
theorem shellServices_of_ok {a : request.Answer}
    (answered : (shellServices request state).1 = .ok a) :
    RoutedAzure.handleShell request state.2 = (.ok a, (shellServices request state).2.2) := by
  rcases state with ⟨fates, before⟩
  exact faulty_of_ok (Prod.ext answered rfl)

/-- A call of the shell keeps to the order like the request. -/
theorem orderly_shellServices
    (underLock : locked = false → request.touchesSubnets = false)
    (writes : ∀ group network written, request = .putSubnet group network written →
      ownAway = true → resourceGroupName <+: written.name →
        ¬ Absent written.name (sandboxSubnets managementGroupName state.2.azure)) :
    Orderly managementGroupName resourceGroupName ownAway locked state.2.azure
      (shellServices request state).2.2.azure := by
  rcases faulty_state Request.mayFail ServiceError.toException RoutedAzure.handleShell request
    state with same | same
  · rw [shellServices, same]
    exact orderly_handle underLock writes
  · rw [shellServices, same]
    exact .refl _

/-- What a step does that keeps to the order. -/
theorem Orderly.steps {before after : FaultyRoutedAzure}
    (orderly : Orderly managementGroupName resourceGroupName ownAway locked before.2.azure
      after.2.azure)
    (holds : locked = false ∨ LockName.subnetLocker ∈ held)
    (invariant : (subnetOrder managementGroupName resourceGroupName othersAway ownAway).invariant
      before) :
    (subnetOrder managementGroupName resourceGroupName othersAway ownAway).invariant after ∧
      (subnetOrder managementGroupName resourceGroupName othersAway ownAway).own before after ∧
        ∀ lock, lock ∉ held →
          (subnetOrder managementGroupName resourceGroupName othersAway ownAway).without lock before
            after := by
  refine ⟨orderly.keyed invariant, orderly.kept, ?_⟩
  rintro lock notHeld rfl
  rcases holds with unlocked | isHeld
  · exact orderly.untouched unlocked
  · exact absurd isHeld notHeld

/-- One call of the shell, before which a claim holds for good. -/
theorem returns_send {before : FaultyRoutedAzure → Prop}
    {result : Except PyException request.Answer → FaultyRoutedAzure → Prop}
    (holds : locked = false ∨ LockName.subnetLocker ∈ held)
    (starts : (subnetOrder managementGroupName resourceGroupName othersAway ownAway).Persistent
      before)
    (stable : ∀ outcome,
      (subnetOrder managementGroupName resourceGroupName othersAway ownAway).Stable held
        (result outcome))
    (orderly : ∀ state, before state →
      Orderly managementGroupName resourceGroupName ownAway locked state.2.azure
          (shellServices request state).2.2.azure ∧
        result (shellServices request state).1 (shellServices request state).2) :
    Returns (subnetOrder managementGroupName resourceGroupName othersAway ownAway) shellServices
      held before result (send request) := by
  let order := subnetOrder managementGroupName resourceGroupName othersAway ownAway
  have effect : ∀ state, order.invariant state → before state →
      order.invariant (shellServices request state).2 ∧
        order.own state (shellServices request state).2 ∧
          (∀ lock, lock ∉ held → order.without lock state (shellServices request state).2) ∧
            result (shellServices request state).1 (shellServices request state).2 := by
    intro state invariant started
    rcases orderly state started with ⟨isOrderly, claimed⟩
    rcases isOrderly.steps holds invariant with ⟨kept, own, without⟩
    exact ⟨kept, own, without, claimed⟩
  exact returns_perform starts.stable stable effect

/-- A request that touches no subnet, of which no more is known. -/
theorem returns_untouching (untouching : request.touchesSubnets = false) :
    Returns (subnetOrder managementGroupName resourceGroupName othersAway ownAway) shellServices
      held (fun _ => True) (fun _ _ => True) (send request) := by
  apply returns_send (Or.inl rfl) (fun _ _ _ _ => trivial) (fun _ _ _ _ _ => trivial)
  intro state _
  refine ⟨orderly_shellServices (fun _ => untouching) ?_, trivial⟩
  rintro group network written rfl
  cases untouching

/-- The sandbox network is read, with a claim that holds of it when it is read. -/
theorem returns_getSandboxVirtualNetwork
    {claim : Option VirtualNetwork → FaultyRoutedAzure → Prop}
    (persistent : ∀ found,
      (subnetOrder managementGroupName resourceGroupName othersAway ownAway).Persistent (claim found))
    (isSo : ∀ state, claim (state.2.azure.sandboxNetwork managementGroupName) state) :
    Returns (subnetOrder managementGroupName resourceGroupName othersAway ownAway) shellServices
      held (fun _ => True) (fun outcome state => ∀ found, outcome = .ok found → claim found state)
      (NetworkService.getSandboxVirtualNetwork managementGroupName) := by
  let order := subnetOrder managementGroupName resourceGroupName othersAway ownAway
  let network (networks : List VirtualNetwork) : Option VirtualNetwork :=
    NetworkService.getVirtualNetworkByTag networks NetworkService.networkTypeTagName
      NetworkService.sandboxNetworkTagValue
  let result : Except PyException (List VirtualNetwork) → FaultyRoutedAzure → Prop :=
    fun outcome state => ∀ networks, outcome = .ok networks → claim (network networks) state
  have stable : ∀ outcome, order.Stable held (result outcome) := by
    intro outcome before after follows claimed networks isOk
    exact persistent _ before after (Or.inl follows.others) (claimed networks isOk)
  have lists : Returns order shellServices held (fun _ => True) result
      (send (.listVirtualNetworks managementGroupName)) := by
    apply returns_send (Or.inl rfl) (fun _ _ _ _ => trivial)
    · exact stable
    · intro state _
      refine ⟨orderly_shellServices (fun _ => rfl) (by rintro _ _ _ ⟨⟩), ?_⟩
      intro networks answered
      have took := shellServices_of_ok answered
      have isNetwork : (shellServices (.listVirtualNetworks managementGroupName)
          state).2.2.azure.sandboxNetwork managementGroupName = network networks := by
        rw [← congrArg Prod.snd took, ← Except.ok.inj (congrArg Prod.fst took)]
        rfl
      rw [← isNetwork]
      exact isSo _
  apply (Returns.retry lists (fun _ _ _ _ => trivial) (fun e => stable (.error e)) 4).bind
  · rintro e before after _ _ found ⟨⟩
  · intro networks
    apply returns_done
    · rintro before after follows claimed found ⟨⟩
      exact persistent _ before after (Or.inl follows.others) (claimed _ rfl)
    · rintro state _ claimed found ⟨⟩
      exact claimed networks rfl
  · rintro e state _ _ found ⟨⟩

end Calls

/-! ## The commands of a cleanup -/

section Cleanup

variable {managementGroupName resourceGroupName : Text} {othersAway ownAway : Bool}
  {network : Text} {subnet : Subnet}

/-- A subnet that may be written is detached under the lock. -/
theorem returns_updateSubnet (allowed : ownAway = true → ¬ resourceGroupName <+: subnet.name) :
    Returns (subnetOrder managementGroupName resourceGroupName othersAway ownAway) shellServices
      [.subnetLocker] (fun _ => True) (fun _ _ => True)
      (NetworkService.updateSubnet managementGroupName network subnet) := by
  have puts : Returns (subnetOrder managementGroupName resourceGroupName othersAway ownAway)
      shellServices [.subnetLocker] (fun _ => True) (fun _ _ => True)
      (send (.putSubnet managementGroupName network subnet)) := by
    apply returns_send (Or.inr (List.mem_singleton_self _)) (fun _ _ _ _ => trivial)
      (fun _ _ _ _ _ => trivial)
    intro state _
    have orderly : Orderly managementGroupName resourceGroupName ownAway true state.2.azure
        (shellServices (.putSubnet managementGroupName network subnet) state).2.2.azure := by
      apply orderly_shellServices (by rintro ⟨⟩)
      rintro _ _ _ ⟨⟩ isAway isPrefix
      exact absurd isPrefix (allowed isAway)
    exact ⟨orderly, trivial⟩
  exact puts.retry (fun _ _ _ _ => trivial) (fun _ _ _ _ _ => trivial) 4

/-- A subnet of the sandbox network that is deleted. -/
theorem sandboxSubnets_deleteSubnet {azure : Azure} {name : Text}
    (isNetwork : (azure.sandboxNetwork managementGroupName).map VirtualNetwork.name =
      some network) :
    sandboxSubnets managementGroupName
        (Azure.handle false (.deleteSubnet managementGroupName network name) azure).2 =
      Store.erase Subnet.name name (sandboxSubnets managementGroupName azure) := by
  rcases Option.map_eq_some_iff.mp isNetwork with ⟨item, isItem, named⟩
  rw [sandboxSubnets, Azure.handle, DeleteAzureVMOperation.sandboxNetwork_modifySubnets,
    sandboxSubnets, isItem]
  simp only [Option.map_some, named, if_true, Option.getD_some]

/-- A subnet of the sandbox is deleted for good. -/
theorem returns_deleteSubnet (isPrefix : resourceGroupName <+: subnet.name) :
    Returns (subnetOrder managementGroupName resourceGroupName true true) shellServices
      [.subnetLocker] (IsNamed managementGroupName (some network))
      (fun outcome state => outcome = .ok () →
        Absent subnet.name (sandboxSubnets managementGroupName state.2.azure))
      (NetworkService.deleteSubnet managementGroupName network subnet.name) := by
  let order := subnetOrder managementGroupName resourceGroupName true true
  let request : Request := .deleteSubnet managementGroupName network subnet.name
  let result : Except PyException Unit → FaultyRoutedAzure → Prop := fun outcome state =>
    IsNamed managementGroupName (some network) state ∧ (outcome = .ok () →
      Absent subnet.name (sandboxSubnets managementGroupName state.2.azure))
  have stable : ∀ outcome, order.Stable [.subnetLocker] (result outcome) := by
    rintro outcome before after follows ⟨isNamed, absent⟩
    exact ⟨persistent_isNamed (some network) before after (Or.inl follows.others) isNamed,
      fun isOk => persistent_absent isPrefix before after (Or.inl follows.others) (absent isOk)⟩
  have deletes : Returns order shellServices [.subnetLocker]
      (IsNamed managementGroupName (some network)) result (send request) := by
    apply returns_send (Or.inr (List.mem_singleton_self _)) (persistent_isNamed (some network))
    · exact stable
    · intro state isNamed
      have orderly : Orderly managementGroupName resourceGroupName true true state.2.azure
          (shellServices request state).2.2.azure := by
        apply orderly_shellServices (by rintro ⟨⟩)
        intro group network written isPut
        simp [request] at isPut
      refine ⟨orderly, orderly.kept.named.trans isNamed, ?_⟩
      intro answered
      have took := congrArg (fun reaction : Except PyException Unit × RoutedAzure =>
        reaction.2.azure) (shellServices_of_ok answered)
      rw [← show (Azure.handle false request state.2.azure).2 = _ from took,
        sandboxSubnets_deleteSubnet isNamed]
      exact absent_erase subnet.name _
  have whole : Returns order shellServices [.subnetLocker]
      (IsNamed managementGroupName (some network)) result
      (NetworkService.deleteSubnet managementGroupName network subnet.name) :=
    deletes.retry (fun e state _ ended => ended.1) (fun e => stable (.error e)) 4
  exact whole.mono (fun _ isNamed => isNamed) fun _ _ ended => ended.2

/-- A loop over the subnets as they were listed, with a claim for each of them. -/
theorem returns_forSandboxSubnets (listGroupName : Text)
    (body : VirtualNetwork → Subnet → Shell Unit) (seen : VirtualNetwork → FaultyRoutedAzure → Prop)
    (claim : Subnet → FaultyRoutedAzure → Prop)
    (seenPersistent : ∀ found,
      (subnetOrder managementGroupName resourceGroupName othersAway ownAway).Persistent (seen found))
    (persistent : ∀ subnet,
      (subnetOrder managementGroupName resourceGroupName othersAway ownAway).Persistent
        (claim subnet))
    (isSeen : ∀ state found, state.2.azure.sandboxNetwork managementGroupName = some found →
      seen found state)
    (round : ∀ found, ∀ subnet ∈ DeleteAzureVMOperation.findSandboxSubnets listGroupName found,
      Returns (subnetOrder managementGroupName resourceGroupName othersAway ownAway) shellServices
        [.subnetLocker] (seen found) (fun outcome state => outcome = .ok () → claim subnet state)
        (body found subnet)) :
    Returns (subnetOrder managementGroupName resourceGroupName othersAway ownAway) shellServices []
      (fun _ => True)
      (fun outcome state => outcome = .ok () → ∃ found, seen found state ∧
        ∀ subnet ∈ DeleteAzureVMOperation.findSandboxSubnets listGroupName found, claim subnet state)
      (do
        let found ← NetworkService.getSandboxVirtualNetwork managementGroupName
        let sandboxVirtualNetwork ← ofExcept (DeleteAzureVMOperation.networkWithSubnets found)
        forEach (DeleteAzureVMOperation.findSandboxSubnets listGroupName sandboxVirtualNetwork)
          fun subnet => withLock .subnetLocker (body sandboxVirtualNetwork subnet)) := by
  let order := subnetOrder managementGroupName resourceGroupName othersAway ownAway
  let listed : Option VirtualNetwork → FaultyRoutedAzure → Prop := fun found state =>
    ∀ item, found = some item → seen item state
  have listedPersistent : ∀ found, order.Persistent (listed found) := by
    intro found before after does holds item isItem
    exact seenPersistent item before after does (holds item isItem)
  apply Returns.bind (returns_getSandboxVirtualNetwork listedPersistent isSeen)
  · rintro e before after _ _ ⟨⟩
  · intro found
    cases found with
    | none =>
        apply returns_done
        · rintro before after _ _ ⟨⟩
        · rintro state _ _ ⟨⟩
    | some found =>
        let result (subnet : Subnet) : Except PyException Unit → FaultyRoutedAzure → Prop :=
          fun outcome state => outcome = .ok () → claim subnet state
        have stable : ∀ subnet outcome, order.Stable [] (result subnet outcome) := by
          intro subnet outcome before after follows claimed isOk
          exact persistent subnet before after (Or.inl follows.others) (claimed isOk)
        have rounds : ∀ subnet ∈ DeleteAzureVMOperation.findSandboxSubnets listGroupName found,
            Returns order shellServices [] (seen found) (result subnet)
              (withLock .subnetLocker (body found subnet)) := by
          intro subnet member
          apply Returns.withLock
          · rintro _ ⟨⟩
          · exact (seenPersistent found).stable
          · exact round found subnet member
          · exact stable subnet
        have loop := Returns.forEach (seenPersistent found) persistent rounds
        intro state invariant isListed
        have started : seen found state := isListed (some found) rfl found rfl
        apply ((loop state invariant started).frame (seenPersistent found) started).mono
        rintro _ outcome later ⟨⟨rfl, kept, claimed⟩, stillSeen⟩
        exact ⟨rfl, kept, fun isOk => ⟨found, stillSeen, claimed isOk⟩⟩
  · rintro e state _ _ ⟨⟩

theorem returns_removeNsgAndRoutetableFromSubnets {listGroupName : Text}
    (allowed : ownAway = true → ∀ name, listGroupName <+: name → ¬ resourceGroupName <+: name) :
    Returns (subnetOrder managementGroupName resourceGroupName othersAway ownAway) shellServices []
      (fun _ => True) (fun _ _ => True)
      (DeleteAzureVMOperation.removeNsgAndRoutetableFromSubnets managementGroupName
        listGroupName) := by
  have round : ∀ (found : VirtualNetwork),
      ∀ subnet ∈ DeleteAzureVMOperation.findSandboxSubnets listGroupName found,
        Returns (subnetOrder managementGroupName resourceGroupName othersAway ownAway) shellServices
          [.subnetLocker] (fun _ => True) (fun outcome _ => outcome = .ok () → True)
          (NetworkService.updateSubnet managementGroupName found.name
            { subnet with networkSecurityGroup := none, routeTable := none }) := by
    intro found subnet member
    have listed := (DeleteAzureVMOperation.mem_findSandboxSubnets.mp member).2
    have mayWrite : ownAway = true → ¬ resourceGroupName <+:
        ({ subnet with networkSecurityGroup := none, routeTable := none } : Subnet).name :=
      fun isAway => allowed isAway subnet.name listed
    apply (returns_updateSubnet mayWrite).mono
    · exact fun _ holds => holds
    · exact fun _ _ _ _ => trivial
  have loop := returns_forSandboxSubnets listGroupName _ (fun _ _ => True) (fun _ _ => True)
    (fun _ _ _ _ _ => trivial) (fun _ _ _ _ _ => trivial) (fun _ _ _ => trivial) round
  exact loop.mono (fun _ holds => holds) fun _ _ _ => trivial

/-- Whoever deletes subnets keeps to the order. -/
theorem returns_deleteSandboxSubnets {listGroupName : Text} :
    Returns (subnetOrder managementGroupName resourceGroupName othersAway ownAway) shellServices []
      (fun _ => True) (fun _ _ => True)
      (DeleteAzureVMOperation.deleteSandboxSubnets managementGroupName listGroupName) := by
  have deletes : ∀ network name,
      Returns (subnetOrder managementGroupName resourceGroupName othersAway ownAway) shellServices
        [.subnetLocker] (fun _ => True) (fun _ _ => True)
        (NetworkService.deleteSubnet managementGroupName network name) := by
    intro network name
    have once : Returns
        (subnetOrder managementGroupName resourceGroupName othersAway ownAway) shellServices
        [.subnetLocker] (fun _ => True) (fun _ _ => True)
        (send (.deleteSubnet managementGroupName network name)) := by
      apply returns_send (Or.inr (List.mem_singleton_self _)) (fun _ _ _ _ => trivial)
        (fun _ _ _ _ _ => trivial)
      intro state _
      have orderly : Orderly managementGroupName resourceGroupName ownAway true state.2.azure
          (shellServices (.deleteSubnet managementGroupName network name) state).2.2.azure := by
        apply orderly_shellServices (by rintro ⟨⟩)
        rintro _ _ _ ⟨⟩
      exact ⟨orderly, trivial⟩
    exact once.retry (fun _ _ _ _ => trivial) (fun _ _ _ _ _ => trivial) 4
  have round : ∀ (found : VirtualNetwork),
      ∀ subnet ∈ DeleteAzureVMOperation.findSandboxSubnets listGroupName found,
        Returns (subnetOrder managementGroupName resourceGroupName othersAway ownAway) shellServices
          [.subnetLocker] (fun _ => True) (fun outcome _ => outcome = .ok () → True)
          (NetworkService.deleteSubnet managementGroupName found.name subnet.name) := by
    intro found subnet _
    exact (deletes found.name subnet.name).mono (fun _ holds => holds) fun _ _ _ _ => trivial
  have loop := returns_forSandboxSubnets listGroupName _ (fun _ _ => True) (fun _ _ => True)
    (fun _ _ _ _ _ => trivial) (fun _ _ _ _ _ => trivial) (fun _ _ _ => trivial) round
  exact loop.mono (fun _ holds => holds) fun _ _ _ => trivial

/-- No subnet of the sandbox is there. -/
def SandboxAbsent (managementGroupName resourceGroupName : Text) (state : FaultyRoutedAzure) :
    Prop :=
  ∀ name, resourceGroupName <+: name →
    Absent name (sandboxSubnets managementGroupName state.2.azure)

theorem stable_sandboxAbsent {held : List LockName} :
    (subnetOrder managementGroupName resourceGroupName true ownAway).Stable held
      (SandboxAbsent managementGroupName resourceGroupName) :=
  fun _ _ follows absent name isPrefix => follows.others.absent rfl name isPrefix
    (absent name isPrefix)

theorem persistent_sandboxAbsent :
    (subnetOrder managementGroupName resourceGroupName true true).Persistent
      (SandboxAbsent managementGroupName resourceGroupName) :=
  fun before after does absent name isPrefix =>
    persistent_absent isPrefix before after does (absent name isPrefix)

/-- The network that was listed, and that the subnets it does not show are not there. -/
def Listed (managementGroupName resourceGroupName : Text) (found : VirtualNetwork)
    (state : FaultyRoutedAzure) : Prop :=
  IsNamed managementGroupName (some found.name) state ∧
    ∀ name, resourceGroupName <+: name → Absent name found.subnets →
      Absent name (sandboxSubnets managementGroupName state.2.azure)

/-- The client of the sandbox deletes its subnets for good: those that were listed, and
the others are not there. -/
theorem returns_deleteOwnSubnets :
    Returns (subnetOrder managementGroupName resourceGroupName true true) shellServices []
      (fun _ => True)
      (fun outcome state => outcome = .ok () →
        SandboxAbsent managementGroupName resourceGroupName state)
      (DeleteAzureVMOperation.deleteSandboxSubnets managementGroupName resourceGroupName) := by
  let order := subnetOrder managementGroupName resourceGroupName true true
  let claim : Subnet → FaultyRoutedAzure → Prop := fun subnet state =>
    resourceGroupName <+: subnet.name →
      Absent subnet.name (sandboxSubnets managementGroupName state.2.azure)
  have persistent : ∀ subnet, order.Persistent (claim subnet) := by
    intro subnet before after does absent isPrefix
    exact persistent_absent isPrefix before after does (absent isPrefix)
  have listedPersistent : ∀ found,
      order.Persistent (Listed managementGroupName resourceGroupName found) := by
    rintro found before after does ⟨isNamed, unlisted⟩
    refine ⟨persistent_isNamed _ before after does isNamed, ?_⟩
    intro name isPrefix notFound
    exact persistent_absent isPrefix before after does (unlisted name isPrefix notFound)
  have isListed : ∀ (state : FaultyRoutedAzure) found,
      state.2.azure.sandboxNetwork managementGroupName = some found →
        Listed managementGroupName resourceGroupName found state := by
    intro state found isFound
    refine ⟨by rw [IsNamed, isFound]; rfl, ?_⟩
    intro name _ notFound
    rw [sandboxSubnets, isFound]
    exact notFound
  have round : ∀ (found : VirtualNetwork),
      ∀ subnet ∈ DeleteAzureVMOperation.findSandboxSubnets resourceGroupName found,
        Returns order shellServices [.subnetLocker]
          (Listed managementGroupName resourceGroupName found)
          (fun outcome state => outcome = .ok () → claim subnet state)
          (NetworkService.deleteSubnet managementGroupName found.name subnet.name) := by
    intro found subnet member
    have isPrefix := (DeleteAzureVMOperation.mem_findSandboxSubnets.mp member).2
    apply (returns_deleteSubnet isPrefix).mono
    · exact fun _ listed => listed.1
    · exact fun _ _ absent isOk _ => absent isOk
  have loop := returns_forSandboxSubnets resourceGroupName _
    (Listed managementGroupName resourceGroupName) claim listedPersistent persistent isListed round
  apply loop.mono (fun _ holds => holds)
  intro outcome state ended isOk name isPrefix
  rcases ended isOk with ⟨found, listed, deleted⟩
  by_cases isFound : Absent name found.subnets
  · exact listed.2 name isPrefix isFound
  · rcases not_forall.mp isFound with ⟨subnet, notAbsent⟩
    rcases Classical.not_imp.mp notAbsent with ⟨member, named⟩
    rw [← Classical.not_not.mp named] at isPrefix ⊢
    exact deleted subnet (DeleteAzureVMOperation.mem_findSandboxSubnets.mpr ⟨member, isPrefix⟩)
      isPrefix

/-- A command whose error is noted: no message means that it ended well. -/
theorem returns_attempt {command : Shell Unit} {claim : FaultyRoutedAzure → Prop}
    (stable : (subnetOrder managementGroupName resourceGroupName othersAway ownAway).Stable []
      claim)
    (returns : Returns (subnetOrder managementGroupName resourceGroupName othersAway ownAway)
      shellServices [] (fun _ => True) (fun outcome state => outcome = .ok () → claim state)
      command) :
    Returns (subnetOrder managementGroupName resourceGroupName othersAway ownAway) shellServices []
      (fun _ => True) (fun outcome state => outcome = .ok [] → claim state)
      (DeleteAzureVMOperation.attempt command) := by
  let order := subnetOrder managementGroupName resourceGroupName othersAway ownAway
  let result : Except PyException (List Text) → FaultyRoutedAzure → Prop :=
    fun outcome state => outcome = .ok [] → claim state
  have stays : ∀ outcome, order.Stable [] (result outcome) :=
    fun _ before after follows claimed isOk => stable before after follows (claimed isOk)
  have body : Returns order shellServices [] (fun _ => True) result (do
      command
      pure []) := by
    apply returns.bind
    · rintro e before after _ _ ⟨⟩
    · intro _
      apply returns_done
      · exact stays _
      · exact fun state _ claimed _ => claimed rfl
    · rintro e state _ _ ⟨⟩
  apply body.catching
  · intro e
    apply returns_done
    · exact stays _
    · rintro state _ _ ⟨⟩
  · exact fun _ _ _ claimed => claimed

/-- A command of which no more is known. -/
theorem returns_attempted {command : Shell Unit}
    (returns : Returns (subnetOrder managementGroupName resourceGroupName othersAway ownAway)
      shellServices [] (fun _ => True) (fun _ _ => True) command) :
    Returns (subnetOrder managementGroupName resourceGroupName othersAway ownAway) shellServices []
      (fun _ => True) (fun _ _ => True) (DeleteAzureVMOperation.attempt command) := by
  let unclaimed : FaultyRoutedAzure → Prop := fun _ => True
  have claimed : Returns (subnetOrder managementGroupName resourceGroupName othersAway ownAway)
      shellServices [] (fun _ => True) (fun outcome state => outcome = .ok () → unclaimed state)
      command := returns.mono (fun _ holds => holds) fun _ _ _ _ => trivial
  have stable : (subnetOrder managementGroupName resourceGroupName othersAway ownAway).Stable []
      unclaimed := fun _ _ _ _ => trivial
  exact (returns_attempt stable claimed).mono (fun _ holds => holds) fun _ _ _ => trivial

theorem returns_deleteResourceGroup {groupName : Text} :
    Returns (subnetOrder managementGroupName resourceGroupName othersAway ownAway) shellServices []
      (fun _ => True) (fun _ _ => True) (VirtualMachineService.deleteResourceGroup groupName) :=
  (returns_untouching rfl).retry (fun _ _ _ _ => trivial) (fun _ _ _ _ _ => trivial) 4

theorem returns_removeSandboxLocks {groupName : Text} :
    Returns (subnetOrder managementGroupName resourceGroupName othersAway ownAway) shellServices []
      (fun _ => True) (fun _ _ => True) (DeleteAzureVMOperation.removeSandboxLocks groupName) :=
  (returns_untouching rfl).bind (fun _ _ _ _ _ => trivial) (fun _ => returns_untouching rfl)
    fun _ _ _ _ => trivial

/-- What holds when a cleanup reports success. -/
def WhenCleaned (claim : FaultyRoutedAzure → Prop) (outcome : Except PyException CleanupResult)
    (state : FaultyRoutedAzure) : Prop :=
  ∀ result, outcome = .ok result → result.success = true → claim state

/-- What a cleanup does once the subnets are detached. -/
def afterDetaching (managementGroupName resourceGroupName actionId : Text)
    (detached : List Text) : Shell CleanupResult := do
  let emptied ← DeleteAzureVMOperation.attempt
    (VirtualMachineService.deleteResourceGroup resourceGroupName)
  let deleted ← DeleteAzureVMOperation.attempt
    (DeleteAzureVMOperation.deleteSandboxSubnets managementGroupName resourceGroupName)
  let errors := detached ++ emptied ++ deleted
  DeleteAzureVMOperation.removeSandboxLocks resourceGroupName
  pure ⟨errors.isEmpty, actionId, errors⟩

/-- The end of a cleanup, with what the deletion of the subnets achieves. -/
theorem returns_afterDetaching {listGroupName : Text} {claim : FaultyRoutedAzure → Prop}
    (persistent : (subnetOrder managementGroupName resourceGroupName othersAway ownAway).Persistent
      claim)
    (deletes : Returns (subnetOrder managementGroupName resourceGroupName othersAway ownAway)
      shellServices [] (fun _ => True) (fun outcome state => outcome = .ok () → claim state)
      (DeleteAzureVMOperation.deleteSandboxSubnets managementGroupName listGroupName))
    (actionId : Text) (detached : List Text) :
    Returns (subnetOrder managementGroupName resourceGroupName othersAway ownAway) shellServices []
      (fun _ => True)
      (WhenCleaned claim) (afterDetaching managementGroupName listGroupName actionId detached) := by
  let order := subnetOrder managementGroupName resourceGroupName othersAway ownAway
  have failed : ∀ (e : PyException) (state : FaultyRoutedAzure),
      WhenCleaned claim (.error e) state := by
    rintro e state result ⟨⟩
  have stable : ∀ outcome, order.Stable [] (WhenCleaned claim outcome) :=
    fun _ before after follows claimed result isOk success =>
      persistent before after (Or.inl follows.others) (claimed result isOk success)
  apply (returns_attempted returns_deleteResourceGroup).bind (fun e => stable (.error e))
  · intro emptied
    apply (returns_attempt persistent.stable deletes).bind (fun e => stable (.error e))
    · intro deleted
      let kept : FaultyRoutedAzure → Prop := fun state => deleted = [] → claim state
      have keptPersistent : order.Persistent kept := fun before after does holds isEmpty =>
        persistent before after does (holds isEmpty)
      have locks : Returns order shellServices [] kept (fun _ => kept)
          (DeleteAzureVMOperation.removeSandboxLocks listGroupName) :=
        returns_removeSandboxLocks.carry keptPersistent
      have ends : Returns order shellServices [] kept (WhenCleaned claim) (do
          DeleteAzureVMOperation.removeSandboxLocks listGroupName
          let errors := detached ++ emptied ++ deleted
          pure ⟨errors.isEmpty, actionId, errors⟩) := by
        apply locks.bind (fun e => stable (.error e))
        · intro _
          apply returns_done (stable _)
          rintro state _ holds result ⟨⟩ success
          apply holds
          simp only [List.isEmpty_iff, List.append_eq_nil_iff] at success
          exact success.2
        · exact fun e state _ _ => failed e state
      apply ends.mono
      · exact fun state noted isEmpty => noted (congrArg Except.ok isEmpty)
      · exact fun _ _ ended => ended
    · exact fun e state _ _ => failed e state
  · exact fun e state _ _ => failed e state

/-- A cleanup whose subnets may be written keeps to the order; one that reports success has
achieved what the deletion of the subnets achieves. -/
theorem returns_cleanupOf {listGroupName : Text} {claim : FaultyRoutedAzure → Prop}
    {actions : List CleanupAction}
    (allowed : ownAway = true → ∀ name, listGroupName <+: name → ¬ resourceGroupName <+: name)
    (rest : ∀ actionId detached,
      Returns (subnetOrder managementGroupName resourceGroupName othersAway ownAway) shellServices
        [] (fun _ => True) (WhenCleaned claim)
        (afterDetaching managementGroupName listGroupName actionId detached)) :
    Returns (subnetOrder managementGroupName resourceGroupName othersAway ownAway) shellServices []
      (fun _ => True)
      (WhenCleaned claim)
      (DeleteAzureVMOperation.cleanupConnectivity managementGroupName listGroupName actions) := by
  let order := subnetOrder managementGroupName resourceGroupName othersAway ownAway
  have stays : ∀ e : PyException, order.Stable [] (WhenCleaned claim (.error e)) := by
    rintro e before after _ _ result ⟨⟩
  have actionIds : Returns order shellServices [] (fun _ => True) (fun _ _ => True)
      (ofExcept (DeleteAzureVMOperation.cleanupActionId actions)) :=
    returns_done (fun _ _ _ _ => trivial) fun _ _ _ => trivial
  apply actionIds.bind stays
  · intro actionId
    apply (returns_attempted (returns_removeNsgAndRoutetableFromSubnets allowed)).bind stays
    · exact fun detached => rest actionId detached
    · rintro e state _ _ result ⟨⟩
  · rintro e state _ _ result ⟨⟩

/-- The cleanup of another sandbox lets no subnet of this one appear. -/
theorem returns_otherCleanup {listGroupName : Text} {actions : List CleanupAction}
    (apart : ∀ name, listGroupName <+: name → ¬ resourceGroupName <+: name) :
    Returns (subnetOrder managementGroupName resourceGroupName false true) shellServices []
      (fun _ => True) (fun _ _ => True)
      (DeleteAzureVMOperation.cleanupConnectivity managementGroupName listGroupName actions) := by
  let unclaimed : FaultyRoutedAzure → Prop := fun _ => True
  have persistent : (subnetOrder managementGroupName resourceGroupName false true).Persistent
      unclaimed := fun _ _ _ _ => trivial
  have deletes : Returns (subnetOrder managementGroupName resourceGroupName false true)
      shellServices [] (fun _ => True) (fun outcome state => outcome = .ok () → unclaimed state)
      (DeleteAzureVMOperation.deleteSandboxSubnets managementGroupName listGroupName) :=
    returns_deleteSandboxSubnets.mono (fun _ holds => holds) fun _ _ _ _ => trivial
  have whole : Returns (subnetOrder managementGroupName resourceGroupName false true)
      shellServices [] (fun _ => True) (WhenCleaned unclaimed)
      (DeleteAzureVMOperation.cleanupConnectivity managementGroupName listGroupName actions) :=
    returns_cleanupOf (fun _ => apart) (returns_afterDetaching persistent deletes)
  exact whole.mono (fun _ holds => holds) fun _ _ _ => trivial

/-- The cleanup of the sandbox relies on others for its subnets to stay away; it is done
writing them when it begins to delete them. -/
theorem returns_ownCleanup {actions : List CleanupAction} :
    Returns (subnetOrder managementGroupName resourceGroupName true false) shellServices []
      (fun _ => True) (WhenCleaned (SandboxAbsent managementGroupName resourceGroupName))
      (DeleteAzureVMOperation.cleanupConnectivity managementGroupName resourceGroupName
        actions) := by
  apply returns_cleanupOf
  · rintro ⟨⟩
  · intro actionId detached
    have deletes : Returns (subnetOrder managementGroupName resourceGroupName true true)
        shellServices [] (fun _ => True)
        (WhenCleaned (SandboxAbsent managementGroupName resourceGroupName))
        (afterDetaching managementGroupName resourceGroupName actionId detached) :=
      returns_afterDetaching persistent_sandboxAbsent returns_deleteOwnSubnets actionId detached
    exact deletes.relax fun _ _ kept => ⟨kept.named, by rintro ⟨⟩⟩

end Cleanup

/-! ## Route tables -/

/-- The order of a client that creates route tables. -/
abbrev routedOrder (managementGroupName resourceGroupName : Text) :
    LockOrder RoutedServices FaultyRoutedAzure :=
  (subnetOrder managementGroupName resourceGroupName false true).extend

section Routes

variable {managementGroupName resourceGroupName : Text} {held : List LockName} {network : Text}

/-- The sandbox network is found under its name. -/
theorem subnetsOf_sandboxNetwork {azure : Azure}
    (keyed : Store.Keyed VirtualNetwork.name (azure.virtualNetworks managementGroupName))
    (isNetwork : (azure.sandboxNetwork managementGroupName).map VirtualNetwork.name =
      some network) :
    (azure.subnetsOf managementGroupName network).getD [] =
      sandboxSubnets managementGroupName azure := by
  rcases Option.map_eq_some_iff.mp isNetwork with ⟨item, isItem, rfl⟩
  have stored : Store.lookup VirtualNetwork.name item.name
      (azure.virtualNetworks managementGroupName) = some item :=
    keyed.lookup_eq_some_iff.mpr ⟨List.mem_of_find?_eq_some isItem, rfl⟩
  rw [Azure.subnetsOf, stored, sandboxSubnets, isItem]

theorem persistent_isNamed_routed (network : Option Text) :
    (routedOrder managementGroupName resourceGroupName).Persistent
      (IsNamed managementGroupName network) :=
  persistent_isNamed network

/-- One call among those with route tables. -/
theorem returns_routed {request : RoutedServices.Request} {locked : Bool}
    {before : FaultyRoutedAzure → Prop}
    {result : Except PyException (RoutedServices.Answer request) → FaultyRoutedAzure → Prop}
    (holds : locked = false ∨ LockName.subnetLocker ∈ held)
    (starts : (routedOrder managementGroupName resourceGroupName).Stable held before)
    (stable : ∀ outcome, (routedOrder managementGroupName resourceGroupName).Stable held
      (result outcome))
    (orderly : ∀ state, Store.Keyed VirtualNetwork.name
        (state.2.azure.virtualNetworks managementGroupName) → before state →
      Orderly managementGroupName resourceGroupName true locked state.2.azure
          (routedServices request state).2.2.azure ∧
        result (routedServices request state).1 (routedServices request state).2) :
    Returns (routedOrder managementGroupName resourceGroupName) routedServices held before result
      (perform (S := RoutedServices) request) := by
  apply returns_perform starts stable
  intro state invariant started
  rcases orderly state invariant started with ⟨isOrderly, claimed⟩
  have steps : (subnetOrder managementGroupName resourceGroupName false true).invariant
        (routedServices request state).2 ∧
      (subnetOrder managementGroupName resourceGroupName false true).own state
        (routedServices request state).2 ∧
      ∀ lock, lock ∉ held → (subnetOrder managementGroupName resourceGroupName false true).without
        lock state (routedServices request state).2 := isOrderly.steps holds invariant
  exact ⟨steps.1, steps.2.1, steps.2.2, claimed⟩

/-- A call about route tables leaves the subnets. -/
theorem azure_route (request : RouteRequest) (state : FaultyRoutedAzure) :
    (routedServices (.inr request) state).2.2.azure = state.2.azure := by
  have handled : (RoutedAzure.handle (.inr request) state.2).2.azure = state.2.azure := by
    cases request <;> rfl
  rcases routedServices_state (.inr request) state with same | same
  · rw [same]
    exact handled
  · rw [same]

theorem returns_sendRoute (request : RouteRequest) :
    Returns (routedOrder managementGroupName resourceGroupName) routedServices held
      (fun _ => True) (fun _ _ => True) (sendRoute request) := by
  apply returns_routed (Or.inl rfl) (fun _ _ _ _ => trivial) (fun _ _ _ _ _ => trivial)
  intro state _ _
  rw [azure_route]
  exact ⟨.refl _, trivial⟩

/-- The subnet is stored as it was read. -/
def Stored (managementGroupName network name : Text) (found : Subnet)
    (state : FaultyRoutedAzure) : Prop :=
  IsNamed managementGroupName (some network) state ∧
    found ∈ sandboxSubnets managementGroupName state.2.azure ∧ found.name = name

/-- Under the lock nobody else writes a subnet. -/
theorem stable_stored (name : Text) (found : Subnet) :
    (routedOrder managementGroupName resourceGroupName).Stable [.subnetLocker]
      (Stored managementGroupName network name found) := by
  rintro before after follows ⟨isNamed, member, named⟩
  refine ⟨follows.others.named.trans isNamed, ?_, named⟩
  rw [follows.without .subnetLocker (List.mem_singleton_self _) rfl]
  exact member

theorem returns_getSubnet (name : Text) :
    Returns (routedOrder managementGroupName resourceGroupName) routedServices [.subnetLocker]
      (IsNamed managementGroupName (some network))
      (fun outcome state => ∀ found, outcome = .ok found →
        Stored managementGroupName network name found state)
      (sendRoute (.getSubnet managementGroupName network name)) := by
  apply returns_routed (Or.inl rfl)
  · exact (persistent_isNamed_routed (some network)).stable
  · intro outcome before after follows stored found isOk
    exact stable_stored name found before after follows (stored found isOk)
  · intro state keyed isNamed
    refine ⟨by rw [azure_route]; exact .refl _, ?_⟩
    intro found answered
    have took := routedServices_of_ok answered
    have stored := find_eq_ok_iff.mp (congrArg Prod.fst took)
    rw [subnetsOf_sandboxNetwork keyed isNamed] at stored
    rcases Store.lookup_eq_some stored with ⟨member, named⟩
    unfold Stored IsNamed
    rw [azure_route]
    exact ⟨isNamed, member, named⟩

/-- The subnet that is written back is there. -/
theorem returns_putSubnet (name routeTable : Text) (found : Subnet) :
    Returns (routedOrder managementGroupName resourceGroupName) routedServices [.subnetLocker]
      (Stored managementGroupName network name found) (fun _ _ => True)
      (sendShell (.putSubnet managementGroupName network
        { found with routeTable := some routeTable })) := by
  let request : RoutedServices.Request := .inl (.putSubnet managementGroupName network
    { found with routeTable := some routeTable })
  apply returns_routed (Or.inr (List.mem_singleton_self _)) (stable_stored name found)
  · exact fun _ _ _ _ _ => trivial
  · rintro state _ ⟨_, member, _⟩
    refine ⟨?_, trivial⟩
    have orderly : Orderly managementGroupName resourceGroupName true true state.2.azure
        (RoutedAzure.handle request state.2).2.azure := by
      apply orderly_handle (by rintro ⟨⟩)
      rintro _ _ _ ⟨⟩ _ _ absent
      exact absent found member rfl
    rcases routedServices_state request state with same | same
    · rw [same]
      exact orderly
    · rw [same]
      exact .refl _

theorem returns_setRouteTable (table : RouteTable) (name : Text) :
    Returns (routedOrder managementGroupName resourceGroupName) routedServices [.subnetLocker]
      (IsNamed managementGroupName (some network)) (fun _ _ => True)
      (NetworkService.setRouteTable table managementGroupName network name) := by
  apply (returns_getSubnet name).bind
  · exact fun _ _ _ _ _ => trivial
  · intro found
    apply (returns_putSubnet name table.id found).mono
    · exact fun state stored => stored found rfl
    · exact fun _ _ _ => trivial
  · exact fun _ _ _ _ => trivial

theorem returns_addRouteTableToSubnets (routesRg routeTableName : Text) (names : List Text) :
    Returns (routedOrder managementGroupName resourceGroupName) routedServices [.subnetLocker]
      (IsNamed managementGroupName (some network)) (fun _ _ => True)
      (NetworkService.addRouteTableToSubnets routesRg routeTableName names managementGroupName
        network) := by
  apply Returns.bind ((returns_sendRoute _).carry (persistent_isNamed_routed (some network)))
  · exact fun _ _ _ _ _ => trivial
  · intro routeTable
    have round : ∀ name ∈ names,
        Returns (routedOrder managementGroupName resourceGroupName) routedServices [.subnetLocker]
          (IsNamed managementGroupName (some network)) (fun outcome _ => outcome = .ok () → True)
          (NetworkService.setRouteTable routeTable managementGroupName network name) := by
      intro name _
      apply (returns_setRouteTable routeTable name).mono
      · exact fun _ isNamed => isNamed
      · exact fun _ _ _ _ => trivial
    have loop := Returns.forEach (persistent_isNamed_routed (some network))
      (fun _ _ _ _ _ => trivial) round
    exact loop.mono (fun _ isNamed => isNamed) fun _ _ _ => trivial
  · exact fun _ _ _ _ => trivial

/-- An attempt, once the sandbox network is found. -/
theorem returns_routeSubnets (request : RouteTableRequestResourceModel) (region sandboxId : Text) :
    Returns (routedOrder managementGroupName resourceGroupName) routedServices []
      (IsNamed managementGroupName (some network)) (fun _ _ => True)
      (do
        NetworkService.createRouteTable region request sandboxId
        withLock .subnetLocker <| NetworkService.addRouteTableToSubnets sandboxId request.name
          request.subnets managementGroupName network) := by
  apply Returns.bind ((returns_sendRoute _).carry (persistent_isNamed_routed (some network)))
  · exact fun _ _ _ _ _ => trivial
  · intro _
    apply Returns.withLock
    · rintro _ ⟨⟩
    · exact (persistent_isNamed_routed (some network)).stable
    · exact returns_addRouteTableToSubnets sandboxId request.name request.subnets
    · exact fun _ _ _ _ _ => trivial
  · exact fun _ _ _ _ => trivial

theorem returns_tryRouteTable (request : RouteTableRequestResourceModel) (region sandboxId : Text) :
    Returns (routedOrder managementGroupName resourceGroupName) routedServices [] (fun _ => True)
      (fun _ _ => True)
      (AddRouteOperation.tryRouteTable request region managementGroupName sandboxId) := by
  have lists : Returns (subnetOrder managementGroupName resourceGroupName false true) shellServices
      [] (fun _ => True) (fun outcome state => ∀ found, outcome = .ok found →
        IsNamed managementGroupName (found.map VirtualNetwork.name) state)
      (NetworkService.getSandboxVirtualNetwork managementGroupName) :=
    returns_getSandboxVirtualNetwork (fun found => persistent_isNamed _) fun _ => rfl
  apply (lists.extend routedServices_extends).bind
  · exact fun _ _ _ _ _ => trivial
  · intro found
    cases found with
    | none => exact returns_done (fun _ _ _ _ => trivial) fun _ _ _ => trivial
    | some item =>
        apply (returns_routeSubnets request region sandboxId).mono
        · exact fun state isNamed => isNamed (some item) rfl
        · exact fun _ _ ended => ended
  · exact fun _ _ _ _ => trivial

theorem returns_createRouteTable (request : RouteTableRequestResourceModel)
    (region sandboxId : Text) :
    Returns (routedOrder managementGroupName resourceGroupName) routedServices [] (fun _ => True)
      (fun _ _ => True)
      (AddRouteOperation.createRouteTable request region managementGroupName sandboxId) :=
  (returns_tryRouteTable request region sandboxId).retry (fun _ _ _ _ => trivial)
    (fun _ _ _ _ _ => trivial) (retryableErrorMaxAttempts - 1)

theorem returns_reservationOutput :
    Returns (routedOrder managementGroupName resourceGroupName) routedServices [] (fun _ => True)
      (fun outcome _ => outcome = .ok () → True) (sendShell (.external .reservationOutput)) := by
  have sends : Returns (subnetOrder managementGroupName resourceGroupName false true) shellServices
      [] (fun _ => True) (fun _ _ => True) (send (.external .reservationOutput)) :=
    returns_untouching rfl
  apply (sends.extend routedServices_extends).mono
  · exact fun _ holds => holds
  · exact fun _ _ _ _ => trivial

theorem returns_createRouteTables (requests : List RouteTableRequestResourceModel)
    (region reservationId : Text) :
    Returns (routedOrder managementGroupName resourceGroupName) routedServices [] (fun _ => True)
      (fun _ _ => True)
      (createRouteTables requests region managementGroupName reservationId) := by
  have unclaimed : (routedOrder managementGroupName resourceGroupName).Persistent fun _ => True :=
    fun _ _ _ _ => trivial
  have round : ∀ request ∈ requests,
      Returns (routedOrder managementGroupName resourceGroupName) routedServices []
        (fun _ => True) (fun outcome _ => outcome = .ok () → True) (do
          sendShell (.external .reservationOutput)
          forEach request.routes fun _ => sendShell (.external .reservationOutput)
          AddRouteOperation.createRouteTable request region managementGroupName reservationId) := by
    intro request _
    apply returns_reservationOutput.bind
    · exact fun _ _ _ _ _ _ => trivial
    · intro _
      have messages := Returns.forEach unclaimed (fun _ => unclaimed)
        (fun (_ : RouteResourceModel) (_ : _ ∈ request.routes) => returns_reservationOutput)
      apply Returns.bind (messages.mono (fun _ _ => trivial) fun _ _ ended => ended)
      · exact fun _ _ _ _ _ _ => trivial
      · intro _
        apply (returns_createRouteTable request region reservationId).mono
        · exact fun _ _ => trivial
        · exact fun _ _ _ _ => trivial
      · exact fun _ _ _ _ _ => trivial
    · exact fun _ _ _ _ _ => trivial
  apply (Returns.forEach unclaimed (fun _ => unclaimed) round).mono
  · exact fun _ holds => holds
  · exact fun _ _ _ => trivial

end Routes

/-! ## Clients that write subnets -/

/-- The commands that change subnets which are there. -/
inductive SubnetCommand where
  | createRouteTables (requests : List RouteTableRequestResourceModel) (region reservationId : Text)
  | cleanupConnectivity (resourceGroupName : Text) (actions : List CleanupAction)

namespace SubnetCommand

/-- The program of a command; only a cleanup has a result. -/
def program (managementGroupName : Text) : SubnetCommand → RoutedShell (Option CleanupResult)
  | createRouteTables requests region reservationId => do
      AzureShell.createRouteTables requests region managementGroupName reservationId
      pure none
  | cleanupConnectivity resourceGroupName actions => do
      let result ← extend (DeleteAzureVMOperation.cleanupConnectivity managementGroupName
        resourceGroupName actions)
      pure (some result)

/-- A cleanup is one of a group whose subnets have other names. -/
def ApartFrom (resourceGroupName : Text) : SubnetCommand → Prop
  | createRouteTables _ _ _ => True
  | cleanupConnectivity other _ => ¬ other <+: resourceGroupName ∧ ¬ resourceGroupName <+: other

variable {managementGroupName resourceGroupName : Text}

/-- Whatever a client does but clean the sandbox up, it lets no subnet of it appear. -/
theorem returns_program {command : SubnetCommand} (apart : command.ApartFrom resourceGroupName) :
    Returns (routedOrder managementGroupName resourceGroupName) routedServices [] (fun _ => True)
      (fun _ _ => True) (command.program managementGroupName) := by
  have done : ∀ result : Option CleanupResult,
      Returns (routedOrder managementGroupName resourceGroupName) routedServices []
        (fun _ => True) (fun _ _ => True) (pure result) :=
    fun _ => returns_done (fun _ _ _ _ => trivial) fun _ _ _ => trivial
  cases command with
  | createRouteTables requests region reservationId =>
      exact (returns_createRouteTables requests region reservationId).bind
        (fun _ _ _ _ _ => trivial) (fun _ => done none) fun _ _ _ _ => trivial
  | cleanupConnectivity other actions =>
      have otherNames : ∀ name, other <+: name → ¬ resourceGroupName <+: name := by
        intro name isOther isOwn
        rcases List.prefix_or_prefix_of_prefix isOther isOwn with within | within
        · exact apart.1 within
        · exact apart.2 within
      have cleans : Returns (routedOrder managementGroupName resourceGroupName) routedServices []
          (fun _ => True) (fun _ _ => True)
          (extend (DeleteAzureVMOperation.cleanupConnectivity managementGroupName other actions)) :=
        (returns_otherCleanup otherNames).extend routedServices_extends
      exact cleans.bind (fun _ _ _ _ _ => trivial) (fun result => done (some result))
        fun _ _ _ _ => trivial

/-- The client that cleans the sandbox up. -/
theorem returns_cleaner {actions : List CleanupAction} :
    Returns (subnetOrder managementGroupName resourceGroupName true false).extend routedServices []
      (fun _ => True)
      (fun outcome state => ∀ result, outcome = .ok (some result) → result.success = true →
        SandboxAbsent managementGroupName resourceGroupName state)
      (program managementGroupName (cleanupConnectivity resourceGroupName actions)) := by
  have cleans : Returns (subnetOrder managementGroupName resourceGroupName true false).extend
      routedServices [] (fun _ => True)
      (WhenCleaned (SandboxAbsent managementGroupName resourceGroupName))
      (extend (DeleteAzureVMOperation.cleanupConnectivity managementGroupName resourceGroupName
        actions)) :=
    returns_ownCleanup.extend routedServices_extends
  apply cleans.bind
  · rintro e before after _ _ result ⟨⟩
  · intro result
    apply returns_done
    · rintro before after follows cleaned _ ⟨⟩ success
      have stays : (subnetOrder managementGroupName resourceGroupName true false).Stable []
          (SandboxAbsent managementGroupName resourceGroupName) := stable_sandboxAbsent
      exact stays before after ⟨follows.invariant, follows.others, follows.without⟩
        (cleaned result rfl success)
    · rintro state _ cleaned _ ⟨⟩ success
      exact cleaned result rfl success
  · rintro e state _ _ result ⟨⟩

end SubnetCommand

section Clients

variable {ι : Type} [DecidableEq ι] {managementGroupName resourceGroupName : Text}

/-- The cleaner relies on the others, and they rely on nothing but the lock. -/
def clientOrder (managementGroupName resourceGroupName : Text) (cleaner i : ι) :
    LockOrder RoutedServices FaultyRoutedAzure :=
  (subnetOrder managementGroupName resourceGroupName (decide (i = cleaner))
    (decide (i ≠ cleaner))).extend

theorem clientOrder_compatible (cleaner : ι) :
    Compatible (clientOrder managementGroupName resourceGroupName cleaner) where
  rank := fun _ _ => rfl
  invariant := fun _ _ _ holds => holds
  others := by
    intro i j before after different kept
    refine ⟨kept.named, ?_⟩
    intro isAway
    apply kept.absent
    have isCleaner := of_decide_eq_true isAway
    exact decide_eq_true fun same => different (same.trans isCleaner.symm)
  without := fun _ _ _ _ _ same => same

/-- Once a cleanup has reported success no subnet of the sandbox comes back, whatever
else clients do at the same time and whichever calls fail: route tables are set on the
subnets, also by commands that began before the cleanup, and other sandboxes are
cleaned up. -/
theorem cleanup_lasts {commands : ι → SubnetCommand} {cleaner : ι} {actions : List CleanupAction}
    {state : FaultyRoutedAzure} {config : Config RoutedServices FaultyRoutedAzure ι
      (Option CleanupResult)} {result : CleanupResult}
    (keyed : Store.Keyed VirtualNetwork.name (state.2.azure.virtualNetworks managementGroupName))
    (cleans : commands cleaner = .cleanupConnectivity resourceGroupName actions)
    (apart : ∀ i, i ≠ cleaner → (commands i).ApartFrom resourceGroupName)
    (reaches : Reaches routedServices
      (.initial (fun i => (commands i).program managementGroupName) state) config)
    (ended : config.threads cleaner = .done (.ok (some result))) (success : result.success = true) :
    SandboxAbsent managementGroupName resourceGroupName config.shared := by
  let cleaned (i : ι) (outcome : Except PyException (Option CleanupResult))
      (state : FaultyRoutedAzure) : Prop :=
    i = cleaner → ∀ result, outcome = .ok (some result) → result.success = true →
      SandboxAbsent managementGroupName resourceGroupName state
  have returns : ∀ i, Returns (clientOrder managementGroupName resourceGroupName cleaner i)
      routedServices [] (fun _ => True) (cleaned i)
      ((commands i).program managementGroupName) := by
    intro i
    by_cases isCleaner : i = cleaner
    · subst isCleaner
      rw [cleans]
      simp only [clientOrder, ne_eq, not_true_eq_false, decide_true, decide_false]
      exact SubnetCommand.returns_cleaner.mono (fun _ holds => holds) fun _ _ claimed _ => claimed
    · simp only [clientOrder, isCleaner, ne_eq, not_false_eq_true, decide_true, decide_false]
      apply (SubnetCommand.returns_program (apart i isCleaner)).mono (fun _ holds => holds)
      exact fun _ _ _ same => absurd same isCleaner
  rcases Reaches.inOrder (clientOrder_compatible cleaner) returns (fun _ => keyed) reaches with
    ⟨locks, all⟩
  exact (all.ended ended).2.2 rfl result rfl success

end Clients

/-- The sandbox network with one subnet of each of two sandboxes, and no route table. -/
def unroutedNetwork : FaultyRoutedAzure :=
  ([], {
    azure := { Azure.blank with
      virtualNetworks := fun _ => [{
        name := "vnet".toList
        tags := [(NetworkService.networkTypeTagName, NetworkService.sandboxNetworkTagValue)]
        addressPrefixes := ["10.0.0.0/16".toList]
        subnets := [⟨"r1_subnet".toList, "10.0.1.0/24".toList, none, none, none⟩,
          ⟨"r2_subnet".toList, "10.0.2.0/24".toList, none, none, none⟩] }] }
    routeTables := fun _ => []
    routeTableId := fun group name => group ++ name })

/-- One client routes a subnet of the sandbox that the other cleans up. -/
def routerAndCleaner (isCleaner : Bool) : SubnetCommand :=
  if isCleaner then
    .cleanupConnectivity "r1".toList [⟨"cleanupNetwork".toList, "a1".toList⟩]
  else
    .createRouteTables [⟨"table".toList, [], ["r1_subnet".toList]⟩] "region".toList "r1".toList

/-- The cleanup lists the subnets and waits for the lock, with which the other client
writes the subnet; then it goes on. -/
theorem cleanup_lasts_example :
    ∃ config, Reaches routedServices
        (.initial (fun i => (routerAndCleaner i).program "mgmt".toList) unroutedNetwork) config ∧
      config.threads false = .done (.ok none) ∧
      config.threads true = .done (.ok (some ⟨true, "a1".toList, []⟩)) ∧
      SandboxAbsent "mgmt".toList "r1".toList config.shared := by
  let start : Config RoutedServices FaultyRoutedAzure Bool (Option CleanupResult) :=
    .initial (fun i => (routerAndCleaner i).program "mgmt".toList) unroutedNetwork
  have played : (start.play routedServices (fun _ _ => true)
      (List.replicate 5 false ++ [true] ++ List.replicate 3 false ++ List.replicate 10 true)).map
        (fun config => (config.threads false, config.threads true)) =
      some (.done (.ok none), .done (.ok (some ⟨true, "a1".toList, []⟩))) := by rfl
  rcases Option.map_eq_some_iff.mp played with ⟨config, ran, ended⟩
  rcases Prod.mk.inj ended with ⟨routed, cleaned⟩
  have reaches : Reaches routedServices start config := reaches_of_play ran
  have keyed : Store.Keyed VirtualNetwork.name
      (unroutedNetwork.2.azure.virtualNetworks "mgmt".toList) := List.nodup_singleton _
  have apart : ∀ i, i ≠ true → (routerAndCleaner i).ApartFrom "r1".toList := by
    intro i different
    rw [Bool.eq_false_of_not_eq_true different]
    trivial
  exact ⟨config, reaches, routed, cleaned, cleanup_lasts keyed rfl apart reaches cleaned rfl⟩

end AzureShell
