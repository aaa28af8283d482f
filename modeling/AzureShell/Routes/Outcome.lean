import AzureShell.Prog.Ends
import AzureShell.Routes.RouteTables

/-!
# What `create_route_tables` leaves

The calls of the command may fail before or after they took effect, and the creation of
a table may be tried many times.  Whatever happens, nothing changes but route tables
that were asked for and the route tables of the subnets they were asked for.  If the
command ends well, every subnet has the last table asked for it, as though no call had
failed.
-/

namespace AzureShell

open Prog

/-- A virtual network but for its subnets. -/
def VirtualNetwork.withoutSubnets (network : VirtualNetwork) : VirtualNetwork :=
  { network with subnets := [] }

/-- A subnet with another route table. -/
def Subnet.withRouteTable (routeTable : Text) (subnet : Subnet) : Subnet :=
  { subnet with routeTable := some routeTable }

/-- The network is the sandbox network of the management group. -/
def Azure.IsSandboxNetwork (azure : Azure) (managementGroupName group network : Text) : Prop :=
  group = managementGroupName ∧
    (azure.sandboxNetwork managementGroupName).map VirtualNetwork.name = some network

/-- Nothing differs but subnets of virtual networks and route tables. -/
structure SameButRoutes (before after : RoutedAzure) : Prop where
  resources : { after.azure with virtualNetworks := before.azure.virtualNetworks } = before.azure
  networks : ∀ group, (after.azure.virtualNetworks group).map VirtualNetwork.withoutSubnets =
    (before.azure.virtualNetworks group).map VirtualNetwork.withoutSubnets
  ids : after.routeTableId = before.routeTableId

namespace SameButRoutes

variable {before between after : RoutedAzure}

theorem refl (state : RoutedAzure) : SameButRoutes state state :=
  ⟨rfl, fun _ => rfl, rfl⟩

theorem trans (first : SameButRoutes before between) (second : SameButRoutes between after) :
    SameButRoutes before after where
  resources := by
    have others := congrArg (fun azure : Azure =>
      ({ azure with virtualNetworks := before.azure.virtualNetworks } : Azure)) second.resources
    exact Eq.trans others first.resources
  networks := fun group => (second.networks group).trans (first.networks group)
  ids := second.ids.trans first.ids

/-- The sandbox network is found by its tags, which stay. -/
theorem isSandboxNetwork (same : SameButRoutes before after)
    (managementGroupName group network : Text) :
    after.azure.IsSandboxNetwork managementGroupName group network ↔
      before.azure.IsSandboxNetwork managementGroupName group network := by
  have named : ∀ networks : List VirtualNetwork,
      (NetworkService.getVirtualNetworkByTag networks NetworkService.networkTypeTagName
          NetworkService.sandboxNetworkTagValue).map VirtualNetwork.name =
        (NetworkService.getVirtualNetworkByTag (networks.map VirtualNetwork.withoutSubnets)
          NetworkService.networkTypeTagName NetworkService.sandboxNetworkTagValue).map
            VirtualNetwork.name := by
    intro networks
    rw [NetworkService.getVirtualNetworkByTag, NetworkService.getVirtualNetworkByTag,
      List.find?_map, Option.map_map]
    rfl
  rw [Azure.IsSandboxNetwork, Azure.IsSandboxNetwork, Azure.sandboxNetwork, Azure.sandboxNetwork,
    named (after.azure.virtualNetworks _), same.networks, ← named]

end SameButRoutes

/-! ## One subnet -/

namespace RoutedAzure

variable (state : RoutedAzure) (group network name routeTable : Text)

/-- Write a subnet. -/
def putSubnet (written : Subnet) : RoutedAzure :=
  { state with azure := state.azure.modifySubnets group network (Store.upsert Subnet.name written) }

variable {state group network name}

theorem sameButRoutes_putSubnet (written : Subnet) :
    SameButRoutes state (state.putSubnet group network written) where
  resources := rfl
  networks := by
    intro other
    by_cases same : other = group
    · subst same
      simp only [putSubnet, Azure.modifySubnets, Function.update_self, Store.modify, List.map_map]
      apply List.map_congr_left
      intro item _
      simp only [Function.comp_apply]
      split <;> rfl
    · simp only [putSubnet, Azure.modifySubnets, Function.update_of_ne same]
  ids := rfl

theorem subnet_putSubnet_self {written : Subnet}
    (present : (state.azure.subnetsOf group network).isSome) :
    (state.putSubnet group network written).subnet group network written.name = some written := by
  rcases Option.isSome_iff_exists.mp present with ⟨subnets, isSubnets⟩
  simp only [subnet, putSubnet, Azure.subnetsOf_modifySubnets, isSubnets, Option.map_some,
    Option.getD_some]
  exact Store.lookup_upsert_self written subnets

theorem subnet_putSubnet_of_ne {written : Subnet} {otherGroup otherNetwork other : Text}
    (different : ¬ (otherGroup = group ∧ otherNetwork = network ∧ other = written.name)) :
    (state.putSubnet group network written).subnet otherGroup otherNetwork other =
      state.subnet otherGroup otherNetwork other := by
  by_cases sameGroup : otherGroup = group
  · subst sameGroup
    by_cases sameNetwork : otherNetwork = network
    · subst sameNetwork
      have otherName : other ≠ written.name := fun same => different ⟨rfl, rfl, same⟩
      simp only [subnet, putSubnet, Azure.subnetsOf_modifySubnets]
      cases state.azure.subnetsOf otherGroup otherNetwork with
      | none => rfl
      | some subnets => exact Store.lookup_upsert_of_ne otherName subnets
    · have keeps : ∀ item : VirtualNetwork, ({ item with
          subnets := Store.upsert Subnet.name written item.subnets } : VirtualNetwork).name =
            item.name := fun _ => rfl
      simp only [subnet, putSubnet, Azure.subnetsOf, Azure.modifySubnets, Function.update_self,
        Store.lookup_modify_of_ne sameNetwork keeps]
  · simp only [subnet, putSubnet, Azure.subnetsOf, Azure.modifySubnets,
      Function.update_of_ne sameGroup]

end RoutedAzure

/-! ## What one request does -/

/-- Where a subnet is written, the network has it. -/
theorem handle_putSubnet_routed (group network : Text) (written : Subnet) (before : RoutedAzure) :
    RoutedAzure.handle (.inl (.putSubnet group network written)) before =
        (.ok (), before.putSubnet group network written) ∧
          (before.azure.subnetsOf group network).isSome ∨
      ∃ e, RoutedAzure.handle (.inl (.putSubnet group network written)) before =
        (.error e, before) := by
  cases present : before.azure.subnetsOf group network with
  | none =>
      refine Or.inr ⟨.notFound, ?_⟩
      simp [RoutedAzure.handle, RoutedAzure.handleShell, Azure.handle, present,
        RoutedAzure.routeTablesAfter]
  | some subnets =>
      by_cases taken : Azure.subnetTaken subnets written = true
      · refine Or.inr ⟨Azure.invalidSubnet, ?_⟩
        simp [RoutedAzure.handle, RoutedAzure.handleShell, Azure.handle, present, taken,
          RoutedAzure.routeTablesAfter]
      · refine Or.inl ⟨?_, rfl⟩
        simp [RoutedAzure.handle, RoutedAzure.handleShell, Azure.handle, present, taken,
          RoutedAzure.routeTablesAfter, RoutedAzure.putSubnet]

/-! ## The subnets of one table -/

/-- Some of the subnets of these names got the route table, and nothing else changed. -/
structure Attached (group network routeTable : Text) (names : List Text)
    (before after : RoutedAzure) : Prop where
  others : SameButRoutes before after
  tables : after.routeTables = before.routeTables
  subnets : ∀ otherGroup otherNetwork name,
    after.subnet otherGroup otherNetwork name = before.subnet otherGroup otherNetwork name ∨
      (otherGroup = group ∧ otherNetwork = network ∧ name ∈ names ∧
        after.subnet otherGroup otherNetwork name =
          (before.subnet otherGroup otherNetwork name).map (Subnet.withRouteTable routeTable))

/-- All of them were there and got the route table. -/
def AttachedAll (group network routeTable : Text) (names : List Text)
    (before after : RoutedAzure) : Prop :=
  ∀ name ∈ names, (before.subnet group network name).isSome ∧
    after.subnet group network name =
      (before.subnet group network name).map (Subnet.withRouteTable routeTable)

section Attaching

variable {group network routeTable name : Text} {names : List Text}
  {before between after : RoutedAzure}

theorem Attached.refl (state : RoutedAzure) : Attached group network routeTable names state state :=
  ⟨.refl state, rfl, fun _ _ _ => Or.inl rfl⟩

theorem Attached.mono {more : List Text}
    (attached : Attached group network routeTable names before after)
    (included : ∀ name ∈ names, name ∈ more) :
    Attached group network routeTable more before after where
  others := attached.others
  tables := attached.tables
  subnets := by
    intro otherGroup otherNetwork name
    rcases attached.subnets otherGroup otherNetwork name with same | ⟨isGroup, isNetwork, member, set⟩
    · exact Or.inl same
    · exact Or.inr ⟨isGroup, isNetwork, included name member, set⟩

theorem Attached.trans (first : Attached group network routeTable names before between)
    (second : Attached group network routeTable names between after) :
    Attached group network routeTable names before after where
  others := first.others.trans second.others
  tables := second.tables.trans first.tables
  subnets := by
    intro otherGroup otherNetwork name
    rcases second.subnets otherGroup otherNetwork name with same | ⟨isGroup, isNetwork, member, set⟩
    · rw [same]
      exact first.subnets otherGroup otherNetwork name
    · refine Or.inr ⟨isGroup, isNetwork, member, ?_⟩
      rcases first.subnets otherGroup otherNetwork name with same | ⟨_, _, _, setBefore⟩
      · rw [set, same]
      · rw [set, setBefore, Option.map_map]
        rfl

/-- Whether a subnet is there does not change. -/
theorem Attached.isSome_subnet (attached : Attached group network routeTable names before after)
    (otherGroup otherNetwork name : Text) :
    (after.subnet otherGroup otherNetwork name).isSome =
      (before.subnet otherGroup otherNetwork name).isSome := by
  rcases attached.subnets otherGroup otherNetwork name with same | ⟨_, _, _, set⟩
  · rw [same]
  · rw [set, Option.isSome_map]

/-- What is attached stays attached. -/
theorem AttachedAll.then {more : List Text}
    (all : AttachedAll group network routeTable more before between)
    (later : Attached group network routeTable names between after) :
    AttachedAll group network routeTable more before after := by
  intro name member
  rcases all name member with ⟨present, set⟩
  refine ⟨present, ?_⟩
  rcases later.subnets group network name with same | ⟨_, _, _, setAgain⟩
  · rw [same, set]
  · rw [setAgain, set, Option.map_map]
    rfl

theorem Attached.then {more : List Text}
    (attached : Attached group network routeTable names before between)
    (all : AttachedAll group network routeTable more between after) :
    AttachedAll group network routeTable more before after := by
  intro name member
  rcases all name member with ⟨present, set⟩
  refine ⟨attached.isSome_subnet group network name ▸ present, ?_⟩
  rcases attached.subnets group network name with same | ⟨_, _, _, setBefore⟩
  · rw [set, same]
  · rw [set, setBefore, Option.map_map]
    rfl

/-- The subnet that was read is written back with the route table. -/
theorem attached_putSubnet (routeTable : Text) {found : Subnet}
    (stored : before.subnet group network name = some found)
    (present : (before.azure.subnetsOf group network).isSome) :
    Attached group network routeTable [name] before
        (before.putSubnet group network (found.withRouteTable routeTable)) ∧
      AttachedAll group network routeTable [name] before
        (before.putSubnet group network (found.withRouteTable routeTable)) := by
  have named : (found.withRouteTable routeTable).name = name := (Store.lookup_eq_some stored).2
  have set : (before.putSubnet group network (found.withRouteTable routeTable)).subnet group network
      name = (before.subnet group network name).map (Subnet.withRouteTable routeTable) := by
    rw [stored, Option.map_some, ← named]
    exact RoutedAzure.subnet_putSubnet_self present
  constructor
  · refine ⟨RoutedAzure.sameButRoutes_putSubnet _, rfl, ?_⟩
    intro otherGroup otherNetwork other
    by_cases isWritten : otherGroup = group ∧ otherNetwork = network ∧ other = name
    · rcases isWritten with ⟨rfl, rfl, rfl⟩
      exact Or.inr ⟨rfl, rfl, List.mem_singleton_self _, set⟩
    · exact Or.inl (RoutedAzure.subnet_putSubnet_of_ne (named.symm ▸ isWritten))
  · intro other isName
    cases List.mem_singleton.mp isName
    exact ⟨Option.isSome_iff_exists.mpr ⟨found, stored⟩, set⟩

variable {table : RouteTable} {state : FaultyRoutedAzure}

/-- A read changes nothing, and what it answers is stored. -/
theorem ends_sendRoute {request : RouteRequest}
    {post : Except PyException request.Answer → FaultyRoutedAzure → Prop}
    (reads : ∀ before, (RoutedAzure.handle (.inr request) before).2 = before)
    (ended : ∀ outcome finished, finished.2 = state.2 →
      (∀ a, outcome = .ok a → (RoutedAzure.handle (.inr request) state.2).1 = .ok a) →
        post outcome finished) :
    Ends routedServices post state (sendRoute request) := by
  apply ends_perform
  apply ended
  · rcases routedServices_state (.inr request) state with same | same
    · exact same.trans (reads state.2)
    · exact same
  · intro a answered
    rw [routedServices_of_ok answered]

/-- The subnet that was read is written back, whatever becomes of the call. -/
theorem ends_putSubnet {routeTable : Text} {found : Subnet}
    (stored : state.2.subnet group network name = some found) :
    Ends routedServices (fun outcome finished =>
        Attached group network routeTable [name] state.2 finished.2 ∧
          (outcome = .ok () → AttachedAll group network routeTable [name] state.2 finished.2))
      state (sendShell (.putSubnet group network (found.withRouteTable routeTable))) := by
  let request : RoutedServices.Request :=
    .inl (.putSubnet group network (found.withRouteTable routeTable))
  change Attached group network routeTable [name] state.2 (routedServices request state).2.2 ∧
    ((routedServices request state).1 = .ok () →
      AttachedAll group network routeTable [name] state.2 (routedServices request state).2.2)
  rcases handle_putSubnet_routed group network (found.withRouteTable routeTable) state.2 with
    ⟨writes, present⟩ | ⟨e, rejects⟩
  · rcases attached_putSubnet routeTable stored present with ⟨attached, all⟩
    constructor
    · rcases routedServices_state request state with same | same
      · rw [same, writes]
        exact attached
      · rw [same]
        exact .refl state.2
    · intro isOk
      have took := (routedServices_of_ok isOk).symm.trans writes
      rw [congrArg Prod.snd took]
      exact all
  · constructor
    · rcases routedServices_state request state with same | same
      · rw [same, rejects]
        exact .refl state.2
      · rw [same]
        exact .refl state.2
    · intro isOk
      have took := (routedServices_of_ok isOk).symm.trans rejects
      cases congrArg Prod.fst took

theorem ends_setRouteTable (table : RouteTable) (group network name : Text)
    (state : FaultyRoutedAzure) :
    Ends routedServices (fun outcome finished =>
        Attached group network table.id [name] state.2 finished.2 ∧
          (outcome = .ok () → AttachedAll group network table.id [name] state.2 finished.2))
      state (NetworkService.setRouteTable table group network name) := by
  apply Ends.bind
  apply ends_sendRoute (fun _ => rfl)
  intro outcome between unchanged answered
  rw [← unchanged]
  cases outcome with
  | error e => exact ⟨.refl between.2, by rintro ⟨⟩⟩
  | ok found =>
      rw [← unchanged] at answered
      exact ends_putSubnet (find_eq_ok_iff.mp (answered found rfl))

/-- The loop over the subnets of a table. -/
theorem ends_setRouteTables (table : RouteTable) (group network : Text) (names : List Text)
    (state : FaultyRoutedAzure) :
    Ends routedServices (fun outcome finished =>
        Attached group network table.id names state.2 finished.2 ∧
          (outcome = .ok () → AttachedAll group network table.id names state.2 finished.2))
      state (forEach names fun name => NetworkService.setRouteTable table group network name) := by
  let reached : List Text → FaultyRoutedAzure → Prop := fun done later =>
    Attached group network table.id names state.2 later.2 ∧
      AttachedAll group network table.id done state.2 later.2
  apply Ends.forEach reached
  · rintro done name rest parts later ⟨attached, all⟩
    have isName : ∀ other ∈ [name], other ∈ names := by
      intro other member
      cases List.mem_singleton.mp member
      simp [parts]
    apply (ends_setRouteTable table group network name later).mono
    rintro outcome finished ⟨attachedName, allName⟩
    have attachedLater := attached.trans (attachedName.mono isName)
    cases outcome with
    | error e => exact ⟨attachedLater, by rintro ⟨⟩⟩
    | ok _ =>
        refine ⟨attachedLater, ?_⟩
        intro other member
        rcases List.mem_append.mp member with inDone | isLast
        · exact all.then attachedName other inDone
        · exact attached.then (allName rfl) other isLast
  · rintro later ⟨attached, all⟩
    exact ⟨attached, fun _ => all⟩
  · refine ⟨.refl state.2, ?_⟩
    intro name member
    cases member

end Attaching

/-! ## One attempt -/

/-- The sandbox network is read and nothing changes. -/
theorem ends_getSandboxVirtualNetwork {managementGroupName : Text} {state : FaultyRoutedAzure}
    {post : Except PyException (Option VirtualNetwork) → FaultyRoutedAzure → Prop}
    (ended : ∀ outcome finished, finished.2 = state.2 →
      (∀ found, outcome = .ok found →
        found = state.2.azure.sandboxNetwork managementGroupName) → post outcome finished) :
    Ends routedServices post state
      (extend (NetworkService.getSandboxVirtualNetwork managementGroupName)) := by
  unfold Ends
  rw [run_extend routedServices_extends]
  let reads : Except PyException (List VirtualNetwork) → FaultyRoutedAzure → Prop :=
    fun outcome finished => finished.2 = state.2 ∧ ∀ networks, outcome = .ok networks →
      networks = state.2.azure.virtualNetworks managementGroupName
  have lists : Ends shellServices reads state
      (NetworkService.getVirtualNetworks managementGroupName) := by
    let request : Request := .listVirtualNetworks managementGroupName
    let starts : FaultyRoutedAzure → Prop := fun later => later.2 = state.2
    have attempt : ∀ later, starts later → Ends shellServices
        (fun outcome finished => reads outcome finished ∧ ∀ e, outcome = .error e → starts finished)
        later (send request) := by
      intro later same
      have unchanged : (shellServices request later).2.2 = state.2 := by
        have handled : (RoutedAzure.handleShell request later.2).2 = later.2 := rfl
        rcases faulty_state Request.mayFail ServiceError.toException RoutedAzure.handleShell request
          later with after | after
        · exact after.trans (handled.trans same)
        · exact after.trans same
      refine ⟨⟨unchanged, ?_⟩, fun _ _ => unchanged⟩
      intro networks answered
      have took := faulty_of_ok (s := later.2) (Prod.ext answered rfl)
      rw [← same]
      exact (Except.ok.inj (congrArg Prod.fst took)).symm
    exact Ends.retry starts attempt 4 rfl
  apply Ends.bind
  apply lists.mono
  rintro outcome finished ⟨unchanged, listed⟩
  cases outcome with
  | error e => exact ended _ _ unchanged (by rintro _ ⟨⟩)
  | ok networks =>
      apply ended _ _ unchanged
      rintro _ ⟨⟩
      rw [listed networks rfl]
      rfl

/-! ## One table -/

section Tables

variable (region managementGroupName sandboxId : Text)

/-- Nothing changed but route tables that were asked for and the route tables of the
subnets they were asked for. -/
structure Rerouted (requests : List RouteTableRequestResourceModel)
    (before after : RoutedAzure) : Prop where
  others : SameButRoutes before after
  tables : ∀ group name, after.routeTable group name = before.routeTable group name ∨
    (group = sandboxId ∧ ∃ request ∈ requests, request.name = name ∧
      after.routeTable group name =
        some (request.toRouteTable region (before.routeTableId sandboxId request.name)))
  subnets : ∀ group network name,
    after.subnet group network name = before.subnet group network name ∨
      (before.azure.IsSandboxNetwork managementGroupName group network ∧
        ∃ request ∈ requests, name ∈ request.subnets ∧
          after.subnet group network name = (before.subnet group network name).map
            (Subnet.withRouteTable (before.routeTableId sandboxId request.name)))

/-- The table is there, and every subnet it was asked for has it. -/
structure RoutedBy (request : RouteTableRequestResourceModel) (before after : RoutedAzure) :
    Prop where
  table : ∀ group name, after.routeTable group name =
    if group = sandboxId ∧ name = request.name then
      some (request.toRouteTable region (before.routeTableId sandboxId request.name))
    else
      before.routeTable group name
  subnets : ∀ group network name,
    before.azure.IsSandboxNetwork managementGroupName group network →
      after.subnet group network name =
        if name ∈ request.subnets then
          (before.subnet group network name).map
            (Subnet.withRouteTable (before.routeTableId sandboxId request.name))
        else
          before.subnet group network name
  found : ∃ network,
    before.azure.IsSandboxNetwork managementGroupName managementGroupName network ∧
      ∀ name ∈ request.subnets, (before.subnet managementGroupName network name).isSome

variable {region managementGroupName sandboxId} {requests : List RouteTableRequestResourceModel}
  {request : RouteTableRequestResourceModel} {before between after : RoutedAzure}

theorem Rerouted.refl (state : RoutedAzure) :
    Rerouted region managementGroupName sandboxId requests state state :=
  ⟨.refl state, fun _ _ => Or.inl rfl, fun _ _ _ => Or.inl rfl⟩

theorem Rerouted.mono {more : List RouteTableRequestResourceModel}
    (rerouted : Rerouted region managementGroupName sandboxId requests before after)
    (included : ∀ request ∈ requests, request ∈ more) :
    Rerouted region managementGroupName sandboxId more before after where
  others := rerouted.others
  tables := by
    intro group name
    rcases rerouted.tables group name with same | ⟨isGroup, request, member, written⟩
    · exact Or.inl same
    · exact Or.inr ⟨isGroup, request, included request member, written⟩
  subnets := by
    intro group network name
    rcases rerouted.subnets group network name with same | ⟨isSandbox, request, member, set⟩
    · exact Or.inl same
    · exact Or.inr ⟨isSandbox, request, included request member, set⟩

theorem Rerouted.trans
    (first : Rerouted region managementGroupName sandboxId requests before between)
    (second : Rerouted region managementGroupName sandboxId requests between after) :
    Rerouted region managementGroupName sandboxId requests before after where
  others := first.others.trans second.others
  tables := by
    intro group name
    rcases second.tables group name with same | ⟨isGroup, request, member, named, written⟩
    · rw [same]
      exact first.tables group name
    · rw [first.others.ids] at written
      exact Or.inr ⟨isGroup, request, member, named, written⟩
  subnets := by
    intro group network name
    rcases second.subnets group network name with same | ⟨isSandbox, request, member, asked, set⟩
    · rw [same]
      exact first.subnets group network name
    · rw [first.others.ids] at set
      refine Or.inr ⟨(first.others.isSandboxNetwork _ _ _).mp isSandbox, request, member, asked, ?_⟩
      rcases first.subnets group network name with same | ⟨_, other, _, _, setBefore⟩
      · rw [set, same]
      · rw [set, setBefore, Option.map_map]
        rfl

/-- Whether a subnet is there does not change. -/
theorem Rerouted.isSome_subnet
    (rerouted : Rerouted region managementGroupName sandboxId requests before after)
    (group network name : Text) :
    (after.subnet group network name).isSome = (before.subnet group network name).isSome := by
  rcases rerouted.subnets group network name with same | ⟨_, _, _, _, set⟩
  · rw [same]
  · rw [set, Option.isSome_map]

/-- Failed attempts before the one that ends well leave no trace. -/
theorem Rerouted.then
    (attempts : Rerouted region managementGroupName sandboxId [request] before between)
    (last : RoutedBy region managementGroupName sandboxId request between after) :
    RoutedBy region managementGroupName sandboxId request before after where
  table := by
    intro group name
    rw [last.table, attempts.others.ids]
    split
    · rfl
    · rename_i other
      rcases attempts.tables group name with same | ⟨isGroup, asked, member, named, _⟩
      · exact same
      · cases List.mem_singleton.mp member
        exact absurd ⟨isGroup, named.symm⟩ other
  subnets := by
    intro group network name isSandbox
    rw [last.subnets group network name ((attempts.others.isSandboxNetwork _ _ _).mpr isSandbox),
      attempts.others.ids]
    rcases attempts.subnets group network name with same | ⟨_, asked, member, named, set⟩
    · rw [same]
    · cases List.mem_singleton.mp member
      rw [if_pos named, if_pos named, set, Option.map_map]
      rfl
  found := by
    rcases last.found with ⟨network, isSandbox, present⟩
    refine ⟨network, (attempts.others.isSandboxNetwork _ _ _).mp isSandbox, ?_⟩
    intro name member
    rw [← attempts.isSome_subnet]
    exact present name member

theorem RoutedAzure.routeTable_putRouteTable (state : RoutedAzure) (group name otherGroup : Text)
    (written : RouteTable) :
    (state.putRouteTable group written).routeTable otherGroup name =
      if otherGroup = group ∧ name = written.name then some written
      else state.routeTable otherGroup name := by
  unfold RoutedAzure.routeTable RoutedAzure.putRouteTable
  by_cases sameGroup : otherGroup = group
  · subst sameGroup
    by_cases sameName : name = written.name
    · subst sameName
      simp [Store.lookup_upsert_self]
    · simp [sameName, Store.lookup_upsert_of_ne sameName]
  · simp [sameGroup]

/-- The table is written. -/
theorem rerouted_putRouteTable (request : RouteTableRequestResourceModel) (before : RoutedAzure) :
    Rerouted region managementGroupName sandboxId [request] before
      (before.putRouteTable sandboxId
        (request.toRouteTable region (before.routeTableId sandboxId request.name))) where
  others := ⟨rfl, fun _ => rfl, rfl⟩
  tables := by
    intro group name
    rw [RoutedAzure.routeTable_putRouteTable]
    split
    · rename_i isWritten
      exact Or.inr ⟨isWritten.1, request, List.mem_singleton_self _, isWritten.2.symm, rfl⟩
    · exact Or.inl rfl
  subnets := fun _ _ _ => Or.inl rfl

/-- The subnets of the request get its table. -/
theorem Attached.rerouted {network : Text}
    (isSandbox : before.azure.IsSandboxNetwork managementGroupName managementGroupName network)
    (attached : Attached managementGroupName network (before.routeTableId sandboxId request.name)
      request.subnets before after) :
    Rerouted region managementGroupName sandboxId [request] before after where
  others := attached.others
  tables := fun group name => Or.inl (by rw [RoutedAzure.routeTable, attached.tables]; rfl)
  subnets := by
    intro group otherNetwork name
    rcases attached.subnets group otherNetwork name with same | ⟨isGroup, isNetwork, asked, set⟩
    · exact Or.inl same
    · refine Or.inr ⟨?_, request, List.mem_singleton_self _, asked, set⟩
      exact ⟨isGroup, isNetwork ▸ isSandbox.2⟩

/-- The table is written or nothing changes; where the call ends well it is written. -/
theorem ends_putRouteTable (region : Text) (request : RouteTableRequestResourceModel)
    (sandboxId : Text) (state : FaultyRoutedAzure) :
    Ends routedServices (fun outcome finished =>
        (finished.2 = state.2 ∨ finished.2 = state.2.putRouteTable sandboxId
            (request.toRouteTable region (state.2.routeTableId sandboxId request.name))) ∧
          (outcome = .ok () → finished.2 = state.2.putRouteTable sandboxId
            (request.toRouteTable region (state.2.routeTableId sandboxId request.name))))
      state (NetworkService.createRouteTable region request sandboxId) := by
  let written : RoutedServices.Request := .inr (.putRouteTable sandboxId request.name region
    (request.routes.map RouteResourceModel.toRoute))
  constructor
  · exact (routedServices_state written state).symm
  · intro isOk
    exact (congrArg Prod.snd (@routedServices_of_ok written state () isOk)).symm

/-- The stored table is set on the subnets. -/
theorem ends_addRouteTableToSubnets {routesRg group network : Text} {table : RouteTable}
    {names : List Text} {state : FaultyRoutedAzure}
    (stored : state.2.routeTable routesRg table.name = some table) :
    Ends routedServices (fun outcome finished =>
        Attached group network table.id names state.2 finished.2 ∧
          (outcome = .ok () → AttachedAll group network table.id names state.2 finished.2))
      state (NetworkService.addRouteTableToSubnets routesRg table.name names group network) := by
  apply Ends.bind
  apply ends_sendRoute (fun _ => rfl)
  intro outcome read unchanged answered
  rw [← unchanged]
  cases outcome with
  | error e => exact ⟨.refl read.2, by rintro ⟨⟩⟩
  | ok found =>
      have isFound : found = table := by
        have isStored := find_eq_ok_iff.mp (answered found rfl)
        exact Option.some.inj (isStored.symm.trans stored)
      rw [isFound]
      exact ends_setRouteTables table group network names read

/-- The table was written, and then all its subnets got it. -/
theorem AttachedAll.routedBy {network id : Text} (isId : before.routeTableId sandboxId request.name = id)
    (isSandbox : before.azure.IsSandboxNetwork managementGroupName managementGroupName network)
    (attached : Attached managementGroupName network id request.subnets
      (before.putRouteTable sandboxId (request.toRouteTable region id)) after)
    (all : AttachedAll managementGroupName network id request.subnets
      (before.putRouteTable sandboxId (request.toRouteTable region id)) after) :
    RoutedBy region managementGroupName sandboxId request before after := by
  subst isId
  constructor
  · intro group name
    rw [RoutedAzure.routeTable, attached.tables]
    exact RoutedAzure.routeTable_putRouteTable before sandboxId name group _
  · rintro group otherNetwork name ⟨isGroup, named⟩
    have isNetwork : otherNetwork = network := Option.some.inj (named.symm.trans isSandbox.2)
    subst isGroup isNetwork
    split
    · rename_i asked
      exact (all name asked).2
    · rename_i other
      rcases attached.subnets group otherNetwork name with same | ⟨_, _, asked, _⟩
      · exact same
      · exact absurd asked other
  · exact ⟨network, isSandbox, fun name asked => (all name asked).1⟩

/-- One attempt, once the sandbox network is found. -/
theorem ends_routeSubnets {network : Text} {state : FaultyRoutedAzure}
    (isSandbox : state.2.azure.IsSandboxNetwork managementGroupName managementGroupName network) :
    Ends routedServices (fun outcome finished =>
        Rerouted region managementGroupName sandboxId [request] state.2 finished.2 ∧
          (outcome = .ok () →
            RoutedBy region managementGroupName sandboxId request state.2 finished.2))
      state (do
        NetworkService.createRouteTable region request sandboxId
        withLock .subnetLocker <| NetworkService.addRouteTableToSubnets sandboxId request.name
          request.subnets managementGroupName network) := by
  let table := request.toRouteTable region (state.2.routeTableId sandboxId request.name)
  have writes : Rerouted region managementGroupName sandboxId [request] state.2
      (state.2.putRouteTable sandboxId table) := rerouted_putRouteTable request state.2
  apply Ends.bind
  apply (ends_putRouteTable region request sandboxId state).mono
  rintro outcome created ⟨atMost, whenOk⟩
  cases outcome with
  | error e =>
      refine ⟨?_, by rintro ⟨⟩⟩
      rcases atMost with same | written
      · rw [same]
        exact .refl state.2
      · rw [written]
        exact writes
  | ok _ =>
      have written := whenOk rfl
      have stored : created.2.routeTable sandboxId table.name = some table := by
        rw [written, RoutedAzure.routeTable_putRouteTable, if_pos ⟨rfl, rfl⟩]
      apply Ends.withLock
      apply (ends_addRouteTableToSubnets stored).mono
      rintro outcome finished ⟨attached, whenOk⟩
      rw [written] at attached whenOk
      constructor
      · exact writes.trans (attached.rerouted isSandbox)
      · exact fun isOk => (whenOk isOk).routedBy rfl isSandbox attached

/-- One attempt, whatever becomes of its calls. -/
theorem ends_tryRouteTable (request : RouteTableRequestResourceModel)
    (region managementGroupName sandboxId : Text) (state : FaultyRoutedAzure) :
    Ends routedServices (fun outcome finished =>
        Rerouted region managementGroupName sandboxId [request] state.2 finished.2 ∧
          (outcome = .ok () →
            RoutedBy region managementGroupName sandboxId request state.2 finished.2))
      state (AddRouteOperation.tryRouteTable request region managementGroupName sandboxId) := by
  apply Ends.bind
  apply ends_getSandboxVirtualNetwork
  intro outcome listed unchanged answered
  rw [← unchanged]
  cases outcome with
  | error e => exact ⟨.refl listed.2, by rintro ⟨⟩⟩
  | ok found =>
      have isFound := answered found rfl
      rw [← unchanged] at isFound
      apply Ends.bind
      apply ends_ofExcept
      cases found with
      | none => exact ⟨.refl listed.2, by rintro ⟨⟩⟩
      | some network => exact ends_routeSubnets ⟨rfl, by rw [← isFound]; rfl⟩

/-- The attempts that fail leave no trace beside the one that ends well. -/
theorem ends_createRouteTable (request : RouteTableRequestResourceModel)
    (region managementGroupName sandboxId : Text) (state : FaultyRoutedAzure) :
    Ends routedServices (fun outcome finished =>
        Rerouted region managementGroupName sandboxId [request] state.2 finished.2 ∧
          (outcome = .ok () →
            RoutedBy region managementGroupName sandboxId request state.2 finished.2))
      state (AddRouteOperation.createRouteTable request region managementGroupName sandboxId) := by
  let starts : FaultyRoutedAzure → Prop := fun later =>
    Rerouted region managementGroupName sandboxId [request] state.2 later.2
  apply Ends.retry starts
  · intro later attempts
    apply (ends_tryRouteTable request region managementGroupName sandboxId later).mono
    rintro outcome finished ⟨atMost, whenOk⟩
    refine ⟨⟨attempts.trans atMost, ?_⟩, fun _ _ => attempts.trans atMost⟩
    exact fun isOk => attempts.then (whenOk isOk)
  · exact .refl state.2

end Tables

/-! ## The command -/

/-- The last request that something is asked for in. -/
def lastRequest (asks : RouteTableRequestResourceModel → Bool)
    (requests : List RouteTableRequestResourceModel) : Option RouteTableRequestResourceModel :=
  requests.reverse.find? asks

theorem lastRequest_concat (asks : RouteTableRequestResourceModel → Bool)
    (requests : List RouteTableRequestResourceModel) (request : RouteTableRequestResourceModel) :
    lastRequest asks (requests ++ [request]) =
      if asks request then some request else lastRequest asks requests := by
  unfold lastRequest
  rw [List.reverse_append, List.reverse_singleton, List.singleton_append, List.find?_cons]
  cases asks request <;> rfl

/-- Every table asked for is there as it was asked for last, and every subnet has the
last table asked for it. -/
structure RoutedAsAsked (region managementGroupName sandboxId : Text)
    (requests : List RouteTableRequestResourceModel) (before after : RoutedAzure) : Prop where
  tables : ∀ name, after.routeTable sandboxId name =
    match lastRequest (fun request => request.name = name) requests with
    | some request => some (request.toRouteTable region (before.routeTableId sandboxId name))
    | none => before.routeTable sandboxId name
  subnets : ∀ group network name,
    before.azure.IsSandboxNetwork managementGroupName group network →
      after.subnet group network name =
        match lastRequest (fun request => name ∈ request.subnets) requests with
        | some request => (before.subnet group network name).map
            (Subnet.withRouteTable (before.routeTableId sandboxId request.name))
        | none => before.subnet group network name
  found : ∀ request ∈ requests, ∃ network,
    before.azure.IsSandboxNetwork managementGroupName managementGroupName network ∧
      ∀ name ∈ request.subnets, (before.subnet managementGroupName network name).isSome

section Command

variable {region managementGroupName sandboxId : Text}
  {requests done : List RouteTableRequestResourceModel}
  {request : RouteTableRequestResourceModel} {before between after : RoutedAzure}

theorem RoutedAsAsked.concat
    (rerouted : Rerouted region managementGroupName sandboxId requests before between)
    (asAsked : RoutedAsAsked region managementGroupName sandboxId done before between)
    (last : RoutedBy region managementGroupName sandboxId request between after) :
    RoutedAsAsked region managementGroupName sandboxId (done ++ [request]) before after where
  tables := by
    intro name
    rw [last.table, asAsked.tables, lastRequest_concat, rerouted.others.ids]
    by_cases named : request.name = name
    · subst named
      simp
    · simp [named, Ne.symm named]
  subnets := by
    intro group network name isSandbox
    rw [last.subnets group network name ((rerouted.others.isSandboxNetwork _ _ _).mpr isSandbox),
      lastRequest_concat, rerouted.others.ids, asAsked.subnets group network name isSandbox]
    by_cases asked : name ∈ request.subnets
    · simp only [asked, decide_true, if_true]
      split
      · rw [Option.map_map]
        rfl
      · rfl
    · simp [asked]
  found := by
    intro other member
    rcases List.mem_append.mp member with inDone | isLast
    · exact asAsked.found other inDone
    · cases List.mem_singleton.mp isLast
      rcases last.found with ⟨network, isSandbox, present⟩
      refine ⟨network, (rerouted.others.isSandboxNetwork _ _ _).mp isSandbox, ?_⟩
      intro name asked
      rw [← rerouted.isSome_subnet]
      exact present name asked

/-- The reservation's output is no resource. -/
theorem ends_reservationOutput (state : FaultyRoutedAzure) :
    Ends routedServices (fun _ finished => finished.2 = state.2) state
      (sendShell (.external .reservationOutput)) := by
  rcases routedServices_state (.inl (.external .reservationOutput)) state with same | same
  · exact same
  · exact same

/-- One table with its messages. -/
theorem ends_createRouteTableWithMessages (request : RouteTableRequestResourceModel)
    (region managementGroupName sandboxId : Text) (state : FaultyRoutedAzure) :
    Ends routedServices (fun outcome finished =>
        Rerouted region managementGroupName sandboxId [request] state.2 finished.2 ∧
          (outcome = .ok () →
            RoutedBy region managementGroupName sandboxId request state.2 finished.2))
      state (do
        sendShell (.external .reservationOutput)
        forEach request.routes fun _ => sendShell (.external .reservationOutput)
        AddRouteOperation.createRouteTable request region managementGroupName sandboxId) := by
  have messages : Ends routedServices (fun _ finished => finished.2 = state.2) state
      (do
        sendShell (.external .reservationOutput)
        forEach request.routes fun _ => sendShell (.external .reservationOutput)) := by
    apply Ends.bind
    apply (ends_reservationOutput state).mono
    intro outcome first unchanged
    cases outcome with
    | error e => exact unchanged
    | ok _ =>
        apply Ends.forEach fun _ later => later.2 = state.2
        · intro _ _ _ _ later same
          apply (ends_reservationOutput later).mono
          intro outcome finished unchanged
          cases outcome with
          | error e => exact unchanged.trans same
          | ok _ => exact unchanged.trans same
        · exact fun _ same => same
        · exact unchanged
  rw [← bind_assoc]
  apply Ends.bind
  apply messages.mono
  intro outcome told unchanged
  rw [← unchanged]
  cases outcome with
  | error e => exact ⟨.refl told.2, by rintro ⟨⟩⟩
  | ok _ => exact ends_createRouteTable request region managementGroupName sandboxId told

end Command

/-- Whatever calls fail, and however often the creation of a table is tried: nothing
changes but what was asked for, and a command that ends well has done all that was
asked for. -/
theorem createRouteTables_ends (requests : List RouteTableRequestResourceModel)
    (region managementGroupName reservationId : Text) (state : FaultyRoutedAzure) :
    Ends routedServices (fun outcome finished =>
        Rerouted region managementGroupName reservationId requests state.2 finished.2 ∧
          (outcome = .ok () →
            RoutedAsAsked region managementGroupName reservationId requests state.2 finished.2))
      state (createRouteTables requests region managementGroupName reservationId) := by
  let reached : List RouteTableRequestResourceModel → FaultyRoutedAzure → Prop := fun done later =>
    Rerouted region managementGroupName reservationId requests state.2 later.2 ∧
      RoutedAsAsked region managementGroupName reservationId done state.2 later.2
  apply Ends.forEach reached
  · rintro done request rest parts later ⟨rerouted, asAsked⟩
    have isRequest : ∀ other ∈ [request], other ∈ requests := by
      intro other member
      cases List.mem_singleton.mp member
      simp [parts]
    apply (ends_createRouteTableWithMessages request region managementGroupName reservationId
      later).mono
    rintro outcome finished ⟨atMost, whenOk⟩
    cases outcome with
    | error e => exact ⟨rerouted.trans (atMost.mono isRequest), by rintro ⟨⟩⟩
    | ok _ => exact ⟨rerouted.trans (atMost.mono isRequest), asAsked.concat rerouted (whenOk rfl)⟩
  · rintro later ⟨rerouted, asAsked⟩
    exact ⟨rerouted, fun _ => asAsked⟩
  · refine ⟨.refl state.2, fun _ => rfl, fun _ _ _ _ => rfl, ?_⟩
    intro request member
    cases member

end AzureShell
