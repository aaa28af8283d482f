import AzureShell.Delete.Cleanup
import AzureShell.Deploy.AllOrNothing
import AzureShell.Deploy.Attachment
import AzureShell.Naming.SubnetNames
import Mathlib.Data.Set.Defs

/-!
# Sandboxes that share a virtual network

The subnets of all sandboxes lie in one virtual network and are told apart by
their names only.  The preparation writes the name, a deployment looks for a
name that contains the id of its reservation, and the cleanup for names that
start with it.  All three agree on which subnets are those of a reservation.
-/

namespace AzureShell

open Prog Net NameProviderService SecurityGroupService

/-- The subnet has the name the preparation gives to a subnet of the
reservation. -/
def BelongsTo (reservationId : Text) (subnet : Subnet) : Prop :=
  ∃ block : CidrText, subnet.name = formatSubnetName reservationId block.text

/-- A network shared by sandboxes: their ids are GUIDs, and the subnets that carry
one of them are those the preparation named. -/
structure SharedBy (reservations : Set Text) (network : VirtualNetwork) : Prop where
  isGuid : ∀ id ∈ reservations, IsGuid id
  named : ∀ subnet ∈ network.subnets, ∀ id ∈ reservations, id <:+: subnet.name →
    ∃ owner ∈ reservations, BelongsTo owner subnet

section Shared

variable {reservations : Set Text} {network : VirtualNetwork} {reservationId : Text}
  {subnet : Subnet}

/-- The subnets a deployment looks for are those of its reservation. -/
theorem SharedBy.infix_name_iff (shared : SharedBy reservations network)
    (isReservation : reservationId ∈ reservations) (member : subnet ∈ network.subnets) :
    reservationId <:+: subnet.name ↔ BelongsTo reservationId subnet := by
  have isGuid := shared.isGuid reservationId isReservation
  constructor
  · intro inName
    rcases shared.named subnet member _ isReservation inName with ⟨owner, isOwner, block, named⟩
    rw [named] at inName
    have same := (infix_formatSubnetName_iff isGuid (shared.isGuid owner isOwner) block).mp inName
    exact ⟨block, same ▸ named⟩
  · rintro ⟨block, named⟩
    rw [named]
    exact (infix_formatSubnetName_iff isGuid isGuid block).mpr rfl

/-- The subnets a cleanup removes are those of its reservation. -/
theorem SharedBy.prefix_name_iff (shared : SharedBy reservations network)
    (isReservation : reservationId ∈ reservations) (member : subnet ∈ network.subnets) :
    reservationId <+: subnet.name ↔ BelongsTo reservationId subnet := by
  constructor
  · intro startsName
    exact (shared.infix_name_iff isReservation member).mp startsName.isInfix
  · rintro ⟨block, named⟩
    rw [named, formatSubnetName_eq (shared.isGuid reservationId isReservation)]
    exact List.prefix_append _ _

end Shared

namespace DeployAzureVMOperation

/-- With no network configurations there is one request, for the first subnet of
the reservation. -/
theorem requestedSubnet_of_single {request : DeployRequest} {data : DeployDataModel}
    {azure : Azure} {network : VirtualNetwork} {subnetName : Text}
    (isNetwork : azure.sandboxNetwork request.cloudProviderModel.managementGroupName = some network)
    (single : request.deploymentModel.networkConfigurations = [])
    (found : Found request azure data) (requested : RequestedSubnet data subnetName) :
    ∃ subnet, network.subnets.find? (fun subnet => request.reservationId <:+: subnet.name) =
      some subnet ∧ subnetName = subnet.name := by
  rcases found.nicRequests with ⟨_, isNetwork', isRequested⟩
  cases isNetwork.symm.trans isNetwork'
  rcases requested with ⟨nicRequest, member, rfl⟩
  rw [isRequested, nicRequestsFor, single] at member
  rcases Option.map_eq_some_iff.mp (List.mem_singleton.mp member).symm with ⟨subnet, isFirst, rfl⟩
  exact ⟨subnet, isFirst, rfl⟩

end DeployAzureVMOperation

open DeleteAzureVMOperation DeployAzureVMOperation

/-- Sandboxes that share a network are separated: names of subnets determine
their reservation and block; a cleanup in which no call raises reports success; one
that reports success removes the subnets of its reservation and leaves the others
as they were; and the interfaces of a deployment on a single subnet are attached
to one subnet of its reservation, where there is one. -/
theorem sandboxes_separated {reservations : Set Text} {network : VirtualNetwork}
    (shared : SharedBy reservations network) :
    (∀ id ∈ reservations, ∀ other ∈ reservations, ∀ block otherBlock : CidrText,
      formatSubnetName id block.text = formatSubnetName other otherBlock.text →
        id = other ∧ block.text = otherBlock.text) ∧
    ∀ reservationId ∈ reservations, ∀ (managementGroupName : Text) (state : FaultyAzure),
      state.2.sandboxNetwork managementGroupName = some network →
        (∀ actions actionId, cleanupActionId actions = .ok actionId →
          failures services (cleanupConnectivity managementGroupName reservationId actions)
            state = [] →
          (run services (cleanupConnectivity managementGroupName reservationId actions) state).1 =
            .ok ⟨true, actionId, []⟩) ∧
        (∀ actions result finished,
          run services (cleanupConnectivity managementGroupName reservationId actions) state =
            (.ok result, finished) → result.success = true →
          ∃ left, finished.2.sandboxNetwork managementGroupName = some left ∧ ∀ subnet,
            subnet ∈ left.subnets ↔ subnet ∈ network.subnets ∧ ¬ BelongsTo reservationId subnet) ∧
        ∀ request : DeployRequest, request.reservationId = reservationId →
          request.cloudProviderModel.managementGroupName = managementGroupName →
          request.deploymentModel.networkConfigurations = [] →
          (∃ subnet ∈ network.subnets, BelongsTo reservationId subnet) →
          ∃ subnet ∈ network.subnets, BelongsTo reservationId subnet ∧ ∀ parameters,
            .putNetworkInterface parameters ∈ requests services (deployVmGeneric request) state →
              parameters.subnetId = subnet.name := by
  constructor
  · intro id isId other isOther block otherBlock same
    exact formatSubnetName_inj (shared.isGuid id isId) (shared.isGuid other isOther) same
  intro reservationId isReservation managementGroupName state isNetwork
  refine ⟨?_, ?_, ?_⟩
  · intro actions actionId isAction calm
    exact cleanupConnectivity_reports_success isAction ⟨network, isNetwork⟩ calm
  · intro actions result finished ran success
    rcases cleanupConnectivity_leaves isNetwork ran success with ⟨left, isLeft, kept⟩
    refine ⟨left, isLeft, ?_⟩
    intro subnet
    rw [kept]
    apply and_congr_right
    intro member
    rw [shared.prefix_name_iff isReservation member]
  · rintro request rfl rfl single ⟨own, ownMem, belongs⟩
    let carries : Subnet → Bool := fun subnet => request.reservationId <:+: subnet.name
    have carriesOwn : carries own = true :=
      decide_eq_true ((shared.infix_name_iff isReservation ownMem).mpr belongs)
    obtain ⟨subnet, isFirst⟩ : ∃ subnet, network.subnets.find? carries = some subnet :=
      Option.isSome_iff_exists.mp (List.find?_isSome.mpr ⟨own, ownMem, carriesOwn⟩)
    have member := List.mem_of_find?_eq_some isFirst
    have isCarried : carries subnet = true := List.find?_some isFirst
    have isOwn := (shared.infix_name_iff isReservation member).mp (of_decide_eq_true isCarried)
    refine ⟨subnet, member, isOwn, ?_⟩
    intro parameters created
    rcases deployVmGeneric_attaches created with ⟨data, found, requested⟩
    obtain ⟨other, isOther, attached⟩ :=
      requestedSubnet_of_single isNetwork single found requested
    cases isFirst.symm.trans isOther
    exact attached

/-! ## Two sandboxes -/

def firstReservation : Text :=
  "5e1d0f3a-1c2b-4d5e-8f90-0123456789ab".toList

def secondReservation : Text :=
  "5e1d0f3a-1c2b-4d5e-8f90-0123456789ac".toList

def firstSubnet : Subnet :=
  ⟨"5e1d0f3a-1c2b-4d5e-8f90-0123456789ab_10.0.1.0-24".toList, "10.0.1.0/24".toList,
    some "first".toList, none, none⟩

def secondSubnet : Subnet :=
  ⟨"5e1d0f3a-1c2b-4d5e-8f90-0123456789ac_10.0.2.0-24".toList, "10.0.2.0/24".toList,
    some "second".toList, none, none⟩

/-- A network with a subnet of each sandbox. -/
def sharedNetwork : VirtualNetwork where
  name := "vnet".toList
  tags := [("network_type".toList, "sandbox".toList)]
  addressPrefixes := ["10.0.0.0/16".toList]
  subnets := [firstSubnet, secondSubnet]

/-- The shared network beside that of the management, with the security group of
the second sandbox. -/
def sharedAzure : FaultyAzure :=
  ([], { Azure.blank with
    networkSecurityGroups := [⟨getSubnetsNsgName secondReservation, []⟩]
    virtualNetworks := fun _ => [sharedNetwork, ⟨"mgmt".toList,
      [("network_type".toList, "mgmt".toList)], ["10.1.0.0/16".toList], []⟩] })

theorem sharedNetwork_sharedBy :
    SharedBy {id | id = firstReservation ∨ id = secondReservation} sharedNetwork where
  isGuid := by
    rintro id (rfl | rfl) <;> exact isGuid_of_all (by decide) (by decide)
  named := by
    intro subnet member _ _ _
    rcases List.mem_cons.mp member with rfl | member
    · exact ⟨firstReservation, Or.inl rfl, ⟨"10.0.1.0/24".toList, ⟨⟨10, 0, 1, 0⟩, 24⟩, by decide⟩,
        by decide⟩
    · cases List.mem_singleton.mp member
      exact ⟨secondReservation, Or.inr rfl, ⟨"10.0.2.0/24".toList, ⟨⟨10, 0, 2, 0⟩, 24⟩, by decide⟩,
        by decide⟩

abbrev cleanupRequest : List CleanupAction :=
  [⟨"cleanupNetwork".toList, "a1".toList⟩]

abbrev firstCleanup : Except PyException CleanupResult × FaultyAzure :=
  run services (cleanupConnectivity "mgmt".toList firstReservation cleanupRequest) sharedAzure

/-- A machine of the second sandbox. -/
def secondRequest : DeployRequest :=
  { webRequest with reservationId := secondReservation }

/-- The interface that is created for it. -/
def secondInterface : NetworkInterfaceParameters where
  name := "web-0a1b2c3d-0".toList
  privateIpAllocationMethod := .dynamic
  privateIpAddress := none
  subnetId := "5e1d0f3a-1c2b-4d5e-8f90-0123456789ac_10.0.2.0-24".toList
  publicIpAddressId := some "web-0a1b2c3d-0_PublicIP".toList

/-- The cleanup of one sandbox reports success and leaves the subnet of the other,
and the next machine of the other is attached to it. -/
theorem sandboxes_separated_example :
    firstCleanup.1 = .ok ⟨true, "a1".toList, []⟩ ∧
    (∃ left, firstCleanup.2.2.sandboxNetwork "mgmt".toList = some left ∧
      secondSubnet ∈ left.subnets ∧ firstSubnet ∉ left.subnets) ∧
    .putNetworkInterface secondInterface ∈
        requests services (deployVmGeneric secondRequest) sharedAzure ∧
    ∃ subnet ∈ sharedNetwork.subnets, BelongsTo secondReservation subnet ∧
      secondInterface.subnetId = subnet.name := by
  rcases sandboxes_separated sharedNetwork_sharedBy with ⟨_, separated⟩
  have belongsFirst : BelongsTo firstReservation firstSubnet :=
    ⟨⟨"10.0.1.0/24".toList, ⟨⟨10, 0, 1, 0⟩, 24⟩, by decide⟩, by decide⟩
  have belongsSecond : BelongsTo secondReservation secondSubnet :=
    ⟨⟨"10.0.2.0/24".toList, ⟨⟨10, 0, 2, 0⟩, 24⟩, by decide⟩, by decide⟩
  have notFirst : ¬ BelongsTo firstReservation secondSubnet := by
    intro belongs
    have member : secondSubnet ∈ sharedNetwork.subnets := by decide
    have isPrefix := (sharedNetwork_sharedBy.prefix_name_iff (Or.inl rfl) member).mpr belongs
    revert isPrefix
    decide
  obtain ⟨reports, cleaned, _⟩ :=
    separated firstReservation (Or.inl rfl) "mgmt".toList sharedAzure rfl
  obtain ⟨_, _, deployed⟩ :=
    separated secondReservation (Or.inr rfl) "mgmt".toList sharedAzure rfl
  have succeeds : firstCleanup.1 = .ok ⟨true, "a1".toList, []⟩ :=
    reports cleanupRequest "a1".toList rfl (by decide)
  have created : .putNetworkInterface secondInterface ∈
      requests services (deployVmGeneric secondRequest) sharedAzure := by decide
  refine ⟨succeeds, ?_, created, ?_⟩
  · rcases cleaned _ _ firstCleanup.2 (Prod.ext succeeds rfl) rfl with ⟨left, isLeft, kept⟩
    refine ⟨left, isLeft, (kept _).mpr ⟨by decide, notFirst⟩, ?_⟩
    intro member
    exact ((kept _).mp member).2 belongsFirst
  · obtain ⟨subnet, member, belongs, attached⟩ := deployed secondRequest rfl rfl rfl
      ⟨secondSubnet, by decide, belongsSecond⟩
    exact ⟨subnet, member, belongs, attached secondInterface created⟩

end AzureShell
