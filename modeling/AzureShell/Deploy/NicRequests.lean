import AzureShell.Deploy.Operation
import AzureShell.Deploy.RequestParser
import AzureShell.Prog.Calm
import AzureShell.Store.StableSort

/-!
# The requests for interfaces

`_get_nic_requests` looks up a subnet of the sandbox for each `ConnectSubnet`
action.  A lookup that finds nothing yields `None`, not the exception that the
handlers around it wait for: in single-subnet mode the `None` is returned, and
in multiple-subnet mode the action is skipped.
-/

namespace AzureShell

open Prog

namespace DeployAzureVMOperation

/-! ## What the requests should be -/

/-- The device index of an action. -/
def deviceIndexOf (action : ConnectToSubnetParams) : Option Int :=
  (ConnectionParamsParser.parse action).deviceIndex

/-- The order of device indices, as a relation. -/
def DeviceIndexLe (first second : Option Int) : Prop :=
  SubnetConnectionParams.deviceIndexLe first second = true

instance : DecidableRel DeviceIndexLe :=
  fun _ _ => inferInstanceAs (Decidable (_ = true))

/-- The request is for the subnet that the action names, with the action's
public flag. -/
structure RequestsSubnet (subnets : List Subnet) (action : ConnectToSubnetParams)
    (nicRequest : NicRequest) : Prop where
  member : nicRequest.subnet ∈ subnets
  named : nicRequest.subnet.name = action.subnetId
  isPublic : nicRequest.isPublic = (ConnectionParamsParser.parse action).isPublicSubnet

/-- Without actions one request on a subnet of the reservation; otherwise one
request for each action, in the stable order of the device indices.  The names
of the interfaces differ. -/
structure MatchesSubnets (subnets : List Subnet) (reservationId : Text)
    (actions : List ConnectToSubnetParams) (nicRequests : List NicRequest) : Prop where
  distinct : (nicRequests.map NicRequest.interfaceName).Nodup
  single : actions = [] → ∃ nicRequest, nicRequests = [nicRequest] ∧
    nicRequest.subnet ∈ subnets ∧ reservationId <:+: nicRequest.subnet.name
  multiple : actions ≠ [] → ∃ sorted,
    Store.StablySorted DeviceIndexLe deviceIndexOf actions sorted ∧
      List.Forall₂ (RequestsSubnet subnets) sorted nicRequests

/-- The subnets that the lookups need are there. -/
def SubnetsPresent (subnets : List Subnet) (reservationId : Text)
    (actions : List ConnectToSubnetParams) : Prop :=
  (actions = [] → ∃ subnet ∈ subnets, reservationId <:+: subnet.name) ∧
    ∀ action ∈ actions, ∃ subnet ∈ subnets, subnet.name = action.subnetId

/-! ## The order of the device indices -/

theorem deviceIndexLe_total (first second : Option Int) :
    DeviceIndexLe first second ∨ DeviceIndexLe second first := by
  cases first with
  | none => exact Or.inl rfl
  | some a =>
      cases second with
      | none => exact Or.inr rfl
      | some b => simpa [DeviceIndexLe, SubnetConnectionParams.deviceIndexLe] using le_total a b

theorem deviceIndexLe_trans (first second third : Option Int) (le : DeviceIndexLe first second)
    (le' : DeviceIndexLe second third) : DeviceIndexLe first third := by
  cases first with
  | none => rfl
  | some a =>
      cases second with
      | none => contradiction
      | some b =>
          cases third with
          | none => contradiction
          | some c =>
              simp only [DeviceIndexLe, SubnetConnectionParams.deviceIndexLe, Option.all_some,
                Option.any_some, decide_eq_true_eq] at le le' ⊢
              exact le.trans le'

/-- The actions in the order of their device indices. -/
def sortedActions (actions : List ConnectToSubnetParams) : List ConnectToSubnetParams :=
  actions.insertionSort fun first second => DeviceIndexLe (deviceIndexOf first)
    (deviceIndexOf second)

theorem stablySorted_sortedActions (actions : List ConnectToSubnetParams) :
    Store.StablySorted DeviceIndexLe deviceIndexOf actions (sortedActions actions) :=
  Store.stablySorted_insertionSort deviceIndexLe_total deviceIndexLe_trans actions

/-! ## The lookups -/

/-- The name of the interface with an index. -/
def interfaceNameAt (vmName : Text) (index : Nat) : Text :=
  vmName ++ '-' :: Text.ofNat index

theorem interfaceNameAt_injective (vmName : Text) : Function.Injective (interfaceNameAt vmName) := by
  intro i j same
  exact Text.ofNat_injective (List.tail_eq_of_cons_eq (List.append_cancel_left same))

/-- The request for an action's interface, if its subnet is found. -/
def requestFor (vmName : Text) (subnets : List Subnet) (indexed : ConnectToSubnetParams × Nat) :
    Option NicRequest :=
  (subnets.find? fun subnet => subnet.name = indexed.1.subnetId).map fun subnet =>
    ⟨interfaceNameAt vmName indexed.2, subnet,
      (ConnectionParamsParser.parse indexed.1).isPublicSubnet⟩

theorem exists_requestFor {subnets : List Subnet} {action : ConnectToSubnetParams}
    (present : ∃ subnet ∈ subnets, subnet.name = action.subnetId) (vmName : Text) (index : Nat) :
    ∃ nicRequest, requestFor vmName subnets (action, index) = some nicRequest ∧
      nicRequest.interfaceName = interfaceNameAt vmName index ∧
      RequestsSubnet subnets action nicRequest := by
  cases found : subnets.find? fun subnet => subnet.name = action.subnetId with
  | none =>
      rcases present with ⟨subnet, member, named⟩
      simp only [List.find?_eq_none, decide_eq_true_eq] at found
      exact absurd named (found subnet member)
  | some subnet =>
      refine ⟨_, by rw [requestFor, found]; rfl, rfl, List.mem_of_find?_eq_some found, ?_, rfl⟩
      simpa using List.find?_some found

/-- Where every subnet is found, no action is skipped. -/
theorem filterMap_requestFor {subnets : List Subnet} {actions : List ConnectToSubnetParams}
    (present : ∀ action ∈ actions, ∃ subnet ∈ subnets, subnet.name = action.subnetId)
    (vmName : Text) (start : Nat) :
    ∃ nicRequests,
      (actions.zipIdx start).filterMap (requestFor vmName subnets) = nicRequests ∧
      List.Forall₂ (RequestsSubnet subnets) actions nicRequests ∧
      nicRequests.map NicRequest.interfaceName =
        (List.range' start actions.length).map (interfaceNameAt vmName) := by
  induction actions generalizing start with
  | nil => exact ⟨[], rfl, List.Forall₂.nil, rfl⟩
  | cons action actions ih =>
      obtain ⟨nicRequest, requested, named, forSubnet⟩ :=
        exists_requestFor (present action List.mem_cons_self) vmName start
      obtain ⟨nicRequests, later, forSubnets, names⟩ :=
        ih (fun other member => present other (List.mem_cons_of_mem action member)) (start + 1)
      refine ⟨nicRequest :: nicRequests, ?_, List.Forall₂.cons forSubnet forSubnets, ?_⟩
      · rw [List.zipIdx_cons, List.filterMap_cons_some requested, later]
      · rw [List.map_cons, named, names, List.length_cons, List.range'_succ, List.map_cons]

/-- The requests in multiple-subnet mode are those of the sorted actions. -/
theorem nicRequestsFor_of_actions {request : DeployRequest}
    {actions : List ConnectToSubnetParams} (nonempty : actions ≠ [])
    (parsed : request.deploymentModel.networkConfigurations =
      AzureModelsParser.parseDeployNetworkingConfigurations actions)
    (vmName : Text) (subnets : List Subnet) :
    nicRequestsFor request vmName subnets =
      ((sortedActions actions).zipIdx.filterMap (requestFor vmName subnets)).map some := by
  have sorted : (actions.map ConnectionParamsParser.parse).insertionSort
      (fun first second => SubnetConnectionParams.deviceIndexLe first.deviceIndex
        second.deviceIndex) = (sortedActions actions).map ConnectionParamsParser.parse := by
    symm
    exact List.map_insertionSort _ _ _ _ fun _ _ _ _ => Iff.rfl
  have split : nicRequestsFor request vmName subnets =
      ((sortedActions actions).map ConnectionParamsParser.parse).zipIdx.filterMap
        fun indexed => (subnets.find? fun subnet => subnet.name = indexed.1.subnetId).map
          fun subnet => some ⟨interfaceNameAt vmName indexed.2, subnet,
            indexed.1.isPublicSubnet⟩ := by
    rcases List.exists_cons_of_ne_nil nonempty with ⟨action, rest, rfl⟩
    rw [← sorted, nicRequestsFor, parsed]
    rfl
  rw [split, List.zipIdx_map, List.filterMap_map, List.map_filterMap]
  congr 1
  funext indexed
  rw [requestFor, Option.map_map]
  rfl

/-! ## When the requests match -/

/-- The network of the sandbox, as Azure lists it. -/
def sandboxNetworkOf (azure : Azure) (request : DeployRequest) : Option VirtualNetwork :=
  NetworkService.getVirtualNetworkByTag
    (azure.virtualNetworks request.cloudProviderModel.managementGroupName)
    NetworkService.networkTypeTagName NetworkService.sandboxNetworkTagValue

/-- The outcome is an exception, or proper requests that match the actions. -/
def ProperOrRaises (network : Option VirtualNetwork) (reservationId : Text)
    (actions : List ConnectToSubnetParams)
    (outcome : Except PyException (List (Option NicRequest))) : Prop :=
  ∀ nicRequests, outcome = .ok nicRequests → ∃ found proper, network = some found ∧
    nicRequests = proper.map some ∧ MatchesSubnets found.subnets reservationId actions proper

theorem run_getNicRequests (strict : Bool) (request : DeployRequest) (vmName : Text)
    (azure : Azure) :
    run (Azure.handle strict) (getNicRequests request vmName) azure =
      (match sandboxNetworkOf azure request with
        | some network => .ok (nicRequestsFor request vmName network.subnets)
        | none => .error (.attributeError "'NoneType' object has no attribute 'subnets'".toList),
        azure) := by
  unfold getNicRequests
  rw [run_bind_of_ok (NetworkService.run_getSandboxVirtualNetwork strict _ azure)]
  change run _ (match sandboxNetworkOf azure request with | some _ => _ | none => _) azure = _
  cases sandboxNetworkOf azure request <;> rfl

variable {request : DeployRequest} {actions : List ConnectToSubnetParams} {vmName : Text}
  {subnets : List Subnet}

/-- In single-subnet mode the request is proper when the reservation has a
subnet. -/
theorem nicRequestsFor_nil (single : request.deploymentModel.networkConfigurations = [])
    (vmName : Text) (subnets : List Subnet) :
    nicRequestsFor request vmName subnets =
      [(subnets.find? fun subnet => request.reservationId <:+: subnet.name).map fun subnet =>
        ⟨interfaceNameAt vmName 0, subnet, true⟩] := by
  rw [nicRequestsFor, single]
  rfl

theorem matchesSubnets_of_present (vmName : Text)
    (parsed : request.deploymentModel.networkConfigurations =
      AzureModelsParser.parseDeployNetworkingConfigurations actions)
    (present : SubnetsPresent subnets request.reservationId actions) :
    ∃ proper, nicRequestsFor request vmName subnets = proper.map some ∧
      MatchesSubnets subnets request.reservationId actions proper := by
  by_cases single : actions = []
  · subst single
    rcases present.1 rfl with ⟨subnet, member, ofReservation⟩
    rw [nicRequestsFor_nil parsed]
    cases found : subnets.find? fun subnet => request.reservationId <:+: subnet.name with
    | none =>
        simp only [List.find?_eq_none, decide_eq_true_eq] at found
        exact absurd ofReservation (found subnet member)
    | some chosen =>
        have chosenOf : request.reservationId <:+: chosen.name := by
          simpa using List.find?_some found
        refine ⟨[⟨interfaceNameAt vmName 0, chosen, true⟩], rfl, List.nodup_singleton _, ?_, ?_⟩
        · intro _
          exact ⟨_, rfl, List.mem_of_find?_eq_some found, chosenOf⟩
        · intro nonempty
          exact absurd rfl nonempty
  · have stably := stablySorted_sortedActions actions
    obtain ⟨proper, requested, forSubnets, names⟩ := filterMap_requestFor
      (fun action member => present.2 action (stably.mem_iff.mp member)) vmName 0
    refine ⟨proper, ?_, ?_, ?_, ?_⟩
    · rw [nicRequestsFor_of_actions single parsed, requested]
    · rw [names]
      exact (List.nodup_range' _).map (interfaceNameAt_injective vmName)
    · intro empty
      exact absurd empty single
    · intro _
      exact ⟨sortedActions actions, stably, forSubnets⟩

/-- Requests that match the actions are made for subnets that are there. -/
theorem MatchesSubnets.present {reservationId : Text} {proper : List NicRequest}
    (matched : MatchesSubnets subnets reservationId actions proper) :
    SubnetsPresent subnets reservationId actions := by
  constructor
  · intro single
    rcases matched.single single with ⟨nicRequest, _, member, ofReservation⟩
    exact ⟨nicRequest.subnet, member, ofReservation⟩
  · intro action member
    rcases matched.multiple (List.ne_nil_of_mem member) with ⟨sorted, stably, forSubnets⟩
    rcases exists_related forSubnets.flip (stably.mem_iff.mpr member) with ⟨nicRequest, _, forSubnet⟩
    exact ⟨nicRequest.subnet, forSubnet.member, forSubnet.named⟩

/-- The requests are proper and match the actions, unless the call raises,
exactly when there is no network of the sandbox or it has all the subnets that
the lookups need. -/
theorem getNicRequests_properOrRaises_iff {strict : Bool}
    (parsed : request.deploymentModel.networkConfigurations =
      AzureModelsParser.parseDeployNetworkingConfigurations actions)
    (vmName : Text) (azure : Azure) :
    ProperOrRaises (sandboxNetworkOf azure request) request.reservationId actions
        (run (Azure.handle strict) (getNicRequests request vmName) azure).1 ↔
      ∀ network, sandboxNetworkOf azure request = some network →
        SubnetsPresent network.subnets request.reservationId actions := by
  rw [run_getNicRequests]
  cases sandboxNetworkOf azure request with
  | none => simp [ProperOrRaises]
  | some network =>
      constructor
      · intro proper found equal
        cases equal
        rcases proper _ rfl with ⟨_, _, equal, _, matched⟩
        cases equal
        exact matched.present
      · rintro present nicRequests returned
        cases returned
        obtain ⟨proper, requested, matched⟩ :=
          matchesSubnets_of_present vmName parsed (present network rfl)
        exact ⟨network, proper, rfl, requested, matched⟩

/-! A sandbox with two subnets, and apps that ask for some. -/

def frontAndBack : Azure :=
  { Azure.blank with
    virtualNetworks := fun _ =>
      [{ name := "vnet-sandbox".toList, tags := [("network_type".toList, "sandbox".toList)],
         addressPrefixes := ["10.0.0.0/16".toList],
         subnets := [⟨"front".toList, "10.0.1.0/24".toList, none, none, none⟩,
           ⟨"back".toList, "10.0.2.0/24".toList, none, none, none⟩] }] }

def connectTo (subnetIds : List Text) : List ConnectToSubnetParams :=
  subnetIds.map fun subnetId => { subnetId := subnetId, subnetServiceAttributes := [] }

theorem isPostfix_of_requestTo : NameProviderService.IsPostfix "0a1b2c3d".toList := by decide

def requestTo (subnetIds : List Text) : DeployRequest where
  createVmAction := .marketplace .linux
  deploymentModel := { exampleApp with
    networkConfigurations :=
      AzureModelsParser.parseDeployNetworkingConfigurations (connectTo subnetIds) }
  cloudProviderModel := exampleProvider []
  reservationId := "b1f7e2d4".toList
  networkActions := []
  uniqueString := "0a1b2c3d".toList
  isPostfix := isPostfix_of_requestTo

theorem getNicRequests_properOrRaises_example :
    ProperOrRaises (sandboxNetworkOf frontAndBack (requestTo ["front".toList]))
        "b1f7e2d4".toList (connectTo ["front".toList])
        (run (Azure.handle true) (getNicRequests (requestTo ["front".toList]) "web".toList)
          frontAndBack).1 ↔
      ∀ network, sandboxNetworkOf frontAndBack (requestTo ["front".toList]) = some network →
        SubnetsPresent network.subnets "b1f7e2d4".toList (connectTo ["front".toList]) :=
  @getNicRequests_properOrRaises_iff (requestTo ["front".toList]) _ true rfl "web".toList
    frontAndBack

/-- An action for a subnet that is not there is skipped, so the machine gets one
interface instead of two. -/
theorem unmatched_action_is_skipped :
    ¬ ProperOrRaises (sandboxNetworkOf frontAndBack (requestTo ["front".toList, "edge".toList]))
      "b1f7e2d4".toList (connectTo ["front".toList, "edge".toList])
      (run (Azure.handle true)
        (getNicRequests (requestTo ["front".toList, "edge".toList]) "web".toList)
        frontAndBack).1 := by
  intro proper
  have returned : (run (Azure.handle true)
      (getNicRequests (requestTo ["front".toList, "edge".toList]) "web".toList) frontAndBack).1 =
        .ok [some ⟨"web-0".toList,
          ⟨"front".toList, "10.0.1.0/24".toList, none, none, none⟩, true⟩] := by
    decide
  rcases proper _ returned with ⟨network, _, isNetwork, _, matched⟩
  cases isNetwork
  have present := matched.present.2 { subnetId := "edge".toList, subnetServiceAttributes := [] }
    (by decide)
  exact absurd present (by decide)

end DeployAzureVMOperation

end AzureShell
