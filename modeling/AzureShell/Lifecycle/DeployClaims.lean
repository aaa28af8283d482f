import AzureShell.Lifecycle.AddressClaims
import AzureShell.Lifecycle.RoundTrip

/-!
# The claims of a deployment

A deployment gives an interface an address that it has just checked out, and takes
a new one for every attempt.  Whatever becomes of its calls, it never relies on
more than that, and its rollback releases nothing.
-/

namespace AzureShell

open Prog NameProviderService SecurityGroupService

/-! ## Programs that honour the claims -/

section Honours

variable {ι α β : Type} [DecidableEq ι] {reservationId : Text} {mine : ι → Text → Prop} {i : ι}

/-- Whatever its command knows at the start, the program upholds the claims. -/
def Honours (reservationId : Text) (mine : ι → Text → Prop) (i : ι) (result : α → Prop)
    (program : Shell α) : Prop :=
  ∀ held, Upholds (ClaimsHoldIn reservationId mine) lenient i
    (Leaves (fun _ => True) fun _ => result) held program

namespace Honours

variable {result : α → Prop} {final : β → Prop}

theorem pure {a : α} (isResult : result a) : Honours reservationId mine i result (pure a) := by
  intro held
  refine ⟨trivial, ?_⟩
  rintro _ ⟨⟩
  exact isResult

theorem raise (e : PyException) : Honours reservationId mine i result (raise e : Shell α) := by
  intro held
  refine ⟨trivial, ?_⟩
  rintro _ ⟨⟩

theorem ofExcept (outcome : Except PyException α) :
    Honours reservationId mine i (fun a => outcome = .ok a) (ofExcept outcome) :=
  fun _ => ⟨trivial, fun _ isOk => isOk⟩

theorem leaves {program : Shell α} (leaves : Within LeavesAddresses program) :
    Honours reservationId mine i (fun _ => True) program :=
  fun _ => upholds_leaves leaves trivial

theorem bind {program : Shell α} {rest : α → Shell β}
    (first : Honours reservationId mine i result program)
    (later : ∀ a, result a → Honours reservationId mine i final (rest a)) :
    Honours reservationId mine i final (program >>= rest) :=
  fun held => (first held).andThen fun a held isResult _ => later a isResult held

theorem andThen {program : Shell α} {rest : α → Shell β}
    (first : Honours reservationId mine i (fun _ => True) program)
    (later : ∀ a, Honours reservationId mine i final (rest a)) :
    Honours reservationId mine i final (program >>= rest) :=
  first.bind fun a _ => later a

theorem catching {program : Shell α} {h : PyException → Shell α}
    (body : Honours reservationId mine i result program)
    (handler : ∀ e, Honours reservationId mine i result (h e)) :
    Honours reservationId mine i result (program.catching h) := by
  intro held
  apply Upholds.catching
  apply (body held).mono
  rintro held outcome ⟨_, isResult⟩
  cases outcome with
  | ok a => exact ⟨trivial, isResult⟩
  | error e => exact handler e held

theorem retry {again : PyException → Bool} {program : Shell α}
    (body : Honours reservationId mine i result program) (extra : Nat) :
    Honours reservationId mine i result (Prog.retry again extra program) := by
  intro held
  have attempt : ∀ held, True → Upholds (ClaimsHoldIn reservationId mine) lenient i
      (fun held outcome => Leaves (fun _ => True) (fun _ => result) held outcome ∧
        ∀ e, outcome = .error e → True) held program :=
    fun held _ => (body held).mono fun _ _ ends => ⟨ends, fun _ _ => trivial⟩
  exact Upholds.retry attempt extra trivial

theorem forEach {items : List β} {body : β → Shell Unit}
    (round : ∀ item ∈ items, Honours reservationId mine i (fun _ => True) (body item)) :
    Honours reservationId mine i (fun _ => True) (forEach items body) :=
  fun _ => Upholds.forEach (fun item member held _ => round item member held) trivial

end Honours

/-! ### Programs that take notes -/

/-- Whatever its command knows at the start and has noted, the program upholds the
claims. -/
def HonoursNoting (reservationId : Text) (mine : ι → Text → Prop) (i : ι) (result : α → Prop)
    (program : Shell α) : Prop :=
  ∀ written, Honours reservationId mine i (fun ended => ∀ a, ended.1 = .ok a → result a)
    (recording DeployAzureVMOperation.privateIpNotes written program)

variable {result : α → Prop} {final : β → Prop}

theorem Honours.noting {program : Shell α} (honours : Honours reservationId mine i result program)
    (noteless : Noteless DeployAzureVMOperation.privateIpNotes program) :
    HonoursNoting reservationId mine i result program := by
  intro written
  rw [recording_of_noteless noteless]
  apply Honours.catching
  · apply honours.bind
    intro a isResult
    apply Honours.pure
    rintro _ ⟨⟩
    exact isResult
  · intro e
    exact Honours.pure nofun

namespace HonoursNoting

theorem pure {a : α} (isResult : result a) : HonoursNoting reservationId mine i result (pure a) :=
  (Honours.pure isResult).noting trivial

theorem raise (e : PyException) :
    HonoursNoting reservationId mine i result (raise e : Shell α) :=
  (Honours.raise e).noting trivial

theorem note (address : Text) :
    HonoursNoting reservationId mine i (fun _ => True) (send (.recordPrivateIp address)) :=
  fun _ => Honours.pure fun _ _ => trivial

theorem bind {program : Shell α} {rest : α → Shell β}
    (first : HonoursNoting reservationId mine i result program)
    (later : ∀ a, result a → HonoursNoting reservationId mine i final (rest a)) :
    HonoursNoting reservationId mine i final (program >>= rest) := by
  intro written
  rw [recording_bind]
  apply (first written).bind
  rintro ⟨outcome, noted⟩ isResult
  cases outcome with
  | ok a => exact later a (isResult a rfl) noted
  | error e => exact Honours.pure nofun

theorem collect {items : List β} {body : β → Shell α}
    (round : ∀ item ∈ items, HonoursNoting reservationId mine i result (body item)) :
    HonoursNoting reservationId mine i (fun as => ∀ a ∈ as, result a) (collect items body) := by
  induction items with
  | nil => exact pure nofun
  | cons item rest ih =>
      apply (round item List.mem_cons_self).bind
      intro a isResult
      apply (ih fun other member => round other (List.mem_cons_of_mem item member)).bind
      intro as areResults
      apply pure
      exact List.forall_mem_cons.mpr ⟨isResult, areResults⟩

end HonoursNoting

end Honours

/-! ## Deployments -/

section Deployments

variable {ι : Type} [DecidableEq ι] {reservationId : Text} {mine : ι → Text → Prop} {i : ι}

theorem leavesAddresses_of_reads {request : Request} (reads : Reads request) :
    LeavesAddresses request := by
  cases reads <;> rfl

namespace NetworkService

variable {interfaceName ipName : Text} {subnet : Subnet} {method : IPAllocationMethod}

/-- The pool gives an address of its own that is not checked out. -/
theorem not_mem_of_nextAvailableIp {azure : Azure} {subnetRange address : Text}
    (found : azure.nextAvailableIp (IpService.getPoolId reservationId) subnetRange = some address) :
    DeleteAzureVMOperation.poolItem reservationId address ∉ azure.checkedOut := by
  intro member
  have free := List.find?_some found
  rw [List.all_eq_true] at free
  simpa [DeleteAzureVMOperation.poolItem] using free _ member

/-- The address that the pool gives is unused. -/
theorem upholds_getNextAvailableIpFromCsPool {subnetCidr : Text} (held : Text → AddressClaim) :
    Upholds (ClaimsHoldIn reservationId mine) lenient i
      (Leaves (fun _ => True) fun after address => after address = .unused) held
      (IpService.getNextAvailableIpFromCsPool reservationId subnetCidr) := by
  apply upholds_send
  · intro e
    exact leaves_error trivial _
  · rintro claims azure rfl holds
    simp only [Azure.handle]
    split
    · rename_i address found
      refine ⟨_, holds.checkout (not_mem_of_nextAvailableIp found), ⟨trivial, ?_⟩,
        fun e => leaves_error trivial _⟩
      rintro _ ⟨⟩
      exact if_pos rfl
    · refine ⟨claims i, ?_, leaves_error trivial _, fun e => leaves_error trivial _⟩
      rw [Function.update_eq_self]
      exact holds

/-- A static interface asks for an address that is unused. -/
theorem upholds_privateIpFor (held : Text → AddressClaim) :
    Upholds (ClaimsHoldIn reservationId mine) lenient i
      (Leaves (fun _ => True) fun after given =>
        (method = .dynamic ∧ given = none) ∨
          ∃ address, method = .static ∧ given = some address ∧ after address = .unused)
      held (privateIpFor reservationId subnet method) := by
  cases method with
  | dynamic =>
      refine ⟨trivial, ?_⟩
      rintro _ ⟨⟩
      exact Or.inl ⟨rfl, rfl⟩
  | static =>
      apply (upholds_getNextAvailableIpFromCsPool held).andThen
      intro address held unused _
      refine ⟨trivial, ?_⟩
      rintro _ ⟨⟩
      exact Or.inr ⟨address, rfl, rfl, unused⟩

/-- A new interface has at most the address it asked for. -/
theorem upholds_putNetworkInterface {held : Text → AddressClaim} {given publicIp : Option Text}
    {subnetId : Text}
    (known : (method = .dynamic ∧ given = none) ∨
      ∃ address, method = .static ∧ given = some address ∧ held address = .unused) :
    Upholds (ClaimsHoldIn reservationId mine) lenient i
      (Leaves (fun _ => True) fun _ nic => nic.name = interfaceName) held
      (send (.putNetworkInterface ⟨interfaceName, method, given, subnetId, publicIp⟩)) := by
  have named : ∀ (after : Text → AddressClaim) {nic : NetworkInterface},
      nic.name = interfaceName → Leaves (S := AzureServices) (fun _ => True)
        (fun _ nic => nic.name = interfaceName) after (.ok nic) := by
    intro after nic isName
    refine ⟨trivial, ?_⟩
    rintro _ ⟨⟩
    exact isName
  apply upholds_send
  · intro e
    exact leaves_error trivial _
  · rintro claims azure rfl holds
    have logged : ∀ {own : ι → Text → AddressClaim} {stored : Azure},
        ClaimsHold reservationId mine own stored →
          ClaimsHold reservationId mine own (stored.logCreated (.networkInterface interfaceName)) :=
      fun holds => holds.keeps ⟨id, List.Subset.refl _, List.Subset.refl _⟩
    rcases known with ⟨rfl, rfl⟩ | ⟨address, rfl, rfl, unused⟩
    · refine ⟨claims i, ?_, named _ rfl, fun e => leaves_error trivial _⟩
      rw [Function.update_eq_self]
      apply logged
      apply holds.keeps
      refine ⟨?_, List.Subset.refl _, List.Subset.refl _⟩
      rintro nic address ⟨member, has⟩
      rcases Store.mem_upsert_iff.mp member with rfl | ⟨stored, _⟩
      · cases has
      · exact ⟨stored, has⟩
    · refine ⟨_, logged (holds.create unused ?_), named _ rfl, fun e => leaves_error trivial _⟩
      intro other has
      exact List.mem_singleton.mp has

/-- `create_nic` under concurrency: each attempt takes an address of its own. -/
theorem createNic_honours (publicIpAddress : Option PublicIpAddress) :
    Honours reservationId mine i (fun nic => nic.name = interfaceName)
      (createNic interfaceName reservationId publicIpAddress subnet method) := by
  apply Honours.retry
  apply Honours.retry
  intro held
  apply (upholds_privateIpFor held).andThen
  intro given held known _
  exact upholds_putNetworkInterface known

theorem createNetworkForVm_honours (cloudProviderModel : AzureCloudProviderResourceModel)
    (addPublicIp : Bool) (publicIpType : Text) :
    Honours reservationId mine i (fun nic => nic.name = interfaceName)
      (createNetworkForVm interfaceName ipName reservationId cloudProviderModel subnet addPublicIp
        publicIpType) := by
  have publicIp : Within LeavesAddresses (publicIpFor addPublicIp ipName publicIpType) := by
    unfold publicIpFor
    split
    · apply Within.bind
      · apply Within.retry
        apply (within_ofExcept _).bind
        intro _
        exact within_perform rfl
      · intro publicIpAddress
        trivial
    · trivial
  apply (Honours.leaves publicIp).andThen
  intro publicIpAddress
  exact createNic_honours publicIpAddress

end NetworkService

namespace DeployAzureVMOperation

variable {request : DeployRequest} {data : DeployDataModel}

/-- The data of a deployment to the reservation: interfaces have names of their
machine. -/
structure Intends (reservationId : Text) (data : DeployDataModel) : Prop where
  reservation : data.reservationId = reservationId
  noSlash : '/' ∉ data.vmName
  interfaces : ∀ nicRequest, some nicRequest ∈ data.nicRequests →
    IsInterfaceOf data.vmName nicRequest.interfaceName

theorem isInterfaceOf_nicRequestsFor {vmName : Text} {subnets : List Subnet}
    {nicRequest : NicRequest} (member : some nicRequest ∈ nicRequestsFor request vmName subnets) :
    IsInterfaceOf vmName nicRequest.interfaceName := by
  unfold nicRequestsFor at member
  dsimp only at member
  split at member
  · rcases Option.map_eq_some_iff.mp (List.mem_singleton.mp member).symm with ⟨subnet, _, isRequest⟩
    exact ⟨0, congrArg NicRequest.interfaceName isRequest.symm⟩
  · rcases List.mem_filterMap.mp member with ⟨⟨params, index⟩, _, found⟩
    rcases Option.map_eq_some_iff.mp found with ⟨subnet, _, isRequest⟩
    cases isRequest
    exact ⟨index, rfl⟩

theorem prepareDeployData_honours (reservation : request.reservationId = reservationId) :
    Honours reservationId mine i (Intends reservationId) (prepareDeployData request) := by
  have reads : ∀ {α : Type} {program : Shell α}, Within Reads program →
      Honours reservationId mine i (fun _ => True) program :=
    fun within => Honours.leaves (within.mono fun _ => leavesAddresses_of_reads)
  apply Honours.andThen
  · apply reads
    unfold getImageDataModel
    split
    · exact Within.retry (within_perform (.external _)) 4
    · exact within_perform (.external _)
  intro _
  apply (Honours.ofExcept _).bind
  intro _ _
  apply (Honours.ofExcept _).bind
  intro vmName isNamed
  apply (Honours.ofExcept _).bind
  intro vmSize _
  have requested : Honours reservationId mine i
      (fun nicRequests => ∃ subnets, nicRequests = nicRequestsFor request vmName subnets)
      (getNicRequests request vmName) := by
    apply (reads (getSandboxVirtualNetwork_reads _)).andThen
    intro sandboxVirtualNetwork
    split
    · exact Honours.pure ⟨_, rfl⟩
    · exact Honours.raise _
  apply requested.bind
  rintro nicRequests ⟨subnets, rfl⟩
  apply (reads (Within.retry (within_perform (.external _)) 4)).bind
  intro _ _
  apply Honours.pure
  refine ⟨reservation, (prepareVmName_isGenerated isNamed).not_mem (by decide), ?_⟩
  intro nicRequest member
  exact isInterfaceOf_nicRequestsFor member

/-! ### In the block -/

/-- Requests of the block that create nothing leave addresses alone. -/
theorem leavesAddresses_of_blockSends {sent : Request} (sends : BlockSends data sent)
    (builds : Builds (fun _ => False) sent) : LeavesAddresses sent := by
  cases sends with
  | putNetworkInterface nicRequest member method privateIpAddress publicIpAddressId =>
      exact (builds.creates _ rfl).elim
  | putVirtualMachine nics => exact (builds.creates _ rfl).elim
  | _ => rfl

theorem honours_of_block {α : Type} {program : Shell α} (sends : Within (BlockSends data) program)
    (builds : BuildsOnly (fun _ => False) program) :
    Honours reservationId mine i (fun _ => True) program :=
  Honours.leaves ((sends.and builds).mono fun _ both => leavesAddresses_of_blockSends both.1 both.2)

theorem createNetworkSecurityGroupRules_leaves {nsg destinationAddr sourceAddress : Text}
    {inboundRules : List InboundRule} {lock : LockName} {startFrom : Option Int} :
    Within LeavesAddresses (createNetworkSecurityGroupRules nsg inboundRules destinationAddr lock
      startFrom sourceAddress) := by
  apply Within.mono (createNetworkSecurityGroupRules_within lock startFrom)
  rintro sent (rfl | ⟨ruleData, _, priority, rfl⟩) <;> rfl

theorem createVmNetworkSecurityGroup_leaves :
    Within LeavesAddresses (createVmNetworkSecurityGroup request.cloudProviderModel data
      request.deploymentModel) := by
  have listed : ∀ groupName, Within LeavesAddresses
      (NetworkService.getVirtualNetworks groupName) :=
    fun groupName => Within.retry (leaves_send rfl) 4
  apply Within.bind
  · exact (listed _).bind fun _ => within_ofExcept _
  intro managementVnetCidr
  apply Within.bind
  · exact (listed _).bind fun _ => trivial
  intro _
  apply Within.bind (Within.retry (leaves_send rfl) 4)
  intro _
  apply Within.bind (leaves_send rfl)
  intro _
  apply Within.bind
  · apply Within.when
    intro _
    exact (within_ofExcept _).bind fun _ => createNetworkSecurityGroupRules_leaves
  intro _
  apply Within.bind (Within.forEach fun _ _ => createNetworkSecurityGroupRules_leaves)
  intro _
  apply Within.bind createNetworkSecurityGroupRules_leaves
  intro _
  apply Within.bind
  · apply Within.when
    intro _
    exact createNetworkSecurityGroupRules_leaves.bind fun _ => createNetworkSecurityGroupRules_leaves
  intro _
  exact (checkIfCancelled_reads.mono fun _ => leavesAddresses_of_reads).bind fun _ => trivial

theorem createNetwork_honours (intends : Intends reservationId data)
    {inboundRules : List RuleData} {nicRequest : Option NicRequest}
    (member : nicRequest ∈ data.nicRequests) :
    HonoursNoting reservationId mine i (fun nic => IsInterfaceOf data.vmName nic.name)
      (createNetwork request data inboundRules nicRequest) := by
  cases nicRequest with
  | none => exact HonoursNoting.raise _
  | some nicRequest =>
      have isInterface := intends.interfaces nicRequest member
      rw [← intends.reservation]
      apply ((NetworkService.createNetworkForVm_honours _ _ _).noting
        createNetworkForVm_silent).bind
      intro nic isName
      apply ((Honours.ofExcept _).noting (within_ofExcept _)).bind
      intro ipConfiguration _
      apply (HonoursNoting.note _).bind
      intro _ _
      apply ((Honours.leaves createNetworkSecurityGroupRules_leaves).noting
        createNetworkSecurityGroupRules_silent).bind
      intro _ _
      apply HonoursNoting.pure
      rw [isName]
      exact isInterface

theorem createVmCommonObjects_honours (intends : Intends reservationId data) :
    HonoursNoting reservationId mine i
      (fun nics => ∀ nic ∈ nics, IsInterfaceOf data.vmName nic.name)
      (createVmCommonObjects request data) := by
  apply ((Honours.leaves createVmNetworkSecurityGroup_leaves).noting
    createVmNetworkSecurityGroup_silent).bind
  intro _ _
  apply ((Honours.ofExcept _).noting (within_ofExcept _)).bind
  intro inboundRules _
  apply ((Honours.leaves (leaves_send rfl)).noting (silent_send rfl)).bind
  intro _ _
  have networks : HonoursNoting reservationId mine i
      (fun nics => ∀ nic ∈ nics, IsInterfaceOf data.vmName nic.name)
      (collect data.nicRequests (createNetwork request data inboundRules)) :=
    HonoursNoting.collect fun nicRequest member => createNetwork_honours intends member
  apply networks.bind
  intro nics areInterfaces
  apply HonoursNoting.bind
  · apply Honours.noting
    · apply Honours.leaves
      apply Within.when
      intro _
      exact Within.retry (leaves_send rfl) 4
    · apply Within.when
      intro _
      exact Within.retry (silent_send rfl) 4
  intro _ _
  apply ((Honours.leaves (checkIfCancelled_reads.mono fun _ => leavesAddresses_of_reads)).noting
    checkIfCancelled_silent).bind
  intro _ _
  exact HonoursNoting.pure areInterfaces

/-- The machine refers to its interfaces by their names. -/
theorem isInterfaceOf_references {vmName : Text} {nics : List NetworkInterface}
    (noSlash : '/' ∉ vmName) (areInterfaces : ∀ nic ∈ nics, IsInterfaceOf vmName nic.name) :
    ∀ reference ∈ (VirtualMachineService.requestedMachine vmName nics).networkInterfaces,
      IsInterfaceOf vmName (AzureResourceIdParser.lastOfId reference.id) := by
  intro reference member
  have isId : reference.id ∈ nics.map VirtualMachineService.networkInterfaceId := by
    rw [← map_id_networkInterfaceReferences]
    exact List.mem_map_of_mem member
  rcases List.mem_map.mp isId with ⟨nic, inNics, same⟩
  rcases areInterfaces nic inNics with ⟨index, isName⟩
  have nameNoSlash : '/' ∉ nic.name := by
    rw [isName, List.mem_append, List.mem_cons, not_or, not_or]
    exact ⟨noSlash, by decide, Text.not_mem_ofNat (by decide)⟩
  rw [← same, lastOfId_networkInterfaceId nameNoSlash]
  exact ⟨index, isName⟩

theorem checkIfCancelled_leaves :
    Within LeavesAddresses CommandCancellationService.checkIfCancelled :=
  checkIfCancelled_reads.mono fun _ => leavesAddresses_of_reads

theorem checkWhilePolling_leaves (notDone : Nat) :
    Within LeavesAddresses (TaskWaiterService.checkWhilePolling notDone) := by
  induction notDone with
  | zero => trivial
  | succ notDone ih => exact checkIfCancelled_leaves.bind fun _ => ih

theorem createVm_honours {vm : VirtualMachine}
    (own : ∀ reference ∈ vm.networkInterfaces,
      IsInterfaceOf vm.name (AzureResourceIdParser.lastOfId reference.id)) :
    Honours reservationId mine i (fun _ => True) (VirtualMachineService.createVm vm) := by
  apply Honours.retry
  apply Honours.retry
  apply Honours.andThen
  · intro held
    apply upholds_send
    · intro e
      exact leaves_error trivial _
    · rintro claims azure rfl holds
      refine ⟨claims i, ?_, ⟨trivial, fun _ _ => trivial⟩, fun e => leaves_error trivial _⟩
      rw [Function.update_eq_self]
      exact (holds.attach own).keeps ⟨id, List.Subset.refl _, List.Subset.refl _⟩
  intro _
  apply Honours.andThen
  · apply Honours.leaves
    apply Within.bind (leaves_send rfl)
    intro notDone
    apply Within.bind
    · exact checkWhilePolling_leaves notDone
    · intro _
      exact leaves_send rfl
  intro _
  exact Honours.pure trivial

theorem createVmAction_honours (noSlash : '/' ∉ data.vmName) {nics : List NetworkInterface}
    (areInterfaces : ∀ nic ∈ nics, IsInterfaceOf data.vmName nic.name) :
    Honours reservationId mine i (fun _ => True) (createVmAction request data nics) := by
  have machine : Honours reservationId mine i (fun _ => True) (VirtualMachineService.createVm
      (VirtualMachineService.requestedMachine data.vmName nics)) :=
    createVm_honours (isInterfaceOf_references noSlash areInterfaces)
  unfold createVmAction
  split
  · apply (Honours.ofExcept _).bind
    intro _ _
    apply (Honours.ofExcept _).bind
    intro _ _
    exact machine
  · apply (Honours.leaves checkIfCancelled_leaves).andThen
    intro _
    apply (Honours.ofExcept _).bind
    intro _ _
    apply (Honours.leaves (leaves_send rfl)).andThen
    intro _
    apply (Honours.ofExcept _).bind
    intro _ _
    exact machine

theorem tryBlock_honours (intends : Intends reservationId data) :
    HonoursNoting reservationId mine i (fun _ => True) (tryBlock request data) := by
  apply (createVmCommonObjects_honours intends).bind
  intro nics areInterfaces
  apply Honours.noting
  rotate_left
  · exact blockRest_silent nics
  apply Honours.andThen
  · apply (createVmAction_honours intends.noSlash areInterfaces).catching
    intro e
    exact Honours.raise _
  intro vm
  apply (Honours.leaves checkIfCancelled_leaves).andThen
  intro _
  apply Honours.andThen
  · apply Honours.catching
    · have script : Within (BlockSends data) (createVmCustomScriptExtension request data) :=
        createVmCustomScriptExtension_sends
      apply (honours_of_block script createVmCustomScriptExtension_builds).andThen
      intro _
      exact Honours.pure trivial
    · intro e
      unfold scriptTimeout
      split
      · exact Honours.pure trivial
      · exact Honours.raise _
  intro timeout
  exact Honours.pure trivial

/-! ### The rollback -/

/-- Unless the attribute of the cloud provider reads "static", a rollback releases
nothing. -/
theorem rollbackDeployedResources_leaves
    (notStatic : Text.lower request.cloudProviderModel.privateIpAllocationMethod ≠
      "static".toList) (privateIps : List Text) :
    Within LeavesAddresses (rollbackDeployedResources request data privateIps) := by
  rw [rollbackDeployedResources_eq]
  apply Within.bind
  · apply deleteMachineAndInterfaces_sends.mono
    rintro sent (_ | _ | _) <;> rfl
  intro _
  apply Within.bind
  · apply Within.when
    intro isStatic
    exact absurd (of_decide_eq_true isStatic) notStatic
  intro _
  apply (NetworkService.deleteNsgArtifactsAssociatedWithVm_within data.vmName).mono
  rintro sent (rfl | ⟨_, _, rfl⟩ | ⟨_, _, _, _, rfl⟩) <;> rfl

/-- A deployment to the reservation honours the claims, whether it succeeds or is
rolled back. -/
theorem deployVmGeneric_honours (reservation : request.reservationId = reservationId)
    (notStatic : Text.lower request.cloudProviderModel.privateIpAllocationMethod ≠
      "static".toList) :
    Honours reservationId mine i (fun _ => True) (deployVmGeneric request) := by
  apply (prepareDeployData_honours reservation).bind
  intro data intends
  apply (Honours.leaves checkIfCancelled_leaves).andThen
  intro _
  apply (tryBlock_honours intends []).bind
  rintro ⟨outcome, privateIps⟩ _
  apply Honours.andThen
  · apply (Honours.leaves (within_ofExcept outcome)).catching
    intro e
    apply (Honours.leaves (rollbackDeployedResources_leaves notStatic privateIps)).andThen
    intro _
    exact Honours.raise e
  intro block
  exact Honours.leaves ((afterBlock_reads privateIps block).mono fun _ => leavesAddresses_of_reads)

end DeployAzureVMOperation

end Deployments

end AzureShell
