import AzureShell.Commands.Progress
import AzureShell.Deploy.Requests
import AzureShell.Prog.Ghost

/-!
# What commands leave to other sandboxes

All sandboxes share the virtual networks and CloudShell's pool service.  A command
changes subnets only under the names of its own sandbox, and addresses of its own
reservation.  A preparation goes further: where Azure rejects the block of a subnet,
it clears away the subnet that has the same block, whoever made it.

What no command may change stays as it is, however clients are interleaved and
whichever calls fail.
-/

namespace AzureShell

open Prog

/-! ## Subnets of all networks -/

/-- A network of the group has the subnet. -/
def Azure.HasSubnet (azure : Azure) (group network : Text) (subnet : Subnet) : Prop :=
  ∃ item ∈ azure.virtualNetworks group, item.name = network ∧ subnet ∈ item.subnets

/-- Subnets of one network have different names. -/
def Azure.NamesSubnets (azure : Azure) : Prop :=
  ∀ {group network first second}, azure.HasSubnet group network first →
    azure.HasSubnet group network second → first.name = second.name → first = second

section Subnets

variable {azure : Azure} {group network : Text}

/-- The subnets of one network are changed, and no others. -/
theorem hasSubnet_modifySubnets {change : List Subnet → List Subnet} {otherGroup other : Text}
    {subnet : Subnet} :
    (azure.modifySubnets group network change).HasSubnet otherGroup other subnet ↔
      ∃ item ∈ azure.virtualNetworks otherGroup, item.name = other ∧
        subnet ∈ if otherGroup = group ∧ other = network then change item.subnets
          else item.subnets := by
  by_cases sameGroup : otherGroup = group
  · subst sameGroup
    simp only [Azure.HasSubnet, Azure.modifySubnets, Function.update_self, Store.modify,
      List.mem_map, exists_exists_and_eq_and, true_and]
    apply exists_congr
    intro item
    apply and_congr_right
    intro _
    by_cases isNetwork : item.name = network
    · subst isNetwork
      rw [if_pos rfl]
      apply and_congr_right
      rintro rfl
      rw [if_pos rfl]
    · rw [if_neg isNetwork]
      apply and_congr_right
      rintro rfl
      rw [if_neg isNetwork]
  · simp only [Azure.HasSubnet, Azure.modifySubnets, Function.update_of_ne sameGroup, sameGroup,
      false_and, if_false]

theorem hasSubnet_modifySubnets_of_ne {change : List Subnet → List Subnet}
    {otherGroup other : Text} {subnet : Subnet}
    (elsewhere : ¬ (otherGroup = group ∧ other = network)) :
    (azure.modifySubnets group network change).HasSubnet otherGroup other subnet ↔
      azure.HasSubnet otherGroup other subnet := by
  rw [hasSubnet_modifySubnets]
  simp only [elsewhere, if_false, Azure.HasSubnet]

theorem hasSubnet_modifySubnets_self {change : List Subnet → List Subnet} {subnet : Subnet} :
    (azure.modifySubnets group network change).HasSubnet group network subnet ↔
      ∃ item ∈ azure.virtualNetworks group, item.name = network ∧ subnet ∈ change item.subnets := by
  rw [hasSubnet_modifySubnets]
  simp only [and_self, if_true]

theorem hasSubnet_upsert {written subnet : Subnet}
    (present : (azure.modifySubnets group network
      (Store.upsert Subnet.name written)).HasSubnet group network subnet) :
    subnet = written ∨ azure.HasSubnet group network subnet ∧ subnet.name ≠ written.name := by
  rcases hasSubnet_modifySubnets_self.mp present with ⟨item, member, named, inside⟩
  rcases Store.mem_upsert_iff.mp inside with isWritten | ⟨old, different⟩
  · exact Or.inl isWritten
  · exact Or.inr ⟨⟨item, member, named, old⟩, different⟩

theorem hasSubnet_erase_iff {deleted : Text} {subnet : Subnet} :
    (azure.modifySubnets group network (Store.erase Subnet.name deleted)).HasSubnet group network
        subnet ↔
      azure.HasSubnet group network subnet ∧ subnet.name ≠ deleted := by
  rw [hasSubnet_modifySubnets_self]
  constructor
  · rintro ⟨item, member, named, inside⟩
    rcases Store.mem_erase_iff.mp inside with ⟨old, different⟩
    exact ⟨⟨item, member, named, old⟩, different⟩
  · rintro ⟨⟨item, member, named, old⟩, different⟩
    exact ⟨item, member, named, Store.mem_erase_iff.mpr ⟨old, different⟩⟩

end Subnets

/-! ## What is spared -/

/-- But for the subnets that may be touched and the reservations that may use the pool,
all is as it was. -/
structure Spared (touched : Subnet → Prop) (used : Text → Prop) (before after : Azure) : Prop where
  named : after.NamesSubnets
  subnets : ∀ group network subnet, ¬ touched subnet →
    (after.HasSubnet group network subnet ↔ before.HasSubnet group network subnet)
  pool : ∀ item, ¬ used item.reservationId →
    (item ∈ after.checkedOut ↔ item ∈ before.checkedOut)

/-- No subnet that is spared has the name. -/
def IsFree (touched : Subnet → Prop) (before : Azure) (group network name : Text) : Prop :=
  ∀ subnet, ¬ touched subnet → before.HasSubnet group network subnet → subnet.name ≠ name

/-- The request spares what is to be spared. -/
def Spares (touched : Subnet → Prop) (used : Text → Prop) (before : Azure) : Request → Prop
  | .putSubnet group network written =>
      touched written ∧ IsFree touched before group network written.name
  | .deleteSubnet group network name => IsFree touched before group network name
  | .checkoutFromPool _ reservationId _ _ => used reservationId
  | .releaseFromPool _ _ reservationId _ => used reservationId
  | _ => True

section Spared

variable {touched : Subnet → Prop} {used : Text → Prop} {start azure : Azure}

/-- A name that a touched subnet has is free. -/
theorem Spared.isFree (spared : Spared touched used start azure) {group network : Text}
    {subnet : Subnet} (present : azure.HasSubnet group network subnet) (isTouched : touched subnet) :
    IsFree touched start group network subnet.name := by
  intro other untouched started same
  have there := (spared.subnets group network other untouched).mpr started
  exact untouched (spared.named there present same ▸ isTouched)

theorem Spared.modifySubnets (spared : Spared touched used start azure) {group network : Text}
    {change : List Subnet → List Subnet}
    (named : (azure.modifySubnets group network change).NamesSubnets)
    (subnets : ∀ subnet, ¬ touched subnet →
      ((azure.modifySubnets group network change).HasSubnet group network subnet ↔
        start.HasSubnet group network subnet)) :
    Spared touched used start (azure.modifySubnets group network change) := by
  refine ⟨named, ?_, spared.pool⟩
  intro otherGroup other subnet untouched
  by_cases same : otherGroup = group ∧ other = network
  · rcases same with ⟨rfl, rfl⟩
    exact subnets subnet untouched
  · rw [hasSubnet_modifySubnets_of_ne same]
    exact spared.subnets otherGroup other subnet untouched

theorem Azure.NamesSubnets.upsert (named : azure.NamesSubnets) (group network : Text)
    (written : Subnet) :
    (azure.modifySubnets group network (Store.upsert Subnet.name written)).NamesSubnets := by
  intro otherGroup other first second isFirst isSecond same
  by_cases here : otherGroup = group ∧ other = network
  · rcases here with ⟨rfl, rfl⟩
    rcases hasSubnet_upsert isFirst with rfl | ⟨old, different⟩
    · rcases hasSubnet_upsert isSecond with rfl | ⟨_, different⟩
      · rfl
      · exact absurd same.symm different
    · rcases hasSubnet_upsert isSecond with rfl | ⟨otherOld, _⟩
      · exact absurd same different
      · exact named old otherOld same
  · rw [hasSubnet_modifySubnets_of_ne here] at isFirst isSecond
    exact named isFirst isSecond same

theorem Azure.NamesSubnets.erase (named : azure.NamesSubnets) (group network deleted : Text) :
    (azure.modifySubnets group network (Store.erase Subnet.name deleted)).NamesSubnets := by
  intro otherGroup other first second isFirst isSecond same
  by_cases here : otherGroup = group ∧ other = network
  · rcases here with ⟨rfl, rfl⟩
    exact named (hasSubnet_erase_iff.mp isFirst).1 (hasSubnet_erase_iff.mp isSecond).1 same
  · rw [hasSubnet_modifySubnets_of_ne here] at isFirst isSecond
    exact named isFirst isSecond same

/-- A subnet is written over touched ones only. -/
theorem Spared.putSubnet (spared : Spared touched used start azure) {group network : Text}
    {written : Subnet} (isTouched : touched written)
    (isFree : IsFree touched start group network written.name) :
    Spared touched used start
      (azure.modifySubnets group network (Store.upsert Subnet.name written)) := by
  apply spared.modifySubnets (Azure.NamesSubnets.upsert spared.named group network written)
  intro subnet untouched
  rw [← spared.subnets group network subnet untouched]
  constructor
  · intro present
    rcases hasSubnet_upsert present with rfl | ⟨old, _⟩
    · exact absurd isTouched untouched
    · exact old
  · intro old
    have different := isFree subnet untouched
      ((spared.subnets group network subnet untouched).mp old)
    rcases old with ⟨item, member, named, inside⟩
    exact hasSubnet_modifySubnets_self.mpr
      ⟨item, member, named, Store.mem_upsert_iff.mpr (Or.inr ⟨inside, different⟩)⟩

theorem Spared.deleteSubnet (spared : Spared touched used start azure) {group network name : Text}
    (isFree : IsFree touched start group network name) :
    Spared touched used start
      (azure.modifySubnets group network (Store.erase Subnet.name name)) := by
  apply spared.modifySubnets (Azure.NamesSubnets.erase spared.named group network name)
  intro subnet untouched
  rw [hasSubnet_erase_iff, ← spared.subnets group network subnet untouched]
  constructor
  · exact And.left
  · intro old
    exact ⟨old, isFree subnet untouched ((spared.subnets group network subnet untouched).mp old)⟩

/-- A request that spares what is to be spared leaves it. -/
theorem Spared.handle (spared : Spared touched used start azure) {request : Request}
    (spares : Spares touched used start request) :
    Spared touched used start (Azure.handle false request azure).2 := by
  cases request with
  | putSubnet group network written =>
      simp only [Azure.handle]
      split
      · exact spared
      · split
        · exact spared
        · exact spared.putSubnet spares.1 spares.2
  | deleteSubnet group network name => exact spared.deleteSubnet spares
  | checkoutFromPool poolId reservationId ownerId subnetRange =>
      simp only [Azure.handle]
      split
      · refine ⟨spared.named, spared.subnets, ?_⟩
        intro item unused
        rw [← spared.pool item unused, List.mem_cons]
        apply or_iff_right
        rintro rfl
        exact unused spares
      · exact spared
  | releaseFromPool values poolId reservationId ownerId =>
      refine ⟨spared.named, spared.subnets, ?_⟩
      intro item unused
      simp only [Azure.handle, List.mem_filter, decide_eq_true_eq]
      rw [← spared.pool item unused]
      apply and_iff_left
      intro released
      rcases List.mem_map.mp released with ⟨address, _, rfl⟩
      exact unused spares
  | putSecurityRule nsg rule =>
      simp only [Azure.handle]
      split
      · exact ⟨spared.named, spared.subnets, spared.pool⟩
      · exact spared
  | _ => exact ⟨spared.named, spared.subnets, spared.pool⟩

end Spared

/-! ## Programs -/

section Programs

variable {ι α β : Type} [DecidableEq ι] {touched : Subnet → Prop} {used : Text → Prop}
  {start : Azure} {i : ι}

/-- Next to others that do the same, the program spares what is to be spared, and its
result is known. -/
def Sparing (touched : Subnet → Prop) (used : Text → Prop) (start : Azure) (i : ι)
    (result : α → Prop) (program : Shell α) : Prop :=
  Upholds (fun (_ : ι → Unit) (state : FaultyAzure) => Spared touched used start state.2) services i
    (Leaves (fun _ => True) fun _ => result) () program

namespace Sparing

variable {result : α → Prop} {final : β → Prop}

theorem within {program : Shell α} (spares : Within (Spares touched used start) program) :
    Sparing touched used start i (fun _ => True) program := by
  have kept : ∀ request (_ : ι → Unit) (state : FaultyAzure), Spares touched used start request →
      Spared touched used start state.2 →
        Spared touched used start (services request state).2.2 := by
    intro request _ state isSpared spared
    exact faulty_preserves (spared.handle isSpared) spared
  apply (upholds_of_within kept spares ()).mono
  exact fun _ _ _ => ⟨trivial, fun _ _ => trivial⟩

theorem send {request : Request} {result : request.Answer → Prop}
    (spares : Spares touched used start request)
    (known : ∀ azure a, Spared touched used start azure →
      (Azure.handle false request azure).1 = .ok a → result a) :
    Sparing touched used start i result (send request) := by
  apply upholds_perform
  rintro _ ⟨fates, azure⟩ _ spared
  have kept : Spared touched used start (services request (fates, azure)).2.2 :=
    faulty_preserves (Spared.handle spared spares) spared
  refine ⟨(), kept, trivial, ?_⟩
  intro a answered
  have took := faulty_of_ok (Prod.ext answered rfl)
  exact known azure a spared (congrArg Prod.fst took)

theorem pure {a : α} (isResult : result a) : Sparing touched used start i result (pure a) := by
  refine ⟨trivial, ?_⟩
  rintro _ ⟨⟩
  exact isResult

theorem bind {program : Shell α} {rest : α → Shell β}
    (first : Sparing touched used start i result program)
    (later : ∀ a, result a → Sparing touched used start i final (rest a)) :
    Sparing touched used start i final (program >>= rest) :=
  Upholds.andThen first fun a _ isResult _ => later a isResult

theorem andThen {program : Shell α} {rest : α → Shell β}
    (spares : Within (Spares touched used start) program)
    (later : ∀ a, Sparing touched used start i final (rest a)) :
    Sparing touched used start i final (program >>= rest) :=
  (within spares).bind fun a _ => later a

theorem catching {program : Shell α} {h : PyException → Shell α}
    (body : Sparing touched used start i result program)
    (handler : ∀ e, Sparing touched used start i result (h e)) :
    Sparing touched used start i result (program.catching h) := by
  apply Upholds.catching
  apply body.mono
  rintro _ outcome ⟨_, isResult⟩
  cases outcome with
  | ok a => exact ⟨trivial, isResult⟩
  | error e => exact handler e

theorem retry {again : PyException → Bool} {program : Shell α}
    (body : Sparing touched used start i result program) (extra : Nat) :
    Sparing touched used start i result (Prog.retry again extra program) := by
  have attempt : ∀ held : Unit, True → Upholds
      (fun (_ : ι → Unit) (state : FaultyAzure) => Spared touched used start state.2) services i
      (fun held outcome => Leaves (fun _ => True) (fun _ => result) held outcome ∧
        ∀ e, outcome = .error e → True) held program :=
    fun _ _ => body.mono fun _ _ ended => ⟨ended, fun _ _ => trivial⟩
  exact Upholds.retry attempt extra trivial

theorem forEach {items : List β} {body : β → Shell Unit}
    (round : ∀ item ∈ items, Sparing touched used start i (fun _ => True) (body item)) :
    Sparing touched used start i (fun _ => True) (forEach items body) :=
  Upholds.forEach (fun item member _ _ => round item member) trivial

end Sparing

end Programs

/-! ## Commands on machines -/

section Commands

variable {ι : Type} [DecidableEq ι] {touched : Subnet → Prop} {used : Text → Prop}
  {start : Azure} {i : ι}

theorem spares_of_reads {sent : Request} (reads : Reads sent) : Spares touched used start sent := by
  cases reads <;> trivial

theorem checkIfCancelled_spares :
    Within (Spares touched used start) CommandCancellationService.checkIfCancelled :=
  checkIfCancelled_reads.mono fun _ => spares_of_reads

theorem createNetworkSecurityGroupRules_spares {nsg destinationAddr sourceAddress : Text}
    {inboundRules : List InboundRule} {lock : LockName} {startFrom : Option Int} :
    Within (Spares touched used start) (SecurityGroupService.createNetworkSecurityGroupRules nsg
      inboundRules destinationAddr lock startFrom sourceAddress) := by
  apply Within.mono (SecurityGroupService.createNetworkSecurityGroupRules_within lock startFrom)
  rintro sent (rfl | ⟨ruleData, _, priority, rfl⟩) <;> trivial

theorem deleteNsgArtifactsAssociatedWithVm_spares (vmName : Text) :
    Within (Spares touched used start)
      (NetworkService.deleteNsgArtifactsAssociatedWithVm vmName) := by
  apply (NetworkService.deleteNsgArtifactsAssociatedWithVm_within vmName).mono
  rintro sent (rfl | ⟨_, _, rfl⟩ | ⟨_, _, _, _, rfl⟩) <;> trivial

theorem releaseIps_spares {reservationId : Text} (isUsed : used reservationId)
    (values : List Text) :
    Within (Spares touched used start)
      ((IpService.releaseIps reservationId values).catching fun _ => pure ()) :=
  Within.catching (within_perform isUsed) fun _ => within_pure ()

namespace DeployAzureVMOperation

variable {request : DeployRequest} {data : DeployDataModel}

theorem prepareDeployData_sparing :
    Sparing touched used start i (fun data => data.reservationId = request.reservationId)
      (prepareDeployData request) := by
  have reads : ∀ {α : Type} {program : Shell α}, Within Reads program →
      Within (Spares touched used start) program := fun within => within.mono fun _ => spares_of_reads
  apply Sparing.andThen
  · apply reads
    unfold getImageDataModel
    split
    · exact Within.retry (within_perform (.external _)) 4
    · exact within_perform (.external _)
  intro _
  apply Sparing.andThen (within_ofExcept _)
  intro _
  apply Sparing.andThen (within_ofExcept _)
  intro vmName
  apply Sparing.andThen (within_ofExcept _)
  intro vmSize
  apply Sparing.andThen
  · apply Within.bind (reads (getSandboxVirtualNetwork_reads _))
    intro sandboxVirtualNetwork
    split <;> trivial
  intro nicRequests
  apply Sparing.andThen (Within.retry (within_perform trivial) 4)
  intro _
  exact Sparing.pure rfl

theorem tryBlock_spares (isUsed : used data.reservationId) :
    Within (Spares touched used start) (tryBlock request data) := by
  apply tryBlock_sends.mono
  intro sent sends
  cases sends with
  | checkoutFromPool nicRequest member => exact isUsed
  | _ => trivial

theorem rollbackDeployedResources_spares (isUsed : used data.reservationId)
    (privateIps : List Text) :
    Within (Spares touched used start) (rollbackDeployedResources request data privateIps) := by
  rw [rollbackDeployedResources_eq]
  apply Within.bind
  · apply deleteMachineAndInterfaces_sends.mono
    rintro sent (_ | _ | _) <;> trivial
  intro _
  apply Within.bind
  · apply Within.when
    intro _
    exact releaseIps_spares isUsed privateIps
  intro _
  exact deleteNsgArtifactsAssociatedWithVm_spares data.vmName

/-- A deployment uses the pool of its reservation. -/
theorem deployVmGeneric_sparing (isUsed : used request.reservationId) :
    Sparing touched used start i (fun _ => True) (deployVmGeneric request) := by
  apply prepareDeployData_sparing.bind
  intro data isOwn
  rw [← isOwn] at isUsed
  apply Sparing.within
  apply Within.bind checkIfCancelled_spares
  intro _
  apply fromBlock_within (tryBlock_spares isUsed) (rollbackDeployedResources_spares isUsed)
  intro privateIps block
  exact (afterBlock_reads privateIps block).mono fun _ => spares_of_reads

end DeployAzureVMOperation

namespace DeleteAzureVMOperation

/-- A deletion gives addresses back to the pool of its reservation. -/
theorem deleteAzureVm_spares {groupName : Text} (isUsed : used groupName) (vmName : Text) :
    Within (Spares touched used start) (deleteAzureVm groupName vmName) := by
  apply within_orNotFound
  apply Within.bind
  · apply Within.bind (within_perform trivial)
    intro vm
    apply Within.bind
    · apply Within.collect
      intro name _
      exact within_perform trivial
    intro networkInterfaces
    exact (within_ofExcept _).bind fun _ => within_pure _
  intro machine
  apply Within.bind
  · apply Within.catching
    · exact (Within.retry (within_perform trivial) 4).bind fun _ => within_pure _
    · intro e
      split <;> trivial
  intro vm
  apply Within.bind (within_orNotFound (Within.retry (within_perform trivial) 4))
  intro _
  apply Within.bind
  · apply within_orNotFound
    exact Within.retry (Within.forEach fun _ _ => within_perform trivial) 4
  intro _
  apply Within.bind
  · apply within_orNotFound
    exact Within.retry (Within.forEach fun _ _ => within_perform trivial) 4
  intro _
  apply Within.bind (within_deleteDiskOf (fun _ => trivial) vm)
  intro _
  apply Within.bind (deleteNsgArtifactsAssociatedWithVm_spares vmName)
  intro _
  exact Within.when fun _ => releaseIps_spares isUsed _

/-- A cleanup writes and deletes subnets with names of its sandbox. -/
theorem cleanupConnectivity_spares {managementGroupName resourceGroupName : Text}
    {actions : List CleanupAction}
    (touches : ∀ subnet : Subnet, resourceGroupName <+: subnet.name → touched subnet) :
    Within (Spares touched used start)
      (cleanupConnectivity managementGroupName resourceGroupName actions) := by
  have free : ∀ {group network name : Text}, resourceGroupName <+: name →
      IsFree touched start group network name := by
    rintro group network _ isOwn subnet untouched _ rfl
    exact untouched (touches subnet isOwn)
  apply Within.bind (within_ofExcept _)
  intro actionId
  apply Within.bind
  · apply attempt_within
    apply within_forSandboxSubnets (within_perform trivial)
    intro network subnet member
    have isOwn := (mem_findSandboxSubnets.mp member).2
    exact Within.retry (within_perform ⟨touches _ isOwn, free isOwn⟩) 4
  intro detached
  apply Within.bind (attempt_within (Within.retry (within_perform trivial) 4))
  intro emptied
  apply Within.bind
  · apply attempt_within
    apply within_forSandboxSubnets (within_perform trivial)
    intro network subnet member
    exact Within.retry (within_perform (free (mem_findSandboxSubnets.mp member).2)) 4
  intro deleted
  apply Within.bind (Within.bind (within_perform trivial) fun _ => within_perform trivial)
  intro _
  trivial

end DeleteAzureVMOperation

theorem SetAppSecurityGroupsOperation.setAppsSecurityGroups_spares (environment : Environment)
    (groupName : Text) (models : List AppSecurityGroupModel) :
    Within (Spares touched used start) (setAppsSecurityGroups environment groupName models) := by
  apply Within.collect
  intro model _
  apply Within.catching
  · apply Within.bind
    · apply Within.bind (within_perform trivial)
      intro _
      apply Within.bind
      · apply Within.mono (SecurityGroupService.deleteCustomSecurityRulesFromNsg_within _)
        rintro sent (rfl | ⟨_, _, rfl⟩) <;> trivial
      intro _
      apply Within.bind (Within.retry (within_perform trivial) 4)
      intro vm
      apply Within.bind
      · apply Within.collect
        intro nicRef _
        exact Within.bind (within_perform trivial) fun _ => within_ofExcept _
      intro nicToSubnetNameMap
      apply Within.bind (within_ofExcept _)
      intro configurations
      apply Within.forEach
      intro configuration _
      exact (within_ofExcept _).bind fun _ => createNetworkSecurityGroupRules_spares
    · intro _
      exact within_pure _
  · intro e
    exact within_pure _

theorem RefreshIPOperation.refreshIp_spares (vmName privateIpOnResource : Text)
    (publicIpOnResourceAttrTuple : Text × Option Text) (resourceFullname : Text) :
    Within (Spares touched used start) (refreshIp vmName privateIpOnResource
      publicIpOnResourceAttrTuple resourceFullname) := by
  apply Within.bind
  · apply Within.bind
    · apply Within.bind (Within.retry (within_perform trivial) 4)
      intro vm
      exact (Within.when fun _ => within_raise _).bind fun _ => within_pure vm
    intro vm
    apply Within.bind (within_ofExcept _)
    intro nicReference
    apply Within.bind (within_perform trivial)
    intro nic
    apply Within.bind (within_ofExcept _)
    intro vmIpConfiguration
    apply Within.bind
    · unfold publicIpOnAzure
      split
      · trivial
      · exact Within.bind (within_perform trivial) fun _ => within_pure _
    · intro publicIpOnAzure
      trivial
  · intro addresses
    apply Within.bind (Within.when fun _ => within_perform trivial)
    intro _
    exact Within.when fun _ => within_perform trivial

end Commands

/-! ## Preparations -/

namespace PrepareSandboxInfraOperation

open SecurityGroupService NameProviderService

variable {ι : Type} [DecidableEq ι] {touched : Subnet → Prop} {used : Text → Prop}
  {start : Azure} {i : ι}

/-- The names of touched subnets in the network are free. -/
def KnowsFree (touched : Subnet → Prop) (start : Azure) (group : Text)
    (network : VirtualNetwork) : Prop :=
  ∀ subnet ∈ network.subnets, touched subnet → IsFree touched start group network.name subnet.name

/-- The networks are listed as they are, with what is to be spared in them. -/
theorem getVirtualNetworks_sparing (groupName : Text) :
    Sparing touched used start i (fun networks => ∀ network ∈ networks,
      KnowsFree touched start groupName network) (NetworkService.getVirtualNetworks groupName) := by
  have lists : Sparing touched used start i (fun networks => ∀ network ∈ networks,
      KnowsFree touched start groupName network) (send (.listVirtualNetworks groupName)) := by
    apply Sparing.send
    · trivial
    · rintro azure networks spared answered network member subnet inside isTouched
      cases answered
      exact spared.isFree ⟨network, member, rfl, inside⟩ isTouched
  exact lists.retry 4

/-- A subnet that is cleared away has the block of the request. -/
theorem cleanupStaleData_spares {managementGroupName cidr : Text} {sandboxVnet : VirtualNetwork}
    (touches : ∀ subnet : Subnet, subnet.addressPrefix = cidr → touched subnet)
    (knows : KnowsFree touched start managementGroupName sandboxVnet) :
    Within (AzureShell.Spares touched used start)
      (cleanupStaleData managementGroupName sandboxVnet cidr) := by
  unfold cleanupStaleData
  split
  · trivial
  · rename_i subnet found
    have member := List.mem_of_find?_eq_some found
    have sameBlock : subnet.addressPrefix = cidr := by simpa using List.find?_some found
    have isFree := knows subnet member (touches subnet sameBlock)
    apply Within.bind
    · apply Within.when
      intro _
      exact Within.retry (within_perform ⟨touches _ sameBlock, isFree⟩) 4
    intro _
    apply Within.bind (within_ofExcept _)
    intro _
    exact Within.retry (within_perform isFree) 4

/-- A preparation changes subnets with the names it gives or the blocks it asks for. -/
theorem createSubnet_spares {managementGroupName securityGroupName cidr subnetName : Text}
    {sandboxVnet : VirtualNetwork}
    (touches : ∀ subnet : Subnet, subnet.name = subnetName ∨ subnet.addressPrefix = cidr →
      touched subnet)
    (knows : KnowsFree touched start managementGroupName sandboxVnet) :
    Within (AzureShell.Spares touched used start)
      (createSubnet managementGroupName securityGroupName sandboxVnet cidr subnetName) := by
  have isFree : IsFree touched start managementGroupName sandboxVnet.name subnetName :=
    fun subnet untouched _ named => untouched (touches subnet (Or.inl named))
  have creates : Within (AzureShell.Spares touched used start)
      (retryConnection (send (.putSubnet managementGroupName sandboxVnet.name
        ⟨subnetName, cidr, some securityGroupName, none, none⟩))) :=
    Within.retry (within_perform ⟨touches _ (Or.inl rfl), isFree⟩) 4
  apply Within.withLock
  apply Within.catching creates
  intro e
  split
  · apply Within.bind
    · exact cleanupStaleData_spares (fun subnet same => touches subnet (Or.inr same)) knows
    · exact fun _ => creates
  · trivial

theorem finishPreparation_spares {managementGroupName reservationId : Text}
    {sandboxVnet : VirtualNetwork} {actions : List PrepareAction}
    (touches : ∀ asked ∈ subnetActions actions, ∀ subnet : Subnet,
      subnet.name = formatSubnetName reservationId asked.cidr ∨ subnet.addressPrefix = asked.cidr →
        touched subnet)
    (knows : KnowsFree touched start managementGroupName sandboxVnet) :
    Within (AzureShell.Spares touched used start)
      (finishPreparation managementGroupName reservationId sandboxVnet actions) := by
  apply Within.bind checkIfCancelled_spares
  intro _
  apply Within.bind
  · apply Within.collect
    rintro ⟨actionId, asked⟩ member
    have isAsked : asked ∈ subnetActions actions := List.mem_map.mpr ⟨_, member, rfl⟩
    apply Within.bind (createSubnet_spares (touches asked isAsked) knows)
    intro _
    trivial
  intro results
  apply Within.bind checkIfCancelled_spares
  intro _
  apply Within.bind (within_perform trivial)
  intro _
  apply Within.bind (within_ofExcept _)
  intro infraId
  exact (within_ofExcept _).bind fun _ => within_pure _

theorem createSubnetNsgRules_spares {managementVnet sandboxVnet : Option VirtualNetwork}
    {sandboxCidr securityGroupName : Text} {additionalMgmtNetworks : List Text}
    {subnets : List PrepareSubnet} :
    Within (AzureShell.Spares touched used start)
      (createSubnetNsgRules managementVnet sandboxVnet sandboxCidr securityGroupName
        additionalMgmtNetworks subnets) := by
  apply Within.bind (within_ofExcept _)
  intro managementVnetCidr
  apply Within.bind (within_ofExcept _)
  intro sandboxVnetCidr
  apply Within.bind (Within.forEach fun _ _ => createNetworkSecurityGroupRules_spares)
  intro _
  apply Within.bind (Within.forEach fun _ _ => createNetworkSecurityGroupRules_spares)
  intro _
  apply Within.bind (Within.forEach fun _ _ => createNetworkSecurityGroupRules_spares)
  intro _
  apply Within.bind createNetworkSecurityGroupRules_spares
  intro _
  exact createNetworkSecurityGroupRules_spares

theorem prepareConnectivity_sparing {cloudProviderModel : AzureCloudProviderResourceModel}
    {reservationId : Text} {actions : List PrepareAction}
    (touches : ∀ asked ∈ subnetActions actions, ∀ subnet : Subnet,
      subnet.name = formatSubnetName reservationId asked.cidr ∨ subnet.addressPrefix = asked.cidr →
        touched subnet) :
    Sparing touched used start i (fun _ => True)
      (prepareConnectivity cloudProviderModel reservationId actions) := by
  apply Sparing.andThen (within_ofExcept _)
  intro cidr
  apply Sparing.andThen (Within.retry (within_perform trivial) 4)
  intro _
  apply Sparing.andThen checkIfCancelled_spares
  intro _
  apply (getVirtualNetworks_sparing cloudProviderModel.managementGroupName).bind
  intro virtualNetworks knows
  apply Sparing.andThen checkIfCancelled_spares
  intro _
  apply Sparing.andThen (within_ofExcept _)
  intro managementVnet
  apply Sparing.within
  apply Within.ofExcept_bind
  intro sandboxVnet isSandbox
  -- the network is one of those that were listed
  have member : sandboxVnet ∈ virtualNetworks := by
    unfold validateSandboxVnet at isSandbox
    split at isSandbox
    · rename_i network found
      cases isSandbox
      exact List.mem_of_find?_eq_some found
    · cases isSandbox
  apply Within.bind (Within.retry (within_perform trivial) 4)
  intro _
  apply Within.bind checkIfCancelled_spares
  intro _
  apply Within.bind createSubnetNsgRules_spares
  intro _
  exact finishPreparation_spares touches (knows sandboxVnet member)

end PrepareSandboxInfraOperation

/-! ## Clients -/

namespace ShellCommand

/-- The subnets that a command may change. -/
def MayTouch : ShellCommand → Subnet → Prop
  | prepareConnectivity _ reservationId actions, subnet =>
      ∃ asked ∈ PrepareSandboxInfraOperation.subnetActions actions,
        subnet.name = NameProviderService.formatSubnetName reservationId asked.cidr ∨
          subnet.addressPrefix = asked.cidr
  | cleanupConnectivity _ resourceGroupName _, subnet => resourceGroupName <+: subnet.name
  | _, _ => False

/-- The reservations whose addresses a command may check out or release. -/
def MayUse : ShellCommand → Text → Prop
  | deployVm request, reservationId => reservationId = request.reservationId
  | deleteAzureVm groupName _, reservationId => reservationId = groupName
  | _, _ => False

theorem program_sparing {ι : Type} [DecidableEq ι] {i : ι} {touched : Subnet → Prop}
    {used : Text → Prop} {start : Azure} {command : ShellCommand}
    (touches : ∀ subnet, command.MayTouch subnet → touched subnet)
    (uses : ∀ reservationId, command.MayUse reservationId → used reservationId) :
    Sparing touched used start i (fun _ => True) command.program := by
  cases command with
  | prepareConnectivity cloudProviderModel reservationId actions =>
      have prepares : Sparing touched used start i (fun _ => True)
          (PrepareSandboxInfraOperation.prepareConnectivity cloudProviderModel reservationId
            actions) :=
        PrepareSandboxInfraOperation.prepareConnectivity_sparing
          fun asked member subnet isTouched => touches subnet ⟨asked, member, isTouched⟩
      exact prepares.bind fun _ _ => Sparing.pure trivial
  | deployVm request =>
      apply (DeployAzureVMOperation.deployVmGeneric_sparing (uses request.reservationId rfl)).bind
      exact fun _ _ => Sparing.pure trivial
  | deleteAzureVm groupName vmName =>
      exact Sparing.within (DeleteAzureVMOperation.deleteAzureVm_spares (uses groupName rfl) vmName)
  | setAppsSecurityGroups environment groupName models =>
      apply Sparing.andThen
        (SetAppSecurityGroupsOperation.setAppsSecurityGroups_spares environment groupName models)
      exact fun _ => Sparing.pure trivial
  | refreshIp vmName privateIpOnResource publicIpOnResourceAttrTuple resourceFullname =>
      exact Sparing.within (RefreshIPOperation.refreshIp_spares _ _ _ _)
  | cleanupConnectivity managementGroupName resourceGroupName actions =>
      exact Sparing.andThen (DeleteAzureVMOperation.cleanupConnectivity_spares touches)
        fun _ => Sparing.pure trivial

end ShellCommand

section Sessions

variable {ι : Type} [DecidableEq ι] {commands : ι → List ShellCommand} {state : FaultyAzure}
  {config : Config AzureServices FaultyAzure ι Unit}

/-- However clients are interleaved and whichever calls fail: a subnet that none of
their commands may change is in its network exactly if it was there before, and an
address of a reservation that none of them may use is checked out exactly if it was. -/
theorem sessions_spare (named : state.2.NamesSubnets)
    (reaches : Reaches services (.initial (fun i => session (commands i)) state) config) :
    (∀ group network subnet, (∀ i, ∀ command ∈ commands i, ¬ command.MayTouch subnet) →
        (config.shared.2.HasSubnet group network subnet ↔
          state.2.HasSubnet group network subnet)) ∧
      ∀ item, (∀ i, ∀ command ∈ commands i, ¬ command.MayUse item.reservationId) →
        (item ∈ config.shared.2.checkedOut ↔ item ∈ state.2.checkedOut) := by
  let touched (subnet : Subnet) : Prop := ∃ i, ∃ command ∈ commands i, command.MayTouch subnet
  let used (reservationId : Text) : Prop :=
    ∃ i, ∃ command ∈ commands i, command.MayUse reservationId
  have sparing : ∀ i, Sparing touched used state.2 i (fun _ => True) (session (commands i)) := by
    intro i
    apply Sparing.forEach
    intro command member
    apply Sparing.catching
    · exact command.program_sparing (fun _ mayTouch => ⟨i, command, member, mayTouch⟩)
        fun _ mayUse => ⟨i, command, member, mayUse⟩
    · exact fun _ => Sparing.pure trivial
  have start : Spared touched used state.2 state.2 :=
    ⟨named, fun _ _ _ _ => Iff.rfl, fun _ _ => Iff.rfl⟩
  rcases Reaches.upheld (fun i => (sparing i).mono fun _ _ _ => trivial) start reaches with
    ⟨_, spared⟩
  constructor
  · intro group network subnet untouched
    apply spared.subnets
    rintro ⟨i, command, member, mayTouch⟩
    exact untouched i command member mayTouch
  · intro item unused
    apply spared.pool
    rintro ⟨i, command, member, mayUse⟩
    exact unused i command member mayUse

end Sessions

/-- Two clients clean sandboxes up; a third sandbox has a subnet and an address. -/
def threeSandboxes : FaultyAzure :=
  ([], { cleanedNetwork with
    checkedOut := [⟨"10.0.2.4".toList, "pool".toList, "r2".toList, "vm".toList⟩] })

def cleanups (isFirst : Bool) : List ShellCommand :=
  [.cleanupConnectivity "mgmt".toList (if isFirst then "r1".toList else "r3".toList)
    [⟨"cleanupNetwork".toList, "a1".toList⟩]]

theorem sessions_spare_example :
    ∃ config, Reaches services (.initial (fun i => session (cleanups i)) threeSandboxes) config ∧
      config.threads true = .done (.ok ()) ∧
      config.shared.2.HasSubnet "mgmt".toList "vnet".toList
        ⟨"r2_subnet".toList, "10.0.2.0/24".toList, none, none, none⟩ ∧
      ⟨"10.0.2.4".toList, "pool".toList, "r2".toList, "vm".toList⟩ ∈ config.shared.2.checkedOut := by
  let start : Config AzureServices FaultyAzure Bool Unit :=
    .initial (fun i => session (cleanups i)) threeSandboxes
  have played : (start.play services (fun _ _ => true) (false :: List.replicate 11 true)).map
      (fun config => config.threads true) = some (.done (.ok ())) := by rfl
  rcases Option.map_eq_some_iff.mp played with ⟨config, ran, ended⟩
  have reaches : Reaches services start config := reaches_of_play ran
  have named : threeSandboxes.2.NamesSubnets := by
    rintro group network first second ⟨item, isItem, _, isFirst⟩ ⟨other, isOther, _, isSecond⟩ same
    cases List.mem_singleton.mp isItem
    cases List.mem_singleton.mp isOther
    exact List.inj_on_of_nodup_map (by decide) isFirst isSecond same
  have spare := sessions_spare named reaches
  refine ⟨config, reaches, ended, ?_, ?_⟩
  · have untouched : ∀ i, ∀ command ∈ cleanups i, ¬ command.MayTouch
        ⟨"r2_subnet".toList, "10.0.2.0/24".toList, none, none, none⟩ := by
      rintro (_ | _) command member <;> cases List.mem_singleton.mp member <;>
        simp [ShellCommand.MayTouch]
    apply (spare.1 "mgmt".toList "vnet".toList _ untouched).mpr
    exact ⟨_, List.mem_singleton_self _, rfl, by decide⟩
  · have unused : ∀ i, ∀ command ∈ cleanups i, ¬ command.MayUse "r2".toList := by
      rintro i command member
      cases List.mem_singleton.mp member
      exact id
    exact (spare.2 _ unused).mpr (List.mem_singleton_self _)

end AzureShell
