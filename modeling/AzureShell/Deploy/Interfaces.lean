import AzureShell.Deploy.Addresses
import AzureShell.Deploy.AllOrNothing
import Mathlib.Data.List.Sigma

/-!
# What a deployment leaves on Azure

After a deployment that ends well, Azure has the machine with its interfaces,
the first of them primary, and the public addresses of the interfaces that asked
for one.  The first noted private address is that of the first interface.
-/

namespace AzureShell

open Prog SecurityGroupService NameProviderService

/-! ## Stored resources -/

/-- Azure has this interface under its name. -/
def HasInterface (nic : NetworkInterface) (azure : Azure) : Prop :=
  Store.lookup NetworkInterface.name nic.name azure.networkInterfaces = some nic

/-- Azure has this machine under its name. -/
def HasMachine (vm : VirtualMachine) (azure : Azure) : Prop :=
  Store.lookup VirtualMachine.name vm.name azure.virtualMachines = some vm

/-- Azure has the public address of a name, with the address it gives to it. -/
def HasPublicIp (name : Text) (azure : Azure) : Prop :=
  Store.lookup PublicIpAddress.name name azure.publicIpAddresses =
    some ⟨name, azure.publicIp name⟩

section Stored

variable {planned : Resource → Prop} {sent : Request} {azure : Azure}

theorem HasInterface.handle {nic : NetworkInterface} (has : HasInterface nic azure)
    (builds : Builds planned sent) (other : ¬ planned (.networkInterface nic.name)) :
    HasInterface nic (Azure.handle false sent azure).2 := by
  cases sent with
  | putNetworkInterface parameters =>
      have different : nic.name ≠ (azure.newInterface parameters).name := by
        intro same
        exact other (same ▸ builds.creates _ rfl)
      exact (Store.lookup_upsert_of_ne different _).trans has
  | putSecurityRule nsg rule =>
      simp only [Azure.handle]
      split <;> exact has
  | checkoutFromPool poolId reservationId ownerId subnetRange =>
      simp only [Azure.handle]
      split <;> exact has
  | putSubnet group network subnet =>
      rcases Azure.handle_putSubnet false group network subnet azure with ⟨changed, same⟩
      rw [same]
      exact has
  | deleteNetworkInterface name => cases builds.deletes
  | deleteResourceGroup name => cases builds.deletes
  | _ => exact has

theorem HasMachine.handle {vm : VirtualMachine} (has : HasMachine vm azure)
    (builds : Builds planned sent) (other : ¬ planned (.virtualMachine vm.name)) :
    HasMachine vm (Azure.handle false sent azure).2 := by
  cases sent with
  | putVirtualMachine machine =>
      have different : vm.name ≠ machine.name := by
        intro same
        exact other (same ▸ builds.creates _ rfl)
      exact (Store.lookup_upsert_of_ne different _).trans has
  | putSecurityRule nsg rule =>
      simp only [Azure.handle]
      split <;> exact has
  | checkoutFromPool poolId reservationId ownerId subnetRange =>
      simp only [Azure.handle]
      split <;> exact has
  | putSubnet group network subnet =>
      rcases Azure.handle_putSubnet false group network subnet azure with ⟨changed, same⟩
      rw [same]
      exact has
  | deleteVirtualMachine name => cases builds.deletes
  | deleteResourceGroup name => cases builds.deletes
  | _ => exact has

/-- Creating a public address again gives it the same address. -/
theorem HasPublicIp.handle {name : Text} (has : HasPublicIp name azure)
    (builds : Builds planned sent) : HasPublicIp name (Azure.handle false sent azure).2 := by
  cases sent with
  | putPublicIpAddress other =>
      by_cases same : name = other
      · subst same
        exact Store.lookup_upsert_self (⟨name, azure.publicIp name⟩ : PublicIpAddress) _
      · exact (Store.lookup_upsert_of_ne same _).trans has
  | putSecurityRule nsg rule =>
      simp only [Azure.handle]
      split <;> exact has
  | checkoutFromPool poolId reservationId ownerId subnetRange =>
      simp only [Azure.handle]
      split <;> exact has
  | putSubnet group network subnet =>
      rcases Azure.handle_putSubnet false group network subnet azure with ⟨changed, same⟩
      rw [same]
      exact has
  | deletePublicIpAddress name => cases builds.deletes
  | deleteResourceGroup name => cases builds.deletes
  | _ => exact has

variable {α : Type} {program : Shell α} {state finished : FaultyAzure}
  {outcome : Except PyException α}

theorem HasInterface.run {nic : NetworkInterface} (has : HasInterface nic state.2)
    (builds : BuildsOnly planned program) (other : ¬ planned (.networkInterface nic.name))
    (ran : run services program state = (outcome, finished)) : HasInterface nic finished.2 := by
  have kept := builds.run_preserves (HasInterface nic)
    (fun sent azure isBuilds before => before.handle isBuilds other) has
  rwa [ran] at kept

theorem HasMachine.run {vm : VirtualMachine} (has : HasMachine vm state.2)
    (builds : BuildsOnly planned program) (other : ¬ planned (.virtualMachine vm.name))
    (ran : run services program state = (outcome, finished)) : HasMachine vm finished.2 := by
  have kept := builds.run_preserves (HasMachine vm)
    (fun sent azure isBuilds before => before.handle isBuilds other) has
  rwa [ran] at kept

theorem HasPublicIp.run {name : Text} (has : HasPublicIp name state.2)
    (builds : BuildsOnly planned program)
    (ran : run services program state = (outcome, finished)) : HasPublicIp name finished.2 := by
  have kept := builds.run_preserves (HasPublicIp name)
    (fun sent azure isBuilds before => before.handle isBuilds) has
  rwa [ran] at kept

end Stored

/-! ## Noted addresses -/

namespace DeployAzureVMOperation

/-- The request notes no private address. -/
def Silent (sent : Request) : Prop :=
  privateIpNotes sent = none

theorem silent_send {sent : Request} (silent : privateIpNotes sent = none) :
    Within Silent (send sent) :=
  within_perform silent

/-- The addresses that a program notes in a run. -/
abbrev notedIps {α : Type} (program : Shell α) (state : FaultyAzure) : List Text :=
  noted privateIpNotes services program state

theorem notedIps_of_silent {α : Type} {program : Shell α} (silent : Within Silent program)
    (state : FaultyAzure) : notedIps program state = [] :=
  noted_of_noteless silent state

end DeployAzureVMOperation

/-! ## New interfaces -/

namespace NetworkService

variable {interfaceName ipName reservationId publicIpType : Text} {subnet : Subnet}
  {publicIpAddress : Option PublicIpAddress} {method : IPAllocationMethod}
  {cloudProviderModel : AzureCloudProviderResourceModel} {addPublicIp : Bool}
  {nic : NetworkInterface} {state after : FaultyAzure}

/-- The interface is the one Azure has under the name, with the given reference to
a public address. -/
structure Stores (interfaceName : Text) (reference : Option Text) (nic : NetworkInterface)
    (azure : Azure) : Prop where
  named : nic.name = interfaceName
  has : HasInterface nic azure
  refers : ∃ ipConfiguration, nic.firstIpConfiguration = .ok ipConfiguration ∧
    ipConfiguration.publicIpAddressId = reference

theorem createNic_stores
    (success : run services (createNic interfaceName reservationId publicIpAddress subnet method)
      state = (.ok nic, after)) :
    Stores interfaceName (publicIpAddress.map PublicIpAddress.name) nic after.2 := by
  rcases run_retry_eq_ok success with ⟨_, success⟩
  rcases run_retry_eq_ok success with ⟨_, success⟩
  rcases run_bind_eq_ok success with ⟨privateIpAddress, start, _, success⟩
  have answered := run_services_of_ok success
  have isNew := Except.ok.inj (congrArg Prod.fst answered)
  have isAfter := congrArg Prod.snd answered
  rw [← isNew, ← isAfter]
  constructor
  · rfl
  · exact Store.lookup_upsert_self _ _
  · exact ⟨_, rfl, rfl⟩

/-- A public address that was created is there. -/
theorem publicIpFor_has
    (success : run services (publicIpFor true ipName publicIpType) state =
      (.ok publicIpAddress, after)) :
    publicIpAddress.map PublicIpAddress.name = some ipName ∧ HasPublicIp ipName after.2 := by
  rcases run_bind_eq_ok success with ⟨created, _, success, isCreated⟩
  cases isCreated
  rcases run_retry_eq_ok success with ⟨_, success⟩
  rcases run_bind_eq_ok success with ⟨_, start, _, success⟩
  have answered := run_services_of_ok success
  have isNew := Except.ok.inj (congrArg Prod.fst answered)
  have isAfter := congrArg Prod.snd answered
  rw [← isNew, ← isAfter]
  constructor
  · rfl
  · exact Store.lookup_upsert_self (⟨ipName, start.2.publicIp ipName⟩ : PublicIpAddress) _

/-- The interface a machine gets refers to a public address if it asks for one. -/
theorem createNetworkForVm_stores
    (success : run services (createNetworkForVm interfaceName ipName reservationId
      cloudProviderModel subnet addPublicIp publicIpType) state = (.ok nic, after)) :
    Stores interfaceName (if addPublicIp then some ipName else none) nic after.2 ∧
      (addPublicIp = true → HasPublicIp ipName after.2) := by
  rcases run_bind_eq_ok success with ⟨publicIpAddress, between, created, nicRun⟩
  have stores := createNic_stores nicRun
  have nicBuilds : BuildsOnly (fun _ => True) (createNic interfaceName reservationId
      publicIpAddress subnet (toAzureType cloudProviderModel.privateIpAllocationMethod)) := by
    apply Within.retry
    apply Within.retry
    apply Within.bind
    · unfold privateIpFor
      split
      · exact Within.bind (BuildsOnly.read rfl rfl) fun _ => trivial
      · trivial
    · intro privateIpAddress
      exact BuildsOnly.write rfl trivial rfl
  cases addPublicIp with
  | false =>
      cases created
      exact ⟨stores, fun asked => by cases asked⟩
  | true =>
      rcases publicIpFor_has created with ⟨isNamed, has⟩
      rw [isNamed] at stores
      exact ⟨stores, fun _ => has.run nicBuilds nicRun⟩

/-- The address of a public address that is there. -/
theorem address_of_getPublicIp {ip : PublicIpAddress} (has : HasPublicIp ipName state.2)
    (success : run services (getPublicIp ipName) state = (.ok ip, after)) :
    ip.ipAddress = state.2.publicIp ipName := by
  let stillHas : FaultyAzure → Prop := fun later =>
    HasPublicIp ipName later.2 ∧ later.2.publicIp = state.2.publicIp
  have kept : ∀ later, stillHas later →
      stillHas (run services (send (.getPublicIpAddress ipName)) later).2 := by
    intro later still
    have reads : BuildsOnly (fun _ => False) (send (.getPublicIpAddress ipName)) :=
      BuildsOnly.read rfl rfl
    exact ⟨still.1.run reads rfl, (sameAddresses_run _ later).publicIp.trans still.2⟩
  obtain ⟨start, ⟨there, same⟩, success⟩ :=
    run_retry_eq_ok_of_preserved kept ⟨has, rfl⟩ success
  have answered := congrArg Prod.fst (run_services_of_ok success)
  simp only [Azure.handle, Azure.find] at answered
  rw [there] at answered
  cases answered
  exact congrFun same ipName

end NetworkService

namespace DeployAzureVMOperation

variable {request : DeployRequest} {data : DeployDataModel} {entries : List RuleData}
  {state finished : FaultyAzure}

/-! ## Names of interfaces -/

/-- The interfaces of a deployment have different names. -/
theorem nodup_nicRequestsFor (request : DeployRequest) (vmName : Text) (subnets : List Subnet) :
    (((nicRequestsFor request vmName subnets).filterMap id).map NicRequest.interfaceName).Nodup := by
  unfold nicRequestsFor
  dsimp only
  split
  · cases subnets.find? fun subnet => request.reservationId <:+: subnet.name <;> simp
  · apply List.pairwise_map.mpr
    apply List.pairwise_filterMap.mpr
    apply List.pairwise_filterMap.mpr
    -- the indices of the configurations keep the names apart
    refine List.Pairwise.imp ?_ (List.pairwise_map.mp (List.nodup_zipIdx_map_snd _))
    rintro ⟨params, i⟩ ⟨otherParams, j⟩ different nicRequest found other otherFound
    rcases Option.map_eq_some_iff.mp found with ⟨subnet, _, rfl⟩
    rcases Option.map_eq_some_iff.mp otherFound with ⟨otherSubnet, _, rfl⟩
    rintro _ ⟨⟩ _ ⟨⟩ sameName
    apply different
    have sameIndex := (List.cons.inj (List.append_cancel_left sameName)).2
    exact Text.ofNat_injective sameIndex

/-- The name of an interface is that of its machine with an index. -/
theorem interfaceName_of_requested {azure : Azure} {nicRequest : NicRequest}
    (member : nicRequest ∈ requestedInterfaces request azure) :
    ∃ vmName i, prepareVmName request = .ok vmName ∧
      nicRequest.interfaceName = vmName ++ '-' :: Text.ofNat i := by
  unfold requestedInterfaces at member
  split at member
  · rename_i vmName network named _
    rcases List.mem_filterMap.mp member with ⟨_, requested, rfl⟩
    unfold nicRequestsFor at requested
    dsimp only at requested
    split at requested
    · obtain ⟨subnet, _, isRequest⟩ :=
        Option.map_eq_some_iff.mp (List.mem_singleton.mp requested).symm
      exact ⟨vmName, 0, named, congrArg NicRequest.interfaceName isRequest.symm⟩
    · rcases List.mem_filterMap.mp requested with ⟨⟨params, i⟩, _, found⟩
      rcases Option.map_eq_some_iff.mp found with ⟨subnet, _, isRequest⟩
      cases isRequest
      exact ⟨vmName, i, named, rfl⟩
  · cases member

/-- Names of interfaces are not empty and contain no slash. -/
theorem slash_not_mem_interfaceName {azure : Azure} {nicRequest : NicRequest}
    (member : nicRequest ∈ requestedInterfaces request azure) :
    nicRequest.interfaceName ≠ [] ∧ '/' ∉ nicRequest.interfaceName := by
  rcases interfaceName_of_requested member with ⟨vmName, i, named, isName⟩
  rw [isName]
  constructor
  · simp
  · simp only [List.mem_append, List.mem_cons, not_or]
    exact ⟨(prepareVmName_isGenerated named).not_mem (by decide), by decide,
      Text.not_mem_ofNat (by decide)⟩

/-! ## Silent parts -/

theorem checkIfCancelled_silent : Within Silent CommandCancellationService.checkIfCancelled := by
  apply Within.bind (silent_send rfl)
  intro isCancelled
  split <;> trivial

theorem createNetworkSecurityGroupRules_silent {nsg destinationAddr sourceAddress : Text}
    {inboundRules : List InboundRule} {lock : LockName} {startFrom : Option Int} :
    Within Silent (createNetworkSecurityGroupRules nsg inboundRules destinationAddr lock
      startFrom sourceAddress) := by
  apply Within.mono (createNetworkSecurityGroupRules_within lock startFrom)
  rintro sent (rfl | ⟨ruleData, _, priority, rfl⟩) <;> rfl

/-- What a block does for a machine without interfaces notes nothing. -/
theorem silent_of_blockSends {sent : Request}
    (sends : BlockSends { data with nicRequests := [] } sent) : Silent sent := by
  cases sends with
  | recordPrivateIp nicRequest member address => cases member
  | _ => rfl

theorem createVmNetworkSecurityGroup_silent :
    Within Silent (createVmNetworkSecurityGroup request.cloudProviderModel data
      request.deploymentModel) := by
  have sends : Within (BlockSends { data with nicRequests := [] })
      (createVmNetworkSecurityGroup request.cloudProviderModel { data with nicRequests := [] }
        request.deploymentModel) := createVmNetworkSecurityGroup_sends
  exact sends.mono fun _ => silent_of_blockSends

theorem createVmAction_silent (nics : List NetworkInterface) :
    Within Silent (createVmAction request data nics) := by
  have sends : Within (BlockSends { data with nicRequests := [] })
      (createVmAction request { data with nicRequests := [] } nics) := createVmAction_sends nics
  exact sends.mono fun _ => silent_of_blockSends

theorem extension_silent :
    Within Silent ((do
      createVmCustomScriptExtension request data
      pure none : Shell (Option Text)).catching scriptTimeout) := by
  have sends : Within (BlockSends { data with nicRequests := [] })
      (createVmCustomScriptExtension request { data with nicRequests := [] }) :=
    createVmCustomScriptExtension_sends
  apply Within.catching
  · exact Within.bind (sends.mono fun _ => silent_of_blockSends) fun _ => trivial
  · intro e
    unfold scriptTimeout
    split <;> trivial

theorem createNetworkForVm_silent {interfaceName ipName reservationId publicIpType : Text}
    {cloudProviderModel : AzureCloudProviderResourceModel} {subnet : Subnet} {addPublicIp : Bool} :
    Within Silent (NetworkService.createNetworkForVm interfaceName ipName reservationId
      cloudProviderModel subnet addPublicIp publicIpType) := by
  apply Within.bind
  · unfold NetworkService.publicIpFor
    split
    · apply Within.bind
      · apply Within.retry
        apply Within.bind (within_ofExcept _)
        intro _
        exact silent_send rfl
      · intro publicIpAddress
        trivial
    · trivial
  intro publicIpAddress
  apply Within.retry
  apply Within.retry
  apply Within.bind
  · unfold NetworkService.privateIpFor
    split
    · exact Within.bind (silent_send rfl) fun _ => trivial
    · trivial
  intro privateIpAddress
  exact silent_send rfl

/-! ## The interfaces of the machine -/

/-- Whether the interface of a request gets a public address. -/
def addsPublicIp (request : DeployRequest) (nicRequest : NicRequest) : Bool :=
  request.deploymentModel.addPublicIp && nicRequest.isPublic

/-- The reference of the interface to its public address. -/
def publicIpReference (request : DeployRequest) (nicRequest : NicRequest) : Option Text :=
  if addsPublicIp request nicRequest then some (getIpFromInterfaceName nicRequest.interfaceName)
  else none

/-- The interface of a request, with its public address. -/
structure HasNetwork (request : DeployRequest) (nicRequest : NicRequest) (nic : NetworkInterface)
    (azure : Azure) : Prop where
  stores : NetworkService.Stores nicRequest.interfaceName (publicIpReference request nicRequest)
    nic azure
  publicIp : addsPublicIp request nicRequest = true →
    HasPublicIp (getIpFromInterfaceName nicRequest.interfaceName) azure

theorem HasNetwork.run {α : Type} {program : Shell α} {planned : Resource → Prop}
    {outcome : Except PyException α} {nicRequest : NicRequest} {nic : NetworkInterface}
    (has : HasNetwork request nicRequest nic state.2) (builds : BuildsOnly planned program)
    (other : ¬ planned (.networkInterface nicRequest.interfaceName))
    (ran : run services program state = (outcome, finished)) :
    HasNetwork request nicRequest nic finished.2 where
  stores :=
    { named := has.stores.named
      has := has.stores.has.run builds (has.stores.named ▸ other) ran
      refers := has.stores.refers }
  publicIp := fun adds => (has.publicIp adds).run builds ran

/-- An interface that was created is there, and its address was noted. -/
theorem createNetwork_leaves {nicRequest : NicRequest} {nic : NetworkInterface}
    (success : run services (createNetwork request data entries (some nicRequest)) state =
      (.ok nic, finished)) :
    HasNetwork request nicRequest nic finished.2 ∧
      ∃ address, HasAddress nic address ∧
        notedIps (createNetwork request data entries (some nicRequest)) state = [address] := by
  rw [createNetwork, nicRequestOf, run_ofExcept_bind_of_ok rfl] at success
  rcases run_bind_eq_ok success with ⟨created, between, networkRun, success⟩
  rcases NetworkService.createNetworkForVm_stores networkRun with ⟨stores, publicIp⟩
  have has : HasNetwork request nicRequest created between.2 := ⟨stores, publicIp⟩
  rcases run_bind_eq_ok success with ⟨ipConfiguration, _, isFirst, success⟩
  cases congrArg Prod.snd isFirst
  rcases run_bind_eq_ok success with ⟨_, recorded, record, success⟩
  rcases run_bind_eq_ok success with ⟨_, written, rules, success⟩
  cases success
  have none_planned : ¬ PlansWith { data with nicRequests := [] } entries
      (.networkInterface nicRequest.interfaceName) := by
    rintro ⟨_, none, _⟩
    cases none
  have reads : BuildsOnly (fun _ => False)
      (send (.recordPrivateIp ipConfiguration.privateIpAddress)) := BuildsOnly.read rfl rfl
  have builds : BuildsOnly (PlansWith { data with nicRequests := [] } entries) _ :=
    createInboundRules_builds ipConfiguration.privateIpAddress
  constructor
  · exact (has.run reads id record).run builds none_planned rules
  · refine ⟨ipConfiguration.privateIpAddress, ⟨ipConfiguration, congrArg Prod.fst isFirst, rfl⟩, ?_⟩
    have requested : run services (Prog.ofExcept (.ok nicRequest)) state =
        (.ok nicRequest, state) := rfl
    rw [notedIps, createNetwork, nicRequestOf,
      noted_bind_of_noteless (within_ofExcept _) requested,
      noted_bind_of_noteless createNetworkForVm_silent networkRun,
      noted_bind_of_noteless (within_ofExcept _) isFirst, noted_bind_of_noteless_rest]
    · rfl
    · intro _
      exact createNetworkSecurityGroupRules_silent.bind fun _ => trivial

/-- The later interfaces leave those before them. -/
theorem createNetworks_builds (wanted : List (Option NicRequest)) :
    BuildsOnly (PlansWith { data with nicRequests := wanted } entries)
      (collect wanted (createNetwork request data entries)) := by
  apply Within.collect
  intro nicRequest member
  have builds : BuildsOnly (PlansWith { data with nicRequests := wanted } entries)
      (createNetwork request { data with nicRequests := wanted } entries nicRequest) :=
    createNetwork_builds member
  exact builds

/-- After the loop every interface is there. -/
theorem createNetworks_has {wanted : List (Option NicRequest)} {nics : List NetworkInterface}
    (distinct : ((wanted.filterMap id).map NicRequest.interfaceName).Nodup)
    (success : run services (collect wanted (createNetwork request data entries)) state =
      (.ok nics, finished)) :
    ∃ nicRequests : List NicRequest, wanted = nicRequests.map some ∧
      List.Forall₂ (fun nicRequest nic => HasNetwork request nicRequest nic finished.2)
        nicRequests nics := by
  induction wanted generalizing nics state with
  | nil =>
      cases success
      exact ⟨[], rfl, List.Forall₂.nil⟩
  | cons nicRequest rest ih =>
      rcases run_bind_eq_ok success with ⟨nic, between, first, success⟩
      rcases run_bind_eq_ok success with ⟨later, left, others, success⟩
      cases success
      cases nicRequest with
      | none => cases first
      | some nicRequest =>
          rcases List.nodup_cons.mp distinct with ⟨different, restDistinct⟩
          rcases ih restDistinct others with ⟨nicRequests, rfl, hasRest⟩
          have notPlanned : ¬ PlansWith { data with nicRequests := nicRequests.map some } entries
              (.networkInterface nicRequest.interfaceName) := by
            rintro ⟨other, member, sameName⟩
            apply different
            rw [sameName]
            exact List.mem_map_of_mem (List.mem_filterMap.mpr ⟨some other, member, rfl⟩)
          have has := (createNetwork_leaves first).1.run (createNetworks_builds _) notPlanned others
          exact ⟨nicRequest :: nicRequests, rfl, List.Forall₂.cons has hasRest⟩

/-- The noted addresses are those of the interfaces, in their order. -/
theorem createNetworks_notes {wanted : List (Option NicRequest)} {nics : List NetworkInterface}
    (success : run services (collect wanted (createNetwork request data entries)) state =
      (.ok nics, finished)) :
    List.Forall₂ HasAddress nics
      (notedIps (collect wanted (createNetwork request data entries)) state) := by
  induction wanted generalizing nics state with
  | nil =>
      cases success
      exact List.Forall₂.nil
  | cons nicRequest rest ih =>
      rcases run_bind_eq_ok success with ⟨nic, between, first, success⟩
      rcases run_bind_eq_ok success with ⟨later, left, others, success⟩
      cases success
      cases nicRequest with
      | none => cases first
      | some nicRequest =>
          rcases (createNetwork_leaves first).2 with ⟨address, isFirst, isNoted⟩
          have noted : notedIps (collect (some nicRequest :: rest)
              (createNetwork request data entries)) state =
                address :: notedIps (collect rest (createNetwork request data entries)) between := by
            rw [notedIps] at isNoted ⊢
            rw [collect, noted_bind_of_ok first, isNoted, noted_bind_of_noteless_rest]
            · rfl
            · exact fun _ => trivial
          rw [noted]
          exact List.Forall₂.cons isFirst (ih others)

/-! ## The whole deployment -/

/-- What a deployment leaves of its interfaces and of its machine. -/
structure HasNetworks (request : DeployRequest) (nicRequests : List NicRequest)
    (nics : List NetworkInterface) (address : Text) (azure : Azure) : Prop where
  networks : List.Forall₂ (fun nicRequest nic => HasNetwork request nicRequest nic azure)
    nicRequests nics
  primary : ∃ nic ∈ nics.head?, ∃ ipConfiguration, nic.firstIpConfiguration = .ok ipConfiguration ∧
    ipConfiguration.privateIpAddress = address

/-- What creates no interface leaves them. -/
theorem HasNetworks.run {α : Type} {program : Shell α} {planned : Resource → Prop}
    {outcome : Except PyException α} {nicRequests : List NicRequest} {nics : List NetworkInterface}
    {address : Text} (has : HasNetworks request nicRequests nics address state.2)
    (builds : BuildsOnly planned program) (other : ∀ name, ¬ planned (.networkInterface name))
    (ran : run services program state = (outcome, finished)) :
    HasNetworks request nicRequests nics address finished.2 where
  networks := has.networks.imp fun _ _ network => network.run builds (other _) ran
  primary := has.primary

theorem createVmCommonObjects_has {nics : List NetworkInterface}
    (distinct : ((data.nicRequests.filterMap id).map NicRequest.interfaceName).Nodup)
    (some_nics : nics ≠ [])
    (success : run services (createVmCommonObjects request data) state = (.ok nics, finished)) :
    HasNetworks request (data.nicRequests.filterMap id) nics
      ((notedIps (createVmCommonObjects request data) state).headD []) finished.2 := by
  rcases run_bind_eq_ok success with ⟨_, grouped, group, success⟩
  rcases run_bind_eq_ok success with ⟨inboundRules, _, parsed, success⟩
  cases congrArg Prod.snd parsed
  rcases run_bind_eq_ok success with ⟨_, locked, lock, success⟩
  rcases run_bind_eq_ok success with ⟨created, between, loop, success⟩
  have rest : BuildsOnly (fun _ => False) (do
      VMCredentialsService.prepareCredentials request.createVmAction.osType
        request.deploymentModel.password
      CommandCancellationService.checkIfCancelled
      pure created) := by
    apply Within.bind
    · apply Within.when
      intro _
      exact Within.retry (BuildsOnly.read rfl rfl) 4
    · intro _
      exact BuildsOnly.checkIfCancelled.bind fun _ => trivial
  have sameNics : created = nics := by
    rcases run_bind_eq_ok success with ⟨_, _, _, ending⟩
    rcases run_bind_eq_ok ending with ⟨_, _, _, ending⟩
    exact Except.ok.inj (congrArg Prod.fst ending)
  subst sameNics
  rcases createNetworks_has distinct loop with ⟨nicRequests, isWanted, networks⟩
  rcases List.exists_cons_of_ne_nil some_nics with ⟨nic, others, rfl⟩
  have requested : data.nicRequests.filterMap id = nicRequests := by
    simp [isWanted, List.filterMap_map]
  have noted : notedIps (createVmCommonObjects request data) state =
      notedIps (collect data.nicRequests (createNetwork request data inboundRules)) locked := by
    rw [notedIps, createVmCommonObjects,
      noted_bind_of_noteless createVmNetworkSecurityGroup_silent group,
      noted_bind_of_noteless (within_ofExcept _) parsed,
      noted_bind_of_noteless (silent_send rfl) lock, noted_bind_of_noteless_rest]
    intro created
    apply Within.bind
    · apply Within.when
      intro _
      exact Within.retry (silent_send rfl) 4
    · intro _
      exact checkIfCancelled_silent.bind fun _ => trivial
  have addresses := createNetworks_notes loop
  rw [← noted] at addresses
  cases isNoted : notedIps (createVmCommonObjects request data) state with
  | nil =>
      rw [isNoted] at addresses
      cases addresses
  | cons address later =>
      rw [isNoted] at addresses
      cases addresses with
      | cons isFirst _ =>
      have has : HasNetworks request nicRequests (nic :: others) address between.2 :=
        ⟨networks, nic, rfl, isFirst⟩
      rw [requested]
      exact has.run rest (fun _ => id) success

theorem createVm_has {vm created : VirtualMachine}
    (success : run services (VirtualMachineService.createVm vm) state = (.ok created, finished)) :
    HasMachine vm finished.2 := by
  rcases run_retry_eq_ok success with ⟨_, success⟩
  rcases run_retry_eq_ok success with ⟨start, success⟩
  rcases run_bind_eq_ok success with ⟨_, put, answered, success⟩
  have has : HasMachine vm put.2 := by
    rw [← congrArg Prod.snd (run_services_of_ok answered)]
    exact Store.lookup_upsert_self vm _
  have waiting : BuildsOnly (fun _ => False)
      (TaskWaiterService.waitForTask >>= fun _ => (pure vm : Shell VirtualMachine)) :=
    TaskWaiterService.waitForTask_builds.bind fun _ => trivial
  exact has.run waiting id success

/-- The machine has the interfaces it was created with, of which there is one. -/
theorem createVmAction_has {nics : List NetworkInterface} {created : VirtualMachine}
    (success : run services (createVmAction request data nics) state = (.ok created, finished)) :
    nics ≠ [] ∧
      HasMachine (VirtualMachineService.requestedMachine data.vmName nics) finished.2 := by
  have nonempty : ∀ {start between : FaultyAzure},
      run services (ofExcept (VirtualMachineService.primaryInterface nics)) start =
        (.ok (), between) → nics ≠ [] := by
    rintro start between isPrimary rfl
    cases isPrimary
  unfold createVmAction at success
  split at success
  · rcases run_bind_eq_ok success with ⟨_, _, isPrimary, success⟩
    rcases run_bind_eq_ok success with ⟨_, _, _, success⟩
    exact ⟨nonempty isPrimary, createVm_has success⟩
  · rcases run_bind_eq_ok success with ⟨_, _, _, success⟩
    rcases run_bind_eq_ok success with ⟨_, _, isPrimary, success⟩
    rcases run_bind_eq_ok success with ⟨_, _, _, success⟩
    rcases run_bind_eq_ok success with ⟨_, _, _, success⟩
    exact ⟨nonempty isPrimary, createVm_has success⟩

/-- What follows the interfaces in a block notes nothing. -/
theorem blockRest_silent (nics : List NetworkInterface) :
    Within Silent (do
      let vm ← (createVmAction request data nics).catching fun e =>
        raise (expandCloudErrorMessage request.deploymentModel.diskType e)
      CommandCancellationService.checkIfCancelled
      let timeout ← (do
        createVmCustomScriptExtension request data
        pure none).catching scriptTimeout
      pure (vm, timeout)) := by
  apply Within.bind
  · exact (createVmAction_silent nics).catching fun _ => within_raise _
  intro vm
  apply Within.bind checkIfCancelled_silent
  intro _
  exact extension_silent.bind fun _ => trivial

theorem tryBlock_has {block : VirtualMachine × Option Text}
    (distinct : ((data.nicRequests.filterMap id).map NicRequest.interfaceName).Nodup)
    (success : run services (tryBlock request data) state = (.ok block, finished)) :
    ∃ nics common, run services (createVmCommonObjects request data) state = (.ok nics, common) ∧
      HasNetworks request (data.nicRequests.filterMap id) nics
        ((allPrivateIps request data state).headD []) finished.2 ∧
      HasMachine (VirtualMachineService.requestedMachine data.vmName nics) finished.2 := by
  rcases run_bind_eq_ok success with ⟨nics, common, commonRun, success⟩
  rcases run_bind_eq_ok success with ⟨vm, withVm, caught, success⟩
  have action : run services (createVmAction request data nics) common = (.ok vm, withVm) := by
    rw [run_catching] at caught
    split at caught
    · rename_i actionRun
      rw [actionRun, caught]
    · cases caught
  rcases createVmAction_has action with ⟨some_nics, hasMachine⟩
  have hasNetworks := createVmCommonObjects_has distinct some_nics commonRun
  let machine : Resource → Prop := fun resource => resource = .virtualMachine data.vmName
  have isPlanned : machine (.virtualMachine data.vmName) := rfl
  have builds : BuildsOnly machine (createVmAction request data nics) :=
    createVmAction_builds isPlanned nics
  have withMachine := hasNetworks.run builds (fun _ isMachine => by cases isMachine) action
  have rest : BuildsOnly (fun _ => False) (do
      CommandCancellationService.checkIfCancelled
      let timeout ← (do
        createVmCustomScriptExtension request data
        pure none).catching scriptTimeout
      pure (vm, timeout)) :=
    BuildsOnly.checkIfCancelled.bind fun _ => extension_builds.bind fun _ => trivial
  have noted : allPrivateIps request data state =
      notedIps (createVmCommonObjects request data) state :=
    noted_bind_of_noteless_rest blockRest_silent state
  rw [noted]
  exact ⟨nics, common, commonRun, withMachine.run rest (fun _ => id) success,
    hasMachine.run rest id success⟩

/-- The public address of the first public request. -/
theorem address_of_deployedPublicIp {address : Option Text} {nicRequest : NicRequest}
    (addPublicIp : request.deploymentModel.addPublicIp = true)
    (first : (data.nicRequests.filterMap id).find? NicRequest.isPublic = some nicRequest)
    (has : HasPublicIp (getIpFromInterfaceName nicRequest.interfaceName) state.2)
    (success : run services (deployedPublicIp request data) state = (.ok address, finished)) :
    address = state.2.publicIp (getIpFromInterfaceName nicRequest.interfaceName) := by
  rw [deployedPublicIp, first] at success
  change run services (getPublicIpAddress request _) state = _ at success
  rw [getPublicIpAddress, if_pos addPublicIp] at success
  rcases run_bind_eq_ok success with ⟨publicIp, _, got, success⟩
  rcases run_bind_eq_ok success with ⟨_, _, _, success⟩
  cases success
  exact NetworkService.address_of_getPublicIp has got

/-- What a deployment that ends well leaves on Azure, and what it returns. -/
structure Deployed (request : DeployRequest) (nicRequests : List NicRequest)
    (nics : List NetworkInterface) (result : DeployAppResult) (azure : Azure) : Prop where
  networks : HasNetworks request nicRequests nics result.deployedAppAddress azure
  machine : HasMachine (VirtualMachineService.requestedMachine result.vmName nics) azure
  publicIp : request.deploymentModel.addPublicIp = true →
    ∀ nicRequest, nicRequests.find? NicRequest.isPublic = some nicRequest →
      result.publicIpAddress = azure.publicIp (getIpFromInterfaceName nicRequest.interfaceName)

theorem HasNetworks.hasPublicIp {nicRequests : List NicRequest} {nics : List NetworkInterface}
    {address : Text} {azure : Azure} (has : HasNetworks request nicRequests nics address azure)
    {nicRequest : NicRequest} (member : nicRequest ∈ nicRequests)
    (adds : addsPublicIp request nicRequest = true) :
    HasPublicIp (getIpFromInterfaceName nicRequest.interfaceName) azure := by
  have networks := has.networks
  clear has
  induction networks with
  | nil => cases member
  | cons network _ ih =>
      rcases List.mem_cons.mp member with rfl | later
      · exact network.publicIp adds
      · exact ih later

/-- The code after the block finds what the block left. -/
theorem afterBlock_deployed {block : VirtualMachine × Option Text} {result : DeployAppResult}
    {nics : List NetworkInterface} {privateIps : List Text}
    (has : HasNetworks request (data.nicRequests.filterMap id) nics (privateIps.headD []) state.2)
    (machine : HasMachine (VirtualMachineService.requestedMachine data.vmName nics) state.2)
    (success : run services (afterBlock request data privateIps block) state =
      (.ok result, finished)) :
    Deployed request (data.nicRequests.filterMap id) nics result finished.2 := by
  have reads : BuildsOnly (fun _ => False) (afterBlock request data privateIps block) :=
    afterBlock_builds privateIps block
  have finalNetworks := has.run reads (fun _ => id) success
  have finalMachine := machine.run reads id success
  have sameFinal := sameAddresses_run (afterBlock request data privateIps block) state
  rw [success] at sameFinal
  rcases run_bind_eq_ok success with ⟨_, told, message, success⟩
  have messageReads : BuildsOnly (fun _ => False)
      (when (block.2.isSome = true) <| send (.external .reservationOutput)) :=
    Within.when fun _ => BuildsOnly.read rfl rfl
  have hasTold := has.run messageReads (fun _ => id) message
  have sameTold := sameAddresses_run
    (when (block.2.isSome = true) <| send (.external .reservationOutput)) state
  rw [message] at sameTold
  rcases run_bind_eq_ok success with ⟨publicIpAddress, looked, publicIpRun, success⟩
  rcases run_bind_eq_ok success with ⟨vmNetworkData, read, networkRun, success⟩
  cases success
  constructor
  · exact finalNetworks
  · exact finalMachine
  · intro addPublicIp nicRequest isFirst
    have adds : addsPublicIp request nicRequest = true := by
      rw [addsPublicIp, addPublicIp, List.find?_some isFirst, Bool.and_self]
    have found := address_of_deployedPublicIp addPublicIp isFirst
      (hasTold.hasPublicIp (List.mem_of_find?_eq_some isFirst) adds) publicIpRun
    rw [found, sameTold.publicIp, sameFinal.publicIp]

/-- A deployment that ends well leaves what it was asked for. -/
theorem deployVmGeneric_deployed {result : DeployAppResult}
    (success : run services (deployVmGeneric request) state = (.ok result, finished)) :
    ∃ nics, Deployed request (requestedInterfaces request state.2) nics result finished.2 := by
  obtain ⟨data, prepared, block, left, preparedRun, blockRun, success⟩ :=
    phases_of_deployVmGeneric success
  have found := preparation_found preparedRun
  have distinct : ((data.nicRequests.filterMap id).map NicRequest.interfaceName).Nodup := by
    rcases found.nicRequests with ⟨network, _, requested⟩
    rw [requested]
    exact nodup_nicRequestsFor request data.vmName network.subnets
  rcases tryBlock_has distinct blockRun with ⟨nics, _, _, hasNetworks, hasMachine⟩
  rw [found.requestedInterfaces_eq]
  exact ⟨nics, afterBlock_deployed hasNetworks hasMachine success⟩

end DeployAzureVMOperation

end AzureShell
