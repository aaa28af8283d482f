import AzureShell.Deploy.PoolRelease
import AzureShell.Lifecycle.Disks

/-!
# From a deployment to the deletion of its machine

A deployment that ends well has created its machine with its disk, the interfaces
of its requests, public addresses for those that get one, the machine's security
group, and inbound rules that carry the machine's name.  All of it is found again
from the machine: the deletion reads the disk and the interfaces from the machine
and the public addresses from the interfaces, and looks for the name among the
rules.  So the deletion leaves the resource group as it was before the
deployment.  The rollback of a deployment does so too, but for the disk of a
machine that was created.
-/

namespace AzureShell

open Prog SecurityGroupService

namespace DeployAzureVMOperation

variable {request : DeployRequest} {data : DeployDataModel} {state deployed : FaultyAzure}
  {result : DeployAppResult}

/-! ## What a deployment creates -/

/-- The resources a deployment creates.  An interface that gets no public address
has none created for it. -/
def Creates (request : DeployRequest) (data : DeployDataModel) (resource : Resource) : Prop :=
  match resource with
  | .publicIpAddress name => ∃ nicRequest, some nicRequest ∈ data.nicRequests ∧
      addsPublicIp request nicRequest = true ∧
        name = getIpFromInterfaceName nicRequest.interfaceName
  | resource => Plans data resource

/-- What is planned without public addresses is created. -/
theorem creates_of_plansWith {rules : List RuleData} (noBlank : ' ' ∉ data.vmName)
    {resource : Resource} (plansWith : PlansWith { data with nicRequests := [] } rules resource) :
    Creates request data resource := by
  have plans : Plans { data with nicRequests := [] } resource := by
    apply plans_of_plansWith _ plansWith
    exact noBlank
  cases resource with
  | publicIpAddress name =>
      rcases plans with ⟨_, member, _⟩
      cases member
  | networkInterface name =>
      rcases plans with ⟨_, member, _⟩
      cases member
  | _ => exact plans

theorem createNetworkForVm_creates {own : Resource → Prop}
    {interfaceName ipName reservationId publicIpType : Text}
    {cloudProviderModel : AzureCloudProviderResourceModel} {subnet : Subnet} {addPublicIp : Bool}
    (isInterface : own (.networkInterface interfaceName))
    (isAddress : addPublicIp = true → own (.publicIpAddress ipName)) :
    BuildsOnly own (NetworkService.createNetworkForVm interfaceName ipName reservationId
      cloudProviderModel subnet addPublicIp publicIpType) := by
  apply Within.bind
  · unfold NetworkService.publicIpFor
    split
    · rename_i adds
      apply Within.bind
      · apply Within.retry
        apply Within.bind (within_ofExcept _)
        intro _
        exact BuildsOnly.write rfl (isAddress adds) rfl
      · intro publicIpAddress
        trivial
    · trivial
  intro publicIpAddress
  apply Within.retry
  apply Within.retry
  apply Within.bind
  · unfold NetworkService.privateIpFor
    split
    · exact Within.bind (BuildsOnly.read rfl rfl) fun _ => trivial
    · trivial
  intro privateIpAddress
  exact BuildsOnly.write rfl isInterface rfl

theorem createNetwork_creates {inboundRules : List RuleData} (noBlank : ' ' ∉ data.vmName)
    {nicRequest : Option NicRequest} (member : nicRequest ∈ data.nicRequests) :
    BuildsOnly (Creates request data) (createNetwork request data inboundRules nicRequest) := by
  cases nicRequest with
  | none => trivial
  | some nicRequest =>
      have isInterface : Creates request data (.networkInterface nicRequest.interfaceName) :=
        ⟨nicRequest, member, rfl⟩
      apply (createNetworkForVm_creates isInterface fun adds => ⟨nicRequest, member, adds, rfl⟩).bind
      intro nic
      apply Within.bind (within_ofExcept _)
      intro ipConfiguration
      apply Within.bind (BuildsOnly.read rfl rfl)
      intro _
      apply Within.bind
      · exact (createInboundRules_builds _).mono fun _ isBuilds =>
          Builds.mono isBuilds fun _ => creates_of_plansWith noBlank
      · intro _
        trivial

theorem createVmCommonObjects_creates (noBlank : ' ' ∉ data.vmName) :
    BuildsOnly (Creates request data) (createVmCommonObjects request data) := by
  have group : BuildsOnly (PlansWith { data with nicRequests := [] } [])
      (createVmNetworkSecurityGroup request.cloudProviderModel { data with nicRequests := [] }
        request.deploymentModel) := createVmNetworkSecurityGroup_builds
  apply Within.bind
  · exact Within.mono group fun _ isBuilds =>
      Builds.mono isBuilds fun _ => creates_of_plansWith noBlank
  intro _
  apply Within.bind (within_ofExcept _)
  intro inboundRules
  apply Within.bind (BuildsOnly.read rfl rfl)
  intro _
  apply Within.bind
  · exact Within.collect fun nicRequest member => createNetwork_creates noBlank member
  intro nics
  apply Within.bind
  · apply Within.when
    intro _
    exact Within.retry (BuildsOnly.read rfl rfl) 4
  intro _
  exact BuildsOnly.checkIfCancelled.bind fun _ => trivial

theorem tryBlock_creates (noBlank : ' ' ∉ data.vmName) :
    BuildsOnly (Creates request data) (tryBlock request data) := by
  apply Within.bind (createVmCommonObjects_creates noBlank)
  intro nics
  have isPlanned : Creates request data (.virtualMachine data.vmName) := rfl
  apply Within.bind
  · apply Within.catching (createVmAction_builds isPlanned nics)
    intro e
    trivial
  intro vm
  apply Within.bind BuildsOnly.checkIfCancelled
  intro _
  exact extension_builds.bind fun _ => trivial

theorem actsWithin_of_creates {α : Type} {program : Shell α} {own : Resource → Prop}
    (included : ∀ resource, Creates request data resource → own resource)
    (builds : BuildsOnly (Creates request data) program) : Within (ActsWithin own) program :=
  builds.mono fun _ isBuilds => ActsWithin.of_builds (Builds.mono isBuilds included)

/-- A block leaves everything but what it creates, whether it raises or not. -/
theorem rest_tryBlock {prepared left : FaultyAzure}
    {outcome : Except PyException (VirtualMachine × Option Text)} {own : Resource → Prop}
    (preparedRun : run services (preparation request) state = (.ok data, prepared))
    (blockRun : run services (tryBlock request data) prepared = (outcome, left))
    (included : ∀ resource, Creates request data resource → own resource) :
    left.2.stock.rest own = state.2.stock.rest own := by
  have noBlank := (preparation_prepared preparedRun).noBlank
  have before : (run services (preparation request) state).2.2.stock.rest own =
      state.2.stock.rest own := rest_run (actsWithin_of_creates included preparation_builds) state
  have inBlock := rest_run (actsWithin_of_creates included (tryBlock_creates noBlank)) prepared
  rw [preparedRun] at before
  rw [blockRun] at inBlock
  exact inBlock.trans before

/-- A deployment leaves everything but what it creates. -/
theorem rest_deployVmGeneric
    (success : run services (deployVmGeneric request) state = (.ok result, deployed)) :
    ∃ data, Found request state.2 data ∧ data.vmName = result.vmName ∧
      ∀ own : Resource → Prop, (∀ resource, Creates request data resource → own resource) →
        deployed.2.stock.rest own = state.2.stock.rest own := by
  obtain ⟨data, prepared, block, left, preparedRun, blockRun, success⟩ :=
    phases_of_deployVmGeneric success
  refine ⟨data, preparation_found preparedRun, (vmName_of_afterBlock success).symm, ?_⟩
  intro own included
  let privateIps := allPrivateIps request data prepared
  have creates : BuildsOnly (Creates request data) (afterBlock request data privateIps block) :=
    afterBlock_builds privateIps block
  have afterwards := rest_run (actsWithin_of_creates included creates) left
  rw [success] at afterwards
  exact afterwards.trans (rest_tryBlock preparedRun blockRun included)

/-! ## What the deletion finds -/

section Found

variable {azure : Azure}

theorem mem_requestedInterfaces (found : Found request azure data) {nicRequest : NicRequest}
    (member : some nicRequest ∈ data.nicRequests) :
    nicRequest ∈ requestedInterfaces request azure := by
  rw [found.requestedInterfaces_eq]
  exact List.mem_filterMap.mpr ⟨_, member, rfl⟩

theorem prefix_interfaceName (found : Found request azure data) {nicRequest : NicRequest}
    (requested : nicRequest ∈ requestedInterfaces request azure) :
    data.vmName <+: nicRequest.interfaceName := by
  rcases interfaceName_of_requested requested with ⟨vmName, i, named, isName⟩
  cases found.named.symm.trans named
  rw [isName]
  exact List.prefix_append _ _

/-- Everything a deployment plans mentions the name of its machine. -/
theorem mentions_of_plans (found : Found request azure data) {resource : Resource}
    (plans : Plans data resource) : DeleteAzureVMOperation.Mentions data.vmName resource := by
  have interfaceName : ∀ nicRequest, some nicRequest ∈ data.nicRequests →
      data.vmName <+: nicRequest.interfaceName :=
    fun nicRequest member => prefix_interfaceName found (mem_requestedInterfaces found member)
  cases resource with
  | virtualMachine name =>
      subst plans
      exact List.infix_refl _
  | networkInterface name =>
      rcases plans with ⟨nicRequest, member, rfl⟩
      exact (interfaceName nicRequest member).isInfix
  | publicIpAddress name =>
      rcases plans with ⟨nicRequest, member, rfl⟩
      exact ((interfaceName nicRequest member).trans (List.prefix_append _ _)).isInfix
  | networkSecurityGroup name =>
      subst plans
      exact (List.suffix_append _ _).isInfix
  | securityRule nsg name =>
      rcases plans with rfl | ⟨_, carries⟩
      · exact Or.inl (List.suffix_append _ _).isInfix
      · exact Or.inr carries

theorem plans_of_creates {resource : Resource} (creates : Creates request data resource) :
    Plans data resource := by
  cases resource with
  | publicIpAddress name =>
      rcases creates with ⟨nicRequest, member, _, isName⟩
      exact ⟨nicRequest, member, isName⟩
  | _ => exact creates

/-- What exists and did not exist before was created. -/
theorem creates_of_exists {before : Azure}
    (same : azure.stock.rest (Creates request data) = before.stock.rest (Creates request data))
    {resource : Resource} (isNew : ¬ before.Exists resource) (present : azure.Exists resource) :
    Creates request data resource := by
  have closed : ∀ nsg rule, Creates request data (.networkSecurityGroup nsg) →
      Creates request data (.securityRule nsg rule) := fun nsg rule isGroup => Or.inl isGroup
  by_contra notCreated
  exact isNew (exists_of_rest_eq same closed notCreated present)

/-- The names of an interface and of its public address are the last parts of
their ids. -/
theorem lastOfId_networkInterfaceId {nic : NetworkInterface} (noSlash : '/' ∉ nic.name) :
    AzureResourceIdParser.lastOfId (VirtualMachineService.networkInterfaceId nic) = nic.name :=
  Text.lastPart_append_cons "/networkInterfaces".toList noSlash

theorem slash_not_mem_getIpFromInterfaceName {interfaceName : Text} (noSlash : '/' ∉ interfaceName) :
    '/' ∉ getIpFromInterfaceName interfaceName := by
  rw [getIpFromInterfaceName, List.mem_append, not_or]
  exact ⟨noSlash, by decide⟩

theorem publicIpNameOf_of_hasNetwork {nicRequest : NicRequest} {nic : NetworkInterface}
    (has : HasNetwork request nicRequest nic azure) (noSlash : '/' ∉ nicRequest.interfaceName) :
    DeleteAzureVMOperation.publicIpNameOf nic = publicIpReference request nicRequest := by
  rcases has.stores.refers with ⟨ipConfiguration, isFirst, refers⟩
  have isHead : nic.ipConfigurations.head? = some ipConfiguration := by
    rw [NetworkInterface.firstIpConfiguration] at isFirst
    split at isFirst
    · cases isFirst
    · rename_i configurations
      cases isFirst
      rw [configurations]
      rfl
  rw [DeleteAzureVMOperation.publicIpNameOf, isHead, Option.bind_some, refers, publicIpReference]
  split
  · rw [Option.map_some, AzureResourceIdParser.lastOfId,
      Text.lastPart_of_not_mem (slash_not_mem_getIpFromInterfaceName noSlash)]
  · rfl

/-- The interfaces with a first configuration each have their static addresses
collected. -/
theorem exists_staticPrivateIps {nics : List NetworkInterface}
    (configured : ∀ nic ∈ nics, ∃ ipConfiguration, nic.firstIpConfiguration = .ok ipConfiguration) :
    ∃ privateIps, DeleteAzureVMOperation.staticPrivateIps nics = .ok privateIps := by
  induction nics with
  | nil => exact ⟨[], rfl⟩
  | cons nic rest ih =>
      rcases configured nic List.mem_cons_self with ⟨ipConfiguration, isFirst⟩
      rcases ih fun other member => configured other (List.mem_cons_of_mem nic member) with
        ⟨privateIps, collected⟩
      rw [DeleteAzureVMOperation.staticPrivateIps, isFirst, collected]
      exact ⟨_, rfl⟩

end Found

theorem map_id_networkInterfaceReferences (nics : List NetworkInterface) :
    (VirtualMachineService.networkInterfaceReferences nics).map NetworkInterfaceReference.id =
      nics.map VirtualMachineService.networkInterfaceId := by
  cases nics with
  | nil => rfl
  | cons first rest =>
      simp [VirtualMachineService.networkInterfaceReferences, Function.comp_def]

/-! ## A deployed machine -/

section Deployed

variable {nics : List NetworkInterface} {azure start : Azure} {privateIps : List Text}

theorem lookup_of_deployed
    (isDeployed : Deployed request (requestedInterfaces request start) nics result azure)
    {nic : NetworkInterface} (member : nic ∈ nics) :
    AzureResourceIdParser.lastOfId (VirtualMachineService.networkInterfaceId nic) = nic.name ∧
      HasInterface nic azure := by
  rcases exists_related isDeployed.networks.networks member with ⟨nicRequest, requested, has⟩
  have noSlash := (slash_not_mem_interfaceName requested).2
  rw [← has.stores.named] at noSlash
  exact ⟨lastOfId_networkInterfaceId noSlash, has.stores.has⟩

/-- The machine and the interfaces of a deployment are in place. -/
theorem inPlace_of_deployed
    (isDeployed : Deployed request (requestedInterfaces request start) nics result azure) :
    DeleteAzureVMOperation.InPlace result.vmName
      (VirtualMachineService.requestedMachine result.vmName nics) nics azure where
  machine := isDeployed.machine
  interfaces := by
    have found : List.Forall₂ (fun id nic => Store.lookup NetworkInterface.name
        (AzureResourceIdParser.lastOfId id) azure.networkInterfaces = some nic)
        (nics.map VirtualMachineService.networkInterfaceId) nics := by
      apply List.forall₂_map_left_iff.mpr
      apply List.forall₂_same.mpr
      intro nic member
      rcases lookup_of_deployed isDeployed member with ⟨isName, has⟩
      rw [isName]
      exact has
    rw [← map_id_networkInterfaceReferences] at found
    exact List.forall₂_map_left_iff.mp found

theorem mem_interfaceNames
    (isDeployed : Deployed request (requestedInterfaces request start) nics result azure)
    {nic : NetworkInterface} (member : nic ∈ nics) :
    nic.name ∈ (DeleteAzureVMOperation.machineDataOf
      (VirtualMachineService.requestedMachine result.vmName nics) nics privateIps).interfaceNames := by
  have listed : nic.name ∈ ((VirtualMachineService.networkInterfaceReferences nics).map
      NetworkInterfaceReference.id).map AzureResourceIdParser.lastOfId := by
    rw [map_id_networkInterfaceReferences, List.map_map]
    exact List.mem_map.mpr ⟨nic, member, (lookup_of_deployed isDeployed member).1⟩
  rwa [List.map_map] at listed

/-- What the deployment created is a target of the deletion; the rules of the
machine's own group go with the group. -/
theorem target_of_creates (found : Found request start data) (isMachine : data.vmName = result.vmName)
    (isDeployed : Deployed request (requestedInterfaces request start) nics result azure)
    {resource : Resource} (creates : Creates request data resource) :
    DeleteAzureVMOperation.Targets result.vmName (DeleteAzureVMOperation.machineDataOf
        (VirtualMachineService.requestedMachine result.vmName nics) nics privateIps) resource ∨
      ∃ rule, resource = .securityRule (vmNsgName result.vmName) rule := by
  have requested : ∀ nicRequest, some nicRequest ∈ data.nicRequests →
      ∃ nic ∈ nics, HasNetwork request nicRequest nic azure := by
    intro nicRequest member
    apply exists_related isDeployed.networks.networks.flip
    rw [found.requestedInterfaces_eq]
    exact List.mem_filterMap.mpr ⟨_, member, rfl⟩
  have noSlash : ∀ nicRequest, some nicRequest ∈ data.nicRequests →
      '/' ∉ nicRequest.interfaceName :=
    fun nicRequest member => (slash_not_mem_interfaceName (mem_requestedInterfaces found member)).2
  cases resource with
  | virtualMachine name => exact Or.inl (Or.inl (congrArg _ (creates.trans isMachine)))
  | networkInterface name =>
      rcases creates with ⟨nicRequest, member, rfl⟩
      rcases requested nicRequest member with ⟨nic, nicMem, has⟩
      refine Or.inl (Or.inr (Or.inl ⟨nic.name, mem_interfaceNames isDeployed nicMem, ?_⟩))
      rw [has.stores.named]
  | publicIpAddress name =>
      rcases creates with ⟨nicRequest, member, adds, rfl⟩
      rcases requested nicRequest member with ⟨nic, nicMem, has⟩
      have isName := publicIpNameOf_of_hasNetwork has (noSlash nicRequest member)
      rw [publicIpReference, if_pos adds] at isName
      exact Or.inl (Or.inr (Or.inr (Or.inl ⟨_, List.mem_filterMap.mpr ⟨nic, nicMem, isName⟩, rfl⟩)))
  | networkSecurityGroup name =>
      have isGroup : name = vmNsgName result.vmName := isMachine ▸ creates
      subst isGroup
      exact Or.inl (Or.inr (Or.inr (Or.inr (List.suffix_append _ _).isInfix)))
  | securityRule nsg name =>
      rcases creates with isOwn | ⟨isSubnets, carries⟩
      · rw [isMachine] at isOwn
        exact Or.inr ⟨name, congrArg (Resource.securityRule · name) isOwn⟩
      · rw [isMachine] at carries
        refine Or.inl (Or.inr (Or.inr (Or.inr ⟨?_, carries⟩)))
        rw [isSubnets]
        exact (List.prefix_append _ _).isInfix

/-- The names that the deletion reads mention the machine's name. -/
theorem mentioned_names (found : Found request start data) (isMachine : data.vmName = result.vmName)
    (isDeployed : Deployed request (requestedInterfaces request start) nics result azure) :
    (∀ name ∈ (DeleteAzureVMOperation.machineDataOf
        (VirtualMachineService.requestedMachine result.vmName nics) nics privateIps).interfaceNames,
      result.vmName <:+: name) ∧
    ∀ name ∈ (DeleteAzureVMOperation.machineDataOf
        (VirtualMachineService.requestedMachine result.vmName nics) nics privateIps).publicIpNames,
      result.vmName <:+: name := by
  have carries : ∀ nic ∈ nics, ∃ nicRequest ∈ requestedInterfaces request start,
      HasNetwork request nicRequest nic azure ∧ result.vmName <+: nicRequest.interfaceName := by
    intro nic member
    rcases exists_related isDeployed.networks.networks member with ⟨nicRequest, requested, has⟩
    exact ⟨nicRequest, requested, has, isMachine ▸ prefix_interfaceName found requested⟩
  constructor
  · intro name member
    have listed : name ∈ ((VirtualMachineService.networkInterfaceReferences nics).map
        NetworkInterfaceReference.id).map AzureResourceIdParser.lastOfId := by
      rw [List.map_map]
      exact member
    rw [map_id_networkInterfaceReferences, List.map_map] at listed
    rcases List.mem_map.mp listed with ⟨nic, nicMem, rfl⟩
    rcases carries nic nicMem with ⟨nicRequest, _, has, isPrefix⟩
    rw [Function.comp_apply, (lookup_of_deployed isDeployed nicMem).1, has.stores.named]
    exact isPrefix.isInfix
  · intro name member
    rcases List.mem_filterMap.mp member with ⟨nic, nicMem, isName⟩
    rcases carries nic nicMem with ⟨nicRequest, requested, has, isPrefix⟩
    have noSlash := (slash_not_mem_interfaceName requested).2
    rw [publicIpNameOf_of_hasNetwork has noSlash, publicIpReference] at isName
    split at isName
    · cases isName
      exact (isPrefix.trans (List.prefix_append _ _)).isInfix
    · cases isName

end Deployed

/-! ## The round trip -/

/-- No resource mentions the machine's name, and no disk is called like the
machine's. -/
structure IsUnused (vmName : Text) (azure : Azure) : Prop where
  resources : ∀ resource, DeleteAzureVMOperation.Mentions vmName resource →
    ¬ azure.Exists resource
  disk : newDisk vmName ∉ azure.disks

/-- A deployment whose machine's name is new, followed by the deletion of the
machine, leaves the resource group as it was, its disks included, whichever calls
of the deployment failed on the way. -/
theorem deleteAzureVm_undoes_deployVmGeneric
    (unused : IsUnused result.vmName state.2)
    (success : run services (deployVmGeneric request) state = (.ok result, deployed))
    (harmless : Harmless deployed.1) :
    ∃ after, run services (DeleteAzureVMOperation.deleteAzureVm request.reservationId result.vmName)
        deployed = (.ok (), after) ∧ after.2.resourceGroup = state.2.resourceGroup := by
  rcases rest_deployVmGeneric success with ⟨data, found, isMachine, deployRest⟩
  rcases deployVmGeneric_deployed success with ⟨nics, isDeployed⟩
  obtain ⟨privateIps, collected⟩ : ∃ privateIps,
      DeleteAzureVMOperation.staticPrivateIps nics = .ok privateIps := by
    apply exists_staticPrivateIps
    intro nic member
    rcases exists_related isDeployed.networks.networks member with ⟨_, _, has⟩
    rcases has.stores.refers with ⟨ipConfiguration, isFirst, _⟩
    exact ⟨ipConfiguration, isFirst⟩
  obtain ⟨after, deletion, foundRun, cleared, shrinks⟩ :=
    DeleteAzureVMOperation.run_deleteAzureVm_of_inPlace request.reservationId
      (inPlace_of_deployed isDeployed) collected rfl
  have mentions : ∀ resource, Creates request data resource →
      DeleteAzureVMOperation.Mentions result.vmName resource := by
    intro resource creates
    rw [← isMachine]
    exact mentions_of_plans found (plans_of_creates creates)
  -- whatever mentions the name was created, and what was created is gone
  have absent : ∀ resource, DeleteAzureVMOperation.Mentions result.vmName resource →
      ¬ after.Exists resource := by
    intro resource carries remains
    have created : Creates request data resource :=
      creates_of_exists (deployRest _ fun _ creates => creates) (unused.resources resource carries)
        (shrinks resource remains)
    rcases target_of_creates found isMachine isDeployed created with isTarget | ⟨rule, rfl⟩
    · exact cleared resource isTarget remains
    · rcases remains with ⟨group, member, named, _⟩
      have isGroup : result.vmName <:+: vmNsgName result.vmName :=
        (List.suffix_append _ _).isInfix
      exact cleared (.networkSecurityGroup (vmNsgName result.vmName))
        (Or.inr (Or.inr (Or.inr isGroup))) ⟨group, member, named⟩
  let vm := VirtualMachineService.requestedMachine result.vmName nics
  let machineData := DeleteAzureVMOperation.machineDataOf vm nics privateIps
  have acts : Within (ActsWithin (DeleteAzureVMOperation.Mentions result.vmName))
      (DeleteAzureVMOperation.deleteFound request.reservationId result.vmName machineData
        (some vm)) := by
    rcases mentioned_names found isMachine isDeployed with ⟨interfaces, addresses⟩
    exact DeleteAzureVMOperation.deleteFound_actsWithin _ _ interfaces addresses
  have deleteRest := rest_run acts deployed
  obtain ⟨_, _, deleteFoundRun⟩ := run_services_of_harmless
    (DeleteAzureVMOperation.deleteFound request.reservationId result.vmName machineData (some vm))
    harmless
  rw [deleteFoundRun, foundRun] at deleteRest
  obtain ⟨left, _, deleteRun⟩ := run_services_of_harmless
    (DeleteAzureVMOperation.deleteAzureVm request.reservationId result.vmName) harmless
  rw [deletion] at deleteRun
  have sameStock : after.stock = state.2.stock := calc
    after.stock = after.stock.rest (DeleteAzureVMOperation.Mentions result.vmName) :=
      (rest_eq_stock absent).symm
    _ = deployed.2.stock.rest (DeleteAzureVMOperation.Mentions result.vmName) := deleteRest
    _ = state.2.stock.rest (DeleteAzureVMOperation.Mentions result.vmName) :=
      deployRest _ mentions
    _ = state.2.stock := rest_eq_stock unused.resources
  have noMachine : ¬ state.2.Exists (.virtualMachine result.vmName) :=
    unused.resources _ (List.infix_refl _)
  have isDisk : vm.managedDisk = some (newDisk result.vmName) := rfl
  have sameDisks : after.disks = state.2.disks := calc
    after.disks = deployed.2.disks.filter (· ≠ newDisk result.vmName) :=
      DeleteAzureVMOperation.disks_deleteFound isDisk foundRun
    _ = (newDisk result.vmName :: state.2.disks).filter (· ≠ newDisk result.vmName) := by
      rw [disks_deployVmGeneric success noMachine, List.insert_of_not_mem unused.disk]
    _ = state.2.disks := by
      rw [List.filter_cons_of_neg (by simp), List.filter_eq_self]
      intro disk member
      exact decide_eq_true fun same => unused.disk (same ▸ member)
  exact ⟨(left, after), deleteRun, ResourceGroup.ext sameStock sameDisks⟩

/-- The prepared sandbox, with a connection that breaks once. -/
def brokenSandbox (cancellations : List Bool) : FaultyAzure :=
  ([.raisesBefore (.clientRequestError "Connection aborted.".toList)],
    (webSandbox cancellations).2)

theorem brokenSandbox_unused (cancellations : List Bool) (resource : Resource)
    (mentions : DeleteAzureVMOperation.Mentions "web-0a1b2c3d".toList resource) :
    ¬ (brokenSandbox cancellations).2.Exists resource := by
  intro present
  cases resource with
  | virtualMachine name =>
      rcases present with ⟨_, member, _⟩
      cases member
  | networkInterface name =>
      rcases present with ⟨_, member, _⟩
      cases member
  | publicIpAddress name =>
      rcases present with ⟨_, member, _⟩
      cases member
  | networkSecurityGroup name =>
      rcases present with ⟨group, member, rfl⟩
      cases List.mem_singleton.mp member
      have inName : "web-0a1b2c3d".toList <:+: getSubnetsNsgName "r1".toList := mentions
      revert inName
      decide
  | securityRule nsg name =>
      rcases present with ⟨group, member, _, rule, inGroup, _⟩
      cases List.mem_singleton.mp member
      cases inGroup

/-- A deployment that repeats its first call, and its deletion. -/
theorem deleteAzureVm_undoes_deployVmGeneric_example :
    ∃ result deployed after,
      run services (deployVmGeneric webRequest) (brokenSandbox []) = (.ok result, deployed) ∧
        run services (DeleteAzureVMOperation.deleteAzureVm "r1".toList result.vmName) deployed =
          (.ok (), after) ∧ after.2.resourceGroup = (brokenSandbox []).2.resourceGroup := by
  have isOk : (run services (deployVmGeneric webRequest) (brokenSandbox [])).1.toOption.isSome =
      true := by decide
  have named : (run services (deployVmGeneric webRequest) (brokenSandbox [])).1.map
      DeployAppResult.vmName = .ok "web-0a1b2c3d".toList := by decide
  have noFates : (run services (deployVmGeneric webRequest) (brokenSandbox [])).2.1 = [] := by decide
  rcases exists_run_eq_ok isOk with ⟨result, success⟩
  rw [success] at named
  have isName : result.vmName = "web-0a1b2c3d".toList := Except.ok.inj named
  have harmless : Harmless (run services (deployVmGeneric webRequest) (brokenSandbox [])).2.1 := by
    rw [noFates]
    exact fun fate member => by cases member
  have unused : IsUnused result.vmName (brokenSandbox []).2 := by
    rw [isName]
    exact ⟨brokenSandbox_unused [], by decide⟩
  rcases deleteAzureVm_undoes_deployVmGeneric unused success harmless with
    ⟨after, deletion, restored⟩
  exact ⟨result, _, after, success, deletion, restored⟩

/-! ## Rollbacks -/

theorem rollback_actsWithin (found : Found request state.2 data) (privateIps : List Text) :
    Within (ActsWithin (DeleteAzureVMOperation.Mentions data.vmName))
      (rollbackDeployedResources request data privateIps) := by
  apply (rollbackDeployedResources_sends privateIps).mono
  intro sent sends
  cases sends with
  | deletion deletes =>
      cases deletes with
      | deleteVirtualMachine =>
          exact DeleteAzureVMOperation.actsWithin_remove rfl rfl (List.infix_refl _) nofun
      | deleteNetworkInterface nicRequest member =>
          have isPrefix := prefix_interfaceName found (mem_requestedInterfaces found member)
          exact DeleteAzureVMOperation.actsWithin_remove rfl rfl isPrefix.isInfix nofun
      | deletePublicIpAddress nicRequest member =>
          have isPrefix := prefix_interfaceName found (mem_requestedInterfaces found member)
          have inAddress : data.vmName <+: getIpFromInterfaceName nicRequest.interfaceName :=
            isPrefix.trans (List.prefix_append _ _)
          exact DeleteAzureVMOperation.actsWithin_remove rfl rfl inAddress.isInfix nofun
  | releaseFromPool values isRelease =>
      subst isRelease
      exact DeleteAzureVMOperation.actsWithin_none rfl rfl nofun
  | nsgArtifacts deletes => exact DeleteAzureVMOperation.actsWithin_of_deletesNsgArtifacts deletes

/-- A deployment that raises in its block leaves the resource group as it was,
wherever in the block it raises, if no call of the rollback but the release
fails; only the disk of a machine that was created stays. -/
theorem deployVmGeneric_undone_of_error {prepared raised : FaultyAzure} {e : PyException}
    (preparedRun : run services (preparation request) state = (.ok data, prepared))
    (failed : run services (tryBlock request data) prepared = (.error e, raised))
    (unused : IsUnused data.vmName state.2) (subnetsFound : none ∉ data.nicRequests)
    (calm : CalmOn NoRelease services
      (rollbackDeployedResources request data (allPrivateIps request data prepared)) raised) :
    (run services (deployVmGeneric request) state).2.2.resourceGroup =
      ⟨state.2.stock,
        if raised.2.Exists (.virtualMachine data.vmName) then newDisk data.vmName :: state.2.disks
        else state.2.disks⟩ := by
  have found := preparation_found preparedRun
  obtain ⟨_, rolledBack⟩ := run_deployVmGeneric_of_error preparedRun failed
  let privateIps := allPrivateIps request data prepared
  obtain ⟨after, ran, cleared, shrinks, _⟩ :=
    rollbackDeployedResources_clears request subnetsFound calm
  have rollbackRest := rest_run (rollback_actsWithin found privateIps) raised
  have sparesDisks : Within SparesDisks (rollbackDeployedResources request data privateIps) :=
    rollback_sparesDisks privateIps
  have rollbackDisks := disks_run sparesDisks raised
  rw [rolledBack]
  rw [ran] at rollbackRest rollbackDisks ⊢
  have absent : ∀ resource, DeleteAzureVMOperation.Mentions data.vmName resource →
      ¬ after.2.Exists resource := by
    intro resource carries remains
    have created : Creates request data resource :=
      creates_of_exists (rest_tryBlock preparedRun failed fun _ creates => creates)
        (unused.resources resource carries) (shrinks resource remains)
    exact cleared resource (plans_of_creates created) remains
  have sameStock : after.2.stock = state.2.stock := calc
    after.2.stock = after.2.stock.rest (DeleteAzureVMOperation.Mentions data.vmName) :=
      (rest_eq_stock absent).symm
    _ = raised.2.stock.rest (DeleteAzureVMOperation.Mentions data.vmName) := rollbackRest
    _ = state.2.stock.rest (DeleteAzureVMOperation.Mentions data.vmName) :=
      rest_tryBlock preparedRun failed fun _ creates =>
        mentions_of_plans found (plans_of_creates creates)
    _ = state.2.stock := rest_eq_stock unused.resources
  have noMachine : ¬ state.2.Exists (.virtualMachine data.vmName) :=
    unused.resources _ (List.infix_refl _)
  have inBlock := tryBlock_diskWithMachine preparedRun failed noMachine
  rw [DiskWithMachine, List.insert_of_not_mem unused.disk] at inBlock
  exact ResourceGroup.ext sameStock (rollbackDisks.trans inBlock)

/-- The sandbox in which the deployment is cancelled after its machine was
created, and the states before and after the block. -/
def cancelledSandbox : FaultyAzure :=
  brokenSandbox [false, false, false, true]

def cancelledPrepared : FaultyAzure :=
  (run services (preparation webRequest) cancelledSandbox).2

def cancelledRaised : FaultyAzure :=
  (run services (tryBlock webRequest webData) cancelledPrepared).2

/-- The disk of the machine is left. -/
theorem deployVmGeneric_undone_of_error_example :
    (run services (deployVmGeneric webRequest) cancelledSandbox).1 =
        .error .cancellationException ∧
      (run services (deployVmGeneric webRequest) cancelledSandbox).2.2.resourceGroup =
        ⟨cancelledSandbox.2.stock, [newDisk "web-0a1b2c3d".toList]⟩ := by
  have isPrepared : (run services (preparation webRequest) cancelledSandbox).1 = .ok webData := by
    decide
  have failed : (run services (tryBlock webRequest webData) cancelledPrepared).1 =
      .error .cancellationException := by decide
  have noFates : cancelledRaised.1 = [] := by decide
  have harmless : Harmless cancelledRaised.1 := by
    rw [noFates]
    exact fun fate member => by cases member
  have unused : IsUnused webData.vmName cancelledSandbox.2 :=
    ⟨brokenSandbox_unused _, by decide⟩
  have preparedRun : run services (preparation webRequest) cancelledSandbox =
      (.ok webData, cancelledPrepared) := Prod.ext isPrepared rfl
  have failedRun : run services (tryBlock webRequest webData) cancelledPrepared =
      (.error .cancellationException, cancelledRaised) := Prod.ext failed rfl
  have created : cancelledRaised.2.Exists (.virtualMachine webData.vmName) := by decide
  have undone := deployVmGeneric_undone_of_error preparedRun failedRun unused (by decide)
    (calmOn_of_harmless harmless (rollbackDeployedResources_answers _))
  rw [if_pos created] at undone
  constructor
  · decide
  · exact undone

end DeployAzureVMOperation

end AzureShell
