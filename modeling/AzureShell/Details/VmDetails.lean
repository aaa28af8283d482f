import AzureShell.Deploy.Interfaces
import AzureShell.Prog.Calm

/-!
# The network details of a machine

`_get_vm_network_data` describes every interface of a machine twice: in fields of
the description and in a list of properties.  The description is built before
the public address is looked up, so that its field keeps the empty text while
the property gets the address.
-/

namespace AzureShell

open Prog

/-- `VmDetailsProperty`; the value is missing where Azure reports none. -/
structure VmDetailsProperty where
  key : Text
  value : Option Text
deriving DecidableEq, Repr

/-- `VmDetailsNetworkInterface`. -/
structure VmDetailsNetworkInterface where
  interfaceId : Option Text
  networkId : Text
  isPrimary : Option Bool
  networkData : List VmDetailsProperty
  privateIpAddress : Text
  publicIpAddress : Option Text
deriving DecidableEq, Repr

/-- What Azure reports of its resources besides their addresses. -/
structure AzureReports where
  resourceGuid : NetworkInterface → Option Text
  primary : NetworkInterface → Option Bool
  macAddress : NetworkInterface → Option Text
  publicIpAllocationMethod : PublicIpAddress → Option Text

namespace VmDetailsProvider

def ipKey : Text :=
  "IP".toList

def publicIpKey : Text :=
  "Public IP".toList

def publicIpTypeKey : Text :=
  "Public IP Type".toList

def macAddressKey : Text :=
  "MAC Address".toList

variable (reports : AzureReports)

/-- The properties of the public address, which is looked up under the name that
belongs to the interface. -/
def publicIpData (nicName : Text) : Option Text → Shell (List VmDetailsProperty)
  | none => pure []
  | some _ => do
      let publicIpObject ← NetworkService.getPublicIp (getIpFromInterfaceName nicName)
      pure [⟨publicIpKey, publicIpObject.ipAddress⟩,
        ⟨publicIpTypeKey, reports.publicIpAllocationMethod publicIpObject⟩]

/-- One pass of the loop over the interfaces. -/
def currentInterface (networkInterface : NetworkInterfaceReference) :
    Shell VmDetailsNetworkInterface := do
  let nicName := AzureResourceIdParser.getNameFromResourceId networkInterface.id
  let nic ← send (.getNetworkInterface nicName)
  let ipConfiguration ← ofExcept nic.firstIpConfiguration
  let current : VmDetailsNetworkInterface :=
    { interfaceId := reports.resourceGuid nic
      networkId := Text.lastPart '/' ipConfiguration.subnetId
      isPrimary := reports.primary nic
      networkData := [⟨ipKey, some ipConfiguration.privateIpAddress⟩]
      privateIpAddress := ipConfiguration.privateIpAddress
      publicIpAddress := some [] }
  -- from here on only the list that the description holds is extended
  let publicIp ← publicIpData reports nicName ipConfiguration.publicIpAddressId
  pure { current with
    networkData := current.networkData ++ publicIp ++ [⟨macAddressKey, reports.macAddress nic⟩] }

/-- `_get_vm_network_data`. -/
def getVmNetworkData (instanceVm : VirtualMachine) : Shell (List VmDetailsNetworkInterface) :=
  collect instanceVm.networkInterfaces (currentInterface reports)

/-! ## Machines of the shell -/

/-- Azure has the interface, and if it refers to a public address then the one
named after it. -/
structure IsDeployedNic (nic : NetworkInterface) (azure : Azure) : Prop where
  has : HasInterface nic azure
  first : ∃ ipConfiguration, nic.firstIpConfiguration = .ok ipConfiguration ∧
    (ipConfiguration.publicIpAddressId.isSome = true →
      HasPublicIp (getIpFromInterfaceName nic.name) azure)

/-- The machine refers to interfaces that were deployed, in their order. -/
structure IsDeployed (vm : VirtualMachine) (nics : List NetworkInterface) (azure : Azure) :
    Prop where
  references : List.Forall₂ (fun reference nic =>
    AzureResourceIdParser.getNameFromResourceId reference.id = nic.name) vm.networkInterfaces nics
  deployed : ∀ nic ∈ nics, IsDeployedNic nic azure

/-- Whether the interface refers to a public address. -/
def hasPublicIp (nic : NetworkInterface) : Bool :=
  match nic.firstIpConfiguration with
  | .ok ipConfiguration => ipConfiguration.publicIpAddressId.isSome
  | .error _ => false

theorem references_requestedMachine {nics : List NetworkInterface}
    (names : ∀ nic ∈ nics, nic.name ≠ [] ∧ '/' ∉ nic.name) (vmName : Text) :
    List.Forall₂ (fun reference nic =>
      AzureResourceIdParser.getNameFromResourceId reference.id = nic.name)
      (VirtualMachineService.requestedMachine vmName nics).networkInterfaces nics := by
  have isName : ∀ nic ∈ nics, AzureResourceIdParser.getNameFromResourceId
      (VirtualMachineService.networkInterfaceId nic) = nic.name := fun nic member =>
    AzureResourceIdParser.getNameFromResourceId_append (by decide) (names nic member).1
      (names nic member).2
  cases nics with
  | nil => exact List.Forall₂.nil
  | cons first rest =>
      refine List.Forall₂.cons (isName first List.mem_cons_self) ?_
      rw [List.forall₂_map_left_iff, List.forall₂_same]
      exact fun nic member => isName nic (List.mem_cons_of_mem first member)

/-- A machine that the shell has just deployed. -/
theorem isDeployed_of_deployVmGeneric {request : DeployRequest} {result : DeployAppResult}
    {state finished : FaultyAzure}
    (success : run services (DeployAzureVMOperation.deployVmGeneric request) state =
      (.ok result, finished)) :
    ∃ nics, HasMachine (VirtualMachineService.requestedMachine result.vmName nics) finished.2 ∧
      IsDeployed (VirtualMachineService.requestedMachine result.vmName nics) nics finished.2 := by
  rcases DeployAzureVMOperation.deployVmGeneric_deployed success with ⟨nics, left⟩
  have requestOf : ∀ nic ∈ nics,
      ∃ nicRequest ∈ DeployAzureVMOperation.requestedInterfaces request state.2,
        DeployAzureVMOperation.HasNetwork request nicRequest nic finished.2 :=
    fun nic member => exists_related left.networks.networks member
  refine ⟨nics, left.machine, references_requestedMachine ?_ result.vmName, ?_⟩
  · intro nic member
    rcases requestOf nic member with ⟨nicRequest, requested, network⟩
    rw [network.stores.named]
    exact DeployAzureVMOperation.slash_not_mem_interfaceName requested
  · intro nic member
    rcases requestOf nic member with ⟨nicRequest, requested, network⟩
    rcases network.stores.refers with ⟨ipConfiguration, isFirst, refers⟩
    refine ⟨network.stores.has, ipConfiguration, isFirst, ?_⟩
    intro isPublic
    rw [network.stores.named]
    apply network.publicIp
    rw [refers, DeployAzureVMOperation.publicIpReference] at isPublic
    by_contra adds
    simp [adds] at isPublic

/-! ## What is returned -/

variable {vm : VirtualMachine} {nics : List NetworkInterface} {nic : NetworkInterface}
  {ipConfiguration : IpConfiguration} {azure : Azure}

/-- The public address of an interface as Azure has it. -/
def publicIpObject (nic : NetworkInterface) (azure : Azure) : PublicIpAddress :=
  ⟨getIpFromInterfaceName nic.name, azure.publicIp (getIpFromInterfaceName nic.name)⟩

/-- The properties of the public address of an interface, if it has one. -/
def publicProperties (nic : NetworkInterface) (ipConfiguration : IpConfiguration) (azure : Azure) :
    List VmDetailsProperty :=
  if ipConfiguration.publicIpAddressId.isSome then
    [⟨publicIpKey, (publicIpObject nic azure).ipAddress⟩,
      ⟨publicIpTypeKey, reports.publicIpAllocationMethod (publicIpObject nic azure)⟩]
  else []

/-- The description of an interface. -/
def described (nic : NetworkInterface) (ipConfiguration : IpConfiguration) (azure : Azure) :
    VmDetailsNetworkInterface where
  interfaceId := reports.resourceGuid nic
  networkId := Text.lastPart '/' ipConfiguration.subnetId
  isPrimary := reports.primary nic
  networkData := ⟨ipKey, some ipConfiguration.privateIpAddress⟩ ::
    (publicProperties reports nic ipConfiguration azure ++
      [⟨macAddressKey, reports.macAddress nic⟩])
  privateIpAddress := ipConfiguration.privateIpAddress
  publicIpAddress := some []

theorem run_getPublicIp {name : Text} (has : HasPublicIp name azure) :
    run (Azure.handle false) (NetworkService.getPublicIp name) azure =
      (.ok ⟨name, azure.publicIp name⟩, azure) :=
  run_retry_of_ok (run_getPublicIpAddress has)

theorem run_publicIpData (isFirst : nic.firstIpConfiguration = .ok ipConfiguration)
    (deployed : IsDeployedNic nic azure) :
    run (Azure.handle false) (publicIpData reports nic.name ipConfiguration.publicIpAddressId)
      azure = (.ok (publicProperties reports nic ipConfiguration azure), azure) := by
  rcases deployed.first with ⟨other, alsoFirst, hasIp⟩
  cases isFirst.symm.trans alsoFirst
  cases reference : ipConfiguration.publicIpAddressId with
  | none => simp [publicIpData, publicProperties, reference]
  | some id =>
      have found := run_getPublicIp (hasIp (by simp [reference]))
      rw [publicIpData, run_bind_of_ok found, publicProperties, reference, Option.isSome_some,
        if_pos rfl]
      rfl

theorem run_currentInterface {reference : NetworkInterfaceReference}
    (isName : AzureResourceIdParser.getNameFromResourceId reference.id = nic.name)
    (deployed : IsDeployedNic nic azure)
    (isFirst : nic.firstIpConfiguration = .ok ipConfiguration) :
    run (Azure.handle false) (currentInterface reports reference) azure =
      (.ok (described reports nic ipConfiguration azure), azure) := by
  unfold currentInterface
  rw [isName, run_bind_of_ok (run_getNetworkInterface deployed.has), isFirst,
    run_ofExcept_bind_of_ok rfl,
    run_bind_of_ok (run_publicIpData reports isFirst deployed)]
  rfl

/-- The descriptions are those of the interfaces, in their order. -/
def AreDescribed (nics : List NetworkInterface) (azure : Azure)
    (interfaces : List VmDetailsNetworkInterface) : Prop :=
  List.Forall₂ (fun nic interface => ∃ ipConfiguration,
    nic.firstIpConfiguration = .ok ipConfiguration ∧
      interface = described reports nic ipConfiguration azure) nics interfaces

theorem run_getVmNetworkData (isDeployed : IsDeployed vm nics azure) :
    ∃ interfaces, AreDescribed reports nics azure interfaces ∧
      run (Azure.handle false) (getVmNetworkData reports vm) azure = (.ok interfaces, azure) := by
  rcases isDeployed with ⟨isNamed, deployed⟩
  suffices rounds : ∃ interfaces, AreDescribed reports nics azure interfaces ∧
      List.Forall₂ (fun reference interface =>
        run (Azure.handle false) (currentInterface reports reference) azure =
          (.ok interface, azure)) vm.networkInterfaces interfaces by
    rcases rounds with ⟨interfaces, described, rounds⟩
    exact ⟨interfaces, described, run_collect_of_forall₂ rounds⟩
  generalize vm.networkInterfaces = references at isNamed
  induction isNamed with
  | nil => exact ⟨[], List.Forall₂.nil, List.Forall₂.nil⟩
  | @cons reference nic references nics isName _ ih =>
      rcases ih fun other member => deployed other (List.mem_cons_of_mem nic member) with
        ⟨interfaces, areDescribed, rounds⟩
      have deployedNic := deployed nic List.mem_cons_self
      rcases deployedNic.first with ⟨ipConfiguration, isFirst, _⟩
      exact ⟨described reports nic ipConfiguration azure :: interfaces,
        List.Forall₂.cons ⟨ipConfiguration, isFirst, rfl⟩ areDescribed,
        List.Forall₂.cons (run_currentInterface reports isName deployedNic isFirst) rounds⟩

/-! ## Failing calls -/

theorem getPublicIp_truthful (ipName : Text) :
    Truthful Request.mayFail ServiceError.toException (Azure.handle false)
      (NetworkService.getPublicIp ipName) :=
  (Faithful.retry (faithful_perform fun _ => rfl)).truthful

/-- If calls fail and the descriptions are returned all the same, then they are
those without failing calls. -/
theorem getVmNetworkData_truthful (vm : VirtualMachine) :
    Truthful Request.mayFail ServiceError.toException (Azure.handle false)
      (getVmNetworkData reports vm) := by
  apply Truthful.collect
  intro reference
  apply (truthful_perform _).bind
  intro nic
  apply (truthful_ofExcept _).bind
  intro ipConfiguration
  apply Truthful.bind
  · unfold publicIpData
    split
    · exact truthful_pure _
    · exact (getPublicIp_truthful _).bind fun _ => truthful_pure _
  · intro publicIp
    exact truthful_pure _

/-! ## Agreement of the fields and the properties -/

/-- The value of the first property with a key. -/
def property (interface : VmDetailsNetworkInterface) (key : Text) : Option (Option Text) :=
  (interface.networkData.find? fun data => data.key = key).map VmDetailsProperty.value

/-- The description is that of the interface, and its fields agree with its
properties. -/
structure IsConsistent (nic : NetworkInterface) (interface : VmDetailsNetworkInterface) : Prop where
  interfaceId : interface.interfaceId = reports.resourceGuid nic
  privateIp : property interface ipKey = some (some interface.privateIpAddress)
  publicIp : hasPublicIp nic = true →
    property interface publicIpKey = some interface.publicIpAddress
  noPublicIp : hasPublicIp nic = false → interface.publicIpAddress = some []

/-- The description of a machine is returned when no call fails, and whenever it
is returned it describes each interface consistently. -/
structure IsSelfConsistent (vm : VirtualMachine) (nics : List NetworkInterface) (azure : Azure) :
    Prop where
  returns : ∃ interfaces,
    run (Azure.handle false) (getVmNetworkData reports vm) azure = (.ok interfaces, azure)
  consistent : ∀ fates interfaces after,
    run services (getVmNetworkData reports vm) (fates, azure) = (.ok interfaces, after) →
      List.Forall₂ (IsConsistent reports) nics interfaces

/-- Azure gave every interface with a public address the empty text for it. -/
def HasEmptyPublicIps (nics : List NetworkInterface) (azure : Azure) : Prop :=
  ∀ nic ∈ nics, hasPublicIp nic = true →
    azure.publicIp (getIpFromInterfaceName nic.name) = some []

theorem property_ipKey_described :
    property (described reports nic ipConfiguration azure) ipKey =
      some (some ipConfiguration.privateIpAddress) := by
  simp [property, described]

theorem property_publicIpKey_described
    (isPublic : ipConfiguration.publicIpAddressId.isSome = true) :
    property (described reports nic ipConfiguration azure) publicIpKey =
      some (azure.publicIp (getIpFromInterfaceName nic.name)) := by
  have different : ipKey ≠ publicIpKey := by decide
  simp [property, described, publicProperties, isPublic, different, publicIpObject]

theorem isConsistent_described_iff (isFirst : nic.firstIpConfiguration = .ok ipConfiguration) :
    IsConsistent reports nic (described reports nic ipConfiguration azure) ↔
      (hasPublicIp nic = true → azure.publicIp (getIpFromInterfaceName nic.name) = some []) := by
  have isPublic_iff : hasPublicIp nic = ipConfiguration.publicIpAddressId.isSome := by
    rw [hasPublicIp, isFirst]
  constructor
  · intro consistent isPublic
    have agrees := consistent.publicIp isPublic
    rw [isPublic_iff] at isPublic
    rw [property_publicIpKey_described reports isPublic] at agrees
    exact Option.some.inj agrees
  · intro empty
    refine ⟨rfl, property_ipKey_described reports, fun isPublic => ?_, fun _ => rfl⟩
    have isEmpty := empty isPublic
    rw [isPublic_iff] at isPublic
    rw [property_publicIpKey_described reports isPublic, isEmpty]
    rfl

theorem AreDescribed.forall₂_isConsistent_iff {interfaces : List VmDetailsNetworkInterface}
    (areDescribed : AreDescribed reports nics azure interfaces) :
    List.Forall₂ (IsConsistent reports) nics interfaces ↔ HasEmptyPublicIps nics azure := by
  rw [AreDescribed] at areDescribed
  induction areDescribed with
  | nil => simp [HasEmptyPublicIps]
  | cons isDescribed _ ih =>
      rcases isDescribed with ⟨ipConfiguration, isFirst, rfl⟩
      rw [List.forall₂_cons, isConsistent_described_iff reports isFirst, ih]
      simp [HasEmptyPublicIps]

theorem IsSelfConsistent.hasEmptyPublicIps (isDeployed : IsDeployed vm nics azure)
    (selfConsistent : IsSelfConsistent reports vm nics azure) : HasEmptyPublicIps nics azure := by
  rcases run_getVmNetworkData reports isDeployed with ⟨interfaces, areDescribed, ran⟩
  have harmless : Harmless ([] : List (Fate ServiceError)) := by simp [Harmless]
  obtain ⟨left, _, answered⟩ : ∃ left, Harmless left ∧
      run services (getVmNetworkData reports vm) ([], azure) =
        ((run (Azure.handle false) (getVmNetworkData reports vm) azure).1, left,
          (run (Azure.handle false) (getVmNetworkData reports vm) azure).2) :=
    run_services_of_harmless _ harmless
  rw [ran] at answered
  have consistent := selfConsistent.consistent _ _ _ answered
  exact (areDescribed.forall₂_isConsistent_iff reports).mp consistent

theorem HasEmptyPublicIps.isSelfConsistent (isDeployed : IsDeployed vm nics azure)
    (empty : HasEmptyPublicIps nics azure) : IsSelfConsistent reports vm nics azure := by
  rcases run_getVmNetworkData reports isDeployed with ⟨interfaces, areDescribed, ran⟩
  refine ⟨⟨interfaces, ran⟩, fun fates others after returned => ?_⟩
  have same := getVmNetworkData_truthful reports vm _ _ _ returned
  rw [ran] at same
  cases same
  exact (areDescribed.forall₂_isConsistent_iff reports).mpr empty

/-- The details of a deployed machine are self-consistent if and only if each of
its interfaces with a public address has the empty text for it. -/
theorem getVmNetworkData_isSelfConsistent_iff (isDeployed : IsDeployed vm nics azure) :
    IsSelfConsistent reports vm nics azure ↔ HasEmptyPublicIps nics azure :=
  ⟨fun selfConsistent => selfConsistent.hasEmptyPublicIps reports isDeployed,
    fun empty => empty.isSelfConsistent reports isDeployed⟩

/-- Azure reports nothing else of its resources. -/
def noReports : AzureReports where
  resourceGuid := fun _ => none
  primary := fun _ => none
  macAddress := fun _ => none
  publicIpAllocationMethod := fun _ => none

theorem getVmNetworkData_isSelfConsistent_iff_example :
    ∃ result finished nics, run services (DeployAzureVMOperation.deployVmGeneric
        DeployAzureVMOperation.webRequest) (DeployAzureVMOperation.webSandbox []) =
          (.ok result, finished) ∧
      HasMachine (VirtualMachineService.requestedMachine result.vmName nics) finished.2 ∧
      (IsSelfConsistent noReports (VirtualMachineService.requestedMachine result.vmName nics) nics
        finished.2 ↔ HasEmptyPublicIps nics finished.2) := by
  obtain ⟨result, success⟩ : ∃ result, run services (DeployAzureVMOperation.deployVmGeneric
      DeployAzureVMOperation.webRequest) (DeployAzureVMOperation.webSandbox []) = (.ok result,
        (run services (DeployAzureVMOperation.deployVmGeneric DeployAzureVMOperation.webRequest)
          (DeployAzureVMOperation.webSandbox [])).2) := exists_run_eq_ok (by decide)
  rcases isDeployed_of_deployVmGeneric success with ⟨nics, hasMachine, isDeployed⟩
  exact ⟨result, _, nics, success, hasMachine,
    getVmNetworkData_isSelfConsistent_iff noReports isDeployed⟩

/-- An interface with the public address `52.0.0.1` is described with none. -/
theorem getVmNetworkData_not_isSelfConsistent :
    ¬ ∀ reports vm nics azure, IsDeployed vm nics azure →
      IsSelfConsistent reports vm nics azure := by
  intro allSelfConsistent
  let nic : NetworkInterface := ⟨"web-0".toList,
    [⟨"10.0.0.4".toList, .dynamic, "/subnets/r1".toList, some "web-0_PublicIP".toList⟩]⟩
  let azure : Azure :=
    { Azure.blank with
      networkInterfaces := [nic]
      publicIpAddresses := [⟨"web-0_PublicIP".toList, some "52.0.0.1".toList⟩]
      publicIp := fun _ => some "52.0.0.1".toList }
  have isDeployed : IsDeployed (VirtualMachineService.requestedMachine "web".toList [nic]) [nic]
      azure := by
    refine ⟨references_requestedMachine (by simp [nic]) "web".toList, ?_⟩
    rw [List.forall_mem_singleton]
    exact ⟨rfl, _, rfl, fun _ => rfl⟩
  have selfConsistent := allSelfConsistent noReports _ _ _ isDeployed
  have empty := selfConsistent.hasEmptyPublicIps noReports isDeployed
  have given := empty nic List.mem_cons_self rfl
  cases given

/-! ## The data of a deployment -/

theorem property_publicIpKey_described_of_none
    (isPrivate : ipConfiguration.publicIpAddressId = none) :
    property (described reports nic ipConfiguration azure) publicIpKey = none := by
  have different : ipKey ≠ publicIpKey := by decide
  have alsoDifferent : macAddressKey ≠ publicIpKey := by decide
  simp [property, described, publicProperties, isPrivate, different, alsoDifferent]

/-- A deployment keeps the interfaces and the values of their property for the
public address. -/
theorem run_deploy_getVmNetworkData {interfaces : List VmDetailsNetworkInterface}
    (isDeployed : IsDeployed vm nics azure)
    (areDescribed : AreDescribed reports nics azure interfaces) :
    ∃ data, run (Azure.handle false) (DeployAzureVMOperation.getVmNetworkData vm) azure =
        (.ok data, azure) ∧
      data.map Prod.fst = nics ∧
      data.map Prod.snd =
        interfaces.map fun interface => (property interface publicIpKey).join := by
  rcases isDeployed with ⟨isNamed, deployed⟩
  unfold DeployAzureVMOperation.getVmNetworkData
  generalize vm.networkInterfaces = references at isNamed
  induction isNamed generalizing interfaces with
  | nil =>
      cases areDescribed
      exact ⟨[], rfl, rfl, rfl⟩
  | @cons reference nic references nics isName _ ih =>
      rcases List.forall₂_cons_left_iff.mp areDescribed with
        ⟨_, rest, ⟨ipConfiguration, isFirst, rfl⟩, restDescribed, rfl⟩
      rcases ih restDescribed fun other member =>
        deployed other (List.mem_cons_of_mem nic member) with ⟨data, restRun, nics_eq, ips_eq⟩
      have deployedNic := deployed nic List.mem_cons_self
      rcases deployedNic.first with ⟨other, alsoFirst, hasIp⟩
      cases isFirst.symm.trans alsoFirst
      refine ⟨(nic, (property (described reports nic ipConfiguration azure) publicIpKey).join) ::
        data, ?_, by simp [nics_eq], by simp [ips_eq]⟩
      rw [collect]
      refine (run_bind_of_ok (t := azure) ?_).trans ((run_bind_of_ok restRun).trans rfl)
      dsimp only
      rw [isName, run_bind_of_ok (run_getNetworkInterface deployedNic.has), isFirst,
        run_ofExcept_bind_of_ok rfl]
      cases publicIp : ipConfiguration.publicIpAddressId with
      | none =>
          rw [property_publicIpKey_described_of_none reports publicIp]
          rfl
      | some id =>
          have isPublic : ipConfiguration.publicIpAddressId.isSome = true := by simp [publicIp]
          rw [run_bind_of_ok (run_getPublicIp (hasIp isPublic)),
            property_publicIpKey_described reports isPublic]
          rfl

end VmDetailsProvider

end AzureShell
