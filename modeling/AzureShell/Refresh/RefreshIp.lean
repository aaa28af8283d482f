import AzureShell.Deploy.Interfaces
import AzureShell.Prog.Trace

/-!
# Refreshing the addresses of a resource

`refresh_ip` compares the addresses of the machine's primary interface with
those of the CloudShell resource and updates the resource where they differ.
The primary interface is the first one of the deployment, while the deployment
returns the public address of the first interface on a public subnet.
-/

namespace AzureShell

open Prog NameProviderService

/-- `get_active_vm`. -/
def VirtualMachineService.getActiveVm (vmName : Text) : Shell VirtualMachine := do
  let vm ← VirtualMachineService.getVm vmName
  when (vm.provisioningState ≠ VirtualMachineService.succeededProvisioningState) <|
    raise (.exception "Can't perform action. Azure instance is not in active state".toList)
  pure vm

namespace RefreshIPOperation

/-- The reference to the primary interface, else to the first one. -/
def nicReference (networkInterfaces : List NetworkInterfaceReference) :
    Except PyException NetworkInterfaceReference :=
  match networkInterfaces.find? NetworkInterfaceReference.primary, networkInterfaces with
  | some primaryNicRef, _ => .ok primaryNicRef
  | none, first :: _ => .ok first
  | none, [] => .error (.indexError "list index out of range".toList)

/-- `public_ip_on_azure`, of a reference to a public address. -/
def publicIpOnAzure : Option Text → Shell (Option Text)
  | none => pure (some [])
  | some publicIpReference => do
      let pubIpAddr ← send <| .getPublicIpAddress <|
        AzureResourceIdParser.getNameFromResourceId publicIpReference
      pure pubIpAddr.ipAddress

/-- The public and the private address of the machine on Azure. -/
def addressesOnAzure (vmName : Text) : Shell (Option Text × Text) := do
  let vm ← VirtualMachineService.getActiveVm vmName
  let nicReference ← ofExcept (nicReference vm.networkInterfaces)
  let nic ← send <| .getNetworkInterface <|
    AzureResourceIdParser.getNameFromResourceId nicReference.id
  let vmIpConfiguration ← ofExcept nic.firstIpConfiguration
  let publicIpOnAzure ← publicIpOnAzure vmIpConfiguration.publicIpAddressId
  pure (publicIpOnAzure, vmIpConfiguration.privateIpAddress)

/-- `refresh_ip`. -/
def refreshIp (vmName privateIpOnResource : Text)
    (publicIpOnResourceAttrTuple : Text × Option Text) (resourceFullname : Text) : Shell Unit := do
  let (publicIpOnAzure, privateIpOnAzure) ← addressesOnAzure vmName
  when (publicIpOnAzure ≠ publicIpOnResourceAttrTuple.2) <|
    send (.external (.setAttributeValue resourceFullname publicIpOnResourceAttrTuple.1
      publicIpOnAzure))
  when (privateIpOnAzure ≠ privateIpOnResource) <|
    send (.external (.updateResourceAddress resourceFullname privateIpOnAzure))

variable {request : DeployRequest} {first : NicRequest} {rest : List NicRequest}
  {nics : List NetworkInterface} {result : DeployAppResult} {azure : Azure}

/-! ## The addresses that are read -/

/-- The public address of the primary interface: the empty text if it has none. -/
def primaryPublicIp (request : DeployRequest) (first : NicRequest) (azure : Azure) : Option Text :=
  if DeployAzureVMOperation.addsPublicIp request first then
    azure.publicIp (getIpFromInterfaceName first.interfaceName)
  else
    some []

theorem run_getActiveVm {vm : VirtualMachine} (has : HasMachine vm azure)
    (active : vm.provisioningState = VirtualMachineService.succeededProvisioningState) :
    run (Azure.handle false) (VirtualMachineService.getActiveVm vm.name) azure = (.ok vm, azure) := by
  have found : run (Azure.handle false) (VirtualMachineService.getVm vm.name) azure =
      (.ok vm, azure) := VirtualMachineService.run_getVm has
  rw [VirtualMachineService.getActiveVm, run_bind_of_ok found, when, if_neg (not_not.mpr active)]
  rfl

theorem run_publicIpOnAzure_of_has {name : Text} (nonempty : name ≠ []) (noSlash : '/' ∉ name)
    (has : HasPublicIp name azure) :
    run (Azure.handle false) (publicIpOnAzure (some name)) azure =
      (.ok (azure.publicIp name), azure) := by
  have isName := AzureResourceIdParser.getNameFromResourceId_of_noSlash nonempty noSlash
  have found : run (Azure.handle false) (send (.getPublicIpAddress name)) azure =
      (.ok ⟨name, azure.publicIp name⟩, azure) := run_getPublicIpAddress has
  rw [publicIpOnAzure, isName, run_bind_of_ok found]
  rfl

/-- After a deployment, the addresses read are those of the first interface. -/
theorem run_addressesOnAzure
    (deployed : DeployAzureVMOperation.Deployed request (first :: rest) nics result azure)
    (noSlash : '/' ∉ first.interfaceName) (nonempty : first.interfaceName ≠ []) :
    run (Azure.handle false) (addressesOnAzure result.vmName) azure =
      (.ok (primaryPublicIp request first azure, result.deployedAppAddress), azure) := by
  rcases deployed.networks.primary with ⟨nic, isHead, ipConfiguration, isFirst, isAddress⟩
  obtain ⟨primary, others, network, _, rfl⟩ :=
    List.forall₂_cons_left_iff.mp deployed.networks.networks
  cases isHead
  have machine : run (Azure.handle false) (VirtualMachineService.getActiveVm result.vmName) azure =
      (.ok (VirtualMachineService.requestedMachine result.vmName (nic :: others)), azure) :=
    run_getActiveVm deployed.machine rfl
  have isName : AzureResourceIdParser.getNameFromResourceId
      (VirtualMachineService.networkInterfaceId nic) = nic.name := by
    rw [← network.stores.named] at noSlash nonempty
    exact AzureResourceIdParser.getNameFromResourceId_append (by decide) nonempty noSlash
  have found : run (Azure.handle false) (send (.getNetworkInterface nic.name)) azure =
      (.ok nic, azure) := run_getNetworkInterface network.stores.has
  have publicIp : run (Azure.handle false) (publicIpOnAzure ipConfiguration.publicIpAddressId)
      azure = (.ok (primaryPublicIp request first azure), azure) := by
    rcases network.stores.refers with ⟨other, isOther, refers⟩
    cases isFirst.symm.trans isOther
    rw [refers, DeployAzureVMOperation.publicIpReference, primaryPublicIp]
    split
    · rename_i adds
      apply run_publicIpOnAzure_of_has
      · exact List.append_ne_nil_of_left_ne_nil nonempty _
      · rw [getIpFromInterfaceName, List.mem_append, not_or]
        exact ⟨noSlash, by decide⟩
      · exact network.publicIp adds
    · rfl
  have reference : nicReference
      (VirtualMachineService.requestedMachine result.vmName (nic :: others)).networkInterfaces =
        .ok ⟨VirtualMachineService.networkInterfaceId nic, true⟩ := rfl
  unfold addressesOnAzure
  rw [run_bind_of_ok machine, reference, run_ofExcept_bind_of_ok rfl, isName, run_bind_of_ok found,
    isFirst, run_ofExcept_bind_of_ok rfl, run_bind_of_ok publicIp, isAddress]
  rfl

/-- Whether a request updates the CloudShell resource. -/
def updates : Request → Bool
  | .external (.setAttributeValue _ _ _) => true
  | .external (.updateResourceAddress _ _) => true
  | _ => false

/-- The request does not update the CloudShell resource. -/
def Reads (sent : Request) : Prop :=
  updates sent = false

theorem reads_send {sent : Request} (reads : updates sent = false) : Within Reads (send sent) :=
  within_perform reads

theorem getVm_truthful (vmName : Text) :
    Truthful Request.mayFail ServiceError.toException (Azure.handle false)
      (VirtualMachineService.getVm vmName) :=
  (Faithful.retry (faithful_perform fun _ => rfl)).truthful

theorem addressesOnAzure_truthful (vmName : Text) :
    Truthful Request.mayFail ServiceError.toException (Azure.handle false)
      (addressesOnAzure vmName) := by
  apply Truthful.bind
  · apply (getVm_truthful vmName).bind
    intro vm
    exact (truthful_raise _).when.bind fun _ => truthful_pure vm
  intro vm
  apply (truthful_ofExcept _).bind
  intro nicReference
  apply (truthful_perform _).bind
  intro nic
  apply (truthful_ofExcept _).bind
  intro vmIpConfiguration
  apply Truthful.bind
  · unfold publicIpOnAzure
    split
    · exact truthful_pure _
    · exact (truthful_perform _).bind fun pubIpAddr => truthful_pure _
  · intro publicIpOnAzure
    exact truthful_pure _

theorem addressesOnAzure_reads (vmName : Text) : Within Reads (addressesOnAzure vmName) := by
  apply Within.bind
  · apply Within.bind (Within.retry (reads_send rfl) 4)
    intro vm
    exact (Within.when fun _ => within_raise _).bind fun _ => trivial
  intro vm
  apply Within.bind (within_ofExcept _)
  intro nicReference
  apply Within.bind (reads_send rfl)
  intro nic
  apply Within.bind (within_ofExcept _)
  intro vmIpConfiguration
  apply Within.bind
  · unfold publicIpOnAzure
    split
    · trivial
    · exact Within.bind (reads_send rfl) fun pubIpAddr => trivial
  · intro publicIpOnAzure
    trivial

/-! ## Agreement -/

/-- No run of the program updates the CloudShell resource, whichever of its calls
fail. -/
def NeverUpdates (program : Shell Unit) (azure : Azure) : Prop :=
  ∀ fates, ∀ sent ∈ requests services program (fates, azure), Reads sent

/-- Where the resource has the private address that is read, a refresh updates
nothing exactly if it also has the public one. -/
theorem neverUpdates_iff {vmName privateIp : Text} {publicIp : Option Text}
    (read : run (Azure.handle false) (addressesOnAzure vmName) azure =
      (.ok (publicIp, privateIp), azure))
    (publicIpOnResource : Option Text) (attributeName resourceFullname : Text) :
    NeverUpdates (refreshIp vmName privateIp (attributeName, publicIpOnResource) resourceFullname)
        azure ↔ publicIp = publicIpOnResource := by
  constructor
  · intro never
    by_contra different
    have harmless : Harmless ([] : List (Fate ServiceError)) := by simp [Harmless]
    obtain ⟨left, _, ran⟩ : ∃ left, Harmless left ∧
        run services (addressesOnAzure vmName) ([], azure) =
          ((run (Azure.handle false) (addressesOnAzure vmName) azure).1, left,
            (run (Azure.handle false) (addressesOnAzure vmName) azure).2) :=
      run_services_of_harmless _ harmless
    rw [read] at ran
    let update : Request :=
      .external (.setAttributeValue resourceFullname attributeName publicIp)
    have issued : update ∈ requests services
        (refreshIp vmName privateIp (attributeName, publicIpOnResource) resourceFullname)
        ([], azure) := by
      unfold refreshIp
      rw [requests_bind_of_ok ran, List.mem_append]
      right
      simp only [when, ne_eq, different, not_false_eq_true, if_true]
      exact List.mem_cons_self
    cases never [] update issued
  · rintro rfl fates sent member
    unfold refreshIp at member
    cases ran : run services (addressesOnAzure vmName) (fates, azure) with
    | mk outcome after =>
        cases outcome with
        | error e =>
            rw [requests_bind_of_error ran] at member
            exact (addressesOnAzure_reads vmName).of_mem_requests member
        | ok addresses =>
            cases read.symm.trans (addressesOnAzure_truthful vmName _ _ _ ran)
            rw [requests_bind_of_ok ran, List.mem_append] at member
            rcases member with early | late
            · exact (addressesOnAzure_reads vmName).of_mem_requests early
            · simp only [when, ne_eq, not_true_eq_false, if_false] at late
              cases late

/-- After a deployment with a public address, a refresh with the addresses that
the deployment returned updates nothing exactly if the first interface is on a
public subnet. -/
theorem refreshIp_agrees_iff {state finished : FaultyAzure}
    (noEmptyAddress : ∀ name, state.2.publicIp name ≠ some [])
    (addPublicIp : request.deploymentModel.addPublicIp = true)
    (somePublic : ∃ nicRequest ∈ DeployAzureVMOperation.requestedInterfaces request state.2,
      nicRequest.isPublic = true)
    (success : run services (DeployAzureVMOperation.deployVmGeneric request) state =
      (.ok result, finished)) (attributeName resourceFullname : Text) :
    NeverUpdates (refreshIp result.vmName result.deployedAppAddress
        (attributeName, result.publicIpAddress) resourceFullname) finished.2 ↔
      ∃ first ∈ (DeployAzureVMOperation.requestedInterfaces request state.2).head?,
        first.isPublic = true := by
  have same := sameAddresses_run (DeployAzureVMOperation.deployVmGeneric request) state
  rw [success] at same
  rcases DeployAzureVMOperation.deployVmGeneric_deployed success with ⟨nics, deployed⟩
  have names : ∀ nicRequest ∈ DeployAzureVMOperation.requestedInterfaces request state.2,
      nicRequest.interfaceName ≠ [] ∧ '/' ∉ nicRequest.interfaceName :=
    fun nicRequest member => DeployAzureVMOperation.slash_not_mem_interfaceName member
  generalize DeployAzureVMOperation.requestedInterfaces request state.2 = requested at *
  cases requested with
  | nil => simp at somePublic
  | cons first rest =>
      rcases names first List.mem_cons_self with ⟨nonempty, noSlash⟩
      rw [neverUpdates_iff (run_addressesOnAzure deployed noSlash nonempty), primaryPublicIp,
        DeployAzureVMOperation.addsPublicIp, addPublicIp, Bool.true_and]
      cases isPublic : first.isPublic with
      | true =>
          have isFirst : (first :: rest).find? NicRequest.isPublic = some first := by
            simp [isPublic]
          rw [deployed.publicIp addPublicIp first isFirst]
          simp [isPublic]
      | false =>
          obtain ⟨other, isFirst⟩ : ∃ other,
              (first :: rest).find? NicRequest.isPublic = some other := by
            apply Option.isSome_iff_exists.mp
            simpa using somePublic
          have given := noEmptyAddress (getIpFromInterfaceName other.interfaceName)
          rw [← same.publicIp] at given
          rw [deployed.publicIp addPublicIp other isFirst]
          simp [isPublic, Ne.symm given]

/-! ## A private interface before the public one -/

/-- A machine on two subnets, with whether each of them is public. -/
def twoSubnets (front back : Text) : DeployRequest :=
  { DeployAzureVMOperation.webRequest with
    deploymentModel :=
      { DeployAzureVMOperation.webRequest.deploymentModel with
        networkConfigurations :=
          [⟨"r1_front".toList, [⟨"Public".toList, front⟩], []⟩,
            ⟨"r1_back".toList, [⟨"Public".toList, back⟩], []⟩] } }

/-- A sandbox with two subnets, where every public address is the same. -/
def frontAndBack : FaultyAzure :=
  ([], { (DeployAzureVMOperation.webSandbox []).2 with
    virtualNetworks := fun _ =>
      [⟨"sandbox".toList, [("network_type".toList, "sandbox".toList)], ["10.0.0.0/16".toList],
          [⟨"r1_front".toList, "10.0.1.0/24".toList, none, none, none⟩,
            ⟨"r1_back".toList, "10.0.2.0/24".toList, none, none, none⟩]⟩,
        ⟨"mgmt".toList, [("network_type".toList, "mgmt".toList)], ["10.1.0.0/16".toList], []⟩]
    publicIp := fun _ => some "52.0.0.1".toList })

abbrev twoSubnetsRun (front back : Text) : Except PyException DeployAppResult × FaultyAzure :=
  run services (DeployAzureVMOperation.deployVmGeneric (twoSubnets front back)) frontAndBack

/-- With the public subnet first, nothing is updated. -/
theorem refreshIp_agrees_example : ∃ result finished,
    twoSubnetsRun "True".toList "False".toList = (.ok result, finished) ∧
      NeverUpdates (refreshIp result.vmName result.deployedAppAddress
        ("Public IP".toList, result.publicIpAddress) "web".toList) finished.2 := by
  obtain ⟨result, success⟩ : ∃ result, twoSubnetsRun "True".toList "False".toList =
      (.ok result, (twoSubnetsRun "True".toList "False".toList).2) := exists_run_eq_ok (by decide)
  refine ⟨result, _, success, ?_⟩
  apply (refreshIp_agrees_iff (by simp [frontAndBack]) rfl (by decide) success _ _).mpr
  decide

/-- With the private subnet first, the public address of the resource is taken
away. -/
theorem refreshIp_takes_public_ip : ∃ result finished,
    twoSubnetsRun "False".toList "True".toList = (.ok result, finished) ∧
      ¬ NeverUpdates (refreshIp result.vmName result.deployedAppAddress
        ("Public IP".toList, result.publicIpAddress) "web".toList) finished.2 := by
  obtain ⟨result, success⟩ : ∃ result, twoSubnetsRun "False".toList "True".toList =
      (.ok result, (twoSubnetsRun "False".toList "True".toList).2) := exists_run_eq_ok (by decide)
  refine ⟨result, _, success, fun never => ?_⟩
  have addresses : (twoSubnetsRun "False".toList "True".toList).1.map
      (fun result => (result.vmName, result.deployedAppAddress, result.publicIpAddress)) =
        .ok ("web-0a1b2c3d".toList, "10.0.0.4".toList, some "52.0.0.1".toList) := by
    decide
  rw [success] at addresses
  obtain ⟨isName, isAddress, isPublicIp⟩ : result.vmName = "web-0a1b2c3d".toList ∧
      result.deployedAppAddress = "10.0.0.4".toList ∧
        result.publicIpAddress = some "52.0.0.1".toList := by
    simpa [Except.map] using addresses
  rw [isName, isAddress, isPublicIp] at never
  have taken := never [] (.external (.setAttributeValue "web".toList "Public IP".toList (some [])))
    (by decide)
  cases taken

end RefreshIPOperation

end AzureShell
