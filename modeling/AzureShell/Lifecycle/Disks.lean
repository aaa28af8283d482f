import AzureShell.Deploy.AllOrNothing
import AzureShell.Deploy.Requests
import AzureShell.Lifecycle.Deletion

/-!
# The disk of a machine

Azure creates the managed OS disk of a machine with the machine, and it does not
delete the disk with it.  Along a deployment the disk has been added exactly if
the machine exists; the deletion of a machine deletes the disk, the rollback of
a deployment does not.
-/

namespace AzureShell

open Prog

/-- What is stored in the resource group of a sandbox, its disks included. -/
@[ext]
structure ResourceGroup where
  stock : Stock
  disks : List Disk
deriving DecidableEq, Repr

def Azure.resourceGroup (azure : Azure) : ResourceGroup where
  stock := azure.stock
  disks := azure.disks

/-- Whether a request creates or deletes machines or disks. -/
def Request.onMachines : Request → Bool
  | .putVirtualMachine _ => true
  | .deleteVirtualMachine _ => true
  | .deleteDisk _ => true
  | .deleteResourceGroup _ => true
  | _ => false

/-- Whether a request creates or deletes disks. -/
def Request.onDisks : Request → Bool
  | .putVirtualMachine _ => true
  | .deleteDisk _ => true
  | .deleteResourceGroup _ => true
  | _ => false

def SparesDisks (request : Request) : Prop :=
  request.onDisks = false

theorem sparesDisks_send {request : Request} (spares : request.onDisks = false) :
    Within SparesDisks (send request) :=
  within_perform spares

theorem disks_handle {request : Request} (spares : SparesDisks request) (strict : Bool)
    (azure : Azure) : (Azure.handle strict request azure).2.disks = azure.disks := by
  cases request with
  | putVirtualMachine vm => cases spares
  | deleteDisk disk => cases spares
  | deleteResourceGroup name => cases spares
  | putSecurityRule nsg rule =>
      simp only [Azure.handle]
      split <;> rfl
  | putSubnet group network subnet =>
      rcases Azure.handle_putSubnet strict group network subnet azure with ⟨changed, same⟩
      rw [same]
  | checkoutFromPool poolId reservationId ownerId subnetRange =>
      simp only [Azure.handle]
      split <;> rfl
  | _ => rfl

theorem virtualMachines_handle {request : Request} (spares : request.onMachines = false)
    (strict : Bool) (azure : Azure) :
    (Azure.handle strict request azure).2.virtualMachines = azure.virtualMachines := by
  cases request with
  | putVirtualMachine vm => cases spares
  | deleteVirtualMachine name => cases spares
  | deleteResourceGroup name => cases spares
  | putSecurityRule nsg rule =>
      simp only [Azure.handle]
      split <;> rfl
  | putSubnet group network subnet =>
      rcases Azure.handle_putSubnet strict group network subnet azure with ⟨changed, same⟩
      rw [same]
  | checkoutFromPool poolId reservationId ownerId subnetRange =>
      simp only [Azure.handle]
      split <;> rfl
  | _ => rfl

/-- Programs that spare the disks leave them, whichever calls fail. -/
theorem disks_run {α : Type} {program : Shell α}
    (spares : Within SparesDisks program) (state : FaultyAzure) :
    (run services program state).2.2.disks = state.2.disks := by
  apply spares.run_faulty_preserves fun azure : Azure => azure.disks = state.2.disks
  · exact fun request azure spared same => (disks_handle spared false azure).trans same
  · rfl

theorem disks_run_alone {α : Type} {program : Shell α} (spares : Within SparesDisks program)
    (azure : Azure) : (run (Azure.handle false) program azure).2.disks = azure.disks := by
  let state : FaultyAzure := ([], azure)
  have harmless : Harmless state.1 := by simp [state, Harmless]
  obtain ⟨_, _, ran⟩ := run_services_of_harmless program harmless
  have same := disks_run spares state
  rwa [ran] at same

/-! ## The disk that comes with a machine -/

/-- The disks are the given ones, and the machine's disk if the machine exists. -/
def DiskWithMachine (vmName : Text) (disk : Disk) (disks : List Disk) (azure : Azure) : Prop :=
  azure.disks = if azure.Exists (.virtualMachine vmName) then disks.insert disk else disks

/-- The request leaves machines and disks, or it creates the machine with its
disk. -/
def AddsMachine (vmName : Text) (disk : Disk) (request : Request) : Prop :=
  request.onMachines = false ∨
    ∃ vm, request = .putVirtualMachine vm ∧ vm.name = vmName ∧ vm.managedDisk = some disk

variable {vmName : Text} {disk : Disk} {disks : List Disk}

theorem sparesDisks_of_onMachines {request : Request} (spares : request.onMachines = false) :
    SparesDisks request := by
  cases request with
  | putVirtualMachine vm => cases spares
  | deleteDisk disk => cases spares
  | deleteResourceGroup name => cases spares
  | _ => rfl

theorem DiskWithMachine.handle {request : Request} {azure : Azure}
    (adds : AddsMachine vmName disk request) (holds : DiskWithMachine vmName disk disks azure) :
    DiskWithMachine vmName disk disks (Azure.handle false request azure).2 := by
  rcases adds with spares | ⟨vm, rfl, rfl, isDisk⟩
  · have sameMachine : (Azure.handle false request azure).2.Exists (.virtualMachine vmName) ↔
        azure.Exists (.virtualMachine vmName) := by
      simp only [Azure.Exists, virtualMachines_handle spares]
    simp only [DiskWithMachine, disks_handle (sparesDisks_of_onMachines spares), sameMachine]
    exact holds
  · have stands : (Azure.handle false (.putVirtualMachine vm) azure).2.Exists
        (.virtualMachine vm.name) := ⟨vm, Store.mem_upsert_self vm _, rfl⟩
    have added : (Azure.handle false (.putVirtualMachine vm) azure).2.disks =
        azure.disks.insert disk := by
      change azure.disksWith vm.managedDisk = _
      rw [isDisk, Azure.disksWith]
    rw [DiskWithMachine, if_pos stands, added, holds]
    split
    · exact List.insert_of_mem List.mem_insert_self
    · rfl

/-- Programs that may create the machine add its disk if they do, whichever calls
fail. -/
theorem DiskWithMachine.run {α : Type} {program : Shell α}
    (adds : Within (AddsMachine vmName disk) program) {state : FaultyAzure}
    (holds : DiskWithMachine vmName disk disks state.2) :
    DiskWithMachine vmName disk disks (run services program state).2.2 := by
  apply adds.run_faulty_preserves (DiskWithMachine vmName disk disks)
  · exact fun request azure addsMachine before => DiskWithMachine.handle addsMachine before
  · exact holds

/-! ## Deployments -/

namespace DeployAzureVMOperation

variable {request : DeployRequest} {data : DeployDataModel}

/-- The disk of the machine that a deployment creates. -/
def newDisk (vmName : Text) : Disk :=
  .managed (VirtualMachineService.osDiskName vmName)

theorem addsMachine_of_reads {sent : Request} (reads : Reads sent) :
    AddsMachine vmName disk sent := by
  cases reads <;> exact Or.inl rfl

theorem addsMachine_of_blockSends {sent : Request} (sends : BlockSends data sent) :
    AddsMachine data.vmName (newDisk data.vmName) sent := by
  cases sends with
  | putVirtualMachine nics => exact Or.inr ⟨_, rfl, rfl, rfl⟩
  | _ => exact Or.inl rfl

/-- Before the block nothing changes, and in it the disk is added if the machine
is created. -/
theorem tryBlock_diskWithMachine {state prepared left : FaultyAzure}
    {outcome : Except PyException (VirtualMachine × Option Text)}
    (preparedRun : run services (preparation request) state = (.ok data, prepared))
    (blockRun : run services (tryBlock request data) prepared = (outcome, left))
    (unused : ¬ state.2.Exists (.virtualMachine data.vmName)) :
    DiskWithMachine data.vmName (newDisk data.vmName) state.2.disks left.2 := by
  have preparationAdds : Within (AddsMachine data.vmName (newDisk data.vmName))
      (preparation request) := by
    apply (prepareDeployData_reads.mono fun _ => addsMachine_of_reads).bind
    intro data
    exact (checkIfCancelled_reads.mono fun _ => addsMachine_of_reads).bind fun _ => trivial
  have blockAdds : Within (AddsMachine data.vmName (newDisk data.vmName))
      (tryBlock request data) := tryBlock_sends.mono fun _ => addsMachine_of_blockSends
  have started : DiskWithMachine data.vmName (newDisk data.vmName) state.2.disks state.2 :=
    (if_neg unused).symm
  have before := started.run preparationAdds
  rw [preparedRun] at before
  have inBlock := before.run blockAdds
  rwa [blockRun] at inBlock

theorem vmName_of_afterBlock {privateIps : List Text} {block : VirtualMachine × Option Text}
    {result : DeployAppResult} {state after : FaultyAzure}
    (success : run services (afterBlock request data privateIps block) state =
      (.ok result, after)) :
    result.vmName = data.vmName := by
  rcases run_bind_eq_ok success with ⟨_, _, _, success⟩
  rcases run_bind_eq_ok success with ⟨_, _, _, success⟩
  rcases run_bind_eq_ok success with ⟨_, _, _, success⟩
  cases success
  rfl

/-- A deployment that ends well adds the disk of its machine. -/
theorem disks_deployVmGeneric {state deployed : FaultyAzure} {result : DeployAppResult}
    (success : run services (deployVmGeneric request) state = (.ok result, deployed))
    (unused : ¬ state.2.Exists (.virtualMachine result.vmName)) :
    deployed.2.disks = state.2.disks.insert (newDisk result.vmName) := by
  obtain ⟨data, prepared, block, left, preparedRun, blockRun, success⟩ :=
    phases_of_deployVmGeneric success
  rw [vmName_of_afterBlock success] at unused ⊢
  have inBlock := tryBlock_diskWithMachine preparedRun blockRun unused
  have stands := (tryBlock_stands blockRun).2
  have afterAdds : Within SparesDisks
      (afterBlock request data (allPrivateIps request data prepared) block) :=
    (afterBlock_reads _ block).mono fun _ reads => by cases reads <;> rfl
  have same := disks_run afterAdds left
  rw [success] at same
  rw [same, inBlock, if_pos stands]

/-- A rollback deletes no disk. -/
theorem rollback_sparesDisks (privateIps : List Text) :
    Within SparesDisks (rollbackDeployedResources request data privateIps) := by
  apply (rollbackDeployedResources_sends privateIps).mono
  rintro sent (deletes | ⟨values, isRelease⟩ | deletes)
  · cases deletes <;> rfl
  · subst isRelease
    rfl
  · rcases deletes with rfl | ⟨name, _, rfl⟩ | ⟨nsg, name, _, _, rfl⟩ <;> rfl

end DeployAzureVMOperation

/-! ## Deletions -/

namespace DeleteAzureVMOperation

variable {groupName : Text} {vm : VirtualMachine} {data : MachineData}

/-- A deletion that runs through deletes the disk that came with the machine, and
no other. -/
theorem disks_deleteFound (isDisk : vm.managedDisk = some disk) {azure after : Azure}
    (ran : run (Azure.handle false) (deleteFound groupName vmName data (some vm)) azure =
      (.ok (), after)) :
    after.disks = azure.disks.filter (· ≠ disk) := by
  let before : Shell Unit := do
    orNotFound (VirtualMachineService.deleteVm vmName)
    orNotFound (NetworkService.deleteNics data.interfaceNames)
    orNotFound (NetworkService.deleteIps data.publicIpNames)
  let rest : Shell Unit := do
    NetworkService.deleteNsgArtifactsAssociatedWithVm vmName
    releasePrivateIps groupName data.privateIps
  have split : deleteFound groupName vmName data (some vm) =
      before >>= fun _ => deleteDiskOf (some vm) >>= fun _ => rest := by
    simp only [before, rest, deleteFound, bind_assoc]
  have deletion : ∀ later, run (Azure.handle false) (deleteDiskOf (some vm)) later =
      (.ok (), { later with disks := later.disks.filter (· ≠ disk) }) := by
    intro later
    rw [deleteDiskOf, deleteVmDisk_of_managed isDisk]
    apply run_catching_of_ok
    apply run_retry_of_ok
    rfl
  have beforeSpares : Within SparesDisks before := by
    apply Within.bind (within_orNotFound (Within.retry (sparesDisks_send rfl) 4))
    intro _
    apply Within.bind
    · exact within_orNotFound (Within.retry (Within.forEach fun _ _ => sparesDisks_send rfl) 4)
    intro _
    exact within_orNotFound (Within.retry (Within.forEach fun _ _ => sparesDisks_send rfl) 4)
  have restSpares : Within SparesDisks rest := by
    apply Within.bind
    · apply (NetworkService.deleteNsgArtifactsAssociatedWithVm_within vmName).mono
      rintro sent (rfl | ⟨name, _, rfl⟩ | ⟨nsg, name, _, _, rfl⟩) <;> rfl
    intro _
    apply Within.when
    intro _
    exact Within.catching (sparesDisks_send rfl) fun _ => trivial
  rw [split] at ran
  rcases run_bind_eq_ok ran with ⟨_, between, first, ran⟩
  rw [run_bind_of_ok (deletion between)] at ran
  have firstSame := disks_run_alone beforeSpares azure
  have lastSame := disks_run_alone restSpares { between with disks := between.disks.filter (· ≠ disk) }
  rw [first] at firstSame
  rw [ran] at lastSame
  rw [lastSame, ← firstSame]

end DeleteAzureVMOperation

end AzureShell
