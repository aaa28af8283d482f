import AzureShell.Delete.Retryable
import AzureShell.Lifecycle.Stock

/-!
# Deletions without failing calls

Where no call fails, a deletion that finds its machine clears the machine, the
interfaces and public addresses it has read, and whatever carries the machine's
name among the security groups and the sandbox rules.  Everything it deletes
mentions the machine's name if the names it has read do.
-/

namespace AzureShell

open Prog SecurityGroupService

namespace DeleteAzureVMOperation

variable {groupName vmName : Text} {vm : VirtualMachine} {nics : List NetworkInterface}
  {data : MachineData} {azure : Azure}

/-! ## The reads -/

/-- The data of a machine in place. -/
def machineDataOf (vm : VirtualMachine) (nics : List NetworkInterface) (privateIps : List Text) :
    MachineData where
  interfaceNames := vm.networkInterfaces.map fun nir => AzureResourceIdParser.lastOfId nir.id
  publicIpNames := nics.filterMap publicIpNameOf
  privateIps := privateIps

theorem run_readMachine_of_inPlace {strict : Bool} {privateIps : List Text}
    (inPlace : InPlace vmName vm nics azure) (collected : staticPrivateIps nics = .ok privateIps) :
    run (Azure.handle strict) (readMachine vmName) azure =
      (.ok (machineDataOf vm nics privateIps), azure) := by
  have machine : run (Azure.handle strict) (send (.getVirtualMachine vmName)) azure =
      (.ok vm, azure) := run_getVirtualMachine inPlace.machine
  have interfaces : run (Azure.handle strict)
      (collect (vm.networkInterfaces.map fun nir => AzureResourceIdParser.lastOfId nir.id)
        fun name => send (.getNetworkInterface name)) azure = (.ok nics, azure) := by
    apply run_collect_of_forall₂
    apply List.forall₂_map_left_iff.mpr
    exact inPlace.interfaces.imp fun nir nic stored => run_getNetworkInterface stored
  rw [readMachine, run_bind_of_ok machine, run_bind_of_ok interfaces,
    run_ofExcept_bind_of_ok collected]
  rfl

theorem run_machineForDisk_of_inPlace {strict : Bool} (inPlace : InPlace vmName vm nics azure) :
    run (Azure.handle strict) (machineForDisk vmName) azure = (.ok (some vm), azure) := by
  apply run_catching_of_ok
  rw [run_bind_of_ok (VirtualMachineService.run_getVm inPlace.machine)]
  rfl

/-! ## What is cleared -/

/-- The targets of a deletion that has read its machine. -/
def Targets (vmName : Text) (data : MachineData) (resource : Resource) : Prop :=
  resource = .virtualMachine vmName ∨
    (∃ name ∈ data.interfaceNames, resource = .networkInterface name) ∨
    (∃ name ∈ data.publicIpNames, resource = .publicIpAddress name) ∨
    NetworkService.CarriesName vmName resource

/-- For a machine that came with a managed disk, that disk is deleted. -/
theorem deleteVmDisk_of_managed {disk : Disk} (isDisk : vm.managedDisk = some disk) :
    deleteVmDisk vm = retryConnection (send (.deleteDisk disk)) := by
  rw [VirtualMachine.managedDisk] at isDisk
  split at isDisk
  · rename_i managed
    rw [← Option.some.inj isDisk, deleteVmDisk, managed.1]
    exact if_pos managed.2
  · cases isDisk

theorem deleteVmDisk_clears {disk : Disk} (isDisk : vm.managedDisk = some disk) :
    Clears (deleteVmDisk vm) fun _ => False := by
  have deletes : Clears (send (.deleteDisk disk)) fun _ => False :=
    Clears.request rfl (fun _ => ⟨(), rfl⟩) fun _ _ isGone => isGone.elim
  rw [deleteVmDisk_of_managed isDisk]
  exact deletes.retryConnection

theorem releasePrivateIps_clears (groupName : Text) (privateIps : List Text) :
    Clears (releasePrivateIps groupName privateIps) fun _ => False := by
  have release : Clears (IpService.releaseIps groupName privateIps) fun _ => False :=
    Clears.request rfl (fun _ => ⟨(), rfl⟩) fun _ _ isGone => isGone.elim
  exact (release.catching _).when.mono fun _ isGone => isGone.elim

theorem orNotFound_clears {command : Shell Unit} {gone : Resource → Prop}
    (clears : Clears command gone) : Clears (orNotFound command) gone :=
  clears.catching _

theorem deleteFound_clears (groupName vmName : Text) (data : MachineData) {disk : Disk}
    (isDisk : vm.managedDisk = some disk) :
    Clears (deleteFound groupName vmName data (some vm)) (Targets vmName data) := by
  have machine := orNotFound_clears (Clears.deleteVirtualMachine vmName).retryConnection
  have interfaces := orNotFound_clears (Clears.forEach fun name
    (_ : name ∈ data.interfaceNames) => Clears.deleteNetworkInterface name).retryConnection
  have addresses := orNotFound_clears (Clears.forEach fun name
    (_ : name ∈ data.publicIpNames) => Clears.deletePublicIpAddress name).retryConnection
  have osDisk := orNotFound_clears (deleteVmDisk_clears isDisk)
  have artifacts := NetworkService.deleteNsgArtifactsAssociatedWithVm_clears vmName
  have release := releasePrivateIps_clears groupName data.privateIps
  have all := machine.bind fun _ => interfaces.bind fun _ => addresses.bind fun _ =>
    osDisk.bind fun _ => artifacts.bind fun _ => release
  apply all.mono
  rintro resource (isMachine | isInterface | isAddress | isArtifact)
  · exact Or.inl isMachine
  · exact Or.inr (Or.inl isInterface)
  · exact Or.inr (Or.inr (Or.inl isAddress))
  · exact Or.inr (Or.inr (Or.inr (Or.inr (Or.inl isArtifact))))

/-! ## What is touched -/

/-- The resource, or the group of the rule, has a name with the machine's name in it. -/
def Mentions (vmName : Text) : Resource → Prop
  | .virtualMachine name => vmName <:+: name
  | .networkInterface name => vmName <:+: name
  | .publicIpAddress name => vmName <:+: name
  | .networkSecurityGroup name => vmName <:+: name
  | .securityRule nsg name => vmName <:+: nsg ∨ vmName <:+: name

theorem actsWithin_remove {own : Resource → Prop} {request : Request} {resource : Resource}
    (creates : request.creates = none) (removes : request.removes = some resource)
    (isOwn : own resource) (keepsGroup : ∀ name, request ≠ .deleteResourceGroup name) :
    ActsWithin own request where
  creates := by
    intro other created
    rw [creates] at created
    cases created
  removes := by
    intro other removed
    rw [removes] at removed
    exact Option.some.inj removed ▸ isOwn
  keepsGroup := keepsGroup

theorem actsWithin_none {own : Resource → Prop} {request : Request}
    (creates : request.creates = none) (removes : request.removes = none)
    (keepsGroup : ∀ name, request ≠ .deleteResourceGroup name) : ActsWithin own request where
  creates := by
    intro other created
    rw [creates] at created
    cases created
  removes := by
    intro other removed
    rw [removes] at removed
    cases removed
  keepsGroup := keepsGroup

theorem actsWithin_of_deletesNsgArtifacts {request : Request}
    (deletes : NetworkService.DeletesNsgArtifacts vmName request) :
    ActsWithin (Mentions vmName) request := by
  rcases deletes with rfl | ⟨name, carries, rfl⟩ | ⟨nsg, name, _, carries, rfl⟩
  · exact actsWithin_none rfl rfl nofun
  · exact actsWithin_remove rfl rfl carries nofun
  · exact actsWithin_remove rfl rfl (Or.inr carries) nofun

/-- A deletion touches only what mentions the machine's name, if all names it has
read do. -/
theorem deleteFound_actsWithin (groupName : Text) (found : Option VirtualMachine)
    (interfaces : ∀ name ∈ data.interfaceNames, vmName <:+: name)
    (addresses : ∀ name ∈ data.publicIpNames, vmName <:+: name) :
    Within (ActsWithin (Mentions vmName)) (deleteFound groupName vmName data found) := by
  apply Within.bind
  · apply within_orNotFound
    apply Within.retry
    apply within_perform
    exact actsWithin_remove rfl rfl (List.infix_refl vmName) nofun
  intro _
  apply Within.bind
  · apply within_orNotFound
    apply Within.retry
    apply Within.forEach
    intro name member
    apply within_perform
    exact actsWithin_remove rfl rfl (interfaces name member) nofun
  intro _
  apply Within.bind
  · apply within_orNotFound
    apply Within.retry
    apply Within.forEach
    intro name member
    apply within_perform
    exact actsWithin_remove rfl rfl (addresses name member) nofun
  intro _
  apply Within.bind (within_deleteDiskOf (fun _ => actsWithin_none rfl rfl nofun) found)
  intro _
  apply Within.bind
  · exact (NetworkService.deleteNsgArtifactsAssociatedWithVm_within vmName).mono
      fun _ => actsWithin_of_deletesNsgArtifacts
  intro _
  apply Within.when
  intro _
  apply Within.catching
  · apply within_perform
    exact actsWithin_none rfl rfl nofun
  · intro _
    trivial

/-! ## The whole deletion -/

/-- A deletion that finds its machine in place, without failing calls. -/
theorem run_deleteAzureVm_of_inPlace {privateIps : List Text} {disk : Disk} (groupName : Text)
    (inPlace : InPlace vmName vm nics azure) (collected : staticPrivateIps nics = .ok privateIps)
    (isDisk : vm.managedDisk = some disk) :
    ∃ after, run (Azure.handle false) (deleteAzureVm groupName vmName) azure = (.ok (), after) ∧
      run (Azure.handle false) (deleteFound groupName vmName (machineDataOf vm nics privateIps)
        (some vm)) azure = (.ok (), after) ∧
      (∀ resource, Targets vmName (machineDataOf vm nics privateIps) resource →
        ¬ after.Exists resource) ∧
      ∀ resource, after.Exists resource → azure.Exists resource := by
  rcases deleteFound_clears groupName vmName (machineDataOf vm nics privateIps) isDisk azure with
    ⟨_, after, ran, cleared, shrinks, _⟩
  refine ⟨after, ?_, ran, cleared, shrinks⟩
  apply run_catching_of_ok
  rw [delete_eq, run_bind_of_ok (run_readMachine_of_inPlace inPlace collected),
    run_bind_of_ok (run_machineForDisk_of_inPlace inPlace)]
  exact ran

end DeleteAzureVMOperation

end AzureShell
