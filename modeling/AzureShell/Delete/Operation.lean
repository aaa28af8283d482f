import AzureShell.Deploy.Services
import AzureShell.Prog.Footprint
import AzureShell.Storage.BlobUrl

/-!
# The deletion of a machine

`delete` reads the machine, its interfaces and their addresses, and then deletes
the machine, the interfaces, the public addresses and the disk, one command
after the other.  A command whose target is "Not Found" does not keep it from
the next one.  Then it deletes the security group with the inbound rules and
releases the static addresses.  `delete_azure_vm` takes a machine that is "Not
Found" for a deleted one.
-/

namespace AzureShell

open Prog

namespace NetworkService

/-- `delete_nics`. -/
def deleteNics (interfaceNames : List Text) : Shell Unit :=
  retryConnection <| forEach interfaceNames fun interfaceName =>
    send (.deleteNetworkInterface interfaceName)

/-- `delete_ips`. -/
def deleteIps (publicIpNames : List Text) : Shell Unit :=
  retryConnection <| forEach publicIpNames fun ipName => send (.deletePublicIpAddress ipName)

end NetworkService

/-- `delete_managed_disk`. -/
def VirtualMachineService.deleteManagedDisk (diskName : Text) : Shell Unit :=
  retryConnection (send (.deleteDisk (.managed diskName)))

/-- `id.split('/')[-1]`. -/
def AzureResourceIdParser.lastOfId (resourceId : Text) : Text :=
  Text.lastPart '/' resourceId

namespace DeleteAzureVMOperation

/-- The name of the public address of an interface, if it has one. -/
def publicIpNameOf (nic : NetworkInterface) : Option Text :=
  nic.ipConfigurations.head?.bind fun ipConfiguration =>
    ipConfiguration.publicIpAddressId.map AzureResourceIdParser.lastOfId

/-- The private addresses of the interfaces with static allocation. -/
def staticPrivateIps : List NetworkInterface → Except PyException (List Text)
  | [] => .ok []
  | nic :: rest => do
      let ipConfiguration ← nic.firstIpConfiguration
      let privateIps ← staticPrivateIps rest
      return if isStaticAllocation (.azureType ipConfiguration.privateIpAllocationMethod) then
          ipConfiguration.privateIpAddress :: privateIps
        else
          privateIps

/-- `_delete_vm_disk`. -/
def deleteVmDisk (vm : VirtualMachine) : Shell Unit :=
  match vm.osDisk.vhdUri with
  | some uri => deleteVhdDisk uri
  | none =>
      if vm.osDisk.managedDisk then
        VirtualMachineService.deleteManagedDisk vm.osDisk.name
      else
        raise <| .valueError <| "Supported os data disk not found in VM ".toList ++ vm.name ++
          " so cannot delete data disk".toList

/-- Run a command; a target that is "Not Found" is as good as deleted. -/
def orNotFound (command : Shell Unit) : Shell Unit :=
  command.catching fun e => if e.isNotFound then pure () else raise e

/-- The machine as it is before the deletion; only a `CloudError` is caught. -/
def machineForDisk (vmName : Text) : Shell (Option VirtualMachine) :=
  (do
    let vm ← VirtualMachineService.getVm vmName
    pure (some vm)).catching fun e => if e.isCloudError then pure none else raise e

/-- The command that deletes the disk, if the machine was read again. -/
def deleteDiskOf : Option VirtualMachine → Shell Unit
  | some vm => orNotFound (deleteVmDisk vm)
  | none => pure ()

/-- What `delete` finds out about the machine. -/
structure MachineData where
  interfaceNames : List Text
  publicIpNames : List Text
  privateIps : List Text
deriving DecidableEq, Repr

/-- The reads at the start of `delete`. -/
def readMachine (vmName : Text) : Shell MachineData := do
  let vm ← send (.getVirtualMachine vmName)
  let interfaceNames := vm.networkInterfaces.map fun nir => AzureResourceIdParser.lastOfId nir.id
  let networkInterfaces ← collect interfaceNames fun name => send (.getNetworkInterface name)
  let publicIpNames := networkInterfaces.filterMap publicIpNameOf
  let privateIps ← ofExcept (staticPrivateIps networkInterfaces)
  pure ⟨interfaceNames, publicIpNames, privateIps⟩

/-- `delete`. -/
def delete (groupName vmName : Text) : Shell Unit := do
  let data ← readMachine vmName
  let vm ← machineForDisk vmName
  orNotFound (VirtualMachineService.deleteVm vmName)
  orNotFound (NetworkService.deleteNics data.interfaceNames)
  orNotFound (NetworkService.deleteIps data.publicIpNames)
  deleteDiskOf vm
  NetworkService.deleteNsgArtifactsAssociatedWithVm vmName
  when (data.privateIps ≠ []) <|
    (IpService.releaseIps groupName data.privateIps).catching fun _ => pure ()

/-- `delete_azure_vm`. -/
def deleteAzureVm (groupName vmName : Text) : Shell Unit :=
  orNotFound (delete groupName vmName)

/-! ## The requests of its parts -/

variable {allowed : Request → Prop}

theorem within_orNotFound {command : Shell Unit} (within : Within allowed command) :
    Within allowed (orNotFound command) := by
  apply within.catching
  intro e
  split <;> trivial

/-- Whatever the OS disk is, its deletion is a deletion of a disk. -/
theorem within_deleteDiskOf (disk : ∀ disk, allowed (.deleteDisk disk))
    (found : Option VirtualMachine) : Within allowed (deleteDiskOf found) := by
  have deletes : ∀ target, Within allowed (send (.deleteDisk target)) :=
    fun target => within_perform (disk target)
  cases found with
  | none => trivial
  | some vm =>
      apply within_orNotFound
      unfold deleteVmDisk
      split
      · exact Within.bind (within_ofExcept _) fun _ => deletes _
      · split
        · exact Within.retry (deletes _) 4
        · trivial

end DeleteAzureVMOperation

end AzureShell
