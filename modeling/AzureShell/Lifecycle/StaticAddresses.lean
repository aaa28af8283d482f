import AzureShell.Deploy.PoolRelease
import AzureShell.Lifecycle.DeleteClaims

/-!
# Static addresses stay apart

Deployments and deletions of one sandbox run at the same time, and any of their
calls may fail, before or after it took effect.  As long as no machine is deleted by
two clients, no two interfaces ever have the same static address, and every such
address is checked out.

The services are lenient: deleting what is absent succeeds.  With an answer "Not
Found" in its place, a repeated deletion stops at the first interface that is gone,
leaves the others and releases their addresses all the same.
-/

namespace AzureShell

open Prog

/-- What a client of the sandbox may ask for: any command, as long as only
deployments create interfaces and machines and only deletions release addresses. -/
inductive ClientCommand where
  | deployVm (request : DeployRequest)
  | deleteAzureVm (vmName : Text)
  | other (program : Shell Unit) (leaves : Within LeavesAddresses program)

namespace ClientCommand

/-- The program of a command to the sandbox of a reservation. -/
def program (reservationId : Text) : ClientCommand → Shell Unit
  | deployVm request => do
      let _ ← DeployAzureVMOperation.deployVmGeneric request
      pure ()
  | deleteAzureVm vmName => DeleteAzureVMOperation.deleteAzureVm reservationId vmName
  | other program _ => program

/-- A deployment is one to the reservation, and the method of its cloud provider is
not "static": the data model allows "Azure Allocation" and "Cloudshell
Allocation". -/
def IsFor (reservationId : Text) : ClientCommand → Prop
  | deployVm request => request.reservationId = reservationId ∧
      Text.lower request.cloudProviderModel.privateIpAllocationMethod ≠ "static".toList
  | _ => True

end ClientCommand

/-- A client gives one command after the other, whatever becomes of them. -/
def client (reservationId : Text) (commands : List ClientCommand) : Shell Unit :=
  forEach commands fun command => (command.program reservationId).catching fun _ => pure ()

/-- The interfaces of the machines that a client deletes. -/
def deletedInterfaces {ι : Type} (commands : ι → List ClientCommand) (i : ι)
    (interfaceName : Text) : Prop :=
  ∃ vmName, .deleteAzureVm vmName ∈ commands i ∧ IsInterfaceOf vmName interfaceName

theorem client_honours {ι : Type} [DecidableEq ι] {reservationId : Text}
    {commands : ι → List ClientCommand} {i : ι}
    (isFor : ∀ command ∈ commands i, command.IsFor reservationId)
    (belong : BelongToOne (deletedInterfaces commands)) :
    Honours reservationId (deletedInterfaces commands) i (fun _ => True)
      (client reservationId (commands i)) := by
  apply Honours.forEach
  intro command member
  apply Honours.catching
  · cases command with
    | deployVm request =>
        rcases isFor _ member with ⟨reservation, notStatic⟩
        apply (DeployAzureVMOperation.deployVmGeneric_honours reservation notStatic).andThen
        intro _
        exact Honours.pure trivial
    | deleteAzureVm vmName =>
        apply DeleteAzureVMOperation.deleteAzureVm_honours belong
        intro name isInterface
        exact ⟨vmName, member, isInterface⟩
    | other program leaves => exact Honours.leaves leaves
  · intro e
    exact Honours.pure trivial

/-- While clients deploy and delete machines at the same time, on lenient services
with calls that fail before or after they took effect, no two interfaces ever have a
static address in common, and every static address is checked out, provided that no
machine is deleted by two clients and no deployment asks for the method "static". -/
theorem staticAddresses_apart {ι : Type} [DecidableEq ι] {reservationId : Text}
    {commands : ι → List ClientCommand}
    (isFor : ∀ i, ∀ command ∈ commands i, command.IsFor reservationId)
    (deletedByOne : ∀ i j vmName, .deleteAzureVm vmName ∈ commands i →
      .deleteAzureVm vmName ∈ commands j → i = j)
    {start : UnreliableAzure} (apart : AddressesApart reservationId start.2)
    {config : Config AzureServices UnreliableAzure ι Unit}
    (reaches : Reaches lenient
      (.initial (fun i => client reservationId (commands i)) start) config) :
    AddressesApart reservationId config.shared.2 := by
  have belong : BelongToOne (deletedInterfaces commands) := by
    rintro i j interfaceName ⟨vmName, deletes, isInterface⟩ ⟨other, otherDeletes, isOther⟩
    rw [isOther.eq isInterface] at otherDeletes
    exact deletedByOne i j vmName deletes otherDeletes
  have started : ClaimsHoldIn reservationId (deletedInterfaces commands)
      (fun _ _ => .unclaimed) start := claimsHold_of_apart apart
  have upholds : ∀ i, Upholds (ClaimsHoldIn reservationId (deletedInterfaces commands)) lenient i
      (fun _ _ => True) (fun _ => .unclaimed) (client reservationId (commands i)) :=
    fun i => (client_honours (isFor i) belong _).mono fun _ _ _ => trivial
  rcases reaches.upheld upholds started with ⟨claims, holds⟩
  exact holds.apart

/-- One client deploys a machine and deletes it, the other deploys one of its own. -/
def twoClients : Bool → List ClientCommand
  | true => [.deployVm DeployAzureVMOperation.poolRequest, .deleteAzureVm "web-0a1b2c3d".toList]
  | false => [.deployVm { DeployAzureVMOperation.poolRequest with
      uniqueString := "4e5f6071".toList, isPostfix := by decide }]

/-- Nothing is deployed, and the pool has two addresses. -/
def twoClientsStart : Config AzureServices UnreliableAzure Bool Unit :=
  .initial (fun i => client "r1".toList (twoClients i)) ([],
    { DeployAzureVMOperation.poolSandbox.2 with
      availableIps := fun _ => ["10.0.1.4".toList, "10.0.1.5".toList]
      cancellations := [] })

/-- Both deployments have created their interfaces. -/
theorem staticAddresses_apart_example :
    ∃ config, Reaches lenient twoClientsStart config ∧
      config.shared.2.networkInterfaces.map NetworkInterface.staticAddresses =
        [["10.0.1.4".toList], ["10.0.1.5".toList]] ∧
      AddressesApart "r1".toList config.shared.2 := by
  have played : (twoClientsStart.play lenient (fun _ _ => true)
      (List.replicate 24 true ++ List.replicate 24 false)).map (fun config =>
        config.shared.2.networkInterfaces.map NetworkInterface.staticAddresses) =
      some [["10.0.1.4".toList], ["10.0.1.5".toList]] := by rfl
  rcases Option.map_eq_some_iff.mp played with ⟨config, isConfig, addresses⟩
  have reaches : Reaches lenient twoClientsStart config := reaches_of_play isConfig
  refine ⟨config, reaches, addresses, staticAddresses_apart ?_ ?_ ?_ reaches⟩
  · rintro (_ | _) command member
    · cases List.mem_singleton.mp member
      exact ⟨rfl, by decide⟩
    · rcases List.mem_cons.mp member with rfl | isDeletion
      · exact ⟨rfl, by decide⟩
      · cases List.mem_singleton.mp isDeletion
        trivial
  · rintro (_ | _) (_ | _) vmName deletes otherDeletes
    · rfl
    · cases List.mem_singleton.mp deletes
    · cases List.mem_singleton.mp otherDeletes
    · rfl
  · exact ⟨fun uses => (List.not_mem_nil uses.1).elim, fun uses => (List.not_mem_nil uses.1).elim,
      fun vm member => (List.not_mem_nil member).elim⟩

end AzureShell
