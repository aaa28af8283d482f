import AzureShell.Delete.Belongings
import AzureShell.Delete.Operation
import AzureShell.Nsg.Artifacts

/-!
# The commands of a deletion

Each command of `delete` leaves nothing of its targets where it ends well.  A
command that is answered "Not Found" need not have got that far: a loop stops at
the first absent target, also if a repeated try of the same command meets what
an earlier try has deleted.  It leaves nothing if it stops where no later target
is there.
-/

namespace AzureShell

open Prog SecurityGroupService StorageService

namespace NetworkService

/-- The artifacts of a machine as belongings. -/
def IsArtifact (vmName : Text) (belonging : Belonging) : Prop :=
  ∃ resource, CarriesName vmName resource ∧ belonging = .resource resource

theorem deleteArtifacts_round_empties (vmName : Text) (nsg : NetworkSecurityGroup) :
    Empties
      (do when (vmName <:+: nsg.name) <| send (.deleteNetworkSecurityGroup nsg.name)
          when (sandboxNsgName <:+: nsg.name) <| forEach nsg.securityRules fun rule =>
            when (vmName <:+: rule.name) <| send (.deleteSecurityRule nsg.name rule.name))
      fun belonging =>
        (vmName <:+: nsg.name ∧ belonging = .resource (.networkSecurityGroup nsg.name)) ∨
          sandboxNsgName <:+: nsg.name ∧ ∃ rule ∈ nsg.securityRules,
            vmName <:+: rule.name ∧ belonging = .resource (.securityRule nsg.name rule.name) := by
  have group : Empties (send (.deleteNetworkSecurityGroup nsg.name)) fun belonging =>
      belonging = .resource (.networkSecurityGroup nsg.name) := by
    apply Empties.request ⟨rfl, rfl⟩
    rintro azure _ rfl
    exact Azure.not_exists_deleteNetworkSecurityGroup nsg.name
  have rule : ∀ rule : SecurityRule, Empties (send (.deleteSecurityRule nsg.name rule.name))
      fun belonging => belonging = .resource (.securityRule nsg.name rule.name) := by
    intro rule
    apply Empties.request ⟨rfl, rfl⟩
    rintro azure _ rfl
    exact Azure.not_exists_deleteSecurityRule nsg.name rule.name
  exact group.when.bind fun _ => (Empties.forEach fun other _ => (rule other).when).when

/-- Where the deletion of the artifacts ends well, none of them is left. -/
theorem deleteNsgArtifactsAssociatedWithVm_empties (vmName : Text) :
    Empties (deleteNsgArtifactsAssociatedWithVm vmName) (IsArtifact vmName) := by
  apply Empties.retryConnection
  have loop := fun networkSecurityGroups : List NetworkSecurityGroup =>
    Empties.forEach fun nsg (_ : nsg ∈ networkSecurityGroups) =>
      deleteArtifacts_round_empties vmName nsg
  constructor
  · exact Within.bind (within_perform ⟨rfl, rfl⟩) fun listed => (loop listed).removes
  rintro state a after ran belonging ⟨resource, carries, rfl⟩ remains
  rcases run_bind_eq_ok ran with ⟨listed, between, listing, deleting⟩
  have answered := run_unreliable_of_ok listing
  obtain rfl : listed = between.2.networkSecurityGroups := by
    rw [← congrArg Prod.snd answered]
    exact (Except.ok.inj (congrArg Prod.fst answered)).symm
  -- what remains was listed, and its round deleted it
  have removed := (loop between.2.networkSecurityGroups).empties deleting
  have wasThere : between.2.Has (.resource resource) := by
    apply has_of_has_run (loop between.2.networkSecurityGroups).removes
    rw [deleting]
    exact remains
  cases resource with
  | networkSecurityGroup name =>
      rcases wasThere with ⟨group, member, rfl⟩
      exact removed _ ⟨group, member, Or.inl ⟨carries, rfl⟩⟩ remains
  | securityRule nsg name =>
      rcases wasThere with ⟨group, member, rfl, rule, ruleMem, rfl⟩
      exact removed _ ⟨group, member, Or.inr ⟨carries.1, rule, ruleMem, carries.2, rfl⟩⟩ remains
  | _ => exact carries.elim

end NetworkService

namespace DeleteAzureVMOperation

/-- The OS disk of a machine: the blob at the address of its VHD, or the managed
disk that came with it. -/
inductive IsOsDisk (vm : VirtualMachine) : Disk → Prop where
  | vhd {storageName containerName blobName : Text}
      (isAddress : vm.osDisk.vhdUri = some (blobUrl storageName containerName blobName))
      (names : AreNames storageName containerName blobName) :
      IsOsDisk vm (.vhd storageName containerName blobName)
  | managed {disk : Disk} (isManaged : vm.managedDisk = some disk) : IsOsDisk vm disk

/-- The VHD of a machine, if it has one, is at an address that is read back. -/
def HasReadableVhd (vm : VirtualMachine) : Prop :=
  ∀ uri, vm.osDisk.vhdUri = some uri → ∃ storageName containerName blobName,
    uri = blobUrl storageName containerName blobName ∧
      AreNames storageName containerName blobName ∧ ArePlain storageName containerName blobName

/-- A command of the deletion, what its calls need to find, and what it is to
delete. -/
structure Command where
  program : Shell Unit
  allowed : CallCondition
  targets : Belonging → Prop

/-- Any call is fine. -/
def AnyCall : CallCondition :=
  fun _ _ => True

/-- Where the VHD is readable, the disk that is deleted is the OS disk. -/
theorem deleteVmDisk_deletes {vm : VirtualMachine} (readable : HasReadableVhd vm) :
    Deletes (deleteVmDisk vm) AnyCall fun belonging =>
      ∃ disk, IsOsDisk vm disk ∧ belonging = .disk disk := by
  unfold deleteVmDisk
  cases located : vm.osDisk.vhdUri with
  | some uri =>
      rcases readable uri located with ⟨storageName, containerName, blobName, rfl, names, plain⟩
      have deletes : deleteVhdDisk (blobUrl storageName containerName blobName) =
          deleteBlob storageName containerName blobName := (names.roundTrips plain).delete_eq
      dsimp only
      rw [deletes]
      apply ((IsDeletion.deleteDisk _).deletes AnyCall).mono
      rintro _ ⟨_, ⟨isAddress, otherNames⟩ | isManaged, rfl⟩
      · rw [located] at isAddress
        rcases blobUrl_injective names otherNames (Option.some.inj isAddress) with
          ⟨rfl, rfl, rfl⟩
        rfl
      · simp [VirtualMachine.managedDisk, located] at isManaged
  | none =>
      dsimp only
      split
      · rename_i isManagedDisk
        apply ((IsDeletion.deleteDisk _).deletes AnyCall).retryConnection.mono
        rintro _ ⟨disk, ⟨isAddress, _⟩ | isManaged, rfl⟩
        · rw [located] at isAddress
          cases isAddress
        · simp only [VirtualMachine.managedDisk, located, isManagedDisk, and_self, if_true,
            Option.some.injEq] at isManaged
          rw [isManaged]
      · exact Deletes.raise rfl

/-! ## The loop of commands -/

/-- The commands of a deletion that has read the machine. -/
def commands (vmName : Text) (data : MachineData) (vm : VirtualMachine) : List Command :=
  [⟨VirtualMachineService.deleteVm vmName, AnyCall, fun belonging =>
      belonging = .resource (.virtualMachine vmName)⟩,
    ⟨NetworkService.deleteNics data.interfaceNames,
      InOrder .deleteNetworkInterface (.resource ∘ .networkInterface) data.interfaceNames,
      fun belonging => ∃ name ∈ data.interfaceNames, belonging = .resource (.networkInterface name)⟩,
    ⟨NetworkService.deleteIps data.publicIpNames,
      InOrder .deletePublicIpAddress (.resource ∘ .publicIpAddress) data.publicIpNames,
      fun belonging => ∃ name ∈ data.publicIpNames, belonging = .resource (.publicIpAddress name)⟩,
    ⟨deleteVmDisk vm, AnyCall, fun belonging =>
      ∃ disk, IsOsDisk vm disk ∧ belonging = .disk disk⟩]

theorem commands_delete (vmName : Text) (data : MachineData) {vm : VirtualMachine}
    (readable : HasReadableVhd vm) :
    ∀ command ∈ commands vmName data vm,
      Deletes command.program command.allowed command.targets := by
  have machine := (IsDeletion.deleteVirtualMachine vmName).deletes AnyCall
  have interfaces := Deletes.forEach IsDeletion.deleteNetworkInterface data.interfaceNames
  have addresses := Deletes.forEach IsDeletion.deletePublicIpAddress data.publicIpNames
  simp only [commands, List.forall_mem_cons]
  exact ⟨machine.retryConnection, interfaces.retryConnection, addresses.retryConnection,
    deleteVmDisk_deletes readable, by simp⟩

/-- The calls of the command find what they need, and it ends well or with "Not
Found". -/
def Command.Succeeds (command : Command) (state : UnreliableAzure) : Prop :=
  Along unreliable command.allowed command.program state ∧
    match (run unreliable command.program state).1 with
    | .ok _ => True
    | .error e => e.isNotFound = true

/-- One command after the other succeeds, and then what is to hold finally. -/
def Completes (last : UnreliableAzure → Prop) : List Command → UnreliableAzure → Prop
  | [], state => last state
  | command :: rest, state =>
      command.Succeeds state ∧ Completes last rest (run unreliable command.program state).2

section Runs

variable {command : Shell Unit} {state after : UnreliableAzure} {e : PyException}

theorem run_orNotFound_of_ok (ran : run unreliable command state = (.ok (), after)) :
    run unreliable (orNotFound command) state = (.ok (), after) :=
  run_catching_of_ok ran

theorem run_orNotFound_of_notFound (ran : run unreliable command state = (.error e, after))
    (notFound : e.isNotFound = true) :
    run unreliable (orNotFound command) state = (.ok (), after) := by
  rw [orNotFound, run_catching_of_error ran, if_pos notFound]
  rfl

theorem run_orNotFound_of_error (ran : run unreliable command state = (.error e, after))
    (other : e.isNotFound = false) :
    run unreliable (orNotFound command) state = (.error e, after) := by
  rw [orNotFound, run_catching_of_error ran, if_neg (ne_true_of_eq_false other)]
  rfl

end Runs

/-- A command that succeeds leaves nothing of its targets. -/
theorem Command.Succeeds.run {command : Command} {state : UnreliableAzure}
    (succeeds : command.Succeeds state)
    (deletes : Deletes command.program command.allowed command.targets) :
    run unreliable (orNotFound command.program) state =
        (.ok (), (Prog.run unreliable command.program state).2) ∧
      ∀ belonging, command.targets belonging →
        ¬ (Prog.run unreliable command.program state).2.2.Has belonging := by
  rcases succeeds with ⟨along, ends⟩
  cases ran : Prog.run unreliable command.program state with
  | mk outcome after =>
      rw [ran] at ends
      cases outcome with
      | ok a => exact ⟨run_orNotFound_of_ok ran, deletes.empties ran⟩
      | error e => exact ⟨run_orNotFound_of_notFound ran ends, deletes.stops ran ends along⟩

/-- Commands that succeed one after the other leave nothing of their targets. -/
theorem Completes.run {last : UnreliableAzure → Prop} {commands : List Command}
    {state : UnreliableAzure} (completes : Completes last commands state)
    (delete : ∀ command ∈ commands,
      Deletes command.program command.allowed command.targets) :
    ∃ after, run unreliable (forEach commands fun command => orNotFound command.program) state =
        (.ok (), after) ∧ last after ∧
      ∀ command ∈ commands, ∀ belonging, command.targets belonging → ¬ after.2.Has belonging := by
  induction commands generalizing state with
  | nil => exact ⟨state, rfl, completes, by simp⟩
  | cons command rest ih =>
      rcases List.forall_mem_cons.mp delete with ⟨deletes, deleteRest⟩
      rcases completes with ⟨succeeds, completesRest⟩
      rcases succeeds.run deletes with ⟨first, firstGone⟩
      rcases ih completesRest deleteRest with ⟨after, later, holds, laterGone⟩
      refine ⟨after, ?_, holds, List.forall_mem_cons.mpr ⟨?_, laterGone⟩⟩
      · rw [run_forEach_cons, first]
        exact later
      · intro belonging isTarget remains
        apply firstGone belonging isTarget
        apply has_of_has_run (Within.forEach fun other member =>
          within_orNotFound (deleteRest other member).removes)
        rw [later]
        exact remains

end DeleteAzureVMOperation

end AzureShell
