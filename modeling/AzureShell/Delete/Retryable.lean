import AzureShell.Delete.Commands
import AzureShell.Prog.Calm

/-!
# Repeating a deletion

An attempt reads the machine and its interfaces before it deletes anything.  As
long as failed attempts leave the machine, the next attempt reads the same.
Once the machine is deleted no later attempt finds out what else there is to
delete: its first read is answered "Not Found", which counts as a success.  So
the deletion can be repeated safely if no attempt is interrupted between the
deletion of the machine and its end.
-/

namespace AzureShell

open Prog SecurityGroupService

namespace DeleteAzureVMOperation

/-! ## A machine in place -/

/-- The machine and its interfaces exist. -/
structure InPlace (vmName : Text) (vm : VirtualMachine) (nics : List NetworkInterface)
    (azure : Azure) : Prop where
  machine : Store.lookup VirtualMachine.name vmName azure.virtualMachines = some vm
  interfaces : List.Forall₂ (fun (nir : NetworkInterfaceReference) nic =>
    Store.lookup NetworkInterface.name (AzureResourceIdParser.lastOfId nir.id)
      azure.networkInterfaces = some nic) vm.networkInterfaces nics

/-- An address that a deployment checked out of the pool of its reservation. -/
def poolItem (groupName address : Text) : PoolItem :=
  ⟨address, IpService.getPoolId groupName, groupName, IpService.poolItemOwner⟩

/-- What belongs to a machine with these interfaces. -/
inductive Owns (groupName vmName : Text) (vm : VirtualMachine) (nics : List NetworkInterface) :
    Belonging → Prop where
  | machine : Owns groupName vmName vm nics (.resource (.virtualMachine vmName))
  | interface {nic : NetworkInterface} (member : nic ∈ nics) :
      Owns groupName vmName vm nics (.resource (.networkInterface nic.name))
  | publicIp {nic : NetworkInterface} {ipConfiguration : IpConfiguration} {id : Text}
      (member : nic ∈ nics) (configured : ipConfiguration ∈ nic.ipConfigurations)
      (refers : ipConfiguration.publicIpAddressId = some id) :
      Owns groupName vmName vm nics
        (.resource (.publicIpAddress (AzureResourceIdParser.lastOfId id)))
  | osDisk {disk : Disk} (isDisk : IsOsDisk vm disk) :
      Owns groupName vmName vm nics (.disk disk)
  | artifact {resource : Resource} (carries : NetworkService.CarriesName vmName resource) :
      Owns groupName vmName vm nics (.resource resource)
  | privateIp {nic : NetworkInterface} {ipConfiguration : IpConfiguration}
      (member : nic ∈ nics) (configured : ipConfiguration ∈ nic.ipConfigurations)
      (isStatic : ipConfiguration.privateIpAllocationMethod = .static) :
      Owns groupName vmName vm nics (.poolItem (poolItem groupName ipConfiguration.privateIpAddress))

/-- Only the first configuration of an interface has a public address or a
static private one. -/
def AddressesFirst (nic : NetworkInterface) : Prop :=
  ∀ ipConfiguration ∈ nic.ipConfigurations.tail, ipConfiguration.publicIpAddressId = none ∧
    ipConfiguration.privateIpAllocationMethod = .dynamic

variable {groupName vmName : Text} {vm : VirtualMachine} {nics : List NetworkInterface}
  {nic : NetworkInterface} {ipConfiguration : IpConfiguration}

theorem AddressesFirst.publicIpNameOf_eq (first : AddressesFirst nic)
    (configured : ipConfiguration ∈ nic.ipConfigurations) {id : Text}
    (refers : ipConfiguration.publicIpAddressId = some id) :
    publicIpNameOf nic = some (AzureResourceIdParser.lastOfId id) := by
  rw [AddressesFirst] at first
  rw [publicIpNameOf]
  cases configurations : nic.ipConfigurations with
  | nil => rw [configurations] at configured; cases configured
  | cons head rest =>
      rw [configurations] at configured first
      rcases List.mem_cons.mp configured with rfl | later
      · simp [refers]
      · rw [(first _ later).1] at refers
        cases refers

/-- The first configuration of every interface exists, and its address is
released if it is static. -/
theorem mem_staticPrivateIps {privateIps : List Text}
    (collected : staticPrivateIps nics = .ok privateIps) (member : nic ∈ nics)
    (first : AddressesFirst nic) (configured : ipConfiguration ∈ nic.ipConfigurations)
    (isStatic : ipConfiguration.privateIpAllocationMethod = .static) :
    ipConfiguration.privateIpAddress ∈ privateIps := by
  induction nics generalizing privateIps with
  | nil => cases member
  | cons other rest ih =>
      rw [staticPrivateIps] at collected
      cases head : other.firstIpConfiguration with
      | error e =>
          rw [head] at collected
          cases collected
      | ok firstConfiguration =>
          cases later : staticPrivateIps rest with
          | error e =>
              rw [head, later] at collected
              cases collected
          | ok laterIps =>
              rw [head, later] at collected
              cases collected
              rcases List.mem_cons.mp member with rfl | inRest
              · have isFirst : ipConfiguration = firstConfiguration := by
                  rw [AddressesFirst] at first
                  rw [NetworkInterface.firstIpConfiguration] at head
                  cases configurations : nic.ipConfigurations with
                  | nil => rw [configurations] at configured; cases configured
                  | cons found others =>
                      rw [configurations] at configured first head
                      cases head
                      rcases List.mem_cons.mp configured with same | isLater
                      · exact same
                      · rw [(first _ isLater).2] at isStatic
                        cases isStatic
                subst isFirst
                rw [isStatic]
                exact List.mem_cons_self
              · have found := ih later inRest
                split
                · exact List.mem_cons_of_mem _ found
                · exact found

/-! ## The reads -/

section Reads

variable {azure : Azure} {state : UnreliableAzure}

theorem isNotFound_of_staticPrivateIps {e : PyException}
    (failed : staticPrivateIps nics = .error e) : e.isNotFound = false := by
  induction nics with
  | nil => cases failed
  | cons nic rest ih =>
      rw [staticPrivateIps, NetworkInterface.firstIpConfiguration] at failed
      cases configurations : nic.ipConfigurations with
      | nil =>
          rw [configurations] at failed
          cases failed
          rfl
      | cons ipConfiguration others =>
          rw [configurations] at failed
          cases later : staticPrivateIps rest with
          | error other =>
              rw [later] at failed ih
              cases failed
              exact ih rfl
          | ok privateIps =>
              rw [later] at failed
              cases failed

/-- The data are those of the machine and its interfaces. -/
structure DataOf (vm : VirtualMachine) (nics : List NetworkInterface) (data : MachineData) :
    Prop where
  interfaceNames : data.interfaceNames =
    vm.networkInterfaces.map fun nir => AzureResourceIdParser.lastOfId nir.id
  publicIpNames : data.publicIpNames = nics.filterMap publicIpNameOf
  privateIps : staticPrivateIps nics = .ok data.privateIps

theorem readMachine_faithful (vmName : Text) :
    Faithful Request.mayFail (Subtype.val : OtherError → PyException) (Azure.handle true)
      (readMachine vmName) := by
  apply (faithful_perform fun _ => rfl).bind
  intro vm
  dsimp only
  apply Faithful.bind
  · exact Faithful.collect fun name => faithful_perform fun _ => rfl
  intro networkInterfaces
  exact (faithful_ofExcept _).bind fun privateIps => faithful_ofExcept (.ok _)

theorem run_readMachine (inPlace : InPlace vmName vm nics azure) :
    (run (Azure.handle true) (readMachine vmName) azure).1 =
      (staticPrivateIps nics).map fun privateIps =>
        ⟨vm.networkInterfaces.map fun nir => AzureResourceIdParser.lastOfId nir.id,
          nics.filterMap publicIpNameOf, privateIps⟩ := by
  have machine : run (Azure.handle true) (send (.getVirtualMachine vmName)) azure =
      (.ok vm, azure) := run_getVirtualMachine inPlace.machine
  have interfaces : run (Azure.handle true)
      (collect (vm.networkInterfaces.map fun nir => AzureResourceIdParser.lastOfId nir.id)
        fun name => send (.getNetworkInterface name)) azure = (.ok nics, azure) := by
    apply run_collect_of_forall₂
    apply List.forall₂_map_left_iff.mpr
    exact inPlace.interfaces.imp fun nir nic stored => run_getNetworkInterface stored
  rw [readMachine, run_bind_of_ok machine, run_bind_of_ok interfaces, run_ofExcept_bind]
  cases staticPrivateIps nics with
  | error e => rfl
  | ok privateIps => rfl

/-- Reading a machine in place changes nothing, and it finds the machine's data
or raises another error than "Not Found". -/
theorem readMachine_ends (inPlace : InPlace vmName vm nics state.2) :
    ∃ after, after.2 = state.2 ∧
      ((∃ data, DataOf vm nics data ∧
          run unreliable (readMachine vmName) state = (.ok data, after)) ∨
        ∃ e, e.isNotFound = false ∧
          run unreliable (readMachine vmName) state = (.error e, after)) := by
  have ended := (readMachine_faithful vmName).ends state
  refine ⟨_, (readMachine_faithful vmName).leaves state, ?_⟩
  rw [run_readMachine inPlace] at ended
  rcases ended with plain | ⟨e, isRaised⟩
  · cases collected : staticPrivateIps nics with
    | ok privateIps =>
        rw [collected] at plain
        exact Or.inl ⟨_, ⟨rfl, rfl, collected⟩, Prod.ext plain rfl⟩
    | error e =>
        rw [collected] at plain
        exact Or.inr ⟨e, isNotFound_of_staticPrivateIps collected, Prod.ext plain rfl⟩
  · exact Or.inr ⟨e.val, e.property, Prod.ext isRaised rfl⟩

/-- The second reading finds the same machine or nothing, or it raises another
error. -/
theorem machineForDisk_ends (inPlace : InPlace vmName vm nics state.2) :
    ∃ after, after.2 = state.2 ∧
      (run unreliable (machineForDisk vmName) state = (.ok (some vm), after) ∨
        run unreliable (machineForDisk vmName) state = (.ok none, after) ∨
        ∃ e, e.isNotFound = false ∧
          run unreliable (machineForDisk vmName) state = (.error e, after)) := by
  have faithful : Faithful Request.mayFail (Subtype.val : OtherError → PyException)
      (Azure.handle true) (VirtualMachineService.getVm vmName >>= fun vm => pure (some vm)) :=
    (Faithful.retry (faithful_perform fun _ => rfl)).bind fun vm => faithful_ofExcept (.ok (some vm))
  have plain : run (Azure.handle true)
      (VirtualMachineService.getVm vmName >>= fun vm => pure (some vm)) state.2 =
        (.ok (some vm), state.2) := by
    have found : run (Azure.handle true) (VirtualMachineService.getVm vmName) state.2 =
        (.ok vm, state.2) := VirtualMachineService.run_getVm inPlace.machine
    rw [run_bind_of_ok found]
    rfl
  have ended := faithful.ends state
  refine ⟨_, faithful.leaves state, ?_⟩
  rw [plain] at ended
  rcases ended with same | ⟨e, isRaised⟩
  · exact Or.inl (run_catching_of_ok (Prod.ext same rfl))
  · have caught := run_catching_of_error
      (h := fun e : PyException => if e.isCloudError then pure none else raise e)
      (Prod.ext isRaised rfl)
    by_cases isCloudError : e.val.isCloudError = true
    · rw [if_pos isCloudError] at caught
      exact Or.inr (Or.inl caught)
    · rw [if_neg isCloudError] at caught
      exact Or.inr (Or.inr ⟨e.val, e.property, caught⟩)

end Reads

/-- A machine that survives its deletion is as it was, and the deletion has
raised another error than "Not Found". -/
theorem deleteVm_of_survives {state : UnreliableAzure}
    (survives : (run unreliable (VirtualMachineService.deleteVm vmName) state).2.2.Exists
      (.virtualMachine vmName)) :
    ∃ e after, run unreliable (VirtualMachineService.deleteVm vmName) state = (.error e, after) ∧
      e.isNotFound = false ∧ after.2 = state.2 := by
  let untouched : UnreliableAzure → Prop := fun later =>
    later.2 = state.2 ∨ ¬ later.2.Exists (.virtualMachine vmName)
  have preserved : ∀ later, untouched later →
      untouched (run unreliable (send (.deleteVirtualMachine vmName)) later).2 := by
    intro later before
    rcases faulty_state Request.mayFail Subtype.val (Azure.handle true)
      (.deleteVirtualMachine vmName) later with handled | same
    · exact Or.inr (handled ▸ Azure.not_exists_deleteVirtualMachine vmName)
    · exact before.imp (fun equal => same.trans equal) fun absent => same ▸ absent
  have started : untouched state := Or.inl rfl
  rcases run_retry_of_preserved preserved started with ⟨last, before, ran⟩
  have after := preserved last before
  rw [VirtualMachineService.deleteVm, retryConnection, ran] at survives ⊢
  rcases after with same | absent
  · rcases unreliable_answer (.deleteVirtualMachine vmName) last with ⟨e, isRaised⟩ | handled
    · exact ⟨e.val, _, Prod.ext isRaised rfl, e.property, same⟩
    · have state_eq := congrArg Prod.snd handled
      exact absurd survives (state_eq ▸ Azure.not_exists_deleteVirtualMachine vmName)
  · exact absurd survives absent

/-! ## What is left to delete -/

/-- The release of the static addresses at the end of `delete`. -/
def releasePrivateIps (groupName : Text) (privateIps : List Text) : Shell Unit :=
  when (privateIps ≠ []) <|
    (IpService.releaseIps groupName privateIps).catching fun _ => pure ()

/-- What `delete` does after its reads. -/
def deleteFound (groupName vmName : Text) (data : MachineData) (found : Option VirtualMachine) :
    Shell Unit := do
  orNotFound (VirtualMachineService.deleteVm vmName)
  orNotFound (NetworkService.deleteNics data.interfaceNames)
  orNotFound (NetworkService.deleteIps data.publicIpNames)
  deleteDiskOf found
  NetworkService.deleteNsgArtifactsAssociatedWithVm vmName
  releasePrivateIps groupName data.privateIps

theorem delete_eq (groupName vmName : Text) :
    delete groupName vmName = readMachine vmName >>= fun data =>
      machineForDisk vmName >>= deleteFound groupName vmName data :=
  rfl

/-- With the machine at hand, the loop over the four commands comes first. -/
theorem deleteFound_some (groupName vmName : Text) (data : MachineData) (vm : VirtualMachine) :
    deleteFound groupName vmName data (some vm) =
      forEach (commands vmName data vm) (fun command => orNotFound command.program) >>= fun _ =>
        NetworkService.deleteNsgArtifactsAssociatedWithVm vmName >>= fun _ =>
          releasePrivateIps groupName data.privateIps := by
  simp only [commands, forEach, bind_assoc]
  rfl

/-- The request gives addresses back to the pool. -/
def Releases (request : Request) : Prop :=
  ∃ values poolId reservationId ownerId,
    request = .releaseFromPool values poolId reservationId ownerId

theorem releasePrivateIps_removes (groupName : Text) (privateIps : List Text) :
    Within OnlyRemoves (releasePrivateIps groupName privateIps) := by
  apply Within.when
  intro _
  exact (within_perform ⟨rfl, rfl⟩).catching fun _ => within_pure ()

/-- The release never raises, and where the pool answers it the addresses are no
longer checked out. -/
theorem releasePrivateIps_ends (groupName : Text) (privateIps : List Text)
    (state : UnreliableAzure) :
    ∃ after, run unreliable (releasePrivateIps groupName privateIps) state = (.ok (), after) ∧
      (CalmOn Releases unreliable (releasePrivateIps groupName privateIps) state →
        ∀ address ∈ privateIps, ¬ after.2.Has (.poolItem (poolItem groupName address))) := by
  by_cases empty : privateIps = []
  · subst empty
    exact ⟨state, rfl, fun _ address member => by cases member⟩
  rw [releasePrivateIps, when, if_pos empty]
  cases released : run unreliable (IpService.releaseIps groupName privateIps) state with
  | mk outcome after =>
      cases outcome with
      | ok a =>
          refine ⟨after, run_catching_of_ok released, fun _ address member remains => ?_⟩
          have handled := congrArg (fun result => result.2.checkedOut)
            (run_unreliable_of_ok released)
          change _ ∈ after.2.checkedOut at remains
          rw [← handled] at remains
          exact of_decide_eq_true (List.mem_filter.mp remains).2 (List.mem_map_of_mem member)
      | error e =>
          refine ⟨after, (run_catching_of_error released).trans rfl, fun calm => ?_⟩
          rcases calm.body_of_catching.1 ⟨_, _, _, _, rfl⟩ with ⟨a, answered⟩
          have failed : (unreliable (.releaseFromPool privateIps (IpService.getPoolId groupName)
              groupName IpService.poolItemOwner) state).1 = .error e := congrArg Prod.fst released
          rw [failed] at answered
          cases answered

/-- What a machine owns is the target of a command, an artifact or an address
to be released. -/
theorem Owns.target {azure : Azure} {data : MachineData} {belonging : Belonging}
    (owns : Owns groupName vmName vm nics belonging) (inPlace : InPlace vmName vm nics azure)
    (first : ∀ nic ∈ nics, AddressesFirst nic) (dataOf : DataOf vm nics data) :
    (∃ command ∈ commands vmName data vm, command.targets belonging) ∨
      NetworkService.IsArtifact vmName belonging ∨
      ∃ address ∈ data.privateIps, belonging = .poolItem (poolItem groupName address) := by
  simp only [commands, List.exists_mem_cons_iff]
  cases owns with
  | machine => exact Or.inl (Or.inl rfl)
  | @interface nic member =>
      rcases exists_related inPlace.interfaces member with ⟨nir, nirMem, found⟩
      refine Or.inl (Or.inr (Or.inl ⟨nic.name, ?_, rfl⟩))
      rw [dataOf.interfaceNames, (Store.lookup_eq_some found).2]
      exact List.mem_map_of_mem nirMem
  | @publicIp nic ipConfiguration id member configured refers =>
      refine Or.inl (Or.inr (Or.inr (Or.inl ⟨_, ?_, rfl⟩)))
      rw [dataOf.publicIpNames]
      exact List.mem_filterMap.mpr
        ⟨nic, member, (first nic member).publicIpNameOf_eq configured refers⟩
  | osDisk isDisk => exact Or.inl (Or.inr (Or.inr (Or.inr (Or.inl ⟨_, isDisk, rfl⟩))))
  | artifact carries => exact Or.inr (Or.inl ⟨_, carries, rfl⟩)
  | @privateIp nic ipConfiguration member configured isStatic =>
      exact Or.inr (Or.inr ⟨_, mem_staticPrivateIps dataOf.privateIps member (first nic member)
        configured isStatic, rfl⟩)

/-! ## One attempt -/

/-- The security group and the inbound rules are deleted without an exception. -/
def DeletesArtifacts (vmName : Text) (state : UnreliableAzure) : Prop :=
  (run unreliable (NetworkService.deleteNsgArtifactsAssociatedWithVm vmName) state).1 = .ok ()

/-- An attempt that deletes the machine has read it twice, and it goes through
all of its commands and the deletion of the artifacts. -/
def Uninterrupted (vmName : Text) (state : UnreliableAzure) : Prop :=
  match run unreliable (readMachine vmName) state with
  | (.error _, _) => True
  | (.ok data, read) =>
      match run unreliable (machineForDisk vmName) read with
      | (.error _, _) => True
      | (.ok found, readAgain) =>
          (run unreliable (VirtualMachineService.deleteVm vmName) readAgain).2.2.Exists
              (.virtualMachine vmName) ∨
            ∃ vm, found = some vm ∧
              Completes (DeletesArtifacts vmName) (commands vmName data vm) readAgain

/-- An attempt leaves nothing that the machine owns.  The addresses are those
that the pool has not failed to take back. -/
def LeavesNothing (groupName vmName : Text) (vm : VirtualMachine) (nics : List NetworkInterface)
    (program : Shell Unit) (state : UnreliableAzure) : Prop :=
  ∀ belonging, Owns groupName vmName vm nics belonging →
    ((∃ item, belonging = .poolItem item) → CalmOn Releases unreliable program state) →
    ¬ (run unreliable program state).2.2.Has belonging

section Attempts

variable {state : UnreliableAzure} {data : MachineData} {found : Option VirtualMachine}

/-- An attempt that does not delete the machine changes nothing. -/
theorem deleteFound_of_survives
    (survives : (run unreliable (VirtualMachineService.deleteVm vmName) state).2.2.Exists
      (.virtualMachine vmName)) :
    ∃ e after, run unreliable (deleteFound groupName vmName data found) state =
      (.error e, after) ∧ e.isNotFound = false ∧ after.2 = state.2 := by
  rcases deleteVm_of_survives survives with ⟨e, after, failed, other, same⟩
  exact ⟨e, after, run_bind_of_error (run_orNotFound_of_error failed other), other, same⟩

/-- An attempt that goes through returns and leaves nothing. -/
theorem deleteFound_of_completes {azure : Azure} (inPlace : InPlace vmName vm nics azure)
    (first : ∀ nic ∈ nics, AddressesFirst nic) (readable : HasReadableVhd vm)
    (dataOf : DataOf vm nics data)
    (completes : Completes (DeletesArtifacts vmName) (commands vmName data vm) state) :
    (run unreliable (deleteFound groupName vmName data (some vm)) state).1 = .ok () ∧
      LeavesNothing groupName vmName vm nics (deleteFound groupName vmName data (some vm))
        state := by
  rcases completes.run (commands_delete vmName data readable) with
    ⟨deleted, commandsRun, artifactsDeleted, targetsGone⟩
  have artifacts := NetworkService.deleteNsgArtifactsAssociatedWithVm_empties vmName
  obtain ⟨cleared, artifactsRun⟩ : ∃ cleared,
      run unreliable (NetworkService.deleteNsgArtifactsAssociatedWithVm vmName) deleted =
        (.ok (), cleared) := ⟨_, Prod.ext artifactsDeleted rfl⟩
  rcases releasePrivateIps_ends groupName data.privateIps cleared with
    ⟨after, releaseRun, released⟩
  have ran : run unreliable (deleteFound groupName vmName data (some vm)) state =
      (.ok (), after) := by
    rw [deleteFound_some, run_bind_of_ok commandsRun, run_bind_of_ok artifactsRun, releaseRun]
  have stayedCleared : ∀ {belonging}, after.2.Has belonging → cleared.2.Has belonging := by
    intro belonging remains
    apply has_of_has_run (releasePrivateIps_removes groupName data.privateIps)
    rw [releaseRun]
    exact remains
  have stayedDeleted : ∀ {belonging}, cleared.2.Has belonging → deleted.2.Has belonging := by
    intro belonging remains
    apply has_of_has_run artifacts.removes
    rw [artifactsRun]
    exact remains
  refine ⟨congrArg Prod.fst ran, fun belonging owns calm remains => ?_⟩
  rw [ran] at remains
  rcases owns.target inPlace first dataOf with
    ⟨command, member, isTarget⟩ | isArtifact | ⟨address, member, rfl⟩
  · exact targetsGone command member belonging isTarget (stayedDeleted (stayedCleared remains))
  · exact artifacts.empties artifactsRun belonging isArtifact (stayedCleared remains)
  · have calmEnd := calm ⟨_, rfl⟩
    rw [deleteFound_some] at calmEnd
    exact released ((calmEnd.rest_of_ok commandsRun).rest_of_ok artifactsRun) address member remains

section Reads

variable {read again : UnreliableAzure}
  (readRun : run unreliable (readMachine vmName) state = (.ok data, read))
  (foundRun : run unreliable (machineForDisk vmName) read = (.ok found, again))

include readRun foundRun

theorem Uninterrupted.continues (uninterrupted : Uninterrupted vmName state) :
    (run unreliable (VirtualMachineService.deleteVm vmName) again).2.2.Exists
        (.virtualMachine vmName) ∨
      ∃ vm, found = some vm ∧
        Completes (DeletesArtifacts vmName) (commands vmName data vm) again := by
  rw [Uninterrupted, readRun] at uninterrupted
  dsimp only at uninterrupted
  rw [foundRun] at uninterrupted
  exact uninterrupted

theorem run_delete_of_reads :
    run unreliable (delete groupName vmName) state =
      run unreliable (deleteFound groupName vmName data found) again := by
  rw [delete_eq, run_bind_of_ok readRun, run_bind_of_ok foundRun]

theorem deleteAzureVm_of_survives
    (survives : (run unreliable (VirtualMachineService.deleteVm vmName) again).2.2.Exists
      (.virtualMachine vmName)) :
    ∃ e after, run unreliable (deleteAzureVm groupName vmName) state = (.error e, after) ∧
      after.2 = again.2 := by
  obtain ⟨e, after, failed, other, same⟩ : ∃ e after,
      run unreliable (deleteFound groupName vmName data found) again = (.error e, after) ∧
        e.isNotFound = false ∧ after.2 = again.2 := deleteFound_of_survives survives
  have ran := (run_delete_of_reads readRun foundRun).trans failed
  exact ⟨e, after, run_orNotFound_of_error ran other, same⟩

theorem deleteAzureVm_of_returns
    (returned : (run unreliable (deleteFound groupName vmName data found) again).1 = .ok ())
    (leavesNothing : LeavesNothing groupName vmName vm nics
      (deleteFound groupName vmName data found) again) :
    (run unreliable (deleteAzureVm groupName vmName) state).1 = .ok () ∧
      LeavesNothing groupName vmName vm nics (deleteAzureVm groupName vmName) state := by
  obtain ⟨after, ends⟩ : ∃ after,
      run unreliable (deleteFound groupName vmName data found) again = (.ok (), after) :=
    ⟨_, Prod.ext returned rfl⟩
  have ran : run unreliable (deleteAzureVm groupName vmName) state = (.ok (), after) :=
    run_orNotFound_of_ok ((run_delete_of_reads readRun foundRun).trans ends)
  refine ⟨congrArg Prod.fst ran, fun belonging owns calm => ?_⟩
  rw [ran, ← ends]
  apply leavesNothing belonging owns
  intro isItem
  have calmDelete := (calm isItem).body_of_catching
  rw [delete_eq] at calmDelete
  exact (calmDelete.rest_of_ok readRun).rest_of_ok foundRun

end Reads

/-- An attempt on a machine in place raises and changes nothing, or it returns
and leaves nothing. -/
theorem deleteAzureVm_ends (groupName : Text) (inPlace : InPlace vmName vm nics state.2)
    (first : ∀ nic ∈ nics, AddressesFirst nic) (readable : HasReadableVhd vm)
    (uninterrupted : Uninterrupted vmName state) :
    (∃ e after, run unreliable (deleteAzureVm groupName vmName) state = (.error e, after) ∧
        after.2 = state.2) ∨
      (run unreliable (deleteAzureVm groupName vmName) state).1 = .ok () ∧
        LeavesNothing groupName vmName vm nics (deleteAzureVm groupName vmName) state := by
  rcases readMachine_ends inPlace with ⟨read, same, ⟨data, dataOf, readRun⟩ | ⟨e, other, failed⟩⟩
  · rcases machineForDisk_ends (same ▸ inPlace) with ⟨again, sameAgain, ended⟩
    have unchanged : again.2 = state.2 := sameAgain.trans same
    rcases ended with foundRun | foundRun | ⟨e, other, failed⟩
    · rcases uninterrupted.continues readRun foundRun with survives | ⟨_, ⟨⟩, completes⟩
      · rw [← unchanged]
        exact Or.inl (deleteAzureVm_of_survives readRun foundRun survives)
      · rcases deleteFound_of_completes inPlace first readable dataOf completes with
          ⟨returned, nothing⟩
        exact Or.inr (deleteAzureVm_of_returns readRun foundRun returned nothing)
    · -- without the second reading the machine is not deleted
      rcases uninterrupted.continues readRun foundRun with survives | ⟨_, ⟨⟩, _⟩
      rw [← unchanged]
      exact Or.inl (deleteAzureVm_of_survives readRun foundRun survives)
    · have ran : run unreliable (delete groupName vmName) state = (.error e, again) := by
        rw [delete_eq, run_bind_of_ok readRun, run_bind_of_error failed]
      exact Or.inl ⟨e, again, run_orNotFound_of_error ran other, unchanged⟩
  · have ran : run unreliable (delete groupName vmName) state = (.error e, read) :=
      run_bind_of_error failed
    exact Or.inl ⟨e, read, run_orNotFound_of_error ran other, same⟩

end Attempts

/-! ## Repeated attempts -/

/-- The services after a number of attempts. -/
def afterAttempts (groupName vmName : Text) (attempts : Nat) (state : UnreliableAzure) :
    UnreliableAzure :=
  (fun state => (run unreliable (deleteAzureVm groupName vmName) state).2)^[attempts] state

/-- After uninterrupted attempts that have raised, the machine is in place. -/
theorem InPlace.afterAttempts {state : UnreliableAzure} {attempts : Nat}
    (inPlace : InPlace vmName vm nics state.2) (first : ∀ nic ∈ nics, AddressesFirst nic)
    (readable : HasReadableVhd vm)
    (uninterrupted : ∀ attempt < attempts,
      Uninterrupted vmName (afterAttempts groupName vmName attempt state))
    (raised : ∀ attempt < attempts, ∃ e, (run unreliable (deleteAzureVm groupName vmName)
      (afterAttempts groupName vmName attempt state)).1 = .error e) :
    InPlace vmName vm nics (afterAttempts groupName vmName attempts state).2 := by
  induction attempts with
  | zero => exact inPlace
  | succ attempts ih =>
      have before := ih (fun attempt earlier => uninterrupted attempt (Nat.lt_succ_of_lt earlier))
        (fun attempt earlier => raised attempt (Nat.lt_succ_of_lt earlier))
      have last := Nat.lt_succ_self attempts
      rw [DeleteAzureVMOperation.afterAttempts, Function.iterate_succ_apply']
      rcases deleteAzureVm_ends groupName before first readable (uninterrupted attempts last) with
        ⟨e, after, ran, same⟩ | ⟨returned, _⟩
      · have sameAfter : (run unreliable (deleteAzureVm groupName vmName)
            (DeleteAzureVMOperation.afterAttempts groupName vmName attempts state)).2.2 =
          (DeleteAzureVMOperation.afterAttempts groupName vmName attempts state).2 := by
          rw [ran]
          exact same
        exact sameAfter.symm ▸ before
      · rcases raised attempts last with ⟨e, failed⟩
        rw [returned] at failed
        cases failed

/-- The first of the attempts that returns leaves nothing that the machine owns. -/
def SafelyRetryable (groupName vmName : Text) (vm : VirtualMachine) (nics : List NetworkInterface)
    (state : UnreliableAzure) : Prop :=
  ∀ attempts,
    (∀ attempt < attempts, ∃ e, (run unreliable (deleteAzureVm groupName vmName)
      (afterAttempts groupName vmName attempt state)).1 = .error e) →
    (run unreliable (deleteAzureVm groupName vmName)
      (afterAttempts groupName vmName attempts state)).1 = .ok () →
    LeavesNothing groupName vmName vm nics (deleteAzureVm groupName vmName)
      (afterAttempts groupName vmName attempts state)

/-- In every sequence of uninterrupted attempts, the first one that returns
leaves nothing that the machine owns. -/
theorem deleteAzureVm_retryable {state : UnreliableAzure} {attempts : Nat}
    (inPlace : InPlace vmName vm nics state.2) (first : ∀ nic ∈ nics, AddressesFirst nic)
    (readable : HasReadableVhd vm)
    (uninterrupted : ∀ attempt ≤ attempts,
      Uninterrupted vmName (afterAttempts groupName vmName attempt state))
    (raised : ∀ attempt < attempts, ∃ e, (run unreliable (deleteAzureVm groupName vmName)
      (afterAttempts groupName vmName attempt state)).1 = .error e)
    (returned : (run unreliable (deleteAzureVm groupName vmName)
      (afterAttempts groupName vmName attempts state)).1 = .ok ()) :
    LeavesNothing groupName vmName vm nics (deleteAzureVm groupName vmName)
      (afterAttempts groupName vmName attempts state) := by
  have stillInPlace := inPlace.afterAttempts first readable
    (fun attempt earlier => uninterrupted attempt earlier.le) raised
  rcases deleteAzureVm_ends groupName stillInPlace first readable (uninterrupted attempts le_rfl) with
    ⟨e, after, failed, _⟩ | ⟨_, leavesNothing⟩
  · rw [failed] at returned
    cases returned
  · exact leavesNothing

/-- Once the machine is deleted, no attempt changes anything. -/
theorem deleteAzureVm_of_absent (groupName : Text) {state : UnreliableAzure}
    (absent : ¬ state.2.Exists (.virtualMachine vmName)) :
    (run unreliable (deleteAzureVm groupName vmName) state).2.2 = state.2 := by
  have notFound : run (Azure.handle true) (readMachine vmName) state.2 =
      (.error .notFound, state.2) := by
    apply run_bind_of_error
    have missing : Store.lookup VirtualMachine.name vmName state.2.virtualMachines = none :=
      Store.lookup_eq_none_iff.mpr fun vm member named => absent ⟨vm, member, named⟩
    change (Azure.find VirtualMachine.name vmName state.2.virtualMachines, state.2) = _
    rw [Azure.find, missing]
  have same := (readMachine_faithful vmName).leaves state
  obtain ⟨e, failed⟩ : ∃ e, (run unreliable (readMachine vmName) state).1 = .error e := by
    have ended := (readMachine_faithful vmName).ends state
    rw [notFound] at ended
    rcases ended with plain | ⟨e, isRaised⟩
    · exact ⟨_, plain⟩
    · exact ⟨_, isRaised⟩
  obtain ⟨after, ran, unchanged⟩ : ∃ after,
      run unreliable (delete groupName vmName) state = (.error e, after) ∧ after.2 = state.2 :=
    ⟨_, run_bind_of_error (Prod.ext failed rfl), same⟩
  cases isNotFound : e.isNotFound with
  | true =>
      rw [deleteAzureVm, run_orNotFound_of_notFound ran isNotFound]
      exact unchanged
  | false =>
      rw [deleteAzureVm, run_orNotFound_of_error ran isNotFound]
      exact unchanged

/-- What an interrupted attempt has left is still there after any number of
further attempts. -/
theorem afterAttempts_of_absent {state : UnreliableAzure}
    (absent : ¬ state.2.Exists (.virtualMachine vmName)) (attempts : Nat) :
    (afterAttempts groupName vmName attempts state).2 = state.2 := by
  induction attempts with
  | zero => rfl
  | succ attempts ih =>
      have stillAbsent : ¬ (afterAttempts groupName vmName attempts state).2.Exists
          (.virtualMachine vmName) := by
        rw [ih]
        exact absent
      rw [afterAttempts, Function.iterate_succ_apply']
      exact (deleteAzureVm_of_absent groupName stillAbsent).trans ih

/-- If the machine is gone and another of its resources or its disk is left, no
further attempt leaves nothing. -/
theorem not_leavesNothing_of_absent {state : UnreliableAzure} {belonging : Belonging}
    (absent : ¬ state.2.Exists (.virtualMachine vmName))
    (owns : Owns groupName vmName vm nics belonging)
    (notPoolItem : ∀ item, belonging ≠ .poolItem item)
    (remains : state.2.Has belonging) (attempts : Nat) :
    ¬ LeavesNothing groupName vmName vm nics (deleteAzureVm groupName vmName)
      (afterAttempts groupName vmName attempts state) := by
  intro leavesNothing
  apply leavesNothing belonging owns
  · rintro ⟨item, isItem⟩
    exact absurd isItem (notPoolItem item)
  · have unchanged : (afterAttempts groupName vmName (attempts + 1) state).2 = state.2 :=
      afterAttempts_of_absent absent (attempts + 1)
    rw [afterAttempts, Function.iterate_succ_apply'] at unchanged
    rw [afterAttempts, unchanged]
    exact remains

/-- A machine with one interface and a managed disk. -/
def smallMachine : VirtualMachine where
  name := "vm".toList
  networkInterfaces := [⟨"/nic".toList, true⟩]
  osDisk := ⟨"disk".toList, none, true⟩
  provisioningState := VirtualMachineService.succeededProvisioningState

def smallInterface : NetworkInterface where
  name := "nic".toList
  ipConfigurations := [⟨"10.0.0.4".toList, .static, "subnet".toList, some "/ip".toList⟩]

/-- The machine with all it owns. -/
def smallSandbox : Azure :=
  { Azure.blank with
    networkSecurityGroups := [⟨vmNsgName "vm".toList, []⟩]
    virtualMachines := [smallMachine]
    networkInterfaces := [smallInterface]
    publicIpAddresses := [⟨"ip".toList, none⟩]
    disks := [.managed "disk".toList]
    checkedOut := [poolItem "group".toList "10.0.0.4".toList] }

def conflict : OtherError :=
  ⟨.cloudError "Conflict".toList [], by decide⟩

theorem smallMachine_inPlace : InPlace "vm".toList smallMachine [smallInterface] smallSandbox where
  machine := by decide
  interfaces := List.Forall₂.cons (by decide) List.Forall₂.nil

theorem smallInterface_addressesFirst : ∀ nic ∈ [smallInterface], AddressesFirst nic := by
  simp [smallInterface, AddressesFirst]

theorem smallMachine_readable : HasReadableVhd smallMachine := by
  rintro uri ⟨⟩

/-- The first attempt fails to read the machine, the second one leaves nothing. -/
theorem deleteAzureVm_retryable_example :
    LeavesNothing "group".toList "vm".toList smallMachine [smallInterface]
      (deleteAzureVm "group".toList "vm".toList)
      (afterAttempts "group".toList "vm".toList 1 ([.raisesBefore conflict], smallSandbox)) := by
  apply deleteAzureVm_retryable
  · exact smallMachine_inPlace
  · exact smallInterface_addressesFirst
  · exact smallMachine_readable
  · intro attempt le
    rcases Nat.le_one_iff_eq_zero_or_eq_one.mp le with rfl | rfl
    · trivial
    · -- each loop has one target, so no later one can be left
      have last : ∀ {request target name} (state : UnreliableAzure),
          InOrder request target [name] (request name) state := by
        rintro request target name state other later isSuffix - -
        rcases List.suffix_cons_iff.mp isSuffix with same | shorter
        · rw [(List.cons.inj same).2]
          simp
        · simp at shorter
      exact Or.inr ⟨smallMachine, rfl, ⟨⟨trivial, trivial⟩, trivial⟩,
        ⟨⟨last _, trivial⟩, trivial⟩, ⟨⟨last _, trivial⟩, trivial⟩, ⟨⟨trivial, trivial⟩, trivial⟩,
        rfl⟩
  · intro attempt earlier
    rw [Nat.lt_one_iff.mp earlier]
    exact ⟨_, rfl⟩
  · rfl

/-- An error between the deletion of the machine and that of its interface: the
next attempt does not find the machine, returns, and leaves the interface. -/
theorem interrupted_deletion_leaves_interface :
    InPlace "vm".toList smallMachine [smallInterface] smallSandbox ∧
      ¬ SafelyRetryable "group".toList "vm".toList smallMachine [smallInterface]
        ([.completes, .completes, .completes, .completes, .raisesBefore conflict],
          smallSandbox) := by
  refine ⟨smallMachine_inPlace, fun safely => ?_⟩
  have raised : ∀ attempt < 1, ∃ e, (run unreliable
      (deleteAzureVm "group".toList "vm".toList) (afterAttempts "group".toList "vm".toList attempt
        ([.completes, .completes, .completes, .completes, .raisesBefore conflict],
          smallSandbox))).1 = .error e := by
    intro attempt earlier
    rw [Nat.lt_one_iff.mp earlier]
    exact ⟨_, rfl⟩
  have leavesNothing := safely 1 raised rfl
  apply leavesNothing _ (Owns.interface List.mem_cons_self)
  · rintro ⟨item, ⟨⟩⟩
  · decide

end DeleteAzureVMOperation

end AzureShell
