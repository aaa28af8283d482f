import AzureShell.Apps.SecurityGroups
import AzureShell.Delete.Cleanup
import AzureShell.Delete.Operation
import AzureShell.Deploy.AllOrNothing
import AzureShell.Deploy.Locking
import AzureShell.Locks.LockProvider
import AzureShell.Naming.SubnetNames

/-!
# The locks of a sandbox

The driver keeps one dictionary of locks for all its sandboxes.  Deployments
and updates of custom rules enter keys made of the names of security groups; the
cleanup of a sandbox removes two keys under which nothing was entered.  A key of
a sandbox is gone after its cleanup only if it never was there.
-/

namespace AzureShell

open Prog SecurityGroupService NameProviderService

/-- The keys of `lock_dictionary` after a request. -/
def GenericLockProvider.react (lockDictionary : List Text) : Request → List Text
  | .getResourceLock lockKey =>
      if lockKey ∈ lockDictionary then lockDictionary else lockKey :: lockDictionary
  | .removeLockResource lockKey => lockDictionary.filter (· ≠ lockKey)
  | _ => lockDictionary

/-- The keys of `lock_dictionary` after requests in this order. -/
def GenericLockProvider.after (lockDictionary : List Text) (trace : List Request) : List Text :=
  trace.foldl GenericLockProvider.react lockDictionary

namespace GenericLockProvider

variable {lockDictionary : List Text} {trace : List Request} {lockKey : Text}

theorem mem_react_of_mem {request : Request} (member : lockKey ∈ lockDictionary)
    (keeps : request ≠ .removeLockResource lockKey) : lockKey ∈ react lockDictionary request := by
  cases request with
  | getResourceLock other =>
      simp only [react]
      split
      · exact member
      · exact List.mem_cons_of_mem other member
  | removeLockResource other =>
      have different : lockKey ≠ other := fun same => keeps (same ▸ rfl)
      simp [react, member, different]
  | _ => exact member

/-- A key stays until it is removed. -/
theorem mem_after_of_mem (member : lockKey ∈ lockDictionary)
    (keeps : .removeLockResource lockKey ∉ trace) : lockKey ∈ after lockDictionary trace := by
  induction trace generalizing lockDictionary with
  | nil => exact member
  | cons request rest ih =>
      rw [List.mem_cons, not_or] at keeps
      exact ih (mem_react_of_mem member (Ne.symm keeps.1)) keeps.2

/-- A key that is asked for is there, if it is not removed. -/
theorem mem_after_of_asked (asked : .getResourceLock lockKey ∈ trace)
    (keeps : .removeLockResource lockKey ∉ trace) : lockKey ∈ after lockDictionary trace := by
  induction trace generalizing lockDictionary with
  | nil => cases asked
  | cons request rest ih =>
      rw [List.mem_cons, not_or] at keeps
      rcases List.mem_cons.mp asked with rfl | later
      · apply mem_after_of_mem _ keeps.2
        simp only [react]
        split
        · assumption
        · exact List.mem_cons_self
      · exact ih later keeps.2

/-! The keys are those of the lock provider's dictionary when its calls are made
one after another. -/

section
variable {ι : Type} [DecidableEq ι] {pool : Conc.Pool ι (Provider ι Text) (Pc Text)} {i : ι}

/-- Between two calls of thread `i` the dictionary has these keys. -/
structure Represents (lockDictionary : List Text) (pool : Conc.Pool ι (Provider ι Text) (Pc Text))
    (i : ι) : Prop where
  keys : ∀ key, key ∈ lockDictionary ↔ pool.shared.lockDictionary key ≠ none
  free : pool.shared.lock = none
  idle : pool.pc i = .idle

/-- A call changes the dictionary as the request changes its keys. -/
theorem react_simulates (represents : Represents lockDictionary pool i) (request : Request) :
    ∃ next, Conc.Pool.Reaches LockProvider (fun _ j => j = i) pool next ∧
      Represents (react lockDictionary request) next i := by
  rcases represents with ⟨keys, free, idle⟩
  cases request with
  | getResourceLock lockKey =>
      rcases getResourceLock_alone i free lockKey with ⟨finished, lock, call, freed, known⟩
      have alone : Conc.Pool.Alone LockProvider i (pool.shared, pool.pc i) (finished, .idle) := by
        rw [idle]
        exact call.move (.goOn finished lockKey lock)
      refine ⟨_, Conc.Pool.Reaches.of_alone alone, ?_, freed, Conc.Pool.moved_self _ _ _ _⟩
      intro key
      rw [Conc.Pool.moved, known key, ← keys key, react]
      by_cases present : lockKey ∈ lockDictionary
      · rw [if_pos present]
        exact (or_iff_right_of_imp fun same => same ▸ present).symm
      · rw [if_neg present, List.mem_cons]
  | removeLockResource lockKey =>
      rcases removeLockResource_alone i free lockKey with ⟨finished, call, freed, known⟩
      have alone : Conc.Pool.Alone LockProvider i (pool.shared, pool.pc i) (finished, .idle) := by
        rw [idle]
        exact call
      refine ⟨_, Conc.Pool.Reaches.of_alone alone, ?_, freed, Conc.Pool.moved_self _ _ _ _⟩
      intro key
      rw [Conc.Pool.moved, known key, ← keys key, react, List.mem_filter, decide_eq_true_eq]
      exact and_comm
  | _ => exact ⟨pool, .refl, keys, free, idle⟩

theorem after_simulates (represents : Represents lockDictionary pool i) (trace : List Request) :
    ∃ next, Conc.Pool.Reaches LockProvider (fun _ j => j = i) pool next ∧
      Represents (after lockDictionary trace) next i := by
  induction trace generalizing lockDictionary pool with
  | nil => exact ⟨pool, .refl, represents⟩
  | cons request rest ih =>
      rcases react_simulates represents request with ⟨middle, first, isRepresented⟩
      rcases ih isRepresented with ⟨next, later, isRepresented⟩
      exact ⟨next, first.trans later, isRepresented⟩

end

end GenericLockProvider

/-! ## The commands of a sandbox -/

/-- A command in a reservation. -/
inductive SandboxCommand (reservationId : Text) where
  | deploy (request : DeployRequest) (isOwn : request.reservationId = reservationId)
  | setAppsSecurityGroups (environment : SetAppSecurityGroupsOperation.Environment)
      (models : List AppSecurityGroupModel)
  | deleteVm (vmName : Text)

namespace SandboxCommand

variable {reservationId : Text}

/-- The requests of a command. -/
def trace (command : SandboxCommand reservationId) (state : FaultyAzure) : List Request :=
  match command with
  | deploy request _ => requests services (DeployAzureVMOperation.deployVmGeneric request) state
  | setAppsSecurityGroups environment models => requests services
      (SetAppSecurityGroupsOperation.setAppsSecurityGroups environment reservationId models) state
  | deleteVm vmName =>
      requests services (DeleteAzureVMOperation.deleteAzureVm reservationId vmName) state

/-- The command asks for no lock: it deletes, it has no app to update, or it is a
deployment that fails before its machine has a security group. -/
def AsksForNoLock (command : SandboxCommand reservationId) (state : FaultyAzure) : Prop :=
  match command with
  | deploy request _ => ∀ data created,
      run services (DeployAzureVMOperation.untilVmGroup request) state ≠ (.ok data, created)
  | setAppsSecurityGroups _ models => models = []
  | deleteVm _ => True

/-! ## What a command asks for -/

theorem delete_lockless (groupName vmName : Text) :
    Within Lockless (DeleteAzureVMOperation.delete groupName vmName) := by
  apply Within.bind
  · apply Within.bind (lockless_send rfl)
    intro vm
    apply Within.bind
    · exact Within.collect fun _ _ => lockless_send rfl
    intro networkInterfaces
    exact (within_ofExcept _).bind fun _ => trivial
  intro data
  apply Within.bind
  · apply Within.catching
    · exact Within.bind (Within.retry (lockless_send rfl) 4) fun _ => trivial
    · intro e
      split <;> trivial
  intro vm
  apply Within.bind (DeleteAzureVMOperation.within_orNotFound (Within.retry (lockless_send rfl) 4))
  intro _
  apply Within.bind
  · exact DeleteAzureVMOperation.within_orNotFound
      (Within.retry (Within.forEach fun _ _ => lockless_send rfl) 4)
  intro _
  apply Within.bind
  · exact DeleteAzureVMOperation.within_orNotFound
      (Within.retry (Within.forEach fun _ _ => lockless_send rfl) 4)
  intro _
  apply Within.bind (DeleteAzureVMOperation.within_deleteDiskOf (fun _ => rfl) vm)
  intro _
  apply Within.bind
  · exact (NetworkService.deleteNsgArtifactsAssociatedWithVm_within vmName).mono
      fun _ => DeployAzureVMOperation.lockless_of_deletesNsgArtifacts
  intro _
  apply Within.when
  intro _
  exact Within.catching (lockless_send rfl) fun _ => trivial

theorem deleteAzureVm_lockless (groupName vmName : Text) :
    Within Lockless (DeleteAzureVMOperation.deleteAzureVm groupName vmName) := by
  apply (delete_lockless groupName vmName).catching
  intro e
  split <;> trivial

theorem setApp_keepsLocks (environment : SetAppSecurityGroupsOperation.Environment)
    (groupName : Text) (model : AppSecurityGroupModel) :
    Within KeepsLocks (SetAppSecurityGroupsOperation.setApp environment groupName model) := by
  apply Within.catching
  · apply Within.bind
    · apply Within.bind (keepsLocks_getResourceLock _)
      intro _
      apply keepsLocks_of_lockless
      apply Within.bind
      · apply Within.mono (deleteCustomSecurityRulesFromNsg_within _)
        rintro sent (rfl | ⟨_, _, rfl⟩) <;> rfl
      intro _
      apply Within.bind (Within.retry (lockless_send rfl) 4)
      intro vm
      apply Within.bind
      · apply Within.collect
        intro nicRef _
        exact Within.bind (lockless_send rfl) fun _ => within_ofExcept _
      intro nicToSubnetNameMap
      apply Within.bind (within_ofExcept _)
      intro configurations
      apply Within.forEach
      intro configuration _
      apply Within.bind (within_ofExcept _)
      intro resolved
      apply (createNetworkSecurityGroupRules_within _ none).mono
      rintro sent (rfl | ⟨ruleData, _, priority, rfl⟩) <;> rfl
    · intro _
      trivial
  · intro e
    trivial

/-- No command removes a lock. -/
theorem keepsLocks_of_mem_trace {command : SandboxCommand reservationId} {state : FaultyAzure}
    {sent : Request} (member : sent ∈ command.trace state) : KeepsLocks sent := by
  cases command with
  | deploy request isOwn =>
      exact DeployAzureVMOperation.deployVmGeneric_keepsLocks.of_mem_requests member
  | setAppsSecurityGroups environment models =>
      have within : Within KeepsLocks (SetAppSecurityGroupsOperation.setAppsSecurityGroups
          environment reservationId models) :=
        Within.collect fun model _ => setApp_keepsLocks environment reservationId model
      exact within.of_mem_requests member
  | deleteVm vmName =>
      exact ((deleteAzureVm_lockless reservationId vmName).of_mem_requests member).keepsLocks

/-- A command that asks for no lock makes no request to the lock provider. -/
theorem AsksForNoLock.lockless {command : SandboxCommand reservationId} {state : FaultyAzure}
    (asksNot : command.AsksForNoLock state) {sent : Request} (member : sent ∈ command.trace state) :
    Lockless sent := by
  cases command with
  | deploy request isOwn =>
      exact (DeployAzureVMOperation.deployVmGeneric_failsLockless asksNot).lockless sent member
  | setAppsSecurityGroups environment models =>
      cases asksNot
      cases member
  | deleteVm vmName => exact (deleteAzureVm_lockless reservationId vmName).of_mem_requests member

/-- Any other command asks for the lock of the security group of a machine. -/
theorem exists_asked {command : SandboxCommand reservationId} {state : FaultyAzure}
    (asks : ¬ command.AsksForNoLock state) :
    ∃ vmName, .getResourceLock (vmNsgName vmName) ∈ command.trace state := by
  cases command with
  | deploy request isOwn =>
      simp only [AsksForNoLock, not_forall, not_not] at asks
      rcases asks with ⟨data, created, success⟩
      exact ⟨data.vmName, DeployAzureVMOperation.deployVmGeneric_asks success⟩
  | setAppsSecurityGroups environment models =>
      rcases List.exists_cons_of_ne_nil asks with ⟨model, rest, rfl⟩
      exact ⟨model.appName, List.mem_cons_self⟩
  | deleteVm vmName => exact (asks trivial).elim

end SandboxCommand

/-! ## A run and its cleanup -/

/-- Commands of a reservation, each with the state it starts in. -/
abbrev SandboxRun (reservationId : Text) :=
  List (SandboxCommand reservationId × FaultyAzure)

def SandboxRun.trace {reservationId : Text} (steps : SandboxRun reservationId) : List Request :=
  steps.flatMap fun step => step.1.trace step.2

/-- The lock dictionary after a run and a cleanup. -/
def locksAfterCleanup {reservationId : Text} (lockDictionary : List Text)
    (steps : SandboxRun reservationId) (managementGroupName : Text)
    (actions : List CleanupAction) (state : FaultyAzure) : List Text :=
  GenericLockProvider.after lockDictionary <| SandboxRun.trace steps ++ requests services
    (DeleteAzureVMOperation.cleanupConnectivity managementGroupName reservationId actions) state

/-- No key the run asked for is left after the cleanup. -/
def ReleasesLocks {reservationId : Text} (lockDictionary : List Text)
    (steps : SandboxRun reservationId) (managementGroupName : Text)
    (actions : List CleanupAction) (state : FaultyAzure) : Prop :=
  ∀ lockKey, .getResourceLock lockKey ∈ SandboxRun.trace steps →
    lockKey ∉ locksAfterCleanup lockDictionary steps managementGroupName actions state

/-- The keys a cleanup removes. -/
def RemovesOnly (reservationId : Text) (sent : Request) : Prop :=
  ∀ lockKey, sent = .removeLockResource lockKey →
    lockKey = reservationId ∨ lockKey = IpService.sandboxLockKey reservationId

namespace DeleteAzureVMOperation

variable {managementGroupName resourceGroupName : Text}

theorem removesOnly_send {sent : Request} (noKey : sent.lockKey = none) :
    Within (RemovesOnly resourceGroupName) (send sent) := by
  apply within_perform
  rintro lockKey rfl
  cases noKey

theorem cleanupConnectivity_removesOnly {actions : List CleanupAction} :
    Within (RemovesOnly resourceGroupName)
      (cleanupConnectivity managementGroupName resourceGroupName actions) := by
  apply Within.bind (within_ofExcept _)
  intro actionId
  apply Within.bind
  · apply attempt_within
    apply within_forSandboxSubnets (removesOnly_send rfl)
    exact fun _ _ _ => Within.retry (removesOnly_send rfl) 4
  intro detached
  apply Within.bind
  · exact attempt_within (Within.retry (removesOnly_send rfl) 4)
  intro emptied
  apply Within.bind
  · apply attempt_within
    apply within_forSandboxSubnets (removesOnly_send rfl)
    exact fun _ _ _ => Within.retry (removesOnly_send rfl) 4
  intro deleted
  apply Within.bind
  · apply Within.bind
    · apply within_perform
      rintro lockKey ⟨⟩
      exact Or.inl rfl
    intro _
    apply within_perform
    rintro lockKey ⟨⟩
    exact Or.inr rfl
  intro _
  trivial

end DeleteAzureVMOperation

/-- No key of a security group is one that the cleanup of a GUID removes. -/
theorem vmNsgName_ne_removed {reservationId : Text} (isGuid : IsGuid reservationId)
    (vmName : Text) :
    vmNsgName vmName ≠ reservationId ∧
      vmNsgName vmName ≠ IpService.sandboxLockKey reservationId := by
  have notHex : 'N' ∉ reservationId := isGuid.not_mem (by decide) (by decide)
  constructor
  · rintro rfl
    exact notHex List.mem_cons_self
  · intro same
    cases reservationId with
    | nil => cases isGuid.length
    | cons c rest =>
        have isHead : 'N' = c := (List.cons.inj same).1
        exact notHex (isHead ▸ List.mem_cons_self)

/-- The cleanup releases the locks of a run whose commands asked for none, and,
for a reservation with a GUID, of no other run.  The keys left are those of the lock
provider after it has made the calls of the run and its cleanup. -/
theorem cleanup_releases_locks_iff {reservationId : Text} (lockDictionary : List Text)
    (steps : SandboxRun reservationId) (managementGroupName : Text)
    (actions : List CleanupAction) (state : FaultyAzure) :
    ((∀ step ∈ steps, step.1.AsksForNoLock step.2) →
      ReleasesLocks lockDictionary steps managementGroupName actions state) ∧
    (IsGuid reservationId →
      ReleasesLocks lockDictionary steps managementGroupName actions state →
        ∀ step ∈ steps, step.1.AsksForNoLock step.2) ∧
    ∀ {ι : Type} [DecidableEq ι] (i : ι) (pool : Conc.Pool ι
      (GenericLockProvider.Provider ι Text) (GenericLockProvider.Pc Text)),
      GenericLockProvider.Represents lockDictionary pool i →
        ∃ next, Conc.Pool.Reaches GenericLockProvider.LockProvider (fun _ j => j = i) pool next ∧
          GenericLockProvider.Represents
            (locksAfterCleanup lockDictionary steps managementGroupName actions state) next i := by
  refine ⟨?_, ?_, fun i pool represents => GenericLockProvider.after_simulates represents _⟩
  · intro asksNot lockKey asked
    rcases List.mem_flatMap.mp asked with ⟨step, member, inTrace⟩
    have lockless : Lockless (.getResourceLock lockKey) := (asksNot step member).lockless inTrace
    cases lockless
  · intro isGuid releases step member
    by_contra asks
    rcases SandboxCommand.exists_asked asks with ⟨vmName, inTrace⟩
    have asked : .getResourceLock (vmNsgName vmName) ∈ SandboxRun.trace steps :=
      List.mem_flatMap.mpr ⟨step, member, inTrace⟩
    apply releases _ asked
    apply GenericLockProvider.mem_after_of_asked (List.mem_append_left _ asked)
    intro removed
    rcases vmNsgName_ne_removed isGuid vmName with ⟨notGroup, notSandbox⟩
    rcases List.mem_append.mp removed with inRun | inCleanup
    · rcases List.mem_flatMap.mp inRun with ⟨other, _, otherTrace⟩
      exact SandboxCommand.keepsLocks_of_mem_trace otherTrace _ rfl
    · have only := DeleteAzureVMOperation.cleanupConnectivity_removesOnly.of_mem_requests inCleanup
      rcases only _ rfl with isGroup | isSandbox
      · exact notGroup isGroup
      · exact notSandbox isSandbox

/-! ## A deployment and its cleanup -/

/-- One deployment in the sandbox. -/
def deployedMachine : SandboxRun "r1".toList :=
  [(.deploy DeployAzureVMOperation.webRequest rfl, DeployAzureVMOperation.webSandbox [])]

/-- The sandbox with the machine. -/
abbrev withMachine : Except PyException DeployAppResult × FaultyAzure :=
  run services (DeployAzureVMOperation.deployVmGeneric DeployAzureVMOperation.webRequest)
    (DeployAzureVMOperation.webSandbox [])

/-- After a cleanup without errors the locks of the two security groups are still
in the dictionary. -/
theorem cleanup_keeps_locks :
    (run services (DeleteAzureVMOperation.cleanupConnectivity "mgmt".toList "r1".toList
        [⟨"cleanupNetwork".toList, "a1".toList⟩]) withMachine.2).1 =
      .ok ⟨true, "a1".toList, []⟩ ∧
    ¬ ReleasesLocks [] deployedMachine "mgmt".toList [⟨"cleanupNetwork".toList, "a1".toList⟩]
      withMachine.2 := by
  constructor
  · decide
  · intro releases
    apply releases (getSubnetsNsgName "r1".toList)
    · decide
    · decide

end AzureShell
