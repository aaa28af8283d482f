import AzureShell.Sandbox.SubnetCalls

/-!
# The recovery of a subnet creation

Azure rejects a subnet whose block overlaps another one.  `_create_subnet` takes
a subnet with the requested block for stale then: it detaches its security
group, deletes it and tries again.  None of these calls is undone when a later
one fails: a subnet in use, which cannot be deleted, is left without its
security group, and a deleted subnet does not come back.
-/

namespace AzureShell

open Prog

namespace PrepareSandboxInfraOperation

variable {strict : Bool} {group network subnetName cidr securityGroupName : Text}
  {subnets : List Subnet} {subnet : Subnet} {azure : Azure} {sandboxVnet : VirtualNetwork}

/-! ## Harm -/

/-- A call that ended as `final` has raised and left the subnets unharmed, or it
has returned. -/
abbrev EndsHarmlessly (group network : Text) (before : List Subnet)
    (final : Except PyException Unit × List (Fate OtherFailure) × Azure) : Prop :=
  FailsHarmlessly before final.1 (final.2.2.subnetsOf group network)

section Harm

variable {before after : List Subnet}
  {final : Except PyException Unit × List (Fate OtherFailure) × Azure}

theorem endsHarmlessly_of_ok (returns : final.1 = .ok ()) :
    EndsHarmlessly group network before final := by
  intro e raises
  cases returns.symm.trans raises

theorem endsHarmlessly_iff_of_error {e : PyException} (raises : final.1 = .error e)
    (left : final.2.2.subnetsOf group network = some after) :
    EndsHarmlessly group network before final ↔ Unharmed before after := by
  constructor
  · intro harmless
    rcases harmless e raises with ⟨subnets, same, unharmed⟩
    cases left.symm.trans same
    exact unharmed
  · exact fun unharmed _ _ => ⟨after, left, unharmed⟩

theorem endsHarmlessly_error_iff {e : PyException} {state : List (Fate OtherFailure) × Azure}
    (left : state.2.subnetsOf group network = some after) :
    EndsHarmlessly group network before (.error e, state) ↔ Unharmed before after :=
  endsHarmlessly_iff_of_error rfl left

/-- A subnet that is no longer there is harmed. -/
theorem not_unharmed_of_absent (member : subnet ∈ before)
    (absent : ∀ other ∈ after, other.name ≠ subnet.name) : ¬ Unharmed before after := by
  intro unharmed
  rcases unharmed subnet member with ⟨other, otherMem, sameName, _⟩
  exact absent other otherMem sameName

/-- Detaching the security group of a subnet harms it if it has one. -/
theorem unharmed_withDetached_iff (separate : Separate subnets) (member : subnet ∈ subnets) :
    Unharmed subnets (withDetached subnet subnets) ↔
      ¬ subnet.networkSecurityGroup.isSome = true := by
  constructor
  · intro unharmed hasGroup
    rcases unharmed subnet member with ⟨other, otherMem, sameName, _, sameGroup⟩
    rcases (mem_withDetached_iff separate.keyed member).mp otherMem with rfl | ⟨_, different⟩
    · rw [← sameGroup] at hasGroup
      contradiction
    · exact different sameName
  · intro noGroup
    rw [withDetached, if_neg noGroup]
    exact Unharmed.refl subnets

/-- The requested subnet replaces one of its name: no harm if it has the same
address prefix and security group. -/
theorem unharmed_upsert_iff (subnets : List Subnet) (securityGroupName cidr subnetName : Text) :
    Unharmed subnets
        (Store.upsert Subnet.name (requestedSubnet securityGroupName cidr subnetName) subnets) ↔
      ∀ subnet ∈ subnets, subnet.name = subnetName →
        subnet.addressPrefix = cidr ∧ subnet.networkSecurityGroup = some securityGroupName := by
  constructor
  · intro unharmed subnet member named
    rcases unharmed subnet member with ⟨other, otherMem, sameName, samePrefix, sameGroup⟩
    rcases Store.mem_upsert_iff.mp otherMem with rfl | ⟨_, different⟩
    · exact ⟨samePrefix.symm, sameGroup.symm⟩
    · exact absurd (sameName.trans named) different
  · intro same subnet member
    by_cases named : subnet.name = subnetName
    · rcases same subnet member named with ⟨samePrefix, sameGroup⟩
      exact ⟨_, Store.mem_upsert_self _ _, named.symm, samePrefix.symm, sameGroup.symm⟩
    · exact ⟨subnet, Store.mem_upsert_iff.mpr (Or.inr ⟨member, named⟩), rfl, rfl, rfl⟩

end Harm

/-! ## The recovery -/

/-- What becomes of the calls of a recovery. -/
structure TriedRecovery where
  detaching : Tried OtherFailure
  deleting : Tried OtherFailure
  creating : Tried OtherFailure

/-- The calls that recover from a stale subnet, one after the other. -/
def triedRecovery (stale : Subnet) (fates : List (Fate OtherFailure)) : TriedRecovery :=
  let detaching := triedDetaching stale fates
  let deleting := triedCall detaching.rest
  ⟨detaching, deleting, triedCall deleting.rest⟩

/-- The recovery ends well: the subnet is not in use and every call completes.
Where the deletion of an absent subnet is answered "Not Found", it took effect in
its last try only. -/
structure TriedRecovery.EndsWell (strict : Bool) (stale : Subnet) (recovery : TriedRecovery) :
    Prop where
  detached : recovery.detaching.completed = true
  free : stale.inUse = false
  deleted : recovery.deleting.completed = true
  once : strict = true → recovery.deleting.redone = false
  created : recovery.creating.completed = true

/-- The recovery changes nothing: no security group is detached, and no try of a
deletion that is reached takes effect. -/
structure TriedRecovery.ChangesNothing (stale : Subnet) (recovery : TriedRecovery) : Prop where
  attached : recovery.detaching.tookEffect = false
  notDeleted : recovery.detaching.completed = true → stale.inUse = false →
    recovery.deleting.tookEffect = false

/-- Only a security group that is there is detached. -/
theorem isSome_of_tookEffect {fates : List (Fate OtherFailure)}
    (took : (triedDetaching subnet fates).tookEffect = true) :
    subnet.networkSecurityGroup.isSome = true := by
  unfold triedDetaching at took
  split at took
  · assumption
  · cases took

/-- A call that completed has detached the security group, if there is one. -/
theorem tookEffect_triedDetaching_iff {fates : List (Fate OtherFailure)}
    (completed : (triedDetaching subnet fates).completed = true) :
    (triedDetaching subnet fates).tookEffect = false ↔
      ¬ subnet.networkSecurityGroup.isSome = true := by
  rw [← Bool.not_eq_true, not_iff_not]
  constructor
  · exact isSome_of_tookEffect
  · intro hasGroup
    rw [triedDetaching, if_pos hasGroup] at completed ⊢
    exact tookEffect_triedCall completed

section Recovery

variable {stale : Subnet}

/-- Once the stale subnet is deleted, only a creation that completes makes up for
it. -/
theorem endsHarmlessly_creating_iff (separate : Separate subnets) (member : stale ∈ subnets)
    (taken : Azure.subnetTaken subnets
      (requestedSubnet securityGroupName stale.addressPrefix subnetName) = true)
    (present : azure.subnetsOf group sandboxVnet.name =
      some (Store.erase Subnet.name stale.name (withDetached stale subnets)))
    (fates : List (Fate OtherFailure)) :
    EndsHarmlessly group sandboxVnet.name subnets
        (run (failingSubnetServices strict)
          (createSubnetCommand group securityGroupName sandboxVnet stale.addressPrefix subnetName)
          (fates, azure)) ↔
      (triedCall fates).completed = true := by
  have follows := run_createSubnetCommand_leaves strict present
    (subnetTaken_erase separate member securityGroupName subnetName) fates
  cases completed : (triedCall fates).completed with
  | true =>
      exact iff_of_true
        (endsHarmlessly_of_ok ((follows.answered completed).trans (ite_self _))) rfl
  | false =>
      rcases follows.raises completed with ⟨e, raises⟩
      have different := name_ne_of_subnetTaken separate member taken
      have gone : ∀ other ∈ Store.erase Subnet.name stale.name (withDetached stale subnets),
          other.name ≠ stale.name := fun other left => (Store.mem_erase_iff.mp left).2
      rw [endsHarmlessly_iff_of_error raises follows.left]
      refine iff_of_false (not_unharmed_of_absent member ?_) Bool.false_ne_true
      intro other otherMem
      split at otherMem
      · rcases Store.mem_upsert_iff.mp otherMem with rfl | ⟨old, _⟩
        · exact different.symm
        · exact gone other old
      · exact gone other otherMem

/-- What the deletion of a stale subnet that is not in use leaves. -/
theorem run_deleteSubnet_leaves (strict : Bool) (separate : Separate subnets)
    (member : stale ∈ subnets) (free : stale.inUse = false)
    (present : azure.subnetsOf group sandboxVnet.name = some (withDetached stale subnets))
    (fates : List (Fate OtherFailure)) :
    LeavesSubnets group sandboxVnet.name (withDetached stale subnets)
      (Store.erase Subnet.name stale.name (withDetached stale subnets)) (.ok ())
      (deletedAgain strict) (triedCall fates)
      (run (failingSubnetServices strict)
        (retryConnection (send (.deleteSubnet group sandboxVnet.name stale.name)))
        (fates, azure)) := by
  have left : detached stale ∈ withDetached stale subnets :=
    (mem_withDetached_iff separate.keyed member).mpr (Or.inl rfl)
  have leftFree : ∀ other ∈ withDetached stale subnets,
      other.name = stale.name → other.inUse = false := by
    intro other otherMem sameName
    rcases (mem_withDetached_iff separate.keyed member).mp otherMem with rfl | ⟨_, different⟩
    · exact free
    · exact absurd sameName different
  have finalAgain : ∀ e, deletedAgain strict = .error e → retryIfConnectionError e = false := by
    intro e failed
    cases strict with
    | true =>
        cases failed
        exact retryIfConnectionError_notFound
    | false => cases failed
  exact run_retryConnection_send (fun _ impossible => by cases impossible) finalAgain
    (settles_deleteSubnet strict group sandboxVnet.name left leftFree) fates present

/-- The deletion of a stale subnet that is not in use, and the creation after it. -/
theorem endsHarmlessly_deleting_iff (separate : Separate subnets) (member : stale ∈ subnets)
    (taken : Azure.subnetTaken subnets
      (requestedSubnet securityGroupName stale.addressPrefix subnetName) = true)
    (free : stale.inUse = false)
    (present : azure.subnetsOf group sandboxVnet.name = some (withDetached stale subnets))
    (fates : List (Fate OtherFailure)) :
    EndsHarmlessly group sandboxVnet.name subnets
        (run (failingSubnetServices strict) (do
          retryConnection (send (.deleteSubnet group sandboxVnet.name stale.name))
          createSubnetCommand group securityGroupName sandboxVnet stale.addressPrefix subnetName)
          (fates, azure)) ↔
      ((triedCall fates).completed = true ∧ (strict = true → (triedCall fates).redone = false) ∧
          (triedCall (triedCall fates).rest).completed = true) ∨
        ((triedCall fates).tookEffect = false ∧ ¬ stale.networkSecurityGroup.isSome = true) := by
  have gone : ∀ other ∈ Store.erase Subnet.name stale.name (withDetached stale subnets),
      other.name ≠ stale.name := fun other isLeft => (Store.mem_erase_iff.mp isLeft).2
  have follows := run_deleteSubnet_leaves strict separate member free present fates
  have seen := follows.seen
  cases completed : (triedCall fates).completed with
  | false =>
      obtain ⟨e, failed⟩ := follows.run_bind_of_failed completed fun _ =>
        createSubnetCommand group securityGroupName sandboxVnet stale.addressPrefix subnetName
      rw [failed, endsHarmlessly_error_iff follows.left]
      cases took : (triedCall fates).tookEffect with
      | true => simpa using not_unharmed_of_absent member gone
      | false => simpa using unharmed_withDetached_iff separate member
  | true =>
      have took := tookEffect_triedCall completed
      rw [took, if_pos rfl] at seen
      simp only [took, reduceCtorEq, false_and, or_false, true_and]
      by_cases again : strict = true ∧ (triedCall fates).redone = true
      · -- the subnet is gone, and its deletion is answered "Not Found"
        have notFound : (if (triedCall fates).redone then deletedAgain strict else .ok ()) =
            .error .notFound := by
          rw [again.1, again.2]
          rfl
        have raises := (follows.answered completed).trans notFound
        rw [run_bind_of_error (Prod.ext raises rfl), endsHarmlessly_error_iff seen]
        refine iff_of_false (not_unharmed_of_absent member gone) ?_
        rintro ⟨once, _⟩
        rw [once again.1] at again
        exact Bool.false_ne_true again.2
      · have returns : (if (triedCall fates).redone then deletedAgain strict else .ok ()) =
            .ok () := by
          cases strict with
          | true =>
              rw [Bool.eq_false_iff.mpr fun redone => again ⟨rfl, redone⟩]
              rfl
          | false => exact ite_self _
        rw [follows.run_bind_of_completed completed returns,
          endsHarmlessly_creating_iff separate member taken seen, and_iff_right_of_imp]
        intro _ isStrict
        exact Bool.eq_false_iff.mpr fun redone => again ⟨isStrict, redone⟩

/-- A stale subnet in use is not deleted. -/
theorem endsHarmlessly_inUse_iff (separate : Separate subnets) (member : stale ∈ subnets)
    (inUse : stale.inUse = true)
    (present : azure.subnetsOf group sandboxVnet.name = some (withDetached stale subnets))
    (creation : Shell Unit) (fates : List (Fate OtherFailure)) :
    EndsHarmlessly group sandboxVnet.name subnets
        (run (failingSubnetServices strict) (do
          let _ ← ofExcept <|
            (stale.ipConfigurations.getD []).mapM AzureResourceIdParser.getResourceGroupName
          retryConnection (send (.deleteSubnet group sandboxVnet.name stale.name))
          creation) (fates, azure)) ↔
      ¬ stale.networkSecurityGroup.isSome = true := by
  rw [run_ofExcept_bind]
  cases (stale.ipConfigurations.getD []).mapM AzureResourceIdParser.getResourceGroupName with
  | error e =>
      exact (endsHarmlessly_error_iff present).trans (unharmed_withDetached_iff separate member)
  | ok resourceGroups =>
      have left : detached stale ∈ withDetached stale subnets :=
        (mem_withDetached_iff separate.keyed member).mpr (Or.inl rfl)
      have final : ∀ e, (.error inUseSubnet : Except PyException Unit) = .error e →
          retryIfConnectionError e = false := by
        rintro e ⟨⟩
        decide
      have follows : LeavesSubnets group sandboxVnet.name (withDetached stale subnets)
          (withDetached stale subnets) (.error inUseSubnet) (.error inUseSubnet) (triedCall fates)
          (run (failingSubnetServices strict)
            (retryConnection (send (.deleteSubnet group sandboxVnet.name stale.name)))
            (fates, azure)) :=
        run_retryConnection_send final final
          (settles_deleteSubnet_of_inUse strict group sandboxVnet.name left inUse) fates present
      have raises : ∃ e, (run (failingSubnetServices strict)
          (retryConnection (send (.deleteSubnet group sandboxVnet.name stale.name)))
          (fates, azure)).1 = .error e := by
        cases completed : (triedCall fates).completed with
        | true => exact ⟨_, (follows.answered completed).trans (ite_self _)⟩
        | false => exact (follows.raises completed).imp' Subtype.val fun _ raised => raised
      rcases raises with ⟨e, raises⟩
      have ran := run_bind_of_error (f := fun _ => creation) (Prod.ext raises rfl)
      refine Iff.trans ?_ (unharmed_withDetached_iff separate member)
      change EndsHarmlessly group sandboxVnet.name subnets (run _ (_ >>= fun _ => creation) _) ↔ _
      rw [ran]
      exact endsHarmlessly_error_iff (follows.seen.trans (ite_self _))

/-- A recovery whose first call fails is harmless if the call took no effect. -/
theorem unharmed_failedDetaching_iff (separate : Separate subnets) (member : stale ∈ subnets)
    {fates : List (Fate OtherFailure)}
    (failed : (triedDetaching stale fates).completed = false) :
    Unharmed subnets
        (if (triedDetaching stale fates).tookEffect then withDetached stale subnets
        else subnets) ↔
      (triedRecovery stale fates).EndsWell strict stale ∨
        (triedRecovery stale fates).ChangesNothing stale := by
  constructor
  · intro unharmed
    apply Or.inr
    constructor
    · cases took : (triedDetaching stale fates).tookEffect with
      | false => exact took
      | true =>
          rw [took, if_pos rfl, unharmed_withDetached_iff separate member] at unharmed
          exact absurd (isSome_of_tookEffect took) unharmed
    · intro completed
      exact absurd (failed.symm.trans completed) nofun
  · rintro (endsWell | changesNothing)
    · exact absurd (failed.symm.trans endsWell.detached) nofun
    · have attached : (triedDetaching stale fates).tookEffect = false :=
        changesNothing.attached
      rw [attached]
      exact Unharmed.refl _

/-- After a completed detaching no security group is left at the stale subnet. -/
theorem ite_withDetached_of_completed {fates : List (Fate OtherFailure)}
    (completed : (triedDetaching stale fates).completed = true) :
    (if (triedDetaching stale fates).tookEffect then withDetached stale subnets else subnets) =
      withDetached stale subnets := by
  cases took : (triedDetaching stale fates).tookEffect with
  | true => rfl
  | false =>
      rw [withDetached, if_neg ((tookEffect_triedDetaching_iff completed).mp took)]
      rfl

/-- The recovery from a stale subnet is harmless if it ends well or changes
nothing. -/
theorem endsHarmlessly_recovery_iff (separate : Separate sandboxVnet.subnets)
    (member : stale ∈ sandboxVnet.subnets)
    (taken : Azure.subnetTaken sandboxVnet.subnets
      (requestedSubnet securityGroupName stale.addressPrefix subnetName) = true)
    (present : azure.subnetsOf group sandboxVnet.name = some sandboxVnet.subnets)
    (fates : List (Fate OtherFailure)) :
    EndsHarmlessly group sandboxVnet.name sandboxVnet.subnets
        (run (failingSubnetServices strict) (do
          cleanupStaleData group sandboxVnet stale.addressPrefix
          createSubnetCommand group securityGroupName sandboxVnet stale.addressPrefix subnetName)
          (fates, azure)) ↔
      (triedRecovery stale fates).EndsWell strict stale ∨
        (triedRecovery stale fates).ChangesNothing stale := by
  have follows := run_detach_leaves strict present separate member fates
  have seen := follows.seen
  rw [cleanupStaleData_eq group separate member, bind_assoc]
  cases completed : (triedDetaching stale fates).completed with
  | false =>
      rcases follows.run_bind_of_failed completed _ with ⟨e, failed⟩
      rw [failed, endsHarmlessly_error_iff follows.left]
      exact unharmed_failedDetaching_iff separate member completed
  | true =>
      have noGroup := tookEffect_triedDetaching_iff completed
      have present : (run (failingSubnetServices strict)
          (when (stale.networkSecurityGroup.isSome = true) <|
            retryConnection <| send <| .putSubnet group sandboxVnet.name (detached stale))
          (fates, azure)).2.2.subnetsOf group sandboxVnet.name =
            some (withDetached stale sandboxVnet.subnets) := by
        rw [follows.left, ite_withDetached_of_completed completed]
      rw [follows.run_bind_of_completed completed (ite_self _), bind_assoc]
      cases inUse : stale.inUse with
      | true =>
          refine (endsHarmlessly_inUse_iff separate member inUse present _ _).trans ?_
          rw [← noGroup]
          constructor
          · intro attached
            exact Or.inr ⟨attached, fun _ free => absurd (inUse.symm.trans free) nofun⟩
          · rintro (endsWell | changesNothing)
            · exact absurd (inUse.symm.trans endsWell.free) nofun
            · exact changesNothing.attached
      | false =>
          have noIds : stale.ipConfigurations.getD [] = [] := by
            simpa [Subnet.inUse] using inUse
          rw [noIds]
          refine (endsHarmlessly_deleting_iff separate member taken inUse present _).trans ?_
          rw [← noGroup]
          constructor
          · rintro (⟨deleted, once, created⟩ | ⟨notDeleted, attached⟩)
            · exact Or.inl ⟨completed, inUse, deleted, once, created⟩
            · exact Or.inr ⟨attached, fun _ _ => notDeleted⟩
          · rintro (endsWell | changesNothing)
            · exact Or.inl ⟨endsWell.deleted, endsWell.once, endsWell.created⟩
            · exact Or.inr ⟨changesNothing.notDeleted completed inUse, changesNothing.attached⟩

end Recovery

/-! ## The whole call -/

/-- The calls of a subnet creation harm no subnet if they raise: a rejected
creation needs a harmless recovery from the subnet that has the requested address
prefix, a failed one has not replaced a subnet of the requested name. -/
def SparesSubnets (strict : Bool) (subnets : List Subnet)
    (securityGroupName cidr subnetName : Text) (fates : List (Fate OtherFailure)) : Prop :=
  let creating := triedCall fates
  if Azure.subnetTaken subnets (requestedSubnet securityGroupName cidr subnetName) = true then
    creating.completed = true → ∀ stale ∈ subnets, stale.addressPrefix = cidr →
      (triedRecovery stale creating.rest).EndsWell strict stale ∨
        (triedRecovery stale creating.rest).ChangesNothing stale
  else
    creating.completed = true ∨ creating.tookEffect = false ∨
      ∀ subnet ∈ subnets, subnet.name = subnetName →
        subnet.addressPrefix = cidr ∧ subnet.networkSecurityGroup = some securityGroupName

/-- An error that is not about the block is raised again. -/
theorem run_createSubnet_of_error {state : List (Fate OtherFailure) × Azure} {e : OtherFailure}
    {fates : List (Fate OtherFailure)}
    (failed : run (failingSubnetServices strict)
      (createSubnetCommand group securityGroupName sandboxVnet cidr subnetName) (fates, azure) =
        (.error e.val, state)) :
    run (failingSubnetServices strict)
        (createSubnet group securityGroupName sandboxVnet cidr subnetName) (fates, azure) =
      (.error e.val, state) := by
  rw [createSubnet_eq, run_withLock, run_catching_of_error failed, e.property]
  rfl

/-- A block that is free: the creation returns, or it fails after it may have
replaced a subnet of that name. -/
theorem endsHarmlessly_of_free_iff
    (present : azure.subnetsOf group sandboxVnet.name = some sandboxVnet.subnets)
    (free : Azure.subnetTaken sandboxVnet.subnets
      (requestedSubnet securityGroupName cidr subnetName) = false)
    (fates : List (Fate OtherFailure)) :
    EndsHarmlessly group sandboxVnet.name sandboxVnet.subnets
        (run (failingSubnetServices strict)
          (createSubnet group securityGroupName sandboxVnet cidr subnetName) (fates, azure)) ↔
      SparesSubnets strict sandboxVnet.subnets securityGroupName cidr subnetName fates := by
  have follows := run_createSubnetCommand_leaves strict present free fates
  simp only [SparesSubnets, free, Bool.false_eq_true, if_false]
  cases completed : (triedCall fates).completed with
  | true =>
      have returns := (follows.answered completed).trans (ite_self _)
      refine iff_of_true (endsHarmlessly_of_ok ?_) (Or.inl rfl)
      rw [createSubnet_eq, run_withLock, run_catching_of_ok (Prod.ext returns rfl)]
  | false =>
      rcases follows.raises completed with ⟨e, raises⟩
      rw [run_createSubnet_of_error (Prod.ext raises rfl), endsHarmlessly_error_iff follows.left]
      cases took : (triedCall fates).tookEffect with
      | true =>
          simpa using unharmed_upsert_iff sandboxVnet.subnets securityGroupName cidr subnetName
      | false => simpa using Unharmed.refl sandboxVnet.subnets

/-- A block that is taken: the creation is rejected and repeated after the
cleanup. -/
theorem endsHarmlessly_of_taken_iff
    (present : azure.subnetsOf group sandboxVnet.name = some sandboxVnet.subnets)
    (separate : Separate sandboxVnet.subnets)
    (taken : Azure.subnetTaken sandboxVnet.subnets
      (requestedSubnet securityGroupName cidr subnetName) = true)
    (fates : List (Fate OtherFailure)) :
    EndsHarmlessly group sandboxVnet.name sandboxVnet.subnets
        (run (failingSubnetServices strict)
          (createSubnet group securityGroupName sandboxVnet cidr subnetName) (fates, azure)) ↔
      SparesSubnets strict sandboxVnet.subnets securityGroupName cidr subnetName fates := by
  have follows := run_createSubnetCommand_of_taken strict present taken fates
  have left := follows.seen.trans (ite_self _)
  simp only [SparesSubnets, taken, if_true]
  cases completed : (triedCall fates).completed with
  | false =>
      rcases follows.raises completed with ⟨e, raises⟩
      rw [run_createSubnet_of_error (Prod.ext raises rfl), endsHarmlessly_error_iff left]
      exact iff_of_true (Unharmed.refl _) nofun
  | true =>
      have rejected := (follows.answered completed).trans (ite_self _)
      have isInvalid : isInvalidSubnet Azure.invalidSubnet = true := by decide
      have ran : run (failingSubnetServices strict)
          (createSubnetCommand group securityGroupName sandboxVnet cidr subnetName) (fates, azure) =
            (.error Azure.invalidSubnet, (triedCall fates).rest,
              (run (failingSubnetServices strict) (createSubnetCommand group securityGroupName
                sandboxVnet cidr subnetName) (fates, azure)).2.2) :=
        Prod.ext rejected (Prod.ext follows.rest rfl)
      rw [createSubnet_eq, run_withLock, run_catching_of_error ran, if_pos isInvalid]
      by_cases found : ∃ stale ∈ sandboxVnet.subnets, stale.addressPrefix = cidr
      · rcases found with ⟨stale, member, rfl⟩
        rw [endsHarmlessly_recovery_iff separate member taken left]
        constructor
        · intro harmless _ other otherMem samePrefix
          rwa [separate.eq_of_addressPrefix otherMem member samePrefix]
        · exact fun harmless => harmless rfl stale member rfl
      · -- a block that is no subnet's address prefix is rejected for good
        have unfound : (sandboxVnet.subnets.find? fun subnet => subnet.addressPrefix = cidr) =
            none := by
          rw [List.find?_eq_none]
          intro subnet member samePrefix
          exact found ⟨subnet, member, of_decide_eq_true samePrefix⟩
        rw [cleanupStaleData, unfound]
        have again := run_createSubnetCommand_of_taken strict left taken (triedCall fates).rest
        refine iff_of_true ?_ fun _ stale member samePrefix =>
          absurd ⟨stale, member, samePrefix⟩ found
        exact fun e _ => ⟨_, again.seen.trans (ite_self _), Unharmed.refl _⟩

/-- A subnet creation that raises harms no subnet, whatever calls fail, exactly
if its calls spare the subnets. -/
theorem createSubnet_failsHarmlessly_iff (strict : Bool)
    (present : azure.subnetsOf group sandboxVnet.name = some sandboxVnet.subnets)
    (separate : Separate sandboxVnet.subnets) (securityGroupName cidr subnetName : Text)
    (fates : List (Fate OtherFailure)) :
    let final := run (failingSubnetServices strict)
      (createSubnet group securityGroupName sandboxVnet cidr subnetName) (fates, azure)
    FailsHarmlessly sandboxVnet.subnets final.1 (final.2.2.subnetsOf group sandboxVnet.name) ↔
      SparesSubnets strict sandboxVnet.subnets securityGroupName cidr subnetName fates := by
  intro final
  cases taken : Azure.subnetTaken sandboxVnet.subnets
      (requestedSubnet securityGroupName cidr subnetName) with
  | true => exact endsHarmlessly_of_taken_iff present separate taken fates
  | false => exact endsHarmlessly_of_free_iff present taken fates

theorem subnetTaken_of_addressPrefix (separate : Separate subnets) (member : subnet ∈ subnets)
    (securityGroupName : Text) (different : subnet.name ≠ subnetName) :
    Azure.subnetTaken subnets
      (requestedSubnet securityGroupName subnet.addressPrefix subnetName) = true := by
  rcases separate.parsed subnet member with ⟨cidr, parsed⟩
  have overlap := Azure.prefixesOverlap_self parsed
  exact List.any_eq_true.mpr ⟨subnet, member, by simp [requestedSubnet, different, overlap]⟩

/-- The cleanup takes the subnet for stale and harms it: it has the requested
block under another name, a security group, and it is in use. -/
structure Harmed (cidr subnetName : Text) (subnet : Subnet) : Prop where
  addressPrefix : subnet.addressPrefix = cidr
  name : subnet.name ≠ subnetName
  networkSecurityGroup : subnet.networkSecurityGroup.isSome = true
  inUse : subnet.inUse = true

/-- Where no call fails, the recovery harms a subnet in use only. -/
theorem sparesSubnets_nil_iff (separate : Separate subnets)
    (securityGroupName cidr subnetName : Text) :
    SparesSubnets strict subnets securityGroupName cidr subnetName [] ↔
      ¬ ∃ subnet ∈ subnets, Harmed cidr subnetName subnet := by
  have completes : triedCall ([] : List (Fate OtherFailure)) = ⟨true, true, false, []⟩ := rfl
  cases taken : Azure.subnetTaken subnets (requestedSubnet securityGroupName cidr subnetName) with
  | false =>
      simp only [SparesSubnets, taken, completes, Bool.false_eq_true, if_false, true_or, true_iff]
      rintro ⟨subnet, member, harmed⟩
      have isTaken := subnetTaken_of_addressPrefix separate member securityGroupName harmed.name
      rw [harmed.addressPrefix, taken] at isTaken
      contradiction
  | true =>
      simp only [SparesSubnets, taken, completes, if_true, forall_const]
      constructor
      · rintro harmless ⟨stale, member, harmed⟩
        have isTried : triedDetaching stale [] = ⟨true, true, false, []⟩ :=
          if_pos harmed.networkSecurityGroup
        rcases harmless stale member harmed.addressPrefix with endsWell | changesNothing
        · exact absurd (harmed.inUse.symm.trans endsWell.free) nofun
        · have attached : (triedDetaching stale []).tookEffect = false := changesNothing.attached
          rw [isTried] at attached
          cases attached
      · rintro noneHarmed stale member rfl
        have isDetached : (triedDetaching stale []).completed = true ∧
            (triedDetaching stale []).rest = [] := by
          unfold triedDetaching
          split <;> exact ⟨rfl, rfl⟩
        have isTried : triedRecovery stale [] =
            ⟨triedDetaching stale [], ⟨true, true, false, []⟩, ⟨true, true, false, []⟩⟩ := by
          rw [triedRecovery, isDetached.2, completes]
          rfl
        rw [isTried]
        cases inUse : stale.inUse with
        | false => exact Or.inl ⟨isDetached.1, inUse, rfl, fun _ => rfl, rfl⟩
        | true =>
            have different := name_ne_of_subnetTaken separate member taken
            refine Or.inr ⟨?_, fun _ free => absurd (inUse.symm.trans free) nofun⟩
            rw [tookEffect_triedDetaching_iff isDetached.1]
            exact fun hasGroup => noneHarmed ⟨stale, member, rfl, different, hasGroup, inUse⟩

/-! A subnet that a machine is connected to, and a request for its block under
another name. -/

def connectedSubnet : Subnet where
  name := "b1f7e2d4_10.0.1.0-24".toList
  addressPrefix := "10.0.1.0/24".toList
  networkSecurityGroup := some "NSG_sandbox_all_subnets_b1f7e2d4".toList
  routeTable := none
  ipConfigurations := some ["/subscriptions/s/resourceGroups/b1f7e2d4/ipConfigurations/a".toList]

def connectedNetwork : VirtualNetwork :=
  ⟨"vnet-sandbox".toList, [], ["10.0.0.0/16".toList], [connectedSubnet]⟩

def connectedAzure : Azure :=
  { Azure.blank with virtualNetworks := fun _ => [connectedNetwork] }

theorem separate_connected : Separate connectedNetwork.subnets where
  keyed := List.nodup_singleton _
  parsed := by
    intro subnet member
    rw [List.mem_singleton.mp member]
    exact ⟨⟨⟨10, 0, 1, 0⟩, 24⟩, by decide⟩
  disjoint := by
    intro subnet member other otherMem different
    rw [List.mem_singleton.mp member, List.mem_singleton.mp otherMem] at different
    exact absurd rfl different

theorem createSubnet_failsHarmlessly_example :
    let final := run (failingSubnetServices true)
      (createSubnet "management".toList "NSG_sandbox_all_subnets_5e1d0f3a".toList connectedNetwork
        "10.0.0.0/16".toList "5e1d0f3a_10.0.0.0-16".toList)
      ([.completes, .raisesAfter ⟨.notFound, by decide⟩], connectedAzure)
    FailsHarmlessly connectedNetwork.subnets final.1
        (final.2.2.subnetsOf "management".toList "vnet-sandbox".toList) ↔
      SparesSubnets true connectedNetwork.subnets "NSG_sandbox_all_subnets_5e1d0f3a".toList
        "10.0.0.0/16".toList "5e1d0f3a_10.0.0.0-16".toList
        [.completes, .raisesAfter ⟨.notFound, by decide⟩] :=
  createSubnet_failsHarmlessly_iff true (by decide) separate_connected _ _ _ _

/-- The subnet in use stays, without its security group, though no call fails but
the two that Azure refuses. -/
theorem failed_recovery_detaches_security_group :
    let final := run (failingSubnetServices true)
      (createSubnet "management".toList "NSG_sandbox_all_subnets_5e1d0f3a".toList connectedNetwork
        "10.0.1.0/24".toList "5e1d0f3a_10.0.1.0-24".toList) ([], connectedAzure)
    final.1 = .error inUseSubnet ∧
      final.2.2.subnetsOf "management".toList "vnet-sandbox".toList =
        some [detached connectedSubnet] ∧
      ¬ FailsHarmlessly connectedNetwork.subnets final.1
        (final.2.2.subnetsOf "management".toList "vnet-sandbox".toList) := by
  intro final
  have raises : final.1 = .error inUseSubnet := by decide
  have left : final.2.2.subnetsOf "management".toList "vnet-sandbox".toList =
      some [detached connectedSubnet] := by decide
  refine ⟨raises, left, fun harmless => ?_⟩
  rcases harmless inUseSubnet raises with ⟨subnets, after, unharmed⟩
  cases left.symm.trans after
  rcases unharmed connectedSubnet (List.mem_singleton_self _) with ⟨other, member, _, _, sameGroup⟩
  rw [List.mem_singleton.mp member] at sameGroup
  contradiction

/-! A subnet that nothing is connected to is lost if the second creation fails. -/

example :
    let final := run (failingSubnetServices true)
      (createSubnet "management".toList "NSG_sandbox_all_subnets_5e1d0f3a".toList
        { connectedNetwork with subnets := [{ connectedSubnet with ipConfigurations := none }] }
        "10.0.1.0/24".toList "5e1d0f3a_10.0.1.0-24".toList)
      ([.completes, .completes, .completes, .raisesBefore ⟨.notFound, by decide⟩],
        { Azure.blank with virtualNetworks := fun _ =>
          [{ connectedNetwork with
            subnets := [{ connectedSubnet with ipConfigurations := none }] }] })
    final.1 = .error .notFound ∧
      final.2.2.subnetsOf "management".toList "vnet-sandbox".toList = some [] := by
  decide

end PrepareSandboxInfraOperation

end AzureShell
