import AzureShell.Sandbox.Prepare

/-!
# The calls of a subnet creation

Azure rejects a subnet whose block overlaps another one and keeps the subnets in
use.  Any other error may end a call, before it took effect or after.  Here is
what each of the calls leaves of the subnets, whatever becomes of its tries.
-/

namespace AzureShell

open Prog

/-! ## Subnets in use -/

/-- IP configurations are attached to the subnet. -/
def Subnet.inUse (subnet : Subnet) : Bool :=
  (subnet.ipConfigurations.getD []) ≠ []

/-- The answer to the deletion of a subnet in use. -/
def inUseSubnet : PyException :=
  .cloudError "Bad Request".toList "InUseSubnetCannotBeDeleted".toList

/-- Azure, which keeps the subnets in use. -/
def subnetServices (strict : Bool) : Handler AzureServices Azure
  | .deleteSubnet group network name, azure =>
      let subnets := (azure.subnetsOf group network).getD []
      if subnets.any fun subnet => subnet.name = name && subnet.inUse then
        (.error inUseSubnet, azure)
      else
        Azure.handle strict (.deleteSubnet group network name) azure
  | request, azure => Azure.handle strict request azure

/-- The errors that a call may fail with: Azure rejects a subnet only if its block
is taken. -/
abbrev OtherFailure :=
  { e : PyException // PrepareSandboxInfraOperation.isInvalidSubnet e = false }

/-- Azure, which keeps the subnets in use, and of which every call may fail. -/
def failingSubnetServices (strict : Bool) :
    Handler AzureServices (List (Fate OtherFailure) × Azure) :=
  faulty (fun _ => true) Subtype.val (subnetServices strict)

/-- The subnets of a network: every name is taken once, every address prefix is
a block, and no two blocks overlap. -/
structure Separate (subnets : List Subnet) : Prop where
  keyed : Store.Keyed Subnet.name subnets
  parsed : ∀ subnet ∈ subnets, ∃ cidr, Net.Cidr.parse subnet.addressPrefix = some cidr
  disjoint : ∀ subnet ∈ subnets, ∀ other ∈ subnets, subnet.name ≠ other.name →
    Azure.prefixesOverlap subnet.addressPrefix other.addressPrefix = false

/-- Every subnet is still there, with its address prefix and security group. -/
def Unharmed (before after : List Subnet) : Prop :=
  ∀ subnet ∈ before, ∃ other ∈ after, other.name = subnet.name ∧
    other.addressPrefix = subnet.addressPrefix ∧
    other.networkSecurityGroup = subnet.networkSecurityGroup

/-- A call that raises leaves the subnets unharmed. -/
def FailsHarmlessly (before : List Subnet) (outcome : Except PyException Unit)
    (after : Option (List Subnet)) : Prop :=
  ∀ e, outcome = .error e → ∃ subnets, after = some subnets ∧ Unharmed before subnets

theorem Unharmed.refl (subnets : List Subnet) : Unharmed subnets subnets :=
  fun subnet member => ⟨subnet, member, rfl, rfl, rfl⟩

namespace Azure

theorem prefixesOverlap_self {addressPrefix : Text} {cidr : Net.Cidr}
    (parsed : Net.Cidr.parse addressPrefix = some cidr) :
    prefixesOverlap addressPrefix addressPrefix = true := by
  simp [prefixesOverlap, parsed, Net.Cidr.contains]

theorem subnetsOf_modifySubnets (azure : Azure) (group network : Text)
    (change : List Subnet → List Subnet) :
    (azure.modifySubnets group network change).subnetsOf group network =
      (azure.subnetsOf group network).map change := by
  have keeps : ∀ virtualNetwork : VirtualNetwork,
      ({ virtualNetwork with subnets := change virtualNetwork.subnets } : VirtualNetwork).name =
        virtualNetwork.name := fun _ => rfl
  simp only [subnetsOf, modifySubnets, Function.update_self, Store.lookup_modify_self keeps,
    Option.map_map]
  rfl

end Azure

namespace Separate

variable {subnets : List Subnet} {subnet other : Subnet}

/-- The block of a subnet overlaps no other subnet's. -/
theorem eq_of_overlap (separate : Separate subnets) (member : subnet ∈ subnets)
    (otherMem : other ∈ subnets)
    (overlap : Azure.prefixesOverlap subnet.addressPrefix other.addressPrefix = true) :
    subnet = other := by
  by_cases sameName : subnet.name = other.name
  · exact List.inj_on_of_nodup_map separate.keyed member otherMem sameName
  · rw [separate.disjoint subnet member other otherMem sameName] at overlap
    contradiction

theorem eq_of_addressPrefix (separate : Separate subnets) (member : subnet ∈ subnets)
    (otherMem : other ∈ subnets) (same : subnet.addressPrefix = other.addressPrefix) :
    subnet = other := by
  rcases separate.parsed subnet member with ⟨cidr, parsed⟩
  exact separate.eq_of_overlap member otherMem (same ▸ Azure.prefixesOverlap_self parsed)

end Separate

namespace PrepareSandboxInfraOperation

variable {strict : Bool} {group network subnetName cidr securityGroupName : Text}
  {subnets : List Subnet} {subnet : Subnet} {azure : Azure} {sandboxVnet : VirtualNetwork}

/-! ## The requests -/

/-- A subnet whose block is free is stored. -/
theorem settles_putSubnet (strict : Bool) (group network : Text)
    (free : Azure.subnetTaken subnets subnet = false) :
    Settles (subnetServices strict) (.putSubnet group network subnet)
      (fun azure => azure.subnetsOf group network) (some subnets)
      (some (Store.upsert Subnet.name subnet subnets)) (.ok ()) (.ok ()) := by
  have stores : ∀ azure stored, azure.subnetsOf group network = some stored →
      Azure.subnetTaken stored subnet = false →
      (subnetServices strict (.putSubnet group network subnet) azure).1 = .ok () ∧
      (subnetServices strict (.putSubnet group network subnet) azure).2.subnetsOf group network =
        some (Store.upsert Subnet.name subnet stored) := by
    intro azure stored isStored isFree
    simp [subnetServices, Azure.handle, isStored, isFree, Azure.subnetsOf_modifySubnets]
  constructor
  · exact fun azure old => stores azure subnets old free
  · intro azure new
    have stillFree : Azure.subnetTaken (Store.upsert Subnet.name subnet subnets) subnet =
        false := by
      rw [Azure.subnetTaken, List.any_eq_false] at free ⊢
      intro other member
      rcases Store.mem_upsert_iff.mp member with rfl | ⟨old, _⟩
      · simp
      · exact free other old
    have again := stores azure _ new stillFree
    rwa [Store.upsert_upsert_self] at again

/-- A subnet whose block is taken is rejected. -/
theorem settles_putSubnet_of_taken (strict : Bool) (group network : Text)
    (taken : Azure.subnetTaken subnets subnet = true) :
    Settles (subnetServices strict) (.putSubnet group network subnet)
      (fun azure => azure.subnetsOf group network) (some subnets) (some subnets)
      (.error Azure.invalidSubnet) (.error Azure.invalidSubnet) := by
  have rejects : ∀ azure, azure.subnetsOf group network = some subnets →
      (subnetServices strict (.putSubnet group network subnet) azure).1 =
          .error Azure.invalidSubnet ∧
        (subnetServices strict (.putSubnet group network subnet) azure).2.subnetsOf group network =
          some subnets := by
    intro azure present
    simp [subnetServices, Azure.handle, present, taken]
  exact ⟨rejects, rejects⟩

/-- A subnet in use is not deleted. -/
theorem settles_deleteSubnet_of_inUse (strict : Bool) (group network : Text)
    (member : subnet ∈ subnets) (inUse : subnet.inUse = true) :
    Settles (subnetServices strict) (.deleteSubnet group network subnet.name)
      (fun azure => azure.subnetsOf group network) (some subnets) (some subnets)
      (.error inUseSubnet) (.error inUseSubnet) := by
  have keeps : ∀ azure, azure.subnetsOf group network = some subnets →
      (subnetServices strict (.deleteSubnet group network subnet.name) azure).1 =
          .error inUseSubnet ∧
        (subnetServices strict (.deleteSubnet group network subnet.name) azure).2.subnetsOf
          group network = some subnets := by
    intro azure present
    have isInUse : (subnets.any fun other => other.name = subnet.name && other.inUse) = true :=
      List.any_eq_true.mpr ⟨subnet, member, by simp [inUse]⟩
    rw [subnetServices, present, Option.getD_some, if_pos isInUse]
    exact ⟨rfl, present⟩
  exact ⟨keeps, keeps⟩

/-- The answer to the deletion of a subnet that is no longer there. -/
def deletedAgain (strict : Bool) : Except PyException Unit :=
  Azure.deletion strict false

/-- A subnet that is not in use is deleted. -/
theorem settles_deleteSubnet (strict : Bool) (group network : Text) (member : subnet ∈ subnets)
    (free : ∀ other ∈ subnets, other.name = subnet.name → other.inUse = false) :
    Settles (subnetServices strict) (.deleteSubnet group network subnet.name)
      (fun azure => azure.subnetsOf group network) (some subnets)
      (some (Store.erase Subnet.name subnet.name subnets)) (.ok ()) (deletedAgain strict) := by
  have deletes : ∀ azure stored, azure.subnetsOf group network = some stored →
      (∀ other ∈ stored, other.name = subnet.name → other.inUse = false) →
      (subnetServices strict (.deleteSubnet group network subnet.name) azure).1 =
          Azure.deletion strict (stored.any fun other => other.name = subnet.name) ∧
        (subnetServices strict (.deleteSubnet group network subnet.name) azure).2.subnetsOf
          group network = some (Store.erase Subnet.name subnet.name stored) := by
    intro azure stored present allFree
    have notInUse : ¬ (stored.any fun other => other.name = subnet.name && other.inUse) =
        true := by
      rw [List.any_eq_true]
      rintro ⟨other, otherMem, both⟩
      rw [Bool.and_eq_true, decide_eq_true_eq] at both
      rw [allFree other otherMem both.1] at both
      exact Bool.false_ne_true both.2
    rw [subnetServices, present, Option.getD_some, if_neg notInUse, Azure.handle, present,
      Option.getD_some, Azure.subnetsOf_modifySubnets, present]
    exact ⟨rfl, rfl⟩
  constructor
  · intro azure old
    have isPresent : (subnets.any fun other => other.name = subnet.name) = true :=
      List.any_eq_true.mpr ⟨subnet, member, by simp⟩
    have deleted := deletes azure subnets old free
    rw [isPresent] at deleted
    refine ⟨deleted.1.trans ?_, deleted.2⟩
    simp [Azure.deletion]
  · intro azure new
    have absent : ∀ other ∈ Store.erase Subnet.name subnet.name subnets,
        other.name ≠ subnet.name := fun other left => (Store.mem_erase_iff.mp left).2
    have noneLeft : (List.any (Store.erase Subnet.name subnet.name subnets) fun other =>
        other.name = subnet.name) = false := by
      rw [List.any_eq_false]
      intro other left
      simpa using absent other left
    have deleted := deletes azure _ new fun other left same => absurd same (absent other left)
    rw [noneLeft, Store.erase_eq_self absent] at deleted
    exact deleted

/-! ## The cleanup -/

/-- The subnet without its security group. -/
def detached (subnet : Subnet) : Subnet :=
  { subnet with networkSecurityGroup := none }

/-- The subnets after the security group of one is detached. -/
def withDetached (subnet : Subnet) (subnets : List Subnet) : List Subnet :=
  if subnet.networkSecurityGroup.isSome = true then
    Store.upsert Subnet.name (detached subnet) subnets
  else
    subnets

theorem mem_withDetached_iff (keyed : Store.Keyed Subnet.name subnets) (member : subnet ∈ subnets)
    {other : Subnet} :
    other ∈ withDetached subnet subnets ↔
      other = detached subnet ∨ (other ∈ subnets ∧ other.name ≠ subnet.name) := by
  unfold withDetached
  split
  · exact Store.mem_upsert_iff
  · rename_i noGroup
    have same : detached subnet = subnet := by
      rw [detached, ← Option.not_isSome_iff_eq_none.mp noGroup]
    rw [same]
    constructor
    · intro otherMem
      by_cases sameName : other.name = subnet.name
      · exact Or.inl (List.inj_on_of_nodup_map keyed otherMem member sameName)
      · exact Or.inr ⟨otherMem, sameName⟩
    · rintro (rfl | ⟨otherMem, _⟩)
      · exact member
      · exact otherMem

/-- What becomes of the call that detaches the security group, if there is one. -/
def triedDetaching (subnet : Subnet) (fates : List (Fate OtherFailure)) : Tried OtherFailure :=
  if subnet.networkSecurityGroup.isSome = true then triedCall fates else ⟨true, false, false, fates⟩

/-- What a program of which only the subnets of a network matter leaves of a call
with an outcome. -/
abbrev LeavesSubnets {α : Type} (group network : Text) (old new : List Subnet)
    (answer answerAgain : Except PyException α) (outcome : Tried OtherFailure)
    (final : Except PyException α × List (Fate OtherFailure) × Azure) : Prop :=
  Follows (S := AzureServices) (Subtype.val : OtherFailure → PyException)
    (fun azure : Azure => azure.subnetsOf group network) (some old) (some new) answer answerAgain
    outcome final

theorem LeavesSubnets.left {α : Type} {old new : List Subnet}
    {answer answerAgain : Except PyException α}
    {outcome : Tried OtherFailure}
    {final : Except PyException α × List (Fate OtherFailure) × Azure}
    (leaves : LeavesSubnets group network old new answer answerAgain outcome final) :
    final.2.2.subnetsOf group network = some (if outcome.tookEffect then new else old) :=
  leaves.seen.trans (apply_ite some _ _ _).symm

theorem run_detach_leaves (strict : Bool) (present : azure.subnetsOf group network = some subnets)
    (separate : Separate subnets) (member : subnet ∈ subnets)
    (fates : List (Fate OtherFailure)) :
    LeavesSubnets group network subnets (withDetached subnet subnets) (.ok ()) (.ok ())
      (triedDetaching subnet fates)
      (run (failingSubnetServices strict)
        (when (subnet.networkSecurityGroup.isSome = true) <|
          retryConnection <| send <| .putSubnet group network (detached subnet))
        (fates, azure)) := by
  unfold withDetached triedDetaching when
  split
  · have free : Azure.subnetTaken subnets (detached subnet) = false := by
      rw [Azure.subnetTaken, List.any_eq_false]
      intro other otherMem taken
      rw [Bool.and_eq_true, decide_eq_true_eq] at taken
      have same : other = subnet := separate.eq_of_overlap otherMem member taken.2
      have sameName : other.name = subnet.name := congrArg Subnet.name same
      exact taken.1 sameName
    exact run_retryConnection_send (fun _ impossible => by cases impossible)
      (fun _ impossible => by cases impossible) (settles_putSubnet strict group network free) fates
      present
  · exact ⟨rfl, present, fun _ => rfl, fun impossible => by cases impossible⟩

theorem find?_addressPrefix (separate : Separate subnets) (member : subnet ∈ subnets) :
    (subnets.find? fun other => other.addressPrefix = subnet.addressPrefix) = some subnet := by
  cases found : subnets.find? fun other => other.addressPrefix = subnet.addressPrefix with
  | none =>
      have absent := List.find?_eq_none.mp found subnet member
      simp at absent
  | some other =>
      have samePrefix : other.addressPrefix = subnet.addressPrefix := by
        simpa using List.find?_some found
      exact congrArg some <|
        separate.eq_of_addressPrefix (List.mem_of_find?_eq_some found) member samePrefix

/-- The cleanup of the subnet that has the requested block. -/
theorem cleanupStaleData_eq (group : Text) (separate : Separate sandboxVnet.subnets)
    (member : subnet ∈ sandboxVnet.subnets) :
    cleanupStaleData group sandboxVnet subnet.addressPrefix = (do
      when (subnet.networkSecurityGroup.isSome = true) <|
        retryConnection <| send <| .putSubnet group sandboxVnet.name (detached subnet)
      let _ ← ofExcept <|
        (subnet.ipConfigurations.getD []).mapM AzureResourceIdParser.getResourceGroupName
      retryConnection <| send <| .deleteSubnet group sandboxVnet.name subnet.name) := by
  rw [cleanupStaleData, find?_addressPrefix separate member]
  rfl

/-! ## The creation -/

/-- The subnet that is asked for. -/
def requestedSubnet (securityGroupName cidr subnetName : Text) : Subnet :=
  ⟨subnetName, cidr, some securityGroupName, none, none⟩

/-- The call that creates a subnet. -/
def createSubnetCommand (group securityGroupName : Text) (sandboxVnet : VirtualNetwork)
    (cidr subnetName : Text) : Shell Unit :=
  retryConnection <| send <| .putSubnet group sandboxVnet.name
    (requestedSubnet securityGroupName cidr subnetName)

theorem createSubnet_eq (group securityGroupName : Text) (sandboxVnet : VirtualNetwork)
    (cidr subnetName : Text) :
    createSubnet group securityGroupName sandboxVnet cidr subnetName =
      (withLock .subnetLocker <|
        (createSubnetCommand group securityGroupName sandboxVnet cidr subnetName).catching fun e =>
          if isInvalidSubnet e then do
            cleanupStaleData group sandboxVnet cidr
            createSubnetCommand group securityGroupName sandboxVnet cidr subnetName
          else
            raise e : Shell Unit) :=
  rfl

theorem run_createSubnetCommand_leaves (strict : Bool)
    (present : azure.subnetsOf group sandboxVnet.name = some subnets)
    (free : Azure.subnetTaken subnets (requestedSubnet securityGroupName cidr subnetName) = false)
    (fates : List (Fate OtherFailure)) :
    LeavesSubnets group sandboxVnet.name subnets
      (Store.upsert Subnet.name (requestedSubnet securityGroupName cidr subnetName) subnets)
      (.ok ()) (.ok ()) (triedCall fates)
      (run (failingSubnetServices strict)
        (createSubnetCommand group securityGroupName sandboxVnet cidr subnetName)
        (fates, azure)) :=
  run_retryConnection_send (fun _ impossible => by cases impossible)
    (fun _ impossible => by cases impossible) (settles_putSubnet strict _ _ free) fates present

theorem run_createSubnetCommand_of_taken (strict : Bool)
    (present : azure.subnetsOf group sandboxVnet.name = some subnets)
    (taken : Azure.subnetTaken subnets (requestedSubnet securityGroupName cidr subnetName) = true)
    (fates : List (Fate OtherFailure)) :
    LeavesSubnets group sandboxVnet.name subnets subnets (.error Azure.invalidSubnet)
      (.error Azure.invalidSubnet) (triedCall fates)
      (run (failingSubnetServices strict)
        (createSubnetCommand group securityGroupName sandboxVnet cidr subnetName)
        (fates, azure)) := by
  have final : ∀ e, (.error Azure.invalidSubnet : Except PyException Unit) = .error e →
      retryIfConnectionError e = false := by
    rintro e ⟨⟩
    decide
  exact run_retryConnection_send final final (settles_putSubnet_of_taken strict _ _ taken) fates
    present

/-- A taken block is taken by the subnet with that address prefix, if there is
one. -/
theorem name_ne_of_subnetTaken (separate : Separate subnets) (member : subnet ∈ subnets)
    (taken : Azure.subnetTaken subnets
      (requestedSubnet securityGroupName subnet.addressPrefix subnetName) = true) :
    subnet.name ≠ subnetName := by
  rcases List.any_eq_true.mp taken with ⟨other, otherMem, isTaken⟩
  rw [Bool.and_eq_true, decide_eq_true_eq] at isTaken
  have same : other = subnet := separate.eq_of_overlap otherMem member isTaken.2
  exact same ▸ isTaken.1

/-- Without the subnet of that address prefix the block is free. -/
theorem subnetTaken_erase (separate : Separate subnets) (member : subnet ∈ subnets)
    (securityGroupName subnetName : Text) :
    Azure.subnetTaken (Store.erase Subnet.name subnet.name (withDetached subnet subnets))
      (requestedSubnet securityGroupName subnet.addressPrefix subnetName) = false := by
  rw [Azure.subnetTaken, List.any_eq_false]
  intro other left isTaken
  rcases Store.mem_erase_iff.mp left with ⟨otherMem, different⟩
  rw [Bool.and_eq_true] at isTaken
  rcases (mem_withDetached_iff separate.keyed member).mp otherMem with rfl | ⟨old, _⟩
  · exact different rfl
  · have same : other = subnet := separate.eq_of_overlap old member isTaken.2
    exact different (congrArg Subnet.name same)

end PrepareSandboxInfraOperation

end AzureShell
