import AzureShell.Delete.Retryable
import AzureShell.Prog.Ghost

/-!
# Claims to addresses

Between its requests a command relies on what it knows of addresses: one that it
has checked out is on no interface before it creates one with it, and one that it
has read from an interface it deletes is on no other.  The claims of a command
are its ghost value.  They are true, and no two commands claim the same address.
-/

namespace AzureShell

open Prog DeleteAzureVMOperation

/-! ## Addresses in use -/

/-- The addresses of an interface that Azure does not choose. -/
def NetworkInterface.staticAddresses (nic : NetworkInterface) : List Text :=
  (nic.ipConfigurations.filter fun ipConfiguration =>
    isStaticAllocation (.azureType ipConfiguration.privateIpAllocationMethod)).map
      IpConfiguration.privateIpAddress

/-- The name of an interface of a machine. -/
def IsInterfaceOf (vmName interfaceName : Text) : Prop :=
  ∃ i, interfaceName = vmName ++ '-' :: Text.ofNat i

/-- An interface belongs to one machine. -/
theorem IsInterfaceOf.eq {vmName other interfaceName : Text}
    (isInterface : IsInterfaceOf vmName interfaceName)
    (isOther : IsInterfaceOf other interfaceName) : vmName = other := by
  rcases isInterface with ⟨i, rfl⟩
  rcases isOther with ⟨j, same⟩
  apply Text.append_cons_right_inj (Text.not_mem_ofNat _) (Text.not_mem_ofNat _) same <;> decide

/-- A stored interface has the address by static allocation. -/
def Azure.Uses (azure : Azure) (nic : NetworkInterface) (address : Text) : Prop :=
  nic ∈ azure.networkInterfaces ∧ address ∈ nic.staticAddresses

/-- No two interfaces have a static address in common, each static address is
checked out for the reservation, and machines have interfaces of their own. -/
structure AddressesApart (reservationId : Text) (azure : Azure) : Prop where
  alone : ∀ {address nic other}, azure.Uses nic address → azure.Uses other address → nic = other
  checkedOut : ∀ {address nic}, azure.Uses nic address →
    poolItem reservationId address ∈ azure.checkedOut
  attached : ∀ vm ∈ azure.virtualMachines, ∀ reference ∈ vm.networkInterfaces,
    IsInterfaceOf vm.name (AzureResourceIdParser.lastOfId reference.id)

/-! ## Claims -/

/-- What a command knows of an address. -/
inductive AddressClaim where
  | unclaimed
  | unused
  | usedBy (interfaceName : Text)
deriving DecidableEq

/-- An interface of this name may have the address. -/
def AddressClaim.Admits : AddressClaim → Text → Prop
  | unclaimed, _ => True
  | unused, _ => False
  | usedBy interfaceName, name => name = interfaceName

/-- What a command knows of an address is true: an address it claims is checked
out, and it names none but its own interfaces. -/
structure AddressClaim.IsTrue (reservationId : Text) (mine : Text → Prop) (azure : Azure)
    (address : Text) (claim : AddressClaim) : Prop where
  checkedOut : claim ≠ .unclaimed → poolItem reservationId address ∈ azure.checkedOut
  admits : ∀ {nic}, azure.Uses nic address → claim.Admits nic.name
  owned : ∀ {interfaceName}, claim = .usedBy interfaceName → mine interfaceName

theorem AddressClaim.isTrue_unclaimed {reservationId : Text} {mine : Text → Prop} {azure : Azure}
    {address : Text} : IsTrue reservationId mine azure address .unclaimed where
  checkedOut claimed := absurd rfl claimed
  admits _ := trivial
  owned := nofun

/-- Know something else of some addresses. -/
def reclaim (changed : Text → Prop) [DecidablePred changed] (claim : AddressClaim)
    (claims : Text → AddressClaim) (address : Text) : AddressClaim :=
  if changed address then claim else claims address

/-- What the commands know is true, and no two of them claim the same address. -/
structure ClaimsHold {ι : Type} (reservationId : Text) (mine : ι → Text → Prop)
    (claims : ι → Text → AddressClaim) (azure : Azure) : Prop where
  apart : AddressesApart reservationId azure
  isTrue : ∀ i address, (claims i address).IsTrue reservationId (mine i) azure address
  exclusive : ∀ {i j address}, claims i address ≠ .unclaimed → claims j address ≠ .unclaimed → i = j

/-- Each interface is read and deleted by one command at most. -/
def BelongToOne {ι : Type} (mine : ι → Text → Prop) : Prop :=
  ∀ i j interfaceName, mine i interfaceName → mine j interfaceName → i = j

section Claims

variable {ι : Type} {reservationId : Text} {mine : ι → Text → Prop}
  {claims : ι → Text → AddressClaim} {azure after : Azure} {i : ι} {address : Text}

theorem claimsHold_of_apart (apart : AddressesApart reservationId azure) :
    ClaimsHold reservationId mine (fun _ _ => .unclaimed) azure where
  apart := apart
  isTrue _ _ := AddressClaim.isTrue_unclaimed
  exclusive claimed := absurd rfl claimed

/-- What a command claims, no other does. -/
theorem ClaimsHold.unclaimed_of_ne (holds : ClaimsHold reservationId mine claims azure) {j : ι}
    (different : j ≠ i) (claimed : claims i address ≠ .unclaimed) :
    claims j address = .unclaimed := by
  by_contra otherClaimed
  exact different (holds.exclusive otherClaimed claimed)

/-- No interface has an address that a command knows to be unused. -/
theorem ClaimsHold.not_uses (holds : ClaimsHold reservationId mine claims azure)
    (unused : claims i address = .unused) {nic : NetworkInterface} : ¬ azure.Uses nic address := by
  intro uses
  have admitted := (holds.isTrue i address).admits uses
  rw [unused] at admitted
  exact admitted

/-- An address in use is claimed for the interface that uses it. -/
theorem ClaimsHold.usedBy_of_uses (holds : ClaimsHold reservationId mine claims azure)
    {nic : NetworkInterface} (uses : azure.Uses nic address)
    (claimed : claims i address ≠ .unclaimed) : claims i address = .usedBy nic.name := by
  have admitted := (holds.isTrue i address).admits uses
  cases known : claims i address with
  | unclaimed => exact absurd known claimed
  | unused => exact absurd uses (holds.not_uses known)
  | usedBy interfaceName =>
      rw [known] at admitted
      exact congrArg AddressClaim.usedBy admitted.symm

/-! ## Fewer addresses in use -/

/-- Every address in use was in use, nothing is released, and there are no new
machines. -/
structure KeepsAddresses (before after : Azure) : Prop where
  uses : ∀ {nic address}, after.Uses nic address → before.Uses nic address
  checkedOut : before.checkedOut ⊆ after.checkedOut
  machines : after.virtualMachines ⊆ before.virtualMachines

theorem AddressClaim.IsTrue.keeps {claim : AddressClaim} {mine : Text → Prop}
    (isTrue : claim.IsTrue reservationId mine azure address) (keeps : KeepsAddresses azure after) :
    claim.IsTrue reservationId mine after address where
  checkedOut claimed := keeps.checkedOut (isTrue.checkedOut claimed)
  admits uses := isTrue.admits (keeps.uses uses)
  owned := isTrue.owned

theorem AddressesApart.keeps (apart : AddressesApart reservationId azure)
    (keeps : KeepsAddresses azure after) : AddressesApart reservationId after where
  alone uses otherUses := apart.alone (keeps.uses uses) (keeps.uses otherUses)
  checkedOut uses := keeps.checkedOut (apart.checkedOut (keeps.uses uses))
  attached vm member := apart.attached vm (keeps.machines member)

theorem ClaimsHold.keeps (holds : ClaimsHold reservationId mine claims azure)
    (keeps : KeepsAddresses azure after) : ClaimsHold reservationId mine claims after where
  apart := holds.apart.keeps keeps
  isTrue i address := (holds.isTrue i address).keeps keeps
  exclusive := holds.exclusive

/-- A machine is stored with interfaces of its own. -/
theorem ClaimsHold.attach (holds : ClaimsHold reservationId mine claims azure) {vm : VirtualMachine}
    (own : ∀ reference ∈ vm.networkInterfaces,
      IsInterfaceOf vm.name (AzureResourceIdParser.lastOfId reference.id)) :
    ClaimsHold reservationId mine claims
      (azure.onVirtualMachines (Store.upsert VirtualMachine.name vm)) where
  apart := by
    refine ⟨holds.apart.alone, holds.apart.checkedOut, fun other member => ?_⟩
    rcases Store.mem_upsert_iff.mp member with rfl | ⟨stored, _⟩
    · exact own
    · exact holds.apart.attached other stored
  isTrue i address :=
    ⟨(holds.isTrue i address).checkedOut, (holds.isTrue i address).admits,
      (holds.isTrue i address).owned⟩
  exclusive := holds.exclusive

/-! ## The requests that matter -/

variable [DecidableEq ι]

/-- A command learns something of addresses that nobody else claims. -/
theorem ClaimsHold.reclaim (holds : ClaimsHold reservationId mine claims azure)
    {changed : Text → Prop} [DecidablePred changed] {claim : AddressClaim}
    (apart : AddressesApart reservationId after)
    (others : ∀ j address, (j = i → ¬ changed address) →
      (claims j address).IsTrue reservationId (mine j) after address)
    (isTrue : ∀ address, changed address → claim.IsTrue reservationId (mine i) after address)
    (first : claim ≠ .unclaimed → ∀ j, j ≠ i → ∀ address, changed address →
      claims j address = .unclaimed) :
    ClaimsHold reservationId mine
      (Function.update claims i (AzureShell.reclaim changed claim (claims i))) after where
  apart := apart
  isTrue j address := by
    by_cases same : j = i
    · subst same
      rw [Function.update_self, AzureShell.reclaim]
      split
      · rename_i isChanged
        exact isTrue address isChanged
      · rename_i unchanged
        exact others j address fun _ => unchanged
    · rw [Function.update_of_ne same]
      exact others j address fun isI => absurd isI same
  exclusive := by
    have new : ∀ {j address}, j ≠ i →
        AzureShell.reclaim changed claim (claims i) address ≠ .unclaimed →
          claims j address = .unclaimed := by
      intro j address different claimed
      rw [AzureShell.reclaim] at claimed
      split at claimed
      · rename_i isChanged
        exact first claimed j different address isChanged
      · exact holds.unclaimed_of_ne different claimed
    intro j k address claimed otherClaimed
    by_cases isJ : j = i <;> by_cases isK : k = i
    · exact isJ.trans isK.symm
    · rw [isJ, Function.update_self] at claimed
      rw [Function.update_of_ne isK] at otherClaimed
      exact absurd (new isK claimed) otherClaimed
    · rw [isK, Function.update_self] at otherClaimed
      rw [Function.update_of_ne isJ] at claimed
      exact absurd (new isJ otherClaimed) claimed
    · rw [Function.update_of_ne isJ] at claimed
      rw [Function.update_of_ne isK] at otherClaimed
      exact holds.exclusive claimed otherClaimed

/-- An address that is checked out was neither claimed nor in use. -/
theorem ClaimsHold.checkout (holds : ClaimsHold reservationId mine claims azure)
    (free : poolItem reservationId address ∉ azure.checkedOut) :
    ClaimsHold reservationId mine
      (Function.update claims i (AzureShell.reclaim (· = address) .unused (claims i)))
      { azure with checkedOut := poolItem reservationId address :: azure.checkedOut } := by
  have keeps : KeepsAddresses azure
      { azure with checkedOut := poolItem reservationId address :: azure.checkedOut } :=
    ⟨id, List.subset_cons_self _ _, List.Subset.refl _⟩
  apply holds.reclaim (holds.apart.keeps keeps)
  · intro j other _
    exact (holds.isTrue j other).keeps keeps
  · rintro _ rfl
    refine ⟨fun _ => List.mem_cons_self, fun uses => ?_, nofun⟩
    exact free (holds.apart.checkedOut (keeps.uses uses))
  · rintro _ j _ _ rfl
    by_contra claimed
    exact free ((holds.isTrue j _).checkedOut claimed)

/-- An unused address goes to a new interface. -/
theorem ClaimsHold.create (holds : ClaimsHold reservationId mine claims azure)
    (unused : claims i address = .unused) {nic : NetworkInterface}
    (hasOnly : ∀ other ∈ nic.staticAddresses, other = address) :
    ClaimsHold reservationId mine
      (Function.update claims i (AzureShell.reclaim (· = address) .unclaimed (claims i)))
      (azure.onNetworkInterfaces (Store.upsert NetworkInterface.name nic)) := by
  have claimed : claims i address ≠ .unclaimed := by
    rw [unused]
    exact nofun
  have oldOrNew : ∀ {other taken}, (azure.onNetworkInterfaces
      (Store.upsert NetworkInterface.name nic)).Uses other taken →
        (other = nic ∧ taken = address) ∨ azure.Uses other taken := by
    rintro other taken ⟨member, has⟩
    rcases Store.mem_upsert_iff.mp member with rfl | ⟨stored, _⟩
    · exact Or.inl ⟨rfl, hasOnly taken has⟩
    · exact Or.inr ⟨stored, has⟩
  apply holds.reclaim
  · constructor
    · intro taken other another uses otherUses
      rcases oldOrNew uses with ⟨rfl, rfl⟩ | before <;>
        rcases oldOrNew otherUses with ⟨rfl, isAddress⟩ | otherBefore
      · rfl
      · exact absurd otherBefore (holds.not_uses unused)
      · rw [isAddress] at before
        exact absurd before (holds.not_uses unused)
      · exact holds.apart.alone before otherBefore
    · intro taken other uses
      rcases oldOrNew uses with ⟨_, rfl⟩ | before
      · exact (holds.isTrue i _).checkedOut claimed
      · exact holds.apart.checkedOut before
    · exact holds.apart.attached
  · intro j taken isOther
    refine ⟨(holds.isTrue j taken).checkedOut, fun uses => ?_, (holds.isTrue j taken).owned⟩
    rcases oldOrNew uses with ⟨_, isAddress⟩ | before
    · have different : j ≠ i := fun same => isOther same isAddress
      rw [isAddress, holds.unclaimed_of_ne different claimed]
      trivial
    · exact (holds.isTrue j taken).admits before
  · intro _ _
    exact AddressClaim.isTrue_unclaimed
  · intro isClaimed
    exact absurd rfl isClaimed

/-- The addresses of an interface of its own are used by nothing else. -/
theorem ClaimsHold.read (holds : ClaimsHold reservationId mine claims azure)
    (belong : BelongToOne mine)
    {nic : NetworkInterface} (stored : nic ∈ azure.networkInterfaces) (isMine : mine i nic.name) :
    ClaimsHold reservationId mine
      (Function.update claims i
        (AzureShell.reclaim (· ∈ nic.staticAddresses) (.usedBy nic.name) (claims i))) azure := by
  apply holds.reclaim holds.apart
  · intro j other _
    exact holds.isTrue j other
  · intro other has
    refine ⟨fun _ => holds.apart.checkedOut ⟨stored, has⟩, fun uses => ?_, ?_⟩
    · exact congrArg NetworkInterface.name (holds.apart.alone uses ⟨stored, has⟩)
    · rintro _ ⟨⟩
      exact isMine
  · intro _ j different other has
    by_contra claimed
    have used := holds.usedBy_of_uses ⟨stored, has⟩ claimed
    exact different (belong j i _ ((holds.isTrue j other).owned used) isMine)

/-- Once an interface is deleted, its addresses are unused. -/
theorem ClaimsHold.delete (holds : ClaimsHold reservationId mine claims azure)
    (interfaceName : Text) :
    ClaimsHold reservationId mine
      (Function.update claims i
        (AzureShell.reclaim (fun other => claims i other = .usedBy interfaceName) .unused (claims i)))
      (azure.onNetworkInterfaces (Store.erase NetworkInterface.name interfaceName)) := by
  have keeps : KeepsAddresses azure
      (azure.onNetworkInterfaces (Store.erase NetworkInterface.name interfaceName)) :=
    ⟨fun uses => ⟨(Store.mem_erase_iff.mp uses.1).1, uses.2⟩, List.Subset.refl _,
      List.Subset.refl _⟩
  have claimed : ∀ {other}, claims i other = .usedBy interfaceName →
      claims i other ≠ .unclaimed := by
    intro other used
    rw [used]
    exact nofun
  apply holds.reclaim (holds.apart.keeps keeps)
  · intro j other _
    exact (holds.isTrue j other).keeps keeps
  · intro other used
    refine ⟨fun _ => (holds.isTrue i other).checkedOut (claimed used), fun uses => ?_, nofun⟩
    have admitted := (holds.isTrue i other).admits (keeps.uses uses)
    rw [used] at admitted
    exact (Store.mem_erase_iff.mp uses.1).2 admitted
  · intro _ j different other used
    exact holds.unclaimed_of_ne different (claimed used)

/-- Addresses that are unused may be released. -/
theorem ClaimsHold.release (holds : ClaimsHold reservationId mine claims azure) {values : List Text}
    (unused : ∀ value ∈ values, claims i value = .unused) (released : List PoolItem) :
    ClaimsHold reservationId mine
      (Function.update claims i (AzureShell.reclaim (· ∈ values) .unclaimed (claims i)))
      { azure with
        released := released
        checkedOut := azure.checkedOut.filter (· ∉ values.map (poolItem reservationId)) } := by
  have isKept : ∀ {other}, poolItem reservationId other ∈ azure.checkedOut → other ∉ values →
      poolItem reservationId other ∈
        azure.checkedOut.filter (· ∉ values.map (poolItem reservationId)) := by
    intro other isOut notReleased
    apply List.mem_filter.mpr
    refine ⟨isOut, decide_eq_true fun member => ?_⟩
    rcases List.mem_map.mp member with ⟨value, inValues, same⟩
    have isValue : value = other := congrArg PoolItem.address same
    exact notReleased (isValue ▸ inValues)
  apply holds.reclaim
  · constructor
    · exact holds.apart.alone
    · intro taken nic uses
      apply isKept (holds.apart.checkedOut uses)
      intro inValues
      exact holds.not_uses (unused taken inValues) uses
    · exact holds.apart.attached
  · intro j other isOther
    refine ⟨fun claimed => ?_, (holds.isTrue j other).admits, (holds.isTrue j other).owned⟩
    apply isKept ((holds.isTrue j other).checkedOut claimed)
    intro inValues
    by_cases same : j = i
    · exact isOther same inValues
    · apply claimed
      apply holds.unclaimed_of_ne same
      rw [unused other inValues]
      exact nofun
  · intro _ _
    exact AddressClaim.isTrue_unclaimed
  · intro isClaimed
    exact absurd rfl isClaimed

end Claims

/-! ## The services -/

/-- Whether a request creates an interface or a machine or releases addresses. -/
def Request.touchesAddresses : Request → Bool
  | .putNetworkInterface _ => true
  | .putVirtualMachine _ => true
  | .releaseFromPool _ _ _ _ => true
  | _ => false

/-- The request neither creates interfaces or machines nor releases addresses. -/
def LeavesAddresses (request : Request) : Prop :=
  request.touchesAddresses = false

theorem leaves_send {request : Request} (leaves : request.touchesAddresses = false) :
    Within LeavesAddresses (send request) :=
  within_perform leaves

theorem LeavesAddresses.keeps {request : Request} (leaves : LeavesAddresses request) (strict : Bool)
    (azure : Azure) : KeepsAddresses azure (Azure.handle strict request azure).2 := by
  have same : KeepsAddresses azure azure := ⟨id, List.Subset.refl _, List.Subset.refl _⟩
  cases request with
  | putNetworkInterface parameters => cases leaves
  | putVirtualMachine vm => cases leaves
  | releaseFromPool values poolId reservationId ownerId => cases leaves
  | putSecurityRule nsg rule =>
      simp only [Azure.handle]
      split
      · exact ⟨id, List.Subset.refl _, List.Subset.refl _⟩
      · exact same
  | putSubnet group network subnet =>
      rcases Azure.handle_putSubnet strict group network subnet azure with ⟨changed, equal⟩
      rw [equal]
      exact ⟨id, List.Subset.refl _, List.Subset.refl _⟩
  | checkoutFromPool poolId reservationId ownerId subnetRange =>
      simp only [Azure.handle]
      split
      · exact ⟨id, List.subset_cons_self _ _, List.Subset.refl _⟩
      · exact same
  | deleteVirtualMachine name =>
      exact ⟨id, List.Subset.refl _, (Store.erase_sublist _ _).subset⟩
  | deleteNetworkInterface name =>
      exact ⟨fun uses => ⟨(Store.mem_erase_iff.mp uses.1).1, uses.2⟩, List.Subset.refl _,
        List.Subset.refl _⟩
  | deleteResourceGroup name =>
      exact ⟨fun uses => (List.not_mem_nil uses.1).elim, List.Subset.refl _, List.nil_subset _⟩
  | _ => exact ⟨id, List.Subset.refl _, List.Subset.refl _⟩

/-- The services of concurrent commands: a call may raise anything but "Not Found",
before it took effect or after; deleting what is absent is no failure. -/
def lenient : Handler AzureServices UnreliableAzure :=
  faulty Request.mayFail Subtype.val (Azure.handle false)

/-- The claims of the commands hold in the state of the services. -/
def ClaimsHoldIn {ι : Type} (reservationId : Text) (mine : ι → Text → Prop)
    (claims : ι → Text → AddressClaim) (state : UnreliableAzure) : Prop :=
  ClaimsHold reservationId mine claims state.2

section Services

variable {ι : Type} [DecidableEq ι] {reservationId : Text} {mine : ι → Text → Prop} {i : ι}
  {held : Text → AddressClaim}

/-- A request that may fail: its effect is upheld, and the claims of before are
enough where it fails at once. -/
theorem upholds_send {request : Request}
    {post : (Text → AddressClaim) → Except PyException request.Answer → Prop}
    (fails : ∀ e : OtherError, post held (.error e.val))
    (effect : ∀ claims azure, claims i = held → ClaimsHold reservationId mine claims azure →
      ∃ after, ClaimsHold reservationId mine (Function.update claims i after)
          (Azure.handle false request azure).2 ∧
        post after (Azure.handle false request azure).1 ∧ ∀ e : OtherError, post after (.error e.val)) :
    Upholds (ClaimsHoldIn reservationId mine) lenient i post held (send request) := by
  apply upholds_perform
  rintro claims ⟨fates, azure⟩ isHeld holds
  rcases effect claims azure isHeld holds with ⟨after, kept, answered, failed⟩
  have unchanged : ClaimsHoldIn reservationId mine (Function.update claims i held)
      (fates, azure) := by
    rw [← isHeld, Function.update_eq_self]
    exact holds
  simp only [lenient, faulty]
  split
  · split
    · exact ⟨held, unchanged, fails _⟩
    · exact ⟨after, kept, failed _⟩
    · exact ⟨after, kept, answered⟩
  · exact ⟨after, kept, answered⟩

/-- A program that leaves addresses alone lets its command keep its claims. -/
theorem upholds_of_leaves {α : Type} {program : Shell α} (leaves : Within LeavesAddresses program)
    (held : Text → AddressClaim) :
    Upholds (ClaimsHoldIn reservationId mine) lenient i (fun after _ => after = held) held
      program := by
  refine upholds_of_within ?_ leaves held
  intro request claims state isLeft holds
  let kept : Azure → Prop := ClaimsHold reservationId mine claims
  have handled : kept (Azure.handle false request state.2).2 :=
    ClaimsHold.keeps holds (isLeft.keeps false state.2)
  exact faulty_preserves handled holds

/-- What the command knew before, it knows after. -/
theorem upholds_leaves {α : Type} {program : Shell α} (leaves : Within LeavesAddresses program)
    {property : (Text → AddressClaim) → Prop} (holds : property held) :
    Upholds (ClaimsHoldIn reservationId mine) lenient i (Leaves property fun _ _ => True) held
      program := by
  apply (upholds_of_leaves leaves held).mono
  rintro _ outcome rfl
  exact ⟨holds, fun _ _ => trivial⟩

theorem upholds_bind_of_leaves {α β : Type} {program : Shell α} {rest : α → Shell β}
    {result : (Text → AddressClaim) → β → Prop} (leaves : Within LeavesAddresses program)
    (later : ∀ a, Upholds (ClaimsHoldIn reservationId mine) lenient i
      (Leaves (fun _ => True) result) held (rest a)) :
    Upholds (ClaimsHoldIn reservationId mine) lenient i (Leaves (fun _ => True) result) held
      (program >>= rest) := by
  apply Upholds.bind
  apply (upholds_of_leaves leaves held).mono
  rintro _ outcome rfl
  cases outcome with
  | ok a => exact later a
  | error e => exact leaves_error trivial e

end Services

end AzureShell
