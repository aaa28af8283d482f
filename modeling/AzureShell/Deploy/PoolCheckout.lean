import AzureShell.Deploy.Addresses
import AzureShell.Prog.Attempts

/-!
# Checkouts under retries

`create_nic` checks an address out of the pool and creates the interface in one
body under two nested retries.  Every attempt checks out an address of its own,
and the address of a failed attempt is never given back.
-/

namespace AzureShell

open Prog

/-! ## Failing creations -/

/-- The exceptions that make `create_nic` try again: connection errors and
retryable errors of Azure. -/
abbrev RetriedError :=
  { e : PyException // retryIfConnectionError e = true ∨ retryIfRetryableError e = true }

/-- The creations of interfaces. -/
def Request.isNicCreation : Request → Bool
  | .putNetworkInterface _ => true
  | _ => false

/-- Azure, with creations of interfaces that may fail. -/
def nicServices (strict : Bool) : Handler AzureServices (List (Fate RetriedError) × Azure) :=
  faulty Request.isNicCreation Subtype.val (Azure.handle strict)

/-- The next creation completes. -/
def CompletesFirst (fates : List (Fate RetriedError)) : Prop :=
  ∀ fate ∈ fates.head?, fate = .completes

/-- The pool items that are checked out after a call and were not before. -/
def newlyCheckedOut (before after : Azure) : List PoolItem :=
  after.checkedOut.filter (· ∉ before.checkedOut)

/-- A call that returns has checked out one address, that of its interface; a
call that raises leaves nothing checked out. -/
def ConsumesOne (poolId : Text) (before : Azure) :
    Except PyException NetworkInterface → Azure → Prop
  | .ok nic, after => ∃ item, newlyCheckedOut before after = [item] ∧ item.poolId = poolId ∧
      HasAddress nic item.address
  | .error _, after => newlyCheckedOut before after = []

namespace NetworkService

variable {strict : Bool} {interfaceName reservationId : Text}
  {publicIpAddress : Option PublicIpAddress} {subnet : Subnet}
  {fates : List (Fate RetriedError)} {azure : Azure}

/-- The body of `create_nic` under static allocation. -/
def createNicOnce (interfaceName reservationId : Text) (publicIpAddress : Option PublicIpAddress)
    (subnet : Subnet) : Shell NetworkInterface := do
  let privateIpAddress ← privateIpFor reservationId subnet .static
  send (.putNetworkInterface ⟨interfaceName, .static, privateIpAddress, subnet.name,
    publicIpAddress.map PublicIpAddress.name⟩)

theorem createNic_eq (interfaceName reservationId : Text)
    (publicIpAddress : Option PublicIpAddress) (subnet : Subnet) :
    createNic interfaceName reservationId publicIpAddress subnet .static =
      retryConnection (retryRetryable
        (createNicOnce interfaceName reservationId publicIpAddress subnet)) :=
  rfl

/-- The address an attempt gets, if the pool has one. -/
def poolItemFor (azure : Azure) (reservationId : Text) (subnet : Subnet) : Option PoolItem :=
  (azure.nextAvailableIp (IpService.getPoolId reservationId) subnet.addressPrefix).map fun address =>
    ⟨address, IpService.getPoolId reservationId, reservationId, IpService.poolItemOwner⟩

/-- The pool hands out only addresses that are not checked out. -/
theorem not_mem_of_poolItemFor {item : PoolItem}
    (found : poolItemFor azure reservationId subnet = some item) :
    item ∉ azure.checkedOut ∧ item.poolId = IpService.getPoolId reservationId := by
  rcases Option.map_eq_some_iff.mp found with ⟨address, isNext, rfl⟩
  refine ⟨fun member => ?_, rfl⟩
  have free := List.find?_some isNext
  rw [List.all_eq_true] at free
  simpa using free _ member

theorem run_createNicOnce_of_none
    (unavailable : poolItemFor azure reservationId subnet = none) :
    run (nicServices strict) (createNicOnce interfaceName reservationId publicIpAddress subnet)
        (fates, azure) =
      (.error (.exception "Could not find available IP.".toList), (fates, azure)) := by
  have noAddress : azure.nextAvailableIp (IpService.getPoolId reservationId) subnet.addressPrefix =
      none := Option.map_eq_none_iff.mp unavailable
  apply run_bind_of_error
  apply run_bind_of_error
  rw [IpService.getNextAvailableIpFromCsPool, run_send]
  simp [nicServices, faulty, Request.isNicCreation, Azure.handle, noAddress]

/-- An attempt that gets an address has checked it out, whatever becomes of the
creation. -/
theorem run_createNicOnce_of_some (strict : Bool) (interfaceName : Text)
    (publicIpAddress : Option PublicIpAddress) (fates : List (Fate RetriedError)) {item : PoolItem}
    (available : poolItemFor azure reservationId subnet = some item) :
    let final := run (nicServices strict)
      (createNicOnce interfaceName reservationId publicIpAddress subnet) (fates, azure)
    final.2.2.checkedOut = item :: azure.checkedOut ∧
      ((CompletesFirst fates ∧ ∃ nic, final.1 = .ok nic ∧ HasAddress nic item.address) ∨
        (¬ CompletesFirst fates ∧ ∃ e, final.1 = .error e)) := by
  rcases Option.map_eq_some_iff.mp available with ⟨address, isNext, rfl⟩
  let item : PoolItem :=
    ⟨address, IpService.getPoolId reservationId, reservationId, IpService.poolItemOwner⟩
  let left : Azure := { azure with checkedOut := item :: azure.checkedOut }
  have checkedOut : run (nicServices strict) (privateIpFor reservationId subnet .static)
      (fates, azure) = (.ok (some address), (fates, left)) := by
    apply run_bind_of_ok (a := address) (t := (fates, left))
    rw [IpService.getNextAvailableIpFromCsPool, run_send]
    simp [nicServices, faulty, Request.isNicCreation, Azure.handle, isNext, left, item]
  intro final
  have ran : final = nicServices strict (.putNetworkInterface ⟨interfaceName, .static,
      some address, subnet.name, publicIpAddress.map PublicIpAddress.name⟩) (fates, left) :=
    run_bind_of_ok checkedOut
  rw [ran]
  cases fates with
  | nil => exact ⟨rfl, Or.inl ⟨by simp [CompletesFirst], _, rfl, _, rfl, rfl⟩⟩
  | cons fate rest =>
      cases fate with
      | completes => exact ⟨rfl, Or.inl ⟨by simp [CompletesFirst], _, rfl, _, rfl, rfl⟩⟩
      | raisesBefore e => exact ⟨rfl, Or.inr ⟨by simp [CompletesFirst], _, rfl⟩⟩
      | raisesAfter e => exact ⟨rfl, Or.inr ⟨by simp [CompletesFirst], _, rfl⟩⟩

/-- An attempt keeps everything checked out. -/
theorem checkedOut_createNicOnce {item : PoolItem} (state : List (Fate RetriedError) × Azure)
    (member : item ∈ state.2.checkedOut) :
    item ∈ (run (nicServices strict)
      (createNicOnce interfaceName reservationId publicIpAddress subnet) state).2.2.checkedOut := by
  rcases state with ⟨fates, azure⟩
  cases found : poolItemFor azure reservationId subnet with
  | none =>
      rw [run_createNicOnce_of_none found]
      exact member
  | some other =>
      rw [(run_createNicOnce_of_some _ _ _ _ found).1]
      exact List.mem_cons_of_mem other member

theorem mem_newlyCheckedOut_iff {before after : Azure} {item : PoolItem} :
    item ∈ newlyCheckedOut before after ↔ item ∈ after.checkedOut ∧ item ∉ before.checkedOut := by
  simp [newlyCheckedOut]

/-- After a failed first creation its address stays checked out, and a call that
returns has checked out another one. -/
theorem createNic_of_failed_first (strict : Bool) (interfaceName : Text)
    (publicIpAddress : Option PublicIpAddress) {item : PoolItem}
    (available : poolItemFor azure reservationId subnet = some item)
    (fails : ¬ CompletesFirst fates) :
    let final := run (nicServices strict)
      (createNic interfaceName reservationId publicIpAddress subnet .static) (fates, azure)
    item ∈ newlyCheckedOut azure final.2.2 ∧
      ∀ nic, final.1 = .ok nic → ∃ other ∈ newlyCheckedOut azure final.2.2, other ≠ item := by
  intro final
  let kept : List (Fate RetriedError) × Azure → Prop := fun state =>
    ∀ other ∈ item :: azure.checkedOut, other ∈ state.2.checkedOut
  let body := createNicOnce interfaceName reservationId publicIpAddress subnet
  obtain ⟨checkedOut, outcome⟩ :=
    run_createNicOnce_of_some strict interfaceName publicIpAddress fates available
  rcases outcome with ⟨completes, _⟩ | ⟨_, e, failed⟩
  · exact absurd completes fails
  have first : EndsWithin (nicServices strict) body kept body (fates, azure) := by
    apply EndsWithin.of_error (t := (run (nicServices strict) body (fates, azure)).2)
      (Prod.ext failed rfl)
    intro other member
    rw [checkedOut]
    exact member
  have later : ∀ state, kept state → EndsWithin (nicServices strict) body kept body state :=
    fun state holds => EndsWithin.of_preserved
      (fun other member => checkedOut_createNicOnce state (holds other member)) holds
  have whole : EndsWithin (nicServices strict) body kept
      (createNic interfaceName reservationId publicIpAddress subnet .static) (fates, azure) := by
    rw [createNic_eq]
    apply EndsWithin.retry
    · exact first.retry later
    · exact fun state holds => (later state holds).retry later
  have ends : kept final.2 := whole.ends
  have notBefore := (not_mem_of_poolItemFor available).1
  refine ⟨mem_newlyCheckedOut_iff.mpr ⟨ends item List.mem_cons_self, notBefore⟩, ?_⟩
  intro nic returned
  rcases whole.started (Prod.ext returned rfl) with ⟨⟨laterFates, start⟩, holds, attempt⟩
  cases found : poolItemFor start reservationId subnet with
  | none =>
      rw [run_createNicOnce_of_none found] at attempt
      cases attempt
  | some other =>
      have added :=
        (run_createNicOnce_of_some strict interfaceName publicIpAddress laterFates found).1
      rw [attempt] at added
      have isFree := (not_mem_of_poolItemFor found).1
      refine ⟨other, mem_newlyCheckedOut_iff.mpr ⟨?_, ?_⟩, ?_⟩
      · rw [added]
        exact List.mem_cons_self
      · exact fun old => isFree (holds other (List.mem_cons_of_mem item old))
      · rintro rfl
        exact isFree (holds other List.mem_cons_self)

/-- So the call does not consume exactly one address. -/
theorem not_consumesOne_of_failed_first {item : PoolItem}
    (available : poolItemFor azure reservationId subnet = some item)
    (fails : ¬ CompletesFirst fates) :
    let final := run (nicServices strict)
      (createNic interfaceName reservationId publicIpAddress subnet .static) (fates, azure)
    ¬ ConsumesOne (IpService.getPoolId reservationId) azure final.1 final.2.2 := by
  intro final
  obtain ⟨leaked, another⟩ :=
    createNic_of_failed_first strict interfaceName publicIpAddress available fails
  cases outcome : final.1 with
  | error e =>
      intro nothing
      exact absurd leaked (nothing ▸ List.not_mem_nil)
  | ok nic =>
      rintro ⟨only, onlyItem, _, _⟩
      rcases another nic outcome with ⟨other, otherMem, different⟩
      rw [onlyItem] at leaked otherMem
      exact different ((List.mem_singleton.mp otherMem).trans (List.mem_singleton.mp leaked).symm)

/-- A creation that fails at first is the one thing that breaks the balance: the
call consumes exactly one address of the pool, or none when it raises, if and
only if the pool has no address or the first creation completes. -/
theorem createNic_consumesOne_iff (strict : Bool) (interfaceName reservationId : Text)
    (publicIpAddress : Option PublicIpAddress) (subnet : Subnet)
    (fates : List (Fate RetriedError)) (azure : Azure) :
    let final := run (nicServices strict)
      (createNic interfaceName reservationId publicIpAddress subnet .static) (fates, azure)
    ConsumesOne (IpService.getPoolId reservationId) azure final.1 final.2.2 ↔
      azure.nextAvailableIp (IpService.getPoolId reservationId) subnet.addressPrefix = none ∨
        CompletesFirst fates := by
  intro final
  cases found : poolItemFor azure reservationId subnet with
  | none =>
      have unavailable := Option.map_eq_none_iff.mp found
      have ran : final = (.error (.exception "Could not find available IP.".toList),
          (fates, azure)) := by
        apply run_retry_of_error _ (by decide)
        exact run_retry_of_error (run_createNicOnce_of_none found) rfl
      rw [ran]
      simp [ConsumesOne, newlyCheckedOut, unavailable]
  | some item =>
      have available : azure.nextAvailableIp (IpService.getPoolId reservationId)
          subnet.addressPrefix ≠ none := by
        intro unavailable
        rw [poolItemFor, unavailable] at found
        cases found
      have isFree := not_mem_of_poolItemFor found
      by_cases completes : CompletesFirst fates
      · obtain ⟨checkedOut, outcome⟩ :=
          run_createNicOnce_of_some strict interfaceName publicIpAddress fates found
        rcases outcome with ⟨_, nic, returned, hasAddress⟩ | ⟨fails, _⟩
        · have ran : final = (.ok nic, (run (nicServices strict)
              (createNicOnce interfaceName reservationId publicIpAddress subnet)
              (fates, azure)).2) :=
            run_retry_of_ok (run_retry_of_ok (Prod.ext returned rfl))
          have onlyItem : newlyCheckedOut azure final.2.2 = [item] := by
            rw [ran, newlyCheckedOut, checkedOut]
            simp [isFree.1]
          have outcome : final.1 = .ok nic := congrArg Prod.fst ran
          rw [outcome]
          exact iff_of_true ⟨item, onlyItem, isFree.2, hasAddress⟩ (Or.inr completes)
        · exact absurd completes fails
      · exact iff_of_false (not_consumesOne_of_failed_first found completes)
          (not_or.mpr ⟨available, completes⟩)

/-- A connection that breaks once while the interface is created costs the pool two
addresses. -/
theorem failed_creation_leaks_address :
    let broken : RetriedError := ⟨.clientRequestError "Connection aborted.".toList, by decide⟩
    let subnet : Subnet := ⟨"front".toList, "10.0.1.0/24".toList, none, none, none⟩
    let azure : Azure := { Azure.blank with
      availableIps := fun _ => ["10.0.1.4".toList, "10.0.1.5".toList] }
    let final := run (nicServices true)
      (createNic "web-0".toList "b1f7e2d4".toList none subnet .static)
      ([.raisesBefore broken], azure)
    final.2.2.checkedOut.map PoolItem.address = ["10.0.1.5".toList, "10.0.1.4".toList] ∧
      ¬ ConsumesOne (IpService.getPoolId "b1f7e2d4".toList) azure final.1 final.2.2 := by
  intro broken subnet azure final
  constructor
  · decide
  · exact not_consumesOne_of_failed_first rfl (by simp [CompletesFirst])

end NetworkService

end AzureShell
