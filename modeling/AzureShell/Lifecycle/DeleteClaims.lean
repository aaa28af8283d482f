import AzureShell.Lifecycle.DeployClaims

/-!
# The claims of a deletion

A deletion reads which addresses the interfaces of its machine have, deletes the
interfaces, and releases the addresses at the end.  It gets there only when every
deletion of an interface succeeded, and then no interface has the addresses.
-/

namespace AzureShell

open Prog

section Deletions

variable {ι : Type} [DecidableEq ι] {reservationId : Text} {mine : ι → Text → Prop} {i : ι}
  {held : Text → AddressClaim} {vmName : Text}

/-- The command knows that at most interfaces of these names have the address. -/
def KnownUnder (interfaceNames : List Text) (held : Text → AddressClaim) (address : Text) : Prop :=
  held address = .unused ∨ ∃ name ∈ interfaceNames, held address = .usedBy name

theorem KnownUnder.mono {interfaceNames larger : List Text} {address : Text}
    (known : KnownUnder interfaceNames held address) (subset : interfaceNames ⊆ larger) :
    KnownUnder larger held address := by
  rcases known with unused | ⟨name, member, used⟩
  · exact Or.inl unused
  · exact Or.inr ⟨name, subset member, used⟩

namespace DeleteAzureVMOperation

/-- The interfaces of a stored machine are its own. -/
theorem upholds_getVirtualMachine :
    Upholds (ClaimsHoldIn reservationId mine) lenient i
      (Leaves (fun _ => True) fun _ vm => ∀ reference ∈ vm.networkInterfaces,
        IsInterfaceOf vmName (AzureResourceIdParser.lastOfId reference.id)) held
      (send (.getVirtualMachine vmName)) := by
  apply upholds_send
  · intro e
    exact leaves_error trivial _
  · rintro claims azure rfl holds
    refine ⟨claims i, ?_, ⟨trivial, ?_⟩, fun e => leaves_error trivial _⟩
    · rw [Function.update_eq_self]
      exact holds
    · intro vm found
      simp only [Azure.handle, Azure.find] at found
      split at found
      · rename_i stored
        cases found
        rcases Store.lookup_eq_some stored with ⟨member, isName⟩
        rw [← isName]
        exact holds.apart.attached _ member
      · cases found

/-- Reading an interface of its own, a command learns which addresses it has. -/
theorem upholds_getNetworkInterface (belong : BelongToOne mine) {interfaceNames : List Text}
    {name : Text} (inNames : name ∈ interfaceNames) (isMine : mine i name) {addresses : List Text}
    (known : ∀ address ∈ addresses, KnownUnder interfaceNames held address) :
    Upholds (ClaimsHoldIn reservationId mine) lenient i
      (Leaves (fun held => ∀ address ∈ addresses, KnownUnder interfaceNames held address)
        fun held nic => ∀ address ∈ nic.staticAddresses, KnownUnder interfaceNames held address) held
      (send (.getNetworkInterface name)) := by
  apply upholds_send
  · intro e
    exact leaves_error known _
  · rintro claims azure rfl holds
    simp only [Azure.handle, Azure.find]
    split
    · rename_i nic stored
      rcases Store.lookup_eq_some stored with ⟨member, isName⟩
      rw [← isName] at inNames isMine
      have learnt : ∀ address ∈ nic.staticAddresses, KnownUnder interfaceNames
          (reclaim (· ∈ nic.staticAddresses) (.usedBy nic.name) (claims i)) address :=
        fun address has => Or.inr ⟨nic.name, inNames, if_pos has⟩
      have stillKnown : ∀ address ∈ addresses, KnownUnder interfaceNames
          (reclaim (· ∈ nic.staticAddresses) (.usedBy nic.name) (claims i)) address := by
        intro address inAddresses
        by_cases has : address ∈ nic.staticAddresses
        · exact learnt address has
        · rw [KnownUnder, reclaim, if_neg has]
          exact known address inAddresses
      refine ⟨_, holds.read belong member isMine, ⟨stillKnown, ?_⟩,
        fun e => leaves_error stillKnown _⟩
      rintro _ ⟨⟩
      exact learnt
    · refine ⟨claims i, ?_, leaves_error known _, fun e => leaves_error known _⟩
      rw [Function.update_eq_self]
      exact holds

/-- Reading more interfaces, it still knows the addresses of those before. -/
theorem upholds_getNetworkInterfaces (belong : BelongToOne mine)
    {interfaceNames rest : List Text} (subset : rest ⊆ interfaceNames)
    (areMine : ∀ name ∈ interfaceNames, mine i name) {addresses : List Text}
    (known : ∀ address ∈ addresses, KnownUnder interfaceNames held address) :
    Upholds (ClaimsHoldIn reservationId mine) lenient i
      (Leaves (fun held => ∀ address ∈ addresses, KnownUnder interfaceNames held address)
        fun held nics => ∀ nic ∈ nics, ∀ address ∈ nic.staticAddresses,
          KnownUnder interfaceNames held address) held
      (collect rest fun name => send (.getNetworkInterface name)) := by
  induction rest generalizing held addresses with
  | nil =>
      refine ⟨known, ?_⟩
      rintro _ ⟨⟩ nic member
      cases member
  | cons name rest ih =>
      have inNames : name ∈ interfaceNames := subset List.mem_cons_self
      apply (upholds_getNetworkInterface belong inNames (areMine name inNames) known).andThen
      intro nic held learnt known
      have both : ∀ address ∈ addresses ++ nic.staticAddresses,
          KnownUnder interfaceNames held address := by
        intro address member
        rcases List.mem_append.mp member with inAddresses | has
        · exact known address inAddresses
        · exact learnt address has
      apply Upholds.bind
      apply (ih (fun other member => subset (List.mem_cons_of_mem name member)) both).mono
      rintro held outcome ⟨stillKnown, laterLearnt⟩
      have before : ∀ address ∈ addresses, KnownUnder interfaceNames held address :=
        fun address member => stillKnown address (List.mem_append_left _ member)
      cases outcome with
      | error e => exact leaves_error before e
      | ok nics =>
          refine ⟨before, ?_⟩
          rintro _ ⟨⟩
          intro other member address has
          rcases List.mem_cons.mp member with rfl | inNics
          · exact stillKnown address (List.mem_append_right _ has)
          · exact laterLearnt nics rfl other inNics address has

theorem exists_of_mem_staticPrivateIps {nics : List NetworkInterface} {privateIps : List Text}
    (collected : staticPrivateIps nics = .ok privateIps) :
    ∀ address ∈ privateIps, ∃ nic ∈ nics, address ∈ nic.staticAddresses := by
  induction nics generalizing privateIps with
  | nil =>
      cases collected
      exact nofun
  | cons nic rest ih =>
      rw [staticPrivateIps, NetworkInterface.firstIpConfiguration] at collected
      split at collected
      · cases collected
      · rename_i ipConfiguration others configurations
        cases later : staticPrivateIps rest with
        | error e =>
            rw [later] at collected
            cases collected
        | ok others =>
            rw [later] at collected
            cases collected
            have inRest : ∀ address ∈ others, ∃ other ∈ nic :: rest,
                address ∈ other.staticAddresses := by
              intro address member
              rcases ih later address member with ⟨other, inRest, has⟩
              exact ⟨other, List.mem_cons_of_mem nic inRest, has⟩
            intro address member
            split at member
            · rename_i isStatic
              rcases List.mem_cons.mp member with rfl | inOthers
              · refine ⟨nic, List.mem_cons_self, List.mem_map.mpr ⟨ipConfiguration, ?_, rfl⟩⟩
                rw [configurations]
                exact List.mem_filter.mpr ⟨List.mem_cons_self, isStatic⟩
              · exact inRest address inOthers
            · exact inRest address member

/-- What a deletion has read, it knows. -/
theorem upholds_readMachine
    (belong : BelongToOne mine)
    (isMine : ∀ name, IsInterfaceOf vmName name → mine i name) :
    Upholds (ClaimsHoldIn reservationId mine) lenient i
      (Leaves (fun _ => True) fun held data => ∀ address ∈ data.privateIps,
        KnownUnder data.interfaceNames held address) held (readMachine vmName) := by
  apply upholds_getVirtualMachine.andThen
  intro vm held attached _
  have areMine : ∀ name ∈ vm.networkInterfaces.map fun nir => AzureResourceIdParser.lastOfId nir.id,
      mine i name := by
    intro name member
    rcases List.mem_map.mp member with ⟨reference, isReference, rfl⟩
    exact isMine _ (attached reference isReference)
  have known : ∀ address ∈ ([] : List Text), KnownUnder
      (vm.networkInterfaces.map fun nir => AzureResourceIdParser.lastOfId nir.id) held address :=
    nofun
  apply Upholds.bind
  apply (upholds_getNetworkInterfaces belong (List.Subset.refl _) areMine known).mono
  rintro held outcome ⟨_, learnt⟩
  cases outcome with
  | error e => exact leaves_error trivial e
  | ok nics =>
      cases collected : staticPrivateIps nics with
      | error e =>
          simp only [collected]
          exact leaves_error trivial _
      | ok privateIps =>
          simp only [collected]
          refine ⟨trivial, ?_⟩
          rintro _ ⟨⟩ address member
          rcases exists_of_mem_staticPrivateIps collected address member with ⟨nic, inNics, has⟩
          exact learnt nics rfl nic inNics address has

/-- Deleting interfaces, a command frees their addresses one by one; no deletion is
answered "Not Found". -/
theorem upholds_deleteNetworkInterfaces {interfaceNames addresses : List Text}
    (known : ∀ address ∈ addresses, KnownUnder interfaceNames held address) :
    Upholds (ClaimsHoldIn reservationId mine) lenient i
      (fun held outcome => (∀ e, outcome = .error e → e.isNotFound = false) ∧
        (∀ address ∈ addresses, KnownUnder interfaceNames held address) ∧
        (outcome = .ok () → ∀ address ∈ addresses, held address = .unused)) held
      (forEach interfaceNames fun name => send (.deleteNetworkInterface name)) := by
  induction interfaceNames generalizing held with
  | nil =>
      refine ⟨nofun, known, fun _ address member => ?_⟩
      rcases known address member with unused | ⟨name, inNone, _⟩
      · exact unused
      · cases inNone
  | cons name rest ih =>
      apply Upholds.bind
      apply upholds_send
      · intro e
        refine ⟨?_, known, nofun⟩
        rintro _ ⟨⟩
        exact e.property
      · rintro claims azure rfl holds
        have fewer : ∀ address ∈ addresses, KnownUnder rest
            (reclaim (fun other => claims i other = .usedBy name) .unused (claims i)) address := by
          intro address member
          by_cases used : claims i address = .usedBy name
          · exact Or.inl (if_pos used)
          · rw [KnownUnder, reclaim, if_neg used]
            rcases known address member with unused | ⟨other, inNames, usedByOther⟩
            · exact Or.inl unused
            · rcases List.mem_cons.mp inNames with rfl | inRest
              · exact absurd usedByOther used
              · exact Or.inr ⟨other, inRest, usedByOther⟩
        have larger : ∀ {after : Text → AddressClaim},
            (∀ address ∈ addresses, KnownUnder rest after address) →
              ∀ address ∈ addresses, KnownUnder (name :: rest) after address :=
          fun known address member => (known address member).mono (List.subset_cons_self name rest)
        refine ⟨_, holds.delete name, ?_, fun e => ⟨?_, larger fewer, nofun⟩⟩
        · apply (ih fewer).mono
          rintro held outcome ⟨isOther, stillKnown, freed⟩
          exact ⟨isOther, larger stillKnown, freed⟩
        · rintro _ ⟨⟩
          exact e.property

theorem upholds_deleteNics {interfaceNames addresses : List Text}
    (known : ∀ address ∈ addresses, KnownUnder interfaceNames held address) :
    Upholds (ClaimsHoldIn reservationId mine) lenient i
      (fun held outcome => (∀ e, outcome = .error e → e.isNotFound = false) ∧
        (outcome = .ok () → ∀ address ∈ addresses, held address = .unused)) held
      (NetworkService.deleteNics interfaceNames) := by
  have attempt : ∀ held, (∀ address ∈ addresses, KnownUnder interfaceNames held address) →
      Upholds (ClaimsHoldIn reservationId mine) lenient i
        (fun held outcome => ((∀ e, outcome = .error e → e.isNotFound = false) ∧
          (outcome = .ok () → ∀ address ∈ addresses, held address = .unused)) ∧
          ∀ e, outcome = .error e → ∀ address ∈ addresses, KnownUnder interfaceNames held address)
        held (forEach interfaceNames fun name => send (.deleteNetworkInterface name)) := by
    intro held known
    apply (upholds_deleteNetworkInterfaces known).mono
    rintro held outcome ⟨isOther, stillKnown, freed⟩
    exact ⟨⟨isOther, freed⟩, fun _ _ => stillKnown⟩
  exact Upholds.retry attempt 4 known

/-- Addresses that are unused are released. -/
theorem upholds_releaseIps {privateIps : List Text}
    (unused : ∀ address ∈ privateIps, held address = .unused) :
    Upholds (ClaimsHoldIn reservationId mine) lenient i (Leaves (fun _ => True) fun _ _ => True)
      held (IpService.releaseIps reservationId privateIps) := by
  apply upholds_send
  · intro e
    exact leaves_error trivial _
  · rintro claims azure rfl holds
    exact ⟨_, holds.release unused _, ⟨trivial, fun _ _ => trivial⟩, fun e => leaves_error trivial _⟩

/-- The end of a deletion, once the interfaces are gone. -/
def deleteRest (groupName vmName : Text) (data : MachineData) (vm : Option VirtualMachine) :
    Shell Unit := do
  orNotFound (NetworkService.deleteIps data.publicIpNames)
  deleteDiskOf vm
  NetworkService.deleteNsgArtifactsAssociatedWithVm vmName
  when (data.privateIps ≠ []) <|
    (IpService.releaseIps groupName data.privateIps).catching fun _ => pure ()

theorem upholds_deleteRest {data : MachineData} {vm : Option VirtualMachine}
    (unused : ∀ address ∈ data.privateIps, held address = .unused) :
    Upholds (ClaimsHoldIn reservationId mine) lenient i (Leaves (fun _ => True) fun _ _ => True)
      held (deleteRest reservationId vmName data vm) := by
  apply upholds_bind_of_leaves
  · apply within_orNotFound
    apply Within.retry
    apply Within.forEach
    intro ipName _
    exact leaves_send rfl
  intro _
  apply upholds_bind_of_leaves
  · exact within_deleteDiskOf (fun _ => rfl) vm
  intro _
  apply upholds_bind_of_leaves
  · apply (NetworkService.deleteNsgArtifactsAssociatedWithVm_within vmName).mono
    rintro sent (rfl | ⟨_, _, rfl⟩ | ⟨_, _, _, _, rfl⟩) <;> rfl
  intro _
  unfold Prog.when
  split
  · apply Upholds.catching
    apply (upholds_releaseIps unused).mono
    rintro held outcome _
    cases outcome with
    | ok _ => exact ⟨trivial, fun _ _ => trivial⟩
    | error e => exact ⟨trivial, fun _ _ => trivial⟩
  · exact ⟨trivial, fun _ _ => trivial⟩

/-- A deletion of a machine of its own honours the claims: it releases what it has
freed. -/
theorem deleteAzureVm_honours (belong : BelongToOne mine)
    (isMine : ∀ name, IsInterfaceOf vmName name → mine i name) :
    Honours reservationId mine i (fun _ => True) (deleteAzureVm reservationId vmName) := by
  have deletes : Honours reservationId mine i (fun _ => True) (delete reservationId vmName) := by
    intro held
    apply (upholds_readMachine belong isMine).andThen
    intro data held known _
    apply upholds_bind_of_leaves
    · apply Within.catching
      · exact (Within.retry (leaves_send rfl) 4).bind fun _ => trivial
      · intro e
        split <;> trivial
    intro vm
    apply upholds_bind_of_leaves
    · exact within_orNotFound (Within.retry (leaves_send rfl) 4)
    intro _
    apply Upholds.bind
    apply Upholds.catching
    apply (upholds_deleteNics known).mono
    rintro held outcome ⟨isOther, freed⟩
    cases outcome with
    | ok _ => exact upholds_deleteRest (freed rfl)
    | error e =>
        simp only [isOther e rfl]
        refine ⟨trivial, ?_⟩
        rintro _ ⟨⟩
  apply deletes.catching
  intro e
  split
  · exact Honours.pure trivial
  · exact Honours.raise e

end DeleteAzureVMOperation

end Deletions

end AzureShell
