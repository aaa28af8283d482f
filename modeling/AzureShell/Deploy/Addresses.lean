import AzureShell.Deploy.Faults

/-!
# Addresses of interfaces

Azure and the pool decide which address an interface gets.  Their choice does not
change while the shell works: the address of a new interface is the one
Azure has for its name, or one the pool has for the range of its subnet.
-/

namespace AzureShell

open Prog

/-! ## What the outside world decides -/

/-- Both states have the same addresses to give. -/
structure SameAddresses (before after : Azure) : Prop where
  dynamicIp : after.dynamicIp = before.dynamicIp
  availableIps : after.availableIps = before.availableIps
  publicIp : after.publicIp = before.publicIp

theorem SameAddresses.refl (azure : Azure) : SameAddresses azure azure where
  dynamicIp := rfl
  availableIps := rfl
  publicIp := rfl

theorem SameAddresses.trans {first second third : Azure} (before : SameAddresses first second)
    (after : SameAddresses second third) : SameAddresses first third where
  dynamicIp := after.dynamicIp.trans before.dynamicIp
  availableIps := after.availableIps.trans before.availableIps
  publicIp := after.publicIp.trans before.publicIp

/-- No request changes the addresses to give. -/
theorem sameAddresses_handle (strict : Bool) (request : Request) (azure : Azure) :
    SameAddresses azure (Azure.handle strict request azure).2 := by
  cases request with
  | putSecurityRule nsg rule =>
      simp only [Azure.handle]
      split <;> exact ⟨rfl, rfl, rfl⟩
  | checkoutFromPool poolId reservationId ownerId subnetRange =>
      simp only [Azure.handle]
      split <;> exact ⟨rfl, rfl, rfl⟩
  | putSubnet group network subnet =>
      rcases Azure.handle_putSubnet strict group network subnet azure with ⟨changed, same⟩
      rw [same]
      exact ⟨rfl, rfl, rfl⟩
  | _ => exact ⟨rfl, rfl, rfl⟩

theorem sameAddresses_run {α : Type} (program : Shell α) (state : FaultyAzure) :
    SameAddresses state.2 (run services program state).2.2 := by
  induction program generalizing state with
  | done outcome => exact SameAddresses.refl state.2
  | call request next ih =>
      let kept : Azure → Prop := SameAddresses state.2
      have handled : kept (Azure.handle false request state.2).2 :=
        sameAddresses_handle false request state.2
      have first : kept (services request state).2.2 :=
        faulty_preserves handled (SameAddresses.refl state.2)
      exact first.trans (ih _ _)
  | acquire lock next ih => exact ih state
  | release lock next ih => exact ih state

/-- The addresses an interface may get. -/
def Azure.MayAssign (azure : Azure) (interfaceName : Text) (subnet : Subnet) (address : Text) :
    Prop :=
  address = azure.dynamicIp interfaceName ∨ address ∈ azure.availableIps subnet.addressPrefix

theorem SameAddresses.mayAssign {before after : Azure} (same : SameAddresses before after)
    {interfaceName : Text} {subnet : Subnet} {address : Text}
    (mayAssign : after.MayAssign interfaceName subnet address) :
    before.MayAssign interfaceName subnet address := by
  rwa [Azure.MayAssign, same.dynamicIp, same.availableIps] at mayAssign

/-! ## New interfaces -/

/-- The address of the first configuration of an interface. -/
def HasAddress (nic : NetworkInterface) (address : Text) : Prop :=
  ∃ ipConfiguration, nic.firstIpConfiguration = .ok ipConfiguration ∧
    ipConfiguration.privateIpAddress = address

namespace NetworkService

variable {interfaceName ipName reservationId publicIpType : Text} {subnet : Subnet}
  {publicIpAddress : Option PublicIpAddress} {method : IPAllocationMethod}
  {cloudProviderModel : AzureCloudProviderResourceModel} {addPublicIp : Bool}
  {nic : NetworkInterface} {state after : FaultyAzure}

theorem available_of_privateIpFor {address : Option Text}
    (success : run services (privateIpFor reservationId subnet method) state =
      (.ok address, after)) :
    (method = .dynamic ∧ address = none) ∨
      (method = .static ∧ ∃ given, address = some given ∧
        given ∈ state.2.availableIps subnet.addressPrefix) := by
  cases method with
  | dynamic =>
      cases success
      exact Or.inl ⟨rfl, rfl⟩
  | static =>
      rcases run_bind_eq_ok success with ⟨given, _, checkedOut, success⟩
      cases success
      have answered := congrArg Prod.fst (run_services_of_ok checkedOut)
      simp only [Azure.handle] at answered
      split at answered
      · rename_i found
        cases answered
        exact Or.inr ⟨rfl, given, rfl, List.mem_of_find?_eq_some found⟩
      · cases answered

/-- A new interface has an address it may get. -/
theorem hasAddress_of_createNic
    (success : run services (createNic interfaceName reservationId publicIpAddress subnet method)
      state = (.ok nic, after)) :
    ∃ address, HasAddress nic address ∧ state.2.MayAssign interfaceName subnet address := by
  let kept : FaultyAzure → Prop := fun later => SameAddresses state.2 later.2
  have preserved : ∀ {α : Type} (program : Shell α) later, kept later →
      kept (run services program later).2 :=
    fun program later same => same.trans (sameAddresses_run program later)
  obtain ⟨first, firstSame, success⟩ :=
    run_retry_eq_ok_of_preserved (preserved _) (SameAddresses.refl state.2) success
  obtain ⟨second, secondSame, success⟩ :=
    run_retry_eq_ok_of_preserved (preserved _) firstSame success
  rcases run_bind_eq_ok success with ⟨given, third, asked, success⟩
  have thirdSame : kept third := by
    have later := preserved (privateIpFor reservationId subnet method) second secondSame
    rwa [asked] at later
  have created := congrArg Prod.fst (run_services_of_ok success)
  cases created
  rcases available_of_privateIpFor asked with ⟨rfl, rfl⟩ | ⟨rfl, address, rfl, available⟩
  · exact ⟨_, ⟨_, rfl, rfl⟩, thirdSame.mayAssign (Or.inl rfl)⟩
  · exact ⟨address, ⟨_, rfl, rfl⟩, secondSame.mayAssign (Or.inr available)⟩

theorem hasAddress_of_createNetworkForVm
    (success : run services (createNetworkForVm interfaceName ipName reservationId
      cloudProviderModel subnet addPublicIp publicIpType) state = (.ok nic, after)) :
    ∃ address, HasAddress nic address ∧ state.2.MayAssign interfaceName subnet address := by
  rcases run_bind_eq_ok success with ⟨publicIp, between, publicRun, success⟩
  rcases hasAddress_of_createNic success with ⟨address, hasAddress, mayAssign⟩
  have same := sameAddresses_run (publicIpFor addPublicIp ipName publicIpType) state
  rw [publicRun] at same
  exact ⟨address, hasAddress, same.mayAssign mayAssign⟩

end NetworkService

end AzureShell
