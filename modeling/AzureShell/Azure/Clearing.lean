import AzureShell.Azure.Resources
import AzureShell.Azure.Retrying

/-!
# Programs that clear resources

A cleanup runs to its end, creates nothing, and leaves none of the resources it
is meant for, whether they were there or not.  Cleanups compose: what an earlier
part cleared, a later part does not bring back.
-/

namespace AzureShell

open Prog

variable {α β : Type} {gone goneLater : Resource → Prop}

/-- Where no call fails the program ends well, creates nothing, and leaves none
of the given resources. -/
def Clears (program : Shell α) (gone : Resource → Prop) : Prop :=
  ∀ azure, ∃ a after, run (Azure.handle false) program azure = (.ok a, after) ∧
    (∀ resource, gone resource → ¬ after.Exists resource) ∧
    (∀ resource, after.Exists resource → azure.Exists resource) ∧ after.created = azure.created

namespace Clears

theorem mono {program : Shell α} (clears : Clears program gone)
    (included : ∀ resource, goneLater resource → gone resource) : Clears program goneLater := by
  intro azure
  rcases clears azure with ⟨a, after, ran, cleared, shrinks, log⟩
  exact ⟨a, after, ran, fun resource isGone => cleared resource (included resource isGone),
    shrinks, log⟩

theorem pure (a : α) : Clears (pure a) fun _ => False :=
  fun azure => ⟨a, azure, rfl, fun _ isGone => isGone.elim, fun _ remains => remains, rfl⟩

theorem bind {program : Shell α} {rest : α → Shell β} (first : Clears program gone)
    (later : ∀ a, Clears (rest a) goneLater) :
    Clears (program >>= rest) fun resource => gone resource ∨ goneLater resource := by
  intro azure
  rcases first azure with ⟨a, between, firstRun, firstCleared, firstShrinks, firstLog⟩
  rcases later a between with ⟨b, after, laterRun, laterCleared, laterShrinks, laterLog⟩
  refine ⟨b, after, (run_bind_of_ok firstRun).trans laterRun, ?_, ?_, laterLog.trans firstLog⟩
  · rintro resource (isGone | isGone) remains
    · exact firstCleared resource isGone (laterShrinks resource remains)
    · exact laterCleared resource isGone remains
  · exact fun resource remains => firstShrinks resource (laterShrinks resource remains)

theorem when {condition : Prop} [Decidable condition] {program : Shell Unit}
    (clears : Clears program gone) :
    Clears (when condition program) fun resource => condition ∧ gone resource := by
  unfold Prog.when
  split
  · exact clears.mono fun resource isGone => isGone.2
  · rename_i skipped
    exact (pure ()).mono fun resource isGone => skipped isGone.1

theorem forEach {items : List β} {body : β → Shell Unit} {gone : β → Resource → Prop}
    (round : ∀ item ∈ items, Clears (body item) (gone item)) :
    Clears (forEach items body) fun resource => ∃ item ∈ items, gone item resource := by
  induction items with
  | nil => exact (pure ()).mono fun resource isGone => by simp at isGone
  | cons item rest ih =>
      have first := round item List.mem_cons_self
      have later := ih fun other member => round other (List.mem_cons_of_mem item member)
      apply (first.bind fun _ => later).mono
      rintro resource ⟨other, member, isGone⟩
      rcases List.mem_cons.mp member with rfl | inRest
      · exact Or.inl isGone
      · exact Or.inr ⟨other, inRest, isGone⟩

theorem retryConnection {program : Shell α} (clears : Clears program gone) :
    Clears (retryConnection program) gone := by
  intro azure
  rcases clears azure with ⟨a, after, ran, cleared⟩
  exact ⟨a, after, run_retry_of_ok ran, cleared⟩

/-- A handler around a cleanup is not needed. -/
theorem catching {program : Shell α} (clears : Clears program gone)
    (handler : PyException → Shell α) : Clears (program.catching handler) gone := by
  intro azure
  rcases clears azure with ⟨a, after, ran, cleared⟩
  exact ⟨a, after, run_catching_of_ok ran, cleared⟩

/-- One request that succeeds and creates nothing. -/
theorem request {request : Request} (creates : request.creates = none)
    (answered : ∀ azure, ∃ a, (Azure.handle false request azure).1 = .ok a)
    (cleared : ∀ azure resource, gone resource →
      ¬ (Azure.handle false request azure).2.Exists resource) :
    Clears (send request) gone := by
  intro azure
  rcases answered azure with ⟨a, ok⟩
  refine ⟨a, (Azure.handle false request azure).2, Prod.ext ok rfl, cleared azure, ?_, ?_⟩
  · exact fun resource remains => Azure.exists_of_exists_handle creates remains
  · exact Azure.created_handle_of_creates_none creates

theorem deleteVirtualMachine (name : Text) :
    Clears (send (.deleteVirtualMachine name)) fun resource => resource = .virtualMachine name :=
  request rfl (fun _ => ⟨(), rfl⟩) fun _ _ isGone =>
    isGone ▸ Azure.not_exists_deleteVirtualMachine name

theorem deleteNetworkInterface (name : Text) :
    Clears (send (.deleteNetworkInterface name))
      fun resource => resource = .networkInterface name :=
  request rfl (fun _ => ⟨(), rfl⟩) fun _ _ isGone =>
    isGone ▸ Azure.not_exists_deleteNetworkInterface name

theorem deletePublicIpAddress (name : Text) :
    Clears (send (.deletePublicIpAddress name)) fun resource => resource = .publicIpAddress name :=
  request rfl (fun _ => ⟨(), rfl⟩) fun _ _ isGone =>
    isGone ▸ Azure.not_exists_deletePublicIpAddress name

theorem deleteNetworkSecurityGroup (name : Text) :
    Clears (send (.deleteNetworkSecurityGroup name))
      fun resource => resource = .networkSecurityGroup name :=
  request rfl (fun _ => ⟨(), rfl⟩) fun _ _ isGone =>
    isGone ▸ Azure.not_exists_deleteNetworkSecurityGroup name

theorem deleteSecurityRule (nsg name : Text) :
    Clears (send (.deleteSecurityRule nsg name))
      fun resource => resource = .securityRule nsg name :=
  request rfl (fun _ => ⟨(), rfl⟩) fun _ _ isGone =>
    isGone ▸ Azure.not_exists_deleteSecurityRule nsg name

end Clears

end AzureShell
