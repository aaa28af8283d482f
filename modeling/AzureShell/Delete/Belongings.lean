import AzureShell.Azure.Resources
import AzureShell.Azure.Retrying
import AzureShell.Deploy.Faults
import AzureShell.Prog.Calm

/-!
# What a deletion removes

A machine has resources, a disk and addresses that are checked out of the pool.
The services of a deletion are unreliable: a call is answered "Not Found"
exactly where its target is absent, and it may raise any other error, before it
took effect or after.  A program that only removes brings nothing back, so what
one part of a deletion has removed, the later parts leave removed.
-/

namespace AzureShell

open Prog

/-! ## Services -/

/-- The errors of a call other than "Not Found". -/
abbrev OtherError :=
  { e : PyException // e.isNotFound = false }

/-- Azure with the fates of the calls to come. -/
abbrev UnreliableAzure :=
  List (Fate OtherError) × Azure

/-- The services of a deletion; deleting what is absent is answered "Not Found". -/
def unreliable : Handler AzureServices UnreliableAzure :=
  faulty Request.mayFail Subtype.val (Azure.handle true)

/-- An answer of the services is another error or that of Azure. -/
theorem unreliable_answer (request : Request) (state : UnreliableAzure) :
    (∃ e : OtherError, (unreliable request state).1 = .error e.val) ∨
      ((unreliable request state).1, (unreliable request state).2.2) =
        Azure.handle true request state.2 := by
  rcases state with ⟨fates, azure⟩
  simp only [unreliable, faulty]
  split
  · split
    · exact Or.inl ⟨_, rfl⟩
    · exact Or.inl ⟨_, rfl⟩
    · exact Or.inr rfl
  · exact Or.inr rfl

/-- A call that is answered well took effect. -/
theorem run_unreliable_of_ok {request : Request} {a : request.Answer}
    {state after : UnreliableAzure}
    (answered : run unreliable (send request) state = (.ok a, after)) :
    Azure.handle true request state.2 = (.ok a, after.2) := by
  rcases state with ⟨fates, azure⟩
  exact faulty_of_ok answered

/-! ## Belongings -/

/-- What a deletion is to remove. -/
inductive Belonging where
  | resource (resource : Resource)
  | disk (disk : Disk)
  | poolItem (item : PoolItem)
deriving DecidableEq, Repr

/-- A resource or a disk exists, an address is checked out. -/
def Azure.Has (azure : Azure) : Belonging → Prop
  | .resource resource => azure.Exists resource
  | .disk disk => disk ∈ azure.disks
  | .poolItem item => item ∈ azure.checkedOut

instance (azure : Azure) (belonging : Belonging) : Decidable (azure.Has belonging) :=
  match belonging with
  | .resource resource => inferInstanceAs (Decidable (azure.Exists resource))
  | .disk disk => inferInstanceAs (Decidable (disk ∈ azure.disks))
  | .poolItem item => inferInstanceAs (Decidable (item ∈ azure.checkedOut))

/-- Whether a request checks an address out of the pool. -/
def Request.checksOut : Request → Bool
  | .checkoutFromPool _ _ _ _ => true
  | _ => false

/-- The request creates no resource and checks no address out. -/
structure OnlyRemoves (request : Request) : Prop where
  creates : request.creates = none
  checksOut : request.checksOut = false

/-- A request that only removes adds no disk and checks nothing out. -/
theorem OnlyRemoves.subset {request : Request} (removes : OnlyRemoves request) (strict : Bool)
    (azure : Azure) :
    (Azure.handle strict request azure).2.disks ⊆ azure.disks ∧
      (Azure.handle strict request azure).2.checkedOut ⊆ azure.checkedOut := by
  cases request with
  | putSecurityRule nsg rule => cases removes.creates
  | putVirtualMachine vm => cases removes.creates
  | checkoutFromPool poolId reservationId ownerId subnetRange => cases removes.checksOut
  | putSubnet group network subnet =>
      rcases Azure.handle_putSubnet strict group network subnet azure with ⟨changed, same⟩
      rw [same]
      exact ⟨List.Subset.refl _, List.Subset.refl _⟩
  | deleteDisk disk => exact ⟨List.filter_sublist.subset, List.Subset.refl _⟩
  | deleteResourceGroup name => exact ⟨List.nil_subset _, List.Subset.refl _⟩
  | releaseFromPool values poolId reservationId ownerId =>
      exact ⟨List.Subset.refl _, List.filter_sublist.subset⟩
  | _ => exact ⟨List.Subset.refl _, List.Subset.refl _⟩

/-- A request that only removes brings nothing into being. -/
theorem OnlyRemoves.has_of_has_handle {request : Request} (removes : OnlyRemoves request)
    {strict : Bool} {azure : Azure} {belonging : Belonging}
    (remains : (Azure.handle strict request azure).2.Has belonging) : azure.Has belonging := by
  cases belonging with
  | resource resource => exact Azure.exists_of_exists_handle removes.creates remains
  | disk disk => exact (removes.subset strict azure).1 remains
  | poolItem item => exact (removes.subset strict azure).2 remains

/-- A program that only removes brings nothing into being, whichever of its
calls fail. -/
theorem has_of_has_run {α : Type} {program : Shell α} (removes : Within OnlyRemoves program)
    {state : UnreliableAzure} {belonging : Belonging}
    (remains : (run unreliable program state).2.2.Has belonging) : state.2.Has belonging := by
  let hadBefore : Azure → Prop := fun azure => azure.Has belonging → state.2.Has belonging
  have preserved : ∀ request azure, OnlyRemoves request → hadBefore azure →
      hadBefore (Azure.handle true request azure).2 :=
    fun request azure onlyRemoves before stillThere =>
      before (onlyRemoves.has_of_has_handle stillThere)
  have started : hadBefore state.2 := id
  exact removes.run_faulty_preserves hadBefore preserved started remains

/-! ## Programs that leave nothing -/

variable {α β : Type} {gone goneLater : Belonging → Prop}

/-- The program only removes, and where it ends well nothing of the given
belongings is left. -/
structure Empties (program : Shell α) (gone : Belonging → Prop) : Prop where
  removes : Within OnlyRemoves program
  empties : ∀ {state a after}, run unreliable program state = (.ok a, after) →
    ∀ belonging, gone belonging → ¬ after.2.Has belonging

namespace Empties

theorem mono {program : Shell α} (empties : Empties program gone)
    (included : ∀ belonging, goneLater belonging → gone belonging) :
    Empties program goneLater where
  removes := empties.removes
  empties ran belonging isGone := empties.empties ran belonging (included belonging isGone)

theorem pure (a : α) : Empties (pure a) fun _ => False where
  removes := trivial
  empties _ _ isGone := isGone.elim

theorem raise (e : PyException) : Empties (raise e : Shell α) gone where
  removes := trivial
  empties ran := by cases ran

theorem bind {program : Shell α} {rest : α → Shell β} (first : Empties program gone)
    (later : ∀ a, Empties (rest a) goneLater) :
    Empties (program >>= rest) fun belonging => gone belonging ∨ goneLater belonging where
  removes := first.removes.bind fun a => (later a).removes
  empties := by
    intro state b after ran
    rcases run_bind_eq_ok ran with ⟨a, between, firstRun, laterRun⟩
    rintro belonging (isGone | isGone) remains
    · apply first.empties firstRun belonging isGone
      apply has_of_has_run (later a).removes
      rw [laterRun]
      exact remains
    · exact (later a).empties laterRun belonging isGone remains

theorem when {condition : Prop} [Decidable condition] {program : Shell Unit}
    (empties : Empties program gone) :
    Empties (when condition program) fun belonging => condition ∧ gone belonging := by
  unfold Prog.when
  split
  · exact empties.mono fun belonging isGone => isGone.2
  · rename_i skipped
    exact (pure ()).mono fun belonging isGone => skipped isGone.1

theorem forEach {items : List β} {body : β → Shell Unit} {gone : β → Belonging → Prop}
    (round : ∀ item ∈ items, Empties (body item) (gone item)) :
    Empties (forEach items body) fun belonging => ∃ item ∈ items, gone item belonging := by
  induction items with
  | nil => exact (pure ()).mono fun belonging isGone => by simp at isGone
  | cons item rest ih =>
      have first := round item List.mem_cons_self
      have later := ih fun other member => round other (List.mem_cons_of_mem item member)
      apply (first.bind fun _ => later).mono
      rintro belonging ⟨other, member, isGone⟩
      rcases List.mem_cons.mp member with rfl | inRest
      · exact Or.inl isGone
      · exact Or.inr ⟨other, inRest, isGone⟩

theorem retryConnection {program : Shell α} (empties : Empties program gone) :
    Empties (retryConnection program) gone where
  removes := empties.removes.retry 4
  empties := by
    intro state a after ran
    rcases run_retry_eq_ok ran with ⟨start, last⟩
    exact empties.empties last

/-- One request that leaves nothing where it takes effect. -/
theorem request {request : Request} (removes : OnlyRemoves request)
    (empty : ∀ azure belonging, gone belonging →
      ¬ (Azure.handle true request azure).2.Has belonging) :
    Empties (send request) gone where
  removes := within_perform removes
  empties := by
    intro state a after ran belonging isGone
    have handled := empty state.2 belonging isGone
    rwa [run_unreliable_of_ok ran] at handled

end Empties

/-! ## Deletions that stop -/

/-- What a call is made for and in which state. -/
abbrev CallCondition :=
  Request → UnreliableAzure → Prop

/-- The program leaves nothing of the given belongings where it ends well, and
also where it stops with "Not Found", if its calls were made as allowed. -/
structure Deletes (program : Shell α) (allowed : CallCondition) (gone : Belonging → Prop) : Prop
    extends Empties program gone where
  stops : ∀ {state e after}, run unreliable program state = (.error e, after) →
    e.isNotFound = true → Along unreliable allowed program state →
    ∀ belonging, gone belonging → ¬ after.2.Has belonging

/-- The program is one request, which removes its target and is answered "Not
Found" only where it is absent. -/
structure IsDeletion (program : Shell Unit) (request : Request) (target : Belonging) : Prop where
  removes : Within OnlyRemoves program
  deleted : ∀ {state after}, run unreliable program state = (.ok (), after) →
    ¬ after.2.Has target
  absent : ∀ {state e after}, run unreliable program state = (.error e, after) →
    e.isNotFound = true → ¬ state.2.Has target
  calls : ∀ {state} {allowed : CallCondition}, Along unreliable allowed program state →
    allowed request state

/-- A request is answered "Not Found" by Azure alone. -/
theorem handle_of_notFound {request : Request} {state after : UnreliableAzure} {e : PyException}
    (failed : run unreliable (send request) state = (.error e, after))
    (notFound : e.isNotFound = true) :
    (Azure.handle true request state.2).1 = .error e := by
  have answered : (unreliable request state).1 = .error e := congrArg Prod.fst failed
  rcases unreliable_answer request state with ⟨other, isRaised⟩ | handled
  · rw [isRaised] at answered
    obtain rfl := Except.error.inj answered
    rw [other.property] at notFound
    cases notFound
  · rw [← congrArg Prod.fst handled]
    exact answered

theorem Azure.absent_of_deletion {strict present : Bool} {e : PyException}
    (failed : Azure.deletion strict present = .error e) : present = false := by
  cases present with
  | false => rfl
  | true => simp [Azure.deletion] at failed

namespace IsDeletion

variable {program : Shell Unit} {request : Request} {target : Belonging}

/-- One deletion leaves nothing of its target, whichever way it ends. -/
theorem deletes (isDeletion : IsDeletion program request target) (allowed : CallCondition) :
    Deletes program allowed fun belonging => belonging = target where
  removes := isDeletion.removes
  empties := by
    rintro state a after ran _ rfl
    exact isDeletion.deleted ran
  stops := by
    rintro state e after failed notFound _ _ rfl remains
    apply isDeletion.absent failed notFound
    apply has_of_has_run isDeletion.removes
    rw [failed]
    exact remains

theorem deleteVirtualMachine (name : Text) :
    IsDeletion (send (.deleteVirtualMachine name)) (.deleteVirtualMachine name)
      (.resource (.virtualMachine name)) where
  removes := within_perform ⟨rfl, rfl⟩
  deleted ran := by
    have handled := run_unreliable_of_ok ran
    exact congrArg Prod.snd handled ▸ Azure.not_exists_deleteVirtualMachine name
  absent failed notFound := by
    rintro ⟨vm, member, named⟩
    have missing := Azure.absent_of_deletion (handle_of_notFound failed notFound)
    exact List.any_eq_false.mp missing vm member (decide_eq_true named)
  calls along := along.1

theorem deleteNetworkInterface (name : Text) :
    IsDeletion (send (.deleteNetworkInterface name)) (.deleteNetworkInterface name)
      (.resource (.networkInterface name)) where
  removes := within_perform ⟨rfl, rfl⟩
  deleted ran := by
    have handled := run_unreliable_of_ok ran
    exact congrArg Prod.snd handled ▸ Azure.not_exists_deleteNetworkInterface name
  absent failed notFound := by
    rintro ⟨nic, member, named⟩
    have missing := Azure.absent_of_deletion (handle_of_notFound failed notFound)
    exact List.any_eq_false.mp missing nic member (decide_eq_true named)
  calls along := along.1

theorem deletePublicIpAddress (name : Text) :
    IsDeletion (send (.deletePublicIpAddress name)) (.deletePublicIpAddress name)
      (.resource (.publicIpAddress name)) where
  removes := within_perform ⟨rfl, rfl⟩
  deleted ran := by
    have handled := run_unreliable_of_ok ran
    exact congrArg Prod.snd handled ▸ Azure.not_exists_deletePublicIpAddress name
  absent failed notFound := by
    rintro ⟨ip, member, named⟩
    have missing := Azure.absent_of_deletion (handle_of_notFound failed notFound)
    exact List.any_eq_false.mp missing ip member (decide_eq_true named)
  calls along := along.1

theorem deleteDisk (disk : Disk) :
    IsDeletion (send (.deleteDisk disk)) (.deleteDisk disk) (.disk disk) where
  removes := within_perform ⟨rfl, rfl⟩
  deleted ran := by
    intro remains
    have handled := run_unreliable_of_ok ran
    have kept := List.mem_filter.mp (congrArg Prod.snd handled ▸ remains)
    exact of_decide_eq_true kept.2 rfl
  absent failed notFound := by
    have missing := Azure.absent_of_deletion (handle_of_notFound failed notFound)
    exact of_decide_eq_false missing
  calls along := along.1

end IsDeletion

namespace Deletes

variable {program : Shell α} {allowed : CallCondition}

theorem mono (deletes : Deletes program allowed gone)
    (included : ∀ belonging, goneLater belonging → gone belonging) :
    Deletes program allowed goneLater where
  toEmpties := deletes.toEmpties.mono included
  stops failed notFound along belonging isGone :=
    deletes.stops failed notFound along belonging (included belonging isGone)

theorem raise {e : PyException} (other : e.isNotFound = false) :
    Deletes (raise e : Shell α) allowed gone where
  toEmpties := Empties.raise e
  stops failed notFound := by
    cases failed
    rw [other] at notFound
    cases notFound

theorem retryConnection (deletes : Deletes program allowed gone) :
    Deletes (retryConnection program) allowed gone where
  toEmpties := deletes.toEmpties.retryConnection
  stops failed notFound along := by
    rcases along.last_attempt with ⟨start, inLast, ran⟩
    exact deletes.stops (ran.symm.trans failed) notFound inLast

end Deletes

/-- No target of the list is to be deleted where it is absent and a later one of
the list is not. -/
def InOrder (request : Text → Request) (target : Text → Belonging) (names : List Text) :
    CallCondition :=
  fun sent state => ∀ name later, name :: later <:+ names → sent = request name →
    ¬ state.2.Has (target name) → ∀ other ∈ later, ¬ state.2.Has (target other)

section Loop

variable {body : Text → Shell Unit} {request : Text → Request} {target : Text → Belonging}

theorem not_has_of_stopped (round : ∀ name, IsDeletion (body name) (request name) (target name))
    {names rest : List Text} (isRest : rest <:+ names) {state after : UnreliableAzure}
    {e : PyException} (failed : run unreliable (forEach rest body) state = (.error e, after))
    (notFound : e.isNotFound = true)
    (along : Along unreliable (InOrder request target names) (forEach rest body) state) :
    ∀ name ∈ rest, ¬ after.2.Has (target name) := by
  induction rest generalizing state with
  | nil => cases failed
  | cons name rest ih =>
      cases first : run unreliable (body name) state with
      | mk outcome between =>
          rw [run_forEach_cons, first] at failed
          cases outcome with
          | ok a =>
              -- deleted in its round, and the later rounds bring nothing back
              dsimp only at failed
              have later := ih ((List.suffix_cons name rest).trans isRest) failed
                (along.rest_of_ok first)
              refine List.forall_mem_cons.mpr ⟨fun remains => ?_, later⟩
              apply (round name).deleted first
              apply has_of_has_run (Within.forEach fun other _ => (round other).removes)
              rw [failed]
              exact remains
          | error e =>
              cases failed
              have missing := (round name).absent first notFound
              have allLater := (round name).calls along.first name rest isRest rfl missing
              intro other member remains
              have wasThere : state.2.Has (target other) := by
                apply has_of_has_run (round name).removes
                rw [first]
                exact remains
              rcases List.mem_cons.mp member with rfl | inRest
              · exact missing wasThere
              · exact allLater other inRest wasThere

/-- A loop of deletions leaves nothing to delete; where it stops in order, too. -/
theorem Deletes.forEach (round : ∀ name, IsDeletion (body name) (request name) (target name))
    (names : List Text) :
    Deletes (forEach names body) (InOrder request target names) fun belonging =>
      ∃ name ∈ names, belonging = target name where
  toEmpties := Empties.forEach fun name _ => ((round name).deletes fun _ _ => True).toEmpties
  stops := by
    rintro state e after failed notFound along _ ⟨name, member, rfl⟩
    exact not_has_of_stopped round List.suffix_rfl failed notFound along name member

end Loop

end AzureShell
