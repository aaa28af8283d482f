import AzureShell.Azure.Resources
import AzureShell.Prog.Calm
import AzureShell.Prog.Trace
import AzureShell.Sandbox.ActionOrder

/-!
# The results of a preparation

`prepare_connectivity` accepts a request with any block in it, and collects the
results with other conditions: it looks for one network action and one action
for the keys.  Between the two it has created everything.
-/

namespace AzureShell

open Prog SecurityGroupService NetworkService

/-! ## Actions and results -/

namespace PrepareAction

def actionId : PrepareAction → Text
  | prepareCloudInfra actionId _ => actionId
  | prepareSubnet actionId _ => actionId
  | createKeys actionId => actionId
  | other actionId => actionId

/-- The actions that the preparation knows. -/
def IsKnown (action : PrepareAction) : Prop :=
  ∀ actionId, action ≠ other actionId

end PrepareAction

def PrepareActionResult.actionId : PrepareActionResult → Text
  | prepareCloudInfra actionId => actionId
  | prepareSubnet actionId _ => actionId
  | createKeys actionId => actionId

/-- Whether a request creates a resource. -/
def Request.createsResource : Request → Bool
  | .putSubnet _ _ _ => true
  | .putExtension _ => true
  | .external .resourceGroup => true
  | .external .storageAndKeyPairs => true
  | request => request.creates.isSome

namespace PrepareSandboxInfraOperation

/-- A preparation raises before it creates anything, or answers every action
with one result. -/
def RejectsOrAnswers (actions : List PrepareAction) (made : List Request)
    (outcome : Except PyException (List PrepareActionResult)) : Prop :=
  ((∃ e, outcome = .error e) ∧ ∀ request ∈ made, request.createsResource = false) ∨
    ∃ results, outcome = .ok results ∧
      (results.map PrepareActionResult.actionId).Perm (actions.map PrepareAction.actionId)

/-- Among the networks are the management network and that of the sandboxes, each
with an address prefix. -/
def NetworksFound (virtualNetworks : List VirtualNetwork) : Prop :=
  (∃ cidr, firstAddressPrefix (getVirtualNetworkByTag virtualNetworks networkTypeTagName
      mgmtNetworkTagValue) = .ok cidr) ∧
    ∃ cidr, firstAddressPrefix (getVirtualNetworkByTag virtualNetworks networkTypeTagName
      sandboxNetworkTagValue) = .ok cidr

/-- One network action and one action for the keys. -/
def OneOfEach (actions : List PrepareAction) : Prop :=
  (actions.filterMap PrepareAction.infraId).length = 1 ∧
    (actions.filterMap PrepareAction.keysId).length = 1

/-- What is returned after the subnets are created. -/
def answer (actions : List PrepareAction) (results : List PrepareActionResult) :
    Except PyException (List PrepareActionResult) := do
  let infraId ← getActionIdByType PrepareAction.infraId actions
  let keysId ← getActionIdByType PrepareAction.keysId actions
  return results ++ [.prepareCloudInfra infraId, .createKeys keysId]

/-- The results of the subnets carry the ids of their actions. -/
def AnswersSubnets (actions : List PrepareAction) (results : List PrepareActionResult) : Prop :=
  List.Forall₂ (fun action result => PrepareActionResult.actionId result = action.1)
    (actions.filterMap PrepareAction.subnet) results

variable {actions : List PrepareAction} {results : List PrepareActionResult}

/-- The ids of the actions, by kind. -/
theorem map_actionId_perm (known : ∀ action ∈ actions, action.IsKnown) :
    (actions.map PrepareAction.actionId).Perm
      ((actions.filterMap PrepareAction.subnet).map Prod.fst ++
        (actions.filterMap PrepareAction.infraId ++ actions.filterMap PrepareAction.keysId)) := by
  induction actions with
  | nil => exact List.Perm.refl _
  | cons action actions ih =>
      rcases List.forall_mem_cons.mp known with ⟨isKnown, restKnown⟩
      have rest := ih restKnown
      cases action with
      | prepareSubnet actionId actionParams => exact rest.cons actionId
      | prepareCloudInfra actionId cidr =>
          exact (rest.cons actionId).trans List.perm_middle.symm
      | createKeys actionId =>
          have toKeys : (actionId :: (actions.filterMap PrepareAction.infraId ++
              actions.filterMap PrepareAction.keysId)).Perm
              (actions.filterMap PrepareAction.infraId ++
                actionId :: actions.filterMap PrepareAction.keysId) :=
            List.perm_middle.symm
          exact (rest.cons actionId).trans (List.perm_middle.symm.trans (toKeys.append_left _))
      | other actionId => exact absurd rfl (isKnown actionId)

theorem getActionIdByType_eq_ok_iff {idOf : PrepareAction → Option Text} {actionId : Text} :
    getActionIdByType idOf actions = .ok actionId ↔
      (actions.filterMap idOf).head? = some actionId := by
  rw [getActionIdByType, List.head?_filterMap]
  cases actions.findSome? idOf with
  | none => simp
  | some found => simp

theorem AnswersSubnets.map_actionId (subnets : AnswersSubnets actions results) :
    results.map PrepareActionResult.actionId =
      (actions.filterMap PrepareAction.subnet).map Prod.fst := by
  unfold AnswersSubnets at subnets
  generalize actions.filterMap PrepareAction.subnet = asked at subnets ⊢
  induction subnets with
  | nil => rfl
  | cons same _ ih => rw [List.map_cons, List.map_cons, same, ih]

theorem answer_eq_ok {all : List PrepareActionResult} (answered : answer actions results = .ok all) :
    ∃ infraId keysId, (actions.filterMap PrepareAction.infraId).head? = some infraId ∧
      (actions.filterMap PrepareAction.keysId).head? = some keysId ∧
      all = results ++ [.prepareCloudInfra infraId, .createKeys keysId] := by
  cases infraFound : getActionIdByType PrepareAction.infraId actions with
  | error e =>
      rw [answer, infraFound] at answered
      cases answered
  | ok infraId =>
      cases keysFound : getActionIdByType PrepareAction.keysId actions with
      | error e =>
          rw [answer, infraFound, keysFound] at answered
          cases answered
      | ok keysId =>
          rw [answer, infraFound, keysFound] at answered
          cases answered
          exact ⟨infraId, keysId, getActionIdByType_eq_ok_iff.mp infraFound,
            getActionIdByType_eq_ok_iff.mp keysFound, rfl⟩

/-- Every action is answered once if and only if there is one of each kind that
is answered once. -/
theorem answer_iff (known : ∀ action ∈ actions, action.IsKnown)
    (subnets : AnswersSubnets actions results) :
    (∃ all, answer actions results = .ok all ∧
        (all.map PrepareActionResult.actionId).Perm (actions.map PrepareAction.actionId)) ↔
      OneOfEach actions := by
  have byKind := map_actionId_perm known
  constructor
  · rintro ⟨all, answered, perm⟩
    rcases answer_eq_ok answered with ⟨infraId, keysId, infraFound, keysFound, rfl⟩
    have infraSome := List.length_pos_of_mem (List.mem_of_head? infraFound)
    have keysSome := List.length_pos_of_mem (List.mem_of_head? keysFound)
    have lengths := (perm.trans byKind).length_eq
    rw [List.map_append, subnets.map_actionId] at lengths
    simp only [List.length_append, List.length_map, List.length_cons, List.length_nil] at lengths
    unfold OneOfEach
    omega
  · rintro ⟨oneInfra, oneKeys⟩
    rcases List.length_eq_one_iff.mp oneInfra with ⟨infraId, infraIds⟩
    rcases List.length_eq_one_iff.mp oneKeys with ⟨keysId, keysIds⟩
    have infraFound : getActionIdByType PrepareAction.infraId actions = .ok infraId :=
      getActionIdByType_eq_ok_iff.mpr (by rw [infraIds]; rfl)
    have keysFound : getActionIdByType PrepareAction.keysId actions = .ok keysId :=
      getActionIdByType_eq_ok_iff.mpr (by rw [keysIds]; rfl)
    refine ⟨_, by rw [answer, infraFound, keysFound]; rfl, ?_⟩
    rw [infraIds, keysIds] at byKind
    rw [List.map_append, subnets.map_actionId]
    exact byKind.symm

/-! ## Calm runs -/

/-- Nobody cancels. -/
def NotCancelled (azure : Azure) : Prop :=
  ∀ isCancelled ∈ azure.cancellations, isCancelled = false

variable {strict : Bool} {azure : Azure}

theorem notCancelled_handle (strict : Bool) (request : Request)
    (notCancelled : NotCancelled azure) :
    NotCancelled (Azure.handle strict request azure).2 := by
  cases request with
  | isCancelled => exact fun isCancelled later => notCancelled _ (List.mem_of_mem_tail later)
  | putSecurityRule nsg rule =>
      simp only [Azure.handle]
      split <;> exact notCancelled
  | putSubnet group network subnet =>
      rcases Azure.handle_putSubnet strict group network subnet azure with ⟨changed, same⟩
      rw [same]
      exact notCancelled
  | checkoutFromPool poolId reservationId ownerId subnetRange =>
      simp only [Azure.handle]
      split <;> exact notCancelled
  | _ => exact notCancelled

/-- Where nobody cancels and no call fails, the program ends well. -/
abbrev EndsCalmly {α : Type} (strict : Bool) (program : Shell α) (post : α → Prop) : Prop :=
  EndsWell (Azure.handle strict) NotCancelled program post

theorem endsCalmly_send (strict : Bool) (request : Request) :
    EndsCalmly strict (send request) fun _ => True := by
  apply endsWell_perform
  intro azure a after notCancelled handled
  have kept := notCancelled_handle strict request notCancelled
  rw [handled] at kept
  exact ⟨kept, trivial⟩

theorem endsCalmly_checkIfCancelled (strict : Bool) :
    EndsCalmly strict CommandCancellationService.checkIfCancelled fun _ => True := by
  intro azure notCancelled _
  refine ⟨(), _, run_checkIfCancelled_of_calm notCancelled, ?_, trivial⟩
  exact fun isCancelled later => notCancelled _ (List.mem_of_mem_tail later)

theorem endsCalmly_createRules {generator : PriorityGenerator} {used : Int → Prop}
    (strict : Bool) (nsg destinationAddr sourceAddress : Text) (tracks : Tracks generator used)
    (inboundRules : List InboundRule) :
    EndsCalmly strict (createRules nsg destinationAddr sourceAddress inboundRules generator)
      fun _ => True := by
  induction inboundRules generalizing generator used with
  | nil => exact endsWell_pure trivial
  | cons ruleData rest ih =>
      rcases tracks.next with ⟨priority, after, yielded, _, tracksAfter⟩
      rw [createRules, yielded]
      apply ((endsCalmly_send strict _).retry _ _).bind
      intro _ _
      exact ih tracksAfter

theorem endsCalmly_createNetworkSecurityGroupRules (strict : Bool) (nsg : Text)
    (inboundRules : List InboundRule) (destinationAddr : Text) (lock : LockName)
    (startFrom : Option Int) (sourceAddress : Text) :
    EndsCalmly strict (createNetworkSecurityGroupRules nsg inboundRules destinationAddr lock
      startFrom sourceAddress) fun _ => True := by
  apply EndsWell.retry
  apply EndsWell.withLock
  apply (endsCalmly_send strict (.listSecurityRules nsg)).bind
  intro securityRules _
  exact endsCalmly_createRules strict nsg destinationAddr sourceAddress
    (tracks_rulePriorityGenerator _ _) inboundRules

theorem endsCalmly_createIsolationRules (strict : Bool)
    (managementVnetCidr sandboxVnetCidr sandboxCidr nsg : Text)
    (additionalMgmtNetworks : List Text) (subnets : List PrepareSubnet) :
    EndsCalmly strict (createIsolationRules managementVnetCidr sandboxVnetCidr sandboxCidr nsg
      additionalMgmtNetworks subnets) fun _ => True := by
  have batch := endsCalmly_createNetworkSecurityGroupRules strict nsg
  apply (EndsWell.forEach fun _ _ => batch _ _ _ _ _).bind
  intro _ _
  apply (EndsWell.forEach fun _ _ => batch _ _ _ _ _).bind
  intro _ _
  apply (EndsWell.forEach fun _ _ => batch _ _ _ _ _).bind
  intro _ _
  apply (batch _ _ _ _ _).bind
  intro _ _
  exact batch _ _ _ _ _

theorem endsCalmly_createSubnet (strict : Bool) (group nsg : Text) (sandboxVnet : VirtualNetwork)
    (cidr subnetName : Text) :
    EndsCalmly strict (createSubnet group nsg sandboxVnet cidr subnetName) fun _ => True := by
  apply EndsWell.withLock
  exact ((endsCalmly_send strict _).retry _ _).catching _

theorem endsCalmly_createSubnets (strict : Bool) (group reservationId : Text)
    (sandboxVnet : VirtualNetwork) (actions : List PrepareAction) :
    EndsCalmly strict (createSubnets group reservationId sandboxVnet actions)
      (AnswersSubnets actions) := by
  apply EndsWell.collect
  intro action _
  apply (endsCalmly_createSubnet strict _ _ _ _ _).bind
  intro _ _
  exact endsWell_pure rfl

/-! ## The outcome -/

variable {cloudProviderModel : AzureCloudProviderResourceModel} {group reservationId cidr : Text}

/-- After the isolation rules the actions decide on the outcome. -/
theorem run_finishPreparation (strict : Bool) (sandboxVnet : VirtualNetwork)
    (notCancelled : NotCancelled azure) (calm : failures (Azure.handle strict)
      (finishPreparation group reservationId sandboxVnet actions) azure = []) :
    ∃ results, AnswersSubnets actions results ∧
      (run (Azure.handle strict) (finishPreparation group reservationId sandboxVnet actions)
        azure).1 = answer actions results := by
  unfold finishPreparation at calm ⊢
  obtain ⟨_, first, _, firstCalm, firstRun, calm⟩ :=
    (endsCalmly_checkIfCancelled strict).step notCancelled calm
  obtain ⟨results, second, answers, secondCalm, secondRun, calm⟩ :=
    (endsCalmly_createSubnets strict group reservationId sandboxVnet actions).step firstCalm calm
  obtain ⟨_, third, _, thirdCalm, thirdRun, calm⟩ :=
    (endsCalmly_checkIfCancelled strict).step secondCalm calm
  obtain ⟨_, fourth, _, _, fourthRun, _⟩ :=
    (endsCalmly_send strict (.external .storageAndKeyPairs)).step thirdCalm calm
  refine ⟨results, answers, ?_⟩
  rw [run_bind_of_ok firstRun, run_bind_of_ok secondRun, run_bind_of_ok thirdRun,
    run_bind_of_ok fourthRun, answer]
  cases getActionIdByType PrepareAction.infraId actions with
  | error e => rfl
  | ok infraId => cases getActionIdByType PrepareAction.keysId actions <;> rfl

/-- What follows the validation of the networks. -/
def prepareSandbox (cloudProviderModel : AzureCloudProviderResourceModel) (reservationId : Text)
    (actions : List PrepareAction) (cidr : Text) (managementVnet sandboxVnet : VirtualNetwork) :
    Shell (List PrepareActionResult) := do
  createNetworkSecurityGroup (getSubnetsNsgName reservationId)
  CommandCancellationService.checkIfCancelled
  createSubnetNsgRules (some managementVnet) (some sandboxVnet) cidr
    (getSubnetsNsgName reservationId) cloudProviderModel.additionalMgmtNetworks
    (subnetActions actions)
  finishPreparation cloudProviderModel.managementGroupName reservationId sandboxVnet actions

/-- What follows the listing of the networks. -/
def prepareNetworks (cloudProviderModel : AzureCloudProviderResourceModel) (reservationId : Text)
    (actions : List PrepareAction) (cidr : Text) (virtualNetworks : List VirtualNetwork) :
    Shell (List PrepareActionResult) := do
  CommandCancellationService.checkIfCancelled
  let managementVnet ← ofExcept <| validateManagementVnet <|
    getVirtualNetworkByTag virtualNetworks networkTypeTagName mgmtNetworkTagValue
  let sandboxVnet ← ofExcept <| validateSandboxVnet <|
    getVirtualNetworkByTag virtualNetworks networkTypeTagName sandboxNetworkTagValue
  prepareSandbox cloudProviderModel reservationId actions cidr managementVnet sandboxVnet

theorem prepareConnectivity_eq (cidrFound : networkCidr actions = .ok cidr) :
    prepareConnectivity cloudProviderModel reservationId actions = (do
      retryConnection (send (.external .resourceGroup))
      CommandCancellationService.checkIfCancelled
      let virtualNetworks ← getVirtualNetworks cloudProviderModel.managementGroupName
      prepareNetworks cloudProviderModel reservationId actions cidr virtualNetworks) := by
  rw [prepareConnectivity, cidrFound]
  rfl

theorem run_prepareSandbox (strict : Bool) (managementVnet sandboxVnet : VirtualNetwork)
    (notCancelled : NotCancelled azure) (calm : failures (Azure.handle strict)
      (prepareSandbox cloudProviderModel reservationId actions cidr managementVnet sandboxVnet)
      azure = []) :
    let outcome := (run (Azure.handle strict)
      (prepareSandbox cloudProviderModel reservationId actions cidr managementVnet sandboxVnet)
      azure).1
    let found := (∃ cidr, firstAddressPrefix (some managementVnet) = .ok cidr) ∧
      ∃ cidr, firstAddressPrefix (some sandboxVnet) = .ok cidr
    (found ∧ ∃ results, AnswersSubnets actions results ∧ outcome = answer actions results) ∨
      (¬ found ∧ ∃ e, outcome = .error e) := by
  dsimp only
  unfold prepareSandbox at calm ⊢
  obtain ⟨_, first, _, firstCalm, firstRun, calm⟩ :=
    ((endsCalmly_send strict _).retry retryIfConnectionError 4).step notCancelled calm
  obtain ⟨_, second, _, secondCalm, secondRun, calm⟩ :=
    (endsCalmly_checkIfCancelled strict).step firstCalm calm
  rw [createNetworkSecurityGroup, retryConnection, run_bind_of_ok firstRun,
    run_bind_of_ok secondRun]
  rw [createSubnetNsgRules] at calm ⊢
  generalize firstAddressPrefix (some managementVnet) = managementCidr at calm ⊢
  generalize firstAddressPrefix (some sandboxVnet) = sandboxCidr at calm ⊢
  cases managementCidr with
  | error e =>
      refine Or.inr ⟨?_, e, rfl⟩
      rintro ⟨⟨_, found⟩, _⟩
      cases found
  | ok managementVnetCidr =>
      cases sandboxCidr with
      | error e =>
          refine Or.inr ⟨?_, e, rfl⟩
          rintro ⟨_, _, found⟩
          cases found
      | ok sandboxVnetCidr =>
          obtain ⟨_, third, _, thirdCalm, thirdRun, calm⟩ :=
            (endsCalmly_createIsolationRules strict managementVnetCidr sandboxVnetCidr cidr
              (getSubnetsNsgName reservationId) cloudProviderModel.additionalMgmtNetworks
              (subnetActions actions)).step secondCalm calm
          obtain ⟨results, answers, answered⟩ :=
            run_finishPreparation strict sandboxVnet thirdCalm calm
          refine Or.inl ⟨⟨⟨_, rfl⟩, _, rfl⟩, results, answers, ?_⟩
          exact (congrArg Prod.fst (run_bind_of_ok thirdRun)).trans answered

/-- A missing network or address prefix raises; otherwise the actions decide. -/
theorem run_prepareNetworks (strict : Bool) (virtualNetworks : List VirtualNetwork)
    (notCancelled : NotCancelled azure) (calm : failures (Azure.handle strict)
      (prepareNetworks cloudProviderModel reservationId actions cidr virtualNetworks) azure = []) :
    let outcome := (run (Azure.handle strict)
      (prepareNetworks cloudProviderModel reservationId actions cidr virtualNetworks) azure).1
    (NetworksFound virtualNetworks ∧
        ∃ results, AnswersSubnets actions results ∧ outcome = answer actions results) ∨
      (¬ NetworksFound virtualNetworks ∧ ∃ e, outcome = .error e) := by
  dsimp only
  unfold NetworksFound
  unfold prepareNetworks at calm ⊢
  obtain ⟨_, first, _, firstCalm, firstRun, calm⟩ :=
    (endsCalmly_checkIfCancelled strict).step notCancelled calm
  rw [run_bind_of_ok firstRun]
  generalize getVirtualNetworkByTag virtualNetworks networkTypeTagName mgmtNetworkTagValue =
    management at calm ⊢
  generalize getVirtualNetworkByTag virtualNetworks networkTypeTagName sandboxNetworkTagValue =
    sandbox at calm ⊢
  cases management with
  | none =>
      refine Or.inr ⟨?_, _, rfl⟩
      rintro ⟨⟨_, found⟩, _⟩
      cases found
  | some managementVnet =>
      cases sandbox with
      | none =>
          refine Or.inr ⟨?_, _, rfl⟩
          rintro ⟨_, _, found⟩
          cases found
      | some sandboxVnet => exact run_prepareSandbox strict managementVnet sandboxVnet firstCalm calm

/-- The preparation creates its resource group first. -/
theorem resourceGroup_mem_requests (strict : Bool) (cidrFound : networkCidr actions = .ok cidr) :
    Request.external .resourceGroup ∈ requests (Azure.handle strict)
      (prepareConnectivity cloudProviderModel reservationId actions) azure := by
  rw [prepareConnectivity_eq cidrFound]
  apply mem_requests_bind_of_first
  exact List.mem_singleton_self _

theorem run_prepareConnectivity_calm (strict : Bool) (cidrFound : networkCidr actions = .ok cidr)
    (notCancelled : NotCancelled azure) (calm : failures (Azure.handle strict)
      (prepareConnectivity cloudProviderModel reservationId actions) azure = []) :
    let virtualNetworks := azure.virtualNetworks cloudProviderModel.managementGroupName
    let outcome := (run (Azure.handle strict)
      (prepareConnectivity cloudProviderModel reservationId actions) azure).1
    (NetworksFound virtualNetworks ∧
        ∃ results, AnswersSubnets actions results ∧ outcome = answer actions results) ∨
      (¬ NetworksFound virtualNetworks ∧ ∃ e, outcome = .error e) := by
  dsimp only
  rw [prepareConnectivity_eq cidrFound] at calm ⊢
  have resourceGroup : run (Azure.handle strict)
      (retryConnection (send (.external .resourceGroup))) azure = (.ok (), azure) :=
    run_retry_of_ok rfl
  let first : Azure := { azure with cancellations := azure.cancellations.tail }
  have checked : run (Azure.handle strict) CommandCancellationService.checkIfCancelled azure =
      (.ok (), first) := run_checkIfCancelled_of_calm notCancelled
  have firstCalm : NotCancelled first :=
    fun isCancelled later => notCancelled isCancelled (List.mem_of_mem_tail later)
  have listed : run (Azure.handle strict)
      (getVirtualNetworks cloudProviderModel.managementGroupName) first =
        (.ok (azure.virtualNetworks cloudProviderModel.managementGroupName), first) :=
    run_getVirtualNetworks strict cloudProviderModel.managementGroupName first
  have calm := failures_of_bind_of_ok resourceGroup calm
  have calm := failures_of_bind_of_ok checked calm
  have calm := failures_of_bind_of_ok listed calm
  rw [run_bind_of_ok resourceGroup, run_bind_of_ok checked, run_bind_of_ok listed]
  exact run_prepareNetworks strict _ firstCalm calm

/-- A preparation that nothing disturbs raises before it creates anything or
answers every action, if and only if no action has a block, or there is one
network action, one action for the keys, and both networks are found. -/
theorem prepareConnectivity_rejectsOrAnswers_iff (strict : Bool)
    (cloudProviderModel : AzureCloudProviderResourceModel) (reservationId : Text)
    (known : ∀ action ∈ actions, action.IsKnown) (notCancelled : NotCancelled azure)
    (calm : failures (Azure.handle strict)
      (prepareConnectivity cloudProviderModel reservationId actions) azure = []) :
    RejectsOrAnswers actions
        (requests (Azure.handle strict)
          (prepareConnectivity cloudProviderModel reservationId actions) azure)
        (run (Azure.handle strict)
          (prepareConnectivity cloudProviderModel reservationId actions) azure).1 ↔
      (∀ action ∈ actions, action.cidr = none) ∨
        (OneOfEach actions ∧
          NetworksFound (azure.virtualNetworks cloudProviderModel.managementGroupName)) := by
  cases cidrFound : networkCidr actions with
  | error e =>
      have rejected : prepareConnectivity cloudProviderModel reservationId actions = raise e := by
        rw [prepareConnectivity, cidrFound]
        rfl
      refine iff_of_true (Or.inl ?_) (Or.inl ?_)
      · rw [rejected]
        exact ⟨⟨e, rfl⟩, by simp⟩
      · rw [networkCidr] at cidrFound
        cases first : actions.findSome? PrepareAction.cidr with
        | none => exact List.findSome?_eq_none_iff.mp first
        | some cidr =>
            rw [first] at cidrFound
            cases cidrFound
  | ok cidr =>
      have someCidr : ¬ ∀ action ∈ actions, action.cidr = none := by
        intro noCidr
        rw [networkCidr, List.findSome?_eq_none_iff.mpr noCidr] at cidrFound
        cases cidrFound
      have notRejected : ¬ ∀ request ∈ requests (Azure.handle strict)
          (prepareConnectivity cloudProviderModel reservationId actions) azure,
          request.createsResource = false :=
        fun nothing => Bool.noConfusion (nothing _ (resourceGroup_mem_requests strict cidrFound))
      rw [RejectsOrAnswers, or_iff_right fun rejects => notRejected rejects.2,
        or_iff_right someCidr]
      rcases run_prepareConnectivity_calm strict cidrFound notCancelled calm with
        ⟨found, results, answers, answered⟩ | ⟨notFound, e, raised⟩
      · rw [answered, answer_iff known answers]
        exact (and_iff_left found).symm
      · rw [raised]
        apply iff_of_false
        · rintro ⟨_, returned, _⟩
          cases returned
        · exact fun both => notFound both.2

theorem prepareConnectivity_rejectsOrAnswers_example :
    RejectsOrAnswers [networkAction, lowerHalf, .createKeys "keys".toList]
        (requests (Azure.handle true) (prepareConnectivity plainProvider "r1".toList
          [networkAction, lowerHalf, .createKeys "keys".toList]) twoNetworks)
        (run (Azure.handle true) (prepareConnectivity plainProvider "r1".toList
          [networkAction, lowerHalf, .createKeys "keys".toList]) twoNetworks).1 ↔
      (∀ action ∈ [networkAction, lowerHalf, .createKeys "keys".toList], action.cidr = none) ∨
        (OneOfEach [networkAction, lowerHalf, .createKeys "keys".toList] ∧
          NetworksFound (twoNetworks.virtualNetworks plainProvider.managementGroupName)) :=
  prepareConnectivity_rejectsOrAnswers_iff true plainProvider "r1".toList
    (by simp [PrepareAction.IsKnown, networkAction, lowerHalf]) finds_twoNetworks.notCancelled
    (by decide)

/-- A request with a subnet and without a network action is accepted; it raises
when everything is created. -/
theorem missing_network_action_raises_late :
    failures (Azure.handle true) (prepareConnectivity plainProvider "r1".toList
        [lowerHalf, .createKeys "keys".toList]) twoNetworks = [] ∧
      NotCancelled twoNetworks ∧
      (run (Azure.handle true) (prepareConnectivity plainProvider "r1".toList
        [lowerHalf, .createKeys "keys".toList]) twoNetworks).1 = .error .stopIteration ∧
      ¬ RejectsOrAnswers [lowerHalf, .createKeys "keys".toList]
        (requests (Azure.handle true) (prepareConnectivity plainProvider "r1".toList
          [lowerHalf, .createKeys "keys".toList]) twoNetworks)
        (run (Azure.handle true) (prepareConnectivity plainProvider "r1".toList
          [lowerHalf, .createKeys "keys".toList]) twoNetworks).1 := by
  have raised : (run (Azure.handle true) (prepareConnectivity plainProvider "r1".toList
      [lowerHalf, .createKeys "keys".toList]) twoNetworks).1 = .error .stopIteration := by decide
  refine ⟨by decide, finds_twoNetworks.notCancelled, raised, ?_⟩
  rintro (⟨_, nothing⟩ | ⟨results, returned, _⟩)
  · have cidrFound : networkCidr [lowerHalf, .createKeys "keys".toList] =
        .ok "10.0.1.0/25".toList := by decide
    exact Bool.noConfusion (nothing _ (resourceGroup_mem_requests true cidrFound))
  · have same : (.error .stopIteration : Except PyException (List PrepareActionResult)) =
        .ok results := raised.symm.trans returned
    cases same

end PrepareSandboxInfraOperation

end AzureShell
