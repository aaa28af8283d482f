import AzureShell.Deploy.InboundPorts
import AzureShell.Sandbox.ActionOrder

/-!
# Private subnets

The preparation denies traffic of the Internet to every subnet that is not
public.  The rules of a deployment come before these rules, with the address of
an interface as destination, whether or not the subnet of the interface is
public.  So the private subnets stay closed as long as no deployment opens
inbound ports for an interface with an address in one of them.
-/

namespace AzureShell

open Prog Net SecurityGroupService NameProviderService

namespace PrepareSandboxInfraOperation

variable {tagged : Text → Address → Bool} {blocks done : List Text} {nsg : Text}

/-! ## Closed groups -/

/-- The blocks of the private subnets of a request. -/
def privateBlocks (actions : List PrepareAction) : List Text :=
  ((subnetActions actions).filter fun s => !s.isPublic).map PrepareSubnet.cidr

/-- The two prefixes have an address in common. -/
def Meets (tagged : Text → Address → Bool) (first second : Text) : Prop :=
  ∃ address, addressPrefixCovers tagged first address = true ∧
    addressPrefixCovers tagged second address = true

/-- Every packet from the Internet to an address of the blocks is denied. -/
def ClosedToInternet (tagged : Text → Address → Bool) (blocks : List Text)
    (rules : List SecurityRule) : Prop :=
  ∀ packet, addressPrefixCovers tagged internet packet.source = true →
    ∀ block ∈ blocks, addressPrefixCovers tagged block packet.destination = true →
      inboundVerdict tagged rules packet = some .deny

/-- The rule admits nothing from the Internet to the blocks. -/
def Spares (tagged : Text → Address → Bool) (blocks : List Text) (rule : SecurityRule) : Prop :=
  rule.access = .deny ∨ ¬ Meets tagged rule.sourceAddressPrefix internet ∨
    ∀ block ∈ blocks, ¬ Meets tagged rule.destinationAddressPrefix block

/-- The rule spares the blocks, and if it has the name of the rule against the
Internet for one of them, it is this rule. -/
structure Fits (tagged : Text → Address → Bool) (blocks : List Text) (rule : SecurityRule) :
    Prop where
  spares : Spares tagged blocks rule
  ofName : ∀ block ∈ blocks, rule.name = denyInternetRuleName block →
    ∃ priority, rule = (denyInternet block).atPriority priority

/-- Every rule fits, and the rules against the Internet are there for the blocks
that are done. -/
structure Closing (tagged : Text → Address → Bool) (blocks done : List Text)
    (rules : List SecurityRule) : Prop where
  fits : ∀ rule ∈ rules, Fits tagged blocks rule
  denied : ∀ block ∈ done, ∃ priority, (denyInternet block).atPriority priority ∈ rules

theorem Closing.closedToInternet {rules : List SecurityRule}
    (closing : Closing tagged blocks blocks rules) : ClosedToInternet tagged blocks rules := by
  intro packet fromInternet block member toBlock
  rcases closing.denied block member with ⟨priority, present⟩
  have covered : SecurityRule.covers tagged ((denyInternet block).atPriority priority) packet =
      true := by
    simp only [SecurityRule.covers, SecurityRule.coversPort, Bool.and_eq_true]
    exact ⟨⟨⟨⟨protocolCovers_asterisk _, portRangeCovers_asterisk _⟩, portRangeCovers_asterisk _⟩,
      fromInternet⟩, toBlock⟩
  have inbound : (denyInternet block).atPriority priority ∈
      rules.filter fun rule => rule.direction = "Inbound".toList :=
    List.mem_filter.mpr ⟨present, decide_eq_true rfl⟩
  apply Filter.verdict_eq_some_of_forall inbound covered
  intro rule ruleMem ruleCovers
  simp only [SecurityRule.covers, Bool.and_eq_true] at ruleCovers
  rcases (closing.fits rule (List.mem_filter.mp ruleMem).1).spares with denies | apart | apart
  · exact denies
  · exact absurd ⟨packet.source, ruleCovers.1.2, fromInternet⟩ apart
  · exact absurd ⟨packet.destination, ruleCovers.2, toBlock⟩ (apart block member)

/-- A rule that fits takes no rule against the Internet away. -/
theorem Closing.upsert {rules : List SecurityRule} (closing : Closing tagged blocks done rules)
    (included : ∀ block ∈ done, block ∈ blocks) {rule : SecurityRule}
    (fits : Fits tagged blocks rule) :
    Closing tagged blocks done (Store.upsert SecurityRule.name rule rules) := by
  constructor
  · intro other member
    rcases Store.mem_upsert_iff.mp member with rfl | ⟨old, _⟩
    · exact fits
    · exact closing.fits other old
  · intro block isDone
    by_cases sameName : rule.name = denyInternetRuleName block
    · rcases fits.ofName block (included block isDone) sameName with ⟨priority, isRule⟩
      exact ⟨priority, isRule ▸ Store.mem_upsert_self rule rules⟩
    · rcases closing.denied block isDone with ⟨priority, present⟩
      have named : ((denyInternet block).atPriority priority).name = denyInternetRuleName block :=
        anyTrafficRule_name _ _ _ _ (List.cons_ne_nil _ _)
      refine ⟨priority, Store.mem_upsert_iff.mpr (Or.inr ⟨present, ?_⟩)⟩
      rw [named]
      exact Ne.symm sameName

/-- The closing depends on which rules there are only. -/
theorem Closing.congr {rules others : List SecurityRule}
    (closing : Closing tagged blocks done rules) (same : ∀ rule, rule ∈ others ↔ rule ∈ rules) :
    Closing tagged blocks done others where
  fits := fun rule member => closing.fits rule ((same rule).mp member)
  denied := by
    intro block isDone
    rcases closing.denied block isDone with ⟨priority, present⟩
    exact ⟨priority, (same _).mpr present⟩

/-- The request leaves the rules of the group or writes one that fits. -/
def WritesFitting (tagged : Text → Address → Bool) (blocks : List Text) (nsg : Text)
    (request : Request) : Prop :=
  (∀ rules, request.onRules nsg rules = rules) ∨
    ∃ rule, Fits tagged blocks rule ∧ request = .putSecurityRule nsg rule

theorem Closing.handle {azure : Azure} (closing : Closing tagged blocks done (azure.rulesIn nsg))
    (included : ∀ block ∈ done, block ∈ blocks) {request : Request}
    (writes : WritesFitting tagged blocks nsg request) :
    Closing tagged blocks done ((Azure.handle false request azure).2.rulesIn nsg) := by
  rw [Azure.rulesIn, Azure.rulesOf_handle]
  rcases writes with leaves | ⟨rule, fits, rfl⟩
  · rw [leaves]
    exact closing
  · rw [Request.onRules, if_pos rfl]
    rw [Azure.rulesIn] at closing
    cases present : azure.rulesOf nsg with
    | none =>
        rw [present] at closing
        exact closing
    | some rules =>
        rw [present] at closing
        exact closing.upsert included fits

theorem Closing.run {α : Type} {program : Shell α} {state : FaultyAzure}
    (closing : Closing tagged blocks done (state.2.rulesIn nsg))
    (included : ∀ block ∈ done, block ∈ blocks)
    (writes : Within (WritesFitting tagged blocks nsg) program) :
    Closing tagged blocks done ((run services program state).2.2.rulesIn nsg) := by
  apply writes.run_faulty_preserves fun azure : Azure =>
    Closing tagged blocks done (azure.rulesIn nsg)
  · exact fun request azure fitting before => Closing.handle before included fitting
  · exact closing

/-! ## The preparation -/

/-- What is assumed of a preparation: its blocks are well formed, and the
Internet tag matches no source of a rule that allows traffic, neither the block
of the sandbox nor a management network. -/
structure Apart (tagged : Text → Address → Bool)
    (cloudProviderModel : AzureCloudProviderResourceModel) (actions : List PrepareAction)
    (azure : Azure) : Prop where
  wellFormed : ∀ s ∈ subnetActions actions, ∃ cidr, Cidr.parse s.cidr = some cidr
  sandbox : ∀ cidr, networkCidr actions = .ok cidr → ¬ Meets tagged cidr internet
  additional : ∀ network ∈ cloudProviderModel.additionalMgmtNetworks,
    ¬ Meets tagged network internet
  management : ∀ cidr, NetworkService.firstAddressPrefix (NetworkService.getVirtualNetworkByTag
    (azure.virtualNetworks cloudProviderModel.managementGroupName)
    NetworkService.networkTypeTagName NetworkService.mgmtNetworkTagValue) = .ok cidr →
      ¬ Meets tagged cidr internet

theorem fits_atPriority {rule : IsolationRule} (named : rule.name ≠ [])
    (spares : rule.access = .deny ∨ ¬ Meets tagged rule.source internet)
    (ofName : ∀ block ∈ blocks, rule.name = denyInternetRuleName block →
      rule = denyInternet block) (priority : Int) :
    Fits tagged blocks (rule.atPriority priority) where
  spares := spares.imp_right Or.inl
  ofName := by
    intro block member sameName
    have isNamed : (rule.atPriority priority).name = rule.name :=
      anyTrafficRule_name _ _ _ priority named
    exact ⟨priority, ofName block member (isNamed.symm.trans sameName) ▸ rfl⟩

/-- An isolation rule that allows traffic fits if its source does not. -/
theorem fits_of_allows {rule : IsolationRule} {rest : Text} (named : rule.name = 'A' :: rest)
    (apart : ¬ Meets tagged rule.source internet) (priority : Int) :
    Fits tagged blocks (rule.atPriority priority) := by
  apply fits_atPriority
  · simp [named]
  · exact Or.inr apart
  · intro block _ sameName
    have letters : 'A' = 'D' := (List.cons.inj (named.symm.trans sameName)).1
    exact absurd letters (by decide)

theorem fits_denyInternet (wellFormed : ∀ block ∈ blocks, ∃ cidr, Cidr.parse block = some cidr)
    {block : Text} (member : block ∈ blocks) (priority : Int) :
    Fits tagged blocks ((denyInternet block).atPriority priority) := by
  apply fits_atPriority (List.cons_ne_nil _ _) (Or.inl rfl)
  intro other otherMem sameName
  rcases wellFormed block member with ⟨cidr, parsed⟩
  rcases wellFormed other otherMem with ⟨otherCidr, otherParsed⟩
  have sameDashed : (CidrText.mk block cidr parsed).dashed =
      (CidrText.mk other otherCidr otherParsed).dashed := List.append_cancel_left sameName
  have same : block = other := CidrText.text_eq_of_dashed_eq sameDashed
  rw [same]

theorem fits_denyOtherSandboxes (sandboxVnetCidr sandboxCidr : Text) (priority : Int) :
    Fits tagged blocks ((denyOtherSandboxes sandboxVnetCidr sandboxCidr).atPriority priority) := by
  apply fits_atPriority (List.cons_ne_nil _ _) (Or.inl rfl)
  intro block _ sameName
  have letters : some 'T' = some 'I' := congrArg (·[5]?) sameName
  exact absurd letters (by decide)

/-- The creation of an isolation rule that fits writes fitting rules only. -/
theorem createIsolationRule_writes (rule : IsolationRule) {lock : LockName}
    {startFrom : Option Int} (fits : ∀ priority, Fits tagged blocks (rule.atPriority priority)) :
    Within (WritesFitting tagged blocks nsg) (createNetworkSecurityGroupRules nsg
      [anyTrafficRule rule.access rule.name] rule.destination lock startFrom rule.source) := by
  apply Within.mono (createNetworkSecurityGroupRules_within lock startFrom)
  rintro request (rfl | ⟨ruleData, member, priority, rfl⟩)
  · exact Or.inl fun _ => rfl
  · rcases List.mem_singleton.mp member with rfl
    exact Or.inr ⟨_, fits priority, rfl⟩

/-- A created isolation rule is there. -/
theorem present_of_createIsolationRule (rule : IsolationRule) {lock : LockName}
    {startFrom : Option Int} {state finished : FaultyAzure}
    (success : run services (createNetworkSecurityGroupRules nsg
      [anyTrafficRule rule.access rule.name] rule.destination lock startFrom rule.source) state =
        (.ok (), finished)) :
    ∃ priority, rule.atPriority priority ∈ finished.2.rulesIn nsg := by
  rcases run_retry_eq_ok success with ⟨start, success⟩
  rw [run_withLock] at success
  rcases run_bind_eq_ok success with ⟨_, listed, _, success⟩
  rw [createRules] at success
  split at success
  · rename_i priority after _
    rcases run_bind_eq_ok success with ⟨_, between, created, success⟩
    cases success
    rcases run_retry_eq_ok created with ⟨last, created⟩
    have answered := run_services_of_ok created
    cases present : last.2.rulesOf nsg with
    | none =>
        have failed := congrArg Prod.fst answered
        simp only [Azure.handle, present] at failed
        cases failed
    | some rules =>
        refine ⟨priority, ?_⟩
        rw [Azure.rulesIn, ← congrArg Prod.snd answered, Azure.rulesOf_handle, Request.onRules,
          if_pos rfl, present]
        exact Store.mem_upsert_self _ _
  · cases success

/-- The loop over the private subnets closes their blocks one by one. -/
theorem closing_of_denyInternets
    (wellFormed : ∀ block ∈ blocks, ∃ cidr, Cidr.parse block = some cidr)
    {privateSubnets : List PrepareSubnet} {lock : LockName} {startFrom : Option Int}
    (privateMem : ∀ p ∈ privateSubnets, p.cidr ∈ blocks)
    (included : ∀ block ∈ done, block ∈ blocks) {state finished : FaultyAzure}
    (closing : Closing tagged blocks done (state.2.rulesIn nsg))
    (success : run services (forEach privateSubnets fun p => createNetworkSecurityGroupRules nsg
      [denyAllRule (denyInternetRuleName p.cidr)] p.cidr lock startFrom internet) state =
        (.ok (), finished)) :
    Closing tagged blocks (done ++ privateSubnets.map PrepareSubnet.cidr)
      (finished.2.rulesIn nsg) := by
  induction privateSubnets generalizing done state with
  | nil =>
      cases success
      simpa using closing
  | cons p rest ih =>
      rcases run_bind_eq_ok success with ⟨_, between, created, success⟩
      have pMem : p.cidr ∈ blocks := privateMem p List.mem_cons_self
      have writes : Within (WritesFitting tagged blocks nsg) (createNetworkSecurityGroupRules nsg
          [denyAllRule (denyInternetRuleName p.cidr)] p.cidr lock startFrom internet) :=
        createIsolationRule_writes (denyInternet p.cidr) (fits_denyInternet wellFormed pMem)
      have kept := closing.run included writes
      rw [created] at kept
      obtain ⟨priority, present⟩ : ∃ priority,
          (denyInternet p.cidr).atPriority priority ∈ between.2.rulesIn nsg :=
        present_of_createIsolationRule (denyInternet p.cidr) created
      have closed : Closing tagged blocks (done ++ [p.cidr]) (between.2.rulesIn nsg) := by
        constructor
        · exact kept.fits
        · intro block isDone
          rcases List.mem_append.mp isDone with before | isBlock
          · exact kept.denied block before
          · rw [List.mem_singleton.mp isBlock]
            exact ⟨priority, present⟩
      have includedNext : ∀ block ∈ done ++ [p.cidr], block ∈ blocks := by
        intro block isDone
        rcases List.mem_append.mp isDone with before | isBlock
        · exact included block before
        · rw [List.mem_singleton.mp isBlock]
          exact pMem
      have later := ih (fun other member => privateMem other (List.mem_cons_of_mem p member))
        includedNext closed success
      rwa [List.append_assoc] at later

/-- The isolation rules close the private subnets. -/
theorem closing_of_createIsolationRules {managementVnetCidr sandboxVnetCidr sandboxCidr : Text}
    {additionalMgmtNetworks : List Text} {actions : List PrepareAction}
    {state finished : FaultyAzure}
    (wellFormed : ∀ s ∈ subnetActions actions, ∃ cidr, Cidr.parse s.cidr = some cidr)
    (sandbox : ¬ Meets tagged sandboxCidr internet)
    (additional : ∀ network ∈ additionalMgmtNetworks, ¬ Meets tagged network internet)
    (management : ¬ Meets tagged managementVnetCidr internet)
    (noRules : state.2.rulesIn nsg = [])
    (success : run services (createIsolationRules managementVnetCidr sandboxVnetCidr sandboxCidr
      nsg additionalMgmtNetworks (subnetActions actions)) state = (.ok (), finished)) :
    Closing tagged (privateBlocks actions) (privateBlocks actions) (finished.2.rulesIn nsg) := by
  have blocksWellFormed : ∀ block ∈ privateBlocks actions, ∃ cidr, Cidr.parse block = some cidr := by
    intro block member
    rcases List.mem_map.mp member with ⟨s, isPrivate, rfl⟩
    exact wellFormed s (List.mem_filter.mp isPrivate).1
  have none_done : ∀ block ∈ ([] : List Text), block ∈ privateBlocks actions := by simp
  have all_done : ∀ block ∈ privateBlocks actions, block ∈ privateBlocks actions :=
    fun _ member => member
  have started : Closing tagged (privateBlocks actions) [] (state.2.rulesIn nsg) := by
    rw [noRules]
    constructor <;> simp
  rcases run_bind_eq_ok success with ⟨_, first, allowed, success⟩
  rcases run_bind_eq_ok success with ⟨_, second, denied, success⟩
  have allows : Within (WritesFitting tagged (privateBlocks actions) nsg)
      (forEach (subnetActions actions) fun s => createNetworkSecurityGroupRules nsg
        [allowAllRule (allowSandboxRuleName s.cidr)] s.cidr .subnetLocker (some 2000)
        sandboxCidr) := by
    apply Within.forEach
    intro s _
    exact createIsolationRule_writes (allowSandbox sandboxCidr s.cidr) (fits_of_allows rfl sandbox)
  have opened := started.run none_done allows
  rw [allowed] at opened
  have closed := closing_of_denyInternets blocksWellFormed
    (fun p member => List.mem_map_of_mem member) none_done opened denied
  have rest : Within (WritesFitting tagged (privateBlocks actions) nsg) (do
      forEach additionalMgmtNetworks fun a => createNetworkSecurityGroupRules nsg
        [allowAllRule (allowNetworkRuleName a sandboxCidr)] sandboxCidr .subnetLocker
        (some 4000) a
      createNetworkSecurityGroupRules nsg
        [allowAllRule (allowNetworkRuleName managementVnetCidr sandboxCidr)] sandboxCidr
        .subnetLocker (some 4080) managementVnetCidr
      createNetworkSecurityGroupRules nsg [denyAllRule denyOtherSandboxesRuleName] sandboxCidr
        .subnetLocker (some 4090) sandboxVnetCidr) := by
    apply Within.bind
    · apply Within.forEach
      intro a member
      exact createIsolationRule_writes (allowNetwork 4000 sandboxCidr a)
        (fits_of_allows rfl (additional a member))
    intro _
    apply Within.bind
    · exact createIsolationRule_writes (allowNetwork 4080 sandboxCidr managementVnetCidr)
        (fits_of_allows rfl management)
    · intro _
      exact createIsolationRule_writes (denyOtherSandboxes sandboxVnetCidr sandboxCidr)
        (fits_denyOtherSandboxes sandboxVnetCidr sandboxCidr)
  have kept := closed.run all_done rest
  rwa [success] at kept

theorem rulesIn_of_leavesRules {α : Type} {program : Shell α} (leaves : Within LeavesRules program)
    (state : FaultyAzure) (group : Text) :
    (run services program state).2.2.rulesIn group = state.2.rulesIn group := by
  apply leaves.run_faulty_preserves fun azure : Azure =>
    azure.rulesIn group = state.2.rulesIn group
  · intro request azure leavesRules same
    have sameRules := Azure.rulesOf_handle false request azure group
    rw [leavesRules] at sameRules
    exact (congrArg (·.getD []) sameRules).trans same
  · rfl

/-- The networks are listed as they were at the start. -/
theorem virtualNetworks_of_started {resourceGroup notCancelled : Unit}
    {state grouped checked : FaultyAzure}
    (group : run services (retryConnection (send (.external .resourceGroup))) state =
      (.ok resourceGroup, grouped))
    (check : run services CommandCancellationService.checkIfCancelled grouped =
      (.ok notCancelled, checked)) :
    checked.2.virtualNetworks = state.2.virtualNetworks := by
  have groupLeaves : Within LeavesNetworks
      (retryConnection (send (.external .resourceGroup))) :=
    Within.retry (within_perform fun _ => rfl) 4
  have checkLeaves : Within LeavesNetworks CommandCancellationService.checkIfCancelled := by
    apply Within.bind (within_perform fun _ => rfl)
    intro isCancelled
    split <;> trivial
  have first := virtualNetworks_of_leaves groupLeaves state
  rw [group] at first
  have second := virtualNetworks_of_leaves checkLeaves grouped
  rw [check] at second
  exact second.trans first

/-- A new group has no rules. -/
theorem rulesIn_of_created {u : Unit} {state empty : FaultyAzure}
    (created : run services (createNetworkSecurityGroup nsg) state = (.ok u, empty)) :
    empty.2.rulesIn nsg = [] := by
  rcases run_retry_eq_ok created with ⟨start, put⟩
  rw [Azure.rulesIn, ← congrArg Prod.snd (run_services_of_ok put), Azure.rulesOf_handle,
    Request.onRules, if_pos rfl]
  rfl

/-- The management block of a preparation is apart from the Internet. -/
theorem Apart.of_validateManagementVnet {cloudProviderModel : AzureCloudProviderResourceModel}
    {actions : List PrepareAction} {azure : Azure} {managementVnet : VirtualNetwork}
    {managementVnetCidr : Text} (apart : Apart tagged cloudProviderModel actions azure)
    (valid : validateManagementVnet (NetworkService.getVirtualNetworkByTag
      (azure.virtualNetworks cloudProviderModel.managementGroupName)
      NetworkService.networkTypeTagName NetworkService.mgmtNetworkTagValue) = .ok managementVnet)
    (firstPrefix : NetworkService.firstAddressPrefix (some managementVnet) =
      .ok managementVnetCidr) : ¬ Meets tagged managementVnetCidr internet := by
  apply apart.management
  unfold validateManagementVnet at valid
  split at valid
  · rename_i network found
    cases valid
    rw [found]
    exact firstPrefix
  · cases valid

/-- A preparation that ends well closes the private subnets. -/
theorem closing_of_prepareConnectivity {cloudProviderModel : AzureCloudProviderResourceModel}
    {reservationId : Text} {actions : List PrepareAction} {results : List PrepareActionResult}
    {state finished : FaultyAzure} (apart : Apart tagged cloudProviderModel actions state.2)
    (success : run services (prepareConnectivity cloudProviderModel reservationId actions) state =
      (.ok results, finished)) :
    Closing tagged (privateBlocks actions) (privateBlocks actions)
      (finished.2.rulesIn (getSubnetsNsgName reservationId)) := by
  have all_done : ∀ block ∈ privateBlocks actions, block ∈ privateBlocks actions :=
    fun _ member => member
  have leaves : ∀ {α : Type} {program : Shell α}, Within LeavesRules program →
      Within (WritesFitting tagged (privateBlocks actions) (getSubnetsNsgName reservationId))
        program :=
    fun within => within.mono fun _ leavesRules => Or.inl (leavesRules _)
  rcases run_bind_eq_ok success with ⟨cidr, _, isCidr, success⟩
  have cidrFound : networkCidr actions = .ok cidr := congrArg Prod.fst isCidr
  cases congrArg Prod.snd isCidr
  rcases run_bind_eq_ok success with ⟨_, grouped, group, success⟩
  rcases run_bind_eq_ok success with ⟨_, checked, check, success⟩
  rcases run_bind_eq_ok success with ⟨virtualNetworks, _, listed, success⟩
  have isListed := networks_of_getVirtualNetworks listed
  rw [virtualNetworks_of_started group check] at isListed
  rcases run_bind_eq_ok success with ⟨_, _, _, success⟩
  rcases run_bind_eq_ok success with ⟨managementVnet, _, valid, success⟩
  rcases run_bind_eq_ok success with ⟨sandboxVnet, _, _, success⟩
  rcases run_bind_eq_ok success with ⟨_, empty, created, success⟩
  rcases run_bind_eq_ok success with ⟨_, ready, again, success⟩
  have stillEmpty : ready.2.rulesIn (getSubnetsNsgName reservationId) = [] := by
    have sameRules := rulesIn_of_leavesRules checkIfCancelled_leavesRules empty
    rw [again] at sameRules
    exact (sameRules _).trans (rulesIn_of_created created)
  rcases run_bind_eq_ok success with ⟨_, written, rulesRun, success⟩
  rcases run_bind_eq_ok rulesRun with ⟨managementVnetCidr, _, isManagement, rulesRun⟩
  cases congrArg Prod.snd isManagement
  rcases run_bind_eq_ok rulesRun with ⟨sandboxVnetCidr, _, isSandbox, rulesRun⟩
  cases congrArg Prod.snd isSandbox
  have isValid := congrArg Prod.fst valid
  rw [isListed] at isValid
  have management : ¬ Meets tagged managementVnetCidr internet :=
    apart.of_validateManagementVnet isValid (congrArg Prod.fst isManagement)
  have closing := closing_of_createIsolationRules apart.wellFormed (apart.sandbox cidr cidrFound)
    apart.additional management stillEmpty rulesRun
  have kept := closing.run all_done (leaves (finishPreparation_leavesRules
    cloudProviderModel.managementGroupName reservationId sandboxVnet actions))
  rwa [success] at kept

end PrepareSandboxInfraOperation

namespace DeployAzureVMOperation

open PrepareSandboxInfraOperation

variable {tagged : Text → Address → Bool} {blocks : List Text} {request : DeployRequest}
  {data : DeployDataModel} {entries : List RuleData} {state finished : FaultyAzure}

/-! ## Deployments -/

/-- No address an interface of the deployment may get lies in the blocks. -/
def AvoidsBlocks (tagged : Text → Address → Bool) (blocks : List Text)
    (nicRequests : List NicRequest) (azure : Azure) : Prop :=
  ∀ nicRequest ∈ nicRequests, ∀ address,
    azure.MayAssign nicRequest.interfaceName nicRequest.subnet address →
      ∀ block ∈ blocks, ¬ Meets tagged address block

/-- The deployment opens no inbound ports, or none of its interfaces may get an
address in the blocks. -/
def KeepsClosed (tagged : Text → Address → Bool) (blocks : List Text) (request : DeployRequest)
    (azure : Azure) : Prop :=
  RulesAttributeParser.parsePortGroupAttribute request.deploymentModel.inboundPorts = .ok [] ∨
    AvoidsBlocks tagged blocks (requestedInterfaces request azure) azure

/-- Parts of a deployment that open no inbound ports keep the closing. -/
theorem closing_of_builds {α : Type} {program : Shell α} {outcome : Except PyException α}
    (ran : run services program state = (outcome, finished))
    (builds : BuildsOnly (PlansWith data []) program)
    (different : vmNsgName data.vmName ≠ getSubnetsNsgName data.reservationId)
    (closing : Closing tagged blocks blocks
      (state.2.rulesIn (getSubnetsNsgName data.reservationId))) :
    Closing tagged blocks blocks
      (finished.2.rulesIn (getSubnetsNsgName data.reservationId)) := by
  apply closing.congr
  intro rule
  have same := sameOthers_run builds different state rule
  rw [ran] at same
  apply same
  rintro ⟨_, none, _⟩
  cases none

/-- A rule for inbound ports fits if its destination lies in no block. -/
theorem fits_inbound (wellFormed : ∀ block ∈ blocks, ∃ cidr, Cidr.parse block = some cidr)
    {vmName address : Text} {ruleData : InboundRule}
    (member : ruleData ∈ namedInboundRules vmName entries)
    (outside : ∀ block ∈ blocks, ¬ Meets tagged address block) (priority : Int) :
    Fits tagged blocks (prepareSecurityGroupRule ruleData address priority internet) where
  spares := Or.inr (Or.inr outside)
  ofName := by
    intro block blockMem sameName
    rcases mem_namedInboundRules member priority with ⟨entry, _, named, _⟩
    have colon : ':' ∈ denyInternetRuleName block := by
      rw [← sameName]
      change ':' ∈ nameAt ruleData priority
      rw [named]
      simp [inboundPortsRuleName]
    rcases wellFormed block blockMem with ⟨cidr, parsed⟩
    have noColon : ':' ∉ (CidrText.mk block cidr parsed).dashed :=
      CidrText.not_mem_dashed (by decide) (by decide) (by decide)
    rcases List.mem_append.mp colon with inMark | inBlock
    · exact absurd inMark (by decide)
    · exact absurd inBlock noColon

/-- An interface keeps the closing, unless it opens ports in one of the blocks. -/
theorem closing_of_createNetwork
    (wellFormed : ∀ block ∈ blocks, ∃ cidr, Cidr.parse block = some cidr)
    (different : vmNsgName data.vmName ≠ getSubnetsNsgName data.reservationId)
    {nicRequest : Option NicRequest} (member : nicRequest ∈ data.nicRequests)
    (keeps : entries = [] ∨ AvoidsBlocks tagged blocks (data.nicRequests.filterMap id) state.2)
    (closing : Closing tagged blocks blocks
      (state.2.rulesIn (getSubnetsNsgName data.reservationId))) {nic : NetworkInterface}
    (success : run services (createNetwork request data entries nicRequest) state =
      (.ok nic, finished)) :
    Closing tagged blocks blocks
      (finished.2.rulesIn (getSubnetsNsgName data.reservationId)) := by
  cases nicRequest with
  | none => cases success
  | some wanted =>
      rw [createNetwork, nicRequestOf, run_ofExcept_bind_of_ok rfl] at success
      rcases run_bind_eq_ok success with ⟨created, between, networkRun, success⟩
      have afterNetwork := closing_of_builds networkRun (createNetworkForVm_builds member _ _ _ _)
        different closing
      obtain ⟨address, hasAddress, mayAssign⟩ :=
        NetworkService.hasAddress_of_createNetworkForVm networkRun
      rcases run_bind_eq_ok success with ⟨ipConfiguration, _, first, success⟩
      cases congrArg Prod.snd first
      have isAddress : ipConfiguration.privateIpAddress = address := by
        rcases hasAddress with ⟨other, isFirst, isAddress⟩
        have sameFirst := isFirst.symm.trans (congrArg Prod.fst first)
        cases sameFirst
        exact isAddress
      rcases run_bind_eq_ok success with ⟨_, recorded, record, success⟩
      have afterRecord := closing_of_builds record (BuildsOnly.read rfl rfl) different afterNetwork
      rcases run_bind_eq_ok success with ⟨_, written, rules, success⟩
      cases success
      have writes : Within (WritesFitting tagged blocks (getSubnetsNsgName data.reservationId))
          (createNetworkSecurityGroupRules (getSubnetsNsgName data.reservationId)
            (namedInboundRules data.vmName entries) ipConfiguration.privateIpAddress
            (.resource (getSubnetsNsgName data.reservationId)) (some 1000)) := by
        apply Within.mono (createNetworkSecurityGroupRules_within _ _)
        rintro sent (rfl | ⟨ruleData, ruleMem, priority, rfl⟩)
        · exact Or.inl fun _ => rfl
        · refine Or.inr ⟨_, fits_inbound wellFormed ruleMem ?_ priority, rfl⟩
          rcases keeps with rfl | avoids
          · cases ruleMem
          · rw [isAddress]
            exact avoids wanted (List.mem_filterMap.mpr ⟨_, member, rfl⟩) address mayAssign
      have kept := afterRecord.run (fun _ isBlock => isBlock) writes
      rwa [rules] at kept

theorem AvoidsBlocks.later {nicRequests : List NicRequest} {before after : Azure}
    (avoids : AvoidsBlocks tagged blocks nicRequests before) (same : SameAddresses before after) :
    AvoidsBlocks tagged blocks nicRequests after :=
  fun nicRequest member address mayAssign =>
    avoids nicRequest member address (same.mayAssign mayAssign)

/-- So does the loop over the interfaces. -/
theorem closing_of_createNetworks
    (wellFormed : ∀ block ∈ blocks, ∃ cidr, Cidr.parse block = some cidr)
    (different : vmNsgName data.vmName ≠ getSubnetsNsgName data.reservationId)
    {nicRequests : List (Option NicRequest)}
    (included : ∀ nicRequest ∈ nicRequests, nicRequest ∈ data.nicRequests)
    (keeps : entries = [] ∨ AvoidsBlocks tagged blocks (data.nicRequests.filterMap id) state.2)
    (closing : Closing tagged blocks blocks
      (state.2.rulesIn (getSubnetsNsgName data.reservationId))) {nics : List NetworkInterface}
    (success : run services (collect nicRequests (createNetwork request data entries)) state =
      (.ok nics, finished)) :
    Closing tagged blocks blocks
      (finished.2.rulesIn (getSubnetsNsgName data.reservationId)) := by
  induction nicRequests generalizing nics state with
  | nil =>
      cases success
      exact closing
  | cons nicRequest rest ih =>
      rcases run_bind_eq_ok success with ⟨nic, between, first, success⟩
      rcases run_bind_eq_ok success with ⟨later, left, others, success⟩
      cases success
      have afterFirst := closing_of_createNetwork wellFormed different
        (included nicRequest List.mem_cons_self) keeps closing first
      have same := sameAddresses_run (createNetwork request data entries nicRequest) state
      rw [first] at same
      exact ih (fun other member => included other (List.mem_cons_of_mem nicRequest member))
        (keeps.imp_right fun avoids => avoids.later same) afterFirst others

theorem closing_of_createVmCommonObjects
    (wellFormed : ∀ block ∈ blocks, ∃ cidr, Cidr.parse block = some cidr)
    (different : vmNsgName data.vmName ≠ getSubnetsNsgName data.reservationId)
    (keeps : RulesAttributeParser.parsePortGroupAttribute
        request.deploymentModel.inboundPorts = .ok [] ∨
      AvoidsBlocks tagged blocks (data.nicRequests.filterMap id) state.2)
    (closing : Closing tagged blocks blocks
      (state.2.rulesIn (getSubnetsNsgName data.reservationId))) {nics : List NetworkInterface}
    (success : run services (createVmCommonObjects request data) state = (.ok nics, finished)) :
    Closing tagged blocks blocks
      (finished.2.rulesIn (getSubnetsNsgName data.reservationId)) := by
  rcases run_bind_eq_ok success with ⟨_, grouped, group, success⟩
  have afterGroup := closing_of_builds group createVmNetworkSecurityGroup_builds different closing
  have sameGrouped := sameAddresses_run (createVmNetworkSecurityGroup request.cloudProviderModel
    data request.deploymentModel) state
  rw [group] at sameGrouped
  rcases run_bind_eq_ok success with ⟨inboundRules, _, parsed, success⟩
  cases congrArg Prod.snd parsed
  rcases run_bind_eq_ok success with ⟨_, locked, lock, success⟩
  have afterLock := closing_of_builds lock (BuildsOnly.read rfl rfl) different afterGroup
  have sameLocked := sameAddresses_run
    (send (.getResourceLock (getSubnetsNsgName data.reservationId))) grouped
  rw [lock] at sameLocked
  rcases run_bind_eq_ok success with ⟨created, between, loop, success⟩
  have keepsLater : inboundRules = [] ∨
      AvoidsBlocks tagged blocks (data.nicRequests.filterMap id) locked.2 := by
    rcases keeps with noPorts | avoids
    · have same := noPorts.symm.trans (congrArg Prod.fst parsed)
      exact Or.inl (Except.ok.inj same).symm
    · exact Or.inr (avoids.later (sameGrouped.trans sameLocked))
  have afterLoop := closing_of_createNetworks wellFormed different (fun _ member => member)
    keepsLater afterLock loop
  have rest : BuildsOnly (PlansWith data []) (do
      VMCredentialsService.prepareCredentials request.createVmAction.osType
        request.deploymentModel.password
      CommandCancellationService.checkIfCancelled
      pure created) := by
    apply Within.bind
    · apply Within.when
      intro _
      exact Within.retry (BuildsOnly.read rfl rfl) 4
    · intro _
      exact BuildsOnly.checkIfCancelled.bind fun _ => trivial
  exact closing_of_builds success rest different afterLoop

/-- A deployment that ends well keeps the private subnets of its sandbox closed,
unless it opens ports in one of them. -/
theorem closing_of_deployVmGeneric
    (wellFormed : ∀ block ∈ blocks, ∃ cidr, Cidr.parse block = some cidr)
    (keeps : KeepsClosed tagged blocks request state.2)
    (closing : Closing tagged blocks blocks
      (state.2.rulesIn (getSubnetsNsgName request.reservationId))) {result : DeployAppResult}
    (success : run services (deployVmGeneric request) state = (.ok result, finished)) :
    Closing tagged blocks blocks
      (finished.2.rulesIn (getSubnetsNsgName request.reservationId)) := by
  obtain ⟨data, prepared, block, left, preparedRun, blockRun, success⟩ :=
    phases_of_deployVmGeneric success
  have found := preparation_found preparedRun
  have different : vmNsgName data.vmName ≠ getSubnetsNsgName data.reservationId :=
    vmNsgName_ne_getSubnetsNsgName (preparation_prepared preparedRun).isGenerated
  rw [← found.reservationId] at closing ⊢
  have same := sameAddresses_run (preparation request) state
  rw [preparedRun] at same
  have afterPreparation := closing_of_builds preparedRun preparation_builds different closing
  rcases run_bind_eq_ok blockRun with ⟨nics, common, commonRun, rest⟩
  have keepsData : RulesAttributeParser.parsePortGroupAttribute
        request.deploymentModel.inboundPorts = .ok [] ∨
      AvoidsBlocks tagged blocks (data.nicRequests.filterMap id) prepared.2 := by
    rcases keeps with noPorts | avoids
    · exact Or.inl noPorts
    · right
      intro nicRequest member address mayAssign
      rw [← found.requestedInterfaces_eq] at member
      exact avoids nicRequest member address (same.mayAssign mayAssign)
  have afterCommon := closing_of_createVmCommonObjects wellFormed different keepsData
    afterPreparation commonRun
  have machine : PlansWith data [] (.virtualMachine data.vmName) := rfl
  have restBuilds : BuildsOnly (PlansWith data []) (do
      let vm ← (createVmAction request data nics).catching fun e =>
        raise (expandCloudErrorMessage request.deploymentModel.diskType e)
      CommandCancellationService.checkIfCancelled
      let timeout ← (do
        createVmCustomScriptExtension request data
        pure none).catching scriptTimeout
      pure (vm, timeout)) := by
    apply Within.bind
    · apply Within.catching (createVmAction_builds machine nics)
      intro e
      trivial
    intro vm
    apply Within.bind BuildsOnly.checkIfCancelled
    intro _
    exact extension_builds.bind fun _ => trivial
  have afterTry := closing_of_builds rest restBuilds different afterCommon
  exact closing_of_builds success (afterBlock_builds _ block) different afterTry

/-! ## Runs -/

/-- A deployment in a sandbox that ends well, whichever of its calls failed and
were repeated.  Since the state before, anything but the rules of the subnets'
group may have changed. -/
def DeploysTo (allowed : DeployRequest → Azure → Prop) (reservationId : Text)
    (before after : Azure) : Prop :=
  ∃ meanwhile request result fates left,
    meanwhile.rulesIn (getSubnetsNsgName reservationId) =
        before.rulesIn (getSubnetsNsgName reservationId) ∧
      request.reservationId = reservationId ∧ allowed request meanwhile ∧
        run services (deployVmGeneric request) (fates, meanwhile) = (.ok result, left, after)

/-- The private subnets of a prepared sandbox stay closed to the Internet
throughout deployments that open no inbound ports in them. -/
theorem private_subnets_stay_closed {cloudProviderModel : AzureCloudProviderResourceModel}
    {reservationId : Text} {actions : List PrepareAction} {results : List PrepareActionResult}
    {prepared : FaultyAzure} {after : Azure}
    (apart : Apart tagged cloudProviderModel actions state.2)
    (success : run services (prepareConnectivity cloudProviderModel reservationId actions) state =
      (.ok results, prepared))
    (deployments : Relation.ReflTransGen
      (DeploysTo (KeepsClosed tagged (privateBlocks actions)) reservationId) prepared.2 after) :
    ClosedToInternet tagged (privateBlocks actions)
      (after.rulesIn (getSubnetsNsgName reservationId)) := by
  have wellFormed : ∀ block ∈ privateBlocks actions, ∃ cidr, Cidr.parse block = some cidr := by
    intro block member
    rcases List.mem_map.mp member with ⟨s, isPrivate, rfl⟩
    exact apart.wellFormed s (List.mem_filter.mp isPrivate).1
  apply Closing.closedToInternet
  induction deployments with
  | refl => exact closing_of_prepareConnectivity apart success
  | tail _ step ih =>
      rcases step with ⟨meanwhile, request, result, fates, left, sameRules, rfl, keeps, deployed⟩
      have closing : Closing tagged (privateBlocks actions) (privateBlocks actions)
          (meanwhile.rulesIn (getSubnetsNsgName request.reservationId)) := sameRules ▸ ih
      exact closing_of_deployVmGeneric wellFormed keeps closing deployed

/-! ## A port on a private subnet -/

/-- A sandbox with a public and a private half. -/
def halfPrivateActions : List PrepareAction :=
  [networkAction, lowerHalf, .prepareSubnet "upper".toList ⟨"10.0.1.128/25".toList, false⟩,
    .createKeys "keys".toList]

/-- A management group where new interfaces get an address of the upper half. -/
def upperAddresses : FaultyAzure :=
  ([], { twoNetworks with dynamicIp := fun _ => "10.0.1.132".toList })

def tenBlock : Cidr :=
  (Cidr.parse "10.0.0.0/8".toList).get (by decide)

/-- The Internet is what lies outside the private addresses. -/
def outsideTen (tag : Text) (address : Address) : Bool :=
  tag = internet && !tenBlock.contains address

/-- A block of private addresses is apart from the Internet. -/
theorem not_meets_outsideTen {text : Text} (cidr : Cidr) (parsed : Cidr.parse text = some cidr)
    (longer : tenBlock.length ≤ cidr.length) (base : tenBlock.contains cidr.address = true) :
    ¬ Meets outsideTen text internet := by
  rintro ⟨address, inBlock, inInternet⟩
  rw [addressPrefixCovers_cidr parsed] at inBlock
  rw [addressPrefixCovers_internet] at inInternet
  simp [outsideTen, Cidr.contains_of_contains longer base inBlock] at inInternet

/-- A machine on a subnet of the sandbox, with inbound ports. -/
def subnetRequest (subnetCidr inboundPorts : Text) : DeployRequest :=
  { webRequest with
    deploymentModel :=
      { webRequest.deploymentModel with
        addPublicIp := false
        inboundPorts := inboundPorts
        networkConfigurations :=
          [⟨formatSubnetName "r1".toList subnetCidr, [⟨"Public".toList, "False".toList⟩], []⟩] }
    cloudProviderModel := plainProvider }

abbrev halfPrivate : Except PyException (List PrepareActionResult) × FaultyAzure :=
  run services (prepareConnectivity plainProvider "r1".toList halfPrivateActions) upperAddresses

theorem apart_halfPrivate :
    Apart outsideTen plainProvider halfPrivateActions upperAddresses.2 where
  wellFormed := by
    have parses : ∀ s ∈ subnetActions halfPrivateActions, (Cidr.parse s.cidr).isSome := by decide
    exact fun s member => Option.isSome_iff_exists.mp (parses s member)
  sandbox := by
    intro cidr isCidr
    have isBlock : networkCidr halfPrivateActions = .ok "10.0.1.0/24".toList := by decide
    cases isBlock.symm.trans isCidr
    exact not_meets_outsideTen ⟨⟨10, 0, 1, 0⟩, 24⟩ (by decide) (by decide) (by decide)
  additional := by
    intro network member
    cases member
  management := by
    intro cidr isCidr
    cases finds_twoNetworks.management.symm.trans isCidr
    exact not_meets_outsideTen ⟨⟨10, 1, 0, 0⟩, 16⟩ (by decide) (by decide) (by decide)

/-- The half-private sandbox where new interfaces get an address of the lower
half. -/
def lowerAddresses : FaultyAzure :=
  ([], { halfPrivate.2.2 with dynamicIp := fun _ => "10.0.1.4".toList })

abbrev lowerRun : Except PyException DeployAppResult × FaultyAzure :=
  run services (deployVmGeneric (subnetRequest "10.0.1.0/25".toList "80".toList)) lowerAddresses

abbrev upperRun : Except PyException DeployAppResult × FaultyAzure :=
  run services (deployVmGeneric (subnetRequest "10.0.1.128/25".toList "80".toList)) halfPrivate.2

theorem lowerRun_keepsClosed : KeepsClosed outsideTen (privateBlocks halfPrivateActions)
    (subnetRequest "10.0.1.0/25".toList "80".toList) lowerAddresses.2 := by
  right
  intro nicRequest _ address mayAssign block isBlock
  have isAddress : address = "10.0.1.4".toList := by
    rcases mayAssign with dynamic | fromPool
    · exact dynamic
    · cases fromPool
  have isUpper : block = "10.0.1.128/25".toList := List.mem_singleton.mp isBlock
  rw [isAddress, isUpper]
  rintro ⟨shared, isShared, inUpper⟩
  have same : (⟨10, 0, 1, 4⟩ : Address) = shared :=
    addressPrefixCovers_address (by decide) (by decide) isShared
  rw [← same] at inUpper
  revert inUpper
  decide

/-- A port on the public half leaves the private half closed. -/
theorem private_subnets_stay_closed_example :
    ClosedToInternet outsideTen (privateBlocks halfPrivateActions)
      (lowerRun.2.2.rulesIn (getSubnetsNsgName "r1".toList)) := by
  obtain ⟨results, success⟩ : ∃ results, halfPrivate = (.ok results, halfPrivate.2) :=
    exists_run_eq_ok (by decide)
  obtain ⟨result, deployed⟩ : ∃ result, lowerRun = (.ok result, lowerRun.2) :=
    exists_run_eq_ok (by decide)
  apply private_subnets_stay_closed apart_halfPrivate success
  exact Relation.ReflTransGen.single
    ⟨lowerAddresses.2, _, result, [], lowerRun.2.1, rfl, rfl, lowerRun_keepsClosed, deployed⟩

/-- A port on the private half opens it. -/
theorem private_subnet_opened : ∃ results prepared after,
    halfPrivate = (.ok results, prepared) ∧
      Apart outsideTen plainProvider halfPrivateActions upperAddresses.2 ∧
        Relation.ReflTransGen (DeploysTo (fun _ _ => True) "r1".toList) prepared.2 after ∧
          ¬ ClosedToInternet outsideTen (privateBlocks halfPrivateActions)
            (after.rulesIn (getSubnetsNsgName "r1".toList)) := by
  obtain ⟨results, success⟩ : ∃ results, halfPrivate = (.ok results, halfPrivate.2) :=
    exists_run_eq_ok (by decide)
  obtain ⟨result, deployed⟩ : ∃ result, upperRun = (.ok result, upperRun.2) :=
    exists_run_eq_ok (by decide)
  refine ⟨results, halfPrivate.2, upperRun.2.2, success, apart_halfPrivate, ?_, ?_⟩
  · exact Relation.ReflTransGen.single
      ⟨halfPrivate.2.2, _, result, [], upperRun.2.1, rfl, rfl, trivial, deployed⟩
  · intro closed
    let packet : Packet := ⟨"tcp".toList, ⟨8, 8, 8, 8⟩, 50000, ⟨10, 0, 1, 132⟩, 80⟩
    have denied := closed packet (by decide) "10.0.1.128/25".toList (by decide) (by decide)
    have allowed : inboundVerdict outsideTen
        (upperRun.2.2.rulesIn (getSubnetsNsgName "r1".toList)) packet = some .allow := by
      decide
    cases denied.symm.trans allowed

end DeployAzureVMOperation

end AzureShell
