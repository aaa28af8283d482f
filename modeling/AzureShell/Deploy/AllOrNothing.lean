import AzureShell.Deploy.Rollback

/-!
# Deployments that raise

A deployment that raises before its `try` block has created nothing, and one
that raises in the block is rolled back.  It leaves something behind in two
cases only: when it raises after the block, and when its one request for an
interface found no subnet, so that the rollback stops at it, with the security
group of the machine already created.
-/

namespace AzureShell

open Prog SecurityGroupService NameProviderService

namespace DeployAzureVMOperation

variable {request : DeployRequest} {data : DeployDataModel} {σ : Type}
  {handler : Handler AzureServices σ}

/-! ## The prepared data -/

/-- What the preparation guarantees to the block. -/
structure Prepared (data : DeployDataModel) : Prop where
  isGenerated : IsGeneratedName data.vmName
  /-- A request without a subnet is the only one. -/
  alone : none ∈ data.nicRequests → data.nicRequests = [none]

theorem Prepared.noBlank (prepared : Prepared data) : ' ' ∉ data.vmName :=
  prepared.isGenerated.not_mem (by decide)

/-- Requests made of network configurations all have a subnet. -/
theorem nicRequestsFor_alone {vmName : Text} {subnets : List Subnet}
    (notFound : none ∈ nicRequestsFor request vmName subnets) :
    nicRequestsFor request vmName subnets = [none] := by
  unfold nicRequestsFor at notFound ⊢
  dsimp only at notFound ⊢
  split at notFound
  · rw [← List.mem_singleton.mp notFound]
  · rcases List.mem_filterMap.mp notFound with ⟨⟨params, i⟩, _, found⟩
    rcases Option.map_eq_some_iff.mp found with ⟨subnet, _, isSome⟩
    cases isSome

theorem prepareVmName_isGenerated {vmName : Text} (named : prepareVmName request = .ok vmName) :
    IsGeneratedName vmName := by
  unfold prepareVmName at named
  split at named
  · cases named
  · cases named
    exact ⟨_, _, _, _, request.isPostfix, rfl⟩

theorem prepareDeployData_prepared {before after : σ}
    (success : run handler (prepareDeployData request) before = (.ok data, after)) :
    Prepared data := by
  rcases run_bind_eq_ok success with ⟨_, _, _, success⟩
  rcases run_bind_eq_ok success with ⟨_, _, _, success⟩
  rcases run_bind_eq_ok success with ⟨vmName, _, named, success⟩
  rcases run_bind_eq_ok success with ⟨vmSize, _, _, success⟩
  rcases run_bind_eq_ok success with ⟨nicRequests, _, requested, success⟩
  rcases run_bind_eq_ok success with ⟨_, _, _, success⟩
  cases success
  constructor
  · exact prepareVmName_isGenerated (congrArg Prod.fst named)
  · rcases run_bind_eq_ok requested with ⟨network, _, _, requested⟩
    cases network with
    | none => cases requested
    | some network =>
        cases requested
        exact nicRequestsFor_alone

/-! ## The phases of a deployment -/

/-- What precedes the block. -/
def preparation (request : DeployRequest) : Shell DeployDataModel := do
  let data ← prepareDeployData request
  CommandCancellationService.checkIfCancelled
  pure data

theorem preparation_builds {planned : Resource → Prop} :
    BuildsOnly planned (preparation request) := by
  apply Within.bind prepareDeployData_builds
  intro data
  exact BuildsOnly.checkIfCancelled.bind fun _ => trivial

theorem preparation_prepared {before after : σ}
    (success : run handler (preparation request) before = (.ok data, after)) : Prepared data := by
  rcases run_bind_eq_ok success with ⟨_, _, prepared, success⟩
  rcases run_bind_eq_ok success with ⟨_, _, _, success⟩
  cases success
  exact prepareDeployData_prepared prepared

theorem preparation_found {state after : FaultyAzure}
    (success : run services (preparation request) state = (.ok data, after)) :
    Found request state.2 data := by
  rcases run_bind_eq_ok success with ⟨_, _, prepared, success⟩
  rcases run_bind_eq_ok success with ⟨_, _, _, success⟩
  cases success
  exact prepareDeployData_found prepared

/-- A deployment is its preparation and what follows it. -/
theorem run_deployVmGeneric (before : FaultyAzure) :
    run services (deployVmGeneric request) before =
      run services (preparation request >>= fromBlock request) before := by
  rw [deployVmGeneric_eq, preparation]
  simp only [run_bind]
  rcases run services (prepareDeployData request) before with ⟨prepared, between⟩
  cases prepared with
  | error e => rfl
  | ok data =>
      dsimp only
      rcases run services CommandCancellationService.checkIfCancelled between with ⟨check, checked⟩
      cases check <;> rfl

variable {before between after : FaultyAzure} {e : PyException}

theorem run_deployVmGeneric_of_unprepared
    (failed : run services (preparation request) before = (.error e, between)) :
    run services (deployVmGeneric request) before = (.error e, between) := by
  rw [run_deployVmGeneric]
  exact run_bind_of_error failed

theorem run_deployVmGeneric_of_ok {block : VirtualMachine × Option Text}
    (prepared : run services (preparation request) before = (.ok data, between))
    (success : run services (tryBlock request data) between = (.ok block, after)) :
    run services (deployVmGeneric request) before =
      run services (afterBlock request data (allPrivateIps request data between) block) after := by
  rw [run_deployVmGeneric, run_bind_of_ok prepared, run_fromBlock_of_ok success]

/-- A block that raises is rolled back, and the deployment raises. -/
theorem run_deployVmGeneric_of_error
    (prepared : run services (preparation request) before = (.ok data, between))
    (failed : run services (tryBlock request data) between = (.error e, after)) :
    ∃ raised, run services (deployVmGeneric request) before = (.error raised,
      (run services (rollbackDeployedResources request data (allPrivateIps request data between))
        after).2) := by
  rw [run_deployVmGeneric, run_bind_of_ok prepared, run_fromBlock_of_error failed, run_bind]
  rcases run services (rollbackDeployedResources request data _) after with ⟨outcome, left⟩
  cases outcome with
  | ok _ => exact ⟨e, rfl⟩
  | error raised => exact ⟨raised, rfl⟩

/-- A deployment that ends well went through its three phases. -/
theorem phases_of_deployVmGeneric {result : DeployAppResult}
    (success : run services (deployVmGeneric request) before = (.ok result, after)) :
    ∃ data prepared block left,
      run services (preparation request) before = (.ok data, prepared) ∧
        run services (tryBlock request data) prepared = (.ok block, left) ∧
          run services (afterBlock request data (allPrivateIps request data prepared) block) left =
            (.ok result, after) := by
  rw [run_deployVmGeneric] at success
  rcases run_bind_eq_ok success with ⟨data, prepared, preparedRun, success⟩
  cases ran : run services (tryBlock request data) prepared with
  | mk outcome left =>
  cases outcome with
  | ok block =>
      rw [run_fromBlock_of_ok ran] at success
      exact ⟨data, prepared, block, left, preparedRun, ran, success⟩
  | error e =>
      rw [run_fromBlock_of_error ran] at success
      rcases run_bind_eq_ok success with ⟨_, _, _, raised⟩
      cases raised

/-! ## The machine of a block that ends well -/

/-- The machine was created by the deployment and exists. -/
def MachineStands (vmName : Text) (azure : Azure) : Prop :=
  .virtualMachine vmName ∈ azure.created ∧ azure.Exists (.virtualMachine vmName)

section Machine

variable {α : Type} {planned : Resource → Prop} {vmName : Text} {state finished : FaultyAzure}

theorem MachineStands.run {program : Shell α} (stands : MachineStands vmName state.2)
    (builds : BuildsOnly planned program) :
    MachineStands vmName (run services program state).2.2 :=
  ⟨builds.created_grows stands.1, builds.virtualMachine_stays stands.2⟩

theorem createVm_stands {vm created : VirtualMachine}
    (success : run services (VirtualMachineService.createVm vm) state = (.ok created, finished)) :
    MachineStands vm.name finished.2 := by
  rcases run_retry_eq_ok success with ⟨_, success⟩
  rcases run_retry_eq_ok success with ⟨start, success⟩
  rcases run_bind_eq_ok success with ⟨_, put, answered, success⟩
  have isPut := congrArg Prod.snd (run_services_of_ok answered)
  have stands : MachineStands vm.name put.2 := by
    rw [← isPut]
    exact ⟨List.mem_cons_self, vm, Store.mem_upsert_self vm _, rfl⟩
  have waiting : BuildsOnly (fun _ => True)
      (TaskWaiterService.waitForTask >>= fun _ => (pure vm : Shell VirtualMachine)) :=
    TaskWaiterService.waitForTask_builds.bind fun _ => trivial
  have still := stands.run waiting
  rwa [success] at still

theorem createVmAction_stands {nics : List NetworkInterface} {created : VirtualMachine}
    (success : run services (createVmAction request data nics) state = (.ok created, finished)) :
    MachineStands data.vmName finished.2 := by
  unfold createVmAction at success
  split at success
  · rcases run_bind_eq_ok success with ⟨_, _, _, success⟩
    rcases run_bind_eq_ok success with ⟨_, _, _, success⟩
    exact createVm_stands success
  · rcases run_bind_eq_ok success with ⟨_, _, _, success⟩
    rcases run_bind_eq_ok success with ⟨_, _, _, success⟩
    rcases run_bind_eq_ok success with ⟨_, _, _, success⟩
    rcases run_bind_eq_ok success with ⟨_, _, _, success⟩
    exact createVm_stands success

/-- After a block that ends well there is a machine. -/
theorem tryBlock_stands {block : VirtualMachine × Option Text}
    (success : run services (tryBlock request data) state = (.ok block, finished)) :
    MachineStands data.vmName finished.2 := by
  rcases run_bind_eq_ok success with ⟨nics, common, _, success⟩
  rcases run_bind_eq_ok success with ⟨vm, withVm, created, success⟩
  have stands : MachineStands data.vmName withVm.2 := by
    rw [run_catching] at created
    cases action : run services (createVmAction request data nics) common with
    | mk outcome left =>
        rw [action] at created
        cases outcome with
        | ok _ =>
            cases created
            exact createVmAction_stands action
        | error e => cases created
  have rest : BuildsOnly (fun _ => True) (do
      CommandCancellationService.checkIfCancelled
      let timeout ← (do
        createVmCustomScriptExtension request data
        pure none).catching scriptTimeout
      pure (vm, timeout)) :=
    BuildsOnly.checkIfCancelled.bind fun _ => extension_builds.bind fun _ => trivial
  have still := stands.run rest
  rwa [success] at still

end Machine

/-! ## The security group of a block that raises -/

/-- Nothing was created yet, or the group was. -/
def GroupFirst (group : Text) (azure : Azure) : Prop :=
  azure.created = [] ∨ .networkSecurityGroup group ∈ azure.created

theorem createNetworkSecurityGroup_groupFirst {group : Text} {state : FaultyAzure}
    (fresh : state.2.created = []) :
    GroupFirst group (run services (createNetworkSecurityGroup group) state).2.2 := by
  let isGroup := fun resource => resource = Resource.networkSecurityGroup group
  have request : BuildsOnly isGroup (send (.putNetworkSecurityGroup group)) :=
    BuildsOnly.write rfl rfl rfl
  have put : BuildsOnly isGroup (createNetworkSecurityGroup group) := Within.retry request 4
  have nothingBefore : ∀ resource ∈ state.2.created, isGroup resource := by simp [fresh]
  have only := put.created nothingBefore
  cases logged : (run services (createNetworkSecurityGroup group) state).2.2.created with
  | nil => exact Or.inl logged
  | cons resource rest =>
      right
      rw [logged] at only ⊢
      rw [only resource List.mem_cons_self]
      exact List.mem_cons_self

theorem createNetworkSecurityGroup_created {group : Text} {state finished : FaultyAzure}
    (success : run services (createNetworkSecurityGroup group) state = (.ok (), finished)) :
    .networkSecurityGroup group ∈ finished.2.created := by
  rcases run_retry_eq_ok success with ⟨start, success⟩
  have isPut := congrArg Prod.snd (run_services_of_ok success)
  rw [← isPut]
  exact List.mem_cons_self

section Group

variable {α β : Type} {planned : Resource → Prop} {group : Text}

/-- Started afresh, the program creates the group before anything else. -/
def OpensWith (group : Text) (program : Shell α) : Prop :=
  ∀ state : FaultyAzure, state.2.created = [] →
    GroupFirst group (run services program state).2.2 ∧
      ∀ a after, run services program state = (.ok a, after) →
        .networkSecurityGroup group ∈ after.2.created

theorem opensWith_createNetworkSecurityGroup :
    OpensWith group (createNetworkSecurityGroup group) := by
  intro state fresh
  constructor
  · exact createNetworkSecurityGroup_groupFirst fresh
  · intro _ after success
    exact createNetworkSecurityGroup_created success

/-- What follows adds to the log. -/
theorem OpensWith.bind {program : Shell α} {rest : α → Shell β} (opens : OpensWith group program)
    (builds : BuildsOnly planned (program >>= rest)) : OpensWith group (program >>= rest) := by
  intro state fresh
  rcases opens state fresh with ⟨groupFirst, created⟩
  cases first : run services program state with
  | mk outcome between =>
      rw [first] at groupFirst
      cases outcome with
      | error e =>
          rw [run_bind_of_error first]
          exact ⟨groupFirst, fun _ _ success => by cases success⟩
      | ok a =>
          have later : BuildsOnly planned (rest a) := builds.rest_of_ok first
          have logged := later.created_grows (created a between first)
          rw [run_bind_of_ok first]
          constructor
          · exact Or.inr logged
          · intro _ after success
            rwa [success] at logged

/-- What only reads may come first. -/
theorem OpensWith.afterReads {program : Shell α} {rest : α → Shell β}
    (builds : BuildsOnly planned (program >>= rest))
    (reads : BuildsOnly (fun _ => False) program)
    (later : ∀ a, BuildsOnly planned (rest a) → OpensWith group (rest a)) :
    OpensWith group (program >>= rest) := by
  intro state fresh
  have stillFresh := reads.created_eq.trans fresh
  cases first : run services program state with
  | mk outcome between =>
      rw [first] at stillFresh
      cases outcome with
      | error e =>
          rw [run_bind_of_error first]
          exact ⟨Or.inl stillFresh, fun _ _ success => by cases success⟩
      | ok a =>
          rw [run_bind_of_ok first]
          exact later a (builds.rest_of_ok first) between stillFresh

end Group

theorem createVmNetworkSecurityGroup_opensWith :
    OpensWith (vmNsgName data.vmName) (createVmNetworkSecurityGroup request.cloudProviderModel
      data request.deploymentModel) := by
  have builds : BuildsOnly (PlansWith data []) (createVmNetworkSecurityGroup
      request.cloudProviderModel data request.deploymentModel) := createVmNetworkSecurityGroup_builds
  apply OpensWith.afterReads builds (getManagementVnetCidr_builds _)
  intro managementVnetCidr builds
  apply OpensWith.afterReads builds (getSandboxVirtualNetwork_builds _)
  intro _ builds
  exact opensWith_createNetworkSecurityGroup.bind builds

/-- A block creates the machine's security group first. -/
theorem tryBlock_opensWith (request : DeployRequest) (noBlank : ' ' ∉ data.vmName) :
    OpensWith (vmNsgName data.vmName) (tryBlock request data) := by
  have common : OpensWith (vmNsgName data.vmName) (createVmCommonObjects request data) :=
    createVmNetworkSecurityGroup_opensWith.bind (createVmCommonObjects_builds noBlank)
  exact common.bind (tryBlock_builds noBlank)

/-! ## The rollback after the block -/

variable {privateIps : List Text} {state : FaultyAzure}
  (calm : CalmOn NoRelease services (rollbackDeployedResources request data privateIps) state)

include calm

/-- Where no call fails, the rollback stops at a request without a subnet and has
deleted the machine at most. -/
theorem rollback_aborts (notFound : data.nicRequests = [none]) :
    (run services (rollbackDeployedResources request data privateIps) state).2.2 =
      (Azure.handle false (.deleteVirtualMachine data.vmName) state.2).2 := by
  have deleted : run (Azure.handle false) (VirtualMachineService.deleteVm data.vmName) state.2 =
      (.ok (), (Azure.handle false (.deleteVirtualMachine data.vmName) state.2).2) := by
    apply run_retry_of_ok
    rfl
  have noRelease : Within NoRelease (VirtualMachineService.deleteVm data.vmName) :=
    Within.retry (within_perform nofun) 4
  rcases run_services_of_calmOn noRelease calm.first with ⟨rest, ran⟩
  rw [deleted] at ran
  unfold rollbackDeployedResources
  rw [run_bind_of_ok ran, notFound]
  rfl

/-- Where no call but the release fails, the rollback of requests that all found
their subnets leaves nothing planned. -/
theorem rollback_removes (found : none ∉ data.nicRequests)
    (planned : ∀ resource ∈ state.2.created, Plans data resource) :
    let left := (run services (rollbackDeployedResources request data privateIps) state).2.2
    ∀ resource ∈ left.created, ¬ left.Exists resource := by
  rcases rollbackDeployedResources_clears request found calm with ⟨after, ran, cleared, _, log⟩
  rw [ran]
  intro left resource created
  rw [log] at created
  exact cleared resource (planned resource created)

omit calm

/-! ## All or nothing -/

/-- If the deployment raised, nothing it created remains. -/
def AllOrNothing (finished : Except PyException DeployAppResult × FaultyAzure) : Prop :=
  ∀ e, finished.1 = .error e →
    ∀ resource ∈ finished.2.2.created, ¬ finished.2.2.Exists resource

/-- Once the block has raised, no call of the rollback fails but the release of the
addresses. -/
def RollbackSucceeds (request : DeployRequest) (start : FaultyAzure) : Prop :=
  ∀ data prepared e raised,
    run services (preparation request) start = (.ok data, prepared) →
    run services (tryBlock request data) prepared = (.error e, raised) →
    CalmOn NoRelease services
      (rollbackDeployedResources request data (allPrivateIps request data prepared)) raised

/-- The two ways past the rollback are not taken. -/
structure Protected (request : DeployRequest) (start : FaultyAzure) : Prop where
  /-- Nothing raises after the block. -/
  afterwards : ∀ data prepared block blockLeft,
    run services (preparation request) start = (.ok data, prepared) →
    run services (tryBlock request data) prepared = (.ok block, blockLeft) →
    ∀ e, (run services (afterBlock request data (allPrivateIps request data prepared) block)
      blockLeft).1 ≠ .error e
  /-- Without a subnet for the interface, the block raises before it has created
  the machine's security group. -/
  withoutSubnet : ∀ data prepared e raised,
    run services (preparation request) start = (.ok data, prepared) →
    run services (tryBlock request data) prepared = (.error e, raised) →
    none ∈ data.nicRequests →
    .networkSecurityGroup (vmNsgName data.vmName) ∉ raised.2.created

variable {start prepared : FaultyAzure}

theorem preparation_creates_nothing (request : DeployRequest) (fresh : start.2.created = []) :
    (run services (preparation request) start).2.2.created = [] :=
  preparation_builds.created_eq.trans fresh

theorem allOrNothing_of_unprepared (fresh : start.2.created = [])
    (failed : run services (preparation request) start = (.error e, prepared)) :
    AllOrNothing (run services (deployVmGeneric request) start) := by
  have log := preparation_creates_nothing request fresh
  rw [failed] at log
  rw [run_deployVmGeneric_of_unprepared failed]
  intro _ _ resource created
  rw [log] at created
  cases created

/-- After a block that ends well the machine stays, whatever happens. -/
theorem allOrNothing_of_ok_iff {block : VirtualMachine × Option Text} {blockLeft : FaultyAzure}
    (isPrepared : run services (preparation request) start = (.ok data, prepared))
    (success : run services (tryBlock request data) prepared = (.ok block, blockLeft)) :
    AllOrNothing (run services (deployVmGeneric request) start) ↔
      ∀ e, (run services (afterBlock request data (allPrivateIps request data prepared) block)
        blockLeft).1 ≠ .error e := by
  rw [run_deployVmGeneric_of_ok isPrepared success]
  have reads : BuildsOnly (fun _ => False)
      (afterBlock request data (allPrivateIps request data prepared) block) :=
    afterBlock_builds _ block
  have stands := (tryBlock_stands success).run reads
  constructor
  · intro allOrNothing e failed
    exact allOrNothing e failed _ stands.1 stands.2
  · intro returns e failed
    exact absurd failed (returns e)

/-- After a block that raised, the rollback removes everything unless it stops
at a request without a subnet. -/
theorem allOrNothing_of_error_iff {raised : FaultyAzure} (fresh : start.2.created = [])
    (isPrepared : run services (preparation request) start = (.ok data, prepared))
    (failed : run services (tryBlock request data) prepared = (.error e, raised))
    (calm : CalmOn NoRelease services
      (rollbackDeployedResources request data (allPrivateIps request data prepared)) raised) :
    AllOrNothing (run services (deployVmGeneric request) start) ↔
      (none ∈ data.nicRequests →
        .networkSecurityGroup (vmNsgName data.vmName) ∉ raised.2.created) := by
  have ofPreparation := preparation_prepared isPrepared
  have log := preparation_creates_nothing request fresh
  rw [isPrepared] at log
  have builds : BuildsOnly (Plans data) (tryBlock request data) :=
    tryBlock_builds ofPreparation.noBlank
  rcases run_deployVmGeneric_of_error isPrepared failed with ⟨error, ran⟩
  rw [ran]
  by_cases found : none ∈ data.nicRequests
  · -- the rollback stops before it reaches the group
    have aborted := rollback_aborts calm (ofPreparation.alone found)
    have kept : (Azure.handle false (.deleteVirtualMachine data.vmName) raised.2).2.created =
        raised.2.created := rfl
    constructor
    · intro allOrNothing _ created
      have stand : GroupsStand prepared.2 := by
        intro name inLog
        rw [log] at inLog
        cases inLog
      have present := builds.groupsStand stand
      rw [failed] at present
      apply allOrNothing error rfl (.networkSecurityGroup (vmNsgName data.vmName))
      · rw [aborted]
        exact created
      · rw [aborted]
        apply Azure.exists_networkSecurityGroup_handle
        · rintro ⟨⟩
        · rintro _ ⟨⟩
        · exact present _ created
    · intro notCreated _ _ resource created
      have groupFirst := (tryBlock_opensWith request ofPreparation.noBlank
        prepared log).1
      rw [failed] at groupFirst
      rw [aborted, kept] at created
      rcases groupFirst with empty | isCreated
      · rw [empty] at created
        cases created
      · exact absurd isCreated (notCreated found)
  · have nothingBefore : ∀ resource ∈ prepared.2.created, Plans data resource := by
      intro resource inLog
      rw [log] at inLog
      cases inLog
    have planned := builds.created nothingBefore
    rw [failed] at planned
    constructor
    · intro _ isNone
      exact absurd isNone found
    · intro _ _ _
      exact rollback_removes calm found planned

/-- A deployment is all or nothing exactly when it is protected. -/
theorem deployVmGeneric_all_or_nothing_iff (request : DeployRequest) (start : FaultyAzure)
    (fresh : start.2.created = []) (rollbackSucceeds : RollbackSucceeds request start) :
    AllOrNothing (run services (deployVmGeneric request) start) ↔ Protected request start := by
  cases isPrepared : run services (preparation request) start with
  | mk outcome prepared =>
  cases outcome with
  | error e =>
      constructor
      · intro _
        constructor
        · intro data prepared block blockLeft isOk
          rw [isPrepared] at isOk
          cases isOk
        · intro data prepared e raised isOk
          rw [isPrepared] at isOk
          cases isOk
      · intro _
        exact allOrNothing_of_unprepared fresh isPrepared
  | ok data =>
  cases ran : run services (tryBlock request data) prepared with
  | mk blockOutcome left =>
  cases blockOutcome with
  | ok block =>
      rw [allOrNothing_of_ok_iff isPrepared ran]
      constructor
      · intro returns
        constructor
        · intro _ _ _ _ isOk blockOk
          rw [isPrepared] at isOk
          cases isOk
          rw [ran] at blockOk
          cases blockOk
          exact returns
        · intro _ _ _ _ isOk blockFailed
          rw [isPrepared] at isOk
          cases isOk
          rw [ran] at blockFailed
          cases blockFailed
      · intro isProtected
        exact isProtected.afterwards data prepared block left isPrepared ran
  | error e =>
      rw [allOrNothing_of_error_iff fresh isPrepared ran
        (rollbackSucceeds data prepared e left isPrepared ran)]
      constructor
      · intro notCreated
        constructor
        · intro _ _ _ _ isOk blockOk
          rw [isPrepared] at isOk
          cases isOk
          rw [ran] at blockOk
          cases blockOk
        · intro _ _ _ _ isOk blockFailed
          rw [isPrepared] at isOk
          cases isOk
          rw [ran] at blockFailed
          cases blockFailed
          exact notCreated
      · intro isProtected
        exact isProtected.withoutSubnet data prepared e left isPrepared ran

/-! ## A deployment that is cancelled -/

/-- A machine with a public address on the subnet of its reservation. -/
def webRequest : DeployRequest where
  createVmAction := .marketplace .linux
  deploymentModel :=
    { appName := "web".toList
      vmSize := "Basic_A0".toList
      diskSize := []
      diskType := "HDD".toList
      addPublicIp := true
      inboundPorts := []
      publicIpType := "Dynamic".toList
      password := "secret".toList
      extensionScriptFile := []
      extensionScriptConfigurations := []
      extensionScriptTimeout := 0
      allowAllSandboxTraffic := "True".toList
      networkConfigurations := [] }
  cloudProviderModel :=
    { vmSize := []
      managementGroupName := "mgmt".toList
      additionalMgmtNetworks := []
      privateIpAllocationMethod := "Azure Allocation".toList }
  reservationId := "r1".toList
  networkActions := []
  uniqueString := "0a1b2c3d".toList
  isPostfix := by decide

/-- A prepared sandbox, with the cancellations to come. -/
def webSandbox (cancellations : List Bool) : FaultyAzure :=
  ([], { Azure.blank with
    networkSecurityGroups := [⟨getSubnetsNsgName "r1".toList, []⟩]
    virtualNetworks := fun _ =>
      [⟨"sandbox".toList, [("network_type".toList, "sandbox".toList)], ["10.0.0.0/16".toList],
          [⟨"r1_subnet".toList, "10.0.1.0/24".toList, none, none, none⟩]⟩,
        ⟨"mgmt".toList, [("network_type".toList, "mgmt".toList)], ["10.1.0.0/16".toList], []⟩]
    cancellations := cancellations })

/-- Every call of a rollback is answered well. -/
theorem rollbackDeployedResources_answers (privateIps : List Text) :
    Within (fun sent => NoRelease sent → ∀ azure, ∃ a, (Azure.handle false sent azure).1 = .ok a)
      (rollbackDeployedResources request data privateIps) := by
  apply (rollbackDeployedResources_sends privateIps).mono
  rintro sent (deletes | ⟨values, rfl⟩ | deletes) noRelease azure
  · cases deletes <;> exact ⟨(), rfl⟩
  · exact ⟨(), rfl⟩
  · rcases deletes with rfl | ⟨_, _, rfl⟩ | ⟨_, _, _, _, rfl⟩ <;> exact ⟨_, rfl⟩

theorem rollbackSucceeds_of_harmless {start : FaultyAzure} (harmless : Harmless start.1) :
    RollbackSucceeds request start := by
  intro data prepared e raised isPrepared failed
  obtain ⟨preparedFates, preparedHarmless, preparedRun⟩ :=
    run_services_of_harmless (preparation request) harmless
  have prepared_eq := congrArg (fun result => result.2.1) (isPrepared.symm.trans preparedRun)
  have harmlessBlock : Harmless prepared.1 := by
    rw [show prepared.1 = preparedFates from prepared_eq]
    exact preparedHarmless
  obtain ⟨raisedFates, raisedHarmless, raisedRun⟩ :=
    run_services_of_harmless (tryBlock request data) harmlessBlock
  have raised_eq := congrArg (fun result => result.2.1) (failed.symm.trans raisedRun)
  have stillHarmless : Harmless raised.1 := by
    rw [show raised.1 = raisedFates from raised_eq]
    exact raisedHarmless
  exact calmOn_of_harmless stillHarmless (rollbackDeployedResources_answers _)

/-- Cancelled inside the block, the deployment is protected and leaves nothing. -/
theorem deployVmGeneric_all_or_nothing_example :
    (run services (deployVmGeneric webRequest) (webSandbox [false, false, true])).1 =
        .error .cancellationException ∧
      Protected webRequest (webSandbox [false, false, true]) := by
  constructor
  · decide
  · apply (deployVmGeneric_all_or_nothing_iff webRequest (webSandbox [false, false, true]) rfl
      (rollbackSucceeds_of_harmless fun fate member => by cases member)).mp
    intro _ _
    decide

/-- Cancelled after the block, while it looks up the public address, the
deployment leaves the machine. -/
theorem cancelled_deployment_leaves_machine :
    ¬ AllOrNothing (run services (deployVmGeneric webRequest)
      (webSandbox [false, false, false, false, true])) := by
  intro allOrNothing
  have cancelled : (run services (deployVmGeneric webRequest)
      (webSandbox [false, false, false, false, true])).1 = .error .cancellationException := by
    decide
  have remains : ∃ resource ∈ (run services (deployVmGeneric webRequest)
      (webSandbox [false, false, false, false, true])).2.2.created,
      (run services (deployVmGeneric webRequest)
        (webSandbox [false, false, false, false, true])).2.2.Exists resource := by
    decide
  rcases remains with ⟨resource, created, present⟩
  exact allOrNothing _ cancelled resource created present

end DeployAzureVMOperation

end AzureShell
