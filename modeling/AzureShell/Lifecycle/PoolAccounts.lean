import AzureShell.Deploy.PoolCheckout
import AzureShell.Lifecycle.RoundTrip

/-!
# The address pool over a machine's life

Where no call fails, a deployment checks out of the pool the static addresses of
its interfaces and no others, and the deletion of the machine reads the same
addresses from the interfaces and releases them.  So the pool is after the two what
it was before.
-/

namespace AzureShell

open Prog SecurityGroupService NameProviderService

/-! ## Requests about the pool -/

/-- Whether a request checks addresses out or releases them. -/
def Request.touchesPool : Request → Bool
  | .checkoutFromPool _ _ _ _ => true
  | .releaseFromPool _ _ _ _ => true
  | _ => false

/-- The request leaves the pool. -/
def LeavesPool (sent : Request) : Prop :=
  sent.touchesPool = false

theorem leavesPool_send {sent : Request} (leaves : sent.touchesPool = false) :
    Within LeavesPool (send sent) :=
  within_perform leaves

theorem checkedOut_handle {strict : Bool} {sent : Request} {azure : Azure}
    (leaves : LeavesPool sent) :
    (Azure.handle strict sent azure).2.checkedOut = azure.checkedOut := by
  cases sent with
  | checkoutFromPool poolId reservationId ownerId subnetRange => cases leaves
  | releaseFromPool values poolId reservationId ownerId => cases leaves
  | putSecurityRule nsg rule =>
      simp only [Azure.handle]
      split <;> rfl
  | putSubnet group network subnet =>
      rcases Azure.handle_putSubnet strict group network subnet azure with ⟨changed, same⟩
      rw [same]
  | _ => rfl

section Runs

variable {α : Type} {program : Shell α} {state finished : FaultyAzure}
  {outcome : Except PyException α}

theorem checkedOut_run (leaves : Within LeavesPool program)
    (ran : run services program state = (outcome, finished)) :
    finished.2.checkedOut = state.2.checkedOut := by
  have kept : (run services program state).2.2.checkedOut = state.2.checkedOut := by
    apply leaves.run_faulty_preserves fun azure : Azure => azure.checkedOut = state.2.checkedOut
    · exact fun sent azure leavesPool same => (checkedOut_handle leavesPool).trans same
    · rfl
  rwa [ran] at kept

/-- Where no call fails a program runs as usual, and leaves no failures. -/
theorem run_of_harmless (harmless : Harmless state.1)
    (ran : run services program state = (outcome, finished)) :
    Harmless finished.1 ∧ run (Azure.handle false) program state.2 = (outcome, finished.2) := by
  rcases run_services_of_harmless program harmless with ⟨rest, restHarmless, same⟩
  rw [ran] at same
  cases same
  exact ⟨restHarmless, rfl⟩

end Runs

/-! ## Accounts -/

/-- Between the states the static addresses of the interfaces, and no others, were
checked out, latest first. -/
def ChecksOut (reservationId : Text) (nics : List NetworkInterface) (before after : Azure) : Prop :=
  ∃ privateIps, DeleteAzureVMOperation.staticPrivateIps nics = .ok privateIps ∧
    after.checkedOut = (privateIps.map (DeleteAzureVMOperation.poolItem reservationId)).reverse ++
      before.checkedOut ∧
    ∀ item ∈ privateIps.map (DeleteAzureVMOperation.poolItem reservationId),
      item ∉ before.checkedOut

namespace ChecksOut

variable {reservationId : Text} {nic : NetworkInterface} {nics : List NetworkInterface}
  {first second third : Azure}

theorem nil (same : second.checkedOut = first.checkedOut) :
    ChecksOut reservationId [] first second := by
  refine ⟨[], rfl, same, ?_⟩
  intro item member
  cases member

/-- What leaves the pool may come before and after. -/
theorem congr {start finish : Azure} (checksOut : ChecksOut reservationId nics first second)
    (before : first.checkedOut = start.checkedOut) (after : finish.checkedOut = second.checkedOut) :
    ChecksOut reservationId nics start finish := by
  rw [ChecksOut, after, ← before]
  exact checksOut

theorem cons (one : ChecksOut reservationId [nic] first second)
    (others : ChecksOut reservationId nics second third) :
    ChecksOut reservationId (nic :: nics) first third := by
  rcases one with ⟨firstIps, collectedFirst, checkedOut, wereFree⟩
  rcases others with ⟨otherIps, collectedOthers, laterCheckedOut, laterFree⟩
  refine ⟨firstIps ++ otherIps, ?_, ?_, ?_⟩
  · simp only [DeleteAzureVMOperation.staticPrivateIps] at collectedFirst ⊢
    cases isFirst : nic.firstIpConfiguration with
    | error e =>
        rw [isFirst] at collectedFirst
        cases collectedFirst
    | ok ipConfiguration =>
        rw [isFirst] at collectedFirst
        rw [collectedOthers]
        cases collectedFirst
        change Except.ok _ = Except.ok _
        split <;> rfl
  · rw [laterCheckedOut, checkedOut, List.map_append, List.reverse_append, List.append_assoc]
  · intro item member
    rw [List.map_append] at member
    rcases List.mem_append.mp member with inFirst | inOthers
    · exact wereFree item inFirst
    · intro wasCheckedOut
      apply laterFree item inOthers
      rw [checkedOut]
      exact List.mem_append_right _ wasCheckedOut

/-- Releasing what was checked out restores the pool. -/
theorem restores {privateIps : List Text} (checksOut : ChecksOut reservationId nics first second)
    (collected : DeleteAzureVMOperation.staticPrivateIps nics = .ok privateIps) :
    second.checkedOut.filter
        (· ∉ privateIps.map (DeleteAzureVMOperation.poolItem reservationId)) =
      first.checkedOut := by
  rcases checksOut with ⟨_, sameCollected, checkedOut, wereFree⟩
  cases collected.symm.trans sameCollected
  rw [checkedOut, List.filter_append, List.filter_eq_nil_iff.mpr, List.nil_append,
    List.filter_eq_self.mpr]
  · intro item wasCheckedOut
    simp only [decide_eq_true_eq]
    intro member
    exact wereFree item member wasCheckedOut
  · intro item member
    simpa using member

end ChecksOut

/-! ## New interfaces -/

namespace NetworkService

variable {interfaceName ipName reservationId publicIpType : Text} {subnet : Subnet}
  {publicIpAddress : Option PublicIpAddress} {method : IPAllocationMethod}
  {cloudProviderModel : AzureCloudProviderResourceModel} {addPublicIp : Bool}
  {nic : NetworkInterface} {azure after : Azure} {state finished : FaultyAzure}

/-- A static interface takes one address from the pool, which is its own. -/
theorem createNic_checksOut
    (success : run (Azure.handle false)
      (createNic interfaceName reservationId publicIpAddress subnet method) azure =
        (.ok nic, after)) : ChecksOut reservationId [nic] azure after := by
  have once : ∀ {body : Shell NetworkInterface} {created : NetworkInterface} {left : Azure},
      createNic interfaceName reservationId publicIpAddress subnet method =
        retryConnection (retryRetryable body) →
      run (Azure.handle false) body azure = (.ok created, left) → created = nic ∧ left = after := by
    intro body created left isBody ran
    have ended : run (Azure.handle false) (retryConnection (retryRetryable body)) azure =
        (.ok created, left) := run_retry_of_ok (run_retry_of_ok ran)
    rw [isBody, ended] at success
    cases success
    exact ⟨rfl, rfl⟩
  cases method with
  | dynamic =>
      obtain ⟨rfl, rfl⟩ := once rfl rfl
      exact ⟨[], rfl, rfl, fun _ member => by cases member⟩
  | static =>
      cases next : azure.nextAvailableIp (IpService.getPoolId reservationId)
          subnet.addressPrefix with
      | none =>
          have failed : run (Azure.handle false)
              (createNicOnce interfaceName reservationId publicIpAddress subnet) azure =
                (.error (.exception "Could not find available IP.".toList), azure) := by
            apply run_bind_of_error
            apply run_bind_of_error
            rw [IpService.getNextAvailableIpFromCsPool, run_send]
            simp [Azure.handle, next]
          have ended : run (Azure.handle false) (retryConnection (retryRetryable
              (createNicOnce interfaceName reservationId publicIpAddress subnet))) azure =
                (.error (.exception "Could not find available IP.".toList), azure) :=
            run_retry_of_error (run_retry_of_error failed rfl) (by decide)
          rw [createNic_eq, ended] at success
          cases success
      | some address =>
          have poolItem : poolItemFor azure reservationId subnet =
              some (DeleteAzureVMOperation.poolItem reservationId address) := by
            rw [poolItemFor, next]
            rfl
          let item := DeleteAzureVMOperation.poolItem reservationId address
          have checkedOut : run (Azure.handle false) (privateIpFor reservationId subnet .static)
              azure = (.ok (some address), { azure with checkedOut := item :: azure.checkedOut }) := by
            apply run_bind_of_ok
            rw [IpService.getNextAvailableIpFromCsPool, run_send]
            simp only [Azure.handle, next]
            rfl
          obtain ⟨rfl, rfl⟩ := once (createNic_eq _ _ _ _) (run_bind_of_ok checkedOut)
          refine ⟨[address], rfl, rfl, ?_⟩
          intro item member
          cases List.mem_singleton.mp member
          exact (not_mem_of_poolItemFor poolItem).1

theorem publicIpFor_leavesPool :
    Within LeavesPool (publicIpFor addPublicIp ipName publicIpType) := by
  unfold publicIpFor
  split
  · apply Within.bind
    · apply Within.retry
      apply (within_ofExcept _).bind
      intro _
      exact leavesPool_send rfl
    · intro publicIpAddress
      trivial
  · trivial

theorem createNetworkForVm_checksOut (harmless : Harmless state.1)
    (success : run services (createNetworkForVm interfaceName ipName reservationId
      cloudProviderModel subnet addPublicIp publicIpType) state = (.ok nic, finished)) :
    ChecksOut reservationId [nic] state.2 finished.2 := by
  rcases run_bind_eq_ok success with ⟨publicIpAddress, between, created, nicRun⟩
  have betweenHarmless := (run_of_harmless harmless created).1
  have checksOut := createNic_checksOut (run_of_harmless betweenHarmless nicRun).2
  exact checksOut.congr (checkedOut_run publicIpFor_leavesPool created) rfl

end NetworkService

namespace DeployAzureVMOperation

variable {request : DeployRequest} {data : DeployDataModel} {state finished : FaultyAzure}
  {nics : List NetworkInterface}

/-! ## Deployments -/

theorem leavesPool_of_reads {sent : Request} (reads : Reads sent) : LeavesPool sent := by
  cases reads <;> rfl

/-- Requests for data without interfaces leave the pool. -/
theorem leavesPool_of_blockSends {sent : Request}
    (sends : BlockSends { data with nicRequests := [] } sent) : LeavesPool sent := by
  cases sends with
  | checkoutFromPool nicRequest member => cases member
  | _ => rfl

theorem checkIfCancelled_leavesPool :
    Within LeavesPool CommandCancellationService.checkIfCancelled :=
  checkIfCancelled_reads.mono fun _ => leavesPool_of_reads

theorem createNetworkSecurityGroupRules_leavesPool {nsg destinationAddr sourceAddress : Text}
    {inboundRules : List InboundRule} {lock : LockName} {startFrom : Option Int} :
    Within LeavesPool (createNetworkSecurityGroupRules nsg inboundRules destinationAddr lock
      startFrom sourceAddress) := by
  apply Within.mono (createNetworkSecurityGroupRules_within lock startFrom)
  rintro sent (rfl | ⟨ruleData, _, priority, rfl⟩) <;> rfl

theorem createVmNetworkSecurityGroup_leavesPool :
    Within LeavesPool (createVmNetworkSecurityGroup request.cloudProviderModel data
      request.deploymentModel) := by
  have group : Within (BlockSends { data with nicRequests := [] }) (createVmNetworkSecurityGroup
      request.cloudProviderModel { data with nicRequests := [] } request.deploymentModel) :=
    createVmNetworkSecurityGroup_sends
  exact Within.mono group fun _ => leavesPool_of_blockSends

theorem createVmAction_leavesPool :
    Within LeavesPool (createVmAction request data nics) := by
  have action : Within (BlockSends { data with nicRequests := [] })
      (createVmAction request { data with nicRequests := [] } nics) := createVmAction_sends nics
  exact Within.mono action fun _ => leavesPool_of_blockSends

theorem createVmCustomScriptExtension_leavesPool :
    Within LeavesPool (createVmCustomScriptExtension request data) := by
  have script : Within (BlockSends { data with nicRequests := [] })
      (createVmCustomScriptExtension request { data with nicRequests := [] }) :=
    createVmCustomScriptExtension_sends
  exact Within.mono script fun _ => leavesPool_of_blockSends

theorem createNetwork_checksOut {inboundRules : List RuleData} {nicRequest : Option NicRequest}
    {nic : NetworkInterface} (harmless : Harmless state.1)
    (success : run services (createNetwork request data inboundRules nicRequest) state =
      (.ok nic, finished)) : ChecksOut data.reservationId [nic] state.2 finished.2 := by
  cases nicRequest with
  | none => cases success
  | some nicRequest =>
      rw [createNetwork, nicRequestOf, run_ofExcept_bind_of_ok rfl] at success
      rcases run_bind_eq_ok success with ⟨created, between, networkRun, success⟩
      have rest : Within LeavesPool (do
          let ipConfiguration ← ofExcept created.firstIpConfiguration
          send (.recordPrivateIp ipConfiguration.privateIpAddress)
          createNetworkSecurityGroupRules (getSubnetsNsgName data.reservationId)
            (namedInboundRules data.vmName inboundRules) ipConfiguration.privateIpAddress
            (.resource (getSubnetsNsgName data.reservationId)) (some 1000)
          pure created) := by
        apply (within_ofExcept _).bind
        intro ipConfiguration
        apply Within.bind (leavesPool_send rfl)
        intro _
        exact createNetworkSecurityGroupRules_leavesPool.bind fun _ => trivial
      have sameNic : created = nic := by
        rcases run_bind_eq_ok success with ⟨_, _, _, ending⟩
        rcases run_bind_eq_ok ending with ⟨_, _, _, ending⟩
        rcases run_bind_eq_ok ending with ⟨_, _, _, ending⟩
        exact Except.ok.inj (congrArg Prod.fst ending)
      subst sameNic
      have checksOut := NetworkService.createNetworkForVm_checksOut harmless networkRun
      exact checksOut.congr rfl (checkedOut_run rest success)

theorem createNetworks_checksOut {inboundRules : List RuleData}
    {wanted : List (Option NicRequest)} (harmless : Harmless state.1)
    (success : run services (collect wanted (createNetwork request data inboundRules)) state =
      (.ok nics, finished)) : ChecksOut data.reservationId nics state.2 finished.2 := by
  induction wanted generalizing nics state with
  | nil =>
      cases success
      exact ChecksOut.nil rfl
  | cons nicRequest rest ih =>
      rcases run_bind_eq_ok success with ⟨nic, between, first, success⟩
      rcases run_bind_eq_ok success with ⟨later, left, others, success⟩
      cases success
      have betweenHarmless := (run_of_harmless harmless first).1
      exact (createNetwork_checksOut harmless first).cons (ih betweenHarmless others)

theorem createVmCommonObjects_checksOut (harmless : Harmless state.1)
    (success : run services (createVmCommonObjects request data) state = (.ok nics, finished)) :
    ChecksOut data.reservationId nics state.2 finished.2 := by
  rcases run_bind_eq_ok success with ⟨_, grouped, group, success⟩
  rcases run_bind_eq_ok success with ⟨inboundRules, parsed, parse, success⟩
  rcases run_bind_eq_ok success with ⟨_, locked, lock, success⟩
  rcases run_bind_eq_ok success with ⟨created, between, loop, success⟩
  have rest : Within LeavesPool (do
      VMCredentialsService.prepareCredentials request.createVmAction.osType
        request.deploymentModel.password
      CommandCancellationService.checkIfCancelled
      pure created) := by
    apply Within.bind
    · apply Within.when
      intro _
      exact Within.retry (leavesPool_send rfl) 4
    · intro _
      exact checkIfCancelled_leavesPool.bind fun _ => trivial
  have sameNics : created = nics := by
    rcases run_bind_eq_ok success with ⟨_, _, _, ending⟩
    rcases run_bind_eq_ok ending with ⟨_, _, _, ending⟩
    exact Except.ok.inj (congrArg Prod.fst ending)
  subst sameNics
  have groupedHarmless := (run_of_harmless harmless group).1
  have parsedHarmless := (run_of_harmless groupedHarmless parse).1
  have lockedHarmless := (run_of_harmless parsedHarmless lock).1
  have before : locked.2.checkedOut = state.2.checkedOut := by
    rw [checkedOut_run (leavesPool_send rfl) lock, checkedOut_run (within_ofExcept _) parse,
      checkedOut_run createVmNetworkSecurityGroup_leavesPool group]
  exact (createNetworks_checksOut lockedHarmless loop).congr before (checkedOut_run rest success)

/-- What follows the interfaces in a block leaves the pool alone. -/
theorem blockRest_leavesPool (nics : List NetworkInterface) :
    Within LeavesPool (do
      let vm ← (createVmAction request data nics).catching fun e =>
        raise (expandCloudErrorMessage request.deploymentModel.diskType e)
      CommandCancellationService.checkIfCancelled
      let timeout ← (do
        createVmCustomScriptExtension request data
        pure none).catching scriptTimeout
      pure (vm, timeout)) := by
  apply Within.bind
  · exact createVmAction_leavesPool.catching fun _ => within_raise _
  intro vm
  apply checkIfCancelled_leavesPool.bind
  intro _
  apply Within.bind
  · apply Within.catching
    · exact createVmCustomScriptExtension_leavesPool.bind fun _ => trivial
    · intro e
      unfold scriptTimeout
      split <;> trivial
  · intro timeout
    trivial

/-- The interfaces that a block leaves are those whose addresses it checked out. -/
theorem tryBlock_checksOut {block : VirtualMachine × Option Text}
    (distinct : ((data.nicRequests.filterMap id).map NicRequest.interfaceName).Nodup)
    (harmless : Harmless state.1)
    (success : run services (tryBlock request data) state = (.ok block, finished)) :
    ∃ nics, HasNetworks request (data.nicRequests.filterMap id) nics
        ((allPrivateIps request data state).headD []) finished.2 ∧
      HasMachine (VirtualMachineService.requestedMachine data.vmName nics) finished.2 ∧
      ChecksOut data.reservationId nics state.2 finished.2 := by
  rcases tryBlock_has distinct success with ⟨nics, common, commonRun, hasNetworks, hasMachine⟩
  rcases run_bind_eq_ok success with ⟨created, between, createdRun, rest⟩
  cases createdRun.symm.trans commonRun
  have checksOut := createVmCommonObjects_checksOut harmless commonRun
  exact ⟨nics, hasNetworks, hasMachine,
    checksOut.congr rfl (checkedOut_run (blockRest_leavesPool nics) rest)⟩

/-- A deployment without failing calls that ends well has checked out the addresses of
the interfaces it leaves. -/
theorem deployVmGeneric_checksOut {result : DeployAppResult} (harmless : Harmless state.1)
    (success : run services (deployVmGeneric request) state = (.ok result, finished)) :
    ∃ nics, Deployed request (requestedInterfaces request state.2) nics result finished.2 ∧
      ChecksOut request.reservationId nics state.2 finished.2 := by
  obtain ⟨data, prepared, block, left, preparedRun, blockRun, success⟩ :=
    phases_of_deployVmGeneric success
  have found := preparation_found preparedRun
  have preparedHarmless := (run_of_harmless harmless preparedRun).1
  have distinct : ((data.nicRequests.filterMap id).map NicRequest.interfaceName).Nodup := by
    rcases found.nicRequests with ⟨network, _, requested⟩
    rw [requested]
    exact nodup_nicRequestsFor request data.vmName network.subnets
  have preparationLeaves : Within LeavesPool (preparation request) :=
    (prepareDeployData_reads.mono fun _ => leavesPool_of_reads).bind fun _ =>
      checkIfCancelled_leavesPool.bind fun _ => trivial
  have afterLeaves : Within LeavesPool
      (afterBlock request data (allPrivateIps request data prepared) block) :=
    (afterBlock_reads _ block).mono fun _ => leavesPool_of_reads
  obtain ⟨nics, hasNetworks, hasMachine, checksOut⟩ :=
    tryBlock_checksOut distinct preparedHarmless blockRun
  refine ⟨nics, ?_, ?_⟩
  · rw [found.requestedInterfaces_eq]
    exact afterBlock_deployed hasNetworks hasMachine success
  · rw [← found.reservationId]
    exact checksOut.congr (checkedOut_run preparationLeaves preparedRun)
      (checkedOut_run afterLeaves success)

end DeployAzureVMOperation

/-! ## Deletions -/

namespace DeleteAzureVMOperation

variable {groupName vmName : Text} {vm : VirtualMachine} {data : MachineData}
  {state finished : FaultyAzure}

/-- A deletion releases the addresses it has read. -/
theorem checkedOut_deleteFound {found : Option VirtualMachine} (harmless : Harmless state.1)
    (success : run services (deleteFound groupName vmName data found) state =
      (.ok (), finished)) :
    finished.2.checkedOut = state.2.checkedOut.filter
      (· ∉ data.privateIps.map (poolItem groupName)) := by
  let before : Shell Unit := do
    orNotFound (VirtualMachineService.deleteVm vmName)
    orNotFound (NetworkService.deleteNics data.interfaceNames)
    orNotFound (NetworkService.deleteIps data.publicIpNames)
    deleteDiskOf found
    NetworkService.deleteNsgArtifactsAssociatedWithVm vmName
  have beforeLeaves : Within LeavesPool before := by
    apply (within_orNotFound (Within.retry (leavesPool_send rfl) 4)).bind
    intro _
    apply Within.bind
    · exact within_orNotFound <| Within.retry (Within.forEach fun _ _ => leavesPool_send rfl) 4
    intro _
    apply Within.bind
    · exact within_orNotFound <| Within.retry (Within.forEach fun _ _ => leavesPool_send rfl) 4
    intro _
    apply (within_deleteDiskOf (fun _ => rfl) found).bind
    intro _
    apply (NetworkService.deleteNsgArtifactsAssociatedWithVm_within vmName).mono
    rintro sent (rfl | ⟨_, _, rfl⟩ | ⟨_, _, _, _, rfl⟩) <;> rfl
  have split : deleteFound groupName vmName data found =
      before >>= fun _ => releasePrivateIps groupName data.privateIps := by
    simp only [before, deleteFound, bind_assoc]
  rw [split] at success
  rcases run_bind_eq_ok success with ⟨_, cleared, clearing, release⟩
  have clearedHarmless := (run_of_harmless harmless clearing).1
  rw [← checkedOut_run beforeLeaves clearing]
  rw [releasePrivateIps, when] at release
  split at release
  · have ran := (run_of_harmless clearedHarmless release).2
    have released : run (Azure.handle false) (IpService.releaseIps groupName data.privateIps)
        cleared.2 = (.ok (), finished.2) := by
      rw [run_catching] at ran
      exact ran
    exact (congrArg (fun final => final.2.checkedOut) released).symm
  · rename_i none
    cases release
    rw [not_not.mp none]
    simp

end DeleteAzureVMOperation

namespace DeployAzureVMOperation

variable {request : DeployRequest} {state deployed : FaultyAzure} {result : DeployAppResult}

/-- Where no call fails, a deployment checks out the static addresses of the
interfaces it leaves, and the deletion of its machine releases just these: the pool
is as it was. -/
theorem deleteAzureVm_releases_deployVmGeneric (harmless : Harmless state.1)
    (success : run services (deployVmGeneric request) state = (.ok result, deployed)) :
    ∃ nics after, Deployed request (requestedInterfaces request state.2) nics result deployed.2 ∧
      ChecksOut request.reservationId nics state.2 deployed.2 ∧
      run services (DeleteAzureVMOperation.deleteAzureVm request.reservationId result.vmName)
        deployed = (.ok (), after) ∧ after.2.checkedOut = state.2.checkedOut := by
  rcases deployVmGeneric_checksOut harmless success with ⟨nics, isDeployed, checksOut⟩
  have deployedHarmless := (run_of_harmless harmless success).1
  obtain ⟨privateIps, collected⟩ : ∃ privateIps,
      DeleteAzureVMOperation.staticPrivateIps nics = .ok privateIps := by
    rcases checksOut with ⟨privateIps, collected, _⟩
    exact ⟨privateIps, collected⟩
  obtain ⟨after, deletion, foundRun, _, _⟩ :=
    DeleteAzureVMOperation.run_deleteAzureVm_of_inPlace request.reservationId
      (inPlace_of_deployed isDeployed) collected rfl
  obtain ⟨left, _, deleteRun⟩ := run_services_of_harmless
    (DeleteAzureVMOperation.deleteAzureVm request.reservationId result.vmName) deployedHarmless
  obtain ⟨_, _, deleteFoundRun⟩ := run_services_of_harmless
    (DeleteAzureVMOperation.deleteFound request.reservationId result.vmName
      (DeleteAzureVMOperation.machineDataOf
        (VirtualMachineService.requestedMachine result.vmName nics) nics privateIps)
      (some (VirtualMachineService.requestedMachine result.vmName nics))) deployedHarmless
  rw [deletion] at deleteRun
  rw [foundRun] at deleteFoundRun
  refine ⟨nics, (left, after), isDeployed, checksOut, deleteRun, ?_⟩
  calc
    after.checkedOut = deployed.2.checkedOut.filter (· ∉ privateIps.map
        (DeleteAzureVMOperation.poolItem request.reservationId)) :=
      DeleteAzureVMOperation.checkedOut_deleteFound deployedHarmless deleteFoundRun
    _ = state.2.checkedOut := checksOut.restores collected

/-- The prepared sandbox, with a pool of which one address is in use. -/
def sharedPool : FaultyAzure :=
  ([], { (webSandbox []).2 with
    availableIps := fun _ => ["10.0.1.4".toList, "10.0.1.5".toList]
    checkedOut := [DeleteAzureVMOperation.poolItem "r1".toList "10.0.1.4".toList] })

/-- The free address is checked out and released again. -/
theorem deleteAzureVm_releases_deployVmGeneric_example :
    ∃ result deployed after,
      run services (deployVmGeneric poolRequest) sharedPool = (.ok result, deployed) ∧
        deployed.2.checkedOut =
          [DeleteAzureVMOperation.poolItem "r1".toList "10.0.1.5".toList,
            DeleteAzureVMOperation.poolItem "r1".toList "10.0.1.4".toList] ∧
        run services (DeleteAzureVMOperation.deleteAzureVm "r1".toList result.vmName) deployed =
          (.ok (), after) ∧ after.2.checkedOut = sharedPool.2.checkedOut := by
  have isOk : (run services (deployVmGeneric poolRequest) sharedPool).1.toOption.isSome =
      true := by decide
  rcases exists_run_eq_ok isOk with ⟨result, success⟩
  have harmless : Harmless sharedPool.1 := fun fate member => by cases member
  rcases deleteAzureVm_releases_deployVmGeneric harmless success with
    ⟨nics, after, _, _, deletion, restored⟩
  exact ⟨result, _, after, success, by decide, deletion, restored⟩

end DeployAzureVMOperation

end AzureShell
