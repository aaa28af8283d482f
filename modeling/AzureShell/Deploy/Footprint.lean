import AzureShell.Azure.Resources
import AzureShell.Deploy.Operation
import AzureShell.Nsg.Footprint

/-!
# What a deployment touches

Before its `try` block and after it, a deployment only reads.  In the block it
creates the machine, the interfaces and public addresses of its requests, the
machine's security group with its rules, and rules in the group of the subnets
whose names carry the machine's name; it deletes nothing.
-/

namespace AzureShell

open Prog SecurityGroupService

/-- The program deletes nothing and creates only planned resources. -/
abbrev BuildsOnly {α : Type} (planned : Resource → Prop) (program : Shell α) : Prop :=
  Within (Builds planned) program

namespace BuildsOnly

variable {planned : Resource → Prop}

theorem read {request : Request} (creates : request.creates = none)
    (deletes : request.deletes = false) : BuildsOnly planned (send request) :=
  within_perform (builds_of_reads creates deletes)

theorem write {request : Request} {resource : Resource} (creates : request.creates = some resource)
    (isPlanned : planned resource) (deletes : request.deletes = false) :
    BuildsOnly planned (send request) := by
  apply within_perform
  constructor
  · intro other isCreated
    rw [creates, Option.some.injEq] at isCreated
    exact isCreated ▸ isPlanned
  · exact deletes

theorem checkIfCancelled : BuildsOnly planned CommandCancellationService.checkIfCancelled := by
  apply Within.bind (read rfl rfl)
  intro isCancelled
  split <;> trivial

theorem createNetworkSecurityGroupRules {nsg destinationAddr sourceAddress : Text}
    {inboundRules : List InboundRule} {lock : LockName} {startFrom : Option Int}
    (isPlanned : ∀ ruleData ∈ inboundRules, ∀ priority,
      planned (.securityRule nsg (nameAt ruleData priority))) :
    BuildsOnly planned (createNetworkSecurityGroupRules nsg inboundRules destinationAddr lock
      startFrom sourceAddress) := by
  apply Within.mono (createNetworkSecurityGroupRules_within lock startFrom)
  rintro request (rfl | ⟨ruleData, member, priority, rfl⟩)
  · exact builds_of_reads rfl rfl
  · constructor
    · intro resource isCreated
      rw [← Option.some.inj isCreated]
      exact isPlanned ruleData member priority
    · rfl

end BuildsOnly

namespace TaskWaiterService

variable {planned : Resource → Prop}

theorem checkWhilePolling_builds (notDone : Nat) :
    BuildsOnly planned (checkWhilePolling notDone) := by
  induction notDone with
  | zero => trivial
  | succ notDone ih => exact BuildsOnly.checkIfCancelled.bind fun _ => ih

theorem waitForTask_builds : BuildsOnly planned waitForTask := by
  apply Within.bind (BuildsOnly.read rfl rfl)
  intro notDone
  apply Within.bind (checkWhilePolling_builds notDone)
  intro _
  exact BuildsOnly.read rfl rfl

theorem waitForTaskWithTimeout_builds (poller : Nat × Bool) :
    BuildsOnly planned (waitForTaskWithTimeout poller) := by
  apply Within.bind (checkWhilePolling_builds poller.1)
  intro _
  split
  · trivial
  · exact BuildsOnly.read rfl rfl

end TaskWaiterService

namespace DeployAzureVMOperation

/-- The resources a deployment creates. -/
def Plans (data : DeployDataModel) : Resource → Prop
  | .virtualMachine name => name = data.vmName
  | .networkInterface name => ∃ nicRequest, some nicRequest ∈ data.nicRequests ∧
      name = nicRequest.interfaceName
  | .publicIpAddress name => ∃ nicRequest, some nicRequest ∈ data.nicRequests ∧
      name = getIpFromInterfaceName nicRequest.interfaceName
  | .networkSecurityGroup name => name = vmNsgName data.vmName
  | .securityRule nsg name => nsg = vmNsgName data.vmName ∨
      nsg = getSubnetsNsgName data.reservationId ∧ data.vmName <:+: name

/-- The resources created with the given inbound rules: in the group of the
subnets, rules under the names of the inbound rules only. -/
def PlansWith (data : DeployDataModel) (inboundRules : List RuleData) (resource : Resource) :
    Prop :=
  match resource with
  | .securityRule nsg name => nsg = vmNsgName data.vmName ∨
      nsg = getSubnetsNsgName data.reservationId ∧
        ∃ rule ∈ inboundRules, name = inboundPortsRuleName data.vmName rule
  | resource => Plans data resource

variable {planned : Resource → Prop} {request : DeployRequest} {data : DeployDataModel}
  {inboundRules : List RuleData}

/-! ## Before the block -/

theorem getVirtualNetworks_builds (groupName : Text) :
    BuildsOnly planned (NetworkService.getVirtualNetworks groupName) :=
  Within.retry (BuildsOnly.read rfl rfl) 4

theorem getSandboxVirtualNetwork_builds (groupName : Text) :
    BuildsOnly planned (NetworkService.getSandboxVirtualNetwork groupName) := by
  apply Within.bind (getVirtualNetworks_builds groupName)
  intro virtualNetworks
  trivial

theorem prepareDeployData_builds : BuildsOnly planned (prepareDeployData request) := by
  apply Within.bind
  · unfold getImageDataModel
    split
    · exact Within.retry (BuildsOnly.read rfl rfl) 4
    · exact BuildsOnly.read rfl rfl
  intro _
  apply Within.bind (within_ofExcept _)
  intro _
  apply Within.bind (within_ofExcept _)
  intro vmName
  apply Within.bind (within_ofExcept _)
  intro vmSize
  apply Within.bind
  · apply Within.bind (getSandboxVirtualNetwork_builds _)
    intro sandboxVirtualNetwork
    split <;> trivial
  intro nicRequests
  apply Within.bind (Within.retry (BuildsOnly.read rfl rfl) 4)
  intro _
  trivial

/-! ## Inside the block -/

/-- Every rule of the machine's own group is planned. -/
theorem createOwnRules_builds (rules : List InboundRule) (destinationAddr : Text)
    (lock : LockName) (startFrom : Option Int) (sourceAddress : Text) :
    BuildsOnly (PlansWith data inboundRules) (createNetworkSecurityGroupRules
      (vmNsgName data.vmName) rules destinationAddr lock startFrom sourceAddress) :=
  BuildsOnly.createNetworkSecurityGroupRules fun _ _ _ => Or.inl rfl

theorem getManagementVnetCidr_builds (cloudProviderModel : AzureCloudProviderResourceModel) :
    BuildsOnly planned (getManagementVnetCidr cloudProviderModel) := by
  apply Within.bind (getVirtualNetworks_builds _)
  intro virtualNetworks
  exact within_ofExcept _

theorem createVmNetworkSecurityGroup_builds :
    BuildsOnly (PlansWith data inboundRules) (createVmNetworkSecurityGroup
      request.cloudProviderModel data request.deploymentModel) := by
  apply Within.bind (getManagementVnetCidr_builds _)
  intro managementVnetCidr
  apply Within.bind (getSandboxVirtualNetwork_builds _)
  intro _
  have group : BuildsOnly (PlansWith data inboundRules)
      (send (.putNetworkSecurityGroup (vmNsgName data.vmName))) :=
    BuildsOnly.write rfl rfl rfl
  apply Within.bind (Within.retry group 4)
  intro _
  apply Within.bind (BuildsOnly.read rfl rfl)
  intro _
  apply Within.bind
  · apply Within.when
    intro _
    apply Within.bind (within_ofExcept _)
    intro inboundRules
    exact createOwnRules_builds _ _ _ _ _
  intro _
  apply Within.bind (Within.forEach fun _ _ => createOwnRules_builds _ _ _ _ _)
  intro _
  apply Within.bind (createOwnRules_builds _ _ _ _ _)
  intro _
  apply Within.bind
  · apply Within.when
    intro _
    exact (createOwnRules_builds _ _ _ _ _).bind fun _ => createOwnRules_builds _ _ _ _ _
  intro _
  apply Within.bind BuildsOnly.checkIfCancelled
  intro _
  trivial

theorem createNetworkForVm_builds {nicRequest : NicRequest}
    (member : some nicRequest ∈ data.nicRequests) (reservationId : Text)
    (cloudProviderModel : AzureCloudProviderResourceModel) (addPublicIp : Bool)
    (publicIpType : Text) :
    BuildsOnly (PlansWith data inboundRules) (NetworkService.createNetworkForVm nicRequest.interfaceName
      (getIpFromInterfaceName nicRequest.interfaceName) reservationId cloudProviderModel
      nicRequest.subnet addPublicIp publicIpType) := by
  apply Within.bind
  · unfold NetworkService.publicIpFor
    split
    · apply Within.bind
      · apply Within.retry
        apply Within.bind (within_ofExcept _)
        intro _
        exact BuildsOnly.write rfl ⟨nicRequest, member, rfl⟩ rfl
      · intro publicIpAddress
        trivial
    · trivial
  intro publicIpAddress
  apply Within.retry
  apply Within.retry
  apply Within.bind
  · unfold NetworkService.privateIpFor
    split
    · exact Within.bind (BuildsOnly.read rfl rfl) fun _ => trivial
    · trivial
  intro privateIpAddress
  exact BuildsOnly.write rfl ⟨nicRequest, member, rfl⟩ rfl

/-- Machine names without blanks occur in the names of their inbound rules. -/
theorem infix_inboundPortsRuleName {vmName : Text} (noBlank : ' ' ∉ vmName) (rule : RuleData) :
    vmName <:+: inboundPortsRuleName vmName rule := by
  have unchanged : vmName.filter (· ≠ ' ') = vmName := by
    apply List.filter_eq_self.mpr
    intro c member
    simp only [ne_eq, decide_not, Bool.not_eq_true', decide_eq_false_iff_not]
    rintro rfl
    exact noBlank member
  rw [inboundPortsRuleName, unchanged]
  exact (List.prefix_append _ _).isInfix

theorem createNetwork_builds {nicRequest : Option NicRequest}
    (member : nicRequest ∈ data.nicRequests) :
    BuildsOnly (PlansWith data inboundRules) (createNetwork request data inboundRules nicRequest) := by
  cases nicRequest with
  | none => trivial
  | some nicRequest =>
      apply Within.bind (createNetworkForVm_builds member _ _ _ _)
      intro nic
      apply Within.bind (within_ofExcept _)
      intro ipConfiguration
      apply Within.bind (BuildsOnly.read rfl rfl)
      intro _
      apply Within.bind
      · apply BuildsOnly.createNetworkSecurityGroupRules
        intro ruleData ruleMem priority
        rcases mem_namedInboundRules ruleMem priority with ⟨rule, inRules, named, _⟩
        rw [named]
        exact Or.inr ⟨rfl, rule, inRules, rfl⟩
      · intro _
        trivial

/-- The rules of an interface are all it builds after the interface itself. -/
theorem createInboundRules_builds (address : Text) :
    BuildsOnly (PlansWith { data with nicRequests := [] } inboundRules) (createNetworkSecurityGroupRules
      (getSubnetsNsgName data.reservationId) (namedInboundRules data.vmName inboundRules) address
      (.resource (getSubnetsNsgName data.reservationId)) (some 1000)) := by
  apply BuildsOnly.createNetworkSecurityGroupRules
  intro ruleData ruleMem priority
  rcases mem_namedInboundRules ruleMem priority with ⟨rule, inRules, named, _⟩
  rw [named]
  exact Or.inr ⟨rfl, rule, inRules, rfl⟩

theorem createVm_builds (isPlanned : planned (.virtualMachine data.vmName))
    (nics : List NetworkInterface) :
    BuildsOnly planned (VirtualMachineService.createVm
      (VirtualMachineService.requestedMachine data.vmName nics)) := by
  let vm := VirtualMachineService.requestedMachine data.vmName nics
  have machine : BuildsOnly planned (send (.putVirtualMachine vm)) :=
    BuildsOnly.write rfl isPlanned rfl
  apply Within.retry
  apply Within.retry
  apply Within.bind machine
  intro _
  apply Within.bind TaskWaiterService.waitForTask_builds
  intro _
  trivial

theorem createVmAction_builds (isPlanned : planned (.virtualMachine data.vmName))
    (nics : List NetworkInterface) : BuildsOnly planned (createVmAction request data nics) := by
  unfold createVmAction
  split
  · apply Within.bind (within_ofExcept _)
    intro _
    apply Within.bind (within_ofExcept _)
    intro _
    exact createVm_builds isPlanned nics
  · apply Within.bind BuildsOnly.checkIfCancelled
    intro _
    apply Within.bind (within_ofExcept _)
    intro _
    apply Within.bind (BuildsOnly.read rfl rfl)
    intro _
    apply Within.bind (within_ofExcept _)
    intro _
    exact createVm_builds isPlanned nics

theorem createVmCustomScriptExtension_builds :
    BuildsOnly planned (createVmCustomScriptExtension request data) := by
  apply Within.when
  intro _
  apply Within.bind BuildsOnly.checkIfCancelled
  intro _
  apply Within.bind
  · apply Within.catching
    · apply Within.retry
      apply Within.bind (BuildsOnly.read rfl rfl)
      intro reachable
      apply Within.when
      intro _
      apply Within.bind (BuildsOnly.read rfl rfl)
      intro poller
      exact TaskWaiterService.waitForTaskWithTimeout_builds poller
    · intro e
      split <;> trivial
  · intro _
    exact BuildsOnly.checkIfCancelled

/-- The common objects with the inbound rules they are created with. -/
theorem createVmCommonObjects_buildsWith
    (parsed : ∀ rules, RulesAttributeParser.parsePortGroupAttribute
      request.deploymentModel.inboundPorts = .ok rules → rules = inboundRules) :
    BuildsOnly (PlansWith data inboundRules) (createVmCommonObjects request data) := by
  apply Within.bind createVmNetworkSecurityGroup_builds
  intro _
  apply Within.ofExcept_bind
  intro rules isParsed
  rcases parsed rules isParsed with rfl
  apply Within.bind (BuildsOnly.read rfl rfl)
  intro _
  apply Within.bind
  · exact Within.collect fun nicRequest member => createNetwork_builds member
  intro nics
  apply Within.bind
  · apply Within.when
    intro _
    exact Within.retry (BuildsOnly.read rfl rfl) 4
  intro _
  apply Within.bind BuildsOnly.checkIfCancelled
  intro _
  trivial

theorem plans_of_plansWith (noBlank : ' ' ∉ data.vmName) {resource : Resource}
    (plansWith : PlansWith data inboundRules resource) : Plans data resource := by
  cases resource with
  | securityRule nsg name =>
      rcases plansWith with own | ⟨isSubnets, rule, _, rfl⟩
      · exact Or.inl own
      · exact Or.inr ⟨isSubnets, infix_inboundPortsRuleName noBlank rule⟩
  | _ => exact plansWith

theorem Builds.mono {larger : Resource → Prop} {sent : Request} (builds : Builds planned sent)
    (included : ∀ resource, planned resource → larger resource) : Builds larger sent where
  creates := fun resource isCreated => included resource (builds.creates resource isCreated)
  deletes := builds.deletes

theorem createVmCommonObjects_builds (noBlank : ' ' ∉ data.vmName) :
    BuildsOnly (Plans data) (createVmCommonObjects request data) := by
  have included : ∀ inboundRules resource, PlansWith data inboundRules resource →
      Plans data resource := fun _ _ => plans_of_plansWith noBlank
  cases outcome : RulesAttributeParser.parsePortGroupAttribute
      request.deploymentModel.inboundPorts with
  | error e =>
      have builds : BuildsOnly (PlansWith data []) (createVmCommonObjects request data) := by
        apply createVmCommonObjects_buildsWith
        intro rules isOk
        rw [outcome] at isOk
        cases isOk
      exact builds.mono fun _ isBuilds => Builds.mono isBuilds (included [])
  | ok rules =>
      have builds : BuildsOnly (PlansWith data rules) (createVmCommonObjects request data) := by
        apply createVmCommonObjects_buildsWith
        intro others isOk
        rw [outcome] at isOk
        exact (Except.ok.inj isOk).symm
      exact builds.mono fun _ isBuilds => Builds.mono isBuilds (included rules)

theorem scriptTimeout_builds (e : PyException) : BuildsOnly planned (scriptTimeout e) := by
  unfold scriptTimeout
  split <;> trivial

/-- What follows the creation of the machine in the block only reads. -/
theorem extension_builds :
    BuildsOnly planned ((do
      createVmCustomScriptExtension request data
      pure none).catching scriptTimeout) := by
  apply Within.catching
  · exact createVmCustomScriptExtension_builds.bind fun _ => trivial
  · exact scriptTimeout_builds

theorem tryBlock_builds (noBlank : ' ' ∉ data.vmName) :
    BuildsOnly (Plans data) (tryBlock request data) := by
  apply Within.bind (createVmCommonObjects_builds noBlank)
  intro nics
  have isPlanned : Plans data (.virtualMachine data.vmName) := rfl
  apply Within.bind
  · apply Within.catching (createVmAction_builds isPlanned nics)
    intro e
    trivial
  intro vm
  apply Within.bind BuildsOnly.checkIfCancelled
  intro _
  exact extension_builds.bind fun _ => trivial

/-! ## After the block -/

theorem getPublicIp_builds (ipName : Text) :
    BuildsOnly planned (NetworkService.getPublicIp ipName) :=
  Within.retry (BuildsOnly.read rfl rfl) 4

theorem afterBlock_builds (privateIps : List Text) (block : VirtualMachine × Option Text) :
    BuildsOnly planned (afterBlock request data privateIps block) := by
  apply Within.bind
  · apply Within.when
    intro _
    exact BuildsOnly.read rfl rfl
  intro _
  apply Within.bind
  · unfold deployedPublicIp
    split
    · unfold getPublicIpAddress
      split
      · apply Within.bind (getPublicIp_builds _)
        intro publicIp
        exact BuildsOnly.checkIfCancelled.bind fun _ => trivial
      · trivial
    · trivial
  intro publicIpAddress
  apply Within.bind
  · apply Within.collect
    intro networkInterface _
    apply Within.bind (BuildsOnly.read rfl rfl)
    intro nic
    apply Within.bind (within_ofExcept _)
    intro ipConfiguration
    split
    · exact (getPublicIp_builds _).bind fun _ => trivial
    · trivial
  intro vmNetworkData
  trivial

end DeployAzureVMOperation

end AzureShell
