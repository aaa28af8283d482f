import AzureShell.Deploy.Faults
import AzureShell.Deploy.Requests
import AzureShell.Prog.Trace

/-!
# Where a deployment attaches its machine

Every interface a deployment creates is attached to the subnet of one of its
requests for interfaces, whatever the services answer.
-/

namespace AzureShell

open Prog

/-- An interface the request creates is attached to an allowed subnet. -/
def Attaches (allowed : Text → Prop) (request : Request) : Prop :=
  ∀ parameters, request = .putNetworkInterface parameters → allowed parameters.subnetId

namespace DeployAzureVMOperation

variable {request : DeployRequest} {data : DeployDataModel}

/-- The subnets of the requests for interfaces. -/
def RequestedSubnet (data : DeployDataModel) (subnetName : Text) : Prop :=
  ∃ nicRequest, some nicRequest ∈ data.nicRequests ∧ subnetName = nicRequest.subnet.name

theorem tryBlock_attaches : Within (Attaches (RequestedSubnet data)) (tryBlock request data) := by
  apply tryBlock_sends.mono
  rintro sent sends parameters rfl
  cases sends with
  | putNetworkInterface nicRequest member _ _ _ => exact ⟨nicRequest, member, rfl⟩

theorem attaches_of_reads {allowed : Text → Prop} {sent : Request} (reads : Reads sent) :
    Attaches allowed sent := by
  rintro parameters rfl
  cases reads

theorem rollbackDeployedResources_attaches {allowed : Text → Prop} (privateIps : List Text) :
    Within (Attaches allowed) (rollbackDeployedResources request data privateIps) := by
  apply (rollbackDeployedResources_sends privateIps).mono
  rintro sent sends parameters rfl
  cases sends with
  | deletion deletes => cases deletes
  | releaseFromPool values isRelease => cases isRelease
  | nsgArtifacts deletes => rcases deletes with same | ⟨_, _, same⟩ | ⟨_, _, _, _, same⟩ <;> cases same

/-- The interfaces of a deployment are attached to the subnets it asked for. -/
theorem deployVmGeneric_attaches {state : FaultyAzure} {parameters : NetworkInterfaceParameters}
    (member : Request.putNetworkInterface parameters ∈
      requests services (deployVmGeneric request) state) :
    ∃ data, Found request state.2 data ∧ RequestedSubnet data parameters.subnetId := by
  rcases mem_requests_bind member with inPreparation | ⟨data, prepared, preparedRun, inRest⟩
  · cases prepareDeployData_reads.of_mem_requests inPreparation
  · refine ⟨data, prepareDeployData_found preparedRun, ?_⟩
    have within : Within (Attaches (RequestedSubnet data)) (do
        CommandCancellationService.checkIfCancelled
        fromBlock request data) := by
      apply (checkIfCancelled_reads.mono fun _ => attaches_of_reads).bind
      intro _
      apply fromBlock_within tryBlock_attaches rollbackDeployedResources_attaches
      intro privateIps block
      exact (afterBlock_reads privateIps block).mono fun _ => attaches_of_reads
    exact within.of_mem_requests inRest parameters rfl

end DeployAzureVMOperation

end AzureShell
