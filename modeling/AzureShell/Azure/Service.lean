import AzureShell.Azure.Model
import AzureShell.Net.Cidr
import AzureShell.Prog.Core

/-!
# The requests the shell makes

Every call of an Azure client or of the CloudShell API is one request, with a
handler that says how the resources react.  Deleting an absent resource is
answered either with "Not Found" or with nothing to do; the handler takes the
choice as a parameter.
-/

namespace AzureShell

/-- Calls of which the shell only learns whether they succeeded. -/
inductive External where
  | resourceGroup
  /-- The storage account of a sandbox and the key pair in it. -/
  | storageAndKeyPairs
  | imageData
  | sandboxStorageAccount
  | customImage
  | vmCredentials
  /-- `result` of the poller of a virtual machine creation. -/
  | vmResult
  /-- `result` of the poller of an extension. -/
  | extensionResult
  | reservationOutput
  /-- `SetAttributeValue` of the CloudShell session. -/
  | setAttributeValue (resourceFullname attributeName : Text) (value : Option Text)
  /-- `UpdateResourceAddress` of the CloudShell session. -/
  | updateResourceAddress (resourceFullname address : Text)
deriving DecidableEq, Repr

/-- The parameters of a network interface creation. -/
structure NetworkInterfaceParameters where
  name : Text
  privateIpAllocationMethod : IPAllocationMethod
  privateIpAddress : Option Text
  subnetId : Text
  publicIpAddressId : Option Text
deriving DecidableEq, Repr

inductive Request where
  | listSecurityRules (nsg : Text)
  | putSecurityRule (nsg : Text) (rule : SecurityRule)
  | deleteSecurityRule (nsg rule : Text)
  | listNetworkSecurityGroups
  | putNetworkSecurityGroup (name : Text)
  | deleteNetworkSecurityGroup (name : Text)
  | getVirtualMachine (name : Text)
  | putVirtualMachine (vm : VirtualMachine)
  | deleteVirtualMachine (name : Text)
  | getNetworkInterface (name : Text)
  | putNetworkInterface (parameters : NetworkInterfaceParameters)
  | deleteNetworkInterface (name : Text)
  | getPublicIpAddress (name : Text)
  | putPublicIpAddress (name : Text)
  | deletePublicIpAddress (name : Text)
  | deleteDisk (disk : Disk)
  | listVirtualNetworks (group : Text)
  | putSubnet (group network : Text) (subnet : Subnet)
  | deleteSubnet (group network name : Text)
  /-- Delete the resource group of the sandbox with all that is in it. -/
  | deleteResourceGroup (name : Text)
  | checkoutFromPool (poolId reservationId ownerId subnetRange : Text)
  | releaseFromPool (values : List Text) (poolId reservationId ownerId : Text)
  /-- `cancellation_context.is_cancelled`. -/
  | isCancelled
  /-- How often the poller of a virtual machine creation is found not done. -/
  | pollVirtualMachine
  /-- `URLHelper.check_url` on the extension script. -/
  | checkUrl (url : Text)
  /-- Start an extension; the answer says how often its poller is found not
  done and whether the timeout passes first. -/
  | putExtension (vmName : Text)
  /-- `data.all_private_ip_addresses.append`: a note of the deployment to itself. -/
  | recordPrivateIp (address : Text)
  /-- `GenericLockProvider.get_resource_lock`. -/
  | getResourceLock (lockKey : Text)
  /-- `GenericLockProvider.remove_lock_resource`. -/
  | removeLockResource (lockKey : Text)
  | external (service : External)
deriving DecidableEq

/-- The answer to a request. -/
@[reducible]
def Request.Answer : Request → Type
  | listSecurityRules _ => List SecurityRule
  | listNetworkSecurityGroups => List NetworkSecurityGroup
  | getVirtualMachine _ => VirtualMachine
  | getNetworkInterface _ => NetworkInterface
  | putNetworkInterface _ => NetworkInterface
  | getPublicIpAddress _ => PublicIpAddress
  | putPublicIpAddress _ => PublicIpAddress
  | listVirtualNetworks _ => List VirtualNetwork
  | checkoutFromPool _ _ _ _ => Text
  | isCancelled => Bool
  | pollVirtualMachine => Nat
  | checkUrl _ => Bool
  | putExtension _ => Nat × Bool
  | _ => Unit

/-- The locks of the shell: those of the lock provider, by key, and the one
lock for subnet updates. -/
inductive LockName where
  | resource (lockKey : Text)
  | subnetLocker
deriving DecidableEq

/-- The services the shell calls. -/
abbrev AzureServices : Signature where
  Request := Request
  Answer := Request.Answer
  Error := PyException
  Lock := LockName

/-- A program of the shell. -/
abbrev Shell (α : Type) :=
  Prog AzureServices α

/-- Make one request. -/
def send (request : Request) : Shell request.Answer :=
  Prog.perform (S := AzureServices) request

namespace Azure

/-- Find the element of a name or answer "Not Found". -/
def find {α : Type} (key : α → Text) (name : Text) (items : List α) : Except PyException α :=
  match Store.lookup key name items with
  | some item => .ok item
  | none => .error .notFound

theorem find_eq_ok {α : Type} {key : α → Text} {name : Text} {items : List α} {item : α}
    (stored : Store.lookup key name items = some item) : find key name items = .ok item := by
  rw [find, stored]

theorem find_eq_error {α : Type} {key : α → Text} {name : Text} {items : List α}
    {e : PyException} (failed : find key name items = .error e) : e = .notFound := by
  unfold find at failed
  split at failed
  · cases failed
  · exact (Except.error.inj failed).symm

/-- Change the stored security groups. -/
def onSecurityGroups (azure : Azure)
    (change : List NetworkSecurityGroup → List NetworkSecurityGroup) : Azure :=
  { azure with networkSecurityGroups := change azure.networkSecurityGroups }

/-- Change the stored virtual machines. -/
def onVirtualMachines (azure : Azure)
    (change : List VirtualMachine → List VirtualMachine) : Azure :=
  { azure with virtualMachines := change azure.virtualMachines }

/-- Change the stored network interfaces. -/
def onNetworkInterfaces (azure : Azure)
    (change : List NetworkInterface → List NetworkInterface) : Azure :=
  { azure with networkInterfaces := change azure.networkInterfaces }

/-- Change the stored public addresses. -/
def onPublicIpAddresses (azure : Azure)
    (change : List PublicIpAddress → List PublicIpAddress) : Azure :=
  { azure with publicIpAddresses := change azure.publicIpAddresses }

/-- Change the rules of a security group in place. -/
def modifyRules (azure : Azure) (nsg : Text)
    (change : List SecurityRule → List SecurityRule) : Azure :=
  azure.onSecurityGroups <| Store.modify NetworkSecurityGroup.name nsg fun group =>
    { group with securityRules := change group.securityRules }

/-- Note a create request that took effect. -/
def logCreated (azure : Azure) (resource : Resource) : Azure :=
  { azure with created := resource :: azure.created }

/-- The disks with one that comes with a new machine. -/
def disksWith (azure : Azure) : Option Disk → List Disk
  | some disk => azure.disks.insert disk
  | none => azure.disks

/-- The answer to the deletion of a resource, present or not. -/
def deletion (strict present : Bool) : Except PyException Unit :=
  if strict && !present then .error .notFound else .ok ()

/-- The interface a creation request leaves. -/
def newInterface (azure : Azure) (parameters : NetworkInterfaceParameters) : NetworkInterface where
  name := parameters.name
  ipConfigurations :=
    [{ privateIpAddress :=
        match parameters.privateIpAllocationMethod with
        | .static => parameters.privateIpAddress.getD []
        | .dynamic => azure.dynamicIp parameters.name
       privateIpAllocationMethod := parameters.privateIpAllocationMethod
       subnetId := parameters.subnetId
       publicIpAddressId := parameters.publicIpAddressId }]

/-- Change the subnets of a virtual network in place. -/
def modifySubnets (azure : Azure) (group network : Text)
    (change : List Subnet → List Subnet) : Azure :=
  let changed := (azure.virtualNetworks group) |> Store.modify VirtualNetwork.name network
    fun virtualNetwork => { virtualNetwork with subnets := change virtualNetwork.subnets }
  { azure with virtualNetworks := Function.update azure.virtualNetworks group changed }

/-- The subnets of a virtual network, if the network exists. -/
def subnetsOf (azure : Azure) (group network : Text) : Option (List Subnet) :=
  (Store.lookup VirtualNetwork.name network (azure.virtualNetworks group)).map
    VirtualNetwork.subnets

/-- Whether two address blocks have addresses in common. -/
def prefixesOverlap (first second : Text) : Bool :=
  match Net.Cidr.parse first, Net.Cidr.parse second with
  | some one, some other => one.contains other.address || other.contains one.address
  | _, _ => false

/-- Whether the block of a subnet is taken by a subnet of another name. -/
def subnetTaken (subnets : List Subnet) (subnet : Subnet) : Bool :=
  subnets.any fun other =>
    other.name ≠ subnet.name && prefixesOverlap other.addressPrefix subnet.addressPrefix

/-- The answer to a subnet whose block is taken. -/
def invalidSubnet : PyException :=
  .cloudError "Bad Request".toList "NetcfgInvalidSubnet".toList

/-- The first free address of a range that is not checked out of the pool. -/
def nextAvailableIp (azure : Azure) (poolId subnetRange : Text) : Option Text :=
  (azure.availableIps subnetRange).find? fun address =>
    azure.checkedOut.all fun item => !(item.poolId = poolId ∧ item.address = address)

/-- How Azure and CloudShell answer a request, and what it changes. -/
def handle (strict : Bool) : Handler AzureServices Azure
  | .listSecurityRules nsg, azure =>
      (match azure.rulesOf nsg with
        | some rules => .ok rules
        | none => .error .notFound, azure)
  | .putSecurityRule nsg rule, azure =>
      if (azure.rulesOf nsg).isSome then
        (.ok (), (azure.modifyRules nsg (Store.upsert SecurityRule.name rule)).logCreated
          (.securityRule nsg rule.name))
      else
        (.error .notFound, azure)
  | .deleteSecurityRule nsg rule, azure =>
      let present := ((azure.rulesOf nsg).getD []).any fun other => other.name = rule
      (deletion strict present, azure.modifyRules nsg (Store.erase SecurityRule.name rule))
  | .listNetworkSecurityGroups, azure => (.ok azure.networkSecurityGroups, azure)
  | .putNetworkSecurityGroup name, azure =>
      (.ok (), (azure.onSecurityGroups (Store.upsert NetworkSecurityGroup.name ⟨name, []⟩)).logCreated
        (.networkSecurityGroup name))
  | .deleteNetworkSecurityGroup name, azure =>
      let present := azure.networkSecurityGroups.any fun group => group.name = name
      (deletion strict present,
        azure.onSecurityGroups (Store.erase NetworkSecurityGroup.name name))
  | .getVirtualMachine name, azure =>
      (find VirtualMachine.name name azure.virtualMachines, azure)
  | .putVirtualMachine vm, azure =>
      let created := (azure.onVirtualMachines (Store.upsert VirtualMachine.name vm)).logCreated
        (.virtualMachine vm.name)
      (.ok (), { created with disks := azure.disksWith vm.managedDisk })
  | .deleteVirtualMachine name, azure =>
      let present := azure.virtualMachines.any fun vm => vm.name = name
      (deletion strict present, azure.onVirtualMachines (Store.erase VirtualMachine.name name))
  | .getNetworkInterface name, azure =>
      (find NetworkInterface.name name azure.networkInterfaces, azure)
  | .putNetworkInterface parameters, azure =>
      let nic := azure.newInterface parameters
      (.ok nic, (azure.onNetworkInterfaces (Store.upsert NetworkInterface.name nic)).logCreated
        (.networkInterface parameters.name))
  | .deleteNetworkInterface name, azure =>
      let present := azure.networkInterfaces.any fun nic => nic.name = name
      (deletion strict present,
        azure.onNetworkInterfaces (Store.erase NetworkInterface.name name))
  | .getPublicIpAddress name, azure =>
      (find PublicIpAddress.name name azure.publicIpAddresses, azure)
  | .putPublicIpAddress name, azure =>
      let ip : PublicIpAddress := ⟨name, azure.publicIp name⟩
      (.ok ip, (azure.onPublicIpAddresses (Store.upsert PublicIpAddress.name ip)).logCreated
        (.publicIpAddress name))
  | .deletePublicIpAddress name, azure =>
      let present := azure.publicIpAddresses.any fun ip => ip.name = name
      (deletion strict present,
        azure.onPublicIpAddresses (Store.erase PublicIpAddress.name name))
  | .deleteDisk disk, azure =>
      (deletion strict (disk ∈ azure.disks), { azure with disks := azure.disks.filter (· ≠ disk) })
  | .listVirtualNetworks group, azure => (.ok (azure.virtualNetworks group), azure)
  | .putSubnet group network subnet, azure =>
      match azure.subnetsOf group network with
      | none => (.error .notFound, azure)
      | some subnets =>
          if subnetTaken subnets subnet then (.error invalidSubnet, azure)
          else (.ok (), azure.modifySubnets group network (Store.upsert Subnet.name subnet))
  | .deleteSubnet group network name, azure =>
      let present := ((azure.subnetsOf group network).getD []).any fun subnet => subnet.name = name
      (deletion strict present, azure.modifySubnets group network (Store.erase Subnet.name name))
  | .deleteResourceGroup _, azure =>
      (.ok (), { azure with
        networkSecurityGroups := []
        virtualMachines := []
        networkInterfaces := []
        publicIpAddresses := []
        disks := [] })
  | .checkoutFromPool poolId reservationId ownerId subnetRange, azure =>
      match azure.nextAvailableIp poolId subnetRange with
      | some address =>
          (.ok address, { azure with checkedOut :=
            ⟨address, poolId, reservationId, ownerId⟩ :: azure.checkedOut })
      | none => (.error (.exception "Could not find available IP.".toList), azure)
  | .releaseFromPool values poolId reservationId ownerId, azure =>
      let items := values.map fun address => ⟨address, poolId, reservationId, ownerId⟩
      (.ok (), { azure with
        released := items ++ azure.released
        checkedOut := azure.checkedOut.filter (· ∉ items) })
  | .isCancelled, azure =>
      (.ok (azure.cancellations.headD false), { azure with cancellations := azure.cancellations.tail })
  | .pollVirtualMachine, azure => (.ok azure.pendingPolls, azure)
  | .checkUrl url, azure => (.ok (azure.reachable url), azure)
  | .putExtension _, azure => (.ok (azure.pendingPolls, azure.extensionTimesOut), azure)
  | .recordPrivateIp _, azure => (.ok (), azure)
  | .getResourceLock _, azure => (.ok (), azure)
  | .removeLockResource _, azure => (.ok (), azure)
  | .external _, azure => (.ok (), azure)

end Azure

theorem run_getResourceLock (strict : Bool) (lockKey : Text) (azure : Azure) :
    Prog.run (Azure.handle strict) (send (.getResourceLock lockKey)) azure = (.ok (), azure) :=
  rfl

theorem run_send {σ : Type} (handler : Handler AzureServices σ) (request : Request) (s : σ) :
    Prog.run handler (send request) s = handler request s :=
  rfl

/-! ## Reads of what is stored -/

variable {strict : Bool} {name : Text} {azure : Azure}

theorem run_getVirtualMachine {vm : VirtualMachine}
    (stored : Store.lookup VirtualMachine.name name azure.virtualMachines = some vm) :
    Prog.run (Azure.handle strict) (send (.getVirtualMachine name)) azure = (.ok vm, azure) :=
  Prod.ext (Azure.find_eq_ok stored) rfl

theorem run_getNetworkInterface {nic : NetworkInterface}
    (stored : Store.lookup NetworkInterface.name name azure.networkInterfaces = some nic) :
    Prog.run (Azure.handle strict) (send (.getNetworkInterface name)) azure = (.ok nic, azure) :=
  Prod.ext (Azure.find_eq_ok stored) rfl

theorem run_getPublicIpAddress {ip : PublicIpAddress}
    (stored : Store.lookup PublicIpAddress.name name azure.publicIpAddresses = some ip) :
    Prog.run (Azure.handle strict) (send (.getPublicIpAddress name)) azure = (.ok ip, azure) :=
  Prod.ext (Azure.find_eq_ok stored) rfl

end AzureShell
