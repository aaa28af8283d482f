import AzureShell.Deploy.Faults
import AzureShell.Prog.Extend
import AzureShell.Sandbox.SubnetCalls

/-!
# Route tables

`create_route_tables` creates the route tables of a request in the resource group of
the sandbox and sets each on the subnets it is for.  The whole creation of a table is
retried on retryable errors; the subnets are read and written back one by one under
the lock for subnet updates.
-/

namespace AzureShell

open Prog

structure Route where
  name : Text
  nextHopIpAddress : Text
  nextHopType : Text
  addressPrefix : Text
deriving DecidableEq, Repr

structure RouteTable where
  name : Text
  /-- The resource id, which Azure gives. -/
  id : Text
  location : Text
  routes : List Route
deriving DecidableEq, Repr

structure RouteResourceModel where
  name : Text
  routeAddressPrefix : Text
  nextHopType : Text
  nextHopeAddress : Text
deriving DecidableEq, Repr

structure RouteTableRequestResourceModel where
  name : Text
  routes : List RouteResourceModel
  /-- The names of the subnets the table is for. -/
  subnets : List Text
deriving DecidableEq, Repr

/-! ## The services -/

/-- The calls that only route tables need. -/
inductive RouteRequest where
  | putRouteTable (group name location : Text) (routes : List Route)
  | getRouteTable (group name : Text)
  | getSubnet (group network name : Text)
deriving DecidableEq

@[reducible]
def RouteRequest.Answer : RouteRequest → Type
  | putRouteTable _ _ _ _ => Unit
  | getRouteTable _ _ => RouteTable
  | getSubnet _ _ _ => Subnet

abbrev RoutedServices : Signature :=
  AzureServices.extend RouteRequest RouteRequest.Answer

/-- A program of the shell that works with route tables. -/
abbrev RoutedShell (α : Type) :=
  Prog RoutedServices α

/-- Make a request of the shell. -/
def sendShell (request : Request) : RoutedShell request.Answer :=
  Prog.perform (S := RoutedServices) (Sum.inl request)

/-- Make a request about route tables. -/
def sendRoute (request : RouteRequest) : RoutedShell request.Answer :=
  Prog.perform (S := RoutedServices) (Sum.inr request)

/-- Azure with its route tables. -/
structure RoutedAzure where
  azure : Azure
  /-- Route tables by resource group. -/
  routeTables : Text → List RouteTable
  /-- The ids Azure gives to route tables, by resource group and name. -/
  routeTableId : Text → Text → Text

namespace RoutedAzure

/-- Write a route table. -/
def putRouteTable (state : RoutedAzure) (group : Text) (routeTable : RouteTable) : RoutedAzure :=
  let stored := Store.upsert RouteTable.name routeTable (state.routeTables group)
  { state with routeTables := Function.update state.routeTables group stored }

/-- A resource group is deleted with its route tables. -/
def routeTablesAfter (state : RoutedAzure) : Request → Text → List RouteTable
  | .deleteResourceGroup name => Function.update state.routeTables name []
  | _ => state.routeTables

/-- The subnet of a name. -/
def subnet (state : RoutedAzure) (group network name : Text) : Option Subnet :=
  Store.lookup Subnet.name name ((state.azure.subnetsOf group network).getD [])

/-- The route table of a name. -/
def routeTable (state : RoutedAzure) (group name : Text) : Option RouteTable :=
  Store.lookup RouteTable.name name (state.routeTables group)

/-- How a request of the shell is answered, and what it changes. -/
def handleShell : Handler AzureServices RoutedAzure :=
  fun request state =>
    let reaction := Azure.handle false request state.azure
    (reaction.1,
      { state with azure := reaction.2, routeTables := state.routeTablesAfter request })

/-- How a request is answered, and what it changes. -/
def handle : Handler RoutedServices RoutedAzure
  | .inl request, state => handleShell request state
  | .inr (.putRouteTable group name location routes), state =>
      (.ok (), state.putRouteTable group ⟨name, state.routeTableId group name, location, routes⟩)
  | .inr (.getRouteTable group name), state =>
      (Azure.find RouteTable.name name (state.routeTables group), state)
  | .inr (.getSubnet group network name), state =>
      (Azure.find Subnet.name name ((state.azure.subnetsOf group network).getD []), state)

theorem handle_extends : Extends handle handleShell :=
  fun _ _ => rfl

end RoutedAzure

/-- Azure with its route tables and the fates of the calls to come. -/
abbrev FaultyRoutedAzure :=
  List (Fate ServiceError) × RoutedAzure

/-- The services with calls that fail, for programs without route tables. -/
def shellServices : Handler AzureServices FaultyRoutedAzure :=
  faulty Request.mayFail ServiceError.toException RoutedAzure.handleShell

/-- The services with calls that fail. -/
def routedServices : Handler RoutedServices FaultyRoutedAzure :=
  faulty (Sum.elim Request.mayFail fun _ => true) ServiceError.toException RoutedAzure.handle

theorem routedServices_extends : Extends routedServices shellServices :=
  RoutedAzure.handle_extends.faulty

/-- A failing call changes the state like a completed one, or not at all. -/
theorem routedServices_state (request : RoutedServices.Request) (state : FaultyRoutedAzure) :
    (routedServices request state).2.2 = (RoutedAzure.handle request state.2).2 ∨
      (routedServices request state).2.2 = state.2 :=
  faulty_state _ _ _ request state

/-- A call that is answered well took effect. -/
theorem routedServices_of_ok {request : RoutedServices.Request} {state : FaultyRoutedAzure}
    {a : RoutedServices.Answer request}
    (answered : (routedServices request state).1 = .ok a) :
    RoutedAzure.handle request state.2 = (.ok a, (routedServices request state).2.2) := by
  rcases state with ⟨fates, before⟩
  exact faulty_of_ok (Prod.ext answered rfl)

theorem find_eq_ok_iff {α : Type} {key : α → Text} {name : Text} {items : List α} {item : α} :
    Azure.find key name items = .ok item ↔ Store.lookup key name items = some item := by
  unfold Azure.find
  split <;> simp_all

/-! ## The commands -/

/-- The route that a model asks for. -/
def RouteResourceModel.toRoute (routeRequest : RouteResourceModel) : Route where
  name := routeRequest.name
  nextHopIpAddress := routeRequest.nextHopeAddress
  nextHopType := routeRequest.nextHopType
  addressPrefix := routeRequest.routeAddressPrefix

/-- The table that a model asks for, with the id Azure gives it. -/
def RouteTableRequestResourceModel.toRouteTable
    (routetableRequest : RouteTableRequestResourceModel) (region id : Text) : RouteTable where
  name := routetableRequest.name
  id := id
  location := region
  routes := routetableRequest.routes.map RouteResourceModel.toRoute

/-- `create_route_table` of the network service. -/
def NetworkService.createRouteTable (region : Text)
    (routetableRequest : RouteTableRequestResourceModel) (sandboxResourceGroup : Text) :
    RoutedShell Unit :=
  sendRoute (.putRouteTable sandboxResourceGroup routetableRequest.name region
    (routetableRequest.routes.map RouteResourceModel.toRoute))

/-- Set a route table on a subnet, all else of which stays as it is read. -/
def NetworkService.setRouteTable (routeTable : RouteTable) (subnetsRg subnetsVnet subnet : Text) :
    RoutedShell Unit := do
  let subnetObj ← sendRoute (.getSubnet subnetsRg subnetsVnet subnet)
  sendShell (.putSubnet subnetsRg subnetsVnet { subnetObj with routeTable := some routeTable.id })

/-- `add_route_table_to_subnets`. -/
def NetworkService.addRouteTableToSubnets (routesRg routeTableName : Text) (subnets : List Text)
    (subnetsRg subnetsVnet : Text) : RoutedShell Unit := do
  let routeTable ← sendRoute (.getRouteTable routesRg routeTableName)
  forEach subnets fun subnet => setRouteTable routeTable subnetsRg subnetsVnet subnet

/-- The `name` of a network that may be absent. -/
def networkName (sandboxVnet : Option VirtualNetwork) : Except PyException Text :=
  match sandboxVnet with
  | some network => .ok network.name
  | none => .error (.attributeError "'NoneType' object has no attribute 'name'".toList)

/-- One attempt of `create_route_table`. -/
def AddRouteOperation.tryRouteTable (routeTableRequest : RouteTableRequestResourceModel)
    (region managementGroupName sandboxId : Text) : RoutedShell Unit := do
  let sandboxVnet ← extend (NetworkService.getSandboxVirtualNetwork managementGroupName)
  let sandboxVnetName ← ofExcept (networkName sandboxVnet)
  NetworkService.createRouteTable region routeTableRequest sandboxId
  withLock .subnetLocker <|
    NetworkService.addRouteTableToSubnets sandboxId routeTableRequest.name
      routeTableRequest.subnets managementGroupName sandboxVnetName

/-- `create_route_table`. -/
def AddRouteOperation.createRouteTable (routeTableRequest : RouteTableRequestResourceModel)
    (region managementGroupName sandboxId : Text) : RoutedShell Unit :=
  retry retryIfRetryableError (retryableErrorMaxAttempts - 1) <|
    tryRouteTable routeTableRequest region managementGroupName sandboxId

/-- `create_route_tables`, from the models of the request on: the reservation's output
shows the request and the names of the routes. -/
def createRouteTables (routeTableRequestModels : List RouteTableRequestResourceModel)
    (region managementGroupName reservationId : Text) : RoutedShell Unit :=
  forEach routeTableRequestModels fun routeTableRequestModel => do
    sendShell (.external .reservationOutput)
    forEach routeTableRequestModel.routes fun _ => sendShell (.external .reservationOutput)
    AddRouteOperation.createRouteTable routeTableRequestModel region managementGroupName
      reservationId

end AzureShell
