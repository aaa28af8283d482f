import AzureShell.Clients.SingletonByArgs

/-!
# The clients manager of an Azure session

`AzureClientsManager` is a singleton by the subscription, the application id,
the application key and the tenant of a cloud provider.  Its constructor asks
Azure for service credentials, which Azure may refuse.
-/

namespace AzureShell

open SingletonByArgsMeta

/-- What a cloud provider resource holds for an Azure session. -/
structure AzureSession where
  azureSubscriptionId : Text
  azureApplicationId : Text
  azureApplicationKey : Text
  azureTenant : Text
deriving DecidableEq, Repr

/-- `ServicePrincipalCredentials`. -/
structure ServicePrincipalCredentials where
  clientId : Text
  secret : Text
  tenant : Text
deriving DecidableEq, Repr

/-- The attributes that the constructor of `AzureClientsManager` sets from its
argument. -/
structure AzureClientsManager where
  subscriptionId : Text
  applicationId : Text
  applicationKey : Text
  tenant : Text
  serviceCredentials : ServicePrincipalCredentials
deriving DecidableEq, Repr

/-- `AzureClientsManager(cloud_provider)`, with what Azure would raise when it is
asked for credentials. -/
structure ManagerCall where
  cloudProvider : AzureSession
  refusal : Option PyException
deriving DecidableEq, Repr

namespace AzureClientsManager

/-- `__init__`. -/
def init (request : ManagerCall) : Except PyException AzureClientsManager :=
  let provider := request.cloudProvider
  match request.refusal with
  | some e => .error e
  | none => .ok
      { subscriptionId := provider.azureSubscriptionId
        applicationId := provider.azureApplicationId
        applicationKey := provider.azureApplicationKey
        tenant := provider.azureTenant
        serviceCredentials :=
          ⟨provider.azureApplicationId, provider.azureApplicationKey, provider.azureTenant⟩ }

/-- `check_params_equality`. -/
def checkParamsEquality (manager : AzureClientsManager) (request : ManagerCall) : Bool :=
  let provider := request.cloudProvider
  [decide (provider.azureSubscriptionId = manager.subscriptionId),
    decide (provider.azureApplicationId = manager.applicationId),
    decide (provider.azureApplicationKey = manager.applicationKey),
    decide (provider.azureTenant = manager.tenant)].all id

/-- The session that a manager was constructed for. -/
def session (manager : AzureClientsManager) : AzureSession where
  azureSubscriptionId := manager.subscriptionId
  azureApplicationId := manager.applicationId
  azureApplicationKey := manager.applicationKey
  azureTenant := manager.tenant

theorem session_init {request : ManagerCall} {manager : AzureClientsManager}
    (constructed : init request = .ok manager) : session manager = request.cloudProvider := by
  rw [init] at constructed
  cases refusal : request.refusal with
  | some e => simp [refusal] at constructed
  | none =>
      rw [refusal] at constructed
      rw [← Except.ok.inj constructed]
      rfl

theorem checkParamsEquality_iff (manager : AzureClientsManager) (request : ManagerCall) :
    checkParamsEquality manager request = true ↔ session manager = request.cloudProvider := by
  rcases request with ⟨provider, refusal⟩
  constructor
  · intro equal
    rcases provider with ⟨subscription, application, key, tenant⟩
    simp only [checkParamsEquality, List.all_cons, List.all_nil, id, Bool.and_true,
      Bool.and_eq_true, decide_eq_true_eq] at equal
    rcases equal with ⟨rfl, rfl, rfl, rfl⟩
    rfl
  · rintro rfl
    simp [checkParamsEquality, session]

/-- The class as the metaclass sees it. -/
def comparable : ComparableClass ManagerCall AzureClientsManager AzureSession where
  init := init
  checkParamsEquality := checkParamsEquality
  requested := ManagerCall.cloudProvider
  valueOf := session
  valueOf_init := session_init
  checkParamsEquality_iff := checkParamsEquality_iff

/-- Every returned manager carries the requested values, and calls with equal
values return the same manager. -/
structure IsOnePerSession (calls : List ManagerCall) : Prop where
  carries : ∀ request reference, (request, .ok reference) ∈ answers comparable calls →
    reference.object.subscriptionId = request.cloudProvider.azureSubscriptionId ∧
      reference.object.applicationId = request.cloudProvider.azureApplicationId ∧
      reference.object.applicationKey = request.cloudProvider.azureApplicationKey ∧
      reference.object.tenant = request.cloudProvider.azureTenant
  same : ∀ first second reference other, (first, .ok reference) ∈ answers comparable calls →
    (second, .ok other) ∈ answers comparable calls →
    first.cloudProvider = second.cloudProvider → reference = other

/-- Among the calls that Azure does not refuse, no other session is requested
between two requests for one session. -/
def AreSessionsTogether (calls : List ManagerCall) : Prop :=
  ∀ first between last : ManagerCall,
    List.Sublist [first, between, last] (calls.filter fun request => request.refusal.isNone) →
    first.cloudProvider = last.cloudProvider → between.cloudProvider = first.cloudProvider

/-- The clients of one tenant are never handed to another. -/
theorem session_eq_of_returned {calls : List ManagerCall} {request : ManagerCall}
    {reference : Reference AzureClientsManager}
    (returned : (request, .ok reference) ∈ answers comparable calls) :
    session reference.object = request.cloudProvider :=
  (recorded_answers comparable calls).carries returned

theorem isOk_init_eq (request : ManagerCall) :
    (comparable.init request).isOk = request.refusal.isNone := by
  rcases request with ⟨provider, _ | e⟩
  · rfl
  · rfl

theorem isRequestedTogether_iff (calls : List ManagerCall) :
    IsRequestedTogether comparable calls ↔ AreSessionsTogether calls := by
  have sameCalls : accepted comparable calls =
      calls.filter fun request => request.refusal.isNone := by
    simp [accepted, isOk_init_eq]
  rw [IsRequestedTogether, sameCalls]
  rfl

/-- A session has one clients manager if and only if no other session is
requested between two requests for it. -/
theorem isOnePerSession_iff (calls : List ManagerCall) :
    IsOnePerSession calls ↔ AreSessionsTogether calls := by
  rw [← isRequestedTogether_iff, ← isOnePerValue_iff]
  constructor
  · intro onePerSession
    exact onePerSession.same
  · intro onePerValue
    refine ⟨fun request reference returned => ?_, onePerValue⟩
    rw [← session_eq_of_returned returned]
    exact ⟨rfl, rfl, rfl, rfl⟩

/-- Two requests for one tenant with another in between get two managers. -/
theorem not_isOnePerSession : ¬ ∀ calls : List ManagerCall, IsOnePerSession calls := by
  intro onePerSession
  let first : ManagerCall := ⟨⟨['s'], ['a'], ['k'], ['t']⟩, none⟩
  let between : ManagerCall := ⟨⟨['s'], ['a'], ['k'], ['u']⟩, none⟩
  have same := (onePerSession [first, between, first]).same first first
    ⟨0, ⟨['s'], ['a'], ['k'], ['t'], ⟨['a'], ['k'], ['t']⟩⟩⟩
    ⟨2, ⟨['s'], ['a'], ['k'], ['t'], ⟨['a'], ['k'], ['t']⟩⟩⟩
    (by decide) (by decide) rfl
  simp at same

end AzureClientsManager

end AzureShell
