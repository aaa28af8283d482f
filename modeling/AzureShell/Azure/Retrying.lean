import AzureShell.Azure.Service
import AzureShell.Prog.Tries

/-!
# Retries of the shell's calls

The shell decorates most service methods with a retry on connection errors, and
the creations of interfaces and machines also with one on retryable Azure
errors.
-/

namespace AzureShell

open Prog

/-- `is_pool_closed_error`. -/
def isPoolClosedError (exception : PyException) : Bool :=
  "pool is closed".toList <:+: Text.lower exception.message

/-- `retry_if_connection_error`. -/
def retryIfConnectionError (exception : PyException) : Bool :=
  (match exception with
    | .clientRequestError _ => true
    | _ => false) || isPoolClosedError exception

/-- `retry_if_retryable_error`. -/
def retryIfRetryableError : PyException → Bool
  | .cloudError _ message => "retryable".toList <:+: Text.lower message
  | _ => false

def retryableErrorMaxAttempts : Nat :=
  20

/-- `@retry(stop_max_attempt_number=5, retry_on_exception=retry_if_connection_error)`. -/
def retryConnection {α : Type} (body : Shell α) : Shell α :=
  retry retryIfConnectionError 4 body

/-- `@retry(stop_max_attempt_number=retryable_error_max_attempts,
retry_on_exception=retry_if_retryable_error)`. -/
def retryRetryable {α : Type} (body : Shell α) : Shell α :=
  retry retryIfRetryableError (retryableErrorMaxAttempts - 1) body

/-- An absent resource is not a connection error. -/
@[simp]
theorem retryIfConnectionError_notFound : retryIfConnectionError .notFound = false := by
  decide

/-! ## The tries of a call -/

variable {isFailure : PyException → Prop}

/-- What becomes of a call under `retryConnection`. -/
def triedCall (fates : List (Fate { e // isFailure e })) : Tried { e // isFailure e } :=
  tried (fun e => retryIfConnectionError e.val) 4 fates

theorem run_retryConnection_send {ν : Type} {handler : Handler AzureServices Azure}
    {request : Request} {view : Azure → ν} {old new : ν}
    {answer answerAgain : Except PyException request.Answer}
    (final : ∀ e, answer = .error e → retryIfConnectionError e = false)
    (finalAgain : ∀ e, answerAgain = .error e → retryIfConnectionError e = false)
    (settles : Settles handler request view old new answer answerAgain)
    (fates : List (Fate { e // isFailure e })) {azure : Azure} (start : view azure = old) :
    Follows Subtype.val view old new answer answerAgain (triedCall fates)
      (run (faulty (fun _ => true) Subtype.val handler) (retryConnection (send request))
        (fates, azure)) :=
  run_retry_perform (S := AzureServices) (fun _ => true) Subtype.val retryIfConnectionError rfl
    final finalAgain settles 4 fates start

theorem tookEffect_triedCall {fates : List (Fate { e // isFailure e })}
    (completed : (triedCall fates).completed = true) : (triedCall fates).tookEffect = true :=
  tookEffect_of_completed completed

end AzureShell
