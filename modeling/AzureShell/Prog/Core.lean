import Mathlib.Logic.Function.Basic

/-!
# Programs that call services

A program is the tree of the requests it makes to services outside it: at each
node it either ends, with a value or an exception, or it makes a request and
continues with the answer, or it takes or gives back a lock.  Exceptions of the
services are answers like any other, so handlers and retries are ordinary
programs.

One tree has two readings.  Run alone against a handler it is a function on the
state of the services (`run`, here); run next to other programs it is one
thread of an interleaving (`AzureShell.Prog.Interleave`).
-/

namespace AzureShell

/-- What a family of services offers: its requests, the type of each answer,
the exceptions, and the locks shared by the programs. -/
structure Signature where
  Request : Type
  Answer : Request → Type
  Error : Type
  Lock : Type

/-- A program over a signature. -/
inductive Prog (S : Signature) (α : Type) where
  | done (outcome : Except S.Error α)
  | call (request : S.Request) (next : Except S.Error (S.Answer request) → Prog S α)
  | acquire (lock : S.Lock) (next : Prog S α)
  | release (lock : S.Lock) (next : Prog S α)

/-- How the services react: the answer to a request and their next state. -/
abbrev Handler (S : Signature) (σ : Type) :=
  (request : S.Request) → σ → Except S.Error (S.Answer request) × σ

namespace Prog

variable {S : Signature} {α β : Type} {σ : Type}

/-- Make one request and return its answer. -/
def perform (request : S.Request) : Prog S (S.Answer request) :=
  .call request .done

/-- Raise an exception. -/
def raise (error : S.Error) : Prog S α :=
  .done (.error error)

/-- End the way a computation without requests did. -/
def ofExcept (outcome : Except S.Error α) : Prog S α :=
  .done outcome

/-- Sequential composition; an exception skips the continuation. -/
def bind : Prog S α → (α → Prog S β) → Prog S β
  | .done (.ok a), f => f a
  | .done (.error e), _ => .done (.error e)
  | .call request next, f => .call request fun answer => bind (next answer) f
  | .acquire lock next, f => .acquire lock (bind next f)
  | .release lock next, f => .release lock (bind next f)

/-- Run a handler on the exception a program ends with. -/
def catching : Prog S α → (S.Error → Prog S α) → Prog S α
  | .done (.ok a), _ => .done (.ok a)
  | .done (.error e), h => h e
  | .call request next, h => .call request fun answer => catching (next answer) h
  | .acquire lock next, h => .acquire lock (catching next h)
  | .release lock next, h => .release lock (catching next h)

instance : Monad (Prog S) where
  pure a := .done (.ok a)
  bind := bind

/-- Run a program only under a condition. -/
def when (condition : Prop) [Decidable condition] (body : Prog S Unit) : Prog S Unit :=
  if condition then body else pure ()

/-- Run a program for each element of a list, in order. -/
def forEach (items : List β) (body : β → Prog S Unit) : Prog S Unit :=
  match items with
  | [] => pure ()
  | item :: rest => do
      body item
      forEach rest body

/-- Run a program for each element of a list and collect the results. -/
def collect (items : List β) (body : β → Prog S α) : Prog S (List α) :=
  match items with
  | [] => pure []
  | item :: rest => do
      let a ← body item
      let as ← collect rest body
      pure (a :: as)

/-- Repeat a program while it raises an exception of a class, at most `extra`
times after the first attempt; the last exception is raised again. -/
def retry (again : S.Error → Bool) (extra : Nat) (body : Prog S α) : Prog S α :=
  match extra with
  | 0 => body
  | extra + 1 => body.catching fun e => if again e then retry again extra body else raise e

/-- Hold a lock around a program, also when it ends with an exception. -/
def withLock (lock : S.Lock) (body : Prog S α) : Prog S α :=
  .acquire lock <| do
    let a ← body.catching fun e => .release lock (raise e)
    .release lock (pure a)

/-! ## Running alone -/

/-- Run a program against the services.  Nobody else holds a lock, so taking
and giving back a lock changes nothing. -/
def run (handler : Handler S σ) : Prog S α → σ → Except S.Error α × σ
  | .done outcome, s => (outcome, s)
  | .call request next, s =>
      run handler (next (handler request s).1) (handler request s).2
  | .acquire _ next, s => run handler next s
  | .release _ next, s => run handler next s

variable (handler : Handler S σ)

@[simp]
theorem run_pure (a : α) (s : σ) : run handler (pure a) s = (.ok a, s) :=
  rfl

@[simp]
theorem run_raise (e : S.Error) (s : σ) :
    run handler (raise e : Prog S α) s = (.error e, s) :=
  rfl

@[simp]
theorem run_ofExcept (outcome : Except S.Error α) (s : σ) :
    run handler (ofExcept outcome) s = (outcome, s) :=
  rfl

@[simp]
theorem run_perform (request : S.Request) (s : σ) :
    run handler (perform request) s = handler request s :=
  rfl

/-- A composition runs its second part from where the first one ended. -/
theorem run_bind (p : Prog S α) (f : α → Prog S β) (s : σ) :
    run handler (p >>= f) s =
      match run handler p s with
      | (.ok a, t) => run handler (f a) t
      | (.error e, t) => (.error e, t) := by
  change run handler (bind p f) s = _
  induction p generalizing s with
  | done outcome => cases outcome <;> rfl
  | call request next ih => exact ih _ _
  | acquire lock next ih => exact ih _
  | release lock next ih => exact ih _

theorem bind_assoc {γ : Type} (p : Prog S α) (f : α → Prog S β) (g : β → Prog S γ) :
    p >>= f >>= g = p >>= fun a => f a >>= g := by
  change bind (bind p f) g = bind p fun a => bind (f a) g
  induction p with
  | done outcome => cases outcome <;> rfl
  | call request next ih => exact congrArg (Prog.call request) (funext ih)
  | acquire lock next ih => exact congrArg (Prog.acquire lock) ih
  | release lock next ih => exact congrArg (Prog.release lock) ih

theorem bind_pure (p : Prog S α) : (p >>= fun a => pure a) = p := by
  change bind p (fun a => .done (.ok a)) = p
  induction p with
  | done outcome => cases outcome <;> rfl
  | call request next ih => exact congrArg (Prog.call request) (funext ih)
  | acquire lock next ih => exact congrArg (Prog.acquire lock) ih
  | release lock next ih => exact congrArg (Prog.release lock) ih

theorem run_bind_assoc {γ : Type} (p : Prog S α) (f : α → Prog S β) (g : β → Prog S γ) (s : σ) :
    run handler (p >>= fun a => f a >>= g) s = run handler (p >>= f >>= g) s := by
  rw [bind_assoc]

/-- A handler runs from the state in which the exception was raised. -/
theorem run_catching (p : Prog S α) (h : S.Error → Prog S α) (s : σ) :
    run handler (p.catching h) s =
      match run handler p s with
      | (.ok a, t) => (.ok a, t)
      | (.error e, t) => run handler (h e) t := by
  induction p generalizing s with
  | done outcome => cases outcome <;> rfl
  | call request next ih => exact ih _ _
  | acquire lock next ih => exact ih _
  | release lock next ih => exact ih _

variable {handler}

theorem run_ofExcept_bind (outcome : Except S.Error α) (f : α → Prog S β) (s : σ) :
    run handler (ofExcept outcome >>= f) s =
      match outcome with
      | .ok a => run handler (f a) s
      | .error e => (.error e, s) := by
  rw [run_bind, run_ofExcept]
  cases outcome <;> rfl

theorem run_ofExcept_bind_of_ok {outcome : Except S.Error α} {a : α} (isOk : outcome = .ok a)
    (f : α → Prog S β) (s : σ) :
    run handler (ofExcept outcome >>= f) s = run handler (f a) s := by
  rw [isOk]
  rfl

theorem run_bind_of_ok {p : Prog S α} {f : α → Prog S β} {s t : σ} {a : α}
    (first : run handler p s = (.ok a, t)) :
    run handler (p >>= f) s = run handler (f a) t := by
  rw [run_bind, first]

theorem run_bind_of_error {p : Prog S α} {f : α → Prog S β} {s t : σ} {e : S.Error}
    (first : run handler p s = (.error e, t)) :
    run handler (p >>= f) s = (.error e, t) := by
  rw [run_bind, first]

theorem run_catching_of_ok {p : Prog S α} {h : S.Error → Prog S α} {s t : σ} {a : α}
    (body : run handler p s = (.ok a, t)) :
    run handler (p.catching h) s = (.ok a, t) := by
  rw [run_catching, body]

theorem run_catching_of_error {p : Prog S α} {h : S.Error → Prog S α} {s t : σ} {e : S.Error}
    (body : run handler p s = (.error e, t)) :
    run handler (p.catching h) s = run handler (h e) t := by
  rw [run_catching, body]

/-- Two programs that only read, one after the other. -/
theorem run_bind_of_reads {p : Prog S α} {f : α → Prog S β} {s : σ}
    {outcome : Except S.Error α} {next : α → Except S.Error β}
    (first : run handler p s = (outcome, s)) (later : ∀ a, run handler (f a) s = (next a, s)) :
    run handler (p >>= f) s = (outcome >>= next, s) := by
  rw [run_bind, first]
  cases outcome with
  | ok a => exact later a
  | error e => rfl

/-- A composition that ends well has two parts that end well. -/
theorem run_bind_eq_ok {p : Prog S α} {f : α → Prog S β} {s t : σ} {b : β}
    (success : run handler (p >>= f) s = (.ok b, t)) :
    ∃ a u, run handler p s = (.ok a, u) ∧ run handler (f a) u = (.ok b, t) := by
  rw [run_bind] at success
  cases first : run handler p s with
  | mk outcome u =>
      rw [first] at success
      cases outcome with
      | ok a => exact ⟨a, u, rfl, success⟩
      | error e => cases success

/-- A retry ends as its last attempt does, which starts from what every attempt
preserves. -/
theorem run_retry_of_preserved {again : S.Error → Bool} {extra : Nat} {p : Prog S α}
    {invariant : σ → Prop} (preserved : ∀ s, invariant s → invariant (run handler p s).2) {s : σ}
    (holds : invariant s) :
    ∃ u, invariant u ∧ run handler (retry again extra p) s = run handler p u := by
  induction extra generalizing s with
  | zero => exact ⟨s, holds, rfl⟩
  | succ extra ih =>
      have kept := preserved s holds
      cases first : run handler p s with
      | mk outcome u =>
          rw [first] at kept
          cases outcome with
          | ok a => exact ⟨s, holds, (run_catching_of_ok first).trans first.symm⟩
          | error e =>
              rw [retry, run_catching_of_error first]
              split
              · exact ih kept
              · exact ⟨s, holds, first.symm⟩

/-- A value that is returned is that of the last attempt. -/
theorem run_retry_eq_ok_of_preserved {again : S.Error → Bool} {extra : Nat} {p : Prog S α}
    {invariant : σ → Prop} (preserved : ∀ s, invariant s → invariant (run handler p s).2) {s t : σ}
    (holds : invariant s) {a : α} (success : run handler (retry again extra p) s = (.ok a, t)) :
    ∃ u, invariant u ∧ run handler p u = (.ok a, t) := by
  obtain ⟨u, kept, last⟩ : ∃ u, invariant u ∧
      run handler (retry again extra p) s = run handler p u :=
    run_retry_of_preserved preserved holds
  exact ⟨u, kept, last.symm.trans success⟩

/-- A program that ends well after retries ended well in its last attempt. -/
theorem run_retry_eq_ok {again : S.Error → Bool} {extra : Nat} {p : Prog S α} {s t : σ} {a : α}
    (success : run handler (retry again extra p) s = (.ok a, t)) :
    ∃ u, run handler p u = (.ok a, t) := by
  have preserved : ∀ s : σ, True → True := fun _ _ => trivial
  rcases run_retry_eq_ok_of_preserved preserved trivial success with ⟨u, _, last⟩
  exact ⟨u, last⟩

/-- A run without an exception ends with a value. -/
theorem exists_run_eq_ok {p : Prog S α} {s : σ}
    (isOk : (run handler p s).1.toOption.isSome = true) :
    ∃ a, run handler p s = (.ok a, (run handler p s).2) := by
  generalize run handler p s = final at isOk ⊢
  rcases final with ⟨outcome, t⟩
  cases outcome with
  | ok a => exact ⟨a, rfl⟩
  | error e => cases isOk

/-- A program that ends well is run once. -/
theorem run_retry_of_ok {again : S.Error → Bool} {extra : Nat} {p : Prog S α} {s t : σ} {a : α}
    (body : run handler p s = (.ok a, t)) :
    run handler (retry again extra p) s = (.ok a, t) := by
  cases extra with
  | zero => exact body
  | succ extra => exact run_catching_of_ok body

/-- An exception outside the class ends the attempts. -/
theorem run_retry_of_error {again : S.Error → Bool} {extra : Nat} {p : Prog S α} {s t : σ}
    {e : S.Error} (body : run handler p s = (.error e, t)) (final : again e = false) :
    run handler (retry again extra p) s = (.error e, t) := by
  cases extra with
  | zero => exact body
  | succ extra => simp [retry, run_catching_of_error body, final]

/-- Alone, a lock is transparent. -/
theorem run_withLock (lock : S.Lock) (p : Prog S α) (s : σ) :
    run handler (withLock lock p) s = run handler p s := by
  change run handler (_ >>= _) s = _
  rw [run_bind, run_catching]
  rcases run handler p s with ⟨outcome, t⟩
  cases outcome <;> rfl

@[simp]
theorem run_forEach_nil (body : β → Prog S Unit) (s : σ) :
    run handler (forEach [] body) s = (.ok (), s) :=
  rfl

theorem run_forEach_cons (item : β) (rest : List β) (body : β → Prog S Unit) (s : σ) :
    run handler (forEach (item :: rest) body) s =
      match run handler (body item) s with
      | (.ok _, t) => run handler (forEach rest body) t
      | (.error e, t) => (.error e, t) := by
  rw [forEach, run_bind]
  rcases run handler (body item) s with ⟨outcome, t⟩
  cases outcome <;> rfl

/-- A collection with an item in the middle goes through its round. -/
theorem run_collect_append_cons {before after : List β} {item : β} {body : β → Prog S α}
    {s t : σ} {results : List α}
    (success : run handler (collect (before ++ item :: after) body) s = (.ok results, t)) :
    ∃ firsts a lasts u v, run handler (collect before body) s = (.ok firsts, u) ∧
      run handler (body item) u = (.ok a, v) ∧
      run handler (collect after body) v = (.ok lasts, t) ∧
      results[before.length]? = some a := by
  induction before generalizing s results with
  | nil =>
      rcases run_bind_eq_ok success with ⟨a, v, round, success⟩
      rcases run_bind_eq_ok success with ⟨lasts, _, others, success⟩
      cases success
      exact ⟨[], a, lasts, s, v, rfl, round, others, rfl⟩
  | cons other before ih =>
      rcases run_bind_eq_ok success with ⟨first, between, round, success⟩
      rcases run_bind_eq_ok success with ⟨rest, _, others, success⟩
      cases success
      rcases ih others with ⟨firsts, a, lasts, u, v, earlier, middle, later, isThere⟩
      refine ⟨first :: firsts, a, lasts, u, v, ?_, middle, later, isThere⟩
      rw [collect, run_bind_of_ok round, run_bind_of_ok earlier]
      rfl

/-- A loop of rounds that only read collects what they read. -/
theorem run_collect_of_reads {read : β → Except S.Error α} {body : β → Prog S α} {s : σ}
    (round : ∀ item, run handler (body item) s = (read item, s)) (items : List β) :
    run handler (collect items body) s = (items.mapM read, s) := by
  induction items with
  | nil => rfl
  | cons item rest ih =>
      rw [collect, List.mapM_cons]
      apply run_bind_of_reads (round item)
      intro a
      apply run_bind_of_reads ih
      intro as
      rfl

/-- A loop over items with different keys whose rounds each change what is seen
under their own key only. -/
theorem run_forEach_keyed {κ ν : Type} (view : σ → κ → ν) {key : β → κ}
    {effect : β → ν → ν} {items : List β} {body : β → Prog S Unit}
    (different : (items.map key).Nodup)
    (round : ∀ item ∈ items, ∀ s, ∃ t, run handler (body item) s = (.ok (), t) ∧
      view t (key item) = effect item (view s (key item)) ∧
      ∀ k, k ≠ key item → view t k = view s k) (s : σ) :
    ∃ t, run handler (forEach items body) s = (.ok (), t) ∧
      (∀ item ∈ items, view t (key item) = effect item (view s (key item))) ∧
      ∀ k, (∀ item ∈ items, k ≠ key item) → view t k = view s k := by
  induction items generalizing s with
  | nil => exact ⟨s, rfl, by simp, fun _ _ => rfl⟩
  | cons item rest ih =>
      rcases List.nodup_cons.mp different with ⟨fresh, differentRest⟩
      rcases round item List.mem_cons_self s with ⟨between, firstRun, firstSelf, firstOthers⟩
      obtain ⟨t, laterRun, laterSelf, laterOthers⟩ := ih differentRest
        (fun other member => round other (List.mem_cons_of_mem item member)) between
      have notAgain : ∀ other ∈ rest, key item ≠ key other := by
        intro other member same
        exact fresh (same ▸ List.mem_map_of_mem member)
      refine ⟨t, ?_, ?_, ?_⟩
      · rw [run_forEach_cons, firstRun]
        exact laterRun
      · intro other member
        rcases List.mem_cons.mp member with rfl | later
        · rw [laterOthers _ notAgain, firstSelf]
        · rw [laterSelf other later, firstOthers _ (Ne.symm (notAgain other later))]
      · intro k unnamed
        rw [laterOthers k fun other member => unnamed other (List.mem_cons_of_mem item member),
          firstOthers k (unnamed item List.mem_cons_self)]

end Prog

end AzureShell
