import AzureShell.Prog.Footprint

/-!
# Traces

The trace of a run is the list of the requests it makes.  It lies within every
footprint of the program.
-/

namespace AzureShell.Prog

variable {S : Signature} {α β σ : Type} {handler : Handler S σ}

/-- The requests a program makes against a handler, in order. -/
def requests (handler : Handler S σ) : Prog S α → σ → List S.Request
  | .done _, _ => []
  | .call request next, s =>
      request :: requests handler (next (handler request s).1) (handler request s).2
  | .acquire _ next, s => requests handler next s
  | .release _ next, s => requests handler next s

@[simp]
theorem requests_pure (a : α) (s : σ) : requests handler (pure a : Prog S α) s = [] :=
  rfl

@[simp]
theorem requests_raise (e : S.Error) (s : σ) : requests handler (raise e : Prog S α) s = [] :=
  rfl

/-- After a program that ends well come the requests of the continuation. -/
theorem requests_bind_of_ok {p : Prog S α} {f : α → Prog S β} {s t : σ} {a : α}
    (first : run handler p s = (.ok a, t)) :
    requests handler (p >>= f) s = requests handler p s ++ requests handler (f a) t := by
  change requests handler (Prog.bind p f) s = _
  induction p generalizing s with
  | done outcome =>
      cases first
      rfl
  | call request next ih => exact congrArg (request :: ·) (ih _ first)
  | acquire lock next ih => exact ih first
  | release lock next ih => exact ih first

/-- After a program that raises comes nothing. -/
theorem requests_bind_of_error {p : Prog S α} {f : α → Prog S β} {s t : σ} {e : S.Error}
    (first : run handler p s = (.error e, t)) :
    requests handler (p >>= f) s = requests handler p s := by
  change requests handler (Prog.bind p f) s = _
  induction p generalizing s with
  | done outcome =>
      cases first
      rfl
  | call request next ih => exact congrArg (request :: ·) (ih _ first)
  | acquire lock next ih => exact ih first
  | release lock next ih => exact ih first

/-- A continuation without requests adds nothing. -/
theorem requests_bind_of_quiet {p : Prog S α} {f : α → Prog S β}
    (quiet : ∀ a t, requests handler (f a) t = []) (s : σ) :
    requests handler (p >>= f) s = requests handler p s := by
  cases first : run handler p s with
  | mk outcome t =>
      cases outcome with
      | ok a => rw [requests_bind_of_ok first, quiet, List.append_nil]
      | error e => exact requests_bind_of_error first

/-- A request of a composition is one of its first part, or one of its second
after the first ended well. -/
theorem mem_requests_bind {p : Prog S α} {f : α → Prog S β} {s : σ} {request : S.Request}
    (member : request ∈ requests handler (p >>= f) s) :
    request ∈ requests handler p s ∨
      ∃ a t, run handler p s = (.ok a, t) ∧ request ∈ requests handler (f a) t := by
  cases first : run handler p s with
  | mk outcome t =>
      cases outcome with
      | ok a =>
          rw [requests_bind_of_ok first] at member
          exact (List.mem_append.mp member).imp id fun later => ⟨a, t, rfl, later⟩
      | error e =>
          rw [requests_bind_of_error first] at member
          exact Or.inl member

theorem mem_requests_bind_of_first {p : Prog S α} {f : α → Prog S β} {s : σ} {request : S.Request}
    (member : request ∈ requests handler p s) : request ∈ requests handler (p >>= f) s := by
  cases first : run handler p s with
  | mk outcome t =>
      cases outcome with
      | ok a =>
          rw [requests_bind_of_ok first]
          exact List.mem_append_left _ member
      | error e => rwa [requests_bind_of_error first]

theorem mem_requests_bind_of_rest {p : Prog S α} {f : α → Prog S β} {s t : σ} {a : α}
    {request : S.Request} (first : run handler p s = (.ok a, t))
    (member : request ∈ requests handler (f a) t) : request ∈ requests handler (p >>= f) s := by
  rw [requests_bind_of_ok first]
  exact List.mem_append_right _ member

/-- An exception is handled after the requests that led to it. -/
theorem requests_catching (p : Prog S α) (h : S.Error → Prog S α) (s : σ) :
    requests handler (p.catching h) s = requests handler p s ++
      match run handler p s with
      | (.ok _, _) => []
      | (.error e, t) => requests handler (h e) t := by
  induction p generalizing s with
  | done outcome => cases outcome <;> rfl
  | call request next ih => exact congrArg (request :: ·) (ih _ _)
  | acquire lock next ih => exact ih _
  | release lock next ih => exact ih _

/-- A trace lies within the footprint. -/
theorem Within.of_mem_requests {allowed : S.Request → Prop} {p : Prog S α}
    (within : Within allowed p) {s : σ} {request : S.Request}
    (member : request ∈ requests handler p s) : allowed request := by
  induction p generalizing s with
  | done outcome => cases member
  | call first next ih =>
      rcases List.mem_cons.mp member with rfl | later
      · exact within.1
      · exact ih _ (within.2 _) later
  | acquire lock next ih => exact ih within member
  | release lock next ih => exact ih within member

end AzureShell.Prog
