import AzureShell.Prog.Footprint
import AzureShell.Prog.Interleave

/-!
# Ghost states

What concurrent programs keep true together often depends on what each of them
has in hand at the moment.  A ghost state gives every thread a value that its
program does not know of, and an invariant relates the values of all threads to
the state of the services.  With each of its requests a thread may choose its own
value anew, and it has to choose it so that the invariant holds again, whatever
the others have done since.

If every thread upholds the invariant in this way, it holds in every
configuration that is reached.
-/

namespace AzureShell.Prog

variable {S : Signature} {α β σ ι τ : Type} [DecidableEq ι]

/-- From states with the invariant, the thread can choose its value anew with each
request so that the invariant holds again; `post` holds where it ends. -/
def Upholds (invariant : (ι → τ) → σ → Prop) (handler : Handler S σ) (i : ι)
    (post : τ → Except S.Error α → Prop) : τ → Prog S α → Prop
  | held, .done outcome => post held outcome
  | held, .call request next => ∀ ghosts s, ghosts i = held → invariant ghosts s →
      ∃ after, invariant (Function.update ghosts i after) (handler request s).2 ∧
        Upholds invariant handler i post after (next (handler request s).1)
  | held, .acquire _ next => Upholds invariant handler i post held next
  | held, .release _ next => Upholds invariant handler i post held next

variable {invariant : (ι → τ) → σ → Prop} {handler : Handler S σ} {i : ι} {held : τ}

theorem Upholds.mono {post weaker : τ → Except S.Error α → Prop} {p : Prog S α}
    (upholds : Upholds invariant handler i post held p)
    (implies : ∀ held outcome, post held outcome → weaker held outcome) :
    Upholds invariant handler i weaker held p := by
  induction p generalizing held with
  | done outcome => exact implies held outcome upholds
  | call request next ih =>
      intro ghosts s isHeld holds
      rcases upholds ghosts s isHeld holds with ⟨after, kept, rest⟩
      exact ⟨after, kept, ih _ rest⟩
  | acquire lock next ih => exact ih upholds
  | release lock next ih => exact ih upholds

/-! ## Rules for programs -/

variable {post : τ → Except S.Error α → Prop}

theorem Upholds.bind {final : τ → Except S.Error β → Prop} {p : Prog S α} {f : α → Prog S β}
    (upholds : Upholds invariant handler i (fun held outcome =>
      match outcome with
      | .ok a => Upholds invariant handler i final held (f a)
      | .error e => final held (.error e)) held p) :
    Upholds invariant handler i final held (p >>= f) := by
  change Upholds invariant handler i final held (Prog.bind p f)
  induction p generalizing held with
  | done outcome => cases outcome <;> exact upholds
  | call request next ih =>
      intro ghosts s isHeld holds
      rcases upholds ghosts s isHeld holds with ⟨after, kept, rest⟩
      exact ⟨after, kept, ih _ rest⟩
  | acquire lock next ih => exact ih upholds
  | release lock next ih => exact ih upholds

theorem Upholds.catching {p : Prog S α} {h : S.Error → Prog S α}
    (upholds : Upholds invariant handler i (fun held outcome =>
      match outcome with
      | .ok a => post held (.ok a)
      | .error e => Upholds invariant handler i post held (h e)) held p) :
    Upholds invariant handler i post held (p.catching h) := by
  induction p generalizing held with
  | done outcome => cases outcome <;> exact upholds
  | call request next ih =>
      intro ghosts s isHeld holds
      rcases upholds ghosts s isHeld holds with ⟨after, kept, rest⟩
      exact ⟨after, kept, ih _ rest⟩
  | acquire lock next ih => exact ih upholds
  | release lock next ih => exact ih upholds

/-- One request. -/
theorem upholds_perform {request : S.Request} {post : τ → Except S.Error (S.Answer request) → Prop}
    (chooses : ∀ ghosts s, ghosts i = held → invariant ghosts s →
      ∃ after, invariant (Function.update ghosts i after) (handler request s).2 ∧
        post after (handler request s).1) :
    Upholds invariant handler i post held (perform request) :=
  chooses

/-! ## Programs that run from any value with a property -/

/-- The value has the property again where the program ends, and a result fits
it. -/
def Leaves (property : τ → Prop) (result : τ → α → Prop) (held : τ) (outcome : Except S.Error α) :
    Prop :=
  property held ∧ ∀ a, outcome = .ok a → result held a

variable {property : τ → Prop} {result : τ → α → Prop}

/-- Nothing is asked of the result where there is none. -/
theorem leaves_error (holds : property held) (e : S.Error) :
    Leaves property result held (.error e) := by
  refine ⟨holds, ?_⟩
  rintro _ ⟨⟩

theorem Upholds.andThen {p : Prog S α} {f : α → Prog S β} {final : τ → β → Prop}
    (first : Upholds invariant handler i (Leaves property result) held p)
    (rest : ∀ a held, result held a → property held →
      Upholds invariant handler i (Leaves property final) held (f a)) :
    Upholds invariant handler i (Leaves property final) held (p >>= f) := by
  apply Upholds.bind
  apply first.mono
  rintro held outcome ⟨holds, isResult⟩
  cases outcome with
  | ok a => exact rest a held (isResult a rfl) holds
  | error e => exact leaves_error holds e

/-- Where an attempt fails, the value has the property with which the next one
starts. -/
theorem Upholds.retry {again : S.Error → Bool} {p : Prog S α}
    (attempt : ∀ held, property held → Upholds invariant handler i
      (fun held outcome => post held outcome ∧ ∀ e, outcome = .error e → property held) held p)
    (extra : Nat) (holds : property held) :
    Upholds invariant handler i post held (retry again extra p) := by
  induction extra generalizing held with
  | zero => exact (attempt held holds).mono fun _ _ ended => ended.1
  | succ extra ih =>
      apply Upholds.catching
      apply (attempt held holds).mono
      rintro held outcome ⟨ends, stillHolds⟩
      cases outcome with
      | ok a => exact ends
      | error e =>
          simp only
          split
          · exact ih (stillHolds e rfl)
          · exact ends

theorem Upholds.forEach {items : List β} {body : β → Prog S Unit}
    (round : ∀ item ∈ items, ∀ held, property held →
      Upholds invariant handler i (Leaves property fun _ _ => True) held (body item))
    (holds : property held) :
    Upholds invariant handler i (Leaves property fun _ _ => True) held (forEach items body) := by
  induction items generalizing held with
  | nil => exact ⟨holds, fun _ _ => trivial⟩
  | cons item rest ih =>
      apply (round item List.mem_cons_self held holds).andThen
      intro _ held _ holds
      exact ih (fun other member => round other (List.mem_cons_of_mem item member)) holds

/-- Requests that keep the invariant with all values as they are let the thread
keep its value. -/
theorem upholds_of_within {neutral : S.Request → Prop}
    (keeps : ∀ request ghosts s, neutral request → invariant ghosts s →
      invariant ghosts (handler request s).2)
    {p : Prog S α} (within : Within neutral p) (held : τ) :
    Upholds invariant handler i (fun after _ => after = held) held p := by
  induction p with
  | done outcome => rfl
  | call request next ih =>
      intro ghosts s isHeld holds
      refine ⟨held, ?_, ih _ (within.2 _)⟩
      rw [← isHeld, Function.update_eq_self]
      exact keeps request ghosts s within.1 holds
  | acquire lock next ih => exact ih within
  | release lock next ih => exact ih within

/-! ## All threads together -/

variable [DecidableEq S.Lock]

/-- The invariant holds with values from which each thread goes on upholding it. -/
def AllUphold (invariant : (ι → τ) → σ → Prop) (handler : Handler S σ)
    (config : Config S σ ι α) : Prop :=
  ∃ ghosts, invariant ghosts config.shared ∧
    ∀ i, Upholds invariant handler i (fun _ _ => True) (ghosts i) (config.threads i)

/-- A step changes the value of its own thread only. -/
theorem AllUphold.step {i : ι} {config after : Config S σ ι α} (step : Step handler i config after)
    (allUphold : AllUphold invariant handler config) : AllUphold invariant handler after := by
  rcases allUphold with ⟨ghosts, holds, upholds⟩
  have mine := upholds i
  have proceeds : ∀ {rest : Prog S α} {value : τ},
      Upholds invariant handler i (fun _ _ => True) value rest →
        ∀ j, Upholds invariant handler j (fun _ _ => True) (Function.update ghosts i value j)
          (Function.update config.threads i rest j) := by
    intro rest value upheld j
    by_cases same : j = i
    · subst same
      rw [Function.update_self, Function.update_self]
      exact upheld
    · rw [Function.update_of_ne same, Function.update_of_ne same]
      exact upholds j
  cases step with
  | call left =>
      rw [left] at mine
      rcases mine ghosts config.shared rfl holds with ⟨value, kept, rest⟩
      exact ⟨_, kept, proceeds rest⟩
  | @acquire lock next left free =>
      rw [left] at mine
      have rest : Upholds invariant handler i (fun _ _ => True) (ghosts i) next := mine
      refine ⟨ghosts, holds, fun j => ?_⟩
      have later := proceeds rest j
      rw [Function.update_eq_self] at later
      exact later
  | @release lock next left owned =>
      rw [left] at mine
      have rest : Upholds invariant handler i (fun _ _ => True) (ghosts i) next := mine
      refine ⟨ghosts, holds, fun j => ?_⟩
      have later := proceeds rest j
      rw [Function.update_eq_self] at later
      exact later

/-- An invariant that every thread upholds holds in every interleaving. -/
theorem Reaches.upheld {threads : ι → Prog S α} {ghosts : ι → τ}
    (upholds : ∀ i, Upholds invariant handler i (fun _ _ => True) (ghosts i) (threads i)) {s : σ}
    (holds : invariant ghosts s) {config : Config S σ ι α}
    (reaches : Reaches handler (Config.initial threads s) config) :
    ∃ ghosts, invariant ghosts config.shared := by
  have allUphold : AllUphold invariant handler config := by
    refine Reaches.preserves ?_ reaches ?_
    · intro i config after step allUphold
      exact allUphold.step step
    · exact ⟨ghosts, holds, upholds⟩
  rcases allUphold with ⟨ghosts, holds, _⟩
  exact ⟨ghosts, holds⟩

end AzureShell.Prog
