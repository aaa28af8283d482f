import AzureShell.Prog.Core

/-!
# Footprints

The footprint of a program bounds the requests it can make, whatever the
answers are.  What every allowed request preserves, every run of the program
preserves, also a run that ends with an exception.
-/

namespace AzureShell.Prog

variable {S : Signature} {α β σ : Type} {allowed : S.Request → Prop}

/-- Every request of a program, along every course of answers, is allowed. -/
def Within (allowed : S.Request → Prop) : Prog S α → Prop
  | .done _ => True
  | .call request next => allowed request ∧ ∀ answer, Within allowed (next answer)
  | .acquire _ next => Within allowed next
  | .release _ next => Within allowed next

theorem Within.mono {larger : S.Request → Prop} {p : Prog S α} (within : Within allowed p)
    (included : ∀ request, allowed request → larger request) : Within larger p := by
  induction p with
  | done outcome => trivial
  | call request next ih =>
      constructor
      · exact included request within.1
      · intro answer
        exact ih answer (within.2 answer)
  | acquire lock next ih => exact ih within
  | release lock next ih => exact ih within

theorem Within.and {other : S.Request → Prop} {p : Prog S α} (within : Within allowed p)
    (otherWithin : Within other p) : Within (fun request => allowed request ∧ other request) p := by
  induction p with
  | done outcome => trivial
  | call request next ih =>
      constructor
      · exact ⟨within.1, otherWithin.1⟩
      · intro answer
        exact ih answer (within.2 answer) (otherWithin.2 answer)
  | acquire lock next ih => exact ih within otherWithin
  | release lock next ih => exact ih within otherWithin

theorem within_pure (a : α) : Within allowed (pure a : Prog S α) :=
  trivial

theorem within_raise (e : S.Error) : Within allowed (raise e : Prog S α) :=
  trivial

theorem within_ofExcept (outcome : Except S.Error α) : Within allowed (ofExcept outcome) :=
  trivial

theorem within_perform {request : S.Request} (isAllowed : allowed request) :
    Within allowed (perform request) := by
  constructor
  · exact isAllowed
  · intro answer
    trivial

theorem Within.bind {p : Prog S α} {f : α → Prog S β} (first : Within allowed p)
    (rest : ∀ a, Within allowed (f a)) : Within allowed (p >>= f) := by
  change Within allowed (Prog.bind p f)
  induction p with
  | done outcome =>
      cases outcome with
      | ok a => exact rest a
      | error e => trivial
  | call request next ih => exact ⟨first.1, fun answer => ih answer (first.2 answer)⟩
  | acquire lock next ih => exact ih first
  | release lock next ih => exact ih first

/-- What follows a computation is only reached with its value. -/
theorem Within.ofExcept_bind {outcome : Except S.Error α} {f : α → Prog S β}
    (rest : ∀ a, outcome = .ok a → Within allowed (f a)) :
    Within allowed (ofExcept outcome >>= f) := by
  cases outcome with
  | ok a => exact rest a rfl
  | error e => trivial

theorem Within.catching {p : Prog S α} {h : S.Error → Prog S α} (body : Within allowed p)
    (handler : ∀ e, Within allowed (h e)) : Within allowed (p.catching h) := by
  induction p with
  | done outcome =>
      cases outcome with
      | ok a => trivial
      | error e => exact handler e
  | call request next ih => exact ⟨body.1, fun answer => ih answer (body.2 answer)⟩
  | acquire lock next ih => exact ih body
  | release lock next ih => exact ih body

theorem Within.retry {again : S.Error → Bool} {p : Prog S α} (body : Within allowed p)
    (extra : Nat) : Within allowed (retry again extra p) := by
  induction extra with
  | zero => exact body
  | succ extra ih =>
      apply body.catching
      intro e
      split
      · exact ih
      · trivial

theorem Within.withLock {lock : S.Lock} {p : Prog S α} (body : Within allowed p) :
    Within allowed (withLock lock p) := by
  apply Within.bind
  · apply body.catching
    intro e
    trivial
  · intro a
    trivial

theorem Within.when {condition : Prop} [Decidable condition] {body : Prog S Unit}
    (within : condition → Within allowed body) : Within allowed (when condition body) := by
  unfold Prog.when
  split
  · rename_i holds
    exact within holds
  · trivial

theorem Within.forEach {items : List β} {body : β → Prog S Unit}
    (round : ∀ item ∈ items, Within allowed (body item)) : Within allowed (forEach items body) := by
  induction items with
  | nil => trivial
  | cons item rest ih =>
      apply Within.bind
      · exact round item List.mem_cons_self
      · intro _
        exact ih fun other member => round other (List.mem_cons_of_mem item member)

theorem Within.collect {items : List β} {body : β → Prog S α}
    (round : ∀ item ∈ items, Within allowed (body item)) : Within allowed (collect items body) := by
  induction items with
  | nil => trivial
  | cons item rest ih =>
      apply Within.bind
      · exact round item List.mem_cons_self
      · intro a
        apply Within.bind
        · exact ih fun other member => round other (List.mem_cons_of_mem item member)
        · intro as
          trivial

/-- What follows a part that ended well stays within the footprint. -/
theorem Within.rest_of_ok {handler : Handler S σ} {p : Prog S α} {f : α → Prog S β} {s t : σ}
    {a : α} (within : Within allowed (p >>= f)) (first : run handler p s = (.ok a, t)) :
    Within allowed (f a) := by
  change Within allowed (Prog.bind p f) at within
  induction p generalizing s with
  | done outcome =>
      cases first
      exact within
  | call request next ih => exact ih _ first (within.2 _)
  | acquire lock next ih => exact ih first within
  | release lock next ih => exact ih first within

/-- A property of the services that every allowed request preserves holds after
every run of the program. -/
theorem Within.run_preserves {handler : Handler S σ} {invariant : σ → Prop} {p : Prog S α}
    (within : Within allowed p)
    (preserved : ∀ request s, allowed request → invariant s → invariant (handler request s).2)
    {s : σ} (initial : invariant s) : invariant (run handler p s).2 := by
  induction p generalizing s with
  | done outcome => exact initial
  | call request next ih =>
      exact ih _ (within.2 _) (preserved request s within.1 initial)
  | acquire lock next ih => exact ih within initial
  | release lock next ih => exact ih within initial

end AzureShell.Prog
