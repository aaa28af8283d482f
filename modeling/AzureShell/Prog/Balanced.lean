import AzureShell.Prog.LockOrder
import AzureShell.Prog.Recording
import Mathlib.Data.DFinsupp.WellFounded
import Mathlib.SetTheory.Ordinal.Family

/-!
# One lock at a time

A program is balanced if it takes a lock only while it holds none, gives it back, and
ends with what it held at the start, however its calls are answered.  Threads of
balanced programs do not wait for each other: from every configuration they reach,
they can all be brought to an end.
-/

namespace AzureShell.Prog

variable {S : Signature} {α β σ ι : Type}

/-- Holding a lock or none, the program takes one lock at a time and ends holding
`final`. -/
def EndsHolding (final : Option S.Lock) : Option S.Lock → Prog S α → Prop
  | held, .done _ => held = final
  | held, .call _ next => ∀ answer, EndsHolding final held (next answer)
  | held, .acquire lock next => held = none ∧ EndsHolding final (some lock) next
  | held, .release lock next => held = some lock ∧ EndsHolding final none next

/-- The program ends with what it held at the start. -/
abbrev Balanced (held : Option S.Lock) (p : Prog S α) : Prop :=
  EndsHolding held held p

variable {held final : Option S.Lock} {p : Prog S α}

/-! ## Rules for programs -/

theorem balanced_pure (a : α) : Balanced held (pure a : Prog S α) :=
  rfl

theorem balanced_raise (e : S.Error) : Balanced held (raise e : Prog S α) :=
  rfl

theorem balanced_ofExcept (outcome : Except S.Error α) : Balanced held (ofExcept outcome) :=
  rfl

theorem EndsHolding.bind {f : α → Prog S β} (first : EndsHolding final held p)
    (rest : ∀ a, Balanced final (f a)) : EndsHolding final held (p >>= f) := by
  change EndsHolding final held (Prog.bind p f)
  induction p generalizing held with
  | done outcome =>
      cases outcome with
      | ok a =>
          cases first
          exact rest a
      | error e => exact first
  | call request next ih =>
      intro answer
      exact ih answer (first answer)
  | acquire lock next ih =>
      constructor
      · exact first.1
      · exact ih first.2
  | release lock next ih =>
      constructor
      · exact first.1
      · exact ih first.2

theorem EndsHolding.catching {h : S.Error → Prog S α} (body : EndsHolding final held p)
    (handles : ∀ e, Balanced final (h e)) : EndsHolding final held (p.catching h) := by
  induction p generalizing held with
  | done outcome =>
      cases outcome with
      | ok a => exact body
      | error e =>
          cases body
          exact handles e
  | call request next ih =>
      intro answer
      exact ih answer (body answer)
  | acquire lock next ih =>
      constructor
      · exact body.1
      · exact ih body.2
  | release lock next ih =>
      constructor
      · exact body.1
      · exact ih body.2

theorem Balanced.retry {again : S.Error → Bool} (body : Balanced held p) (extra : Nat) :
    Balanced held (retry again extra p) := by
  induction extra with
  | zero => exact body
  | succ extra ih =>
      apply body.catching
      intro e
      split
      · exact ih
      · exact balanced_raise e

theorem EndsHolding.recording {ν : Type} {notes : Notes S ν} (ends : EndsHolding final held p)
    (written : List ν) : EndsHolding final held (recording notes written p) := by
  induction p generalizing held written with
  | done outcome => exact ends
  | call request next ih =>
      rw [Prog.recording]
      cases notes request with
      | none => exact fun answer => ih answer (ends answer) written
      | some taken => exact ih _ (ends _) _
  | acquire lock next ih => exact ⟨ends.1, ih ends.2 written⟩
  | release lock next ih => exact ⟨ends.1, ih ends.2 written⟩

theorem Balanced.when {condition : Prop} [Decidable condition] {body : Prog S Unit}
    (balanced : condition → Balanced held body) : Balanced held (when condition body) := by
  unfold Prog.when
  split
  · rename_i holds
    exact balanced holds
  · exact balanced_pure ()

theorem Balanced.forEach {items : List β} {body : β → Prog S Unit}
    (round : ∀ item ∈ items, Balanced held (body item)) : Balanced held (forEach items body) := by
  induction items with
  | nil => exact balanced_pure ()
  | cons item rest ih =>
      apply (round item List.mem_cons_self).bind
      intro _
      exact ih fun other member => round other (List.mem_cons_of_mem item member)

theorem Balanced.collect {items : List β} {body : β → Prog S α}
    (round : ∀ item ∈ items, Balanced held (body item)) : Balanced held (collect items body) := by
  induction items with
  | nil => exact balanced_pure []
  | cons item rest ih =>
      apply (round item List.mem_cons_self).bind
      intro a
      apply (ih fun other member => round other (List.mem_cons_of_mem item member)).bind
      intro as
      exact balanced_pure (a :: as)

/-- A lock is taken for a program that takes none. -/
theorem Balanced.withLock {lock : S.Lock} (body : Balanced (some lock) p) :
    Balanced none (withLock lock p) := by
  have returned : ∀ {held : Option S.Lock} {q : Prog S α}, EndsHolding (some lock) held q →
      EndsHolding none held ((q.catching fun e => .release lock (raise e)) >>= fun a =>
        .release lock (pure a)) := by
    intro held q ends
    induction q generalizing held with
    | done outcome =>
        cases ends
        cases outcome with
        | ok a => exact ⟨rfl, rfl⟩
        | error e => exact ⟨rfl, rfl⟩
    | call request next ih =>
        intro answer
        exact ih answer (ends answer)
    | acquire other next ih =>
        constructor
        · exact ends.1
        · exact ih ends.2
    | release other next ih =>
        constructor
        · exact ends.1
        · exact ih ends.2
  exact ⟨rfl, returned body⟩

/-! ## Threads that end -/

/-- How far a program is from its end. -/
noncomputable def steps : Prog S α → Ordinal.{0}
  | .done _ => 0
  | .call _ next => ⨆ answer, steps (next answer) + 1
  | .acquire _ next => steps next + 1
  | .release _ next => steps next + 1

variable [DecidableEq S.Lock] [DecidableEq ι] {handler : Handler S σ}
  {config after : Config S σ ι α}

/-- A step brings one thread closer to its end and leaves the others where they are. -/
theorem steps_lt_of_moves (moves : Moves handler config after) :
    (fun i => steps (after.threads i)) < fun i => steps (config.threads i) := by
  have closer : ∀ {i : ι} {rest : Prog S α}, steps rest < steps (config.threads i) →
      (fun j => steps (Function.update config.threads i rest j)) <
        fun j => steps (config.threads j) := by
    intro i rest isLess
    apply Pi.lt_def.mpr
    constructor
    · intro j
      by_cases same : j = i
      · subst same
        simp [isLess.le]
      · simp [same]
    · exact ⟨i, by simpa using isLess⟩
  rcases moves with ⟨i, step⟩
  cases step with
  | call left =>
      apply closer
      rw [left]
      exact Ordinal.lt_iSup_add_one _ _
  | acquire left free =>
      apply closer
      rw [left]
      exact lt_add_one _
  | release left owned =>
      apply closer
      rw [left]
      exact lt_add_one _

/-- Threads that can always move while one of them has not ended can all be brought to
an end. -/
theorem finishes_of_progress [Finite ι] {invariant : Config S σ ι α → Prop}
    (preserved : ∀ i config after, Step handler i config after → invariant config →
      invariant after)
    (progress : ∀ config i, invariant config → (∀ outcome, config.threads i ≠ .done outcome) →
      ∃ next, Moves handler config next)
    (holds : invariant config) :
    ∃ last, Reaches handler config last ∧ invariant last ∧
      ∀ i, ∃ outcome, last.threads i = .done outcome := by
  have wellFounded : WellFounded fun next previous : Config S σ ι α =>
      (fun i => steps (next.threads i)) < fun i => steps (previous.threads i) :=
    InvImage.wf (fun config : Config S σ ι α => fun i => steps (config.threads i)) wellFounded_lt
  induction config using wellFounded.induction with
  | h config ih =>
      by_cases ended : ∀ i, ∃ outcome, config.threads i = .done outcome
      · exact ⟨config, .refl, holds, ended⟩
      · rcases not_forall.mp ended with ⟨i, unfinished⟩
        rcases progress config i holds (not_exists.mp unfinished) with ⟨next, j, step⟩
        have moves : Moves handler config next := ⟨j, step⟩
        rcases ih next (steps_lt_of_moves moves) (preserved j _ _ step holds) with
          ⟨last, reaches, kept, allEnded⟩
        exact ⟨last, .head moves reaches, kept, allEnded⟩

/-! ## Balanced threads -/

/-- The order for programs that never hold two locks: nothing is asked of it. -/
def flatOrder (S : Signature) (σ : Type) : LockOrder S σ where
  rank := fun _ => 0
  invariant := fun _ => True
  others := fun _ _ => True
  own := fun _ _ => True
  without := fun _ _ _ => True
  others_refl := fun _ => trivial
  others_trans := fun _ _ => trivial
  without_refl := fun _ _ => trivial
  without_trans := fun _ _ => trivial

theorem EndsHolding.inOrder (ends : EndsHolding final held p) (s : σ) :
    InOrder (flatOrder S σ) handler (fun after _ _ => after = final.toList) held.toList p s := by
  induction p generalizing held s with
  | done outcome =>
      intro t _
      exact congrArg Option.toList ends
  | call request next ih =>
      intro t _
      exact ⟨trivial, trivial, fun _ _ => trivial, ih _ (ends _) _⟩
  | acquire lock next ih =>
      rcases ends with ⟨rfl, rest⟩
      constructor
      · intro other member
        cases member
      · intro t _
        exact ih rest t
  | release lock next ih =>
      rcases ends with ⟨rfl, rest⟩
      constructor
      · exact List.mem_singleton_self lock
      · intro t _
        have given : (some lock).toList.erase lock = (none : Option S.Lock).toList :=
          List.erase_cons_head lock []
        rw [given]
        exact ih rest t

theorem Balanced.returns (balanced : Balanced none p) :
    Returns (flatOrder S σ) handler [] (fun _ => True) (fun _ _ => True) p := by
  intro s _ _
  apply (balanced.inOrder s).mono
  rintro _ outcome t rfl
  exact ⟨rfl, trivial, trivial⟩

variable {threads : ι → Prog S α} {s : σ}

/-- While a thread has not ended, some thread can move, and a thread that has ended
holds no lock. -/
theorem Reaches.progress (balanced : ∀ i, Balanced none (threads i))
    (reaches : Reaches handler (.initial threads s) config) (i : ι) :
    (∃ outcome, config.threads i = .done outcome ∧ ∀ lock, config.owner lock ≠ some i) ∨
      ∃ next, Moves handler config next := by
  have returns : ∀ i, Returns (flatOrder S σ) handler [] (fun _ => True) (fun _ _ => True)
      (threads i) := fun i => (balanced i).returns
  have compatible : Compatible fun _ : ι => flatOrder S σ := compatible_const fun _ _ _ => trivial
  rcases Reaches.inOrder compatible returns (fun _ => trivial) reaches with ⟨locks, all⟩
  by_cases ended : ∃ outcome, config.threads i = .done outcome
  · rcases ended with ⟨outcome, isDone⟩
    refine Or.inl ⟨outcome, isDone, ?_⟩
    intro lock owned
    have isHeld := (all.owns lock i).mp owned
    rw [(all.ended isDone).1] at isHeld
    cases isHeld
  · exact Or.inr <| all.moves compatible (fun _ _ _ _ returned => returned.1)
      (fun _ _ => le_rfl) (not_exists.mp ended)

/-- Finitely many threads can all be brought to an end, and then every lock is free. -/
theorem Reaches.finishes [Finite ι] (balanced : ∀ i, Balanced none (threads i))
    (reaches : Reaches handler (.initial threads s) config) :
    ∃ last, Reaches handler config last ∧ (∀ i, ∃ outcome, last.threads i = .done outcome) ∧
      ∀ lock, last.owner lock = none := by
  let invariant : Config S σ ι α → Prop := Reaches handler (.initial threads s)
  have preserved : ∀ i config after, Step handler i config after → invariant config →
      invariant after := fun i _ _ step before => before.tail ⟨i, step⟩
  have progress : ∀ config i, invariant config → (∀ outcome, config.threads i ≠ .done outcome) →
      ∃ next, Moves handler config next := by
    intro config i reached unfinished
    rcases Reaches.progress balanced reached i with ⟨outcome, ended, _⟩ | moves
    · exact absurd ended (unfinished outcome)
    · exact moves
  rcases finishes_of_progress preserved progress reaches with ⟨last, later, reached, ended⟩
  refine ⟨last, later, ended, fun lock => ?_⟩
  cases owner : last.owner lock with
  | none => rfl
  | some i =>
      rcases ended i with ⟨outcome, isDone⟩
      rcases Reaches.progress balanced reached i with ⟨_, _, free⟩ | ⟨next, j, step⟩
      · exact absurd owner (free lock)
      · -- nobody moves any more
        rcases ended j with ⟨_, otherDone⟩
        cases step with
        | call left => cases otherDone.symm.trans left
        | acquire left _ => cases otherDone.symm.trans left
        | release left _ => cases otherDone.symm.trans left

end AzureShell.Prog
