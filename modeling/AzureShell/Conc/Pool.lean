import Mathlib.Logic.Function.Basic
import Mathlib.Logic.Relation

/-!
# Pools of threads

Threads share a state and have a local one each.  A move of a thread changes the
shared state and its own local state; any thread may move next.  Invariants are
proved thread by thread: a move keeps what is known about the moving thread and
disturbs nothing that is known about the others.
-/

namespace AzureShell.Conc

variable {ι σ π γ : Type} [DecidableEq ι]

/-- The shared state and the local state of every thread. -/
structure Pool (ι σ π : Type) where
  shared : σ
  pc : ι → π

namespace Pool

/-- What a thread may do: its name, the shared and the local state before and
after. -/
abbrev Program (ι σ π : Type) :=
  ι → σ → π → σ → π → Prop

/-- The pool after a move of thread `i`. -/
def moved (pool : Pool ι σ π) (i : ι) (shared : σ) (pc : π) : Pool ι σ π :=
  ⟨shared, Function.update pool.pc i pc⟩

@[simp]
theorem moved_self (pool : Pool ι σ π) (i : ι) (shared : σ) (pc : π) :
    (pool.moved i shared pc).pc i = pc := by
  simp [moved]

theorem moved_of_ne (pool : Pool ι σ π) {i j : ι} (other : j ≠ i) (shared : σ) (pc : π) :
    (pool.moved i shared pc).pc j = pool.pc j := by
  simp [moved, other]

@[simp]
theorem moved_eq_self (pool : Pool ι σ π) (i : ι) :
    pool.moved i pool.shared (pool.pc i) = pool := by
  simp [moved]

@[simp]
theorem moved_moved (pool : Pool ι σ π) (i : ι) (first second : σ) (pc next : π) :
    (pool.moved i first pc).moved i second next = pool.moved i second next := by
  simp [moved]

variable (program : Program ι σ π)

/-- A run of one thread by itself, on the shared and its own local state. -/
def Alone (i : ι) : σ × π → σ × π → Prop :=
  Relation.ReflTransGen fun before after => program i before.1 before.2 after.1 after.2

/-- A move of thread `i`. -/
def Moves (i : ι) (pool after : Pool ι σ π) : Prop :=
  ∃ shared pc, program i pool.shared (pool.pc i) shared pc ∧ after = pool.moved i shared pc

/-- Runs whose moves are all allowed where they are made. -/
def Reaches (allowed : Pool ι σ π → ι → Prop) : Pool ι σ π → Pool ι σ π → Prop :=
  Relation.ReflTransGen fun pool after => ∃ i, allowed pool i ∧ Moves program i pool after

variable {program} {allowed : Pool ι σ π → ι → Prop}

/-- A run goes on with a move of some thread. -/
theorem Reaches.move {pool before : Pool ι σ π} {shared : σ} {pc : π}
    (reaches : Reaches program allowed pool before) (i : ι) (isAllowed : allowed before i)
    (move : program i before.shared (before.pc i) shared pc) :
    Reaches program allowed pool (before.moved i shared pc) :=
  reaches.tail ⟨i, isAllowed, shared, pc, move, rfl⟩

omit [DecidableEq ι] in
theorem Alone.move {i : ι} {start : σ × π} {s shared : σ} {pc next : π}
    (alone : Alone program i start (s, pc)) (move : program i s pc shared next) :
    Alone program i start (shared, next) :=
  Relation.ReflTransGen.tail alone move

/-- What a thread does by itself is a run of the pool. -/
theorem Reaches.of_alone {pool : Pool ι σ π} {i : ι} {after : σ × π}
    (alone : Alone program i (pool.shared, pool.pc i) after) :
    Reaches program (fun _ j => j = i) pool (pool.moved i after.1 after.2) := by
  induction alone with
  | refl =>
      rw [moved_eq_self]
      exact .refl
  | @tail middle last _ move ih =>
      have next : program i (pool.moved i middle.1 middle.2).shared
          ((pool.moved i middle.1 middle.2).pc i) last.1 last.2 := by
        rw [moved_self]
        exact move
      have reaches := ih.move i rfl next
      rwa [moved_moved] at reaches

theorem Reaches.preserves {invariant : Pool ι σ π → Prop}
    (preserved : ∀ i pool after, allowed pool i → Moves program i pool after → invariant pool →
      invariant after)
    {pool after : Pool ι σ π} (reaches : Reaches program allowed pool after)
    (holds : invariant pool) : invariant after := by
  induction reaches with
  | refl => exact holds
  | tail _ moves ih =>
      rcases moves with ⟨i, isAllowed, isMove⟩
      exact preserved i _ _ isAllowed isMove ih

/-- Some ghost state explains the shared state and every thread. -/
def Explained (whole : γ → σ → Prop) (own : γ → σ → ι → π → Prop) (pool : Pool ι σ π) : Prop :=
  ∃ ghost, whole ghost pool.shared ∧ ∀ i, own ghost pool.shared i (pool.pc i)

/-- A move keeps the pool explained if it can be explained itself, together with
what the other threads rely on. -/
theorem Explained.moves {whole : γ → σ → Prop} {own : γ → σ → ι → π → Prop}
    {pool after : Pool ι σ π} {i : ι} (explained : Explained whole own pool)
    (moves : Moves program i pool after)
    (explains : ∀ ghost shared pc, whole ghost pool.shared →
      (∀ j, own ghost pool.shared j (pool.pc j)) →
      program i pool.shared (pool.pc i) shared pc →
      ∃ next, whole next shared ∧ own next shared i pc ∧
        ∀ j, j ≠ i → own next shared j (pool.pc j)) :
    Explained whole own after := by
  rcases explained with ⟨ghost, isWhole, owns⟩
  rcases moves with ⟨shared, pc, isMove, rfl⟩
  rcases explains ghost shared pc isWhole owns isMove with ⟨next, nextWhole, nextSelf, nextOthers⟩
  refine ⟨next, nextWhole, ?_⟩
  intro j
  by_cases same : j = i
  · subst same
    rw [moved_self]
    exact nextSelf
  · rw [moved_of_ne pool same]
    exact nextOthers j same

end Pool

end AzureShell.Conc
