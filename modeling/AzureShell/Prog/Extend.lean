import AzureShell.Prog.Fault
import AzureShell.Prog.LockOrder

/-!
# More requests

A family of services may get further requests without a change to the programs that
use the old ones.  Such a program runs on the larger family as it did before, alone
and next to others, also where calls fail.
-/

namespace AzureShell

/-- The services with further requests. -/
abbrev Signature.extend (S : Signature) (More : Type) (answer : More → Type) : Signature where
  Request := S.Request ⊕ More
  Answer := Sum.elim S.Answer answer
  Error := S.Error
  Lock := S.Lock

namespace Prog

variable {S : Signature} {More : Type} {answer : More → Type} {α ε σ : Type}

/-- A program that makes none of the further requests. -/
def extend : Prog S α → Prog (S.extend More answer) α
  | .done outcome => .done outcome
  | .call request next => .call (Sum.inl request) fun reply => extend (next reply)
  | .acquire lock next => .acquire lock (extend next)
  | .release lock next => .release lock (extend next)

/-- The handler reacts to the old requests as the other does. -/
def Extends (wider : Handler (S.extend More answer) σ) (handler : Handler S σ) : Prop :=
  ∀ request s, wider (Sum.inl request) s = handler request s

variable {wider : Handler (S.extend More answer) σ} {handler : Handler S σ}

theorem run_extend (extending : Extends wider handler) (p : Prog S α) (s : σ) :
    run wider (extend p) s = run handler p s := by
  induction p generalizing s with
  | done outcome => rfl
  | call request next ih =>
      rw [extend, run, run, ← extending request s]
      exact ih _ _
  | acquire lock next ih => exact ih s
  | release lock next ih => exact ih s

/-! ## Failing calls -/

section Failing

/-- What is learned of a reaction whose call has this fate. -/
def Fate.observe {E A : Type} (raised : ε → E) (s : σ) (reaction : Except E A × σ) :
    Fate ε → Except E A × σ
  | .completes => reaction
  | .raisesBefore e => (.error (raised e), s)
  | .raisesAfter e => (.error (raised e), reaction.2)

theorem faulty_nil (mayFail : S.Request → Bool) (raised : ε → S.Error) (handler : Handler S σ)
    (request : S.Request) (s : σ) :
    faulty mayFail raised handler request ([], s) =
      ((handler request s).1, [], (handler request s).2) := by
  unfold faulty
  dsimp only
  split <;> rfl

theorem faulty_cons (mayFail : S.Request → Bool) (raised : ε → S.Error) (handler : Handler S σ)
    (request : S.Request) (fate : Fate ε) (rest : List (Fate ε)) (s : σ) :
    faulty mayFail raised handler request (fate :: rest, s) =
      if mayFail request then
        ((fate.observe raised s (handler request s)).1, rest,
          (fate.observe raised s (handler request s)).2)
      else
        ((handler request s).1, fate :: rest, (handler request s).2) := by
  unfold faulty
  dsimp only
  split
  · cases fate <;> rfl
  · rfl

/-- Calls to the old services fail as they did before. -/
theorem Extends.faulty {mayFail : S.Request → Bool} {mayFailMore : More → Bool}
    {raised : ε → S.Error} (extending : Extends wider handler) :
    Extends (faulty (Sum.elim mayFail mayFailMore) raised wider)
      (faulty mayFail raised handler) := by
  rintro request ⟨fates, s⟩
  have reacts := extending request s
  cases fates with
  | nil =>
      rw [faulty_nil, faulty_nil]
      exact congrArg (fun reply => (reply.1, [], reply.2)) reacts
  | cons fate rest =>
      rw [faulty_cons, faulty_cons]
      exact congrArg (fun reply : Except S.Error (S.Answer request) × σ =>
        if mayFail request then
          ((fate.observe raised s reply).1, rest, (fate.observe raised s reply).2)
        else
          (reply.1, fate :: rest, reply.2)) reacts

end Failing

/-! ## Next to others -/

/-- The same order among the threads that use the larger family. -/
def LockOrder.extend (O : LockOrder S σ) : LockOrder (S.extend More answer) σ where
  rank := O.rank
  invariant := O.invariant
  others := O.others
  own := O.own
  without := O.without
  others_refl := O.others_refl
  others_trans := O.others_trans
  without_refl := O.without_refl
  without_trans := O.without_trans

variable [DecidableEq S.Lock] {O : LockOrder S σ} {held : List S.Lock}

theorem InOrder.extend {post : List S.Lock → Except S.Error α → σ → Prop} {p : Prog S α} {s : σ}
    (extending : Extends wider handler) (inOrder : InOrder O handler post held p s) :
    InOrder O.extend wider post held (extend p) s := by
  induction p generalizing held s with
  | done outcome => exact fun t follows => inOrder t ⟨follows.1, follows.2, follows.3⟩
  | call request next ih =>
      intro t follows
      have kept := inOrder t ⟨follows.1, follows.2, follows.3⟩
      rw [← extending request t] at kept
      exact ⟨kept.1, kept.2.1, kept.2.2.1, ih _ kept.2.2.2⟩
  | acquire lock next ih =>
      exact ⟨inOrder.1, fun t follows => ih (inOrder.2 t ⟨follows.1, follows.2, follows.3⟩)⟩
  | release lock next ih =>
      exact ⟨inOrder.1, fun t follows => ih (inOrder.2 t ⟨follows.1, follows.2, follows.3⟩)⟩

theorem Returns.extend {before : σ → Prop} {result : Except S.Error α → σ → Prop} {p : Prog S α}
    (extending : Extends wider handler) (returns : Returns O handler held before result p) :
    Returns O.extend wider held before result (extend p) :=
  fun s invariant holds => (returns s invariant holds).extend extending

end Prog

end AzureShell
