import AzureShell.Prog.Core

/-!
# Repeated attempts

A retry runs its body again from wherever the failed attempt stopped.  If the
first attempt ends within an invariant and every later one preserves it, then
so do all attempts together, and a value that is returned is the value of an
attempt that started within the invariant.  The statement is about a program
and the body inside it, so that it goes through nested retries.
-/

namespace AzureShell.Prog

variable {S : Signature} {α σ : Type}

/-- From the state `s`, the program ends within the invariant, and a value it
returns is that of a run of the body from a state within the invariant. -/
structure EndsWithin (handler : Handler S σ) (body : Prog S α) (invariant : σ → Prop)
    (p : Prog S α) (s : σ) : Prop where
  ends : invariant (run handler p s).2
  started : ∀ {a t}, run handler p s = (.ok a, t) →
    ∃ u, invariant u ∧ run handler body u = (.ok a, t)

variable {handler : Handler S σ} {body p : Prog S α} {invariant : σ → Prop} {s : σ}

/-- A body that preserves the invariant, run from within it. -/
theorem EndsWithin.of_preserved (preserved : invariant (run handler body s).2)
    (holds : invariant s) : EndsWithin handler body invariant body s where
  ends := preserved
  started := fun returned => ⟨s, holds, returned⟩

/-- A body that fails and leaves the invariant. -/
theorem EndsWithin.of_error {e : S.Error} {t : σ} (failed : run handler body s = (.error e, t))
    (holds : invariant t) : EndsWithin handler body invariant body s where
  ends := by
    rw [failed]
    exact holds
  started := by
    intro a u returned
    rw [failed] at returned
    cases returned

/-- The attempts of a retry, the first one from `s` and the others from within
the invariant. -/
theorem EndsWithin.retry {again : S.Error → Bool} {extra : Nat}
    (first : EndsWithin handler body invariant p s)
    (later : ∀ u, invariant u → EndsWithin handler body invariant p u) :
    EndsWithin handler body invariant (retry again extra p) s := by
  induction extra generalizing s with
  | zero => exact first
  | succ extra ih =>
      have ends := first.ends
      cases attempt : run handler p s with
      | mk outcome t =>
          rw [attempt] at ends
          cases outcome with
          | ok a =>
              have settled : run handler (Prog.retry again (extra + 1) p) s = (.ok a, t) :=
                run_retry_of_ok attempt
              refine ⟨by rw [settled]; exact ends, fun returned => ?_⟩
              rw [settled] at returned
              exact first.started (attempt.trans returned)
          | error e =>
              have continued : run handler (Prog.retry again (extra + 1) p) s =
                  run handler (if again e then Prog.retry again extra p else raise e) t :=
                run_catching_of_error attempt
              by_cases repeated : again e = true
              · rw [if_pos repeated] at continued
                have rest := ih (later t ends)
                refine ⟨by rw [continued]; exact rest.ends, fun returned => ?_⟩
                rw [continued] at returned
                exact rest.started returned
              · rw [if_neg repeated] at continued
                refine ⟨by rw [continued]; exact ends, fun returned => ?_⟩
                rw [continued] at returned
                cases returned

end AzureShell.Prog
