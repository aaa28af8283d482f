import AzureShell.Prog.Fault

/-!
# Tries of one call

A call under a retry is tried until it is answered, raises an error that ends the
retry, or has used up its tries.  A try that fails may have taken effect all the
same.  What becomes of the call depends on the fates alone.
-/

namespace AzureShell.Prog

variable {S : Signature} {ε σ ν : Type}

/-- What has become of a call: whether a try completed, whether one took effect,
whether one did before the last, and the fates of the calls after it. -/
structure Tried (ε : Type) where
  completed : Bool
  tookEffect : Bool
  redone : Bool
  rest : List (Fate ε)

/-- The tries of a call of which an earlier one took effect. -/
def Tried.afterEffect (later : Tried ε) : Tried ε :=
  { later with tookEffect := true, redone := true }

/-- The first try of a call and at most `extra` more, each after an error of the
class that is retried. -/
def tried (again : ε → Bool) : Nat → List (Fate ε) → Tried ε
  | _, [] => ⟨true, true, false, []⟩
  | _, .completes :: rest => ⟨true, true, false, rest⟩
  | 0, .raisesBefore _ :: rest => ⟨false, false, false, rest⟩
  | 0, .raisesAfter _ :: rest => ⟨false, true, false, rest⟩
  | extra + 1, .raisesBefore e :: rest =>
      if again e then tried again extra rest else ⟨false, false, false, rest⟩
  | extra + 1, .raisesAfter e :: rest =>
      if again e then (tried again extra rest).afterEffect else ⟨false, true, false, rest⟩

/-- What completes takes effect. -/
theorem tookEffect_of_completed {again : ε → Bool} {extra : Nat} {fates : List (Fate ε)}
    (completed : (tried again extra fates).completed = true) :
    (tried again extra fates).tookEffect = true := by
  fun_induction tried again extra fates with
  | case1 => rfl
  | case2 => rfl
  | case3 => cases completed
  | case4 => cases completed
  | case5 extra e rest isAgain ih => exact ih completed
  | case6 => cases completed
  | case7 => rfl
  | case8 => cases completed

variable {mayFail : S.Request → Bool} {raised : ε → S.Error} {handler : Handler S σ}
  {request : S.Request} {again : S.Error → Bool}

/-- A call of which only the view matters: from the old view it is answered in one
way, from the new view in another, and it leaves the new view. -/
structure Settles (handler : Handler S σ) (request : S.Request) (view : σ → ν) (old new : ν)
    (answer answerAgain : Except S.Error (S.Answer request)) : Prop where
  first : ∀ s, view s = old →
    (handler request s).1 = answer ∧ view (handler request s).2 = new
  later : ∀ s, view s = new →
    (handler request s).1 = answerAgain ∧ view (handler request s).2 = new

/-- A program for a call has gone the way of its tries. -/
structure Follows (raised : ε → S.Error) (view : σ → ν) (old new : ν) {α : Type}
    (answer answerAgain : Except S.Error α) (outcome : Tried ε)
    (final : Except S.Error α × List (Fate ε) × σ) : Prop where
  rest : final.2.1 = outcome.rest
  seen : view final.2.2 = if outcome.tookEffect then new else old
  answered : outcome.completed = true → final.1 = if outcome.redone then answerAgain else answer
  raises : outcome.completed = false → ∃ e, final.1 = .error (raised e)

/-- After a call that completes with an answer the program goes on. -/
theorem Follows.run_bind_of_completed {α β : Type} {handler : Handler S (List (Fate ε) × σ)}
    {view : σ → ν} {old new : ν} {answer answerAgain : Except S.Error α} {outcome : Tried ε}
    {p : Prog S α} {start : List (Fate ε) × σ} {a : α}
    (follows : Follows raised view old new answer answerAgain outcome (run handler p start))
    (completed : outcome.completed = true)
    (answers : (if outcome.redone then answerAgain else answer) = .ok a) (next : α → Prog S β) :
    run handler (p >>= next) start =
      run handler (next a) (outcome.rest, (run handler p start).2.2) :=
  run_bind_of_ok (Prod.ext ((follows.answered completed).trans answers)
    (Prod.ext follows.rest rfl))

/-- A call that does not complete ends the program. -/
theorem Follows.run_bind_of_failed {α β : Type} {handler : Handler S (List (Fate ε) × σ)}
    {view : σ → ν} {old new : ν} {answer answerAgain : Except S.Error α} {outcome : Tried ε}
    {p : Prog S α} {start : List (Fate ε) × σ}
    (follows : Follows raised view old new answer answerAgain outcome (run handler p start))
    (failed : outcome.completed = false) (next : α → Prog S β) :
    ∃ e, run handler (p >>= next) start = (.error (raised e), (run handler p start).2) := by
  rcases follows.raises failed with ⟨e, raises⟩
  exact ⟨e, run_bind_of_error (Prod.ext raises rfl)⟩

section Steps

variable {extra : Nat} {e : ε} {fates rest : List (Fate ε)} {s t : σ}

theorem run_perform_raisesBefore (raised : ε → S.Error) (handler : Handler S σ)
    (mayRaise : mayFail request = true) (e : ε) (rest : List (Fate ε)) (s : σ) :
    run (faulty mayFail raised handler) (perform request) (.raisesBefore e :: rest, s) =
      (.error (raised e), rest, s) := by
  simp [faulty, mayRaise]

theorem run_perform_raisesAfter (raised : ε → S.Error) (handler : Handler S σ)
    (mayRaise : mayFail request = true) (e : ε) (rest : List (Fate ε)) (s : σ) :
    run (faulty mayFail raised handler) (perform request) (.raisesAfter e :: rest, s) =
      (.error (raised e), rest, (handler request s).2) := by
  simp [faulty, mayRaise]

/-- A try that completes ends the retry, if its answer is no error to be retried. -/
theorem run_retry_completes {answer : Except S.Error (S.Answer request)}
    (mayRaise : mayFail request = true) (final : ∀ e, answer = .error e → again e = false)
    (answered : (handler request s).1 = answer)
    (completes : ∀ fate ∈ fates.head?, fate = .completes) (extra : Nat) :
    run (faulty mayFail raised handler) (retry again extra (perform request)) (fates, s) =
      (answer, fates.tail, (handler request s).2) := by
  have ran : run (faulty mayFail raised handler) (perform request) (fates, s) =
      (answer, fates.tail, (handler request s).2) := by
    rw [← answered]
    cases fates with
    | nil => simp [faulty, mayRaise]
    | cons fate rest =>
        rw [completes fate rfl]
        simp [faulty, mayRaise]
  cases answer with
  | ok a => exact run_retry_of_ok ran
  | error e => exact run_retry_of_error ran (final e rfl)

theorem run_retry_stops {handler : Handler S σ} {p : Prog S (S.Answer request)} {e : S.Error}
    (failed : run handler p s = (.error e, t)) (last : extra = 0 ∨ again e = false) :
    run handler (retry again extra p) s = (.error e, t) := by
  cases extra with
  | zero => exact failed
  | succ extra => exact run_retry_of_error failed (last.resolve_left (Nat.succ_ne_zero extra))

theorem run_retry_continues {handler : Handler S σ} {p : Prog S (S.Answer request)} {e : S.Error}
    (failed : run handler p s = (.error e, t)) (isAgain : again e = true) :
    run handler (retry again (extra + 1) p) s = run handler (retry again extra p) t := by
  rw [retry, run_catching_of_error failed, if_pos isAgain]

end Steps

/-- A later try that took effect follows an effect. -/
theorem Follows.afterEffect {view : σ → ν} {old new : ν} {α : Type}
    {answer answerAgain : Except S.Error α} {outcome : Tried ε}
    {final : Except S.Error α × List (Fate ε) × σ}
    (follows : Follows raised view new new answerAgain answerAgain outcome final) :
    Follows raised view old new answer answerAgain outcome.afterEffect final where
  rest := follows.rest
  seen := follows.seen.trans (ite_self _)
  answered completed := (follows.answered completed).trans (ite_self _)
  raises := follows.raises

/-- The tries of a call that settles leave the new view if one of them took
effect. -/
theorem run_retry_perform (mayFail : S.Request → Bool) (raised : ε → S.Error)
    (again : S.Error → Bool) {view : σ → ν} {old new : ν}
    {answer answerAgain : Except S.Error (S.Answer request)}
    (mayRaise : mayFail request = true) (final : ∀ e, answer = .error e → again e = false)
    (finalAgain : ∀ e, answerAgain = .error e → again e = false)
    (settles : Settles handler request view old new answer answerAgain) (extra : Nat)
    (fates : List (Fate ε)) {s : σ} (start : view s = old) :
    Follows raised view old new answer answerAgain
      (tried (fun e => again (raised e)) extra fates)
      (run (faulty mayFail raised handler) (retry again extra (perform request)) (fates, s)) := by
  have settled := settles.first s start
  fun_induction tried (fun e => again (raised e)) extra fates
    generalizing s old answer answerAgain with
  | case1 extra =>
      rw [run_retry_completes mayRaise final settled.1 (by simp) extra]
      exact ⟨rfl, settled.2, fun _ => rfl, fun impossible => by cases impossible⟩
  | case2 extra rest =>
      rw [run_retry_completes mayRaise final settled.1 (by simp) extra]
      exact ⟨rfl, settled.2, fun _ => rfl, fun impossible => by cases impossible⟩
  | case3 e rest =>
      rw [run_retry_stops (run_perform_raisesBefore raised handler mayRaise e rest s) (Or.inl rfl)]
      exact ⟨rfl, start, (fun impossible => by cases impossible), fun _ => ⟨e, rfl⟩⟩
  | case4 e rest =>
      rw [run_retry_stops (run_perform_raisesAfter raised handler mayRaise e rest s) (Or.inl rfl)]
      exact ⟨rfl, settled.2, (fun impossible => by cases impossible), fun _ => ⟨e, rfl⟩⟩
  | case5 extra e rest isAgain ih =>
      rw [run_retry_continues (run_perform_raisesBefore raised handler mayRaise e rest s) isAgain]
      exact ih final finalAgain settles start settled
  | case6 extra e rest notAgain =>
      rw [run_retry_stops (run_perform_raisesBefore raised handler mayRaise e rest s)
        (Or.inr (Bool.eq_false_iff.mpr notAgain))]
      exact ⟨rfl, start, (fun impossible => by cases impossible), fun _ => ⟨e, rfl⟩⟩
  | case7 extra e rest isAgain ih =>
      rw [run_retry_continues (run_perform_raisesAfter raised handler mayRaise e rest s) isAgain]
      -- the later tries start from the new view, which they leave as it is
      have again : Settles handler request view new new answerAgain answerAgain :=
        ⟨settles.later, settles.later⟩
      exact (ih finalAgain finalAgain again settled.2 (again.first _ settled.2)).afterEffect
  | case8 extra e rest notAgain =>
      rw [run_retry_stops (run_perform_raisesAfter raised handler mayRaise e rest s)
        (Or.inr (Bool.eq_false_iff.mpr notAgain))]
      exact ⟨rfl, settled.2, (fun impossible => by cases impossible), fun _ => ⟨e, rfl⟩⟩

end AzureShell.Prog
