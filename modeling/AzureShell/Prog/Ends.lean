import AzureShell.Prog.Core

/-!
# How a run ends

Postconditions of programs that run alone, for a value and for an exception alike, with
one rule for each way to put programs together.
-/

namespace AzureShell.Prog

variable {S : Signature} {α β σ : Type} {handler : Handler S σ} {s : σ}

/-- The run from this state ends with an outcome and a state of the postcondition. -/
def Ends (handler : Handler S σ) (post : Except S.Error α → σ → Prop) (s : σ) (p : Prog S α) :
    Prop :=
  post (run handler p s).1 (run handler p s).2

variable {post : Except S.Error α → σ → Prop} {p : Prog S α}

theorem Ends.mono {weaker : Except S.Error α → σ → Prop} (ends : Ends handler post s p)
    (implies : ∀ outcome t, post outcome t → weaker outcome t) : Ends handler weaker s p :=
  implies _ _ ends

theorem ends_perform {request : S.Request} {post : Except S.Error (S.Answer request) → σ → Prop}
    (reacts : post (handler request s).1 (handler request s).2) :
    Ends handler post s (perform request) :=
  reacts

theorem ends_ofExcept {outcome : Except S.Error α} (holds : post outcome s) :
    Ends handler post s (ofExcept outcome) :=
  holds

theorem Ends.bind {final : Except S.Error β → σ → Prop} {f : α → Prog S β}
    (first : Ends handler (fun outcome t =>
      match outcome with
      | .ok a => Ends handler final t (f a)
      | .error e => final (.error e) t) s p) :
    Ends handler final s (p >>= f) := by
  unfold Ends at first ⊢
  rw [run_bind]
  cases ran : run handler p s with
  | mk outcome t =>
      rw [ran] at first
      cases outcome with
      | ok a => exact first
      | error e => exact first

theorem Ends.catching {h : S.Error → Prog S α}
    (body : Ends handler (fun outcome t =>
      match outcome with
      | .ok a => post (.ok a) t
      | .error e => Ends handler post t (h e)) s p) :
    Ends handler post s (p.catching h) := by
  unfold Ends at body ⊢
  rw [run_catching]
  cases ran : run handler p s with
  | mk outcome t =>
      rw [ran] at body
      cases outcome with
      | ok a => exact body
      | error e => exact body

/-- Every attempt ends as the whole does, and where it fails the next one may start. -/
theorem Ends.retry {again : S.Error → Bool} (starts : σ → Prop)
    (attempt : ∀ t, starts t → Ends handler
      (fun outcome u => post outcome u ∧ ∀ e, outcome = .error e → starts u) t p)
    (extra : Nat) (holds : starts s) : Ends handler post s (retry again extra p) := by
  induction extra generalizing s with
  | zero => exact (attempt s holds).mono fun _ _ ended => ended.1
  | succ extra ih =>
      apply Ends.catching
      apply (attempt s holds).mono
      rintro outcome t ⟨ended, startsAgain⟩
      cases outcome with
      | ok a => exact ended
      | error e =>
          simp only
          split
          · exact ih (startsAgain e rfl)
          · exact ended

theorem Ends.withLock {lock : S.Lock} (ends : Ends handler post s p) :
    Ends handler post s (withLock lock p) := by
  unfold Ends at ends ⊢
  rwa [run_withLock]

/-- A loop whose rounds pass a relation between the items done and the state on, and
stop with the postcondition where they fail. -/
theorem Ends.forEach {items : List β} {body : β → Prog S Unit}
    {post : Except S.Error Unit → σ → Prop} (reached : List β → σ → Prop)
    (round : ∀ done item rest, items = done ++ item :: rest → ∀ t, reached done t →
      Ends handler (fun outcome u =>
        match outcome with
        | .ok _ => reached (done ++ [item]) u
        | .error e => post (.error e) u) t (body item))
    (ended : ∀ t, reached items t → post (.ok ()) t) (holds : reached [] s) :
    Ends handler post s (forEach items body) := by
  have goes : ∀ rest done t, items = done ++ rest → reached done t →
      Ends handler post t (Prog.forEach rest body) := by
    intro rest
    induction rest with
    | nil =>
        intro done t parts isReached
        rw [List.append_nil] at parts
        exact ended t (parts ▸ isReached)
    | cons item rest ih =>
        intro done t parts isReached
        apply Ends.bind
        apply (round done item rest parts t isReached).mono
        intro outcome u ended
        cases outcome with
        | ok a => exact ih (done ++ [item]) u (by simp [parts]) ended
        | error e => exact ended
  exact goes items [] s rfl holds

end AzureShell.Prog
