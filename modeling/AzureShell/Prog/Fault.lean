import AzureShell.Prog.Footprint

/-!
# Failing calls

A call of a service may fail before it took effect or after.  Which calls fail
is fixed in advance by a list of fates, one for each call that may fail, in the
order in which the program makes them; once the list is used up, the services
answer as usual.
-/

namespace AzureShell.Prog

variable {S : Signature} {ε α σ : Type}

/-- What becomes of a call. -/
inductive Fate (ε : Type) where
  | completes
  | raisesBefore (e : ε)
  | raisesAfter (e : ε)
deriving DecidableEq, Repr

/-- The services with failing calls. -/
def faulty (mayFail : S.Request → Bool) (raised : ε → S.Error) (handler : Handler S σ) :
    Handler S (List (Fate ε) × σ) :=
  fun request (fates, s) =>
    let reaction := handler request s
    if mayFail request then
      match fates with
      | .raisesBefore e :: rest => (.error (raised e), rest, s)
      | .raisesAfter e :: rest => (.error (raised e), rest, reaction.2)
      | fates => (reaction.1, fates.tail, reaction.2)
    else
      (reaction.1, fates, reaction.2)

/-- Every call that is still to come completes. -/
def Harmless (fates : List (Fate ε)) : Prop :=
  ∀ fate ∈ fates, fate = .completes

variable {mayFail : S.Request → Bool} {raised : ε → S.Error} {handler : Handler S σ}
  {request : S.Request} {fates : List (Fate ε)} {s : σ}

/-- A failing call changes the state like a completed one, or not at all. -/
theorem faulty_state (mayFail : S.Request → Bool) (raised : ε → S.Error) (handler : Handler S σ)
    (request : S.Request) (state : List (Fate ε) × σ) :
    (faulty mayFail raised handler request state).2.2 = (handler request state.2).2 ∨
      (faulty mayFail raised handler request state).2.2 = state.2 := by
  rcases state with ⟨fates, s⟩
  unfold faulty
  dsimp only
  split
  · split
    · exact Or.inr rfl
    · exact Or.inl rfl
    · exact Or.inl rfl
  · exact Or.inl rfl

/-- What every call preserves, failing calls preserve. -/
theorem faulty_preserves {invariant : σ → Prop} {state : List (Fate ε) × σ}
    (preserved : invariant (handler request state.2).2) (holds : invariant state.2) :
    invariant (faulty mayFail raised handler request state).2.2 := by
  rcases faulty_state mayFail raised handler request state with equal | equal
  · exact equal ▸ preserved
  · exact equal ▸ holds

/-- What the allowed requests preserve, a program preserves with failing calls as
well. -/
theorem Within.run_faulty_preserves {allowed : S.Request → Prop} {p : Prog S α}
    (within : Within allowed p) (invariant : σ → Prop)
    (preserved : ∀ request s, allowed request → invariant s → invariant (handler request s).2)
    {state : List (Fate ε) × σ} (holds : invariant state.2) :
    invariant (run (faulty mayFail raised handler) p state).2.2 := by
  let behind : List (Fate ε) × σ → Prop := fun later => invariant later.2
  have step : ∀ request later, allowed request → behind later →
      behind (faulty mayFail raised handler request later).2 :=
    fun request later isAllowed before =>
      faulty_preserves (preserved request later.2 isAllowed before) before
  have started : behind state := holds
  exact within.run_preserves step started

/-- A call that is answered well took effect. -/
theorem faulty_of_ok {a : S.Answer request} {after : List (Fate ε) × σ}
    (answered : faulty mayFail raised handler request (fates, s) = (.ok a, after)) :
    handler request s = (.ok a, after.2) := by
  unfold faulty at answered
  dsimp only at answered
  split at answered
  · split at answered
    · cases answered
    · cases answered
    · rcases Prod.mk.inj answered with ⟨ok, rfl⟩
      exact Prod.ext ok rfl
  · rcases Prod.mk.inj answered with ⟨ok, rfl⟩
    exact Prod.ext ok rfl

/-- Where no call fails the services answer as usual. -/
theorem faulty_of_harmless (mayFail : S.Request → Bool) (raised : ε → S.Error)
    (handler : Handler S σ) (request : S.Request) (s : σ) (harmless : Harmless fates) :
    ∃ rest, Harmless rest ∧ faulty mayFail raised handler request (fates, s) =
      ((handler request s).1, rest, (handler request s).2) := by
  unfold faulty
  dsimp only
  split
  · refine ⟨fates.tail, fun fate member => harmless fate (List.mem_of_mem_tail member), ?_⟩
    split
    · have completes := harmless _ List.mem_cons_self
      cases completes
    · have completes := harmless _ List.mem_cons_self
      cases completes
    · rfl
  · exact ⟨fates, harmless, rfl⟩

/-- Where no call fails a program runs as usual. -/
theorem run_faulty_of_harmless {p : Prog S α} (harmless : Harmless fates) :
    ∃ rest, Harmless rest ∧ run (faulty mayFail raised handler) p (fates, s) =
      ((run handler p s).1, rest, (run handler p s).2) := by
  induction p generalizing fates s with
  | done outcome => exact ⟨fates, harmless, rfl⟩
  | call request next ih =>
      obtain ⟨rest, restHarmless, answered⟩ :=
        faulty_of_harmless mayFail raised handler request s harmless
      rcases ih (handler request s).1 restHarmless with ⟨last, lastHarmless, later⟩
      exact ⟨last, lastHarmless, by rw [run, answered]; exact later⟩
  | acquire lock next ih => exact ih harmless
  | release lock next ih => exact ih harmless

/-! ## Truthful programs -/

variable {α β : Type}

/-- Whenever the program ends well with failing calls, it would have ended the
same way without them. -/
def Truthful (mayFail : S.Request → Bool) (raised : ε → S.Error) (handler : Handler S σ)
    (p : Prog S α) : Prop :=
  ∀ state a after, run (faulty mayFail raised handler) p state = (.ok a, after) →
    run handler p state.2 = (.ok a, after.2)

theorem truthful_pure (a : α) : Truthful mayFail raised handler (pure a) := by
  rintro state _ _ ⟨⟩
  rfl

theorem truthful_raise (e : S.Error) : Truthful mayFail raised handler (raise e : Prog S α) := by
  rintro state _ _ ⟨⟩

theorem truthful_ofExcept (outcome : Except S.Error α) :
    Truthful mayFail raised handler (ofExcept outcome) := by
  cases outcome with
  | ok a => exact truthful_pure a
  | error e => exact truthful_raise e

theorem truthful_perform (request : S.Request) :
    Truthful mayFail raised handler (perform request) := by
  intro state a after success
  exact faulty_of_ok success

theorem Truthful.bind {p : Prog S α} {f : α → Prog S β} (first : Truthful mayFail raised handler p)
    (rest : ∀ a, Truthful mayFail raised handler (f a)) :
    Truthful mayFail raised handler (p >>= f) := by
  intro state b after success
  rcases run_bind_eq_ok success with ⟨a, between, ran, success⟩
  rw [run_bind_of_ok (first state a between ran)]
  exact rest a between b after success

theorem Truthful.when {condition : Prop} [Decidable condition] {body : Prog S Unit}
    (truthful : Truthful mayFail raised handler body) :
    Truthful mayFail raised handler (when condition body) := by
  unfold Prog.when
  split
  · exact truthful
  · exact truthful_pure ()

theorem Truthful.withLock {lock : S.Lock} {body : Prog S α}
    (truthful : Truthful mayFail raised handler body) :
    Truthful mayFail raised handler (withLock lock body) := by
  intro state a after success
  rw [run_withLock] at success ⊢
  exact truthful state a after success

theorem Truthful.forEach {β : Type} {items : List β} {body : β → Prog S Unit}
    (round : ∀ item, Truthful mayFail raised handler (body item)) :
    Truthful mayFail raised handler (forEach items body) := by
  induction items with
  | nil => exact truthful_pure ()
  | cons item rest ih => exact (round item).bind fun _ => ih

theorem Truthful.collect {β : Type} {items : List β} {body : β → Prog S α}
    (round : ∀ item, Truthful mayFail raised handler (body item)) :
    Truthful mayFail raised handler (collect items body) := by
  induction items with
  | nil => exact truthful_pure []
  | cons item rest ih =>
      exact (round item).bind fun a => ih.bind fun as => truthful_pure (a :: as)

/-! ## Faithful programs -/

/-- The program changes nothing, and with failing calls it ends as it would have
without them or with the error of one of them. -/
structure Faithful (mayFail : S.Request → Bool) (raised : ε → S.Error) (handler : Handler S σ)
    (p : Prog S α) : Prop where
  reads : ∀ s, (run handler p s).2 = s
  leaves : ∀ state, (run (faulty mayFail raised handler) p state).2.2 = state.2
  ends : ∀ state, (run (faulty mayFail raised handler) p state).1 = (run handler p state.2).1 ∨
    ∃ e, (run (faulty mayFail raised handler) p state).1 = .error (raised e)

theorem faithful_ofExcept (outcome : Except S.Error α) :
    Faithful mayFail raised handler (ofExcept outcome) where
  reads _ := rfl
  leaves _ := rfl
  ends _ := Or.inl rfl

theorem faithful_perform {request : S.Request} (reads : ∀ s, (handler request s).2 = s) :
    Faithful mayFail raised handler (perform request) where
  reads := reads
  leaves := by
    intro state
    have changed := faulty_state mayFail raised handler request state
    rw [reads state.2] at changed
    exact changed.elim id id
  ends := by
    rintro ⟨fates, s⟩
    simp only [run_perform, faulty]
    split
    · split
      · exact Or.inr ⟨_, rfl⟩
      · exact Or.inr ⟨_, rfl⟩
      · exact Or.inl rfl
    · exact Or.inl rfl

theorem Faithful.bind {p : Prog S α} {f : α → Prog S β} (first : Faithful mayFail raised handler p)
    (rest : ∀ a, Faithful mayFail raised handler (f a)) :
    Faithful mayFail raised handler (p >>= f) where
  reads := by
    intro s
    have kept := first.reads s
    rw [run_bind]
    cases ran : run handler p s with
    | mk outcome t =>
        rw [ran] at kept
        cases outcome with
        | ok a => exact ((rest a).reads t).trans kept
        | error e => exact kept
  leaves := by
    intro state
    have kept := first.leaves state
    rw [run_bind]
    cases ran : run (faulty mayFail raised handler) p state with
    | mk outcome after =>
        rw [ran] at kept
        cases outcome with
        | ok a => exact ((rest a).leaves after).trans kept
        | error e => exact kept
  ends := by
    intro state
    have kept := first.leaves state
    have plainKept := first.reads state.2
    have ended := first.ends state
    rw [run_bind, run_bind]
    cases ran : run (faulty mayFail raised handler) p state with
    | mk outcome after =>
        cases plain : run handler p state.2 with
        | mk plainOutcome s =>
            rw [ran] at kept ended
            rw [plain] at plainKept ended
            rcases ended with same | ⟨e, isRaised⟩
            · cases same
              cases outcome with
              | ok a =>
                  have sameState : after.2 = s := kept.trans plainKept.symm
                  exact sameState ▸ (rest a).ends after
              | error e => exact Or.inl rfl
            · cases isRaised
              exact Or.inr ⟨e, rfl⟩

theorem Faithful.collect {items : List β} {body : β → Prog S α}
    (round : ∀ item, Faithful mayFail raised handler (body item)) :
    Faithful mayFail raised handler (collect items body) := by
  induction items with
  | nil => exact faithful_ofExcept (.ok [])
  | cons item rest ih =>
      exact (round item).bind fun a => ih.bind fun as => faithful_ofExcept (.ok (a :: as))

theorem Faithful.truthful {p : Prog S α} (faithful : Faithful mayFail raised handler p) :
    Truthful mayFail raised handler p := by
  intro state a after success
  have kept := faithful.leaves state
  have ended := faithful.ends state
  rw [success] at kept ended
  rcases ended with same | ⟨e, isRaised⟩
  · exact Prod.ext same.symm ((faithful.reads state.2).trans kept.symm)
  · cases isRaised

/-- Every attempt reads the same, so a retry is as faithful as its body. -/
theorem Faithful.retry {again : S.Error → Bool} {extra : Nat} {p : Prog S α}
    (faithful : Faithful mayFail raised handler p) :
    Faithful mayFail raised handler (retry again extra p) := by
  have plain : ∀ s, run handler (Prog.retry again extra p) s = run handler p s := by
    intro s
    have preserved : ∀ later, later = s → (run handler p later).2 = s :=
      fun later same => (faithful.reads later).trans same
    rcases run_retry_of_preserved preserved rfl with ⟨_, rfl, last⟩
    exact last
  have last : ∀ state : List (Fate ε) × σ, ∃ start, start.2 = state.2 ∧
      run (faulty mayFail raised handler) (Prog.retry again extra p) state =
        run (faulty mayFail raised handler) p start := by
    intro state
    have preserved : ∀ later : List (Fate ε) × σ, later.2 = state.2 →
        (run (faulty mayFail raised handler) p later).2.2 = state.2 :=
      fun later same => (faithful.leaves later).trans same
    exact run_retry_of_preserved preserved rfl
  constructor
  · intro s
    rw [plain]
    exact faithful.reads s
  · intro state
    rcases last state with ⟨start, same, ran⟩
    rw [ran, faithful.leaves, same]
  · intro state
    rcases last state with ⟨start, same, ran⟩
    rw [ran, plain, ← same]
    exact faithful.ends start

end AzureShell.Prog
