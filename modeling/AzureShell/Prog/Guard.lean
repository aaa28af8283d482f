import AzureShell.Prog.Interleave

/-!
# Locks and interference

A lock discipline has three parts: an invariant of the services, what the
threads without the lock may do to the services, and what each request needs of
the state it is made in.  A program is safe if, along every course in which the
others interfere as they may, its requests find what they need and keep the
discipline themselves.

If all threads are safe, every interleaving keeps the invariant, and every
request finds what it needs.
-/

namespace AzureShell.Prog

variable {S : Signature} {α β σ ι : Type}

structure Discipline (S : Signature) (σ : Type) where
  lock : S.Lock
  /-- Holds between any two steps. -/
  invariant : σ → Prop
  /-- What threads without the lock may do. -/
  rely : σ → σ → Prop
  /-- What a request needs of the state it is made in. -/
  admissible : S.Request → σ → Prop
  rely_refl : ∀ s, rely s s
  rely_trans : ∀ {s t u}, rely s t → rely t u → rely s u

namespace Discipline

/-- The states a thread may find after the others moved: any with the invariant,
and if it holds the lock only those that the discipline lets them reach. -/
def Follows (D : Discipline S σ) (holds : Bool) (s t : σ) : Prop :=
  D.invariant t ∧ (holds = true → D.rely s t)

end Discipline

/-- Along every interference the requests of the program find what they need and
keep the discipline; `post` holds where it ends. -/
def Safe (D : Discipline S σ) (handler : Handler S σ)
    (post : Bool → Except S.Error α → σ → Prop) : Bool → Prog S α → σ → Prop
  | holds, .done outcome, s => post holds outcome s
  | holds, .call request next, s => ∀ t, D.Follows holds s t →
      D.admissible request t ∧ D.invariant (handler request t).2 ∧
        (holds = false → D.rely t (handler request t).2) ∧
        Safe D handler post holds (next (handler request t).1) (handler request t).2
  | holds, .acquire lock next, s => lock = D.lock ∧ holds = false ∧
      ∀ t, D.Follows holds s t → Safe D handler post true next t
  | holds, .release lock next, s => lock = D.lock ∧ holds = true ∧
      ∀ t, D.Follows holds s t → Safe D handler post false next t

variable {D : Discipline S σ} {handler : Handler S σ} {holds : Bool} {s : σ}

theorem Discipline.Follows.trans {t u : σ} (first : D.Follows holds s t)
    (second : D.Follows holds t u) : D.Follows holds s u :=
  ⟨second.1, fun locked => D.rely_trans (first.2 locked) (second.2 locked)⟩

/-- Interference does not make a program unsafe, if it does not touch what is
claimed at the end. -/
theorem Safe.follow {post : Bool → Except S.Error α → σ → Prop} {p : Prog S α}
    (stable : ∀ holds outcome s t, D.Follows holds s t → post holds outcome s →
      post holds outcome t)
    (safe : Safe D handler post holds p s) {t : σ} (follows : D.Follows holds s t) :
    Safe D handler post holds p t := by
  cases p with
  | done outcome => exact stable _ _ _ _ follows safe
  | call request next => exact fun u later => safe u (follows.trans later)
  | acquire lock next => exact ⟨safe.1, safe.2.1, fun u later => safe.2.2 u (follows.trans later)⟩
  | release lock next => exact ⟨safe.1, safe.2.1, fun u later => safe.2.2 u (follows.trans later)⟩

/-! ## Rules for programs -/

theorem Safe.mono {post weaker : Bool → Except S.Error α → σ → Prop} {p : Prog S α}
    (safe : Safe D handler post holds p s)
    (implies : ∀ holds outcome s, post holds outcome s → weaker holds outcome s) :
    Safe D handler weaker holds p s := by
  induction p generalizing holds s with
  | done outcome => exact implies _ _ _ safe
  | call request next ih =>
      intro t follows
      rcases safe t follows with ⟨admissible, invariant, guarantee, rest⟩
      exact ⟨admissible, invariant, guarantee, ih _ rest⟩
  | acquire lock next ih => exact ⟨safe.1, safe.2.1, fun t follows => ih (safe.2.2 t follows)⟩
  | release lock next ih => exact ⟨safe.1, safe.2.1, fun t follows => ih (safe.2.2 t follows)⟩

theorem Safe.bind {post : Bool → Except S.Error β → σ → Prop} {p : Prog S α} {f : α → Prog S β}
    (safe : Safe D handler (fun holds outcome s =>
      match outcome with
      | .ok a => Safe D handler post holds (f a) s
      | .error e => post holds (.error e) s) holds p s) :
    Safe D handler post holds (p >>= f) s := by
  change Safe D handler post holds (Prog.bind p f) s
  induction p generalizing holds s with
  | done outcome =>
      cases outcome with
      | ok a => exact safe
      | error e => exact safe
  | call request next ih =>
      intro t follows
      rcases safe t follows with ⟨admissible, invariant, guarantee, rest⟩
      exact ⟨admissible, invariant, guarantee, ih _ rest⟩
  | acquire lock next ih => exact ⟨safe.1, safe.2.1, fun t follows => ih (safe.2.2 t follows)⟩
  | release lock next ih => exact ⟨safe.1, safe.2.1, fun t follows => ih (safe.2.2 t follows)⟩

theorem Safe.catching {post : Bool → Except S.Error α → σ → Prop} {p : Prog S α}
    {h : S.Error → Prog S α}
    (safe : Safe D handler (fun holds outcome s =>
      match outcome with
      | .ok a => post holds (.ok a) s
      | .error e => Safe D handler post holds (h e) s) holds p s) :
    Safe D handler post holds (p.catching h) s := by
  induction p generalizing holds s with
  | done outcome =>
      cases outcome with
      | ok a => exact safe
      | error e => exact safe
  | call request next ih =>
      intro t follows
      rcases safe t follows with ⟨admissible, invariant, guarantee, rest⟩
      exact ⟨admissible, invariant, guarantee, ih _ rest⟩
  | acquire lock next ih => exact ⟨safe.1, safe.2.1, fun t follows => ih (safe.2.2 t follows)⟩
  | release lock next ih => exact ⟨safe.1, safe.2.1, fun t follows => ih (safe.2.2 t follows)⟩

/-- A program whose exceptions are all final is not repeated. -/
theorem Safe.retry_final {post : Bool → Except S.Error α → σ → Prop} {p : Prog S α}
    {again : S.Error → Bool} {extra : Nat}
    (safe : Safe D handler (fun holds outcome s =>
      post holds outcome s ∧ ∀ e, outcome = .error e → again e = false) holds p s) :
    Safe D handler post holds (retry again extra p) s := by
  cases extra with
  | zero => exact safe.mono fun _ _ _ ends => ends.1
  | succ extra =>
      apply Safe.catching
      apply safe.mono
      intro holds outcome s ends
      cases outcome with
      | ok a => exact ends.1
      | error e =>
          simp only [ends.2 e rfl]
          exact ends.1

/-! ## Programs that keep the discipline -/

/-- From every state with the invariant the program is safe, and it ends with
the invariant and with the lock as it found it. -/
def Keeps (D : Discipline S σ) (handler : Handler S σ) (holds : Bool) (p : Prog S α) : Prop :=
  ∀ s, D.invariant s →
    Safe D handler (fun after _ t => after = holds ∧ D.invariant t) holds p s

theorem keeps_pure (a : α) : Keeps D handler holds (pure a) := by
  intro s invariant
  exact ⟨rfl, invariant⟩

/-- A request that is admissible anywhere and that the discipline lets anybody
make. -/
theorem keeps_perform {request : S.Request}
    (admissible : ∀ s, D.invariant s → D.admissible request s)
    (invariant : ∀ s, D.invariant s → D.invariant (handler request s).2)
    (guarantee : ∀ s, D.invariant s → D.rely s (handler request s).2) :
    Keeps D handler holds (perform request) := by
  intro s _ t follows
  exact ⟨admissible t follows.1, invariant t follows.1, fun _ => guarantee t follows.1, rfl,
    invariant t follows.1⟩

theorem Keeps.bind {p : Prog S α} {f : α → Prog S β} (first : Keeps D handler holds p)
    (rest : ∀ a, Keeps D handler holds (f a)) : Keeps D handler holds (p >>= f) := by
  intro s invariant
  apply Safe.bind
  apply (first s invariant).mono
  rintro _ outcome t ⟨rfl, invariantAfter⟩
  cases outcome with
  | ok a => exact rest a t invariantAfter
  | error e => exact ⟨rfl, invariantAfter⟩

theorem Keeps.when {condition : Prop} [Decidable condition] {p : Prog S Unit}
    (keeps : condition → Keeps D handler holds p) : Keeps D handler holds (when condition p) := by
  unfold Prog.when
  split
  · rename_i isTrue
    exact keeps isTrue
  · exact keeps_pure ()

theorem Keeps.forEach {items : List β} {body : β → Prog S Unit}
    (round : ∀ item ∈ items, Keeps D handler holds (body item)) :
    Keeps D handler holds (forEach items body) := by
  induction items with
  | nil => exact keeps_pure ()
  | cons item rest ih =>
      apply Keeps.bind
      · exact round item List.mem_cons_self
      · intro _
        exact ih fun other member => round other (List.mem_cons_of_mem item member)

theorem Keeps.retry {again : S.Error → Bool} {p : Prog S α} (keeps : Keeps D handler holds p)
    (extra : Nat) : Keeps D handler holds (retry again extra p) := by
  induction extra with
  | zero => exact keeps
  | succ extra ih =>
      intro s invariant
      apply Safe.catching
      apply (keeps s invariant).mono
      rintro _ outcome t ⟨rfl, invariantAfter⟩
      cases outcome with
      | ok a => exact ⟨rfl, invariantAfter⟩
      | error e =>
          simp only
          split
          · exact ih t invariantAfter
          · exact ⟨rfl, invariantAfter⟩

/-- A body that keeps the discipline with the lock may run under the lock. -/
theorem Keeps.withLock {p : Prog S α} (body : Keeps D handler true p) :
    Keeps D handler false (withLock D.lock p) := by
  intro s _
  refine ⟨rfl, rfl, fun t follows => ?_⟩
  apply Safe.bind
  apply Safe.catching
  apply (body t follows.1).mono
  rintro _ outcome u ⟨rfl, invariant⟩
  cases outcome with
  | ok a => exact ⟨rfl, rfl, fun v later => ⟨rfl, later.1⟩⟩
  | error e => exact ⟨rfl, rfl, fun v later => ⟨rfl, later.1⟩⟩

/-! ## All threads together -/

variable [DecidableEq S.Lock] [DecidableEq ι]

/-- The invariant holds, and what is left of each thread is safe. -/
def AllSafe (D : Discipline S σ) (handler : Handler S σ) (config : Config S σ ι α) : Prop :=
  D.invariant config.shared ∧
    ∀ i, Safe D handler (fun _ _ _ => True) (config.owner D.lock = some i) (config.threads i)
      config.shared

/-- A step of a safe thread leaves all threads safe. -/
theorem AllSafe.step {i : ι} {config after : Config S σ ι α}
    (step : Step handler i config after) (allSafe : AllSafe D handler config) :
    AllSafe D handler after := by
  rcases allSafe with ⟨invariant, safe⟩
  have self : ∀ holds, D.Follows holds config.shared config.shared := fun _ =>
    ⟨invariant, fun _ => D.rely_refl _⟩
  cases step with
  | @call request next left =>
      have mine := safe i
      rw [left] at mine
      rcases mine _ (self _) with ⟨_, invariantAfter, guarantee, rest⟩
      refine ⟨invariantAfter, fun j => ?_⟩
      change Safe D handler _ _ (Function.update config.threads i _ j) _
      by_cases same : j = i
      · subst same
        rw [Function.update_self]
        exact rest
      · rw [Function.update_of_ne same]
        have follows : D.Follows (config.owner D.lock = some j) config.shared
            (handler request config.shared).2 := by
          refine ⟨invariantAfter, fun locked => guarantee ?_⟩
          have owner : config.owner D.lock = some j := of_decide_eq_true locked
          simp [owner, same]
        exact (safe j).follow (fun _ _ _ _ _ _ => trivial) follows
  | @acquire lock next left free =>
      have mine := safe i
      rw [left] at mine
      rcases mine with ⟨rfl, _, rest⟩
      refine ⟨invariant, fun j => ?_⟩
      by_cases same : j = i
      · subst same
        simpa [Config.proceed] using rest _ (self _)
      · have theirs := safe j
        simp only [free] at theirs
        simpa [Config.proceed, same, Ne.symm same] using theirs
  | @release lock next left owned =>
      have mine := safe i
      rw [left] at mine
      rcases mine with ⟨rfl, _, rest⟩
      refine ⟨invariant, fun j => ?_⟩
      by_cases same : j = i
      · subst same
        simpa [Config.proceed] using rest _ (self _)
      · have theirs := safe j
        simp only [owned, Option.some.injEq, Ne.symm same, decide_false] at theirs
        simpa [Config.proceed, same] using theirs

/-- Threads that keep the discipline keep the invariant in every interleaving,
and each request is made where it is admissible. -/
theorem Reaches.disciplined {threads : ι → Prog S α}
    (keeps : ∀ i, Keeps D handler false (threads i)) {s : σ} (invariant : D.invariant s)
    {config : Config S σ ι α} (reaches : Reaches handler (Config.initial threads s) config) :
    D.invariant config.shared ∧
      ∀ i request next, config.threads i = .call request next →
        D.admissible request config.shared := by
  have allSafe : AllSafe D handler config := by
    refine Reaches.preserves ?_ reaches ?_
    · intro i config after step allSafe
      exact allSafe.step step
    · refine ⟨invariant, fun i => ?_⟩
      exact (keeps i s invariant).mono fun _ _ _ _ => trivial
  refine ⟨allSafe.1, fun i request next left => ?_⟩
  have mine := allSafe.2 i
  rw [left] at mine
  exact (mine _ ⟨allSafe.1, fun _ => D.rely_refl _⟩).1

end AzureShell.Prog
