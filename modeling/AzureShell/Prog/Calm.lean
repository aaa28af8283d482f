import AzureShell.Prog.Fault
import AzureShell.Prog.Footprint
import Mathlib.Data.List.Forall2

/-!
# Calm runs

A run is calm if none of its calls is answered with an error.  What a program
does in calm runs is built up like the program: a handler of exceptions is never
reached by an exception of a service.
-/

namespace AzureShell.Prog

variable {S : Signature} {α β σ : Type} {handler : Handler S σ} {invariant : σ → Prop}

/-- The errors that the calls of a run are answered with, in order. -/
def failures (handler : Handler S σ) : Prog S α → σ → List S.Error
  | .done _, _ => []
  | .call request next, s =>
      let later := failures handler (next (handler request s).1) (handler request s).2
      match (handler request s).1 with
      | .ok _ => later
      | .error e => e :: later
  | .acquire _ next, s => failures handler next s
  | .release _ next, s => failures handler next s

/-- The failures of a composition are those of its first part, and if that ends
well those of the second. -/
theorem failures_bind {p : Prog S α} {f : α → Prog S β} (s : σ) :
    failures handler (p >>= f) s = failures handler p s ++
      match run handler p s with
      | (.ok a, t) => failures handler (f a) t
      | (.error _, _) => [] := by
  change failures handler (Prog.bind p f) s = _
  induction p generalizing s with
  | done outcome =>
      cases outcome with
      | ok a => rfl
      | error e => rfl
  | call request next ih =>
      rw [Prog.bind, failures, failures, run]
      cases answered : (handler request s).1 with
      | ok a => exact ih (.ok a) (handler request s).2
      | error e => exact congrArg (e :: ·) (ih (.error e) (handler request s).2)
  | acquire lock next ih => exact ih s
  | release lock next ih => exact ih s

theorem failures_of_bind_of_ok {p : Prog S α} {f : α → Prog S β} {s t : σ} {a : α}
    (first : run handler p s = (.ok a, t)) (calm : failures handler (p >>= f) s = []) :
    failures handler (f a) t = [] := by
  rw [failures_bind, first] at calm
  exact (List.append_eq_nil_iff.mp calm).2

/-- An exception is handled after the failures that led to it. -/
theorem failures_catching (p : Prog S α) (h : S.Error → Prog S α) (s : σ) :
    failures handler (p.catching h) s = failures handler p s ++
      match run handler p s with
      | (.ok _, _) => []
      | (.error e, t) => failures handler (h e) t := by
  induction p generalizing s with
  | done outcome => cases outcome <;> rfl
  | call request next ih =>
      rw [Prog.catching, failures, failures, run]
      cases answered : (handler request s).1 with
      | ok a => exact ih (.ok a) (handler request s).2
      | error e => exact congrArg (e :: ·) (ih (.error e) (handler request s).2)
  | acquire lock next ih => exact ih s
  | release lock next ih => exact ih s

/-- In calm runs that start with the invariant the program ends well, keeps the
invariant and gives a value as described. -/
def EndsWell (handler : Handler S σ) (invariant : σ → Prop) (p : Prog S α) (post : α → Prop) :
    Prop :=
  ∀ s, invariant s → failures handler p s = [] →
    ∃ a t, run handler p s = (.ok a, t) ∧ invariant t ∧ post a

variable {post : α → Prop} {p : Prog S α}

theorem endsWell_pure {a : α} (holds : post a) : EndsWell handler invariant (pure a) post :=
  fun s start _ => ⟨a, s, rfl, start, holds⟩

theorem endsWell_perform {request : S.Request} {post : S.Answer request → Prop}
    (answered : ∀ s a t, invariant s → handler request s = (.ok a, t) → invariant t ∧ post a) :
    EndsWell handler invariant (perform request) post := by
  intro s start calm
  cases reaction : handler request s with
  | mk answer t =>
      cases answer with
      | ok a => exact ⟨a, t, reaction, answered s a t start reaction⟩
      | error e =>
          rw [perform, failures, reaction] at calm
          contradiction

/-- After a program that ends well comes its continuation. -/
theorem EndsWell.step (ends : EndsWell handler invariant p post) {f : α → Prog S β} {s : σ}
    (start : invariant s) (calm : failures handler (p >>= f) s = []) :
    ∃ a t, post a ∧ invariant t ∧ run handler p s = (.ok a, t) ∧
      failures handler (f a) t = [] := by
  have calmFirst : failures handler p s = [] := by
    rw [failures_bind, List.append_eq_nil_iff] at calm
    exact calm.1
  rcases ends s start calmFirst with ⟨a, t, ran, kept, holds⟩
  exact ⟨a, t, holds, kept, ran, failures_of_bind_of_ok ran calm⟩

theorem EndsWell.bind {final : β → Prop} (ends : EndsWell handler invariant p post)
    {f : α → Prog S β} (rest : ∀ a, post a → EndsWell handler invariant (f a) final) :
    EndsWell handler invariant (p >>= f) final := by
  intro s start calm
  rcases ends.step start calm with ⟨a, t, holds, kept, ran, calmRest⟩
  rw [run_bind_of_ok ran]
  exact rest a holds t kept calmRest

theorem EndsWell.catching (ends : EndsWell handler invariant p post) (h : S.Error → Prog S α) :
    EndsWell handler invariant (p.catching h) post := by
  intro s start calm
  rw [failures_catching, List.append_eq_nil_iff] at calm
  rcases ends s start calm.1 with ⟨a, t, ran, kept, holds⟩
  exact ⟨a, t, run_catching_of_ok ran, kept, holds⟩

theorem EndsWell.retry (ends : EndsWell handler invariant p post) (again : S.Error → Bool)
    (extra : Nat) : EndsWell handler invariant (retry again extra p) post := by
  cases extra with
  | zero => exact ends
  | succ extra => exact ends.catching _

theorem EndsWell.withLock (ends : EndsWell handler invariant p post) (lock : S.Lock) :
    EndsWell handler invariant (withLock lock p) post := by
  have body : EndsWell handler invariant
      (p.catching (fun e => .release lock (raise e)) >>= fun a => .release lock (pure a)) post :=
    (ends.catching _).bind fun a holds s start _ => ⟨a, s, rfl, start, holds⟩
  exact body

theorem EndsWell.forEach {items : List β} {body : β → Prog S Unit}
    (round : ∀ item ∈ items, EndsWell handler invariant (body item) fun _ => True) :
    EndsWell handler invariant (forEach items body) fun _ => True := by
  induction items with
  | nil => exact endsWell_pure trivial
  | cons item rest ih =>
      apply (round item List.mem_cons_self).bind
      intro _ _
      exact ih fun other member => round other (List.mem_cons_of_mem item member)

/-- The collected values are those of the items, in their order. -/
theorem EndsWell.collect {items : List β} {body : β → Prog S α} {relation : β → α → Prop}
    (round : ∀ item ∈ items, EndsWell handler invariant (body item) (relation item)) :
    EndsWell handler invariant (collect items body) (List.Forall₂ relation items) := by
  induction items with
  | nil => exact endsWell_pure List.Forall₂.nil
  | cons item rest ih =>
      apply (round item List.mem_cons_self).bind
      intro a holds
      apply (ih fun other member => round other (List.mem_cons_of_mem item member)).bind
      intro as rest
      exact endsWell_pure (List.Forall₂.cons holds rest)

theorem exists_related {items : List β} {others : List α} {relation : β → α → Prop}
    (related : List.Forall₂ relation items others) {other : α} (member : other ∈ others) :
    ∃ item ∈ items, relation item other := by
  induction related with
  | nil => simp at member
  | @cons item first items _ holds _ ih =>
      rcases List.mem_cons.mp member with rfl | later
      · exact ⟨item, List.mem_cons_self, holds⟩
      · rcases ih later with ⟨found, inItems, holdsFound⟩
        exact ⟨found, List.mem_cons_of_mem item inItems, holdsFound⟩

/-- A loop of rounds that only read and end well collects their results. -/
theorem run_collect_of_forall₂ {items : List β} {results : List α} {body : β → Prog S α} {s : σ}
    (rounds : List.Forall₂ (fun item a => run handler (body item) s = (.ok a, s)) items results) :
    run handler (collect items body) s = (.ok results, s) := by
  induction rounds with
  | nil => rfl
  | cons first _ ih =>
      rw [collect, run_bind_of_ok first, run_bind_of_ok ih]
      rfl

/-! ## Conditions on the calls of a run -/

/-- Every call of the run is made in a state that the condition allows. -/
def Along (handler : Handler S σ) (allowed : S.Request → σ → Prop) : Prog S α → σ → Prop
  | .done _, _ => True
  | .call request next, s =>
      allowed request s ∧
        Along handler allowed (next (handler request s).1) (handler request s).2
  | .acquire _ next, s => Along handler allowed next s
  | .release _ next, s => Along handler allowed next s

variable {allowed : S.Request → σ → Prop} {s t : σ}

theorem Along.first {f : α → Prog S β} (along : Along handler allowed (p >>= f) s) :
    Along handler allowed p s := by
  change Along handler allowed (Prog.bind p f) s at along
  induction p generalizing s with
  | done outcome => trivial
  | call request next ih => exact ⟨along.1, ih _ along.2⟩
  | acquire lock next ih => exact ih along
  | release lock next ih => exact ih along

theorem Along.rest_of_ok {f : α → Prog S β} {a : α} (along : Along handler allowed (p >>= f) s)
    (first : run handler p s = (.ok a, t)) : Along handler allowed (f a) t := by
  change Along handler allowed (Prog.bind p f) s at along
  induction p generalizing s with
  | done outcome =>
      cases first
      exact along
  | call request next ih => exact ih _ first along.2
  | acquire lock next ih => exact ih first along
  | release lock next ih => exact ih first along

section Handlers

variable {h : S.Error → Prog S α} (along : Along handler allowed (p.catching h) s)

include along

theorem Along.body_of_catching : Along handler allowed p s := by
  induction p generalizing s with
  | done outcome => trivial
  | call request next ih => exact ⟨along.1, ih _ along.2⟩
  | acquire lock next ih => exact ih along
  | release lock next ih => exact ih along

theorem Along.handler_of_error {e : S.Error} (failed : run handler p s = (.error e, t)) :
    Along handler allowed (h e) t := by
  induction p generalizing s with
  | done outcome =>
      cases failed
      exact along
  | call request next ih => exact ih _ along.2 failed
  | acquire lock next ih => exact ih along failed
  | release lock next ih => exact ih along failed

end Handlers

/-- A retry ends as its last attempt does, and along that the condition holds. -/
theorem Along.last_attempt {again : S.Error → Bool} {extra : Nat}
    (along : Along handler allowed (retry again extra p) s) :
    ∃ u, Along handler allowed p u ∧ run handler (retry again extra p) s = run handler p u := by
  induction extra generalizing s with
  | zero => exact ⟨s, along, rfl⟩
  | succ extra ih =>
      have inBody := along.body_of_catching
      cases attempt : run handler p s with
      | mk outcome u =>
          cases outcome with
          | ok a => exact ⟨s, inBody, (run_catching_of_ok attempt).trans attempt.symm⟩
          | error e =>
              have later := along.handler_of_error attempt
              rw [retry, run_catching_of_error attempt]
              split
              · rename_i repeated
                rw [if_pos repeated] at later
                exact ih later
              · exact ⟨s, inBody, attempt.symm⟩

/-- No call of the kind is answered with an error. -/
def CalmOn (kind : S.Request → Prop) (handler : Handler S σ) : Prog S α → σ → Prop :=
  Along handler fun request s => kind request → ∃ a, (handler request s).1 = .ok a

/-- Where no call fails of the kind that a program makes, it runs as without failing
calls. -/
theorem run_faulty_of_calmOn {ε : Type} {mayFail : S.Request → Bool} {raised : ε → S.Error}
    {kind : S.Request → Prop} (within : Within kind p) {fates : List (Fate ε)}
    (calm : CalmOn kind (faulty mayFail raised handler) p (fates, s)) :
    ∃ rest, run (faulty mayFail raised handler) p (fates, s) =
      ((run handler p s).1, rest, (run handler p s).2) := by
  induction p generalizing fates s with
  | done outcome => exact ⟨fates, rfl⟩
  | call request next ih =>
      rcases calm.1 within.1 with ⟨a, answered⟩
      have took := faulty_of_ok (Prod.ext answered rfl)
      rcases ih _ (within.2 _) calm.2 with ⟨rest, ran⟩
      refine ⟨rest, ?_⟩
      rw [run, ran, run, took, answered]
  | acquire lock next ih => exact ih within calm
  | release lock next ih => exact ih within calm

/-- Where no call fails, none of those fails that are always answered well. -/
theorem calmOn_of_harmless {ε : Type} {mayFail : S.Request → Bool} {raised : ε → S.Error}
    {kind : S.Request → Prop} {fates : List (Fate ε)} (harmless : Harmless fates)
    (within : Within (fun request => kind request → ∀ s, ∃ a, (handler request s).1 = .ok a) p) :
    CalmOn kind (faulty mayFail raised handler) p (fates, s) := by
  induction p generalizing fates s with
  | done outcome => trivial
  | call request next ih =>
      obtain ⟨rest, stillHarmless, answered⟩ :=
        faulty_of_harmless mayFail raised handler request s harmless
      constructor
      · intro isKind
        rcases within.1 isKind s with ⟨a, ok⟩
        exact ⟨a, (congrArg Prod.fst answered).trans ok⟩
      · rw [answered]
        exact ih _ stillHarmless (within.2 _)
  | acquire lock next ih => exact ih harmless within
  | release lock next ih => exact ih harmless within

end AzureShell.Prog
