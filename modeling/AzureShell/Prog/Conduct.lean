import AzureShell.Prog.Interleave

/-!
# Conduct

The conduct of a program is what it does along every course of answers its
services can give: the requests it makes with and without a lock, the locks it
takes, and how it ends.  The rules follow the program.
-/

namespace AzureShell.Prog

variable {S : Signature} {α β σ : Type}

/-- What a program may do: the requests it makes holding a lock or not, and the
locks it takes. -/
structure Conduct (S : Signature) where
  request : Bool → S.Request → Prop
  lock : S.Lock → Prop

/-- The program conducts itself as allowed, whatever state its services are in,
and ends, holding a lock or not, as `post` says. -/
def Obeys (handler : Handler S σ) (conduct : Conduct S) (post : Bool → Except S.Error α → Prop) :
    Bool → Prog S α → Prop
  | held, .done outcome => post held outcome
  | held, .call request next => conduct.request held request ∧
      ∀ s, Obeys handler conduct post held (next (handler request s).1)
  | held, .acquire lock next => conduct.lock lock ∧ held = false ∧
      Obeys handler conduct post true next
  | held, .release lock next => conduct.lock lock ∧ held = true ∧
      Obeys handler conduct post false next

variable {handler : Handler S σ} {conduct : Conduct S} {held : Bool}
  {post : Bool → Except S.Error α → Prop} {p : Prog S α}

theorem Obeys.mono {larger : Conduct S} {weaker : Bool → Except S.Error α → Prop}
    (obeys : Obeys handler conduct post held p)
    (request : ∀ held request, conduct.request held request → larger.request held request)
    (lock : ∀ lock, conduct.lock lock → larger.lock lock)
    (implies : ∀ held outcome, post held outcome → weaker held outcome) :
    Obeys handler larger weaker held p := by
  induction p generalizing held with
  | done outcome => exact implies _ _ obeys
  | call sent next ih => exact ⟨request _ _ obeys.1, fun s => ih _ (obeys.2 s)⟩
  | acquire taken next ih => exact ⟨lock _ obeys.1, obeys.2.1, ih obeys.2.2⟩
  | release given next ih => exact ⟨lock _ obeys.1, obeys.2.1, ih obeys.2.2⟩

theorem Obeys.weaken {weaker : Bool → Except S.Error α → Prop}
    (obeys : Obeys handler conduct post held p)
    (implies : ∀ held outcome, post held outcome → weaker held outcome) :
    Obeys handler conduct weaker held p :=
  obeys.mono (fun _ _ allowed => allowed) (fun _ allowed => allowed) implies

theorem Obeys.bind {final : Bool → Except S.Error β → Prop} {f : α → Prog S β}
    (obeys : Obeys handler conduct (fun held outcome =>
      match outcome with
      | .ok a => Obeys handler conduct final held (f a)
      | .error e => final held (.error e)) held p) :
    Obeys handler conduct final held (p >>= f) := by
  change Obeys handler conduct final held (Prog.bind p f)
  induction p generalizing held with
  | done outcome => cases outcome <;> exact obeys
  | call request next ih => exact ⟨obeys.1, fun s => ih _ (obeys.2 s)⟩
  | acquire lock next ih => exact ⟨obeys.1, obeys.2.1, ih obeys.2.2⟩
  | release lock next ih => exact ⟨obeys.1, obeys.2.1, ih obeys.2.2⟩

theorem Obeys.catching {h : S.Error → Prog S α}
    (obeys : Obeys handler conduct (fun held outcome =>
      match outcome with
      | .ok a => post held (.ok a)
      | .error e => Obeys handler conduct post held (h e)) held p) :
    Obeys handler conduct post held (p.catching h) := by
  induction p generalizing held with
  | done outcome => cases outcome <;> exact obeys
  | call request next ih => exact ⟨obeys.1, fun s => ih _ (obeys.2 s)⟩
  | acquire lock next ih => exact ⟨obeys.1, obeys.2.1, ih obeys.2.2⟩
  | release lock next ih => exact ⟨obeys.1, obeys.2.1, ih obeys.2.2⟩

/-! ## Programs that leave the lock as they found it -/

/-- The program ends with the lock as it found it, and with no other exceptions
than the given ones. -/
def KeepsLock (held : Bool) (error : S.Error → Prop) (after : Bool) (outcome : Except S.Error α) :
    Prop :=
  after = held ∧ ∀ e, outcome = .error e → error e

variable {error : S.Error → Prop}

theorem Obeys.anyError (obeys : Obeys handler conduct (KeepsLock held error) held p) :
    Obeys handler conduct (KeepsLock held fun _ => True) held p :=
  obeys.weaken fun _ _ keeps => ⟨keeps.1, fun _ _ => trivial⟩

theorem obeys_pure (a : α) : Obeys handler conduct (KeepsLock held error) held (pure a) :=
  ⟨rfl, nofun⟩

theorem obeys_raise {e : S.Error} (isError : error e) :
    Obeys handler conduct (KeepsLock held error) held (raise e : Prog S α) := by
  refine ⟨rfl, ?_⟩
  rintro _ ⟨⟩
  exact isError

theorem obeys_ofExcept {outcome : Except S.Error α}
    (isError : ∀ e, outcome = .error e → error e) :
    Obeys handler conduct (KeepsLock held error) held (ofExcept outcome) :=
  ⟨rfl, isError⟩

theorem obeys_perform {request : S.Request} (allowed : conduct.request held request)
    (isError : ∀ s e, (handler request s).1 = .error e → error e) :
    Obeys handler conduct (KeepsLock held error) held (perform request) :=
  ⟨allowed, fun s => ⟨rfl, isError s⟩⟩

theorem Obeys.andThen {f : α → Prog S β} (first : Obeys handler conduct (KeepsLock held error) held p)
    (rest : ∀ a, Obeys handler conduct (KeepsLock held error) held (f a)) :
    Obeys handler conduct (KeepsLock held error) held (p >>= f) := by
  apply Obeys.bind
  apply first.weaken
  rintro _ outcome ⟨rfl, isError⟩
  cases outcome with
  | ok a => exact rest a
  | error e => exact ⟨rfl, by rintro _ ⟨⟩; exact isError e rfl⟩

/-- All exceptions of the body are handled. -/
theorem Obeys.handling {h : S.Error → Prog S α} {final : S.Error → Prop}
    (body : Obeys handler conduct (KeepsLock held error) held p)
    (handled : ∀ e, error e → Obeys handler conduct (KeepsLock held final) held (h e)) :
    Obeys handler conduct (KeepsLock held final) held (p.catching h) := by
  apply Obeys.catching
  apply body.weaken
  rintro _ outcome ⟨rfl, isError⟩
  cases outcome with
  | ok a => exact ⟨rfl, nofun⟩
  | error e => exact handled e (isError e rfl)

/-- A program is not repeated if all its exceptions are final. -/
theorem Obeys.retry {again : S.Error → Bool} (final : ∀ e, error e → again e = false)
    (body : Obeys handler conduct (KeepsLock held error) held p) (extra : Nat) :
    Obeys handler conduct (KeepsLock held error) held (retry again extra p) := by
  cases extra with
  | zero => exact body
  | succ extra =>
      apply body.handling
      intro e isError
      simp only [final e isError]
      exact obeys_raise isError

theorem Obeys.withLock {lock : S.Lock} (allowed : conduct.lock lock)
    (body : Obeys handler conduct (KeepsLock true error) true p) :
    Obeys handler conduct (KeepsLock false error) false (withLock lock p) := by
  refine ⟨allowed, rfl, ?_⟩
  apply Obeys.bind
  apply Obeys.catching
  apply body.weaken
  rintro _ outcome ⟨rfl, isError⟩
  cases outcome with
  | ok a => exact ⟨allowed, rfl, rfl, nofun⟩
  | error e => exact ⟨allowed, rfl, rfl, by rintro _ ⟨⟩; exact isError e rfl⟩

theorem Obeys.forEach {items : List β} {body : β → Prog S Unit}
    (round : ∀ item ∈ items, Obeys handler conduct (KeepsLock held error) held (body item)) :
    Obeys handler conduct (KeepsLock held error) held (forEach items body) := by
  induction items with
  | nil => exact obeys_pure ()
  | cons item rest ih =>
      apply (round item List.mem_cons_self).andThen
      intro _
      exact ih fun other member => round other (List.mem_cons_of_mem item member)

theorem Obeys.collect {items : List β} {body : β → Prog S α}
    (round : ∀ item ∈ items, Obeys handler conduct (KeepsLock held error) held (body item)) :
    Obeys handler conduct (KeepsLock held error) held (collect items body) := by
  induction items with
  | nil => exact obeys_pure []
  | cons item rest ih =>
      apply (round item List.mem_cons_self).andThen
      intro a
      apply (ih fun other member => round other (List.mem_cons_of_mem item member)).andThen
      intro as
      exact obeys_pure (a :: as)

end AzureShell.Prog
