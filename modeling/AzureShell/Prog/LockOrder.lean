import AzureShell.Prog.Interleave

/-!
# Locks in an order

Threads that take several locks have ranks for them and take a lock only above
those they hold.  Each lock protects part of the state: the threads without it leave
that part alone.  Beside the locks a thread may rely on what the others never do, and
the others on what it never does.  A program that keeps to the order, along every
interference it leaves possible, finds what it relies on.

In every interleaving of such programs the invariant holds, each ends as it says,
and as long as one of them has not ended, one of them can move.
-/

namespace AzureShell.Prog

variable {S : Signature} {α β σ ι : Type}

/-- The order as one thread sees it. -/
structure LockOrder (S : Signature) (σ : Type) where
  rank : S.Lock → Nat
  /-- Holds between any two steps. -/
  invariant : σ → Prop
  /-- What the other threads may do at any time. -/
  others : σ → σ → Prop
  /-- What the thread itself may do at any time. -/
  own : σ → σ → Prop
  /-- What the threads without a lock may do. -/
  without : S.Lock → σ → σ → Prop
  others_refl : ∀ s, others s s
  others_trans : ∀ {s t u}, others s t → others t u → others s u
  without_refl : ∀ lock s, without lock s s
  without_trans : ∀ {lock s t u}, without lock s t → without lock t u → without lock s u

/-- The states that a thread may find after the others moved. -/
structure LockOrder.Follows (O : LockOrder S σ) (held : List S.Lock) (s t : σ) : Prop where
  invariant : O.invariant t
  others : O.others s t
  without : ∀ lock ∈ held, O.without lock s t

theorem LockOrder.Follows.refl {O : LockOrder S σ} {held : List S.Lock} {s : σ}
    (invariant : O.invariant s) : O.Follows held s s :=
  ⟨invariant, O.others_refl s, fun lock _ => O.without_refl lock s⟩

theorem LockOrder.Follows.trans {O : LockOrder S σ} {held : List S.Lock} {s t u : σ}
    (first : O.Follows held s t) (second : O.Follows held t u) : O.Follows held s u :=
  ⟨second.invariant, O.others_trans first.others second.others,
    fun lock member => O.without_trans (first.without lock member) (second.without lock member)⟩

/-- What the others do does not make the claim false. -/
def LockOrder.Stable (O : LockOrder S σ) (held : List S.Lock) (claim : σ → Prop) : Prop :=
  ∀ s t, O.Follows held s t → claim s → claim t

/-- With one more lock fewer threads interfere. -/
theorem LockOrder.Stable.cons {O : LockOrder S σ} {held : List S.Lock} {claim : σ → Prop}
    (stable : O.Stable held claim) {lock : S.Lock} : O.Stable (lock :: held) claim :=
  fun s t follows => stable s t ⟨follows.invariant, follows.others, fun other member =>
    follows.without other (List.mem_cons_of_mem lock member)⟩

theorem LockOrder.Stable.and {O : LockOrder S σ} {held : List S.Lock} {claim other : σ → Prop}
    (stable : O.Stable held claim) (otherStable : O.Stable held other) :
    O.Stable held fun s => claim s ∧ other s :=
  fun s t follows both => ⟨stable s t follows both.1, otherStable s t follows both.2⟩

/-- What holds stays so whatever anyone does. -/
def LockOrder.Persistent (O : LockOrder S σ) (claim : σ → Prop) : Prop :=
  ∀ s t, O.others s t ∨ O.own s t → claim s → claim t

theorem LockOrder.Persistent.stable {O : LockOrder S σ} {held : List S.Lock} {claim : σ → Prop}
    (persistent : O.Persistent claim) : O.Stable held claim :=
  fun s t follows => persistent s t (Or.inl follows.others)

variable [DecidableEq S.Lock]

/-- Holding the locks, the program keeps to the order whatever the others do
meanwhile; `post` holds where it ends, also after what the others do then. -/
def InOrder (O : LockOrder S σ) (handler : Handler S σ)
    (post : List S.Lock → Except S.Error α → σ → Prop) : List S.Lock → Prog S α → σ → Prop
  | held, .done outcome, s => ∀ t, O.Follows held s t → post held outcome t
  | held, .call request next, s => ∀ t, O.Follows held s t →
      O.invariant (handler request t).2 ∧ O.own t (handler request t).2 ∧
        (∀ lock, lock ∉ held → O.without lock t (handler request t).2) ∧
        InOrder O handler post held (next (handler request t).1) (handler request t).2
  | held, .acquire lock next, s => (∀ other ∈ held, O.rank other < O.rank lock) ∧
      ∀ t, O.Follows held s t → InOrder O handler post (lock :: held) next t
  | held, .release lock next, s => lock ∈ held ∧
      ∀ t, O.Follows held s t → InOrder O handler post (held.erase lock) next t

variable {O : LockOrder S σ} {handler : Handler S σ} {held : List S.Lock} {s : σ}
  {post : List S.Lock → Except S.Error α → σ → Prop}

/-- The program keeps to the order from any state that the others leave. -/
theorem InOrder.follow {p : Prog S α} (inOrder : InOrder O handler post held p s) {t : σ}
    (follows : O.Follows held s t) : InOrder O handler post held p t := by
  cases p with
  | done outcome => exact fun u later => inOrder u (follows.trans later)
  | call request next => exact fun u later => inOrder u (follows.trans later)
  | acquire lock next => exact ⟨inOrder.1, fun u later => inOrder.2 u (follows.trans later)⟩
  | release lock next => exact ⟨inOrder.1, fun u later => inOrder.2 u (follows.trans later)⟩

/-! ## Rules for programs -/

theorem InOrder.mono {weaker : List S.Lock → Except S.Error α → σ → Prop} {p : Prog S α}
    (inOrder : InOrder O handler post held p s)
    (implies : ∀ held outcome s, post held outcome s → weaker held outcome s) :
    InOrder O handler weaker held p s := by
  induction p generalizing held s with
  | done outcome => exact fun t follows => implies _ _ _ (inOrder t follows)
  | call request next ih =>
      intro t follows
      rcases inOrder t follows with ⟨invariant, own, without, rest⟩
      exact ⟨invariant, own, without, ih _ rest⟩
  | acquire lock next ih => exact ⟨inOrder.1, fun t follows => ih (inOrder.2 t follows)⟩
  | release lock next ih => exact ⟨inOrder.1, fun t follows => ih (inOrder.2 t follows)⟩

/-- One program after the other. -/
theorem InOrder.bind {final : List S.Lock → Except S.Error β → σ → Prop} {p : Prog S α}
    {f : α → Prog S β} (invariant : O.invariant s)
    (inOrder : InOrder O handler (fun held outcome t =>
      match outcome with
      | .ok a => InOrder O handler final held (f a) t
      | .error e => final held (.error e) t) held p s) :
    InOrder O handler final held (p >>= f) s := by
  change InOrder O handler final held (Prog.bind p f) s
  induction p generalizing held s with
  | done outcome =>
      cases outcome with
      | ok a => exact inOrder s (.refl invariant)
      | error e => exact inOrder
  | call request next ih =>
      intro t follows
      rcases inOrder t follows with ⟨kept, own, without, rest⟩
      exact ⟨kept, own, without, ih _ kept rest⟩
  | acquire lock next ih =>
      exact ⟨inOrder.1, fun t follows => ih follows.invariant (inOrder.2 t follows)⟩
  | release lock next ih =>
      exact ⟨inOrder.1, fun t follows => ih follows.invariant (inOrder.2 t follows)⟩

theorem InOrder.catching {p : Prog S α} {h : S.Error → Prog S α} (invariant : O.invariant s)
    (inOrder : InOrder O handler (fun held outcome t =>
      match outcome with
      | .ok a => post held (.ok a) t
      | .error e => InOrder O handler post held (h e) t) held p s) :
    InOrder O handler post held (p.catching h) s := by
  induction p generalizing held s with
  | done outcome =>
      cases outcome with
      | ok a => exact inOrder
      | error e => exact inOrder s (.refl invariant)
  | call request next ih =>
      intro t follows
      rcases inOrder t follows with ⟨kept, own, without, rest⟩
      exact ⟨kept, own, without, ih _ kept rest⟩
  | acquire lock next ih =>
      exact ⟨inOrder.1, fun t follows => ih follows.invariant (inOrder.2 t follows)⟩
  | release lock next ih =>
      exact ⟨inOrder.1, fun t follows => ih follows.invariant (inOrder.2 t follows)⟩

/-! ## Programs that return the locks they take -/

/-- From states with a property the program keeps to the order, returns the locks it takes,
and ends as claimed. -/
def Returns (O : LockOrder S σ) (handler : Handler S σ) (held : List S.Lock) (before : σ → Prop)
    (result : Except S.Error α → σ → Prop) (p : Prog S α) : Prop :=
  ∀ s, O.invariant s → before s →
    InOrder O handler (fun after outcome t => after = held ∧ O.invariant t ∧ result outcome t) held p s

variable {before : σ → Prop} {result : Except S.Error α → σ → Prop}

theorem Returns.mono {earlier : σ → Prop} {weaker : Except S.Error α → σ → Prop} {p : Prog S α}
    (returns : Returns O handler held before result p)
    (starts : ∀ s, earlier s → before s)
    (ends : ∀ outcome s, result outcome s → weaker outcome s) :
    Returns O handler held earlier weaker p := by
  intro s invariant holds
  apply (returns s invariant (starts s holds)).mono
  rintro _ outcome t ⟨rfl, kept, claimed⟩
  exact ⟨rfl, kept, ends outcome t claimed⟩

theorem returns_done {outcome : Except S.Error α} (stable : O.Stable held (result outcome))
    (claimed : ∀ s, O.invariant s → before s → result outcome s) :
    Returns O handler held before result (.done outcome) :=
  fun s invariant holds t follows =>
    ⟨rfl, follows.invariant, stable s t follows (claimed s invariant holds)⟩

theorem returns_perform {request : S.Request}
    {result : Except S.Error (S.Answer request) → σ → Prop}
    (beforeStable : O.Stable held before) (stable : ∀ outcome, O.Stable held (result outcome))
    (effect : ∀ s, O.invariant s → before s →
      O.invariant (handler request s).2 ∧ O.own s (handler request s).2 ∧
        (∀ lock, lock ∉ held → O.without lock s (handler request s).2) ∧
        result (handler request s).1 (handler request s).2) :
    Returns O handler held before result (perform request) := by
  intro s _ holds t follows
  rcases effect t follows.invariant (beforeStable s t follows holds) with
    ⟨invariant, own, without, claimed⟩
  exact ⟨invariant, own, without, fun u later =>
    ⟨rfl, later.invariant, stable _ _ u later claimed⟩⟩

theorem Returns.bind {final : Except S.Error β → σ → Prop} {p : Prog S α} {f : α → Prog S β}
    (first : Returns O handler held before result p)
    (stable : ∀ e, O.Stable held (final (.error e)))
    (rest : ∀ a, Returns O handler held (result (.ok a)) final (f a))
    (failed : ∀ e s, O.invariant s → result (.error e) s → final (.error e) s) :
    Returns O handler held before final (p >>= f) := by
  intro s invariant holds
  apply InOrder.bind invariant
  apply (first s invariant holds).mono
  rintro _ outcome t ⟨rfl, kept, claimed⟩
  cases outcome with
  | ok a => exact rest a t kept claimed
  | error e => exact ⟨rfl, kept, failed e t kept claimed⟩

theorem Returns.catching {final : Except S.Error α → σ → Prop} {p : Prog S α}
    {h : S.Error → Prog S α} (body : Returns O handler held before result p)
    (handles : ∀ e, Returns O handler held (result (.error e)) final (h e))
    (ended : ∀ a s, O.invariant s → result (.ok a) s → final (.ok a) s) :
    Returns O handler held before final (p.catching h) := by
  intro s invariant holds
  apply InOrder.catching invariant
  apply (body s invariant holds).mono
  rintro _ outcome t ⟨rfl, kept, claimed⟩
  cases outcome with
  | ok a => exact ⟨rfl, kept, ended a t kept claimed⟩
  | error e => exact handles e t kept claimed

theorem Returns.retry {again : S.Error → Bool} {p : Prog S α}
    (body : Returns O handler held before result p)
    (restarts : ∀ e s, O.invariant s → result (.error e) s → before s)
    (stable : ∀ e, O.Stable held (result (.error e))) (extra : Nat) :
    Returns O handler held before result (retry again extra p) := by
  induction extra with
  | zero => exact body
  | succ extra ih =>
      apply body.catching
      · intro e
        split
        · intro s invariant failed
          exact ih s invariant (restarts e s invariant failed)
        · exact returns_done (stable e) fun s _ failed => failed
      · exact fun _ _ _ claimed => claimed

/-- A lock above those held is taken for a program. -/
theorem Returns.withLock {lock : S.Lock} {p : Prog S α}
    (above : ∀ other ∈ held, O.rank other < O.rank lock)
    (beforeStable : O.Stable held before)
    (body : Returns O handler (lock :: held) before result p)
    (stable : ∀ outcome, O.Stable held (result outcome)) :
    Returns O handler held before result (withLock lock p) := by
  have given : (lock :: held).erase lock = held := List.erase_cons_head lock held
  intro s _ holds
  refine ⟨above, fun t follows => ?_⟩
  have ends : ∀ outcome u, O.invariant u → result outcome u →
      InOrder O handler (fun after outcome v => after = held ∧ O.invariant v ∧ result outcome v)
        held (.done outcome) u :=
    fun outcome u _ claimed v later => ⟨rfl, later.invariant, stable outcome u v later claimed⟩
  have releases : ∀ outcome u, O.invariant u → result outcome u →
      InOrder O handler (fun after outcome v => after = held ∧ O.invariant v ∧ result outcome v)
        (lock :: held) (.release lock (.done outcome)) u := by
    intro outcome u _ claimed
    refine ⟨List.mem_cons_self, fun v later => ?_⟩
    rw [given]
    apply ends outcome v later.invariant
    apply stable outcome u v ⟨later.invariant, later.others, fun other member =>
      later.without other (List.mem_cons_of_mem lock member)⟩ claimed
  have ran := body t follows.invariant (beforeStable s t follows holds)
  apply InOrder.bind follows.invariant
  apply InOrder.catching follows.invariant
  apply ran.mono
  rintro _ outcome u ⟨rfl, kept, claimed⟩
  cases outcome with
  | ok a => exact releases (.ok a) u kept claimed
  | error e => exact releases (.error e) u kept claimed

/-! ## Claims for good -/

/-- A program does not make a persistent claim false. -/
theorem InOrder.frame {claim : σ → Prop} (persistent : O.Persistent claim) {p : Prog S α}
    (inOrder : InOrder O handler post held p s) (claimed : claim s) :
    InOrder O handler (fun held outcome t => post held outcome t ∧ claim t) held p s := by
  induction p generalizing held s with
  | done outcome =>
      intro t follows
      exact ⟨inOrder t follows, persistent s t (Or.inl follows.others) claimed⟩
  | call request next ih =>
      intro t follows
      rcases inOrder t follows with ⟨invariant, own, without, rest⟩
      have still := persistent s t (Or.inl follows.others) claimed
      exact ⟨invariant, own, without, ih _ rest (persistent t _ (Or.inr own) still)⟩
  | acquire lock next ih =>
      exact ⟨inOrder.1, fun t follows =>
        ih (inOrder.2 t follows) (persistent s t (Or.inl follows.others) claimed)⟩
  | release lock next ih =>
      exact ⟨inOrder.1, fun t follows =>
        ih (inOrder.2 t follows) (persistent s t (Or.inl follows.others) claimed)⟩

/-- A persistent claim is carried along. -/
theorem Returns.carry {claim : σ → Prop} {p : Prog S α} (persistent : O.Persistent claim)
    (returns : Returns O handler held (fun _ => True) (fun _ _ => True) p) :
    Returns O handler held claim (fun _ => claim) p := by
  intro s invariant claimed
  apply (InOrder.frame persistent (returns s invariant trivial) claimed).mono
  rintro _ outcome t ⟨⟨rfl, kept, _⟩, still⟩
  exact ⟨rfl, kept, still⟩

theorem Returns.collect {items : List β} {body : β → Prog S α} {claim : α → σ → Prop}
    (persistent : ∀ a, O.Persistent (claim a))
    (round : ∀ item ∈ items, Returns O handler held (fun _ => True)
      (fun outcome t => ∀ a, outcome = .ok a → claim a t) (body item)) :
    Returns O handler held (fun _ => True)
      (fun outcome t => ∀ as, outcome = .ok as → ∀ a ∈ as, claim a t) (collect items body) := by
  induction items with
  | nil =>
      intro s _ _ t follows
      refine ⟨rfl, follows.invariant, ?_⟩
      rintro _ ⟨⟩ a member
      cases member
  | cons item rest ih =>
      intro s invariant holds
      apply InOrder.bind invariant
      apply (round item List.mem_cons_self s invariant holds).mono
      rintro _ outcome t ⟨rfl, kept, claimed⟩
      cases outcome with
      | error e => exact ⟨rfl, kept, nofun⟩
      | ok a =>
          have later := ih (fun other member => round other (List.mem_cons_of_mem item member))
          apply InOrder.bind kept
          apply (InOrder.frame (persistent a) (later t kept trivial) (claimed a rfl)).mono
          rintro _ outcome u ⟨⟨rfl, keptLater, areClaimed⟩, stillClaimed⟩
          cases outcome with
          | error e => exact ⟨rfl, keptLater, nofun⟩
          | ok as =>
              intro v follows
              refine ⟨rfl, follows.invariant, ?_⟩
              rintro _ ⟨⟩ other member
              apply persistent other u v (Or.inl follows.others)
              rcases List.mem_cons.mp member with rfl | inRest
              · exact stillClaimed
              · exact areClaimed as rfl other inRest

theorem Returns.forEach {items : List β} {body : β → Prog S Unit} {claim : β → σ → Prop}
    (starts : O.Persistent before) (persistent : ∀ item, O.Persistent (claim item))
    (round : ∀ item ∈ items, Returns O handler held before
      (fun outcome t => outcome = .ok () → claim item t) (body item)) :
    Returns O handler held before (fun outcome t => outcome = .ok () → ∀ item ∈ items, claim item t)
      (forEach items body) := by
  induction items with
  | nil =>
      intro s _ _ t follows
      refine ⟨rfl, follows.invariant, ?_⟩
      intro _ item member
      cases member
  | cons item rest ih =>
      intro s invariant holds
      apply InOrder.bind invariant
      apply ((round item List.mem_cons_self s invariant holds).frame starts holds).mono
      rintro _ outcome t ⟨⟨rfl, kept, claimed⟩, stillHolds⟩
      cases outcome with
      | error e => exact ⟨rfl, kept, by rintro ⟨⟩⟩
      | ok _ =>
          have later := ih (fun other member => round other (List.mem_cons_of_mem item member))
          apply ((later t kept stillHolds).frame (persistent item) (claimed rfl)).mono
          rintro _ outcome u ⟨⟨rfl, keptLater, areClaimed⟩, stillClaimed⟩
          refine ⟨rfl, keptLater, ?_⟩
          intro isOk
          exact List.forall_mem_cons.mpr ⟨stillClaimed, areClaimed isOk⟩

/-! ## Threads that may do more -/

/-- The thread itself may do this instead. -/
def LockOrder.withOwn (O : LockOrder S σ) (own : σ → σ → Prop) : LockOrder S σ :=
  { O with own := own }

theorem InOrder.relax {own : σ → σ → Prop} (allows : ∀ s t, O.own s t → own s t) {p : Prog S α}
    (inOrder : InOrder O handler post held p s) :
    InOrder (O.withOwn own) handler post held p s := by
  induction p generalizing held s with
  | done outcome => exact fun t follows => inOrder t ⟨follows.1, follows.2, follows.3⟩
  | call request next ih =>
      intro t follows
      rcases inOrder t ⟨follows.1, follows.2, follows.3⟩ with ⟨invariant, does, without, rest⟩
      exact ⟨invariant, allows t _ does, without, ih _ rest⟩
  | acquire lock next ih =>
      exact ⟨inOrder.1, fun t follows => ih (inOrder.2 t ⟨follows.1, follows.2, follows.3⟩)⟩
  | release lock next ih =>
      exact ⟨inOrder.1, fun t follows => ih (inOrder.2 t ⟨follows.1, follows.2, follows.3⟩)⟩

theorem Returns.relax {own : σ → σ → Prop} (allows : ∀ s t, O.own s t → own s t) {p : Prog S α}
    (returns : Returns O handler held before result p) :
    Returns (O.withOwn own) handler held before result p :=
  fun s invariant holds => (returns s invariant holds).relax allows

/-! ## Double-checked locking -/

/-- Look a value up; if there is none, take the lock, look again, and only then
create it. -/
def doubleChecked (lock : S.Lock) (lookup : Prog S (Option α)) (create : Prog S α) :
    Prog S α := do
  let found ← lookup
  match found with
  | some a => pure a
  | none => withLock lock do
      let found ← lookup
      match found with
      | some a => pure a
      | none => create

/-- Where a stored value stays stored, only holders of the lock store one, and the
creation starts from nothing stored, the value returned is the one stored. -/
theorem Returns.doubleChecked {lock : S.Lock} {lookup : Prog S (Option α)} {create : Prog S α}
    {kept : σ → Prop} {stored : σ → Option α}
    (above : ∀ other ∈ held, O.rank other < O.rank lock) (keptStable : O.Stable held kept)
    (persistent : ∀ a, O.Persistent fun s => stored s = some a)
    (reads : Returns O handler held kept
      (fun outcome s => kept s ∧ ∀ a, outcome = .ok (some a) → stored s = some a) lookup)
    (readsLocked : Returns O handler (lock :: held) kept
      (fun outcome s => kept s ∧ ∀ found, outcome = .ok found → stored s = found) lookup)
    (creates : Returns O handler (lock :: held) (fun s => kept s ∧ stored s = none)
      (fun outcome s => kept s ∧ ∀ a, outcome = .ok a → stored s = some a) create) :
    Returns O handler held kept
      (fun outcome s => kept s ∧ ∀ a, outcome = .ok a → stored s = some a)
      (doubleChecked lock lookup create) := by
  have stable : ∀ outcome : Except S.Error α, O.Stable held
      fun s => kept s ∧ ∀ a, outcome = .ok a → stored s = some a := by
    rintro outcome s t follows ⟨holds, isStored⟩
    exact ⟨keptStable s t follows holds, fun a isOk =>
      persistent a s t (Or.inl follows.others) (isStored a isOk)⟩
  have stableLocked : ∀ outcome : Except S.Error α, O.Stable (lock :: held)
      fun s => kept s ∧ ∀ a, outcome = .ok a → stored s = some a :=
    fun outcome => (stable outcome).cons
  apply reads.bind (fun e => stable (.error e))
  · intro found
    cases found with
    | some a =>
        apply returns_done (stable (.ok a))
        rintro s _ ⟨holds, isStored⟩
        refine ⟨holds, ?_⟩
        rintro _ ⟨⟩
        exact isStored a rfl
    | none =>
        have locked : Returns O handler (lock :: held) kept
            (fun outcome s => kept s ∧ ∀ a, outcome = .ok a → stored s = some a)
            (lookup >>= fun found =>
              match found with
              | some a => pure a
              | none => create) := by
          apply readsLocked.bind (fun e => stableLocked (.error e))
          · intro found
            cases found with
            | some a =>
                apply returns_done (stableLocked (.ok a))
                rintro s _ ⟨holds, isStored⟩
                refine ⟨holds, ?_⟩
                rintro _ ⟨⟩
                exact isStored _ rfl
            | none =>
                rintro s invariant ⟨holds, isStored⟩
                exact creates s invariant ⟨holds, isStored _ rfl⟩
          · rintro e s _ ⟨holds, _⟩
            exact ⟨holds, nofun⟩
        have whole := Returns.withLock above keptStable locked stable
        rintro s invariant ⟨holds, _⟩
        exact whole s invariant holds
  · rintro e s _ ⟨holds, _⟩
    exact ⟨holds, nofun⟩

/-! ## All threads together -/

/-- The threads see the same locks, and each may rely on what the others do. -/
structure Compatible (orders : ι → LockOrder S σ) : Prop where
  rank : ∀ i j, (orders i).rank = (orders j).rank
  invariant : ∀ i j s, (orders i).invariant s → (orders j).invariant s
  others : ∀ i j s t, i ≠ j → (orders i).own s t → (orders j).others s t
  without : ∀ i j lock s t, (orders i).without lock s t → (orders j).without lock s t

omit [DecidableEq S.Lock] in
/-- Threads that all see the order in the same way. -/
theorem compatible_const {O : LockOrder S σ} (others : ∀ s t, O.own s t → O.others s t) :
    Compatible fun _ : ι => O where
  rank := fun _ _ => rfl
  invariant := fun _ _ _ holds => holds
  others := fun _ _ s t _ does => others s t does
  without := fun _ _ _ _ _ does => does

/-- The threads keep to their orders, each with the locks it owns. -/
structure AllInOrder (orders : ι → LockOrder S σ) (handler : Handler S σ)
    (post : ι → List S.Lock → Except S.Error α → σ → Prop) (held : ι → List S.Lock)
    (config : Config S σ ι α) : Prop where
  invariant : ∀ i, (orders i).invariant config.shared
  nodup : ∀ i, (held i).Nodup
  owns : ∀ lock i, config.owner lock = some i ↔ lock ∈ held i
  inOrder : ∀ i, InOrder (orders i) handler (post i) (held i) (config.threads i) config.shared

variable {orders : ι → LockOrder S σ} {posts : ι → List S.Lock → Except S.Error α → σ → Prop}
  {locks : ι → List S.Lock} {config after : Config S σ ι α} {i : ι}

/-- A thread that ended ended as claimed, and the claim still holds. -/
theorem AllInOrder.ended (all : AllInOrder orders handler posts locks config)
    {outcome : Except S.Error α} (ended : config.threads i = .done outcome) :
    posts i (locks i) outcome config.shared := by
  have mine := all.inOrder i
  rw [ended] at mine
  exact mine _ (.refl (all.invariant i))

variable [DecidableEq ι]

/-- A step of one thread leaves all of them in order. -/
theorem AllInOrder.step (compatible : Compatible orders)
    (all : AllInOrder orders handler posts locks config) (step : Step handler i config after) :
    ∃ locks, AllInOrder orders handler posts locks after := by
  have self : ∀ held, (orders i).Follows held config.shared config.shared :=
    fun _ => .refl (all.invariant i)
  have mine := all.inOrder i
  cases step with
  | @call request next left =>
      rw [left] at mine
      rcases mine _ (self _) with ⟨invariant, own, without, rest⟩
      have kept : ∀ j, (orders j).invariant (handler request config.shared).2 :=
        fun j => compatible.invariant i j _ invariant
      refine ⟨locks, kept, all.nodup, all.owns, fun j => ?_⟩
      change InOrder (orders j) handler (posts j) (locks j) (Function.update config.threads i _ j) _
      by_cases same : j = i
      · subst same
        rw [Function.update_self]
        exact rest
      · rw [Function.update_of_ne same]
        apply (all.inOrder j).follow
        refine ⟨kept j, compatible.others i j _ _ (Ne.symm same) own, fun lock member => ?_⟩
        apply compatible.without i j lock
        apply without lock
        intro inMine
        apply same
        have owner := (all.owns lock i).mpr inMine
        rw [(all.owns lock j).mpr member] at owner
        exact Option.some.inj owner
  | @acquire lock next left free =>
      rw [left] at mine
      have notHeld : ∀ j, lock ∉ locks j := by
        intro j member
        rw [(all.owns lock j).mpr member] at free
        cases free
      refine ⟨Function.update locks i (lock :: locks i), all.invariant, ?_, ?_, ?_⟩
      · intro j
        by_cases same : j = i
        · subst same
          rw [Function.update_self]
          exact List.nodup_cons.mpr ⟨notHeld j, all.nodup j⟩
        · rw [Function.update_of_ne same]
          exact all.nodup j
      · intro other j
        by_cases same : j = i <;> by_cases isLock : other = lock
        · subst same isLock
          simp
        · subst same
          simp [isLock, all.owns other j]
        · subst isLock
          simp [same, notHeld j, Ne.symm same]
        · simp [same, isLock, all.owns other j]
      · intro j
        by_cases same : j = i
        · subst same
          simpa [Config.proceed] using mine.2 _ (self _)
        · simpa [Config.proceed, same] using all.inOrder j
  | @release lock next left owned =>
      rw [left] at mine
      refine ⟨Function.update locks i ((locks i).erase lock), all.invariant, ?_, ?_, ?_⟩
      · intro j
        by_cases same : j = i
        · subst same
          rw [Function.update_self]
          exact (all.nodup j).erase lock
        · rw [Function.update_of_ne same]
          exact all.nodup j
      · intro other j
        by_cases same : j = i <;> by_cases isLock : other = lock
        · subst same isLock
          simp [(all.nodup j).mem_erase_iff]
        · subst same
          simp [isLock, (all.nodup j).mem_erase_iff, all.owns other j]
        · subst isLock
          have notHeld : other ∉ locks j := by
            intro member
            rw [(all.owns other j).mpr member] at owned
            exact same (Option.some.inj owned)
          simp [same, notHeld]
        · simp [same, isLock, all.owns other j]
      · intro j
        by_cases same : j = i
        · subst same
          simpa [Config.proceed] using mine.2 _ (self _)
        · simpa [Config.proceed, same] using all.inOrder j

/-- In every interleaving of programs that return the locks they take, they stay in
order. -/
theorem Reaches.inOrder {threads : ι → Prog S α} {result : ι → Except S.Error α → σ → Prop}
    (compatible : Compatible orders)
    (returns : ∀ i, Returns (orders i) handler [] (fun _ => True) (result i) (threads i))
    (invariant : ∀ i, (orders i).invariant s)
    (reaches : Reaches handler (Config.initial threads s) config) :
    ∃ locks, AllInOrder orders handler
      (fun i held outcome t => held = [] ∧ (orders i).invariant t ∧ result i outcome t) locks
        config := by
  let posts : ι → List S.Lock → Except S.Error α → σ → Prop :=
    fun i held outcome t => held = [] ∧ (orders i).invariant t ∧ result i outcome t
  have preserved : ∀ i config after, Step handler i config after →
      (∃ locks, AllInOrder orders handler posts locks config) →
        ∃ locks, AllInOrder orders handler posts locks after := by
    rintro i config after step ⟨locks, all⟩
    exact all.step compatible step
  have initial : AllInOrder orders handler posts (fun _ => []) (Config.initial threads s) :=
    ⟨invariant, fun _ => List.nodup_nil, by simp [Config.initial],
      fun i => returns i s (invariant i) trivial⟩
  exact Reaches.preserves preserved reaches ⟨_, initial⟩

/-- The owner of a lock can move, or the owner of a lock of higher rank can. -/
theorem AllInOrder.moves_of_owned (compatible : Compatible orders)
    (all : AllInOrder orders handler posts locks config)
    (returns : ∀ i held outcome t, posts i held outcome t → held = []) {bound : Nat}
    (bounded : ∀ i lock, (orders i).rank lock ≤ bound) {lock : S.Lock} {i : ι}
    (owned : config.owner lock = some i) :
    ∃ next, Moves handler config next := by
  have isHeld : lock ∈ locks i := (all.owns lock i).mp owned
  cases left : config.threads i with
  | done outcome =>
      rw [returns i _ _ _ (all.ended left)] at isHeld
      cases isHeld
  | call request next => exact ⟨_, i, .call left⟩
  | release other next =>
      have mine := all.inOrder i
      rw [left] at mine
      exact ⟨_, i, .release left ((all.owns other i).mpr mine.1)⟩
  | acquire other next =>
      cases owner : config.owner other with
      | none => exact ⟨_, i, .acquire left owner⟩
      | some j =>
          -- the lock it waits for ranks above the one it holds
          have above : (orders i).rank lock < (orders j).rank other := by
            have mine := all.inOrder i
            rw [left] at mine
            rw [← compatible.rank i j]
            exact mine.1 lock isHeld
          have isBounded := bounded j other
          exact all.moves_of_owned compatible returns bounded owner
termination_by bound - (orders i).rank lock
decreasing_by omega

/-- Threads that keep to the order do not wait for each other: while one of them has
not ended, one of them can move. -/
theorem AllInOrder.moves (compatible : Compatible orders)
    (all : AllInOrder orders handler posts locks config)
    (returns : ∀ i held outcome t, posts i held outcome t → held = []) {bound : Nat}
    (bounded : ∀ i lock, (orders i).rank lock ≤ bound)
    (unfinished : ∀ outcome, config.threads i ≠ .done outcome) :
    ∃ next, Moves handler config next := by
  cases left : config.threads i with
  | done outcome => exact absurd left (unfinished outcome)
  | call request next => exact ⟨_, i, .call left⟩
  | release lock next =>
      have mine := all.inOrder i
      rw [left] at mine
      exact ⟨_, i, .release left ((all.owns lock i).mpr mine.1)⟩
  | acquire lock next =>
      cases owner : config.owner lock with
      | none => exact ⟨_, i, .acquire left owner⟩
      | some j => exact all.moves_of_owned compatible returns bounded owner

end AzureShell.Prog
