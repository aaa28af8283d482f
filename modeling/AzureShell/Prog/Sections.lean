import AzureShell.Prog.Conduct
import Mathlib.Tactic.Choose

/-!
# Sections of concurrent programs

Threads change a cell of the services in sections.  A section begins with a
request that is made without the lock of the cell; the later requests about the
cell are made under the lock, which is given back in between, so other threads
may come between.  Where no thread opens a section while another one is in the
middle of one, every section leaves what it leaves when it runs alone, and at
the end the cell holds what the last section of some thread left in it.
-/

namespace AzureShell.Prog

variable {S : Signature} {α σ ν μ ι : Type}

/-- A cell of the services that is changed in sections. -/
structure Cell (S : Signature) where
  lock : S.Lock
  /-- The request that opens a section when it is made without the lock. -/
  opening : S.Request
  /-- The requests about the cell. -/
  Concerns : S.Request → Prop
  opening_concerns : Concerns opening

namespace Cell

variable (cell : Cell S)

/-! ## Runs in which sections do not overlap -/

/-- Whatever it is answered, the program makes no request about the cell and does
not take its lock, unless it opens a section first. -/
def BetweenSections : Prog S α → Prop
  | .done _ => True
  | .call request next =>
      request = cell.opening ∨ ¬ cell.Concerns request ∧ ∀ answer, BetweenSections (next answer)
  | .acquire lock next => lock ≠ cell.lock ∧ BetweenSections next
  | .release lock next => lock ≠ cell.lock ∧ BetweenSections next

/-- The thread is not in the middle of a section. -/
def AtRest (config : Config S σ ι α) (i : ι) : Prop :=
  config.owner cell.lock ≠ some i ∧ cell.BetweenSections (config.threads i)

/-- The next step of the thread opens a section. -/
def Opens (config : Config S σ ι α) (i : ι) : Prop :=
  (∃ next, config.threads i = .call cell.opening next) ∧ config.owner cell.lock ≠ some i

/-- The thread opens a section only while no other thread is in the middle of
one. -/
def Undisturbed (config : Config S σ ι α) (i : ι) : Prop :=
  cell.Opens config i → ∀ j, j ≠ i → cell.AtRest config j

/-- Whether the next step of the thread opens a section. -/
def opens [DecidableEq S.Request] [DecidableEq ι] (config : Config S σ ι α) (i : ι) : Bool :=
  match config.threads i with
  | .call request _ => request = cell.opening && config.owner cell.lock ≠ some i
  | _ => false

theorem undisturbed_of_not_opens [DecidableEq S.Request] [DecidableEq ι]
    (config : Config S σ ι α) (i : ι) (notOpens : (!cell.opens config i) = true) :
    cell.Undisturbed config i := by
  rintro ⟨⟨next, left⟩, notOwner⟩
  simp [opens, left, notOwner] at notOpens

/-! ## What a section sees of the services -/

/-- What the sections see of the services: a view that determines the answers
they get, what never changes about it, and the content of the cell. -/
structure Watch (σ ν μ : Type) where
  view : σ → ν
  invariant : ν → Prop
  content : ν → μ

variable (watch : Watch σ ν μ) (handler : Handler S σ)

/-- The request leaves what sections see as it is. -/
def Spares (request : S.Request) : Prop :=
  ∀ s, watch.view (handler request s).2 = watch.view s

/-- What is asked of a request in a section: the view determines its reaction,
and a request that is not about the cell only reads what never changes. -/
structure Sectional (request : S.Request) : Prop where
  answer_congr : ∀ s t, watch.view s = watch.view t →
    (handler request s).1 = (handler request t).1
  view_congr : ∀ s t, watch.view s = watch.view t →
    watch.view (handler request s).2 = watch.view (handler request t).2
  invariant : ∀ s, watch.invariant (watch.view s) →
    watch.invariant (watch.view (handler request s).2)
  spares : ¬ cell.Concerns request → Spares watch handler request
  constant : ¬ cell.Concerns request → ∀ s t, watch.invariant (watch.view s) →
    watch.invariant (watch.view t) → (handler request s).1 = (handler request t).1

/-- In a section requests about the cell are made under its lock, and no other
lock is taken. -/
def inSection : Conduct S where
  request := fun held request =>
    cell.Sectional watch handler request ∧ (cell.Concerns request → held = true)
  lock := fun lock => lock = cell.lock

/-- Outside sections nothing is done to the cell. -/
def outside : Conduct S where
  request := fun _ request => Spares watch handler request
  lock := fun lock => lock ≠ cell.lock

/-- The section ends with the lock given back. -/
def Closes {β : Type} (held : Bool) (_ : Except S.Error β) : Prop :=
  held = false

mutual

/-- The program is outside of any section, and what its last section left in the
cell is `last`; at its end `post` holds of what its last section left. -/
inductive Resting (cell : Cell S) (watch : Watch σ ν μ) (handler : Handler S σ)
    (post : Option μ → Except S.Error α → Prop) : Option μ → Prog S α → Prop where
  | done {last : Option μ} {outcome : Except S.Error α} (holds : post last outcome) :
      Resting cell watch handler post last (.done outcome)
  | call {last : Option μ} {request : S.Request}
      {next : Except S.Error (S.Answer request) → Prog S α}
      (spares : Spares watch handler request)
      (later : ∀ s, watch.invariant (watch.view s) →
        Resting cell watch handler post last (next (handler request s).1)) :
      Resting cell watch handler post last (.call request next)
  | acquire {last : Option μ} {lock : S.Lock} {next : Prog S α} (other : lock ≠ cell.lock)
      (later : Resting cell watch handler post last next) :
      Resting cell watch handler post last (.acquire lock next)
  | release {last : Option μ} {lock : S.Lock} {next : Prog S α} (other : lock ≠ cell.lock)
      (later : Resting cell watch handler post last next) :
      Resting cell watch handler post last (.release lock next)
  | opens {last : Option μ} {next : Except S.Error (S.Answer cell.opening) → Prog S α}
      (spares : Spares watch handler cell.opening)
      (opened : ∀ s, watch.invariant (watch.view s) →
        Updating cell watch handler post false (handler cell.opening s).2
          (next (handler cell.opening s).1)) :
      Resting cell watch handler post last (.call cell.opening next)

/-- The program is in a section, whose rest ends well when it runs alone; after
it the program is outside, with what the section leaves. -/
inductive Updating (cell : Cell S) (watch : Watch σ ν μ) (handler : Handler S σ)
    (post : Option μ → Except S.Error α → Prop) : Bool → σ → Prog S α → Prop where
  | intro {held : Bool} {s : σ} {β : Type} {body : Prog S β} {rest : β → Prog S α} {b : β}
      (obeys : Obeys handler (cell.inSection watch handler) Closes held body)
      (ends : (run handler body s).1 = .ok b)
      (later : Resting cell watch handler post
        (some (watch.content (watch.view (run handler body s).2))) (rest b)) :
      Updating cell watch handler post held s (body >>= rest)

end

section Programs

variable {cell watch handler} {post : Option μ → Except S.Error α → Prop} {last : Option μ}

/-- A section does the same in states that look the same to it. -/
theorem run_congr {β : Type} {held : Bool} {body : Prog S β}
    (obeys : Obeys handler (cell.inSection watch handler) Closes held body) {s t : σ}
    (same : watch.view s = watch.view t) :
    (run handler body s).1 = (run handler body t).1 ∧
      watch.view (run handler body s).2 = watch.view (run handler body t).2 := by
  induction body generalizing held s t with
  | done outcome => exact ⟨rfl, same⟩
  | call request next ih =>
      have sectional := obeys.1.1
      have answers := sectional.answer_congr s t same
      have views := sectional.view_congr s t same
      rw [run, run, ← answers]
      exact ih _ (obeys.2 s) views
  | acquire lock next ih => exact ih obeys.2.2 same
  | release lock next ih => exact ih obeys.2.2 same

theorem Updating.congr {held : Bool} {s t : σ} {p : Prog S α}
    (updating : Updating cell watch handler post held s p)
    (same : watch.view s = watch.view t) : Updating cell watch handler post held t p := by
  cases updating with
  | intro obeys ends later =>
      rcases run_congr obeys same with ⟨answers, views⟩
      rw [views] at later
      exact .intro obeys (answers ▸ ends) later

/-- What is left of a section whose requests about the cell are all made leaves
the cell as it is. -/
theorem resting_of_between {β : Type} {body : Prog S β} {rest : β → Prog S α} {b : β} {s : σ}
    (obeys : Obeys handler (cell.inSection watch handler) Closes false body)
    (ends : (run handler body s).1 = .ok b)
    (later : Resting cell watch handler post
      (some (watch.content (watch.view (run handler body s).2))) (rest b))
    (invariant : watch.invariant (watch.view s))
    (between : cell.BetweenSections (body >>= rest)) :
    Resting cell watch handler post (some (watch.content (watch.view s))) (body >>= rest) := by
  change cell.BetweenSections (Prog.bind body rest) at between
  change Resting cell watch handler post _ (Prog.bind body rest)
  induction body generalizing s with
  | done outcome =>
      cases ends
      exact later
  | call request next ih =>
      have aside : ¬ cell.Concerns request := by
        intro concerns
        have held := obeys.1.2 concerns
        contradiction
      have betweenAfter : ∀ answer, cell.BetweenSections (Prog.bind (next answer) rest) := by
        rcases between with opening | notAbout
        · exact absurd (opening ▸ cell.opening_concerns) aside
        · exact notAbout.2
      have sectional := obeys.1.1
      have sameView : watch.view (handler request s).2 = watch.view s := sectional.spares aside s
      refine .call (sectional.spares aside) ?_
      intro t invariantThere
      rw [sectional.constant aside t s invariantThere invariant]
      have rests := ih _ (obeys.2 s) ends later (sameView ▸ invariant) (betweenAfter _)
      rwa [sameView] at rests
  | acquire lock next ih => exact absurd obeys.1 between.1
  | release lock next ih => exact absurd obeys.1 between.1

theorem Updating.resting {s : σ} {p : Prog S α}
    (updating : Updating cell watch handler post false s p)
    (invariant : watch.invariant (watch.view s)) (between : cell.BetweenSections p) :
    Resting cell watch handler post (some (watch.content (watch.view s))) p := by
  cases updating with
  | intro obeys ends later => exact resting_of_between obeys ends later invariant between

/-- At the end of the program the lock is given back. -/
theorem Updating.closed {held : Bool} {s : σ} {outcome : Except S.Error α}
    (updating : Updating cell watch handler post held s (.done outcome)) : held = false := by
  generalize isDone : Prog.done outcome = p at updating
  cases updating with
  | @intro _ _ β body rest b obeys ends later =>
      cases body with
      | done ended => exact obeys
      | call request next => cases isDone
      | acquire lock next => cases isDone
      | release lock next => cases isDone

/-- A program that does nothing to the cell may come first. -/
theorem Resting.after {β : Type} {first : Prog S β} {rest : β → Prog S α} {held : Bool}
    (obeys : Obeys handler (cell.outside watch handler)
      (fun _ outcome => ∃ b, outcome = .ok b ∧ Resting cell watch handler post last (rest b))
      held first) :
    Resting cell watch handler post last (first >>= rest) := by
  change Resting cell watch handler post last (Prog.bind first rest)
  induction first generalizing held with
  | done outcome =>
      rcases obeys with ⟨b, rfl, rests⟩
      exact rests
  | call request next ih => exact .call obeys.1 fun s _ => ih _ (obeys.2 s)
  | acquire lock next ih => exact .acquire obeys.1 (ih obeys.2.2)
  | release lock next ih => exact .release obeys.1 (ih obeys.2.2)

end Programs

/-! ## All threads together -/

section Threads

variable [DecidableEq S.Lock] [DecidableEq ι]

/-- The content of the cell was left by the last section of some thread, or
there was no section yet. -/
def LeftBy (last : ι → Option μ) (initial current : μ) : Prop :=
  (∃ i, last i = some current) ∨ (∀ i, last i = none) ∧ current = initial

/-- A thread that is outside of any section. -/
def Outside (post : ι → Option μ → Except S.Error α → Prop) (last : Option μ)
    (config : Config S σ ι α) (i : ι) : Prop :=
  config.owner cell.lock ≠ some i ∧
    Resting cell watch handler (post i) last (config.threads i)

/-- No thread is in a section. -/
def Settled (post : ι → Option μ → Except S.Error α → Prop) (initial : μ)
    (config : Config S σ ι α) : Prop :=
  ∃ last : ι → Option μ, (∀ i, cell.Outside watch handler post (last i) config i) ∧
    LeftBy last initial (watch.content (watch.view config.shared))

/-- One thread is in a section, the others are not. -/
def Busy (post : ι → Option μ → Except S.Error α → Prop) (config : Config S σ ι α) (i : ι) :
    Prop :=
  Updating cell watch handler (post i) (config.owner cell.lock = some i) config.shared
      (config.threads i) ∧
    ∀ j, j ≠ i → ∃ last, cell.Outside watch handler post last config j

/-- At most one thread is in a section. -/
def OneAtATime (post : ι → Option μ → Except S.Error α → Prop) (initial : μ)
    (config : Config S σ ι α) : Prop :=
  watch.invariant (watch.view config.shared) ∧
    (cell.Settled watch handler post initial config ∨
      ∃ i, cell.Busy watch handler post config i)

variable {cell watch handler} {post : ι → Option μ → Except S.Error α → Prop} {initial : μ}
  {config after : Config S σ ι α} {i j : ι}

/-- A step of thread `i` leaves the other threads, the lock of the cell, and what
sections see as they are. -/
structure Aside (cell : Cell S) (watch : Watch σ ν μ) (i : ι) (config after : Config S σ ι α) :
    Prop where
  threads : ∀ j, j ≠ i → after.threads j = config.threads j
  owner : after.owner cell.lock = config.owner cell.lock
  view : watch.view after.shared = watch.view config.shared

omit [DecidableEq S.Lock] [DecidableEq ι] in
theorem Outside.of_same {last : Option μ} (outside : cell.Outside watch handler post last config j)
    (threads : after.threads j = config.threads j) (owner : after.owner cell.lock ≠ some j) :
    cell.Outside watch handler post last after j :=
  ⟨owner, threads ▸ outside.2⟩

omit [DecidableEq S.Lock] [DecidableEq ι] in
theorem Outside.of_aside {last : Option μ} (outside : cell.Outside watch handler post last config j)
    (aside : cell.Aside watch i config after) (other : j ≠ i) :
    cell.Outside watch handler post last after j :=
  outside.of_same (aside.threads j other) (aside.owner ▸ outside.1)

/-- The steps of a thread that is outside of any section. -/
theorem Outside.step {last : Option μ} (outside : cell.Outside watch handler post last config i)
    (step : Step handler i config after)
    (invariant : watch.invariant (watch.view config.shared)) :
    cell.Aside watch i config after ∧
      (cell.Outside watch handler post last after i ∨
        cell.Opens config i ∧
          Updating cell watch handler (post i) false after.shared (after.threads i)) := by
  rcases outside with ⟨notOwner, resting⟩
  cases step with
  | @call request next left =>
      rw [left] at resting
      cases resting with
      | call spares later =>
          refine ⟨⟨fun j other => Function.update_of_ne other _ _, rfl, spares _⟩, Or.inl ⟨notOwner, ?_⟩⟩
          simpa [Config.proceed] using later _ invariant
      | opens spares opened =>
          refine ⟨⟨fun j other => Function.update_of_ne other _ _, rfl, spares _⟩,
            Or.inr ⟨⟨⟨_, left⟩, notOwner⟩, ?_⟩⟩
          simpa [Config.proceed] using opened _ invariant
  | @acquire lock next left free =>
      rw [left] at resting
      cases resting with
      | acquire other later =>
          have owner : Function.update config.owner lock (some i) cell.lock =
              config.owner cell.lock := Function.update_of_ne (Ne.symm other) _ _
          refine ⟨⟨fun j other => Function.update_of_ne other _ _, owner, rfl⟩,
            Or.inl ⟨fun mine => notOwner (owner.symm.trans mine), ?_⟩⟩
          simpa [Config.proceed] using later
  | @release lock next left owned =>
      rw [left] at resting
      cases resting with
      | release other later =>
          have owner : Function.update config.owner lock none cell.lock =
              config.owner cell.lock := Function.update_of_ne (Ne.symm other) _ _
          refine ⟨⟨fun j other => Function.update_of_ne other _ _, owner, rfl⟩,
            Or.inl ⟨fun mine => notOwner (owner.symm.trans mine), ?_⟩⟩
          simpa [Config.proceed] using later

theorem Settled.step (settled : cell.Settled watch handler post initial config)
    (step : Step handler i config after)
    (invariant : watch.invariant (watch.view config.shared)) :
    cell.OneAtATime watch handler post initial after := by
  rcases settled with ⟨last, outside, leftBy⟩
  rcases (outside i).step step invariant with ⟨aside, own | ⟨_, updating⟩⟩
  · refine ⟨aside.view ▸ invariant, Or.inl ⟨last, fun j => ?_, aside.view ▸ leftBy⟩⟩
    by_cases other : j = i
    · exact other ▸ own
    · exact (outside j).of_aside aside other
  · refine ⟨aside.view ▸ invariant, Or.inr ⟨i, ?_, fun j other => ?_⟩⟩
    · have notOwner := (outside i).1
      rw [← aside.owner] at notOwner
      rwa [decide_eq_false notOwner]
    · exact ⟨last j, (outside j).of_aside aside other⟩

omit [DecidableEq S.Lock] in
/-- The thread that was in a section is outside again. -/
theorem settled_of_own
    (own : cell.Outside watch handler post (some (watch.content (watch.view config.shared))) config i)
    (others : ∀ j, j ≠ i → ∃ last, cell.Outside watch handler post last config j) :
    cell.Settled watch handler post initial config := by
  have outside : ∀ j, ∃ last, cell.Outside watch handler post last config j ∧
      (j = i → last = some (watch.content (watch.view config.shared))) := by
    intro j
    by_cases same : j = i
    · exact ⟨_, same ▸ own, fun _ => rfl⟩
    · rcases others j same with ⟨last, isOutside⟩
      exact ⟨last, isOutside, fun equal => absurd equal same⟩
  choose last isOutside known using outside
  exact ⟨last, isOutside, Or.inl ⟨i, known i rfl⟩⟩

omit [DecidableEq S.Lock] in
/-- Where the thread in a section is at rest, its section is over. -/
theorem Busy.settled (busy : cell.Busy watch handler post config i)
    (invariant : watch.invariant (watch.view config.shared)) (atRest : cell.AtRest config i) :
    cell.Settled watch handler post initial config := by
  rcases busy with ⟨updating, others⟩
  rcases atRest with ⟨notOwner, between⟩
  rw [decide_eq_false notOwner] at updating
  exact settled_of_own ⟨notOwner, updating.resting invariant between⟩ others

/-- Another thread makes a step while thread `i` is in a section. -/
theorem Busy.step_other (busy : cell.Busy watch handler post config i) (other : j ≠ i)
    (step : Step handler j config after) (undisturbed : cell.Undisturbed config j)
    (invariant : watch.invariant (watch.view config.shared)) :
    cell.OneAtATime watch handler post initial after := by
  rcases busy.2 j other with ⟨last, outside⟩
  rcases outside.step step invariant with ⟨aside, own | ⟨opens, _⟩⟩
  · refine ⟨aside.view ▸ invariant, Or.inr ⟨i, ?_, fun k different => ?_⟩⟩
    · rw [aside.owner, aside.threads i (Ne.symm other)]
      exact busy.1.congr aside.view.symm
    · by_cases same : k = j
      · exact ⟨last, same ▸ own⟩
      · rcases busy.2 k different with ⟨lastThere, outsideThere⟩
        exact ⟨lastThere, outsideThere.of_aside aside same⟩
  · have settled : cell.Settled watch handler post initial config :=
      busy.settled invariant (undisturbed opens i (Ne.symm other))
    exact settled.step step invariant

omit [DecidableEq S.Lock] in
/-- The thread in a section has gone on with the section, and the others are
where they were. -/
theorem busy_of_proceed {program : Prog S α} {owner : S.Lock → Option ι} {s : σ} {held : Bool}
    (updating : Updating cell watch handler (post i) held s program)
    (isHeld : decide (owner cell.lock = some i) = held)
    (free : ∀ j, j ≠ i → owner cell.lock ≠ some j)
    (others : ∀ j, j ≠ i → ∃ last, cell.Outside watch handler post last config j) :
    cell.Busy watch handler post ⟨s, owner, Function.update config.threads i program⟩ i := by
  constructor
  · rw [isHeld]
    dsimp only
    rw [Function.update_self]
    exact updating
  · intro j other
    rcases others j other with ⟨last, outside⟩
    exact ⟨last, outside.of_same (Function.update_of_ne other _ _) (free j other)⟩

/-- The thread in a section makes a step of the section, unless its section is
over. -/
theorem Busy.step_own (busy : cell.Busy watch handler post config i)
    (step : Step handler i config after) (invariant : watch.invariant (watch.view config.shared)) :
    cell.OneAtATime watch handler post initial after := by
  rcases busy with ⟨updating, others⟩
  generalize isHeld : decide (config.owner cell.lock = some i) = held at updating
  generalize isLeft : config.threads i = program at updating
  generalize isShared : config.shared = s at updating
  cases updating with
  | @intro _ _ β body rest b obeys ends later =>
      cases body with
      | done outcome =>
          -- the section is over, and the step is one outside of sections
          cases ends
          have notOwner : config.owner cell.lock ≠ some i :=
            of_decide_eq_false (isHeld.trans obeys)
          have own : cell.Outside watch handler post
              (some (watch.content (watch.view config.shared))) config i := by
            rw [Outside, isLeft, isShared]
            exact ⟨notOwner, later⟩
          have settled : cell.Settled watch handler post initial config :=
            settled_of_own own others
          exact settled.step step invariant
      | call request next =>
          have left : config.threads i = .call request fun answer => Prog.bind (next answer) rest :=
            isLeft
          have inThere := obeys.1.1.invariant _ invariant
          subst isShared
          rw [step.of_call left]
          have free : ∀ j, j ≠ i → config.owner cell.lock ≠ some j := by
            intro j other
            rcases others j other with ⟨last, outside⟩
            exact outside.1
          exact ⟨inThere, Or.inr ⟨i,
            busy_of_proceed (.intro (obeys.2 _) ends later) isHeld free others⟩⟩
      | acquire lock next =>
          have left : config.threads i = .acquire lock (Prog.bind next rest) := isLeft
          rcases obeys with ⟨rfl, _, obeys⟩
          subst isShared
          rw [(step.of_acquire left).2]
          have owned : Function.update config.owner cell.lock (some i) cell.lock = some i :=
            Function.update_self ..
          have free : ∀ j, j ≠ i →
              Function.update config.owner cell.lock (some i) cell.lock ≠ some j := by
            intro j other same
            exact other (Option.some.inj (owned.symm.trans same)).symm
          exact ⟨invariant, Or.inr ⟨i,
            busy_of_proceed (.intro obeys ends later) (decide_eq_true owned) free others⟩⟩
      | release lock next =>
          have left : config.threads i = .release lock (Prog.bind next rest) := isLeft
          rcases obeys with ⟨rfl, _, obeys⟩
          subst isShared
          rw [(step.of_release left).2]
          have free : ∀ j, Function.update config.owner cell.lock none cell.lock ≠ some j := by
            intro j
            rw [Function.update_self]
            exact nofun
          exact ⟨invariant, Or.inr ⟨i, busy_of_proceed (.intro obeys ends later)
            (decide_eq_false (free i)) (fun j _ => free j) others⟩⟩

theorem OneAtATime.step (oneAtATime : cell.OneAtATime watch handler post initial config)
    (undisturbed : cell.Undisturbed config i) (step : Step handler i config after) :
    cell.OneAtATime watch handler post initial after := by
  rcases oneAtATime with ⟨invariant, settled | ⟨j, busy⟩⟩
  · exact settled.step step invariant
  · by_cases same : i = j
    · subst same
      exact busy.step_own step invariant
    · exact busy.step_other same step undisturbed invariant

omit [DecidableEq S.Lock] in
/-- Where all threads have ended, no thread is in a section. -/
theorem OneAtATime.settled (oneAtATime : cell.OneAtATime watch handler post initial config)
    {outcomes : ι → Except S.Error α} (ended : ∀ i, config.threads i = .done (outcomes i)) :
    cell.Settled watch handler post initial config := by
  rcases oneAtATime with ⟨invariant, settled | ⟨i, busy⟩⟩
  · exact settled
  · have notOwner : config.owner cell.lock ≠ some i := by
      have updating := busy.1
      rw [ended i] at updating
      exact of_decide_eq_false updating.closed
    have between : cell.BetweenSections (config.threads i) := by
      rw [ended i]
      trivial
    exact busy.settled invariant ⟨notOwner, between⟩

/-- Where sections do not overlap, the cell holds at the end what the last
section of some thread left in it, or there was no section. -/
theorem leftBy_of_reachesWhere {threads : ι → Prog S α} {s : σ}
    (rests : ∀ i, Resting cell watch handler (post i) none (threads i))
    (invariant : watch.invariant (watch.view s))
    (reaches : ReachesWhere handler cell.Undisturbed (Config.initial threads s) config)
    {outcomes : ι → Except S.Error α} (ended : ∀ i, config.threads i = .done (outcomes i)) :
    ∃ last : ι → Option μ, (∀ i, post i (last i) (outcomes i)) ∧
      LeftBy last (watch.content (watch.view s)) (watch.content (watch.view config.shared)) := by
  have start : cell.OneAtATime watch handler post (watch.content (watch.view s))
      (Config.initial threads s) :=
    ⟨invariant, Or.inl ⟨fun _ => none, fun i => ⟨nofun, rests i⟩, Or.inr ⟨fun _ => rfl, rfl⟩⟩⟩
  have final : cell.OneAtATime watch handler post (watch.content (watch.view s)) config :=
    reaches.preserves (fun i before after undisturbed step kept => kept.step undisturbed step) start
  rcases final.settled ended with ⟨last, outside, leftBy⟩
  refine ⟨last, fun i => ?_, leftBy⟩
  have resting := (outside i).2
  rw [ended i] at resting
  cases resting with
  | done holds => exact holds

end Threads

end Cell

end AzureShell.Prog
