import AzureShell.Prog.Core
import Mathlib.Logic.Function.Basic
import Mathlib.Logic.Relation

/-!
# Interleavings of programs

Threads run programs against shared services.  A step of a thread is one request
or one lock operation; a lock is taken only when nobody holds it, and given back
only by its owner.  Any thread may move next.
-/

namespace AzureShell.Prog

variable {S : Signature} {α σ ι : Type} [DecidableEq S.Lock] [DecidableEq ι]

/-- The shared state, the owners of the locks, and what is left of each thread. -/
structure Config (S : Signature) (σ ι α : Type) where
  shared : σ
  owner : S.Lock → Option ι
  threads : ι → Prog S α

namespace Config

/-- Threads that have not moved, with all locks free. -/
def initial (threads : ι → Prog S α) (s : σ) : Config S σ ι α where
  shared := s
  owner := fun _ => none
  threads := threads

/-- What is left of one thread changes. -/
def proceed (config : Config S σ ι α) (i : ι) (rest : Prog S α) : Config S σ ι α :=
  { config with threads := Function.update config.threads i rest }

end Config

/-- One step of thread `i`. -/
inductive Step (handler : Handler S σ) (i : ι) : Config S σ ι α → Config S σ ι α → Prop where
  | call {config : Config S σ ι α} {request : S.Request}
      {next : Except S.Error (S.Answer request) → Prog S α}
      (left : config.threads i = .call request next) :
      Step handler i config
        { config.proceed i (next (handler request config.shared).1) with
          shared := (handler request config.shared).2 }
  | acquire {config : Config S σ ι α} {lock : S.Lock} {next : Prog S α}
      (left : config.threads i = .acquire lock next) (free : config.owner lock = none) :
      Step handler i config
        { config.proceed i next with owner := Function.update config.owner lock (some i) }
  | release {config : Config S σ ι α} {lock : S.Lock} {next : Prog S α}
      (left : config.threads i = .release lock next) (owned : config.owner lock = some i) :
      Step handler i config
        { config.proceed i next with owner := Function.update config.owner lock none }

/-! The step of a thread is determined by what is left of it. -/

section Inversion

variable {handler : Handler S σ} {config after : Config S σ ι α} {i : ι} {lock : S.Lock}
  {next : Prog S α}

theorem Step.of_call {request : S.Request} {next : Except S.Error (S.Answer request) → Prog S α}
    (step : Step handler i config after) (left : config.threads i = .call request next) :
    after = { config.proceed i (next (handler request config.shared).1) with
      shared := (handler request config.shared).2 } := by
  cases step with
  | call isLeft =>
      cases left.symm.trans isLeft
      rfl
  | acquire isLeft _ => cases left.symm.trans isLeft
  | release isLeft _ => cases left.symm.trans isLeft

theorem Step.of_acquire (step : Step handler i config after)
    (left : config.threads i = .acquire lock next) :
    config.owner lock = none ∧ after = { config.proceed i next with
      owner := Function.update config.owner lock (some i) } := by
  cases step with
  | call isLeft => cases left.symm.trans isLeft
  | acquire isLeft free =>
      cases left.symm.trans isLeft
      exact ⟨free, rfl⟩
  | release isLeft _ => cases left.symm.trans isLeft

theorem Step.of_release (step : Step handler i config after)
    (left : config.threads i = .release lock next) :
    config.owner lock = some i ∧ after = { config.proceed i next with
      owner := Function.update config.owner lock none } := by
  cases step with
  | call isLeft => cases left.symm.trans isLeft
  | acquire isLeft _ => cases left.symm.trans isLeft
  | release isLeft owned =>
      cases left.symm.trans isLeft
      exact ⟨owned, rfl⟩

end Inversion

/-- A step of some thread. -/
def Moves (handler : Handler S σ) (config after : Config S σ ι α) : Prop :=
  ∃ i, Step handler i config after

/-- A configuration is reached from another by any interleaving of the threads. -/
def Reaches (handler : Handler S σ) : Config S σ ι α → Config S σ ι α → Prop :=
  Relation.ReflTransGen (Moves handler)

/-- What every step of every thread preserves holds in every configuration that
is reached. -/
theorem Reaches.preserves {handler : Handler S σ} {invariant : Config S σ ι α → Prop}
    (preserved : ∀ i config after, Step handler i config after → invariant config →
      invariant after)
    {config after : Config S σ ι α} (reaches : Reaches handler config after)
    (holds : invariant config) : invariant after := by
  induction reaches with
  | refl => exact holds
  | tail _ moves ih =>
      rcases moves with ⟨i, step⟩
      exact preserved i _ _ step ih

/-- A configuration is reached by steps that are all allowed where they are
made. -/
def ReachesWhere (handler : Handler S σ) (allowed : Config S σ ι α → ι → Prop) :
    Config S σ ι α → Config S σ ι α → Prop :=
  Relation.ReflTransGen fun config after => ∃ i, allowed config i ∧ Step handler i config after

theorem ReachesWhere.preserves {handler : Handler S σ} {allowed : Config S σ ι α → ι → Prop}
    {invariant : Config S σ ι α → Prop}
    (preserved : ∀ i config after, allowed config i → Step handler i config after →
      invariant config → invariant after)
    {config after : Config S σ ι α} (reaches : ReachesWhere handler allowed config after)
    (holds : invariant config) : invariant after := by
  induction reaches with
  | refl => exact holds
  | tail _ moves ih =>
      rcases moves with ⟨i, isAllowed, step⟩
      exact preserved i _ _ isAllowed step ih

/-! ## Schedules -/

namespace Config

/-- The configuration after a step of thread `i`, if it can make one. -/
def step (handler : Handler S σ) (config : Config S σ ι α) (i : ι) : Option (Config S σ ι α) :=
  match config.threads i with
  | .done _ => none
  | .call request next =>
      some { config.proceed i (next (handler request config.shared).1) with
        shared := (handler request config.shared).2 }
  | .acquire lock next =>
      if config.owner lock = none then
        some { config.proceed i next with owner := Function.update config.owner lock (some i) }
      else
        none
  | .release lock next =>
      if config.owner lock = some i then
        some { config.proceed i next with owner := Function.update config.owner lock none }
      else
        none

/-- The configuration after steps of threads in this order, if they can make
them and every step passes a check. -/
def play (handler : Handler S σ) (check : Config S σ ι α → ι → Bool) (config : Config S σ ι α)
    (schedule : List ι) : Option (Config S σ ι α) :=
  schedule.foldlM (fun config i => if check config i then config.step handler i else none) config

end Config

theorem step_of_eq_some {handler : Handler S σ} {config after : Config S σ ι α} {i : ι}
    (stepped : config.step handler i = some after) : Step handler i config after := by
  unfold Config.step at stepped
  split at stepped
  · cases stepped
  · rename_i left
    cases stepped
    exact .call left
  · rename_i left
    split at stepped
    · rename_i free
      cases stepped
      exact .acquire left free
    · cases stepped
  · rename_i left
    split at stepped
    · rename_i owned
      cases stepped
      exact .release left owned
    · cases stepped

theorem reachesWhere_of_play {handler : Handler S σ} {allowed : Config S σ ι α → ι → Prop}
    {check : Config S σ ι α → ι → Bool}
    (sound : ∀ config i, check config i = true → allowed config i)
    {config after : Config S σ ι α} {schedule : List ι}
    (played : config.play handler check schedule = some after) :
    ReachesWhere handler allowed config after := by
  induction schedule generalizing config with
  | nil =>
      cases played
      exact .refl
  | cons i rest ih =>
      rw [Config.play, List.foldlM_cons] at played
      rcases Option.bind_eq_some_iff.mp played with ⟨next, stepped, played⟩
      split at stepped
      · rename_i checked
        exact .head ⟨i, sound config i checked, step_of_eq_some stepped⟩ (ih played)
      · cases stepped

theorem reaches_of_play {handler : Handler S σ} {config after : Config S σ ι α}
    {schedule : List ι} (played : config.play handler (fun _ _ => true) schedule = some after) :
    Reaches handler config after := by
  have reaches : ReachesWhere handler (fun _ _ => True) config after :=
    reachesWhere_of_play (fun _ _ _ => trivial) played
  refine Relation.ReflTransGen.mono ?_ _ _ reaches
  rintro before next ⟨i, _, step⟩
  exact ⟨i, step⟩

end AzureShell.Prog
