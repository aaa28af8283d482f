import AzureShell.Azure.Model
import Mathlib.Logic.Relation

/-!
# Waiting with a timeout

`wait_for_task_with_timeout` polls an operation until it is done or the deadline
has come.  The poller, the clock and the cancellation are known by their
answers, call by call, and the loop may go on for ever.
-/

namespace AzureShell.TaskWaiterService

/-- The answers a wait gets, by the number of the call: whether the operation is
done, the time in microseconds, and whether the command is cancelled. -/
structure Answers where
  done : Nat → Bool
  now : Nat → Int
  isCancelled : Nat → Bool
  done_stays : ∀ i, done i = true → done (i + 1) = true
  now_nondecreasing : ∀ i, now i ≤ now (i + 1)

/-- Where a wait is. -/
inductive WaitPc where
  /-- Before the test of the loop. -/
  | test
  | body
  /-- Before the test after the loop. -/
  | afterLoop
  /-- `operation_poller.result` is called. -/
  | result
  | raised (e : PyException)
deriving DecidableEq, Repr

/-- A wait with its variables, the numbers of calls so far, and the arguments of
`time.sleep`. -/
structure Wait where
  pc : WaitPc
  datetimeNow : Int
  nextTime : Int
  polls : Nat
  checks : Nat
  readings : Nat
  slept : List Int
deriving DecidableEq, Repr

/-- Up to the loop. -/
def start (answers : Answers) (timeout : Int) : Wait where
  pc := .test
  datetimeNow := answers.now 0
  nextTime := answers.now 0 + 1000000 * timeout
  polls := 0
  checks := 0
  readings := 1
  slept := []

/-- One step of `wait_for_task_with_timeout`, if it has not ended. -/
def step (answers : Answers) (waitTime : Int) (wait : Wait) : Option Wait :=
  match wait.pc with
  | .test =>
      let stays := !answers.done wait.polls && wait.datetimeNow < wait.nextTime
      some { wait with pc := if stays then .body else .afterLoop, polls := wait.polls + 1 }
  | .body =>
      if answers.isCancelled wait.checks then
        some { wait with pc := .raised .cancellationException, checks := wait.checks + 1 }
      else if waitTime < 0 then
        some { wait with
          pc := .raised (.ioError "Invalid argument".toList)
          checks := wait.checks + 1 }
      else
        some { wait with
          pc := .test
          checks := wait.checks + 1
          slept := waitTime :: wait.slept
          datetimeNow := answers.now wait.readings
          readings := wait.readings + 1 }
  | .afterLoop =>
      let timedOut := !answers.done wait.polls && wait.nextTime < wait.datetimeNow
      some { wait with
        pc := if timedOut then .raised .qualiTimeoutException else .result
        polls := wait.polls + 1 }
  | .result => none
  | .raised _ => none

/-- The states that a wait comes through. -/
def Reaches (answers : Answers) (waitTime timeout : Int) (wait : Wait) : Prop :=
  Relation.ReflTransGen (fun before after => step answers waitTime before = some after)
    (start answers timeout) wait

/-- The timeout is honoured: the result is asked for only after the operation was
found done, and an operation that is not done after the loop ends the wait with
the exception. -/
structure Honoured (answers : Answers) (waitTime : Int) (wait : Wait) : Prop where
  result : wait.pc = .result → ∃ i < wait.polls, answers.done i = true
  afterLoop : wait.pc = .afterLoop → answers.done wait.polls = false →
    ∃ after, step answers waitTime wait = some after ∧ after.pc = .raised .qualiTimeoutException

variable (answers : Answers) (waitTime timeout : Int)

def deadline : Int :=
  answers.now 0 + 1000000 * timeout

/-- The first rounds of the loop are gone through. -/
def Passes (rounds : Nat) : Prop :=
  ∀ i < rounds, answers.done i = false ∧ answers.now i < deadline answers timeout ∧
    answers.isCancelled i = false ∧ 0 ≤ waitTime

/-- A reading of the clock hits the deadline, and the operation is not done at
that test nor at the next one. -/
def HitsDeadline : Prop :=
  ∃ rounds, Passes answers waitTime timeout rounds ∧
    answers.now rounds = deadline answers timeout ∧
    answers.done rounds = false ∧ answers.done (rounds + 1) = false

/-- The wait after some rounds. -/
def atTest (rounds : Nat) : Wait where
  pc := .test
  datetimeNow := answers.now rounds
  nextTime := deadline answers timeout
  polls := rounds
  checks := rounds
  readings := rounds + 1
  slept := List.replicate rounds waitTime

/-- The wait after the test of the loop is made. -/
def afterTest (rounds : Nat) (pc : WaitPc) : Wait :=
  { atTest answers waitTime timeout rounds with pc := pc, polls := rounds + 1 }

/-- The wait after the test after the loop is made. -/
def ended (rounds : Nat) (pc : WaitPc) : Wait :=
  { atTest answers waitTime timeout rounds with pc := pc, polls := rounds + 2 }

variable {answers waitTime timeout} {rounds : Nat} {wait : Wait}

theorem step_atTest_of_early (notDone : answers.done rounds = false)
    (early : answers.now rounds < deadline answers timeout) :
    step answers waitTime (atTest answers waitTime timeout rounds) =
      some (afterTest answers waitTime timeout rounds .body) := by
  simp [step, atTest, afterTest, notDone, early]

theorem step_atTest_of_left
    (left : answers.done rounds = true ∨ deadline answers timeout ≤ answers.now rounds) :
    step answers waitTime (atTest answers waitTime timeout rounds) =
      some (afterTest answers waitTime timeout rounds .afterLoop) := by
  rcases left with isDone | late
  · simp [step, atTest, afterTest, isDone]
  · simp [step, atTest, afterTest, Int.not_lt.mpr late]

theorem step_body (notCancelled : answers.isCancelled rounds = false) (sleeps : 0 ≤ waitTime) :
    step answers waitTime (afterTest answers waitTime timeout rounds .body) =
      some (atTest answers waitTime timeout (rounds + 1)) := by
  simp [step, atTest, afterTest, notCancelled, Int.not_lt.mpr sleeps, List.replicate_succ]

theorem exists_raised_of_step_body (stops : answers.isCancelled rounds = true ∨ waitTime < 0)
    (last : step answers waitTime (afterTest answers waitTime timeout rounds .body) = some wait) :
    ∃ e, wait.pc = .raised e := by
  cases cancelled : answers.isCancelled rounds with
  | true =>
      simp only [step, afterTest, atTest, cancelled, if_true, Option.some.injEq] at last
      exact ⟨_, congrArg Wait.pc last.symm⟩
  | false =>
      have negative : waitTime < 0 := stops.resolve_left (by simp [cancelled])
      simp only [step, afterTest, atTest, cancelled, negative, if_true, Bool.false_eq_true,
        if_false, Option.some.injEq] at last
      exact ⟨_, congrArg Wait.pc last.symm⟩

/-- How the wait ends after the loop. -/
def ending (answers : Answers) (timeout : Int) (rounds : Nat) : WaitPc :=
  if !answers.done (rounds + 1) && deadline answers timeout < answers.now rounds then
    .raised .qualiTimeoutException
  else
    .result

theorem step_afterLoop :
    step answers waitTime (afterTest answers waitTime timeout rounds .afterLoop) =
      some (ended answers waitTime timeout rounds (ending answers timeout rounds)) :=
  rfl

theorem step_ended :
    step answers waitTime (ended answers waitTime timeout rounds
      (ending answers timeout rounds)) = none := by
  unfold ending
  split <;> rfl

/-- Rounds that can be gone through are gone through. -/
theorem reaches_atTest (passes : Passes answers waitTime timeout rounds) :
    Reaches answers waitTime timeout (atTest answers waitTime timeout rounds) := by
  induction rounds with
  | zero => exact .refl
  | succ rounds ih =>
      rcases passes rounds (Nat.lt_succ_self rounds) with ⟨notDone, early, notCancelled, sleeps⟩
      have before := ih fun i below => passes i (Nat.lt_succ_of_lt below)
      exact (before.tail (step_atTest_of_early notDone early)).tail
        (step_body notCancelled sleeps)

/-! ## Every state -/

/-- The loop is left, because the operation is done or the deadline has come. -/
def Left (answers : Answers) (timeout : Int) (rounds : Nat) : Prop :=
  answers.done rounds = true ∨ deadline answers timeout ≤ answers.now rounds

/-- The states of a wait in some round. -/
inductive InRound (answers : Answers) (waitTime timeout : Int) (rounds : Nat) : Wait → Prop where
  | test : InRound answers waitTime timeout rounds (atTest answers waitTime timeout rounds)
  | body (notDone : answers.done rounds = false)
      (early : answers.now rounds < deadline answers timeout) :
      InRound answers waitTime timeout rounds (afterTest answers waitTime timeout rounds .body)
  | afterLoop (left : Left answers timeout rounds) :
      InRound answers waitTime timeout rounds
        (afterTest answers waitTime timeout rounds .afterLoop)
  | ended (left : Left answers timeout rounds) :
      InRound answers waitTime timeout rounds
        (ended answers waitTime timeout rounds (ending answers timeout rounds))
  | raised {wait : Wait} (e : PyException) (pc : wait.pc = .raised e) :
      InRound answers waitTime timeout rounds wait

/-- Every state is one of some round. -/
theorem inRound_of_reaches (reaches : Reaches answers waitTime timeout wait) :
    ∃ rounds, Passes answers waitTime timeout rounds ∧
      InRound answers waitTime timeout rounds wait := by
  induction reaches with
  | refl => exact ⟨0, fun i below => absurd below (Nat.not_lt_zero i), .test⟩
  | tail _ last ih =>
      rcases ih with ⟨rounds, passes, inRound⟩
      cases inRound with
      | test =>
          by_cases stays : answers.done rounds = false ∧
              answers.now rounds < deadline answers timeout
          · rw [step_atTest_of_early stays.1 stays.2] at last
            cases last
            exact ⟨rounds, passes, .body stays.1 stays.2⟩
          · have left : Left answers timeout rounds := by
              rw [not_and_or, Bool.not_eq_false, Int.not_lt] at stays
              exact stays
            rw [step_atTest_of_left left] at last
            cases last
            exact ⟨rounds, passes, .afterLoop left⟩
      | body notDone early =>
          by_cases stops : answers.isCancelled rounds = true ∨ waitTime < 0
          · rcases exists_raised_of_step_body stops last with ⟨e, raised⟩
            exact ⟨rounds, passes, .raised e raised⟩
          · rw [not_or, Bool.not_eq_true, Int.not_lt] at stops
            rw [step_body stops.1 stops.2] at last
            cases last
            refine ⟨rounds + 1, fun i below => ?_, .test⟩
            rcases Nat.lt_succ_iff_lt_or_eq.mp below with earlier | rfl
            · exact passes i earlier
            · exact ⟨notDone, early, stops⟩
      | afterLoop left =>
          rw [step_afterLoop] at last
          cases last
          exact ⟨rounds, passes, .ended left⟩
      | ended left =>
          rw [step_ended] at last
          contradiction
      | raised e pc =>
          rw [step, pc] at last
          contradiction

theorem Left.eq_deadline (left : Left answers timeout rounds)
    (notDone : answers.done (rounds + 1) = false)
    (inTime : answers.now rounds ≤ deadline answers timeout) :
    answers.done rounds = false ∧ answers.now rounds = deadline answers timeout := by
  have notDoneBefore : answers.done rounds = false := by
    cases isDone : answers.done rounds with
    | false => rfl
    | true =>
        rw [answers.done_stays rounds isDone] at notDone
        contradiction
  have late : deadline answers timeout ≤ answers.now rounds :=
    left.resolve_left (by rw [notDoneBefore]; exact Bool.false_ne_true)
  exact ⟨notDoneBefore, Int.le_antisymm inTime late⟩

/-- Off the deadline, an operation that is not done after the loop ends the wait
with the exception. -/
theorem ending_of_notDone (passes : Passes answers waitTime timeout rounds)
    (off : ¬ HitsDeadline answers waitTime timeout) (left : Left answers timeout rounds)
    (notDone : answers.done (rounds + 1) = false) :
    ending answers timeout rounds = .raised .qualiTimeoutException := by
  rw [ending, notDone]
  by_cases late : deadline answers timeout < answers.now rounds
  · simp [late]
  · rcases left.eq_deadline notDone (Int.not_lt.mp late) with ⟨notDoneBefore, isDeadline⟩
    exact absurd ⟨rounds, passes, isDeadline, notDoneBefore, notDone⟩ off

/-- The timeout is honoured in every state that is reached, if and only if no
reading of the clock hits the deadline with the operation still not done. -/
theorem waitForTaskWithTimeout_honoured_iff (answers : Answers) (waitTime timeout : Int) :
    (∀ wait, Reaches answers waitTime timeout wait → Honoured answers waitTime wait) ↔
      ¬ HitsDeadline answers waitTime timeout := by
  constructor
  · rintro honoured ⟨rounds, passes, isDeadline, notDone, notDoneAfter⟩
    have isResult : ending answers timeout rounds = .result := by
      simp [ending, isDeadline]
    have atLoop := (reaches_atTest passes).tail
      (step_atTest_of_left (Or.inr (Int.le_of_eq isDeadline.symm)))
    rcases (honoured _ (atLoop.tail step_afterLoop)).result isResult with ⟨i, below, isDone⟩
    have noneDone : ∀ i < rounds + 2, answers.done i = false := by
      intro i below
      rcases Nat.lt_succ_iff_lt_or_eq.mp below with earlier | rfl
      · rcases Nat.lt_succ_iff_lt_or_eq.mp earlier with passed | rfl
        · exact (passes i passed).1
        · exact notDone
      · exact notDoneAfter
    rw [noneDone i below] at isDone
    contradiction
  · intro off wait reaches
    rcases inRound_of_reaches reaches with ⟨rounds, passes, inRound⟩
    cases inRound with
    | test => exact ⟨nofun, nofun⟩
    | body notDone early => exact ⟨nofun, nofun⟩
    | afterLoop left =>
        exact ⟨nofun, fun _ notDone =>
          ⟨_, step_afterLoop, ending_of_notDone passes off left notDone⟩⟩
    | ended left =>
        constructor
        · intro isResult
          refine ⟨rounds + 1, Nat.lt_succ_self _, ?_⟩
          cases isDone : answers.done (rounds + 1) with
          | true => rfl
          | false =>
              cases isResult.symm.trans (ending_of_notDone passes off left isDone)
        · intro atLoop
          have isEnding : ending answers timeout rounds = .afterLoop := atLoop
          unfold ending at isEnding
          split at isEnding <;> cases isEnding
    | raised e pc =>
        constructor
        · intro isResult
          rw [pc] at isResult
          contradiction
        · intro atLoop
          rw [pc] at atLoop
          contradiction

/-- An operation that is never done, and a clock that stands still. -/
def neverDone : Answers where
  done := fun _ => false
  now := fun _ => 0
  isCancelled := fun _ => false
  done_stays := nofun
  now_nondecreasing := fun _ => Int.le_refl 0

/-- With a timeout of zero the wait asks for the result of an operation that was
never found done. -/
theorem zero_timeout_asks_for_result :
    ¬ ∀ wait, Reaches neverDone 30 0 wait → Honoured neverDone 30 wait := by
  intro honoured
  have left : Reaches neverDone 30 0 (afterTest neverDone 30 0 0 .afterLoop) := .single rfl
  have asked : Reaches neverDone 30 0 (ended neverDone 30 0 0 .result) := left.tail rfl
  rcases (honoured _ asked).result rfl with ⟨_, _, isDone⟩
  contradiction

end AzureShell.TaskWaiterService
