import AzureShell.Nsg.Priority

/-!
# The loop of the priority generator

The body of `_rule_priority_generator` is an endless loop over the list
`relevant_existing_priorities` and an index: each pass reads the entries at the
index and behind it, may insert a priority between them and yield it, and moves
the index on.  Python raises an `IndexError` where there is no entry behind the
index.

A request to the generator runs passes until one of them yields.  It is the
`nextPriority` of what the list holds from the index on, so that it never fails
and takes no more passes than there are entries left.
-/

namespace AzureShell.SecurityGroupService

open AzureShell.Alloc

/-- The generator between two passes of its loop. -/
structure GeneratorFrame where
  /-- The whole list, with `none` for `float("inf")`. -/
  relevantExistingPriorities : List (Option Int)
  i : Nat
  deriving Repr, DecidableEq

/-- The generator as it enters its loop. -/
def enterLoop (existingPriorities : List Int) (startFrom : Int) : GeneratorFrame where
  relevantExistingPriorities := rulePriorityGenerator existingPriorities startFrom
  i := 0

/-- `entry > priority`, with `none` for `float("inf")`. -/
def exceeds : Option Int → Option Int → Bool
  | some entry, some priority => priority < entry
  | none, some _ => true
  | _, none => false

/-- What one pass of the loop does. -/
inductive LoopOutcome
  /-- It yields a priority; the next request goes on at the given frame. -/
  | yields (priority : Option Int) (resumed : GeneratorFrame)
  /-- It ends with no `yield`. -/
  | continues (frame : GeneratorFrame)
  /-- It reads past the end of the list. -/
  | indexError
  deriving Repr, DecidableEq

/-- One pass of `while True`. -/
def loopPass (frame : GeneratorFrame) : LoopOutcome :=
  match frame.relevantExistingPriorities[frame.i]?,
      frame.relevantExistingPriorities[frame.i + 1]? with
  | some existing, some following =>
      let priority := existing.map (· + rulePriorityIncreaseStep)
      if exceeds following priority then
        .yields priority
          ⟨frame.relevantExistingPriorities.insertIdx (frame.i + 1) priority, frame.i + 1⟩
      else
        .continues { frame with i := frame.i + 1 }
  | _, _ => .indexError

/-- Passes of the loop, up to the given number of them, until one yields or
fails. -/
def runPasses : Nat → GeneratorFrame → LoopOutcome
  | 0, frame => .continues frame
  | passes + 1, frame =>
      match loopPass frame with
      | .continues after => runPasses passes after
      | outcome => outcome

/-! ## A request is the walk over the rest of the list -/

/-- The frame's list, read from its index on, is the given generator. -/
def StandsAt (frame : GeneratorFrame) (generator : PriorityGenerator) : Prop :=
  ∃ passed, frame = ⟨passed ++ generator, passed.length⟩

theorem standsAt_enterLoop (existing : List Int) (startFrom : Int) :
    StandsAt (enterLoop existing startFrom) (rulePriorityGenerator existing startFrom) :=
  ⟨[], rfl⟩

/-- Python's `insert` behind the entry at the index. -/
theorem insertIdx_behind {α : Type} (passed rest : List α) (entry inserted : α) :
    (passed ++ entry :: rest).insertIdx (passed.length + 1) inserted =
      passed ++ entry :: inserted :: rest := by
  induction passed with
  | nil => simp
  | cons first passed ih => simpa using ih

/-- A pass with a free priority before the next entry yields it. -/
theorem loopPass_gap {frame : GeneratorFrame} {existing : Int} {following : Option Int}
    {rest : PriorityGenerator} (stands : StandsAt frame (some existing :: following :: rest))
    (gap : following.all (existing + rulePriorityIncreaseStep < ·)) :
    ∃ resumed, loopPass frame = .yields (some (existing + rulePriorityIncreaseStep)) resumed ∧
      StandsAt resumed (some (existing + rulePriorityIncreaseStep) :: following :: rest) := by
  rcases stands with ⟨passed, rfl⟩
  have exceeded : exceeds following (some (existing + rulePriorityIncreaseStep)) := by
    cases following with
    | none => rfl
    | some entry => simpa [exceeds] using gap
  refine ⟨⟨passed ++ some existing :: some (existing + rulePriorityIncreaseStep) ::
    following :: rest, passed.length + 1⟩, ?_, passed ++ [some existing], by simp⟩
  simp [loopPass, insertIdx_behind, exceeded]

/-- A pass with no free priority before the next entry goes on to that entry. -/
theorem loopPass_noGap {frame : GeneratorFrame} {existing : Int} {following : Option Int}
    {rest : PriorityGenerator} (stands : StandsAt frame (some existing :: following :: rest))
    (noGap : ¬ following.all (existing + rulePriorityIncreaseStep < ·)) :
    ∃ after, loopPass frame = .continues after ∧ StandsAt after (following :: rest) := by
  rcases stands with ⟨passed, rfl⟩
  have notExceeded : exceeds following (some (existing + rulePriorityIncreaseStep)) = false := by
    cases following with
    | none => simp at noGap
    | some entry => simpa [exceeds] using noGap
  refine ⟨⟨passed ++ some existing :: following :: rest, passed.length + 1⟩, ?_,
    passed ++ [some existing], by simp⟩
  simp [loopPass, notExceeded]

/-- The passes of a request compute `nextPriority`. -/
theorem runPasses_of_nextPriority {generator after : PriorityGenerator} {priority : Int}
    (next : nextPriority generator = some (priority, after)) {frame : GeneratorFrame}
    (stands : StandsAt frame generator) :
    ∃ resumed, runPasses generator.length frame = .yields (some priority) resumed ∧
      StandsAt resumed after := by
  induction generator generalizing frame with
  | nil => simp [nextPriority] at next
  | cons entry generator ih =>
      rcases entry with _ | existing
      · simp [nextPriority] at next
      · rcases generator with _ | ⟨following, rest⟩
        · simp [nextPriority] at next
        · rw [nextPriority] at next
          rw [List.length_cons, runPasses]
          by_cases gap : following.all (existing + rulePriorityIncreaseStep < ·)
          · rcases loopPass_gap stands gap with ⟨resumed, yields, standsAfter⟩
            rw [if_pos gap, Option.some_inj, Prod.mk.injEq] at next
            rcases next with ⟨rfl, rfl⟩
            exact ⟨resumed, by rw [yields], standsAfter⟩
          · rcases loopPass_noGap stands gap with ⟨moved, continues, standsMoved⟩
            rw [if_neg gap] at next
            rw [continues]
            exact ih next standsMoved

/-! ## The yielded sequence -/

/-- The generator after a request, which takes at most one pass for each entry
from the index on. -/
def afterRequest (frame : GeneratorFrame) : GeneratorFrame :=
  match runPasses (frame.relevantExistingPriorities.length - frame.i) frame with
  | .yields _ resumed => resumed
  | .continues after => after
  | .indexError => frame

/-- A request on a generator that walks the used priorities allocates the next
gap. -/
theorem runPasses_walking {frame : GeneratorFrame} {current : Int} {rest : List Int}
    (stands : StandsAt frame (walking current rest)) :
    ∃ passes, runPasses passes frame =
        .yields (some (firstGap rulePriorityIncreaseStep current rest).1) (afterRequest frame) ∧
      StandsAt (afterRequest frame)
        (walking (firstGap rulePriorityIncreaseStep current rest).1
          (firstGap rulePriorityIncreaseStep current rest).2) := by
  rcases runPasses_of_nextPriority (nextPriority_walking current rest) stands with
    ⟨resumed, yields, standsAfter⟩
  have entriesLeft : frame.relevantExistingPriorities.length - frame.i =
      (walking current rest).length := by
    rcases stands with ⟨passed, rfl⟩
    simp
  have resumed_eq : afterRequest frame = resumed := by
    rw [afterRequest, entriesLeft, yields]
  rw [resumed_eq]
  exact ⟨_, yields, standsAfter⟩

/-- After any number of requests the generator walks what the same number of
allocations leave. -/
theorem standsAt_afterRequests {frame : GeneratorFrame} {current : Int} {rest : List Int}
    (stands : StandsAt frame (walking current rest)) (requests : Nat) :
    StandsAt (afterRequest^[requests] frame)
      (walking (gaps rulePriorityIncreaseStep current rest requests).1
        (gaps rulePriorityIncreaseStep current rest requests).2) := by
  induction requests with
  | zero => exact stands
  | succ requests ih =>
      rw [Function.iterate_succ_apply']
      rcases runPasses_walking ih with ⟨_, _, standsAfter⟩
      exact standsAfter

/-- Every request to the generator yields, and what it yields is fresh, in
ascending steps and five above a priority that is known. -/
theorem rulePriorityGenerator_productive (existing : List Int) (startFrom : Int) :
    ∃ (frames : Nat → GeneratorFrame) (yielded : Nat → Int),
      frames 0 = enterLoop existing startFrom ∧
      (∀ n, ∃ passes, runPasses passes (frames n) =
        .yields (some (yielded n)) (frames (n + 1))) ∧
      (∀ n, yielded n + 5 ≤ yielded (n + 1)) ∧
      (∀ n, startFrom ≤ yielded n) ∧
      (∀ n, yielded n ∉ existing) ∧
      ∀ n, ∃ known, yielded n = known + 5 ∧
        (known = startFrom - 5 ∨ known ∈ existing ∨ ∃ m < n, known = yielded m) := by
  rcases rulePriorityGenerator_eq_walking existing startFrom with
    ⟨rest, generator_eq, ascending, mem_rest⟩
  let allocated := gaps rulePriorityIncreaseStep (startFrom - rulePriorityIncreaseStep) rest
  have positive : 0 < rulePriorityIncreaseStep := by simp [rulePriorityIncreaseStep]
  have stands : StandsAt (enterLoop existing startFrom)
      (walking (startFrom - rulePriorityIncreaseStep) rest) :=
    generator_eq ▸ standsAt_enterLoop existing startFrom
  have from_start : ∀ n, startFrom ≤ (allocated (n + 1)).1 := fun n => by
    have step := gaps_add_le rulePriorityIncreaseStep ascending n
    have above := gaps_ge positive ascending n
    simp only [allocated]
    linarith
  refine ⟨fun n => afterRequest^[n] (enterLoop existing startFrom),
    fun n => (allocated (n + 1)).1, rfl, ?_, ?_, from_start, ?_, ?_⟩
  · intro n
    rcases runPasses_walking (standsAt_afterRequests stands n) with ⟨passes, yields, _⟩
    simp only [Function.iterate_succ_apply']
    exact ⟨passes, yields⟩
  · intro n
    exact gaps_add_le rulePriorityIncreaseStep ascending (n + 1)
  · intro n member
    have relevant : startFrom - rulePriorityIncreaseStep ≤ (allocated (n + 1)).1 := by
      have above := from_start n
      linarith
    exact gaps_not_mem positive ascending n ((mem_rest _).mpr ⟨member, relevant⟩)
  · intro n
    rcases gaps_eq_add rulePriorityIncreaseStep (startFrom - rulePriorityIncreaseStep) rest n with
      above | ⟨used, member, above⟩
    · cases n with
      | zero => exact ⟨_, above, Or.inl rfl⟩
      | succ m => exact ⟨_, above, Or.inr (Or.inr ⟨m, Nat.lt_succ_self m, rfl⟩)⟩
    · exact ⟨used, above, Or.inr (Or.inl ((mem_rest used).mp member).1)⟩

end AzureShell.SecurityGroupService
