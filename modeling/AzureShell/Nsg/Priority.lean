import AzureShell.Alloc.Gap

/-!
# The priority generator of a security group

`_rule_priority_generator` walks a sorted list of the existing priorities that
starts at a sentinel one step below the first priority wanted and ends at
infinity; each priority it yields is inserted into the list.  A request to the
generator is the walk of `AzureShell.Alloc.firstGap`, so what it yields is
fresh, and the least free multiple of the step where all priorities are
multiples of it.
-/

namespace AzureShell.SecurityGroupService

open AzureShell.Alloc

def ruleDefaultPriority : Int :=
  1000

def rulePriorityIncreaseStep : Int :=
  5

/-- The list `relevant_existing_priorities` from the generator's index on, with
`none` for `float("inf")`. -/
abbrev PriorityGenerator :=
  List (Option Int)

/-- The generator before its first request. -/
def rulePriorityGenerator (existingPriorities : List Int) (startFrom : Int) : PriorityGenerator :=
  let startLimit := startFrom - rulePriorityIncreaseStep
  let relevant := (existingPriorities ++ [startLimit]).filter (startLimit ≤ ·)
  (relevant.insertionSort (· ≤ ·)).map some ++ [none]

/-- `next(priority_generator)`: the yielded priority and the generator after
it.  There is none if the index runs past the list. -/
def nextPriority : PriorityGenerator → Option (Int × PriorityGenerator)
  | some existing :: following :: rest =>
      let priority := existing + rulePriorityIncreaseStep
      if following.all (priority < ·) then
        some (priority, some priority :: following :: rest)
      else
        nextPriority (following :: rest)
  | _ => none

/-- A generator that walks the used priorities `rest` upward from `current`. -/
def walking (current : Int) (rest : List Int) : PriorityGenerator :=
  some current :: (rest.map some ++ [none])

/-- A request to the generator is one allocation; it never runs past the list. -/
theorem nextPriority_walking (current : Int) (rest : List Int) :
    nextPriority (walking current rest) =
      some ((firstGap rulePriorityIncreaseStep current rest).1,
        walking (firstGap rulePriorityIncreaseStep current rest).1
          (firstGap rulePriorityIncreaseStep current rest).2) := by
  induction rest generalizing current with
  | nil => rfl
  | cons used rest ih =>
      by_cases gap : current + rulePriorityIncreaseStep < used
      · simp [walking, nextPriority, firstGap, gap]
      · have continued := ih used
        simp only [walking, List.map_cons, List.cons_append] at continued ⊢
        rw [nextPriority, firstGap, if_neg gap]
        simpa [gap] using continued

/-- The new generator stands at the sentinel, below every relevant priority. -/
theorem rulePriorityGenerator_eq_walking (existing : List Int) (startFrom : Int) :
    ∃ rest, rulePriorityGenerator existing startFrom =
        walking (startFrom - rulePriorityIncreaseStep) rest ∧
      Ascending (startFrom - rulePriorityIncreaseStep) rest ∧
      ∀ priority, priority ∈ rest ↔
        priority ∈ existing ∧ startFrom - rulePriorityIncreaseStep ≤ priority := by
  let startLimit := startFrom - rulePriorityIncreaseStep
  let relevant := existing.filter (startLimit ≤ ·)
  have above : ∀ priority ∈ relevant, startLimit ≤ priority := fun priority member => by
    simpa using (List.mem_filter.mp member).2
  have split : (existing ++ [startLimit]).filter (startLimit ≤ ·) = relevant ++ [startLimit] := by
    simp [relevant]
  have sorted : (relevant ++ [startLimit]).insertionSort (· ≤ ·) =
      startLimit :: relevant.insertionSort (· ≤ ·) := by
    rw [← List.insertionSort_cons_of_forall_rel (r := (· ≤ ·)) above]
    have rotated : ((relevant ++ [startLimit]).insertionSort (· ≤ ·)).Perm
        ((startLimit :: relevant).insertionSort (· ≤ ·)) :=
      (List.perm_insertionSort _ _).trans <|
        (List.perm_append_singleton _ _).trans (List.perm_insertionSort _ _).symm
    exact rotated.eq_of_pairwise' (List.pairwise_insertionSort _ _)
      (List.pairwise_insertionSort _ _)
  refine ⟨relevant.insertionSort (· ≤ ·), ?_, ?_, ?_⟩
  · change ((List.filter _ _).insertionSort _).map some ++ [none] = _
    rw [split, sorted]
    rfl
  · refine List.pairwise_cons.mpr ⟨fun priority member => ?_, List.pairwise_insertionSort _ _⟩
    exact above priority ((List.mem_insertionSort _).mp member)
  · intro priority
    simp [relevant, startLimit]

/-- A generator with nothing ahead yields one step after the other. -/
theorem nextPriority_walking_nil (current : Int) :
    nextPriority (walking current []) = some (current + rulePriorityIncreaseStep,
      walking (current + rulePriorityIncreaseStep) []) :=
  nextPriority_walking current []

theorem rulePriorityGenerator_nil (startFrom : Int) :
    rulePriorityGenerator [] startFrom = walking (startFrom - rulePriorityIncreaseStep) [] := by
  simp [rulePriorityGenerator, walking]

/-! ## What the yielded priorities avoid -/

/-- Every used priority has been passed by the generator or is still ahead. -/
def Tracks (generator : PriorityGenerator) (used : Int → Prop) : Prop :=
  ∃ current rest, generator = walking current rest ∧ Ascending current rest ∧
    ∀ priority, used priority → priority ≤ current ∨ priority ∈ rest

theorem tracks_rulePriorityGenerator (existing : List Int) (startFrom : Int) :
    Tracks (rulePriorityGenerator existing startFrom) (· ∈ existing) := by
  obtain ⟨rest, generator_eq, ascending, mem_rest⟩ :=
    rulePriorityGenerator_eq_walking existing startFrom
  refine ⟨_, rest, generator_eq, ascending, fun priority member => ?_⟩
  by_cases relevant : startFrom - rulePriorityIncreaseStep ≤ priority
  · exact Or.inr ((mem_rest priority).mpr ⟨member, relevant⟩)
  · exact Or.inl (not_le.mp relevant).le

/-- A request yields a priority that is not in use, and the generator then
tracks it as well. -/
theorem Tracks.next {generator : PriorityGenerator} {used : Int → Prop}
    (tracks : Tracks generator used) :
    ∃ priority after, nextPriority generator = some (priority, after) ∧ ¬ used priority ∧
      Tracks after fun other => other = priority ∨ used other := by
  rcases tracks with ⟨current, rest, rfl, ascending, covered⟩
  have positive : 0 < rulePriorityIncreaseStep := by decide
  have step : current + rulePriorityIncreaseStep ≤ _ := firstGap_ge ascending
  refine ⟨_, _, nextPriority_walking current rest, fun isUsed => ?_, _, _, rfl,
    firstGap_ascending ascending, ?_⟩
  · rcases covered _ isUsed with passed | ahead
    · linarith
    · exact firstGap_not_mem positive ascending ahead
  · rintro other (rfl | isUsed)
    · exact Or.inl le_rfl
    · rcases covered other isUsed with passed | ahead
      · exact Or.inl (by linarith)
      · exact (firstGap_passed_or_left positive ascending ahead).imp le_of_lt id

/-- Where the start and all existing priorities are multiples of the step, the
first yielded priority is the least free multiple from the start on. -/
theorem nextPriority_least {existing : List Int} {startFrom : Int}
    (start_dvd : rulePriorityIncreaseStep ∣ startFrom)
    (existing_dvd : ∀ priority ∈ existing, rulePriorityIncreaseStep ∣ priority) :
    ∃ priority after,
      nextPriority (rulePriorityGenerator existing startFrom) = some (priority, after) ∧
      rulePriorityIncreaseStep ∣ priority ∧ startFrom ≤ priority ∧
      ∀ other, rulePriorityIncreaseStep ∣ other → startFrom ≤ other → other < priority →
        other ∈ existing := by
  obtain ⟨rest, generator_eq, ascending, mem_rest⟩ :=
    rulePriorityGenerator_eq_walking existing startFrom
  have limit_dvd : rulePriorityIncreaseStep ∣ startFrom - rulePriorityIncreaseStep :=
    Int.dvd_sub start_dvd (Int.dvd_refl _)
  have rest_dvd : ∀ priority ∈ rest, rulePriorityIncreaseStep ∣ priority := fun priority member =>
    existing_dvd priority ((mem_rest priority).mp member).1
  have step : startFrom - rulePriorityIncreaseStep + rulePriorityIncreaseStep ≤ _ :=
    firstGap_ge ascending
  have step_eq : rulePriorityIncreaseStep = 5 := rfl
  refine ⟨_, _, generator_eq ▸ nextPriority_walking _ rest, firstGap_dvd limit_dvd rest_dvd,
    by linarith, fun other other_dvd above below => ?_⟩
  exact ((mem_rest other).mp
    (firstGap_least limit_dvd rest_dvd other_dvd (by linarith) below)).1

end AzureShell.SecurityGroupService
