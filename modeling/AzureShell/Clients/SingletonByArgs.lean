import AzureShell.Azure.Model

/-!
# Singletons by the arguments of a call

`SingletonByArgsMeta` keeps one instance for each class.  A call returns that
instance if its parameters equal the call's; otherwise it constructs another one
and keeps it in place of the first.  So instances of a value are the same
instance as long as no other value is requested in between.
-/

namespace AzureShell

/-- A class with this metaclass: its constructor, which may raise, and its
`check_params_equality`, both of which go by a value of the call. -/
structure ComparableClass (Call Object Value : Type) where
  init : Call → Except PyException Object
  checkParamsEquality : Object → Call → Bool
  requested : Call → Value
  valueOf : Object → Value
  valueOf_init : ∀ {call object}, init call = .ok object → valueOf object = requested call
  checkParamsEquality_iff : ∀ object call,
    checkParamsEquality object call = true ↔ valueOf object = requested call

/-- An object with its identity. -/
structure Reference (Object : Type) where
  address : Nat
  object : Object
deriving DecidableEq, Repr

namespace SingletonByArgsMeta

/-- The entry of a class in `__instances_by_cls`, and the next free address. -/
structure Slot (Object : Type) where
  cached : Option (Reference Object)
  allocated : Nat

/-- The entry before the first call. -/
def Slot.empty (Object : Type) : Slot Object where
  cached := none
  allocated := 0

variable {Call Object Value : Type} (cls : ComparableClass Call Object Value)

/-- `__call__`, with the entry after it. -/
def call (slot : Slot Object) (request : Call) :
    Except PyException (Reference Object) × Slot Object :=
  match slot.cached.filter fun reference => cls.checkParamsEquality reference.object request with
  | some reference => (.ok reference, slot)
  | none =>
      match cls.init request with
      | .error e => (.error e, slot)
      | .ok object =>
          let reference := ⟨slot.allocated, object⟩
          (.ok reference, ⟨some reference, slot.allocated + 1⟩)

/-- The entry after a sequence of calls. -/
def slotAfter (calls : List Call) : Slot Object :=
  calls.foldl (fun slot request => (call cls slot request).2) (Slot.empty Object)

/-- The calls from an entry on, each with what it returns or raises. -/
def answersFrom : Slot Object → List Call → List (Call × Except PyException (Reference Object))
  | _, [] => []
  | slot, request :: rest =>
      (request, (call cls slot request).1) :: answersFrom (call cls slot request).2 rest

/-- The calls of a process, each with what it returns or raises. -/
def answers (calls : List Call) : List (Call × Except PyException (Reference Object)) :=
  answersFrom cls (Slot.empty Object) calls

/-! ## One call -/

/-- What a call does: it finds the instance, the constructor raises, or it
constructs one. -/
inductive CallStep (slot : Slot Object) (request : Call) :
    Except PyException (Reference Object) → Slot Object → Prop
  | found {reference : Reference Object} (cached : slot.cached = some reference)
      (equal : cls.valueOf reference.object = cls.requested request) :
      CallStep slot request (.ok reference) slot
  | raised {e : PyException} (init : cls.init request = .error e) :
      CallStep slot request (.error e) slot
  | constructed {object : Object} (init : cls.init request = .ok object)
      (other : ∀ reference, slot.cached = some reference →
        cls.valueOf reference.object ≠ cls.requested request) :
      CallStep slot request (.ok ⟨slot.allocated, object⟩)
        ⟨some ⟨slot.allocated, object⟩, slot.allocated + 1⟩

theorem callStep_call (slot : Slot Object) (request : Call) :
    CallStep cls slot request (call cls slot request).1 (call cls slot request).2 := by
  rw [call]
  cases found : slot.cached.filter fun reference =>
      cls.checkParamsEquality reference.object request with
  | some reference =>
      rcases Option.filter_eq_some_iff.mp found with ⟨cached, equal⟩
      exact .found cached ((cls.checkParamsEquality_iff _ _).mp equal)
  | none =>
      cases init : cls.init request with
      | error e => exact .raised init
      | ok object =>
          refine .constructed init fun reference cached equal => ?_
          have checked := (cls.checkParamsEquality_iff reference.object request).mpr equal
          simp [cached, checked] at found

/-! ## Sequences of calls -/

@[simp]
theorem answers_nil : answers cls [] = [] :=
  rfl

theorem slotAfter_concat (calls : List Call) (request : Call) :
    slotAfter cls (calls ++ [request]) = (call cls (slotAfter cls calls) request).2 := by
  simp [slotAfter]

theorem answers_concat (calls : List Call) (request : Call) :
    answers cls (calls ++ [request]) =
      answers cls calls ++ [(request, (call cls (slotAfter cls calls) request).1)] := by
  have fromSlot : ∀ (slot : Slot Object), answersFrom cls slot (calls ++ [request]) =
      answersFrom cls slot calls ++
        [(request, (call cls (calls.foldl (fun s c => (call cls s c).2) slot) request).1)] := by
    induction calls with
    | nil => simp [answersFrom]
    | cons first calls ih => simp [answersFrom, ih]
  exact fromSlot _

theorem map_fst_answers (calls : List Call) : (answers cls calls).map Prod.fst = calls := by
  induction calls using List.reverseRecOn with
  | nil => rfl
  | append_singleton calls request ih => simp [answers_concat, ih]

/-- The calls whose constructor would not raise. -/
def accepted (calls : List Call) : List Call :=
  calls.filter fun request => (cls.init request).isOk

theorem accepted_concat (calls : List Call) (request : Call) :
    accepted cls (calls ++ [request]) =
      if (cls.init request).isOk then accepted cls calls ++ [request] else accepted cls calls := by
  rw [accepted, List.filter_append]
  cases accept : (cls.init request).isOk
  · simp [accept, accepted]
  · simp [accept, accepted]

/-- An instance is the other one or is older. -/
def Reference.IsUpTo (first second : Reference Object) : Prop :=
  first = second ∨ first.address < second.address

/-- What the entry of the class and the answers so far have to do with each
other. -/
structure Recorded (calls : List Call) (slot : Slot Object)
    (answers : List (Call × Except PyException (Reference Object))) : Prop where
  allocated : ∀ {request reference}, (request, .ok reference) ∈ answers →
    reference.address < slot.allocated
  carries : ∀ {request reference}, (request, .ok reference) ∈ answers →
    cls.valueOf reference.object = cls.requested request
  cached_returned : ∀ {reference}, slot.cached = some reference →
    ∃ request, (request, .ok reference) ∈ answers
  upToCached : ∀ {request reference}, (request, .ok reference) ∈ answers →
    ∃ cached, slot.cached = some cached ∧ Reference.IsUpTo reference cached
  inOrder : answers.Pairwise fun first second => ∀ {earlier later : Reference Object},
    first.2 = .ok earlier → second.2 = .ok later → Reference.IsUpTo earlier later
  lastAccepted : (accepted cls calls).getLast?.map cls.requested =
    slot.cached.map fun reference => cls.valueOf reference.object
  fromAccepted : ∀ {request reference}, (request, .ok reference) ∈ answers →
    ∃ first ∈ accepted cls calls, cls.requested first = cls.requested request

variable {cls} {calls : List Call} {slot : Slot Object} {request : Call}
  {answered : List (Call × Except PyException (Reference Object))}

theorem recorded_nil : Recorded cls [] (Slot.empty Object) [] where
  allocated member := by simp at member
  carries member := by simp at member
  cached_returned cached := by simp [Slot.empty] at cached
  upToCached member := by simp at member
  inOrder := List.Pairwise.nil
  lastAccepted := rfl
  fromAccepted member := by simp at member

/-- An answer is an earlier one or the new one. -/
theorem mem_concat_iff {asked other : Call}
    {outcome new : Except PyException (Reference Object)} :
    (asked, outcome) ∈ answered ++ [(other, new)] ↔
      (asked, outcome) ∈ answered ∨ asked = other ∧ outcome = new := by
  simp

theorem Reference.IsUpTo.trans {first second third : Reference Object}
    (left : Reference.IsUpTo first second) (right : Reference.IsUpTo second third) :
    Reference.IsUpTo first third := by
  rcases left with rfl | older
  · exact right
  · rcases right with rfl | next
    · exact Or.inr older
    · exact Or.inr (older.trans next)

theorem mem_accepted_concat {first : Call} (isAccepted : first ∈ accepted cls calls)
    (request : Call) : first ∈ accepted cls (calls ++ [request]) := by
  rw [accepted_concat]
  split
  · exact List.mem_append_left _ isAccepted
  · exact isAccepted

/-- A call that returns an instance is recorded: the entry holds the instance
afterwards, and the entry did so before or the constructor did not raise. -/
theorem Recorded.returned (recorded : Recorded cls calls slot answered)
    {reference : Reference Object} {after : Slot Object} (cached : after.cached = some reference)
    (carries : cls.valueOf reference.object = cls.requested request)
    (grown : slot.allocated ≤ after.allocated) (fresh : reference.address < after.allocated)
    (upTo : ∀ earlier, slot.cached = some earlier → Reference.IsUpTo earlier reference)
    (origin : (cls.init request).isOk = true ∨ slot.cached = some reference) :
    Recorded cls (calls ++ [request]) after (answered ++ [(request, .ok reference)]) := by
  have allUpTo : ∀ {asked earlier}, (asked, .ok earlier) ∈ answered →
      Reference.IsUpTo earlier reference := by
    intro asked earlier member
    rcases recorded.upToCached member with ⟨latest, isCached, upToLatest⟩
    exact upToLatest.trans (upTo latest isCached)
  constructor
  case allocated =>
    intro asked other member
    rcases mem_concat_iff.mp member with earlier | ⟨rfl, new⟩
    · exact lt_of_lt_of_le (recorded.allocated earlier) grown
    · rwa [Except.ok.inj new]
  case carries =>
    intro asked other member
    rcases mem_concat_iff.mp member with earlier | ⟨rfl, new⟩
    · exact recorded.carries earlier
    · rwa [Except.ok.inj new]
  case cached_returned =>
    intro other isCached
    rw [cached] at isCached
    exact ⟨request, by simp [Option.some.inj isCached]⟩
  case upToCached =>
    intro asked other member
    rcases mem_concat_iff.mp member with earlier | ⟨rfl, new⟩
    · exact ⟨reference, cached, allUpTo earlier⟩
    · exact ⟨reference, cached, Or.inl (Except.ok.inj new)⟩
  case inOrder =>
    refine List.pairwise_append.mpr ⟨recorded.inOrder, List.pairwise_singleton _ _, ?_⟩
    intro first member second isNew earlier later first_eq second_eq
    rw [List.mem_singleton.mp isNew] at second_eq
    rw [← Except.ok.inj second_eq]
    have answeredEarlier : (first.1, .ok earlier) ∈ answered := first_eq ▸ member
    exact allUpTo answeredEarlier
  case lastAccepted =>
    rw [accepted_concat, cached]
    rcases origin with accept | wasCached
    · simp [accept, carries]
    · split
      · simp [carries]
      · rw [recorded.lastAccepted, wasCached]
  case fromAccepted =>
    intro asked other member
    rcases mem_concat_iff.mp member with earlier | ⟨rfl, new⟩
    · rcases recorded.fromAccepted earlier with ⟨first, isAccepted, same⟩
      exact ⟨first, mem_accepted_concat isAccepted request, same⟩
    · rcases origin with accept | wasCached
      · exact ⟨asked, by simp [accepted_concat, accept], rfl⟩
      · rcases recorded.cached_returned wasCached with ⟨before, returned⟩
        rcases recorded.fromAccepted returned with ⟨first, isAccepted, same⟩
        rw [← recorded.carries returned, carries] at same
        exact ⟨first, mem_accepted_concat isAccepted asked, same⟩

/-- A call that raises is recorded. -/
theorem Recorded.raised (recorded : Recorded cls calls slot answered) {e : PyException}
    (init : cls.init request = .error e) :
    Recorded cls (calls ++ [request]) slot (answered ++ [(request, .error e)]) := by
  have sameAccepted : accepted cls (calls ++ [request]) = accepted cls calls := by
    simp [accepted_concat, init, Except.isOk, Except.toBool]
  have onlyEarlier : ∀ {asked : Call} {reference : Reference Object},
      (asked, .ok reference) ∈ answered ++ [(request, .error e)] →
        (asked, .ok reference) ∈ answered := by
    intro asked reference member
    rcases mem_concat_iff.mp member with earlier | ⟨_, new⟩
    · exact earlier
    · contradiction
  constructor
  case allocated => exact fun member => recorded.allocated (onlyEarlier member)
  case carries => exact fun member => recorded.carries (onlyEarlier member)
  case cached_returned =>
    intro reference cached
    rcases recorded.cached_returned cached with ⟨asked, returned⟩
    exact ⟨asked, List.mem_append_left _ returned⟩
  case upToCached => exact fun member => recorded.upToCached (onlyEarlier member)
  case inOrder =>
    refine List.pairwise_append.mpr ⟨recorded.inOrder, List.pairwise_singleton _ _, ?_⟩
    intro first _ second isNew earlier later _ second_eq
    rw [List.mem_singleton.mp isNew] at second_eq
    contradiction
  case lastAccepted => rw [sameAccepted, recorded.lastAccepted]
  case fromAccepted =>
    intro asked reference member
    rw [sameAccepted]
    exact recorded.fromAccepted (onlyEarlier member)

theorem Recorded.concat (recorded : Recorded cls calls slot answered)
    {outcome : Except PyException (Reference Object)} {after : Slot Object}
    (step : CallStep cls slot request outcome after) :
    Recorded cls (calls ++ [request]) after (answered ++ [(request, outcome)]) := by
  cases step with
  | @found reference cached equal =>
      rcases recorded.cached_returned cached with ⟨_, returned⟩
      refine recorded.returned cached equal (le_refl _) (recorded.allocated returned) ?_
        (Or.inr cached)
      intro earlier isCached
      rw [cached] at isCached
      exact Or.inl (Option.some.inj isCached).symm
  | raised init => exact recorded.raised init
  | constructed init other =>
      refine recorded.returned rfl (cls.valueOf_init init) (Nat.le_succ _) (Nat.lt_succ_self _) ?_
        (Or.inl (by simp [init, Except.isOk, Except.toBool]))
      intro earlier isCached
      rcases recorded.cached_returned isCached with ⟨_, returned⟩
      exact Or.inr (recorded.allocated returned)

theorem recorded_answers (cls : ComparableClass Call Object Value) (calls : List Call) :
    Recorded cls calls (slotAfter cls calls) (answers cls calls) := by
  induction calls using List.reverseRecOn with
  | nil => exact recorded_nil
  | append_singleton calls request ih =>
      rw [slotAfter_concat, answers_concat]
      exact ih.concat (callStep_call cls _ request)

/-! ## One instance for each value -/

/-- All calls that request one value and return an instance return the same
instance. -/
def IsOnePerValue (cls : ComparableClass Call Object Value)
    (answers : List (Call × Except PyException (Reference Object))) : Prop :=
  ∀ (first second : Call) (reference other : Reference Object),
    (first, .ok reference) ∈ answers → (second, .ok other) ∈ answers →
    cls.requested first = cls.requested second → reference = other

/-- Among the calls whose constructor would not raise, no other value is
requested between two requests for one value. -/
def IsRequestedTogether (cls : ComparableClass Call Object Value) (calls : List Call) : Prop :=
  ∀ first between last : Call, List.Sublist [first, between, last] (accepted cls calls) →
    cls.requested first = cls.requested last → cls.requested between = cls.requested first

theorem IsRequestedTogether.of_concat
    (together : IsRequestedTogether cls (calls ++ [request])) : IsRequestedTogether cls calls := by
  intro first between last sublist same
  refine together first between last (sublist.trans ?_) same
  rw [accepted_concat]
  split
  · exact List.sublist_append_left _ _
  · exact List.Sublist.refl _

/-- A member other than the last one stands before it. -/
theorem pair_sublist_of_getLast? {α : Type} {items : List α} {first last : α}
    (isLast : items.getLast? = some last) (member : first ∈ items) (different : first ≠ last) :
    List.Sublist [first, last] items := by
  rcases List.getLast?_eq_some_iff.mp isLast with ⟨front, rfl⟩
  have inFront : first ∈ front := by simpa [different] using member
  exact (List.singleton_sublist.mpr inFront).append (List.Sublist.refl [last])

/-- Where values are requested together, a value whose instance is not in the
entry has not been returned yet. -/
theorem Recorded.not_returned (recorded : Recorded cls calls slot answered)
    (together : IsRequestedTogether cls (calls ++ [request]))
    (accept : (cls.init request).isOk = true)
    (other : ∀ reference, slot.cached = some reference →
      cls.valueOf reference.object ≠ cls.requested request)
    {asked : Call} {reference : Reference Object} (member : (asked, .ok reference) ∈ answered) :
    cls.requested asked ≠ cls.requested request := by
  intro same
  rcases recorded.fromAccepted member with ⟨first, isAccepted, first_same⟩
  rcases recorded.upToCached member with ⟨latest, isCached, _⟩
  have lastAccepted := recorded.lastAccepted
  rw [isCached, Option.map_some, Option.map_eq_some_iff] at lastAccepted
  rcases lastAccepted with ⟨between, isLast, between_eq⟩
  have changed : cls.requested between ≠ cls.requested first := by
    rw [between_eq, first_same, same]
    exact other latest isCached
  have pair : List.Sublist [first, between] (accepted cls calls) :=
    pair_sublist_of_getLast? isLast isAccepted (fun equal => changed (equal ▸ rfl))
  have triple : List.Sublist [first, between, request] (accepted cls (calls ++ [request])) := by
    rw [accepted_concat, if_pos accept]
    exact pair.append (List.Sublist.refl [request])
  exact changed (together _ _ _ triple (first_same.trans same))

/-- Where values are requested together, a call returns the instance of the
earlier calls for its value. -/
theorem Recorded.eq_returned (recorded : Recorded cls calls slot answered)
    (onePerValue : IsOnePerValue cls answered)
    (together : IsRequestedTogether cls (calls ++ [request]))
    {new : Reference Object} {after : Slot Object}
    (step : CallStep cls slot request (.ok new) after) {asked : Call} {old : Reference Object}
    (member : (asked, .ok old) ∈ answered) (same : cls.requested asked = cls.requested request) :
    old = new := by
  cases step with
  | found cached equal =>
      rcases recorded.cached_returned cached with ⟨before, returned⟩
      have value_eq := recorded.carries returned
      exact onePerValue _ _ _ _ member returned (same.trans (equal.symm.trans value_eq))
  | constructed init other =>
      have accept : (cls.init request).isOk = true := by
        simp [init, Except.isOk, Except.toBool]
      exact absurd same (recorded.not_returned together accept other member)

theorem isOnePerValue_of_isRequestedTogether (together : IsRequestedTogether cls calls) :
    IsOnePerValue cls (answers cls calls) := by
  induction calls using List.reverseRecOn with
  | nil =>
      intro first second reference other member
      simp at member
  | append_singleton calls request ih =>
      have recorded := recorded_answers cls calls
      have onePerValue := ih together.of_concat
      have step := callStep_call cls (slotAfter cls calls) request
      rw [answers_concat]
      intro first second reference other firstMember secondMember same
      rcases mem_concat_iff.mp firstMember with earlier | ⟨rfl, new⟩
      · rcases mem_concat_iff.mp secondMember with alsoEarlier | ⟨rfl, alsoNew⟩
        · exact onePerValue _ _ _ _ earlier alsoEarlier same
        · rw [← alsoNew] at step
          exact recorded.eq_returned onePerValue together step earlier same
      · rcases mem_concat_iff.mp secondMember with earlier | ⟨rfl, alsoNew⟩
        · rw [← new] at step
          exact (recorded.eq_returned onePerValue together step earlier same.symm).symm
        · exact Except.ok.inj (new.trans alsoNew.symm)

/-- A call whose constructor would not raise returns an instance. -/
theorem exists_returned_of_accepted {request : Call}
    {outcome : Except PyException (Reference Object)}
    (member : (request, outcome) ∈ answers cls calls)
    (accept : (cls.init request).isOk = true) : ∃ reference, outcome = .ok reference := by
  induction calls using List.reverseRecOn with
  | nil => simp at member
  | append_singleton calls last ih =>
      rw [answers_concat] at member
      rcases mem_concat_iff.mp member with earlier | ⟨rfl, new⟩
      · exact ih earlier
      · obtain ⟨after, step⟩ : ∃ after, CallStep cls (slotAfter cls calls) request outcome after :=
          ⟨_, new ▸ callStep_call cls (slotAfter cls calls) request⟩
        cases step with
        | @found reference _ _ => exact ⟨reference, rfl⟩
        | raised init => simp [init, Except.isOk, Except.toBool] at accept
        | constructed init _ => exact ⟨_, rfl⟩

/-- Three calls in a row of a process have their answers in that order. -/
theorem exists_answers_of_sublist {first between last : Call}
    (sublist : List.Sublist [first, between, last] (accepted cls calls)) :
    ∃ earliest middle latest : Reference Object,
      List.Sublist [(first, .ok earliest), (between, .ok middle), (last, .ok latest)]
        (answers cls calls) := by
  have inCalls : List.Sublist [first, between, last] ((answers cls calls).map Prod.fst) := by
    rw [map_fst_answers]
    exact sublist.trans List.filter_sublist
  rcases List.sublist_map_iff.mp inCalls with ⟨triple, inAnswers, triple_eq⟩
  have returned : ∀ request outcome, (request, outcome) ∈ triple →
      ∃ reference, outcome = .ok reference := by
    intro request outcome member
    have isAccepted : request ∈ accepted cls calls :=
      sublist.subset (triple_eq ▸ List.mem_map_of_mem (f := Prod.fst) member)
    exact exists_returned_of_accepted (inAnswers.subset member) (List.mem_filter.mp isAccepted).2
  match triple, triple_eq with
  | [(_, firstOutcome), (_, betweenOutcome), (_, lastOutcome)], rfl =>
      rcases returned first firstOutcome (by simp) with ⟨earliest, rfl⟩
      rcases returned between betweenOutcome (by simp) with ⟨middle, rfl⟩
      rcases returned last lastOutcome (by simp) with ⟨latest, rfl⟩
      exact ⟨earliest, middle, latest, inAnswers⟩

theorem isRequestedTogether_of_isOnePerValue
    (onePerValue : IsOnePerValue cls (answers cls calls)) : IsRequestedTogether cls calls := by
  intro first between last sublist same
  have recorded := recorded_answers cls calls
  rcases exists_answers_of_sublist sublist with ⟨earliest, middle, latest, inAnswers⟩
  have firstMember : (first, .ok earliest) ∈ answers cls calls := inAnswers.subset (by simp)
  have betweenMember : (between, .ok middle) ∈ answers cls calls := inAnswers.subset (by simp)
  have lastMember : (last, .ok latest) ∈ answers cls calls := inAnswers.subset (by simp)
  have returnedAgain := onePerValue _ _ _ _ firstMember lastMember same
  have inOrder := recorded.inOrder.sublist inAnswers
  simp only [List.pairwise_cons, List.mem_cons, List.not_mem_nil, or_false, forall_eq_or_imp,
    forall_eq] at inOrder
  -- An instance that is kept no longer is never returned again.
  have middle_eq : middle = earliest := by
    rcases inOrder.1.1 rfl rfl with same | older
    · exact same.symm
    · rcases inOrder.2.1 rfl rfl with same | newer
      · exact same.trans returnedAgain.symm
      · rw [← returnedAgain] at newer
        exact absurd (older.trans newer) (lt_irrefl _)
  rw [← recorded.carries betweenMember, ← recorded.carries firstMember, middle_eq]

/-- Every value has one instance if and only if no other value is requested
between two requests for it. -/
theorem isOnePerValue_iff (calls : List Call) :
    IsOnePerValue cls (answers cls calls) ↔ IsRequestedTogether cls calls :=
  ⟨isRequestedTogether_of_isOnePerValue, isOnePerValue_of_isRequestedTogether⟩

end SingletonByArgsMeta

end AzureShell
