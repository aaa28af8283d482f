import AzureShell.Storage.SingleFlight

/-!
# The results of finished copies

A copy is recorded in two writes, first the state and then the result.  A thread
that reads the result of an entry between the two gets `None`; where no thread
does, every call returns a URL that a copy of the blob has returned.
-/

namespace AzureShell.StorageService

open Conc

variable {ι : Type}

/-- The key whose result a thread has still to write: it stands between the write
of the state and the write of the result. -/
def Pc.writes : Pc → Option CopiedBlobKey
  | lookup key (.store _) => some key
  | use key _ (.store _) => some key
  | _ => none

/-- The URL a thread has got from `_copy_blob` and not written yet. -/
def Pc.carried : Pc → Option (CopiedBlobKey × Text)
  | acquire key (.succeed url) => some (key, url)
  | lookup key (.succeed url) => some (key, url)
  | lookup key (.store url) => some (key, url)
  | use key _ (.succeed url) => some (key, url)
  | use key _ (.store url) => some (key, url)
  | _ => none

/-- The thread does not read a result that is about to be written. -/
def ReadsSettled (pool : Pool ι (Shared ι) Pc) (i : ι) : Prop :=
  ∀ key ref, pool.pc i = .use key ref .result → ∀ j, (pool.pc j).writes ≠ some key

/-- Some copy of the blob returned the result. -/
def IsCopied (s : Shared ι) (key : CopiedBlobKey) (result : Option Text) : Prop :=
  ∃ url ∈ s.copied key, result = some url

/-- Who is about to write which result. -/
abbrev Writers (ι : Type) :=
  CopiedBlobKey → Option ι

/-- The result of a successful entry was copied, unless it is about to be
written. -/
def ResultsWritten (writer : Writers ι) (s : Shared ι) : Prop :=
  ∀ key ref, s.cache.latest key = some ref → (s.cache.entry key ref).state = .success →
    writer key = none → IsCopied s key (s.cache.entry key ref).result

structure Carries (writer : Writers ι) (s : Shared ι) (i : ι) (pc : Pc) : Prop where
  writes : ∀ key, pc.writes = some key ↔ writer key = some i
  carried : ∀ key url, pc.carried = some (key, url) → url ∈ s.copied key
  returned : ∀ key result, pc = .returned key result → IsCopied s key result

variable {writer next : Writers ι} {s after : Shared ι} {i j : ι} {pc pc' : Pc}

theorem IsCopied.grows {key : CopiedBlobKey} {result : Option Text} (isCopied : IsCopied s key result)
    (grows : ∀ key, s.copied key ⊆ after.copied key) : IsCopied after key result := by
  rcases isCopied with ⟨url, member, same⟩
  exact ⟨url, grows key member, same⟩

/-- What a thread keeps while another one moves. -/
theorem Carries.grows (carries : Carries writer s j pc)
    (grows : ∀ key, s.copied key ⊆ after.copied key)
    (ours : ∀ key, writer key = some j ↔ next key = some j) : Carries next after j pc := by
  constructor
  · intro key
    exact (carries.writes key).trans (ours key)
  · intro key url isCarried
    exact grows key (carries.carried key url isCarried)
  · intro key result isReturned
    exact (carries.returned key result isReturned).grows grows

/-- A move into a position that carries nothing new. -/
theorem Carries.quiet (carries : Carries writer s i pc) (sameCopied : after.copied = s.copied)
    (writes : pc'.writes = pc.writes) (carried : pc'.carried = pc.carried ∨ pc'.carried = none)
    (notReturned : ∀ key result, pc' ≠ .returned key result) : Carries writer after i pc' := by
  constructor
  · rw [writes]
    exact carries.writes
  · intro key url isCarried
    rw [sameCopied]
    rcases carried with same | nothing
    · rw [same] at isCarried
      exact carries.carried key url isCarried
    · rw [nothing] at isCarried
      cases isCarried
  · intro key result isReturned
    exact absurd isReturned (notReturned key result)

/-- Results stay written where the entries and the writers stay. -/
theorem ResultsWritten.of_except {key : CopiedBlobKey} (written : ResultsWritten writer s)
    (sameCopied : after.copied = s.copied)
    (sameLatest : ∀ other, other ≠ key → after.cache.latest other = s.cache.latest other)
    (sameEntry : ∀ other, other ≠ key → after.cache.entry other = s.cache.entry other)
    (sameWriter : ∀ other, other ≠ key → next other = writer other)
    (here : ∀ ref, after.cache.latest key = some ref →
      (after.cache.entry key ref).state = .success → next key = none →
      IsCopied after key (after.cache.entry key ref).result) : ResultsWritten next after := by
  intro other ref found success unwritten
  by_cases same : other = key
  · subst same
    exact here ref found success unwritten
  · rw [sameLatest other same] at found
    rw [sameEntry other same] at success ⊢
    rw [sameWriter other same] at unwritten
    apply (written other ref found success unwritten).grows
    intro anyKey
    rw [sameCopied]
    exact List.Subset.refl _

/-- What a settled move of thread `i` establishes. -/
def Records (writer : Writers ι) (s after : Shared ι) (i : ι) (pc : Pc) : Prop :=
  ∃ next, ResultsWritten next after ∧ Carries next after i pc ∧
    (∀ key, s.copied key ⊆ after.copied key) ∧
    ∀ j, j ≠ i → ∀ key, writer key = some j ↔ next key = some j

theorem records_quiet (written : ResultsWritten writer s) (carries : Carries writer s i pc)
    (sameCache : after.cache = s.cache) (sameCopied : after.copied = s.copied)
    (writes : pc'.writes = pc.writes) (carried : pc'.carried = pc.carried ∨ pc'.carried = none)
    (notReturned : ∀ key result, pc' ≠ .returned key result) : Records writer s after i pc' := by
  have grows : ∀ key, s.copied key ⊆ after.copied key := by
    intro key
    rw [sameCopied]
    exact List.Subset.refl _
  refine ⟨writer, ?_, ?_, grows, fun _ _ _ => Iff.rfl⟩
  · intro key ref found success unwritten
    rw [sameCache] at found success ⊢
    exact (written key ref found success unwritten).grows grows
  · exact carries.quiet sameCopied writes carried notReturned

theorem records_claim {key : CopiedBlobKey} (written : ResultsWritten writer s)
    (carries : Carries writer s i (.claim key)) :
    Records writer s { s with cache := s.cache.claim key } i (.release key .copy) := by
  refine ⟨writer, ?_, carries.quiet rfl rfl (Or.inl rfl) (by simp), fun _ => List.Subset.refl _,
    fun _ _ _ => Iff.rfl⟩
  refine written.of_except rfl (fun _ different => Cache.latest_claim_of_ne different)
    (fun _ different => Cache.entry_claim_of_ne different) (fun _ _ => rfl) ?_
  intro ref found success
  rw [Cache.latest_claim_self] at found
  cases found
  rw [Cache.entry_claim_self] at success
  cases success

theorem records_copyReturns {key : CopiedBlobKey} (url : Text) (written : ResultsWritten writer s)
    (carries : Carries writer s i (.copyBlob key)) :
    Records writer s { s with copied := Function.update s.copied key (url :: s.copied key) } i
      (.acquire key (.succeed url)) := by
  have grows : ∀ other, s.copied other ⊆
      Function.update s.copied key (url :: s.copied key) other := by
    intro other
    by_cases same : other = key
    · subst same
      rw [Function.update_self]
      exact List.subset_cons_self _ _
    · rw [Function.update_of_ne same]
      exact List.Subset.refl _
  refine ⟨writer, ?_, ⟨carries.writes, ?_, by simp⟩, grows, fun _ _ _ => Iff.rfl⟩
  · intro other ref found success isNone
    exact (written other ref found success isNone).grows grows
  · intro other otherUrl isCarried
    cases isCarried
    simp

theorem records_writeFailed {key : CopiedBlobKey} {ref : Nat}
    (isLatest : s.cache.latest key = some ref) (written : ResultsWritten writer s)
    (carries : Carries writer s i (.use key ref .fail)) :
    Records writer s { s with cache := s.cache.setState key ref .failed } i
      (.release key .raise) := by
  refine ⟨writer, ?_, carries.quiet rfl rfl (Or.inl rfl) (by simp), fun _ => List.Subset.refl _,
    fun _ _ _ => Iff.rfl⟩
  refine written.of_except rfl (fun _ _ => rfl)
    (fun _ different => Cache.entry_setState_of_ne different) (fun _ _ => rfl) ?_
  intro other found success
  have same : ref = other := Option.some.inj (isLatest.symm.trans found)
  subst same
  rw [Cache.setState, Cache.entry_modify_self] at success
  cases success

/-- For the other threads nothing changes when thread `i` begins or ends to write
a result. -/
theorem writers_update {key : CopiedBlobKey} {holder : Option ι}
    (mine : writer key = none ∨ writer key = some i) (mineAfter : holder = none ∨ holder = some i) :
    ∀ j, j ≠ i → ∀ other,
      writer other = some j ↔ Function.update writer key holder other = some j := by
  intro j different other
  by_cases same : other = key
  · subst same
    rw [Function.update_self]
    have notOurs : ∀ holder : Option ι, (holder = none ∨ holder = some i) → holder ≠ some j := by
      rintro holder (rfl | rfl) ours
      · cases ours
      · exact different (Option.some.inj ours).symm
    exact iff_of_false (notOurs _ mine) (notOurs _ mineAfter)
  · rw [Function.update_of_ne same]

/-- A thread that begins or ends to write a result is noted for its key. -/
theorem Carries.writes_update {key : CopiedBlobKey} {holder : Option ι}
    (carries : Carries writer s i pc) (here : pc'.writes = some key ↔ holder = some i)
    (elsewhere : ∀ other, other ≠ key → (pc'.writes = some other ↔ pc.writes = some other)) :
    ∀ other, pc'.writes = some other ↔ Function.update writer key holder other = some i := by
  intro other
  by_cases same : other = key
  · subst same
    rw [Function.update_self]
    exact here
  · rw [Function.update_of_ne same, ← carries.writes other]
    exact elsewhere other same

theorem records_writeSuccess {key : CopiedBlobKey} {ref : Nat} {url : Text}
    (free : writer key = none) (written : ResultsWritten writer s)
    (carries : Carries writer s i (.use key ref (.succeed url))) :
    Records writer s { s with cache := s.cache.setState key ref .success } i
      (.lookup key (.store url)) := by
  refine ⟨Function.update writer key (some i), ?_, ⟨?_, carries.carried, by simp⟩,
    fun _ => List.Subset.refl _, writers_update (Or.inl free) (Or.inr rfl)⟩
  · refine written.of_except rfl (fun _ _ => rfl)
      (fun _ different => Cache.entry_setState_of_ne different)
      (fun _ different => Function.update_of_ne different _ _) ?_
    intro _ _ _ isNone
    rw [Function.update_self] at isNone
    cases isNone
  · exact carries.writes_update (by simp [Pc.writes])
      (fun other different => by simp [Pc.writes, different.symm])

theorem records_writeResult {key : CopiedBlobKey} {ref : Nat} {url : Text}
    (isLatest : s.cache.latest key = some ref) (written : ResultsWritten writer s)
    (carries : Carries writer s i (.use key ref (.store url))) :
    Records writer s { s with cache := s.cache.setResult key ref url } i
      (.release key .result) := by
  have mine : writer key = some i := (carries.writes key).mp rfl
  refine ⟨Function.update writer key none, ?_, ⟨?_, by simp [Pc.carried], by simp⟩,
    fun _ => List.Subset.refl _, writers_update (Or.inr mine) (Or.inl rfl)⟩
  · refine written.of_except rfl (fun _ _ => rfl)
      (fun _ different => Cache.entry_setResult_of_ne different)
      (fun _ different => Function.update_of_ne different _ _) ?_
    intro other found _ _
    have same : ref = other := Option.some.inj (isLatest.symm.trans found)
    subst same
    rw [Cache.setResult, Cache.entry_modify_self]
    exact ⟨url, carries.carried key url rfl, rfl⟩
  · exact carries.writes_update (by simp [Pc.writes])
      (fun other different => by simp [Pc.writes, different.symm])

/-- One lemma for every settled move of a thread in an orderly pool. -/
theorem CopyBlob.records (move : CopyBlob i s pc after pc')
    {owner : Owners ι} (claimed : Claimed owner s) (own : Own owner s i pc)
    (written : ResultsWritten writer s) (carries : Carries writer s i pc)
    (settled : ∀ key ref, pc = .use key ref .result → writer key = none)
    (unwritten : ∀ key, s.cache.stateOf key = some .copying → writer key = none) :
    Records writer s after i pc' := by
  have knows := own.knows
  have quiet : ∀ pc' : Pc, pc'.writes = pc.writes →
      pc'.carried = pc.carried ∨ pc'.carried = none →
      (∀ key result, pc' ≠ .returned key result) → Records writer s s i pc' :=
    fun _ => records_quiet written carries rfl rfl
  cases move with
  | found found =>
      rename_i key purpose ref
      cases purpose with
      | _ => exact quiet _ rfl (Or.inl rfl) (by simp)
  | missing absent =>
      rename_i key purpose
      cases purpose with
      | store url =>
          rw [Pc.Knows, Cache.stateOf_eq_none_iff.mpr absent] at knows
          cases knows
      | _ => exact quiet _ rfl (Or.inr rfl) (by simp [Purpose.isLocked])
  | acquire free =>
      rename_i key intent
      cases intent with
      | _ => exact records_quiet written carries rfl rfl rfl (Or.inl rfl) (by simp [Intent.locked])
  | claim key => exact records_claim written carries
  | release held =>
      rename_i key next
      cases next with
      | _ => exact records_quiet written carries rfl rfl rfl (Or.inl rfl) (by simp [After.unlocked])
  | copyReturns key url => exact records_copyReturns url written carries
  | writeFailed key ref => exact records_writeFailed knows written carries
  | writeSuccess key ref url =>
      have isCopying : s.cache.stateOf key = some .copying :=
        (claimed.copying key).mpr (by simp [(own.copies key).mp rfl])
      exact records_writeSuccess (unwritten key isCopying) written carries
  | writeResult key ref url => exact records_writeResult knows.1 written carries
  | readResult key ref =>
      have isCopied := written key ref knows.1 knows.2 (settled key ref rfl)
      refine ⟨writer, written, ⟨carries.writes, by simp [Pc.carried], ?_⟩,
        fun _ => List.Subset.refl _, fun _ _ _ => Iff.rfl⟩
      intro other result isReturned
      cases isReturned
      exact isCopied
  | _ => exact quiet _ rfl (Or.inl rfl) (by simp)

/-! ## Settled runs -/

variable [DecidableEq ι]

/-- Every successful entry has its result or a thread that writes it. -/
def Settled (pool : Pool ι (Shared ι) Pc) : Prop :=
  Pool.Explained ResultsWritten Carries pool

omit [DecidableEq ι] in
theorem settled_initial : Settled (initial ι) := by
  refine ⟨fun _ => none, ?_, ?_⟩
  · intro key ref found
    cases found
  · intro i
    exact ⟨by simp [initial, Pc.writes], by simp [initial, Pc.carried], by simp [initial]⟩

theorem Settled.moves {pool next : Pool ι (Shared ι) Pc} (settled : Settled pool)
    (orderly : Orderly pool) (readsSettled : ReadsSettled pool i)
    (moves : Pool.Moves CopyBlob i pool next) : Settled next := by
  rcases orderly with ⟨owner, claimed, owns⟩
  apply Pool.Explained.moves settled moves
  intro writer shared pc written carries move
  have noReader : ∀ key ref, pool.pc i = .use key ref .result → writer key = none := by
    intro key ref reading
    by_contra isSome
    rcases Option.ne_none_iff_exists'.mp isSome with ⟨j, isWriter⟩
    exact readsSettled key ref reading j (((carries j).writes key).mpr isWriter)
  have unwritten : ∀ key, pool.shared.cache.stateOf key = some .copying → writer key = none := by
    intro key copying
    by_contra isSome
    rcases Option.ne_none_iff_exists'.mp isSome with ⟨j, isWriter⟩
    have writes := ((carries j).writes key).mpr isWriter
    have success : pool.shared.cache.stateOf key = some .success := by
      have knows := (owns j).knows
      generalize pool.pc j = position at writes knows
      unfold Pc.writes at writes
      split at writes
      · cases writes
        exact knows
      · cases writes
        exact Cache.stateOf_eq_some_iff.mpr ⟨_, knows⟩
      · cases writes
    rw [success] at copying
    cases copying
  obtain ⟨nextWriter, nextWritten, self, grows, others⟩ :=
    move.records claimed (owns i) written (carries i) noReader unwritten
  exact ⟨nextWriter, nextWritten, self, fun j other => (carries j).grows grows (others j other)⟩

/-- In a run in which no thread reads a result between the two writes that
record a copy, every call that returns returns the URL of a copy. -/
theorem returned_is_copied {pool : Pool ι (Shared ι) Pc}
    (reaches : Pool.Reaches CopyBlob ReadsSettled (initial ι) pool) (i : ι) (key : CopiedBlobKey)
    (result : Option Text) (returned : pool.pc i = .returned key result) :
    ∃ url ∈ pool.shared.copied key, result = some url := by
  have invariant : Orderly pool ∧ Settled pool := by
    apply Pool.Reaches.preserves _ reaches ⟨orderly_initial, settled_initial⟩
    rintro j before next readsSettled moves ⟨orderly, settled⟩
    exact ⟨(orderly.moves moves).1, settled.moves orderly readsSettled moves⟩
  rcases invariant.2 with ⟨writer, written, carries⟩
  exact (carries i).returned key result returned

/-- A thread alone never reads while another one writes. -/
theorem readsSettled_alone (pool : Pool Unit (Shared Unit) Pc) (i : Unit) :
    ReadsSettled pool i := by
  intro key ref reading j writes
  rw [show pool.pc j = _ from reading] at writes
  cases writes

/-- A call that copies the blob itself returns its URL. -/
theorem returned_is_copied_example : ∃ pool : Pool Unit (Shared Unit) Pc,
    pool.pc () = .returned imageKey (some imageUrl) ∧
      ∃ url ∈ pool.shared.copied imageKey, some imageUrl = some url := by
  have start : Pool.Reaches CopyBlob ReadsSettled (initial Unit) (initial Unit) := .refl
  have called := start.move () (readsSettled_alone _ _) (.call _ imageKey)
  have absent := called.move () (readsSettled_alone _ _) (.absent rfl)
  have locked := absent.move () (readsSettled_alone _ _) (.acquire rfl)
  have got := locked.move () (readsSettled_alone _ _) (.getNone rfl)
  have claimed := got.move () (readsSettled_alone _ _) (.claim _ imageKey)
  have released := claimed.move () (readsSettled_alone _ _) (.release rfl)
  have copied := released.move () (readsSettled_alone _ _) (.copyReturns _ imageKey imageUrl)
  have relocked := copied.move () (readsSettled_alone _ _) (.acquire rfl)
  have found := relocked.move () (readsSettled_alone _ _) (.found rfl)
  have recorded := found.move () (readsSettled_alone _ _) (.writeSuccess _ imageKey 0 imageUrl)
  have foundAgain := recorded.move () (readsSettled_alone _ _) (.found rfl)
  have stored := foundAgain.move () (readsSettled_alone _ _) (.writeResult _ imageKey 0 imageUrl)
  have freed := stored.move () (readsSettled_alone _ _) (.release rfl)
  have lookedUp := freed.move () (readsSettled_alone _ _) (.found rfl)
  have returned := lookedUp.move () (readsSettled_alone _ _) (.readResult _ imageKey 0)
  exact ⟨_, rfl, returned_is_copied returned () imageKey (some imageUrl) rfl⟩

/-- A thread that asks between the two writes is answered with `None`. -/
theorem reader_returns_none : ¬ ∀ pool : Pool Bool (Shared Bool) Pc, Reachable pool →
    ∀ i key result, pool.pc i = .returned key result →
      ∃ url ∈ pool.shared.copied key, result = some url := by
  intro returnsUrl
  have start : Reachable (initial Bool) := .refl
  have called := Pool.Reaches.move start true trivial (.call _ imageKey)
  have absent := called.move true trivial (.absent rfl)
  have locked := absent.move true trivial (.acquire rfl)
  have got := locked.move true trivial (.getNone rfl)
  have claimed := got.move true trivial (.claim _ imageKey)
  have released := claimed.move true trivial (.release rfl)
  have copied := released.move true trivial (.copyReturns _ imageKey imageUrl)
  have relocked := copied.move true trivial (.acquire rfl)
  have found := relocked.move true trivial (.found rfl)
  have recorded := found.move true trivial (.writeSuccess _ imageKey 0 imageUrl)
  -- the reader takes the fast path before the result is written
  have reader := recorded.move false trivial (.call _ imageKey)
  have present := reader.move false trivial (.present (by decide))
  have entry := present.move false trivial (.found rfl)
  have finished := entry.move false trivial (.finished rfl)
  have lookedUp := finished.move false trivial (.found rfl)
  have returned := lookedUp.move false trivial (.readResult _ imageKey 0)
  rcases returnsUrl _ returned false imageKey none rfl with ⟨url, _, isUrl⟩
  cases isUrl

end AzureShell.StorageService
