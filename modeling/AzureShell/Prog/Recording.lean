import AzureShell.Prog.Trace

/-!
# Programs that take notes

A program keeps a list of its own: some of its requests are notes, which nobody
but the program sees.  A recorded program answers them itself and goes on with a
longer list; it never raises, so that the notes outlast an exception.
-/

namespace AzureShell.Prog

variable {S : Signature} {ν α β σ : Type}

/-- What the notes among the requests say, and how they are answered. -/
abbrev Notes (S : Signature) (ν : Type) :=
  (request : S.Request) → Option (ν × S.Answer request)

/-- Run a program to its outcome with the notes it takes. -/
def recording (notes : Notes S ν) : List ν → Prog S α → Prog S (Except S.Error α × List ν)
  | written, .done outcome => .done (.ok (outcome, written))
  | written, .call request next =>
      match notes request with
      | some (note, answer) => recording notes (written ++ [note]) (next (.ok answer))
      | none => .call request fun answer => recording notes written (next answer)
  | written, .acquire lock next => .acquire lock (recording notes written next)
  | written, .release lock next => .release lock (recording notes written next)

/-- The notes among the requests of a run. -/
def noted (notes : Notes S ν) (handler : Handler S σ) (p : Prog S α) (s : σ) : List ν :=
  (requests handler p s).filterMap fun request => (notes request).map Prod.fst

/-- A handler that is handed the notes answers them in the same way, and they leave
it as it is. -/
def TakesNotes (notes : Notes S ν) (handler : Handler S σ) : Prop :=
  ∀ request note answer, notes request = some (note, answer) →
    ∀ s, handler request s = (.ok answer, s)

variable {notes : Notes S ν} {handler : Handler S σ} {p : Prog S α} {s t : σ}

/-! ## Runs -/

/-- A recorded program runs like the program itself. -/
theorem run_recording (takes : TakesNotes notes handler) (written : List ν) (p : Prog S α)
    (s : σ) :
    run handler (recording notes written p) s =
      (.ok ((run handler p s).1, written ++ noted notes handler p s), (run handler p s).2) := by
  induction p generalizing written s with
  | done outcome =>
      rw [noted, requests, List.filterMap_nil, List.append_nil]
      rfl
  | call request next ih =>
      rw [recording, noted, requests, List.filterMap_cons]
      cases isNote : notes request with
      | none => exact ih _ written _
      | some taken =>
          have answered := takes request taken.1 taken.2 isNote s
          rw [run, answered]
          simpa [noted] using ih (.ok taken.2) (written ++ [taken.1]) s
  | acquire lock next ih => exact ih written s
  | release lock next ih => exact ih written s

/-- A recorded program makes the requests that are no notes. -/
theorem requests_recording (takes : TakesNotes notes handler) (written : List ν) (p : Prog S α)
    (s : σ) :
    requests handler (recording notes written p) s =
      (requests handler p s).filter fun request => (notes request).isNone := by
  induction p generalizing written s with
  | done outcome => rfl
  | call request next ih =>
      rw [recording, requests, List.filter_cons]
      cases isNote : notes request with
      | none => exact congrArg (request :: ·) (ih _ written _)
      | some taken =>
          have answered := takes request taken.1 taken.2 isNote s
          rw [answered]
          exact ih (.ok taken.2) (written ++ [taken.1]) s
  | acquire lock next ih => exact ih written s
  | release lock next ih => exact ih written s

/-! ## The notes of a run -/

theorem noted_bind_of_ok {f : α → Prog S β} {a : α} (first : run handler p s = (.ok a, t)) :
    noted notes handler (p >>= f) s = noted notes handler p s ++ noted notes handler (f a) t := by
  rw [noted, requests_bind_of_ok first, List.filterMap_append]
  rfl

/-- A program whose requests are no notes. -/
abbrev Noteless (notes : Notes S ν) (p : Prog S α) : Prop :=
  Within (fun request => notes request = none) p

theorem noted_of_noteless (noteless : Noteless notes p) (s : σ) : noted notes handler p s = [] := by
  rw [noted, List.filterMap_eq_nil_iff]
  intro request member
  rw [noteless.of_mem_requests member]
  rfl

theorem noted_bind_of_noteless {f : α → Prog S β} {a : α} (noteless : Noteless notes p)
    (first : run handler p s = (.ok a, t)) :
    noted notes handler (p >>= f) s = noted notes handler (f a) t := by
  rw [noted_bind_of_ok first, noted_of_noteless noteless, List.nil_append]

/-- What follows takes no notes. -/
theorem noted_bind_of_noteless_rest {f : α → Prog S β} (rest : ∀ a, Noteless notes (f a))
    (s : σ) : noted notes handler (p >>= f) s = noted notes handler p s := by
  cases first : run handler p s with
  | mk outcome t =>
      cases outcome with
      | ok a => rw [noted_bind_of_ok first, noted_of_noteless (rest a), List.append_nil]
      | error e => rw [noted, requests_bind_of_error first, noted]

/-! ## Rules for programs -/

/-- A footprint of the program is one of the recorded program. -/
theorem Within.recording {allowed : S.Request → Prop} (within : Within allowed p)
    (written : List ν) : Within allowed (recording notes written p) := by
  induction p generalizing written with
  | done outcome => trivial
  | call request next ih =>
      rw [Prog.recording]
      cases notes request with
      | none => exact ⟨within.1, fun answer => ih answer (within.2 answer) written⟩
      | some taken => exact ih _ (within.2 _) _
  | acquire lock next ih => exact ih within written
  | release lock next ih => exact ih within written

/-- What follows an exception is not recorded. -/
theorem recording_bind (written : List ν) (p : Prog S α) (f : α → Prog S β) :
    recording notes written (p >>= f) = recording notes written p >>= fun (outcome, later) =>
      match outcome with
      | .ok a => recording notes later (f a)
      | .error e => pure (.error e, later) := by
  change recording notes written (Prog.bind p f) = Prog.bind _ _
  induction p generalizing written with
  | done outcome => cases outcome <;> rfl
  | call request next ih =>
      rw [Prog.bind, recording, recording]
      cases notes request with
      | none => exact congrArg (Prog.call request) (funext fun answer => ih answer written)
      | some taken => exact ih _ _
  | acquire lock next ih => exact congrArg (Prog.acquire lock) (ih written)
  | release lock next ih => exact congrArg (Prog.release lock) (ih written)

/-- A program without notes ends with the notes it started with. -/
theorem recording_of_noteless (noteless : Noteless notes p) (written : List ν) :
    recording notes written p =
      (p >>= fun a => pure (.ok a, written)).catching fun e => pure (.error e, written) := by
  change _ = (Prog.bind p _).catching _
  induction p with
  | done outcome => cases outcome <;> rfl
  | call request next ih =>
      rw [recording, noteless.1]
      exact congrArg (Prog.call request) (funext fun answer => ih answer (noteless.2 answer))
  | acquire lock next ih => exact congrArg (Prog.acquire lock) (ih noteless)
  | release lock next ih => exact congrArg (Prog.release lock) (ih noteless)

end AzureShell.Prog
