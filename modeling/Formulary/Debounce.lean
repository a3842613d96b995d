import Formulary.Notice

/-!
# Debounced saving

Rapid edits gathered into one save: an edit waits for a while, a later edit or a
cancellation takes its place, and only one that is left alone until its save is
complete is saved.  A save may be slow, and may fail, which is noticed and holds
up nothing.

The saver keeps the task of the last edit, also when it is over.  A task waits,
then saves, and can be cancelled in both phases.  Time is counted exactly, in
milliseconds and parts of them, and shown in whole milliseconds.

Main statements: `isPending_flush` and `isPending_cancel`, by which no task is
left after either step.
-/

namespace Formulary

/-- A value to be saved, and how its save will go. -/
structure Edit where
  value : Value
  /-- How long the save takes. -/
  slow : Rat
  /-- Why the save fails, if it does. -/
  failure? : Option Text
deriving DecidableEq

/-- How far a task has come. -/
inductive SavePhase where
  /-- The delay is not over: the save starts at an instant. -/
  | waiting (wake : Rat)
  /-- The save has started and will be complete at an instant. -/
  | saving (finish : Rat)
  /-- The save is complete, has failed or was cancelled. -/
  | over
deriving DecidableEq

/-- An edit that has been submitted, and how far its save has come. -/
structure SaveTask where
  edit : Edit
  phase : SavePhase
deriving DecidableEq

/-- A saver: the time, the task of the last edit, and what has been saved. -/
structure Debouncer where
  delay : Rat
  now : Rat
  task : Option SaveTask
  saved : List Value
  notices : List Notice
deriving DecidableEq

/-- What a client does with a saver. -/
inductive DebounceStep where
  | submit (edit : Edit)
  | cancel
  /-- Wait until the pending edit is saved. -/
  | flush
  | sleep (ms : Rat)
deriving DecidableEq

/-- The later of two instants, or the longer of two durations. -/
def later (a b : Rat) : Rat := if a ≤ b then b else a

namespace SaveTask

/-- When the save will be complete if nothing comes between. -/
def finish? (task : SaveTask) : Option Rat :=
  match task.phase with
  | .waiting wake => some (wake + later task.edit.slow 0)
  | .saving finish => some finish
  | .over => none

/-- The task after its delay: the save has started if it was to start by an
instant. -/
def started (task : SaveTask) (instant : Rat) : SaveTask :=
  match task.phase with
  | .waiting wake =>
    if wake ≤ instant then { task with phase := .saving (wake + later task.edit.slow 0) } else task
  | _ => task

end SaveTask

namespace Debouncer

/-- The delay of a saver, if nothing else is asked for. -/
def defaultDelay : Rat := 1000

/-- A saver at the start. -/
def start (delay : Rat) : Debouncer := ⟨delay, 0, none, [], []⟩

/-- The edit that waits or is being saved, and when its save will be complete. -/
def pending? (d : Debouncer) : Option (Edit × Rat) :=
  d.task.bind fun task => task.finish?.map fun finish => (task.edit, finish)

/-- An edit waits or is being saved. -/
def isPending (d : Debouncer) : Bool := d.pending?.isSome

/-- The time in whole milliseconds, a half rounded to the even neighbour. -/
def shownTime (d : Debouncer) : Nat := Binary64.roundQuotient d.now.num.toNat d.now.den

/-- The saver after the save of an edit. -/
def complete (d : Debouncer) (edit : Edit) : Debouncer :=
  let d := { d with task := some ⟨edit, .over⟩ }
  match edit.failure? with
  | some reason => { d with notices := d.notices ++ [.saveFailed reason] }
  | none => { d with saved := d.saved ++ [edit.value] }

/-- The saver at a later instant, with all done that is due by then: a task whose
delay is over starts its save, and a save whose time is over is complete. -/
def advanceTo (d : Debouncer) (instant : Rat) : Debouncer :=
  let d := { d with now := instant }
  match d.task with
  | none => d
  | some task =>
    let task := task.started instant
    match task.phase with
    | .saving finish =>
      if finish ≤ instant then d.complete task.edit else { d with task := some task }
    | _ => { d with task := some task }

/-- The saver without a pending edit. -/
def cancelled (d : Debouncer) : Debouncer :=
  { d with task := d.task.map fun task => { task with phase := .over } }

/-- The saver after one step. -/
def step (d : Debouncer) : DebounceStep → Debouncer
  | .submit edit =>
    { d.cancelled with
      task := some ⟨edit, .waiting (d.now + later d.delay 0)⟩ }.advanceTo d.now
  | .cancel => d.cancelled
  | .flush =>
    match d.pending? with
    | some (_, finish) => d.advanceTo (later d.now finish)
    | none => d
  | .sleep ms => d.advanceTo (d.now + later ms 0)

/-- The states of the saver after each of the steps. -/
def states (d : Debouncer) : List DebounceStep → List Debouncer
  | [] => []
  | step :: steps => (d.step step) :: (d.step step).states steps

/-- The saver after all of the steps. -/
def run (d : Debouncer) (steps : List DebounceStep) : Debouncer := steps.foldl step d

/-! ## Pending edits -/

theorem le_later (a b : Rat) : a ≤ later a b ∧ b ≤ later a b := by
  unfold later
  grind

@[simp] theorem pending?_complete (d : Debouncer) (edit : Edit) :
    (d.complete edit).pending? = none := by
  unfold complete
  dsimp only
  split <;> rfl

@[simp] theorem pending?_cancelled (d : Debouncer) : d.cancelled.pending? = none := by
  unfold cancelled pending?
  cases d.task <;> rfl

/-- An edit whose save is to be complete by an instant is saved then. -/
theorem advanceTo_of_finish_le {d : Debouncer} {edit : Edit} {finish instant : Rat}
    (h : d.pending? = some (edit, finish)) (hle : finish ≤ instant) :
    d.advanceTo instant = { d with now := instant }.complete edit := by
  obtain ⟨delay, now, task, saved, notices⟩ := d
  match task with
  | none => cases h
  | some ⟨_, .over⟩ => cases h
  | some ⟨_, .saving _⟩ =>
    cases h
    simp [advanceTo, SaveTask.started, hle, complete]
  | some ⟨edit, .waiting wake⟩ =>
    cases h
    -- The delay is over before the save is.
    have hwake : wake ≤ instant := by
      have := (le_later edit.slow 0).2
      grind
    simp [advanceTo, SaveTask.started, hle, hwake, complete]

/-- An edit whose save takes longer is still pending, and nothing else happens. -/
theorem advanceTo_of_lt_finish {d : Debouncer} {edit : Edit} {finish instant : Rat}
    (h : d.pending? = some (edit, finish)) (hlt : instant < finish) :
    (d.advanceTo instant).pending? = some (edit, finish)
      ∧ ∃ task, d.advanceTo instant = { d with now := instant, task := task } := by
  obtain ⟨delay, now, task, saved, notices⟩ := d
  have hnot : ¬ finish ≤ instant := by grind
  match task with
  | none => cases h
  | some ⟨_, .over⟩ => cases h
  | some ⟨_, .saving _⟩ =>
    cases h
    simp [advanceTo, SaveTask.started, hnot, pending?, SaveTask.finish?]
  | some ⟨edit, .waiting wake⟩ =>
    cases h
    by_cases hwake : wake ≤ instant
    · simp [advanceTo, SaveTask.started, hwake, hnot, pending?, SaveTask.finish?]
    · simp [advanceTo, SaveTask.started, hwake, pending?, SaveTask.finish?]

/-- Without a pending edit time goes by. -/
theorem advanceTo_of_not_pending {d : Debouncer} (h : d.pending? = none) (instant : Rat) :
    d.advanceTo instant = { d with now := instant } := by
  obtain ⟨delay, now, task, saved, notices⟩ := d
  match task with
  | none => rfl
  | some ⟨_, .over⟩ => rfl
  | some ⟨_, .saving _⟩ => cases h
  | some ⟨_, .waiting _⟩ => cases h

theorem isPending_cancel (d : Debouncer) : (d.step .cancel).isPending = false := by
  simp [step, isPending]

theorem isPending_flush (d : Debouncer) : (d.step .flush).isPending = false := by
  unfold isPending step
  dsimp only
  cases h : d.pending? with
  | none => simp [h]
  | some p =>
    obtain ⟨edit, finish⟩ := p
    dsimp only
    rw [advanceTo_of_finish_le h (le_later d.now finish).2]
    simp

end Debouncer

end Formulary
