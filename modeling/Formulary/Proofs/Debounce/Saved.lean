import Formulary.Proofs.Debounce.Timeline

/-!
# What is saved in the end

A saver and the timeline of its steps agree.  `Describes` says in what they agree.

* One step.  `advanceTo_eq` says what a saver does while time goes by, and
  `Describes.step` what it does at a step.
* All steps.  `describes_run` is the induction.  `saves_what_lasts` puts together what it
  says of a saver: which edits are saved, what is given notice of, and what is pending.
-/

namespace Formulary

theorem later_eq_max (a b : Rat) : later a b = max a b := (max_def a b).symm

namespace Debouncer

/-- The edit whose save is complete by an instant. -/
def done? (d : Debouncer) (instant : Rat) : Option Edit :=
  (d.pending?.filter fun p => p.2 ≤ instant).map Prod.fst

/-- What the save of an edit leaves. -/
theorem complete_eq (d : Debouncer) (edit : Edit) :
    (d.complete edit).delay = d.delay ∧ (d.complete edit).now = d.now
      ∧ (d.complete edit).saved = d.saved ++ [edit].filterMap Edit.stored?
      ∧ (d.complete edit).notices = d.notices ++ [edit].filterMap Edit.notice? := by
  unfold complete
  cases h : edit.failure? <;> simp [Edit.stored?, Edit.notice?, h]

/-- While time goes by, the pending edit is saved if its save is complete by then, and is
pending still if not. -/
theorem advanceTo_eq (d : Debouncer) (instant : Rat) :
    (d.advanceTo instant).delay = d.delay ∧ (d.advanceTo instant).now = instant
      ∧ (d.advanceTo instant).saved = d.saved ++ (d.done? instant).toList.filterMap Edit.stored?
      ∧ (d.advanceTo instant).notices
        = d.notices ++ (d.done? instant).toList.filterMap Edit.notice?
      ∧ (d.advanceTo instant).pending? = d.pending?.filter fun p => instant < p.2 := by
  unfold done?
  cases h : d.pending? with
  | none =>
    rw [advanceTo_of_not_pending h]
    exact ⟨rfl, rfl, (List.append_nil _).symm, (List.append_nil _).symm, h⟩
  | some p =>
    obtain ⟨edit, finish⟩ := p
    by_cases hle : finish ≤ instant
    · rw [advanceTo_of_finish_le h hle, Option.filter_some, Option.filter_some,
        if_pos (decide_eq_true hle), if_neg (by simpa using hle), pending?_complete]
      obtain ⟨hdelay, hnow, hsaved, hnotices⟩ := complete_eq { d with now := instant } edit
      exact ⟨hdelay, hnow, hsaved, hnotices, rfl⟩
    · have hlt := not_le.1 hle
      obtain ⟨hpending, task, htask⟩ := advanceTo_of_lt_finish h hlt
      rw [hpending, htask, Option.filter_some, Option.filter_some,
        if_neg (by simpa using hlt), if_pos (decide_eq_true hlt)]
      exact ⟨rfl, rfl, (List.append_nil _).symm, (List.append_nil _).symm, rfl⟩

/-- A saver does what its timeline says. -/
structure Describes (delay : Rat) (tl : Timeline) (d : Debouncer) : Prop where
  delay_eq : d.delay = delay
  now_eq : d.now = tl.now
  elapsed : tl.Elapsed
  saved : d.saved = (tl.lasting delay).filterMap Edit.stored?
  notices : d.notices = (tl.lasting delay).filterMap Edit.notice?
  pending : d.pending? = tl.outstanding? delay

namespace Describes

variable {delay : Rat} {tl : Timeline} {d : Debouncer}

theorem start (delay : Rat) : Describes delay ⟨[], 0⟩ (start delay) where
  delay_eq := rfl
  now_eq := rfl
  elapsed _ hm := absurd hm List.not_mem_nil
  saved := rfl
  notices := rfl
  pending := rfl

/-- Time goes by. -/
theorem advanceTo (h : Describes delay tl d) {instant : Rat} (hle : tl.now ≤ instant) :
    Describes delay { tl with now := instant } (d.advanceTo instant) := by
  obtain ⟨hdelay, hnow, hsaved, hnotices, hpending⟩ := advanceTo_eq d instant
  have hlasting : Timeline.lasting delay { tl with now := instant }
      = tl.lasting delay ++ (d.done? instant).toList := by
    rw [done?, h.pending]
    exact Timeline.lasting_of_le h.elapsed delay hle
  constructor
  · rw [hdelay, h.delay_eq]
  · exact hnow
  · exact fun m hm => le_trans (h.elapsed m hm) hle
  · rw [hsaved, hlasting, List.filterMap_append, h.saved]
  · rw [hnotices, hlasting, List.filterMap_append, h.notices]
  · rw [hpending, h.pending, Timeline.outstanding?, Timeline.outstanding?, Option.filter_filter]
    congr 1
    funext p
    rw [Bool.eq_iff_iff]
    simp only [Bool.and_eq_true, decide_eq_true_eq]
    exact and_iff_right_of_imp fun hlt => lt_of_le_of_lt hle hlt

/-- Nothing is submitted or cancelled. -/
theorem note (h : Describes delay tl d) {step : DebounceStep} (hstep : step.interrupts = false) :
    Describes delay (tl.note step) d := by
  have hlasting : (tl.note step).lasting delay = tl.lasting delay := by
    rw [Timeline.lasting_note]
    cases step with
    | submit _ | cancel => cases hstep
    | flush | sleep _ => exact List.append_nil _
  constructor
  · exact h.delay_eq
  · exact h.now_eq
  · exact h.elapsed.note step
  · rw [hlasting, h.saved]
  · rw [hlasting, h.notices]
  · rw [h.pending, Timeline.outstanding?_note, hstep]
    rfl

/-- An edit takes the place of the last one, and may be complete at once. -/
theorem submit (h : Describes delay tl d) (edit : Edit) :
    Describes delay (tl.note (.submit edit)) (d.step (.submit edit)) := by
  let fresh : Debouncer :=
    { d.cancelled with task := some ⟨edit, .waiting (d.now + later d.delay 0)⟩ }
  have hfresh : fresh.pending? = some (edit, Timeline.due delay tl.now edit) := by
    show some (edit, d.now + later d.delay 0 + later edit.slow 0) = _
    rw [h.delay_eq, h.now_eq, later_eq_max, later_eq_max, Timeline.due]
  have hlasting : (tl.note (.submit edit)).lasting delay
      = tl.lasting delay ++ (fresh.done? d.now).toList := by
    rw [Timeline.lasting_note, Timeline.latest?_submit, done?, hfresh, h.now_eq]
  show Describes delay (tl.note (.submit edit)) (fresh.advanceTo d.now)
  obtain ⟨hdelay, hnow, hsaved, hnotices, hpending⟩ := advanceTo_eq fresh d.now
  constructor
  · rw [hdelay]
    exact h.delay_eq
  · rw [hnow]
    exact h.now_eq
  · exact h.elapsed.note _
  · rw [hsaved, hlasting, List.filterMap_append, ← h.saved]
    rfl
  · rw [hnotices, hlasting, List.filterMap_append, ← h.notices]
    rfl
  · rw [hpending, hfresh, h.now_eq, Timeline.outstanding?_note]
    rfl

theorem cancel (h : Describes delay tl d) :
    Describes delay (tl.note .cancel) (d.step .cancel) := by
  have hlasting : (tl.note .cancel).lasting delay = tl.lasting delay := by
    rw [Timeline.lasting_note]
    exact List.append_nil _
  constructor
  · exact h.delay_eq
  · exact h.now_eq
  · exact h.elapsed.note _
  · rw [hlasting, ← h.saved]
    rfl
  · rw [hlasting, ← h.notices]
    rfl
  · rw [Timeline.outstanding?_note]
    exact pending?_cancelled d

/-- The saver waits for the edit that the timeline waits for. -/
theorem flush (h : Describes delay tl d) :
    Describes delay (tl.add delay .flush) (d.step .flush) := by
  have hnext : tl.next delay .flush = ((tl.outstanding? delay).map Prod.snd).getD tl.now := rfl
  unfold Debouncer.step Timeline.add
  rw [hnext]
  dsimp only
  rw [h.pending]
  cases hpending : tl.outstanding? delay with
  | none => exact h.note rfl
  | some p =>
    obtain ⟨edit, finish⟩ := p
    have hlt : tl.now < finish := by simpa using (Option.mem_filter_iff.1 hpending).2
    dsimp only
    rw [later_eq_max, h.now_eq, max_eq_right (le_of_lt hlt)]
    exact (h.note rfl).advanceTo (le_of_lt hlt)

theorem step (h : Describes delay tl d) (step : DebounceStep) :
    Describes delay (tl.add delay step) (d.step step) := by
  cases step with
  | submit edit => exact h.submit edit
  | cancel => exact h.cancel
  | flush => exact h.flush
  | sleep ms =>
    show Describes delay _ (d.advanceTo (d.now + later ms 0))
    rw [h.now_eq, later_eq_max]
    exact (h.note rfl).advanceTo (le_add_of_nonneg_right (le_max_right ms 0))

end Describes

theorem describes_run (delay : Rat) (steps : List DebounceStep) :
    Describes delay (Timeline.ofSteps delay steps) ((start delay).run steps) := by
  induction steps using List.reverseRecOn with
  | nil => exact .start delay
  | append_singleton steps step ih =>
    rw [Timeline.ofSteps_snoc, run, List.foldl_append]
    exact ih.step step

/-- The moments of a timeline are the steps, each with the clock reading of the saver in
front of it. -/
theorem moments_ofSteps (delay : Rat) (steps : List DebounceStep) :
    (Timeline.ofSteps delay steps).moments
      = steps.zipIdx.map fun p => (((start delay).run (steps.take p.2)).now, p.1) := by
  induction steps using List.reverseRecOn with
  | nil => rfl
  | append_singleton steps step ih =>
    have htake : ∀ p ∈ steps.zipIdx, (((start delay).run ((steps ++ [step]).take p.2)).now, p.1)
        = (((start delay).run (steps.take p.2)).now, p.1) := by
      intro p hp
      have hlt : p.2 < steps.length := by
        obtain ⟨_, hlt, _⟩ := List.mem_zipIdx hp
        omega
      rw [List.take_append_of_le_length (le_of_lt hlt)]
    rw [Timeline.ofSteps_snoc, List.zipIdx_append, List.map_append, List.map_congr_left htake, ← ih]
    show _ ++ [((Timeline.ofSteps delay steps).now, step)] = _
    simp [(describes_run delay steps).now_eq]

/-- What becomes of all edits.  The clock readings of the steps tell by themselves what is
saved and what is given notice of, in the order of submission: the edits that no later
submission or cancellation came upon before their saves were complete.  An edit is pending
as long as it is that of the last submission, was not cancelled and is not complete.

So no more than one edit is waited for; an edit that was superseded or cancelled, also
while its save was going on, might as well have been a cancellation; saves that fail
keep no others from being saved; and nothing is pending after a flush. -/
theorem saves_what_lasts (delay : Rat) (steps : List DebounceStep) :
    let d := (start delay).run steps
    let tl := Timeline.ofSteps delay steps
    d.now = tl.now
      ∧ tl.moments = steps.zipIdx.map (fun p => (((start delay).run (steps.take p.2)).now, p.1))
      ∧ d.saved = (tl.lasting delay).filterMap Edit.stored?
      ∧ d.notices = (tl.lasting delay).filterMap Edit.notice?
      ∧ (d.isPending ↔ ∃ reading edit,
        Timeline.lastInterruption? tl.moments = some (reading, .submit edit)
          ∧ d.now < Timeline.due delay reading edit)
      ∧ (tl.unfinished delay).length ≤ 1
      ∧ (∀ before reading edit rest, tl.moments = before ++ (reading, .submit edit) :: rest →
        ¬ Timeline.LeftAlone (Timeline.due delay reading edit) rest →
        tl.lasting delay
          = Timeline.lasting delay ⟨before ++ (reading, .cancel) :: rest, tl.now⟩)
      ∧ ((start delay).run (steps.map DebounceStep.unfailing)).saved
        = (tl.lasting delay).map Edit.value
      ∧ ((start delay).run (steps ++ [.flush])).isPending = false := by
  intro d tl
  have h : Describes delay tl d := describes_run delay steps
  refine ⟨h.now_eq, moments_ofSteps delay steps, h.saved, h.notices, ?_, ?_, ?_, ?_, ?_⟩
  · rw [h.now_eq, ← Timeline.outstanding?_isSome_iff, ← h.pending]
    rfl
  · rw [Timeline.unfinished_eq h.elapsed]
    cases (tl.outstanding? delay).map Prod.fst <;> simp
  · intro before reading edit rest hmoments halone
    show Timeline.undisturbed delay _ tl.moments = Timeline.undisturbed delay _ _
    rw [hmoments, Timeline.undisturbed_superseded halone]
  · have hvalue (edits : List Edit) :
        (edits.map Edit.unfailing).filterMap Edit.stored? = edits.map Edit.value := by
      rw [List.filterMap_map]
      exact congrFun List.filterMap_eq_map edits
    rw [(describes_run delay _).saved, Timeline.ofSteps_unfailing, ← hvalue]
    exact congrArg _ (Timeline.undisturbed_unfailing _ _)
  · rw [run, List.foldl_append]
    exact isPending_flush _

/-- The first edit is superseded while its slow save is going on, and the save of the second
fails.  Only the third, which is flushed, is saved. -/
theorem saves_what_lasts_while_saving :
    let first : Edit := ⟨.int 1, 30, none⟩
    let steps : List DebounceStep := [.submit first, .sleep 20,
      .submit ⟨.int 2, 0, some "disk full"⟩, .sleep 50, .submit ⟨.int 3, 5, none⟩, .flush]
    let d := (start 10).run steps
    let moments : List (Rat × DebounceStep) := [(0, .sleep 20),
      (20, .submit ⟨.int 2, 0, some "disk full"⟩), (20, .sleep 50),
      (70, .submit ⟨.int 3, 5, none⟩), (70, .flush)]
    (Timeline.ofSteps 10 steps).moments = (0, .submit first) :: moments
      ∧ d.now = 85 ∧ d.saved = [.int 3] ∧ d.notices = [.saveFailed "disk full"]
      ∧ ¬ Timeline.LeftAlone (Timeline.due 10 0 first) moments
      ∧ (Timeline.ofSteps 10 steps).lasting 10
        = Timeline.lasting 10 ⟨(0, .cancel) :: moments, 85⟩ := by
  intro first steps d moments
  obtain ⟨hnow, -, hsaved, hnotices, -, -, hsuperseded, -⟩ := saves_what_lasts 10 steps
  have hmoments : (Timeline.ofSteps 10 steps).moments = (0, .submit first) :: moments := by
    decide +kernel
  have hreading : (Timeline.ofSteps 10 steps).now = 85 := by decide +kernel
  have halone : ¬ Timeline.LeftAlone (Timeline.due 10 0 first) moments := by decide +kernel
  have hlasting := hsuperseded [] 0 first moments hmoments halone
  rw [hreading] at hlasting
  refine ⟨hmoments, hnow.trans hreading, hsaved.trans ?_, hnotices.trans ?_, halone, hlasting⟩
  · decide +kernel
  · decide +kernel

end Debouncer

end Formulary
