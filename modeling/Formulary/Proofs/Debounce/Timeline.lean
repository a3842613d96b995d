import Formulary.Debounce
import Mathlib.Algebra.Order.Ring.Rat
import Mathlib.Data.List.Induction

/-!
# Timelines

The timeline of a saver lists its steps, each with the clock reading at which it
was made.  It is kept without the saver, and says by itself which edits are saved:
those that no submission and no cancellation came upon before their saves were
complete.

* Definitions.  `lasting` are the edits that were left alone until their saves were
  complete, `unfinished` those that were left alone so far, and `outstanding?` is the one
  that is waited for.
* The latest edit.  `undisturbed_eq_latest?` says that of the edits that are complete after
  now only the latest is left alone, so that no more than one is waited for:
  `unfinished_eq`.
* Time and steps.  `lasting_of_le` says which edit time adds to those left alone, and
  `lasting_note` what a step adds to them.
* Edits that are not saved.  `undisturbed_superseded` is about those that were not left
  alone, and `ofSteps_unfailing` about those whose saves fail.
-/

namespace Formulary

/-- The step takes the place of the edit that was submitted before it. -/
def DebounceStep.interrupts : DebounceStep → Bool
  | .submit _ | .cancel => true
  | .flush | .sleep _ => false

namespace Edit

/-- What the save of an edit stores. -/
def stored? (edit : Edit) : Option Value :=
  match edit.failure? with
  | some _ => none
  | none => some edit.value

/-- What the save of an edit gives notice of. -/
def notice? (edit : Edit) : Option Notice := edit.failure?.map .saveFailed

/-- The edit, with a save that does not fail. -/
def unfailing (edit : Edit) : Edit := { edit with failure? := none }

end Edit

/-- The step, with a save that does not fail. -/
def DebounceStep.unfailing : DebounceStep → DebounceStep
  | .submit edit => .submit edit.unfailing
  | step => step

/-! ## Timelines -/

/-- Steps with the clock readings at which they were made, and the reading now. -/
structure Timeline where
  moments : List (Rat × DebounceStep)
  now : Rat

namespace Timeline

/-- When the save of an edit is complete that is submitted at a reading. -/
def due (delay reading : Rat) (edit : Edit) : Rat := reading + max delay 0 + max edit.slow 0

/-- No step among these takes the place of an edit before an instant. -/
def LeftAlone (instant : Rat) (moments : List (Rat × DebounceStep)) : Prop :=
  ∀ m ∈ moments, m.2.interrupts = true → instant ≤ m.1

instance (instant : Rat) (moments : List (Rat × DebounceStep)) :
    Decidable (LeftAlone instant moments) :=
  inferInstanceAs (Decidable (∀ m ∈ moments, m.2.interrupts = true → instant ≤ m.1))

/-- The edits, in the order of their submission, that are left alone until their saves
are complete, of those whose saves are complete at certain instants. -/
def undisturbed (delay : Rat) (during : Rat → Bool) : List (Rat × DebounceStep) → List Edit
  | [] => []
  | (reading, .submit edit) :: rest =>
    if during (due delay reading edit) ∧ LeftAlone (due delay reading edit) rest then
      edit :: undisturbed delay during rest
    else undisturbed delay during rest
  | _ :: rest => undisturbed delay during rest

/-- The edits that were left alone until their saves were complete. -/
def lasting (delay : Rat) (tl : Timeline) : List Edit :=
  undisturbed delay (fun instant => instant ≤ tl.now) tl.moments

/-- The edits that were left alone so far, and whose saves are not complete. -/
def unfinished (delay : Rat) (tl : Timeline) : List Edit :=
  undisturbed delay (fun instant => tl.now < instant) tl.moments

/-- The last submission or cancellation. -/
def lastInterruption? (moments : List (Rat × DebounceStep)) : Option (Rat × DebounceStep) :=
  (moments.filter fun m => m.2.interrupts).getLast?

/-- The edit that was submitted last, if it was not cancelled, and when its save is
complete. -/
def latest? (delay : Rat) (moments : List (Rat × DebounceStep)) : Option (Edit × Rat) :=
  match lastInterruption? moments with
  | some (reading, .submit edit) => some (edit, due delay reading edit)
  | _ => none

/-- The edit that is waited for: the latest, until its save is complete. -/
def outstanding? (delay : Rat) (tl : Timeline) : Option (Edit × Rat) :=
  (latest? delay tl.moments).filter fun p => tl.now < p.2

/-- The clock reading after a step: time goes by in sleep, and while an edit is waited
for. -/
def next (delay : Rat) (tl : Timeline) : DebounceStep → Rat
  | .submit _ | .cancel => tl.now
  | .flush => ((tl.outstanding? delay).map Prod.snd).getD tl.now
  | .sleep ms => tl.now + max ms 0

/-- A timeline with a step made now. -/
def note (tl : Timeline) (step : DebounceStep) : Timeline :=
  { tl with moments := tl.moments ++ [(tl.now, step)] }

/-- A timeline with one step more, and the reading after it. -/
def add (delay : Rat) (tl : Timeline) (step : DebounceStep) : Timeline :=
  { tl.note step with now := tl.next delay step }

/-- The timeline of steps from the start of the clock. -/
def ofSteps (delay : Rat) (steps : List DebounceStep) : Timeline := steps.foldl (add delay) ⟨[], 0⟩

/-- No step was made at a later reading. -/
def Elapsed (tl : Timeline) : Prop := ∀ m ∈ tl.moments, m.1 ≤ tl.now

/-! ## The latest edit -/

variable {delay now : Rat} {moments rest : List (Rat × DebounceStep)}

theorem lastInterruption?_append (moments more : List (Rat × DebounceStep)) :
    lastInterruption? (moments ++ more)
      = (lastInterruption? more).or (lastInterruption? moments) := by
  unfold lastInterruption?
  rw [List.filter_append, List.getLast?_append]

theorem mem_of_lastInterruption? {m : Rat × DebounceStep}
    (h : lastInterruption? moments = some m) : m ∈ moments ∧ m.2.interrupts = true :=
  List.mem_filter.1 (List.mem_of_getLast? h)

theorem not_interrupts_of_lastInterruption? (h : lastInterruption? moments = none) :
    ∀ m ∈ moments, ¬ m.2.interrupts = true := by
  rw [lastInterruption?, List.getLast?_eq_none_iff] at h
  exact List.filter_eq_nil_iff.1 h

theorem latest?_submit (reading : Rat) (edit : Edit) :
    latest? delay [(reading, .submit edit)] = some (edit, due delay reading edit) := rfl

theorem latest?_cons (m : Rat × DebounceStep) (rest : List (Rat × DebounceStep)) :
    latest? delay (m :: rest)
      = if lastInterruption? rest = none then latest? delay [m] else latest? delay rest := by
  unfold latest?
  rw [← List.singleton_append, lastInterruption?_append]
  cases lastInterruption? rest with
  | none => rfl
  | some _ => rfl

theorem latest?_snoc (moments : List (Rat × DebounceStep)) (reading : Rat) (step : DebounceStep) :
    latest? delay (moments ++ [(reading, step)])
      = if step.interrupts then latest? delay [(reading, step)] else latest? delay moments := by
  unfold latest?
  rw [lastInterruption?_append]
  cases step with
  | submit _ | cancel | flush | sleep _ => rfl

theorem undisturbed_singleton (during : Rat → Bool) (m : Rat × DebounceStep) :
    undisturbed delay during [m]
      = (((latest? delay [m]).filter fun p => during p.2).map Prod.fst).toList := by
  obtain ⟨reading, step⟩ := m
  cases step with
  | submit edit =>
    have halone : LeftAlone (due delay reading edit) [] := fun _ hm => absurd hm List.not_mem_nil
    rw [undisturbed, latest?_submit, Option.filter_some]
    cases during (due delay reading edit) with
    | true =>
      rw [if_pos ⟨rfl, halone⟩]
      rfl
    | false => rfl
  | cancel | flush | sleep _ => rfl

/-- A step that is no submission does not matter to the steps after it. -/
theorem latest?_cons_of_not_submit {m : Rat × DebounceStep} (h : latest? delay [m] = none)
    (rest : List (Rat × DebounceStep)) : latest? delay (m :: rest) = latest? delay rest := by
  rw [latest?_cons]
  split
  · rename_i hnone
    rw [h, latest?, hnone]
  · rfl

/-- Where nothing interrupts, nothing is submitted. -/
theorem undisturbed_eq_nil (h : lastInterruption? moments = none) (during : Rat → Bool) :
    undisturbed delay during moments = [] := by
  have hnone := not_interrupts_of_lastInterruption? h
  clear h
  induction moments with
  | nil => rfl
  | cons m rest ih =>
    obtain ⟨hm, hrest⟩ := List.forall_mem_cons.1 hnone
    obtain ⟨reading, step⟩ := m
    cases step with
    | submit edit => exact absurd rfl hm
    | cancel => exact absurd rfl hm
    | flush | sleep _ => exact ih hrest

/-- An edit whose save is complete after now was left alone so far only if nothing at all
came upon it. -/
theorem leftAlone_iff_of_lt {instant : Rat} (helapsed : ∀ m ∈ rest, m.1 ≤ now)
    (hnow : now < instant) : LeftAlone instant rest ↔ lastInterruption? rest = none := by
  constructor
  · intro halone
    rw [Option.eq_none_iff_forall_not_mem]
    intro m hm
    obtain ⟨hmem, hinterrupts⟩ := mem_of_lastInterruption? hm
    exact absurd (le_trans (halone m hmem hinterrupts) (helapsed m hmem)) (not_le.2 hnow)
  · intro hnone m hm hinterrupts
    exact absurd hinterrupts (not_interrupts_of_lastInterruption? hnone m hm)

/-- Of the edits whose saves are complete after now only the latest is left alone so
far. -/
theorem undisturbed_eq_latest? (helapsed : ∀ m ∈ moments, m.1 ≤ now) {during : Rat → Bool}
    (hduring : ∀ instant, during instant → now < instant) :
    undisturbed delay during moments
      = (((latest? delay moments).filter fun p => during p.2).map Prod.fst).toList := by
  induction moments with
  | nil => rfl
  | cons m rest ih =>
    obtain ⟨reading, step⟩ := m
    have helapsed' : ∀ m ∈ rest, m.1 ≤ now := fun m hm => helapsed m (List.mem_cons_of_mem _ hm)
    have ih := ih helapsed'
    cases step with
    | submit edit =>
      rw [undisturbed, latest?_cons]
      by_cases hnone : lastInterruption? rest = none
      · rw [if_pos hnone, undisturbed_eq_nil hnone, ← undisturbed_singleton, undisturbed,
          undisturbed]
        refine if_congr (and_congr_right fun hat => ?_) rfl rfl
        rw [leftAlone_iff_of_lt helapsed' (hduring _ hat), hnone]
        exact iff_of_true rfl fun _ hm => absurd hm List.not_mem_nil
      · rw [if_neg hnone, if_neg, ih]
        rintro ⟨hat, halone⟩
        exact hnone ((leftAlone_iff_of_lt helapsed' (hduring _ hat)).1 halone)
    | cancel | flush | sleep _ =>
      rw [latest?_cons_of_not_submit rfl]
      exact ih

/-- No more than one edit is waited for. -/
theorem unfinished_eq {tl : Timeline} (h : tl.Elapsed) (delay : Rat) :
    unfinished delay tl = ((tl.outstanding? delay).map Prod.fst).toList :=
  undisturbed_eq_latest? h fun instant hlt => by simpa using hlt

/-- An edit is waited for when the last submission was not cancelled and is not
complete. -/
theorem outstanding?_isSome_iff {tl : Timeline} :
    (tl.outstanding? delay).isSome ↔ ∃ reading edit,
      lastInterruption? tl.moments = some (reading, .submit edit)
        ∧ tl.now < due delay reading edit := by
  unfold outstanding? latest?
  cases lastInterruption? tl.moments with
  | none => simp
  | some m =>
    obtain ⟨reading, step⟩ := m
    cases step with
    | submit edit => simp [Option.filter_some]
    | cancel | flush | sleep _ => simp

/-! ## Time and steps -/

@[simp] theorem ofSteps_snoc (delay : Rat) (steps : List DebounceStep) (step : DebounceStep) :
    ofSteps delay (steps ++ [step]) = (ofSteps delay steps).add delay step := by
  rw [ofSteps, List.foldl_append]
  rfl

/-- As time goes by, edits are left alone until a later instant, after all the others. -/
theorem undisturbed_or (helapsed : ∀ m ∈ moments, m.1 ≤ now) {during : Rat → Bool}
    (hduring : ∀ instant, during instant → now < instant) :
    undisturbed delay (fun instant => instant ≤ now || during instant) moments
      = undisturbed delay (fun instant => instant ≤ now) moments
        ++ undisturbed delay during moments := by
  induction moments with
  | nil => rfl
  | cons m rest ih =>
    obtain ⟨reading, step⟩ := m
    have helapsed' : ∀ m ∈ rest, m.1 ≤ now := fun m hm => helapsed m (List.mem_cons_of_mem _ hm)
    have ih := ih helapsed'
    cases step with
    | submit edit =>
      rw [undisturbed, undisturbed, undisturbed, ih]
      by_cases halone : LeftAlone (due delay reading edit) rest
      · cases hat : during (due delay reading edit) with
        | true =>
          have hlt := hduring _ hat
          -- Nothing follows that could have been complete earlier.
          have hnone := (leftAlone_iff_of_lt helapsed' hlt).1 halone
          simp [halone, not_le.2 hlt, undisturbed_eq_nil hnone]
        | false =>
          by_cases hle : due delay reading edit ≤ now <;> simp [halone, hle]
      · simp [halone]
    | cancel | flush | sleep _ => exact ih

/-- A step adds the edit that it submits to those left alone, if its save is complete at
once. -/
theorem lasting_note (delay : Rat) (tl : Timeline) (step : DebounceStep) :
    lasting delay (tl.note step)
      = lasting delay tl
        ++ (((latest? delay [(tl.now, step)]).filter fun p => p.2 ≤ tl.now).map
          Prod.fst).toList := by
  obtain ⟨moments, now⟩ := tl
  rw [← undisturbed_singleton fun instant => instant ≤ now]
  show undisturbed delay (fun instant => instant ≤ now) (moments ++ [(now, step)])
    = undisturbed delay (fun instant => instant ≤ now) moments ++ _
  induction moments with
  | nil => rfl
  | cons m rest ih =>
    obtain ⟨reading, first⟩ := m
    cases first with
    | submit edit =>
      -- A step now comes upon no edit that is complete by now.
      have halone (hle : due delay reading edit ≤ now) :
          LeftAlone (due delay reading edit) (rest ++ [(now, step)])
            ↔ LeftAlone (due delay reading edit) rest := by
        unfold LeftAlone
        rw [List.forall_mem_append, List.forall_mem_singleton]
        exact and_iff_left fun _ => hle
      rw [List.cons_append, undisturbed, undisturbed, ih]
      by_cases hle : due delay reading edit ≤ now
      · simp only [halone hle]
        split <;> rfl
      · simp [hle]
    | cancel | flush | sleep _ => exact ih

theorem outstanding?_note (delay : Rat) (tl : Timeline) (step : DebounceStep) :
    (tl.note step).outstanding? delay
      = if step.interrupts then (latest? delay [(tl.now, step)]).filter fun p => tl.now < p.2
        else tl.outstanding? delay := by
  show (latest? delay (tl.moments ++ [(tl.now, step)])).filter _ = _
  rw [latest?_snoc]
  split <;> rfl

theorem Elapsed.note {tl : Timeline} (h : tl.Elapsed) (step : DebounceStep) :
    (tl.note step).Elapsed := by
  intro m hm
  rcases List.mem_append.1 hm with hold | hnew
  · exact h m hold
  · rw [List.mem_singleton] at hnew
    exact le_of_eq (congrArg Prod.fst hnew)

/-- As time goes by, the edit that is waited for is complete. -/
theorem lasting_of_le {tl : Timeline} (h : tl.Elapsed) (delay : Rat) {instant : Rat}
    (hle : tl.now ≤ instant) :
    lasting delay { tl with now := instant }
      = lasting delay tl
        ++ (((tl.outstanding? delay).filter fun p => p.2 ≤ instant).map Prod.fst).toList := by
  have hsplit : (fun i : Rat => decide (i ≤ instant))
      = fun i => decide (i ≤ tl.now) || (decide (tl.now < i) && decide (i ≤ instant)) := by
    funext i
    rw [Bool.eq_iff_iff]
    simp only [decide_eq_true_eq, Bool.or_eq_true, Bool.and_eq_true]
    grind
  have hlt (i : Rat) (h : (decide (tl.now < i) && decide (i ≤ instant)) = true) :
      tl.now < i := of_decide_eq_true (Bool.and_eq_true _ _ ▸ h).1
  unfold lasting outstanding?
  rw [hsplit, undisturbed_or h hlt, undisturbed_eq_latest? h hlt, Option.filter_filter]

/-! ## Edits that are not saved -/

/-- An edit that was not left alone might as well have been a cancellation. -/
theorem undisturbed_superseded {reading : Rat} {edit : Edit}
    (h : ¬ LeftAlone (due delay reading edit) rest) (during : Rat → Bool)
    (before : List (Rat × DebounceStep)) :
    undisturbed delay during (before ++ (reading, .submit edit) :: rest)
      = undisturbed delay during (before ++ (reading, .cancel) :: rest) := by
  induction before with
  | nil => simp [undisturbed, h]
  | cons m before ih =>
    obtain ⟨_, step⟩ := m
    cases step with
    | submit first =>
      -- Both come upon the edits before them at one reading.
      have halone (instant : Rat) :
          LeftAlone instant (before ++ (reading, .submit edit) :: rest)
            ↔ LeftAlone instant (before ++ (reading, .cancel) :: rest) := by
        unfold LeftAlone
        simp only [List.forall_mem_append, List.forall_mem_cons, DebounceStep.interrupts]
      simp only [List.cons_append, undisturbed, ih, halone]
    | cancel | flush | sleep _ => exact ih

/-- The timeline of the same steps, with saves that do not fail. -/
def unfailing (tl : Timeline) : Timeline :=
  { tl with moments := tl.moments.map (Prod.map id DebounceStep.unfailing) }

theorem interrupts_unfailing (step : DebounceStep) :
    step.unfailing.interrupts = step.interrupts := by
  cases step <;> rfl

theorem lastInterruption?_unfailing (moments : List (Rat × DebounceStep)) :
    lastInterruption? (moments.map (Prod.map id DebounceStep.unfailing))
      = (lastInterruption? moments).map (Prod.map id DebounceStep.unfailing) := by
  unfold lastInterruption?
  rw [List.filter_map, List.getLast?_map]
  simp only [Function.comp_def, Prod.map_snd, interrupts_unfailing]

theorem leftAlone_unfailing {instant : Rat} :
    LeftAlone instant (moments.map (Prod.map id DebounceStep.unfailing))
      ↔ LeftAlone instant moments := by
  unfold LeftAlone
  simp only [List.forall_mem_map, Prod.map_snd, Prod.map_fst, interrupts_unfailing, id]

theorem undisturbed_unfailing (during : Rat → Bool) (moments : List (Rat × DebounceStep)) :
    undisturbed delay during (moments.map (Prod.map id DebounceStep.unfailing))
      = (undisturbed delay during moments).map Edit.unfailing := by
  induction moments with
  | nil => rfl
  | cons m rest ih =>
    obtain ⟨reading, step⟩ := m
    cases step with
    | submit edit =>
      have hdue : due delay reading edit.unfailing = due delay reading edit := rfl
      show (if during (due delay reading edit.unfailing)
        ∧ LeftAlone (due delay reading edit.unfailing) (rest.map _) then _ else _) = _
      rw [undisturbed, hdue, ih]
      simp only [leftAlone_unfailing]
      split <;> rfl
    | cancel | flush | sleep _ => exact ih

theorem next_unfailing (tl : Timeline) (step : DebounceStep) :
    tl.unfailing.next delay step.unfailing = tl.next delay step := by
  cases step with
  | submit _ | cancel | sleep _ => rfl
  | flush =>
    have hlatest : latest? delay tl.unfailing.moments
        = (latest? delay tl.moments).map (Prod.map Edit.unfailing id) := by
      unfold latest? unfailing
      rw [lastInterruption?_unfailing]
      cases lastInterruption? tl.moments with
      | none => rfl
      | some m =>
        obtain ⟨reading, step⟩ := m
        cases step <;> rfl
    show ((tl.unfailing.outstanding? delay).map Prod.snd).getD tl.now
      = ((tl.outstanding? delay).map Prod.snd).getD tl.now
    unfold outstanding?
    rw [hlatest, Option.filter_map, Option.map_map]
    rfl

/-- The clock does not mind whether saves fail. -/
theorem ofSteps_unfailing (delay : Rat) (steps : List DebounceStep) :
    ofSteps delay (steps.map DebounceStep.unfailing) = (ofSteps delay steps).unfailing := by
  induction steps using List.reverseRecOn with
  | nil => rfl
  | append_singleton steps step ih =>
    rw [List.map_append, List.map_singleton, ofSteps_snoc, ofSteps_snoc, ih, add, next_unfailing]
    simp [unfailing, note, add]

end Timeline

end Formulary
