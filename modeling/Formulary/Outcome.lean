import Formulary.Notice

/-!
# Outcomes

What a step of work comes to: the notices it gave, in order, and its result or
the reason why there is none.  Notices that were given before a failure stay.

Main statements: `bind_ok` and `bind_error`, the two equations of sequencing, and
`result_bind_eq_ok_iff`, which says when a sequence of steps has a result.
-/

namespace Formulary

/-- Notices and a result. -/
structure Outcome (ε α : Type) where
  notices : List Notice
  result : Except ε α

namespace Outcome

variable {ε ε' α β : Type}

/-- A result without notices. -/
def ok (a : α) : Outcome ε α := ⟨[], .ok a⟩

/-- A failure without notices. -/
def fail (e : ε) : Outcome ε α := ⟨[], .error e⟩

/-- A notice. -/
def notify (notice : Notice) : Outcome ε Unit := ⟨[notice], .ok ()⟩

/-- Notices, one after the other. -/
def notifyAll (notices : List Notice) : Outcome ε Unit := ⟨notices, .ok ()⟩

/-- A result, or a failure, without notices. -/
def ofExcept (result : Except ε α) : Outcome ε α := ⟨[], result⟩

/-- A step and what follows from its result. -/
def bind (step : Outcome ε α) (next : α → Outcome ε β) : Outcome ε β :=
  match step with
  | ⟨notices, .error e⟩ => ⟨notices, .error e⟩
  | ⟨notices, .ok a⟩ => ⟨notices ++ (next a).notices, (next a).result⟩

instance : Monad (Outcome ε) where
  pure := ok
  bind := bind

/-- The reason of a failure, seen from outside. -/
def mapError (f : ε → ε') (step : Outcome ε α) : Outcome ε' α where
  notices := step.notices
  result := step.result.mapError f

@[simp] theorem pure_eq (a : α) : (pure a : Outcome ε α) = ok a := rfl

@[simp] theorem bind_ok (notices : List Notice) (a : α) (next : α → Outcome ε β) :
    ((⟨notices, .ok a⟩ : Outcome ε α) >>= next)
      = ⟨notices ++ (next a).notices, (next a).result⟩ := rfl

@[simp] theorem bind_error (notices : List Notice) (e : ε) (next : α → Outcome ε β) :
    ((⟨notices, .error e⟩ : Outcome ε α) >>= next) = ⟨notices, .error e⟩ := rfl

@[simp] theorem ok_bind (a : α) (next : α → Outcome ε β) : (ok a >>= next) = next a := by
  simp [ok]

@[simp] theorem fail_bind (e : ε) (next : α → Outcome ε β) :
    ((fail e : Outcome ε α) >>= next) = fail e := rfl

@[simp] theorem ofExcept_ok (a : α) : (ofExcept (.ok a) : Outcome ε α) = ok a := rfl

@[simp] theorem ofExcept_error (e : ε) : (ofExcept (.error e) : Outcome ε α) = fail e := rfl

@[simp] theorem mapError_ok (f : ε → ε') (a : α) : (ok a : Outcome ε α).mapError f = ok a := rfl

@[simp] theorem mapError_fail (f : ε → ε') (e : ε) :
    (fail e : Outcome ε α).mapError f = fail (f e) := rfl

theorem id_map (step : Outcome ε α) : id <$> step = step := by
  rcases step with ⟨notices, _ | a⟩
  · rfl
  · show (⟨notices ++ [], .ok a⟩ : Outcome ε α) = _
    rw [List.append_nil]

theorem bind_assoc {γ : Type} (step : Outcome ε α) (next : α → Outcome ε β)
    (last : β → Outcome ε γ) : step >>= next >>= last = step >>= fun a => next a >>= last := by
  rcases step with ⟨notices, _ | a⟩
  · rfl
  · rcases h : next a with ⟨more, _ | b⟩ <;> simp [h]

instance : LawfulMonad (Outcome ε) := LawfulMonad.mk' _ id_map ok_bind bind_assoc

/-! ## Results -/

@[simp] theorem result_ok (a : α) : (ok a : Outcome ε α).result = .ok a := rfl

@[simp] theorem result_fail (e : ε) : (fail e : Outcome ε α).result = .error e := rfl

@[simp] theorem result_notify (notice : Notice) :
    (notify notice : Outcome ε Unit).result = .ok () := rfl

@[simp] theorem result_notifyAll (notices : List Notice) :
    (notifyAll notices : Outcome ε Unit).result = .ok () := rfl

@[simp] theorem result_ofExcept (result : Except ε α) : (ofExcept result).result = result := rfl

/-- The result of two steps is that of the second, from where the first leads. -/
theorem result_bind (step : Outcome ε α) (next : α → Outcome ε β) :
    (step >>= next).result = step.result >>= fun a => (next a).result := by
  rcases step with ⟨notices, _ | a⟩ <;> rfl

/-- A step that succeeds leaves the result to what follows. -/
theorem result_bind_of_ok {step : Outcome ε α} {a : α} (h : step.result = .ok a)
    (next : α → Outcome ε β) : (step >>= next).result = (next a).result := by
  rw [result_bind, h]
  rfl

/-- What is noticed on the way to a result is noticed by both steps. -/
theorem notices_bind_of_ok {step : Outcome ε α} {next : α → Outcome ε β} {a : α}
    (h : step.result = .ok a) :
    (step >>= next).notices = step.notices ++ (next a).notices := by
  rcases step with ⟨notices, _⟩
  cases h
  rfl

/-- Two steps give a result exactly when the first does and the second does from
there. -/
theorem result_bind_eq_ok_iff {step : Outcome ε α} {next : α → Outcome ε β} {b : β} :
    (step >>= next).result = .ok b ↔ ∃ a, step.result = .ok a ∧ (next a).result = .ok b := by
  rcases step with ⟨notices, e | a⟩ <;> simp

/-- A step that fails is the last one. -/
theorem result_bind_of_error {step : Outcome ε α} {next : α → Outcome ε β} {e : ε}
    (h : step.result = .error e) : (step >>= next).result = .error e := by
  rw [result_bind, h]
  rfl

theorem result_mapError_eq_ok_iff {f : ε → ε'} {step : Outcome ε α} {a : α} :
    (step.mapError f).result = .ok a ↔ step.result = .ok a := by
  rcases step with ⟨notices, e | b⟩
  · constructor <;> intro h <;> cases h
  · constructor <;> intro h <;> cases h <;> rfl

end Outcome

end Formulary
