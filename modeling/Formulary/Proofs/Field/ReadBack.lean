import Formulary.Field.Default

/-!
# Defaults that are read back

An integer or a truth value that has become a text is itself again when the text is fitted to
a number or to a truth value.

* `Number.integer?_of_takeSign` says that the decimal digits of a number are read as the
  number, as long as they are no more than are ever read.  `Number.integer?_integerText` says so
  of an integer with its sign, and `Number.integer?_plus` of one with a plus before it.
* `SchemaType.fitted_number` says that blank margins around an integer do not matter, and that
  what reads as an integer is never taken for a double.
* `SchemaType.texts_read_back` is the result.
-/

namespace Formulary

/-! ## Digits and blanks -/

namespace Text

/-- An ASCII digit is worth its distance from zero. -/
theorem digit?_of_isDigit {c : Char} (h : c.isDigit) : digit? c = some (c.toNat - '0'.toNat) := by
  obtain ⟨hlower, hupper⟩ := Char.isDigit_iff_toNat.1 h
  -- The row of the ASCII digits is the first one.
  have hrows : digitZeros = '0'.toNat :: digitZeros.tail := rfl
  unfold digit?
  rw [hrows, List.find?_cons_of_pos (by simpa using ⟨hlower, Nat.lt_succ_of_le hupper⟩),
    Option.map_some]

theorem not_isBlank_of_isDigit {c : Char} (h : c.isDigit) : ¬ isBlank c := by
  obtain ⟨hlower, hupper⟩ := Char.isDigit_iff_toNat.1 h
  simp only [Char.isValue, Char.reduceToNat] at hlower hupper
  simp only [isBlank, Bool.or_eq_true, Bool.and_eq_true, decide_eq_true_eq, beq_iff_eq]
  omega

/-- A blank text is a string of blank characters: a lone half is not blank. -/
theorem exists_ofString_of_isBlankText {t : Text} (h : isBlankText t) :
    ∃ s : String, t = s ∧ ∀ c ∈ s.toList, isBlank c := by
  obtain ⟨s, tail⟩ := t
  cases tail with
  | nil =>
    refine ⟨s, rfl, List.all_eq_true.1 ?_⟩
    rw [← isBlankText_ofString]
    exact h
  | cons entry tail =>
    have hhalf : CodePoint.half entry.1 ∈ points ⟨s, entry :: tail⟩ := by simp [points]
    cases List.all_eq_true.1 h _ hhalf

end Text

/-! ## Integers -/

namespace Number

open Text

theorem isDigit_toDigits (m : Nat) : ∀ c ∈ Nat.toDigits 10 m, c.isDigit := fun _ hc =>
  Nat.isDigit_of_mem_toDigits (by decide) (by decide) hc

/-- Digits are read one by one. -/
theorem mapM_digit? {s : List Char} (h : ∀ c ∈ s, c.isDigit) :
    s.mapM digit? = some (s.map fun c => c.toNat - '0'.toNat) := by
  induction s with
  | nil => rfl
  | cons c s ih =>
    obtain ⟨hc, hs⟩ := List.forall_mem_cons.1 h
    rw [List.mapM_cons, digit?_of_isDigit hc, ih hs]
    rfl

/-- The digits of a number stand for the number. -/
theorem ofDigits_toDigits (m : Nat) :
    ofDigits ((Nat.toDigits 10 m).map fun c => c.toNat - '0'.toNat) = m := by
  rw [ofDigits, List.foldl_map, ← Nat.ofDigitChars_eq_foldl, Nat.ofDigitChars_ten_toDigits]

/-- The digits of a number after a sign are read as the number with the sign. -/
theorem integer?_of_takeSign {s : List Char} {negative : Bool} {m : Nat}
    (hsign : takeSign s = (negative, Nat.toDigits 10 m))
    (hlength : (Nat.toDigits 10 m).length ≤ maxIntegerDigits) :
    integer? s = some (if negative then -(m : Int) else m) := by
  have hjoints : dropJoints false (Nat.toDigits 10 m) = some (Nat.toDigits 10 m) :=
    dropJoints_digits (fun c hc heq => Nat.underscore_not_in_toDigits (heq ▸ hc)) false
  unfold integer?
  rw [hsign]
  simp only [hjoints, mapM_digit? (isDigit_toDigits m), Option.bind_eq_bind, Option.bind_some,
    ofDigits_toDigits]
  rw [if_neg (by simpa using hlength)]
  cases negative <;> rfl

theorem toList_integerText (n : Int) :
    (integerText n).toList
      = if n < 0 then '-' :: Nat.toDigits 10 n.natAbs else Nat.toDigits 10 n.natAbs :=
  String.toList_ofList

/-- There is no sign to take off before a digit. -/
theorem takeSign_toDigits (m : Nat) :
    takeSign (Nat.toDigits 10 m) = (false, Nat.toDigits 10 m) := by
  unfold takeSign
  split
  · rename_i hminus
    exact absurd (isDigit_toDigits m '-' (hminus ▸ List.mem_cons_self)) (by decide)
  · rename_i hplus
    exact absurd (isDigit_toDigits m '+' (hplus ▸ List.mem_cons_self)) (by decide)
  · rfl

variable {n : Int}

/-- An integer is read back from its text. -/
theorem integer?_integerText (hn : (Nat.toDigits 10 n.natAbs).length ≤ maxIntegerDigits) :
    integer? (integerText n).toList = some n := by
  rw [toList_integerText]
  split
  · have hsign : takeSign ('-' :: Nat.toDigits 10 n.natAbs) = (true, Nat.toDigits 10 n.natAbs) :=
      rfl
    have hvalue : -(n.natAbs : Int) = n := by omega
    rw [integer?_of_takeSign hsign hn, if_pos rfl, hvalue]
  · have hvalue : (n.natAbs : Int) = n := by omega
    rw [integer?_of_takeSign (takeSign_toDigits _) hn, if_neg Bool.false_ne_true, hvalue]

/-- A plus before an integer that is not negative makes no difference. -/
theorem integer?_plus (hn : (Nat.toDigits 10 n.natAbs).length ≤ maxIntegerDigits)
    (hpos : 0 ≤ n) : integer? ('+' :: (integerText n).toList) = some n := by
  have hsign : takeSign ('+' :: Nat.toDigits 10 n.natAbs) = (false, Nat.toDigits 10 n.natAbs) :=
    rfl
  have hvalue : (n.natAbs : Int) = n := by omega
  rw [toList_integerText, if_neg (by omega), integer?_of_takeSign hsign hn,
    if_neg Bool.false_ne_true, hvalue]

theorem not_isBlank_integerText : ∀ c ∈ (integerText n).toList, ¬ isBlank c := by
  have hdigits : ∀ c ∈ Nat.toDigits 10 n.natAbs, ¬ isBlank c := fun c hc =>
    not_isBlank_of_isDigit (isDigit_toDigits _ c hc)
  rw [toList_integerText]
  split
  · exact List.forall_mem_cons.2 ⟨by decide, hdigits⟩
  · exact hdigits

end Number

/-! ## Fitting -/

namespace SchemaType

/-- Margins of blanks do not matter to an integer, and it is kept exactly. -/
theorem fitted_number {before after : Text} {m : String} {n : Int}
    (hbefore : Text.isBlankText before) (hafter : Text.isBlankText after)
    (hsolid : ∀ c ∈ m.toList, ¬ Text.isBlank c) (hm : Number.integer? m.toList = some n) :
    fitted (.str "number") (.str (before ++ m ++ after)) = (true, .int n) := by
  obtain ⟨left, rfl, hleft⟩ := Text.exists_ofString_of_isBlankText hbefore
  obtain ⟨right, rfl, hright⟩ := Text.exists_ofString_of_isBlankText hafter
  have htrim : Text.trim (left ++ m ++ right).toList = m.toList := by
    rw [String.toList_append, String.toList_append]
    exact Text.trim_append_append hleft hright (fun c hc => hsolid c (List.mem_of_mem_head? hc))
      fun c hc => hsolid c (List.mem_of_mem_getLast? hc)
  have hnumber : numberOfText? (left ++ m ++ right) = some (.int n) := by
    unfold numberOfText?
    rw [htrim, hm]
  have htype : ofValue (.str "number") = .number := ofValue_token .number
  unfold fitted fitValue?
  rw [htype]
  simp only [Text.ofString_append, Value.scalar?, Option.bind_some, fit?, Text.string?_ofString,
    hnumber]
  rfl

theorem fitted_int {shaped : Value} (hshaped : ofValue shaped = .string) (n : Int) :
    fitted shaped (.int n) = (true, .str (Number.integerText n)) := by
  unfold fitted
  rw [hshaped]
  rfl

theorem fitted_bool {shaped : Value} (hshaped : ofValue shaped = .string) (b : Bool) :
    fitted shaped (.bool b) = (true, .str (if b then "true" else "false")) := by
  unfold fitted
  rw [hshaped]
  cases b <;> rfl

/-- An integer of at most the most digits is read back exactly from its decimal digits, with
blank margins and a plus or without; and fitting it to a text and the text to a number gives
it again.  So does fitting a truth value to a text and the text to a truth value. -/
theorem texts_read_back {n : Int}
    (hn : (Nat.toDigits 10 n.natAbs).length ≤ Number.maxIntegerDigits)
    {before after : Text} (hbefore : Text.isBlankText before) (hafter : Text.isBlankText after)
    {shaped : Value} (hshaped : ofValue shaped = .string) :
    fitted (.str "number") (.str (before ++ Number.integerText n ++ after)) = (true, .int n)
      ∧ (0 ≤ n → fitted (.str "number")
        (.str (before ++ ("+" ++ Number.integerText n : String) ++ after)) = (true, .int n))
      ∧ (∃ w, fitted shaped (.int n) = (true, w) ∧ fitted (.str "number") w = (true, .int n))
      ∧ ∀ b, ∃ w, fitted shaped (.bool b) = (true, w)
        ∧ fitted (.str "checkbox") w = (true, .bool b) := by
  have hread := Number.integer?_integerText hn
  refine ⟨fitted_number hbefore hafter Number.not_isBlank_integerText hread, fun hpos => ?_,
    ⟨_, fitted_int hshaped n, ?_⟩, fun b => ⟨_, fitted_bool hshaped b, ?_⟩⟩
  · have hplus : ("+" ++ Number.integerText n).toList = '+' :: (Number.integerText n).toList := by
      rw [String.toList_append]
      rfl
    refine fitted_number hbefore hafter ?_ (hplus ▸ Number.integer?_plus hn hpos)
    rw [hplus]
    exact List.forall_mem_cons.2 ⟨by decide, Number.not_isBlank_integerText⟩
  · have hbare : Text.ofString (Number.integerText n)
        = Text.ofString "" ++ Number.integerText n ++ "" := by
      rw [Text.ofString_append, Text.ofString_append, String.empty_append, String.append_empty]
    rw [hbare]
    exact fitted_number rfl rfl Number.not_isBlank_integerText hread
  · cases b <;> decide +kernel

/-- An odd number above `2 ^ 53`, which is no double, between blanks of several kinds. -/
theorem texts_read_back_above_doubles :
    (Nat.toDigits 10 9007199254740993).length ≤ Number.maxIntegerDigits
      ∧ Text.isBlankText "\t\x1c" ∧ Text.isBlankText "\u3000" ∧ ofValue (.str "date") = .string
      ∧ fitted (.str "number") (.str "\t\x1c9007199254740993\u3000")
        = (true, .int 9007199254740993)
      ∧ fitted (.str "number") (.str "\t\x1c+9007199254740993\u3000")
        = (true, .int 9007199254740993)
      ∧ (∃ w, fitted (.str "date") (.int 9007199254740993) = (true, w)
        ∧ fitted (.str "number") w = (true, .int 9007199254740993))
      ∧ ∀ b, ∃ w, fitted (.str "date") (.bool b) = (true, w)
        ∧ fitted (.str "checkbox") w = (true, .bool b) := by
  have hdigits : (Nat.toDigits 10 9007199254740993).length ≤ Number.maxIntegerDigits := by
    decide +kernel
  have hbefore : Text.isBlankText "\t\x1c" := by decide
  have hafter : Text.isBlankText "\u3000" := by decide
  have hshaped : ofValue (.str "date") = .string := ofValue_token .date
  obtain ⟨hbare, hplus, hback⟩ := texts_read_back (n := 9007199254740993) hdigits hbefore hafter hshaped
  exact ⟨hdigits, hbefore, hafter, hshaped, hbare, hplus (by decide), hback⟩

end SchemaType

end Formulary
