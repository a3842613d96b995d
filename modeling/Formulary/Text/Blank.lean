import Formulary.Text.Basic

/-!
# Blank characters

The characters that count as blank space in names and identities, the fewer ones
that may stand around a number, and trimming them off both ends of a list of
characters, or one line feed off its end.  `isBlankText` asks of a whole text
whether it holds nothing else; a lone half of a surrogate pair is not blank.

Main statements: `trim_eq_nil_iff` says that trimming leaves nothing exactly
when every character is blank, and `trim_append_append` that blank margins
around a text with solid ends are removed and nothing else is.
-/

namespace Formulary.Text

/-- A blank character: white space of any script, or one of the four
information separators. -/
def isBlank (c : Char) : Bool :=
  let n := c.toNat
  (0x09 ≤ n && n ≤ 0x0D) || (0x1C ≤ n && n ≤ 0x20) || n == 0x85 || n == 0xA0 || n == 0x1680
    || (0x2000 ≤ n && n ≤ 0x200A) || n == 0x2028 || n == 0x2029 || n == 0x202F || n == 0x205F
    || n == 0x3000

/-- A blank that is white space: no information separator. -/
def isWhite (c : Char) : Bool := isBlank c && !(0x1C ≤ c.toNat && c.toNat ≤ 0x1F)

/-- A text without the characters of a kind at both its ends. -/
def trimWhere (p : Char → Bool) (s : List Char) : List Char :=
  ((s.dropWhile p).reverse.dropWhile p).reverse

/-- A text without its leading and trailing blanks. -/
def trim (s : List Char) : List Char := trimWhere isBlank s

/-- A string without its leading and trailing blanks. -/
def trimmed (s : String) : String :=
  String.ofList (trim s.toList)

/-- A text is blank when each of its code points is a blank character. -/
def isBlankText (t : Text) : Bool :=
  t.points.all (CodePoint.satisfies isBlank)

/-- A text without one line feed at its end. -/
def dropLineEnd (s : List Char) : List Char :=
  if s.getLast? = some '\n' then s.dropLast else s

theorem isBlank_of_isWhitespace {c : Char} (h : c.isWhitespace) : isBlank c := by
  simp only [Char.isWhitespace, Bool.or_eq_true, decide_eq_true_eq] at h
  rcases h with ((h | h) | h) | h <;> subst h <;> decide

theorem dropWhile_eq_nil_iff (p : Char → Bool) (s : List Char) :
    s.dropWhile p = [] ↔ ∀ c ∈ s, p c := by
  induction s with
  | nil => simp
  | cons c s ih =>
    by_cases h : p c <;> simp [h, ih]

theorem trim_eq_nil_iff (s : List Char) : trim s = [] ↔ ∀ c ∈ s, isBlank c := by
  constructor
  · intro h
    have hrest : ∀ c ∈ s.dropWhile isBlank, isBlank c := by
      have := (dropWhile_eq_nil_iff isBlank (s.dropWhile isBlank).reverse).1
        (by simpa [trim, trimWhere] using h)
      simpa using this
    intro c hc
    rw [← List.takeWhile_append_dropWhile (p := isBlank) (l := s), List.mem_append] at hc
    rcases hc with hc | hc
    · exact List.all_eq_true.1 List.all_takeWhile c hc
    · exact hrest c hc
  · intro h
    simp [trim, trimWhere, (dropWhile_eq_nil_iff isBlank s).2 h]

theorem isBlankText_ofString (s : String) : isBlankText s = s.toList.all isBlank := by
  rw [isBlankText, points_ofString, List.all_map]
  rfl

theorem trimmed_eq_empty_iff (s : String) : trimmed s = "" ↔ isBlankText s := by
  rw [trimmed, isBlankText_ofString, List.all_eq_true, ← trim_eq_nil_iff, ← String.ofList_nil,
    String.ofList_inj]

/-- Blank margins around a text with solid ends are what trimming removes. -/
theorem trim_append_append {p m s : List Char} (hp : ∀ c ∈ p, isBlank c) (hs : ∀ c ∈ s, isBlank c)
    (hhead : ∀ c ∈ m.head?, ¬isBlank c) (hlast : ∀ c ∈ m.getLast?, ¬isBlank c) :
    trim (p ++ m ++ s) = m := by
  cases m with
  | nil => exact (trim_eq_nil_iff _).2 (by simpa [or_imp, forall_and] using ⟨hp, hs⟩)
  | cons c m =>
    have hsolid : ∀ t : List Char, (c :: m ++ t).dropWhile isBlank = c :: m ++ t := by
      intro t
      simp [hhead c (by simp)]
    have hrev : (c :: m).reverse.dropWhile isBlank = (c :: m).reverse := by
      cases hr : (c :: m).reverse with
      | nil => rfl
      | cons d r =>
        have hd : d ∈ (c :: m).getLast? := by
          rw [← List.head?_reverse, hr]; simp
        simp [List.dropWhile, hlast d hd]
    rw [trim, trimWhere, List.append_assoc, List.dropWhile_append_of_pos hp, hsolid,
      List.reverse_append,
      List.dropWhile_append_of_pos (by simpa using hs), hrev, List.reverse_reverse]

end Formulary.Text
