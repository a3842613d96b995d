/-!
# Octets as text

UTF-8 read leniently: where no character stands, the longest beginning of one,
or else a single octet, gives a replacement character, and reading goes on after
it.
-/

namespace Formulary.Text

/-- What the first octet of a longer sequence says about the rest. -/
structure Lead where
  /-- The high bits of the character. -/
  bits : Nat
  /-- How many octets follow. -/
  count : Nat
  /-- The least octet that may come next. -/
  low : Nat
  /-- The greatest octet that may come next. -/
  high : Nat

/-- The octets that start a sequence of two to four.  The ranges leave out
characters in too many octets, surrogates and what lies beyond Unicode. -/
def lead? (b : Nat) : Option Lead :=
  if 0xC2 ≤ b && b ≤ 0xDF then some ⟨b - 0xC0, 1, 0x80, 0xBF⟩
  else if b = 0xE0 then some ⟨0, 2, 0xA0, 0xBF⟩
  else if b = 0xED then some ⟨0xD, 2, 0x80, 0x9F⟩
  else if 0xE1 ≤ b && b ≤ 0xEF then some ⟨b - 0xE0, 2, 0x80, 0xBF⟩
  else if b = 0xF0 then some ⟨0, 3, 0x90, 0xBF⟩
  else if 0xF1 ≤ b && b ≤ 0xF3 then some ⟨b - 0xF0, 3, 0x80, 0xBF⟩
  else if b = 0xF4 then some ⟨4, 3, 0x80, 0x8F⟩
  else none

/-- The code point that the following octets complete, unless one is missing, and
what comes after them. -/
def follow : (count low high bits : Nat) → List Nat → Option Nat × List Nat
  | 0, _, _, bits, rest => (some bits, rest)
  | _ + 1, _, _, _, [] => (none, [])
  | count + 1, low, high, bits, b :: rest =>
    if low ≤ b && b ≤ high then follow count 0x80 0xBF (bits * 64 + (b - 0x80)) rest
    else (none, b :: rest)

theorem length_follow_le (count low high bits : Nat) (s : List Nat) :
    (follow count low high bits s).2.length ≤ s.length := by
  induction count generalizing low high bits s with
  | zero => simp [follow]
  | succ count ih =>
    cases s with
    | nil => simp [follow]
    | cons b rest =>
      simp only [follow]
      split
      · exact Nat.le_trans (ih _ _ _ _) (by simp)
      · exact Nat.le_refl _

/-- The text of a sequence of octets. -/
def ofOctets : List Nat → List Char
  | [] => []
  | b :: rest =>
    if b < 0x80 then Char.ofNat b :: ofOctets rest
    else match lead? b with
      | none => '\uFFFD' :: ofOctets rest
      | some lead =>
        let step := follow lead.count lead.low lead.high lead.bits rest
        (step.1.map Char.ofNat).getD '\uFFFD' :: ofOctets step.2
termination_by s => s.length
decreasing_by
  · simp
  · simp
  · exact Nat.lt_succ_of_le (length_follow_le _ _ _ _ _)

/-- The octets of a character. -/
def octets (c : Char) : List Nat := (String.utf8EncodeChar c).map UInt8.toNat

end Formulary.Text
