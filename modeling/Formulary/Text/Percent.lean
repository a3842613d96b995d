import Formulary.Text.Hex
import Formulary.Text.Utf8

/-!
# Percent-encoding

Text in which octets are written as a percent sign and two hexadecimal digits.
A percent sign that no such digits follow stands for itself.
-/

namespace Formulary.Text

/-- The octets that a percent-encoded text stands for. -/
def percentOctets : List Char → List Nat
  | [] => []
  | '%' :: h :: l :: rest =>
    match hexValue? h, hexValue? l with
    | some high, some low => (16 * high + low) :: percentOctets rest
    | _, _ => octets '%' ++ percentOctets (h :: l :: rest)
  | c :: rest => octets c ++ percentOctets rest
termination_by s => s.length

/-- The text that a percent-encoded text stands for. -/
def percentDecoded (s : List Char) : String := String.ofList (ofOctets (percentOctets s))

end Formulary.Text
