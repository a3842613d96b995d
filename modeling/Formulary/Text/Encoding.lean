import Formulary.Text.CodePoint
import Formulary.Text.Utf8

/-!
# Encodings of a JSON text

A JSON text comes as octets in one of the Unicode encodings, and starts with
characters of ASCII, so that the zeros among its first octets show which encoding
it is.  Reading fails when the octets are not a whole number of code units, or a
code unit is beyond Unicode; a lone half of a surrogate pair is let pass.
-/

namespace Formulary.Text

/-- The order of the octets of a code unit. -/
inductive ByteOrder where
  | bigEndian
  | littleEndian
deriving DecidableEq, Inhabited, Repr

/-- An encoding of Unicode. -/
inductive Encoding where
  | utf8
  | utf16 (order : ByteOrder)
  | utf32 (order : ByteOrder)
deriving DecidableEq, Inhabited, Repr

/-- The number that octets stand for, the first one at the high end or at the low
end. -/
def ByteOrder.number : ByteOrder → List Nat → Nat
  | .bigEndian, octets => octets.foldl (fun n b => n * 256 + b) 0
  | .littleEndian, octets => octets.foldr (fun b n => n * 256 + b) 0

/-- The code units of two octets each, if the octets are paired. -/
def units16? (order : ByteOrder) : List Nat → Option (List Nat)
  | [] => some []
  | a :: b :: rest => (units16? order rest).map (order.number [a, b] :: ·)
  | _ => none

/-- The code units of four octets each, if the octets come in fours. -/
def units32? (order : ByteOrder) : List Nat → Option (List Nat)
  | [] => some []
  | a :: b :: c :: d :: rest => (units32? order rest).map (order.number [a, b, c, d] :: ·)
  | _ => none

/-- The code points of code units of UTF-16. -/
def ofUnits16 : List Nat → List CodePoint
  | [] => []
  | [unit] => [.ofNat unit]
  | high :: low :: rest =>
    if CodePoint.isHighHalf high && CodePoint.isLowHalf low then
      .ofPair high low :: ofUnits16 rest
    else .ofNat high :: ofUnits16 (low :: rest)

namespace Encoding

/-- The encoding that the first octets of a JSON text show. -/
def ofOctets : List Nat → Encoding
  | 0 :: 0 :: _ :: _ :: _ => .utf32 .bigEndian
  | 0 :: _ :: _ :: _ :: _ => .utf16 .bigEndian
  | _ :: 0 :: 0 :: 0 :: _ => .utf32 .littleEndian
  | _ :: 0 :: _ :: _ :: _ => .utf16 .littleEndian
  | [0, _] => .utf16 .bigEndian
  | [_, 0] => .utf16 .littleEndian
  | _ => .utf8

/-- The code points of octets in an encoding. -/
def decode? : Encoding → List Nat → Option (List CodePoint)
  | .utf8, octets => some ((Text.ofOctets octets).map .char)
  | .utf16 order, octets => (units16? order octets).map ofUnits16
  | .utf32 order, octets =>
    ((units32? order octets).filter fun units => units.all (· ≤ 0x10FFFF)).map
      fun units => units.map .ofNat

end Encoding

example : Encoding.ofOctets [0x7B, 0, 0x7D, 0] = .utf16 .littleEndian := rfl
example : Encoding.decode? (.utf16 .littleEndian) [0x7B, 0, 0x7D, 0]
    = some [.char '\x7b', .char '\x7d'] := by
  decide
example : Encoding.decode? (.utf16 .littleEndian) [0x7B, 0, 0x7D] = none := rfl

end Formulary.Text
