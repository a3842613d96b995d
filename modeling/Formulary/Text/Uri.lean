import Formulary.Text.DateTime
import Formulary.Text.Hex

/-!
# Uniform resource identifiers

The texts that are an absolute URI in ASCII: a scheme, a colon, an authority or a
path, and perhaps a query and a fragment.  Every character outside the allowed
ones has to be percent-encoded.  An IP address of version 6 stands in brackets,
without a zone.  One line feed at the end is let pass.
-/

namespace Formulary.Text.Uri

/-! ## Characters -/

/-- An ASCII letter. -/
def isLetter (c : Char) : Bool := c.isAlpha

/-- Letters, digits, `-`, `.`, `_` and `~`. -/
def isUnreserved (c : Char) : Bool :=
  isLetter c || c.isDigit || c = '-' || c = '.' || c = '_' || c = '~'

/-- The delimiters that may stand inside a part. -/
def isSubDelimiter (c : Char) : Bool := "!$&\x27()*+,;=".toList.contains c

/-- The characters of a registered name. -/
def isNameChar (c : Char) : Bool := isUnreserved c || isSubDelimiter c

/-- The characters of a user part. -/
def isUserChar (c : Char) : Bool := isNameChar c || c = ':'

/-- The characters of a path segment. -/
def isSegmentChar (c : Char) : Bool := isUserChar c || c = '@'

/-- The characters of a query or a fragment. -/
def isQueryChar (c : Char) : Bool := isSegmentChar c || c = '/' || c = '?'

/-- A hexadecimal digit. -/
def isHexDigit (c : Char) : Bool := (hexValue? c).isSome

/-- A text of allowed characters and percent-encoded octets. -/
def isEncoded (allowed : Char → Bool) : List Char → Bool
  | [] => true
  | '%' :: a :: b :: rest => isHexDigit a && isHexDigit b && isEncoded allowed rest
  | c :: rest => c != '%' && allowed c && isEncoded allowed rest

/-! ## Splitting -/

/-- A text cut at the first of a character, which belongs to neither part. -/
def cut (at_ : Char) : List Char → List Char × Option (List Char)
  | [] => ([], none)
  | c :: rest =>
    if c = at_ then ([], some rest)
    else
      let (before, after) := cut at_ rest
      (c :: before, after)

/-- A text split at every occurrence of a character. -/
def splitAt (sep : Char) : List Char → List (List Char)
  | [] => [[]]
  | c :: rest =>
    if c = sep then [] :: splitAt sep rest
    else match splitAt sep rest with
      | [] => [[c]]
      | part :: parts => (c :: part) :: parts

/-- A text cut at its first double colon. -/
def cutDoubleColon : List Char → Option (List Char × List Char)
  | ':' :: ':' :: rest => some ([], rest)
  | c :: rest => (cutDoubleColon rest).map fun (before, after) => (c :: before, after)
  | [] => none

/-! ## Addresses -/

/-- One of the four numbers of an address of version 4: up to three digits, at
most 255. -/
def isOctet (s : List Char) : Bool :=
  1 ≤ s.length && s.length ≤ 3 && s.all Char.isDigit
    && s.foldl (fun n c => 10 * n + (c.toNat - 0x30)) 0 ≤ 255

/-- An address of version 4. -/
def isIpv4 (s : List Char) : Bool :=
  let parts := splitAt '.' s
  parts.length == 4 && parts.all isOctet

/-- A group of an address of version 6: one to four hexadecimal digits. -/
def isHexGroup (s : List Char) : Bool :=
  1 ≤ s.length && s.length ≤ 4 && s.all isHexDigit

/-- How many groups of sixteen bits a list of parts fills; the last part may be an
address of version 4, which fills two. -/
def groupCount? : List (List Char) → Option Nat
  | [] => some 0
  | [last] => if isHexGroup last then some 1 else if isIpv4 last then some 2 else none
  | part :: rest => if isHexGroup part then (groupCount? rest).map (· + 1) else none

/-- An address of version 6: eight groups, or fewer around one double colon, which
stands for at least one group of zeros.  Before the colons there is no address
of version 4. -/
def isIpv6 (s : List Char) : Bool :=
  let partsOf (s : List Char) := if s.isEmpty then [] else splitAt ':' s
  match cutDoubleColon s with
  | none => groupCount? (splitAt ':' s) == some 8
  | some (before, after) =>
    let left := partsOf before
    left.all isHexGroup &&
      match groupCount? (partsOf after) with
      | some count => left.length + count ≤ 7
      | none => false

/-- An address of a future version: `v`, a hexadecimal version, a point and the
address itself. -/
def isIpFuture (s : List Char) : Bool :=
  match s with
  | c :: rest =>
    c = 'v' &&
      match cut '.' rest with
      | (version, some address) =>
        !version.isEmpty && version.all isHexDigit && !address.isEmpty && address.all isUserChar
      | _ => false
  | [] => false

/-! ## Parts -/

/-- Nothing, or a colon and the digits of a port. -/
def isPortPart : Option (List Char) → Bool
  | none => true
  | some digits => digits.all Char.isDigit

/-- A host with an optional port. -/
def isHostPort (s : List Char) : Bool :=
  match s with
  | '[' :: rest =>
    match cut ']' rest with
    | (address, some after) =>
      (isIpv6 address || isIpFuture address) &&
        match after with
        | [] => true
        | c :: digits => c = ':' && digits.all Char.isDigit
    | _ => false
  | _ =>
    let (host, port) := cut ':' s
    isEncoded isNameChar host && isPortPart port

/-- An authority: perhaps a user part and an at sign, then a host. -/
def isAuthority (s : List Char) : Bool :=
  match cut '@' s with
  | (user, some host) => isEncoded isUserChar user && isHostPort host
  | (host, none) => isHostPort host

/-- The segments of a path. -/
def isPath (s : List Char) : Bool := (splitAt '/' s).all (isEncoded isSegmentChar)

/-- What follows the scheme: an authority and a path, or a path alone, which does
not start with two slashes. -/
def isHierarchy (s : List Char) : Bool :=
  match s with
  | '/' :: '/' :: rest =>
    let (authority, path) := cut '/' rest
    isAuthority authority && (path.map isPath).getD true
  | _ => isPath s

/-- A scheme: a letter, then letters, digits, `+`, `.` and `-`. -/
def isScheme : List Char → Bool
  | [] => false
  | c :: rest => isLetter c && rest.all fun c => isLetter c || c.isDigit || "+.-".toList.contains c

end Uri

/-- A uniform resource identifier. -/
def isUri (text : String) : Bool :=
  let (s, fragment) := Uri.cut '#' (dropLineEnd text.toList)
  let (s, query) := Uri.cut '?' s
  match Uri.cut ':' s with
  | (scheme, some hierarchy) =>
    Uri.isScheme scheme && Uri.isHierarchy hierarchy
      && (query.map (Uri.isEncoded Uri.isQueryChar)).getD true
      && (fragment.map (Uri.isEncoded Uri.isQueryChar)).getD true
  | _ => false

end Formulary.Text
