import Formulary.Http.Route
import Formulary.Server
import Mathlib.Data.List.Basic

/-!
# Paths of routes

Where a route stands.  A path of ASCII without percent signs is decoded to itself, so a
route is found at the path that is made of its words and its id.

* `Text.percentDecoded_of_plain` is about decoding, `segments_flatMap` about the slashes.
* `Route.ofPath?_path` says that every route with a plain id is found at its path, and
  `isPlainId_idOf` that the ids that rows are given are plain.
-/

namespace Formulary

namespace Text

/-- A character of ASCII that percent-encoding leaves alone. -/
def IsPlainChar (c : Char) : Prop := c.toNat < 0x80 ∧ c ≠ '%'

instance : DecidablePred IsPlainChar := fun _ => inferInstanceAs (Decidable (_ ∧ _))

theorem octets_of_lt {c : Char} (h : c.toNat < 0x80) : octets c = [c.toNat] := by
  have hle : c.val.toNat ≤ 127 := Nat.le_of_lt_succ h
  have hmod : c.val.toNat % 256 = c.val.toNat := Nat.mod_eq_of_lt (by omega)
  unfold octets String.utf8EncodeChar
  dsimp only
  rw [if_pos hle, List.map_singleton, UInt8.toNat_ofNat', hmod]
  rfl

theorem percentOctets_of_plain {s : List Char} (h : ∀ c ∈ s, IsPlainChar c) :
    percentOctets s = s.map Char.toNat := by
  induction s with
  | nil => rw [percentOctets, List.map_nil]
  | cons c rest ih =>
    obtain ⟨⟨hascii, hsign⟩, hrest⟩ := List.forall_mem_cons.1 h
    rw [percentOctets, octets_of_lt hascii, ih hrest]
    · rfl
    · exact fun _ _ _ heq _ => hsign heq

theorem ofOctets_of_ascii {s : List Char} (h : ∀ c ∈ s, c.toNat < 0x80) :
    ofOctets (s.map Char.toNat) = s := by
  induction s with
  | nil => rw [List.map_nil, ofOctets]
  | cons c rest ih =>
    obtain ⟨hc, hrest⟩ := List.forall_mem_cons.1 h
    rw [List.map_cons, ofOctets, if_pos hc, ih hrest, Char.ofNat_toNat]

/-- A text of plain characters stands for itself. -/
theorem percentDecoded_of_plain {s : List Char} (h : ∀ c ∈ s, IsPlainChar c) :
    percentDecoded s = String.ofList s := by
  unfold percentDecoded
  rw [percentOctets_of_plain h, ofOctets_of_ascii fun c hc => (h c hc).1]

end Text

namespace Http

/-- The parts of a path are what stands after its slashes. -/
theorem segments_flatMap {parts : List (List Char)} (h : ∀ part ∈ parts, '/' ∉ part) :
    segments (parts.flatMap ('/' :: ·)) = [] :: parts := by
  have hjoin (first : List Char) (rest : List (List Char)) :
      ['/'].intercalate (first :: rest) = first ++ rest.flatMap ('/' :: ·) := by
    induction rest generalizing first with
    | nil => simp [List.intercalate]
    | cons second rest ih =>
      have hstep : ['/'].intercalate (first :: second :: rest)
          = first ++ ['/'] ++ ['/'].intercalate (second :: rest) := by
        simp [List.intercalate, List.intersperse]
      rw [hstep, ih, List.flatMap_cons]
      simp
  have hsplit : (['/'].intercalate ([] :: parts)).splitOn '/' = [] :: parts :=
    List.splitOn_intercalate '/' (List.forall_mem_cons.2 ⟨List.not_mem_nil, h⟩)
      (List.cons_ne_nil _ _)
  rwa [hjoin, List.nil_append] at hsplit

/-- An id of plain characters that is one part of a path. -/
structure IsPlainId (id : String) : Prop where
  ne_empty : id.toList ≠ []
  plain : ∀ c ∈ id.toList, Text.IsPlainChar c
  no_slash : '/' ∉ id.toList

instance (id : String) : Decidable (IsPlainId id) :=
  have : Decidable (∀ c ∈ id.toList, Text.IsPlainChar c) := List.decidableBAll _ _
  decidable_of_iff
    (id.toList ≠ [] ∧ (∀ c ∈ id.toList, Text.IsPlainChar c) ∧ '/' ∉ id.toList)
    ⟨fun h => ⟨h.1, h.2.1, h.2.2⟩, fun h => ⟨h.ne_empty, h.plain, h.no_slash⟩⟩

theorem length_hexDigits (width n : Nat) : (Text.hexDigits width n).length = width := by
  induction width generalizing n with
  | zero => rfl
  | succ width ih => rw [Text.hexDigits, List.length_append, ih, List.length_singleton]

/-- The ids that rows are given are plain. -/
theorem isPlainId_idOf (n : Nat) : IsPlainId (idOf n) := by
  have hdigit : ∀ d < 16, (Text.hexChar d).toNat < 0x80 ∧ Text.hexChar d ≠ '%'
      ∧ Text.hexChar d ≠ '/' := by decide
  have hdigits (width n : Nat) : ∀ c ∈ Text.hexDigits width n,
      c.toNat < 0x80 ∧ c ≠ '%' ∧ c ≠ '/' := by
    induction width generalizing n with
    | zero => simp [Text.hexDigits]
    | succ width ih =>
      rw [Text.hexDigits, List.forall_mem_append, List.forall_mem_singleton]
      exact ⟨ih _, hdigit _ (Nat.mod_lt n (by decide))⟩
  have hlist : (idOf n).toList = Text.hexDigits 32 n := String.toList_ofList
  refine ⟨?_, ?_, ?_⟩ <;> rw [hlist]
  · exact List.ne_nil_of_length_pos (by rw [length_hexDigits]; decide)
  · exact fun c hc => ⟨(hdigits 32 n c hc).1, (hdigits 32 n c hc).2.1⟩
  · exact fun hc => (hdigits 32 n '/' hc).2.2 rfl

namespace Route

/-- The parts of the path at which a route stands. -/
def parts : Route → List String
  | self => ["api", "self"]
  | templates => ["api", "document-templates"]
  | template id => ["api", "document-templates", id]
  | templateSchema id => ["api", "document-templates", id, "schema"]
  | documents => ["api", "documents"]
  | document id => ["api", "documents", id]
  | resolvedDocument id => ["api", "documents", id, "resolved"]

/-- The path at which a route stands. -/
def path (route : Route) : String :=
  String.ofList (route.parts.flatMap fun part => '/' :: part.toList)

/-- The id in a route. -/
def id? : Route → Option String
  | template id | templateSchema id | document id | resolvedDocument id => some id
  | _ => none

/-- The parts of a route with a plain id are plain. -/
theorem isPlainId_part {route : Route} (hid : ∀ id ∈ route.id?, IsPlainId id) :
    ∀ part ∈ route.parts, IsPlainId part := by
  have hword : ∀ word ∈ ["api", "self", "document-templates", "documents", "schema", "resolved"],
      IsPlainId word := by decide +kernel
  cases route <;> simp [parts, id?] at hid ⊢ <;> simp [hword, hid]

/-- A route with a plain id is found at its path. -/
theorem ofPath?_path {route : Route} (hid : ∀ id ∈ route.id?, IsPlainId id) :
    ofPath? (decodedPath route.path) = some route := by
  have hparts := isPlainId_part hid
  have hplain : ∀ c ∈ route.path.toList, Text.IsPlainChar c := by
    intro c hc
    rw [path, String.toList_ofList, List.mem_flatMap] at hc
    obtain ⟨part, hpart, hc⟩ := hc
    rcases List.mem_cons.1 hc with rfl | hc
    · exact ⟨by decide, by decide⟩
    · exact (hparts part hpart).plain c hc
  have hsegments : segments route.path.toList = [] :: route.parts.map String.toList := by
    rw [path, String.toList_ofList, ← segments_flatMap, List.flatMap_map]
    simpa using fun part hpart => (hparts part hpart).no_slash
  rw [decodedPath, Text.percentDecoded_of_plain hplain, String.ofList_toList, ofPath?, hsegments]
  have hne : ∀ id ∈ route.id?, id ≠ "" := by
    rintro id h rfl
    exact (hid _ h).ne_empty rfl
  -- the fixed words are compared letter by letter
  cases route <;> simp [parts, id?, ofCollection?, isWord, Text.dropLineEnd] at hne ⊢ <;>
    simp [hne]

end Route

end Http

end Formulary
