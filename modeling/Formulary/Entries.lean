import Formulary.Text.Basic

/-!
# Named entries in order

Lists of named values, as objects, field groups and schema properties are kept:
in the order in which the names were first given, each name once.

Main statements: `get?_put` gives every look-up after a `put`, and `keys_put`
says that a new name goes to the end and a known one stays where it is.
-/

namespace Formulary

/-- Values under names, in order. -/
abbrev Entries (α : Type) := List (Text × α)

namespace Entries

variable {α : Type}

/-- The names, in order. -/
def keys (entries : Entries α) : List Text := entries.map Prod.fst

/-- The value under a name. -/
def get? : Entries α → Text → Option α
  | [], _ => none
  | (k, a) :: rest, name => if k = name then some a else get? rest name

/-- A name is among the entries. -/
def has (entries : Entries α) (name : Text) : Bool := (entries.get? name).isSome

/-- The value under a name put in the place of the old one, or at the end. -/
def put : Entries α → Text → α → Entries α
  | [], name, a => [(name, a)]
  | (k, b) :: rest, name, a => if k = name then (k, a) :: rest else (k, b) :: put rest name a

/-- Entries of a list in which a later value replaces an earlier one of the same
name. -/
def ofList (pairs : List (Text × α)) : Entries α :=
  pairs.foldl (fun entries pair => entries.put pair.1 pair.2) []

/-- The values changed, the names kept. -/
def mapValues {β : Type} (f : α → β) (entries : Entries α) : Entries β :=
  entries.map fun entry => (entry.1, f entry.2)

@[simp] theorem get?_nil (name : Text) : get? ([] : Entries α) name = none := rfl

@[simp] theorem get?_cons (k name : Text) (a : α) (rest : Entries α) :
    get? ((k, a) :: rest) name = if k = name then some a else get? rest name := rfl

theorem get?_put (entries : Entries α) (k name : Text) (a : α) :
    get? (put entries k a) name = if k = name then some a else get? entries name := by
  induction entries with
  | nil => rfl
  | cons entry rest ih =>
    by_cases hk : entry.1 = k
    · subst hk
      by_cases hn : entry.1 = name <;> simp [put, get?, hn]
    · by_cases hn : entry.1 = name
      · subst hn
        simp [put, get?, hk, Ne.symm hk]
      · simp [put, get?, hk, hn, ih]

theorem get?_isSome_iff (entries : Entries α) (name : Text) :
    (get? entries name).isSome ↔ name ∈ keys entries := by
  induction entries with
  | nil => simp [keys]
  | cons entry rest ih =>
    by_cases h : entry.1 = name
    · simp [get?, keys, h]
    · simp [get?, keys, h, Ne.symm h, ih]

theorem has_iff (entries : Entries α) (name : Text) :
    has entries name ↔ name ∈ keys entries :=
  get?_isSome_iff entries name

theorem keys_put (entries : Entries α) (k : Text) (a : α) :
    keys (put entries k a) = if k ∈ keys entries then keys entries else keys entries ++ [k] := by
  induction entries with
  | nil => simp [put, keys]
  | cons entry rest ih =>
    by_cases h : entry.1 = k
    · simp [put, keys, h]
    · simp only [keys] at ih
      simp only [put, h, if_false, keys, List.map_cons, ih, List.mem_cons, Ne.symm h, false_or]
      split <;> simp [*]

/-- A new name goes to the end. -/
theorem put_of_not_mem {entries : Entries α} {k : Text} (h : k ∉ keys entries) (a : α) :
    put entries k a = entries ++ [(k, a)] := by
  induction entries with
  | nil => rfl
  | cons entry rest ih =>
    have hne : entry.1 ≠ k := fun heq => h (by simp [keys, heq])
    have hrest : k ∉ keys rest := fun hmem => h (List.mem_cons_of_mem _ hmem)
    simp [put, hne, ih hrest]

theorem nodup_keys_put {entries : Entries α} (h : (keys entries).Nodup) (k : Text) (a : α) :
    (keys (put entries k a)).Nodup := by
  rw [keys_put]
  split
  · exact h
  · rename_i hk
    rw [List.nodup_append]
    refine ⟨h, by simp, ?_⟩
    intro name hname b hb
    rw [List.mem_singleton] at hb
    subst hb
    exact fun heq => hk (heq ▸ hname)

theorem nodup_keys_ofList (pairs : List (Text × α)) : (keys (ofList pairs)).Nodup := by
  suffices h : ∀ entries : Entries α, (keys entries).Nodup →
      (keys (pairs.foldl (fun entries pair => entries.put pair.1 pair.2) entries)).Nodup from
    h [] (by simp [keys])
  induction pairs with
  | nil => exact fun _ h => h
  | cons pair pairs ih => exact fun entries h => ih _ (nodup_keys_put h _ _)

@[simp] theorem keys_mapValues {β : Type} (f : α → β) (entries : Entries α) :
    keys (mapValues f entries) = keys entries := by
  simp [keys, mapValues]

theorem get?_mapValues {β : Type} (f : α → β) (entries : Entries α) (name : Text) :
    get? (mapValues f entries) name = (get? entries name).map f := by
  induction entries with
  | nil => rfl
  | cons entry rest ih =>
    by_cases h : entry.1 = name
    · simp [mapValues, get?, h]
    · simpa [mapValues, get?, h] using ih

end Entries

end Formulary
