import Formulary.Proofs.Schema.Definitions

/-!
# The last definition of a field

Whether it is the last definition of a field that counts.

* `lastDefinitions` leaves of each field its last definition, where the field first occurs.
* `requiredAtLast` says whether that definition requires the field; `Agree` that every
  definition says of the field what the last one says.
* `compile_lastDefinitions` compares the two schemas: the properties are those of the last
  definitions, but an earlier definition may make a field required, or required earlier.
-/

namespace Formulary

/-! ## Lists without repetitions -/

section

variable {α : Type} [DecidableEq α]

theorem eraseDups_filter (p : α → Bool) (as : List α) :
    (as.filter p).eraseDups = as.eraseDups.filter p := by
  induction as using List.reverseRecOn with
  | nil => rfl
  | append_singleton as a ih =>
    rw [List.filter_append, eraseDups_append_singleton]
    by_cases hp : p a = true
    · rw [List.filter_cons_of_pos hp, List.filter_nil, eraseDups_append_singleton]
      by_cases ha : a ∈ as
      · rw [if_pos ha, if_pos (List.mem_filter.2 ⟨ha, hp⟩), ih]
      · rw [if_neg ha, if_neg fun h => ha (List.mem_filter.1 h).1, List.filter_append, ih,
          List.filter_cons_of_pos hp, List.filter_nil]
    · rw [List.filter_cons_of_neg hp, List.filter_nil, List.append_nil]
      by_cases ha : a ∈ as
      · rw [if_pos ha, ih]
      · rw [if_neg ha, List.filter_append, ih, List.filter_cons_of_neg hp, List.filter_nil,
          List.append_nil]

/-- A part of a list without repetitions holds what it holds in the order of the list. -/
theorem eq_filter_of_sublist {as bs : List α} (h : as.Sublist bs) (hnodup : bs.Nodup) :
    as = bs.filter (· ∈ as) := by
  induction h with
  | slnil => rfl
  | @cons as bs b h ih =>
    obtain ⟨hb, hbs⟩ := List.nodup_cons.1 hnodup
    have hnot : b ∉ as := fun hmem => hb (h.subset hmem)
    rw [List.filter_cons_of_neg (by simpa using hnot)]
    exact ih hbs
  | @cons_cons as bs b h ih =>
    obtain ⟨hb, hbs⟩ := List.nodup_cons.1 hnodup
    rw [List.filter_cons_of_pos (by simp)]
    refine congrArg (b :: ·) ((ih hbs).trans (List.filter_congr fun c hc => ?_))
    have hne : c ≠ b := fun heq => hb (heq ▸ hc)
    simp [hne]

end

/-- Entries are known by their names, in order, and what is under them. -/
theorem Entries.ext_get? {α : Type} {as bs : Entries α} (hkeys : as.keys = bs.keys)
    (hnodup : as.keys.Nodup) (hget : ∀ name, as.get? name = bs.get? name) : as = bs := by
  induction as generalizing bs with
  | nil =>
    cases bs with
    | nil => rfl
    | cons b bs => cases hkeys
  | cons a as ih =>
    obtain ⟨k, x⟩ := a
    cases bs with
    | nil => cases hkeys
    | cons b bs =>
      obtain ⟨l, y⟩ := b
      obtain ⟨rfl, hrest⟩ : k = l ∧ keys as = keys bs := List.cons.inj hkeys
      obtain ⟨hk, hnodup⟩ := List.nodup_cons.1 hnodup
      have hxy : x = y := by
        have hhead := hget k
        rw [get?_cons, get?_cons, if_pos rfl, if_pos rfl] at hhead
        exact Option.some.inj hhead
      have htail : as = bs := by
        refine ih hrest hnodup fun name => ?_
        by_cases hname : k = name
        · -- Neither has the name that stands before them.
          subst hname
          have hnone {es : Entries α} (h : k ∉ keys es) : get? es k = none := by
            rw [← Option.not_isSome_iff_eq_none, get?_isSome_iff]
            exact h
          rw [hnone hk, hnone (hrest ▸ hk)]
        · have hname' := hget name
          rwa [get?_cons, get?_cons, if_neg hname, if_neg hname] at hname'
      rw [hxy, htail]

namespace GroupSchema

variable {askNonEmpty : AskNonEmpty} {title : Value} {fields : List Value}
  {g last : GroupSchema} {field : Value} {name : Text}

/-! ## Last definitions -/

theorem definition?_of_nodup (hnodup : (names fields).Nodup) (hfield : field ∈ fields)
    (hname : usableName? field = some name) : definition? fields name = some field := by
  induction fields using List.reverseRecOn with
  | nil => cases hfield
  | append_singleton fields last ih =>
    rw [definition?_append_singleton]
    rw [names_append_singleton] at hnodup
    obtain ⟨hfields, -, hdisjoint⟩ := List.nodup_append.1 hnodup
    rcases List.mem_append.1 hfield with hmem | hmem
    · have hother : usableName? last ≠ some name := by
        intro hlast
        exact hdisjoint name (List.mem_filterMap.2 ⟨field, hmem, hname⟩) name
          (Option.mem_toList.2 hlast) rfl
      rw [if_neg hother, ih hfields hmem]
    · obtain rfl := List.mem_singleton.1 hmem
      rw [if_pos hname]

/-- The last definition of a field requires it. -/
def requiredAtLast (fields : List Value) (name : Text) : Bool :=
  (definition? fields name).any isRequired

theorem mem_requiredNames_of_last (h : requiredAtLast fields name = true) :
    name ∈ requiredNames fields := by
  obtain ⟨field, hfield, hrequired⟩ := (Option.any_eq_true _ _).1 h
  obtain ⟨hmem, hname⟩ := of_definition?_eq_some hfield
  exact mem_requiredNames.2 ⟨field, hmem, hname, hrequired⟩

/-- Every definition of a field says of it what its last one says. -/
def Agree (fields : List Value) : Prop :=
  ∀ field ∈ fields, ∀ name ∈ usableName? field, isRequired field = requiredAtLast fields name

instance (fields : List Value) : Decidable (Agree fields) :=
  inferInstanceAs (Decidable (∀ field ∈ fields, ∀ name ∈ usableName? field, _ = _))

theorem agree_of_nodup (h : (names fields).Nodup) : Agree fields := by
  intro field hfield name hname
  unfold requiredAtLast
  rw [definition?_of_nodup h hfield hname]
  rfl

theorem requiredNames_of_agree (h : Agree fields) :
    requiredNames fields = (names fields).filter (requiredAtLast fields) := by
  unfold requiredNames names
  rw [List.filterMap_filter, List.filter_filterMap]
  refine List.filterMap_congr fun field hfield => ?_
  cases hname : usableName? field with
  | none => simp
  | some name =>
    rw [h field hfield name hname, Option.filter_some]

/-- The last definition of each field, where the field first occurs. -/
def lastDefinitions (fields : List Value) : List Value :=
  (names fields).eraseDups.filterMap (definition? fields)

theorem names_lastDefinitions (fields : List Value) :
    names (lastDefinitions fields) = (names fields).eraseDups := by
  have hown : ∀ name ∈ (names fields).eraseDups,
      (definition? fields name).bind usableName? = some name := by
    intro name hname
    obtain ⟨field, hfield⟩ := Option.isSome_iff_exists.1
      (definition?_isSome_iff.2 (List.mem_eraseDups.1 hname))
    rw [hfield]
    exact (of_definition?_eq_some hfield).2
  unfold lastDefinitions
  rw [names, List.filterMap_filterMap, List.filterMap_congr hown, List.filterMap_some]

theorem nodup_names_lastDefinitions (fields : List Value) :
    (names (lastDefinitions fields)).Nodup := by
  rw [names_lastDefinitions]
  exact nodup_eraseDups _

theorem definition?_lastDefinitions (fields : List Value) :
    definition? (lastDefinitions fields) = definition? fields := by
  funext name
  cases hfield : definition? fields name with
  | none =>
    have hname : name ∉ names (lastDefinitions fields) := by
      rw [names_lastDefinitions, List.mem_eraseDups, ← definition?_isSome_iff, hfield]
      exact Bool.false_ne_true
    rwa [← definition?_isSome_iff, Option.not_isSome_iff_eq_none] at hname
  | some field =>
    have hmem : name ∈ (names fields).eraseDups :=
      List.mem_eraseDups.2 (definition?_isSome_iff.1 (hfield ▸ rfl))
    exact definition?_of_nodup (nodup_names_lastDefinitions fields)
      (List.mem_filterMap.2 ⟨name, hmem, hfield⟩) (of_definition?_eq_some hfield).2

theorem requiredNames_lastDefinitions (fields : List Value) :
    requiredNames (lastDefinitions fields)
      = (names fields).eraseDups.filter (requiredAtLast fields) := by
  have hsame : requiredAtLast (lastDefinitions fields) = requiredAtLast fields := by
    unfold requiredAtLast
    rw [definition?_lastDefinitions]
  rw [requiredNames_of_agree (agree_of_nodup (nodup_names_lastDefinitions fields)),
    names_lastDefinitions, hsame]

theorem mem_of_mem_lastDefinitions (h : field ∈ lastDefinitions fields) : field ∈ fields := by
  obtain ⟨name, -, hfield⟩ := List.mem_filterMap.1 h
  exact (of_definition?_eq_some hfield).1

/-! ## Their schema -/

theorem Describes.nodup_keys (h : Describes askNonEmpty title fields g) :
    g.properties.keys.Nodup := by
  rw [h.keys]
  exact nodup_eraseDups _

theorem Describes.properties_lastDefinitions (h : Describes askNonEmpty title fields g)
    (hlast : Describes askNonEmpty title (lastDefinitions fields) last) :
    g.properties = last.properties := by
  refine Entries.ext_get? ?_ h.nodup_keys fun name => ?_
  · rw [h.keys, hlast.keys, names_lastDefinitions, eraseDups_of_nodup (nodup_eraseDups _)]
  · rw [h.property, hlast.property, definition?_lastDefinitions]

theorem Describes.required_lastDefinitions (h : Describes askNonEmpty title fields g)
    (hlast : Describes askNonEmpty title (lastDefinitions fields) last) :
    last.required = g.properties.keys.filter (requiredAtLast fields) := by
  rw [hlast.required, requiredNames_lastDefinitions, h.keys]
  exact eraseDups_of_nodup ((nodup_eraseDups _).filter _)

/-- What the last definition of a field requires is required. -/
theorem Describes.mem_required_of_last (h : Describes askNonEmpty title fields g)
    (hname : requiredAtLast fields name = true) : name ∈ g.required := by
  rw [h.required, List.mem_eraseDups]
  exact mem_requiredNames_of_last hname

/-- A group requires what the last definitions require, in the order of the properties, if each
name that it requires is one of these and they stand in that order. -/
theorem Describes.required_eq_filter_iff (h : Describes askNonEmpty title fields g) :
    g.required = g.properties.keys.filter (requiredAtLast fields)
      ↔ (∀ name ∈ g.required, requiredAtLast fields name = true)
        ∧ g.required.Sublist g.properties.keys := by
  constructor
  · intro heq
    exact ⟨fun name hname => (List.mem_filter.1 (heq ▸ hname)).2, heq ▸ List.filter_sublist⟩
  · rintro ⟨hlast, hsublist⟩
    rw [eq_filter_of_sublist hsublist h.nodup_keys]
    refine List.filter_congr fun name _ => ?_
    rw [Bool.eq_iff_iff, decide_eq_true_iff]
    exact ⟨hlast name, h.mem_required_of_last⟩

theorem Describes.required_of_agree (h : Describes askNonEmpty title fields g)
    (hagree : Agree fields) : g.required = g.properties.keys.filter (requiredAtLast fields) := by
  rw [h.required, requiredNames_of_agree hagree, eraseDups_filter, h.keys]

/-- The schema of fields beside that of the last definition of each.  Both have the same title
and the same properties, and what the last definitions require is required.  They are the same
if and only if nothing else is required and the required names stand in the order of the
properties, as they do where the definitions of a field agree on whether it is required. -/
theorem compile_lastDefinitions
    (h : ∀ field ∈ fields, ∀ v ∈ selectOptions? field, v.Iterable)
    (askNonEmpty : AskNonEmpty) (title : Value) :
    ∃ g last, (compile askNonEmpty title fields).result = .ok g
      ∧ (compile askNonEmpty title (lastDefinitions fields)).result = .ok last
      ∧ g.title = last.title
      ∧ g.properties = last.properties
      ∧ last.required = g.properties.keys.filter (requiredAtLast fields)
      ∧ (∀ name ∈ last.required, name ∈ g.required)
      ∧ (g = last ↔ (∀ name ∈ g.required, requiredAtLast fields name = true)
        ∧ g.required.Sublist g.properties.keys)
      ∧ (Agree fields → g = last) := by
  obtain ⟨g, hg, hdescribes⟩ := exists_describes h askNonEmpty title
  obtain ⟨last, hlast, hdescribesLast⟩ := exists_describes
    (fun field hfield => h field (mem_of_mem_lastDefinitions hfield)) askNonEmpty title
  have htitle : g.title = last.title := hdescribes.title.trans hdescribesLast.title.symm
  have hproperties := hdescribes.properties_lastDefinitions hdescribesLast
  have hrequired := hdescribes.required_lastDefinitions hdescribesLast
  have hsame : g = last ↔ g.required = g.properties.keys.filter (requiredAtLast fields) := by
    rw [← hrequired]
    refine ⟨congrArg GroupSchema.required, fun heq => ?_⟩
    cases g
    cases last
    cases htitle
    cases hproperties
    cases heq
    rfl
  refine ⟨g, last, hg, hlast, htitle, hproperties, hrequired, ?_,
    hsame.trans hdescribes.required_eq_filter_iff,
    fun hagree => hsame.2 (hdescribes.required_of_agree hagree)⟩
  intro name hname
  rw [hrequired] at hname
  exact hdescribes.mem_required_of_last (List.mem_filter.1 hname).2

/-- A name that is defined twice and required both times, between which another stands. -/
theorem compile_lastDefinitions_agreeing :
    let fields : List Value := [
      .object [("name", .str "a"), ("required", .bool true)],
      .object [("name", .str "b"), ("required", .bool true)],
      .object [("name", .str "a"), ("type", .str "number"), ("required", .int 1)]]
    (∀ field ∈ fields, ∀ v ∈ selectOptions? field, v.Iterable) ∧ Agree fields
      ∧ ∃ g, (compile true (.str "G") fields).result = .ok g
        ∧ (compile true (.str "G") (lastDefinitions fields)).result = .ok g
        ∧ g.required.Sublist g.properties.keys := by
  intro fields
  have h : ∀ field ∈ fields, ∀ v ∈ selectOptions? field, v.Iterable := by decide +kernel
  obtain ⟨g, last, hg, hlast, -, -, -, -, hsame, hagree⟩ :=
    compile_lastDefinitions h true (.str "G")
  have hfields : Agree fields := by decide +kernel
  obtain rfl := hagree hfields
  exact ⟨h, hfields, g, hg, hlast, (hsame.1 rfl).2⟩

/-- Where the last definition of a field does not require it the group does, if one before it
did; and the required names stand as they were first required, not as the properties do. -/
theorem earlier_definition_requires :
    let dropped : List Value := [
      .object [("name", .str "a"), ("required", .bool true)], .object [("name", .str "a")]]
    let late : List Value := [
      .object [("name", .str "a")], .object [("name", .str "b"), ("required", .bool true)],
      .object [("name", .str "a"), ("required", .bool true)]]
    let required (fields : List Value) : Except Fault (List Text) :=
      (compile true (.str "G") fields).result.map GroupSchema.required
    required dropped = .ok ["a"] ∧ required (lastDefinitions dropped) = .ok []
      ∧ required late = .ok ["b", "a"] ∧ required (lastDefinitions late) = .ok ["a", "b"]
      ∧ ¬ ∀ fields, (∀ field ∈ fields, ∀ v ∈ selectOptions? field, v.Iterable) →
        (compile true (.str "G") fields).result
          = (compile true (.str "G") (lastDefinitions fields)).result := by
  intro dropped late required
  have hdropped : required dropped = .ok ["a"] := by rfl
  have hlast : required (lastDefinitions dropped) = .ok [] := by rfl
  refine ⟨hdropped, hlast, by rfl, by rfl, fun hall => ?_⟩
  have hsame : required dropped = required (lastDefinitions dropped) :=
    congrArg (Except.map GroupSchema.required) (hall dropped (by decide +kernel))
  rw [hdropped, hlast] at hsame
  cases hsame

end GroupSchema

end Formulary
