import Mathlib.Data.List.Basic
import StaticGzip.Config.Load

/-! # Single assignments

A source of settings is a list of keys with trees of values. Laid over a tree it comes to a list of
single assignments, one for each value in it that is no table of other values. An empty table is
assigned too, but it only takes a place that nothing else holds.

What is held at the end of some keys after a source has been laid over a tree depends on the
assignments to that very place, as long as no assignment cuts the way there off or leads past its
end.

* **`Value.at?`** — the value at the end of some keys.
* **`assigned`** — the assignments of a source.
* **`Assignment.Suits`** — an assignment that does not get in the way of some keys.
* **`at?_overlay`** — a source changes a place by its assignments to the place. -/

namespace StaticGzip.Config

open KeyPath (entriesOf updateEntry put putEntries setSteps)

/-! ## Values at the end of keys -/

namespace Value

/-- The **value at the end of some keys**, one table further in with each key. -/
def at? : List String → Option Value → Option Value
  | [], held => held
  | key :: keys, held => at? keys (held.bind fun v => lookup key (entriesOf v))

/-- A table that was changed at one key has the changed value there. -/
@[simp] theorem at?_updateEntry_self (key : String) (keys : List String)
    (f : Option Value → Value) (v : Value) :
    at? (key :: keys) (some (updateEntry key f v))
      = at? keys (some (f (lookup key (entriesOf v)))) := by
  simp [at?, updateEntry, entriesOf]

/-- A table that was changed at one key is the same at every other one. -/
theorem at?_updateEntry_of_ne {key other : String} (h : other ≠ key) (keys : List String)
    (f : Option Value → Value) (v : Value) :
    at? (key :: keys) (some (updateEntry other f v)) = at? (key :: keys) (some v) := by
  simp [at?, updateEntry, entriesOf, lookup_insert_of_ne h.symm]

/-- Whatever stands for nothing has nothing at the end of a key. -/
theorem at?_getD {v : Value} (h : entriesOf v = []) (key : String) (keys : List String)
    (held : Option Value) :
    at? (key :: keys) (some (held.getD v)) = at? (key :: keys) held := by
  cases held <;> simp [at?, h, lookup]

/-- Whether a value is a **table**. -/
def isTable : Value → Bool
  | table _ _ => true
  | _ => false

end Value

/-! ## Assignments -/

/-- A **place** in a tree of values: the steps that lead there from the root. -/
abbrev Place := List KeyStep

/-- The place of a key path. -/
def KeyPath.place (path : KeyPath) : Place := .child path.first :: path.steps

/-- The place at the end of some keys. -/
def Place.ofKeys (keys : List String) : Place := keys.map .child

/-- An **assignment** of a value to a place. -/
structure Assignment where
  place : Place
  value : Value

namespace Assignment

/-- An assignment as it is seen from further out. -/
def under (steps : Place) (a : Assignment) : Assignment := ⟨steps ++ a.place, a.value⟩

/-- What is held at the end of some keys after an assignment. -/
def settle (keys : List String) (held : Option Value) (a : Assignment) : Option Value :=
  if a.place = Place.ofKeys keys then some (put a.value held) else held

end Assignment

mutual

/-- The **assignments of a tree**: of every value in it that is no table, and of the empty
tables. -/
def Value.assignments : Value → List Assignment
  | .table _ entries =>
    if entries.isEmpty then [⟨[], .emptyTable⟩] else entryAssignments entries
  | v => [⟨[], v⟩]

/-- The assignments of the entries of a table. -/
def entryAssignments : List (String × Value) → List Assignment
  | [] => []
  | (key, v) :: entries =>
    v.assignments.map (.under [.child (Text.lowerString key)]) ++ entryAssignments entries

end

/-- The **assignments of a source**. -/
def assigned (source : List (String × Value)) : List Assignment :=
  source.flatMap fun (key, v) => v.assignments.map (.under (KeyPath.ofKey key).place)

/-- A tree assigns something. -/
theorem Value.assignments_ne_nil : (v : Value) → v.assignments ≠ []
  | .table _ [] => by simp [assignments]
  | .table _ ((_, v) :: _) => by
    have first := assignments_ne_nil v
    simp [assignments, entryAssignments, first]
  | .nil _ | .boolean _ _ | .integer _ _ | .float _ _ | .string _ _ | .array _ _ => by
    simp [assignments]

/-- Whatever is no table is assigned **as a whole**, in place of what was there. -/
theorem Value.assignments_of_not_table {v : Value} (h : v.isTable = false) :
    v.assignments = [⟨[], v⟩] ∧ ∀ held, put v held = v := by
  cases v with
  | table o entries => exact Bool.noConfusion h
  | _ => exact ⟨by simp [assignments], fun held => by simp [put]⟩

/-- A table with entries assigns what its entries assign. -/
theorem Value.assignments_table (o : Origin) (entry : String × Value)
    (entries : List (String × Value)) :
    (Value.table o (entry :: entries)).assignments = entryAssignments (entry :: entries) := by
  simp [assignments]

mutual

/-- A table that is assigned is **empty**. -/
theorem Value.eq_emptyTable_of_mem_assignments (v : Value) {a : Assignment}
    (ha : a ∈ v.assignments) (table : a.value.isTable = true) : a.value = .emptyTable := by
  match v with
  | .table o [] =>
    obtain rfl : a = ⟨[], .emptyTable⟩ := by simpa [Value.assignments] using ha
    rfl
  | .table o (entry :: entries) =>
    have below : a ∈ entryAssignments (entry :: entries) := by
      rwa [Value.assignments_table] at ha
    exact eq_emptyTable_of_mem_entryAssignments (entry :: entries) below table
  | .nil _ | .boolean _ _ | .integer _ _ | .float _ _ | .string _ _ | .array _ _ =>
    rw [(Value.assignments_of_not_table rfl).1, List.mem_singleton] at ha
    rw [ha] at table
    exact absurd table Bool.false_ne_true

/-- A table that is assigned below some entries is empty. -/
theorem eq_emptyTable_of_mem_entryAssignments (entries : List (String × Value)) {a : Assignment}
    (ha : a ∈ entryAssignments entries) (table : a.value.isTable = true) :
    a.value = .emptyTable := by
  match entries with
  | [] => exact absurd ha (by simp [entryAssignments])
  | (key, v) :: entries =>
    rw [entryAssignments] at ha
    rcases List.mem_append.mp ha with ha | ha
    · obtain ⟨b, hb, rfl⟩ := List.mem_map.mp ha
      have inner : b.value = .emptyTable := Value.eq_emptyTable_of_mem_assignments v hb table
      exact inner
    · exact eq_emptyTable_of_mem_entryAssignments entries ha table

end

/-- A table that a source assigns is **empty**. -/
theorem eq_emptyTable_of_mem_assigned {source : List (String × Value)} {a : Assignment}
    (ha : a ∈ assigned source) (table : a.value.isTable = true) : a.value = .emptyTable := by
  obtain ⟨entry, -, ha⟩ := List.mem_flatMap.mp ha
  obtain ⟨b, hb, rfl⟩ := List.mem_map.mp ha
  have inner : b.value = .emptyTable := entry.2.eq_emptyTable_of_mem_assignments hb table
  exact inner

/-! ## Assignments that do not get in the way -/

namespace Assignment

/-- An assignment **suits some keys**: it is to the place at their end, or to one that parts from
the way there at another key, or it makes a table on the way. It neither cuts the way off nor leads
past its end. -/
inductive Suits : List String → Assignment → Prop where
  /-- The end of the way. -/
  | here {v : Value} : Suits [] ⟨[], v⟩
  /-- A table on the way. -/
  | within {key : String} {keys : List String} {v : Value} (table : v.isTable = true) :
    Suits (key :: keys) ⟨[], v⟩
  /-- The same key, and then on. -/
  | further {key : String} {keys : List String} {a : Assignment} (rest : Suits keys a) :
    Suits (key :: keys) (a.under [.child key])
  /-- Another key. -/
  | aside {key other : String} {keys : List String} {a : Assignment} (parts : other ≠ key) :
    Suits (key :: keys) (a.under [.child other])

variable {key other : String} {keys : List String} {a : Assignment} {place : Place} {v : Value}

/-- Nothing suits that leads **past the end**. -/
theorem not_suits_nil (step : KeyStep) : ¬ Suits [] ⟨step :: place, v⟩ := by
  intro h
  cases h

/-- Nothing suits that makes an **array on the way**. -/
theorem not_suits_index (n : Int) : ¬ Suits (key :: keys) ⟨.index n :: place, v⟩ := by
  intro h
  generalize same : (⟨.index n :: place, v⟩ : Assignment) = a at h
  cases h <;> simp [under] at same

/-- Whatever suits the way at a key suits the rest of the way from there. -/
theorem Suits.of_further (h : Suits (key :: keys) (a.under [.child key])) : Suits keys a := by
  generalize same : a.under [.child key] = b at h
  cases h with
  | within => simp [under] at same
  | @further _ _ c rest =>
    obtain rfl : a = c := by
      cases a
      cases c
      simpa [under] using same
    exact rest
  | aside parts => simp [under, parts.symm] at same

/-! ## What assignments lead to -/

@[simp] theorem settle_under_self (held : Option Value) :
    settle (key :: keys) held (a.under [.child key]) = settle keys held a := by
  have place : (a.under [.child key]).place = Place.ofKeys (key :: keys) ↔
      a.place = Place.ofKeys keys := by simp [under, Place.ofKeys]
  simp only [settle, place]
  rfl

theorem settle_under_of_ne (h : other ≠ key) (held : Option Value) :
    settle (key :: keys) held (a.under [.child other]) = held := by
  simp [settle, under, Place.ofKeys, h]

/-- Assignments below a key on the way do to its end what they do to the rest of the way. -/
theorem foldl_settle_under_self (as : List Assignment) (held : Option Value) :
    (as.map (.under [.child key])).foldl (settle (key :: keys)) held
      = as.foldl (settle keys) held := by
  rw [List.foldl_map]
  simp only [settle_under_self]

/-- Assignments below another key change nothing. -/
theorem foldl_settle_under_of_ne (h : other ≠ key) (as : List Assignment) (held : Option Value) :
    (as.map (.under [.child other])).foldl (settle (key :: keys)) held = held := by
  rw [List.foldl_map]
  simp only [settle_under_of_ne h]
  exact List.foldl_fixed ..

end Assignment

open Value (at? at?_updateEntry_self at?_updateEntry_of_ne at?_getD)

/-- An entry is changed by assignments if its value is, provided that the assignments suit the
way. -/
theorem at?_updateEntry {key other : String} {keys : List String} {as : List Assignment}
    {f : Option Value → Value} (v : Value)
    (suits : ∀ a ∈ as.map (Assignment.under [.child other]), a.Suits (key :: keys))
    (inner : (∀ a ∈ as, a.Suits keys) →
      ∀ held, at? keys (some (f held)) = as.foldl (Assignment.settle keys) (at? keys held)) :
    at? (key :: keys) (some (updateEntry other f v))
      = (as.map (.under [.child other])).foldl (Assignment.settle (key :: keys))
          (at? (key :: keys) (some v)) := by
  by_cases same : other = key
  · subst same
    have rest : ∀ a ∈ as, a.Suits keys := fun a ha =>
      (suits _ (List.mem_map_of_mem ha)).of_further
    rw [at?_updateEntry_self, inner rest, Assignment.foldl_settle_under_self]
    rfl
  · rw [at?_updateEntry_of_ne same, Assignment.foldl_settle_under_of_ne same]

/-- Whatever is no table is put **at the end of the way**. -/
theorem at?_put_of_not_table {v : Value} (h : v.isTable = false)
    (keys : List String) (held : Option Value) (suits : ∀ a ∈ v.assignments, a.Suits keys) :
    at? keys (some (put v held))
      = v.assignments.foldl (Assignment.settle keys) (at? keys held) := by
  obtain ⟨whole, replaced⟩ := Value.assignments_of_not_table h
  rw [whole] at suits ⊢
  have here : keys = [] := by
    have only := suits _ (List.mem_singleton_self _)
    generalize same : (⟨[], v⟩ : Assignment) = a at only
    cases only with
    | here => rfl
    | within table =>
      obtain rfl := congrArg Assignment.value same
      exact absurd (h.symm.trans table) Bool.false_ne_true
    | further | aside => simp [Assignment.under] at same
  subst here
  rfl

mutual

/-- A value **put in the place** of another one changes the end of the way by its assignments. -/
theorem at?_put (v : Value) (keys : List String) (held : Option Value)
    (suits : ∀ a ∈ v.assignments, a.Suits keys) :
    at? keys (some (put v held))
      = v.assignments.foldl (Assignment.settle keys) (at? keys held) := by
  match v with
  | .table o [] =>
    cases keys with
    | nil => rfl
    | cons key keys => exact at?_getD rfl key keys held
  | .table o (entry :: entries) =>
    rw [Value.assignments_table] at suits ⊢
    cases keys with
    | nil =>
      -- A table with entries leads past the end.
      obtain ⟨a, ha⟩ := List.exists_mem_of_ne_nil _ entry.2.assignments_ne_nil
      have past := suits (a.under [.child (Text.lowerString entry.1)])
        (List.mem_append_left _ (List.mem_map_of_mem ha))
      exact absurd past (Assignment.not_suits_nil _)
    | cons key keys =>
      have entries := at?_putEntries (entry :: entries) key keys (held.getD .emptyTable) suits
      rwa [at?_getD rfl] at entries
  | .nil _ | .boolean _ _ | .integer _ _ | .float _ _ | .string _ _ | .array _ _ =>
    exact at?_put_of_not_table rfl keys held suits

/-- Entries merged into a table change the end of the way by their assignments. -/
theorem at?_putEntries (entries : List (String × Value)) (key : String) (keys : List String)
    (into : Value) (suits : ∀ a ∈ entryAssignments entries, a.Suits (key :: keys)) :
    at? (key :: keys) (some (putEntries entries into))
      = (entryAssignments entries).foldl (Assignment.settle (key :: keys))
          (at? (key :: keys) (some into)) := by
  match entries with
  | [] => rfl
  | (other, v) :: entries =>
    rw [entryAssignments] at suits ⊢
    rw [putEntries, List.foldl_append,
      at?_putEntries entries key keys _ fun a ha => suits a (List.mem_append_right _ ha),
      at?_updateEntry into (fun a ha => suits a (List.mem_append_left _ ha))
        fun rest held => at?_put v keys held rest]

end

/-- A value set **at a place** changes the end of the way by its assignments. -/
theorem at?_setSteps (steps : Place) (v : Value) (keys : List String) (held : Option Value)
    (suits : ∀ a ∈ v.assignments.map (Assignment.under steps), a.Suits keys) :
    at? keys (some (setSteps steps v held))
      = (v.assignments.map (.under steps)).foldl (Assignment.settle keys) (at? keys held) := by
  induction steps generalizing keys held with
  | nil =>
    have same : v.assignments.map (.under []) = v.assignments := List.map_id' _
    rw [same] at suits ⊢
    exact at?_put v keys held suits
  | cons step steps ih =>
    obtain ⟨a, ha⟩ := List.exists_mem_of_ne_nil _ v.assignments_ne_nil
    have first := suits _ (List.mem_map_of_mem ha)
    cases keys with
    | nil => exact absurd first (Assignment.not_suits_nil _)
    | cons key keys =>
      cases step with
      | index n => exact absurd first (Assignment.not_suits_index n)
      | child other =>
        have outer : v.assignments.map (Assignment.under (.child other :: steps))
            = (v.assignments.map (Assignment.under steps)).map (.under [.child other]) := by
          rw [List.map_map]
          rfl
        rw [outer] at suits ⊢
        have entry := at?_updateEntry (held.getD (.nil none)) suits
          (f := setSteps steps v) fun rest held => ih keys held rest
        rwa [at?_getD rfl] at entry

/-- A value set **at a key path** changes the end of the way by its assignments. -/
theorem at?_set (path : KeyPath) (v root : Value) (keys : List String)
    (suits : ∀ a ∈ v.assignments.map (Assignment.under path.place), a.Suits keys) :
    at? keys (some (KeyPath.set path v root))
      = (v.assignments.map (.under path.place)).foldl (Assignment.settle keys)
          (at? keys (some root)) := by
  have whole : KeyPath.set path v root = setSteps path.place v (some root) := rfl
  rw [whole, at?_setSteps path.place v keys (some root) suits]

/-- A **source laid over a tree** changes the end of the way by its assignments, in order. -/
theorem at?_overlay (keys : List String) (source : List (String × Value)) (root : Value)
    (suits : ∀ a ∈ assigned source, a.Suits keys) :
    at? keys (some (overlay root source))
      = (assigned source).foldl (Assignment.settle keys) (at? keys (some root)) := by
  induction source generalizing root with
  | nil => rfl
  | cons entry source ih =>
    have split : assigned (entry :: source)
        = entry.2.assignments.map (.under (KeyPath.ofKey entry.1).place) ++ assigned source := rfl
    rw [split] at suits ⊢
    have first := at?_set (KeyPath.ofKey entry.1) entry.2 root keys fun a ha =>
      suits a (List.mem_append_left _ ha)
    have rest := ih (KeyPath.set (KeyPath.ofKey entry.1) entry.2 root) fun a ha =>
      suits a (List.mem_append_right _ ha)
    rw [List.foldl_append, ← first]
    exact rest

end StaticGzip.Config
