import StaticGzip.Proofs.Config.Numerals
import StaticGzip.Proofs.Config.Precedence

/-! # The whole numbers of the sources

Whatever source a whole number comes from, it is a signed number of 64 bits. The languages of files
refuse a longer numeral or take it for a floating-point number, and so do the variables. Documents
are built up from their parts, so this is shown part by part.

* **`Value.Fits`** — a tree of values whose whole numbers fit into 64 bits.
* **`Toml.fits_of_read?`, `JsonDocument.fits_of_read?`** — the trees of both languages fit.
* **`isInRange_of_winning?`** — a winning value that is a whole number is in range. -/

namespace StaticGzip

/-- A reader **gives** only values with a property. -/
def Reader.Gives {α : Type} (P : α → Prop) (item : Reader α) : Prop :=
  ∀ t a rest, item t = some (a, rest) → P a

namespace Config

/-! ## Values -/

namespace Value

/-- A value is **in range** unless it is a whole number that takes more than 64 bits. -/
def isInRange : Value → Bool
  | integer _ n => fitsSigned n
  | _ => true

/-- A tree of values **fits** if all values that it assigns are in range. -/
def Fits (v : Value) : Prop := ∀ a ∈ v.assignments, a.value.isInRange = true

/-- Whatever is no table fits if it is in range. -/
theorem fits_of_not_table {v : Value} (h : v.isTable = false) : v.Fits ↔ v.isInRange = true := by
  simp only [Fits, (assignments_of_not_table h).1, List.forall_mem_singleton]

end Value

/-- Some entries assign what each of them assigns. -/
theorem mem_entryAssignments {entries : List (String × Value)} {a : Assignment} :
    a ∈ entryAssignments entries ↔ ∃ entry ∈ entries, ∃ b ∈ entry.2.assignments,
      b.under [.child (Text.lowerString entry.1)] = a := by
  induction entries with
  | nil => simp [entryAssignments]
  | cons entry entries ih =>
    simp only [entryAssignments, List.mem_append, List.mem_map, ih, List.exists_mem_cons_iff]

/-- A **table** fits if its entries do. -/
theorem Value.fits_table {o : Origin} {entries : List (String × Value)} :
    (Value.table o entries).Fits ↔ ∀ entry ∈ entries, entry.2.Fits := by
  cases entries with
  | nil =>
    have empty : (Value.table o []).assignments = [⟨[], .emptyTable⟩] := by
      simp [Value.assignments]
    rw [Value.Fits, empty, List.forall_mem_singleton]
    exact iff_of_true rfl (List.forall_mem_nil _)
  | cons entry entries =>
    simp only [Value.Fits, Value.assignments_table, mem_entryAssignments]
    constructor
    · intro all entry mem b hb
      exact all (b.under _) ⟨entry, mem, b, hb, rfl⟩
    · rintro all _ ⟨entry, mem, b, hb, rfl⟩
      exact all entry mem b hb

/-- An entry that fits is **inserted**. -/
theorem fits_insert {key : String} {v : Value} {entries : List (String × Value)} (new : v.Fits)
    (old : ∀ entry ∈ entries, entry.2.Fits) :
    ∀ entry ∈ Value.insert key v entries, entry.2.Fits := by
  induction entries with
  | nil => simpa [Value.insert] using new
  | cons first entries ih =>
    rw [List.forall_mem_cons] at old
    rw [Value.insert]
    split
    · exact List.forall_mem_cons.mpr ⟨new, old.2⟩
    · exact List.forall_mem_cons.mpr ⟨old.1, ih old.2⟩

/-! ## Documents of the TOML language -/

namespace Toml

/-- A scalar **fits** if its value is in range. -/
def Scalar.Fits (s : Scalar) : Prop := ∀ origin, (s.toValue origin).isInRange = true

/-- A node **fits** if its value does. -/
def Node.Fits (n : Node) : Prop := ∀ origin, (n.toValue origin).Fits

/-- Entries **fit** if all their nodes do. -/
def EntriesFit (entries : Entries) : Prop := ∀ entry ∈ entries, entry.2.Fits

theorem entriesFit_nil : EntriesFit [] := List.forall_mem_nil _

theorem entryValues_eq_map (origin : Origin) (entries : Entries) :
    entryValues origin entries
      = entries.map fun entry => (String.ofList entry.1, entry.2.toValue origin) := by
  induction entries with
  | nil => simp [entryValues]
  | cons entry entries ih => simp [entryValues, ih]

/-- Entries fit as values. -/
theorem EntriesFit.entryValues {entries : Entries} (h : EntriesFit entries) (origin : Origin) :
    ∀ entry ∈ entryValues origin entries, entry.2.Fits := by
  rw [entryValues_eq_map]
  rintro _ value
  obtain ⟨entry, mem, rfl⟩ := List.mem_map.mp value
  exact h entry mem origin

namespace Node

theorem fits_table {kind : TableKind} {entries : Entries} :
    (table kind entries).Fits ↔ EntriesFit entries := by
  constructor
  · intro fits entry mem origin
    have values := fits origin
    rw [toValue, Value.fits_table, entryValues_eq_map] at values
    exact values _ (List.mem_map_of_mem mem)
  · intro fit origin
    rw [toValue, Value.fits_table]
    exact fit.entryValues origin

theorem fits_scalar {s : Scalar} (h : s.Fits) : (scalar s).Fits := by
  intro origin
  have simple : (s.toValue origin).isTable = false := by cases s <;> rfl
  rw [toValue]
  exact (Value.fits_of_not_table simple).mpr (h origin)

/-- Arrays are assigned as a whole, whatever is in them. -/
theorem fits_array (items : List Node) : (array items).Fits := by
  intro origin
  rw [toValue]
  exact (Value.fits_of_not_table rfl).mpr rfl

/-- Lists of tables are arrays. -/
theorem fits_tables (backward : List Entries) : (tables backward).Fits := by
  intro origin
  rw [toValue]
  exact (Value.fits_of_not_table rfl).mpr rfl

/-! ### Changes of a document -/

variable {key : Text} {n : Node} {entries entries' : Entries}

theorem fit_replace (new : n.Fits) (old : EntriesFit entries) :
    EntriesFit (replace key n entries) := by
  induction entries with
  | nil => simpa [replace, EntriesFit] using new
  | cons first entries ih =>
    rw [EntriesFit, List.forall_mem_cons] at old
    rw [replace]
    split
    · exact List.forall_mem_cons.mpr ⟨new, old.2⟩
    · exact List.forall_mem_cons.mpr ⟨old.1, ih old.2⟩

/-- What is found among entries that fit does so, too. -/
theorem fits_of_find? (fit : EntriesFit entries) (found : find? key entries = some n) :
    n.Fits := by
  obtain ⟨before, after, rfl, -⟩ := List.lookup_eq_some_iff.mp found
  exact fit (key, n) (by simp)

/-- A **change inside a table** keeps what fits if the change itself does. -/
theorem fit_descend {dotted : Bool} {change : TableKind → Entries → Option Entries}
    (kept : ∀ kind entries entries', EntriesFit entries → change kind entries = some entries' →
      EntriesFit entries')
    (path : List Text) (kind : TableKind) (fit : EntriesFit entries)
    (done : descend dotted change path kind entries = some entries') : EntriesFit entries' := by
  -- Along the path: a table that is entered fits because what holds it does, and one that is made
  -- starts out empty.
  induction path generalizing kind entries entries' with
  | nil => exact kept kind entries entries' fit done
  | cons key path ih =>
    rw [descend] at done
    split at done
    case h_1 none =>
      obtain ⟨made, inner, same⟩ := Option.bind_eq_some_iff.mp done
      obtain rfl := Option.some.inj same
      exact fit_replace (fits_table.mpr (ih _ entriesFit_nil inner)) fit
    case h_2 kind' below found =>
      split at done
      · cases done
      · obtain ⟨changed, inner, same⟩ := Option.bind_eq_some_iff.mp done
        obtain rfl := Option.some.inj same
        have old : EntriesFit below := fits_table.mp (fits_of_find? fit found)
        exact fit_replace (fits_table.mpr (ih _ old inner)) fit
    case h_3 last earlier found =>
      obtain ⟨changed, -, same⟩ := Option.bind_eq_some_iff.mp done
      obtain rfl := Option.some.inj same
      exact fit_replace (fits_tables _) fit
    case h_4 => cases done

theorem fit_assign? {path : List Text} {kind : TableKind} (new : n.Fits) (fit : EntriesFit entries)
    (done : assign? path key n kind entries = some entries') : EntriesFit entries' := by
  refine fit_descend (fun kind old changed fit put => ?_) path kind fit done
  split at put
  · cases put
  · split at put
    · cases put
    · obtain rfl := Option.some.inj put
      exact fit_replace new fit

theorem fit_open? {path : List Text} (fit : EntriesFit entries)
    (done : open? path key entries = some entries') : EntriesFit entries' := by
  refine fit_descend (fun kind old changed fit put => ?_) path .header fit done
  split at put
  case h_1 =>
    obtain rfl := Option.some.inj put
    exact fit_replace (fits_table.mpr entriesFit_nil) fit
  case h_2 inner found =>
    obtain rfl := Option.some.inj put
    exact fit_replace (fits_table.mpr (fits_table.mp (fits_of_find? fit found))) fit
  case h_3 => cases put

theorem fit_append? {path : List Text} (fit : EntriesFit entries)
    (done : append? path key entries = some entries') : EntriesFit entries' := by
  refine fit_descend (fun kind old changed fit put => ?_) path .header fit done
  split at put
  case h_1 | h_2 =>
    obtain rfl := Option.some.inj put
    exact fit_replace (fits_tables _) fit
  case h_3 => cases put

end Node

/-! ### Readers -/

theorem fitsSigned_of_inRange? {n m : Int} (h : inRange? n = some m) :
    Value.fitsSigned m = true := by
  rw [inRange?] at h
  split at h
  · obtain rfl := Option.some.inj h
    assumption
  · cases h

theorem based?_gives (base : Nat) (p : Char → Bool) :
    (based? base p).Gives (Value.fitsSigned · = true) := by
  intro t n rest h
  obtain ⟨digits, -, h⟩ := Option.bind_eq_some_iff.mp h
  obtain ⟨m, inRange, h⟩ := Option.bind_eq_some_iff.mp h
  cases h
  exact fitsSigned_of_inRange? inRange

theorem integer?_gives : Reader.Gives (Value.fitsSigned · = true) integer? := by
  intro t n rest h
  rw [integer?.eq_def] at h
  -- The three marked bases, and decimal numerals with their sign.
  split at h
  case h_1 | h_2 | h_3 => exact based?_gives _ _ _ _ _ h
  case h_4 =>
    obtain ⟨digits, -, h⟩ := Option.bind_eq_some_iff.mp h
    obtain ⟨m, inRange, h⟩ := Option.bind_eq_some_iff.mp h
    cases h
    exact fitsSigned_of_inRange? inRange

/-- Whatever is no whole number fits. -/
theorem Scalar.fits_of_ne {s : Scalar} (h : ∀ n, s ≠ .integer n) : s.Fits := by
  intro origin
  cases s with
  | integer m => exact absurd rfl (h m)
  | _ => rfl

theorem number?_gives : Reader.Gives Scalar.Fits number? := by
  intro t s rest h
  rw [number?.eq_def] at h
  split at h
  · cases h
    exact Scalar.fits_of_ne (by simp)
  · split at h
    · cases h
      exact Scalar.fits_of_ne (by simp)
    · obtain ⟨⟨n, after⟩, read, same⟩ := Option.map_eq_some_iff.mp h
      cases same
      exact fun origin => integer?_gives _ _ _ read

theorem scalar?_gives : Reader.Gives Scalar.Fits scalar? := by
  intro t s rest h
  rw [scalar?.eq_def] at h
  split at h
  case h_1 | h_2 =>
    cases h
    exact Scalar.fits_of_ne (by simp)
  case h_3 | h_4 =>
    obtain ⟨read, -, same⟩ := Option.map_eq_some_iff.mp h
    cases same
    exact Scalar.fits_of_ne (by simp)
  case h_5 => exact number?_gives _ _ _ h

section

variable {value : Reader Node}

theorem pair?_gives (values : value.Gives Node.Fits) :
    (pair? value).Gives fun pair => pair.2.Fits := by
  intro t pair rest h
  obtain ⟨⟨key, t⟩, -, h⟩ := Option.bind_eq_some_iff.mp h
  obtain ⟨t, -, h⟩ := Option.bind_eq_some_iff.mp h
  obtain ⟨⟨n, t⟩, read, h⟩ := Option.bind_eq_some_iff.mp h
  cases h
  exact values _ _ _ read

/-- Assignments between braces keep what fits, if the values do. -/
theorem pairs?_gives (values : value.Gives Node.Fits) (fuel : Nat) {entries : Entries}
    (fit : EntriesFit entries) : (pairs? value fuel entries).Gives EntriesFit := by
  -- The entries read so far are the invariant; each pair takes one more of the fuel.
  induction fuel generalizing entries with
  | zero =>
    intro t made rest h
    cases h
  | succ fuel ih =>
    intro t made rest h
    obtain ⟨⟨⟨parts, n⟩, t'⟩, pair, h⟩ := Option.bind_eq_some_iff.mp h
    obtain ⟨assigned, put, h⟩ := Option.bind_eq_some_iff.mp h
    have new : n.Fits := pair?_gives values _ _ _ pair
    have changed : EntriesFit assigned := Node.fit_assign? new fit put
    split at h
    case h_1 => exact ih changed _ _ _ h
    case h_2 =>
      cases h
      exact changed
    case h_3 => cases h

theorem inlineTable?_gives (values : value.Gives Node.Fits) :
    (inlineTable? value).Gives EntriesFit := by
  intro t made rest h
  rw [inlineTable?] at h
  split at h
  · cases h
    exact entriesFit_nil
  · exact pairs?_gives values _ entriesFit_nil _ _ _ h

end

/-- A **value** fits, however deep values nest. -/
theorem value?_gives (depth : Nat) : (value? depth).Gives Node.Fits := by
  have scalar (t : Text) (n : Node) (rest : Text)
      (h : ((scalar? t).map fun read => (Node.scalar read.1, read.2)) = some (n, rest)) :
      n.Fits := by
    obtain ⟨⟨s, after⟩, read, same⟩ := Option.map_eq_some_iff.mp h
    cases same
    exact Node.fits_scalar (scalar?_gives _ _ _ read)
  induction depth with
  | zero => exact scalar
  | succ depth ih =>
    intro t n rest h
    rw [value?.eq_def] at h
    dsimp only at h
    split at h
    case h_1 =>
      obtain ⟨read, -, same⟩ := Option.map_eq_some_iff.mp h
      cases same
      exact Node.fits_array _
    case h_2 =>
      obtain ⟨⟨entries, after⟩, read, same⟩ := Option.map_eq_some_iff.mp h
      cases same
      exact Node.fits_table.mpr (inlineTable?_gives ih _ _ _ read)
    case h_3 => exact scalar _ _ _ h

/-! ### Lines -/

variable {d d' : Draft} {t rest : Text}

theorem fit_listHeader? (fit : EntriesFit d.root) (h : listHeader? d t = some (d', rest)) :
    EntriesFit d'.root := by
  obtain ⟨⟨parts, t'⟩, -, h⟩ := Option.bind_eq_some_iff.mp h
  obtain ⟨_, -, h⟩ := Option.bind_eq_some_iff.mp h
  obtain ⟨_, -, h⟩ := Option.bind_eq_some_iff.mp h
  obtain ⟨root, appended, h⟩ := Option.bind_eq_some_iff.mp h
  cases h
  exact Node.fit_append? fit appended

theorem fit_header? (fit : EntriesFit d.root) (h : header? d t = some (d', rest)) :
    EntriesFit d'.root := by
  obtain ⟨⟨parts, t'⟩, -, h⟩ := Option.bind_eq_some_iff.mp h
  obtain ⟨_, -, h⟩ := Option.bind_eq_some_iff.mp h
  obtain ⟨_, -, h⟩ := Option.bind_eq_some_iff.mp h
  obtain ⟨root, opened, h⟩ := Option.bind_eq_some_iff.mp h
  cases h
  exact Node.fit_open? fit opened

theorem fit_assignment? (fit : EntriesFit d.root) (h : assignment? d t = some (d', rest)) :
    EntriesFit d'.root := by
  obtain ⟨⟨⟨parts, n⟩, t'⟩, pair, h⟩ := Option.bind_eq_some_iff.mp h
  obtain ⟨_, -, h⟩ := Option.bind_eq_some_iff.mp h
  obtain ⟨root, assigned, h⟩ := Option.bind_eq_some_iff.mp h
  cases h
  have new : n.Fits := pair?_gives (value?_gives maxDepth) _ _ _ pair
  exact Node.fit_descend (fun _ _ _ => Node.fit_assign? new) _ _ fit assigned

/-- A **line** keeps what fits. -/
theorem fit_line? (fit : EntriesFit d.root) (h : line? d t = some (d', rest)) :
    EntriesFit d'.root := by
  rw [line?] at h
  split at h
  · exact fit_listHeader? fit h
  · exact fit_header? fit h
  · split at h
    · cases h
      exact fit
    · exact fit_assignment? fit h

theorem fit_lines? (fuel : Nat) {entries : Entries} (fit : EntriesFit d.root)
    (h : lines? fuel d t = some entries) : EntriesFit entries := by
  induction fuel generalizing d t with
  | zero =>
    cases t with
    | nil =>
      cases h
      exact fit
    | cons => cases h
  | succ fuel ih =>
    cases t with
    | nil =>
      cases h
      exact fit
    | cons c t =>
      obtain ⟨⟨next, rest⟩, line, h⟩ := Option.bind_eq_some_iff.mp h
      exact ih (fit_line? fit line) h

/-- The entries of a **document** of the TOML language fit. -/
theorem fits_of_read? {origin : Origin} {source : Source} (h : read? origin t = some source) :
    ∀ entry ∈ source, entry.2.Fits := by
  obtain ⟨entries, document, rfl⟩ := Option.map_eq_some_iff.mp h
  exact (fit_lines? _ entriesFit_nil document).entryValues origin

end Toml

/-! ## Documents of the JSON language -/

namespace JsonDocument

variable {origin : Origin}

theorem number?_gives : (number? origin).Gives Value.Fits := by
  intro t v rest h
  obtain ⟨⟨whole, t'⟩, -, h⟩ := Option.bind_eq_some_iff.mp h
  obtain ⟨⟨places, power, t''⟩, -, h⟩ := Option.bind_eq_some_iff.mp h
  -- A number that stays whole has passed the range check; all others become floating-point numbers.
  rcases ite_eq_iff.mp h with ⟨plain, h⟩ | ⟨-, h⟩
  · cases h
    exact (Value.fits_of_not_table rfl).mpr plain.2.2.1
  · obtain ⟨x, -, h⟩ := Option.bind_eq_some_iff.mp h
    cases h
    exact (Value.fits_of_not_table rfl).mpr rfl

theorem simple?_gives : (simple? origin).Gives Value.Fits := by
  intro t v rest h
  rw [simple?.eq_def] at h
  split at h
  case h_1 | h_2 | h_3 =>
    cases h
    exact (Value.fits_of_not_table rfl).mpr rfl
  case h_4 =>
    obtain ⟨read, -, same⟩ := Option.map_eq_some_iff.mp h
    cases same
    exact (Value.fits_of_not_table rfl).mpr rfl
  case h_5 => exact number?_gives _ _ _ h

theorem members?_gives {value : Reader Value} (values : value.Gives Value.Fits) (fuel : Nat)
    {members : List (String × Value)} (fit : ∀ member ∈ members, member.2.Fits) :
    (members? value fuel members).Gives fun members => ∀ member ∈ members, member.2.Fits := by
  induction fuel generalizing members with
  | zero =>
    intro t made rest h
    cases h
  | succ fuel ih =>
    intro t made rest h
    obtain ⟨⟨key, t'⟩, -, h⟩ := Option.bind_eq_some_iff.mp h
    obtain ⟨_, -, h⟩ := Option.bind_eq_some_iff.mp h
    obtain ⟨⟨v, t''⟩, read, h⟩ := Option.bind_eq_some_iff.mp h
    have more : ∀ member ∈ Value.insert (String.ofList key) v members, member.2.Fits :=
      fits_insert (values _ _ _ read) fit
    dsimp only at h
    split at h
    case h_1 => exact ih more _ _ _ h
    case h_2 =>
      cases h
      exact more
    case h_3 => cases h

/-- A **value** fits, however deep values nest. -/
theorem value?_gives (depth : Nat) : (value? origin depth).Gives Value.Fits := by
  induction depth with
  | zero => exact simple?_gives
  | succ depth ih =>
    intro t v rest h
    rw [value?.eq_def] at h
    dsimp only at h
    split at h
    case h_1 =>
      split at h
      · cases h
        exact (Value.fits_of_not_table rfl).mpr rfl
      · obtain ⟨read, -, same⟩ := Option.map_eq_some_iff.mp h
        cases same
        exact (Value.fits_of_not_table rfl).mpr rfl
    case h_2 =>
      split at h
      · cases h
        exact Value.fits_table.mpr (List.forall_mem_nil _)
      · obtain ⟨⟨members, after⟩, read, same⟩ := Option.map_eq_some_iff.mp h
        cases same
        exact Value.fits_table.mpr (members?_gives ih _ (List.forall_mem_nil _) _ _ _ read)
    case h_3 => exact simple?_gives _ _ _ h

/-- The members of a **document** of the JSON language fit. -/
theorem fits_of_read? {t : Text} {source : Source} (h : read? origin t = some source) :
    ∀ entry ∈ source, entry.2.Fits := by
  obtain ⟨⟨v, rest⟩, read, h⟩ := Option.bind_eq_some_iff.mp h
  have fits := value?_gives _ _ _ _ read
  dsimp only at h
  split at h
  · cases h
    exact Value.fits_table.mp fits
  · cases h

end JsonDocument

/-! ## All sources -/

/-- The entries of a **file** fit, whatever language it is in. -/
theorem fits_of_fileEntries {fs : FileSystem} {name : Path} {file : Source}
    (read : fileEntries fs name = .ok file) : ∀ entry ∈ file, entry.2.Fits := by
  rw [fileEntries.eq_def] at read
  split at read
  · cases read
    exact List.forall_mem_nil _
  · rename_i p language found
    split at read
    · cases read
      exact List.forall_mem_nil _
    · dsimp only at read
      split at read
      · rename_i entries document
        cases read
        cases language with
        | toml => exact Toml.fits_of_read? document
        | json => exact JsonDocument.fits_of_read? document
      · cases read

/-- The value of a **variable** is no table, and in range. -/
theorem Environment.isInRange_value (text : String) :
    (Environment.value text).isTable = false ∧ (Environment.value text).isInRange = true := by
  rcases value_cases text with ⟨b, same⟩ | ⟨k, same, -, fits⟩ | ⟨x, same⟩ | same <;> rw [same]
  case inr.inl => exact ⟨rfl, fits⟩
  all_goals exact ⟨rfl, rfl⟩

/-- The entries of an **environment** fit. -/
theorem Environment.fits_entries (environment : Variables) :
    ∀ entry ∈ Environment.entries environment, entry.2.Fits := by
  intro entry mem
  obtain ⟨⟨name, text⟩, -, key⟩ := List.mem_filterMap.mp mem
  obtain ⟨key, -, rfl⟩ := Option.map_eq_some_iff.mp key
  obtain ⟨simple, inRange⟩ := isInRange_value text
  exact (Value.fits_of_not_table simple).mpr inRange

/-- The **defaults** fit. -/
theorem fits_defaults : ∀ entry ∈ defaults, entry.2.Fits := by
  have simple : ∀ entry ∈ defaults, entry.2.isTable = false ∧ entry.2.isInRange = true := by decide
  intro entry mem
  exact (Value.fits_of_not_table (simple entry mem).1).mpr (simple entry mem).2

/-- The **explicit values** are strings. -/
theorem fits_overrides (port rootDir : Option String) :
    ∀ entry ∈ overrides port rootDir, entry.2.Fits := by
  have string (key s : String) : (key, Value.string none s).2.Fits :=
    (Value.fits_of_not_table rfl).mpr rfl
  intro entry mem
  rcases List.mem_append.mp mem with mem | mem <;>
    obtain ⟨s, -, rfl⟩ := Option.map_eq_some_iff.mp (Option.mem_toList.mp mem)
  · exact string "server.port" s
  · exact string "root_dir" s

/-- A value that wins is **given by a source**. -/
theorem exists_given_of_winning? {sources : List Source} {s : Setting} {v : Value}
    (wins : winning? sources s = some v) : ∃ source ∈ sources, given? source s = some v := by
  rcases Option.or_eq_some_iff.mp wins with filled | ⟨-, highest⟩
  · obtain ⟨source, mem, given⟩ := List.exists_of_findSome?_eq_some filled
    exact ⟨source, mem, (Option.filter_eq_some_iff.mp given).1⟩
  · exact List.exists_of_findSome?_eq_some highest

/-- A value that a source gives is **in range**, if the entries of the source fit. -/
theorem isInRange_of_given? {source : Source} (fit : ∀ entry ∈ source, entry.2.Fits) {s : Setting}
    {v : Value} (given : given? source s = some v) : v.isInRange = true := by
  obtain ⟨a, found, rfl⟩ := Option.map_eq_some_iff.mp given
  obtain ⟨entry, mem, inner⟩ := List.mem_flatMap.mp (List.mem_of_find?_eq_some found)
  obtain ⟨b, hb, rfl⟩ := List.mem_map.mp inner
  exact fit entry mem b hb

/-- A **winning value** is in range. -/
theorem isInRange_of_winning? {fs : FileSystem} {name : Path} {file : Source}
    {environment : Environment.Variables} {port rootDir : Option String} {s : Setting} {v : Value}
    (read : fileEntries fs name = .ok file)
    (wins : winning? (ranked file environment port rootDir) s = some v) :
    v.isInRange = true := by
  have fit : ∀ source ∈ ranked file environment port rootDir, ∀ entry ∈ source, entry.2.Fits := by
    simp only [ranked, List.forall_mem_cons]
    exact ⟨fits_overrides port rootDir, Environment.fits_entries environment,
      fits_of_fileEntries read, fits_defaults, List.forall_mem_nil _⟩
  obtain ⟨source, mem, given⟩ := exists_given_of_winning? wins
  exact isInRange_of_given? (fit source mem) given

end Config

end StaticGzip
