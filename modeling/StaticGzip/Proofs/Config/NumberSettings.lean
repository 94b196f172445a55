import StaticGzip.Proofs.Config.WholeNumbers

/-! # Numbers among the settings

Six settings are numbers. A whole number, and a string that is the numeral of one, is either taken
as it is or refused because it is out of range. But other values are taken for numbers as well: a
truth value, or a word for one, stands in for one or zero, and a floating-point number for the whole
number next to it. So not everything that is no number is refused.

* **`Value.Writes`, `Value.standIn?`** — the number that a value writes, and the number that a value
  stands in for without writing one.
* **`Value.unsigned?_eq_ok_iff`** — these and no others are converted to numbers.
* **`TakesNumber`, `loadFrom_takes_numbers`** — what becomes of the winning value of a setting that
  is a number. -/

namespace StaticGzip.Config

open KeyPath (entriesOf)

/-! ## Values as numbers -/

namespace Value

/-- A value **writes** a number: it is a whole number, or a string that writes it. -/
def Writes : Value → Nat → Prop
  | integer _ k, n => k = n
  | string _ s, n => Text.Writes s.toList n
  | _, _ => False

/-- The number that a value **stands in** for, although it writes none. -/
def standIn? : Value → Option Nat
  | boolean _ b => some b.toNat
  | float _ x => some (x.roundedToNat maxUnsigned)
  | string _ s =>
    if Text.lowerString s ∈ trueWords then some 1
    else if Text.lowerString s ∈ falseWords then some 0
    else none
  | _ => none

/-- Whether a value is **nothing**. -/
def isNil : Value → Bool
  | nil _ => true
  | _ => false

/-- No numeral is a word for truth or falsehood. -/
theorem lowerString_not_mem {s : String} {k : Int} (h : Text.Denotes s.toList k) :
    Text.lowerString s ∉ trueWords ∧ Text.lowerString s ∉ falseWords := by
  have letters : ∀ word ∈ trueWords ++ falseWords, word.toList.head?.any Text.mayBegin = false := by
    decide
  exact ⟨fun mem => h.lowerString_ne (letters _ (List.mem_append_left _ mem)) rfl,
    fun mem => h.lowerString_ne (letters _ (List.mem_append_right _ mem)) rfl⟩

/-- A **string** is converted to a number if it stands in for it or writes it. -/
theorem unsigned?_string_eq_ok_iff {o : Origin} {s : String} {n : Nat} :
    (string o s).unsigned? = .ok n ↔
      ((string o s).Writes n ∨ (string o s).standIn? = some n) ∧ n ≤ maxUnsigned := by
  have noNumeral (word : Text.lowerString s ∈ trueWords ∨ Text.lowerString s ∈ falseWords) :
      ¬ Text.Writes s.toList n := fun writes =>
    word.elim (lowerString_not_mem writes.1).1 (lowerString_not_mem writes.1).2
  simp only [unsigned?, standIn?, Writes]
  -- Words come first; as no numeral is one of them, this hides no numeral.
  by_cases one : Text.lowerString s ∈ trueWords
  · simp only [if_pos one, noNumeral (.inl one), false_or, Except.ok.injEq, Option.some.injEq]
    exact ⟨fun same => ⟨same, same ▸ by decide⟩, And.left⟩
  by_cases zero : Text.lowerString s ∈ falseWords
  · simp only [if_neg one, if_pos zero, noNumeral (.inr zero), false_or, Except.ok.injEq,
      Option.some.injEq]
    exact ⟨fun same => ⟨same, same ▸ Nat.zero_le _⟩, And.left⟩
  · simp only [if_neg one, if_neg zero, or_false, reduceCtorEq]
    rw [← natural?_eq_some_iff]
    cases natural? s.toList <;> simp

/-- A value is converted to a number exactly if it **writes** the number or **stands in** for it. -/
theorem unsigned?_eq_ok_iff {v : Value} (inRange : v.isInRange = true) {n : Nat} :
    v.unsigned? = .ok n ↔ (v.Writes n ∨ v.standIn? = some n) ∧ n ≤ maxUnsigned := by
  cases v with
  | nil | table | array => simp [unsigned?, Writes, standIn?]
  | boolean o b =>
    have small : b.toNat ≤ maxUnsigned := Nat.le_trans b.toNat_le (by decide)
    simp only [unsigned?, Writes, standIn?, false_or, Except.ok.injEq, Option.some.injEq]
    exact ⟨fun same => ⟨same, same ▸ small⟩, And.left⟩
  | integer o k =>
    obtain ⟨-, high⟩ : -0x8000000000000000 ≤ k ∧ k < 0x8000000000000000 := by
      simpa [isInRange, fitsSigned] using inRange
    have limit : maxUnsigned = 0xffffffffffffffff := rfl
    simp only [unsigned?, Writes, standIn?, or_false, reduceCtorEq]
    split
    · rw [Except.ok.injEq]
      omega
    · simp only [reduceCtorEq, false_iff]
      omega
  | float o x =>
    have small : x.roundedToNat maxUnsigned ≤ maxUnsigned := x.roundedToNat_le maxUnsigned
    simp only [unsigned?, Writes, standIn?, false_or, Except.ok.injEq, Option.some.injEq]
    exact ⟨fun same => ⟨same, same ▸ small⟩, And.left⟩
  | string o s => exact unsigned?_string_eq_ok_iff

end Value

/-! ## Fields that are numbers -/

section

variable {v : Value} {n : Nat}

/-- A **port** is a number of 16 bits. -/
theorem Decode.exists_port_iff :
    (∃ p, Decode.port v = .ok p ∧ p.toNat = n) ↔ v.unsigned? = .ok n ∧ n ≤ 65535 := by
  cases converted : v.unsigned? with
  | error e => simp [port, converted, bind, Except.bind]
  | ok m =>
    by_cases small : m ≤ 65535
    · have read : Decode.port v = .ok (UInt16.ofNat m) := by
        simp [port, converted, bind, Except.bind, small]
      have same : (UInt16.ofNat m).toNat = m :=
        UInt16.toNat_ofNat_of_lt' (Nat.lt_of_le_of_lt small (by decide))
      simp only [read, Except.ok.injEq, exists_eq_left', same]
      exact ⟨fun h => ⟨h, h ▸ small⟩, And.left⟩
    · simp only [port, converted, bind, Except.bind, if_neg small, reduceCtorEq, false_and,
        exists_false, Except.ok.injEq, false_iff]
      rintro ⟨rfl, h⟩
      exact small h

/-- A **number of 64 bits** is what the value is converted to. -/
theorem Decode.exists_word_iff (inRange : v.isInRange = true) :
    (∃ w, Decode.word v = .ok w ∧ w.toNat = n) ↔ v.unsigned? = .ok n := by
  cases converted : v.unsigned? with
  | error e => simp [word, converted, Except.map]
  | ok m =>
    have small : m ≤ Value.maxUnsigned := ((Value.unsigned?_eq_ok_iff inRange).mp converted).2
    have same : (UInt64.ofNat m).toNat = m :=
      UInt64.toNat_ofNat_of_lt' (Nat.lt_of_le_of_lt small (by decide))
    simp [word, converted, Except.map, same]

/-- An **optional** number is converted like any other, unless it is nothing. -/
theorem Decode.optionalWord_of_isNil (some : v.isNil = false) :
    Decode.optionalWord v = (Decode.word v).map .some := by
  cases v with
  | nil o => exact Bool.noConfusion some
  | _ => rfl

theorem Decode.exists_optionalWord_iff :
    (∃ w, Decode.optionalWord v = .ok w ∧ w.map UInt64.toNat = some n) ↔
      ∃ w, Decode.word v = .ok w ∧ w.toNat = n := by
  cases nothing : v.isNil with
  | true =>
    cases v with
    | nil o => simp [optionalWord, word, Value.unsigned?, Except.map]
    | _ => exact Bool.noConfusion nothing
  | false =>
    rw [optionalWord_of_isNil nothing]
    cases Decode.word v <;> simp [Except.map]

end

namespace Setting

variable {s : Setting} {limit : Nat} {v : Value}

/-- The **greatest number** of a setting that is a number. -/
def limit? : Setting → Option Nat
  | port => some 65535
  | workers | keepAliveTimeout | readTimeout | writeTimeout | maxConnections =>
    some Value.maxUnsigned
  | host | rootDir | level | accessLog | accessLogFormat => none

/-- The content of a setting as a **number**, if it is one. -/
def number? : (s : Setting) → s.Content → Option Nat
  | port, p => some p.toNat
  | keepAliveTimeout, w | readTimeout, w | writeTimeout, w => some w.toNat
  | workers, w | maxConnections, w => w.map UInt64.toNat
  | host, _ | rootDir, _ | level, _ | accessLog, _ | accessLogFormat, _ => none

/-- A setting that is a number is **read** from a value that writes the number or stands in for it,
up to its limit. -/
theorem exists_convert_iff (numeric : s.limit? = some limit) (inRange : v.isInRange = true)
    {n : Nat} :
    (∃ a, s.field.convert v = .ok a ∧ s.number? a = some n) ↔
      (v.Writes n ∨ v.standIn? = some n) ∧ n ≤ limit := by
  -- All six are read as unsigned numbers and differ in what they do with those.
  have converted : v.unsigned? = .ok n ↔ _ := Value.unsigned?_eq_ok_iff inRange
  have word := (Decode.exists_word_iff inRange).trans converted
  cases s with
  | port =>
    cases numeric
    simp only [number?, Option.some.injEq]
    refine Decode.exists_port_iff.trans ⟨?_, ?_⟩
    · rintro ⟨read, small⟩
      exact ⟨(converted.mp read).1, small⟩
    · rintro ⟨number, small⟩
      exact ⟨converted.mpr ⟨number, Nat.le_trans small (by decide)⟩, small⟩
  | keepAliveTimeout | readTimeout | writeTimeout =>
    cases numeric
    simp only [number?, Option.some.injEq]
    exact word
  | workers | maxConnections =>
    cases numeric
    exact Decode.exists_optionalWord_iff.trans word
  | _ => cases numeric

/-- What is read for a setting that is a number is a number, unless the value is nothing. -/
theorem exists_number? (numeric : s.limit? = some limit) (some : v.isNil = false) {a : s.Content}
    (converted : s.field.convert v = .ok a) : ∃ n, s.number? a = .some n := by
  cases s with
  | port | keepAliveTimeout | readTimeout | writeTimeout => exact ⟨_, rfl⟩
  | workers | maxConnections =>
    have optional : Decode.optionalWord v = .ok a := converted
    rw [Decode.optionalWord_of_isNil some] at optional
    cases word : Decode.word v with
    | error e =>
      rw [word] at optional
      cases optional
    | ok w =>
      rw [word] at optional
      cases optional
      exact ⟨_, rfl⟩
  | _ => cases numeric

end Setting

/-! ## Loading -/

section

variable {fs : FileSystem} {name : Path} {environment : Environment.Variables}
  {port rootDir : Option String} {file : Source} {s : Setting} {limit : Nat} {v : Value}

/-- If all other winning values can be converted, a setting **becomes** what its own winning value
is converted to. -/
theorem exists_loadFrom_iff (read : fileEntries fs name = .ok file) (regularFile : Regular file)
    (regularEnvironment : Regular (Environment.entries environment))
    (wins : winning? (ranked file environment port rootDir) s = some v)
    (others : ∀ t ≠ s, ∀ w, winning? (ranked file environment port rootDir) t = some w →
      ∃ a, t.field.convert w = .ok a) (P : s.Content → Prop) :
    (∃ all, loadFrom fs name environment port rootDir = .ok all ∧ P (s.of all)) ↔
      ∃ a, s.field.convert v = .ok a ∧ P a := by
  have follows : Follows (loadFrom fs name environment port rootDir) _ :=
    follows_loadFrom read regularFile regularEnvironment
  constructor
  · rintro ⟨all, loaded, holds⟩
    exact ⟨s.of all, follows.converted all loaded s v wins, holds⟩
  · rintro ⟨a, converted, holds⟩
    -- With this value every winning value can be converted, so there are settings.
    obtain ⟨all, loaded⟩ := follows.succeeds.mpr fun t w wins' => by
      by_cases same : t = s
      · subst same
        rw [wins] at wins'
        cases wins'
        exact ⟨a, converted⟩
      · exact others t same w wins'
    have again : s.field.convert v = .ok (s.of all) := follows.converted all loaded s v wins
    rw [converted] at again
    cases again
    exact ⟨all, loaded, holds⟩

/-- A result **takes a number** from a value if the setting becomes a number exactly if the value
writes the number or stands in for it, and it does not pass the limit. Unless a value stands in for
a number, or is nothing, the result is an error if the value writes none. -/
structure TakesNumber (result : Except ConfigError Settings) (s : Setting) (limit : Nat)
    (v : Value) : Prop where
  taken (n : Nat) : (∃ all, result = .ok all ∧ s.number? (s.of all) = some n) ↔
    (v.Writes n ∨ v.standIn? = some n) ∧ n ≤ limit
  exact (all : Settings) : result = .ok all → v.standIn? = none → v.isNil = false →
    ∃ n, v.Writes n ∧ n ≤ limit ∧ s.number? (s.of all) = some n

/-- The winning value of a setting that is a number is taken as one. -/
theorem takesNumber_loadFrom (read : fileEntries fs name = .ok file) (regularFile : Regular file)
    (regularEnvironment : Regular (Environment.entries environment))
    (numeric : s.limit? = some limit)
    (wins : winning? (ranked file environment port rootDir) s = some v)
    (others : ∀ t ≠ s, ∀ w, winning? (ranked file environment port rootDir) t = some w →
      ∃ a, t.field.convert w = .ok a) :
    TakesNumber (loadFrom fs name environment port rootDir) s limit v := by
  have inRange : v.isInRange = true := isInRange_of_winning? read wins
  have becomes := exists_loadFrom_iff read regularFile regularEnvironment wins others
  have taken (n : Nat) := (becomes fun a => s.number? a = some n).trans
    (Setting.exists_convert_iff numeric inRange)
  refine ⟨taken, ?_⟩
  intro all loaded noStandIn noNil
  obtain ⟨a, converted, same⟩ := (becomes (· = s.of all)).mp ⟨all, loaded, rfl⟩
  subst same
  obtain ⟨n, number⟩ := Setting.exists_number? numeric noNil converted
  obtain ⟨writes | standsIn, small⟩ := (taken n).mp ⟨all, loaded, number⟩
  · exact ⟨n, writes, small, number⟩
  · rw [noStandIn] at standsIn
    cases standsIn

/-- The **explicit port** is taken from its text, whatever the other sources give. -/
theorem convert_port_of_loadFrom {text : String} {all : Settings}
    (loaded : loadFrom fs name environment (some text) rootDir = .ok all) :
    Decode.port (.string none text) = .ok all.server.port := by
  obtain ⟨file, -, loaded⟩ := bind_eq_ok_iff.mp loaded
  obtain ⟨root, decoded⟩ : ∃ root, Decode.settings?
      (entriesOf (overlay root (overrides (some text) rootDir))) = .ok all := ⟨_, loaded⟩
  have given : given? (overrides (some text) rootDir) .port = some (.string none text) := by
    rw [given?, assigned_overrides]
    simp
  have held : Value.at? Setting.port.keys (some (overlay root (overrides (some text) rootDir)))
      = some (.string none text) := by
    rw [(regular_overrides (some text) rootDir).at?_overlay, given]
    rfl
  obtain ⟨v, found, server⟩ := Decode.exists_server_of_settings? decoded
  have entry : Value.lookup "port" (entriesOf v) = some (.string none text) := by
    simpa only [Setting.keys, Value.at?, Option.bind_some, found] using held
  cases v with
  | table o entries =>
    have port := (Decode.server_eq_ok_iff.mp server).2.1
    have same : Value.lookup "port" entries = some (.string none text) := entry
    rw [same] at port
    exact port
  | _ => cases entry

end

/-- **Numbers are taken as they are written or refused, unless something stands in for them.** If
all other winning values can be converted, the winning value of a setting that is a number is taken
as one. An explicit port, whatever the other sources give, is the number that its text writes or
stands in for. The value of a variable writes a number only if the text denotes it, and it does so
if the text writes the number and the number fits into 64 bits with its sign. -/
theorem loadFrom_takes_numbers (fs : FileSystem) (name : Path)
    (environment : Environment.Variables) (rootDir : Option String) :
    (∀ {port : Option String} {file : Source} {s : Setting} {limit : Nat} {v : Value},
      fileEntries fs name = .ok file → Regular file → Regular (Environment.entries environment) →
      s.limit? = some limit → winning? (ranked file environment port rootDir) s = some v →
      (∀ t ≠ s, ∀ w, winning? (ranked file environment port rootDir) t = some w →
        ∃ a, t.field.convert w = .ok a) →
      TakesNumber (loadFrom fs name environment port rootDir) s limit v) ∧
    (∀ {text : String} {all : Settings},
      loadFrom fs name environment (some text) rootDir = .ok all →
      Text.Writes text.toList all.server.port.toNat ∨
        Value.standIn? (.string none text) = some all.server.port.toNat) ∧
    (∀ {text : String} {n : Nat}, (Environment.value text).Writes n →
      Text.Denotes text.toList n) ∧
    (∀ {text : String} {n : Nat}, Text.Writes text.toList n → Value.fitsSigned n = true →
      (Environment.value text).Writes n) := by
  refine ⟨takesNumber_loadFrom, ?port, ?denotes, ?writes⟩
  case port =>
    intro text all loaded
    obtain ⟨converted, -⟩ :=
      Decode.exists_port_iff.mp ⟨_, convert_port_of_loadFrom loaded, rfl⟩
    exact ((Value.unsigned?_eq_ok_iff rfl).mp converted).1
  case denotes =>
    intro text n writes
    rcases Environment.value_cases text with
        ⟨b, same⟩ | ⟨k, same, denotes, -⟩ | ⟨x, same⟩ | same <;>
      rw [same] at writes
    · exact writes.elim
    · obtain rfl : k = n := writes
      exact denotes
    · exact writes.elim
    · exact And.left writes
  case writes =>
    intro text n writes fits
    rw [Environment.value_of_denotes writes.1, if_pos fits]
    exact rfl

/-- A file system **without files**. -/
def noFiles : FileSystem where
  stat _ := .error (.simple .notFound)
  read _ := .error (.simple .notFound)

/-- A variable gives the number of threads, and an explicit port has a plus sign. -/
theorem loadFrom_takes_numbers_workers :
    let name := Path.ofString "gzserve"
    let environment : Environment.Variables := [("GZSERVE__server__workers", "4")]
    let four : Value := .integer Environment.origin 4
    fileEntries noFiles name = .ok [] ∧ Regular [] ∧ Regular (Environment.entries environment) ∧
    winning? (ranked [] environment none none) .workers = some four ∧
    TakesNumber (loadFrom noFiles name environment none none) .workers Value.maxUnsigned four ∧
    ∃ all, loadFrom noFiles name [] (some "+8080") none = .ok all ∧
      (Text.Writes "+8080".toList all.server.port.toNat ∨
        Value.standIn? (.string none "+8080") = some all.server.port.toNat) := by
  intro name environment four
  have read : fileEntries noFiles name = .ok [] := by
    dsimp only [name]
    cbv
  have ofEnvironment : assigned (Environment.entries environment)
      = [⟨Setting.workers.place, four⟩] := by
    dsimp only [environment, four]
    cbv
  have regularFile : Regular [] := regular_of_settings [] rfl (by decide)
  have regularEnvironment : Regular (Environment.entries environment) :=
    regular_of_settings [.workers] (by rw [ofEnvironment]; rfl) (by decide)
  have wins : winning? (ranked [] environment none none) .workers = some four := by
    simp only [winning?, filled?, ranked, List.findSome?_cons, given?, assigned_overrides,
      ofEnvironment]
    rfl
  have loaded : loadFrom noFiles name environment none none = .ok ⟨⟨"0.0.0.0", 80, some 4⟩, ".",
      ⟨"info", true, "combined"⟩, ⟨75, 30, 30, none⟩⟩ := by
    dsimp only [name, environment]
    cbv
  have loaded' : loadFrom noFiles name [] (some "+8080") none = .ok ⟨⟨"0.0.0.0", 8080, none⟩, ".",
      ⟨"info", true, "combined"⟩, ⟨75, 30, 30, none⟩⟩ := by
    dsimp only [name]
    cbv
  have convertible := (follows_loadFrom read regularFile regularEnvironment).succeeds.mp
    ⟨_, loaded⟩
  have taken := (loadFrom_takes_numbers noFiles name environment none).1 read regularFile
    regularEnvironment rfl wins fun t _ => convertible t
  exact ⟨read, regularFile, regularEnvironment, wins, taken,
    _, loaded', (loadFrom_takes_numbers noFiles name [] none).2.1 loaded'⟩

/-- **A word is taken for a port.** It denotes no number, but the settings are loaded. -/
theorem word_is_taken_for_port :
    (∀ k, ¬ Text.Denotes "on".toList k) ∧
    loadFrom noFiles (.ofString "gzserve") [] (some "on") none = .ok ⟨⟨"0.0.0.0", 1, none⟩, ".",
      ⟨"info", true, "combined"⟩, ⟨75, 30, 30, none⟩⟩ := by
  constructor
  · intro k denotes
    have unread : Value.signed? "on".toList = none := by decide
    cases unread.symm.trans (Value.signed?_eq_some_iff.mpr denotes)
  · cbv

end StaticGzip.Config
