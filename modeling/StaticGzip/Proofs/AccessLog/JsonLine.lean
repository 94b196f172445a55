import StaticGzip.AccessLog.Format
import StaticGzip.Proofs.Address.WrittenForm
import StaticGzip.Proofs.Calendar.IsoTime
import StaticGzip.Proofs.Json.Reading
import StaticGzip.Proofs.Text.Control

/-! # Lines of JSON

A line of the JSON format is one object on one line. What it says of an entry is read back from it,
so that nothing in a request can make one entry look like another.

* **`Json.noControls_object`** — an object stands on one line, whatever is in its strings.
* **`Entry.fields`** — what an entry is expected to say, member by member.
* **`Entry.Alike`** — entries that differ in nothing that is told of them.
* **`Entry.line_json_reads_back`** — the line of an entry is read as its fields, and entries with
  one line are alike. -/

namespace StaticGzip

/-! ## One line -/

namespace Json

open Text (NoControls)

/-- Control characters **never stand** in a string, since each is escaped. -/
theorem noControls_escape (c : Char) : NoControls (escape c) := by
  unfold escape
  split_ifs with quote backslash feed turn tab back form control
  iterate 7 decide
  · have digits := Text.plain_toDigits (by decide : 1 < 16) (by decide) c.toNat
    rw [Text.noControls_append]
    exact ⟨by decide, (digits.leftpad (by decide) 4).noControls⟩
  · simpa using control

@[simp] theorem noControls_string (t : Text) : NoControls (string t) := by
  have inside : NoControls (t.flatMap escape) := by
    intro d hd
    obtain ⟨c, -, escaped⟩ := List.mem_flatMap.mp hd
    exact noControls_escape c d escaped
  rw [string, List.cons_append, Text.noControls_cons, Text.noControls_append]
  exact ⟨by decide, inside, by decide⟩

@[simp] theorem noControls_optional (t : Option Text) : NoControls (optional t) := by
  cases t with
  | none => decide
  | some t => exact noControls_string t

/-- An object has no control characters if no value in it has any. -/
theorem noControls_object {written : List (String × Text)}
    (h : ∀ member ∈ written, NoControls member.2) : NoControls (object written) := by
  have members : NoControls ([','].intercalate (written.map memberText)) := by
    refine Text.NoControls.intercalate (by decide) (List.forall_mem_map.mpr fun member hm => ?_)
    rw [memberText, Text.noControls_append, Text.noControls_cons]
    exact ⟨noControls_string _, by decide, h member hm⟩
  rw [object_eq, Text.noControls_cons, Text.noControls_append]
  exact ⟨by decide, members, by decide⟩

/-- A text that may be absent, as a value: **null** stands for no text. -/
def Value.ofText? (t : Option Text) : Value := t.elim .null .string

theorem Value.ofText?_injective : Function.Injective Value.ofText? := by
  intro s t same
  cases s with
  | none =>
    cases t with
    | none => rfl
    | some t => exact Value.noConfusion same
  | some s =>
    cases t with
    | none => exact Value.noConfusion same
    | some t => exact congrArg some (Value.string.inj same)

end Json

namespace AccessLog.Entry

open Json (Value)

/-- The **fields** of an entry by their names, in alphabetical order. -/
def fields (e : Entry) : List (Text × Value) := [
  ("body_bytes".toList, .number e.bodyBytes),
  ("http_version".toList, .string e.version.text.toList),
  ("method".toList, .string e.method),
  ("path".toList, .string e.path),
  ("query".toList, .ofText? e.query),
  ("referer".toList, .ofText? e.referer),
  ("remote_addr".toList, .string e.remote.ip.text),
  ("request_time_us".toList, .number (min (e.elapsed.toNanos / 1000) (2 ^ 64 - 1) : Nat)),
  ("status".toList, .number e.status),
  ("time".toList, .string e.time.isoTime),
  ("user_agent".toList, .ofText? e.userAgent)]

/-- The members of a line **write** the fields of the entry. -/
theorem writesAll_members (e : Entry) : Json.WritesAll e.members e.fields := by
  unfold members fields Json.WritesAll
  refine .cons ⟨rfl, Json.writes_ofNat _⟩ (.cons ⟨rfl, Json.writes_string _⟩
    (.cons ⟨rfl, Json.writes_string _⟩ (.cons ⟨rfl, Json.writes_string _⟩
    (.cons ⟨rfl, Json.writes_optional _⟩ (.cons ⟨rfl, Json.writes_optional _⟩
    (.cons ⟨rfl, Json.writes_string _⟩ (.cons ⟨rfl, Json.writes_ofNat _⟩
    (.cons ⟨rfl, Json.writes_ofNat _⟩ (.cons ⟨rfl, Json.writes_string _⟩
    (.cons ⟨rfl, Json.writes_optional _⟩ .nil))))))))))

/-- The line of an entry is **read** as its fields. -/
theorem read?_json (e : Entry) : Json.read? e.json = some (.object e.fields) :=
  Json.read?_object e.writesAll_members

/-- The line of an entry is **one line**. -/
theorem noControls_json (e : Entry) : e.json.NoControls :=
  Json.noControls_object (by simp [members])

/-- Entries are **alike** if they differ in nothing that is told of them. The time is told as it is
shown, which is all there is to it if it is shown in full. -/
structure Alike (a b : Entry) : Prop where
  client : a.remote.ip = b.remote.ip
  stamp : a.time.isoTime = b.time.isoTime
  time : a.time.Shown → b.time.Shown → a.time = b.time
  method : a.method = b.method
  path : a.path = b.path
  query : a.query = b.query
  version : a.version = b.version
  status : a.status = b.status
  bodyBytes : a.bodyBytes = b.bodyBytes
  referer : a.referer = b.referer
  userAgent : a.userAgent = b.userAgent
  micros : a.elapsed.micros = b.elapsed.micros

/-- The versions of the protocol have different numbers. -/
theorem eq_of_versionText {v w : Http.Version} (h : v.text = w.text) : v = w := by
  cases v <;> cases w <;> first | rfl | exact absurd h (by decide)

/-- Entries with the **same fields** are alike. -/
theorem alike_of_fields {a b : Entry} (h : a.fields = b.fields) : Alike a b := by
  simp only [fields, List.cons.injEq, Prod.mk.injEq, true_and, and_true, Value.number.injEq,
    Value.string.injEq, Nat.cast_inj, Value.ofText?_injective.eq_iff] at h
  obtain ⟨bodyBytes, version, method, path, query, referer, client, micros, status, stamp,
    userAgent⟩ := h
  exact {
    client := IpAddress.text_injective client
    stamp := stamp
    time := Moment.eq_of_isoTime stamp
    method := method
    path := path
    query := query
    version := eq_of_versionText (String.toList_inj.mp version)
    status := status
    bodyBytes := bodyBytes
    referer := referer
    userAgent := userAgent
    micros := micros }

/-- The **line of JSON tells an entry**: it is one line, and read back it is one object with the
fields of the entry, each once. Of these, the texts of address and time are read back in turn.
Entries with one line are alike. -/
theorem line_json_reads_back (e : Entry) :
    (e.line .json).NoControls ∧ Json.read? (e.line .json) = some (.object e.fields) ∧
      (e.fields.map Prod.fst).Nodup ∧ IpAddress.ofText? e.remote.ip.text = some e.remote.ip ∧
      (e.time.Shown → Moment.ofIsoTime? e.time.isoTime = some e.time) ∧
      ∀ other : Entry, other.line .json = e.line .json → Alike other e := by
  refine ⟨e.noControls_json, e.read?_json, by simp [fields], e.remote.ip.ofText?_text,
    Moment.ofIsoTime?_isoTime, fun other same => ?_⟩
  have read : some (Value.object other.fields) = some (.object e.fields) := by
    rw [← other.read?_json, ← e.read?_json]
    exact congrArg Json.read? same
  exact alike_of_fields (Value.object.inj (Option.some.inj read))

/-- An entry whose path would **end its line** and begin another one, if quotes and line feeds were
not escaped. It is of a leap second, and the referer is there without any text. -/
def forgery : Entry where
  remote := .v4 #v[127, 0, 0, 1] 80
  time := ⟨1483228799, 1500000000, 19800⟩
  method := "GET".toList
  path := "/\",\"status\":200\x7d\n\x7b\"path\":\"/".toList
  query := none
  version := .v11
  status := 404
  bodyBytes := 0
  referer := some []
  userAgent := none
  elapsed := ⟨2 ^ 64 - 1, 999999999⟩

/-- The forged entry is told as what it is, its time in full, and the same request from another port
has the same line. -/
theorem line_json_reads_back_forgery :
    forgery.time.Shown ∧ Moment.ofIsoTime? forgery.time.isoTime = some forgery.time ∧
      Alike { forgery with remote := .v4 #v[127, 0, 0, 1] 81 } forgery := by
  have shown : forgery.time.Shown := ⟨by decide, by decide⟩
  obtain ⟨-, -, -, -, time, alike⟩ := line_json_reads_back forgery
  exact ⟨shown, time shown, alike { forgery with remote := .v4 #v[127, 0, 0, 1] 81 } rfl⟩

end AccessLog.Entry

end StaticGzip
