import StaticGzip.Proofs.Address.WrittenForm
import StaticGzip.Server.Startup

/-! # The listen address

The host and the port of the settings are put together, with a colon between, and what comes out is
read as one text. A port is written without a colon, so the text falls apart at its last one: the
host is all that stands before, whatever colons it has itself.

* **`Address.Zone`, `Address.Denotes`** — a scope behind a percent sign, which may be absent, and
  the hosts that denote an address.
* **`SocketAddress.ofText?_append`, `SocketAddress.exists_denotes`** — a text is read if it is a
  host and a port, and only then.
* **`SocketAddress.ofText?_text`** — a socket address is read back from its written form.
* **`ServerSettings.listens`** — the address of the settings is what their host denotes, at their
  port. -/

namespace StaticGzip

namespace Address

/-! ## Hosts -/

/-- A **zone**: the decimal scope behind a percent sign. Without a zone the scope is zero. -/
inductive Zone : Text → UInt32 → Prop where
  | absent : Zone [] 0
  | scope {t : Text} {s : UInt32} (numeral : Numeral 10 t s.toNat) : Zone ('%' :: t) s

/-- A **host denotes** an address, at any port: four bytes as they are, or eight groups and their
zone in brackets. -/
inductive Denotes : Text → SocketAddress → Prop where
  | v4 {host : Text} {bytes : Vector UInt8 4} (dotted : Dotted host bytes) (port : UInt16) :
    Denotes host (.v4 bytes port)
  | v6 {t z : Text} {groups : Vector UInt16 8} {scope : UInt32} (grouped : Grouped t groups)
      (zone : Zone z scope) (port : UInt16) :
    Denotes ('[' :: (t ++ z ++ [']'])) (.v6 groups scope port)

/-! ## Scopes and ports -/

/-- A **zone is read** in front of a bracket. -/
theorem scope_append {z rest : Text} {s : UInt32} (zone : Zone z s) :
    scope (z ++ ']' :: rest) = (s, ']' :: rest) := by
  cases zone with
  | absent => rfl
  | @scope digits _ numeral =>
    have small : s.toNat ≤ 4294967295 := Nat.le_of_lt_succ s.toNat_lt
    have read : boundedNumeral? 4294967295 (digits ++ ']' :: rest)
        = some (s.toNat, ']' :: rest) :=
      boundedNumeral?_eq_some_iff.mpr
        ⟨digits, rfl, numeral, small, Text.ends_cons.mpr (by decide)⟩
    have percent : skip? '%' ('%' :: (digits ++ ']' :: rest)) = some (digits ++ ']' :: rest) := rfl
    rw [scope, List.cons_append, percent, Option.bind_some, read]
    dsimp only
    rw [UInt32.ofNat_toNat]

/-- What is read as a scope is **a zone**. -/
theorem exists_zone (t : Text) : ∃ z, t = z ++ (scope t).2 ∧ Zone z (scope t).1 := by
  unfold scope
  split
  · rename_i n rest read
    obtain ⟨_, percent, read⟩ := Option.bind_eq_some_iff.mp read
    obtain rfl := skip?_eq_some_iff.mp percent
    obtain ⟨digits, rfl, numeral, small, -⟩ := boundedNumeral?_eq_some_iff.mp read
    refine ⟨'%' :: digits, rfl, .scope ?_⟩
    rwa [UInt32.toNat_ofNat_of_lt' (Nat.lt_succ_of_le small)]
  · exact ⟨[], rfl, .absent⟩

/-- A **port** is read from a colon and its numeral. -/
theorem port?_eq_some_iff {t rest : Text} {p : UInt16} :
    port? t = some (p, rest) ↔ ∃ digits, t = ':' :: (digits ++ rest) ∧
      Numeral 10 digits p.toNat ∧ Text.Ends isDecimal rest := by
  simp only [port?, Option.bind_eq_bind, Option.bind_eq_some_iff, Prod.exists,
    skip?_eq_some_iff, boundedNumeral?_eq_some_iff]
  constructor
  · rintro ⟨_, rfl, n, after, ⟨digits, rfl, numeral, small, ends⟩, read⟩
    obtain ⟨rfl, rfl⟩ := Prod.mk.inj (Option.some.inj read)
    refine ⟨digits, rfl, ?_, ends⟩
    rwa [UInt16.toNat_ofNat_of_lt' (Nat.lt_succ_of_le small)]
  · rintro ⟨digits, rfl, numeral, ends⟩
    have small : p.toNat ≤ 65535 := Nat.le_of_lt_succ p.toNat_lt
    exact ⟨_, rfl, p.toNat, rest, ⟨digits, rfl, numeral, small, ends⟩, by rw [UInt16.ofNat_toNat]⟩

/-- A port at the **end of a text** is read. -/
theorem port?_numeral {digits : Text} {p : UInt16} (numeral : Numeral 10 digits p.toNat) :
    port? (':' :: digits) = some (p, []) :=
  port?_eq_some_iff.mpr ⟨digits, by simp, numeral, Text.ends_nil⟩

end Address

/-! ## Whole texts -/

namespace SocketAddress

open Address

/-- A **host of version 4** and a port are read. -/
theorem socketV4?_append {host digits : Text} {bytes : Vector UInt8 4} {port : UInt16}
    (dotted : Dotted host bytes) (numeral : Numeral 10 digits port.toNat) :
    socketV4? (host ++ ':' :: digits) = some (.v4 bytes port, []) := by
  have read : bytes? (host ++ ':' :: digits) = some (bytes, ':' :: digits) :=
    bytes?_eq_some_iff.mpr ⟨host, rfl, dotted, Text.ends_cons.mpr (by decide)⟩
  simp only [socketV4?, read, port?_numeral numeral, Option.bind_eq_bind, Option.bind_some]

/-- A **host of version 6** and a port are read. -/
theorem socketV6?_append {t z digits : Text} {groups : Vector UInt16 8} {scope : UInt32}
    {port : UInt16} (grouped : Grouped t groups) (zone : Zone z scope)
    (numeral : Numeral 10 digits port.toNat) :
    socketV6? ('[' :: (t ++ (z ++ ']' :: ':' :: digits))) = some (.v6 groups scope port, []) := by
  -- Neither the zone nor the bracket goes on with the groups.
  have ends : EndsGroups (z ++ ']' :: ':' :: digits) := by
    cases zone with
    | absent => exact endsGroups_cons _ (by decide) (by decide) (by decide)
    | scope => exact endsGroups_cons _ (by decide) (by decide) (by decide)
  simp only [socketV6?, skip?, if_true, groups?_append grouped ends, scope_append zone,
    port?_numeral numeral, Option.bind_eq_bind, Option.bind_some]

/-- A host and a port are **read** as the address they denote. -/
theorem ofText?_append {host digits : Text} {a : SocketAddress} (denotes : Denotes host a)
    (numeral : Numeral 10 digits a.port.toNat) : ofText? (host ++ ':' :: digits) = some a := by
  cases denotes with
  | v4 dotted port =>
    rw [ofText?, socketV4?_append dotted numeral]
    rfl
  | @v6 t z _ _ grouped zone port =>
    have text : '[' :: (t ++ z ++ [']']) ++ ':' :: digits
        = '[' :: (t ++ (z ++ ']' :: ':' :: digits)) := by simp
    have other : socketV4? ('[' :: (t ++ (z ++ ']' :: ':' :: digits))) = none := by
      rw [socketV4?, bytes?_eq_none_of_ends (Text.ends_cons.mpr (by decide))]
      rfl
    rw [text, ofText?, other, socketV6?_append grouped zone numeral]
    rfl

/-- What is read as a whole is **a host and a port**. -/
theorem exists_denotes {t : Text} {a : SocketAddress} (h : ofText? t = some a) :
    ∃ host digits, t = host ++ ':' :: digits ∧ Denotes host a ∧ Numeral 10 digits a.port.toNat := by
  rw [ofText?] at h
  split at h
  · rename_i read
    obtain rfl := Option.some.inj h
    rw [Option.orElse_eq_or, Option.or_eq_some_iff] at read
    rcases read with read | ⟨-, read⟩
    · simp only [socketV4?, Option.bind_eq_bind, Option.bind_eq_some_iff, Prod.exists,
        bytes?_eq_some_iff, port?_eq_some_iff] at read
      obtain ⟨bytes, _, ⟨host, rfl, dotted, -⟩, p, _, ⟨digits, rfl, numeral, -⟩, same⟩ := read
      obtain ⟨rfl, rfl⟩ := Prod.mk.inj (Option.some.inj same)
      exact ⟨host, digits, by simp, .v4 dotted p, numeral⟩
    · simp only [socketV6?, Option.bind_eq_bind, Option.bind_eq_some_iff, Prod.exists,
        skip?_eq_some_iff, port?_eq_some_iff] at read
      obtain ⟨_, rfl, groups, rest, read, _, left, p, _, ⟨digits, rfl, numeral, -⟩, same⟩ := read
      obtain ⟨rfl, rfl⟩ := Prod.mk.inj (Option.some.inj same)
      obtain ⟨t, rfl, grouped⟩ := exists_grouped read
      obtain ⟨z, split, zone⟩ := exists_zone rest
      rw [left] at split
      subst split
      exact ⟨_, digits, by simp, .v6 grouped zone p, numeral⟩
  · cases h

/-- The written form of a socket address is **a host that denotes it**, and its port. -/
theorem exists_denotes_text (a : SocketAddress) :
    ∃ host, a.text = host ++ ':' :: Text.ofNat a.port.toNat ∧ Denotes host a := by
  cases a with
  | v4 bytes p => exact ⟨_, rfl, .v4 (dotted_dotted bytes) p⟩
  | v6 groups scope p =>
    have grouped := grouped_groupsText groups
    by_cases zero : scope = 0
    · subst zero
      exact ⟨_, by simp [text, port], .v6 grouped .absent p⟩
    · have zone : Zone ('%' :: Text.ofNat scope.toNat) scope := .scope (numeral_ofNat _)
      exact ⟨_, by simp [text, zero, port], .v6 grouped zone p⟩

/-- A socket address is **read back** from its written form. -/
theorem ofText?_text (a : SocketAddress) : ofText? a.text = some a := by
  obtain ⟨host, written, denotes⟩ := exists_denotes_text a
  rw [written]
  exact ofText?_append denotes (numeral_ofNat _)

end SocketAddress

/-! ## The settings -/

/-- Texts fall apart at their **last colon**. -/
theorem Text.append_colon_inj {s t u v : Text} (none : ':' ∉ t) (none' : ':' ∉ v)
    (same : s ++ ':' :: t = u ++ ':' :: v) : s = u ∧ t = v := by
  rcases List.append_eq_append_iff.mp same with ⟨m, rfl, rest⟩ | ⟨m, rfl, rest⟩
  · cases m with
    | nil => exact ⟨(List.append_nil s).symm, (List.cons.inj rest).2⟩
    | cons c m => exact absurd (by simp [(List.cons.inj rest).2]) none
  · cases m with
    | nil => exact ⟨List.append_nil u, (List.cons.inj rest).2.symm⟩
    | cons c m => exact absurd (by simp [(List.cons.inj rest).2]) none'

/-- A host and the numeral of a port are read as **the address that the host denotes**, at the
port. -/
theorem SocketAddress.ofText?_ofNat {host : Text} {p : UInt16} {a : SocketAddress} :
    SocketAddress.ofText? (host ++ ':' :: Text.ofNat p.toNat) = some a ↔
      Address.Denotes host a ∧ a.port = p := by
  constructor
  · intro read
    obtain ⟨named, digits, split, denotes, numeral⟩ := SocketAddress.exists_denotes read
    have written := Address.numeral_ofNat p.toNat
    -- The text has both a last colon of its own and the one in front of the port.
    obtain ⟨rfl, rfl⟩ := Text.append_colon_inj (written.not_mem (by decide))
      (numeral.not_mem (by decide)) split
    exact ⟨denotes, UInt16.toNat_inj.mp (numeral.unique Address.reads_digit? written)⟩
  · rintro ⟨denotes, rfl⟩
    exact SocketAddress.ofText?_append denotes (Address.numeral_ofNat _)

/-- A zone may have zeros in front, and a host that has a port already denotes no address. -/
example :
    SocketAddress.ofText? "[::ffff:1.2.3.4%07]:80".toList
        = some (.v6 #v[0, 0, 0, 0, 0, 0xffff, 0x102, 0x304] 7 80) ∧
      SocketAddress.ofText? "127.0.0.1:80:8080".toList = none := by decide

/-- The settings **listen** where their host and port say. -/
structure ServerSettings.Listens (s : ServerSettings) : Prop where
  /-- The address is the one that the host denotes, at the port of the settings. -/
  address : ∀ a, s.listenAddress? = .ok a ↔
    Address.Denotes s.host.toList a ∧ a.port = s.port
  /-- The address that is shown is the address. -/
  shown : ∀ a, s.listenAddress? = .ok a → SocketAddress.ofText? a.display.toList = some a
  /-- A host that denotes no address is refused with the text that was read. -/
  refused : (∀ a, ¬ Address.Denotes s.host.toList a) →
    s.listenAddress? = .error (.address (s.host ++ ":" ++ toString s.port.toNat))

/-- The text of the settings is the host, a colon and the port. -/
theorem ServerSettings.toList_addressText (s : ServerSettings) :
    s.addressText.toList = s.host.toList ++ ':' :: Text.ofNat s.port.toNat := by
  have shown : s.addressText = s.host ++ ":" ++ toString s.port.toNat := rfl
  simp [shown, Text.ofNat]

/-- The address of the settings is what their host denotes **at their port**, and nothing else. -/
theorem ServerSettings.listens (s : ServerSettings) : s.Listens := by
  have address (a : SocketAddress) : s.listenAddress? = .ok a ↔
      Address.Denotes s.host.toList a ∧ a.port = s.port := by
    rw [← SocketAddress.ofText?_ofNat, ← s.toList_addressText, listenAddress?]
    cases SocketAddress.ofText? s.addressText.toList with
    | none => simp
    | some b => simp
  refine ⟨address, fun a _ => ?_, fun foreign => ?_⟩
  · rw [SocketAddress.display, String.toList_ofList]
    exact a.ofText?_text
  · have unread : SocketAddress.ofText? s.addressText.toList = none := by
      refine Option.eq_none_iff_forall_ne_some.mpr fun a read => ?_
      rw [s.toList_addressText, SocketAddress.ofText?_ofNat] at read
      exact foreign a read.1
    rw [listenAddress?, unread]
    rfl

end StaticGzip
