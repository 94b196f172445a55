import Mathlib.Tactic.SplitIfs
import StaticGzip.AccessLog.Entry
import StaticGzip.Proofs.Text.Plain

/-! # Plain values of an entry

Addresses and times are plain text, however they are written. -/

namespace StaticGzip

open Text (Plain)

namespace IpAddress

theorem plain_dotted (bytes : List UInt8) : Plain (dotted bytes) :=
  Text.Plain.intercalate (by decide)
    (List.forall_mem_map.mpr fun b _ => Text.plain_ofNat b.toNat)

theorem plain_colonGroups (groups : List UInt16) : Plain (colonGroups groups) :=
  Text.Plain.intercalate (by decide)
    (List.forall_mem_map.mpr fun g _ => Text.plain_toDigits (by decide) (by decide) g.toNat)

/-- An address is **plain** in its written form. -/
theorem plain_text (a : IpAddress) : Plain a.text := by
  cases a with
  | v4 bytes => exact plain_dotted bytes.toList
  | v6 groups =>
    rw [text, groupsText]
    split
    · exact Text.plain_append.mpr ⟨by decide, plain_dotted _⟩
    · dsimp only
      split
      · rw [Text.plain_append, Text.plain_append]
        exact ⟨⟨plain_colonGroups _, by decide⟩, plain_colonGroups _⟩
      · exact plain_colonGroups _

end IpAddress

namespace Date

theorem plain_monthName (d : Date) : Plain d.monthName := by
  have names : ∀ name ∈ monthNames, Plain name.toList := by decide
  rw [monthName, List.getD_eq_getElem?_getD]
  cases found : monthNames[d.month - 1]? with
  | none => exact Text.plain_nil
  | some name => exact names name (List.mem_of_getElem? found)

theorem plain_yearText (year : Int) : Plain (yearText year) := by
  rw [yearText]
  split
  · exact Text.plain_padded 4 _
  · exact Text.plain_cons.mpr ⟨by split <;> decide, Text.plain_padded 4 _⟩

end Date

namespace Moment

variable (m : Moment)

theorem plain_clock : Plain m.clock := by
  simp [clock, Text.isPlainChar]

theorem plain_zone {separator : Text} (h : Plain separator) : Plain (m.zone separator) := by
  have sign : Text.isPlainChar (if m.offset < 0 then '-' else '+') = true := by split <;> decide
  simp [zone, h, sign]

theorem plain_fraction : Plain m.fraction := by
  rw [fraction]
  split_ifs <;> simp [Text.isPlainChar]

/-- The time of the text formats is **plain**. -/
theorem plain_logTime : Plain m.logTime := by
  simp [logTime, plain_clock, plain_zone, Date.plain_monthName, Date.plain_yearText,
    Text.isPlainChar]

/-- The sortable stamp is **plain**. -/
theorem plain_isoTime : Plain m.isoTime := by
  have zone : Plain (m.zone [':']) := m.plain_zone (by decide)
  simp [isoTime, plain_clock, plain_fraction, zone, Date.plain_yearText, Text.isPlainChar]

end Moment

end StaticGzip
