import Mathlib.Data.List.Basic
import StaticGzip.Proofs.Address.GroupRows
import StaticGzip.Proofs.Text.Numeral

/-! # Addresses and their written form

The written form of an internet address leaves out a run of zero groups, or shows the last two
groups as four bytes. Either way it is a literal of the address, so the address is read back.

* **`Address.dotted_dotted`** — the written form of four bytes is a literal of them.
* **`Address.grouped_groupsText`** — the written form of eight groups is a literal of them,
  whichever of them are left out.
* **`IpAddress.ofText?_text`** — an internet address is read back from its written form. -/

namespace StaticGzip

namespace Address

/-! ## Bytes and groups -/

/-- The numeral of a byte is an **octet**: no zero stands in front of another digit. -/
theorem octet_ofNat (b : UInt8) : Octet (Text.ofNat b.toNat) b := by
  have small : b.toNat < 10 ^ 3 := Nat.lt_of_lt_of_le b.toNat_lt (by decide)
  refine ⟨numeral_ofNat b.toNat,
    (Nat.length_toDigits_le_iff (by decide) (by decide)).mpr small, fun zero => ?_⟩
  by_cases same : b.toNat = 0
  · rw [same]
    rfl
  · exact absurd zero (Text.head?_ofNat_ne same)

/-- The written form of four bytes is **a literal** of them. -/
theorem dotted_dotted (bytes : Vector UInt8 4) :
    Dotted (IpAddress.dotted bytes.toList) bytes := by
  have four : bytes.toList = [bytes[0], bytes[1], bytes[2], bytes[3]] := by
    obtain ⟨⟨list⟩, length⟩ := bytes
    obtain ⟨_, _, _, _, rfl⟩ := List.length_eq_four.mp length
    rfl
  have same : #v[bytes[0], bytes[1], bytes[2], bytes[3]] = bytes := Vector.toList_inj.mp four.symm
  have literal := Dotted.mk (octet_ofNat bytes[0]) (octet_ofNat bytes[1]) (octet_ofNat bytes[2])
    (octet_ofNat bytes[3])
  rw [same] at literal
  rw [four]
  simpa [IpAddress.dotted, List.intercalate_cons_cons] using literal

/-- A group as it is written. -/
abbrev groupText (g : UInt16) : Text := Nat.toDigits 16 g.toNat

theorem group_groupText (g : UInt16) : Group (groupText g) g where
  value := numeral_toDigits (by decide) g.toNat
  short := (Nat.length_toDigits_le_iff (by decide) (by decide)).mpr
    (Nat.lt_of_lt_of_le g.toNat_lt (by decide))

/-! ## Rows of groups -/

/-- Groups after the first one, each after a colon. -/
def moreGroups (gs : List UInt16) : Text := gs.flatMap fun g => ':' :: groupText g

theorem row_moreGroups : ∀ gs : List UInt16, Row false false (moreGroups gs) gs
  | [] => .empty
  | g :: gs => .group (group_groupText g) (row_moreGroups gs)

theorem colonGroups_cons (g : UInt16) (gs : List UInt16) :
    IpAddress.colonGroups (g :: gs) = groupText g ++ moreGroups gs := by
  induction gs generalizing g with
  | nil => simp [IpAddress.colonGroups, moreGroups]
  | cons h gs ih =>
    have more := ih h
    simp only [IpAddress.colonGroups, List.map_cons] at more ⊢
    rw [List.intercalate_cons_cons, more]
    simp [moreGroups]

/-- Groups with colons between are **a row**. -/
theorem row_colonGroups (gs : List UInt16) : Row true false (IpAddress.colonGroups gs) gs := by
  cases gs with
  | nil => exact .empty
  | cons g gs =>
    rw [colonGroups_cons]
    exact .group (group_groupText g) (row_moreGroups gs)

/-! ## Eight groups -/

/-- Some groups are those before their **longest run of zeros**, the run, and those after it. -/
theorem append_longestZeroRun (gs : List UInt16) :
    gs = gs.take (IpAddress.longestZeroRun gs).1
      ++ List.replicate (IpAddress.longestZeroRun gs).2 0
      ++ gs.drop ((IpAddress.longestZeroRun gs).1 + (IpAddress.longestZeroRun gs).2) := by
  have run : ∃ after, gs.drop (IpAddress.longestZeroRun gs).1
      = List.replicate (IpAddress.longestZeroRun gs).2 0 ++ after := by
    refine List.foldlRecOn (motive := fun best : Nat × Nat => ∃ after, gs.drop best.1
      = List.replicate best.2 0 ++ after) _ _ ⟨gs, rfl⟩ fun best zeros i _ => ?_
    dsimp only
    split
    · refine ⟨(gs.drop i).dropWhile (· == 0), ?_⟩
      have same : (gs.drop i).takeWhile (· == 0)
          = List.replicate (IpAddress.zeroRun (gs.drop i)) 0 :=
        List.eq_replicate_iff.mpr ⟨rfl, fun g taken => by simpa using List.mem_takeWhile_imp taken⟩
      rw [← same, List.takeWhile_append_dropWhile]
    · exact zeros
  obtain ⟨after, split⟩ := run
  have rest : gs.drop ((IpAddress.longestZeroRun gs).1 + (IpAddress.longestZeroRun gs).2)
      = after := by
    rw [← List.drop_drop, split]
    simp
  rw [rest, List.append_assoc, ← split, List.take_append_drop]

/-- The groups that **map** an address of version 4. -/
theorem eq_of_mapped? {gs : List UInt16} {bytes : List UInt8}
    (mapped : IpAddress.mapped? gs = some bytes) :
    ∃ g h : UInt16, gs = [0, 0, 0, 0, 0, 0xffff, g, h]
      ∧ bytes = [(g >>> 8).toUInt8, g.toUInt8, (h >>> 8).toUInt8, h.toUInt8] := by
  unfold IpAddress.mapped? at mapped
  split at mapped
  · rename_i g h
    exact ⟨g, h, rfl, (Option.some.inj mapped).symm⟩
  · simp at mapped

/-- The bytes of a group make it up. -/
theorem toNat_eq_bytes (g : UInt16) :
    g.toNat = 256 * (g >>> 8).toUInt8.toNat + g.toUInt8.toNat := by
  have small : g.toNat < 65536 := g.toNat_lt
  simp [Nat.shiftRight_eq_div_pow]
  omega

/-- The written form of eight groups is **a literal** of them. -/
theorem grouped_groupsText (gs : Vector UInt16 8) :
    Grouped (IpAddress.groupsText gs.toList) gs := by
  rw [IpAddress.groupsText]
  cases mapped : IpAddress.mapped? gs.toList with
  | some bytes =>
    obtain ⟨g, h, split, rfl⟩ := eq_of_mapped? mapped
    have four := dotted_dotted #v[(g >>> 8).toUInt8, g.toUInt8, (h >>> 8).toUInt8, h.toUInt8]
    -- The groups after the gap are the mark of a mapped address and the four bytes.
    have after : Row true true ("ffff:".toList ++ IpAddress.dotted
        [(g >>> 8).toUInt8, g.toUInt8, (h >>> 8).toUInt8, h.toUInt8]) [0xffff, g, h] :=
      .group (group_groupText 0xffff) (.bytes four (toNat_eq_bytes g) (toNat_eq_bytes h))
    have all : gs.toList = [] ++ List.replicate 5 0 ++ [0xffff, g, h] := split
    exact .gap .empty after (by decide) all
  | none =>
    dsimp only
    split
    · rename_i two
      have all := append_longestZeroRun gs.toList
      have literal := Grouped.gap (row_colonGroups _) (row_colonGroups _) (by omega) all
      simpa using literal
    · exact .whole (row_colonGroups gs.toList)

end Address

namespace IpAddress

/-- The internet address that a **whole text** denotes. -/
def ofText? (t : Text) : Option IpAddress :=
  let v4 := (Address.bytes? t).map fun (bytes, rest) => (IpAddress.v4 bytes, rest)
  let v6 := (Address.groups? t).map fun (groups, rest) => (IpAddress.v6 groups, rest)
  match v4.orElse fun _ => v6 with
  | some (a, []) => some a
  | _ => none

/-- An internet address is **read back** from its written form. -/
theorem ofText?_text (a : IpAddress) : ofText? a.text = some a := by
  cases a with
  | v4 bytes =>
    have read := Address.bytes?_eq_some_iff.mpr
      ⟨_, (List.append_nil _).symm, Address.dotted_dotted bytes, Text.ends_nil⟩
    rw [ofText?, text, read]
    rfl
  | v6 groups =>
    have literal := Address.grouped_groupsText groups
    have read := Address.groups?_append literal Address.endsGroups_nil
    rw [List.append_nil] at read
    rw [ofText?, text, literal.bytes?_eq_none, read]
    rfl

/-- Addresses with **one written form** are the same. -/
theorem text_injective : Function.Injective text := by
  intro a b same
  have read := ofText?_text a
  rw [same, ofText?_text b] at read
  exact (Option.some.inj read).symm

example : text (.v6 #v[0x2001, 0xdb8, 0, 0, 1, 0, 0, 1]) = "2001:db8::1:0:0:1".toList := by decide

end IpAddress

end StaticGzip
