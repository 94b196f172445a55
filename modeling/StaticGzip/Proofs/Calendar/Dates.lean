import StaticGzip.Calendar

/-! # Days and dates

An era of 400 years is four centuries of 36524 days and one day more, a century 25 times four years
of 1461 days but for the last day, and four years are four times 365 days and one day more. Each of
the longer ones has its extra day at its end.

* **`Date.toDay_ofDay`** — a day is found again from its date, so that no two days share one. -/

namespace StaticGzip.Date

/-! ## Days of an era -/

/-- A day of an era is that of a year of **four years** of a **century**. The last day of a leap
year is the 366th. -/
theorem exists_dayOfEra_eq {dayOfEra : Nat} (h : dayOfEra < daysPerEra) :
    ∃ c f y d, c < 4 ∧ f < 25 ∧ y < 4 ∧ d ≤ 365 ∧ (d = 365 → y = 3 ∧ (f = 24 → c = 3)) ∧
      dayOfEra = 36524 * c + 1461 * f + 365 * y + d := by
  unfold daysPerEra at h
  obtain ⟨c, n, hc, hn, lastCentury, centuries⟩ : ∃ c n, c < 4 ∧ n ≤ 36524 ∧
      (n = 36524 → c = 3) ∧ dayOfEra = 36524 * c + n :=
    ⟨min (dayOfEra / 36524) 3, dayOfEra - 36524 * min (dayOfEra / 36524) 3, by omega⟩
  obtain ⟨f, m, hf, hm, fours⟩ : ∃ f m, f < 25 ∧ m ≤ 1460 ∧ n = 1461 * f + m :=
    ⟨n / 1461, n % 1461, by omega⟩
  obtain ⟨y, d, hy, hd, lastYear, years⟩ : ∃ y d, y < 4 ∧ d ≤ 365 ∧ (d = 365 → y = 3) ∧
      m = 365 * y + d := ⟨min (m / 365) 3, m - 365 * min (m / 365) 3, by omega⟩
  exact ⟨c, f, y, d, hc, hf, hy, hd, fun h => ⟨lastYear h, by omega⟩, by omega⟩

/-- The **year** of a day of an era. -/
theorem yearOfEra_eq {c f y d : Nat} (hc : c < 4) (hf : f < 25) (hy : y < 4) (hd : d ≤ 365)
    (leap : d = 365 → y = 3 ∧ (f = 24 → c = 3)) :
    yearOfEra (36524 * c + 1461 * f + 365 * y + d) = 100 * c + 4 * f + y := by
  rcases Nat.lt_or_ge (1461 * f + 365 * y + d) 36524 with within | last
  · have centuries : (36524 * c + 1461 * f + 365 * y + d) / 36524 = c := by omega
    have eras : (36524 * c + 1461 * f + 365 * y + d) / 146096 = 0 := by omega
    have cycles : (36524 * c + 1461 * f + 365 * y + d) / 1460
        = 25 * c + f + (24 * c + f + 365 * y + d) / 1460 := by omega
    have years : (365 * y + d - (24 * c + f + 365 * y + d) / 1460) / 365 = y := by omega
    rw [yearOfEra, centuries, eras, cycles]
    omega
  -- Only the last day of the era goes beyond the days that every century has.
  · obtain ⟨rfl, rfl, rfl, rfl⟩ : c = 3 ∧ f = 24 ∧ y = 3 ∧ d = 365 := by omega
    rfl

/-- The **first day** of a year of an era. -/
theorem firstDayOfYear_eq {c f y : Nat} (hf : f < 25) (hy : y < 4) :
    firstDayOfYear (100 * c + 4 * f + y) = 36524 * c + 1461 * f + 365 * y := by
  unfold firstDayOfYear
  omega

/-- A day of an era lies in **its year**. Only a year that ends in a leap year's February has a
366th day. -/
theorem dayOfEra_bounds {dayOfEra : Nat} (h : dayOfEra < daysPerEra) :
    yearOfEra dayOfEra < 400 ∧ firstDayOfYear (yearOfEra dayOfEra) ≤ dayOfEra ∧
      dayOfEra ≤ firstDayOfYear (yearOfEra dayOfEra) + 365 ∧
      (dayOfEra = firstDayOfYear (yearOfEra dayOfEra) + 365 →
        (yearOfEra dayOfEra + 1) % 4 = 0 ∧
          ((yearOfEra dayOfEra + 1) % 100 = 0 → (yearOfEra dayOfEra + 1) % 400 = 0)) := by
  obtain ⟨c, f, y, d, hc, hf, hy, hd, leap, rfl⟩ := exists_dayOfEra_eq h
  rw [yearOfEra_eq hc hf hy hd leap, firstDayOfYear_eq hf hy]
  omega

/-! ## Days -/

/-- A day by its **era**, the year of the era and the day of the year. -/
theorem exists_day_eq (day : Int) : ∃ (era : Int) (year dayOfYear : Nat),
    year < 400 ∧ dayOfYear ≤ 365 ∧
    (dayOfYear = 365 → (year + 1) % 4 = 0 ∧ ((year + 1) % 100 = 0 → (year + 1) % 400 = 0)) ∧
    day = era * daysPerEra + (firstDayOfYear year + dayOfYear : Nat) - epochDay ∧
    ofDay day =
      let fromMarch := (5 * dayOfYear + 2) / 153
      let month := if fromMarch < 10 then fromMarch + 3 else fromMarch - 9
      { year := era * 400 + year + (if month ≤ 2 then 1 else 0)
        month := month
        day := dayOfYear - (153 * fromMarch + 2) / 5 + 1 } := by
  have positive : (0 : Int) < daysPerEra := by decide
  have dayOfEra := Int.emod_nonneg (day + epochDay) (Int.ne_of_gt positive)
  have small := Int.emod_lt_of_pos (day + epochDay) positive
  have split := Int.mul_ediv_add_emod (day + epochDay) daysPerEra
  have within : ((day + epochDay) % daysPerEra).toNat < daysPerEra := by omega
  obtain ⟨year, first, last, leap⟩ := dayOfEra_bounds within
  refine ⟨(day + epochDay) / daysPerEra, _, _, year, ?_, ?_, ?_, rfl⟩
  · omega
  · exact fun whole => leap (by omega)
  · rw [Nat.add_sub_cancel' first]
    rw [Int.mul_comm] at split
    omega

/-- A day is **found again** from its date. -/
theorem toDay_ofDay (day : Int) : (ofDay day).toDay = day := by
  obtain ⟨era, year, dayOfYear, hy, hd, -, split, date⟩ := exists_day_eq day
  have eras : (era * 400 + year) / 400 = era := by omega
  have years : ((era * 400 + year) % 400).toNat = year := by omega
  have months : (5 * dayOfYear + 2) / 153 ≤ 11 := by omega
  have begun : (153 * ((5 * dayOfYear + 2) / 153) + 2) / 5 ≤ dayOfYear := by omega
  rw [date, toDay]
  dsimp only
  generalize (5 * dayOfYear + 2) / 153 = fromMarch at months begun ⊢
  -- The year of a date begins in January, that of an era in March.
  rcases Nat.lt_or_ge fromMarch 10 with early | late
  · have sameYear : ¬ fromMarch + 3 ≤ 2 := by omega
    have march : 2 < fromMarch + 3 := by omega
    simp only [if_pos early, if_neg sameYear, if_pos march, Int.add_zero, eras, years,
      Nat.add_sub_cancel]
    omega
  · have nextYear : fromMarch - 9 ≤ 2 := by omega
    have january : ¬ 2 < fromMarch - 9 := by omega
    simp only [if_neg (Nat.not_lt.mpr late), if_pos nextYear, if_neg january, Int.add_sub_cancel,
      eras, years, Nat.sub_add_cancel (by omega : 9 ≤ fromMarch)]
    omega

/-- **No two days** have one date. -/
theorem ofDay_injective : Function.Injective ofDay := by
  intro a b same
  rw [← toDay_ofDay a, same, toDay_ofDay b]

end StaticGzip.Date
