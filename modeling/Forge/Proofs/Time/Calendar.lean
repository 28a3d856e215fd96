import Forge.Time.Calendar
import Mathlib.Order.Basic
import Mathlib.Tactic.ByContra

/-!
# Days and dates

A date is turned back into a day by adding up the lengths of the years and months before it
(`Date.toDay`), which is the calendar's own account and knows nothing of eras. `Date.ofDay` answers
with a date that the calendar has (`Date.valid_ofDay`) and that lies on the day it was given
(`Date.toDay_ofDay`); no other date does (`Date.Valid.toDay_inj`). The same holds for moments and
seconds.
-/

namespace Forge

namespace Date

/-! ## Counting days -/

/-- The days from the first day of the year 1 to the first day of a year. -/
def daysBeforeYear (year : Int) : Int :=
  365 * (year - 1) + (year - 1) / 4 - (year - 1) / 100 + (year - 1) / 400

/-- The days of a year before a month. -/
def daysBeforeMonth (year : Int) : Nat → Nat
  | 0 => 0
  | 1 => 0
  | month + 2 => daysBeforeMonth year (month + 1) + daysIn year (month + 1)

/-- The day of a date, counted from 1970-01-01. -/
def toDay (d : Date) : Int :=
  (daysBeforeYear d.year - daysBeforeYear 1970) + daysBeforeMonth d.year d.month + (d.day - 1)

/-- The month is one of twelve and has the day. -/
structure Valid (d : Date) : Prop where
  month_pos : 1 ≤ d.month
  month_le : d.month ≤ 12
  day_pos : 1 ≤ d.day
  day_le : d.day ≤ daysIn d.year d.month

theorem isReal_iff (d : Date) : d.isReal = true ↔ 1 ≤ d.year ∧ d.Valid := by
  simp only [isReal, Bool.and_eq_true, decide_eq_true_eq]
  exact ⟨fun ⟨⟨⟨⟨y, m⟩, m'⟩, n⟩, n'⟩ => ⟨y, m, m', n, n'⟩,
    fun ⟨y, m, m', n, n'⟩ => ⟨⟨⟨⟨y, m⟩, m'⟩, n⟩, n'⟩⟩

/-- The leap days of a year. -/
def leapDays (year : Int) : Nat :=
  if isLeap year then 1 else 0

theorem leapDays_eq (year : Int) :
    leapDays year = if year % 4 = 0 ∧ (year % 100 ≠ 0 ∨ year % 400 = 0) then 1 else 0 := by
  simp [leapDays, isLeap]

theorem leapDays_le (year : Int) : leapDays year ≤ 1 := by
  unfold leapDays
  split <;> omega

/-- A year has 365 days and its leap day. -/
theorem daysBeforeYear_succ (year : Int) :
    daysBeforeYear (year + 1) = daysBeforeYear year + 365 + leapDays year := by
  rw [leapDays_eq]
  unfold daysBeforeYear
  split <;> omega

theorem daysIn_february (year : Int) : daysIn year 2 = 28 + leapDays year := by
  unfold daysIn leapDays
  rw [if_pos rfl]
  split <;> rfl

theorem daysIn_of_ne {month : Nat} (h : month ≠ 2) (year : Int) :
    daysIn year month = daysIn 1 month := by
  simp [daysIn, h]

/-- The months from March on begin later in a year with a leap day. -/
theorem daysBeforeMonth_add_three (year : Int) (k : Nat) :
    daysBeforeMonth year (k + 3) = daysBeforeMonth 1 (k + 3) + leapDays year := by
  induction k with
  | zero =>
    have january := daysIn_of_ne (show 1 ≠ 2 by decide) year
    have february := daysIn_february year
    have common : daysIn 1 2 = 28 := by decide
    change 0 + daysIn year 1 + daysIn year 2 = 0 + daysIn 1 1 + daysIn 1 2 + leapDays year
    omega
  | succ k ih =>
    have month := daysIn_of_ne (show k + 3 ≠ 2 by omega) year
    change daysBeforeMonth year (k + 3) + daysIn year (k + 3) =
      daysBeforeMonth 1 (k + 3) + daysIn 1 (k + 3) + leapDays year
    omega

/-! ## The date of a day -/

/-- The years of an era of 400 years before the one in which a day of it lies. -/
def yearOfEra (day : Nat) : Nat :=
  (day - day / 1460 + day / 36524 - day / 146096) / 365

/-- The days of an era before one of its years. -/
def daysOfEra (year : Nat) : Nat :=
  365 * year + year / 4 - year / 100

/-- The year found for a day that lies in one of the four centuries of an era, and there in one of
the groups of four years. -/
theorem yearOfEra_group {century group left : Nat} (hc : century ≤ 3) (hg : group ≤ 24)
    (hl : left ≤ 1460) (short : 1461 * group + left < 36524) :
    ∃ y, y ≤ 3 ∧
      yearOfEra (36524 * century + (1461 * group + left)) = 100 * century + 4 * group + y ∧
      365 * y ≤ left ∧ left ≤ 365 * y + 364 + y / 3 := by
  have centuries : (36524 * century + (1461 * group + left)) / 36524 = century := by omega
  have eras : (36524 * century + (1461 * group + left)) / 146096 = 0 := by omega
  unfold yearOfEra
  rw [centuries, eras]
  by_cases few : 24 * century + group + left < 1460
  · have groups : (36524 * century + (1461 * group + left)) / 1460 = 25 * century + group := by
      omega
    rw [groups]
    exact ⟨left / 365, by omega, by omega, by omega⟩
  · have groups :
        (36524 * century + (1461 * group + left)) / 1460 = 25 * century + group + 1 := by
      omega
    rw [groups]
    exact ⟨(left - 1) / 365, by omega, by omega, by omega⟩

/-- The year found for a day of an era begins on the day or before it, and the day is one of its
365 days, or the leap day that ends it. -/
theorem yearOfEra_spec {day : Nat} (h : day < 146097) :
    yearOfEra day ≤ 399 ∧ daysOfEra (yearOfEra day) ≤ day ∧
      day ≤ daysOfEra (yearOfEra day) + 364 + leapDays (yearOfEra day + 1) := by
  rcases Nat.lt_or_ge day 146096 with h | h
  · obtain ⟨c, g, l, hc, hg, hl, short, rfl⟩ : ∃ c g l, c ≤ 3 ∧ g ≤ 24 ∧ l ≤ 1460 ∧
        1461 * g + l < 36524 ∧ day = 36524 * c + (1461 * g + l) :=
      ⟨day / 36524, day % 36524 / 1461, day % 36524 % 1461, by omega, by omega, by omega, by omega,
        by omega⟩
    obtain ⟨y, hy, found, low, high⟩ := yearOfEra_group hc hg hl short
    have fours : (100 * c + 4 * g + y) / 4 = 25 * c + g := by omega
    have hundreds : (100 * c + 4 * g + y) / 100 = c := by omega
    have begins : daysOfEra (100 * c + 4 * g + y) = 36524 * c + 1461 * g + 365 * y := by
      unfold daysOfEra
      omega
    rw [found, begins]
    refine ⟨by omega, by omega, ?_⟩
    rcases Nat.lt_or_ge l 1460 with _ | last
    · omega
    · obtain rfl : y = 3 := by omega
      have inside : g ≤ 23 := by omega
      have leap : leapDays ((100 * c + 4 * g + 3 : Nat) + 1) = 1 := by
        rw [leapDays_eq, if_pos ⟨by omega, .inl (by omega)⟩]
      omega
  · -- the last day of an era is the leap day of its last year
    obtain rfl : day = 146096 := by omega
    have found : yearOfEra 146096 = 399 := by decide
    rw [found]
    decide

theorem daysBeforeYear_era (era : Int) {year : Nat} (h : year ≤ 399) :
    daysBeforeYear (year + era * 400 + 1) = 146097 * era + daysOfEra year := by
  unfold daysBeforeYear daysOfEra
  omega

theorem leapDays_era (era year : Int) : leapDays (year + era * 400) = leapDays year := by
  simp only [leapDays_eq]
  congr 1
  apply propext
  omega

/-- The days of a year that begins in March before one of its months. -/
def daysFromMarch (k : Nat) : Nat :=
  (153 * k + 2) / 5

/-- The date of a day of the year that begins in March of a year. -/
def ofMarch (year : Int) (dayOfYear : Nat) : Date :=
  let k := (5 * dayOfYear + 2) / 153
  let month := if k < 10 then k + 3 else k - 9
  ⟨if month ≤ 2 then year + 1 else year, month, dayOfYear - daysFromMarch k + 1⟩

/-- The month in which a day of a year that begins in March lies. -/
theorem monthFromMarch_spec {day : Nat} (h : day ≤ 365) :
    (5 * day + 2) / 153 ≤ 11 ∧ daysFromMarch ((5 * day + 2) / 153) ≤ day ∧
      day < daysFromMarch ((5 * day + 2) / 153 + 1) := by
  unfold daysFromMarch
  omega

theorem daysBeforeMonth_march {k : Nat} (h : k < 10) :
    daysBeforeMonth 1 (k + 3) = daysFromMarch k + 59 ∧
      daysFromMarch (k + 1) = daysFromMarch k + daysIn 1 (k + 3) := by
  revert k
  decide

/-- The year that begins in March ends with February of the next one. -/
theorem ofMarch_spec {year : Int} {day : Nat} (h : day ≤ 364 + leapDays (year + 1)) :
    (ofMarch year day).Valid ∧
      (ofMarch year day).toDay = daysBeforeYear (year + 1) - daysBeforeYear 1970 - 306 + day := by
  have next := daysBeforeYear_succ year
  have short := leapDays_le (year + 1)
  obtain ⟨hk, first, last⟩ := monthFromMarch_spec (show day ≤ 365 by omega)
  unfold ofMarch
  dsimp only
  generalize (5 * day + 2) / 153 = k at hk first last ⊢
  by_cases late : k < 10
  · -- March to December: the leap day of the year lies before the month
    obtain ⟨before, following⟩ := daysBeforeMonth_march late
    have month := daysBeforeMonth_add_three year k
    have days := daysIn_of_ne (show k + 3 ≠ 2 by omega) year
    rw [if_pos late, if_neg (by omega)]
    refine ⟨⟨?_, ?_, ?_, ?_⟩, ?_⟩ <;> simp only [toDay] <;> omega
  · -- January and February belong to the next year, and the leap day is the last one
    have january : daysIn (year + 1) 1 = 31 := daysIn_of_ne (by decide) (year + 1)
    have february := daysIn_february (year + 1)
    have before : daysFromMarch 10 = 306 ∧ daysFromMarch 11 = 337 := ⟨rfl, rfl⟩
    rw [if_neg late, if_pos (by omega)]
    obtain rfl | rfl : k = 10 ∨ k = 11 := by omega
    all_goals
      simp only [Nat.reduceAdd] at last
      refine ⟨⟨?_, ?_, ?_, ?_⟩, ?_⟩ <;>
        simp only [toDay, daysBeforeMonth, Nat.reduceSub, Nat.reduceAdd] <;> omega

/-- The date of a day is one of the calendar, and lies on the day. -/
theorem ofDay_spec (n : Int) : (ofDay n).Valid ∧ (ofDay n).toDay = n := by
  obtain ⟨era, day, hday, rfl⟩ : ∃ (era : Int) (day : Nat), day < 146097 ∧
      n = 146097 * era + day - epochShift :=
    ⟨(n + epochShift) / 146097, ((n + epochShift) % 146097).toNat, by omega, by omega⟩
  have eras : (146097 * era + day - epochShift + epochShift) / 146097 = era := by omega
  have days : ((146097 * era + day - epochShift + epochShift) % 146097).toNat = day := by omega
  obtain ⟨hyear, low, high⟩ := yearOfEra_spec hday
  have march := daysBeforeYear_era era hyear
  have leap := leapDays_era era (yearOfEra day + 1)
  have same : (yearOfEra day + 1 + era * 400 : Int) = yearOfEra day + era * 400 + 1 := by omega
  have parts : ofDay (146097 * era + day - epochShift) =
      ofMarch (yearOfEra day + era * 400) (day - daysOfEra (yearOfEra day)) := by
    simp only [ofDay, eras, days]
    rfl
  rw [same] at leap
  have inside : day - daysOfEra (yearOfEra day) ≤
      364 + leapDays (yearOfEra day + era * 400 + 1) := by omega
  obtain ⟨valid, back⟩ := ofMarch_spec inside
  have epoch : daysBeforeYear 1970 = 719162 := by decide
  rw [parts]
  refine ⟨valid, back.trans ?_⟩
  unfold epochShift
  omega

theorem valid_ofDay (n : Int) : (ofDay n).Valid :=
  (ofDay_spec n).1

theorem toDay_ofDay (n : Int) : (ofDay n).toDay = n :=
  (ofDay_spec n).2

/-! ## One date for each day -/

theorem daysBeforeYear_mono {year later : Int} (h : year ≤ later) :
    daysBeforeYear year ≤ daysBeforeYear later := by
  unfold daysBeforeYear
  omega

theorem daysBeforeMonth_le_succ (year : Int) (month : Nat) :
    daysBeforeMonth year month ≤ daysBeforeMonth year (month + 1) := by
  cases month with
  | zero => exact Nat.le_refl 0
  | succ month => exact Nat.le_add_right _ _

theorem daysBeforeMonth_add_le (year : Int) {month later : Nat} (pos : 1 ≤ month)
    (h : month < later) :
    daysBeforeMonth year month + daysIn year month ≤ daysBeforeMonth year later := by
  obtain ⟨k, rfl⟩ : ∃ k, month = k + 1 := ⟨month - 1, by omega⟩
  obtain ⟨j, rfl⟩ : ∃ j, later = k + 2 + j := ⟨later - (k + 2), by omega⟩
  clear pos h
  induction j with
  | zero => exact Nat.le_refl _
  | succ j ih => exact Nat.le_trans ih (daysBeforeMonth_le_succ year (k + 2 + j))

theorem daysBeforeMonth_thirteen (year : Int) :
    daysBeforeMonth year 13 = 365 + leapDays year := by
  rw [daysBeforeMonth_add_three year 10]
  rfl

variable {d e : Date}

/-- The day of a date is one of the days of its year. -/
theorem Valid.toDay_bounds (h : d.Valid) :
    daysBeforeYear d.year ≤ d.toDay + daysBeforeYear 1970 ∧
      d.toDay + daysBeforeYear 1970 < daysBeforeYear (d.year + 1) := by
  have last : d.month < 13 := Nat.lt_succ_of_le h.month_le
  have inside := daysBeforeMonth_add_le d.year h.month_pos last
  have length := daysBeforeMonth_thirteen d.year
  have next := daysBeforeYear_succ d.year
  have := h.day_pos
  have := h.day_le
  unfold toDay
  omega

/-- No two dates of the calendar lie on one day. -/
theorem Valid.toDay_inj (hd : d.Valid) (he : e.Valid) (same : d.toDay = e.toDay) : d = e := by
  have years : d.year = e.year := by
    have bounds := hd.toDay_bounds
    have bounds' := he.toDay_bounds
    by_contra ne
    rcases Int.lt_or_gt_of_ne ne with before | before
    · have := daysBeforeYear_mono (Int.add_one_le_of_lt before)
      omega
    · have := daysBeforeYear_mono (Int.add_one_le_of_lt before)
      omega
  obtain ⟨year, month, day⟩ := d
  obtain ⟨year', month', day'⟩ := e
  obtain rfl : year = year' := years
  have := hd.day_pos
  have := hd.day_le
  have := he.day_pos
  have := he.day_le
  unfold toDay at same
  dsimp only at *
  have months : month = month' := by
    by_contra ne
    rcases Nat.lt_or_gt_of_ne ne with before | before
    · have : daysBeforeMonth year month + daysIn year month ≤ daysBeforeMonth year month' :=
        daysBeforeMonth_add_le year hd.month_pos before
      omega
    · have : daysBeforeMonth year month' + daysIn year month' ≤ daysBeforeMonth year month :=
        daysBeforeMonth_add_le year he.month_pos before
      omega
  obtain rfl := months
  obtain rfl : day = day' := by omega
  rfl

end Date

namespace Moment

/-- The date is one of the calendar, and the time one of a day. -/
structure Valid (m : Moment) : Prop where
  date : m.date.Valid
  hour_lt : m.hour < 24
  minute_lt : m.minute < 60
  second_lt : m.second < 60

/-- The seconds from the start of 1970 to a moment. -/
def toSeconds (m : Moment) : Int :=
  86400 * m.date.toDay + (3600 * m.hour + 60 * m.minute + m.second)

theorem valid_ofSeconds (n : Int) : (ofSeconds n).Valid := by
  refine ⟨Date.valid_ofDay _, ?_, ?_, ?_⟩ <;> simp only [ofSeconds] <;> omega

theorem toSeconds_ofSeconds (n : Int) : (ofSeconds n).toSeconds = n := by
  simp only [toSeconds, ofSeconds, Date.toDay_ofDay]
  omega

/-- No two moments lie in one second. -/
theorem Valid.toSeconds_inj {m k : Moment} (hm : m.Valid) (hk : k.Valid)
    (same : m.toSeconds = k.toSeconds) : m = k := by
  have := hm.hour_lt
  have := hm.minute_lt
  have := hm.second_lt
  have := hk.hour_lt
  have := hk.minute_lt
  have := hk.second_lt
  unfold toSeconds at same
  have dates := hm.date.toDay_inj hk.date (by omega)
  obtain ⟨date, hour, minute, second⟩ := m
  obtain ⟨date', hour', minute', second'⟩ := k
  obtain rfl : date = date' := dates
  obtain ⟨rfl, rfl, rfl⟩ : hour = hour' ∧ minute = minute' ∧ second = second' := by
    dsimp only at *
    omega
  rfl

end Moment

end Forge
