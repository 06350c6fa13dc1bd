import Mathlib.Data.Int.Init
import Mathlib.Tactic.ByContra
import Mathlib.Tactic.IntervalCases
import Mathlib.Tactic.SplitIfs
import Sift.Filter.DateTime

/-!
# The calendar

Dates follow one another, and the number of a date counts them: the next date has the next number,
every number is that of one date, and the date is computed from it.

* `Date`: a date that exists, `Date.next` the date after it, `Date.number` its number.
* `Date.number_next`: numbers count dates.
* `dateOf_daysOf`: a date is found again from its number.
* `Date.ofNumber`: the date of any number.
* `DayCount`: a count of days; any two of them differ by a constant (`DayCount.eq_number_add`).
-/

namespace Sift.Filter

theorem isLeap_iff {year : Int} :
    isLeap year = true ↔ year % 4 = 0 ∧ (year % 100 ≠ 0 ∨ year % 400 = 0) := by
  simp [isLeap]

/-- A date exists if its month and its day do. -/
theorem isDate_iff {year : Int} {month day : Nat} : isDate year month day = true ↔
    (1 ≤ month ∧ month ≤ 12) ∧ 1 ≤ day ∧ day ≤ daysIn year month := by
  simp [isDate, and_assoc]

/-- A month has four weeks at least, and three days more at most. -/
theorem daysIn_bounds (year : Int) (month : Nat) :
    28 ≤ daysIn year month ∧ daysIn year month ≤ 31 := by
  unfold daysIn
  split_ifs <;> omega

/-- Dates that exist. -/
@[ext]
structure Date where
  year : Int
  month : Nat
  day : Nat
  valid : isDate year month day = true

namespace Date

/-- The date after a date: the next day of the month, or the first one of the next month. -/
def next (d : Date) : Date :=
  have real := isDate_iff.1 d.valid
  have full := daysIn_bounds
  if inside : d.day < daysIn d.year d.month then
    ⟨d.year, d.month, d.day + 1, isDate_iff.2 ⟨real.1, by omega, inside⟩⟩
  else if further : d.month < 12 then
    ⟨d.year, d.month + 1, 1, isDate_iff.2 ⟨by omega, by have := full d.year (d.month + 1); omega⟩⟩
  else ⟨d.year + 1, 1, 1, isDate_iff.2 ⟨by omega, by have := full (d.year + 1) 1; omega⟩⟩

/-- The date before a date: the last one of the month before, on the first of a month. -/
def prev (d : Date) : Date :=
  have real := isDate_iff.1 d.valid
  have full := daysIn_bounds
  if inside : 1 < d.day then
    ⟨d.year, d.month, d.day - 1, isDate_iff.2 ⟨real.1, by omega, by omega⟩⟩
  else if further : 1 < d.month then
    ⟨d.year, d.month - 1, daysIn d.year (d.month - 1),
      isDate_iff.2 ⟨by omega, by have := full d.year (d.month - 1); omega⟩⟩
  else ⟨d.year - 1, 12, 31, isDate_iff.2 ⟨by omega, by decide, Nat.le_refl 31⟩⟩

/-- The date after the one before is the date itself, at the ends of months and years too. -/
theorem next_prev (d : Date) : d.prev.next = d := by
  obtain ⟨year, month, day, valid⟩ := d
  obtain ⟨⟨first, last⟩, least, most⟩ := isDate_iff.1 valid
  unfold prev
  dsimp only
  -- the day before is in the same month, in the month before, or in the year before
  by_cases inside : 1 < day
  · rw [dif_pos inside]
    have more : day - 1 < daysIn year month := by omega
    unfold next
    rw [dif_pos more]
    ext <;> dsimp only
    omega
  rw [dif_neg inside]
  by_cases further : 1 < month
  · rw [dif_pos further]
    have whole : ¬ daysIn year (month - 1) < daysIn year (month - 1) := Nat.lt_irrefl _
    have before : month - 1 < 12 := by omega
    unfold next
    rw [dif_neg whole, dif_pos before]
    ext <;> dsimp only <;> omega
  · rw [dif_neg further]
    have whole : ¬ 31 < daysIn (year - 1) 12 := Nat.lt_irrefl 31
    unfold next
    rw [dif_neg whole, dif_neg (Nat.lt_irrefl 12)]
    ext <;> dsimp only <;> omega

end Date

/-! ### Days from March on

A year that starts in March has its leap day at the end, so that the months before do not depend on
the year. -/

/-- The year that starts in March and has a month in it. -/
def yearFromMarch (year : Int) (month : Nat) : Int := if month ≤ 2 then year - 1 else year

/-- The months of that year before a month. -/
def monthsFromMarch (month : Nat) : Int := if month > 2 then (month : Int) - 3 else month + 9

/-- The days of that year before a month. -/
def daysFromMarch (month : Nat) : Int := (153 * monthsFromMarch month + 2) / 5

/-- The days before March of a year, counted from March of the year zero. -/
def daysToMarch (year : Int) : Int := 365 * year + year / 4 - year / 100 + year / 400

/-- Day numbers are counted from March on: whole years first, then months, then days. -/
theorem daysOf_eq (year : Int) (month day : Nat) : daysOf year month day =
    daysToMarch (yearFromMarch year month) + daysFromMarch month + day - 1 - 719468 := by
  unfold daysOf daysToMarch daysFromMarch monthsFromMarch yearFromMarch
  dsimp only
  generalize (if month ≤ 2 then year - 1 else year) = y
  omega

/-- A year that ends with February has a day more if that February has. -/
theorem daysToMarch_eq_add (year : Int) :
    daysToMarch year = daysToMarch (year - 1) + if isLeap year then 366 else 365 := by
  unfold daysToMarch
  by_cases leap : isLeap year = true
  · rw [if_pos leap]
    have rule := isLeap_iff.1 leap
    omega
  · rw [if_neg leap]
    have rule := mt isLeap_iff.2 leap
    omega

/-- A month ends where the next one begins, but for February. -/
theorem daysFromMarch_add (year : Int) {month : Nat} (h : 1 ≤ month ∧ month ≤ 12)
    (other : month ≠ 2) :
    daysFromMarch month + daysIn year month = (153 * (monthsFromMarch month + 1) + 2) / 5 := by
  obtain ⟨first, last⟩ := h
  interval_cases month <;> first
    | exact absurd rfl other
    | rfl

/-- The first day of the next month comes after the last day of a month. -/
theorem daysToMarch_succ {year : Int} {month : Nat} (h : 1 ≤ month ∧ month < 12) :
    daysToMarch (yearFromMarch year (month + 1)) + daysFromMarch (month + 1) =
      daysToMarch (yearFromMarch year month) + daysFromMarch month + daysIn year month := by
  by_cases february : month = 2
  · -- the year that started in the last March ends
    subst february
    have before : yearFromMarch year 2 = year - 1 ∧ daysFromMarch 2 = 337 := ⟨rfl, rfl⟩
    have after : yearFromMarch year (2 + 1) = year ∧ daysFromMarch (2 + 1) = 0 := ⟨rfl, rfl⟩
    have length : daysIn year 2 = if isLeap year then 29 else 28 := rfl
    have whole := daysToMarch_eq_add year
    rw [before.1, before.2, after.1, after.2, length, whole]
    split_ifs <;> omega
  · have same : yearFromMarch year (month + 1) = yearFromMarch year month := by
      unfold yearFromMarch
      split_ifs <;> omega
    have months : monthsFromMarch (month + 1) = monthsFromMarch month + 1 := by
      unfold monthsFromMarch
      split_ifs <;> omega
    have length := daysFromMarch_add year ⟨h.1, by omega⟩ february
    rw [same, daysFromMarch, months, ← length, Int.add_assoc]

/-- The days of the year before a date: at most 364, or 365 before a leap day. -/
theorem dayOfYear_bounds {year : Int} {month day : Nat} (h : isDate year month day = true) :
    1 ≤ daysFromMarch month + day ∧ (daysFromMarch month + day ≤ 365 ∨
      daysFromMarch month + day = 366 ∧ isLeap (yearFromMarch year month + 1) = true) := by
  obtain ⟨⟨first, last⟩, least, most⟩ := isDate_iff.1 h
  have start : 0 ≤ daysFromMarch month := by
    unfold daysFromMarch monthsFromMarch
    split_ifs <;> omega
  refine ⟨by omega, ?_⟩
  -- only February has a length that depends on the year
  by_cases february : month = 2
  · subst february
    have length : daysIn year 2 = if isLeap year then 29 else 28 := rfl
    have before : yearFromMarch year 2 = year - 1 ∧ daysFromMarch 2 = 337 := ⟨rfl, rfl⟩
    rw [before.1, before.2, Int.sub_add_cancel]
    rw [length] at most
    by_cases leap : isLeap year = true
    · rw [if_pos leap] at most
      by_cases leapDay : day = 29
      · exact .inr ⟨by omega, leap⟩
      · exact .inl (by omega)
    · rw [if_neg leap] at most
      exact .inl (by omega)
  · have length := daysFromMarch_add year ⟨first, last⟩ february
    have months : monthsFromMarch month ≤ 10 := by
      unfold monthsFromMarch
      split_ifs <;> omega
    exact .inl (by omega)

/-- The month of a day of the year. -/
theorem monthsFromMarch_eq {year : Int} {month day : Nat} (h : isDate year month day = true) :
    (5 * (daysFromMarch month + day - 1) + 2) / 153 = monthsFromMarch month := by
  obtain ⟨⟨first, last⟩, least, most⟩ := isDate_iff.1 h
  have length : daysFromMarch month + daysIn year month ≤
      (153 * (monthsFromMarch month + 1) + 2) / 5 := by
    by_cases february : month = 2
    · subst february
      have longest : daysIn year 2 ≤ 29 := by
        unfold daysIn
        split_ifs <;> omega
      have days : daysFromMarch 2 = 337 ∧ monthsFromMarch 2 = 11 := ⟨rfl, rfl⟩
      rw [days.1, days.2]
      omega
    · exact Int.le_of_eq (daysFromMarch_add year ⟨first, last⟩ february)
  unfold daysFromMarch at length ⊢
  omega

/-! ### Years in groups -/

/-- A year in its groups of 400, 100 and 4 years. -/
structure InGroups (year g c q s : Int) : Prop where
  parts : year = 400 * g + 100 * c + 4 * q + s
  century : 0 ≤ c ∧ c ≤ 3
  four : 0 ≤ q ∧ q ≤ 24
  last : 0 ≤ s ∧ s ≤ 3

theorem exists_inGroups (year : Int) : ∃ g c q s, InGroups year g c q s :=
  ⟨year / 400, year % 400 / 100, year % 100 / 4, year % 4, by omega, by omega, by omega, by omega⟩

namespace InGroups

variable {year g c q s d e : Int} (h : InGroups year g c q s)

include h

/-- The days of whole groups of years, without the leap days inside being counted one by one. -/
theorem daysToMarch_eq : daysToMarch year = 146097 * g + (36524 * c + 1461 * q + 365 * s) := by
  obtain ⟨parts, century, four, last⟩ := h
  unfold daysToMarch
  omega

/-- The year before a leap year is the last one of its four, and these are not the last ones of
a century that is followed by a common year. -/
theorem of_isLeap (leap : isLeap (year + 1) = true) : s = 3 ∧ (q ≤ 23 ∨ c = 3) := by
  obtain ⟨parts, century, four, last⟩ := h
  rw [isLeap_iff] at leap
  have final : s = 3 := by omega
  refine ⟨final, ?_⟩
  by_contra common
  have turn : q = 24 ∧ c ≤ 2 := by omega
  omega

/-- The day in a group of 400 years, and the year of that day. -/
theorem yearOfEra_eq (start : 0 ≤ d) (stop : d ≤ 364 ∨ d = 365 ∧ s = 3 ∧ (q ≤ 23 ∨ c = 3))
    (he : e = 36524 * c + 1461 * q + 365 * s + d) : (0 ≤ e ∧ e ≤ 146096) ∧
      (e - e / 1460 + e / 36524 - e / 146096) / 365 = 100 * c + 4 * q + s := by
  obtain ⟨-, century, four, last⟩ := h
  have range : 0 ≤ e ∧ e ≤ 146096 := by omega
  -- the last day of a group would begin a fifth century
  have centuries : e / 36524 - e / 146096 = c := by
    by_cases lastDay : e = 146096
    · omega
    · have inside : e < 36524 * (c + 1) := by omega
      omega
  -- the quotient by four years of 365 days is ahead by one only in a fourth year
  have leapDays : e / 1460 = 25 * c + q + (24 * c + q + 365 * s + d) / 1460 := by omega
  have day : 0 ≤ d - (24 * c + q + 365 * s + d) / 1460 ∧
      d - (24 * c + q + 365 * s + d) / 1460 ≤ 364 := by omega
  generalize (24 * c + q + 365 * s + d) / 1460 = ahead at leapDays day
  have years : e - e / 1460 + e / 36524 - e / 146096 =
      (d - ahead) + (100 * c + 4 * q + s) * 365 := by
    rw [Int.add_sub_assoc, centuries, leapDays]
    clear stop day centuries leapDays
    omega
  have within : (d - ahead) / 365 = 0 :=
    Int.ediv_eq_zero_of_lt day.1 (Int.lt_of_le_of_lt day.2 (by decide))
  rw [years, Int.add_mul_ediv_right _ _ (by decide), within, Int.zero_add]
  exact ⟨range, rfl⟩

/-- The day of the year is what is left of the day in the group. -/
theorem dayOfYear_eq (he : e = 36524 * c + 1461 * q + 365 * s + d) :
    e - (365 * (100 * c + 4 * q + s) + (100 * c + 4 * q + s) / 4 -
      (100 * c + 4 * q + s) / 100) = d := by
  obtain ⟨-, century, four, last⟩ := h
  omega

end InGroups

theorem group_eq {g e n : Int} (range : 0 ≤ e ∧ e ≤ 146096) (h : n = 146097 * g + e) :
    n / 146097 = g ∧ n % 146097 = e := by omega

/-- **A date is found again** from its number. -/
theorem dateOf_daysOf {year : Int} {month day : Nat} (h : isDate year month day = true) :
    dateOf (daysOf year month day) = (year, month, day) := by
  obtain ⟨range, start, -⟩ := isDate_iff.1 h
  obtain ⟨least, most⟩ := dayOfYear_bounds h
  obtain ⟨g, c, q, s, groups⟩ := exists_inGroups (yearFromMarch year month)
  -- the last day of a year of 366 is in its last group, which is the longest one
  have stop : daysFromMarch month + day - 1 ≤ 364 ∨
      daysFromMarch month + day - 1 = 365 ∧ s = 3 ∧ (q ≤ 23 ∨ c = 3) := by
    rcases most with common | ⟨leapDay, leap⟩
    · exact .inl (by omega)
    · exact .inr ⟨by omega, groups.of_isLeap leap⟩
  obtain ⟨e, he⟩ : ∃ e, e = 36524 * c + 1461 * q + 365 * s + (daysFromMarch month + day - 1) :=
    ⟨_, rfl⟩
  obtain ⟨inside, years⟩ := groups.yearOfEra_eq (by omega) stop he
  have dayOfYear := groups.dayOfYear_eq he
  have shifted : daysOf year month day + 719468 = 146097 * g + e := by
    rw [daysOf_eq, groups.daysToMarch_eq, he]
    omega
  obtain ⟨era, dayOfEra⟩ := group_eq inside shifted
  have months := monthsFromMarch_eq h
  have month_eq : ((if monthsFromMarch month < 10 then monthsFromMarch month + 3
      else monthsFromMarch month - 9) : Int).toNat = month := by
    unfold monthsFromMarch
    split_ifs <;> omega
  have day_eq : (daysFromMarch month + day - 1 - daysFromMarch month + 1).toNat = day := by omega
  have march_eq : 100 * c + 4 * q + s + g * 400 = yearFromMarch year month := by
    rw [groups.parts]
    omega
  have year_eq : yearFromMarch year month + (if month ≤ 2 then 1 else 0) = year := by
    unfold yearFromMarch
    split_ifs <;> omega
  unfold dateOf
  -- every division of the algorithm is known now, so the date is what is left of it
  dsimp only
  rw [dayOfEra, era, years, dayOfYear, months, month_eq, ← daysFromMarch, day_eq, march_eq, year_eq]

/-! ### Numbers of dates -/

namespace Date

/-- The number of a date, counted from the first of January 1970. -/
def number (d : Date) : Int := daysOf d.year d.month d.day

/-- **The date after a date** has the next number. -/
theorem number_next (d : Date) : d.next.number = d.number + 1 := by
  obtain ⟨year, month, day, valid⟩ := d
  obtain ⟨⟨first, last⟩, least, most⟩ := isDate_iff.1 valid
  unfold next number
  dsimp only
  split
  · dsimp only
    rw [daysOf_eq, daysOf_eq]
    omega
  · next outside =>
    -- the last day of a month, and of a year where there is no further month
    have lastDay : day = daysIn year month := by omega
    split
    · next further =>
      have month_eq := @daysToMarch_succ year month ⟨first, further⟩
      dsimp only
      rw [daysOf_eq, daysOf_eq]
      omega
    · next outside =>
      obtain rfl : month = 12 := by omega
      have length : daysIn year 12 = 31 := rfl
      have december : yearFromMarch year 12 = year ∧ daysFromMarch 12 = 275 := ⟨rfl, rfl⟩
      have january : yearFromMarch (year + 1) 1 = year + 1 - 1 ∧ daysFromMarch 1 = 306 := ⟨rfl, rfl⟩
      dsimp only
      rw [daysOf_eq, daysOf_eq, december.1, december.2, january.1, january.2, Int.add_sub_cancel]
      omega

/-- The date before has the number before. -/
theorem number_prev (d : Date) : d.prev.number = d.number - 1 := by
  have step := number_next d.prev
  rw [next_prev] at step
  omega

/-- Every number is that of a date, since dates go on in both directions. -/
theorem exists_number_eq (n : Int) : ∃ d : Date, d.number = n := by
  -- from 1970 on one date after another, and one before another
  induction n using Int.induction_on with
  | zero => exact ⟨⟨1970, 1, 1, by decide⟩, by decide⟩
  | succ n ih =>
    obtain ⟨d, hd⟩ := ih
    exact ⟨d.next, by rw [number_next, hd]⟩
  | pred n ih =>
    obtain ⟨d, hd⟩ := ih
    exact ⟨d.prev, by rw [number_prev, hd]⟩

/-- What is computed from a number is a date that exists. -/
theorem isDate_dateOf (n : Int) : isDate (dateOf n).1 (dateOf n).2.1 (dateOf n).2.2 = true := by
  obtain ⟨d, rfl⟩ := exists_number_eq n
  rw [number, dateOf_daysOf d.valid]
  exact d.valid

/-- The date of a number. -/
def ofNumber (n : Int) : Date := ⟨(dateOf n).1, (dateOf n).2.1, (dateOf n).2.2, isDate_dateOf n⟩

/-- A date is found again from its number. -/
@[simp] theorem ofNumber_number (d : Date) : ofNumber d.number = d := by
  have same := dateOf_daysOf d.valid
  unfold ofNumber number
  ext
  · exact congrArg Prod.fst same
  · exact congrArg (fun date => date.2.1) same
  · exact congrArg (fun date => date.2.2) same

@[simp] theorem number_ofNumber (n : Int) : (ofNumber n).number = n := by
  obtain ⟨d, rfl⟩ := exists_number_eq n
  rw [ofNumber_number]

/-- The next number is that of the next date. -/
theorem ofNumber_add_one (n : Int) : ofNumber (n + 1) = (ofNumber n).next := by
  rw [← ofNumber_number (ofNumber n).next, number_next, number_ofNumber]

end Date

/-- A count of days: every date has one more than the date before it. -/
structure DayCount where
  count : Date → Int
  count_next : ∀ d, count d.next = count d + 1

instance : CoeFun DayCount fun _ => Date → Int := ⟨DayCount.count⟩

namespace DayCount

/-- The count that starts in 1970. -/
def fromEpoch : DayCount := ⟨Date.number, Date.number_next⟩

/-- **Counts of days** differ by a constant. -/
theorem eq_number_add (days : DayCount) (d : Date) :
    days d = d.number + days (.ofNumber 0) := by
  have all : ∀ n : Int, days (.ofNumber n) = n + days (.ofNumber 0) := by
    intro n
    induction n using Int.induction_on with
    | zero => omega
    | succ n ih =>
      rw [Date.ofNumber_add_one, days.count_next, ih]
      omega
    | pred n ih =>
      have step := days.count_next (.ofNumber (-n - 1))
      rw [← Date.ofNumber_add_one, Int.sub_add_cancel, ih] at step
      omega
  rw [← all d.number, Date.ofNumber_number]

end DayCount

end Sift.Filter
