import Mathlib.Tactic.Common
import Mathlib.Tactic.IntervalCases
import StorageAdapter.Calendar

/-! # The calendar, counted out

The days from the beginning of 1970 to a date are counted year by year and month by month, with a
leap day in every fourth year, but in full centuries only in every fourth of those
(`DateTime.seconds`). -/

namespace StorageAdapter

/-! ### Counting days -/

namespace Calendar

/-- A leap year: one in four, but of the full centuries only one in four. -/
def IsLeap (year : Int) : Prop := 4 ∣ year ∧ (¬100 ∣ year ∨ 400 ∣ year)

instance (year : Int) : Decidable (IsLeap year) := inferInstanceAs (Decidable (_ ∧ _))

/-- The days of a year. -/
def daysInYear (year : Int) : Nat := if IsLeap year then 366 else 365

/-- The days of a month. -/
def daysInMonth (year : Int) : Nat → Nat
  | 1 | 3 | 5 | 7 | 8 | 10 | 12 => 31
  | 4 | 6 | 9 | 11 => 30
  | 2 => if IsLeap year then 29 else 28
  | _ => 0

/-- The days of the `n` years that begin with `year`. -/
def daysOfYears (year : Int) : Nat → Nat
  | 0 => 0
  | n + 1 => daysOfYears year n + daysInYear (year + n)

/-- The days of the first `n` months of a year. -/
def daysOfMonths (year : Int) : Nat → Nat
  | 0 => 0
  | n + 1 => daysOfMonths year n + daysInMonth year (n + 1)

/-- The days from the beginning of 1970 to that of a year. -/
def daysToYear (year : Int) : Int :=
  daysOfYears 1970 (year - 1970).toNat - daysOfYears year (1970 - year).toNat

/-- The seconds from the beginning of 1970 to that of a year. -/
def startOfYear (year : Int) : Int := 86400 * daysToYear year

/-- The leap years before a year, from the year 1 on. -/
def leapsBefore (year : Int) : Int := (year - 1) / 4 - (year - 1) / 100 + (year - 1) / 400

theorem daysInYear_eq (year : Int) :
    (daysInYear year : Int) = 365 + (leapsBefore (year + 1) - leapsBefore year) := by
  unfold daysInYear
  split
  all_goals
    next h =>
      unfold IsLeap at h
      unfold leapsBefore
      omega

theorem daysOfYears_eq (year : Int) (n : Nat) :
    (daysOfYears year n : Int) = 365 * n + leapsBefore (year + n) - leapsBefore year := by
  induction n with
  | zero => simp [daysOfYears]
  | succ n ih =>
    have hlast := daysInYear_eq (year + n)
    have hnext : year + (n + 1 : Nat) = year + n + 1 := by omega
    rw [daysOfYears, hnext]
    push_cast
    omega

/-- **The days to a year in one formula.** -/
theorem daysToYear_eq (year : Int) :
    daysToYear year = 365 * (year - 1970) + leapsBefore year - 477 := by
  have hepoch : leapsBefore 1970 = 477 := by decide
  have hlater := daysOfYears_eq 1970 (year - 1970).toNat
  have hearlier := daysOfYears_eq year (1970 - year).toNat
  unfold daysToYear
  rcases Int.le_total 1970 year with h | h
  · rw [show (1970 : Int) + (year - 1970).toNat = year by omega] at hlater
    rw [show (1970 - year).toNat = 0 by omega] at hearlier ⊢
    simp only [daysOfYears]
    omega
  · rw [show year + (1970 - year).toNat = 1970 by omega] at hearlier
    rw [show (year - 1970).toNat = 0 by omega]
    simp only [daysOfYears]
    omega

theorem daysToYear_succ (year : Int) :
    daysToYear (year + 1) = daysToYear year + daysInYear year := by
  have h := daysInYear_eq year
  rw [daysToYear_eq, daysToYear_eq]
  omega

/-- Later years begin later. -/
theorem startOfYear_lt_iff {y z : Int} : startOfYear y < startOfYear z ↔ y < z := by
  unfold startOfYear
  rw [daysToYear_eq, daysToYear_eq]
  unfold leapsBefore
  omega

theorem startOfYear_mono {y z : Int} (h : y ≤ z) : startOfYear y ≤ startOfYear z :=
  Int.not_lt.1 (mt startOfYear_lt_iff.1 (Int.not_lt.2 h))

theorem daysInYear_add (year cycles : Int) :
    daysInYear (year + 400 * cycles) = daysInYear year := by
  have hiff : IsLeap (year + 400 * cycles) ↔ IsLeap year := by
    unfold IsLeap
    omega
  unfold daysInYear
  simp only [hiff]

theorem daysInYear_le (year : Int) : daysInYear year ≤ 366 := by
  unfold daysInYear
  split <;> decide

theorem daysInMonth_le (year : Int) (m : Nat) : daysInMonth year m ≤ 31 := by
  have hFebruary : (if IsLeap year then 29 else 28) ≤ 31 := by split <;> decide
  unfold daysInMonth
  split
  all_goals first | exact hFebruary | decide

/-- The leap day of a year is in February. -/
theorem daysInMonth_two (year : Int) : daysInMonth year 2 + 337 = daysInYear year := by
  show (if IsLeap year then 29 else 28) + 337 = if IsLeap year then 366 else 365
  split <;> rfl

/-- The days before a month that does not begin the year are counted from the end of February. -/
theorem daysOfMonths_eq (year : Int) {m : Nat} (hm : m < 10) :
    daysOfMonths year (m + 2) + 306 = daysInYear year + DateTime.firstDayOfMonth m := by
  have h := daysInMonth_two year
  interval_cases m <;> simp [daysOfMonths, daysInMonth, DateTime.firstDayOfMonth] at h ⊢ <;> omega

/-- From March on, the days of a month do not depend on the year. -/
theorem firstDayOfMonth_succ (year : Int) {m : Nat} (hm : m < 10) :
    DateTime.firstDayOfMonth (m + 1) = DateTime.firstDayOfMonth m + daysInMonth year (m + 3) := by
  interval_cases m <;> rfl

theorem daysOfMonths_mono (year : Int) {m n : Nat} (h : m ≤ n) :
    daysOfMonths year m ≤ daysOfMonths year n :=
  monotone_nat_of_le_succ (f := daysOfMonths year) (fun _ => Nat.le_add_right _ _) h

theorem daysOfMonths_twelve (year : Int) : daysOfMonths year 12 = daysInYear year := by
  have h : daysOfMonths year 11 + 306 = daysInYear year + 275 :=
    daysOfMonths_eq year (m := 9) (by decide)
  have hlast : daysOfMonths year 12 = daysOfMonths year 11 + 31 := rfl
  omega

end Calendar

/-! ### The days of the algorithm -/

namespace DateTime

open Calendar

/-- The days of a cycle up to a day, without the leap days that end before it. -/
def countedDays (d : Nat) : Nat := d - d / 1460 + d / 36524 - d / 146096

theorem countedDays_mono {d e : Nat} (h : d ≤ e) : countedDays d ≤ countedDays e := by
  refine monotone_nat_of_le_succ (f := countedDays) (fun n => ?_) h
  have hn : n / 146096 = n / 36524 / 4 := (Nat.div_div_eq_div_mul n 36524 4).symm
  have hsucc : (n + 1) / 146096 = (n + 1) / 36524 / 4 :=
    (Nat.div_div_eq_div_mul (n + 1) 36524 4).symm
  have hleap : (n + 1) / 1460 ≤ n / 1460 + 1 := by omega
  have hle : n / 1460 ≤ n := Nat.div_le_self n 1460
  unfold countedDays
  rw [hn, hsucc]
  -- the quotient by 146096 grows only where the one by 36524 does
  obtain hcentury | hcentury : (n + 1) / 36524 = n / 36524 ∨ (n + 1) / 36524 = n / 36524 + 1 := by
    omega
  · rw [hcentury]
    omega
  · rw [hcentury]
    omega

theorem yearOfCycle_mono {d e : Nat} (h : d ≤ e) : yearOfCycle d ≤ yearOfCycle e :=
  Nat.div_le_div_right (countedDays_mono h)

/-- The first and the last day of each year of a cycle are told to lie in it. -/
theorem yearOfCycle_ends : ∀ y < 400, yearOfCycle (firstDayOfYear y) = y ∧
    yearOfCycle (firstDayOfYear y + daysInYear (y + 1 : Nat) - 1) = y := by
  decide +kernel

theorem firstDayOfYear_succ : ∀ y < 399,
    firstDayOfYear (y + 1) = firstDayOfYear y + daysInYear (y + 1 : Nat) := by
  decide +kernel

/-- **The year that a day of a cycle is told to lie in** has begun and has not ended. -/
theorem yearOfCycle_bounds {d : Nat} (hd : d < cycleDays) :
    yearOfCycle d < 400 ∧ firstDayOfYear (yearOfCycle d) ≤ d ∧
      d < firstDayOfYear (yearOfCycle d) + daysInYear (yearOfCycle d + 1 : Nat) := by
  have hlast : yearOfCycle (cycleDays - 1) = 399 := by decide +kernel
  have hyear : yearOfCycle d < 400 := by
    have := yearOfCycle_mono (Nat.le_sub_one_of_lt hd)
    omega
  generalize hy : yearOfCycle d = y at hyear ⊢
  refine ⟨hyear, Nat.le_of_not_lt fun hlt => ?_, Nat.lt_of_not_le fun hle => ?_⟩
  · -- the day would lie in the year before
    rcases y with _ | y
    · exact absurd hlt (Nat.not_lt_zero d)
    · rw [firstDayOfYear_succ y (by omega)] at hlt
      have hmono := yearOfCycle_mono (Nat.le_sub_one_of_lt hlt)
      rw [(yearOfCycle_ends y (by omega)).2, hy] at hmono
      omega
  · -- the day would lie in the year behind
    rcases Nat.lt_or_ge y 399 with h | h
    · rw [← firstDayOfYear_succ y h] at hle
      have hmono := yearOfCycle_mono hle
      rw [(yearOfCycle_ends (y + 1) (by omega)).1, hy] at hmono
      omega
    · obtain rfl : y = 399 := by omega
      have hend : firstDayOfYear 399 + daysInYear (399 + 1 : Nat) = cycleDays := by decide +kernel
      omega

/-- **The month that a day of a year is told to lie in**, counted from March. -/
theorem monthOfYear_bounds {d : Nat} (hd : d < 366) :
    monthOfYear d < 12 ∧ firstDayOfMonth (monthOfYear d) ≤ d ∧
      d < firstDayOfMonth (monthOfYear d + 1) := by
  unfold monthOfYear firstDayOfMonth
  omega

/-- A day of a year that begins in March, as year, month and day of the calendar. -/
def dateOfMarchDay (year : Int) (d : Nat) : Int × Nat × Nat :=
  let m := monthOfYear d
  let month := if m < 10 then m + 3 else m - 9
  (year + (if month ≤ 2 then 1 else 0), month, d - firstDayOfMonth m + 1)

/-- **A day of a year that begins in March** is a date of the calendar. January and February are
those of the next year, and the last day is there only if that is a leap year. -/
theorem dateOfMarchDay_spec {march : Int} {n : Nat} (hn : n < daysInYear (march + 1)) :
    let (year, month, day) := dateOfMarchDay march n
    (1 ≤ month ∧ month ≤ 12) ∧ (1 ≤ day ∧ day ≤ daysInMonth year month) ∧
      daysToYear year + daysOfMonths year (month - 1) + (day - 1 : Nat) =
        daysToYear (march + 1) - 306 + n := by
  have hn366 := Nat.lt_of_lt_of_le hn (daysInYear_le _)
  obtain ⟨hm, hbegun, hnotEnded⟩ := monthOfYear_bounds hn366
  unfold dateOfMarchDay
  generalize monthOfYear n = m at hm hbegun hnotEnded ⊢
  obtain h | rfl | rfl : m < 10 ∨ m = 10 ∨ m = 11 := by omega
  · have hmonths := daysOfMonths_eq march h
    have hlength := firstDayOfMonth_succ march h
    have hyear := daysToYear_succ march
    simp only [if_pos h, if_neg (show ¬m + 3 ≤ 2 by omega), Int.add_zero,
      show m + 3 - 1 = m + 2 by omega]
    omega
  · have hJanuary : firstDayOfMonth 10 = 306 ∧ firstDayOfMonth (10 + 1) = 337 := by decide
    have hmonth : daysInMonth (march + 1) 1 = 31 := rfl
    have hbefore : daysOfMonths (march + 1) (1 - 1) = 0 := rfl
    simp only [Nat.lt_irrefl, if_false, show 10 - 9 = 1 from rfl, show 1 ≤ 2 by decide, if_true]
    omega
  · have hFebruary : firstDayOfMonth 11 = 337 := by decide
    have hmonth := daysInMonth_two (march + 1)
    have hbefore : daysOfMonths (march + 1) (2 - 1) = 31 := rfl
    simp only [show ¬11 < 10 by decide, if_false, show 11 - 9 = 2 from rfl, Nat.le_refl, if_true]
    omega

/-- The year of a cycle begins in March so many days behind the beginning of 1970. -/
theorem daysToYear_cycle (cycle : Int) {y : Nat} (hy : y < 400) :
    daysToYear (y + cycle * 400 + 1) - 306 = cycleDays * cycle + firstDayOfYear y - epochDay := by
  rw [daysToYear_eq]
  unfold leapsBefore cycleDays firstDayOfYear epochDay
  omega

/-- **The date of a day** is one of the calendar, and it is as many days from the beginning of 1970
as the day. -/
theorem dateOfDay_spec (n : Int) : let (year, month, day) := dateOfDay n
    (1 ≤ month ∧ month ≤ 12) ∧ (1 ≤ day ∧ day ≤ daysInMonth year month) ∧
      daysToYear year + daysOfMonths year (month - 1) + (day - 1 : Nat) = n := by
  set cycle := (n + epochDay) / cycleDays with hcycle
  set inCycle := ((n + epochDay) % cycleDays).toNat with hinCycle
  set y := yearOfCycle inCycle with hy
  have hsplit : n + epochDay = cycleDays * cycle + inCycle := by
    rw [hcycle, hinCycle]
    unfold cycleDays
    omega
  have hlt : inCycle < cycleDays := by
    rw [hinCycle]
    unfold cycleDays
    omega
  obtain ⟨hy400, hbegun, hnotEnded⟩ := yearOfCycle_bounds hlt
  rw [← hy] at hy400 hbegun hnotEnded
  have hlength : daysInYear (y + cycle * 400 + 1) = daysInYear (y + 1 : Nat) := by
    rw [← daysInYear_add (y + 1 : Nat) cycle]
    congr 1
    omega
  have hmarch := daysToYear_cycle cycle hy400
  have hdate := @dateOfMarchDay_spec (y + cycle * 400) (inCycle - firstDayOfYear y) (by omega)
  have hday : daysToYear (y + cycle * 400 + 1) - 306 + (inCycle - firstDayOfYear y : Nat) = n := by
    omega
  rw [hday] at hdate
  exact hdate

/-! ### Dates with a time of day -/

/-- A date of the calendar and a time of day. -/
structure Valid (t : DateTime) : Prop where
  month : 1 ≤ t.month ∧ t.month ≤ 12
  day : 1 ≤ t.day ∧ t.day ≤ daysInMonth t.year t.month
  hour : t.hour < 24
  minute : t.minute < 60
  second : t.second < 60

/-- The days from the beginning of 1970 to a date. -/
def days (t : DateTime) : Int :=
  daysToYear t.year + daysOfMonths t.year (t.month - 1) + (t.day - 1 : Nat)

/-- **The seconds from the beginning of 1970 to a date and time**, counted out by the calendar. -/
def seconds (t : DateTime) : Int :=
  86400 * t.days + 3600 * t.hour + 60 * t.minute + t.second

/-- A number of seconds that lies in these years. -/
def InYears (first last seconds : Int) : Prop :=
  startOfYear first ≤ seconds ∧ seconds < startOfYear (last + 1)

/-- The bounds are computed by formula, for years as far as they can be told. -/
instance (first last seconds : Int) : Decidable (InYears first last seconds) :=
  decidable_of_iff (86400 * (365 * (first - 1970) + leapsBefore first - 477) ≤ seconds ∧
      seconds < 86400 * (365 * (last + 1 - 1970) + leapsBefore (last + 1) - 477)) <| by
    unfold InYears startOfYear
    rw [daysToYear_eq, daysToYear_eq]

theorem ofSecondsUnbounded_spec (n : Int) :
    (ofSecondsUnbounded n).Valid ∧ (ofSecondsUnbounded n).seconds = n := by
  have hdate := dateOfDay_spec (n / 86400)
  unfold ofSecondsUnbounded
  generalize dateOfDay (n / 86400) = date at hdate ⊢
  obtain ⟨year, month, day⟩ := date
  obtain ⟨hmonth, hday, hdays⟩ := hdate
  refine ⟨⟨hmonth, hday, ?_, ?_, ?_⟩, ?_⟩
  · show (n % 86400).toNat / 3600 < 24
    omega
  · show (n % 86400).toNat / 60 % 60 < 60
    omega
  · show (n % 86400).toNat % 60 < 60
    omega
  · simp only [seconds, days, hdays]
    omega

namespace Valid

variable {t u : DateTime} (ht : t.Valid) (hu : u.Valid)
include ht

theorem days_lt : t.days < daysToYear t.year + daysOfMonths t.year t.month := by
  obtain ⟨m, hm⟩ : ∃ m, t.month = m + 1 := Nat.exists_eq_add_of_le' ht.month.1
  have hday := ht.day
  unfold days
  rw [hm] at hday ⊢
  show daysToYear t.year + daysOfMonths t.year m + _ <
    daysToYear t.year + (daysOfMonths t.year m + daysInMonth t.year (m + 1) : Nat)
  omega

theorem seconds_lt : t.seconds < 86400 * (t.days + 1) := by
  have := ht.hour
  have := ht.minute
  have := ht.second
  unfold seconds
  omega

/-- **A date lies in its year.** -/
theorem inYears : InYears t.year t.year t.seconds := by
  have hdays := ht.days_lt
  have hlt := ht.seconds_lt
  have hmonths := daysOfMonths_mono t.year ht.month.2
  rw [daysOfMonths_twelve] at hmonths
  unfold InYears startOfYear
  rw [daysToYear_succ]
  refine ⟨?_, by omega⟩
  unfold seconds days
  omega

/-- The year of a date that lies in a span of years is one of them. -/
theorem year_mem {first last : Int} (h : InYears first last t.seconds) :
    first ≤ t.year ∧ t.year ≤ last := by
  obtain ⟨hbegun, hnotEnded⟩ := ht.inYears
  obtain ⟨hfirst, hlast⟩ := h
  constructor
  · refine Int.le_of_lt_add_one (startOfYear_lt_iff.1 ?_)
    omega
  · refine Int.le_of_lt_add_one (startOfYear_lt_iff.1 ?_)
    omega

/-- The earlier of two dates in one year has no later month. -/
theorem month_le_of_earlier (hyear : u.year = t.year) (h : u.seconds < t.seconds) :
    u.month ≤ t.month := by
  refine Nat.le_of_not_lt fun hlt => ?_
  have hmonths := daysOfMonths_mono t.year (Nat.le_sub_one_of_lt hlt)
  have hdays := ht.days_lt
  have hseconds := ht.seconds_lt
  unfold seconds days at h hdays hseconds
  rw [hyear] at h
  omega

include hu

/-- **The earlier of two dates** has the smaller year, or in one year the smaller month, and so on
to the second. -/
theorem earlier (h : t.seconds < u.seconds) :
    t.year < u.year ∨ t.year = u.year ∧
      (t.month < u.month ∨ t.month = u.month ∧
        (t.day < u.day ∨ t.day = u.day ∧
          (t.hour < u.hour ∨ t.hour = u.hour ∧
            (t.minute < u.minute ∨ t.minute = u.minute ∧ t.second < u.second)))) := by
  have hyear : t.year ≤ u.year := by
    obtain ⟨hbegun, -⟩ := ht.inYears
    obtain ⟨-, hnotEnded⟩ := hu.inYears
    refine Int.le_of_lt_add_one (startOfYear_lt_iff.1 ?_)
    omega
  refine hyear.lt_or_eq.imp_right fun hyear => ⟨hyear, ?_⟩
  refine (hu.month_le_of_earlier hyear h).lt_or_eq.imp_right fun hmonth => ⟨hmonth, ?_⟩
  have := ht.day
  have := hu.day
  have := hu.hour
  have := hu.minute
  have := hu.second
  unfold seconds days at h
  rw [hyear, hmonth] at h
  omega

end Valid

/-- **The time of a number of seconds** in the years that can be told is a date of the calendar that
is as many seconds from the beginning of 1970. -/
theorem ofSeconds_spec {n : Int} (h : InYears firstYear lastYear n) :
    (ofSeconds n).Valid ∧ (ofSeconds n).seconds = n := by
  have hspec := ofSecondsUnbounded_spec n
  have hyear := hspec.1.year_mem (hspec.2.symm ▸ h)
  unfold ofSeconds
  rw [if_pos hyear]
  exact hspec

theorem InYears.mono {first last first' last' n : Int} (h : InYears first last n)
    (hfirst : first' ≤ first) (hlast : last ≤ last') : InYears first' last' n := by
  have hbefore := startOfYear_mono hfirst
  have hbehind := startOfYear_mono (Int.add_le_add_right hlast 1)
  obtain ⟨hbegun, hnotEnded⟩ := h
  exact ⟨hbefore.trans hbegun, hnotEnded.trans_le hbehind⟩

end DateTime

end StorageAdapter
