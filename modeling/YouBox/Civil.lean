import Mathlib

/-!
# The Gregorian calendar at a fixed offset

Days are counted from 1 January 1970 and months from January of the year 0, both
over all integers. `monthStart` gives the first day of a month and `monthOf` finds
the month of a day (`monthOf_spec`). Years begin in March here, so that a leap day
is the last of its year and the months begin at the days `(153 m + 2) / 5`.

A time is a number of seconds, and a zone is an offset from UTC that never changes.
Three functions take a time to the next local midnight, to the next one that
begins a Monday and to the next one that begins a month. Each result is later than
its argument, and there is none of its kind in between (`nextDay_le`,
`nextMonday_le`, `nextMonth_le`).
-/

namespace YouBox.Civil

/-! ## Months -/

/-- The days from 1 March of the year 0 to that of the year `y`. -/
def daysBeforeYear (y : Int) : Int :=
  365 * y + y / 4 - y / 100 + y / 400

/-- From 1 March of the year 0 to 1 January 1970. -/
def epochDays : Int := 719468

/-- The first day of the month `n`. -/
def monthStart (n : Int) : Int :=
  daysBeforeYear ((n - 2) / 12) + (153 * ((n - 2) % 12) + 2) / 5 - epochDays

/-- The year of a day that is counted from 1 March of the year 0. -/
def yearOf (day : Int) : Int :=
  let y := 400 * day / 146097
  if day < daysBeforeYear y then y - 1
  else if daysBeforeYear (y + 1) ≤ day then y + 1
  else y

def monthOf (day : Int) : Int :=
  let y := yearOf (day + epochDays)
  12 * y + (5 * (day + epochDays - daysBeforeYear y) + 2) / 153 + 2

-- leap days, and the ends of a month and of a century
example : monthStart (12 * 1970) = 0 ∧ monthStart (12 * 2024 + 2) = 19783 ∧
    monthStart (12 * 2000 + 2) - monthStart (12 * 2000 + 1) = 29 ∧
    monthStart (12 * 1900 + 2) - monthStart (12 * 1900 + 1) = 28 ∧
    monthOf 19782 = 12 * 2024 + 1 := by decide

theorem yearOf_spec (day : Int) :
    daysBeforeYear (yearOf day) ≤ day ∧ day < daysBeforeYear (yearOf day + 1) := by
  have hlow : 400 * day / 146097 * 146097 ≤ 400 * day := by omega
  have hhigh : 400 * day < (400 * day / 146097 + 1) * 146097 := by omega
  unfold yearOf
  generalize 400 * day / 146097 = y at hlow hhigh
  dsimp only
  split
  · rename_i hearlier
    rw [Int.sub_add_cancel]
    refine ⟨?_, hearlier⟩
    unfold daysBeforeYear
    omega
  · rename_i hnot
    split
    · rename_i hlater
      refine ⟨hlater, ?_⟩
      unfold daysBeforeYear
      omega
    · rename_i hnext
      exact ⟨not_lt.1 hnot, not_le.1 hnext⟩

theorem daysBeforeYear_succ (y : Int) :
    daysBeforeYear y + 365 ≤ daysBeforeYear (y + 1) ∧
      daysBeforeYear (y + 1) ≤ daysBeforeYear y + 366 := by
  unfold daysBeforeYear
  omega

/-- A month has at least 28 days. -/
theorem monthStart_succ (n : Int) : monthStart n + 28 ≤ monthStart (n + 1) := by
  have hyear := daysBeforeYear_succ ((n - 2) / 12)
  unfold monthStart
  by_cases hlast : (n - 2) % 12 = 11
  · have hy : (n + 1 - 2) / 12 = (n - 2) / 12 + 1 := by omega
    have hm : (n + 1 - 2) % 12 = 0 := by omega
    rw [hy, hm, hlast]
    omega
  · have hy : (n + 1 - 2) / 12 = (n - 2) / 12 := by omega
    have hm : (n + 1 - 2) % 12 = (n - 2) % 12 + 1 := by omega
    rw [hy, hm]
    omega

theorem monthStart_strictMono : StrictMono monthStart :=
  strictMono_int_of_lt_succ fun n => by
    have := monthStart_succ n
    omega

/-- A day lies in its month. -/
theorem monthOf_spec (day : Int) :
    monthStart (monthOf day) ≤ day ∧ day < monthStart (monthOf day + 1) := by
  obtain ⟨hlow, hhigh⟩ := yearOf_spec (day + epochDays)
  have hyear := daysBeforeYear_succ (yearOf (day + epochDays))
  unfold monthStart monthOf
  dsimp only
  generalize yearOf (day + epochDays) = y at hlow hhigh hyear
  generalize hd : day + epochDays - daysBeforeYear y = d
  have hmonth : 0 ≤ (5 * d + 2) / 153 ∧ (5 * d + 2) / 153 ≤ 11 := by omega
  generalize hm : (5 * d + 2) / 153 = m at hmonth
  have hy : (12 * y + m + 2 - 2) / 12 = y := by omega
  have hmod : (12 * y + m + 2 - 2) % 12 = m := by omega
  rw [hy, hmod]
  refine ⟨by omega, ?_⟩
  by_cases hlast : m = 11
  · have hy' : (12 * y + m + 2 + 1 - 2) / 12 = y + 1 := by omega
    have hmod' : (12 * y + m + 2 + 1 - 2) % 12 = 0 := by omega
    rw [hy', hmod']
    omega
  · have hy' : (12 * y + m + 2 + 1 - 2) / 12 = y := by omega
    have hmod' : (12 * y + m + 2 + 1 - 2) % 12 = m + 1 := by omega
    rw [hy', hmod']
    omega

/-! ## Times at an offset -/

/-- The local day of a time. -/
def localDay (off t : Int) : Int := (t + off) / 86400

/-- The time at which a local day begins. -/
def midnight (off day : Int) : Int := day * 86400 - off

/-- Sunday is 0. -/
def weekday (day : Int) : Int := (day + 4) % 7

theorem localDay_spec (off t : Int) :
    midnight off (localDay off t) ≤ t ∧ t < midnight off (localDay off t + 1) := by
  unfold localDay midnight
  omega

theorem lt_midnight_iff (off t day : Int) : t < midnight off day ↔ localDay off t < day := by
  unfold localDay midnight
  omega

theorem midnight_le_iff (off d e : Int) : midnight off d ≤ midnight off e ↔ d ≤ e := by
  unfold midnight
  omega

def nextDay (off t : Int) : Int := midnight off (localDay off t + 1)

/-- The midnight that begins the next Monday. -/
def nextMonday (off t : Int) : Int :=
  let wday := weekday (localDay off t)
  midnight off (localDay off t + (8 - if wday = 0 then 7 else wday))

def nextMonth (off t : Int) : Int :=
  midnight off (monthStart (monthOf (localDay off t) + 1))

theorem lt_nextDay (off t : Int) : t < nextDay off t :=
  (localDay_spec off t).2

theorem nextDay_le {off t day : Int} (h : t < midnight off day) :
    nextDay off t ≤ midnight off day := by
  rw [lt_midnight_iff] at h
  exact (midnight_le_iff _ _ _).2 h

theorem lt_nextMonday (off t : Int) : t < nextMonday off t := by
  unfold nextMonday
  rw [lt_midnight_iff]
  unfold weekday
  split <;> omega

theorem weekday_nextMonday (off t : Int) :
    ∃ day, nextMonday off t = midnight off day ∧ weekday day = 1 := by
  refine ⟨_, rfl, ?_⟩
  unfold weekday
  split <;> omega

theorem nextMonday_le {off t day : Int} (hmonday : weekday day = 1) (h : t < midnight off day) :
    nextMonday off t ≤ midnight off day := by
  rw [lt_midnight_iff] at h
  unfold nextMonday
  rw [midnight_le_iff]
  unfold weekday at hmonday ⊢
  split <;> omega

theorem lt_nextMonth (off t : Int) : t < nextMonth off t := by
  unfold nextMonth
  rw [lt_midnight_iff]
  exact (monthOf_spec _).2

theorem nextMonth_le {off t n : Int} (h : t < midnight off (monthStart n)) :
    nextMonth off t ≤ midnight off (monthStart n) := by
  rw [lt_midnight_iff] at h
  unfold nextMonth
  rw [midnight_le_iff]
  have hlater : monthOf (localDay off t) < n := by
    by_contra hle
    have hmono := monthStart_strictMono.monotone (not_lt.1 hle)
    have hmonth := (monthOf_spec (localDay off t)).1
    omega
  exact monthStart_strictMono.monotone hlater

end YouBox.Civil
