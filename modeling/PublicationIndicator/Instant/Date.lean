/-!
# PublicationIndicator.Instant.Date — days of the calendar

A `Date` is a day of the Gregorian calendar, carried back before its introduction and to years before
the year 1.  `next` and `previous` are the days beside it.
-/

namespace PublicationIndicator

/-- Has the year a 29th of February? -/
def isLeapYear (year : Int) : Bool := year % 4 = 0 ∧ (year % 100 ≠ 0 ∨ year % 400 = 0)

/-- How many days the month has. -/
def daysInMonth (year : Int) (month : Nat) : Nat :=
  if month = 2 then if isLeapYear year then 29 else 28
  else if month = 4 ∨ month = 6 ∨ month = 9 ∨ month = 11 then 30
  else 31

theorem daysInMonth_pos (year : Int) (month : Nat) : 1 ≤ daysInMonth year month := by
  rw [daysInMonth]
  repeat' split
  all_goals omega

/-- A day of the calendar. -/
structure Date where
  year : Int
  month : Nat
  day : Nat
  /-- Months count from 1 to 12. -/
  month_mem : 1 ≤ month ∧ month ≤ 12
  /-- Days count from 1 to the length of the month. -/
  day_mem : 1 ≤ day ∧ day ≤ daysInMonth year month
deriving DecidableEq

namespace Date

/-- The day with that year, month and number, if there is one. -/
def of? (year : Int) (month day : Nat) : Option Date :=
  if h : (1 ≤ month ∧ month ≤ 12) ∧ 1 ≤ day ∧ day ≤ daysInMonth year month then
    some ⟨year, month, day, h.1, h.2⟩
  else none

/-- The day after. -/
def next (d : Date) : Date :=
  if h : d.day + 1 ≤ daysInMonth d.year d.month then
    { d with day := d.day + 1, day_mem := ⟨by omega, h⟩ }
  else if h : d.month + 1 ≤ 12 then
    { year := d.year, month := d.month + 1, day := 1, month_mem := ⟨by omega, h⟩
      day_mem := ⟨Nat.le_refl 1, daysInMonth_pos _ _⟩ }
  else
    { year := d.year + 1, month := 1, day := 1, month_mem := by omega
      day_mem := ⟨Nat.le_refl 1, daysInMonth_pos _ _⟩ }

/-- The day before. -/
def previous (d : Date) : Date :=
  if h : 1 ≤ d.day - 1 then
    { d with day := d.day - 1, day_mem := ⟨h, by have := d.day_mem; omega⟩ }
  else if h : 1 ≤ d.month - 1 then
    { year := d.year, month := d.month - 1, day := daysInMonth d.year (d.month - 1)
      month_mem := ⟨h, by have := d.month_mem; omega⟩
      day_mem := ⟨daysInMonth_pos _ _, Nat.le_refl _⟩ }
  else
    { year := d.year - 1, month := 12, day := daysInMonth (d.year - 1) 12, month_mem := by omega
      day_mem := ⟨daysInMonth_pos _ _, Nat.le_refl _⟩ }

end Date

end PublicationIndicator
