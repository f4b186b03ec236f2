import PublicationIndicator.Instant.Date

/-!
# PublicationIndicator.Instant.Basic — points in time

An `Instant` is a point in time, given as date and time of day in UTC to the nanosecond.  A minute may
have a leap second, counted 60.
-/

namespace PublicationIndicator

/-- A point in time, in UTC. -/
structure Instant where
  date : Date
  /-- The minute of the day. -/
  minute : Fin 1440
  /-- The second of the minute; 60 is a leap second. -/
  second : Fin 61
  nano : Fin 1000000000
deriving DecidableEq

namespace Instant

/-- The instant that clocks show as `date` and `minute` where they are `offset` minutes ahead of UTC;
offsets are shorter than a day. -/
def ofLocal (date : Date) (minute : Fin 1440) (offset : Int) (second : Fin 61)
    (nano : Fin 1000000000) : Instant :=
  let utc : Int := minute.val - offset
  { date := if utc < 0 then date.previous else if 1440 ≤ utc then date.next else date
    minute := ⟨(utc % 1440).toNat, by omega⟩
    second := second
    nano := nano }

end Instant

end PublicationIndicator
