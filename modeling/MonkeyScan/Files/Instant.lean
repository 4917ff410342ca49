import MonkeyScan.Number.Binary64

/-!
Points in time. They are kept in whole nanoseconds and told in seconds, as a floating-point number,
so that two of them far from the start of time may be told alike.
-/

namespace MonkeyScan.Files

/-- A point in time, in nanoseconds. -/
abbrev Instant := Int

/-- A time as it is told, in seconds. -/
abbrev Seconds := Number.Binary64

/-- The number of nanoseconds of a second. -/
def perSecond : Nat := 1000000000

/-- A nanosecond in seconds. -/
def nanosecond : Seconds := .ofDecimal false 1 (-9)

/-- A point in time as it is told: its nanoseconds beyond the last full second, rounded, and with
the full seconds rounded again. -/
def Instant.seconds (t : Instant) : Seconds :=
  (nanosecond.mulNat (t % perSecond).toNat).addInt (t / perSecond)

end MonkeyScan.Files
