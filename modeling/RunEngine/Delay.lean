import RunEngine.Binary64.Basic

/-!
# Delays

A delay given in seconds is slept in whole milliseconds. It is first rounded to nanoseconds, to the
nearest and to even between two, and then up to milliseconds. What is no length of time, or too
long to count the seconds in 64 bits, is no delay.
-/

namespace RunEngine.Delay

/-- Nanoseconds of a finite, positive number of seconds. -/
def nanoseconds (seconds : Binary64) : Nat :=
  let scaled := seconds.significand * 1000000000
  if 0 ≤ seconds.exponent then scaled * Nat.pow 2 seconds.exponent.toNat
  else Binary64.divRoundEven scaled (Nat.pow 2 (-seconds.exponent).toNat)

/-- The milliseconds to sleep for a delay in seconds. -/
def milliseconds (seconds : Binary64) : Nat :=
  if !seconds.isFinite || seconds.negative then 0
  else
    let nanos := nanoseconds seconds
    if 0x10000000000000000 * 1000000000 ≤ nanos then 0 else (nanos + 999999) / 1000000

end RunEngine.Delay
