import Gridcalc.CommandLine.Run
import Std.Time.Zoned

/-!
# The program

Answers one command line with the clock of the machine and fresh random numbers.
-/

namespace Gridcalc

/-- The local time. -/
def localMoment : IO Moment := do
  let t ← Std.Time.PlainDateTime.now
  let date := Date.ofCivil? t.year.toInt t.month.val.toNat t.day.val.toNat
  return ⟨date.getD default, (t.hour.val * 3600 + t.minute.val * 60 + t.time.second.val).toNat,
    t.nanosecond.val.toNat⟩

/-- A random number from 0 to below 1 for every place, from a seed. -/
def drawFrom (seed : Nat) (path : List Nat) : Float :=
  (mixHash (hash seed) (hash path) >>> 11).toNat.toFloat / (twoTo 53).toFloat

end Gridcalc

open Gridcalc in
def main (args : List String) : IO UInt32 := do
  let now ← localMoment
  let seed ← IO.rand 0 (twoTo 31 - 1)
  let output := run ⟨now, drawFrom seed⟩ args
  IO.print output.stdout
  IO.eprint output.stderr
  return output.exitCode.toUInt32
