import Scorecard.Text.Quoted

/-!
# The stamp of a report

Two reports on the same data differ by their stamp: the id of the run, made of random bytes, and
the time of the analysis in universal time.
-/

namespace Scorecard

/-- What tells one report from another on the same data. -/
structure Stamp where
  /-- The id of the run. -/
  runId : String
  /-- The time, with a letter for its zone. -/
  zonedTime : String
  /-- The time, with the distance of its zone in hours and minutes. -/
  offsetTime : String
  deriving DecidableEq, Repr

/-- The random bytes of an id with the bits set that say so: the version in the seventh byte, the
variant in the ninth. -/
def markedRandom (bytes : List UInt8) : List UInt8 :=
  bytes.mapIdx fun i b =>
    if i = 6 then b % 0x10 + 0x40 else if i = 8 then b % 0x40 + 0x80 else b

/-- The id of sixteen random bytes: their digits to the base of sixteen in five groups. -/
def randomId (bytes : List UInt8) : String :=
  let digits := (markedRandom bytes).flatMap fun b => Text.hex 2 b.toNat
  "-".intercalate <| [(0, 8), (8, 4), (12, 4), (16, 4), (20, 12)].map fun (start, count) =>
    String.ofList ((digits.drop start).take count)

/-- The stamp of random bytes and a universal time. -/
def Stamp.of (bytes : List UInt8) (time : String) : Stamp where
  runId := randomId bytes
  zonedTime := time ++ "Z"
  offsetTime := time ++ "+00:00"

end Scorecard
