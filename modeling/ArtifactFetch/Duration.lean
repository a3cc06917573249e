/-! # Spans of time and their text

A span is a whole number of nanoseconds. Its text names the largest unit that fits a whole time
(`s`, `ms`, `µs`, `ns`), with the exact fraction of that unit and no trailing zeros: `1.5s`,
`1.000001ms`, `0ns`. -/

namespace ArtifactFetch

/-- A span of time. -/
structure Duration where
  nanos : Nat
  deriving DecidableEq, Repr

namespace Duration

/-- A span of `n` whole seconds. -/
def ofSecs (n : Nat) : Duration := ⟨n * 1000000000⟩

/-- A span of `n` whole milliseconds. -/
def ofMillis (n : Nat) : Duration := ⟨n * 1000000⟩

/-- The least number of whole milliseconds that is not shorter than the span. -/
def ceilMillis (d : Duration) : Nat := (d.nanos + 999999) / 1000000

/-- The fraction `rest / 10^places` as it stands after a number: nothing for zero, otherwise a point
and the digits without trailing zeros. -/
def fraction (rest places : Nat) : List Char :=
  let digits := Nat.toDigits 10 rest
  let padded := List.replicate (places - digits.length) '0' ++ digits
  match (padded.reverse.dropWhile (· == '0')).reverse with
  | [] => []
  | ds => '.' :: ds

/-- `d` in a unit of `10^places` nanoseconds. -/
def inUnit (d : Duration) (places : Nat) (unit : String) : String :=
  String.ofList (Nat.toDigits 10 (d.nanos / Nat.pow 10 places)
    ++ fraction (d.nanos % Nat.pow 10 places) places) ++ unit

/-- The text of a span, in the largest unit of which it holds at least one. -/
def text (d : Duration) : String :=
  if 1000000000 ≤ d.nanos then d.inUnit 9 "s"
  else if 1000000 ≤ d.nanos then d.inUnit 6 "ms"
  else if 1000 ≤ d.nanos then d.inUnit 3 "µs"
  else d.inUnit 0 "ns"

theorem nanos_le_ceilMillis (d : Duration) : d.nanos ≤ d.ceilMillis * 1000000 := by
  simp only [ceilMillis]; omega

end Duration

end ArtifactFetch
