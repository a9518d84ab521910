/-! Lengths of time.

`Duration` counts whole nanoseconds. The clock of a wait (`Readiness.World`) has a coarser grid of
whole milliseconds, and `Duration.ceilMillis` is the one place where a length meets that grid: a
pause ends at the first grid point that is not before its end. `Duration.text` is the written form
used in every message. -/

namespace Readiness

/-- A length of time in nanoseconds. -/
structure Duration where
  nanos : Nat
deriving DecidableEq, Repr, Inhabited

namespace Duration

def zero : Duration := ⟨0⟩

/-- A length of time in nanoseconds. -/
def ofNanos (n : Nat) : Duration := ⟨n⟩
def ofMillis (n : Nat) : Duration := ⟨n * 1000000⟩
def ofSecs (n : Nat) : Duration := ⟨n * 1000000000⟩

def ofParts (secs nanos : Nat) : Duration := ⟨secs * 1000000000 + nanos⟩

def secs (d : Duration) : Nat := d.nanos / 1000000000

/-- What remains of `d` after its whole seconds. -/
def subsecNanos (d : Duration) : Nat := d.nanos % 1000000000

/-- The least number of whole milliseconds that is not shorter than `d`. -/
def ceilMillis (d : Duration) : Nat :=
  -- a literal on the right of the sum would be unfolded one by one wherever `d` is not known
  (999999 + d.nanos) / 1000000

instance : LE Duration := ⟨fun a b => a.nanos ≤ b.nanos⟩
instance : LT Duration := ⟨fun a b => a.nanos < b.nanos⟩
instance (a b : Duration) : Decidable (a ≤ b) := inferInstanceAs (Decidable (a.nanos ≤ b.nanos))
instance (a b : Duration) : Decidable (a < b) := inferInstanceAs (Decidable (a.nanos < b.nanos))
instance : Min Duration := minOfLe

/-- Differences stop at zero. -/
instance : Sub Duration := ⟨fun a b => ⟨a.nanos - b.nanos⟩⟩

theorem le_def (a b : Duration) : a ≤ b ↔ a.nanos ≤ b.nanos := Iff.rfl

theorem lt_def (a b : Duration) : a < b ↔ a.nanos < b.nanos := Iff.rfl

@[simp] theorem sub_nanos (a b : Duration) : (a - b).nanos = a.nanos - b.nanos := rfl

/-- Whole milliseconds lie on the grid. -/
@[simp] theorem ceilMillis_ofMillis (n : Nat) : (ofMillis n).ceilMillis = n := by
  simp only [ceilMillis, ofMillis]; omega

/-- A grid point is not before the end of `d` exactly when it is not before the rounded end. -/
theorem le_ofMillis_iff (d : Duration) (n : Nat) : d ≤ ofMillis n ↔ d.ceilMillis ≤ n := by
  simp only [le_def, ceilMillis, ofMillis]; omega

/-- The digits of `fraction`, a number of `places` places, without trailing zeros. -/
def fractionDigits (places fraction : Nat) : List Char :=
  let digits := Nat.toDigits 10 fraction
  let padded := List.replicate (places - digits.length) '0' ++ digits
  (padded.reverse.dropWhile (· == '0')).reverse

/-- A whole part and a fraction of `places` places; the point is left out before an empty
fraction. -/
def decimalText (whole places fraction : Nat) : String :=
  match fractionDigits places fraction with
  | [] => toString whole
  | digits => toString whole ++ "." ++ String.ofList digits

/-- The written form: the largest of `s`, `ms`, `µs` and `ns` in which the length is at least one,
with as many decimals as needed. -/
def text (d : Duration) : String :=
  if 1000000000 ≤ d.nanos then
    decimalText (d.nanos / 1000000000) 9 (d.nanos % 1000000000) ++ "s"
  else if 1000000 ≤ d.nanos then
    decimalText (d.nanos / 1000000) 6 (d.nanos % 1000000) ++ "ms"
  else if 1000 ≤ d.nanos then
    decimalText (d.nanos / 1000) 3 (d.nanos % 1000) ++ "µs"
  else
    toString d.nanos ++ "ns"

example : (ofNanos 1500000).text = "1.5ms" := by cbv
example : (ofParts 1 10000000).text = "1.01s" := by cbv
example : (ofNanos 10000).text = "10µs" := by cbv
example : zero.text = "0ns" := by cbv

end Duration

end Readiness
