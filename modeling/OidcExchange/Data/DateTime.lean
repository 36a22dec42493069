import Mathlib.Data.Int.Basic

/-!
# Machine integers and instants

The program computes with `i64` seconds and with instants of nanosecond
resolution.  Both are integers here; the operations that can overflow check or
clamp their results exactly where the source does.
-/

namespace OidcExchange

/-- `i64::MIN` -/
def i64Min : Int := -9223372036854775808

/-- `i64::MAX` -/
def i64Max : Int := 9223372036854775807

/-- The result of a checked `i64` operation. -/
def checkedI64 (value : Int) : Option Int :=
  if i64Min ≤ value ∧ value ≤ i64Max then some value else none

/-- `i64::checked_add` -/
def checkedAdd (left right : Int) : Option Int :=
  checkedI64 (left + right)

/-- `i64::checked_sub` -/
def checkedSub (left right : Int) : Option Int :=
  checkedI64 (left - right)

/-- `i64::saturating_sub` -/
def saturatingSub (left right : Int) : Int :=
  max i64Min (min i64Max (left - right))

theorem checkedI64_eq_some_iff {value result : Int} :
    checkedI64 value = some result ↔
      result = value ∧ i64Min ≤ value ∧ value ≤ i64Max := by
  unfold checkedI64
  split
  · rename_i inRange
    simp only [Option.some.injEq]
    exact ⟨fun equal => ⟨equal.symm, inRange⟩, fun both => both.1.symm⟩
  · rename_i outOfRange
    simp only [reduceCtorEq, false_iff]
    rintro ⟨_, inRange⟩
    exact outOfRange inRange

/-- `chrono::DateTime<Utc>`: nanoseconds since the Unix epoch. -/
@[ext]
structure DateTime where
  nanos : Int
  deriving DecidableEq

/-- Nanoseconds in a second. -/
def nanosPerSecond : Int := 1000000000

/-- Nanoseconds in a microsecond. -/
def nanosPerMicro : Int := 1000

namespace DateTime

instance : LE DateTime where
  le left right := left.nanos ≤ right.nanos

instance : LT DateTime where
  lt left right := left.nanos < right.nanos

instance (left right : DateTime) : Decidable (left ≤ right) :=
  inferInstanceAs (Decidable (left.nanos ≤ right.nanos))

instance (left right : DateTime) : Decidable (left < right) :=
  inferInstanceAs (Decidable (left.nanos < right.nanos))

theorem le_iff {left right : DateTime} : left ≤ right ↔ left.nanos ≤ right.nanos :=
  Iff.rfl

theorem lt_iff {left right : DateTime} : left < right ↔ left.nanos < right.nanos :=
  Iff.rfl

/-- `DateTime::timestamp`: whole seconds, rounded down. -/
def timestamp (instant : DateTime) : Int :=
  instant.nanos / nanosPerSecond

/-- The instant of a whole second. -/
def ofSeconds (seconds : Int) : DateTime :=
  ⟨seconds * nanosPerSecond⟩

/-- `DateTime + Duration::seconds(seconds)` -/
def addSeconds (instant : DateTime) (seconds : Int) : DateTime :=
  ⟨instant.nanos + seconds * nanosPerSecond⟩

/-- `DateTime::from_timestamp(seconds, 0)`, which refuses instants outside the
calendar range of `chrono`. -/
def fromTimestamp (seconds : Int) : Option DateTime :=
  if -8334601228800 ≤ seconds ∧ seconds ≤ 8210266876799 then
    some (ofSeconds seconds)
  else
    none

/-- `DateTime + TimeDelta::seconds(seconds)`, which panics outside the calendar range of
`chrono`. -/
def checkedAddSeconds (instant : DateTime) (seconds : Int) : Option DateTime :=
  let sum := instant.addSeconds seconds
  if -8334601228800 ≤ sum.timestamp ∧ sum.timestamp ≤ 8210266876799 then some sum else none

/-- `DateTime::signed_duration_since` followed by `TimeDelta::num_seconds`:
whole seconds, truncated towards zero. -/
def secondsSince (later earlier : DateTime) : Int :=
  (later.nanos - earlier.nanos).tdiv nanosPerSecond

/-- The instant with its part below a microsecond removed. -/
def truncateMicros (instant : DateTime) : DateTime :=
  ⟨instant.nanos / nanosPerMicro * nanosPerMicro⟩

end DateTime

end OidcExchange
