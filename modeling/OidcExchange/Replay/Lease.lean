import Mathlib.Data.List.AList
import OidcExchange.Data.DateTime
import OidcExchange.Data.Text

/-!
# Replay leases

The record that the replay ledger keeps for one consumed assertion, its
retention period and its expiry test, as `src/replay.rs` defines them.  The hash
function, the timestamp text and the resolution of item URLs come from
libraries; they are fields of `Platform`.
-/

namespace OidcExchange.Replay

/-- `ReplayError`.  The configuration error is raised only while the ledger is
constructed. -/
inductive ReplayError where
  | replayed
  | unavailable
  | configuration (detail : String)
  deriving DecidableEq

/-- The library functions that the ledger calls. -/
structure Platform where
  /-- `Sha256::digest` -/
  sha256 : List UInt8 → List UInt8
  /-- `DateTime::to_rfc3339_opts(SecondsFormat::Micros, true)` -/
  toRfc3339Micros : DateTime → String
  /-- `DateTime::parse_from_rfc3339` -/
  parseFromRfc3339 : String → Option DateTime
  /-- The resource that `Url::parse` of the collection URL followed by the name
  addresses. -/
  itemUrl : String → Option String

def ledgerLabel : String := "github-oidc-exchange.apelogic.io/replay-ledger"

def ledgerVersion : String := "v1"

def ledgerHolder : String := "github-oidc-exchange-replay-ledger"

def leaseRetentionSeconds : Int := 300

def maxLeaseDurationSeconds : Int := 960

structure LeaseMetadata where
  name : String
  resourceVersion : Option String
  labels : AList fun _ : String => String

structure LeaseSpec where
  holderIdentity : String
  leaseDurationSeconds : Int
  acquireTime : String
  renewTime : String

structure Lease where
  apiVersion : String
  kind : String
  metadata : LeaseMetadata
  spec : LeaseSpec

/-- `LeaseList`; the continue token is empty on the last page. -/
structure LeaseList where
  items : List Lease
  continueToken : String

/-- `update.metadata.resource_version = Some(resource_version)` -/
def Lease.withResourceVersion (lease : Lease) (resourceVersion : Option String) : Lease :=
  { lease with metadata := { lease.metadata with resourceVersion := resourceVersion } }

def leaseName (platform : Platform) (jti : String) : String :=
  let hash := (platform.sha256 jti.toUTF8.data.toList).flatMap Text.hexByte
  "replay-" ++ String.ofList (hash.take 56)

def retainedUntil (expiresAt now : Int) : Except ReplayError DateTime :=
  match checkedAdd expiresAt leaseRetentionSeconds with
  | none => .error .unavailable
  | some retained =>
      match checkedSub retained now with
      | none => .error .unavailable
      | some leaseDuration =>
          if leaseDuration ≤ 0 ∨ leaseDuration > maxLeaseDurationSeconds then
            .error .unavailable
          else
            match DateTime.fromTimestamp retained with
            | none => .error .unavailable
            | some instant => .ok instant

def timestamp (platform : Platform) (value : DateTime) : String :=
  platform.toRfc3339Micros value

/-- `Lease::new`; the duration must fit an `i32`. -/
def Lease.new (platform : Platform) (name : String) (retainedUntil now : DateTime) :
    Except ReplayError Lease :=
  let leaseDurationSeconds := retainedUntil.secondsSince now
  if -2147483648 ≤ leaseDurationSeconds ∧ leaseDurationSeconds ≤ 2147483647 then
    .ok
      { apiVersion := "coordination.k8s.io/v1"
        kind := "Lease"
        metadata :=
          { name := name
            resourceVersion := none
            labels := AList.singleton ledgerLabel ledgerVersion }
        spec :=
          { holderIdentity := ledgerHolder
            leaseDurationSeconds := leaseDurationSeconds
            acquireTime := timestamp platform now
            renewTime := timestamp platform now } }
  else
    .error .unavailable

def ownedLedgerLease (lease : Lease) : Bool :=
  lease.metadata.labels.lookup ledgerLabel == some ledgerVersion &&
    lease.spec.holderIdentity == ledgerHolder

def expired (platform : Platform) (lease : Lease) (now : DateTime) : Bool :=
  if !ownedLedgerLease lease || decide (lease.spec.leaseDurationSeconds ≤ 0) then
    false
  else
    match platform.parseFromRfc3339 lease.spec.renewTime with
    | none => false
    | some renewedAt =>
        decide (renewedAt.addSeconds lease.spec.leaseDurationSeconds ≤ now)

def expiredOwnedLeases (platform : Platform) (leases : List Lease) (now : DateTime) :
    List Lease :=
  leases.filter fun lease => ownedLedgerLease lease && expired platform lease now

/-- The lease that `use_once` prepares from one clock reading. -/
def preparedLease (platform : Platform) (jti : String) (expiresAt : Int) (now : DateTime) :
    Except ReplayError Lease :=
  match retainedUntil expiresAt now.timestamp with
  | .error failure => .error failure
  | .ok retained => Lease.new platform (leaseName platform jti) retained now

variable {platform : Platform} {lease : Lease} {now : DateTime}

/-- A lease is expired exactly when the ledger owns it, it has a positive
duration, and its renewal instant plus that duration has been reached. -/
theorem expired_iff :
    expired platform lease now = true ↔
      ownedLedgerLease lease = true ∧ 0 < lease.spec.leaseDurationSeconds ∧
        ∃ renewedAt, platform.parseFromRfc3339 lease.spec.renewTime = some renewedAt ∧
          renewedAt.addSeconds lease.spec.leaseDurationSeconds ≤ now := by
  unfold expired
  cases owned : ownedLedgerLease lease with
  | false => simp
  | true =>
      by_cases positive : 0 < lease.spec.leaseDurationSeconds
      · have notZero : ¬ lease.spec.leaseDurationSeconds ≤ 0 := by omega
        cases parsed : platform.parseFromRfc3339 lease.spec.renewTime with
        | none => simp
        | some renewedAt => simp [notZero, positive]
      · have zero : lease.spec.leaseDurationSeconds ≤ 0 := by omega
        simp [positive, zero]

@[simp]
theorem resourceVersion_withResourceVersion (resourceVersion : Option String) :
    (lease.withResourceVersion resourceVersion).metadata.resourceVersion = resourceVersion :=
  rfl

@[simp]
theorem expired_withResourceVersion (resourceVersion : Option String) :
    expired platform (lease.withResourceVersion resourceVersion) now =
      expired platform lease now :=
  rfl

@[simp]
theorem ownedLedgerLease_withResourceVersion (resourceVersion : Option String) :
    ownedLedgerLease (lease.withResourceVersion resourceVersion) = ownedLedgerLease lease :=
  rfl

/-- An accepted expiry is retained for 300 s, which lies after the clock second
and at most 960 s after it. -/
theorem retainedUntil_eq_ok {expiresAt seconds : Int} {instant : DateTime}
    (accepted : retainedUntil expiresAt seconds = .ok instant) :
    instant = DateTime.ofSeconds (expiresAt + 300) ∧ seconds < expiresAt + 300 ∧
      expiresAt + 300 ≤ seconds + 960 := by
  unfold retainedUntil at accepted
  cases added : checkedAdd expiresAt leaseRetentionSeconds with
  | none => simp [added] at accepted
  | some retained =>
      cases subtracted : checkedSub retained seconds with
      | none => simp [added, subtracted] at accepted
      | some leaseDuration =>
          simp only [added, subtracted] at accepted
          split at accepted
          · contradiction
          · rename_i inRange
            rw [DateTime.fromTimestamp] at accepted
            split at accepted
            · contradiction
            · rename_i instant' converted
              split at converted
              · rcases checkedI64_eq_some_iff.mp added with ⟨rfl, _⟩
                rcases checkedI64_eq_some_iff.mp subtracted with ⟨rfl, _⟩
                cases converted
                cases accepted
                rw [leaseRetentionSeconds, maxLeaseDurationSeconds] at inRange
                exact ⟨rfl, by omega, by omega⟩
              · contradiction

/-- The lease that `use_once` prepares: it is the ledger's own, carries the name
of the replay key and the clock reading, and lasts for the whole seconds left
until the retention ends. -/
theorem preparedLease_eq_ok {jti : String} {expiresAt : Int}
    (accepted : preparedLease platform jti expiresAt now = .ok lease) :
    lease.metadata.name = leaseName platform jti ∧
      lease.metadata.resourceVersion = none ∧
      ownedLedgerLease lease = true ∧
      lease.spec.renewTime = timestamp platform now ∧
      lease.spec.leaseDurationSeconds =
        (DateTime.ofSeconds (expiresAt + 300)).secondsSince now ∧
      now < DateTime.ofSeconds (expiresAt + 300) := by
  unfold preparedLease at accepted
  cases retained : retainedUntil expiresAt now.timestamp with
  | error failure => simp [retained] at accepted
  | ok instant =>
      rcases retainedUntil_eq_ok retained with ⟨rfl, remaining, _⟩
      simp only [retained, Lease.new] at accepted
      split at accepted
      · cases accepted
        refine ⟨rfl, rfl, rfl, rfl, rfl, ?_⟩
        rw [DateTime.timestamp, nanosPerSecond] at remaining
        change now.nanos < (expiresAt + 300) * nanosPerSecond
        rw [nanosPerSecond]
        omega
      · contradiction

/-- An expiry is rejected only as unavailable. -/
theorem preparedLease_eq_error {jti : String} {expiresAt : Int} {failure : ReplayError}
    (rejected : preparedLease platform jti expiresAt now = .error failure) :
    failure = .unavailable := by
  unfold preparedLease at rejected
  cases retained : retainedUntil expiresAt now.timestamp with
  | error reason =>
      rw [retained] at rejected
      cases rejected
      unfold retainedUntil at retained
      repeat' split at retained
      all_goals simp_all
  | ok instant =>
      simp only [retained, Lease.new] at rejected
      split at rejected
      · contradiction
      · cases rejected
        rfl

/-- A lease never expires before the assertion's expiry plus 299 s, whatever
part of a second the reading falls into. -/
theorem ofSeconds_le_lease_expiry (expiresAt : Int)
    (remaining : now < DateTime.ofSeconds (expiresAt + 300)) :
    DateTime.ofSeconds (expiresAt + 299) ≤
      now.truncateMicros.addSeconds
        ((DateTime.ofSeconds (expiresAt + 300)).secondsSince now) := by
  have positive : 0 ≤ (DateTime.ofSeconds (expiresAt + 300)).nanos - now.nanos := by
    rw [DateTime.lt_iff] at remaining
    omega
  rw [DateTime.secondsSince, Int.tdiv_eq_ediv_of_nonneg positive]
  simp only [DateTime.le_iff, DateTime.lt_iff, DateTime.ofSeconds, DateTime.addSeconds,
    DateTime.truncateMicros, nanosPerSecond, nanosPerMicro] at remaining ⊢
  omega

/-- The instant at which a lease ends: its renewal plus its duration. -/
def leaseExpiry (platform : Platform) (lease : Lease) : Option DateTime :=
  (platform.parseFromRfc3339 lease.spec.renewTime).map fun renewedAt =>
    renewedAt.addSeconds lease.spec.leaseDurationSeconds

/-- A lease that is expired at a reading has ended by then. -/
theorem leaseExpiry_of_expired (isExpired : expired platform lease now = true) :
    ∃ instant, leaseExpiry platform lease = some instant ∧ instant ≤ now := by
  rcases expired_iff.mp isExpired with ⟨_, _, renewedAt, parsed, reached⟩
  exact ⟨_, by rw [leaseExpiry, parsed, Option.map_some], reached⟩

/-- A lease prepared for an assertion ends at least 299 s after it, provided that
timestamps are read back up to the microsecond they are printed with. -/
theorem le_leaseExpiry {jti : String} {expiresAt : Int} {instant : DateTime}
    {resourceVersion : Option String}
    (timestamps : ∀ instant parsed,
      platform.parseFromRfc3339 (platform.toRfc3339Micros instant) = some parsed →
        parsed = instant.truncateMicros)
    (prepared : preparedLease platform jti expiresAt now = .ok lease)
    (ends : leaseExpiry platform (lease.withResourceVersion resourceVersion) = some instant) :
    DateTime.ofSeconds (expiresAt + 299) ≤ instant := by
  rcases preparedLease_eq_ok prepared with ⟨_, _, _, renewTime, duration, remaining⟩
  rw [leaseExpiry, Option.map_eq_some_iff] at ends
  rcases ends with ⟨renewedAt, parsed, rfl⟩
  have parsed : platform.parseFromRfc3339 lease.spec.renewTime = some renewedAt := parsed
  rw [renewTime, timestamp] at parsed
  rw [timestamps now renewedAt parsed]
  have bound := ofSeconds_le_lease_expiry expiresAt remaining
  rw [← duration] at bound
  exact bound

/-! ## Admitted expiries -/

/-- The expiries that the ledger accepts at a clock second: their retention period ends within
the next 960 s, and at an instant of the calendar. -/
structure Retainable (expiresAt seconds : Int) : Prop where
  remaining : seconds < expiresAt + 300
  bounded : expiresAt + 300 ≤ seconds + 960
  calendar : -8334601228800 ≤ expiresAt + 300 ∧ expiresAt + 300 ≤ 8210266876799

theorem retainedUntil_eq_ok_iff {expiresAt seconds : Int} {instant : DateTime} :
    retainedUntil expiresAt seconds = .ok instant ↔
      instant = DateTime.ofSeconds (expiresAt + 300) ∧ Retainable expiresAt seconds := by
  constructor
  · intro accepted
    rcases retainedUntil_eq_ok accepted with ⟨same, remaining, bounded⟩
    refine ⟨same, remaining, bounded, ?_⟩
    by_contra outside
    unfold retainedUntil at accepted
    split at accepted
    · contradiction
    rename_i retained added
    rcases checkedI64_eq_some_iff.mp added with ⟨rfl, _⟩
    split at accepted
    · contradiction
    split at accepted
    · contradiction
    rw [leaseRetentionSeconds, DateTime.fromTimestamp, if_neg outside] at accepted
    contradiction
  · rintro ⟨rfl, remaining, bounded, calendar⟩
    have added : checkedAdd expiresAt leaseRetentionSeconds = some (expiresAt + 300) := by
      rw [checkedAdd, checkedI64_eq_some_iff, leaseRetentionSeconds, i64Min, i64Max]
      omega
    have subtracted : checkedSub (expiresAt + 300) seconds =
        some (expiresAt + 300 - seconds) := by
      rw [checkedSub, checkedI64_eq_some_iff, i64Min, i64Max]
      omega
    have inRange : ¬(expiresAt + 300 - seconds ≤ 0 ∨
        expiresAt + 300 - seconds > maxLeaseDurationSeconds) := by
      rw [maxLeaseDurationSeconds]
      omega
    have converted : DateTime.fromTimestamp (expiresAt + 300) =
        some (DateTime.ofSeconds (expiresAt + 300)) := by
      rw [DateTime.fromTimestamp, if_pos calendar]
    simp only [retainedUntil, added, subtracted, if_neg inRange, converted]

variable (platform) in
/-- A lease is prepared exactly for the expiries that the ledger accepts. -/
theorem preparedLease_isOk_iff (jti : String) {expiresAt : Int} :
    (∃ lease, preparedLease platform jti expiresAt now = .ok lease) ↔
      Retainable expiresAt now.timestamp := by
  constructor
  · rintro ⟨lease, prepared⟩
    unfold preparedLease at prepared
    split at prepared
    · contradiction
    · rename_i instant retained
      exact (retainedUntil_eq_ok_iff.mp retained).2
  · intro retainable
    have retained := retainedUntil_eq_ok_iff.mpr ⟨rfl, retainable⟩
    rcases retainable with ⟨remaining, bounded, _⟩
    rw [DateTime.timestamp, nanosPerSecond] at remaining bounded
    have positive : 0 ≤ (DateTime.ofSeconds (expiresAt + 300)).nanos - now.nanos := by
      simp only [DateTime.ofSeconds, nanosPerSecond]
      omega
    have fits : -2147483648 ≤ (DateTime.ofSeconds (expiresAt + 300)).secondsSince now ∧
        (DateTime.ofSeconds (expiresAt + 300)).secondsSince now ≤ 2147483647 := by
      rw [DateTime.secondsSince, Int.tdiv_eq_ediv_of_nonneg positive]
      simp only [DateTime.ofSeconds, nanosPerSecond]
      omega
    simp only [preparedLease, retained, Lease.new, if_pos fits]
    exact ⟨_, rfl⟩

/-- The text of the reading is read back up to the microsecond; for that its year has four
digits. -/
structure Platform.ReadsBack (platform : Platform) (now : DateTime) : Prop where
  began : DateTime.ofSeconds (-62167219200) ≤ now
  lasts : now < DateTime.ofSeconds 253402300800
  parsed : platform.parseFromRfc3339 (timestamp platform now) = some now.truncateMicros

/-- The ledger accepts an expiry at a reading and keeps its lease for the retention period, up
to a second. -/
structure Admits (platform : Platform) (expiresAt : Int) (now : DateTime) (name : String) :
    Prop where
  retained : retainedUntil expiresAt now.timestamp = .ok (DateTime.ofSeconds (expiresAt + 300))
  written : ∃ lease,
    Lease.new platform name (DateTime.ofSeconds (expiresAt + 300)) now = .ok lease ∧
      (1 ≤ lease.spec.leaseDurationSeconds ∧ lease.spec.leaseDurationSeconds ≤ 960) ∧
      (∃ ends, now.truncateMicros.checkedAddSeconds lease.spec.leaseDurationSeconds =
        some ends) ∧
      (∀ instant, instant < DateTime.ofSeconds (expiresAt + 299) →
        expired platform lease instant = false) ∧
      ∀ instant, DateTime.ofSeconds (expiresAt + 300) ≤ instant →
        expired platform lease instant = true

/-- A lease never outlasts the retention period. -/
theorem lease_expiry_le_ofSeconds (expiresAt : Int)
    (remaining : now < DateTime.ofSeconds (expiresAt + 300)) :
    now.truncateMicros.addSeconds ((DateTime.ofSeconds (expiresAt + 300)).secondsSince now) ≤
      DateTime.ofSeconds (expiresAt + 300) := by
  have positive : 0 ≤ (DateTime.ofSeconds (expiresAt + 300)).nanos - now.nanos := by
    rw [DateTime.lt_iff] at remaining
    omega
  rw [DateTime.secondsSince, Int.tdiv_eq_ediv_of_nonneg positive]
  simp only [DateTime.le_iff, DateTime.lt_iff, DateTime.ofSeconds, DateTime.addSeconds,
    DateTime.truncateMicros, nanosPerSecond, nanosPerMicro] at remaining ⊢
  omega

/-- The duration of a lease, when more than a second of the retention period is left. -/
theorem secondsSince_bounds {expiresAt : Int}
    (remaining : now < DateTime.ofSeconds (expiresAt + 299))
    (bounded : expiresAt + 300 ≤ now.timestamp + 960) :
    1 ≤ (DateTime.ofSeconds (expiresAt + 300)).secondsSince now ∧
      (DateTime.ofSeconds (expiresAt + 300)).secondsSince now ≤ 960 := by
  simp only [DateTime.lt_iff, DateTime.ofSeconds, nanosPerSecond] at remaining
  have positive : 0 ≤ (DateTime.ofSeconds (expiresAt + 300)).nanos - now.nanos := by
    simp only [DateTime.ofSeconds, nanosPerSecond]
    omega
  rw [DateTime.secondsSince, Int.tdiv_eq_ediv_of_nonneg positive]
  simp only [DateTime.timestamp, DateTime.ofSeconds, nanosPerSecond] at bounded ⊢
  omega

/-- The lease of an accepted expiry is owned, lasts, and is read back. -/
theorem expired_new_iff {retainedUntil instant : DateTime} {name : String}
    (reads : platform.ReadsBack now)
    (written : Lease.new platform name retainedUntil now = .ok lease)
    (positive : 0 < lease.spec.leaseDurationSeconds) :
    expired platform lease instant = true ↔
      now.truncateMicros.addSeconds (retainedUntil.secondsSince now) ≤ instant := by
  rw [expired_iff]
  unfold Lease.new at written
  dsimp only at written
  split at written
  · cases written
    rw [reads.parsed]
    simp only [Option.some.injEq, exists_eq_left']
    constructor
    · rintro ⟨_, _, reached⟩
      exact reached
    · intro reached
      exact ⟨rfl, positive, reached⟩
  · contradiction

theorem admits_of_lt {expiresAt : Int} (reads : platform.ReadsBack now)
    (remaining : now < DateTime.ofSeconds (expiresAt + 299))
    (bounded : expiresAt + 300 ≤ now.timestamp + 960) (name : String) :
    Admits platform expiresAt now name := by
  have began := reads.began
  have lasts := reads.lasts
  simp only [DateTime.le_iff, DateTime.ofSeconds, nanosPerSecond] at began
  simp only [DateTime.lt_iff, DateTime.ofSeconds, nanosPerSecond] at lasts
  have second : now.timestamp = now.nanos / 1000000000 := rfl
  rcases secondsSince_bounds remaining bounded with ⟨atLeast, atMost⟩
  have inTime : now < DateTime.ofSeconds (expiresAt + 300) := by
    simp only [DateTime.lt_iff, DateTime.ofSeconds, nanosPerSecond] at remaining ⊢
    omega
  have least := ofSeconds_le_lease_expiry expiresAt inTime
  have greatest := lease_expiry_le_ofSeconds expiresAt inTime
  constructor
  · rw [retainedUntil_eq_ok_iff]
    simp only [DateTime.lt_iff, DateTime.ofSeconds, nanosPerSecond] at inTime
    exact ⟨rfl, by omega, bounded, by omega, by omega⟩
  · have written : ∃ lease, Lease.new platform name (DateTime.ofSeconds (expiresAt + 300)) now =
        .ok lease ∧ lease.spec.leaseDurationSeconds =
          (DateTime.ofSeconds (expiresAt + 300)).secondsSince now := by
      rw [Lease.new, if_pos (by omega)]
      exact ⟨_, rfl, rfl⟩
    rcases written with ⟨lease, written, duration⟩
    have ended : ∀ instant, expired platform lease instant = true ↔
        now.truncateMicros.addSeconds ((DateTime.ofSeconds (expiresAt + 300)).secondsSince now) ≤
          instant :=
      fun _ => expired_new_iff reads written (by omega)
    refine ⟨lease, written, by omega, ?_, ?_, ?_⟩
    · rw [duration, DateTime.checkedAddSeconds]
      generalize now.truncateMicros.addSeconds
        ((DateTime.ofSeconds (expiresAt + 300)).secondsSince now) = ends at least greatest
      simp only [DateTime.le_iff, DateTime.lt_iff, DateTime.ofSeconds, nanosPerSecond]
        at least greatest inTime
      rw [if_pos]
      · exact ⟨_, rfl⟩
      · rw [DateTime.timestamp, nanosPerSecond]
        omega
    · intro instant early
      rw [Bool.eq_false_iff, ne_eq, ended]
      rw [DateTime.lt_iff] at early
      rw [DateTime.le_iff] at least ⊢
      omega
    · intro instant late
      rw [ended]
      rw [DateTime.le_iff] at late greatest ⊢
      omega

end OidcExchange.Replay
