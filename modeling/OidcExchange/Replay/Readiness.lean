import OidcExchange.Data.Spacing
import OidcExchange.Process.Discipline
import OidcExchange.Replay.Ledger

/-!
# The readiness check of the ledger

`check_ready` asks the API for one Lease under a timeout, with the outcome cached
for 30 s behind a lock.  Any number of probes run at once, each of them may be
dropped while it waits, and the API may answer anything or nothing.

Every verdict is the one of the newest check that came to an end, which is less
than 30 s old when it is reused; the requests exclude each other, and a request
starts only 30 s after the last check that came to an end.
-/

namespace OidcExchange.Replay

open OidcExchange.Process

/-- Instants of the monotone clock, in nanoseconds. -/
def readinessCacheTtl : Nat := 30 * 10 ^ 9

def readinessLeaseName : String := "github-oidc-exchange-readiness"

/-- `ReadinessCache` -/
structure ReadinessCache where
  checkedAt : Option Nat
  ready : Bool

def ReadinessCache.default : ReadinessCache where
  checkedAt := none
  ready := false

/-- The ledger operations of `get` need no caller. -/
abbrev LedgerAnswer : Op Empty → Type :=
  Answer fun caller : Empty => nomatch caller

/-- The operations that `check_ready` awaits; `timed` is an operation of the ledger under
the timeout. -/
inductive ReadinessOp where
  | lock
  | instantNow
  | timed (op : Op Empty)
  | store (readiness : ReadinessCache)
  | unlock

/-- What an operation returns.  The timeout overtakes an operation that is answered by
`none`. -/
@[reducible]
def ReadinessAnswer : ReadinessOp → Type
  | .lock => ReadinessCache
  | .instantNow => Nat
  | .timed op => Option (LedgerAnswer op)
  | .store _ => Unit
  | .unlock => Unit

abbrev ReadinessProgram (α : Type) :=
  Program ReadinessAnswer α

/-- `tokio::time::timeout` around a program of the ledger. -/
def timeout {α : Type} : Program LedgerAnswer α → ReadinessProgram (Option α)
  | .done result => .done (some result)
  | .call op next => .call (.timed op) fun answer =>
      answer.elim (.done none) fun answer => timeout (next answer)

/-- `map_err(|_| Unavailable).and_then(|result| result.map(drop))` -/
def readinessResult : Option (Except ReplayError (Option Lease)) → Except ReplayError Unit
  | none => .error .unavailable
  | some (.error failure) => .error failure
  | some (.ok _) => .ok ()

/-- `checked_at.is_some_and(|checked_at| checked_at.elapsed() < READINESS_CACHE_TTL)` -/
def checkedRecently : Option Nat → ReadinessProgram Bool
  | none => .done false
  | some checkedAt => .call .instantNow fun now =>
      .done (decide (now - checkedAt < readinessCacheTtl))

def checkReady (platform : Platform) : ReadinessProgram (Except ReplayError Unit) :=
  .call .lock fun readiness =>
    (checkedRecently readiness.checkedAt).bind fun
      | true => .call .unlock fun _ =>
          .done (if readiness.ready then .ok () else .error .unavailable)
      | false =>
          (timeout (get platform readinessLeaseName)).bind fun response =>
            let result := readinessResult response
            .call .instantNow fun now =>
              .call (.store ⟨some now, result.isOk⟩) fun _ =>
                .call .unlock fun _ => .done result

/-- A check that came to an end, with the response that it received in time. -/
structure ReadinessCheck where
  startedAt : Nat
  finishedAt : Nat
  response : Option (Nat × Option Lease)

/-- The API has told whether the Lease exists. -/
def ReadinessCheck.Answered (check : ReadinessCheck) : Prop :=
  (∃ lease, check.response = some (200, some lease)) ∨ ∃ body, check.response = some (404, body)

/-- The state shared by the probes `ι` of one ledger.  The fields from `readAt` on do not
influence any step; they record what happened. -/
structure ReadinessWorld (ι : Type) where
  clock : Nat
  owner : Option ι
  readiness : ReadinessCache
  /-- The last reading of the clock. -/
  readAt : ι → Nat
  /-- The instant from which on the probe may send its request. -/
  started : ι → Nat
  heard : ι → Option (Nat × Option Lease)
  /-- Newest first. -/
  checks : List ReadinessCheck

def ReadinessWorld.start {ι : Type} (clock : Nat) : ReadinessWorld ι where
  clock := clock
  owner := none
  readiness := .default
  readAt _ := clock
  started _ := clock
  heard _ := none
  checks := []

section Steps

variable {ι : Type} [DecidableEq ι]

namespace ReadinessWorld

def acquire (world : ReadinessWorld ι) (probe : ι) : ReadinessWorld ι :=
  { world with
    owner := some probe
    heard := Function.update world.heard probe none }

def release (world : ReadinessWorld ι) : ReadinessWorld ι :=
  { world with owner := none }

def readInstant (world : ReadinessWorld ι) (probe : ι) : ReadinessWorld ι :=
  { world with readAt := Function.update world.readAt probe world.clock }

/-- The credential is read; the request comes next. -/
def begin (world : ReadinessWorld ι) (probe : ι) : ReadinessWorld ι :=
  { world with started := Function.update world.started probe world.clock }

def hear (world : ReadinessWorld ι) (probe : ι) (response : Option (Nat × Option Lease)) :
    ReadinessWorld ι :=
  { world with heard := Function.update world.heard probe response }

def keep (world : ReadinessWorld ι) (probe : ι) (readiness : ReadinessCache) :
    ReadinessWorld ι :=
  { world with
    readiness := readiness
    checks := ⟨world.started probe, world.readAt probe, world.heard probe⟩ :: world.checks }

/-- The probe is dropped with its guard. -/
def abandon (world : ReadinessWorld ι) (probe : ι) : ReadinessWorld ι :=
  { world with owner := if world.owner = some probe then none else world.owner }

@[simp]
theorem acquire_heard (world : ReadinessWorld ι) (probe : ι) :
    (world.acquire probe).heard probe = none :=
  Function.update_self _ _ _

@[simp]
theorem readInstant_readAt (world : ReadinessWorld ι) (probe : ι) :
    (world.readInstant probe).readAt probe = world.clock :=
  Function.update_self _ _ _

@[simp]
theorem begin_started (world : ReadinessWorld ι) (probe : ι) :
    (world.begin probe).started probe = world.clock :=
  Function.update_self _ _ _

@[simp]
theorem hear_heard (world : ReadinessWorld ι) (probe : ι)
    (response : Option (Nat × Option Lease)) : (world.hear probe response).heard probe = response :=
  Function.update_self _ _ _

end ReadinessWorld

/-- One operation of one probe.  The lock waits for its turn, the timeout overtakes only
what waits for the API. -/
def readinessPerform (probe : ι) (before : ReadinessWorld ι) :
    (op : ReadinessOp) → ReadinessAnswer op → ReadinessWorld ι → Prop
  | .lock, answer, after =>
      before.owner = none ∧ answer = before.readiness ∧ after = before.acquire probe
  | .instantNow, answer, after => answer = before.clock ∧ after = before.readInstant probe
  | .timed (.get _), answer, after => after = before.hear probe answer.join
  | .timed _, answer, after => answer ≠ none ∧ after = before.begin probe
  | .store readiness, _, after => after = before.keep probe readiness
  | .unlock, _, after => after = before.release

/-- The operations at which a probe can be dropped. -/
def probeAwaits : ReadinessOp → Bool
  | .lock => true
  | .timed (.get _) => true
  | _ => false

/-- The readiness state of one ledger with its probes. -/
def readinessMachine : Machine ι ReadinessAnswer (ReadinessWorld ι) where
  perform := readinessPerform
  cancel probe before op after := probeAwaits op = true ∧ after = before.abandon probe
  environment before after := ∃ clock, before.clock ≤ clock ∧ after = { before with clock := clock }

end Steps

theorem getResult_isOk_iff {response : Option (Nat × Option Lease)} :
    (getResult response).isOk = true ↔
      (∃ lease, response = some (200, some lease)) ∨ ∃ body, response = some (404, body) := by
  unfold getResult
  split <;> simp_all [Except.isOk, Except.toBool]

/-- The verdict that the check has left in the cache. -/
def ReadinessCheck.verdict (check : ReadinessCheck) : Bool :=
  (getResult check.response).isOk

/-- What the checks that came to an end have left in the cache. -/
def ReadinessCache.after : List ReadinessCheck → ReadinessCache
  | [] => .default
  | check :: _ => ⟨some check.finishedAt, check.verdict⟩

/-- The cached verdicts had expired at that instant. -/
def Lapsed (checks : List ReadinessCheck) (instant : Nat) : Prop :=
  ∀ check ∈ checks, check.finishedAt + readinessCacheTtl ≤ instant

theorem Lapsed.mono {checks : List ReadinessCheck} {instant later : Nat}
    (lapsed : Lapsed checks instant) (le : instant ≤ later) : Lapsed checks later :=
  fun check member => (lapsed check member).trans le

/-- Where the request of `get` goes, if the credential and the name are usable. -/
def requestUrl (platform : Platform) (name : String) (text : Option String) : Option String :=
  match credentialResult text with
  | .error _ => none
  | .ok _ => platform.itemUrl name

/-- `get` under the timeout is one reading of the credential file and at most one
request. -/
theorem timeout_get (platform : Platform) (name : String) :
    timeout (get platform name) =
      .call (.timed .credential) fun
        | none => .done none
        | some text =>
            match requestUrl platform name text with
            | none => .done (some (.error .unavailable))
            | some url => .call (.timed (.get url)) fun
                | none => .done none
                | some response => .done (some (getResult response)) := by
  unfold get credential readCredential
  simp only [Program.monad_bind_eq_bind, Program.bind_call, Program.bindOk, Program.bind_done,
    Program.pure_eq_done, timeout]
  congr 1
  funext answer
  cases answer with
  | none => rfl
  | some text =>
      unfold requestUrl itemUrl
      rw [Option.elim_some]
      dsimp only
      cases found : credentialResult text with
      | error failure =>
          have failureEq : failure = .unavailable := by
            unfold credentialResult at found
            split at found <;> grind
          rw [failureEq]
          rfl
      | ok credential =>
          cases platform.itemUrl name with
          | none => rfl
          | some url =>
              simp only [getItem, Program.bind_call, Program.bind_done, timeout]
              congr 1
              funext response
              cases response with
              | none => rfl
              | some response => rfl

section Runs

variable {ι : Type}

structure ReadinessInvariant (world : ReadinessWorld ι) : Prop where
  cached : world.readiness = .after world.checks
  past : ∀ check ∈ world.checks, check.startedAt ≤ check.finishedAt ∧
    check.finishedAt ≤ world.clock
  spaced : world.checks.Pairwise fun newer older =>
    older.finishedAt + readinessCacheTtl ≤ newer.startedAt
  readAt : ∀ probe, world.readAt probe ≤ world.clock
  started : ∀ probe, world.started probe ≤ world.clock

/-- What the other probes leave alone. -/
structure ProbeRely (probe : ι) (before after : ReadinessWorld ι) : Prop where
  clock : before.clock ≤ after.clock
  readAt : after.readAt probe = before.readAt probe
  started : after.started probe = before.started probe
  heard : after.heard probe = before.heard probe
  owner : before.owner = some probe → after.owner = some probe
  readiness : before.owner = some probe → after.readiness = before.readiness
  checks : before.owner = some probe → after.checks = before.checks

theorem ProbeRely.refl (probe : ι) (world : ReadinessWorld ι) : ProbeRely probe world world :=
  ⟨le_rfl, rfl, rfl, rfl, id, fun _ => rfl, fun _ => rfl⟩

theorem ProbeRely.trans {probe : ι} {first second third : ReadinessWorld ι}
    (earlier : ProbeRely probe first second) (later : ProbeRely probe second third) :
    ProbeRely probe first third where
  clock := earlier.clock.trans later.clock
  readAt := later.readAt.trans earlier.readAt
  started := later.started.trans earlier.started
  heard := later.heard.trans earlier.heard
  owner owns := later.owner (earlier.owner owns)
  readiness owns := (later.readiness (earlier.owner owns)).trans (earlier.readiness owns)
  checks owns := (later.checks (earlier.owner owns)).trans (earlier.checks owns)

/-- What one probe may do: it hears of the API only as the owner of the lock, when the
cached verdicts have expired. -/
structure ProbeGuarantee (probe : ι) (before after : ReadinessWorld ι) : Prop where
  invariant : ReadinessInvariant after
  others : ∀ other, other ≠ probe → ProbeRely other before after
  hears : ∀ response, after.heard probe = some response →
    before.heard probe = some response ∨
      before.owner = some probe ∧ Lapsed before.checks before.clock

section Invariant

variable {probe : ι} {world : ReadinessWorld ι}

theorem ReadinessInvariant.start (clock : Nat) :
    ReadinessInvariant (ReadinessWorld.start clock : ReadinessWorld ι) where
  cached := rfl
  past := by simp [ReadinessWorld.start]
  spaced := List.Pairwise.nil
  readAt _ := le_rfl
  started _ := le_rfl

theorem ReadinessInvariant.tick {clock : Nat} (invariant : ReadinessInvariant world)
    (le : world.clock ≤ clock) : ReadinessInvariant { world with clock := clock } where
  cached := invariant.cached
  past check member :=
    ⟨(invariant.past check member).1, (invariant.past check member).2.trans le⟩
  spaced := invariant.spaced
  readAt probe := (invariant.readAt probe).trans le
  started probe := (invariant.started probe).trans le

/-- When the newest verdict has lapsed, all have. -/
theorem ReadinessInvariant.lapsed_of_newest (invariant : ReadinessInvariant world)
    {newest : ReadinessCheck} {older : List ReadinessCheck}
    (checksEq : world.checks = newest :: older) {instant : Nat}
    (lapsed : newest.finishedAt + readinessCacheTtl ≤ instant) : Lapsed world.checks instant := by
  have spaced := invariant.spaced
  have past := (invariant.past newest (checksEq ▸ List.mem_cons_self)).1
  rw [checksEq, List.pairwise_cons] at spaced
  intro check member
  rw [checksEq, List.mem_cons] at member
  rcases member with rfl | member
  · exact lapsed
  · have before := spaced.1 check member
    omega

variable [DecidableEq ι]

theorem ReadinessInvariant.acquire (invariant : ReadinessInvariant world) :
    ReadinessInvariant (world.acquire probe) :=
  ⟨invariant.cached, invariant.past, invariant.spaced, invariant.readAt, invariant.started⟩

omit [DecidableEq ι] in
theorem ReadinessInvariant.release (invariant : ReadinessInvariant world) :
    ReadinessInvariant world.release :=
  ⟨invariant.cached, invariant.past, invariant.spaced, invariant.readAt, invariant.started⟩

theorem ReadinessInvariant.abandon (invariant : ReadinessInvariant world) :
    ReadinessInvariant (world.abandon probe) :=
  ⟨invariant.cached, invariant.past, invariant.spaced, invariant.readAt, invariant.started⟩

theorem ReadinessInvariant.hear (invariant : ReadinessInvariant world)
    (response : Option (Nat × Option Lease)) :
    ReadinessInvariant (world.hear probe response) :=
  ⟨invariant.cached, invariant.past, invariant.spaced, invariant.readAt, invariant.started⟩

theorem ReadinessInvariant.readInstant (invariant : ReadinessInvariant world) :
    ReadinessInvariant (world.readInstant probe) :=
  { invariant with
    readAt := by
      intro other
      change Function.update world.readAt probe world.clock other ≤ world.clock
      rw [Function.update_apply]
      split
      · exact le_rfl
      · exact invariant.readAt other }

theorem ReadinessInvariant.begin (invariant : ReadinessInvariant world) :
    ReadinessInvariant (world.begin probe) :=
  { invariant with
    started := by
      intro other
      change Function.update world.started probe world.clock other ≤ world.clock
      rw [Function.update_apply]
      split
      · exact le_rfl
      · exact invariant.started other }

omit [DecidableEq ι] in
/-- A check is recorded when it has started after the older ones had lapsed. -/
theorem ReadinessInvariant.keep (invariant : ReadinessInvariant world)
    {readiness : ReadinessCache}
    (lapsed : Lapsed world.checks (world.started probe))
    (ordered : world.started probe ≤ world.readAt probe)
    (faithful : readiness = ⟨some (world.readAt probe), (getResult (world.heard probe)).isOk⟩) :
    ReadinessInvariant (world.keep probe readiness) where
  cached := faithful
  past check member := by
    rcases List.mem_cons.mp member with rfl | member
    · exact ⟨ordered, invariant.readAt probe⟩
    · exact invariant.past check member
  spaced := List.pairwise_cons.mpr ⟨lapsed, invariant.spaced⟩
  readAt := invariant.readAt
  started := invariant.started

end Invariant

section Steps

variable {probe : ι} {before after : ReadinessWorld ι}

/-- A step of the lock's owner, or of a probe that finds the lock free, touches nothing that
others rely on. -/
theorem ProbeGuarantee.of_own (invariant : ReadinessInvariant after)
    (clock : after.clock = before.clock)
    (owner : ∀ other, other ≠ probe → before.owner ≠ some other)
    (own : ∀ other, other ≠ probe → after.readAt other = before.readAt other ∧
      after.started other = before.started other ∧ after.heard other = before.heard other)
    (hears : ∀ response, after.heard probe = some response →
      before.heard probe = some response ∨
        before.owner = some probe ∧ Lapsed before.checks before.clock) :
    ProbeGuarantee probe before after where
  invariant := invariant
  others other different :=
    { clock := clock.ge
      readAt := (own other different).1
      started := (own other different).2.1
      heard := (own other different).2.2
      owner := fun owns => absurd owns (owner other different)
      readiness := fun owns => absurd owns (owner other different)
      checks := fun owns => absurd owns (owner other different) }
  hears := hears

/-- Nobody else owns the lock. -/
theorem not_owner_of_owner (owns : before.owner = some probe) :
    ∀ other, other ≠ probe → before.owner ≠ some other := by
  intro other different owned
  rw [owns, Option.some.injEq] at owned
  exact different owned.symm

variable [DecidableEq ι]

theorem ProbeGuarantee.acquire (invariant : ReadinessInvariant before)
    (free : before.owner = none) : ProbeGuarantee probe before (before.acquire probe) := by
  refine .of_own invariant.acquire rfl ?_ ?_ ?_
  · intro other _ owned
    rw [free] at owned
    contradiction
  · intro other different
    exact ⟨rfl, rfl, Function.update_of_ne different _ _⟩
  · intro response heard
    rw [ReadinessWorld.acquire_heard] at heard
    contradiction

omit [DecidableEq ι] in
theorem ProbeGuarantee.release (invariant : ReadinessInvariant before)
    (owns : before.owner = some probe) : ProbeGuarantee probe before before.release := by
  refine .of_own invariant.release rfl (not_owner_of_owner owns) ?_ ?_
  · intro other different
    exact ⟨rfl, rfl, rfl⟩
  · intro response heard
    exact Or.inl heard

theorem ProbeGuarantee.readInstant (invariant : ReadinessInvariant before)
    (owns : before.owner = some probe) :
    ProbeGuarantee probe before (before.readInstant probe) := by
  refine .of_own invariant.readInstant rfl (not_owner_of_owner owns) ?_ ?_
  · intro other different
    exact ⟨Function.update_of_ne different _ _, rfl, rfl⟩
  · intro response heard
    exact Or.inl heard

theorem ProbeGuarantee.begin (invariant : ReadinessInvariant before)
    (owns : before.owner = some probe) : ProbeGuarantee probe before (before.begin probe) := by
  refine .of_own invariant.begin rfl (not_owner_of_owner owns) ?_ ?_
  · intro other different
    exact ⟨rfl, Function.update_of_ne different _ _, rfl⟩
  · intro response heard
    exact Or.inl heard

theorem ProbeGuarantee.hear (invariant : ReadinessInvariant before)
    (owns : before.owner = some probe) (lapsed : Lapsed before.checks before.clock)
    (response : Option (Nat × Option Lease)) :
    ProbeGuarantee probe before (before.hear probe response) := by
  refine .of_own (invariant.hear response) rfl (not_owner_of_owner owns) ?_ ?_
  · intro other different
    exact ⟨rfl, rfl, Function.update_of_ne different _ _⟩
  · intro response heard
    exact Or.inr ⟨owns, lapsed⟩

omit [DecidableEq ι] in
theorem ProbeGuarantee.keep (invariant : ReadinessInvariant before)
    (owns : before.owner = some probe) (lapsed : Lapsed before.checks (before.started probe))
    (ordered : before.started probe ≤ before.readAt probe) {readiness : ReadinessCache}
    (faithful : readiness = ⟨some (before.readAt probe), (getResult (before.heard probe)).isOk⟩) :
    ProbeGuarantee probe before (before.keep probe readiness) := by
  refine .of_own (invariant.keep lapsed ordered faithful) rfl (not_owner_of_owner owns) ?_ ?_
  · intro other different
    exact ⟨rfl, rfl, rfl⟩
  · intro response heard
    exact Or.inl heard

theorem ProbeGuarantee.abandon (invariant : ReadinessInvariant before) :
    ProbeGuarantee probe before (before.abandon probe) where
  invariant := invariant.abandon
  others other different :=
    { clock := le_rfl
      readAt := rfl
      started := rfl
      heard := rfl
      owner := by
        intro owns
        have spared : before.owner ≠ some probe := by
          rw [owns]
          simpa using different
        rwa [ReadinessWorld.abandon, if_neg spared]
      readiness := fun _ => rfl
      checks := fun _ => rfl }
  hears response heard := Or.inl heard

/-- The obligations of the probes. -/
def readinessDiscipline : Discipline (readinessMachine : Machine ι ReadinessAnswer _) where
  invariant := ReadinessInvariant
  rely := ProbeRely
  guarantee := ProbeGuarantee
  rely_refl := ProbeRely.refl
  rely_trans := ProbeRely.trans
  guarantee_invariant _ promised := promised.invariant
  guarantee_rely different _ promised := promised.others _ different.symm
  environment_invariant := by
    rintro before after invariant ⟨clock, le, rfl⟩
    exact invariant.tick le
  environment_rely := by
    rintro probe before after invariant ⟨clock, le, rfl⟩
    exact ⟨le, rfl, rfl, rfl, id, fun _ => rfl, fun _ => rfl⟩

/-- The probe owns the lock, and no verdict is left that it could reuse. -/
structure Checking (probe : ι) (world : ReadinessWorld ι) : Prop where
  owner : world.owner = some probe
  heard : world.heard probe = none
  lapsed : Lapsed world.checks world.clock

omit [DecidableEq ι] in
theorem Checking.of_rely (checking : Checking probe before)
    (moved : ProbeRely probe before after) : Checking probe after where
  owner := moved.owner checking.owner
  heard := moved.heard.trans checking.heard
  lapsed := by
    rw [moved.checks checking.owner]
    exact checking.lapsed.mono moved.clock

/-- The probe owns the lock, and the outcome of its request is what it has heard. -/
structure Checked (probe : ι) (world : ReadinessWorld ι)
    (response : Option (Except ReplayError (Option Lease))) : Prop where
  owner : world.owner = some probe
  lapsed : Lapsed world.checks (world.started probe)
  outcome : readinessResult response = readinessResult (some (getResult (world.heard probe)))

omit [DecidableEq ι] in
theorem Checked.unavailable (checking : Checking probe before)
    (started : Lapsed before.checks (before.started probe)) :
    Checked probe before (some (.error .unavailable)) where
  owner := checking.owner
  lapsed := started
  outcome := by
    rw [checking.heard]
    rfl

theorem timed_get_safe (url : String) {world : ReadinessWorld ι}
    (checking : Checking probe world) (started : Lapsed world.checks (world.started probe)) :
    readinessDiscipline.Safe probe (Checked probe)
      (.call (.timed (.get url)) fun
        | none => .done none
        | some response => .done (some (getResult response))) world := by
  intro before moved invariant
  have checksEq := moved.checks checking.owner
  have checking := checking.of_rely moved
  rw [← checksEq, ← moved.started] at started
  refine ⟨?_, ?_⟩
  · rintro answer _ rfl
    refine ⟨.hear invariant checking.owner checking.lapsed _, ?_⟩
    cases answer with
    | none => exact ⟨checking.owner, started, by rw [ReadinessWorld.hear_heard]; rfl⟩
    | some response => exact ⟨checking.owner, started, by rw [ReadinessWorld.hear_heard]; rfl⟩
  · rintro after ⟨_, rfl⟩
    exact .abandon invariant

theorem timeout_get_safe (platform : Platform) (name : String) {world : ReadinessWorld ι}
    (checking : Checking probe world) :
    readinessDiscipline.Safe probe (Checked probe) (timeout (get platform name)) world := by
  rw [timeout_get]
  intro before moved invariant
  have checking := checking.of_rely moved
  refine ⟨?_, ?_⟩
  · rintro text _ ⟨awaited, rfl⟩
    refine ⟨.begin invariant checking.owner, ?_⟩
    have checking : Checking probe (before.begin probe) :=
      ⟨checking.owner, checking.heard, checking.lapsed⟩
    have started : Lapsed (before.begin probe).checks ((before.begin probe).started probe) := by
      rw [ReadinessWorld.begin_started]
      exact checking.lapsed
    cases text with
    | none => contradiction
    | some text =>
        dsimp only
        split
        · exact .unavailable checking started
        · exact timed_get_safe _ checking started
  · rintro after ⟨awaits, dropped⟩
    contradiction

/-- The verdict is the one of the newest check that came to an end, and that check was not
older than the cache allows when the probe last read the clock. -/
def Verdict (probe : ι) (world : ReadinessWorld ι) (result : Except ReplayError Unit) : Prop :=
  ∃ check, world.checks.head? = some check ∧
    world.readAt probe < check.finishedAt + readinessCacheTtl ∧
    (result = .ok () ∧ check.Answered ∨ result = .error .unavailable ∧ ¬ check.Answered)

omit [DecidableEq ι] in
/-- What an outcome says, in terms of the response. -/
theorem readinessResult_getResult (response : Option (Nat × Option Lease)) :
    readinessResult (some (getResult response)) =
      if (getResult response).isOk then .ok () else .error .unavailable := by
  unfold getResult
  split <;> rfl

omit [DecidableEq ι] in
theorem verdict_of_head {world : ReadinessWorld ι} {check : ReadinessCheck}
    {result : Except ReplayError Unit} (newest : world.checks.head? = some check)
    (recent : world.readAt probe < check.finishedAt + readinessCacheTtl)
    (resultEq : result = if check.verdict then .ok () else .error .unavailable) :
    Verdict probe world result := by
  refine ⟨check, newest, recent, ?_⟩
  by_cases answered : check.verdict = true
  · rw [if_pos answered] at resultEq
    exact Or.inl ⟨resultEq, getResult_isOk_iff.mp answered⟩
  · rw [if_neg answered] at resultEq
    exact Or.inr ⟨resultEq, fun holds => answered (getResult_isOk_iff.mpr holds)⟩

/-- The end of every check: the lock is given back and the result is returned. -/
theorem unlock_safe {world : ReadinessWorld ι} {result : Except ReplayError Unit}
    (owner : world.owner = some probe) (verdict : Verdict probe world result) :
    readinessDiscipline.Safe probe (Verdict probe) (.call .unlock fun _ => .done result)
      world := by
  intro before moved invariant
  refine ⟨?_, ?_⟩
  · rintro answer _ rfl
    refine ⟨.release invariant (moved.owner owner), ?_⟩
    change Verdict probe before result
    rw [Verdict, moved.checks owner, moved.readAt]
    exact verdict
  · rintro after ⟨awaits, _⟩
    contradiction

/-- The end of a check that has asked the API: the outcome is stored under the lock. -/
theorem store_safe {world : ReadinessWorld ι} {now : Nat} {ready : Bool}
    (owner : world.owner = some probe) (lapsed : Lapsed world.checks (world.started probe))
    (read : world.readAt probe = now) (ordered : world.started probe ≤ now)
    (faithful : ready = (getResult (world.heard probe)).isOk) :
    readinessDiscipline.Safe probe (Verdict probe)
      (.call (.store ⟨some now, ready⟩) fun _ =>
        .call .unlock fun _ => .done (if ready then .ok () else .error .unavailable)) world := by
  intro before moved invariant
  have checksEq := moved.checks owner
  have owner := moved.owner owner
  rw [← moved.started] at ordered lapsed
  rw [← checksEq] at lapsed
  rw [← moved.readAt] at read
  rw [← moved.heard] at faithful
  subst read
  refine ⟨?_, ?_⟩
  · rintro answer _ rfl
    refine ⟨.keep invariant owner lapsed ordered (by rw [faithful]), ?_⟩
    have stillOwner : ∀ readiness, (before.keep probe readiness).owner = some probe :=
      fun _ => owner
    refine unlock_safe (stillOwner _) ?_
    refine verdict_of_head rfl ?_ (by rw [faithful]; rfl)
    exact Nat.lt_add_of_pos_right (by decide)
  · rintro after ⟨awaits, _⟩
    contradiction

theorem checked_safe {world : ReadinessWorld ι}
    {response : Option (Except ReplayError (Option Lease))}
    (checked : Checked probe world response) :
    readinessDiscipline.Safe probe (Verdict probe)
      (.call .instantNow fun now =>
        .call (.store ⟨some now, (readinessResult response).isOk⟩) fun _ =>
          .call .unlock fun _ => .done (readinessResult response)) world := by
  rcases checked with ⟨owner, lapsed, outcome⟩
  have faithful : (readinessResult response).isOk = (getResult (world.heard probe)).isOk := by
    rw [outcome, readinessResult_getResult]
    cases (getResult (world.heard probe)).isOk <;> rfl
  rw [readinessResult_getResult, ← faithful] at outcome
  intro before moved invariant
  rw [← moved.started, ← moved.checks owner] at lapsed
  rw [← moved.heard] at faithful
  have owner := moved.owner owner
  refine ⟨?_, ?_⟩
  · rintro now _ ⟨rfl, rfl⟩
    refine ⟨.readInstant invariant owner, ?_⟩
    have stillOwner : (before.readInstant probe).owner = some probe := owner
    have safe := store_safe stillOwner lapsed
      (ReadinessWorld.readInstant_readAt _ _) (invariant.started probe) faithful
    rwa [← outcome] at safe
  · rintro after ⟨awaits, _⟩
    contradiction

/-- A check that finds no verdict to reuse. -/
theorem request_safe (platform : Platform) {world : ReadinessWorld ι}
    (checking : Checking probe world) :
    readinessDiscipline.Safe probe (Verdict probe)
      ((timeout (get platform readinessLeaseName)).bind fun response =>
        .call .instantNow fun now =>
          .call (.store ⟨some now, (readinessResult response).isOk⟩) fun _ =>
            .call .unlock fun _ => .done (readinessResult response)) world := by
  apply (timeout_get_safe platform readinessLeaseName checking).bind
  intro world response checked
  exact checked_safe checked

/-- A check under the lock. -/
theorem locked_safe (platform : Platform) {world : ReadinessWorld ι}
    (invariant : ReadinessInvariant world)
    (owner : world.owner = some probe) (heard : world.heard probe = none) :
    readinessDiscipline.Safe probe (Verdict probe)
      ((checkedRecently world.readiness.checkedAt).bind fun
        | true => .call .unlock fun _ =>
            .done (if world.readiness.ready then .ok () else .error .unavailable)
        | false =>
            (timeout (get platform readinessLeaseName)).bind fun response =>
              let result := readinessResult response
              .call .instantNow fun now =>
                .call (.store ⟨some now, result.isOk⟩) fun _ =>
                  .call .unlock fun _ => .done result) world := by
  rw [invariant.cached]
  cases checksEq : world.checks with
  | nil =>
      apply request_safe
      refine ⟨owner, heard, ?_⟩
      rw [checksEq]
      simp [Lapsed]
  | cons newest older =>
      intro before moved later
      have owner' := moved.owner owner
      have checksEq := (moved.checks owner).trans checksEq
      refine ⟨?_, ?_⟩
      · rintro now _ ⟨rfl, rfl⟩
        refine ⟨.readInstant later owner', ?_⟩
        simp only [Program.bind_done]
        by_cases recent : before.clock - newest.finishedAt < readinessCacheTtl
        · rw [decide_eq_true recent]
          have stillOwner : (before.readInstant probe).owner = some probe := owner'
          have head : (before.readInstant probe).checks.head? = some newest := by
            change before.checks.head? = some newest
            rw [checksEq]
            rfl
          refine unlock_safe stillOwner (verdict_of_head head ?_ rfl)
          rw [ReadinessWorld.readInstant_readAt]
          omega
        · rw [decide_eq_false recent]
          apply request_safe
          refine ⟨owner', moved.heard.trans heard, ?_⟩
          apply later.lapsed_of_newest checksEq
          have past := (later.past newest (checksEq ▸ List.mem_cons_self)).2
          change newest.finishedAt + readinessCacheTtl ≤ before.clock
          omega
      · rintro after ⟨awaits, _⟩
        contradiction

theorem checkReady_safe (platform : Platform) (world : ReadinessWorld ι) :
    readinessDiscipline.Safe probe (Verdict probe) (checkReady platform) world := by
  intro before _ invariant
  refine ⟨?_, ?_⟩
  · rintro readiness _ ⟨free, rfl, rfl⟩
    refine ⟨.acquire invariant free, ?_⟩
    exact locked_safe platform invariant.acquire rfl (ReadinessWorld.acquire_heard _ _)
  · rintro after ⟨_, rfl⟩
    exact .abandon invariant

end Steps

section Probes

variable [DecidableEq ι] {platform : Platform} {clock : Nat} {probe : ι} {world : ReadinessWorld ι}

/-- What a run of the probes can reach. -/
def ProbesReached (platform : Platform) (clock : Nat)
    (config : Config ι ReadinessAnswer (ReadinessWorld ι) (Except ReplayError Unit)) : Prop :=
  Steps readinessMachine (Config.initial (.start clock) fun _ => checkReady platform) config

theorem probes_hold
    {config : Config ι ReadinessAnswer (ReadinessWorld ι) (Except ReplayError Unit)}
    (reached : ProbesReached platform clock config) :
    readinessDiscipline.Holds (fun probe => Verdict probe) config := by
  apply Discipline.Holds.steps _ reached
  apply Discipline.Holds.initial (ReadinessInvariant.start clock)
  intro probe
  exact checkReady_safe platform _

/-- In every run, with any answers of the API and any drops, a probe returns the verdict of
the newest check that came to an end, which was less than 30 s old when the probe read the
clock. -/
theorem check_ready_recent
    {source target : Config ι ReadinessAnswer (ReadinessWorld ι) (Except ReplayError Unit)}
    {result : Except ReplayError Unit} (reached : ProbesReached platform clock source)
    (returned : Returns readinessMachine source probe result target) :
    Verdict probe target.shared result :=
  (probes_hold reached).returns returned

/-- The probe waits for the API. -/
def Requesting
    (config : Config ι ReadinessAnswer (ReadinessWorld ι) (Except ReplayError Unit))
    (probe : ι) : Prop :=
  ∃ url next, config.tasks probe = some (.call (.timed (.get url)) next)

/-- Only the owner of the lock waits for the API, and only when no verdict can be
reused. -/
theorem owner_of_requesting
    {config : Config ι ReadinessAnswer (ReadinessWorld ι) (Except ReplayError Unit)}
    (reached : ProbesReached platform clock config) (requesting : Requesting config probe) :
    config.shared.owner = some probe ∧ Lapsed config.shared.checks config.shared.clock := by
  rcases requesting with ⟨url, next, running⟩
  have holds := probes_hold reached
  have safe := (holds.running probe _ next running _ (ProbeRely.refl probe config.shared)
    holds.invariant).1
  -- an answer that the probe has not heard yet would have to be promised
  rcases exists_ne ((config.shared.heard probe).getD (0, none)) with ⟨response, fresh⟩
  have promised := (safe (some (some response)) _ rfl).1
  rcases promised.hears response (ReadinessWorld.hear_heard _ _ _) with heard | owns
  · rw [heard] at fresh
    contradiction
  · exact owns

/-- Requests exclude each other, none is sent before the last check that came to an end has
lapsed, and so every window holds boundedly many of these checks. -/
theorem readiness_traffic
    {config : Config ι ReadinessAnswer (ReadinessWorld ι) (Except ReplayError Unit)}
    (reached : ProbesReached platform clock config) :
    (∀ first second, Requesting config first → Requesting config second → first = second) ∧
      (∀ probe, Requesting config probe → ∀ check ∈ config.shared.checks,
        check.finishedAt + readinessCacheTtl ≤ config.shared.clock) ∧
      (config.shared.checks.Pairwise fun newer older =>
        older.finishedAt + readinessCacheTtl ≤ newer.startedAt) ∧
      ∀ start length : Nat,
        config.shared.checks.countP
            (fun check => decide (start ≤ check.startedAt ∧ check.startedAt ≤ start + length)) ≤
          length / readinessCacheTtl + 1 := by
  have invariant := (probes_hold reached).invariant
  refine ⟨?_, ?_, invariant.spaced, ?_⟩
  · intro first second firstRequesting secondRequesting
    have owner := (owner_of_requesting reached firstRequesting).1
    rw [(owner_of_requesting reached secondRequesting).1, Option.some.injEq] at owner
    exact owner.symm
  · intro probe requesting
    exact (owner_of_requesting reached requesting).2
  · intro start length
    have apart : Apart readinessCacheTtl
        (config.shared.checks.map fun check => (check.startedAt : Int)) := by
      rw [Apart, List.pairwise_map]
      apply List.Pairwise.imp_of_mem _ invariant.spaced
      intro newer older _ member spaced
      have past := (invariant.past older member).1
      omega
    have bound := apart.countP_le (by decide) start length
    rw [List.countP_map] at bound
    convert bound using 2
    funext check
    rw [Function.comp_apply, decide_eq_decide]
    omega

end Probes

/-- A library in which the readiness Lease has a resource. -/
def addressingPlatform : Platform where
  sha256 bytes := bytes
  toRfc3339Micros _ := "2026-01-01T00:00:00.000000Z"
  parseFromRfc3339 _ := none
  itemUrl name := some ("https://kubernetes.default/leases/" ++ name)

/-- One probe is told that the Lease does not exist; another one reuses the verdict 10 s
later. -/
theorem check_ready_recent_sample :
    ∃ source target, ProbesReached addressingPlatform 0 source ∧
      Returns readinessMachine source true (.ok ()) target ∧
      Verdict true target.shared (.ok ()) := by
  have run : ∃ source, ProbesReached addressingPlatform 0 source ∧
      ∃ target, Returns readinessMachine source true (.ok ()) target := by
    refine Steps.reach_perform false rfl _ ⟨rfl, rfl, rfl⟩ ?_
    refine Steps.reach_perform false rfl (some (some "token")) ⟨by simp, rfl⟩ ?_
    refine Steps.reach_perform false rfl (some (some (404, none))) rfl ?_
    refine Steps.reach_perform false rfl (0 : Nat) ⟨rfl, rfl⟩ ?_
    refine Steps.reach_perform false rfl () rfl ?_
    refine Steps.reach_perform false rfl () rfl ?_
    refine Steps.reach_environment ⟨10 * 10 ^ 9, Nat.zero_le _, rfl⟩ ?_
    refine Steps.reach_perform true rfl _ ⟨rfl, rfl, rfl⟩ ?_
    refine Steps.reach_perform true rfl (10 * 10 ^ 9 : Nat) ⟨rfl, rfl⟩ ?_
    exact ⟨_, .refl _, _, Returns.of_perform true rfl () rfl rfl⟩
  rcases run with ⟨source, reached, target, returned⟩
  exact ⟨source, target, reached, returned, check_ready_recent reached returned⟩

/-- A first check comes to an end, and 40 s later one of two probes asks again. -/
theorem readiness_traffic_sample :
    ∃ config, ProbesReached addressingPlatform 0 config ∧
      config.shared.checks.length = 1 ∧ Requesting config 1 ∧ ¬ Requesting config 2 := by
  have run : ∃ config, ProbesReached addressingPlatform 0 config ∧
      config.shared.checks.length = 1 ∧ Requesting config 1 := by
    refine Steps.reach_perform 0 rfl _ ⟨rfl, rfl, rfl⟩ ?_
    refine Steps.reach_perform 0 rfl (some (some "token")) ⟨by simp, rfl⟩ ?_
    refine Steps.reach_perform 0 rfl none rfl ?_
    refine Steps.reach_perform 0 rfl (0 : Nat) ⟨rfl, rfl⟩ ?_
    refine Steps.reach_perform 0 rfl () rfl ?_
    refine Steps.reach_perform 0 rfl () rfl ?_
    refine Steps.reach_environment ⟨40 * 10 ^ 9, Nat.zero_le _, rfl⟩ ?_
    refine Steps.reach_perform 1 rfl _ ⟨rfl, rfl, rfl⟩ ?_
    refine Steps.reach_perform 1 rfl (40 * 10 ^ 9 : Nat) ⟨rfl, rfl⟩ ?_
    refine Steps.reach_perform 1 rfl (some (some "token")) ⟨by simp, rfl⟩ ?_
    exact ⟨_, .refl _, rfl, _, _, rfl⟩
  rcases run with ⟨config, reached, checked, requesting⟩
  refine ⟨config, reached, checked, requesting, ?_⟩
  intro other
  have same := (readiness_traffic reached).1 1 2 requesting other
  contradiction

end Runs

end OidcExchange.Replay
