import OidcExchange.Jwks.Machine
import OidcExchange.Process.Discipline

/-!
# What the tasks of a verifier rely on

A reader keeps the cache from changing, the owner of the refresh lock keeps the
marks and the installed key sets from changing, and attempts are spaced by the
retry interval.  The discipline collects these facts; it holds for the verifier
under any further restriction of its operations and drops.
-/

namespace OidcExchange.Jwks

open OidcExchange.Process

/-- Attempts since `origin` that are 30 s apart, with the mark that the last one has
left. -/
structure Spaced (origin : Int) (starts : List Int) (last clock : Int) : Prop where
  apart : starts.Pairwise fun newer older => older ≤ newer ∧ (0 < older → older + 30 ≤ newer)
  last : last = starts.head?.getD 0
  past : ∀ start ∈ starts, start ≤ clock
  since : ∀ start ∈ starts, origin ≤ start

theorem attemptedRecently_iff {last now : Int} :
    attemptedRecently last now = true ↔ 0 < last ∧ now - last < 30 := by
  rw [attemptedRecently, Bool.and_eq_true, decide_eq_true_iff, decide_eq_true_iff, saturatingSub,
    jwksRefreshRetrySeconds, i64Min, i64Max]
  omega

theorem Spaced.mono {origin : Int} {starts : List Int} {last clock later : Int}
    (spaced : Spaced origin starts last clock) (le : clock ≤ later) :
    Spaced origin starts last later :=
  ⟨spaced.apart, spaced.last, fun start member => (spaced.past start member).trans le,
    spaced.since⟩

/-- An attempt may start when the last one is not recent. -/
theorem Spaced.cons {origin : Int} {starts : List Int} {last clock now : Int}
    (spaced : Spaced origin starts last clock) (le : now ≤ clock) (since : origin ≤ now)
    (latest : ∀ start ∈ starts, start ≤ now) (due : attemptedRecently last now = false) :
    Spaced origin (now :: starts) now clock := by
  refine ⟨?_, rfl, ?_, ?_⟩
  · rw [List.pairwise_cons]
    refine ⟨?_, spaced.apart⟩
    intro older member
    refine ⟨latest older member, ?_⟩
    intro positive
    rw [← Bool.not_eq_true, attemptedRecently_iff] at due
    cases starts with
    | nil => contradiction
    | cons newest starts =>
        have lastEq : last = newest := spaced.last
        have olderLe : older ≤ newest := by
          rcases List.mem_cons.mp member with rfl | member
          · exact le_rfl
          · exact ((List.pairwise_cons.mp spaced.apart).1 older member).1
        omega
  · rw [List.forall_mem_cons]
    exact ⟨le, spaced.past⟩
  · rw [List.forall_mem_cons]
    exact ⟨since, spaced.since⟩

theorem Spaced.nil (origin clock : Int) : Spaced origin [] 0 clock :=
  ⟨List.Pairwise.nil, rfl, by simp, by simp⟩

variable {ι K : Type}

/-- No fetch that ends later has started before this instant. -/
def World.floor (world : World ι K) : Int :=
  match world.owner with
  | some task => world.started task
  | none => world.clock

/-- The drops spare a forced refresh whose outcome is not recorded, unless the last
recorded outcome is a failure. -/
def SparesForced (mayDrop : ι → World ι K → Op K → Prop) : Prop :=
  ∀ task world op, mayDrop task world op →
    world.forcing task = false ∨ world.refresh.lastForcedFailed = true

/-- The invariant of a verifier whose clock started at `origin` and whose drops
are limited by `mayDrop`. -/
structure VerifierInvariant (origin : Int) (mayDrop : ι → World ι K → Op K → Prop)
    (world : World ι K) : Prop where
  cached : world.installs.head?.map Install.cache = some world.cache ∨
    world.installs = [] ∧ world.cache = .empty
  filled : ∀ install ∈ world.installs, install.cache.keys.entries.isEmpty = false
  originRange : i64Min ≤ origin
  clockLower : origin ≤ world.clock
  clockUpper : world.clock ≤ i64Max
  readings : ∀ task, ∀ now ∈ world.readings task, now ≤ world.clock
  fetched : i64Min ≤ world.cache.fetchedAt
  soft : Spaced origin world.softStarts world.refresh.lastSoftAttempt world.clock
  forced : Spaced origin world.forcedStarts world.refresh.lastForcedAttempt world.clock
  started : ∀ task, world.started task ≤ world.clock
  refreshing : ∀ task, world.refreshing task = true → world.owner = some task
  forcing : ∀ task, world.forcing task = true → world.owner = some task
  classified : SparesForced mayDrop → (∀ task, world.forcing task = false) →
    world.refresh.lastForcedFailed = false → 0 < world.refresh.lastForcedAttempt →
      ∃ install ∈ world.installs, world.refresh.lastForcedAttempt ≤ install.startedAt

theorem VerifierInvariant.start {mayDrop : ι → World ι K → Op K → Prop} {clock : Int}
    (lower : i64Min ≤ clock) (upper : clock ≤ i64Max) :
    VerifierInvariant clock mayDrop (World.start clock) where
  cached := Or.inr ⟨rfl, rfl⟩
  filled := by simp [World.start]
  originRange := lower
  clockLower := le_rfl
  clockUpper := upper
  readings := by simp [World.start]
  fetched := by
    change i64Min ≤ 0
    decide
  soft := .nil clock clock
  forced := .nil clock clock
  started _ := le_rfl
  refreshing := by simp [World.start]
  forcing := by simp [World.start]
  classified := by simp [World.start, RefreshState.start]

section Installed

variable {origin : Int} {mayDrop : ι → World ι K → Op K → Prop} {world : World ι K}

/-- What has been installed is cached, and it is not empty. -/
theorem VerifierInvariant.filled_of_installs (invariant : VerifierInvariant origin mayDrop world)
    (installed : world.installs ≠ []) : world.cache.keys.entries.isEmpty = false := by
  rcases invariant.cached with cached | ⟨nothing, -⟩
  · rcases Option.map_eq_some_iff.mp cached with ⟨install, newest, cacheEq⟩
    rw [← cacheEq]
    exact invariant.filled install (List.mem_of_mem_head? newest)
  · exact absurd nothing installed

/-- Keys come from the last installed set only. -/
theorem VerifierInvariant.cached_of_filled (invariant : VerifierInvariant origin mayDrop world)
    (filled : world.cache.keys.entries.isEmpty = false) :
    world.installs.head?.map Install.cache = some world.cache := by
  rcases invariant.cached with cached | ⟨-, empty⟩
  · exact cached
  · rw [empty] at filled
    contradiction

end Installed

/-- What others leave alone while the task is not running. -/
structure Rely (task : ι) (before after : World ι K) : Prop where
  clock : before.clock ≤ after.clock
  readers : after.readers task = before.readers task
  viewed : before.readers task = true → after.cache = before.cache
  owner : before.owner = some task → after.owner = some task
  cache : before.owner = some task → after.cache = before.cache
  installs : before.owner = some task → after.installs = before.installs
  refresh : before.owner = some task → after.refresh = before.refresh
  softStarts : before.owner = some task → after.softStarts = before.softStarts
  forcedStarts : before.owner = some task → after.forcedStarts = before.forcedStarts
  readings : after.readings task = before.readings task
  started : after.started task = before.started task
  forcing : after.forcing task = before.forcing task
  mark : after.mark task = before.mark task
  grown : ∃ newer, after.installs = newer ++ before.installs ∧
    (newer = [] → after.cache = before.cache) ∧
      ∀ install ∈ newer, before.floor ≤ install.startedAt
  floor : before.floor ≤ after.floor

variable {task someone : ι} {before after world : World ι K}

theorem Rely.refl (task : ι) (world : World ι K) : Rely task world world :=
  ⟨le_rfl, rfl, fun _ => rfl, id, fun _ => rfl, fun _ => rfl, fun _ => rfl, fun _ => rfl,
    fun _ => rfl, rfl, rfl, rfl, rfl, ⟨[], rfl, fun _ => rfl, by simp⟩, le_rfl⟩

theorem Rely.trans {middle : World ι K} (first : Rely task before middle)
    (second : Rely task middle after) : Rely task before after where
  clock := first.clock.trans second.clock
  readers := second.readers.trans first.readers
  viewed reads := (second.viewed (first.readers.trans reads)).trans (first.viewed reads)
  owner owned := second.owner (first.owner owned)
  cache owned := (second.cache (first.owner owned)).trans (first.cache owned)
  installs owned := (second.installs (first.owner owned)).trans (first.installs owned)
  refresh owned := (second.refresh (first.owner owned)).trans (first.refresh owned)
  softStarts owned := (second.softStarts (first.owner owned)).trans (first.softStarts owned)
  forcedStarts owned :=
    (second.forcedStarts (first.owner owned)).trans (first.forcedStarts owned)
  readings := second.readings.trans first.readings
  started := second.started.trans first.started
  forcing := second.forcing.trans first.forcing
  mark := second.mark.trans first.mark
  grown := by
    rcases first.grown with ⟨newer, grown, same, later⟩
    rcases second.grown with ⟨newest, grown', same', later'⟩
    refine ⟨newest ++ newer, by rw [grown', grown, List.append_assoc], ?_, ?_⟩
    · intro none
      rcases List.append_eq_nil_iff.mp none with ⟨noneNewest, noneNewer⟩
      exact (same' noneNewest).trans (same noneNewer)
    · intro install member
      rcases List.mem_append.mp member with member | member
      · exact first.floor.trans (later' install member)
      · exact later install member
  floor := first.floor.trans second.floor

/-- A step that leaves the cache, the installed sets, the owner and the marks
alone. -/
theorem Rely.of_untouched (clock : after.clock = before.clock)
    (cache : after.cache = before.cache) (installs : after.installs = before.installs)
    (owner : after.owner = before.owner) (refresh : after.refresh = before.refresh)
    (softStarts : after.softStarts = before.softStarts)
    (forcedStarts : after.forcedStarts = before.forcedStarts)
    (started : after.started = before.started)
    (readers : after.readers someone = before.readers someone)
    (readings : after.readings someone = before.readings someone)
    (forcing : after.forcing someone = before.forcing someone)
    (mark : after.mark someone = before.mark someone) : Rely someone before after where
  clock := clock.ge
  readers := readers
  viewed _ := cache
  owner owned := owner.trans owned
  cache _ := cache
  installs _ := installs
  refresh _ := refresh
  softStarts _ := softStarts
  forcedStarts _ := forcedStarts
  readings := readings
  started := by rw [started]
  forcing := forcing
  mark := mark
  grown := ⟨[], installs, fun _ => cache, by simp⟩
  floor := by rw [World.floor, World.floor, owner, started, clock]

/-- A step of the owner of the refresh lock that installs nothing. -/
theorem Rely.of_owned (different : someone ≠ task) (owned : before.owner = some task)
    (clock : after.clock = before.clock) (cache : after.cache = before.cache)
    (installs : after.installs = before.installs)
    (readers : after.readers someone = before.readers someone)
    (readings : after.readings someone = before.readings someone)
    (started : after.started someone = before.started someone)
    (forcing : after.forcing someone = before.forcing someone)
    (mark : after.mark someone = before.mark someone) (floor : before.floor ≤ after.floor) :
    Rely someone before after := by
  have notOwned : before.owner ≠ some someone := by
    rw [owned, ne_eq, Option.some.injEq]
    exact different.symm
  exact ⟨clock.ge, readers, fun _ => cache, fun own => absurd own notOwned, fun _ => cache,
    fun _ => installs, fun own => absurd own notOwned, fun own => absurd own notOwned,
    fun own => absurd own notOwned, readings, started, forcing, mark,
    ⟨[], installs, fun _ => cache, by simp⟩, floor⟩

section Discipline

variable {origin : Int} {mayPerform mayDrop : ι → World ι K → Op K → Prop}

/-- While a task owns the lock, nobody else is in a forced refresh. -/
theorem VerifierInvariant.not_forcing (invariant : VerifierInvariant origin mayDrop world)
    (notOwned : world.owner ≠ some someone) : world.forcing someone = false := by
  cases forcing : world.forcing someone with
  | false => rfl
  | true => exact absurd (invariant.forcing someone forcing) notOwned

/-- While nobody owns the lock, every flag that only its owner sets is down. -/
theorem eq_false_of_owner {flags : ι → Bool} {owner : Option ι}
    (before : ∀ someone, flags someone = true → owner = some someone)
    (owned : owner = none ∨ owner = some task) {someone : ι} (different : someone ≠ task) :
    flags someone = false := by
  cases set : flags someone with
  | false => rfl
  | true =>
      have own := before someone set
      rcases owned with owned | owned
      · rw [owned] at own
        contradiction
      · rw [owned, Option.some.injEq] at own
        exact absurd own.symm different

/-- The clock may move. -/
theorem environment_keeps {clock : Int} (invariant : VerifierInvariant origin mayDrop world)
    (le : world.clock ≤ clock) (upper : clock ≤ i64Max) :
    VerifierInvariant origin mayDrop { world with clock := clock } ∧
      ∀ someone, Rely someone world { world with clock := clock } := by
  constructor
  · exact { invariant with
      clockLower := invariant.clockLower.trans le
      clockUpper := upper
      readings := fun task now member => (invariant.readings task now member).trans le
      soft := invariant.soft.mono le
      forced := invariant.forced.mono le
      started := fun task => (invariant.started task).trans le }
  · intro someone
    refine ⟨le, rfl, fun _ => rfl, id, fun _ => rfl, fun _ => rfl, fun _ => rfl, fun _ => rfl,
      fun _ => rfl, rfl, rfl, rfl, rfl, ⟨[], rfl, fun _ => rfl, by simp⟩, ?_⟩
    cases owner : world.owner with
    | none => simpa [World.floor, owner] using le
    | some task => simp [World.floor, owner]

variable [DecidableEq ι]

/-- The condition under which a task may perform an operation. -/
def Allowed (origin : Int) (mayDrop : ι → World ι K → Op K → Prop) (task : ι) (world : World ι K) :
    Op K → Prop
  | .unlock => world.owner = some task ∧
      (SparesForced mayDrop → world.forcing task = false)
  | .startSoft now => world.owner = some task ∧ now ≤ world.clock ∧ origin ≤ now ∧
      (∀ start ∈ world.softStarts, start ≤ now) ∧
        attemptedRecently world.refresh.lastSoftAttempt now = false
  | .startForced now => world.owner = some task ∧ now ≤ world.clock ∧ origin ≤ now ∧
      (∀ start ∈ world.forcedStarts, start ≤ now) ∧
        attemptedRecently world.refresh.lastForcedAttempt now = false
  | .setForcedFailed failed => world.owner = some task ∧
      (failed = false →
        ∃ install ∈ world.installs, world.refresh.lastForcedAttempt ≤ install.startedAt)
  | .send _ => world.owner = some task
  | .readBody => world.owner = some task
  | .install cache => world.owner = some task ∧ cache.keys.entries.isEmpty = false ∧
      i64Min ≤ cache.fetchedAt
  | _ => True

/-- The owner of the lock can rely on `update` at its own place only. -/
theorem eq_of_update_true {flags : ι → Bool} {owner : Option ι}
    (before : ∀ someone, flags someone = true → owner = some someone)
    (owned : owner = some task) (flag : Bool) :
    ∀ someone, Function.update flags task flag someone = true → owner = some someone := by
  intro someone set
  by_cases same : someone = task
  · rw [same, owned]
  · rw [Function.update_of_ne same] at set
    exact before someone set

/-- A flag that its owner gives up is up for nobody. -/
theorem owner_of_update_false {flags : ι → Bool} {owner : Option ι}
    (others : ∀ someone, someone ≠ task → flags someone = false) :
    ∀ someone, Function.update flags task false someone = true → owner = some someone := by
  intro someone set
  by_cases same : someone = task
  · rw [same, Function.update_self] at set
    contradiction
  · rw [Function.update_of_ne same, others someone same] at set
    contradiction

/-! ### One operation and the invariant -/

theorem VerifierInvariant.readClock (invariant : VerifierInvariant origin mayDrop world) :
    VerifierInvariant origin mayDrop (world.readClock task) := by
  refine { invariant with readings := ?_ }
  intro someone now member
  by_cases same : someone = task
  · rw [same, World.readClock_readings] at member
    rcases List.mem_cons.mp member with rfl | member
    · exact le_rfl
    · exact invariant.readings task now member
  · have unchanged : (world.readClock task).readings someone = world.readings someone :=
      Function.update_of_ne same _ _
    rw [unchanged] at member
    exact invariant.readings someone now member

/-- A task may take its start from the clock. -/
theorem VerifierInvariant.update_started_le (invariant : VerifierInvariant origin mayDrop world) :
    ∀ someone, Function.update world.started task world.clock someone ≤ world.clock := by
  intro someone
  by_cases same : someone = task
  · rw [same, Function.update_self]
  · rw [Function.update_of_ne same]
    exact invariant.started someone

theorem VerifierInvariant.acquire (invariant : VerifierInvariant origin mayDrop world)
    (free : world.owner = none) : VerifierInvariant origin mayDrop (world.acquire task) := by
  have refreshing : ∀ someone, someone ≠ task → world.refreshing someone = false :=
    fun _ different => eq_false_of_owner invariant.refreshing (Or.inl free) different
  have forcing : ∀ someone, world.forcing someone = false :=
    fun someone => invariant.not_forcing (by simp [free])
  exact { invariant with
    started := invariant.update_started_le
    refreshing := owner_of_update_false refreshing
    forcing := owner_of_update_false fun someone _ => forcing someone
    classified := fun spares _ => invariant.classified spares forcing }

/-- The owner leaves the lock when the outcome of its refresh is recorded. -/
theorem VerifierInvariant.release (invariant : VerifierInvariant origin mayDrop world)
    (owned : world.owner = some task)
    (recorded : SparesForced mayDrop → world.forcing task = false) :
    VerifierInvariant origin mayDrop (world.release task) := by
  have refreshing : ∀ someone, someone ≠ task → world.refreshing someone = false :=
    fun _ different => eq_false_of_owner invariant.refreshing (Or.inr owned) different
  have others : ∀ someone, someone ≠ task → world.forcing someone = false :=
    fun _ different => eq_false_of_owner invariant.forcing (Or.inr owned) different
  refine { invariant with
    refreshing := owner_of_update_false refreshing
    forcing := owner_of_update_false others
    classified := ?_ }
  intro spares _
  apply invariant.classified spares
  intro someone
  by_cases same : someone = task
  · rw [same, recorded spares]
  · exact others someone same

theorem VerifierInvariant.startSoft {now : Int}
    (invariant : VerifierInvariant origin mayDrop world)
    (allowed : Allowed origin mayDrop task world (.startSoft now)) :
    VerifierInvariant origin mayDrop (world.startSoft task now) := by
  rcases allowed with ⟨owned, le, since, latest, due⟩
  exact { invariant with
    soft := invariant.soft.cons le since latest due
    started := invariant.update_started_le
    refreshing := eq_of_update_true invariant.refreshing owned true }

theorem VerifierInvariant.startForced {now : Int}
    (invariant : VerifierInvariant origin mayDrop world)
    (allowed : Allowed origin mayDrop task world (.startForced now)) :
    VerifierInvariant origin mayDrop (world.startForced task now) := by
  rcases allowed with ⟨owned, le, since, latest, due⟩
  refine { invariant with
    forced := invariant.forced.cons le since latest due
    started := invariant.update_started_le
    refreshing := eq_of_update_true invariant.refreshing owned true
    forcing := eq_of_update_true invariant.forcing owned true
    classified := ?_ }
  -- the outcome of the new refresh is not recorded
  intro _ none
  have set : Function.update world.forcing task true task = false := none task
  rw [Function.update_self] at set
  contradiction

theorem VerifierInvariant.setForcedFailed {failed : Bool}
    (invariant : VerifierInvariant origin mayDrop world)
    (allowed : Allowed origin mayDrop task world (.setForcedFailed failed)) :
    VerifierInvariant origin mayDrop (world.setForcedFailed task failed) := by
  rcases allowed with ⟨owned, backed⟩
  refine { invariant with
    forcing := eq_of_update_true invariant.forcing owned false
    classified := ?_ }
  intro _ _ success _
  exact backed success

theorem VerifierInvariant.request (invariant : VerifierInvariant origin mayDrop world)
    (owned : world.owner = some task) : VerifierInvariant origin mayDrop (world.request task) :=
  { invariant with refreshing := eq_of_update_true invariant.refreshing owned true }

omit [DecidableEq ι] in
theorem VerifierInvariant.install {cache : KeyCache K}
    (invariant : VerifierInvariant origin mayDrop world)
    (allowed : Allowed origin mayDrop task world (.install cache)) :
    VerifierInvariant origin mayDrop (world.install task cache) := by
  rcases allowed with ⟨owned, filled, fetched⟩
  refine { invariant with
    cached := Or.inl rfl, filled := ?_, fetched := fetched, classified := ?_ }
  · intro install member
    rcases List.mem_cons.mp member with rfl | member
    · exact filled
    · exact invariant.filled install member
  · intro spares none success positive
    rcases invariant.classified spares none success positive with ⟨install, member, le⟩
    exact ⟨install, List.mem_cons_of_mem _ member, le⟩

/-- Every allowed operation keeps the invariant. -/
theorem invariant_of_perform {op : Op K} {answer : Answer K op}
    (invariant : VerifierInvariant origin mayDrop before)
    (allowed : Allowed origin mayDrop task before op)
    (effect : perform task before op answer after) : VerifierInvariant origin mayDrop after := by
  cases op with
  | utcNow =>
      obtain ⟨-, rfl⟩ := effect
      exact invariant.readClock
  | readLock =>
      obtain ⟨-, rfl⟩ := effect
      exact { invariant with }
  | readUnlock =>
      obtain rfl := effect
      exact { invariant with }
  | countFailure =>
      obtain rfl := effect
      exact { invariant with }
  | lock =>
      obtain ⟨free, -, rfl⟩ := effect
      exact invariant.acquire free
  | unlock =>
      obtain rfl := effect
      exact invariant.release allowed.1 allowed.2
  | startSoft now =>
      obtain rfl := effect
      exact invariant.startSoft allowed
  | startForced now =>
      obtain rfl := effect
      exact invariant.startForced allowed
  | setForcedFailed failed =>
      obtain rfl := effect
      exact invariant.setForcedFailed allowed
  | send url =>
      obtain rfl := effect
      exact invariant.request allowed
  | readBody =>
      obtain rfl := effect
      exact invariant.request allowed
  | install cache =>
      obtain ⟨-, rfl⟩ := effect
      exact invariant.install allowed

/-! ### One operation and the others -/

/-- A task that obtains the lock starts at the clock. -/
theorem Rely.acquire (different : someone ≠ task) (free : world.owner = none) :
    Rely someone world (world.acquire task) := by
  have notOwned : world.owner ≠ some someone := by simp [free]
  refine ⟨le_rfl, rfl, fun _ => rfl, fun own => absurd own notOwned, fun _ => rfl,
    fun _ => rfl, fun _ => rfl, fun _ => rfl, fun _ => rfl, rfl,
    Function.update_of_ne different _ _, Function.update_of_ne different _ _, rfl,
    ⟨[], rfl, fun _ => rfl, by simp⟩, ?_⟩
  rw [World.floor, free]
  exact (Function.update_self task world.clock world.started).ge

omit [DecidableEq ι] in
/-- The owner installs a key set while nobody reads. -/
theorem Rely.install {cache : KeyCache K} (different : someone ≠ task)
    (owned : world.owner = some task) (unread : ∀ reader, world.readers reader = false) :
    Rely someone world (world.install task cache) := by
  have notOwned : world.owner ≠ some someone := by
    rw [owned, ne_eq, Option.some.injEq]
    exact different.symm
  refine ⟨le_rfl, rfl, ?_, fun own => absurd own notOwned, fun own => absurd own notOwned,
    fun own => absurd own notOwned, fun _ => rfl, fun _ => rfl, fun _ => rfl, rfl, rfl, rfl,
    rfl, ⟨[⟨cache, world.started task⟩], rfl, by simp, ?_⟩, le_rfl⟩
  · intro reads
    rw [unread someone] at reads
    contradiction
  · intro install member
    rw [List.mem_singleton] at member
    subst member
    rw [World.floor, owned]

/-- Every allowed operation keeps what the others rely on. -/
theorem rely_of_perform {op : Op K} {answer : Answer K op}
    (invariant : VerifierInvariant origin mayDrop before)
    (allowed : Allowed origin mayDrop task before op)
    (different : someone ≠ task) (effect : perform task before op answer after) :
    Rely someone before after := by
  have started := invariant.started task
  cases op with
  | utcNow =>
      obtain ⟨-, rfl⟩ := effect
      exact .of_untouched rfl rfl rfl rfl rfl rfl rfl rfl rfl
        (Function.update_of_ne different _ _) rfl rfl
  | readLock =>
      obtain ⟨-, rfl⟩ := effect
      exact .of_untouched rfl rfl rfl rfl rfl rfl rfl rfl
        (Function.update_of_ne different _ _) rfl rfl rfl
  | readUnlock =>
      obtain rfl := effect
      exact .of_untouched rfl rfl rfl rfl rfl rfl rfl rfl
        (Function.update_of_ne different _ _) rfl rfl rfl
  | countFailure =>
      obtain rfl := effect
      exact .of_untouched rfl rfl rfl rfl rfl rfl rfl rfl rfl rfl rfl rfl
  | lock =>
      obtain ⟨free, -, rfl⟩ := effect
      exact .acquire different free
  | unlock =>
      obtain rfl := effect
      refine .of_owned different allowed.1 rfl rfl rfl rfl rfl rfl
        (Function.update_of_ne different _ _) (Function.update_of_ne different _ _) ?_
      rw [World.floor, allowed.1]
      exact started
  | startSoft now =>
      obtain rfl := effect
      refine .of_owned different allowed.1 rfl rfl rfl rfl rfl
        (Function.update_of_ne different _ _) rfl rfl ?_
      have owned : (before.startSoft task now).owner = some task := allowed.1
      rw [World.floor, World.floor, allowed.1, owned]
      exact started.trans (Function.update_self task before.clock before.started).ge
  | startForced now =>
      obtain rfl := effect
      refine .of_owned different allowed.1 rfl rfl rfl rfl rfl
        (Function.update_of_ne different _ _) (Function.update_of_ne different _ _) rfl ?_
      have owned : (before.startForced task now).owner = some task := allowed.1
      rw [World.floor, World.floor, allowed.1, owned]
      exact started.trans (Function.update_self task before.clock before.started).ge
  | setForcedFailed failed =>
      obtain rfl := effect
      exact .of_owned different allowed.1 rfl rfl rfl rfl rfl rfl
        (Function.update_of_ne different _ _) rfl le_rfl
  | send url =>
      obtain rfl := effect
      exact .of_untouched rfl rfl rfl rfl rfl rfl rfl rfl rfl rfl rfl rfl
  | readBody =>
      obtain rfl := effect
      exact .of_untouched rfl rfl rfl rfl rfl rfl rfl rfl rfl rfl rfl rfl
  | install cache =>
      obtain ⟨unread, rfl⟩ := effect
      exact .install different allowed.1 unread

/-- What a task promises: the invariant, and the rely of every other task. -/
def Guarantee (origin : Int) (mayDrop : ι → World ι K → Op K → Prop) (task : ι)
    (before after : World ι K) : Prop :=
  VerifierInvariant origin mayDrop after ∧ ∀ someone, task ≠ someone → Rely someone before after

theorem guarantee_of_cancel {op : Op K} (invariant : VerifierInvariant origin mayDrop before)
    (may : mayDrop task before op) :
    Guarantee origin mayDrop task before (before.abandon task) := by
  have owner : (before.abandon task).owner = before.owner ∨
      before.owner = some task ∧ (before.abandon task).owner = none := by
    by_cases owned : before.owner = some task
    · exact Or.inr ⟨owned, if_pos owned⟩
    · exact Or.inl (if_neg owned)
  have keep : ∀ {flags : ι → Bool},
      (∀ someone, flags someone = true → before.owner = some someone) →
        ∀ someone, Function.update flags task false someone = true →
          (before.abandon task).owner = some someone := by
    intro flags only someone set
    by_cases same : someone = task
    · rw [same, Function.update_self] at set
      contradiction
    · rw [Function.update_of_ne same] at set
      have own := only someone set
      rcases owner with unchanged | ⟨owned, -⟩
      · exact unchanged.trans own
      · rw [own, Option.some.injEq] at owned
        exact absurd owned same
  constructor
  · refine { invariant with refreshing := ?_, forcing := ?_, classified := ?_ }
    · exact keep invariant.refreshing
    · exact keep invariant.forcing
    · intro spares none success
      refine invariant.classified spares ?_ success
      intro someone
      by_cases same : someone = task
      · rcases spares task before op may with idle | failed
        · rw [same, idle]
        · exact absurd (success.symm.trans failed) (by simp)
      · rw [← none someone]
        exact (Function.update_of_ne same _ _).symm
  · intro someone different
    rcases owner with unchanged | ⟨owned, gone⟩
    · exact .of_untouched rfl rfl rfl unchanged rfl rfl rfl rfl
        (Function.update_of_ne different.symm _ _) rfl (Function.update_of_ne different.symm _ _)
        rfl
    · refine .of_owned different.symm owned rfl rfl rfl
        (Function.update_of_ne different.symm _ _) rfl rfl
        (Function.update_of_ne different.symm _ _) rfl ?_
      rw [World.floor, World.floor, owned, gone]
      exact invariant.started task

/-- The discipline of a verifier whose operations and drops are limited. -/
def discipline (origin : Int) (mayPerform mayDrop : ι → World ι K → Op K → Prop) :
    Discipline (verifierMachine.restrict mayPerform mayDrop) where
  invariant := VerifierInvariant origin mayDrop
  rely := Rely
  guarantee := Guarantee origin mayDrop
  rely_refl := Rely.refl
  rely_trans := Rely.trans
  guarantee_invariant _ promised := promised.1
  guarantee_rely different _ promised := promised.2 _ different
  environment_invariant := by
    rintro before _ invariant ⟨clock, le, upper, rfl⟩
    exact (environment_keeps invariant le upper).1
  environment_rely := by
    rintro task before _ invariant ⟨clock, le, upper, rfl⟩
    exact (environment_keeps invariant le upper).2 task

/-- The rule for one operation: it is allowed whatever the others have done, and
the rest is safe whatever it is answered. -/
theorem safe_call {α : Type} {post : World ι K → α → Prop} {op : Op K}
    {next : Answer K op → KeyProgram K α}
    (allowed : ∀ before, Rely task world before → VerifierInvariant origin mayDrop before →
      Allowed origin mayDrop task before op)
    (rest : ∀ before answer after, Rely task world before → VerifierInvariant origin mayDrop before →
      mayPerform task before op → perform task before op answer after →
        (discipline origin mayPerform mayDrop).Safe task post (next answer) after) :
    (discipline origin mayPerform mayDrop).Safe task post (.call op next) world := by
  intro before moved invariant
  have allowed := allowed before moved invariant
  constructor
  · rintro answer after ⟨may, effect⟩
    refine ⟨⟨invariant_of_perform invariant allowed effect, ?_⟩,
      rest before answer after moved invariant may effect⟩
    intro someone different
    exact rely_of_perform invariant allowed different.symm effect
  · rintro after ⟨may, -, rfl⟩
    exact guarantee_of_cancel invariant may

end Discipline

end OidcExchange.Jwks
