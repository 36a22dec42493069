import OidcExchange.Jwks.Freshness
import OidcExchange.Process.Protocol

/-!
# The locks of a verifier never deadlock

Every task takes the refresh lock before the guards of the cache, never waits for
anything while it reads the cache, and gives everything back, also when it is dropped.
So whatever has happened, the tasks that are left can run to their results.
-/

namespace OidcExchange.Jwks

open OidcExchange.Process

/-- What a task holds: a read guard of the cache, the refresh lock. -/
structure Guards where
  reads : Bool
  owns : Bool
  deriving DecidableEq

def Guards.none : Guards where
  reads := false
  owns := false

/-- The order in which a task may take and leave its guards.  With a read guard it only
looks at the clock, and without the refresh lock it does not refresh. -/
def guardProtocol {K : Type} : Protocol (Op K) Guards
  | guards, .utcNow => some guards
  | ⟨false, owns⟩, .readLock => some ⟨true, owns⟩
  | ⟨true, owns⟩, .readUnlock => some ⟨false, owns⟩
  | ⟨false, false⟩, .lock => some ⟨false, true⟩
  | ⟨false, true⟩, .unlock => some ⟨false, false⟩
  | ⟨false, true⟩, .startSoft _ => some ⟨false, true⟩
  | ⟨false, true⟩, .startForced _ => some ⟨false, true⟩
  | ⟨false, true⟩, .setForcedFailed _ => some ⟨false, true⟩
  | ⟨false, true⟩, .send _ => some ⟨false, true⟩
  | ⟨false, true⟩, .readBody => some ⟨false, true⟩
  | ⟨false, true⟩, .install _ => some ⟨false, true⟩
  | ⟨false, true⟩, .countFailure => some ⟨false, true⟩
  | _, _ => Option.none

/-- The operations that wait for a guard. -/
def awaitsGuard {K : Type} : Op K → Bool
  | .readLock => true
  | .lock => true
  | .install _ => true
  | _ => false

section Programs

variable {K α : Type}

/-- The program keeps the protocol with the refresh lock in its hands. -/
abbrev KeepsLock (program : KeyProgram K α) : Prop :=
  program.Leads guardProtocol ⟨false, true⟩ ⟨false, true⟩

theorem sendOk_keepsLock (url : String) : KeepsLock (sendOk url : KeyProgram K _) := by
  refine Program.leads_call rfl fun response => ?_
  cases response with
  | none => exact Program.leads_done _
  | some response =>
      simp only [Program.bind_done]
      split
      · exact Program.leads_done _
      · exact Program.leads_done _

theorem decodeBody_keepsLock (maximum : Option Nat) (parse : List UInt8 → Option α) :
    KeepsLock (decodeBody maximum parse : KeyProgram K _) := by
  refine Program.leads_call rfl fun body => ?_
  cases body with
  | none => exact Program.leads_done _
  | some body =>
      simp only [Program.bind_done]
      split
      · exact Program.leads_done _
      · split
        · exact Program.leads_done _
        · exact Program.leads_done _

theorem fetchJson_keepsLock (uri : String) (maximum : Nat) (parse : List UInt8 → Option α) :
    KeepsLock (fetchJson uri maximum parse : KeyProgram K _) := by
  apply (sendOk_keepsLock uri).bindOk
  intro response
  split
  · exact Program.leads_done _
  · exact decodeBody_keepsLock (some maximum) parse

theorem installKeys_keepsLock (document : List (Jwk K)) : KeepsLock (installKeys document) := by
  unfold installKeys
  dsimp only
  split
  · exact Program.leads_done _
  · refine Program.leads_call rfl fun now => ?_
    exact Program.leads_call rfl fun _ => Program.leads_done _

theorem GitHubVerifier.refreshNow_keepsLock (library : JwksLibrary K) (jwksUrl : String) :
    KeepsLock (GitHubVerifier.refreshNow library jwksUrl) := by
  apply (sendOk_keepsLock jwksUrl).bindOk
  intro _
  exact (decodeBody_keepsLock none library.parseJwks).bindOk installKeys_keepsLock

theorem ProviderVerifier.refreshNow_keepsLock (library : JwksLibrary K) (issuer : String) :
    KeepsLock (ProviderVerifier.refreshNow library issuer) := by
  apply (fetchJson_keepsLock _ maxDiscoveryBytes library.parseDiscovery).bindOk
  intro discovery
  split
  · exact Program.leads_done _
  · exact (fetchJson_keepsLock _ maxJwksBytes library.parseJwks).bindOk installKeys_keepsLock

theorem GitHubVerifier.runRefresh_keepsLock (library : JwksLibrary K) (jwksUrl : String) :
    KeepsLock (GitHubVerifier.runRefresh library jwksUrl) := by
  apply (GitHubVerifier.refreshNow_keepsLock library jwksUrl).bind
  rintro (failure | _)
  · refine Program.leads_call rfl fun _ => ?_
    refine Program.leads_call rfl fun cache => ?_
    refine Program.leads_call rfl fun now => ?_
    exact Program.leads_call rfl fun _ => Program.leads_done _
  · exact Program.leads_done _

/-- The program takes guards and gives all of them back. -/
abbrev ReturnsGuards (program : KeyProgram K α) : Prop :=
  program.Leads guardProtocol .none .none

/-- The end of every refresh. -/
theorem leave_returnsGuards (result : α) :
    (unlock.bind fun _ => .done result : KeyProgram K α).Leads guardProtocol .none
      ⟨false, true⟩ :=
  Program.leads_call rfl fun _ => Program.leads_done _

theorem GitHubVerifier.warmUp_returnsGuards (library : JwksLibrary K) (jwksUrl : String) :
    ReturnsGuards (GitHubVerifier.warmUp library jwksUrl) := by
  refine Program.leads_call rfl fun _ => ?_
  apply (GitHubVerifier.runRefresh_keepsLock library jwksUrl).bind
  exact leave_returnsGuards

theorem GitHubVerifier.refreshSoftIfDue_returnsGuards (library : JwksLibrary K)
    (jwksUrl : String) : ReturnsGuards (GitHubVerifier.refreshSoftIfDue library jwksUrl) := by
  refine Program.leads_call rfl fun refresh => ?_
  refine Program.leads_call rfl fun now => ?_
  refine Program.leads_call rfl fun cache => ?_
  refine Program.leads_call rfl fun later => ?_
  refine Program.leads_call rfl fun _ => ?_
  simp only [Program.bind_done, Program.pure_eq_done, Program.monad_bind_eq_bind]
  split
  · exact leave_returnsGuards _
  · refine Program.leads_call rfl fun _ => ?_
    apply (GitHubVerifier.runRefresh_keepsLock library jwksUrl).bind
    exact leave_returnsGuards

theorem GitHubVerifier.refreshForUnknownKidIfDue_returnsGuards (library : JwksLibrary K)
    (jwksUrl kid : String) :
    ReturnsGuards (GitHubVerifier.refreshForUnknownKidIfDue library jwksUrl kid) := by
  refine Program.leads_call rfl fun refresh => ?_
  refine Program.leads_call rfl fun now => ?_
  refine Program.leads_call rfl fun cache => ?_
  refine Program.leads_call rfl fun _ => ?_
  simp only [Program.bind_done, Program.pure_eq_done, Program.monad_bind_eq_bind]
  split
  · exact leave_returnsGuards _
  · split
    · exact leave_returnsGuards _
    · refine Program.leads_call rfl fun _ => ?_
      apply (GitHubVerifier.runRefresh_keepsLock library jwksUrl).bind
      intro result
      exact Program.leads_call rfl fun _ => leave_returnsGuards result

theorem GitHubVerifier.key_returnsGuards (library : JwksLibrary K) (jwksUrl : String)
    (maxStaleness : Nat) (kid : String) :
    ReturnsGuards (GitHubVerifier.key library jwksUrl maxStaleness kid) := by
  refine Program.leads_call rfl fun cache => ?_
  refine Program.leads_call rfl fun now => ?_
  simp only [Program.bind_done, Program.pure_eq_done, Program.monad_bind_eq_bind]
  split
  · exact Program.leads_call rfl fun _ => Program.leads_done _
  · refine Program.leads_call rfl fun _ => ?_
    simp only [Program.bind_done]
    split
    · exact Program.leads_done _
    · apply (GitHubVerifier.refreshForUnknownKidIfDue_returnsGuards library jwksUrl kid).bind
      intro result
      refine Program.leads_call rfl fun cache => ?_
      refine Program.leads_call rfl fun now => ?_
      exact Program.leads_call rfl fun _ => Program.leads_done _

theorem ProviderVerifier.refreshSoftIfDue_returnsGuards (library : JwksLibrary K)
    (issuer : String) : ReturnsGuards (ProviderVerifier.refreshSoftIfDue library issuer) := by
  refine Program.leads_call rfl fun refresh => ?_
  refine Program.leads_call rfl fun now => ?_
  refine Program.leads_call rfl fun cache => ?_
  refine Program.leads_call rfl fun _ => ?_
  simp only [Program.bind_done, Program.pure_eq_done, Program.monad_bind_eq_bind]
  split
  · exact leave_returnsGuards _
  · refine Program.leads_call rfl fun _ => ?_
    apply (ProviderVerifier.refreshNow_keepsLock library issuer).bind
    exact leave_returnsGuards

theorem ProviderVerifier.refreshForUnknownKidIfDue_returnsGuards (library : JwksLibrary K)
    (issuer : String) :
    ReturnsGuards (ProviderVerifier.refreshForUnknownKidIfDue library issuer) := by
  refine Program.leads_call rfl fun refresh => ?_
  refine Program.leads_call rfl fun now => ?_
  simp only [Program.bind_done, Program.pure_eq_done, Program.monad_bind_eq_bind]
  split
  · exact leave_returnsGuards _
  · refine Program.leads_call rfl fun _ => ?_
    apply (ProviderVerifier.refreshNow_keepsLock library issuer).bind
    exact leave_returnsGuards

theorem ProviderVerifier.key_returnsGuards (library : JwksLibrary K) (issuer : String)
    (maxStaleness : Nat) (kid : String) :
    ReturnsGuards (ProviderVerifier.key library issuer maxStaleness kid) := by
  refine Program.leads_call rfl fun now => ?_
  refine Program.leads_call rfl fun cache => ?_
  simp only [Program.bind_done, Program.pure_eq_done, Program.monad_bind_eq_bind]
  split
  · exact Program.leads_call rfl fun _ => Program.leads_done _
  · refine Program.leads_call rfl fun _ => ?_
    simp only [Program.bind_done]
    split
    · exact Program.leads_done _
    · apply (ProviderVerifier.refreshForUnknownKidIfDue_returnsGuards library issuer).bindOk
      intro result
      refine Program.leads_call rfl fun cache => ?_
      refine Program.leads_call rfl fun now => ?_
      exact Program.leads_call rfl fun _ => Program.leads_done _

theorem Job.program_returnsGuards (library : JwksLibrary K) (verifier : Verifier) (job : Job) :
    ReturnsGuards (job.program library verifier) := by
  cases verifier with
  | github jwksUrl maxStaleness =>
      cases job with
      | lookup kid =>
          exact (GitHubVerifier.key_returnsGuards library jwksUrl maxStaleness kid).bindOk
            fun _ => Program.leads_done _
      | softRefresh =>
          exact (GitHubVerifier.refreshSoftIfDue_returnsGuards library jwksUrl).bindOk
            fun _ => Program.leads_done _
      | warmUp =>
          exact (GitHubVerifier.warmUp_returnsGuards library jwksUrl).bindOk
            fun _ => Program.leads_done _
  | provider issuer maxStaleness =>
      cases job with
      | lookup kid =>
          exact (ProviderVerifier.key_returnsGuards library issuer maxStaleness kid).bindOk
            fun _ => Program.leads_done _
      | softRefresh | warmUp =>
          exact (ProviderVerifier.refreshSoftIfDue_returnsGuards library issuer).bindOk
            fun _ => Program.leads_done _

end Programs

section Protocol

variable {K : Type} {guards next : Guards}

/-- The operations of a refresh that need the refresh lock. -/
def isRefreshing : Op K → Bool
  | .utcNow => false
  | .readLock => false
  | .readUnlock => false
  | .lock => false
  | .unlock => false
  | _ => true

theorem guardProtocol_readLock :
    guardProtocol guards (.readLock : Op K) = some next ↔
      guards.reads = false ∧ next = ⟨true, guards.owns⟩ := by
  rcases guards with ⟨_ | _, owns⟩
  · exact ⟨fun allowed => ⟨rfl, (Option.some.inj allowed).symm⟩,
      fun allowed => congrArg some allowed.2.symm⟩
  · exact ⟨nofun, nofun⟩

theorem guardProtocol_readUnlock :
    guardProtocol guards (.readUnlock : Op K) = some next ↔
      guards.reads = true ∧ next = ⟨false, guards.owns⟩ := by
  rcases guards with ⟨_ | _, owns⟩
  · exact ⟨nofun, nofun⟩
  · exact ⟨fun allowed => ⟨rfl, (Option.some.inj allowed).symm⟩,
      fun allowed => congrArg some allowed.2.symm⟩

theorem guardProtocol_lock :
    guardProtocol guards (.lock : Op K) = some next ↔ guards = .none ∧ next = ⟨false, true⟩ := by
  constructor
  · intro allowed
    rcases guards with ⟨_ | _, _ | _⟩
    · exact ⟨rfl, (Option.some.inj allowed).symm⟩
    all_goals cases allowed
  · rintro ⟨rfl, rfl⟩
    rfl

theorem guardProtocol_unlock :
    guardProtocol guards (.unlock : Op K) = some next ↔
      guards = ⟨false, true⟩ ∧ next = .none := by
  constructor
  · intro allowed
    rcases guards with ⟨_ | _, _ | _⟩
    · cases allowed
    · exact ⟨rfl, (Option.some.inj allowed).symm⟩
    all_goals cases allowed
  · rintro ⟨rfl, rfl⟩
    rfl

theorem guardProtocol_refreshing {op : Op K} (refreshing : isRefreshing op = true) :
    guardProtocol guards op = some next ↔ guards = ⟨false, true⟩ ∧ next = ⟨false, true⟩ := by
  constructor
  · intro allowed
    cases op with
    | utcNow | readLock | readUnlock | lock | unlock => cases refreshing
    | startSoft _ | startForced _ | setForcedFailed _ | send _ | readBody | install _
      | countFailure =>
        rcases guards with ⟨_ | _, _ | _⟩
        · cases allowed
        · exact ⟨rfl, (Option.some.inj allowed).symm⟩
        all_goals cases allowed
  · rintro ⟨rfl, rfl⟩
    cases op with
    | utcNow | readLock | readUnlock | lock | unlock => cases refreshing
    | startSoft _ | startForced _ | setForcedFailed _ | send _ | readBody | install _
      | countFailure => rfl

end Protocol

section Machine

variable {ι K : Type} [DecidableEq ι] {before after : World ι K} {task other : ι}

/-- What the task holds. -/
def World.guards (world : World ι K) (task : ι) : Guards where
  reads := world.readers task
  owns := decide (world.owner = some task)

theorem owner_eq_some_of_guards {world : World ι K} {reads : Bool}
    (held : world.guards task = ⟨reads, true⟩) : world.owner = some task :=
  of_decide_eq_true (congrArg Guards.owns held)

theorem owner_ne_some_of_guards {world : World ι K} {reads : Bool}
    (held : world.guards task = ⟨reads, false⟩) : world.owner ≠ some task :=
  of_decide_eq_false (congrArg Guards.owns held)

theorem guards_setReader (world : World ι K) (task : ι) (reads : Bool) :
    (world.setReader task reads).guards task = ⟨reads, (world.guards task).owns⟩ := by
  rw [World.guards, World.setReader_readers]
  rfl

theorem guards_setReader_of_ne (world : World ι K) (reads : Bool) (different : other ≠ task) :
    (world.setReader task reads).guards other = world.guards other := by
  rw [World.guards, World.guards, Guards.mk.injEq]
  exact ⟨Function.update_of_ne different _ _, rfl⟩

theorem guards_acquire {world : World ι K} (reads : world.readers task = false) :
    (world.acquire task).guards task = ⟨false, true⟩ := by
  simp [World.guards, World.acquire, reads]

theorem guards_acquire_of_ne {world : World ι K} (free : world.owner = none)
    (different : other ≠ task) : (world.acquire task).guards other = world.guards other := by
  simp [World.guards, World.acquire, free, different.symm]

theorem guards_release {world : World ι K} (reads : world.readers task = false) :
    (world.release task).guards task = .none := by
  simp [World.guards, World.release, reads, Guards.none]

theorem guards_release_of_ne {world : World ι K} (owned : world.owner = some task)
    (different : other ≠ task) : (world.release task).guards other = world.guards other := by
  simp [World.guards, World.release, owned, different.symm]

theorem guards_abandon (world : World ι K) (task : ι) :
    (world.abandon task).guards task = .none := by
  by_cases owned : world.owner = some task
  · simp [World.guards, World.abandon, owned, Guards.none]
  · simp [World.guards, World.abandon, owned, Guards.none]

theorem guards_abandon_of_ne (world : World ι K) (different : other ≠ task) :
    (world.abandon task).guards other = world.guards other := by
  by_cases owned : world.owner = some task
  · simp [World.guards, World.abandon, owned, different, different.symm]
  · simp [World.guards, World.abandon, owned, different]

/-- The world tells which guards a task holds, and a dropped task holds none. -/
theorem verifierMachine_tracks :
    Tracks (verifierMachine : Machine ι (Answer K) (World ι K)) guardProtocol .none
      World.guards where
  perform := by
    intro task before op answer after next effect allowed
    cases op with
    | utcNow =>
        obtain ⟨-, rfl⟩ := effect
        cases allowed
        exact ⟨rfl, fun _ _ => rfl⟩
    | readLock =>
        obtain ⟨-, rfl⟩ := effect
        rcases guardProtocol_readLock.mp allowed with ⟨-, rfl⟩
        exact ⟨guards_setReader before task true,
          fun _ different => guards_setReader_of_ne before true different⟩
    | readUnlock =>
        obtain rfl := effect
        rcases guardProtocol_readUnlock.mp allowed with ⟨-, rfl⟩
        exact ⟨guards_setReader before task false,
          fun _ different => guards_setReader_of_ne before false different⟩
    | lock =>
        obtain ⟨free, -, rfl⟩ := effect
        rcases guardProtocol_lock.mp allowed with ⟨held, rfl⟩
        exact ⟨guards_acquire (congrArg Guards.reads held),
          fun _ different => guards_acquire_of_ne free different⟩
    | unlock =>
        obtain rfl := effect
        rcases guardProtocol_unlock.mp allowed with ⟨held, rfl⟩
        exact ⟨guards_release (congrArg Guards.reads held),
          fun _ different => guards_release_of_ne (owner_eq_some_of_guards held) different⟩
    | startSoft now | startForced now | setForcedFailed failed | send url | readBody
      | countFailure =>
        obtain rfl := effect
        rcases (guardProtocol_refreshing rfl).mp allowed with ⟨held, rfl⟩
        exact ⟨held, fun _ _ => rfl⟩
    | install cache =>
        obtain ⟨-, rfl⟩ := effect
        rcases (guardProtocol_refreshing rfl).mp allowed with ⟨held, rfl⟩
        exact ⟨held, fun _ _ => rfl⟩
  cancel := by
    rintro task before op after ⟨-, rfl⟩
    exact ⟨guards_abandon before task, fun _ different => guards_abandon_of_ne before different⟩
  environment := by
    rintro before after ⟨clock, -, -, rfl⟩ task
    rfl

/-- An operation that the protocol allows can be performed, unless another task holds a
guard that it waits for. -/
theorem performs_or_blocked {world : World ι K} {op : Op K} {next : Guards}
    (allowed : guardProtocol (world.guards task) op = some next) :
    (∃ answer after, perform task world op answer after) ∨
      (op = .lock ∧ ∃ owner, owner ≠ task ∧ (world.guards owner).owns = true) ∨
      ((world.guards task) = ⟨false, true⟩ ∧ ∃ reader, (world.guards reader).reads = true) := by
  cases op with
  | utcNow | readLock => exact Or.inl ⟨_, _, rfl, rfl⟩
  | readUnlock | unlock | startSoft now | startForced now | setForcedFailed failed
    | countFailure => exact Or.inl ⟨(), _, rfl⟩
  | send url | readBody => exact Or.inl ⟨none, _, rfl⟩
  | lock =>
      cases owned : world.owner with
      | none => exact Or.inl ⟨_, _, owned, rfl, rfl⟩
      | some owner =>
          refine Or.inr (Or.inl ⟨rfl, owner, ?_, decide_eq_true owned⟩)
          rintro rfl
          have idle := (guardProtocol_lock.mp allowed).1
          exact owner_ne_some_of_guards idle owned
  | install cache =>
      by_cases free : ∀ reader, world.readers reader = false
      · exact Or.inl ⟨(), _, free, rfl⟩
      · rcases not_forall.mp free with ⟨reader, reads⟩
        exact Or.inr (Or.inr ⟨((guardProtocol_refreshing rfl).mp allowed).1, reader,
          Bool.not_eq_false _ ▸ reads⟩)

end Machine

section Runs

variable {ι K : Type} [DecidableEq ι] {library : JwksLibrary K} {verifier : Verifier}
  {jobs : ι → Job} {clock : Int}
  {config : Config ι (Answer K) (World ι K) (Except VerifyError (Option K))}

theorem onTrack_of_reached (reached : Reached library verifier jobs clock config) :
    OnTrack guardProtocol .none World.guards config := by
  have start : OnTrack guardProtocol .none (World.guards (K := K))
      (.initial (.start clock) fun task => (jobs task).program library verifier) :=
    .initial (fun _ => rfl) fun task => (jobs task).program_returnsGuards library verifier
  exact start.steps verifierMachine_tracks reached

/-- A task that holds a guard is running. -/
theorem exists_call_of_guards (onTrack : OnTrack guardProtocol .none World.guards config) {task : ι}
    (held : config.shared.guards task ≠ .none) :
    ∃ op next after, config.tasks task = some (.call op next) ∧
      guardProtocol (config.shared.guards task) op = some after := by
  cases present : config.tasks task with
  | none => exact absurd (onTrack.dropped task present) held
  | some program =>
      have leads := onTrack.running task program present
      cases program with
      | done result => exact absurd leads held
      | call op next =>
          rcases leads with ⟨after, allowed, -⟩
          exact ⟨op, next, after, rfl, allowed⟩

/-- A task that reads the cache can move. -/
theorem reader_moves (onTrack : OnTrack guardProtocol .none World.guards config)
    {reader : ι} (reads : (config.shared.guards reader).reads = true) :
    ∃ op next answer after, config.tasks reader = some (.call op next) ∧
      perform reader config.shared op answer after := by
  have held : config.shared.guards reader ≠ .none := by
    intro idle
    rw [idle] at reads
    contradiction
  rcases exists_call_of_guards onTrack held with ⟨op, next, state, present, allowed⟩
  refine ⟨op, next, ?_⟩
  rcases performs_or_blocked allowed with ⟨answer, after, effect⟩ | ⟨rfl, -⟩ | ⟨owns, -⟩
  · exact ⟨answer, after, present, effect⟩
  · exact absurd (guardProtocol_lock.mp allowed).1 held
  · rw [owns] at reads
    contradiction

/-- The owner of the refresh lock can move, or a reader of the cache can. -/
theorem owner_moves (onTrack : OnTrack guardProtocol .none World.guards config)
    {owner : ι} (owns : (config.shared.guards owner).owns = true) :
    ∃ mover op next answer after, config.tasks mover = some (.call op next) ∧
      perform mover config.shared op answer after := by
  have held : config.shared.guards owner ≠ .none := by
    intro idle
    rw [idle] at owns
    contradiction
  rcases exists_call_of_guards onTrack held with ⟨op, next, state, present, allowed⟩
  rcases performs_or_blocked allowed with ⟨answer, after, effect⟩ | ⟨rfl, -⟩ | ⟨-, reader, reads⟩
  · exact ⟨owner, op, next, answer, after, present, effect⟩
  · exact absurd (guardProtocol_lock.mp allowed).1 held
  · exact ⟨reader, reader_moves onTrack reads⟩

/-- As long as a task is running, some task can move. -/
theorem exists_perform (onTrack : OnTrack guardProtocol .none World.guards config) {task : ι}
    {op : Op K} {next : Answer K op → KeyProgram K (Except VerifyError (Option K))}
    (running : config.tasks task = some (.call op next)) :
    ∃ mover op next answer after, config.tasks mover = some (.call op next) ∧
      perform mover config.shared op answer after := by
  rcases onTrack.running task _ running with ⟨state, allowed, -⟩
  rcases performs_or_blocked allowed with
    ⟨answer, after, effect⟩ | ⟨-, owner, -, owns⟩ | ⟨-, reader, reads⟩
  · exact ⟨task, op, next, answer, after, running, effect⟩
  · exact owner_moves onTrack owns
  · exact ⟨reader, reader_moves onTrack reads⟩

/-- **The locks of a verifier never deadlock.**  No task waits for a guard while it reads
the cache, nor for the refresh lock while it owns it; whatever has been dropped and
answered so far, the tasks that are left can all return, and then every guard is free. -/
theorem never_deadlocks [Finite ι] (reached : Reached library verifier jobs clock config) :
    (∀ task op next, config.tasks task = some (.call op next) → awaitsGuard op = true →
      config.shared.readers task = false ∧ (op = .lock → config.shared.owner ≠ some task)) ∧
    ∃ target, Steps verifierMachine config target ∧ AllReturned config target ∧
      target.shared.owner = none ∧ ∀ task, target.shared.readers task = false := by
  have onTrack := onTrack_of_reached reached
  constructor
  · intro task op next running waits
    rcases onTrack.running task _ running with ⟨state, allowed, -⟩
    cases op with
    | readLock =>
        exact ⟨(guardProtocol_readLock.mp allowed).1, nofun⟩
    | lock =>
        have idle := (guardProtocol_lock.mp allowed).1
        exact ⟨congrArg Guards.reads idle, fun _ => owner_ne_some_of_guards idle⟩
    | install cache =>
        have held := ((guardProtocol_refreshing rfl).mp allowed).1
        exact ⟨congrArg Guards.reads held, nofun⟩
    | _ => contradiction
  · rcases exists_completion (fun held step => OnTrack.step verifierMachine_tracks held step)
      (fun held running => exists_perform held running) onTrack with
      ⟨target, run, finished, returned⟩
    have idle : ∀ task, target.shared.guards task = .none := by
      intro task
      by_contra held
      rcases exists_call_of_guards finished held with ⟨op, next, after, running, -⟩
      exact returned.idle task op next running
    refine ⟨target, run, returned, ?_, fun task => congrArg Guards.reads (idle task)⟩
    cases owned : target.shared.owner with
    | none => rfl
    | some owner => exact absurd owned (owner_ne_some_of_guards (idle owner))

end Runs

/-- A soft refresh is dropped while it awaits the response; the lookup still returns. -/
theorem never_deadlocks_sample :
    ∃ config target, Reached sampleLibrary (.github "https://keys.example.com" 600)
        (fun task : Bool => if task then .lookup "key" else .softRefresh) 1000 config ∧
      config.tasks false = none ∧ Steps verifierMachine config target ∧
      (∃ result, target.tasks true = some (.done result)) ∧ target.shared.owner = none := by
  have run : ∃ config, Reached sampleLibrary (.github "https://keys.example.com" 600)
        (fun task : Bool => if task then .lookup "key" else .softRefresh) 1000 config ∧
      config.tasks false = none ∧ config.tasks true ≠ none := by
    refine Steps.reach_perform false rfl _ ⟨rfl, rfl, rfl⟩ ?_
    refine Steps.reach_perform false rfl (1000 : Int) ⟨rfl, rfl⟩ ?_
    refine Steps.reach_perform false rfl _ ⟨rfl, rfl⟩ ?_
    refine Steps.reach_perform false rfl (1000 : Int) ⟨rfl, rfl⟩ ?_
    refine Steps.reach_perform false rfl () rfl ?_
    refine Steps.reach_perform false rfl () rfl ?_
    refine Steps.reach_cancel false rfl ⟨rfl, rfl⟩ ?_
    exact ⟨_, .refl _, rfl, nofun⟩
  rcases run with ⟨config, reached, dropped, running⟩
  rcases (never_deadlocks reached).2 with ⟨target, rest, returned, free, -⟩
  exact ⟨config, target, reached, dropped, rest, returned.returned true running, free⟩

end OidcExchange.Jwks
