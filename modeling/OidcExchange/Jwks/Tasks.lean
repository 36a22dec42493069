import OidcExchange.Jwks.Invariant

/-!
# Lookups and refreshes keep the discipline

The specifications follow the programs of `Jwks.Lookup`.  A refresh runs while
its task owns the refresh lock; the facts that survive it are those that do not
depend on the cache.
-/

namespace OidcExchange.Jwks

open OidcExchange.Process

variable {ι K : Type}

/-- What does not change while a task owns the refresh lock, except by the marks
that it sets itself. -/
structure Tenure (task : ι) (before after : World ι K) : Prop where
  clock : before.clock ≤ after.clock
  owner : before.owner = some task → after.owner = some task
  refresh : before.owner = some task → after.refresh = before.refresh
  softStarts : before.owner = some task → after.softStarts = before.softStarts
  forcedStarts : before.owner = some task → after.forcedStarts = before.forcedStarts
  started : after.started task = before.started task
  forcing : after.forcing task = before.forcing task
  grown : ∀ install ∈ before.installs, install ∈ after.installs

/-- A fact that lasts while the task owns the refresh lock. -/
def Lasting (task : ι) (fact : World ι K → Prop) : Prop :=
  (∀ world, fact world → world.owner = some task) ∧
    ∀ before after, Tenure task before after → fact before → fact after

variable {task : ι} {before after world : World ι K}

theorem Rely.tenure (moved : Rely task before after) : Tenure task before after := by
  refine ⟨moved.clock, moved.owner, moved.refresh, moved.softStarts, moved.forcedStarts,
    moved.started, moved.forcing, ?_⟩
  intro install member
  rcases moved.grown with ⟨newer, grown, -⟩
  rw [grown]
  exact List.mem_append_right newer member

/-- The task owns the refresh lock with these marks and no refresh of its own. -/
def Locked (task : ι) (refresh : RefreshState) (world : World ι K) : Prop :=
  world.owner = some task ∧ world.refresh = refresh ∧ world.forcing task = false

/-- The reading `now` was taken after all attempts so far. -/
def Timed (origin now : Int) (world : World ι K) : Prop :=
  now ≤ world.clock ∧ origin ≤ now ∧ (∀ start ∈ world.softStarts, start ≤ now) ∧
    ∀ start ∈ world.forcedStarts, start ≤ now

/-- The task is in a forced refresh that started at its mark. -/
def Forced (task : ι) (world : World ι K) : Prop :=
  world.owner = some task ∧ world.refresh.lastForcedAttempt ≤ world.started task

/-- The current refresh of the task has installed a key set. -/
def Fetched (task : ι) (world : World ι K) : Prop :=
  ∃ install ∈ world.installs, install.startedAt = world.started task

theorem lasting_locked {refresh : RefreshState} :
    Lasting task (Locked (K := K) task refresh) := by
  refine ⟨fun world locked => locked.1, ?_⟩
  rintro before after moved ⟨owned, marks, idle⟩
  exact ⟨moved.owner owned, (moved.refresh owned).trans marks, moved.forcing.trans idle⟩

theorem lasting_forced : Lasting task (Forced (K := K) task) := by
  refine ⟨fun world forced => forced.1, ?_⟩
  rintro before after moved ⟨owned, le⟩
  refine ⟨moved.owner owned, ?_⟩
  rw [moved.refresh owned, moved.started]
  exact le

/-- The task owns the refresh lock and has recorded its outcome. -/
def Holding (task : ι) (world : World ι K) : Prop :=
  world.owner = some task ∧ world.forcing task = false

theorem lasting_holding : Lasting task (Holding (K := K) task) := by
  refine ⟨fun world holding => holding.1, ?_⟩
  rintro before after moved ⟨owned, idle⟩
  exact ⟨moved.owner owned, moved.forcing.trans idle⟩

theorem Lasting.and_timed {fact : World ι K → Prop} (lasting : Lasting task fact)
    (origin now : Int) :
    Lasting task fun world => fact world ∧ Timed origin now world := by
  refine ⟨fun world known => lasting.1 world known.1, ?_⟩
  rintro before after moved ⟨known, le, since, soft, forced⟩
  have owned := lasting.1 before known
  refine ⟨lasting.2 before after moved known, le.trans moved.clock, since, ?_, ?_⟩
  · rwa [moved.softStarts owned]
  · rwa [moved.forcedStarts owned]

theorem Fetched.tenure (moved : Tenure task before after) (fetched : Fetched task before) :
    Fetched task after := by
  rcases fetched with ⟨install, member, startedAt⟩
  exact ⟨install, moved.grown install member, startedAt.trans moved.started.symm⟩

/-- Some fetch that started at or after the last forced attempt has succeeded. -/
def FetchedSinceMark (world : World ι K) : Prop :=
  ∃ install ∈ world.installs, world.refresh.lastForcedAttempt ≤ install.startedAt

/-- Some fetch that started at or after the attempt that the task saw last has
succeeded. -/
def FetchedSince (task : ι) (world : World ι K) : Prop :=
  ∃ install ∈ world.installs, ∀ attempt, world.mark task = some attempt →
    attempt ≤ install.startedAt

/-- The task may report that `kid` is unknown unless the cache holds it: either
the fetch it relies on has succeeded, or any fetch that changes the cache will do. -/
def Backed (task : ι) (kid : String) (world : World ι K) : Prop :=
  FetchedSince task world ∨
    (∀ attempt, world.mark task = some attempt → attempt ≤ world.floor) ∧
      kid ∈ world.cache.keys

theorem Backed.rely {kid : String} (backed : Backed task kid before)
    (moved : Rely task before after) : Backed task kid after := by
  rcases moved.grown with ⟨newer, grown, same, later⟩
  rcases backed with ⟨install, member, le⟩ | ⟨le, present⟩
  · refine Or.inl ⟨install, ?_, ?_⟩
    · rw [grown]
      exact List.mem_append_right newer member
    · rwa [moved.mark]
  · cases newer with
    | nil =>
        refine Or.inr ⟨?_, ?_⟩
        · intro attempt marked
          rw [moved.mark] at marked
          exact (le attempt marked).trans moved.floor
        · rw [same rfl]
          exact present
    | cons install newer =>
        refine Or.inl ⟨install, ?_, ?_⟩
        · rw [grown]
          exact List.mem_cons_self
        · intro attempt marked
          rw [moved.mark] at marked
          exact (le attempt marked).trans (later install List.mem_cons_self)

theorem lasting_recorded (result : Except VerifyError Unit) :
    Lasting task fun world : World ι K =>
      Holding task world ∧ (result = .ok () → FetchedSinceMark world) := by
  refine ⟨fun world known => known.1.1, ?_⟩
  rintro before after moved ⟨holding, fetched⟩
  refine ⟨lasting_holding.2 before after moved holding, ?_⟩
  intro ok
  rcases fetched ok with ⟨install, member, le⟩
  refine ⟨install, moved.grown install member, ?_⟩
  rwa [moved.refresh holding.1]

section Specifications

variable [DecidableEq ι] {origin : Int} {mayPerform mayDrop : ι → World ι K → Op K → Prop}
  {α β : Type}
  {fact : World ι K → Prop} {post : World ι K → α → Prop}

/-- The operations of a refresh that neither set a mark nor move the lock. -/
def isPlain : Op K → Bool
  | .utcNow => true
  | .readLock => true
  | .readUnlock => true
  | .send _ => true
  | .readBody => true
  | .install _ => true
  | .countFailure => true
  | _ => false

theorem tenure_of_perform {op : Op K} {answer : Answer K op} (plain : isPlain op = true)
    (effect : perform task before op answer after) : Tenure task before after := by
  cases op with
  | utcNow =>
      obtain ⟨-, rfl⟩ := effect
      exact ⟨le_rfl, id, fun _ => rfl, fun _ => rfl, fun _ => rfl, rfl, rfl, fun _ => id⟩
  | readLock =>
      obtain ⟨-, rfl⟩ := effect
      exact ⟨le_rfl, id, fun _ => rfl, fun _ => rfl, fun _ => rfl, rfl, rfl, fun _ => id⟩
  | readUnlock =>
      obtain rfl := effect
      exact ⟨le_rfl, id, fun _ => rfl, fun _ => rfl, fun _ => rfl, rfl, rfl, fun _ => id⟩
  | send url =>
      obtain rfl := effect
      exact ⟨le_rfl, id, fun _ => rfl, fun _ => rfl, fun _ => rfl, rfl, rfl, fun _ => id⟩
  | readBody =>
      obtain rfl := effect
      exact ⟨le_rfl, id, fun _ => rfl, fun _ => rfl, fun _ => rfl, rfl, rfl, fun _ => id⟩
  | install cache =>
      obtain ⟨-, rfl⟩ := effect
      exact ⟨le_rfl, id, fun _ => rfl, fun _ => rfl, fun _ => rfl, rfl, rfl,
        fun _ => List.mem_cons_of_mem _⟩
  | countFailure =>
      obtain rfl := effect
      exact ⟨le_rfl, id, fun _ => rfl, fun _ => rfl, fun _ => rfl, rfl, rfl, fun _ => id⟩
  | _ => contradiction

/-- The rule for an operation of a refresh. -/
theorem safe_plain (op : Op K) {next : Answer K op → KeyProgram K α}
    (plain : isPlain op = true) (lasting : Lasting task fact) (holds : fact world)
    (allowed : ∀ before, world.clock ≤ before.clock → VerifierInvariant origin mayDrop before →
      before.owner = some task → Allowed origin mayDrop task before op)
    (rest : ∀ before answer after, fact after → VerifierInvariant origin mayDrop before →
      perform task before op answer after →
        (discipline origin mayPerform mayDrop).Safe task post (next answer) after) :
    (discipline origin mayPerform mayDrop).Safe task post (.call op next) world := by
  apply safe_call
  · intro before moved invariant
    exact allowed before moved.clock invariant
      (lasting.1 before (lasting.2 world before moved.tenure holds))
  · intro before answer after moved invariant _ effect
    apply rest before answer after _ invariant effect
    exact lasting.2 before after (tenure_of_perform plain effect)
      (lasting.2 world before moved.tenure holds)

theorem sendOk_safe (url : String) (lasting : Lasting task fact) (holds : fact world) :
    (discipline origin mayPerform mayDrop).Safe task
      (fun world result => fact world ∧ result ≠ .error .invalid)
      (sendOk url : KeyProgram K _) world := by
  apply safe_plain (.send url) rfl lasting holds (fun _ _ _ owned => owned)
  rintro before (_ | response) after holds - -
  · exact ⟨holds, by simp⟩
  · simp only [Program.bind_done]
    split
    · exact ⟨holds, by simp⟩
    · exact ⟨holds, by simp⟩

theorem decodeBody_safe (maximum : Option Nat) (parse : List UInt8 → Option β)
    (lasting : Lasting task fact) (holds : fact world) :
    (discipline origin mayPerform mayDrop).Safe task
      (fun world result => fact world ∧ result ≠ .error .invalid)
      (decodeBody maximum parse : KeyProgram K _) world := by
  apply safe_plain .readBody rfl lasting holds (fun _ _ _ owned => owned)
  rintro before (_ | body) after holds - -
  · exact ⟨holds, by simp⟩
  · simp only [Program.bind_done]
    split
    · exact ⟨holds, by simp⟩
    · split
      · exact ⟨holds, by simp⟩
      · exact ⟨holds, by simp⟩

/-- The new key set is installed under the lock, and it is not empty. -/
theorem installKeys_safe (document : List (Jwk K)) (lasting : Lasting task fact)
    (holds : fact world) :
    (discipline origin mayPerform mayDrop).Safe task
      (fun world result => fact world ∧ (result = .ok () → Fetched task world) ∧
        result ≠ .error .invalid)
      (installKeys document) world := by
  unfold installKeys
  by_cases empty : (usableKeys document).entries.isEmpty = true
  · simp only [empty, ↓reduceIte]
    exact ⟨holds, by simp, by simp⟩
  · simp only [empty, Bool.false_eq_true, ↓reduceIte]
    apply safe_plain .utcNow rfl lasting holds (fun _ _ _ _ => trivial)
    rintro before now after holds invariant ⟨nowEq, -⟩
    have nowEq : now = before.clock := nowEq
    apply safe_plain (.install ⟨usableKeys document, now⟩) rfl lasting holds
    · intro before' _ _ owned
      rw [Bool.not_eq_true] at empty
      refine ⟨owned, empty, ?_⟩
      rw [nowEq]
      exact invariant.originRange.trans invariant.clockLower
    · rintro before' - after' holds - ⟨-, rfl⟩
      exact ⟨holds, fun _ => ⟨_, List.mem_cons_self, rfl⟩, by simp⟩

theorem fetchJson_safe (uri : String) (maximum : Nat) (parse : List UInt8 → Option β)
    (lasting : Lasting task fact) (holds : fact world) :
    (discipline origin mayPerform mayDrop).Safe task (fun world _ => fact world)
      (fetchJson uri maximum parse : KeyProgram K _) world := by
  apply (sendOk_safe uri lasting holds).bindOk
  · intro world failure holds
    exact holds.1
  rintro world response ⟨holds, -⟩
  split
  · exact holds
  · apply (decodeBody_safe (some maximum) parse lasting holds).mono
    intro world result holds
    exact holds.1

theorem GitHubVerifier.refreshNow_safe (library : JwksLibrary K) (jwksUrl : String)
    (lasting : Lasting task fact) (holds : fact world) :
    (discipline origin mayPerform mayDrop).Safe task
      (fun world result => fact world ∧ (result = .ok () → Fetched task world) ∧
        result ≠ .error .invalid)
      (GitHubVerifier.refreshNow library jwksUrl) world := by
  apply (sendOk_safe jwksUrl lasting holds).bindOk
  · rintro world failure ⟨holds, valid⟩
    exact ⟨holds, by simp, by simpa using valid⟩
  rintro world _ ⟨holds, -⟩
  apply (decodeBody_safe none library.parseJwks lasting holds).bindOk
  · rintro world failure ⟨holds, valid⟩
    exact ⟨holds, by simp, by simpa using valid⟩
  rintro world document ⟨holds, -⟩
  exact installKeys_safe document lasting holds

theorem ProviderVerifier.refreshNow_safe (library : JwksLibrary K) (issuer : String)
    (lasting : Lasting task fact) (holds : fact world) :
    (discipline origin mayPerform mayDrop).Safe task
      (fun world result => fact world ∧ (result = .ok () → Fetched task world))
      (ProviderVerifier.refreshNow library issuer) world := by
  apply (fetchJson_safe _ maxDiscoveryBytes library.parseDiscovery lasting holds).bindOk
  · intro world failure holds
    exact ⟨holds, by simp⟩
  intro world discovery holds
  split
  · exact ⟨holds, by simp⟩
  apply (fetchJson_safe _ maxJwksBytes library.parseJwks lasting holds).bindOk
  · intro world failure holds
    exact ⟨holds, by simp⟩
  intro world document holds
  apply (installKeys_safe document lasting holds).mono
  rintro world result ⟨holds, fetched, -⟩
  exact ⟨holds, fetched⟩

theorem GitHubVerifier.cacheAge_safe (lasting : Lasting task fact) (holds : fact world) :
    (discipline origin mayPerform mayDrop).Safe task (fun world _ => fact world)
      (GitHubVerifier.cacheAge : KeyProgram K _) world := by
  apply safe_plain .readLock rfl lasting holds (fun _ _ _ _ => trivial)
  intro _ cache _ holds _ _
  apply safe_plain .utcNow rfl lasting holds (fun _ _ _ _ => trivial)
  intro _ now _ holds _ _
  apply safe_plain .readUnlock rfl lasting holds (fun _ _ _ _ => trivial)
  intro _ _ _ holds _ _
  exact holds

theorem GitHubVerifier.runRefresh_safe (library : JwksLibrary K) (jwksUrl : String)
    (lasting : Lasting task fact) (holds : fact world) :
    (discipline origin mayPerform mayDrop).Safe task
      (fun world result => fact world ∧ (result = .ok () → Fetched task world) ∧
        result ≠ .error .invalid)
      (GitHubVerifier.runRefresh library jwksUrl) world := by
  apply (GitHubVerifier.refreshNow_safe library jwksUrl lasting holds).bind
  rintro world (failure | _) ⟨holds, fetched, valid⟩
  · apply safe_plain .countFailure rfl lasting holds (fun _ _ _ _ => trivial)
    intro _ _ world holds _ _
    simp only [Program.bind_done, Program.monad_bind_eq_bind, Program.bind_assoc]
    apply (GitHubVerifier.cacheAge_safe lasting holds).bind
    intro world _ holds
    exact ⟨holds, by simp, by simpa using valid⟩
  · exact ⟨holds, fetched, by simp⟩

/-- The rule for obtaining the refresh lock. -/
theorem safe_lock {next : RefreshState → KeyProgram K α}
    (rest : ∀ before after, mayPerform task before .lock → before.owner = none →
      after = before.acquire task → Locked task before.refresh after →
        (discipline origin mayPerform mayDrop).Safe task post (next before.refresh) after) :
    (discipline origin mayPerform mayDrop).Safe task post (.call .lock next) world := by
  apply safe_call
  · intro before _ _
    exact trivial
  rintro before _ after - - may ⟨free, rfl, rfl⟩
  exact rest before _ may free rfl ⟨rfl, rfl, Function.update_self _ _ _⟩

/-- The rule for a clock reading under the lock. -/
theorem safe_clock {next : Int → KeyProgram K α} (lasting : Lasting task fact)
    (holds : fact world)
    (rest : ∀ now after, fact after ∧ Timed origin now after →
      (discipline origin mayPerform mayDrop).Safe task post (next now) after) :
    (discipline origin mayPerform mayDrop).Safe task post (.call .utcNow next) world := by
  apply safe_plain .utcNow rfl lasting holds (fun _ _ _ _ => trivial)
  rintro before _ after holds invariant ⟨rfl, rfl⟩
  exact rest _ _ ⟨holds, le_rfl, invariant.clockLower, invariant.soft.past, invariant.forced.past⟩

/-- The rule for releasing the lock. -/
theorem safe_unlock {next : Unit → KeyProgram K α} (lasting : Lasting task fact)
    (holds : fact world)
    (recorded : ∀ world, fact world → SparesForced mayDrop → world.forcing task = false)
    (rest : ∀ before, fact before → VerifierInvariant origin mayDrop before →
      (discipline origin mayPerform mayDrop).Safe task post (next ()) (before.release task)) :
    (discipline origin mayPerform mayDrop).Safe task post (.call .unlock next) world := by
  apply safe_call
  · intro before moved _
    have holds := lasting.2 world before moved.tenure holds
    exact ⟨lasting.1 before holds, recorded before holds⟩
  rintro before _ after moved invariant - rfl
  exact rest before (lasting.2 world before moved.tenure holds) invariant

/-- The end of a task that only refreshes. -/
theorem finish_safe {result : Except VerifyError Unit} (holding : Holding task world) :
    (discipline origin mayPerform mayDrop).Safe task (fun _ _ => True)
      (unlock.bind fun _ => .done result : KeyProgram K (Except VerifyError Unit)) world := by
  apply safe_unlock lasting_holding holding (fun _ holding _ => holding.2)
  intro before _ _
  exact trivial

theorem GitHubVerifier.warmUp_safe (library : JwksLibrary K) (jwksUrl : String) :
    (discipline origin mayPerform mayDrop).Safe task (fun _ _ => True)
      (GitHubVerifier.warmUp library jwksUrl) world := by
  apply safe_lock
  rintro before after - - - ⟨owned, -, idle⟩
  apply (GitHubVerifier.runRefresh_safe library jwksUrl lasting_holding ⟨owned, idle⟩).bind
  rintro world result ⟨holding, -⟩
  exact finish_safe holding

/-- The rule for the start of a soft refresh. -/
theorem safe_startSoft {next : Unit → KeyProgram K α} {refresh : RefreshState} {now : Int}
    (locked : Locked task refresh world ∧ Timed origin now world)
    (due : attemptedRecently refresh.lastSoftAttempt now = false)
    (rest : ∀ after, Holding task after →
      (discipline origin mayPerform mayDrop).Safe task post (next ()) after) :
    (discipline origin mayPerform mayDrop).Safe task post (.call (.startSoft now) next) world := by
  have locking : Lasting task (Locked (K := K) task refresh) := lasting_locked
  have lasting := locking.and_timed origin now
  apply safe_call
  · intro before moved _
    rcases lasting.2 world before moved.tenure locked with ⟨⟨owned, marks, -⟩, le, since, soft, -⟩
    exact ⟨owned, le, since, soft, by rw [marks, due]⟩
  rintro before _ after moved - - rfl
  rcases lasting.2 world before moved.tenure locked with ⟨⟨owned, -, idle⟩, -⟩
  exact rest _ ⟨owned, idle⟩

theorem GitHubVerifier.refreshSoftIfDue_safe (library : JwksLibrary K) (jwksUrl : String) :
    (discipline origin mayPerform mayDrop).Safe task (fun _ _ => True)
      (GitHubVerifier.refreshSoftIfDue library jwksUrl) world := by
  apply safe_lock
  intro before after _ _ _ locked
  apply safe_clock lasting_locked locked
  intro now world locked
  apply (GitHubVerifier.cacheAge_safe (lasting_locked.and_timed origin now) locked).bind
  intro world age locked
  by_cases skipped : age < jwksSoftRefreshSeconds ∨
      attemptedRecently before.refresh.lastSoftAttempt now = true
  · simp only [skipped, ↓reduceIte]
    exact finish_safe ⟨locked.1.1, locked.1.2.2⟩
  · simp only [skipped, ↓reduceIte]
    rw [not_or, Bool.not_eq_true] at skipped
    apply safe_startSoft locked skipped.2
    intro world holding
    apply (GitHubVerifier.runRefresh_safe library jwksUrl lasting_holding holding).bind
    rintro world result ⟨holding, -⟩
    exact finish_safe holding

theorem ProviderVerifier.refreshSoftIfDue_safe (library : JwksLibrary K) (issuer : String) :
    (discipline origin mayPerform mayDrop).Safe task (fun _ _ => True)
      (ProviderVerifier.refreshSoftIfDue library issuer) world := by
  apply safe_lock
  intro before after _ _ _ locked
  apply safe_clock lasting_locked locked
  intro now world locked
  apply safe_plain .readLock rfl (lasting_locked.and_timed origin now) locked
    (fun _ _ _ _ => trivial)
  intro _ cache world locked _ _
  apply safe_plain .readUnlock rfl (lasting_locked.and_timed origin now) locked
    (fun _ _ _ _ => trivial)
  intro _ _ world locked _ _
  simp only [Program.bind_done]
  by_cases skipped : cacheAgeSeconds cache.fetchedAt now < jwksSoftRefreshSeconds ∨
      attemptedRecently before.refresh.lastSoftAttempt now = true
  · simp only [skipped, ↓reduceIte]
    exact finish_safe ⟨locked.1.1, locked.1.2.2⟩
  · simp only [skipped, ↓reduceIte]
    rw [not_or, Bool.not_eq_true] at skipped
    apply safe_startSoft locked skipped.2
    intro world holding
    apply (ProviderVerifier.refreshNow_safe library issuer lasting_holding holding).bind
    rintro world result ⟨holding, -⟩
    exact finish_safe holding

/-- The rule for the start of a forced refresh. -/
theorem safe_startForced {next : Unit → KeyProgram K α} {refresh : RefreshState} {now : Int}
    (locked : Locked task refresh world ∧ Timed origin now world)
    (due : attemptedRecently refresh.lastForcedAttempt now = false)
    (rest : ∀ after, Forced task after →
      (discipline origin mayPerform mayDrop).Safe task post (next ()) after) :
    (discipline origin mayPerform mayDrop).Safe task post (.call (.startForced now) next) world := by
  have locking : Lasting task (Locked (K := K) task refresh) := lasting_locked
  have lasting := locking.and_timed origin now
  apply safe_call
  · intro before moved _
    rcases lasting.2 world before moved.tenure locked with ⟨⟨owned, marks, -⟩, le, since, -, forced⟩
    exact ⟨owned, le, since, forced, by rw [marks, due]⟩
  rintro before _ after moved - - rfl
  rcases lasting.2 world before moved.tenure locked with ⟨⟨owned, -⟩, le, -⟩
  refine rest _ ⟨owned, ?_⟩
  rw [World.startForced_started]
  exact le

/-- The mark that the task leaves with is the last forced attempt. -/
theorem fetchedSince_release (invariant : VerifierInvariant origin mayDrop world)
    (fetched : FetchedSinceMark world) : FetchedSince task (world.release task) := by
  rcases fetched with ⟨install, member, le⟩
  refine ⟨install, member, ?_⟩
  intro attempt marked
  rw [World.release_mark] at marked
  have last := invariant.forced.last
  rw [marked, Option.getD_some] at last
  rwa [last] at le

/-- The verdict on an unknown key that a forced refresh leaves behind. -/
abbrev VerdictBacked (mayDrop : ι → World ι K → Op K → Prop) (task : ι) (kid : String)
    (world : World ι K) (result : Except VerifyError Unit) : Prop :=
  result ≠ .error .invalid ∧ (result = .ok () → SparesForced mayDrop → Backed task kid world)

/-- The task leaves the lock since the cache holds the key. -/
theorem leave_present_safe {refresh : RefreshState} {kid : String}
    (locked : Locked task refresh world) (present : kid ∈ world.cache.keys) :
    (discipline origin mayPerform mayDrop).Safe task (VerdictBacked mayDrop task kid)
      (unlock.bind fun _ => .done (.ok ()) : KeyProgram K (Except VerifyError Unit)) world := by
  have locking : Lasting task (Locked (K := K) task refresh) := lasting_locked
  apply safe_call
  · intro before moved _
    have locked := locking.2 _ _ moved.tenure locked
    exact ⟨locked.1, fun _ => locked.2.2⟩
  rintro before _ _ moved invariant - rfl
  refine ⟨by simp, fun _ _ => Or.inr ⟨?_, ?_⟩⟩
  · intro attempt marked
    rw [World.release_mark] at marked
    exact invariant.forced.past attempt (List.mem_of_mem_head? marked)
  · change kid ∈ before.cache.keys
    rw [moved.cache locked.1]
    exact present

/-- The task leaves the lock with the outcome of a recent forced refresh. -/
theorem leave_recent_safe {refresh : RefreshState} {kid : String} {now : Int}
    (locked : Locked task refresh world)
    (recent : attemptedRecently refresh.lastForcedAttempt now = true) :
    (discipline origin mayPerform mayDrop).Safe task (VerdictBacked mayDrop task kid)
      (unlock.bind fun _ => .done
        (if refresh.lastForcedFailed then .error .keysUnavailable else .ok ()) :
          KeyProgram K (Except VerifyError Unit)) world := by
  apply safe_unlock lasting_locked locked (fun _ locked _ => locked.2.2)
  rintro world ⟨owned, marks, idle⟩ invariant
  cases failed : refresh.lastForcedFailed with
  | true => exact ⟨by simp, by simp⟩
  | false =>
      refine ⟨by simp, fun _ spares => Or.inl (fetchedSince_release invariant ?_)⟩
      apply invariant.classified spares
      · intro someone
        by_cases same : someone = task
        · rw [same, idle]
        · apply invariant.not_forcing
          rw [owned, ne_eq, Option.some.injEq]
          exact Ne.symm same
      · rw [marks, failed]
      · rw [marks]
        exact (attemptedRecently_iff.mp recent).1

omit [DecidableEq ι] in
/-- A fetch of the current forced refresh is not older than its mark. -/
theorem Forced.fetchedSinceMark (forced : Forced task world) (fetched : Fetched task world) :
    FetchedSinceMark world := by
  rcases fetched with ⟨install, member, startedAt⟩
  refine ⟨install, member, ?_⟩
  rw [startedAt]
  exact forced.2

/-- The task records the outcome of its forced refresh and leaves the lock. -/
theorem leave_forced_safe {kid : String} {result : Except VerifyError Unit} {failed : Bool}
    (forced : Forced task world) (fetched : result = .ok () → Fetched task world)
    (recorded : failed = false → result = .ok ()) (valid : result ≠ .error .invalid) :
    (discipline origin mayPerform mayDrop).Safe task (VerdictBacked mayDrop task kid)
      ((setForcedFailed failed).bind fun _ => unlock.bind fun _ => .done result :
        KeyProgram K (Except VerifyError Unit)) world := by
  apply safe_call
  · intro before moved _
    have forced := lasting_forced.2 _ _ moved.tenure forced
    refine ⟨forced.1, ?_⟩
    intro success
    exact forced.fetchedSinceMark ((fetched (recorded success)).tenure moved.tenure)
  rintro before _ _ moved - - rfl
  have forced := lasting_forced.2 _ _ moved.tenure forced
  apply safe_unlock (lasting_recorded result) ?_ (fun _ known _ => known.1.2)
  · rintro world ⟨-, fetched⟩ invariant
    exact ⟨valid, fun ok _ => Or.inl (fetchedSince_release invariant (fetched ok))⟩
  · refine ⟨⟨forced.1, Function.update_self _ _ _⟩, ?_⟩
    intro ok
    exact forced.fetchedSinceMark ((fetched ok).tenure moved.tenure)

/-- A successful forced refresh backs the verdict on an unknown key, as long as
no forced refresh is dropped halfway. -/
theorem GitHubVerifier.refreshForUnknownKidIfDue_safe (library : JwksLibrary K)
    (jwksUrl kid : String) :
    (discipline origin mayPerform mayDrop).Safe task
      (fun world result => result ≠ .error .invalid ∧
        (result = .ok () → SparesForced mayDrop → Backed task kid world))
      (GitHubVerifier.refreshForUnknownKidIfDue library jwksUrl kid) world := by
  apply safe_lock
  intro before after _ _ _ locked
  have locking : Lasting task (Locked (K := K) task before.refresh) := lasting_locked
  apply safe_clock locking locked
  intro now world locked
  apply safe_plain .readLock rfl (locking.and_timed origin now) locked (fun _ _ _ _ => trivial)
  rintro before' _ _ locked - ⟨rfl, rfl⟩
  -- the cache that was read is the current one while the lock is held
  apply safe_call
  · intro _ _ _
    exact trivial
  rintro before'' _ _ moved - - rfl
  have locked : Locked task before.refresh (before''.setReader task false) ∧
      Timed origin now (before''.setReader task false) :=
    (locking.and_timed origin now).2 _ before'' moved.tenure locked
  have cacheEq : before''.cache = before'.cache :=
    moved.viewed (World.setReader_readers before' task true)
  simp only [Program.bind_done]
  by_cases present : kid ∈ before'.cache.keys
  · simp only [present, ↓reduceIte]
    apply leave_present_safe locked.1
    change kid ∈ before''.cache.keys
    rw [cacheEq]
    exact present
  · simp only [present, ↓reduceIte]
    by_cases recent : attemptedRecently before.refresh.lastForcedAttempt now = true
    · simp only [recent, ↓reduceIte]
      exact leave_recent_safe locked.1 recent
    · simp only [recent, Bool.false_eq_true, ↓reduceIte]
      apply safe_startForced locked (by simpa using recent)
      intro world forced
      apply (GitHubVerifier.runRefresh_safe library jwksUrl lasting_forced forced).bind
      rintro world result ⟨forced, fetched, valid⟩
      refine leave_forced_safe forced fetched ?_ valid
      intro success
      cases result with
      | error failure => contradiction
      | ok => rfl

end Specifications

end OidcExchange.Jwks
