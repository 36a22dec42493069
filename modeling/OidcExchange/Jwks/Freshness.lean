import OidcExchange.Jwks.Refresh
import OidcExchange.Jwks.Tasks

/-!
# Freshness of the returned keys

A lookup returns a key only from the key set that is installed at that moment and
only within the hard-staleness bound; nothing but a successful refresh changes
the installed set.
-/

namespace OidcExchange.Jwks

open OidcExchange.Process

variable {ι K : Type}

/-- The task holds a read guard on this cache and has taken this reading. -/
def Viewed (task : ι) (cache : KeyCache K) (now : Int) (world : World ι K) : Prop :=
  world.readers task = true ∧ world.cache = cache ∧ now ∈ world.readings task

/-- The cache holds this key, and a reading of the task lies within the bound. -/
def Current (maxStaleness : Nat) (task : ι) (kid : String) (key : K) (world : World ι K) :
    Prop :=
  world.cache.keys.lookup kid = some key ∧
    ∃ now ∈ world.readings task, cacheIsUsable world.cache now maxStaleness = true

/-- The cache is usable and lacks the key, after a fetch that the verdict may rely
on. -/
def Refuted (maxStaleness : Nat) (task : ι) (kid : String) (world : World ι K) : Prop :=
  world.cache.keys.lookup kid = none ∧
    (∃ now ∈ world.readings task, cacheIsUsable world.cache now maxStaleness = true) ∧
      FetchedSince task world

variable {task : ι} {world before after : World ι K} {cache : KeyCache K} {now : Int}
  {fact : World ι K → Prop}

theorem Viewed.rely (viewed : Viewed task cache now before) (moved : Rely task before after) :
    Viewed task cache now after := by
  rcases viewed with ⟨reads, cacheEq, member⟩
  exact ⟨moved.readers.trans reads, (moved.viewed reads).trans cacheEq, by rwa [moved.readings]⟩

section Specifications

variable [DecidableEq ι] {origin : Int} {mayPerform mayDrop : ι → World ι K → Op K → Prop}
  {α : Type}
  {post : World ι K → α → Prop}

/-- A fact that neither the others nor a look at the cache can falsify. -/
structure Steady (task : ι) (fact : World ι K → Prop) : Prop where
  rely : ∀ before after, Rely task before after → fact before → fact after
  reader : ∀ world reads, fact world → fact (world.setReader task reads)
  clock : ∀ world, fact world → fact (world.readClock task)

theorem steady_true : Steady (K := K) task fun _ => True :=
  ⟨fun _ _ _ _ => trivial, fun _ _ _ => trivial, fun _ _ => trivial⟩

/-- The state in which the reading of a look was taken. -/
def SeenAt (origin : Int) (mayPerform mayDrop : ι → World ι K → Op K → Prop) (task : ι)
    (fact : World ι K → Prop) (cache : KeyCache K) (now : Int) : Prop :=
  ∃ world, mayPerform task world .utcNow ∧ VerifierInvariant origin mayDrop world ∧
    fact world ∧ world.readers task = true ∧ world.cache = cache ∧ world.clock = now

/-- The rule for a look at the cache that reads the clock under the guard. -/
theorem safe_view {next : KeyCache K → Int → KeyProgram K α} (steady : Steady task fact)
    (holds : fact world)
    (rest : ∀ cache now after, fact after → Viewed task cache now after →
      SeenAt origin mayPerform mayDrop task fact cache now →
        (discipline origin mayPerform mayDrop).Safe task post (next cache now) after) :
    (discipline origin mayPerform mayDrop).Safe task post
      (.call .readLock fun cache => .call .utcNow fun now => next cache now) world := by
  apply safe_call
  · intro _ _ _
    exact trivial
  rintro first _ _ moved - - ⟨rfl, rfl⟩
  have holds := steady.reader first true (steady.rely world first moved holds)
  apply safe_call
  · intro _ _ _
    exact trivial
  rintro second _ _ moved invariant may ⟨rfl, rfl⟩
  have reads : second.readers task = true :=
    moved.readers.trans (World.setReader_readers first task true)
  have same : second.cache = first.cache :=
    moved.viewed (World.setReader_readers first task true)
  have holds := steady.rely _ second moved holds
  apply rest
  · exact steady.clock second holds
  · refine ⟨reads, same, ?_⟩
    rw [World.readClock_readings]
    exact List.mem_cons_self
  · exact ⟨second, may, invariant, holds, reads, same, rfl⟩

/-- The rule for the end of a look. -/
theorem safe_close {next : Unit → KeyProgram K α} (steady : Steady task fact)
    (holds : fact world) (viewed : Viewed task cache now world)
    (rest : ∀ after, fact after → after.cache = cache → now ∈ after.readings task →
      (discipline origin mayPerform mayDrop).Safe task post (next ()) after) :
    (discipline origin mayPerform mayDrop).Safe task post (.call .readUnlock next) world := by
  apply safe_call
  · intro _ _ _
    exact trivial
  rintro before _ _ moved - - rfl
  rcases viewed.rely moved with ⟨-, cacheEq, member⟩
  exact rest _ (steady.reader before false (steady.rely world before moved holds)) cacheEq member

theorem GitHubVerifier.lastLook_eq_ok {maxStaleness : Nat} {kid : String} {key : K}
    {result : Except VerifyError Unit}
    (found : GitHubVerifier.lastLook maxStaleness kid cache now result = .ok key) :
    cacheIsUsable cache now maxStaleness = true ∧ cache.keys.lookup kid = some key := by
  unfold GitHubVerifier.lastLook at found
  split at found
  · rename_i usable
    refine ⟨usable, ?_⟩
    split at found
    · rename_i lookup
      cases found
      exact lookup
    · split at found <;> contradiction
  · split at found <;> contradiction

theorem GitHubVerifier.lastLook_eq_invalid {maxStaleness : Nat} {kid : String}
    {result : Except VerifyError Unit} (outage : result ≠ .error .invalid)
    (refuted : GitHubVerifier.lastLook maxStaleness kid cache now result = .error .invalid) :
    cacheIsUsable cache now maxStaleness = true ∧ cache.keys.lookup kid = none ∧
      result = .ok () := by
  unfold GitHubVerifier.lastLook at refuted
  split at refuted
  · rename_i usable
    split at refuted
    · contradiction
    · rename_i lookup
      split at refuted
      · exact ⟨usable, lookup, rfl⟩
      · cases refuted
        contradiction
  · split at refuted
    · cases refuted
    · cases refuted
      contradiction

/-- The first look of both verifiers. -/
theorem firstLook_eq_some {maxStaleness : Nat} {kid : String} {key : K}
    (found : (if cacheIsUsable cache now maxStaleness then cache.keys.lookup kid else none) =
      some key) :
    cacheIsUsable cache now maxStaleness = true ∧ cache.keys.lookup kid = some key := by
  rwa [Option.ite_none_right_eq_some] at found

theorem GitHubVerifier.key_safe (library : JwksLibrary K) (jwksUrl : String)
    (maxStaleness : Nat) (kid : String) :
    (discipline origin mayPerform mayDrop).Safe task
      (fun world result =>
        (∀ key, result = .ok key → Current maxStaleness task kid key world) ∧
          (result = .error .invalid → SparesForced mayDrop →
            Refuted maxStaleness task kid world))
      (GitHubVerifier.key library jwksUrl maxStaleness kid) world := by
  apply safe_view steady_true trivial
  intro cache now world _ viewed _
  simp only [Program.bind_done, Program.monad_bind_eq_bind]
  split
  · rename_i key found
    rcases firstLook_eq_some found with ⟨usable, lookup⟩
    apply safe_close steady_true trivial viewed
    rintro world - rfl member
    refine ⟨?_, by simp⟩
    rintro _ ⟨⟩
    exact ⟨lookup, now, member, usable⟩
  · apply safe_close steady_true trivial viewed
    intro world _ _ _
    dsimp only [Program.bind_done]
    split
    · exact ⟨by simp, by simp⟩
    apply (GitHubVerifier.refreshForUnknownKidIfDue_safe library jwksUrl kid).bind
    rintro world result ⟨outage, backed⟩
    have steady : Steady (K := K) task fun world =>
        result = .ok () → SparesForced mayDrop → Backed task kid world :=
      ⟨fun _ _ moved backed ok spares => (backed ok spares).rely moved, fun _ _ => id,
        fun _ => id⟩
    apply safe_view steady backed
    intro cache now world backed viewed _
    apply safe_close steady backed viewed
    rintro world backed rfl member
    constructor
    · intro key found
      rcases GitHubVerifier.lastLook_eq_ok found with ⟨usable, lookup⟩
      exact ⟨lookup, now, member, usable⟩
    · intro refuted spares
      rcases GitHubVerifier.lastLook_eq_invalid outage refuted with ⟨usable, lookup, ok⟩
      refine ⟨lookup, ⟨now, member, usable⟩, ?_⟩
      rcases backed ok spares with fetched | ⟨-, present⟩
      · exact fetched
      · rw [AList.lookup_eq_none] at lookup
        exact absurd present lookup

/-- The lookups of a provider do not record the outcome of a forced refresh. -/
theorem ProviderVerifier.refreshForUnknownKidIfDue_safe (unspared : ¬ SparesForced mayDrop)
    (library : JwksLibrary K) (issuer : String) :
    (discipline origin mayPerform mayDrop).Safe task (fun _ _ => True)
      (ProviderVerifier.refreshForUnknownKidIfDue library issuer) world := by
  apply safe_lock
  intro before after _ _ _ locked
  have locking : Lasting task (Locked (K := K) task before.refresh) := lasting_locked
  apply safe_clock locking locked
  intro now world locked
  simp only [Program.bind_done]
  split
  · exact finish_safe ⟨locked.1.1, locked.1.2.2⟩
  · rename_i due
    apply safe_startForced locked (by simpa using due)
    intro world forced
    apply (ProviderVerifier.refreshNow_safe library issuer lasting_forced forced).bind
    rintro world result ⟨forced, -⟩
    apply safe_unlock lasting_forced forced (fun _ _ spares => absurd spares unspared)
    intro _ _ _
    exact trivial

theorem ProviderVerifier.lastLook_eq_ok {maxStaleness : Nat} {kid : String} {key : K}
    (found : ProviderVerifier.lastLook maxStaleness kid cache now = .ok key) :
    cacheIsUsable cache now maxStaleness = true ∧ cache.keys.lookup kid = some key := by
  unfold ProviderVerifier.lastLook at found
  split at found
  · contradiction
  · rename_i usable
    refine ⟨by simpa using usable, ?_⟩
    split at found
    · rename_i lookup
      cases found
      exact lookup
    · contradiction

theorem ProviderVerifier.key_safe (unspared : ¬ SparesForced mayDrop) (library : JwksLibrary K)
    (issuer : String) (maxStaleness : Nat) (kid : String) :
    (discipline origin mayPerform mayDrop).Safe task
      (fun world result => ∀ key, result = .ok key → Current maxStaleness task kid key world)
      (ProviderVerifier.key library issuer maxStaleness kid) world := by
  -- the first look reads the clock before it takes the guard
  apply safe_call
  · intro _ _ _
    exact trivial
  rintro first now _ - - - ⟨nowEq, rfl⟩
  have nowEq : now = first.clock := nowEq
  have read : now ∈ (first.readClock task).readings task := by
    rw [World.readClock_readings, nowEq]
    exact List.mem_cons_self
  apply safe_call
  · intro _ _ _
    exact trivial
  rintro second cache _ moved - - ⟨rfl, rfl⟩
  have viewed : Viewed task second.cache now (second.setReader task true) :=
    ⟨World.setReader_readers second task true, rfl, by rwa [← moved.readings] at read⟩
  simp only [Program.bind_done, Program.monad_bind_eq_bind]
  split
  · rename_i key found
    rcases firstLook_eq_some found with ⟨usable, lookup⟩
    apply safe_close steady_true trivial viewed
    rintro world - cacheEq member _ ⟨⟩
    rw [← cacheEq] at lookup usable
    exact ⟨lookup, now, member, usable⟩
  · apply safe_close steady_true trivial viewed
    intro world _ _ _
    dsimp only [Program.bind_done]
    split
    · simp [Discipline.Safe]
    apply (ProviderVerifier.refreshForUnknownKidIfDue_safe unspared library issuer).bindOk
    · intro world failure _ key impossible
      contradiction
    intro world _ _
    apply safe_view steady_true trivial
    intro cache now world _ viewed _
    apply safe_close steady_true trivial viewed
    rintro world - rfl member key found
    rcases ProviderVerifier.lastLook_eq_ok found with ⟨usable, lookup⟩
    exact ⟨lookup, now, member, usable⟩

/-- What is known when a task returns. -/
def Job.Returned (mayDrop : ι → World ι K → Op K → Prop) (verifier : Verifier) (task : ι)
    (world : World ι K) (result : Except VerifyError (Option K)) : Job → Prop
  | .lookup kid =>
      (∀ found, result = .ok found →
        ∃ key, found = some key ∧ Current verifier.maxStaleness task kid key world) ∧
        ∀ jwksUrl maxStaleness, verifier = .github jwksUrl maxStaleness →
          result = .error .invalid → SparesForced mayDrop →
            Refuted maxStaleness task kid world
  | _ => True

/-- A job that only refreshes promises nothing. -/
theorem safe_of_refresh {job : Job} {verifier : Verifier}
    {refresh : KeyProgram K (Except VerifyError Unit)}
    (promises : ∀ world result, job.Returned mayDrop verifier task world result)
    (safe : (discipline origin mayPerform mayDrop).Safe task (fun _ _ => True) refresh world) :
    (discipline origin mayPerform mayDrop).Safe task
      (fun world result => job.Returned mayDrop verifier task world result)
      (refresh.bindOk fun _ => return .ok none) world := by
  apply safe.bindOk
  · intro world failure _
    exact promises world _
  · intro world _ _
    exact promises world _

/-- Every task keeps the discipline. -/
theorem Job.program_safe (library : JwksLibrary K) (verifier : Verifier) (job : Job)
    (unspared : ∀ issuer maxStaleness, verifier = .provider issuer maxStaleness →
      ¬ SparesForced mayDrop) :
    (discipline origin mayPerform mayDrop).Safe task
      (fun world result => job.Returned mayDrop verifier task world result)
      (job.program library verifier) world := by
  cases verifier with
  | github jwksUrl maxStaleness =>
      cases job with
      | lookup kid =>
          apply (GitHubVerifier.key_safe library jwksUrl maxStaleness kid).bindOk
          · rintro world failure ⟨-, refuted⟩
            refine ⟨by simp, ?_⟩
            rintro _ _ ⟨⟩ ⟨⟩
            exact refuted rfl
          · rintro world key ⟨current, -⟩
            refine ⟨?_, by simp⟩
            rintro _ ⟨⟩
            exact ⟨key, rfl, current key rfl⟩
      | softRefresh =>
          exact safe_of_refresh (fun _ _ => trivial) (GitHubVerifier.refreshSoftIfDue_safe library jwksUrl)
      | warmUp =>
          exact safe_of_refresh (fun _ _ => trivial) (GitHubVerifier.warmUp_safe library jwksUrl)
  | provider issuer maxStaleness =>
      cases job with
      | lookup kid =>
          apply (ProviderVerifier.key_safe (unspared issuer maxStaleness rfl) library issuer
            maxStaleness kid).bindOk
          · intro world failure _
            exact ⟨by simp, by simp⟩
          · intro world key current
            refine ⟨?_, by simp⟩
            rintro _ ⟨⟩
            exact ⟨key, rfl, current key rfl⟩
      | softRefresh =>
          exact safe_of_refresh (fun _ _ => trivial) (ProviderVerifier.refreshSoftIfDue_safe library issuer)
      | warmUp =>
          exact safe_of_refresh (fun _ _ => trivial) (ProviderVerifier.refreshSoftIfDue_safe library issuer)

end Specifications

section Runs

/-- Nothing limits the operations and the drops of the tasks. -/
def unlimited (_ : ι) (_ : World ι K) (_ : Op K) : Prop :=
  True

theorem not_sparesForced_unlimited (task : ι) :
    ¬ SparesForced (unlimited : ι → World ι K → Op K → Prop) := by
  intro spares
  have impossible := spares task { World.start 0 with forcing := fun _ => true } .lock trivial
  simp [World.start, RefreshState.start] at impossible

variable [DecidableEq ι] {library : JwksLibrary K} {verifier : Verifier} {jobs : ι → Job}
  {clock : Int} {config target : Config ι (Answer K) (World ι K) (Except VerifyError (Option K))}

/-- The pools that the tasks of a verifier can reach. -/
def Reached (library : JwksLibrary K) (verifier : Verifier) (jobs : ι → Job) (clock : Int)
    (config : Config ι (Answer K) (World ι K) (Except VerifyError (Option K))) : Prop :=
  Steps verifierMachine
    (.initial (.start clock) fun task => (jobs task).program library verifier) config

/-- Every pool that is reached within the limits keeps the discipline of the
verifier. -/
theorem holds_of_steps {mayPerform mayDrop : ι → World ι K → Op K → Prop}
    (unspared : ι → ∀ issuer maxStaleness, verifier = .provider issuer maxStaleness →
      ¬ SparesForced mayDrop)
    (lower : i64Min ≤ clock) (upper : clock ≤ i64Max)
    (run : Steps (verifierMachine.restrict mayPerform mayDrop)
      (.initial (.start clock) fun task => (jobs task).program library verifier) config) :
    (discipline clock mayPerform mayDrop).Holds
      (fun task world result => (jobs task).Returned mayDrop verifier task world result)
      config := by
  have start : VerifierInvariant clock mayDrop (World.start clock : World ι K) :=
    .start lower upper
  have safe : ∀ task, (discipline clock mayPerform mayDrop).Safe task
      (fun world result => (jobs task).Returned mayDrop verifier task world result)
      ((jobs task).program library verifier) (World.start clock) :=
    fun task => (jobs task).program_safe library verifier (unspared task)
  exact (Discipline.Holds.initial start safe).steps run

theorem holds_of_reached (lower : i64Min ≤ clock) (upper : clock ≤ i64Max)
    (reached : Reached library verifier jobs clock config) :
    (discipline clock unlimited unlimited).Holds
      (fun task world result => (jobs task).Returned unlimited verifier task world result)
      config := by
  apply holds_of_steps _ lower upper
  · exact reached.restrict (fun _ _ _ => trivial) (fun _ _ _ => trivial)
  · intro task _ _ _
    exact not_sparesForced_unlimited task

/-- A usable cache is not older than the bound. -/
theorem age_le_of_cacheIsUsable {cache : KeyCache K} {now : Int} {maxStaleness : Nat}
    (usable : cacheIsUsable cache now maxStaleness = true) (lower : i64Min ≤ cache.fetchedAt)
    (upper : now ≤ i64Max) : now - cache.fetchedAt ≤ maxStaleness := by
  rw [cacheIsUsable, Bool.and_eq_true, decide_eq_true_iff] at usable
  have age := usable.2
  rw [cacheAgeSeconds] at age
  split at age
  · simp only [u64Max, i64Min, i64Max] at *
    omega
  · simp only [saturatingSub, i64Min, i64Max] at *
    omega

/-- Only the write of a new key set changes what is cached. -/
theorem cache_of_step {label : Label ι (Answer K)}
    (step : Step verifierMachine config label target) :
    target.shared.cache = config.shared.cache ∧ target.shared.installs = config.shared.installs ∨
      ∃ task cache, label = .perform task ⟨.install cache, ()⟩ ∧ target.shared.cache = cache ∧
        ∃ install, install.cache = cache ∧
          target.shared.installs = install :: config.shared.installs := by
  cases step with
  | @perform task op next answer shared running effect =>
      cases op with
      | utcNow =>
          obtain ⟨-, rfl⟩ := effect
          exact Or.inl ⟨rfl, rfl⟩
      | readLock =>
          obtain ⟨-, rfl⟩ := effect
          exact Or.inl ⟨rfl, rfl⟩
      | lock =>
          obtain ⟨-, -, rfl⟩ := effect
          exact Or.inl ⟨rfl, rfl⟩
      | install cache =>
          obtain ⟨-, rfl⟩ := effect
          exact Or.inr ⟨task, cache, rfl, rfl, _, rfl, rfl⟩
      | _ =>
          obtain rfl := effect
          exact Or.inl ⟨rfl, rfl⟩
  | cancel running dropped =>
      obtain ⟨-, rfl⟩ := dropped
      exact Or.inl ⟨rfl, rfl⟩
  | environment moved =>
      obtain ⟨_, -, -, rfl⟩ := moved
      exact Or.inl ⟨rfl, rfl⟩

/-- Once filled, the cache stays filled. -/
theorem filled_of_steps (lower : i64Min ≤ clock) (upper : clock ≤ i64Max)
    (reached : Reached library verifier jobs clock config)
    (filled : config.shared.cache.keys.entries.isEmpty = false)
    (run : Steps verifierMachine config target) :
    target.shared.cache.keys.entries.isEmpty = false := by
  induction run with
  | refl => exact filled
  | @tail middle target first last inductionHypothesis =>
      rcases last with ⟨label, step⟩
      have reached : Reached library verifier jobs clock target :=
        (Steps.trans reached first).tail step
      rcases cache_of_step step with ⟨same, -⟩ | ⟨task, cache, -, -, install, -, installs⟩
      · rw [same]
        exact inductionHypothesis
      · apply (holds_of_reached lower upper reached).invariant.filled_of_installs
        simp [installs]

/-- A lookup returns a key only from the key set of the last successful refresh,
within the hard-staleness bound at a reading of its own.  No other step changes
the cached key set, a refresh writes one exactly when it succeeds, and the cache
stays filled. -/
theorem key_fresh (lower : i64Min ≤ clock) (upper : clock ≤ i64Max)
    (reached : Reached library verifier jobs clock config) :
    (∀ task kid key target, jobs task = .lookup kid →
      Returns verifierMachine config task (.ok (some key)) target →
        target.shared.cache.keys.lookup kid = some key ∧
          target.shared.installs.head?.map Install.cache = some target.shared.cache ∧
            ∃ now ∈ target.shared.readings task,
              now - target.shared.cache.fetchedAt ≤ verifier.maxStaleness) ∧
      (∀ label target, Step verifierMachine config label target →
        target.shared.cache = config.shared.cache ∧
            target.shared.installs = config.shared.installs ∨
          ∃ task cache, label = .perform task ⟨.install cache, ()⟩ ∧
            target.shared.cache = cache ∧ ∃ install, install.cache = cache ∧
              target.shared.installs = install :: config.shared.installs) ∧
      (∀ events program, (verifier.refreshNow library).Path events program →
        (Installs events ↔ program = .done (.ok ()))) ∧
      (config.shared.cache.keys.entries.isEmpty = false → ∀ target,
        Steps verifierMachine config target →
          target.shared.cache.keys.entries.isEmpty = false) := by
  refine ⟨?_, fun _ _ => cache_of_step, fun _ _ => Verifier.installs_iff, ?_⟩
  · intro task kid key target job returned
    rcases returned with ⟨event, step, present⟩
    have holds := holds_of_reached lower upper reached
    have after := holds_of_reached lower upper (Steps.tail reached step)
    have known := holds.returns
      ⟨event, step.restrict (fun _ _ _ => trivial) (fun _ _ _ => trivial), present⟩
    rw [job] at known
    rcases known.1 (some key) rfl with ⟨_, ⟨⟩, lookup, now, member, usable⟩
    refine ⟨lookup, ?_, now, member, ?_⟩
    · apply after.invariant.cached_of_filled
      rw [cacheIsUsable, Bool.and_eq_true, Bool.not_eq_true'] at usable
      exact usable.1
    · exact age_le_of_cacheIsUsable usable after.invariant.fetched
        ((after.invariant.readings task now member).trans after.invariant.clockUpper)
  · intro filled target run
    exact filled_of_steps lower upper reached filled run

end Runs

/-- Every document holds one key and every discovery names the same origin. -/
def sampleLibrary : JwksLibrary Unit where
  parseJwks _ := some
    [{ keyId := some "key", keyAlgorithm := some .rs256, publicKeyUse := some .signature,
       decodingKey := some () }]
  parseDiscovery _ := some
    { issuer := "https://login.example.com", jwksUri := "https://login.example.com/keys" }
  parseUrl _ := some
    { scheme := "https", host := some "login.example.com", portOrKnownDefault := some 443,
      username := "", password := none, query := none, fragment := none }

/-- A response that no check refuses. -/
def sampleResponse : Response where
  status := 200
  contentLength := none

/-- After the warm-up at 1000, a lookup at 1100 finds the key. -/
theorem key_fresh_sample :
    ∃ config target, Reached sampleLibrary (.github "https://keys.example.com" 600)
        (fun task : Bool => if task then .lookup "key" else .warmUp) 1000 config ∧
      Returns verifierMachine config true (.ok (some ())) target ∧
      target.shared.cache.keys.lookup "key" = some () ∧
      ∃ now ∈ target.shared.readings true, now - target.shared.cache.fetchedAt ≤ 600 := by
  have run : ∃ config, Reached sampleLibrary (.github "https://keys.example.com" 600)
        (fun task : Bool => if task then .lookup "key" else .warmUp) 1000 config ∧
      ∃ target, Returns verifierMachine config true (.ok (some ())) target := by
    refine Steps.reach_perform false rfl _ ⟨rfl, rfl, rfl⟩ ?_
    refine Steps.reach_perform false rfl (some sampleResponse) rfl ?_
    refine Steps.reach_perform false rfl (some []) rfl ?_
    refine Steps.reach_perform false rfl (1000 : Int) ⟨rfl, rfl⟩ ?_
    refine Steps.reach_perform false rfl () ⟨fun _ => rfl, rfl⟩ ?_
    refine Steps.reach_perform false rfl () rfl ?_
    refine Steps.reach_environment ⟨1100, by decide, by decide, rfl⟩ ?_
    refine Steps.reach_perform true rfl _ ⟨rfl, rfl⟩ ?_
    refine Steps.reach_perform true rfl (1100 : Int) ⟨rfl, rfl⟩ ?_
    exact ⟨_, .refl _, _, Returns.of_perform true rfl () rfl rfl⟩
  rcases run with ⟨config, reached, target, returned⟩
  rcases (key_fresh (by decide) (by decide) reached).1 true "key" () target rfl returned with
    ⟨lookup, -, fresh⟩
  exact ⟨config, target, reached, returned, lookup, fresh⟩

end OidcExchange.Jwks
