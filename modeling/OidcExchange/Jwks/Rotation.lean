import OidcExchange.Jwks.Freshness
import OidcExchange.Process.Along

/-!
# Outages that a provider reports during a key rotation

Lookups of a rotated key miss the cache together and queue on the refresh lock.
The verifier of a provider does not look at the cache again once it has the
lock, so a lookup that comes second is throttled although the key has arrived.
Apart from that, a lookup that reports an outage was never in a position to be
served while it held the lock or after it.
-/

namespace OidcExchange.Jwks

open OidcExchange.Process

variable {ι K : Type}

/-- The cache is usable now and holds the key. -/
def Served (maxStaleness : Nat) (kid : String) (world : World ι K) : Prop :=
  cacheIsUsable world.cache world.clock maxStaleness = true ∧ kid ∈ world.cache.keys

/-- No lookup obtains the refresh lock while the cache would serve it, and no lookup
takes its last look at a cache past the hard-staleness bound. -/
def looksInTime (jobs : ι → Job) (maxStaleness : Nat) (task : ι) (world : World ι K) :
    Op K → Prop
  | .lock => ∀ kid, jobs task = .lookup kid → ¬ Served maxStaleness kid world
  | .utcNow => ∀ kid, jobs task = .lookup kid → world.readers task = true →
      world.cache.keys.entries.isEmpty = false →
        cacheIsUsable world.cache world.clock maxStaleness = true
  | _ => True

/-- The task owns the refresh lock, and the cache does not serve it. -/
def Unserved (maxStaleness : Nat) (task : ι) (kid : String) (world : World ι K) : Prop :=
  world.owner = some task ∧ ¬ Served maxStaleness kid world

variable {maxStaleness : Nat} {task : ι} {kid : String} {world before after : World ι K}

/-- A cache that is usable later was usable before. -/
theorem cacheIsUsable_of_le {cache : KeyCache K} {now later : Int} (le : now ≤ later)
    (usable : cacheIsUsable cache later maxStaleness = true) :
    cacheIsUsable cache now maxStaleness = true := by
  rw [cacheIsUsable, Bool.and_eq_true, decide_eq_true_iff] at *
  refine ⟨usable.1, le_trans ?_ usable.2⟩
  rw [cacheAgeSeconds, cacheAgeSeconds]
  split
  · exact le_rfl
  · rw [saturatingSub, saturatingSub]
    omega

theorem Unserved.rely (unserved : Unserved maxStaleness task kid before)
    (moved : Rely task before after) : Unserved maxStaleness task kid after := by
  rcases unserved with ⟨owned, unserved⟩
  refine ⟨moved.owner owned, ?_⟩
  rintro ⟨usable, present⟩
  rw [moved.cache owned] at usable present
  exact unserved ⟨cacheIsUsable_of_le moved.clock usable, present⟩

theorem lasting_installed :
    Lasting task fun world : World ι K => world.owner = some task ∧ world.installs ≠ [] := by
  refine ⟨fun world known => known.1, ?_⟩
  rintro before after moved ⟨owned, installed⟩
  refine ⟨moved.owner owned, ?_⟩
  rcases List.exists_mem_of_ne_nil _ installed with ⟨install, member⟩
  exact List.ne_nil_of_mem (moved.grown install member)

section Specifications

variable [DecidableEq ι] {origin : Int} {mayPerform mayDrop : ι → World ι K → Op K → Prop}
  {α β : Type}

/-- The operations of a refresh before the write of the new key set. -/
theorem Unserved.perform {op : Op K} {answer : Answer K op} (plain : isPlain op = true)
    (other : writesNothing op = true) (effect : perform task before op answer after)
    (unserved : Unserved maxStaleness task kid before) :
    Unserved maxStaleness task kid after := by
  cases op with
  | utcNow =>
      obtain ⟨-, rfl⟩ := effect
      exact unserved
  | readLock =>
      obtain ⟨-, rfl⟩ := effect
      exact unserved
  | readUnlock =>
      obtain rfl := effect
      exact unserved
  | send url =>
      obtain rfl := effect
      exact unserved
  | readBody =>
      obtain rfl := effect
      exact unserved
  | countFailure =>
      obtain rfl := effect
      exact unserved
  | _ => contradiction

/-- The rule for an operation before the write of the new key set. -/
theorem along_plain {point : KeyProgram K α → World ι K → Prop} {post : World ι K → α → Prop}
    (op : Op K) {next : Answer K op → KeyProgram K α} (plain : isPlain op = true)
    (other : writesNothing op = true) (unserved : Unserved maxStaleness task kid world)
    (quiet : ∀ rest world, ¬ Served maxStaleness kid world → point rest world)
    (rest : ∀ before answer after, Unserved maxStaleness task kid after →
      perform task before op answer after →
        (discipline origin mayPerform mayDrop).Along task point post (next answer) after) :
    (discipline origin mayPerform mayDrop).Along task point post (.call op next) world := by
  intro before moved _
  have unserved := unserved.rely moved
  refine ⟨quiet _ before unserved.2, ?_⟩
  rintro answer after ⟨-, effect⟩
  exact rest before answer after (unserved.perform plain other effect) effect

theorem sendOk_along (url : String) (unserved : Unserved maxStaleness task kid world) :
    (discipline origin mayPerform mayDrop).Along task
      (fun _ world => ¬ Served maxStaleness kid world)
      (fun world _ => Unserved maxStaleness task kid world)
      (sendOk url : KeyProgram K _) world := by
  apply along_plain (.send url) rfl rfl unserved (fun _ _ => id)
  rintro before (_ | response) after unserved -
  · exact unserved
  · simp only [Program.bind_done]
    split
    · exact unserved
    · exact unserved

theorem decodeBody_along (maximum : Option Nat) (parse : List UInt8 → Option β)
    (unserved : Unserved maxStaleness task kid world) :
    (discipline origin mayPerform mayDrop).Along task
      (fun _ world => ¬ Served maxStaleness kid world)
      (fun world _ => Unserved maxStaleness task kid world)
      (decodeBody maximum parse : KeyProgram K _) world := by
  apply along_plain .readBody rfl rfl unserved (fun _ _ => id)
  rintro before (_ | body) after unserved -
  · exact unserved
  · simp only [Program.bind_done]
    split
    · exact unserved
    · split
      · exact unserved
      · exact unserved

theorem fetchJson_along (uri : String) (maximum : Nat) (parse : List UInt8 → Option β)
    (unserved : Unserved maxStaleness task kid world) :
    (discipline origin mayPerform mayDrop).Along task
      (fun _ world => ¬ Served maxStaleness kid world)
      (fun world _ => Unserved maxStaleness task kid world)
      (fetchJson uri maximum parse : KeyProgram K _) world := by
  apply (sendOk_along uri unserved).bindOk (fun _ _ => id)
  · intro world failure unserved
    exact unserved
  intro world response unserved
  split
  · exact unserved
  · exact decodeBody_along (some maximum) parse unserved

/-- What a refresh leaves: a failure has changed nothing, a success has installed
something. -/
def Refreshed (maxStaleness : Nat) (task : ι) (kid : String) (world : World ι K) :
    Except VerifyError Unit → Prop
  | .error _ => Unserved maxStaleness task kid world
  | .ok () => world.owner = some task ∧ world.installs ≠ []

theorem installKeys_along (document : List (Jwk K))
    (unserved : Unserved maxStaleness task kid world) :
    (discipline origin mayPerform mayDrop).Along task
      (fun _ world => ¬ Served maxStaleness kid world) (Refreshed maxStaleness task kid)
      (installKeys document) world := by
  unfold installKeys
  by_cases empty : (usableKeys document).entries.isEmpty = true
  · simp only [empty, ↓reduceIte]
    exact unserved
  · simp only [empty, Bool.false_eq_true, ↓reduceIte]
    apply along_plain .utcNow rfl rfl unserved (fun _ _ => id)
    intro _ now _ unserved _ before moved _
    have unserved := unserved.rely moved
    refine ⟨unserved.2, ?_⟩
    rintro _ _ ⟨-, -, rfl⟩
    exact ⟨unserved.1, List.cons_ne_nil _ _⟩

theorem ProviderVerifier.refreshNow_along (library : JwksLibrary K) (issuer : String)
    (unserved : Unserved maxStaleness task kid world) :
    (discipline origin mayPerform mayDrop).Along task
      (fun _ world => ¬ Served maxStaleness kid world) (Refreshed maxStaleness task kid)
      (ProviderVerifier.refreshNow library issuer) world := by
  apply (fetchJson_along _ maxDiscoveryBytes library.parseDiscovery unserved).bindOk
    (fun _ _ => id)
  · intro world failure unserved
    exact unserved
  intro world discovery unserved
  split
  · exact unserved
  apply (fetchJson_along _ maxJwksBytes library.parseJwks unserved).bindOk (fun _ _ => id)
  · intro world failure unserved
    exact unserved
  intro world document unserved
  exact installKeys_along document unserved

variable {jobs : ι → Job}

/-- Wherever the lookup waits, the cache does not serve it or it will not report an
outage. -/
def Prompt (origin : Int) (jobs : ι → Job) (maxStaleness : Nat)
    (mayDrop : ι → World ι K → Op K → Prop) (task : ι) (kid : String) :
    KeyProgram K (Except VerifyError α) → World ι K → Prop :=
  (discipline origin (looksInTime jobs maxStaleness) mayDrop).Along task
    (fun rest world => ¬ Served maxStaleness kid world ∨
      (discipline origin (looksInTime jobs maxStaleness) mayDrop).Safe task
        (fun _ result => result ≠ .error .keysUnavailable) rest world)
    fun world result => ¬ Served maxStaleness kid world ∨ result ≠ .error .keysUnavailable

/-- The look that ends a lookup of a provider. -/
def ProviderVerifier.finalLook (maxStaleness : Nat) (kid : String) :
    KeyProgram K (Except VerifyError K) := do
  let cache ← readLock
  let now ← utcNow
  readUnlock
  return ProviderVerifier.lastLook maxStaleness kid cache now

theorem ProviderVerifier.lastLook_ne_outage {cache : KeyCache K} {now : Int}
    (usable : cacheIsUsable cache now maxStaleness = true) :
    ProviderVerifier.lastLook maxStaleness kid cache now ≠ .error .keysUnavailable := by
  simp only [ProviderVerifier.lastLook, usable, Bool.true_eq_false, ↓reduceIte]
  split
  · simp
  · simp

theorem steady_installed : Steady task fun world : World ι K => world.installs ≠ [] := by
  refine ⟨?_, fun _ _ => id, fun _ => id⟩
  intro before after moved installed
  rcases moved.grown with ⟨newer, grown, -⟩
  rw [grown]
  exact List.append_ne_nil_of_right_ne_nil newer installed

/-- In time, the last look at an installed key set reports no outage. -/
theorem ProviderVerifier.finalLook_safe (job : jobs task = .lookup kid)
    (installed : world.installs ≠ []) :
    (discipline origin (looksInTime jobs maxStaleness) mayDrop).Safe task
      (fun _ result => result ≠ .error .keysUnavailable)
      (ProviderVerifier.finalLook maxStaleness kid : KeyProgram K _) world := by
  apply safe_view steady_installed installed
  intro cache now world installed viewed seen
  apply safe_close steady_true trivial viewed
  intro world _ _ _
  rcases seen with ⟨world, may, invariant, installed, reads, rfl, rfl⟩
  apply ProviderVerifier.lastLook_ne_outage
  exact may kid job reads (invariant.filled_of_installs installed)

/-- The rule for an operation that is not the one waited for. -/
theorem once_other {later : KeyProgram K α → World ι K → Prop} (op : Op K)
    {next : Answer K op → KeyProgram K α} (other : op ≠ .lock)
    (rest : ∀ answer after, (discipline origin mayPerform mayDrop).Once task (· = .lock) later
      (next answer) after) :
    (discipline origin mayPerform mayDrop).Once task (· = .lock) later (.call op next) world := by
  intro _ _ _ answer after _
  exact ⟨fun same => absurd same other, fun _ => rest answer after⟩

/-- The rest of a lookup once it has the refresh lock. -/
def ProviderVerifier.locked (library : JwksLibrary K) (issuer : String) (refresh : RefreshState) :
    KeyProgram K (Except VerifyError Unit) := do
  let now ← utcNow
  if attemptedRecently refresh.lastForcedAttempt now = true then
    unlock
    return .error .keysUnavailable
  else
    startForced now
    let result ← ProviderVerifier.refreshNow library issuer
    unlock
    return result

/-- With the lock, a lookup is unserved until it has installed a key set, and then it
reports no outage. -/
theorem ProviderVerifier.locked_along (unspared : ¬ SparesForced mayDrop)
    (job : jobs task = .lookup kid) (library : JwksLibrary K) (issuer : String)
    (refresh : RefreshState) (unserved : Unserved maxStaleness task kid world)
    {next : K → KeyProgram K (Except VerifyError α)}
    (found : ∀ key world, (discipline origin (looksInTime jobs maxStaleness) mayDrop).Safe task
      (fun _ result => result ≠ .error .keysUnavailable) (next key) world) :
    Prompt origin jobs maxStaleness mayDrop task kid
      (((ProviderVerifier.locked library issuer refresh).bindOk fun _ =>
        ProviderVerifier.finalLook maxStaleness kid).bindOk next) world := by
  rw [Program.bindOk_assoc]
  -- a failure releases the lock and leaves the cache as it was
  have failed : ∀ (failure : VerifyError) (world : World ι K),
      Unserved maxStaleness task kid world →
        Prompt origin jobs maxStaleness mayDrop task kid
          (.call .unlock fun _ => .done (.error failure) :
            KeyProgram K (Except VerifyError α)) world := by
    intro failure world unserved before moved _
    have unserved := unserved.rely moved
    refine ⟨Or.inl unserved.2, ?_⟩
    rintro _ _ ⟨-, rfl⟩
    exact Or.inl unserved.2
  have served : ∀ world : World ι K, world.installs ≠ [] →
      (discipline origin (looksInTime jobs maxStaleness) mayDrop).Safe task
        (fun _ result => result ≠ .error .keysUnavailable)
        ((ProviderVerifier.finalLook maxStaleness kid).bindOk next) world := by
    intro world installed
    apply (ProviderVerifier.finalLook_safe job installed).bindOk
    · intro _ _ outage
      simpa using outage
    · intro world key _
      exact found key world
  apply along_plain .utcNow rfl rfl unserved (fun _ _ => Or.inl)
  intro _ now world unserved _
  simp only [Program.bind_done]
  by_cases recent : attemptedRecently refresh.lastForcedAttempt now = true
  · simp only [recent, ↓reduceIte]
    exact failed .keysUnavailable world unserved
  · simp only [recent, Bool.false_eq_true, ↓reduceIte]
    intro before moved _
    have unserved := unserved.rely moved
    refine ⟨Or.inl unserved.2, ?_⟩
    rintro _ _ ⟨-, rfl⟩
    have unserved : Unserved maxStaleness task kid (before.startForced task now) := unserved
    simp only [Program.monad_bind_eq_bind, Program.bind_done, Program.bind_assoc]
    apply (ProviderVerifier.refreshNow_along library issuer unserved).bind (fun _ _ => Or.inl)
    intro world result refreshed
    cases result with
    | error failure => exact failed failure world refreshed
    | ok =>
        apply Discipline.Safe.along
        apply safe_unlock lasting_installed refreshed (fun _ _ spares => absurd spares unspared)
        intro before installed _
        exact served (before.release task) installed.2

/-- A lookup of a provider keeps the discipline of `locked_along` once it has the
lock. -/
theorem ProviderVerifier.lookup_once (unspared : ¬ SparesForced mayDrop)
    (job : jobs task = .lookup kid) (library : JwksLibrary K) (issuer : String) :
    (discipline origin (looksInTime jobs maxStaleness) mayDrop).Once task (· = .lock)
      (Prompt origin jobs maxStaleness mayDrop task kid)
      ((Job.lookup kid).program library (.provider issuer maxStaleness)) world := by
  apply once_other .utcNow (by simp)
  intro now world
  apply once_other .readLock (by simp)
  intro cache world
  simp only [Program.bind_done, Program.monad_bind_eq_bind]
  split
  · apply once_other .readUnlock (by simp)
    intro _ world
    exact trivial
  · apply once_other .readUnlock (by simp)
    intro _ world
    dsimp only [Program.bind_done]
    split
    · exact trivial
    intro before _ _ refresh after effect
    rcases effect with ⟨may, -, -, rfl⟩
    refine ⟨?_, fun other => absurd rfl other⟩
    intro _
    have unserved : Unserved maxStaleness task kid (before.acquire task) :=
      ⟨rfl, may kid job⟩
    exact ProviderVerifier.locked_along unspared job library issuer refresh unserved
      fun key world => by simp [Discipline.Safe]

end Specifications

section Runs

variable [DecidableEq ι] {library : JwksLibrary K} {issuer : String} {jobs : ι → Job}
  {clock : Int}
  {middle last target : Config ι (Answer K) (World ι K) (Except VerifyError (Option K))}

/-- A lookup that reports an outage was not served by the cache at any time after it
had obtained the refresh lock. -/
theorem outage_unserved (lower : i64Min ≤ clock) (upper : clock ≤ i64Max)
    (run : Steps (verifierMachine.restrict (looksInTime jobs maxStaleness) unlimited)
      (.initial (.start clock) fun task =>
        (jobs task).program library (.provider issuer maxStaleness)) middle)
    (job : jobs task = .lookup kid)
    (locked : ∃ refresh, (⟨.lock, refresh⟩ : Event (Answer K)) ∈ middle.history task)
    (rest : Steps (verifierMachine.restrict (looksInTime jobs maxStaleness) unlimited) middle
      last)
    (returned : Returns (verifierMachine.restrict (looksInTime jobs maxStaleness) unlimited) last
      task (.error .keysUnavailable) target) :
    ¬ Served maxStaleness kid middle.shared := by
  have unspared : ι → ∀ issuer' maxStaleness',
      Verifier.provider issuer maxStaleness = .provider issuer' maxStaleness' →
        ¬ SparesForced (unlimited : ι → World ι K → Op K → Prop) :=
    fun task _ _ _ => not_sparesForced_unlimited task
  have start : Steps (verifierMachine.restrict (looksInTime jobs maxStaleness) unlimited)
      (.initial (.start clock) fun task =>
        (jobs task).program library (.provider issuer maxStaleness)) _ := .refl _
  have holds := holds_of_steps unspared lower upper start
  have triggered : ¬ Discipline.Untriggered (· = .lock) (middle.history task) := by
    intro none
    rcases locked with ⟨refresh, member⟩
    exact none _ member rfl
  have once : ∀ op next,
      some ((jobs task).program library (.provider issuer maxStaleness)) =
          some (.call op next) →
        (discipline clock (looksInTime jobs maxStaleness) unlimited).Once task (· = .lock)
          (Prompt clock jobs maxStaleness unlimited task kid) (.call op next)
          (World.start clock) := by
    intro op next present
    rw [← Option.some.inj present, job]
    exact ProviderVerifier.lookup_once (not_sparesForced_unlimited task) job library issuer
  exact (Discipline.Once.returns holds once rfl run triggered rest returned).resolve_right
    fun served => served rfl

end Runs

/-- The request of a lookup fails after the lookup has the lock. -/
theorem outage_unserved_sample :
    ∃ middle last target,
      Steps (verifierMachine.restrict (looksInTime (fun _ : Unit => .lookup "key") 600) unlimited)
        (.initial (.start 1000) fun _ : Unit => (Job.lookup "key").program sampleLibrary
          (.provider "https://login.example.com" 600)) middle ∧
      (∃ refresh, (⟨.lock, refresh⟩ : Event (Answer Unit)) ∈ middle.history ()) ∧
      Steps (verifierMachine.restrict (looksInTime (fun _ : Unit => .lookup "key") 600) unlimited)
        middle last ∧
      Returns (verifierMachine.restrict (looksInTime (fun _ : Unit => .lookup "key") 600)
        unlimited) last () (.error .keysUnavailable) target ∧
      ¬ Served 600 "key" middle.shared := by
  have run : ∃ middle,
      Steps (verifierMachine.restrict (looksInTime (fun _ : Unit => .lookup "key") 600) unlimited)
        (.initial (.start 1000) fun _ : Unit => (Job.lookup "key").program sampleLibrary
          (.provider "https://login.example.com" 600)) middle ∧
      (⟨.lock, .start⟩ : Event (Answer Unit)) ∈ middle.history () ∧
      ∃ last, Steps (verifierMachine.restrict (looksInTime (fun _ : Unit => .lookup "key") 600)
        unlimited) middle last ∧
      ∃ target, Returns (verifierMachine.restrict (looksInTime (fun _ : Unit => .lookup "key")
        600) unlimited) last () (.error .keysUnavailable) target := by
    have unread : ∀ (world : World Unit Unit), world.readers () = false →
        looksInTime (fun _ : Unit => .lookup "key") 600 () world .utcNow := by
      intro world unread _ _ reads
      rw [unread] at reads
      contradiction
    refine Steps.reach_perform () rfl (1000 : Int) ⟨unread _ rfl, rfl, rfl⟩ ?_
    refine Steps.reach_perform () rfl _ ⟨trivial, rfl, rfl⟩ ?_
    refine Steps.reach_perform () rfl () ⟨trivial, rfl⟩ ?_
    refine Steps.reach_perform () rfl _ ⟨?_, rfl, rfl, rfl⟩ ?_
    · rintro kid - ⟨usable, -⟩
      contradiction
    refine ⟨_, .refl _, List.mem_append_right _ (List.mem_singleton.mpr rfl), ?_⟩
    refine Steps.reach_perform () rfl (1000 : Int) ⟨unread _ rfl, rfl, rfl⟩ ?_
    refine Steps.reach_perform () rfl () ⟨trivial, rfl⟩ ?_
    refine Steps.reach_perform () rfl none ⟨trivial, rfl⟩ ?_
    exact ⟨_, .refl _, _, Returns.of_perform () rfl () (And.intro trivial rfl) rfl⟩
  rcases run with ⟨middle, run, locked, last, rest, target, returned⟩
  exact ⟨middle, last, target, run, ⟨_, locked⟩, rest, returned,
    outage_unserved (by decide) (by decide) run rfl ⟨_, locked⟩ rest returned⟩

/-- The first document holds the key `old`, the others hold `new`. -/
def rotatingLibrary : JwksLibrary Unit where
  parseJwks body := some
    [{ keyId := some (if body = [] then "old" else "new"), keyAlgorithm := some .rs256,
       publicKeyUse := some .signature, decodingKey := some () }]
  parseDiscovery := sampleLibrary.parseDiscovery
  parseUrl := sampleLibrary.parseUrl

/-- An iteration of the refresh loop, and two lookups of the rotated key. -/
def sampleRotation : Fin 3 → Job
  | 0 => .softRefresh
  | _ => .lookup "new"

/-- Two lookups of a rotated key miss the cache at 1100.  The first one fetches the new
key; the second one then obtains the lock, when the key is there, and reports an
outage. -/
theorem rotation_reported_outage :
    ∃ middle last target,
      Reached rotatingLibrary (.provider "https://login.example.com" 600) sampleRotation 1000
        middle ∧
      (∃ refresh, (⟨.lock, refresh⟩ : Event (Answer Unit)) ∈ middle.history 2) ∧
      Served 600 "new" middle.shared ∧
      Steps verifierMachine middle last ∧
      Returns verifierMachine last 2 (.error .keysUnavailable) target := by
  have run : ∃ middle,
      Reached rotatingLibrary (.provider "https://login.example.com" 600) sampleRotation 1000
        middle ∧
      (∃ refresh, (⟨.lock, refresh⟩ : Event (Answer Unit)) ∈ middle.history 2) ∧
      Served 600 "new" middle.shared ∧
      ∃ last, Steps verifierMachine middle last ∧
        ∃ target, Returns verifierMachine last 2 (.error .keysUnavailable) target := by
    refine Steps.reach_perform 0 rfl _ ⟨rfl, rfl, rfl⟩ ?_
    refine Steps.reach_perform 0 rfl (1000 : Int) ⟨rfl, rfl⟩ ?_
    refine Steps.reach_perform 0 rfl _ ⟨rfl, rfl⟩ ?_
    refine Steps.reach_perform 0 rfl () rfl ?_
    refine Steps.reach_perform 0 rfl () rfl ?_
    refine Steps.reach_perform 0 rfl (some sampleResponse) rfl ?_
    refine Steps.reach_perform 0 rfl (some []) rfl ?_
    refine Steps.reach_perform 0 rfl (some sampleResponse) rfl ?_
    refine Steps.reach_perform 0 rfl (some []) rfl ?_
    refine Steps.reach_perform 0 rfl (1000 : Int) ⟨rfl, rfl⟩ ?_
    refine Steps.reach_perform 0 rfl () ⟨by decide, rfl⟩ ?_
    refine Steps.reach_perform 0 rfl () rfl ?_
    refine Steps.reach_environment ⟨1100, by decide, by decide, rfl⟩ ?_
    -- both lookups miss
    refine Steps.reach_perform 1 rfl (1100 : Int) ⟨rfl, rfl⟩ ?_
    refine Steps.reach_perform 1 rfl _ ⟨rfl, rfl⟩ ?_
    refine Steps.reach_perform 1 rfl () rfl ?_
    refine Steps.reach_perform 2 rfl (1100 : Int) ⟨rfl, rfl⟩ ?_
    refine Steps.reach_perform 2 rfl _ ⟨rfl, rfl⟩ ?_
    refine Steps.reach_perform 2 rfl () rfl ?_
    -- the first one refreshes
    refine Steps.reach_perform 1 rfl _ ⟨rfl, rfl, rfl⟩ ?_
    refine Steps.reach_perform 1 rfl (1100 : Int) ⟨rfl, rfl⟩ ?_
    refine Steps.reach_perform 1 rfl () rfl ?_
    refine Steps.reach_perform 1 rfl (some sampleResponse) rfl ?_
    refine Steps.reach_perform 1 rfl (some []) rfl ?_
    refine Steps.reach_perform 1 rfl (some sampleResponse) rfl ?_
    refine Steps.reach_perform 1 rfl (some [0]) rfl ?_
    refine Steps.reach_perform 1 rfl (1100 : Int) ⟨rfl, rfl⟩ ?_
    refine Steps.reach_perform 1 rfl () ⟨by decide, rfl⟩ ?_
    refine Steps.reach_perform 1 rfl () rfl ?_
    refine Steps.reach_perform 2 rfl _ ⟨rfl, rfl, rfl⟩ ?_
    refine ⟨_, .refl _, ⟨_, List.mem_append_right _ (List.mem_singleton.mpr rfl)⟩, ?_, ?_⟩
    · exact ⟨rfl, by decide⟩
    refine Steps.reach_perform 2 rfl (1100 : Int) ⟨rfl, rfl⟩ ?_
    exact ⟨_, .refl _, _, Returns.of_perform 2 rfl () rfl rfl⟩
  rcases run with ⟨middle, reached, locked, served, last, rest, target, returned⟩
  exact ⟨middle, last, target, reached, locked, served, rest, returned⟩

end OidcExchange.Jwks
