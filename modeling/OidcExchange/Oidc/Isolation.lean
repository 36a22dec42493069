import OidcExchange.Oidc.Providers

/-!
# Isolation of the providers

An accepted assertion was checked with a key that the cache of its own provider
held, and the steps of the other providers can be deleted from a run without a
trace.  The provider is chosen by the unverified issuer; `validated_claims`
compares the issuer again, and the policy is searched by the verified one.
-/

namespace OidcExchange.Oidc

open OidcExchange.Jwks OidcExchange.Process OidcExchange.Workload

variable {ι K : Type}

/-! ## The key of an accepted assertion -/

/-- The cache that some look at it showed to hold `key` under `kid`. -/
def Seen (kid : String) (key : K) (history : List (Event (Answer K))) : Prop :=
  ∃ cache : KeyCache K, (⟨.readLock, cache⟩ : Event (Answer K)) ∈ history ∧
    cache.keys.lookup kid = some key

theorem Seen.snoc {kid : String} {key : K} {history : List (Event (Answer K))}
    (seen : Seen kid key history) (event : Event (Answer K)) :
    Seen kid key (history ++ [event]) := by
  rcases seen with ⟨cache, member, found⟩
  exact ⟨cache, List.mem_append_left _ member, found⟩

theorem lastLook_eq_ok {maxStaleness : Nat} {kid : String} {cache : KeyCache K} {now : Int}
    {key : K} (found : Jwks.ProviderVerifier.lastLook maxStaleness kid cache now = .ok key) :
    cache.keys.lookup kid = some key := by
  unfold Jwks.ProviderVerifier.lastLook at found
  split at found
  · contradiction
  · split at found
    · rename_i present
      cases found
      exact present
    · contradiction

/-- The key of a lookup was in the cache at one of its looks. -/
theorem key_lawful (library : JwksLibrary K) (issuer : String) (maxStaleness : Nat)
    (kid : String) (history : List (Event (Answer K))) :
    (Jwks.ProviderVerifier.key library issuer maxStaleness kid).Lawful (fun _ _ => True)
      (fun history result => ∀ key, result = .ok key → Seen kid key history) history := by
  refine ⟨trivial, fun now => ⟨trivial, fun cache => ?_⟩⟩
  dsimp only [Program.bind_done]
  split
  · rename_i key usable
    refine ⟨trivial, fun _ => ?_⟩
    intro found same
    cases same
    rw [Option.ite_none_right_eq_some] at usable
    exact Seen.snoc ⟨cache, List.mem_append_right _ (List.mem_singleton_self _), usable.2⟩ _
  · refine ⟨trivial, fun _ => ?_⟩
    dsimp only [Program.bind_done]
    split
    · intro key impossible
      contradiction
    · apply (lawful_unit _ _).bindOk
      · intro history failure _ key impossible
        contradiction
      · intro history _ _
        refine ⟨trivial, fun cache => ⟨trivial, fun now => ⟨trivial, fun _ => ?_⟩⟩⟩
        intro key found
        exact ((Seen.snoc ⟨cache, List.mem_append_right _ (List.mem_singleton_self _),
          lastLook_eq_ok found⟩ _).snoc _)

/-- What `verify` has established when it accepts an assertion: the library found the
signature valid with a key that the cache of the selected provider held. -/
structure Accepted (deployment : Deployment ι K) (call : ι) (claims : OidcClaims)
    (provider : ProviderVerifier) (kid : String) (key : K) : Prop where
  selected : deployment.verifiers.select deployment.tokens (deployment.assertions call) =
    some (kid, provider)
  signed : deployment.tokens.signed (deployment.assertions call) key = true
  payload : deployment.tokens.payload (deployment.assertions call) = some claims.values
  validated : claims.Validated provider.issuer provider.audience

theorem decode_eq_some {tokens : TokenLibrary K} {now : Int} {issuer audience assertion : String}
    {key : K} {values : AList fun _ : String => Json}
    (decoded : tokens.decode now issuer audience assertion key = some values) :
    tokens.signed assertion key = true ∧ tokens.payload assertion = some values := by
  rw [TokenLibrary.decode, Option.ite_none_right_eq_some, Bool.and_eq_true] at decoded
  exact ⟨decoded.1.1, decoded.2⟩

/-- The outcome of a call that accepts, with the look that brought the key. -/
def Justified (deployment : Deployment ι K) (call : ι) (history : List (Event (Answer K)))
    (outcome : Outcome) : Prop :=
  ∀ claims, outcome = .verified (.ok claims) →
    ∃ provider kid key, Accepted deployment call claims provider kid key ∧ Seen kid key history

theorem checkWith_lawful {deployment : Deployment ι K} {call : ι} {kid : String}
    {provider : ProviderVerifier} {key : K} {history : List (Event (Answer K))}
    (selected : deployment.verifiers.select deployment.tokens (deployment.assertions call) =
      some (kid, provider)) (seen : Seen kid key history) :
    (provider.checkWith deployment.tokens (deployment.assertions call) key).Lawful
      (fun _ _ => True)
      (fun history result => Justified deployment call history (.verified result)) history := by
  refine ⟨trivial, fun second => ?_⟩
  dsimp only [Program.bind_done]
  split
  · intro claims impossible
    simp at impossible
  · rename_i values decoded
    refine ⟨trivial, fun now => ?_⟩
    intro claims accepted
    rw [Outcome.verified.injEq] at accepted
    rcases validatedClaims_eq_ok accepted with ⟨validated, rfl⟩
    rcases decode_eq_some decoded with ⟨signed, payload⟩
    exact ⟨provider, kid, key, ⟨selected, signed, payload, validated⟩, (seen.snoc _).snoc _⟩

theorem verify_lawful (deployment : Deployment ι K) (call : ι) :
    (deployment.program (.verify call)).Lawful (fun _ _ => True)
      (Justified deployment call) [] := by
  have lawful : (deployment.verifiers.verify deployment.library deployment.tokens
      (deployment.assertions call)).Lawful (fun _ _ => True)
      (fun history result => Justified deployment call history (.verified result)) [] := by
    unfold OidcVerifierSet.verify
    split
    · intro claims impossible
      simp at impossible
    · rename_i kid provider selected
      apply (key_lawful _ _ _ _ _).bindOk
      · intro history failure _ claims impossible
        simp at impossible
      · intro history key seen
        exact checkWith_lawful selected (seen key rfl)
  apply lawful.bind
  intro history result justified
  exact justified

/-! ## Runs -/

section Runs

variable [DecidableEq ι] {deployment : Deployment ι K} {config target : Pool ι K}
  {action : Action ι K} {actions : List (Action ι K)} {clock : Int} {issuer : String}

/-- What a step does to a task. -/
theorem Deployment.Step.task_cases (step : deployment.Step config action target)
    (task : Task ι) :
    (target.tasks task = config.tasks task ∧ target.history task = config.history task) ∨
      (∃ issuer op next answer world, deployment.home task = some issuer ∧
        config.tasks task = some (.call op next) ∧
        Jwks.perform task (config.shared.worlds issuer) op answer world ∧
        target.tasks task = some (next answer) ∧
        target.history task = config.history task ++ [⟨op, answer⟩]) ∨
      target.tasks task = none ∧ target.history task = config.history task := by
  cases step with
  | @perform performer issuer op next answer world home begun running effect =>
      by_cases same : task = performer
      · subst same
        exact Or.inr (Or.inl ⟨issuer, op, next, answer, world, home, running, effect,
          Config.resume_tasks_self, Config.resume_history_self⟩)
      · exact Or.inl ⟨Config.resume_tasks_of_ne same, Config.resume_history_of_ne same⟩
  | @cancel dropped issuer op next home begun running waiting =>
      by_cases same : task = dropped
      · subst same
        exact Or.inr (Or.inr ⟨Config.drop_tasks_self, rfl⟩)
      · exact Or.inl ⟨Config.drop_tasks_of_ne same, rfl⟩
  | clock now => exact Or.inl ⟨rfl, rfl⟩
  | joined awake all => exact Or.inl ⟨rfl, rfl⟩
  | woken asleep => exact Or.inl ⟨rfl, rfl⟩

/-- A call that returns is justified by its history. -/
theorem justified_of_run (run : Run deployment.Step (deployment.start clock) actions config)
    {call : ι} {outcome : Outcome} (returned : config.tasks (.verify call) = some (.done outcome)) :
    Justified deployment call (config.history (.verify call)) outcome := by
  have lawful : ∀ program, config.tasks (.verify call) = some program →
      program.Lawful (fun _ _ => True) (Justified deployment call)
        (config.history (.verify call)) := by
    refine run.invariant (fun config => ∀ program, config.tasks (.verify call) = some program →
      program.Lawful (fun _ _ => True) (Justified deployment call)
        (config.history (.verify call))) ?_ ?_
    · intro source action target lawful step program present
      rcases step.task_cases (.verify call) with ⟨tasks, history⟩ |
        ⟨_, op, next, answer, _, _, running, _, tasks, history⟩ | ⟨tasks, _⟩
      · rw [tasks] at present
        rw [history]
        exact lawful program present
      · rw [tasks, Option.some.injEq] at present
        subst present
        rw [history]
        exact (lawful _ running).2 answer
      · rw [tasks] at present
        contradiction
    · intro program present
      cases present
      exact verify_lawful deployment call
  exact lawful _ returned

/-- A cache that a task has seen was the cache of its provider. -/
theorem visits_of_seen {task : Task ι} {cache : KeyCache K}
    (run : Run deployment.Step (deployment.start clock) actions config)
    (seen : (⟨.readLock, cache⟩ : Event (Answer K)) ∈ config.history task) :
    Visits deployment.Step (deployment.start clock) actions config fun earlier =>
      ∃ issuer, deployment.home task = some issuer ∧
        (earlier.shared.worlds issuer).cache = cache := by
  refine (run.visits_of_gained
    (fun config => (⟨.readLock, cache⟩ : Event (Answer K)) ∈ config.history task)
    ?_ seen).resolve_left ?_
  · intro source action target step gained
    rcases step.task_cases task with ⟨_, history⟩ |
      ⟨issuer, op, next, answer, world, home, _, effect, _, history⟩ | ⟨_, history⟩
    · rw [history] at gained
      exact Or.inl gained
    · rw [history, List.mem_append, List.mem_singleton] at gained
      rcases gained with already | now
      · exact Or.inl already
      · cases now
        exact Or.inr ⟨issuer, home, effect.1.symm⟩
    · rw [history] at gained
      exact Or.inl gained
  · exact List.not_mem_nil

end Runs

/-! ## One provider of the set -/

variable {parseUrl : String → Option Url} {maxStaleness : Nat} {policy : OidcPolicy}
  {provider : OidcProviderPolicy}

theorem OidcPolicy.Valid.eq_of_issuer_eq (valid : policy.Valid parseUrl)
    {other : OidcProviderPolicy} (member : provider ∈ policy.providers)
    (otherMember : other ∈ policy.providers) (same : other.issuer = provider.issuer) :
    other = provider := by
  have found := valid.find?_issuer otherMember
  rw [same, valid.find?_issuer member, Option.some.injEq] at found
  exact found.symm

theorem OidcPolicy.Valid.only_providers (valid : policy.Valid parseUrl)
    (member : provider ∈ policy.providers) :
    (policy.only provider.issuer).providers = [provider] :=
  valid.filter_issuer member

/-- A provider of a valid policy forms a valid policy by itself. -/
theorem OidcPolicy.Valid.only (valid : policy.Valid parseUrl)
    (member : provider ∈ policy.providers) : (policy.only provider.issuer).Valid parseUrl := by
  have single := valid.only_providers member
  constructor
  · exact valid.version
  · rw [single]
    exact List.cons_ne_nil _ _
  · rw [single, List.length_singleton]
    decide
  · rw [single]
    intro other only
    rw [List.mem_singleton.mp only]
    exact valid.providers provider member
  · rw [single]
    exact List.pairwise_singleton _ _

/-- The policy of one provider decides about its claims as the whole policy does. -/
theorem OidcPolicy.Valid.only_authorize (valid : policy.Valid parseUrl)
    (member : provider ∈ policy.providers) {claims : OidcClaims}
    (issuer : claims.issuer = provider.issuer) :
    (policy.only provider.issuer).authorize claims = policy.authorize claims := by
  have found := valid.find?_issuer member
  have foundAlone := (valid.only member).find?_issuer
    ((valid.only_providers member).symm ▸ List.mem_singleton_self provider)
  simp only [OidcPolicy.authorize, issuer, found, foundAlone]

theorem OidcVerifierSet.mem_ofProviders (maxStaleness : Nat)
    {providers : List OidcProviderPolicy} (member : provider ∈ providers) :
    provider.issuer ∈ (OidcVerifierSet.ofProviders maxStaleness providers).providers := by
  unfold OidcVerifierSet.ofProviders
  dsimp only
  induction providers using List.reverseRecOn with
  | nil => contradiction
  | append_singleton earlier last inductionHypothesis =>
      rw [List.foldl_append, List.foldl_cons, List.foldl_nil, AList.mem_insert]
      rcases List.mem_append.mp member with member | member
      · exact Or.inr (inductionHypothesis member)
      · rw [List.mem_singleton.mp member]
        exact Or.inl rfl

theorem OidcPolicy.Valid.lookup_ofProviders (valid : policy.Valid parseUrl)
    (member : provider ∈ policy.providers) :
    (OidcVerifierSet.ofProviders maxStaleness policy.providers).providers.lookup provider.issuer =
      some ⟨provider.issuer, provider.audience, maxStaleness⟩ := by
  rcases Option.isSome_iff_exists.mp (AList.lookup_isSome.mpr
    (OidcVerifierSet.mem_ofProviders maxStaleness member)) with ⟨verifier, found⟩
  rcases OidcVerifierSet.ofProviders_lookup found with ⟨other, otherMember, same, rfl⟩
  rw [found, valid.eq_of_issuer_eq member otherMember same]

/-- The verifiers of a set without all providers but one. -/
structure OidcVerifierSet.Isolates (alone verifiers : OidcVerifierSet) (issuer : String) :
    Prop where
  keyed : ∀ other provider, verifiers.providers.lookup other = some provider →
    provider.issuer = other
  lookup : alone.providers.lookup issuer = verifiers.providers.lookup issuer
  member : issuer ∈ verifiers.providers
  only : ∀ other ∈ alone.providers, other = issuer

theorem OidcPolicy.Valid.isolates (valid : policy.Valid parseUrl) (maxStaleness : Nat)
    (member : provider ∈ policy.providers) :
    OidcVerifierSet.Isolates
      (.ofProviders maxStaleness (policy.only provider.issuer).providers)
      (.ofProviders maxStaleness policy.providers) provider.issuer := by
  have single := valid.only_providers member
  constructor
  · intro other verifier found
    rcases OidcVerifierSet.ofProviders_lookup found with ⟨configured, _, same, rfl⟩
    exact same
  · rw [valid.lookup_ofProviders member]
    apply (valid.only member).lookup_ofProviders
    rw [single]
    exact List.mem_singleton_self provider
  · exact OidcVerifierSet.mem_ofProviders maxStaleness member
  · intro other present
    rcases Option.isSome_iff_exists.mp (AList.lookup_isSome.mpr present) with ⟨verifier, found⟩
    rcases OidcVerifierSet.ofProviders_lookup found with ⟨configured, only, same, _⟩
    rw [single, List.mem_singleton] at only
    rw [← same, only]

/-- The tasks of the issuer: its refreshes, and the calls that name it. -/
def Deployment.Names (deployment : Deployment ι K) (issuer : String) : Task ι → Prop
  | .verify call =>
      deployment.tokens.unverifiedIssuer (deployment.assertions call) = some issuer
  | .refresh _ other => other = issuer

section Unwinding

variable {deployment : Deployment ι K} {alone : OidcVerifierSet} {issuer : String}
  {task : Task ι}

/-- `select` looks up the named issuer only. -/
theorem OidcVerifierSet.Isolates.select_eq (isolates : alone.Isolates deployment.verifiers issuer)
    {assertion : String} (named : deployment.tokens.unverifiedIssuer assertion = some issuer) :
    alone.select deployment.tokens assertion =
      deployment.verifiers.select deployment.tokens assertion := by
  simp only [OidcVerifierSet.select, named, isolates.lookup]

theorem OidcVerifierSet.Isolates.home_eq (isolates : alone.Isolates deployment.verifiers issuer)
    (named : deployment.Names issuer task) :
    Deployment.home { deployment with verifiers := alone } task = deployment.home task := by
  cases task with
  | verify call => simp only [Deployment.home, isolates.select_eq named]
  | refresh round other =>
      have same : other = issuer := named
      subst same
      simp only [Deployment.home, isolates.lookup]

theorem OidcVerifierSet.Isolates.program_eq
    (isolates : alone.Isolates deployment.verifiers issuer)
    (named : deployment.Names issuer task) :
    Deployment.program { deployment with verifiers := alone } task = deployment.program task := by
  cases task with
  | verify call => simp only [Deployment.program, OidcVerifierSet.verify, isolates.select_eq named]
  | refresh round other => rfl

/-- A task uses the cache of the issuer that it names. -/
theorem OidcVerifierSet.Isolates.names_of_home
    (isolates : alone.Isolates deployment.verifiers issuer) {own : String}
    (home : deployment.home task = some own) : deployment.Names own task := by
  cases task with
  | verify call =>
      rcases Option.map_eq_some_iff.mp home with ⟨⟨kid, provider⟩, selected, rfl⟩
      rcases OidcVerifierSet.select_eq_some selected with ⟨named, unverified, found⟩
      rw [Deployment.Names, unverified, isolates.keyed named provider found]
  | refresh round other =>
      rcases Option.map_eq_some_iff.mp home with ⟨provider, found, rfl⟩
      exact (isolates.keyed other provider found).symm

theorem Deployment.Names.unique {other : String} (named : deployment.Names issuer task)
    (alsoNamed : deployment.Names other task) : issuer = other := by
  cases task with
  | verify call => exact Option.some.inj (named.symm.trans alsoNamed)
  | refresh round own => exact named.symm.trans alsoNamed

/-- A deleted step belongs to a task of another provider. -/
theorem OidcVerifierSet.Isolates.foreign
    (isolates : alone.Isolates deployment.verifiers issuer) {own : String}
    (home : deployment.home task = some own)
    (deleted : (deployment.home task == some issuer) = false) :
    issuer ≠ own ∧ ¬ deployment.Names issuer task := by
  rw [home, beq_eq_false_iff_ne, ne_eq, Option.some.injEq] at deleted
  constructor
  · exact Ne.symm deleted
  · intro names
    exact deleted (names.unique (isolates.names_of_home home)).symm

/-- The two pools look alike to the provider of the issuer. -/
structure Agrees (deployment : Deployment ι K) (issuer : String) (config seen : Pool ι K) :
    Prop where
  world : seen.shared.worlds issuer = config.shared.worlds issuer
  round : seen.shared.round = config.shared.round
  sleeping : seen.shared.sleeping = config.shared.sleeping
  tasks : ∀ task, deployment.Names issuer task → seen.tasks task = config.tasks task
  history : ∀ task, deployment.Names issuer task → seen.history task = config.history task

variable {config seen : Pool ι K}

/-- Any move of the clock or of the loop that both sides make. -/
theorem Agrees.shared (agrees : Agrees deployment issuer config seen)
    {after seenAfter : Providers ι K}
    (world : seenAfter.worlds issuer = after.worlds issuer)
    (round : seenAfter.round = after.round) (sleeping : seenAfter.sleeping = after.sleeping) :
    Agrees deployment issuer { config with shared := after } { seen with shared := seenAfter } :=
  ⟨world, round, sleeping, agrees.tasks, agrees.history⟩

/-- Before the first step the provider sees no difference. -/
theorem OidcVerifierSet.Isolates.agrees_start
    (isolates : alone.Isolates deployment.verifiers issuer) (clock : Int) :
    Agrees deployment issuer (deployment.start clock)
      (Deployment.start { deployment with verifiers := alone } clock) := by
  constructor
  · rfl
  · rfl
  · rfl
  · intro task names
    exact congrArg some (isolates.program_eq names)
  · intro task names
    rfl

variable [DecidableEq ι] {own : String} {op : Op K}
  {answer : Answer K op} {next : KeyProgram K Outcome} {world : World (Task ι) K}

/-- A step of another provider changes nothing that the provider sees. -/
theorem Agrees.resume_other (agrees : Agrees deployment issuer config seen)
    (other : ¬ deployment.Names issuer task) (different : issuer ≠ own) :
    Agrees deployment issuer
      (config.resume task ⟨op, answer⟩ (config.shared.setWorld own world) next) seen := by
  have foreign : ∀ named, deployment.Names issuer named → named ≠ task := by
    rintro named names rfl
    exact other names
  constructor
  · exact agrees.world.trans (Function.update_of_ne different _ _).symm
  · exact agrees.round
  · exact agrees.sleeping
  · intro named names
    rw [agrees.tasks named names, Config.resume_tasks_of_ne (foreign named names)]
  · intro named names
    rw [agrees.history named names, Config.resume_history_of_ne (foreign named names)]

theorem Agrees.drop_other (agrees : Agrees deployment issuer config seen)
    (other : ¬ deployment.Names issuer task) (different : issuer ≠ own) :
    Agrees deployment issuer (config.drop task (config.shared.setWorld own world)) seen := by
  constructor
  · exact agrees.world.trans (Function.update_of_ne different _ _).symm
  · exact agrees.round
  · exact agrees.sleeping
  · intro named names
    rw [agrees.tasks named names, Config.drop_tasks_of_ne]
    rintro rfl
    exact other names
  · exact agrees.history

/-- A step of the provider has the same effect on both sides. -/
theorem Agrees.resume (agrees : Agrees deployment issuer config seen)
    (names : deployment.Names issuer task) :
    Agrees deployment issuer
      (config.resume task ⟨op, answer⟩ (config.shared.setWorld issuer world) next)
      (seen.resume task ⟨op, answer⟩ (seen.shared.setWorld issuer world) next) := by
  constructor
  · simp only [Config.resume_shared, Providers.setWorld, Function.update_self]
  · exact agrees.round
  · exact agrees.sleeping
  · intro named alsoNames
    by_cases same : named = task
    · subst same
      rw [Config.resume_tasks_self, Config.resume_tasks_self]
    · rw [Config.resume_tasks_of_ne same, Config.resume_tasks_of_ne same,
        agrees.tasks named alsoNames]
  · intro named alsoNames
    by_cases same : named = task
    · subst same
      rw [Config.resume_history_self, Config.resume_history_self, agrees.history named names]
    · rw [Config.resume_history_of_ne same, Config.resume_history_of_ne same,
        agrees.history named alsoNames]

theorem Agrees.drop (agrees : Agrees deployment issuer config seen)
    (names : deployment.Names issuer task) :
    Agrees deployment issuer (config.drop task (config.shared.setWorld issuer world))
      (seen.drop task (seen.shared.setWorld issuer world)) := by
  constructor
  · simp only [Config.drop_shared, Providers.setWorld, Function.update_self]
  · exact agrees.round
  · exact agrees.sleeping
  · intro named alsoNames
    by_cases same : named = task
    · subst same
      rw [Config.drop_tasks_self, Config.drop_tasks_self]
    · rw [Config.drop_tasks_of_ne same, Config.drop_tasks_of_ne same,
        agrees.tasks named alsoNames]
  · exact agrees.history

theorem OidcVerifierSet.Isolates.agrees_of_deleted
    (isolates : alone.Isolates deployment.verifiers issuer) {action : Action ι K}
    {target : Pool ι K} (agrees : Agrees deployment issuer config seen)
    (step : deployment.Step config action target)
    (deleted : deployment.concerns issuer action = false) :
    Agrees deployment issuer target seen := by
  cases step with
  | perform home begun running effect =>
      rcases isolates.foreign home deleted with ⟨different, other⟩
      exact agrees.resume_other other different
  | cancel home begun running waiting =>
      rcases isolates.foreign home deleted with ⟨different, other⟩
      exact agrees.drop_other other different
  | clock now => contradiction
  | joined awake all => contradiction
  | woken asleep => contradiction

theorem OidcVerifierSet.Isolates.exists_kept
    (isolates : alone.Isolates deployment.verifiers issuer) {action : Action ι K}
    {target : Pool ι K} (agrees : Agrees deployment issuer config seen)
    (step : deployment.Step config action target)
    (kept : deployment.concerns issuer action = true) :
    ∃ after, Deployment.Step { deployment with verifiers := alone } seen action after ∧
      Agrees deployment issuer target after := by
  cases step with
  | @perform task own op next answer world home begun running effect =>
      have same : own = issuer := Option.some.inj (home.symm.trans (beq_iff_eq.mp kept))
      subst same
      have names := isolates.names_of_home home
      rw [← agrees.world] at effect
      rw [← agrees.round] at begun
      rw [← agrees.tasks task names] at running
      rw [← isolates.home_eq names] at home
      exact ⟨_, .perform home begun running effect, agrees.resume names⟩
  | @cancel task own op next home begun running waiting =>
      have same : own = issuer := Option.some.inj (home.symm.trans (beq_iff_eq.mp kept))
      subst same
      have names := isolates.names_of_home home
      rw [← agrees.round] at begun
      rw [← agrees.tasks task names] at running
      rw [← isolates.home_eq names] at home
      refine ⟨_, .cancel home begun running waiting, ?_⟩
      rw [agrees.world]
      exact agrees.drop names
  | clock now =>
      refine ⟨_, .clock now, agrees.shared ?_ agrees.round agrees.sleeping⟩
      simp only [Providers.setClock, agrees.world]
  | joined awake all =>
      refine ⟨_, .joined (agrees.sleeping.trans awake) ?_,
        agrees.shared agrees.world agrees.round rfl⟩
      intro other member
      have names : deployment.Names issuer (.refresh config.shared.round issuer) := rfl
      rw [isolates.only other member, agrees.round, agrees.tasks _ names]
      exact all issuer isolates.member
  | woken asleep =>
      refine ⟨_, .woken (agrees.sleeping.trans asleep), agrees.shared agrees.world ?_ rfl⟩
      exact congrArg (· + 1) agrees.round

/-- The steps of the other providers can be deleted. -/
theorem OidcVerifierSet.Isolates.unwinds
    (isolates : alone.Isolates deployment.verifiers issuer) :
    Unwinds deployment.Step (Deployment.Step { deployment with verifiers := alone })
      (deployment.concerns issuer) (Agrees deployment issuer) where
  delete := isolates.agrees_of_deleted
  keep := isolates.exists_kept

end Unwinding

theorem exactAudience_iff {value : Option Json} {audience : String} :
    exactAudience value audience = true ↔
      value = some (.string audience) ∨ value = some (.array [.string audience]) := by
  constructor
  · intro exact
    unfold exactAudience at exact
    split at exact
    · rw [beq_iff_eq] at exact
      exact Or.inl (by rw [exact])
    · rename_i element
      rw [Option.any_eq_true] at exact
      rcases exact with ⟨actual, isString, same⟩
      rw [beq_iff_eq] at same
      rw [Json.asStr_eq_some_iff.mp isString, same]
      exact Or.inr rfl
    · contradiction
  · rintro (rfl | rfl)
    · exact beq_self_eq_true audience
    · exact beq_self_eq_true audience

/-- The providers of a valid policy are isolated in every run, whatever key sets they
publish.  An accepted assertion was checked with a key from the cache of the
provider that its claims name, carries exactly the audience of that provider, and
can only get a task of that provider's bindings.  When the steps of all other
providers are deleted, the rest is a run of the service that is configured with
this provider only, and the provider's calls, its cache and its refresh marks are
the same in it. -/
theorem providers_isolated [DecidableEq ι] {deployment : Deployment ι K}
    (discovered :
      OidcVerifierSet.discover parseUrl maxStaleness policy = .ok deployment.verifiers)
    {clock : Int} {actions : List (Action ι K)} {config : Pool ι K}
    (run : Run deployment.Step (deployment.start clock) actions config) :
    (∀ call claims, config.tasks (.verify call) = some (.done (.verified (.ok claims))) →
      ∃ provider ∈ policy.providers, provider.issuer = claims.issuer ∧
        (∀ other ∈ policy.providers, other.issuer = claims.issuer → other = provider) ∧
        (∃ kid key, deployment.tokens.signed (deployment.assertions call) key = true ∧
          Visits deployment.Step (deployment.start clock) actions config fun earlier =>
            (earlier.shared.worlds claims.issuer).cache.keys.lookup kid = some key) ∧
        deployment.tokens.payload (deployment.assertions call) = some claims.values ∧
        (claims.values.lookup "aud" = some (.string provider.audience) ∨
          claims.values.lookup "aud" = some (.array [.string provider.audience])) ∧
        ∀ task, policy.authorize claims = .ok task →
          ∃ binding ∈ provider.bindings, binding.accepts claims = true ∧ binding.task = task) ∧
    ∀ provider ∈ policy.providers, ∃ alone seen,
      OidcVerifierSet.discover parseUrl maxStaleness (policy.only provider.issuer) = .ok alone ∧
      Run (Deployment.Step { deployment with verifiers := alone })
        (Deployment.start { deployment with verifiers := alone } clock)
        (actions.filter (deployment.concerns provider.issuer)) seen ∧
      Agrees deployment provider.issuer config seen ∧
      ∀ claims, claims.issuer = provider.issuer →
        (policy.only provider.issuer).authorize claims = policy.authorize claims := by
  rcases OidcVerifierSet.discover_eq_ok discovered with ⟨accepted, verifiers⟩
  have valid := OidcPolicy.validate_eq_ok_iff.mp accepted
  constructor
  · intro call claims returned
    rcases justified_of_run run returned claims rfl with
      ⟨verifier, kid, key, accepted, cache, seen, found⟩
    rcases OidcVerifierSet.select_eq_some accepted.selected with ⟨issuer, _, selected⟩
    rw [verifiers] at selected
    rcases OidcVerifierSet.ofProviders_lookup selected with ⟨provider, member, _, rfl⟩
    have issuerEq : claims.issuer = provider.issuer := accepted.validated.issuer
    refine ⟨provider, member, issuerEq.symm, ?_, ⟨kid, key, accepted.signed, ?_⟩,
      accepted.payload, exactAudience_iff.mp accepted.validated.audience, ?_⟩
    · intro other otherMember same
      exact valid.eq_of_issuer_eq member otherMember (same.trans issuerEq)
    · have home : deployment.home (.verify call) = some claims.issuer := by
        rw [Deployment.home, accepted.selected, issuerEq]
        rfl
      apply (visits_of_seen run seen).mono
      rintro earlier ⟨own, ownHome, rfl⟩
      rw [home, Option.some.injEq] at ownHome
      rw [ownHome]
      exact found
    · intro task authorized
      rcases valid.authorize_eq_ok_iff.mp authorized with
        ⟨other, otherMember, same, binding, bound, satisfied, taskEq⟩
      rw [valid.eq_of_issuer_eq member otherMember (same.trans issuerEq)] at bound
      exact ⟨binding, bound, OidcBinding.accepts_iff.mpr satisfied, taskEq⟩
  · intro provider member
    have isolates := valid.isolates maxStaleness member
    rw [← verifiers] at isolates
    rcases run.delete isolates.unwinds (isolates.agrees_start clock) with ⟨seen, rest, agrees⟩
    refine ⟨_, seen, ?_, rest, agrees, ?_⟩
    · rw [OidcVerifierSet.discover, OidcPolicy.validate_eq_ok_iff.mpr (valid.only member)]
    · intro claims issuer
      exact valid.only_authorize member issuer

/-- The parts of the URLs of two sample issuers. -/
def pairUrl (value : String) : Option Url :=
  some
    { scheme := "https"
      host := some (if Text.startsWith value "https://a.example" then "a.example" else "b.example")
      portOrKnownDefault := some 443
      username := ""
      password := none
      query := none
      fragment := none }

def pairIssuer : Bool → String
  | true => "https://a.example"
  | false => "https://b.example"

/-- Two providers with the same audience and bindings. -/
def pairPolicy : OidcPolicy where
  version := oidcPolicyVersion
  providers := [true, false].map fun name =>
    { issuer := pairIssuer name
      audience := "exchange"
      bindings := [{ claims := AList.singleton "sub" "job", task := sampleTask }] }

/-- Both providers publish one key under the same ID, the first one `true` and the
second one `false`. -/
def pairLibrary : JwksLibrary Bool where
  parseJwks body := some
    [{ keyId := some "key"
       keyAlgorithm := some .rs256
       publicKeyUse := some .signature
       decodingKey := some (body == [1]) }]
  parseDiscovery body := some
    { issuer := pairIssuer (body == [1])
      jwksUri := pairIssuer (body == [1]) ++ "/keys" }
  parseUrl := pairUrl

def pairPayload (issuer : String) : AList fun _ : String => Json :=
  (((((AList.singleton "sub" (Json.string "job")).insert "iss" (.string issuer)).insert "aud"
    (.string "exchange")).insert "exp" (.integer 1000)).insert "iat" (.integer 800)).insert "jti"
      (.string "a")

/-- Assertions that name an issuer and are signed with the key of it. -/
def pairTokens : TokenLibrary Bool where
  decodeHeader _ := some ⟨.rs256, some "JWT", some "key"⟩
  unverifiedIssuer assertion := some (pairIssuer (assertion == "a"))
  signed assertion key := (assertion == "a") == key
  validates _ _ _ _ := true
  payload assertion := some (pairPayload (pairIssuer (assertion == "a")))

def pairDeployment : Deployment Bool Bool where
  library := pairLibrary
  tokens := pairTokens
  verifiers := .ofProviders 600 pairPolicy.providers
  assertions
    | true => "a"
    | false => "b"

theorem pair_discovered :
    OidcVerifierSet.discover pairUrl 600 pairPolicy = .ok pairDeployment.verifiers := by
  have valid : pairPolicy.validate pairUrl = .ok () := by decide +kernel
  rw [OidcVerifierSet.discover, valid]
  rfl

theorem pair_home (call : Bool) :
    pairDeployment.home (.verify call) = some (pairIssuer call) := by
  cases call with
  | false => decide +kernel
  | true => decide +kernel

/-- Reach a goal by letting a call perform its next operation. -/
theorem pair_reach {goal : Pool Bool Bool → Prop} {config : Pool Bool Bool} (call : Bool)
    {op : Op Bool} {next : Answer Bool op → KeyProgram Bool Outcome}
    (running : config.tasks (.verify call) = some (.call op next)) (answer : Answer Bool op)
    {world : World (Task Bool) Bool}
    (effect : Jwks.perform (.verify call) (config.shared.worlds (pairIssuer call)) op answer world)
    (rest : ∃ actions target, Run pairDeployment.Step
      (config.resume (.verify call) ⟨op, answer⟩ (config.shared.setWorld (pairIssuer call) world)
        (next answer)) actions target ∧ goal target) :
    ∃ actions target, Run pairDeployment.Step config actions target ∧ goal target :=
  Run.reach (.perform (pair_home call) trivial running effect) rest

/-- A call for the first provider is accepted while the second provider installs
another key under the same ID. -/
theorem pair_run :
    ∃ actions config, Run pairDeployment.Step (pairDeployment.start 900) actions config ∧
      ((∃ claims, config.tasks (.verify true) = some (.done (.verified (.ok claims)))) ∧
      (config.shared.worlds (pairIssuer false)).cache.keys.lookup "key" = some false) := by
  have unread : ∀ (readers : Task Bool → Bool), readers (.verify true) = false →
      readers (.verify false) = false → (∀ round issuer, readers (.refresh round issuer) = false) →
        ∀ task, readers task = false := by
    intro readers first second refreshes task
    cases task with
    | verify call =>
        cases call with
        | false => exact second
        | true => exact first
    | refresh round issuer => exact refreshes round issuer
  refine pair_reach true rfl (900 : Int) ⟨rfl, rfl⟩ ?_
  refine pair_reach true rfl _ ⟨rfl, rfl⟩ ?_
  refine pair_reach false rfl (900 : Int) ⟨rfl, rfl⟩ ?_
  refine pair_reach false rfl _ ⟨rfl, rfl⟩ ?_
  refine pair_reach false rfl () rfl ?_
  refine pair_reach true rfl () rfl ?_
  refine pair_reach false rfl _ ⟨rfl, rfl, rfl⟩ ?_
  refine pair_reach true rfl _ ⟨rfl, rfl, rfl⟩ ?_
  refine pair_reach true rfl (900 : Int) ⟨rfl, rfl⟩ ?_
  refine pair_reach true rfl () rfl ?_
  refine pair_reach true rfl (some ⟨200, none⟩) rfl ?_
  refine pair_reach true rfl (some [1]) rfl ?_
  refine pair_reach false rfl (900 : Int) ⟨rfl, rfl⟩ ?_
  refine pair_reach false rfl () rfl ?_
  refine pair_reach false rfl (some ⟨200, none⟩) rfl ?_
  refine pair_reach false rfl (some [0]) rfl ?_
  refine pair_reach false rfl (some ⟨200, none⟩) rfl ?_
  refine pair_reach false rfl (some [0]) rfl ?_
  refine pair_reach false rfl (900 : Int) ⟨rfl, rfl⟩ ?_
  refine pair_reach false rfl () ⟨unread _ rfl rfl fun _ _ => rfl, rfl⟩ ?_
  refine pair_reach true rfl (some ⟨200, none⟩) rfl ?_
  refine pair_reach true rfl (some [1]) rfl ?_
  refine pair_reach true rfl (900 : Int) ⟨rfl, rfl⟩ ?_
  refine pair_reach true rfl () ⟨unread _ rfl rfl fun _ _ => rfl, rfl⟩ ?_
  refine pair_reach true rfl () rfl ?_
  refine pair_reach true rfl _ ⟨rfl, rfl⟩ ?_
  refine pair_reach true rfl (900 : Int) ⟨rfl, rfl⟩ ?_
  refine pair_reach true rfl () rfl ?_
  refine pair_reach true rfl (900 : Int) ⟨rfl, rfl⟩ ?_
  refine pair_reach true rfl (900 : Int) ⟨rfl, rfl⟩ ?_
  exact ⟨_, _, .refl _, ⟨⟨pairIssuer true, "job", 1000, 800, some "a", none, _⟩, rfl⟩, rfl⟩

theorem providers_isolated_sample :
    ∃ actions config claims seen alone,
      OidcVerifierSet.discover pairUrl 600 pairPolicy = .ok pairDeployment.verifiers ∧
      Run pairDeployment.Step (pairDeployment.start 900) actions config ∧
      config.tasks (.verify true) = some (.done (.verified (.ok claims))) ∧
      (config.shared.worlds (pairIssuer false)).cache.keys.lookup "key" = some false ∧
      (∃ kid key, pairTokens.signed "a" key = true ∧
        Visits pairDeployment.Step (pairDeployment.start 900) actions config fun earlier =>
          (earlier.shared.worlds claims.issuer).cache.keys.lookup kid = some key) ∧
      Run (Deployment.Step { pairDeployment with verifiers := alone })
        (Deployment.start { pairDeployment with verifiers := alone } 900)
        (actions.filter (pairDeployment.concerns (pairIssuer true))) seen ∧
      Agrees pairDeployment (pairIssuer true) config seen := by
  rcases pair_run with ⟨actions, config, run, ⟨claims, accepted⟩, installed⟩
  have isolated := providers_isolated pair_discovered run
  rcases isolated.1 true claims accepted with ⟨_, _, _, _, key, _⟩
  rcases isolated.2 _ List.mem_cons_self with ⟨alone, seen, _, rest, agrees, _⟩
  exact ⟨actions, config, claims, seen, alone, pair_discovered, run, accepted, installed, key,
    rest, agrees⟩

end OidcExchange.Oidc
