import OidcExchange.Jwks.Freshness

/-!
# Verdicts on unknown keys

The GitHub verifier reports an unknown key ID as an invalid assertion only after
a fetch that could have brought the key.  The mark of a forced attempt is set
before the fetch and its outcome is recorded after it, so a lookup that is
dropped in between leaves a mark with the outcome of an earlier attempt.
-/

namespace OidcExchange.Jwks

open OidcExchange.Process

variable {ι K : Type}

/-- A lookup is not dropped in its forced refresh, unless the last recorded outcome
is a failure. -/
def dropsRecorded (task : ι) (world : World ι K) (_ : Op K) : Prop :=
  world.forcing task = false ∨ world.refresh.lastForcedFailed = true

section Runs

variable [DecidableEq ι] {library : JwksLibrary K} {jwksUrl : String} {maxStaleness : Nat}
  {jobs : ι → Job} {clock : Int}
  {config target : Config ι (Answer K) (World ι K) (Except VerifyError (Option K))}

/-- An unknown key is reported as invalid only if the cache is usable and lacks it
and a fetch has succeeded that started at or after the last forced attempt; in
all other cases it is reported as an outage. -/
theorem invalid_only_if_refuted (lower : i64Min ≤ clock) (upper : clock ≤ i64Max)
    (run : Steps (verifierMachine.restrict unlimited dropsRecorded)
      (.initial (.start clock) fun task =>
        (jobs task).program library (.github jwksUrl maxStaleness)) config)
    {task : ι} {kid : String} (job : jobs task = .lookup kid)
    {result : Except VerifyError (Option K)}
    (returned : Returns (verifierMachine.restrict unlimited dropsRecorded) config task result
      target) :
    (result = .error .invalid → Refuted maxStaleness task kid target.shared) ∧
      (target.shared.cache.keys.lookup kid = none →
        ¬ Refuted maxStaleness task kid target.shared → result = .error .keysUnavailable) := by
  have spares : SparesForced (dropsRecorded : ι → World ι K → Op K → Prop) :=
    fun _ _ _ may => may
  have known := (holds_of_steps (fun _ _ _ impossible => by contradiction) lower upper
    run).returns returned
  rw [job] at known
  rcases known with ⟨found, refuted⟩
  have refuted : result = .error .invalid → Refuted maxStaleness task kid target.shared :=
    fun invalid => refuted jwksUrl maxStaleness rfl invalid spares
  refine ⟨refuted, ?_⟩
  intro absent notRefuted
  cases result with
  | ok key =>
      rcases found key rfl with ⟨key, -, lookup, -⟩
      rw [absent] at lookup
      contradiction
  | error failure =>
      cases failure with
      | invalid => exact absurd (refuted rfl) notRefuted
      | keysUnavailable => rfl

end Runs

/-- A lookup at 1100 fetches the keys again and then reports the key as unknown. -/
theorem invalid_only_if_refuted_sample :
    ∃ config target,
      Steps (verifierMachine.restrict unlimited dropsRecorded)
        (.initial (.start 1000) fun _ : Unit =>
          (Job.lookup "rotated").program sampleLibrary (.github "https://keys.example.com" 600))
        config ∧
      Returns (verifierMachine.restrict unlimited dropsRecorded) config ()
        (.error .invalid) target ∧
      Refuted 600 () "rotated" target.shared := by
  have run : ∃ config,
      Steps (verifierMachine.restrict unlimited dropsRecorded)
        (.initial (.start 1000) fun _ : Unit =>
          (Job.lookup "rotated").program sampleLibrary (.github "https://keys.example.com" 600))
        config ∧
      ∃ target, Returns (verifierMachine.restrict unlimited dropsRecorded) config ()
        (.error .invalid) target := by
    refine Steps.reach_perform () rfl _ ⟨trivial, rfl, rfl⟩ ?_
    refine Steps.reach_perform () rfl (1000 : Int) ⟨trivial, rfl, rfl⟩ ?_
    refine Steps.reach_perform () rfl () ⟨trivial, rfl⟩ ?_
    refine Steps.reach_perform () rfl _ ⟨trivial, rfl, rfl, rfl⟩ ?_
    refine Steps.reach_environment ⟨1100, by decide, by decide, rfl⟩ ?_
    refine Steps.reach_perform () rfl (1100 : Int) ⟨trivial, rfl, rfl⟩ ?_
    refine Steps.reach_perform () rfl _ ⟨trivial, rfl, rfl⟩ ?_
    refine Steps.reach_perform () rfl () ⟨trivial, rfl⟩ ?_
    refine Steps.reach_perform () rfl () ⟨trivial, rfl⟩ ?_
    refine Steps.reach_perform () rfl (some sampleResponse) ⟨trivial, rfl⟩ ?_
    refine Steps.reach_perform () rfl (some []) ⟨trivial, rfl⟩ ?_
    refine Steps.reach_perform () rfl (1100 : Int) ⟨trivial, rfl, rfl⟩ ?_
    refine Steps.reach_perform () rfl () ⟨trivial, fun _ => rfl, rfl⟩ ?_
    refine Steps.reach_perform () rfl () ⟨trivial, rfl⟩ ?_
    refine Steps.reach_perform () rfl () ⟨trivial, rfl⟩ ?_
    refine Steps.reach_perform () rfl _ ⟨trivial, rfl, rfl⟩ ?_
    refine Steps.reach_perform () rfl (1100 : Int) ⟨trivial, rfl, rfl⟩ ?_
    exact ⟨_, .refl _, _, Returns.of_perform () rfl () (And.intro trivial rfl) rfl⟩
  rcases run with ⟨config, reached, target, returned⟩
  have verdict := invalid_only_if_refuted (by decide) (by decide) reached rfl returned
  exact ⟨config, target, reached, returned, verdict.1 rfl⟩

/-- A warm-up, and two lookups of a key that the cache lacks. -/
def sampleLookups : Fin 3 → Job
  | 0 => .warmUp
  | _ => .lookup "rotated"

/-- The first lookup is dropped in its forced refresh at 1100; the second one reports
at 1101 that the key is unknown, though nothing has been fetched since 1000. -/
theorem dropped_refresh_reported_invalid :
    ∃ config target,
      Reached sampleLibrary (.github "https://keys.example.com" 600) sampleLookups 1000 config ∧
      Returns verifierMachine config 2 (.error .invalid) target ∧
      (∀ install ∈ target.shared.installs,
        install.startedAt < target.shared.refresh.lastForcedAttempt) ∧
      ¬ Refuted 600 2 "rotated" target.shared := by
  have run : ∃ config,
      Reached sampleLibrary (.github "https://keys.example.com" 600) sampleLookups 1000 config ∧
      ∃ target, Returns verifierMachine config 2 (.error .invalid) target ∧
        target.shared.installs.map Install.startedAt = [1000] ∧
        target.shared.refresh.lastForcedAttempt = 1100 ∧ target.shared.mark 2 = some 1100 := by
    refine Steps.reach_perform 0 rfl _ ⟨rfl, rfl, rfl⟩ ?_
    refine Steps.reach_perform 0 rfl (some sampleResponse) rfl ?_
    refine Steps.reach_perform 0 rfl (some []) rfl ?_
    refine Steps.reach_perform 0 rfl (1000 : Int) ⟨rfl, rfl⟩ ?_
    refine Steps.reach_perform 0 rfl () ⟨fun _ => rfl, rfl⟩ ?_
    refine Steps.reach_perform 0 rfl () rfl ?_
    refine Steps.reach_environment ⟨1100, by decide, by decide, rfl⟩ ?_
    refine Steps.reach_perform 1 rfl _ ⟨rfl, rfl⟩ ?_
    refine Steps.reach_perform 1 rfl (1100 : Int) ⟨rfl, rfl⟩ ?_
    refine Steps.reach_perform 1 rfl () rfl ?_
    refine Steps.reach_perform 1 rfl _ ⟨rfl, rfl, rfl⟩ ?_
    refine Steps.reach_perform 1 rfl (1100 : Int) ⟨rfl, rfl⟩ ?_
    refine Steps.reach_perform 1 rfl _ ⟨rfl, rfl⟩ ?_
    refine Steps.reach_perform 1 rfl () rfl ?_
    refine Steps.reach_perform 1 rfl () rfl ?_
    refine Steps.reach_cancel 1 rfl ⟨rfl, rfl⟩ ?_
    refine Steps.reach_environment ⟨1101, by decide, by decide, rfl⟩ ?_
    refine Steps.reach_perform 2 rfl _ ⟨rfl, rfl⟩ ?_
    refine Steps.reach_perform 2 rfl (1101 : Int) ⟨rfl, rfl⟩ ?_
    refine Steps.reach_perform 2 rfl () rfl ?_
    refine Steps.reach_perform 2 rfl _ ⟨rfl, rfl, rfl⟩ ?_
    refine Steps.reach_perform 2 rfl (1101 : Int) ⟨rfl, rfl⟩ ?_
    refine Steps.reach_perform 2 rfl _ ⟨rfl, rfl⟩ ?_
    refine Steps.reach_perform 2 rfl () rfl ?_
    refine Steps.reach_perform 2 rfl () rfl ?_
    refine Steps.reach_perform 2 rfl _ ⟨rfl, rfl⟩ ?_
    refine Steps.reach_perform 2 rfl (1101 : Int) ⟨rfl, rfl⟩ ?_
    exact ⟨_, .refl _, _, Returns.of_perform 2 rfl () rfl rfl, rfl, rfl, rfl⟩
  rcases run with ⟨config, reached, target, returned, installs, attempt, mark⟩
  have earlier : ∀ install ∈ target.shared.installs, install.startedAt < 1100 := by
    intro install member
    have member := List.mem_map_of_mem (f := Install.startedAt) member
    rw [installs, List.mem_singleton] at member
    rw [member]
    decide
  refine ⟨config, target, reached, returned, ?_, ?_⟩
  · rw [attempt]
    exact earlier
  · rintro ⟨-, -, install, member, since⟩
    exact absurd (since 1100 mark) (not_le_of_gt (earlier install member))

end OidcExchange.Jwks
