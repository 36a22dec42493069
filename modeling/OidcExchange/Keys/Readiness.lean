import OidcExchange.Keys.Signing

/-!
# Readiness covers the lifetime of a token

A replica that is ready signs, and until the token expires every replica that starts
from the same file publishes the key that has signed it.  The tokens live for two
minutes, which is also the least threshold the configuration admits.
-/

namespace OidcExchange.Keys

open OidcExchange.Oidc

/-- `token_ttl`, the lifetime of an issued token in seconds. -/
def tokenTtl : Int := 120

/-- The least threshold of the configuration, in nanoseconds. -/
def leastReadinessThreshold : Nat := 120 * 1000000000

variable {E R C K : Type}

/-- In whatever order the key map is iterated, `jwk` is the one published key with its ID. -/
def KeyRing.Publishes (format : SigningFormat K) (ring : KeyRing K) (jwk : PublicJwk) : Prop :=
  ∀ iteration, ring.Iterates iteration →
    ∀ other, (other ∈ jwks format iteration ∧ jwkKid other = jwkKid jwk) ↔ other = jwk

/-- A fresh load at `now` keeps the current key of the ring and publishes it. -/
def KeyRing.KeptBy (ring : KeyRing K) (signing : SigningFormat K)
    (fresh : DateTime → Nat → Except KeyError (KeyRing K)) (now : DateTime) : Prop :=
  ∀ readinessThreshold, ∃ reloaded, fresh now readinessThreshold = .ok reloaded ∧
    reloaded.currentKid = ring.currentKid ∧
    ∃ jwk, jwkKid jwk = ring.currentKid ∧ ring.Publishes signing jwk ∧
      reloaded.Publishes signing jwk

/-- What readiness at `now` promises of a key ring. -/
structure KeyRing.CoversLifetime (ring : KeyRing K) (library : SigningLibrary E R C)
    (signing : SigningFormat K) (fresh : DateTime → Nat → Except KeyError (KeyRing K))
    (now : DateTime) : Prop where
  signs : ∀ claims message, ring.signAt library signing claims now ≠ .error (.invalid message)
  kept : ∀ later, now ≤ later → later ≤ now.addSeconds tokenTtl →
    ring.KeptBy signing fresh later

/-! ## The remaining lifetime of the current key -/

theorem KeyRing.isReadyAt_iff {ring : KeyRing K} {now : DateTime} :
    ring.isReadyAt now = true ↔
      (ring.currentNotBefore ≤ now ∧ now < ring.currentNotAfter) ∧
        ring.readinessThreshold / 1000000000 < ring.currentKeySecondsUntilExpiry now := by
  simp [KeyRing.isReadyAt]

/-- The remaining whole seconds, counted strictly above a threshold of at least the lifetime,
leave more than the lifetime. -/
theorem KeyRing.lt_notAfter_of_isReadyAt {ring : KeyRing K} {now later : DateTime}
    (minimum : leastReadinessThreshold ≤ ring.readinessThreshold)
    (ready : ring.isReadyAt now = true)
    (within : later ≤ now.addSeconds tokenTtl) : later < ring.currentNotAfter := by
  rcases KeyRing.isReadyAt_iff.mp ready with ⟨⟨_, live⟩, remaining⟩
  rw [DateTime.lt_iff] at live ⊢
  rw [DateTime.le_iff] at within
  have positive : 0 ≤ ring.currentNotAfter.nanos - now.nanos := by omega
  rw [KeyRing.currentKeySecondsUntilExpiry, DateTime.secondsSince,
    Int.tdiv_eq_ediv_of_nonneg positive] at remaining
  simp only [leastReadinessThreshold, DateTime.addSeconds, tokenTtl, nanosPerSecond]
    at minimum within remaining
  omega

/-! ## Signing -/

theorem KeyRing.not_outsideWindow {ring : KeyRing K} {now : DateTime}
    (began : ring.currentNotBefore ≤ now) (lasts : now < ring.currentNotAfter) :
    ¬(now < ring.currentNotBefore ∨ ring.currentNotAfter ≤ now) := by
  rw [DateTime.le_iff] at began
  rw [DateTime.lt_iff] at lasts
  rw [DateTime.lt_iff, DateTime.le_iff]
  omega

theorem KeyRing.signAt_ok {library : SigningLibrary E R C} {signing : SigningFormat K}
    {ring : KeyRing K} {key : K} {now : DateTime} {der : List UInt8} {claims : C} {token : String}
    (began : ring.currentNotBefore ≤ now) (lasts : now < ring.currentNotAfter)
    (found : ring.keys.lookup ring.currentKid = some key)
    (encodedKey : signing.toDer key = some der)
    (encoded : library.encode (ring.header signing) claims der = some token) :
    ring.signAt library signing claims now = .ok token := by
  simp only [KeyRing.signAt, if_neg (KeyRing.not_outsideWindow began lasts), found, encodedKey,
    encoded]

/-- Inside the window the key is at hand, so that only the library can fail. -/
theorem KeyRing.signAt_ne_invalid {library : SigningLibrary E R C} {signing : SigningFormat K}
    {ring : KeyRing K} {key : K} {now : DateTime} (began : ring.currentNotBefore ≤ now)
    (lasts : now < ring.currentNotAfter) (found : ring.keys.lookup ring.currentKid = some key)
    (claims : C) (message : String) :
    ring.signAt library signing claims now ≠ .error (.invalid message) := by
  unfold KeyRing.signAt
  rw [if_neg (KeyRing.not_outsideWindow began lasts)]
  split
  · rename_i missing
    rw [found] at missing
    contradiction
  split
  · simp
  split <;> simp

theorem KeyRing.signAt_eq_ok {library : SigningLibrary E R C} {signing : SigningFormat K}
    {ring : KeyRing K} {claims : C} {now : DateTime} {token : String}
    (signed : ring.signAt library signing claims now = .ok token) :
    ∃ key der, ring.keys.lookup ring.currentKid = some key ∧ signing.toDer key = some der ∧
      library.encode (ring.header signing) claims der = some token := by
  unfold KeyRing.signAt at signed
  split at signed
  · contradiction
  split at signed
  · contradiction
  rename_i key found
  split at signed
  · contradiction
  rename_i der encodedKey
  split at signed
  · contradiction
  rename_i encoded
  cases signed
  exact ⟨key, der, found, encodedKey, encoded⟩

/-! ## Reloading -/

/-- A key in the ring is the one published key with its ID. -/
theorem KeyRing.publishes_of_lookup {signing : SigningFormat K} {ring : KeyRing K} {kid : String}
    {key : K} {jwk : PublicJwk} (found : ring.keys.lookup kid = some key)
    (encoded : signing.publicJwk kid key = some jwk) : ring.Publishes signing jwk := by
  intro iteration iterates other
  rw [iterates.mem_jwks_iff, (signing.tagged encoded).kid]
  constructor
  · rintro ⟨⟨otherKid, otherKey, otherFound, otherEncoded⟩, same⟩
    rw [(signing.tagged otherEncoded).kid] at same
    subst same
    rw [found] at otherFound
    cases otherFound
    rw [encoded] at otherEncoded
    cases otherEncoded
    rfl
  · rintro rfl
    exact ⟨⟨kid, key, found, encoded⟩, (signing.tagged encoded).kid⟩

/-- While the current key of a file lasts, every file that has it loads it under its ID. -/
theorem KeyRingFile.lookup_reloaded {format : KeyFormat K} {file other : KeyRingFile}
    {now later : DateTime} {threshold laterThreshold : Nat} {ring reloaded : KeyRing K}
    (loaded : file.load format now threshold = .ok ring)
    (again : other.load format later laterThreshold = .ok reloaded)
    (shared : ∀ spec ∈ file.keys, spec.kid = file.currentKid → spec ∈ other.keys)
    (lasts : later < ring.currentNotAfter) :
    ∃ key, ring.keys.lookup ring.currentKid = some key ∧
      reloaded.keys.lookup ring.currentKid = some key := by
  have checked := load_eq_ok loaded
  have rechecked := load_eq_ok again
  rcases checked.current with ⟨spec, member, current, _, live⟩
  rcases load_eq_ok_loop loaded with ⟨_, looped, _⟩
  rcases loadKeys_decoded looped member with ⟨key, decoded⟩
  rw [(load_window loaded member current).2] at lasts
  refine ⟨key, ?_, ?_⟩
  · rw [checked.published, checked.currentKid]
    exact ⟨spec, member, current, live, decoded⟩
  · rw [rechecked.published, checked.currentKid]
    exact ⟨spec, shared spec member current, current, lasts, decoded⟩

section Loaded

variable {parseTime : String → Option DateTime} {format : KeyFormat K} {tree : Option Json}
  {loadedAt now later : DateTime} {threshold : Nat} {ring : KeyRing K}
  {signing : SigningFormat K}

theorem KeyRing.keptBy_of_lasts
    (loaded : loadWithReadinessThreshold parseTime format tree loadedAt threshold = .ok ring)
    (encodes : signing.Encodes) (began : ring.currentNotBefore ≤ later)
    (lasts : later < ring.currentNotAfter) :
    ring.KeptBy signing (loadWithReadinessThreshold parseTime format tree) later := by
  rcases loadWithReadinessThreshold_eq_ok_iff.mp loaded with ⟨text, file, rfl, parsed, accepted⟩
  intro laterThreshold
  rcases file.load_at accepted began lasts laterThreshold with ⟨reloaded, again⟩
  rcases file.lookup_reloaded accepted again (fun _ member _ => member) lasts with
    ⟨key, found, refound⟩
  rcases encodes ring.currentKid key with ⟨jwk, encoded⟩
  have sameKid : reloaded.currentKid = ring.currentKid := by
    rw [(KeyRingFile.load_eq_ok again).currentKid, (KeyRingFile.load_eq_ok accepted).currentKid]
  exact ⟨reloaded, loadWithReadinessThreshold_eq_ok_iff.mpr ⟨text, file, rfl, parsed, again⟩,
    sameKid, jwk, (signing.tagged encoded).kid, publishes_of_lookup found encoded,
    publishes_of_lookup refound encoded⟩

theorem KeyRing.coversLifetime
    (loaded : loadWithReadinessThreshold parseTime format tree loadedAt threshold = .ok ring)
    (minimum : leastReadinessThreshold ≤ threshold) (encodes : signing.Encodes)
    (library : SigningLibrary E R C) (ready : ring.isReadyAt now = true) :
    ring.CoversLifetime library signing (loadWithReadinessThreshold parseTime format tree)
      now := by
  rcases loadWithReadinessThreshold_eq_ok_iff.mp loaded with ⟨text, file, rfl, parsed, accepted⟩
  rcases KeyRing.isReadyAt_iff.mp ready with ⟨⟨began, live⟩, _⟩
  constructor
  · rcases file.load_at accepted began live threshold with ⟨reloaded, again⟩
    rcases file.lookup_reloaded accepted again (fun _ member _ => member) live with
      ⟨key, found, _⟩
    exact KeyRing.signAt_ne_invalid began live found
  · intro later after within
    rcases file.load_eq_ok_loop accepted with ⟨_, _, _, sameThreshold⟩
    rw [← sameThreshold] at minimum
    have lasts := KeyRing.lt_notAfter_of_isReadyAt minimum ready within
    rw [DateTime.le_iff] at began after
    exact keptBy_of_lasts loaded encodes (DateTime.le_iff.mpr (by omega)) lasts

end Loaded

/-- For both kinds of key rings, a ready ring is not refused for its window, and until a token
that is issued now expires, every fresh load of the same file publishes its key. -/
theorem readiness_covers_lifetime (parseTime : String → Option DateTime)
    (keys : KeyLibrary E R) (library : SigningLibrary E R C)
    (coordinates : library.HasCoordinates) (tree : Option Json) (loadedAt now : DateTime)
    (threshold : Nat) (minimum : leastReadinessThreshold ≤ threshold) :
    (∀ ring,
      loadWithReadinessThreshold parseTime (es256Format keys) tree loadedAt threshold = .ok ring →
      ring.isReadyAt now = true →
        ring.CoversLifetime library (es256Signing library)
          (loadWithReadinessThreshold parseTime (es256Format keys) tree) now) ∧
    (∀ ring,
      loadWithReadinessThreshold parseTime (rsaFormat keys) tree loadedAt threshold = .ok ring →
      ring.isReadyAt now = true →
        ring.CoversLifetime library (rsaSigning library)
          (loadWithReadinessThreshold parseTime (rsaFormat keys) tree) now) := by
  constructor
  · intro ring loaded ready
    exact KeyRing.coversLifetime loaded minimum (es256Signing_encodes coordinates) library ready
  · intro ring loaded ready
    exact KeyRing.coversLifetime loaded minimum (rsaSigning_encodes library) library ready

/-- The samples are ready until their key has less than 121 seconds left. -/
theorem sampleEs256_ready : ∃ ring,
    loadWithReadinessThreshold sampleTime (es256Format sampleKeys) (some sampleEs256)
      ⟨1000000500000000⟩ leastReadinessThreshold = .ok ring ∧
    ring.isReadyAt ⟨8775878999999999⟩ = true :=
  exists_ok_of_any (KeyRing.isReadyAt · ⟨8775878999999999⟩) (by decide +kernel)

theorem sampleRsa_ready : ∃ ring,
    loadWithReadinessThreshold sampleTime (rsaFormat sampleKeys) (some sampleRsa)
      ⟨1000000500000000⟩ leastReadinessThreshold = .ok ring ∧
    ring.isReadyAt ⟨8775878999999999⟩ = true :=
  exists_ok_of_any (KeyRing.isReadyAt · ⟨8775878999999999⟩) (by decide +kernel)

theorem readiness_covers_lifetime_sample :
    (∃ ring : KeyRing (List UInt8),
      ring.CoversLifetime (C := String) sampleSigning (es256Signing (C := String) sampleSigning)
        (loadWithReadinessThreshold sampleTime (es256Format sampleKeys) (some sampleEs256))
        ⟨8775878999999999⟩) ∧
    ∃ ring : KeyRing Nat,
      ring.CoversLifetime (C := String) sampleSigning (rsaSigning (C := String) sampleSigning)
        (loadWithReadinessThreshold sampleTime (rsaFormat sampleKeys) (some sampleRsa))
        ⟨8775878999999999⟩ := by
  have coordinates : (sampleSigning (C := String)).HasCoordinates := fun _ => ⟨_, _, rfl⟩
  rcases sampleEs256_ready with ⟨ring, loaded, ready⟩
  rcases sampleRsa_ready with ⟨rsaRing, rsaLoaded, rsaReady⟩
  constructor
  · exact ⟨ring, (readiness_covers_lifetime sampleTime sampleKeys sampleSigning coordinates
      _ _ _ leastReadinessThreshold le_rfl).1 ring loaded ready⟩
  · exact ⟨rsaRing, (readiness_covers_lifetime sampleTime sampleKeys sampleSigning coordinates
      _ _ _ leastReadinessThreshold le_rfl).2 rsaRing rsaLoaded rsaReady⟩

end OidcExchange.Keys
