import OidcExchange.Keys.Readiness

/-!
# The published key set

`/jwks.json` serves the keys of the P-256 key ring and, if workload exchange is
configured, those of the RSA key ring.  Each file has distinct key IDs and the loader
refuses files that share a loaded one, so the set lists each unexpired key once, in the
order of the IDs, and each token names one of them.
-/

namespace OidcExchange.Keys

open OidcExchange.GitHub (Header)
open OidcExchange.Oidc

variable {E R C K : Type}

/-- The document of `/jwks.json`, when the key maps are iterated in these orders. -/
def jwksDocument (library : SigningLibrary E R C)
    (iteration : List (Sigma fun _ : String => E))
    (workload : Option (List (Sigma fun _ : String => R))) : JwkSet :=
  match workload with
  | none => jwks (es256Signing library) iteration
  | some workloadIteration =>
      (jwks (es256Signing library) iteration).extend (jwks (rsaSigning library) workloadIteration)

/-- A key ring with the file and the instant it has been loaded from. -/
structure LoadedKeyRing (parseTime : String → Option DateTime) (format : KeyFormat K) where
  tree : Json
  file : KeyRingFile
  loadedAt : DateTime
  readinessThreshold : Nat
  ring : KeyRing K
  read : KeyRingFile.deserialize parseTime format.materialField tree = some file
  loaded : loadWithReadinessThreshold parseTime format (some tree) loadedAt readinessThreshold =
    .ok ring

namespace LoadedKeyRing

variable {parseTime : String → Option DateTime} {format : KeyFormat K}

/-- The entries of the file that have not expired at the load. -/
def unexpired (keyring : LoadedKeyRing parseTime format) : List KeySpec :=
  keyring.file.keys.filter fun spec => keyring.loadedAt < spec.notAfter

/-- `jwk` is the public key of an unexpired entry. -/
def Publishes (keyring : LoadedKeyRing parseTime format) (signing : SigningFormat K)
    (jwk : PublicJwk) : Prop :=
  ∃ spec ∈ keyring.unexpired, ∃ key, format.decode spec.material = .ok key ∧
    signing.publicJwk spec.kid key = some jwk

/-- The key that the header of a token names is in the document, for the algorithm of the
header. -/
def SignsWithin (keyring : LoadedKeyRing parseTime format) (library : SigningLibrary E R C)
    (signing : SigningFormat K) (document : JwkSet) : Prop :=
  ∀ claims now token, keyring.ring.signAt library signing claims now = .ok token →
    ∃ der, library.encode (keyring.ring.header signing) claims der = some token ∧
      ∃ jwk ∈ document, (keyring.ring.header signing).kid = some (jwkKid jwk) ∧
        algorithmName (keyring.ring.header signing).alg = jwkAlg jwk

/-- Every successful load is such a key ring. -/
theorem exists_of_load {tree : Json} {loadedAt : DateTime} {readinessThreshold : Nat}
    {ring : KeyRing K}
    (loaded : loadWithReadinessThreshold parseTime format (some tree) loadedAt
      readinessThreshold = .ok ring) :
    ∃ keyring : LoadedKeyRing parseTime format,
      keyring.tree = tree ∧ keyring.loadedAt = loadedAt ∧ keyring.ring = ring := by
  rcases loadWithReadinessThreshold_eq_ok_iff.mp loaded with ⟨text, file, same, read, _⟩
  cases same
  exact ⟨⟨tree, file, loadedAt, readinessThreshold, ring, read, loaded⟩, rfl, rfl, rfl⟩

theorem accepted (keyring : LoadedKeyRing parseTime format) :
    keyring.file.load format keyring.loadedAt keyring.readinessThreshold = .ok keyring.ring := by
  rcases loadWithReadinessThreshold_eq_ok_iff.mp keyring.loaded with ⟨text, file, same, read, ok⟩
  cases same
  rw [keyring.read] at read
  cases read
  exact ok

theorem mem_unexpired_iff {keyring : LoadedKeyRing parseTime format} {spec : KeySpec} :
    spec ∈ keyring.unexpired ↔ spec ∈ keyring.file.keys ∧ keyring.loadedAt < spec.notAfter := by
  rw [unexpired, List.mem_filter, decide_eq_true_eq]

theorem lookup_iff (keyring : LoadedKeyRing parseTime format) (kid : String) (key : K) :
    keyring.ring.keys.lookup kid = some key ↔
      ∃ spec ∈ keyring.unexpired, spec.kid = kid ∧ format.decode spec.material = .ok key := by
  rw [(KeyRingFile.load_eq_ok keyring.accepted).published, KeyFormat.Published]
  simp only [mem_unexpired_iff, and_assoc, and_left_comm]

/-- The current key is loaded. -/
theorem current_lookup (keyring : LoadedKeyRing parseTime format) :
    ∃ key, keyring.ring.keys.lookup keyring.ring.currentKid = some key := by
  have checked := KeyRingFile.load_eq_ok keyring.accepted
  rcases checked.current with ⟨spec, member, current, _, live⟩
  rcases KeyRingFile.load_eq_ok_loop keyring.accepted with ⟨_, looped, _⟩
  rcases loadKeys_decoded looped member with ⟨key, decoded⟩
  exact ⟨key, (checked.published _ _).mpr
    ⟨spec, member, current.trans checked.currentKid.symm, live, decoded⟩⟩

/-- The loaded key IDs are those of the unexpired entries. -/
theorem keys_perm (keyring : LoadedKeyRing parseTime format) :
    keyring.ring.keys.keys.Perm (keyring.unexpired.map KeySpec.kid) := by
  have checked := KeyRingFile.load_eq_ok keyring.accepted
  have distinct : (keyring.unexpired.map KeySpec.kid).Nodup :=
    checked.distinct.sublist (List.filter_sublist.map _)
  rw [List.perm_ext_iff_of_nodup keyring.ring.keys.keys_nodup distinct]
  intro kid
  rw [← AList.mem_keys, ← AList.lookup_isSome, Option.isSome_iff_exists, List.mem_map]
  constructor
  · rintro ⟨key, found⟩
    rcases (keyring.lookup_iff kid key).mp found with ⟨spec, member, same, _⟩
    exact ⟨spec, member, same⟩
  · rintro ⟨spec, member, same⟩
    rcases KeyRingFile.load_eq_ok_loop keyring.accepted with ⟨_, looped, _⟩
    rcases loadKeys_decoded looped (mem_unexpired_iff.mp member).1 with ⟨key, decoded⟩
    exact ⟨key, (keyring.lookup_iff kid key).mpr ⟨spec, member, same, decoded⟩⟩

theorem mem_jwks_iff {keyring : LoadedKeyRing parseTime format} {signing : SigningFormat K}
    {iteration : List (Sigma fun _ : String => K)}
    (iterates : keyring.ring.Iterates iteration) {jwk : PublicJwk} :
    jwk ∈ jwks signing iteration ↔ keyring.Publishes signing jwk := by
  rw [iterates.mem_jwks_iff]
  constructor
  · rintro ⟨kid, key, found, encoded⟩
    rcases (keyring.lookup_iff kid key).mp found with ⟨spec, member, rfl, decoded⟩
    exact ⟨spec, member, key, decoded, encoded⟩
  · rintro ⟨spec, member, key, decoded, encoded⟩
    exact ⟨spec.kid, key, (keyring.lookup_iff _ _).mpr ⟨spec, member, rfl, decoded⟩, encoded⟩

end LoadedKeyRing

/-! ## Key IDs and tags -/

/-- What a consumer looks a key up by. -/
def jwkTag (jwk : PublicJwk) : String × String × String :=
  (jwkKid jwk, jwkKty jwk, jwkAlg jwk)

/-- If every key can be published, each entry of the key map is, with the tags of its ring. -/
theorem map_jwkTag_filterMap {signing : SigningFormat K} (encodes : signing.Encodes)
    (entries : List (Sigma fun _ : String => K)) :
    (entries.filterMap fun entry => signing.publicJwk entry.1 entry.2).map jwkTag =
      entries.keys.map fun kid => (kid, signing.kty, algorithmName signing.algorithm) := by
  induction entries with
  | nil => rfl
  | cons entry entries inductionHypothesis =>
      rcases encodes entry.1 entry.2 with ⟨jwk, encoded⟩
      have tagged := signing.tagged encoded
      simp only [List.filterMap_cons, encoded, List.map_cons, List.keys_cons, jwkTag, tagged.kid,
        tagged.kty, tagged.alg]
      rw [← inductionHypothesis]

theorem LoadedKeyRing.jwkTag_perm {parseTime : String → Option DateTime} {format : KeyFormat K}
    (keyring : LoadedKeyRing parseTime format) {signing : SigningFormat K}
    (encodes : signing.Encodes) {iteration : List (Sigma fun _ : String => K)}
    (iterates : keyring.ring.Iterates iteration) :
    ((jwks signing iteration).map jwkTag).Perm
      (keyring.unexpired.map fun spec =>
        (spec.kid, signing.kty, algorithmName signing.algorithm)) := by
  have listed : (jwks signing iteration).Perm
      (keyring.ring.keys.entries.filterMap fun entry => signing.publicJwk entry.1 entry.2) :=
    (sortJwks_perm _).trans (iterates.filterMap _)
  have tags := listed.map jwkTag
  rw [map_jwkTag_filterMap encodes] at tags
  have kids := keyring.keys_perm.map fun kid =>
    (kid, signing.kty, algorithmName signing.algorithm)
  rw [List.map_map] at kids
  exact tags.trans kids

theorem LoadedKeyRing.jwkKid_perm {parseTime : String → Option DateTime} {format : KeyFormat K}
    (keyring : LoadedKeyRing parseTime format) {signing : SigningFormat K}
    (encodes : signing.Encodes) {iteration : List (Sigma fun _ : String => K)}
    (iterates : keyring.ring.Iterates iteration) :
    ((jwks signing iteration).map jwkKid).Perm keyring.ring.keys.keys := by
  have kids := (keyring.jwkTag_perm encodes iterates).map Prod.fst
  rw [List.map_map, List.map_map] at kids
  exact kids.trans keyring.keys_perm.symm

/-- Keys with different IDs are sorted strictly. -/
theorem sortJwks_strict {keys : List PublicJwk} (distinct : (keys.map jwkKid).Nodup) :
    (sortJwks keys).Pairwise fun left right => jwkKid left < jwkKid right := by
  have sortedDistinct : ((sortJwks keys).map jwkKid).Nodup :=
    ((sortJwks_perm keys).map jwkKid).nodup_iff.mpr distinct
  exact (sortJwks_pairwise keys).imp₂ (fun _ _ => lt_of_le_of_ne)
    (List.pairwise_map.mp sortedDistinct)

theorem ensureDisjointFrom_eq_ok_iff {ring : KeyRing R} {keyring : KeyRing E} :
    ensureDisjointFrom ring keyring = .ok () ↔
      ∀ kid ∈ ring.keys.keys, kid ∉ keyring.keys.keys := by
  unfold ensureDisjointFrom
  split
  · rename_i shared
    simpa [AList.lookup_isSome, AList.mem_keys] using shared
  · rename_i disjoint
    simpa [AList.lookup_isSome, AList.mem_keys] using disjoint

/-! ## The document -/

/-- What is published of a P-256 key ring and an RSA key ring. -/
structure ExactJwks {parseTime : String → Option DateTime} {keys : KeyLibrary E R}
    (keyring : LoadedKeyRing parseTime (es256Format keys))
    (workload : LoadedKeyRing parseTime (rsaFormat keys)) (library : SigningLibrary E R C)
    (document : JwkSet) : Prop where
  increasing : document.Pairwise fun left right => jwkKid left < jwkKid right
  mem_iff : ∀ jwk, jwk ∈ document ↔
    keyring.Publishes (es256Signing library) jwk ∨ workload.Publishes (rsaSigning library) jwk
  tags : (document.map jwkTag).Perm
    ((keyring.unexpired.map fun spec => (spec.kid, "EC", "ES256")) ++
      workload.unexpired.map fun spec => (spec.kid, "RSA", "RS256"))
  signs : keyring.SignsWithin library (es256Signing library) document
  workloadSigns : workload.SignsWithin library (rsaSigning library) document

section Document

variable {parseTime : String → Option DateTime} {keys : KeyLibrary E R}
  {library : SigningLibrary E R C}

/-- A token names the current key, which is published wherever the ring is. -/
theorem LoadedKeyRing.signsWithin {format : KeyFormat K}
    (keyring : LoadedKeyRing parseTime format) {signing : SigningFormat K}
    (encodes : signing.Encodes) {document : JwkSet}
    (included : ∀ jwk, keyring.Publishes signing jwk → jwk ∈ document) :
    keyring.SignsWithin library signing document := by
  intro claims now token signed
  rcases KeyRing.signAt_eq_ok signed with ⟨key, der, found, _, encoded⟩
  rcases encodes keyring.ring.currentKid key with ⟨jwk, published⟩
  have tagged := signing.tagged published
  rcases (keyring.lookup_iff _ _).mp found with ⟨spec, member, same, decoded⟩
  rw [← same] at published
  refine ⟨der, encoded, jwk, included jwk ⟨spec, member, key, decoded, published⟩, ?_, ?_⟩
  · rw [KeyRing.header, tagged.kid]
  · rw [KeyRing.header, tagged.alg]

theorem mem_extend_iff {set other : JwkSet} {jwk : PublicJwk} :
    jwk ∈ set.extend other ↔ jwk ∈ set ∨ jwk ∈ other := by
  rw [JwkSet.extend, (sortJwks_perm _).mem_iff, List.mem_append]

end Document

/-- In whatever orders the key maps are iterated, the document lists the unexpired keys of both
files once, strictly in the order of their IDs, and the key of every token. -/
theorem jwksDocument_exact {parseTime : String → Option DateTime} {keys : KeyLibrary E R}
    (library : SigningLibrary E R C) (coordinates : library.HasCoordinates)
    (keyring : LoadedKeyRing parseTime (es256Format keys))
    (workload : LoadedKeyRing parseTime (rsaFormat keys))
    (disjoint : ensureDisjointFrom workload.ring keyring.ring = .ok ())
    {iteration : List (Sigma fun _ : String => E)}
    {workloadIteration : List (Sigma fun _ : String => R)}
    (iterates : keyring.ring.Iterates iteration)
    (workloadIterates : workload.ring.Iterates workloadIteration) :
    ExactJwks keyring workload library
      (jwksDocument library iteration (some workloadIteration)) := by
  have tags := (keyring.jwkTag_perm (es256Signing_encodes coordinates) iterates).append
    (workload.jwkTag_perm (rsaSigning_encodes library) workloadIterates)
  rw [← List.map_append] at tags
  have members : ∀ jwk, jwk ∈ jwksDocument library iteration (some workloadIteration) ↔
      keyring.Publishes (es256Signing library) jwk ∨
        workload.Publishes (rsaSigning library) jwk := by
    intro jwk
    rw [jwksDocument, mem_extend_iff, LoadedKeyRing.mem_jwks_iff iterates,
      LoadedKeyRing.mem_jwks_iff workloadIterates]
  have kids := (keyring.jwkKid_perm (es256Signing_encodes coordinates) iterates).append
    (workload.jwkKid_perm (rsaSigning_encodes library) workloadIterates)
  rw [← List.map_append] at kids
  constructor
  · apply sortJwks_strict
    rw [kids.nodup_iff, List.nodup_append]
    refine ⟨keyring.ring.keys.keys_nodup, workload.ring.keys.keys_nodup, ?_⟩
    rintro kid member _ workloadMember rfl
    exact ensureDisjointFrom_eq_ok_iff.mp disjoint kid workloadMember member
  · exact members
  · exact ((sortJwks_perm _).map jwkTag).trans tags
  · exact keyring.signsWithin (es256Signing_encodes coordinates)
      fun jwk published => (members jwk).mpr (Or.inl published)
  · exact workload.signsWithin (rsaSigning_encodes library)
      fun jwk published => (members jwk).mpr (Or.inr published)

/-- The P-256 file of the samples, loaded. -/
def sampleKeyRing : LoadedKeyRing sampleTime (es256Format sampleKeys) where
  tree := sampleEs256
  file :=
    { version := keyringVersion
      currentKid := "first"
      keys := [⟨"first", sampleScalar, .ofSeconds 999700, .ofSeconds 8776000⟩] }
  loadedAt := ⟨1000000500000000⟩
  readinessThreshold := 0
  ring :=
    { currentKid := "first"
      currentNotBefore := .ofSeconds 999700
      currentNotAfter := .ofSeconds 8776000
      readinessThreshold := 0
      keys := AList.singleton "first" (List.replicate 31 0 ++ [1]) }
  read := rfl
  loaded := rfl

/-- The files are loaded at different instants. -/
theorem jwksDocument_exact_sample :
    ∃ workload : LoadedKeyRing sampleTime (rsaFormat sampleKeys),
      workload.tree = sampleRsa ∧ workload.loadedAt = ⟨2000000000000000⟩ ∧
      ExactJwks sampleKeyRing workload (sampleSigning (C := String))
        (jwksDocument (C := String) sampleSigning sampleKeyRing.ring.keys.entries
          (some workload.ring.keys.entries)) := by
  have loads : ∃ ring,
      loadWithReadinessThreshold sampleTime (rsaFormat sampleKeys) (some sampleRsa)
        ⟨2000000000000000⟩ 0 = .ok ring ∧ decide (ring.keys.keys = ["second"]) = true :=
    exists_ok_of_any (fun ring : KeyRing Nat => decide (ring.keys.keys = ["second"]))
      (by decide +kernel)
  rcases loads with ⟨ring, loaded, kids⟩
  rcases LoadedKeyRing.exists_of_load loaded with ⟨workload, tree, loadedAt, rfl⟩
  have disjoint : ensureDisjointFrom workload.ring sampleKeyRing.ring = .ok () := by
    rw [ensureDisjointFrom_eq_ok_iff, of_decide_eq_true kids]
    decide
  exact ⟨workload, tree, loadedAt, jwksDocument_exact sampleSigning (fun _ => ⟨_, _, rfl⟩)
    sampleKeyRing workload disjoint (List.Perm.refl _) (List.Perm.refl _)⟩

end OidcExchange.Keys
