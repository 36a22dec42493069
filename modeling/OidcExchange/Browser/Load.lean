import Mathlib.Data.List.AList
import OidcExchange.Browser.Verify
import OidcExchange.Jwks.Lookup

/-!
# Loading the keys of Steward

`StewardBrowserAssertionVerifier::load` of `src/browser_hop1.rs`.  Keys that are not
meant for ES256 signatures are skipped; among the others a key that cannot be decoded
or an ID that occurs twice refuses the whole document.
-/

namespace OidcExchange.Browser

open OidcExchange.Jwks OidcExchange.Service

inductive BrowserHop1VerifierError where
  | invalid
  deriving DecidableEq

variable {K : Type}

/-- The checks on a parsed URL. -/
def plainHttps (url : Url) : Bool :=
  url.scheme == "https" && url.host.isSome && Text.isEmpty url.username && url.password.isNone &&
    url.query.isNone && url.fragment.isNone

def validHttpsIssuer (parseUrl : String → Option Url) (value : String) : Bool :=
  (parseUrl value).any plainHttps

def es256 : KeyAlgorithm := .other "ES256"

/-- The ID of a key that is not skipped. -/
def usableKid (jwk : Jwk K) : Option String :=
  match jwk.keyId with
  | none => none
  | some kid =>
      if Text.isEmpty kid || decide (jwk.keyAlgorithm ≠ some es256) ||
          decide (jwk.publicKeyUse ≠ some .signature) then
        none
      else
        some kid

/-- The loop over the keys. -/
def collectKeys :
    List (Jwk K) → (AList fun _ : String => K) →
      Except BrowserHop1VerifierError (AList fun _ : String => K)
  | [], keys => .ok keys
  | jwk :: jwks, keys =>
      match usableKid jwk with
      | none => collectKeys jwks keys
      | some kid =>
          match jwk.decodingKey with
          | none => .error .invalid
          | some key =>
              if (keys.lookup kid).isSome then .error .invalid
              else collectKeys jwks (keys.insert kid key)

/-- The rest of `load` on what the file holds. -/
def ofDocument (issuer audience : String) (document : Option (List (Jwk K))) :
    Except BrowserHop1VerifierError (StewardBrowserAssertionVerifier K) :=
  match document with
  | none => .error .invalid
  | some jwks =>
      match collectKeys jwks ∅ with
      | .error failure => .error failure
      | .ok keys =>
          if keys.keys.isEmpty then .error .invalid else .ok { issuer, audience, keys }

/-- `load`; the file is opened after the first check. -/
def load (parseUrl : String → Option Url) (issuer audience : String)
    (document : Option (List (Jwk K))) :
    Except BrowserHop1VerifierError (StewardBrowserAssertionVerifier K) :=
  if !validHttpsIssuer parseUrl issuer || Text.isEmpty audience then .error .invalid
  else ofDocument issuer audience document

/-- The key is usable under this ID. -/
def Usable (jwks : List (Jwk K)) (kid : String) (key : K) : Prop :=
  ∃ jwk ∈ jwks, usableKid jwk = some kid ∧ jwk.decodingKey = some key

/-- Every usable key can be decoded, and none shares its ID with another. -/
structure WellFormed (jwks : List (Jwk K)) : Prop where
  decoded : ∀ jwk ∈ jwks, ∀ kid, usableKid jwk = some kid → jwk.decodingKey.isSome = true
  distinct : (jwks.filterMap usableKid).Nodup

section Collected

variable {jwk : Jwk K} {jwks : List (Jwk K)} {keys collected : AList fun _ : String => K}

theorem usable_cons_iff {kid : String} {key : K} :
    Usable (jwk :: jwks) kid key ↔
      (usableKid jwk = some kid ∧ jwk.decodingKey = some key) ∨ Usable jwks kid key := by
  simp [Usable]

/-- The loop accepts the well-formed documents whose IDs are new. -/
theorem exists_collectKeys_iff :
    (∃ collected, collectKeys jwks keys = .ok collected) ↔
      WellFormed jwks ∧ ∀ kid ∈ jwks.filterMap usableKid, kid ∉ keys := by
  induction jwks generalizing keys with
  | nil =>
      constructor
      · intro _
        exact ⟨⟨nofun, List.nodup_nil⟩, nofun⟩
      · intro _
        exact ⟨keys, rfl⟩
  | cons jwk jwks inductionHypothesis =>
      unfold collectKeys
      cases usable : usableKid jwk with
      | none =>
          rw [inductionHypothesis, List.filterMap_cons_none usable]
          apply and_congr_left
          intro _
          constructor
          · rintro ⟨decoded, distinct⟩
            refine ⟨List.forall_mem_cons.mpr ⟨?_, decoded⟩, ?_⟩
            · simp [usable]
            · rwa [List.filterMap_cons_none usable]
          · rintro ⟨decoded, distinct⟩
            rw [List.filterMap_cons_none usable] at distinct
            exact ⟨(List.forall_mem_cons.mp decoded).2, distinct⟩
      | some kid =>
          rw [List.filterMap_cons_some usable]
          cases decoding : jwk.decodingKey with
          | none =>
              simp only [reduceCtorEq, exists_false, false_iff, not_and]
              intro wellFormed
              have decoded := wellFormed.decoded jwk List.mem_cons_self kid usable
              rw [decoding] at decoded
              contradiction
          | some key =>
              dsimp only
              by_cases known : kid ∈ keys
              · rw [if_pos (AList.lookup_isSome.mpr known)]
                simp only [reduceCtorEq, exists_false, false_iff, not_and]
                intro _ fresh
                exact fresh kid List.mem_cons_self known
              · rw [if_neg (by rwa [AList.lookup_isSome]), inductionHypothesis]
                constructor
                · rintro ⟨⟨decoded, distinct⟩, fresh⟩
                  have absent : kid ∉ jwks.filterMap usableKid := fun member =>
                    fresh kid member (AList.mem_insert keys |>.mpr (Or.inl rfl))
                  refine ⟨⟨List.forall_mem_cons.mpr ⟨?_, decoded⟩, ?_⟩, ?_⟩
                  · simp [decoding]
                  · rw [List.filterMap_cons_some usable]
                    exact List.nodup_cons.mpr ⟨absent, distinct⟩
                  · refine List.forall_mem_cons.mpr ⟨known, fun other member present => ?_⟩
                    exact fresh other member ((AList.mem_insert keys).mpr (Or.inr present))
                · rintro ⟨⟨decoded, distinct⟩, fresh⟩
                  rw [List.filterMap_cons_some usable, List.nodup_cons] at distinct
                  refine ⟨⟨(List.forall_mem_cons.mp decoded).2, distinct.2⟩, ?_⟩
                  intro other member present
                  rcases (AList.mem_insert keys).mp present with rfl | present
                  · exact distinct.1 member
                  · exact fresh other (List.mem_cons_of_mem _ member) present

/-- The loop adds the usable keys. -/
theorem collectKeys_lookup (accepted : collectKeys jwks keys = .ok collected) (kid : String)
    (key : K) :
    collected.lookup kid = some key ↔ keys.lookup kid = some key ∨ Usable jwks kid key := by
  induction jwks generalizing keys with
  | nil =>
      cases accepted
      simp [Usable]
  | cons jwk jwks inductionHypothesis =>
      rw [usable_cons_iff]
      unfold collectKeys at accepted
      cases usable : usableKid jwk with
      | none =>
          rw [usable] at accepted
          rw [inductionHypothesis accepted]
          simp
      | some found =>
          rw [usable] at accepted
          cases decoding : jwk.decodingKey with
          | none =>
              rw [decoding] at accepted
              cases accepted
          | some decoded =>
              rw [decoding] at accepted
              dsimp only at accepted
              split at accepted
              · cases accepted
              · rename_i fresh
                rw [inductionHypothesis accepted, ← or_assoc]
                apply or_congr_left
                by_cases same : kid = found
                · subst same
                  rw [AList.lookup_insert]
                  have absent : keys.lookup kid = none := by simpa using fresh
                  simp [absent]
                · rw [AList.lookup_insert_ne same]
                  simp [Ne.symm same]

end Collected

section Loaded

variable {parseUrl : String → Option Url} {issuer audience : String} {jwks : List (Jwk K)}
  {verifier : StewardBrowserAssertionVerifier K}

theorem ofDocument_eq_ok_iff :
    ofDocument issuer audience (some jwks) = .ok verifier ↔
      ∃ keys, collectKeys jwks ∅ = .ok keys ∧ keys.keys ≠ [] ∧
        verifier = ⟨issuer, audience, keys⟩ := by
  dsimp only [ofDocument]
  cases collectKeys jwks ∅ with
  | error failure => simp
  | ok keys =>
      dsimp only
      split
      · rename_i empty
        have nil : keys.keys = [] := List.isEmpty_iff.mp empty
        simp [nil]
      · rename_i filled
        have cons : keys.keys ≠ [] := fun nil => filled (List.isEmpty_iff.mpr nil)
        simp only [Except.ok.injEq, exists_eq_left', ne_eq, cons, not_false_eq_true, true_and]
        exact eq_comm

/-- A key map with an entry is one with a key. -/
theorem keys_ne_nil_iff {keys : AList fun _ : String => K} :
    keys.keys ≠ [] ↔ ∃ kid key, keys.lookup kid = some key := by
  constructor
  · intro filled
    rcases List.exists_mem_of_ne_nil _ filled with ⟨kid, member⟩
    exact ⟨kid, Option.isSome_iff_exists.mp (AList.lookup_isSome.mpr (AList.mem_keys.mp member))⟩
  · rintro ⟨kid, key, found⟩
    have member : kid ∈ keys := AList.lookup_isSome.mp (by rw [found]; rfl)
    exact List.ne_nil_of_mem (AList.mem_keys.mpr member)

theorem ofDocument_lookup (loaded : ofDocument issuer audience (some jwks) = .ok verifier) :
    (verifier.issuer = issuer ∧ verifier.audience = audience) ∧
      ∀ kid key, verifier.keys.lookup kid = some key ↔ Usable jwks kid key := by
  rcases ofDocument_eq_ok_iff.mp loaded with ⟨keys, collected, _, rfl⟩
  refine ⟨⟨rfl, rfl⟩, fun kid key => ?_⟩
  rw [collectKeys_lookup collected]
  simp

/-- A document is accepted if it is well formed and has a usable key. -/
theorem exists_ofDocument_iff :
    (∃ verifier, ofDocument issuer audience (some jwks) = .ok verifier) ↔
      WellFormed jwks ∧ ∃ kid key, Usable jwks kid key := by
  have fresh : ∀ kid ∈ jwks.filterMap usableKid, kid ∉ (∅ : AList fun _ : String => K) :=
    fun kid _ => AList.notMem_empty kid
  constructor
  · rintro ⟨verifier, loaded⟩
    rcases ofDocument_eq_ok_iff.mp loaded with ⟨keys, collected, filled, rfl⟩
    refine ⟨(exists_collectKeys_iff.mp ⟨keys, collected⟩).1, ?_⟩
    rcases keys_ne_nil_iff.mp filled with ⟨kid, key, found⟩
    exact ⟨kid, key, (ofDocument_lookup loaded).2 kid key |>.mp found⟩
  · rintro ⟨wellFormed, kid, key, usable⟩
    rcases exists_collectKeys_iff.mpr ⟨wellFormed, fresh⟩ with ⟨keys, collected⟩
    have found := (collectKeys_lookup collected kid key).mpr (Or.inr usable)
    have filled := keys_ne_nil_iff.mpr ⟨kid, key, found⟩
    exact ⟨_, ofDocument_eq_ok_iff.mpr ⟨keys, collected, filled, rfl⟩⟩

theorem load_eq (source : (validHttpsIssuer parseUrl issuer && !Text.isEmpty audience) = true) :
    load parseUrl issuer audience (some jwks) = ofDocument issuer audience (some jwks) := by
  simp only [Bool.and_eq_true, Bool.not_eq_true'] at source
  simp [load, source.1, source.2]

theorem load_of_invalid
    (source : ¬ (validHttpsIssuer parseUrl issuer && !Text.isEmpty audience) = true)
    (document : Option (List (Jwk K))) :
    load parseUrl issuer audience document = .error .invalid := by
  unfold load
  rw [if_pos]
  cases issuerValid : validHttpsIssuer parseUrl issuer with
  | false => rfl
  | true => simpa [issuerValid] using source

/-- The order of the keys in the document does not matter. -/
theorem WellFormed.perm {other : List (Jwk K)} (wellFormed : WellFormed jwks)
    (permuted : other.Perm jwks) : WellFormed other where
  decoded jwk member := wellFormed.decoded jwk (permuted.mem_iff.mp member)
  distinct := (permuted.filterMap usableKid).nodup_iff.mpr wellFormed.distinct

theorem usable_perm {other : List (Jwk K)} (permuted : other.Perm jwks) {kid : String} {key : K} :
    Usable other kid key ↔ Usable jwks kid key := by
  unfold Usable
  simp only [permuted.mem_iff]

/-- The verifier reads its keys by their IDs only. -/
theorem verify_eq_of_lookup {other : StewardBrowserAssertionVerifier K}
    (sameIssuer : other.issuer = verifier.issuer)
    (sameAudience : other.audience = verifier.audience)
    (sameKeys : ∀ kid, other.keys.lookup kid = verifier.keys.lookup kid) (tokens : TokenLibrary K)
    (second now : Int) (assertion : String) :
    other.verify tokens second now assertion = verifier.verify tokens second now assertion := by
  unfold StewardBrowserAssertionVerifier.verify
  simp only [sameIssuer, sameAudience, sameKeys]

/-- An accepted assertion was checked with the key that its header names. -/
theorem exists_key_of_verify {tokens : TokenLibrary K} {second now : Int} {assertion : String}
    {claims : BrowserHop1RequestClaims}
    (accepted : verifier.verify tokens second now assertion = some claims) :
    ∃ header kid key, tokens.decodeHeader assertion = some header ∧ header.alg = .es256 ∧
      header.kid = some kid ∧ verifier.keys.lookup kid = some key ∧
      tokens.accepts second verifier.issuer verifier.audience assertion key = true := by
  unfold StewardBrowserAssertionVerifier.verify at accepted
  split at accepted
  · contradiction
  cases decodedHeader : tokens.decodeHeader assertion with
  | none =>
      rw [decodedHeader] at accepted
      contradiction
  | some header =>
      rw [decodedHeader] at accepted
      dsimp only at accepted
      split at accepted
      · contradiction
      rename_i signed
      simp only [Bool.or_eq_true, bne_iff_ne, ne_eq, not_or, not_not] at signed
      cases named : header.kid with
      | none =>
          rw [named] at accepted
          contradiction
      | some kid =>
          rw [named] at accepted
          dsimp only at accepted
          cases found : verifier.keys.lookup kid with
          | none =>
              rw [found] at accepted
              contradiction
          | some key =>
              rw [found] at accepted
              dsimp only at accepted
              refine ⟨header, kid, key, rfl, signed.1, named, found, ?_⟩
              unfold TokenLibrary.decode at accepted
              split at accepted
              · contradiction
              · rename_i decoded
                split at decoded
                · assumption
                · contradiction

/-- A document of Steward is accepted exactly if it is well formed and has a usable key.
Then the keys of the verifier are the usable ones, in whatever order the document lists
them the verifier gives the same verdicts, and what it accepts was checked with the key
of the document that the header names. -/
theorem steward_document_exact (parseUrl : String → Option Url) (issuer audience : String)
    (jwks : List (Jwk K)) :
    ((∃ verifier, load parseUrl issuer audience (some jwks) = .ok verifier) ↔
      validHttpsIssuer parseUrl issuer = true ∧ Text.isEmpty audience = false ∧
        WellFormed jwks ∧ ∃ kid key, Usable jwks kid key) ∧
    ∀ verifier, load parseUrl issuer audience (some jwks) = .ok verifier →
      (∀ kid key, verifier.keys.lookup kid = some key ↔ Usable jwks kid key) ∧
      (∀ other, other.Perm jwks → ∃ same, load parseUrl issuer audience (some other) = .ok same ∧
        ∀ tokens second now assertion,
          same.verify tokens second now assertion =
            verifier.verify tokens second now assertion) ∧
      ∀ tokens second now assertion claims,
        verifier.verify tokens second now assertion = some claims →
          ∃ header kid key, tokens.decodeHeader assertion = some header ∧ header.alg = .es256 ∧
            header.kid = some kid ∧ Usable jwks kid key ∧
            tokens.accepts second issuer audience assertion key = true := by
  by_cases source : (validHttpsIssuer parseUrl issuer && !Text.isEmpty audience) = true
  · have loadEq : ∀ other : List (Jwk K),
        load parseUrl issuer audience (some other) = ofDocument issuer audience (some other) :=
      fun _ => load_eq source
    simp only [Bool.and_eq_true, Bool.not_eq_true'] at source
    constructor
    · rw [loadEq, exists_ofDocument_iff]
      simp [source.1, source.2]
    intro verifier loaded
    rw [loadEq] at loaded
    rcases ofDocument_lookup loaded with ⟨⟨sameIssuer, sameAudience⟩, lookup⟩
    refine ⟨lookup, ?_, ?_⟩
    · intro other permuted
      rcases exists_ofDocument_iff.mp ⟨verifier, loaded⟩ with ⟨wellFormed, kid, key, usable⟩
      have served : ∃ same, ofDocument issuer audience (some other) = .ok same :=
        exists_ofDocument_iff.mpr
          ⟨wellFormed.perm permuted, kid, key, (usable_perm permuted).mpr usable⟩
      rcases served with ⟨same, reloaded⟩
      rcases ofDocument_lookup reloaded with ⟨⟨otherIssuer, otherAudience⟩, otherLookup⟩
      refine ⟨same, (loadEq other).trans reloaded, fun tokens second now assertion => ?_⟩
      apply verify_eq_of_lookup (otherIssuer.trans sameIssuer.symm)
        (otherAudience.trans sameAudience.symm)
      intro kid
      apply Option.ext
      intro key
      rw [otherLookup, lookup, usable_perm permuted]
    · intro tokens second now assertion claims accepted
      rcases exists_key_of_verify accepted with ⟨header, kid, key, decoded, signed, named, found,
        valid⟩
      rw [sameIssuer, sameAudience] at valid
      exact ⟨header, kid, key, decoded, signed, named, (lookup kid key).mp found, valid⟩
  · have refused := load_of_invalid source (some jwks)
    refine ⟨?_, ?_⟩
    · rw [refused]
      simp only [reduceCtorEq, exists_false, false_iff]
      rintro ⟨issuerValid, audienceValid, _⟩
      exact source (by rw [issuerValid, audienceValid]; rfl)
    · intro verifier loaded
      rw [refused] at loaded
      contradiction

end Loaded

/-- A key for signatures, one for encryption with the same ID, and one without an ID. -/
def sampleJwks : List (Jwk Nat) :=
  [⟨some "steward", some es256, some .signature, some 1⟩,
    ⟨some "steward", some es256, some .encryption, some 2⟩, ⟨none, some es256, none, none⟩]

/-- Every text is the URL of one host. -/
def sampleParseUrl (_ : String) : Option Url :=
  some ⟨"https", some "steward.example.com", some 443, "", none, none, none⟩

/-- The key for signatures is the only one of the sample. -/
theorem steward_document_exact_sample :
    ∃ verifier,
      load sampleParseUrl "https://steward.example.com" "identity" (some sampleJwks) =
        .ok verifier ∧
      ∀ kid key, verifier.keys.lookup kid = some key ↔ kid = "steward" ∧ key = 1 := by
  have exactness := steward_document_exact sampleParseUrl "https://steward.example.com" "identity"
    sampleJwks
  have usable : ∀ kid key, Usable sampleJwks kid key ↔ kid = "steward" ∧ key = 1 := by
    have first : usableKid sampleJwks[0] = some "steward" := by decide
    have second : usableKid sampleJwks[1] = none := by decide
    have third : usableKid sampleJwks[2] = none := by decide
    intro kid key
    unfold sampleJwks at first second third ⊢
    simp only [List.getElem_cons_zero, List.getElem_cons_succ] at first second third
    rw [usable_cons_iff, usable_cons_iff, usable_cons_iff, first, second, third]
    simp [Usable, eq_comm]
  have wellFormed : WellFormed sampleJwks := by
    refine ⟨?_, by decide⟩
    intro jwk member kid found
    rcases List.mem_cons.mp member with rfl | member
    · rfl
    · have skipped : ∀ other ∈ sampleJwks.tail, usableKid other = none := by decide
      rw [skipped jwk member] at found
      contradiction
  rcases exactness.1.mpr ⟨by decide, by decide, wellFormed, "steward", 1, (usable _ _).mpr ⟨rfl, rfl⟩⟩
    with ⟨verifier, loaded⟩
  refine ⟨verifier, loaded, fun kid key => ?_⟩
  rw [(exactness.2 verifier loaded).1, usable]

end OidcExchange.Browser
