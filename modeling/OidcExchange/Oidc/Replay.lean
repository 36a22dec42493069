import OidcExchange.Data.Framing
import OidcExchange.Oidc.Verify

/-!
# The replay identity of generic OIDC assertions

`replay_identifier` hashes the components of the identity, each behind its length.
Verified claims are short enough for the 64-bit length, so the hashed bytes
determine the components, and the tag in the second place tells the two forms
apart.
-/

namespace OidcExchange.Oidc

open OidcExchange.Jwks

/-! ## Framed components -/

/-- The digits above a place and the digit at it determine the digits from it on. -/
theorem div_pow_eq_of_succ {first second place : Nat}
    (above : first / 256 ^ (place + 1) = second / 256 ^ (place + 1))
    (digit : UInt8.ofNat (first / 256 ^ place) = UInt8.ofNat (second / 256 ^ place)) :
    first / 256 ^ place = second / 256 ^ place := by
  rw [pow_succ, ← Nat.div_div_eq_div_mul, ← Nat.div_div_eq_div_mul] at above
  rw [← UInt8.toNat_inj, UInt8.toNat_ofNat', UInt8.toNat_ofNat'] at digit
  rw [← Nat.div_add_mod (first / 256 ^ place) 256, above, digit, Nat.div_add_mod]

theorem toBeBytes_inj {first second : Nat} (firstBound : first < 2 ^ 64)
    (secondBound : second < 2 ^ 64) (same : toBeBytes first = toBeBytes second) :
    first = second := by
  have top : first / 256 ^ (7 + 1) = second / 256 ^ (7 + 1) := by
    rw [Nat.div_eq_of_lt (firstBound.trans_eq (by norm_num)),
      Nat.div_eq_of_lt (secondBound.trans_eq (by norm_num))]
  simp only [toBeBytes, List.map_cons, List.map_nil, List.cons.injEq, and_true] at same
  rcases same with ⟨d7, d6, d5, d4, d3, d2, d1, d0⟩
  have below4 := div_pow_eq_of_succ (div_pow_eq_of_succ (div_pow_eq_of_succ
    (div_pow_eq_of_succ top d7) d6) d5) d4
  have below0 := div_pow_eq_of_succ (div_pow_eq_of_succ (div_pow_eq_of_succ
    (div_pow_eq_of_succ below4 d3) d2) d1) d0
  simpa using below0

/-- `(value.len() as u64).to_be_bytes()` as a header. -/
def componentHeader : LengthHeader UInt8 where
  encode := toBeBytes
  width := 8
  limit := 2 ^ 64
  positive := by decide
  length_encode _ := rfl
  encode_inj := toBeBytes_inj

theorem replayComponent_eq_frame (value : String) :
    replayComponent value = componentHeader.frame (Text.asBytes value) := by
  rw [LengthHeader.frame, Text.length_asBytes]
  rfl

/-- A component can be split off from the components behind it. -/
theorem replayComponent_selfDelimiting :
    SelfDelimiting replayComponent fun value => Text.len value < 2 ^ 64 where
  nonempty value := by
    rw [replayComponent_eq_frame]
    exact componentHeader.frame_selfDelimiting.nonempty _
  separates := by
    intro first second firstRest secondRest firstShort secondShort same
    rw [replayComponent_eq_frame, replayComponent_eq_frame] at same
    rw [← Text.length_asBytes] at firstShort secondShort
    rcases componentHeader.frame_selfDelimiting.separates firstShort secondShort same with
      ⟨sameBytes, sameRest⟩
    exact ⟨Text.asBytes_injective sameBytes, sameRest⟩

/-- Equal digests in hexadecimal notation are equal. -/
theorem hexDigest_inj {sha256 : List UInt8 → List UInt8} {first second : List UInt8}
    (same : hexDigest sha256 first = hexDigest sha256 second) : sha256 first = sha256 second := by
  have delimiting := SelfDelimiting.of_width (by decide) Text.length_hexByte
    Text.hexByte_injective
  apply delimiting.flatMap_inj (fun _ _ => trivial) (fun _ _ => trivial)
  exact String.ofList_injective same

/-! ## The hashed bytes -/

/-- The components that `replay_identifier` writes to the hasher. -/
def replayComponents (claims : OidcClaims) : Option (List String) :=
  match claims.jti with
  | some jti => some [claims.issuer, "jti", jti]
  | none =>
      match claims.buildNumber with
      | none => none
      | some buildNumber =>
          some [claims.issuer, "jenkins-build", claims.subject, toString claims.issuedAt,
            Nat.repr buildNumber]

/-- The bytes that `replay_identifier` hashes. -/
def replayInput (claims : OidcClaims) : Option (List UInt8) :=
  (replayComponents claims).map fun components => components.flatMap replayComponent

theorem replayIdentifier_eq (sha256 : List UInt8 → List UInt8) (claims : OidcClaims) :
    replayIdentifier sha256 claims =
      (replayInput claims).map fun input => "oidc-" ++ hexDigest sha256 input := by
  unfold replayIdentifier replayInput replayComponents
  cases claims.jti with
  | some jti => simp
  | none =>
      cases claims.buildNumber with
      | none => rfl
      | some buildNumber => simp

variable {parseUrl : String → Option Url} {claims first second : OidcClaims}

theorem len_of_boundedGraphic {value : String} {maximum : Nat}
    (bounded : boundedGraphic value maximum = true) : Text.len value ≤ maximum := by
  simp only [boundedGraphic, GitHub.boundedAscii, Bool.and_eq_true, decide_eq_true_eq] at bounded
  exact bounded.1.2

theorem OidcClaims.Verified.len_issuer (verified : claims.Verified parseUrl) :
    Text.len claims.issuer ≤ 2048 := by
  rcases verified.validated with ⟨provider, valid, validated⟩
  have sound := valid.1
  simp only [OidcProviderPolicy.sound, validIssuer, Bool.and_eq_true, decide_eq_true_eq] at sound
  rw [validated.issuer]
  exact sound.1.1.1.1.1

theorem OidcClaims.Verified.len_subject (verified : claims.Verified parseUrl) :
    Text.len claims.subject ≤ 2048 := by
  rcases verified.validated with ⟨_, _, validated⟩
  exact len_of_boundedGraphic validated.subject

/-- The components of verified claims fit their headers. -/
theorem OidcClaims.Verified.components_short (verified : claims.Verified parseUrl)
    {components : List String} (hashed : replayComponents claims = some components) :
    ∀ component ∈ components, Text.len component < 2 ^ 64 := by
  have issuer := verified.len_issuer
  have subject := verified.len_subject
  rcases verified.validated with ⟨_, _, validated⟩
  unfold replayComponents at hashed
  split at hashed
  · rename_i jti present
    have jtiShort := len_of_boundedGraphic (validated.jti jti present)
    have tag : Text.len "jti" < 2 ^ 64 := by decide
    cases hashed
    simp only [List.forall_mem_cons, List.not_mem_nil, false_implies, implies_true, and_true]
    exact ⟨by omega, tag, by omega⟩
  · split at hashed
    · contradiction
    · rename_i buildNumber present
      have tag : Text.len "jenkins-build" < 2 ^ 64 := by decide
      have issuedShort : Text.len (toString claims.issuedAt) ≤ 20 := by
        apply Text.len_toString_int_le
        have bounds := validated.issuedAt
        simp only [i64Min, i64Max] at bounds
        omega
      have buildShort : Text.len (Nat.repr buildNumber) ≤ 20 := by
        have bound := validated.buildNumber buildNumber present
        rw [Text.len_repr]
        exact (Nat.length_toDigits_le_iff (by decide) (by decide)).mpr (by omega)
      cases hashed
      simp only [List.forall_mem_cons, List.not_mem_nil, false_implies, implies_true, and_true]
      exact ⟨by omega, tag, by omega, by omega, by omega⟩

/-- The replay identity of claims, as the components say it. -/
def SameReplayIdentity (first second : OidcClaims) : Prop :=
  first.issuer = second.issuer ∧
    ((∃ jti, first.jti = some jti ∧ second.jti = some jti) ∨
      first.jti = none ∧ second.jti = none ∧ first.subject = second.subject ∧
        first.issuedAt = second.issuedAt ∧ first.buildNumber = second.buildNumber)

theorem replayComponents_eq_iff (firstVerified : first.Verified parseUrl)
    (secondVerified : second.Verified parseUrl) :
    replayComponents first = replayComponents second ↔ SameReplayIdentity first second := by
  rcases firstVerified.validated with ⟨_, _, firstValidated⟩
  rcases secondVerified.validated with ⟨_, _, secondValidated⟩
  unfold replayComponents SameReplayIdentity
  cases firstJti : first.jti with
  | some jti =>
      cases secondJti : second.jti with
      | some otherJti => simp [eq_comm]
      | none =>
          cases second.buildNumber with
          | none => simp
          | some buildNumber => simp
  | none =>
      cases firstBuild : first.buildNumber with
      | none => exact absurd firstBuild (firstValidated.identified firstJti)
      | some buildNumber =>
          cases secondJti : second.jti with
          | some jti => simp
          | none =>
              cases secondBuild : second.buildNumber with
              | none => exact absurd secondBuild (secondValidated.identified secondJti)
              | some otherNumber =>
                  have issuedIff : first.issuedAt.repr = second.issuedAt.repr ↔
                      first.issuedAt = second.issuedAt :=
                    Text.toString_int_injective.eq_iff
                  have buildIff : Nat.repr buildNumber = Nat.repr otherNumber ↔
                      buildNumber = otherNumber := by
                    constructor
                    · intro same
                      have sameInt : (buildNumber : Int) = otherNumber :=
                        Text.toString_int_injective same
                      omega
                    · intro same
                      rw [same]
                  simp [issuedIff, buildIff]

theorem replayInput_eq_iff (firstVerified : first.Verified parseUrl)
    (secondVerified : second.Verified parseUrl) :
    replayInput first = replayInput second ↔ SameReplayIdentity first second := by
  rw [← replayComponents_eq_iff firstVerified secondVerified]
  constructor
  · intro same
    unfold replayInput at same
    cases firstComponents : replayComponents first with
    | none =>
        cases secondComponents : replayComponents second with
        | none => rfl
        | some components => simp [firstComponents, secondComponents] at same
    | some components =>
        cases secondComponents : replayComponents second with
        | none => simp [firstComponents, secondComponents] at same
        | some otherComponents =>
            rw [firstComponents, secondComponents, Option.map_some, Option.map_some,
              Option.some.injEq] at same
            rw [replayComponent_selfDelimiting.flatMap_inj
              (firstVerified.components_short firstComponents)
              (secondVerified.components_short secondComponents) same]
  · intro same
    rw [replayInput, replayInput, same]

/-- Two verified assertions share their replay identifier exactly if they share the
issuer and either the `jti` or, both without one, the subject, the time of issue and
the build number. -/
theorem replayIdentifier_eq_iff {sha256 : List UInt8 → List UInt8}
    (firstVerified : first.Verified parseUrl) (secondVerified : second.Verified parseUrl)
    (injective : Set.InjOn sha256
      {input | replayInput first = some input ∨ replayInput second = some input}) :
    replayIdentifier sha256 first = replayIdentifier sha256 second ↔
      first.issuer = second.issuer ∧
        ((∃ jti, first.jti = some jti ∧ second.jti = some jti) ∨
          first.jti = none ∧ second.jti = none ∧ first.subject = second.subject ∧
            first.issuedAt = second.issuedAt ∧ first.buildNumber = second.buildNumber) := by
  have identity := replayInput_eq_iff firstVerified secondVerified
  rw [SameReplayIdentity] at identity
  rw [← identity, replayIdentifier_eq, replayIdentifier_eq]
  constructor
  · intro same
    cases firstInput : replayInput first with
    | none =>
        cases secondInput : replayInput second with
        | none => rfl
        | some input => simp [firstInput, secondInput] at same
    | some input =>
        cases secondInput : replayInput second with
        | none => simp [firstInput, secondInput] at same
        | some otherInput =>
            rw [firstInput, secondInput, Option.map_some, Option.map_some, Option.some.injEq,
              String.append_right_inj] at same
            rw [injective (Or.inl firstInput) (Or.inr secondInput) (hexDigest_inj same)]
  · intro same
    rw [same]

/-- The claims of an assertion with a `jti`. -/
def samplePayload : AList fun _ : String => Json :=
  (((((AList.singleton "sub" (Json.string "job")).insert "iss"
    (.string "https://login.example.com")).insert "aud" (.string "exchange")).insert "exp"
      (.integer 1000)).insert "iat" (.integer 800)).insert "jti" (.string "a")

/-- The claims of a build without a `jti`. -/
def sampleBuildPayload : AList fun _ : String => Json :=
  (samplePayload.erase "jti").insert "build_number" (.integer 7)

def sampleVerified : OidcClaims where
  issuer := "https://login.example.com"
  subject := "job"
  expiresAt := 1000
  issuedAt := 800
  jti := some "a"
  buildNumber := none
  values := samplePayload

def sampleBuild : OidcClaims where
  issuer := "https://login.example.com"
  subject := "job"
  expiresAt := 1000
  issuedAt := 800
  jti := none
  buildNumber := some 7
  values := sampleBuildPayload

/-- SHA-256 on the bytes of the two samples. -/
def sampleSha256 (input : List UInt8) : List UInt8 :=
  if some input = replayInput sampleVerified then
    [0xc6, 0x05, 0x6b, 0x89, 0x1d, 0xc0, 0x07, 0x23, 0xfc, 0xbe, 0xe6, 0xa1,
      0xd8, 0xca, 0xba, 0xff, 0x25, 0xef, 0xda, 0xca, 0x09, 0xbd, 0xe8, 0x66,
      0x63, 0xe9, 0xf6, 0x2e, 0xdf, 0x5b, 0x56, 0xc8]
  else
    [0xc7, 0xbb, 0xe8, 0xbf, 0xe6, 0xff, 0xc5, 0x7c, 0xc6, 0x9f, 0x70, 0x5e,
      0x91, 0x78, 0x7f, 0x6c, 0x03, 0x15, 0x93, 0x47, 0xde, 0x6c, 0x82, 0x5a,
      0x25, 0x3c, 0xfa, 0x59, 0x1b, 0x02, 0x2f, 0x69]

theorem replayIdentifier_eq_iff_sample :
    sampleVerified.Verified sampleUrl ∧ sampleBuild.Verified sampleUrl ∧
      replayIdentifier sampleSha256 sampleVerified ≠ replayIdentifier sampleSha256 sampleBuild := by
  have valid : samplePolicy.validate sampleUrl = .ok () := by decide +kernel
  have verified : sampleVerified.Verified sampleUrl :=
    ⟨samplePolicy, valid, _, List.mem_cons_self, 900, samplePayload, rfl⟩
  have verifiedBuild : sampleBuild.Verified sampleUrl :=
    ⟨samplePolicy, valid, _, List.mem_cons_self, 900, sampleBuildPayload, rfl⟩
  have injective : Set.InjOn sampleSha256
      {input | replayInput sampleVerified = some input ∨ replayInput sampleBuild = some input} := by
    intro input hashed otherInput otherHashed same
    have different : replayInput sampleBuild ≠ replayInput sampleVerified := by decide +kernel
    rcases hashed with hashed | hashed
    · rcases otherHashed with otherHashed | otherHashed
      · exact Option.some.inj (hashed.symm.trans otherHashed)
      · rw [sampleSha256, sampleSha256, if_pos hashed.symm,
          if_neg (otherHashed ▸ different)] at same
        contradiction
    · rcases otherHashed with otherHashed | otherHashed
      · rw [sampleSha256, sampleSha256, if_neg (hashed ▸ different),
          if_pos otherHashed.symm] at same
        contradiction
      · exact Option.some.inj (hashed.symm.trans otherHashed)
  have distinct := replayIdentifier_eq_iff verified verifiedBuild injective
  refine ⟨verified, verifiedBuild, ?_⟩
  intro same
  rcases distinct.mp same with ⟨_, ⟨jti, _, absent⟩ | ⟨absent, _⟩⟩
  · exact absurd absent (by simp [sampleBuild])
  · exact absurd absent (by simp [sampleVerified])

end OidcExchange.Oidc
