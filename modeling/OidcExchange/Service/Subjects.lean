import OidcExchange.Browser.Verify
import OidcExchange.GitHub.Identity
import OidcExchange.Oidc.Replay
import OidcExchange.Service.ReplayKeys

/-!
# Subjects of issued tokens

Each service forms the subject of its tokens in its own way.  The subjects of
different profiles begin differently, and within a profile the subject determines
the principal that has authenticated.
-/

namespace OidcExchange.Service

open OidcExchange.GitHub OidcExchange.Jwks OidcExchange.Oidc OidcExchange.Process
  OidcExchange.Workload

/-- Who has authenticated at the source. -/
inductive Principal where
  | github (actorId : String)
  | oidc (issuer subject : String)
  | workload (username : String)
  | browserHop1 (canonicalUserId : String)
  deriving DecidableEq

def Principal.profile : Principal → Profile
  | .github _ => .github
  | .oidc _ _ => .oidc
  | .workload _ => .workload
  | .browserHop1 _ => .browserHop1

/-- The bytes that are hashed into the subject. -/
def Principal.hashed : Principal → Option (List UInt8)
  | .oidc issuer subject => some ([issuer, subject].flatMap replayComponent)
  | _ => none

/-- The subject of the tokens of a principal. -/
def Principal.subject (sha256 : List UInt8 → List UInt8) : Principal → String
  | .github actorId => "github-actions:actor:" ++ actorId
  | .oidc issuer subject =>
      "oidc:" ++ hexDigest sha256 ([issuer, subject].flatMap replayComponent)
  | .workload username =>
      subjectPrefix ++ (Text.stripPrefix username serviceAccountPrefix).getD ""
  | .browserHop1 canonicalUserId => canonicalUserId

/-- What the verifiers and the validated policies guarantee of a principal. -/
def Principal.WellFormed : Principal → Prop
  | .github _ => True
  | .oidc issuer subject => Text.len issuer < 2 ^ 64 ∧ Text.len subject < 2 ^ 64
  | .workload username => ∃ account, username = serviceAccountPrefix ++ account
  | .browserHop1 canonicalUserId => GitHub.canonicalUserId canonicalUserId = true

/-- How the subjects of a profile begin. -/
def Profile.tag : Profile → String
  | .github => "github-actions:actor:"
  | .oidc => "oidc:"
  | .workload => subjectPrefix
  | .browserHop1 => "usr_"

theorem tag_not_startsWith {first second : Profile} (different : first ≠ second) :
    Text.startsWith first.tag second.tag = false := by
  cases first <;> cases second <;> first | contradiction | decide

theorem Principal.WellFormed.subject_startsWith {principal : Principal}
    (wellFormed : principal.WellFormed) (sha256 : List UInt8 → List UInt8) :
    Text.startsWith (principal.subject sha256) principal.profile.tag = true := by
  cases principal with
  | github actorId => exact Text.startsWith_append _ _
  | oidc issuer subject => exact Text.startsWith_append _ _
  | workload username => exact Text.startsWith_append _ _
  | browserHop1 canonicalUserId =>
      have canonical : GitHub.canonicalUserId canonicalUserId = true := wellFormed
      unfold GitHub.canonicalUserId at canonical
      split at canonical
      · contradiction
      · rename_i suffix stripped
        have starts : Text.startsWith canonicalUserId "usr_" = true := by
          rw [Text.stripPrefix_eq_some_iff.mp stripped]
          exact Text.startsWith_append "usr_" suffix
        exact starts

/-- The subjects of well-formed principals tell them apart. -/
theorem Principal.eq_of_subject_eq {sha256 : List UInt8 → List UInt8} {first second : Principal}
    (firstWellFormed : first.WellFormed) (secondWellFormed : second.WellFormed)
    (injective : Set.InjOn sha256 {input | first.hashed = some input ∨ second.hashed = some input})
    (same : first.subject sha256 = second.subject sha256) : first = second := by
  have sameProfile : first.profile = second.profile := by
    by_contra different
    have firstStarts := firstWellFormed.subject_startsWith sha256
    have secondStarts := secondWellFormed.subject_startsWith sha256
    rw [Text.startsWith_eq_false (same ▸ firstStarts) (tag_not_startsWith different)
      (tag_not_startsWith (Ne.symm different))] at secondStarts
    contradiction
  cases first with
  | github actorId =>
      cases second with
      | github otherId =>
          have sameId := (String.append_right_inj _).mp same
          rw [sameId]
      | _ => contradiction
  | oidc issuer subject =>
      cases second with
      | oidc otherIssuer otherSubject =>
          have sameDigest := hexDigest_inj ((String.append_right_inj _).mp same)
          have sameInput := injective (Or.inl rfl) (Or.inr rfl) sameDigest
          have firstShort : Text.len issuer < 2 ^ 64 ∧ Text.len subject < 2 ^ 64 := firstWellFormed
          have secondShort : Text.len otherIssuer < 2 ^ 64 ∧ Text.len otherSubject < 2 ^ 64 :=
            secondWellFormed
          have sameComponents := replayComponent_selfDelimiting.flatMap_inj
            (by simpa using firstShort) (by simpa using secondShort) sameInput
          rw [List.cons.injEq, List.cons.injEq] at sameComponents
          rw [sameComponents.1, sameComponents.2.1]
      | _ => contradiction
  | workload username =>
      cases second with
      | workload otherName =>
          rcases firstWellFormed with ⟨account, rfl⟩
          rcases secondWellFormed with ⟨otherAccount, rfl⟩
          have sameAccount := (String.append_right_inj _).mp same
          rw [Text.stripPrefix_eq_some_iff.mpr rfl, Text.stripPrefix_eq_some_iff.mpr rfl,
            Option.getD_some, Option.getD_some] at sameAccount
          rw [sameAccount]
      | _ => contradiction
  | browserHop1 canonicalUserId =>
      cases second with
      | browserHop1 otherId =>
          have sameId : canonicalUserId = otherId := same
          rw [sameId]
      | _ => contradiction

/-! ## What the services sign -/

def Document.sub : Document → String
  | .github claims => claims.sub
  | .oidcTask claims => claims.sub
  | .workload claims => claims.sub
  | .workloadTask claims => claims.sub
  | .browserHop1 claims => claims.sub

/-- The principal that an exchange has authenticated by these operations. -/
def Request.principal (events : List (Event Answer)) : Request → Option Principal
  | .github _ assertion =>
      match answerTo (Op.verify assertion) events with
      | some (.ok claims) => some (.github claims.actorId)
      | _ => none
  | .oidc _ assertion =>
      match answerTo (Op.verifyOidc assertion) events with
      | some (.ok claims) => some (.oidc claims.issuer claims.subject)
      | _ => none
  | .workload service assertion =>
      match answerTo (Op.review assertion service.inputAudience) events with
      | some (.ok username) => some (.workload username)
      | _ => none
  | .browserHop1 _ _ assertion =>
      match answerTo (Op.verifyBrowserHop1 assertion) events with
      | some (some claims) => some (.browserHop1 claims.sub)
      | _ => none

/-- Where the subject of a signed document comes from. -/
def Request.Names (request : Request) (before : List (Event Answer)) (document : Document) : Prop :=
  match request with
  | .github service assertion =>
      ∃ claims identity, answerTo (Op.verify assertion) before = some (.ok claims) ∧
        service.policy.authorize claims = .ok identity ∧ document.sub = identity.subject
  | .oidc service assertion =>
      ∃ claims, answerTo (Op.verifyOidc assertion) before = some (.ok claims) ∧
        document.sub = providerScopedSubject service.sha256 claims
  | .workload service assertion =>
      ∃ username identity,
        answerTo (Op.review assertion service.inputAudience) before = some (.ok username) ∧
        service.policy.authorize username = .ok identity ∧ document.sub = identity.subject
  | .browserHop1 _ _ assertion =>
      ∃ claims, answerTo (Op.verifyBrowserHop1 assertion) before = some (some claims) ∧
        document.sub = claims.sub

/-- Only documents with such a subject are signed. -/
def Request.Signs (request : Request) (before : List (Event Answer)) : Op → Prop
  | .sign document => request.Names before document
  | _ => True

section Signs

variable {request : Request} {history : List (Event Answer)} {profile : Profile}

theorem signs_refuse {counter : Counter} {failure : ExchangeError} :
    (refuse profile counter failure).Lawful request.Signs (fun _ _ => True) history :=
  ⟨trivial, fun _ => trivial⟩

theorem signs_issue {document : Document} (names : request.Names history document) :
    (issue profile document).Lawful request.Signs (fun _ _ => True) history := by
  constructor
  · exact names
  · rintro (_ | token)
    · exact signs_refuse
    · exact ⟨trivial, fun _ => trivial⟩

theorem ExchangeService.exchange_signs (service : ExchangeService) (assertion : String) :
    (service.exchange assertion).Lawful (Request.github service assertion).Signs
      (fun _ _ => True) [] := by
  refine ⟨trivial, fun _ => ⟨trivial, ?_⟩⟩
  rintro ((_ | _) | claims)
  · exact signs_refuse
  · exact signs_refuse
  cases authorized : service.policy.authorize claims with
  | error failure =>
      simp only [Program.bind_done, authorized]
      exact signs_refuse
  | ok identity =>
      simp only [Program.bind_done, authorized]
      refine ⟨trivial, ?_⟩
      rintro ((_ | _ | detail) | _)
      · exact signs_refuse
      · exact signs_refuse
      · exact signs_refuse
      · refine ⟨trivial, fun now => ⟨trivial, fun jti => ?_⟩⟩
        apply signs_issue
        exact ⟨claims, identity, by simp, authorized, rfl⟩

theorem OidcExchangeService.exchange_signs (service : OidcExchangeService) (assertion : String) :
    (service.exchange assertion).Lawful (Request.oidc service assertion).Signs
      (fun _ _ => True) [] := by
  refine ⟨trivial, fun _ => ⟨trivial, ?_⟩⟩
  rintro ((_ | _) | claims)
  · exact signs_refuse
  · exact signs_refuse
  cases authorized : service.policy.authorize claims with
  | error failure =>
      simp only [Program.bind_done, authorized]
      exact signs_refuse
  | ok task =>
      cases identified : replayIdentifier service.sha256 claims with
      | none =>
          simp only [Program.bind_done, authorized, identified]
          exact signs_refuse
      | some replay =>
          simp only [Program.bind_done, authorized, identified]
          refine ⟨trivial, ?_⟩
          rintro ((_ | _ | detail) | _)
          · exact ⟨trivial, fun _ => signs_refuse⟩
          · exact signs_refuse
          · exact signs_refuse
          · refine ⟨trivial, fun now => ⟨trivial, fun jti => ?_⟩⟩
            apply signs_issue
            exact ⟨claims, by simp, rfl⟩

theorem WorkloadExchangeService.exchange_signs (service : WorkloadExchangeService)
    (assertion : String) :
    (service.exchange assertion).Lawful (Request.workload service assertion).Signs
      (fun _ _ => True) [] := by
  refine ⟨trivial, fun _ => ⟨trivial, ?_⟩⟩
  rintro ((_ | _) | username)
  · exact signs_refuse
  · exact signs_refuse
  cases authorized : service.policy.authorize username with
  | error failure =>
      simp only [Program.bind_done, authorized]
      exact signs_refuse
  | ok identity =>
      simp only [Program.bind_done, authorized]
      refine ⟨trivial, fun now => ?_⟩
      cases identity.task with
      | none =>
          refine ⟨trivial, fun jti => ?_⟩
          apply signs_issue
          exact ⟨username, identity, by simp, authorized, rfl⟩
      | some task =>
          cases service.projectedClaims assertion with
          | none => exact signs_refuse
          | some claims =>
              simp only [Program.bind_done]
              split
              · exact signs_refuse
              · refine ⟨trivial, ?_⟩
                rintro ((_ | _ | detail) | _)
                · exact signs_refuse
                · exact signs_refuse
                · exact signs_refuse
                · refine ⟨trivial, fun jti => ?_⟩
                  apply signs_issue
                  exact ⟨username, identity, by simp, authorized, rfl⟩

theorem BrowserHop1ExchangeService.exchange_signs (service : BrowserHop1ExchangeService)
    (workloadUsername assertion : String) :
    (service.exchange workloadUsername assertion).Lawful
      (Request.browserHop1 service workloadUsername assertion).Signs (fun _ _ => True) [] := by
  refine ⟨trivial, fun _ => ?_⟩
  cases service.policy.authorize workloadUsername with
  | error failure => exact signs_refuse
  | ok caller =>
      simp only [Program.bind_done]
      split
      · exact signs_refuse
      · refine ⟨trivial, ?_⟩
        rintro (_ | claims)
        · exact signs_refuse
        · refine ⟨trivial, ?_⟩
          rintro ((_ | _ | detail) | _)
          · exact signs_refuse
          · exact signs_refuse
          · exact signs_refuse
          · refine ⟨trivial, fun now => ⟨trivial, fun jti => ?_⟩⟩
            apply signs_issue
            exact ⟨claims, by simp, rfl⟩

theorem Request.exchange_signs (request : Request) :
    request.exchange.Lawful request.Signs (fun _ _ => True) [] := by
  cases request with
  | github service assertion => exact service.exchange_signs assertion
  | oidc service assertion => exact service.exchange_signs assertion
  | workload service assertion => exact service.exchange_signs assertion
  | browserHop1 service workloadUsername assertion =>
      exact service.exchange_signs workloadUsername assertion

end Signs

/-! ## Issued tokens -/

/-- The policies are valid and the hash function is the given one. -/
def Request.Configured (parseUrl : String → Option Url) (sha256 : List UInt8 → List UInt8) :
    Request → Prop
  | .github service _ => service.policy.validate = .ok ()
  | .oidc service _ => service.policy.validate parseUrl = .ok () ∧ service.sha256 = sha256
  | .workload service _ => service.policy.validate = .ok ()
  | .browserHop1 service _ _ => service.policy.validate = .ok ()

/-- The answer comes from the verifier: a verifier set of a valid policy for generic OIDC
assertions, a verifier with any keys for browser assertions. -/
def Genuine (parseUrl : String → Option Url) : Event Answer → Prop
  | ⟨.verifyOidc assertion, .ok claims⟩ =>
      ∃ (K : Type) (library : JwksLibrary K) (tokens : Oidc.TokenLibrary K) (maxStaleness : Nat)
        (policy : OidcPolicy) (verifiers : OidcVerifierSet) (events : List (Event (Jwks.Answer K))),
        OidcVerifierSet.discover parseUrl maxStaleness policy = .ok verifiers ∧
          Program.Path (verifiers.verify library tokens assertion) events (.done (.ok claims))
  | ⟨.verifyBrowserHop1 assertion, some claims⟩ =>
      ∃ (K : Type) (tokens : Browser.TokenLibrary K)
        (verifier : Browser.StewardBrowserAssertionVerifier K) (second now : Int),
        verifier.verify tokens second now assertion = some claims
  | _ => True

/-- The exchange has signed the document. -/
structure Request.Issues (request : Request) (parseUrl : String → Option Url)
    (sha256 : List UInt8 → List UInt8) (events : List (Event Answer)) (document : Document) :
    Prop where
  configured : request.Configured parseUrl sha256
  path : ∃ target, Program.Path request.exchange events target
  genuine : ∀ event ∈ events, Genuine parseUrl event
  signed : ∃ token, (⟨.sign document, some token⟩ : Event Answer) ∈ events

theorem mem_of_answerTo {op : Op} {answer : Answer op} {events : List (Event Answer)}
    (found : answerTo op events = some answer) : (⟨op, answer⟩ : Event Answer) ∈ events := by
  induction events with
  | nil => contradiction
  | cons event events inductionHypothesis =>
      rcases event with ⟨other, received⟩
      by_cases same : other = op
      · subst same
        rw [answerTo_cons_self, Option.some.injEq] at found
        rw [found]
        exact List.mem_cons_self
      · rw [answerTo_cons_of_ne received same] at found
        exact List.mem_cons_of_mem _ (inductionHypothesis found)

/-- What a subject comes from is not lost by further operations. -/
theorem Request.Names.append {request : Request} {events later : List (Event Answer)}
    {document : Document} (names : request.Names events document) :
    request.Names (events ++ later) document := by
  cases request with
  | github service assertion =>
      rcases names with ⟨claims, identity, verified, rest⟩
      exact ⟨claims, identity, answerTo_append later verified, rest⟩
  | oidc service assertion =>
      rcases names with ⟨claims, verified, rest⟩
      exact ⟨claims, answerTo_append later verified, rest⟩
  | workload service assertion =>
      rcases names with ⟨username, identity, reviewed, rest⟩
      exact ⟨username, identity, answerTo_append later reviewed, rest⟩
  | browserHop1 service workloadUsername assertion =>
      rcases names with ⟨claims, verified, rest⟩
      exact ⟨claims, answerTo_append later verified, rest⟩

/-- A document is signed once its subject is known. -/
theorem Request.Issues.names {request : Request} {parseUrl : String → Option Url}
    {sha256 : List UInt8 → List UInt8} {events : List (Event Answer)} {document : Document}
    (issues : request.Issues parseUrl sha256 events document) :
    request.Names events document := by
  rcases issues with ⟨_, ⟨target, path⟩, _, token, signed⟩
  rcases List.append_of_mem signed with ⟨before, after, rfl⟩
  have names : request.Names before document := request.exchange_signs.operation path
  exact names.append

/-- An issued token carries the subject of the principal that has authenticated. -/
theorem Request.Issues.principal {request : Request} {parseUrl : String → Option Url}
    {sha256 : List UInt8 → List UInt8} {events : List (Event Answer)} {document : Document}
    (issues : request.Issues parseUrl sha256 events document) :
    ∃ principal : Principal, request.principal events = some principal ∧ principal.WellFormed ∧
      principal.profile = request.profile ∧ document.sub = principal.subject sha256 := by
  have names := issues.names
  have configured := issues.configured
  cases request with
  | github service assertion =>
      rcases names with ⟨claims, identity, found, authorized, sub⟩
      exact ⟨.github claims.actorId, by simp [Request.principal, found], trivial, rfl,
        sub.trans (GitHub.Policy.subject_of_authorize authorized)⟩
  | oidc service assertion =>
      rcases names with ⟨claims, found, sub⟩
      rcases issues.genuine _ (mem_of_answerTo found) with
        ⟨K, library, tokens, maxStaleness, policy, verifiers, keyEvents, discovered, accepted⟩
      have valid := OidcVerifierSet.verify_verified discovered accepted
      have issuerShort := valid.len_issuer
      have subjectShort := valid.len_subject
      have wellFormed : (Principal.oidc claims.issuer claims.subject).WellFormed := by
        constructor <;> omega
      refine ⟨.oidc claims.issuer claims.subject, by simp [Request.principal, found], wellFormed,
        rfl, ?_⟩
      have framed : [claims.issuer, claims.subject].flatMap replayComponent =
          replayComponent claims.issuer ++ replayComponent claims.subject := by
        rw [List.flatMap_cons, List.flatMap_cons, List.flatMap_nil, List.append_nil]
      rw [sub, configured.2, providerScopedSubject, ← framed]
      rfl
  | workload service assertion =>
      rcases names with ⟨username, identity, found, authorized, sub⟩
      rcases WorkloadPolicy.subject_of_authorize configured authorized with
        ⟨account, usernameEq, subjectEq⟩
      refine ⟨.workload username, by simp [Request.principal, found], ⟨account, usernameEq⟩,
        rfl, ?_⟩
      have stripped : (Text.stripPrefix username serviceAccountPrefix).getD "" = account := by
        rw [Text.stripPrefix_eq_some_iff.mpr usernameEq, Option.getD_some]
      rw [sub, subjectEq, ← stripped]
      rfl
  | browserHop1 service workloadUsername assertion =>
      rcases names with ⟨claims, found, sub⟩
      rcases issues.genuine _ (mem_of_answerTo found) with
        ⟨K, tokens, verifier, second, now, accepted⟩
      exact ⟨.browserHop1 claims.sub, by simp [Request.principal, found],
        verifier.canonicalUserId_of_verify accepted, rfl, sub⟩

/-- The subjects of issued tokens identify the principal: tokens with the same subject are
of the same profile and of the same principal, as long as the hash function does not
collide on what these two tokens hash. -/
theorem issued_subjects_identify {parseUrl : String → Option Url}
    {sha256 : List UInt8 → List UInt8} {first second : Request}
    {firstEvents secondEvents : List (Event Answer)} {firstDocument secondDocument : Document}
    (firstIssues : first.Issues parseUrl sha256 firstEvents firstDocument)
    (secondIssues : second.Issues parseUrl sha256 secondEvents secondDocument)
    (injective : Set.InjOn sha256 {input | ∃ principal : Principal,
      (first.principal firstEvents = some principal ∨
        second.principal secondEvents = some principal) ∧ principal.hashed = some input})
    (same : firstDocument.sub = secondDocument.sub) :
    first.profile = second.profile ∧ ∃ principal : Principal,
      first.principal firstEvents = some principal ∧
        second.principal secondEvents = some principal := by
  rcases firstIssues.principal with
    ⟨firstPrincipal, firstEq, firstWellFormed, firstProfile, firstSub⟩
  rcases secondIssues.principal with
    ⟨secondPrincipal, secondEq, secondWellFormed, secondProfile, secondSub⟩
  have samePrincipal : firstPrincipal = secondPrincipal := by
    apply Principal.eq_of_subject_eq firstWellFormed secondWellFormed
    · apply injective.mono
      rintro input (hashed | hashed)
      · exact ⟨firstPrincipal, Or.inl firstEq, hashed⟩
      · exact ⟨secondPrincipal, Or.inr secondEq, hashed⟩
    · rw [← firstSub, ← secondSub]
      exact same
  subst samePrincipal
  exact ⟨firstProfile.symm.trans secondProfile, firstPrincipal, firstEq, secondEq⟩

/-- The sample claims with this `jti`. -/
def claimsWithJti (jti : String) : GitHubClaims :=
  { GitHub.sampleClaims with jti := jti }

/-- What the sample service signs for these claims. -/
def signedFor (jti : String) (identity : Identity) : Document :=
  .github
    { iss := "https://identity.example.com"
      sub := identity.subject
      aud := ["steward"]
      exp := 1020
      iat := 900
      nbf := 895
      jti := "uuid"
      actorLogin := identity.actorLogin
      email := identity.email
      emailVerified := identity.emailVerified
      groups := identity.groups
      identityContract := identity.identityContract
      sourceProvenance := .ofClaims (claimsWithJti jti) }

/-- The operations of a GitHub exchange of an assertion with this `jti`. -/
def issuingEvents (jti : String) (document : Document) : List (Event Answer) :=
  [⟨.count .github .requests, ()⟩, ⟨.verify "assertion", .ok (claimsWithJti jti)⟩,
    ⟨.useOnce jti 1000, .ok ()⟩, ⟨.currentTimestamp, (900 : Nat)⟩, ⟨.newUuid, "uuid"⟩,
    ⟨.sign document, some "token"⟩]

theorem exists_issues (jti : String) :
    ∃ document, (Request.github sampleService "assertion").Issues (fun _ => none) id
        (issuingEvents jti document) document ∧
      document.sub = "github-actions:actor:" ++ GitHub.sampleClaims.actorId := by
  have same : sampleService.policy.authorize (claimsWithJti jti) =
      sampleService.policy.authorize GitHub.sampleClaims := rfl
  have accepted : ∃ identity, sampleService.policy.authorize GitHub.sampleClaims = .ok identity :=
    ⟨_, rfl⟩
  rcases accepted with ⟨identity, authorized⟩
  rw [← same] at authorized
  have valid : sampleService.policy.validate = .ok () := by decide +kernel
  refine ⟨signedFor jti identity, ⟨valid, ?_, ?_, "token", by simp [issuingEvents]⟩,
    GitHub.Policy.subject_of_authorize authorized⟩
  · apply Program.Path.exists_step
    apply Program.Path.exists_step
    simp only [Program.bind_done, authorized]
    exact ⟨_, .step (.step (.step (.step (.refl _))))⟩
  · intro event member
    simp only [issuingEvents, List.mem_cons, List.not_mem_nil, or_false] at member
    rcases member with rfl | rfl | rfl | rfl | rfl | rfl <;> trivial

/-- Two assertions of one actor are exchanged. -/
theorem issued_subjects_identify_sample :
    ∃ document otherDocument principal,
      (Request.github sampleService "assertion").Issues (fun _ => none) id
        (issuingEvents "a" document) document ∧
      (Request.github sampleService "assertion").Issues (fun _ => none) id
        (issuingEvents "b" otherDocument) otherDocument ∧
      (Request.github sampleService "assertion").principal (issuingEvents "a" document) =
        some principal ∧
      (Request.github sampleService "assertion").principal (issuingEvents "b" otherDocument) =
        some principal := by
  rcases exists_issues "a" with ⟨document, issues, sub⟩
  rcases exists_issues "b" with ⟨otherDocument, otherIssues, otherSub⟩
  rcases issued_subjects_identify issues otherIssues Function.injective_id.injOn
    (sub.trans otherSub.symm) with ⟨_, principal, first, second⟩
  exact ⟨document, otherDocument, principal, issues, otherIssues, first, second⟩

end OidcExchange.Service
