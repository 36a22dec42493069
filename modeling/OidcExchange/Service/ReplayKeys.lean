import OidcExchange.Oidc.Replay
import OidcExchange.Process.Sequential
import OidcExchange.Service.Concurrent
import OidcExchange.Workload.Validation

/-!
# Replay keys of different profiles

The four services share one replay ledger.  The browser profile and the generic
OIDC profile put a prefix of their own in front of their keys; the GitHub profile
and the workload profile use the `jti` of their assertion as it is, and so their
keys can meet each other and every other key.
-/

namespace OidcExchange.Service

open OidcExchange.GitHub OidcExchange.Oidc OidcExchange.Process OidcExchange.Replay
  OidcExchange.Workload

/-- The accepted claims that an exchange derives its replay key from. -/
inductive Source where
  | github (claims : GitHubClaims)
  | oidc (sha256 : List UInt8 → List UInt8) (claims : OidcClaims)
  | workload (claims : ProjectedTokenClaims)
  | browserHop1 (claims : BrowserHop1RequestClaims)

def Source.profile : Source → Profile
  | .github _ => .github
  | .oidc _ _ => .oidc
  | .workload _ => .workload
  | .browserHop1 _ => .browserHop1

/-- The claims that an exchange has accepted after these operations. -/
def Request.source (events : List (Event Answer)) : Request → Option Source
  | .github _ assertion =>
      match answerTo (Op.verify assertion) events with
      | some (.ok claims) => some (.github claims)
      | _ => none
  | .oidc service assertion =>
      match answerTo (Op.verifyOidc assertion) events with
      | some (.ok claims) => some (.oidc service.sha256 claims)
      | _ => none
  | .workload service assertion => (service.projectedClaims assertion).map .workload
  | .browserHop1 _ _ assertion =>
      match answerTo (Op.verifyBrowserHop1 assertion) events with
      | some (some claims) => some (.browserHop1 claims)
      | _ => none

/-- A `jti` that is used as it is does not meet the key of the source. -/
def ClearOf (jti : String) : Source → Prop
  | .github claims => jti ≠ claims.jti
  | .workload claims => jti ≠ claims.jti
  | .browserHop1 claims => Text.stripPrefix jti "browser-hop1:" ≠ some claims.jti
  | .oidc sha256 claims =>
      Text.stripPrefix jti "oidc-" ≠ (replayInput claims).map (hexDigest sha256)

/-- The keys of sources of different profiles do not meet. -/
def Source.Apart : Source → Source → Prop
  | .github claims, other => ClearOf claims.jti other
  | .workload claims, other => ClearOf claims.jti other
  | other, .github claims => ClearOf claims.jti other
  | other, .workload claims => ClearOf claims.jti other
  | _, _ => True

/-- The key that the exchange passes to `use_once`. -/
def Source.key : Source → Option String
  | .github claims => some claims.jti
  | .oidc sha256 claims => replayIdentifier sha256 claims
  | .workload claims => some claims.jti
  | .browserHop1 claims => some ("browser-hop1:" ++ claims.jti)

/-- An admitted exchange has accepted claims, and their key is the admitted one. -/
theorem Request.Admits.source {request : Request} {events : List (Event Answer)} {key : String}
    {expiresAt : Int} (admitted : request.Admits events key expiresAt) :
    ∃ source, request.source events = some source ∧ source.key = some key ∧
      source.profile = request.profile := by
  cases request with
  | github service assertion =>
      rcases admitted with ⟨claims, _, verified, _, rfl, _⟩
      exact ⟨.github claims, by simp [Request.source, verified], rfl, rfl⟩
  | oidc service assertion =>
      rcases admitted with ⟨claims, _, verified, _, identified, _⟩
      exact ⟨.oidc service.sha256 claims, by simp [Request.source, verified], identified, rfl⟩
  | workload service assertion =>
      rcases admitted with ⟨_, _, _, claims, _, _, _, _, _, projected, _, rfl, _⟩
      exact ⟨.workload claims, by simp [Request.source, projected], rfl, rfl⟩
  | browserHop1 service workloadUsername assertion =>
      rcases admitted with ⟨_, claims, _, _, verified, rfl, _⟩
      exact ⟨.browserHop1 claims, by simp [Request.source, verified], rfl, rfl⟩

section Runs

variable {ι σ : Type}

/-- The exchange was admitted with the key and has used the ledger or was dropped. -/
def Recorder (requests : ι → Request)
    (config : Config ι Answer σ (Except ExchangeError String)) (key : String) (task : ι) : Prop :=
  (∃ expiresAt, (requests task).Admits (config.history task) key expiresAt) ∧
    (useAnswer (config.history task) ≠ none ∨ config.tasks task = none)

theorem useAnswer_append_ne_none {events later : List (Event Answer)}
    (used : useAnswer events ≠ none) : useAnswer (events ++ later) ≠ none := by
  intro unused
  apply used
  rw [useAnswer_eq_none_iff] at unused ⊢
  exact fun event member => unused event (List.mem_append_left _ member)

variable [DecidableEq ι] {ledger : LedgerRelation σ} {recorded : σ → Set String}
  {requests : ι → Request} {start : σ}
  {config target : Config ι Answer σ (Except ExchangeError String)}

/-- Who has recorded a key stays its recorder. -/
theorem Recorder.step {label : Label ι Answer} {key : String} {task : ι}
    (recorder : Recorder requests config key task)
    (step : Step (services ledger) config label target) : Recorder requests target key task := by
  rcases recorder with ⟨⟨expiresAt, admitted⟩, finished⟩
  rcases history_of_step step task with ⟨later, grown⟩
  constructor
  · exact ⟨expiresAt, grown ▸ admitted.append⟩
  · rcases finished with used | dropped
    · left
      rw [grown]
      exact useAnswer_append_ne_none used
    · right
      cases step with
      | @perform performer op next answer shared running effect =>
          have different : task ≠ performer := by
            rintro rfl
            rw [dropped] at running
            contradiction
          rw [Config.resume_tasks_of_ne different]
          exact dropped
      | @cancel performer op next shared running effect =>
          by_cases same : task = performer
          · rw [same, Config.drop_tasks_self]
          · rw [Config.drop_tasks_of_ne same]
            exact dropped
      | environment => exact dropped

end Runs

/-! ## Exactly when the keys meet -/

/-- The operations pass the key to `use_once`. -/
def Passes (events : List (Event Answer)) (key : String) : Prop :=
  ∃ expiresAt answer, (⟨.useOnce key expiresAt, answer⟩ : Event Answer) ∈ events

/-- A workload that may obtain task tokens. -/
def runnerPolicy : WorkloadPolicy where
  version := workloadPolicyVersion
  identities :=
    [{ username := "system:serviceaccount:build:runner"
       subject := "kubernetes:serviceaccount:build:runner"
       roles := []
       task := some Oidc.sampleTask }]

theorem authorize_runner :
    runnerPolicy.authorize "system:serviceaccount:build:runner" =
      .ok
        { username := "system:serviceaccount:build:runner"
          subject := "kubernetes:serviceaccount:build:runner"
          roles := []
          task := some Oidc.sampleTask } := by
  decide +kernel

/-- The workload service with projected tokens of this `jti`. -/
def runnerService (jti : String) : WorkloadExchangeService where
  projectedClaims _ := some { jti := jti, exp := 1000 }
  policy := runnerPolicy
  issuer := "https://identity.example.com"
  inputAudience := "identity"
  outputAudience := "openshell"
  taskOutputAudience := "steward-task-api"
  tokenTtl := 120

end OidcExchange.Service
