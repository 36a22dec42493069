import OidcExchange.Jwks.Freshness
import OidcExchange.Process.Trace

/-!
# Where a verifier sends its requests

Assertions, key IDs and downloaded documents come from outside.  Whatever they are, a
GitHub verifier only ever fetches its own JWKS, and the verifier of a provider only the
discovery document of its issuer and, named by that document, a JWKS of the same origin.
The keys that it caches are the keys of the document that it has fetched from there.
-/

namespace OidcExchange.Jwks

open OidcExchange.Process

variable {K : Type}

/-- The history contains no request. -/
def Quiet (events : List (Event (Answer K))) : Prop :=
  ∀ event ∈ events, ∀ url, event.1 ≠ .send url

/-- A fetch of one document, with the answers to its two operations. -/
def fetched (url : String) (response : Response) (body : List UInt8) :
    List (Event (Answer K)) :=
  [⟨.send url, some response⟩, ⟨.readBody, some body⟩]

def discoveryUrl (issuer : String) : String :=
  issuer ++ "/.well-known/openid-configuration"

/-- Both are HTTPS URLs of one origin, and `url` has neither credentials nor a query. -/
structure SameOrigin (library : JwksLibrary K) (issuer url : String) : Prop where
  parsed : ∃ source target, library.parseUrl issuer = some source ∧
    library.parseUrl url = some target ∧ source.scheme = target.scheme ∧
    source.host = target.host ∧ source.portOrKnownDefault = target.portOrKnownDefault ∧
    target.scheme = "https" ∧ target.host.isSome ∧ target.username = "" ∧
    target.password = none ∧ target.query = none ∧ target.fragment = none

/-- The history has just fetched a discovery document of the issuer that names `url`. -/
def Discovered (library : JwksLibrary K) (issuer : String) (history : List (Event (Answer K)))
    (url : String) : Prop :=
  ∃ earlier response body discovery, Quiet earlier ∧
    history = earlier ++ fetched (discoveryUrl issuer) response body ∧
    body.length ≤ maxDiscoveryBytes ∧ library.parseDiscovery body = some discovery ∧
    discovery.issuer = issuer ∧ discovery.jwksUri = url ∧ SameOrigin library issuer url

/-- The URL of the key set, after the history of the task. -/
def KeyUrl (library : JwksLibrary K) (history : List (Event (Answer K))) (url : String) :
    Verifier → Prop
  | .github jwksUrl _ => url = jwksUrl ∧ Quiet history
  | .provider issuer _ => Discovered library issuer history url

/-- The requests that a task may send after its history. -/
def Destination (library : JwksLibrary K) (history : List (Event (Answer K))) (url : String)
    (verifier : Verifier) : Prop :=
  KeyUrl library history url verifier ∨
    ∃ issuer maxStaleness, verifier = .provider issuer maxStaleness ∧
      url = discoveryUrl issuer ∧ Quiet history

/-- The largest key set that the verifier reads, if it has a bound. -/
def Verifier.maxJwks : Verifier → Option Nat
  | .github _ _ => none
  | .provider _ _ => some maxJwksBytes

/-- The cache holds the keys of the document that the task has just fetched, as of now. -/
def Sourced (library : JwksLibrary K) (verifier : Verifier)
    (history : List (Event (Answer K))) (cache : KeyCache K) : Prop :=
  ∃ earlier url response body document now,
    history = earlier ++ fetched url response body ++ [⟨.utcNow, now⟩] ∧
    KeyUrl library earlier url verifier ∧
    (∀ maximum, verifier.maxJwks = some maximum → body.length ≤ maximum) ∧
    library.parseJwks body = some document ∧ cache = ⟨usableKeys document, now⟩

/-- The operations that the law allows after a history. -/
def Permitted (library : JwksLibrary K) (verifier : Verifier)
    (history : List (Event (Answer K))) : Op K → Prop
  | .send url => Destination library history url verifier
  | .install cache => Sourced library verifier history cache
  | _ => True

section Programs

variable {library : JwksLibrary K} {verifier : Verifier} {history : List (Event (Answer K))}
  {α : Type}

/-- The program keeps the law from this history on. -/
abbrev Lawfully (library : JwksLibrary K) (verifier : Verifier)
    (history : List (Event (Answer K))) (program : KeyProgram K α) : Prop :=
  program.Lawful (Permitted library verifier) (fun _ _ => True) history

theorem quiet_nil : Quiet ([] : List (Event (Answer K))) := by
  simp [Quiet]

theorem Quiet.snoc (quiet : Quiet history) {op : Op K} (answer : Answer K op)
    (other : ∀ url, op ≠ .send url) : Quiet (history ++ [⟨op, answer⟩]) := by
  intro event member
  rcases List.mem_append.mp member with member | member
  · exact quiet event member
  · rw [List.mem_singleton] at member
    subst member
    exact other

theorem validDiscovery_eq_true {issuer : String} {discovery : DiscoveryDocument}
    (valid : validDiscovery library issuer discovery = true) :
    discovery.issuer = issuer ∧ SameOrigin library issuer discovery.jwksUri := by
  simp only [validDiscovery, validIssuerEndpoint, sameOrigin, Bool.and_eq_true,
    beq_iff_eq, Option.any_eq_true] at valid
  rcases valid with ⟨⟨named, _, target, parsed, checks⟩, origin⟩
  refine ⟨named, ?_⟩
  rw [parsed] at origin
  cases found : library.parseUrl issuer with
  | none => simp [found] at origin
  | some source =>
      simp only [found, Bool.and_eq_true, beq_iff_eq] at origin
      simp only [Text.isEmpty_eq_true_iff, Option.isNone_iff_eq_none] at checks
      rcases origin with ⟨⟨scheme, host⟩, port⟩
      rcases checks with ⟨⟨⟨⟨⟨https, hosted⟩, username⟩, password⟩, query⟩, fragment⟩
      exact ⟨source, target, found, parsed, scheme, host, port, https, hosted, username, password,
        query, fragment⟩

/-- A request that is answered without an error. -/
theorem sendOk_sends {url : String} (permitted : Permitted library verifier history (.send url)) :
    (sendOk url).Lawful (Permitted library verifier)
      (fun later result => ∀ response, result = .ok response →
        later = history ++ [⟨.send url, some response⟩]) history := by
  refine ⟨permitted, ?_⟩
  intro response
  cases response with
  | none => exact nofun
  | some response =>
      simp only [Program.bind_done]
      split
      · exact nofun
      · rintro _ ⟨⟩
        rfl

theorem decodeBody_reads (maximum : Option Nat) (parse : List UInt8 → Option α) :
    (decodeBody maximum parse).Lawful (Permitted library verifier)
      (fun later result => ∀ value, result = .ok value → ∃ body,
        later = history ++ [⟨.readBody, some body⟩] ∧ parse body = some value ∧
          ∀ bound, maximum = some bound → body.length ≤ bound) history := by
  refine ⟨trivial, ?_⟩
  intro body
  cases body with
  | none => exact nofun
  | some body =>
      simp only [Program.bind_done]
      split
      · exact nofun
      · rename_i small
        split
        · exact nofun
        · rename_i value parsed
          rintro _ ⟨⟩
          refine ⟨body, rfl, parsed, ?_⟩
          rintro bound rfl
          simpa using small

/-- A document that was decoded has just been fetched. -/
theorem fetchJson_fetches {uri : String} (maximum : Nat) (parse : List UInt8 → Option α)
    (permitted : Permitted library verifier history (.send uri)) :
    (fetchJson uri maximum parse).Lawful (Permitted library verifier)
      (fun later result => ∀ value, result = .ok value → ∃ response body,
        later = history ++ fetched uri response body ∧ parse body = some value ∧
          body.length ≤ maximum) history := by
  apply (sendOk_sends permitted).bindOk
  · intro later failure _
    exact nofun
  intro later response sent
  rw [sent response rfl]
  split
  · exact nofun
  · apply (decodeBody_reads (some maximum) parse).mono
    intro last result decoded value succeeded
    rcases decoded value succeeded with ⟨body, rfl, parsed, small⟩
    exact ⟨response, body, List.append_assoc _ _ _, parsed, small maximum rfl⟩

/-- The keys of the document that has just been fetched may be cached. -/
theorem installKeys_lawfully {earlier : List (Event (Answer K))} {url : String}
    {response : Response} {body : List UInt8} {document : List (Jwk K)}
    (keyUrl : KeyUrl library earlier url verifier)
    (small : ∀ maximum, verifier.maxJwks = some maximum → body.length ≤ maximum)
    (parsed : library.parseJwks body = some document) :
    Lawfully library verifier (earlier ++ fetched url response body) (installKeys document) := by
  unfold installKeys
  dsimp only
  split
  · trivial
  · refine ⟨trivial, ?_⟩
    intro now
    refine ⟨?_, fun _ => trivial⟩
    exact ⟨earlier, url, response, body, document, now, rfl, keyUrl, small, parsed, rfl⟩

theorem GitHubVerifier.refreshNow_lawfully {jwksUrl : String} {maxStaleness : Nat}
    (quiet : Quiet history) :
    Lawfully library (.github jwksUrl maxStaleness) history
      (GitHubVerifier.refreshNow library jwksUrl) := by
  have keyUrl : KeyUrl library history jwksUrl (.github jwksUrl maxStaleness) := ⟨rfl, quiet⟩
  apply (sendOk_sends (Or.inl keyUrl)).bindOk
  · intros
    trivial
  intro later response sent
  rw [sent response rfl]
  apply (decodeBody_reads none library.parseJwks).bindOk
  · intros
    trivial
  intro last document decoded
  rcases decoded document rfl with ⟨body, rfl, parsed, -⟩
  rw [List.append_assoc]
  exact installKeys_lawfully keyUrl nofun parsed

theorem ProviderVerifier.refreshNow_lawfully {issuer : String} {maxStaleness : Nat}
    (quiet : Quiet history) :
    Lawfully library (.provider issuer maxStaleness) history
      (ProviderVerifier.refreshNow library issuer) := by
  have first : Destination library history (discoveryUrl issuer)
      (.provider issuer maxStaleness) := Or.inr ⟨issuer, maxStaleness, rfl, rfl, quiet⟩
  apply (fetchJson_fetches maxDiscoveryBytes library.parseDiscovery first).bindOk
  · intros
    trivial
  intro later discovery discovered
  rcases discovered discovery rfl with ⟨response, body, rfl, parsed, small⟩
  split
  · trivial
  rename_i valid
  rcases validDiscovery_eq_true (Bool.not_eq_false _ ▸ valid) with ⟨named, origin⟩
  have keyUrl : KeyUrl library (history ++ fetched (discoveryUrl issuer) response body)
      discovery.jwksUri (.provider issuer maxStaleness) :=
    ⟨history, response, body, discovery, quiet, rfl, small, parsed, named, rfl, origin⟩
  apply (fetchJson_fetches maxJwksBytes library.parseJwks (Or.inl keyUrl)).bindOk
  · intros
    trivial
  intro last document decoded
  rcases decoded document rfl with ⟨response, body, rfl, parsed, small⟩
  refine installKeys_lawfully keyUrl ?_ parsed
  rintro maximum ⟨⟩
  exact small

/-- Nothing is requested or cached any more. -/
def isHarmless : Op K → Bool
  | .send _ => false
  | .install _ => false
  | _ => true

theorem lawfully_call {op : Op K} {next : Answer K op → KeyProgram K α}
    (harmless : isHarmless op = true)
    (rest : ∀ answer, Lawfully library verifier (history ++ [⟨op, answer⟩]) (next answer)) :
    Lawfully library verifier history (.call op next) := by
  refine ⟨?_, rest⟩
  cases op with
  | send url => contradiction
  | install cache => contradiction
  | _ => trivial

/-- A harmless operation before the refresh. -/
theorem lawfully_quiet {op : Op K} {next : Answer K op → KeyProgram K α}
    (harmless : isHarmless op = true) (quiet : Quiet history)
    (rest : ∀ answer, Quiet (history ++ [⟨op, answer⟩]) →
      Lawfully library verifier (history ++ [⟨op, answer⟩]) (next answer)) :
    Lawfully library verifier history (.call op next) := by
  apply lawfully_call harmless
  intro answer
  apply rest answer
  apply quiet.snoc answer
  rintro url rfl
  contradiction

/-- A harmless operation at the end. -/
theorem lawfully_last {op : Op K} {next : Answer K op → α} (harmless : isHarmless op = true) :
    Lawfully library verifier history (.call op fun answer => .done (next answer)) :=
  lawfully_call harmless fun _ => trivial

namespace GitHubVerifier

variable {jwksUrl : String} {maxStaleness : Nat}

theorem runRefresh_lawfully (quiet : Quiet history) :
    Lawfully library (.github jwksUrl maxStaleness) history (runRefresh library jwksUrl) := by
  apply (refreshNow_lawfully quiet).bind
  rintro later (failure | _) -
  · refine lawfully_call rfl fun _ => ?_
    refine lawfully_call rfl fun cache => ?_
    refine lawfully_call rfl fun now => ?_
    exact lawfully_last rfl
  · trivial

theorem warmUp_lawfully :
    Lawfully library (.github jwksUrl maxStaleness) [] (warmUp library jwksUrl) := by
  refine lawfully_quiet rfl quiet_nil fun refresh quiet => ?_
  apply (runRefresh_lawfully quiet).bind
  intro later result _
  exact lawfully_last rfl

theorem refreshSoftIfDue_lawfully :
    Lawfully library (.github jwksUrl maxStaleness) [] (refreshSoftIfDue library jwksUrl) := by
  refine lawfully_quiet rfl quiet_nil fun refresh quiet => ?_
  refine lawfully_quiet rfl quiet fun now quiet => ?_
  refine lawfully_quiet rfl quiet fun cache quiet => ?_
  refine lawfully_quiet rfl quiet fun later quiet => ?_
  refine lawfully_quiet rfl quiet fun _ quiet => ?_
  simp only [Program.bind_done, Program.pure_eq_done, Program.monad_bind_eq_bind]
  split
  · exact lawfully_last rfl
  · refine lawfully_quiet rfl quiet fun _ quiet => ?_
    apply (runRefresh_lawfully quiet).bind
    intro last result _
    exact lawfully_last rfl

theorem refreshForUnknownKidIfDue_lawfully {kid : String} (quiet : Quiet history) :
    Lawfully library (.github jwksUrl maxStaleness) history
      (refreshForUnknownKidIfDue library jwksUrl kid) := by
  refine lawfully_quiet rfl quiet fun refresh quiet => ?_
  refine lawfully_quiet rfl quiet fun now quiet => ?_
  refine lawfully_quiet rfl quiet fun cache quiet => ?_
  refine lawfully_quiet rfl quiet fun _ quiet => ?_
  simp only [Program.bind_done, Program.pure_eq_done, Program.monad_bind_eq_bind]
  split
  · exact lawfully_last rfl
  · split
    · exact lawfully_last rfl
    · refine lawfully_quiet rfl quiet fun _ quiet => ?_
      apply (runRefresh_lawfully quiet).bind
      intro last result _
      refine lawfully_call rfl fun _ => ?_
      exact lawfully_last rfl

theorem key_lawfully {kid : String} :
    Lawfully library (.github jwksUrl maxStaleness) [] (key library jwksUrl maxStaleness kid) := by
  refine lawfully_quiet rfl quiet_nil fun cache quiet => ?_
  refine lawfully_quiet rfl quiet fun now quiet => ?_
  simp only [Program.bind_done, Program.pure_eq_done, Program.monad_bind_eq_bind]
  split
  · exact lawfully_last rfl
  · refine lawfully_quiet rfl quiet fun _ quiet => ?_
    simp only [Program.bind_done]
    split
    · trivial
    · apply (refreshForUnknownKidIfDue_lawfully quiet).bind
      intro last result _
      refine lawfully_call rfl fun cache => ?_
      refine lawfully_call rfl fun now => ?_
      exact lawfully_last rfl

end GitHubVerifier

namespace ProviderVerifier

variable {issuer : String} {maxStaleness : Nat}

theorem refreshSoftIfDue_lawfully :
    Lawfully library (.provider issuer maxStaleness) [] (refreshSoftIfDue library issuer) := by
  refine lawfully_quiet rfl quiet_nil fun refresh quiet => ?_
  refine lawfully_quiet rfl quiet fun now quiet => ?_
  refine lawfully_quiet rfl quiet fun cache quiet => ?_
  refine lawfully_quiet rfl quiet fun _ quiet => ?_
  simp only [Program.bind_done, Program.pure_eq_done, Program.monad_bind_eq_bind]
  split
  · exact lawfully_last rfl
  · refine lawfully_quiet rfl quiet fun _ quiet => ?_
    apply (refreshNow_lawfully quiet).bind
    intro last result _
    exact lawfully_last rfl

theorem refreshForUnknownKidIfDue_lawfully (quiet : Quiet history) :
    Lawfully library (.provider issuer maxStaleness) history
      (refreshForUnknownKidIfDue library issuer) := by
  refine lawfully_quiet rfl quiet fun refresh quiet => ?_
  refine lawfully_quiet rfl quiet fun now quiet => ?_
  simp only [Program.bind_done, Program.pure_eq_done, Program.monad_bind_eq_bind]
  split
  · exact lawfully_last rfl
  · refine lawfully_quiet rfl quiet fun _ quiet => ?_
    apply (refreshNow_lawfully quiet).bind
    intro last result _
    exact lawfully_last rfl

theorem key_lawfully {kid : String} :
    Lawfully library (.provider issuer maxStaleness) [] (key library issuer maxStaleness kid) := by
  refine lawfully_quiet rfl quiet_nil fun now quiet => ?_
  refine lawfully_quiet rfl quiet fun cache quiet => ?_
  simp only [Program.bind_done, Program.pure_eq_done, Program.monad_bind_eq_bind]
  split
  · exact lawfully_last rfl
  · refine lawfully_quiet rfl quiet fun _ quiet => ?_
    simp only [Program.bind_done]
    split
    · trivial
    · apply (refreshForUnknownKidIfDue_lawfully quiet).bindOk
      · intros
        trivial
      intro last result _
      refine lawfully_call rfl fun cache => ?_
      refine lawfully_call rfl fun now => ?_
      exact lawfully_last rfl

end ProviderVerifier

/-- A task that keeps the law still keeps it if only the result is repackaged. -/
theorem lawfully_map {β : Type} {program : KeyProgram K (Except VerifyError α)}
    {next : α → β} (lawful : Lawfully library verifier history program) :
    Lawfully library verifier history (program.bindOk fun value => .done (.ok (next value))) :=
  lawful.bindOk (fun _ _ _ => trivial) fun _ _ _ => trivial

theorem Job.program_lawfully (library : JwksLibrary K) (verifier : Verifier) (job : Job) :
    Lawfully library verifier [] (job.program library verifier) := by
  cases verifier with
  | github jwksUrl maxStaleness =>
      cases job with
      | lookup kid => exact lawfully_map GitHubVerifier.key_lawfully
      | softRefresh => exact lawfully_map GitHubVerifier.refreshSoftIfDue_lawfully
      | warmUp => exact lawfully_map GitHubVerifier.warmUp_lawfully
  | provider issuer maxStaleness =>
      cases job with
      | lookup kid => exact lawfully_map ProviderVerifier.key_lawfully
      | softRefresh | warmUp => exact lawfully_map ProviderVerifier.refreshSoftIfDue_lawfully

end Programs

section Runs

variable {ι : Type} [DecidableEq ι] {library : JwksLibrary K} {verifier : Verifier}
  {jobs : ι → Job} {clock : Int}
  {config : Config ι (Answer K) (World ι K) (Except VerifyError (Option K))}

/-- Every operation that a task has performed was permitted by those before it. -/
theorem permitted_of_reached (reached : Reached library verifier jobs clock config) {task : ι}
    {before after : List (Event (Answer K))} {event : Event (Answer K)}
    (performed : config.history task = before ++ event :: after) :
    Permitted library verifier before event.1 := by
  rcases exists_path_of_steps reached task with ⟨rest, path⟩
  rw [performed] at path
  exact ((jobs task).program_lawfully library verifier).operation path

/-- **A verifier sends requests to its issuer only.**  Whatever key IDs are looked up and
whatever is answered, every request of every task, also of a dropped one, goes to the
configured JWKS, to the discovery document of the issuer, or to the JWKS of the same origin
that this document names; and every key set is that of a document fetched from there. -/
theorem requests_stay_with_issuer (reached : Reached library verifier jobs clock config)
    (task : ι) :
    (∀ before url response after,
      config.history task = before ++ ⟨.send url, response⟩ :: after →
        Destination library before url verifier) ∧
    ∀ before cache after, config.history task = before ++ ⟨.install cache, ()⟩ :: after →
      Sourced library verifier before cache :=
  ⟨fun _ _ _ _ performed => permitted_of_reached reached performed,
    fun _ _ _ performed => permitted_of_reached reached performed⟩

end Runs

/-- A refresh of a provider requests the key set that the discovery document names. -/
theorem requests_stay_with_issuer_sample :
    ∃ config before, Reached sampleLibrary (.provider "https://login.example.com" 600)
        (fun _ : Unit => .softRefresh) 1000 config ∧
      config.history () = before ++ [⟨.send "https://login.example.com/keys", none⟩] ∧
      Destination sampleLibrary before "https://login.example.com/keys"
        (.provider "https://login.example.com" 600) := by
  have run : ∃ config, Reached sampleLibrary (.provider "https://login.example.com" 600)
        (fun _ : Unit => .softRefresh) 1000 config ∧
      ∃ before, config.history () =
        before ++ [⟨.send "https://login.example.com/keys", none⟩] := by
    refine Steps.reach_perform () rfl _ ⟨rfl, rfl, rfl⟩ ?_
    refine Steps.reach_perform () rfl (1000 : Int) ⟨rfl, rfl⟩ ?_
    refine Steps.reach_perform () rfl _ ⟨rfl, rfl⟩ ?_
    refine Steps.reach_perform () rfl () rfl ?_
    refine Steps.reach_perform () rfl () rfl ?_
    refine Steps.reach_perform () rfl (some sampleResponse) rfl ?_
    refine Steps.reach_perform () rfl (some []) rfl ?_
    refine Steps.reach_perform () rfl none rfl ?_
    exact ⟨_, .refl _, _, rfl⟩
  rcases run with ⟨config, reached, before, performed⟩
  exact ⟨config, before, reached, performed,
    (requests_stay_with_issuer reached ()).1 before _ none [] performed⟩

end OidcExchange.Jwks
