import OidcExchange.Process.Pool
import OidcExchange.Replay.Ledger
import OidcExchange.Store.Versioned

/-!
# The Kubernetes API under the ledger

The shared state of all replicas: the API store with its history, the requests
whose effect is still open, and one clock.  A request that is answered by
success has taken effect, one that is answered by a conflict has none.  After any
other answer, and after a request whose caller was dropped, the effect may come
later or never.

A read may be served from the past: it reports any write that the name has ever
held.  Nothing at all is assumed about the pages of a list.

The fields `reading`, `reads`, `deletions` and `verifiedAt` do not influence any
step except through the delay bound of `InTime`; they record what happened.
-/

namespace OidcExchange.Replay

open OidcExchange.Process OidcExchange.Store

/-- A stored lease with the call that wrote it (`none` for a foreign client) and
the instant of the write. -/
structure Stored (ι : Type) where
  lease : Lease
  writer : Option ι
  writtenAt : DateTime

/-- One write to the API store; its version is the resourceVersion. -/
abbrev Write (ι : Type) :=
  Record String String (Stored ι)

/-- A read of `record` by `caller`, with the writes that preceded it. -/
structure Reading (ι : Type) where
  caller : ι
  record : Write ι
  seen : List (Write ι)

/-- A removal of `record` by a DELETE of `caller`, with the writes that preceded
it. -/
structure Deletion (ι : Type) where
  caller : ι
  record : Write ι
  seen : List (Write ι)

/-- The state shared by the calls `ι` of the replicas `ρ`. -/
structure World (ι ρ : Type) where
  clock : DateTime
  store : Versioned String String (Stored ι)
  inFlight : List (ι × Request)
  cleanupContinue : ρ → Option String
  reading : ι → Option DateTime
  reads : List (Reading ι)
  deletions : List (Deletion ι)
  verifiedAt : ι → Option Int

/-- What the ledger is deployed into. -/
structure Setting (ι ρ : Type) {X : Type} (other : X → Type) where
  platform : Platform
  replica : ι → ρ
  /-- The names that clients other than the ledger write or remove. -/
  foreign : String → Prop
  /-- The moves of the clock. -/
  clockMay : DateTime → DateTime → Prop
  /-- The answers to the caller's own operations at a clock instant. -/
  answers : DateTime → (op : X) → other op → Prop
  /-- The operations whose instant starts the delay bound. -/
  verifies : X → Bool

section Api

variable {ι ρ X : Type} [DecidableEq ι] {other : X → Type}

namespace World

/-- The requests of a call take effect less than 269 s after the second at which
its assertion was verified. -/
def InTime (world : World ι ρ) (caller : ι) : Prop :=
  ∀ second, world.verifiedAt caller = some second →
    world.clock < DateTime.ofSeconds (second + 269)

/-- Write a lease under a fresh version. -/
def put (world : World ι ρ) (writer : Option ι) (name version : String) (lease : Lease)
    (fresh : world.store.Fresh version) : World ι ρ :=
  { world with store := world.store.write name version ⟨lease, writer, world.clock⟩ fresh }

/-- Remove a record on a DELETE of `caller`. -/
def remove (world : World ι ρ) (caller : ι) (record : Write ι) : World ι ρ :=
  { world with
    store := world.store.remove record.name
    deletions := ⟨caller, record, world.store.written⟩ :: world.deletions }

/-- The effect of the request is open. -/
def submit (world : World ι ρ) (caller : ι) (request : Request) : World ι ρ :=
  { world with inFlight := (caller, request) :: world.inFlight }

/-- The call reads the clock. -/
def readClock (world : World ι ρ) (caller : ι) : World ι ρ :=
  { world with reading := Function.update world.reading caller (some world.clock) }

/-- The call reads a write of the store's history. -/
def observe (world : World ι ρ) (caller : ι) (record : Write ι) : World ι ρ :=
  { world with reads := ⟨caller, record, world.store.written⟩ :: world.reads }

/-- The assertion of the call is verified now. -/
def verified (world : World ι ρ) (caller : ι) : World ι ρ :=
  { world with
    verifiedAt := Function.update world.verifiedAt caller (some world.clock.timestamp) }

@[simp]
theorem readClock_reading_self (world : World ι ρ) (caller : ι) :
    (world.readClock caller).reading caller = some world.clock :=
  Function.update_self _ _ _

theorem readClock_reading_of_ne (world : World ι ρ) {caller someone : ι}
    (different : someone ≠ caller) :
    (world.readClock caller).reading someone = world.reading someone :=
  Function.update_of_ne different _ _

theorem verified_verifiedAt_of_ne (world : World ι ρ) {caller someone : ι}
    (different : someone ≠ caller) :
    (world.verified caller).verifiedAt someone = world.verifiedAt someone :=
  Function.update_of_ne different _ _

/-- The replica keeps a continue token. -/
def keepContinue [DecidableEq ρ] (world : World ι ρ) (replica : ρ) (token : Option String) :
    World ι ρ :=
  { world with cleanupContinue := Function.update world.cleanupContinue replica token }

end World

/-- The store before the first call. -/
def World.start (clock : DateTime) : World ι ρ where
  clock := clock
  store := .empty
  inFlight := []
  cleanupContinue _ := none
  reading _ := none
  reads := []
  deletions := []
  verifiedAt _ := none

/-- The atomic effect of a request: POST creates an absent name, PUT and DELETE
act only when the version they carry is the current one. -/
inductive TakesEffect (caller : ι) (world : World ι ρ) : Request → World ι ρ → Prop
  | post {lease : Lease} (version : String) (fresh : world.store.Fresh version)
      (inTime : world.InTime caller)
      (absent : world.store.current lease.metadata.name = none) :
      TakesEffect caller world (.post lease)
        (world.put (some caller) lease.metadata.name version lease fresh)
  | put {url sent : String} {lease : Lease} {stored : Stored ι} (version : String)
      (fresh : world.store.Fresh version) (inTime : world.InTime caller)
      (sentVersion : lease.metadata.resourceVersion = some sent)
      (current : world.store.current url = some (sent, stored)) :
      TakesEffect caller world (.put url lease)
        (world.put (some caller) url version lease fresh)
  | delete {url sent : String} {stored : Stored ι} (inTime : world.InTime caller)
      (current : world.store.current url = some (sent, stored)) :
      TakesEffect caller world (.delete url sent)
        (world.remove caller ⟨url, sent, stored⟩)

/-- The status that reports success. -/
def Request.success : Request → Nat
  | .post _ => 201
  | .put _ _ => 200
  | .delete _ _ => 200

variable [DecidableEq ρ]

/-- One operation of one call. -/
def perform (S : Setting ι ρ other) (caller : ι) (before : World ι ρ) :
    (op : Op X) → Answer other op → World ι ρ → Prop
  | .utcNow, answer, after => answer = before.clock ∧ after = before.readClock caller
  | .credential, _, after => after = before
  | .send request, answer, after =>
      answer = some request.success ∧ TakesEffect caller before request after ∨
      answer = some 409 ∧ after = before ∨
      answer ≠ some request.success ∧ answer ≠ some 409 ∧ after = before.submit caller request
  | .get url, answer, after =>
      (∃ record ∈ before.store.written, record.name = url ∧
        ∃ reported, (reported = none ∨ reported = some record.version) ∧
          answer = some (200, some (record.object.lease.withResourceVersion reported)) ∧
            after = before.observe caller record) ∨
      (∀ lease, answer ≠ some (200, some lease)) ∧ after = before
  | .list _, _, after => after = before
  | .cleanupContinue, answer, after =>
      answer = before.cleanupContinue (S.replica caller) ∧ after = before
  | .setCleanupContinue token, _, after => after = before.keepContinue (S.replica caller) token
  | .other op, answer, after =>
      S.answers before.clock op answer ∧
        after = if S.verifies op then before.verified caller else before

/-- A dropped call leaves nothing behind except a request that was already
sent. -/
def cancel (caller : ι) (before : World ι ρ) (op : Op X) (after : World ι ρ) : Prop :=
  after = before ∨ ∃ request, op = .send request ∧ after = before.submit caller request

/-- What happens without a call: the clock moves, an open request takes effect,
or a foreign client writes or removes a lease. -/
inductive Environment (S : Setting ι ρ other) (before : World ι ρ) : World ι ρ → Prop
  | clock (instant : DateTime) (may : S.clockMay before.clock instant) :
      Environment S before { before with clock := instant }
  | deliver {caller : ι} {request : Request} {earlier later : List (ι × Request)}
      {after : World ι ρ} (split : before.inFlight = earlier ++ (caller, request) :: later)
      (effect : TakesEffect caller { before with inFlight := earlier ++ later } request after) :
      Environment S before after
  | foreignWrite {name version : String} {lease : Lease} (isForeign : S.foreign name)
      (fresh : before.store.Fresh version) :
      Environment S before (before.put none name version lease fresh)
  | foreignRemove {name : String} (isForeign : S.foreign name) :
      Environment S before { before with store := before.store.remove name }

/-- The API with its clients. -/
def api (S : Setting ι ρ other) : Machine ι (Answer other) (World ι ρ) where
  perform := perform S
  cancel := cancel
  environment := Environment S

end Api

end OidcExchange.Replay
