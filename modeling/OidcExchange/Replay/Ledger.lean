import OidcExchange.Data.Text
import OidcExchange.Process.Program
import OidcExchange.Replay.Lease

/-!
# The Kubernetes Lease replay ledger

`KubernetesLeaseReplayLedger` as programs over the operations that it awaits:
the clock, the credential file, the requests of the Kubernetes Lease API and the
continue token that the replica keeps between cleanups.  The signature is open:
`X` collects the operations of the service that uses the ledger, so the same
programs run inside a larger exchange.
-/

namespace OidcExchange.Replay

open OidcExchange.Process

/-- The requests that may change the API store. -/
inductive Request where
  | post (lease : Lease)
  | put (url : String) (lease : Lease)
  | delete (url : String) (resourceVersion : String)

/-- The operations that the ledger awaits; `other` belongs to its caller. -/
inductive Op (X : Type) where
  | utcNow
  | credential
  | send (request : Request)
  | get (url : String)
  | list (continueToken : Option String)
  | cleanupContinue
  | setCleanupContinue (continueToken : Option String)
  | other (op : X)

/-- What an operation returns.  A response is its HTTP status, with the decoded
body where the ledger reads it; `none` stands for a request that failed or whose
response was lost, and for a body that cannot be decoded. -/
@[reducible]
def Answer {X : Type} (other : X → Type) : Op X → Type
  | .utcNow => DateTime
  | .credential => Option String
  | .send _ => Option Nat
  | .get _ => Option (Nat × Option Lease)
  | .list _ => Option (Nat × Option LeaseList)
  | .cleanupContinue => Option String
  | .setCleanupContinue _ => Unit
  | .other op => other op

inductive CreateResult where
  | created
  | conflict
  deriving DecidableEq

inductive UpdateResult where
  | updated
  | conflict
  deriving DecidableEq

def maxCleanupPerExchange : Nat := 1

def maxCleanupPagesPerExchange : Nat := 2

section Programs

variable {X : Type} {other : X → Type} (platform : Platform)

/-- A program of the ledger. -/
abbrev LedgerProgram {X : Type} (other : X → Type) (α : Type) :=
  Program (Answer other) α

/-- `Utc::now` -/
def utcNow : LedgerProgram other DateTime :=
  .call .utcNow .done

/-- `fs::read_to_string` of the credential file. -/
def readCredential : LedgerProgram other (Option String) :=
  .call .credential .done

/-- A request that may change the store, answered by its status. -/
def send (request : Request) : LedgerProgram other (Option Nat) :=
  .call (.send request) .done

def getItem (url : String) : LedgerProgram other (Option (Nat × Option Lease)) :=
  .call (.get url) .done

def listPage (continueToken : Option String) :
    LedgerProgram other (Option (Nat × Option LeaseList)) :=
  .call (.list continueToken) .done

def cleanupContinue : LedgerProgram other (Option String) :=
  .call .cleanupContinue .done

def setCleanupContinue (continueToken : Option String) : LedgerProgram other Unit :=
  .call (.setCleanupContinue continueToken) .done

/-- The text of the mounted token file, which must not be blank. -/
def credentialResult : Option String → Except ReplayError String
  | none => .error .unavailable
  | some text => if Text.isBlank text then .error .unavailable else .ok text

def credential : LedgerProgram other (Except ReplayError String) := do
  return credentialResult (← readCredential)

def itemUrl (name : String) : Except ReplayError String :=
  match platform.itemUrl name with
  | none => .error .unavailable
  | some url => .ok url

/-- The status of a POST. -/
def createResult : Option Nat → Except ReplayError CreateResult
  | some 201 => .ok .created
  | some 409 => .ok .conflict
  | _ => .error .unavailable

def create (lease : Lease) : LedgerProgram other (Except ReplayError CreateResult) :=
  credential.bindOk fun _ => do
    return createResult (← send (.post lease))

/-- The response to a GET of one item. -/
def getResult : Option (Nat × Option Lease) → Except ReplayError (Option Lease)
  | some (200, some lease) => .ok (some lease)
  | some (404, _) => .ok none
  | _ => .error .unavailable

def get (name : String) : LedgerProgram other (Except ReplayError (Option Lease)) :=
  credential.bindOk fun _ =>
    (Program.done (itemUrl platform name)).bindOk fun url => do
      return getResult (← getItem url)

/-- The status of a PUT. -/
def updateResult : Option Nat → Except ReplayError UpdateResult
  | some 200 => .ok .updated
  | some 409 => .ok .conflict
  | _ => .error .unavailable

def update (name : String) (lease : Lease) :
    LedgerProgram other (Except ReplayError UpdateResult) :=
  credential.bindOk fun _ =>
    (Program.done (itemUrl platform name)).bindOk fun url => do
      return updateResult (← send (.put url lease))

/-- The response to a LIST. -/
def listResult : Option (Nat × Option LeaseList) → Except ReplayError LeaseList
  | some (200, some leases) => .ok leases
  | _ => .error .unavailable

def list (continueToken : Option String) :
    LedgerProgram other (Except ReplayError LeaseList) :=
  credential.bindOk fun _ => do
    return listResult (← listPage continueToken)

/-- The status of a DELETE. -/
def deleteResult : Option Nat → Except ReplayError Unit
  | some 200 | some 202 | some 404 | some 409 => .ok ()
  | _ => .error .unavailable

def delete (name resourceVersion : String) :
    LedgerProgram other (Except ReplayError Unit) :=
  credential.bindOk fun _ =>
    (Program.done (itemUrl platform name)).bindOk fun url => do
      return deleteResult (← send (.delete url resourceVersion))

/-- The loop of `reclaim_expired` over the attempts that are left. -/
def reclaimAttempts (name : String) (replacement : Lease) (now : DateTime) :
    List Nat → LedgerProgram other (Except ReplayError Unit)
  | [] => return .error .unavailable
  | attempt :: attempts =>
      (get platform name).bindOk fun
        | none =>
            (create replacement).bindOk fun
              | .created => return .ok ()
              | .conflict => return .error .unavailable
        | some existing =>
            if expired platform existing now = false then
              return .error .replayed
            else
              match existing.metadata.resourceVersion.filter (· ≠ "") with
              | none => return .error .unavailable
              | some resourceVersion =>
                  (update platform name
                      (replacement.withResourceVersion (some resourceVersion))).bindOk fun
                    | .updated => return .ok ()
                    | .conflict =>
                        if attempt = 0 then
                          reclaimAttempts name replacement now attempts
                        else
                          return .error .unavailable

def reclaimExpired (name : String) (replacement : Lease) (now : DateTime) :
    LedgerProgram other (Except ReplayError Unit) :=
  reclaimAttempts platform name replacement now [0, 1]

/-- The candidates of one page.  The result tells whether a deletion was
requested, which ends the cleanup. -/
def cleanupCandidates (now : DateTime) : List Lease → LedgerProgram other Bool
  | [] => return false
  | lease :: leases => do
      match ← get platform lease.metadata.name with
      | .ok (some current) =>
          if ownedLedgerLease current = false ∨ expired platform current now = false then
            cleanupCandidates now leases
          else
            match current.metadata.resourceVersion with
            | none => cleanupCandidates now leases
            | some resourceVersion => do
                let _ ← delete platform lease.metadata.name resourceVersion
                return true
      | _ => cleanupCandidates now leases

/-- The page loop of `cleanup_one`. -/
def cleanupPages (now : DateTime) : Nat → Option String → LedgerProgram other Unit
  | 0, _ => return ()
  | pages + 1, continueToken => do
      match ← list continueToken with
      | .error _ => setCleanupContinue none
      | .ok leases =>
          let nextContinue :=
            if leases.continueToken = "" then none else some leases.continueToken
          setCleanupContinue nextContinue
          let candidates := (expiredOwnedLeases platform leases.items now).take
            maxCleanupPerExchange
          if ← cleanupCandidates platform now candidates then
            return ()
          else
            match nextContinue with
            | none => return ()
            | some next => cleanupPages now pages (some next)

def cleanupOne (now : DateTime) : LedgerProgram other Unit := do
  let continueToken ← cleanupContinue
  cleanupPages platform now maxCleanupPagesPerExchange continueToken

/-- `use_once` with the cleanup that follows an accepted use left open. -/
def useOnceWith (cleanup : DateTime → LedgerProgram other Unit) (jti : String)
    (expiresAt : Int) : LedgerProgram other (Except ReplayError Unit) := do
  let now ← utcNow
  match preparedLease platform jti expiresAt now with
  | .error failure => return .error failure
  | .ok lease =>
      (create lease).bindOk fun
        | .created => do
            cleanup now
            return .ok ()
        | .conflict =>
            (reclaimExpired platform lease.metadata.name lease now).bindOk fun _ => do
              cleanup now
              return .ok ()

def useOnce (jti : String) (expiresAt : Int) :
    LedgerProgram other (Except ReplayError Unit) :=
  useOnceWith platform (cleanupOne platform) jti expiresAt

end Programs

theorem createResult_eq_created {status : Option Nat} :
    createResult status = .ok .created ↔ status = some 201 := by
  unfold createResult
  split <;> simp_all

theorem updateResult_eq_updated {status : Option Nat} :
    updateResult status = .ok .updated ↔ status = some 200 := by
  unfold updateResult
  split <;> simp_all

theorem getResult_eq_some {response : Option (Nat × Option Lease)} {lease : Lease} :
    getResult response = .ok (some lease) ↔ response = some (200, some lease) := by
  unfold getResult
  split <;> simp_all

end OidcExchange.Replay
