import OidcExchange.Jwks.Lookup
import OidcExchange.Process.Pool

/-!
# Concurrent lookups and refreshes

The shared state of one verifier and how the operations of its tasks act on it.
Readers exclude the writer, the mutex has one owner, and a task that is dropped
while it awaits something releases what it holds.  Marks that were set before
the drop stay set.

The fields from `readings` on do not influence any step; they record what
happened.
-/

namespace OidcExchange.Jwks

open OidcExchange.Process

/-- A key set that was installed by a refresh, with an instant that is not later
than the start of its fetch. -/
structure Install (K : Type) where
  cache : KeyCache K
  startedAt : Int

/-- The state shared by the tasks `ι` of a verifier. -/
structure World (ι K : Type) where
  clock : Int
  cache : KeyCache K
  readers : ι → Bool
  owner : Option ι
  refresh : RefreshState
  refreshFailures : Nat
  /-- The clock readings of each task. -/
  readings : ι → List Int
  /-- When the task obtained the refresh lock or set an attempt mark. -/
  started : ι → Int
  /-- The installed key sets, newest first. -/
  installs : List (Install K)
  softStarts : List Int
  forcedStarts : List Int
  /-- The task has started a refresh that is not over. -/
  refreshing : ι → Bool
  /-- The refresh of the task is forced and its outcome is not recorded. -/
  forcing : ι → Bool
  /-- The last forced attempt when the task released the refresh lock. -/
  mark : ι → Option Int

/-- A verifier before its first task. -/
def World.start {ι K : Type} (clock : Int) : World ι K where
  clock := clock
  cache := .empty
  readers _ := false
  owner := none
  refresh := .start
  refreshFailures := 0
  readings _ := []
  started _ := clock
  installs := []
  softStarts := []
  forcedStarts := []
  refreshing _ := false
  forcing _ := false
  mark _ := none

section Steps

variable {ι K : Type} [DecidableEq ι]

namespace World

def readClock (world : World ι K) (task : ι) : World ι K :=
  { world with
    readings := Function.update world.readings task (world.clock :: world.readings task) }

def setReader (world : World ι K) (task : ι) (reads : Bool) : World ι K :=
  { world with readers := Function.update world.readers task reads }

def acquire (world : World ι K) (task : ι) : World ι K :=
  { world with
    owner := some task
    started := Function.update world.started task world.clock
    refreshing := Function.update world.refreshing task false
    forcing := Function.update world.forcing task false }

def release (world : World ι K) (task : ι) : World ι K :=
  { world with
    owner := none
    refreshing := Function.update world.refreshing task false
    forcing := Function.update world.forcing task false
    mark := Function.update world.mark task world.forcedStarts.head? }

def startSoft (world : World ι K) (task : ι) (now : Int) : World ι K :=
  { world with
    refresh := { world.refresh with lastSoftAttempt := now }
    started := Function.update world.started task world.clock
    softStarts := now :: world.softStarts
    refreshing := Function.update world.refreshing task true }

def startForced (world : World ι K) (task : ι) (now : Int) : World ι K :=
  { world with
    refresh := { world.refresh with lastForcedAttempt := now }
    started := Function.update world.started task world.clock
    forcedStarts := now :: world.forcedStarts
    refreshing := Function.update world.refreshing task true
    forcing := Function.update world.forcing task true }

def setForcedFailed (world : World ι K) (task : ι) (failed : Bool) : World ι K :=
  { world with
    refresh := { world.refresh with lastForcedFailed := failed }
    forcing := Function.update world.forcing task false }

/-- A request of the refresh is under way. -/
def request (world : World ι K) (task : ι) : World ι K :=
  { world with refreshing := Function.update world.refreshing task true }

def install (world : World ι K) (task : ι) (cache : KeyCache K) : World ι K :=
  { world with
    cache := cache
    installs := ⟨cache, world.started task⟩ :: world.installs }

/-- The task is dropped with its guards. -/
def abandon (world : World ι K) (task : ι) : World ι K :=
  { world with
    readers := Function.update world.readers task false
    owner := if world.owner = some task then none else world.owner
    refreshing := Function.update world.refreshing task false
    forcing := Function.update world.forcing task false }

theorem setReader_readers (world : World ι K) (task : ι) (reads : Bool) :
    (world.setReader task reads).readers task = reads :=
  Function.update_self _ _ _

theorem readClock_readings (world : World ι K) (task : ι) :
    (world.readClock task).readings task = world.clock :: world.readings task :=
  Function.update_self _ _ _

theorem release_mark (world : World ι K) (task : ι) :
    (world.release task).mark task = world.forcedStarts.head? :=
  Function.update_self _ _ _

theorem startForced_started (world : World ι K) (task : ι) (now : Int) :
    (world.startForced task now).started task = world.clock :=
  Function.update_self _ _ _

end World

/-- One operation of one task.  The lock and the write of the cache wait for their
turn; a request may be answered in any way. -/
def perform (task : ι) (before : World ι K) : (op : Op K) → Answer K op → World ι K → Prop
  | .utcNow, answer, after => answer = before.clock ∧ after = before.readClock task
  | .readLock, answer, after => answer = before.cache ∧ after = before.setReader task true
  | .readUnlock, _, after => after = before.setReader task false
  | .lock, answer, after =>
      before.owner = none ∧ answer = before.refresh ∧ after = before.acquire task
  | .unlock, _, after => after = before.release task
  | .startSoft now, _, after => after = before.startSoft task now
  | .startForced now, _, after => after = before.startForced task now
  | .setForcedFailed failed, _, after => after = before.setForcedFailed task failed
  | .send _, _, after => after = before.request task
  | .readBody, _, after => after = before.request task
  | .install cache, _, after =>
      (∀ reader, before.readers reader = false) ∧ after = before.install task cache
  | .countFailure, _, after =>
      after = { before with refreshFailures := before.refreshFailures + 1 }

/-- The operations at which a task can be dropped. -/
def awaits : Op K → Bool
  | .readLock => true
  | .lock => true
  | .send _ => true
  | .readBody => true
  | .install _ => true
  | _ => false

/-- One verifier with its tasks on a clock that does not run backwards. -/
def verifierMachine : Machine ι (Answer K) (World ι K) where
  perform := perform
  cancel task before op after := awaits op = true ∧ after = before.abandon task
  environment before after :=
    ∃ clock, before.clock ≤ clock ∧ clock ≤ i64Max ∧ after = { before with clock := clock }

end Steps

end OidcExchange.Jwks
