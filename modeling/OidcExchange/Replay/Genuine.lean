import OidcExchange.Replay.AtMostOnce
import OidcExchange.Replay.Traffic

/-!
# A detected replay is genuine

A call that is refused as a replay has left no trace in the store itself: whatever it
sent was refused as a conflict.  So the unexpired Lease that it has read was written by
another call for the same key, also when replies are lost, calls are dropped and requests
take effect long after they were sent.
-/

namespace OidcExchange.Replay

open OidcExchange.Process OidcExchange.Store

variable {ι ρ : Type}

/-- The pools of `use_once` calls. -/
abbrev Calls (ι ρ : Type) :=
  Config ι (Answer fun op : Empty => op.elim) (World ι ρ) (Except ReplayError Unit)

/-- The name that a request writes. -/
def Request.writes : Request → Option String
  | .post lease => some lease.metadata.name
  | .put url _ => some url
  | .delete _ _ => none

/-- The name is the one of the call's key. -/
def OfKey (platform : Platform) (call : ι → String × Int) (caller : ι) (name : String) : Prop :=
  name = leaseName platform (call caller).1 ∨
    platform.itemUrl (leaseName platform (call caller).1) = some name

/-- The call was dropped, or some request of it was not refused as a conflict. -/
def MayHaveWritten (config : Calls ι ρ) (caller : ι) : Prop :=
  config.tasks caller = none ∨ ¬ Conflicted (config.history caller)

/-- A write is of a call that may have written it, under the name of its key, or of a foreign
client. -/
def Origin (platform : Platform) (foreign : String → Prop) (call : ι → String × Int)
    (may : ι → Prop) (record : Write ι) : Prop :=
  match record.object.writer with
  | some writer => OfKey platform call writer record.name ∧ may writer
  | none => foreign record.name

/-- Where the writes, the open requests and the readings come from. -/
structure Sourced (platform : Platform) (foreign : String → Prop) (call : ι → String × Int)
    (config : Calls ι ρ) : Prop where
  lawful : ∀ caller program, config.tasks caller = some program →
    program.Lawful (UseLaw platform (call caller).1) (Justly platform (call caller).1)
      (config.history caller)
  written : ∀ record ∈ config.shared.store.written,
    Origin platform foreign call (MayHaveWritten config) record
  inFlight : ∀ writer request, (writer, request) ∈ config.shared.inFlight →
    (∀ name, request.writes = some name → OfKey platform call writer name) ∧
      MayHaveWritten config writer
  read : ∀ caller url lease, (⟨.get url, some (200, some lease)⟩ :
      Event (Answer fun op : Empty => op.elim)) ∈ config.history caller →
    ∃ record ∈ config.shared.store.written, record.name = url ∧
      ∃ reported, lease = record.object.lease.withResourceVersion reported

section Steps

variable {platform : Platform} {foreign : String → Prop} {call : ι → String × Int} {caller : ι}

theorem Origin.mono {record : Write ι} {may later : ι → Prop}
    (origin : Origin platform foreign call may record)
    (carried : ∀ writer, may writer → later writer) :
    Origin platform foreign call later record := by
  unfold Origin at origin ⊢
  split at origin
  · exact ⟨origin.1, carried _ origin.2⟩
  · exact origin

/-- What the law says about the name that a request writes. -/
theorem ofKey_of_useLaw {history : List (Event (Answer fun op : Empty => op.elim))}
    {request : Request} (law : UseLaw platform (call caller).1 history (.send request))
    {name : String} (writes : request.writes = some name) : OfKey platform call caller name := by
  cases request with
  | post lease =>
      cases writes
      exact Or.inl law
  | put url lease =>
      cases writes
      exact Or.inr law.1
  | delete url resourceVersion => contradiction

/-- An effect writes at most the name of its request, for its caller. -/
theorem TakesEffect.written_cases {before after : World ι ρ} {request : Request}
    (effect : TakesEffect caller before request after) :
    ∀ record ∈ after.store.written, record ∈ before.store.written ∨
      record.object.writer = some caller ∧ request.writes = some record.name := by
  intro record member
  cases effect with
  | post version fresh inTime absent =>
      rcases List.mem_cons.mp member with rfl | member
      · exact Or.inr ⟨rfl, rfl⟩
      · exact Or.inl member
  | put version fresh inTime sentVersion current =>
      rcases List.mem_cons.mp member with rfl | member
      · exact Or.inr ⟨rfl, rfl⟩
      · exact Or.inl member
  | delete inTime current => exact Or.inl member

theorem TakesEffect.inFlight {before after : World ι ρ} {request : Request}
    (effect : TakesEffect caller before request after) : after.inFlight = before.inFlight := by
  cases effect <;> rfl

/-- The new writes and the new open requests between two states are of calls that `may`
have written, under the names of their keys. -/
structure Explains (platform : Platform) (foreign : String → Prop) (call : ι → String × Int)
    (may : ι → Prop) (before after : World ι ρ) : Prop where
  kept : ∀ record ∈ before.store.written, record ∈ after.store.written
  written : ∀ record ∈ after.store.written, record ∈ before.store.written ∨
    Origin platform foreign call may record
  inFlight : ∀ writer request, (writer, request) ∈ after.inFlight →
    (writer, request) ∈ before.inFlight ∨
      (∀ name, request.writes = some name → OfKey platform call writer name) ∧ may writer

/-- Neither the writes nor the open requests have changed. -/
theorem Explains.of_eq {may : ι → Prop} {before after : World ι ρ}
    (written : after.store.written = before.store.written)
    (inFlight : after.inFlight = before.inFlight) : Explains platform foreign call may before after where
  kept record member := by rwa [written]
  written record member := by
    rw [written] at member
    exact Or.inl member
  inFlight writer request member := by
    rw [inFlight] at member
    exact Or.inl member

/-- A request of a call that may have written takes effect. -/
theorem Explains.of_effect {may : ι → Prop} {before after : World ι ρ} {request : Request}
    (effect : TakesEffect caller before request after)
    (ofKey : ∀ name, request.writes = some name → OfKey platform call caller name)
    (possible : may caller) : Explains platform foreign call may before after where
  kept record member := effect.grows.written.subset member
  written record member := by
    rcases effect.written_cases record member with old | ⟨byCaller, writes⟩
    · exact Or.inl old
    · refine Or.inr ?_
      rw [Origin, byCaller]
      exact ⟨ofKey _ writes, possible⟩
  inFlight writer request member := by
    rw [effect.inFlight] at member
    exact Or.inl member

/-- A request of a call that may have written stays open. -/
theorem Explains.of_submit {may : ι → Prop} {before : World ι ρ} {request : Request}
    (ofKey : ∀ name, request.writes = some name → OfKey platform call caller name)
    (possible : may caller) :
    Explains platform foreign call may before (before.submit caller request) where
  kept record member := member
  written record member := Or.inl member
  inFlight writer sent member := by
    rcases List.mem_cons.mp member with same | member
    · cases same
      exact Or.inr ⟨ofKey, possible⟩
    · exact Or.inl member

/-- A step whose effect is explained keeps the origin of everything. -/
theorem Sourced.of_explained {source target : Calls ι ρ} (sourced : Sourced platform foreign call source)
    (carried : ∀ writer, MayHaveWritten source writer → MayHaveWritten target writer)
    (explains : Explains platform foreign call (MayHaveWritten target) source.shared target.shared)
    (lawful : ∀ caller program, target.tasks caller = some program →
      program.Lawful (UseLaw platform (call caller).1) (Justly platform (call caller).1)
        (target.history caller))
    (read : ∀ caller url lease, (⟨.get url, some (200, some lease)⟩ :
        Event (Answer fun op : Empty => op.elim)) ∈ target.history caller →
      (⟨.get url, some (200, some lease)⟩ :
          Event (Answer fun op : Empty => op.elim)) ∈ source.history caller ∨
        ∃ record ∈ target.shared.store.written, record.name = url ∧
          ∃ reported, lease = record.object.lease.withResourceVersion reported) :
    Sourced platform foreign call target where
  lawful := lawful
  written record member := by
    rcases explains.written record member with old | new
    · exact (sourced.written record old).mono carried
    · exact new
  inFlight writer request member := by
    rcases explains.inFlight writer request member with old | new
    · have known := sourced.inFlight writer request old
      exact ⟨known.1, carried writer known.2⟩
    · exact new
  read caller url lease member := by
    rcases read caller url lease member with old | new
    · rcases sourced.read caller url lease old with ⟨record, written, facts⟩
      exact ⟨record, explains.kept record written, facts⟩
    · exact new

/-- A request that is about to take effect is no longer open. -/
theorem Explains.of_withdrawn {may : ι → Prop} {before after : World ι ρ} {request : Request}
    {earlier later : List (ι × Request)}
    (split : before.inFlight = earlier ++ (caller, request) :: later)
    (explains : Explains platform foreign call may { before with inFlight := earlier ++ later } after) :
    Explains platform foreign call may before after where
  kept := explains.kept
  written := explains.written
  inFlight writer sent member := by
    rcases explains.inFlight writer sent member with old | new
    · refine Or.inl ?_
      rw [split]
      rcases List.mem_append.mp old with first | second
      · exact List.mem_append_left _ first
      · exact List.mem_append_right _ (List.mem_cons_of_mem _ second)
    · exact Or.inr new

variable [DecidableEq ι] {replica : ι → ρ}

/-- What has become possible stays possible. -/
theorem MayHaveWritten.resume {config : Calls ι ρ} {writer : ι} {op : Op Empty}
    {next : Answer (fun op : Empty => op.elim) op →
      LedgerProgram (fun op : Empty => op.elim) (Except ReplayError Unit)}
    (may : MayHaveWritten config writer) (running : config.tasks caller = some (.call op next))
    (answer : Answer (fun op : Empty => op.elim) op) (shared : World ι ρ) :
    MayHaveWritten (config.resume caller ⟨op, answer⟩ shared (next answer)) writer := by
  by_cases same : writer = caller
  · subst same
    rcases may with dropped | free
    · rw [running] at dropped
      contradiction
    · refine Or.inr fun conflicted => free ?_
      rw [Config.resume_history_self] at conflicted
      intro request status member
      exact conflicted request status (List.mem_append_left _ member)
  · rw [MayHaveWritten, Config.resume_tasks_of_ne same, Config.resume_history_of_ne same]
    exact may

/-- A request that is not refused as a conflict may have written. -/
theorem mayHaveWritten_of_send {config : Calls ι ρ} {request : Request} {status : Option Nat}
    {program : LedgerProgram (fun op : Empty => op.elim) (Except ReplayError Unit)}
    {shared : World ι ρ} (notConflict : status ≠ some 409) :
    MayHaveWritten (config.resume caller ⟨.send request, status⟩ shared program) caller := by
  refine Or.inr fun conflicted => notConflict ?_
  rw [Config.resume_history_self] at conflicted
  exact conflicted request status (List.mem_append_right _ List.mem_cons_self)

variable [DecidableEq ρ]

/-- One operation of one call is explained by its request. -/
theorem explains_perform {config : Calls ι ρ} {op : Op Empty}
    {answer : Answer (fun op : Empty => op.elim) op} {shared : World ι ρ}
    {program : LedgerProgram (fun op : Empty => op.elim) (Except ReplayError Unit)}
    (law : UseLaw platform (call caller).1 (config.history caller) op)
    (effect : perform (anyClock platform replica foreign) caller config.shared op answer shared) :
    Explains platform foreign call
      (MayHaveWritten (config.resume caller ⟨op, answer⟩ shared program)) config.shared shared := by
  cases op with
  | send request =>
      have ofKey : ∀ name, request.writes = some name → OfKey platform call caller name :=
        fun name => ofKey_of_useLaw law
      rcases effect with ⟨success, effect⟩ | ⟨_, rfl⟩ | ⟨_, unknown, rfl⟩
      · refine .of_effect effect ofKey (mayHaveWritten_of_send ?_)
        rw [success]
        cases request <;> simp [Request.success]
      · exact .of_eq rfl rfl
      · exact .of_submit ofKey (mayHaveWritten_of_send unknown)
  | get url =>
      rcases effect with ⟨record, _, _, reported, _, _, rfl⟩ | ⟨_, rfl⟩
      · exact .of_eq rfl rfl
      · exact .of_eq rfl rfl
  | utcNow =>
      rcases effect with ⟨_, rfl⟩
      exact .of_eq rfl rfl
  | cleanupContinue =>
      rcases effect with ⟨_, rfl⟩
      exact .of_eq rfl rfl
  | credential =>
      cases effect
      exact .of_eq rfl rfl
  | list token =>
      cases effect
      exact .of_eq rfl rfl
  | setCleanupContinue token =>
      cases effect
      exact .of_eq rfl rfl
  | other op => exact op.elim

/-- One operation of one call. -/
theorem Sourced.perform {config : Calls ι ρ} {op : Op Empty}
    {next : Answer (fun op : Empty => op.elim) op →
      LedgerProgram (fun op : Empty => op.elim) (Except ReplayError Unit)}
    {answer : Answer (fun op : Empty => op.elim) op} {shared : World ι ρ}
    (sourced : Sourced platform foreign call config) (running : config.tasks caller = some (.call op next))
    (effect : Replay.perform (anyClock platform replica foreign) caller config.shared op answer
      shared) :
    Sourced platform foreign call (config.resume caller ⟨op, answer⟩ shared (next answer)) := by
  have lawful := sourced.lawful caller _ running
  apply sourced.of_explained
  · intro writer may
    exact may.resume running answer shared
  · exact explains_perform lawful.1 effect
  · intro other program present
    by_cases same : other = caller
    · subst same
      rw [Config.resume_tasks_self, Option.some.injEq] at present
      subst present
      rw [Config.resume_history_self]
      exact lawful.2 answer
    · rw [Config.resume_tasks_of_ne same] at present
      rw [Config.resume_history_of_ne same]
      exact sourced.lawful other program present
  · intro other url lease member
    by_cases same : other = caller
    · subst same
      rw [Config.resume_history_self] at member
      rcases List.mem_append.mp member with old | new
      · exact Or.inl old
      · cases List.mem_singleton.mp new
        rcases effect with ⟨record, written, nameEq, reported, _, answerEq, rfl⟩ | ⟨missing, _⟩
        · simp only [Option.some.injEq, Prod.mk.injEq, true_and] at answerEq
          exact Or.inr ⟨record, written, nameEq, reported, answerEq⟩
        · exact absurd rfl (missing lease)
    · rw [Config.resume_history_of_ne same] at member
      exact Or.inl member

omit [DecidableEq ρ] in
/-- A dropped call. -/
theorem Sourced.cancel {config : Calls ι ρ} {op : Op Empty}
    {next : Answer (fun op : Empty => op.elim) op →
      LedgerProgram (fun op : Empty => op.elim) (Except ReplayError Unit)} {shared : World ι ρ}
    (sourced : Sourced platform foreign call config) (running : config.tasks caller = some (.call op next))
    (dropped : Replay.cancel caller config.shared op shared) :
    Sourced platform foreign call (config.drop caller shared) := by
  have law := (sourced.lawful caller _ running).1
  apply sourced.of_explained
  · intro writer may
    by_cases same : writer = caller
    · subst same
      exact Or.inl Config.drop_tasks_self
    · rw [MayHaveWritten, Config.drop_tasks_of_ne same]
      exact may
  · rcases dropped with rfl | ⟨request, rfl, rfl⟩
    · exact .of_eq rfl rfl
    · exact .of_submit (fun name => ofKey_of_useLaw law) (Or.inl Config.drop_tasks_self)
  · intro other program present
    by_cases same : other = caller
    · subst same
      rw [Config.drop_tasks_self] at present
      contradiction
    · rw [Config.drop_tasks_of_ne same] at present
      exact sourced.lawful other program present
  · intro other url lease member
    exact Or.inl member

omit [DecidableEq ι] [DecidableEq ρ] in
/-- A step of the clock, of an open request or of a foreign client. -/
theorem Sourced.environment {config : Calls ι ρ} {shared : World ι ρ}
    (sourced : Sourced platform foreign call config)
    (moved : Environment (anyClock platform replica foreign) config.shared shared) :
    Sourced platform foreign call { config with shared := shared } := by
  apply sourced.of_explained
  · exact fun writer may => may
  · cases moved with
    | clock instant may => exact .of_eq rfl rfl
    | @deliver writer request earlier later _ split effect =>
        have known := sourced.inFlight writer request (by simp [split])
        exact .of_withdrawn split (.of_effect effect known.1 known.2)
    | foreignWrite isForeign fresh =>
        refine ⟨fun record member => List.mem_cons_of_mem _ member, ?_, ?_⟩
        · intro record member
          rcases List.mem_cons.mp member with rfl | member
          · exact Or.inr isForeign
          · exact Or.inl member
        · intro writer request member
          exact Or.inl member
    | foreignRemove isForeign => exact .of_eq rfl rfl
  · exact sourced.lawful
  · intro other url lease member
    exact Or.inl member

/-- Everything is explained in every reachable pool. -/
theorem sourced_of_reached {clock : DateTime} {config : Calls ι ρ}
    (reached : Reached platform replica foreign call clock config) :
    Sourced platform foreign call config := by
  refine reached.invariant (Sourced platform foreign call) ?_ ?_
  · intro source label target sourced step
    cases step with
    | perform running effect => exact sourced.perform running effect
    | cancel running dropped => exact sourced.cancel running dropped
    | environment moved => exact sourced.environment moved
  · refine ⟨?_, ?_, ?_, ?_⟩
    · intro caller program present
      cases Option.some.inj present
      exact useOnce_obeys (call caller).2
    · intro record member
      exact absurd member List.not_mem_nil
    · intro writer request member
      exact absurd member List.not_mem_nil
    · intro caller url lease member
      contradiction

/-- In every interleaving, with any clocks, lost replies, late effects and drops: a call
that is refused as a replay has written nothing and has nothing left to write, and another
call for its key has written the Lease that it has found unexpired at its clock
reading. -/
theorem replayed_genuine {clock : DateTime} {config : Calls ι ρ}
    (faithful : Faithful platform foreign)
    (reached : Reached platform replica foreign call clock config)
    (replayed : config.tasks caller = some (.done (.error .replayed))) :
    (∀ record ∈ config.shared.store.written, record.object.writer ≠ some caller) ∧
      (∀ request, (caller, request) ∉ config.shared.inFlight) ∧
      ∃ now other record,
        (⟨.utcNow, now⟩ : Event (Answer fun op : Empty => op.elim)) ∈ config.history caller ∧
        other ≠ caller ∧
        leaseName platform (call other).1 = leaseName platform (call caller).1 ∧
        record ∈ config.shared.store.written ∧
        record.name = leaseName platform (call caller).1 ∧
        record.object.writer = some other ∧ expired platform record.object.lease now = false := by
  have sourced := sourced_of_reached reached
  rcases sourced.lawful caller _ replayed rfl with
    ⟨conflicted, now, url, lease, reading, address, answered, unexpired⟩
  have innocent : ¬ MayHaveWritten config caller := by
    rintro (dropped | free)
    · rw [replayed] at dropped
      contradiction
    · exact free conflicted
  have others : ∀ record ∈ config.shared.store.written, record.object.writer ≠ some caller := by
    intro record member byCaller
    have origin := sourced.written record member
    rw [Origin, byCaller] at origin
    exact innocent origin.2
  refine ⟨others, fun request open_ => innocent (sourced.inFlight caller request open_).2, ?_⟩
  rcases sourced.read caller url lease answered with ⟨record, member, nameEq, reported, rfl⟩
  rw [faithful.address, Option.some.injEq] at address
  subst address
  have origin := sourced.written record member
  cases byWhom : record.object.writer with
  | none =>
      rw [Origin, byWhom] at origin
      rw [nameEq] at origin
      exact absurd origin (faithful.owned _)
  | some other =>
      rw [Origin, byWhom] at origin
      refine ⟨now, other, record, reading, ?_, ?_, member, nameEq, byWhom, unexpired⟩
      · rintro rfl
        exact others record member byWhom
      · rcases origin.1 with named | addressed
        · rw [← named, nameEq]
        · rw [faithful.address, Option.some.injEq] at addressed
          rw [addressed, nameEq]

end Steps

/-- The second of two uses of one key comes before the Lease of the first has ended. -/
theorem replayed_genuine_sample :
    ∃ config : Calls Bool Unit, Reached samplePlatform (fun _ => ()) (fun _ => False) sampleUses
        (.ofSeconds 900) config ∧
      config.tasks true = some (.done (.error .replayed)) ∧
      ∃ record ∈ config.shared.store.written, record.object.writer = some false := by
  have run : ∃ config : Calls Bool Unit, Reached samplePlatform (fun _ => ()) (fun _ => False)
        sampleUses (.ofSeconds 900) config ∧
      config.tasks true = some (.done (.error .replayed)) := by
    refine Steps.reach_perform false rfl (DateTime.ofSeconds 900) ⟨rfl, rfl⟩ ?_
    refine Steps.reach_perform false rfl (some "token") rfl ?_
    refine Steps.reach_perform false rfl (some 201)
      (Or.inl ⟨rfl, .post "1" (Versioned.fresh_of_notMem (by decide))
        (fun _ verified => nomatch verified) rfl⟩) ?_
    refine Steps.reach_perform true rfl (DateTime.ofSeconds 900) ⟨rfl, rfl⟩ ?_
    refine Steps.reach_perform true rfl (some "token") rfl ?_
    refine Steps.reach_perform true rfl (some 409) (Or.inr (Or.inl ⟨rfl, rfl⟩)) ?_
    refine Steps.reach_perform true rfl (some "token") rfl ?_
    refine Steps.reach_perform true rfl (some (200, some _))
      (Or.inl ⟨_, List.mem_cons_self, rfl, some "1", Or.inr rfl, rfl, rfl⟩) ?_
    exact ⟨_, .refl _, rfl⟩
  rcases run with ⟨config, reached, replayed⟩
  rcases (replayed_genuine faithful_samplePlatform reached replayed).2.2 with
    ⟨_, other, record, _, different, _, member, _, byOther, _⟩
  have otherEq : other = false := by
    cases other with
    | false => rfl
    | true => contradiction
  exact ⟨config, reached, replayed, record, member, otherEq ▸ byOther⟩

end OidcExchange.Replay
