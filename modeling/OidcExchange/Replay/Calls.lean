import OidcExchange.Replay.Safety

/-!
# Ledger calls keep the discipline

Every operation that the ledger performs is allowed where it performs it: it
reads the clock once, it sends a PUT or DELETE only for a version that it has
read and found expired, and it deletes at most once.  The specifications follow
the programs of `Replay.Ledger` one by one.
-/

namespace OidcExchange.Replay

open OidcExchange.Process OidcExchange.Store

section Knowledge

variable {ι ρ X : Type} {other : X → Type} {S : Setting ι ρ other} {world : World ι ρ}
  {caller : ι}

/-- The caller's own records are as before. -/
structure Frame (caller : ι) (before after : World ι ρ) : Prop where
  grows : Grows before after
  reading : after.reading caller = before.reading caller
  verifiedAt : after.verifiedAt caller = before.verifiedAt caller

/-- A fact that does not depend on the caller's deletions either. -/
def Framed (caller : ι) (fact : World ι ρ → Prop) : Prop :=
  ∀ before after, Frame caller before after → fact before → fact after

/-- The call has written this lease under this name, in time. -/
def Wrote (caller : ι) (name : String) (lease : Lease) (world : World ι ρ) : Prop :=
  ∃ record ∈ world.store.written, record.name = name ∧ record.object.writer = some caller ∧
    record.object.lease = lease ∧
      ∀ second, world.verifiedAt caller = some second →
        record.object.writtenAt < DateTime.ofSeconds (second + 269)

/-- The call has written this lease, by POST or by PUT. -/
def Recorded (S : Setting ι ρ other) (caller : ι) (lease : Lease) (world : World ι ρ) : Prop :=
  ∃ name resourceVersion,
    (name = lease.metadata.name ∨ S.platform.itemUrl lease.metadata.name = some name) ∧
      Wrote caller name (lease.withResourceVersion resourceVersion) world

/-- The call has read this lease as the item of this name. -/
def Observed (S : Setting ι ρ other) (caller : ι) (name : String) (lease : Lease)
    (world : World ι ρ) : Prop :=
  ∃ read ∈ world.reads, read.caller = caller ∧
    S.platform.itemUrl name = some read.record.name ∧
      ∃ reported, (reported = none ∨ reported = some read.record.version) ∧
        lease = read.record.object.lease.withResourceVersion reported

/-- The call may send this version to the item of this name. -/
def Sendable (S : Setting ι ρ other) (caller : ι) (name resourceVersion : String)
    (world : World ι ρ) : Prop :=
  ∀ url, S.platform.itemUrl name = some url → SeenExpired S world caller url resourceVersion

theorem Framed.and {first second : World ι ρ → Prop} (left : Framed caller first)
    (right : Framed caller second) : Framed caller fun world => first world ∧ second world :=
  fun before after moved holds =>
    ⟨left before after moved holds.1, right before after moved holds.2⟩

theorem framed_wrote {name : String} {lease : Lease} :
    Framed (ρ := ρ) caller (Wrote caller name lease) := by
  rintro before after moved ⟨record, member, nameEq, writer, leaseEq, inTime⟩
  refine ⟨record, moved.grows.written.subset member, nameEq, writer, leaseEq, ?_⟩
  rwa [moved.verifiedAt]

theorem framed_recorded {lease : Lease} : Framed caller (Recorded S caller lease) := by
  rintro before after moved ⟨name, resourceVersion, nameEq, wrote⟩
  exact ⟨name, resourceVersion, nameEq, framed_wrote before after moved wrote⟩

theorem framed_sendable {name resourceVersion : String} :
    Framed caller (Sendable S caller name resourceVersion) := by
  intro before after moved seen url address
  exact (seen url address).grows moved.grows

/-- A version that was read and found expired may be sent. -/
theorem Observed.sendable {name resourceVersion : String} {lease : Lease}
    {now : DateTime} (observed : Observed S caller name lease world)
    (reading : world.reading caller = some now)
    (isExpired : expired S.platform lease now = true)
    (reported : lease.metadata.resourceVersion = some resourceVersion) :
    Sendable S caller name resourceVersion world := by
  intro url address
  rcases observed with ⟨read, member, callerEq, readAddress, version, versionEq, rfl⟩
  have nameEq : read.record.name = url := Option.some.inj (readAddress.symm.trans address)
  have sent : version = some resourceVersion := reported
  rw [expired_withResourceVersion] at isExpired
  refine ⟨now, reading, read, member, callerEq, nameEq, ?_, isExpired⟩
  rcases versionEq with rfl | rfl
  · contradiction
  · exact Option.some.inj sent

/-- The call has used its replay key: it carries a clock reading and has written
the lease prepared from it. -/
def Used (S : Setting ι ρ other) (caller : ι) (jti : String) (expiresAt : Int)
    (world : World ι ρ) : Prop :=
  ∃ now lease, world.reading caller = some now ∧
    preparedLease S.platform jti expiresAt now = .ok lease ∧ Recorded S caller lease world

theorem framed_used {jti : String} {expiresAt : Int} :
    Framed caller (Used S caller jti expiresAt) := by
  rintro before after moved ⟨now, lease, reading, prepared, recorded⟩
  exact ⟨now, lease, moved.reading.trans reading, prepared,
    framed_recorded before after moved recorded⟩

end Knowledge

variable {ι ρ X : Type} [DecidableEq ι] {other : X → Type}
  {S : Setting ι ρ other} {world before after : World ι ρ} {caller : ι}

/-- A fact that the other calls cannot falsify. -/
def Kept (caller : ι) (fact : World ι ρ → Prop) : Prop :=
  ∀ before after, Rely caller before after → fact before → fact after

/-- The call carries the reading `now` and has not deleted anything. -/
def Armed (caller : ι) (now : DateTime) (world : World ι ρ) : Prop :=
  world.reading caller = some now ∧ world.deleteCount caller = 0

theorem Rely.frame (moved : Rely caller before after) : Frame caller before after :=
  ⟨moved.grows, moved.reading, moved.verifiedAt⟩

theorem Framed.kept {fact : World ι ρ → Prop} (framed : Framed caller fact) :
    Kept caller fact :=
  fun before after moved holds => framed before after moved.frame holds

theorem Kept.and {first second : World ι ρ → Prop} (left : Kept caller first)
    (right : Kept caller second) : Kept caller fun world => first world ∧ second world :=
  fun before after moved holds =>
    ⟨left before after moved holds.1, right before after moved holds.2⟩

theorem kept_armed {now : DateTime} : Kept (ρ := ρ) caller (Armed caller now) := by
  rintro before after moved ⟨reading, none⟩
  have bound := moved.deleteCount
  exact ⟨moved.reading.trans reading, by omega⟩

/-- What a call promises: the invariant, and the rely of every other call. -/
def Guarantee (S : Setting ι ρ other) (caller : ι) (before after : World ι ρ) : Prop :=
  LedgerInvariant S after ∧ ∀ someone, caller ≠ someone → Rely someone before after

/-- The condition under which a call may perform an operation. -/
def Allowed (S : Setting ι ρ other) (caller : ι) (world : World ι ρ) : Op X → Prop
  | .utcNow => world.reading caller = none
  | .send request => Permitted S world caller request ∧
      world.deleteCount caller + request.deletes ≤ 1
  | _ => True

/-- The operations after which the caller's own reading, verification and
deletions are as before. -/
def KeepsOwn (S : Setting ι ρ other) : Op X → Prop
  | .utcNow => False
  | .send request => request.deletes = 0
  | .other op => S.verifies op = false
  | _ => True

theorem Rely.submit (request : Request) (someone : ι)
    (silent : caller = someone → request.deletes = 0) :
    Rely someone world (world.submit caller request) := by
  refine ⟨.submit world caller request, rfl, rfl, ?_⟩
  rw [World.deleteCount_submit]
  split
  · rename_i same
    rw [silent same]
    exact le_rfl
  · exact le_rfl

theorem Rely.effect {request : Request} (someone : ι)
    (effect : TakesEffect caller before request after)
    (silent : caller = someone → request.deletes = 0) : Rely someone before after := by
  refine ⟨effect.grows, ?_, ?_, ?_⟩
  · rw [effect.reading]
  · rw [effect.verifiedAt]
  · rw [effect.deleteCount someone]
    split
    · rename_i same
      rw [silent same]
      exact le_rfl
    · exact le_rfl

theorem Rely.observe (record : Write ι) (someone : ι) :
    Rely someone world (world.observe caller record) :=
  ⟨.observe world caller record, rfl, rfl, le_rfl⟩

theorem Unchanged.verified (world : World ι ρ) (caller : ι) :
    Unchanged world (world.verified caller) :=
  ⟨rfl, rfl, rfl, rfl, fun _ same => same, fun _ => le_rfl⟩

theorem guarantee_of_cancel {op : Op X} (invariant : LedgerInvariant S before)
    (allowed : Allowed S caller before op) (dropped : cancel caller before op after) :
    Guarantee S caller before after := by
  rcases dropped with rfl | ⟨request, rfl, rfl⟩
  · exact ⟨invariant, fun someone _ => .refl someone _⟩
  · rcases allowed with ⟨permitted, room⟩
    refine ⟨invariant.submit permitted room, ?_⟩
    intro someone different
    exact .submit request someone fun same => absurd same different

/-- A request about to be delivered no longer counts as open. -/
theorem Unchanged.withdraw {request : Request} {earlier later : List (ι × Request)}
    (split : world.inFlight = earlier ++ (caller, request) :: later) :
    Unchanged world { world with inFlight := earlier ++ later } := by
  refine ⟨rfl, rfl, rfl, rfl, ?_, ?_⟩
  · intro sent member
    rw [split]
    simp only [List.mem_append, List.mem_cons] at member ⊢
    tauto
  · intro someone
    simp only [World.deleteCount, split, List.map_append, List.map_cons, List.sum_append,
      List.sum_cons]
    omega

theorem deleteCount_withdraw {request : Request} {earlier later : List (ι × Request)}
    (split : world.inFlight = earlier ++ (caller, request) :: later) (someone : ι) :
    ({ world with inFlight := earlier ++ later } : World ι ρ).deleteCount someone +
      (if caller = someone then request.deletes else 0) = world.deleteCount someone := by
  simp only [World.deleteCount, split, List.map_append, List.map_cons, List.sum_append,
    List.sum_cons]
  omega

/-- The environment keeps the invariant and the rely of every call. -/
theorem environment_keeps (invariant : LedgerInvariant S before)
    (moved : Environment S before after) :
    LedgerInvariant S after ∧ ∀ someone, Rely someone before after := by
  cases moved with
  | clock instant may =>
      have same : Unchanged before { before with clock := instant } :=
        ⟨rfl, rfl, rfl, rfl, fun _ same => same, fun _ => le_rfl⟩
      exact ⟨invariant.of_unchanged same (.single may), fun someone => same.rely rfl⟩
  | @deliver caller request earlier later after split effect =>
      have same := Unchanged.withdraw split
      have count := deleteCount_withdraw split
      have permitted := (invariant.permitted caller request (by simp [split])).grows same.grows
      have room := count caller
      rw [if_pos rfl] at room
      refine ⟨(invariant.of_unchanged same .refl).effect permitted ?_ effect, ?_⟩
      · rw [room]
        exact invariant.single caller
      · intro someone
        refine ⟨same.grows.trans effect.grows, ?_, ?_, ?_⟩
        · rw [effect.reading]
        · rw [effect.verifiedAt]
        · rw [effect.deleteCount someone, count someone]
  | foreignWrite isForeign fresh =>
      refine ⟨invariant.put fresh ?_, ?_⟩
      · intro record owned
        exact absurd isForeign owned
      · intro someone
        exact ⟨⟨List.suffix_cons _ _, fun _ _ same => same, fun _ same => same,
          fun _ same => same⟩, rfl, rfl, le_rfl⟩
  | foreignRemove isForeign =>
      refine ⟨invariant.foreignRemove isForeign, ?_⟩
      intro someone
      exact ⟨⟨List.suffix_rfl, fun _ _ same => same, fun _ same => same,
        fun _ same => same⟩, rfl, rfl, le_rfl⟩

variable [DecidableEq ρ]

theorem Unchanged.keepContinue (world : World ι ρ) (replica : ρ) (token : Option String) :
    Unchanged world (world.keepContinue replica token) :=
  ⟨rfl, rfl, rfl, rfl, fun _ same => same, fun _ => le_rfl⟩

/-- Every operation keeps the rely of the other calls, and those that keep the
caller's own facts keep its rely too. -/
theorem rely_of_perform {op : Op X} {answer : Answer other op} (someone : ι)
    (fresh : op = .utcNow → before.reading caller = none)
    (own : caller = someone → KeepsOwn S op)
    (effect : perform S caller before op answer after) : Rely someone before after := by
  cases op with
  | utcNow =>
      obtain ⟨-, rfl⟩ := effect
      have different : someone ≠ caller := fun same => own same.symm
      refine ⟨.readClock (fresh rfl), World.readClock_reading_of_ne before different, rfl, ?_⟩
      exact le_rfl
  | credential =>
      obtain rfl := effect
      exact .refl _ _
  | send request =>
      rcases effect with ⟨-, effect⟩ | ⟨-, rfl⟩ | ⟨-, -, rfl⟩
      · exact .effect someone effect own
      · exact .refl _ _
      · exact .submit request someone own
  | get url =>
      rcases effect with ⟨record, -, -, -, -, -, rfl⟩ | ⟨-, rfl⟩
      · exact .observe record someone
      · exact .refl _ _
  | list token =>
      obtain rfl := effect
      exact .refl _ _
  | cleanupContinue =>
      obtain ⟨-, rfl⟩ := effect
      exact .refl _ _
  | setCleanupContinue token =>
      obtain rfl := effect
      exact (Unchanged.keepContinue before _ token).rely rfl
  | other op =>
      obtain ⟨-, rfl⟩ := effect
      cases verifies : S.verifies op with
      | false => exact .refl _ _
      | true =>
          have different : someone ≠ caller := by
            rintro rfl
            have silent : S.verifies op = false := own rfl
            rw [verifies] at silent
            contradiction
          apply (Unchanged.verified before caller).rely
          exact World.verified_verifiedAt_of_ne before different

/-- Every allowed operation keeps the invariant. -/
theorem invariant_of_perform {op : Op X} {answer : Answer other op}
    (invariant : LedgerInvariant S before) (allowed : Allowed S caller before op)
    (effect : perform S caller before op answer after) : LedgerInvariant S after := by
  cases op with
  | utcNow =>
      obtain ⟨-, rfl⟩ := effect
      exact invariant.readClock allowed
  | credential =>
      obtain rfl := effect
      exact invariant
  | send request =>
      rcases allowed with ⟨permitted, room⟩
      rcases effect with ⟨-, effect⟩ | ⟨-, rfl⟩ | ⟨-, -, rfl⟩
      · exact invariant.effect permitted room effect
      · exact invariant
      · exact invariant.submit permitted room
  | get url =>
      rcases effect with ⟨record, member, -, -, -, -, rfl⟩ | ⟨-, rfl⟩
      · exact invariant.observe member
      · exact invariant
  | list token =>
      obtain rfl := effect
      exact invariant
  | cleanupContinue =>
      obtain ⟨-, rfl⟩ := effect
      exact invariant
  | setCleanupContinue token =>
      obtain rfl := effect
      exact invariant.of_unchanged (.keepContinue before _ token) .refl
  | other op =>
      obtain ⟨-, rfl⟩ := effect
      split
      · exact invariant.of_unchanged (.verified before caller) .refl
      · exact invariant

/-- The discipline of the ledger. -/
def discipline (S : Setting ι ρ other) : Discipline (api S) where
  invariant := LedgerInvariant S
  rely := Rely
  guarantee := Guarantee S
  rely_refl := Rely.refl
  rely_trans := Rely.trans
  guarantee_invariant _ promised := promised.1
  guarantee_rely different _ promised := promised.2 _ different
  environment_invariant invariant moved := (environment_keeps invariant moved).1
  environment_rely invariant moved := (environment_keeps invariant moved).2 _

/-- The rule for one operation: it is allowed whatever the others have done, and
the rest is safe whatever it is answered. -/
theorem safe_call {α : Type} {post : World ι ρ → α → Prop} {op : Op X}
    {next : Answer other op → LedgerProgram other α}
    (allowed : ∀ before, Rely caller world before → LedgerInvariant S before →
      Allowed S caller before op)
    (rest : ∀ before answer after, Rely caller world before → LedgerInvariant S before →
      perform S caller before op answer after →
        (discipline S).Safe caller post (next answer) after) :
    (discipline S).Safe caller post (.call op next) world := by
  intro before moved invariant
  have allowed := allowed before moved invariant
  refine ⟨?_, fun after dropped => guarantee_of_cancel invariant allowed dropped⟩
  intro answer after effect
  refine ⟨⟨invariant_of_perform invariant allowed effect, ?_⟩,
    rest before answer after moved invariant effect⟩
  intro someone different
  apply rely_of_perform someone _ (fun same => absurd same different) effect
  rintro rfl
  exact allowed

section Specifications

variable {α : Type} {fact : World ι ρ → Prop} {post : World ι ρ → α → Prop} {now : DateTime}

/-- The rule for an operation that keeps what the caller knows. -/
theorem safe_call_kept (op : Op X) {next : Answer other op → LedgerProgram other α}
    (kept : Kept caller fact) (holds : fact world) (keepsOwn : KeepsOwn S op)
    (allowed : ∀ before, LedgerInvariant S before → fact before →
      Allowed S caller before op)
    (rest : ∀ before answer after, fact after → perform S caller before op answer after →
      (discipline S).Safe caller post (next answer) after) :
    (discipline S).Safe caller post (.call op next) world := by
  apply safe_call
  · intro before moved invariant
    exact allowed before invariant (kept world before moved holds)
  · intro before answer after moved invariant effect
    apply rest before answer after _ effect
    apply kept before after _ (kept world before moved holds)
    apply rely_of_perform caller _ (fun _ => keepsOwn) effect
    rintro rfl
    contradiction

theorem credential_safe (kept : Kept caller fact) (holds : fact world) :
    (discipline S).Safe caller (fun world _ => fact world)
      (credential : LedgerProgram other _) world := by
  apply safe_call_kept .credential kept holds trivial (fun _ _ _ => trivial)
  intro before answer after holds effect
  exact holds

theorem create_safe (lease : Lease) (kept : Kept caller fact) (holds : fact world) :
    (discipline S).Safe caller
      (fun world result => fact world ∧
        (result = .ok .created → Wrote caller lease.metadata.name lease world))
      (create lease : LedgerProgram other _) world := by
  apply (credential_safe kept holds).bindOk
  · intro world failure holds
    exact ⟨holds, by simp⟩
  intro world _ holds
  apply safe_call_kept (.send (.post lease)) kept holds rfl
  · intro before invariant _
    exact ⟨trivial, invariant.single caller⟩
  intro before answer after holds effect
  refine ⟨holds, ?_⟩
  intro created
  have succeeded : answer = some 201 := createResult_eq_created.mp created
  rcases effect with ⟨-, effect⟩ | ⟨refused, -⟩ | ⟨failed, -, -⟩
  · cases effect with
    | post version fresh inTime absent => exact ⟨_, List.mem_cons_self, rfl, rfl, rfl, inTime⟩
  · rw [succeeded] at refused
    simp at refused
  · exact absurd succeeded failed

/-- The item URL is resolved without any operation. -/
theorem itemUrl_safe {β : Type} {name : String}
    {next : String → LedgerProgram other (Except ReplayError β)}
    {post : World ι ρ → Except ReplayError β → Prop}
    (failed : post world (.error .unavailable))
    (resolved : ∀ url, S.platform.itemUrl name = some url →
      (discipline S).Safe caller post (next url) world) :
    (discipline S).Safe caller post
      ((Program.done (itemUrl S.platform name)).bindOk next) world := by
  unfold itemUrl
  cases address : S.platform.itemUrl name with
  | none => exact failed
  | some url => exact resolved url address

theorem get_safe (name : String) (kept : Kept caller fact) (holds : fact world) :
    (discipline S).Safe caller
      (fun world result => fact world ∧
        ∀ lease, result = .ok (some lease) → Observed S caller name lease world)
      (get S.platform name : LedgerProgram other _) world := by
  apply (credential_safe kept holds).bindOk
  · intro world failure holds
    exact ⟨holds, by simp⟩
  intro world _ holds
  apply itemUrl_safe
  · exact ⟨holds, by simp⟩
  intro url address
  apply safe_call_kept (.get url) kept holds trivial (fun _ _ _ => trivial)
  intro before answer after holds effect
  refine ⟨holds, ?_⟩
  intro lease found
  have response : answer = some (200, some lease) := getResult_eq_some.mp found
  rcases effect with ⟨record, -, rfl, reported, version, rfl, rfl⟩ | ⟨missing, -⟩
  · cases response
    exact ⟨_, List.mem_cons_self, rfl, address, reported, version, rfl⟩
  · exact absurd response (missing lease)

theorem update_safe (name : String) (lease : Lease) (kept : Kept caller fact)
    (holds : fact world)
    (permitted : ∀ url world, S.platform.itemUrl name = some url → fact world →
      Permitted S world caller (.put url lease)) :
    (discipline S).Safe caller
      (fun world result => fact world ∧ (result = .ok .updated →
        ∃ url, S.platform.itemUrl name = some url ∧ Wrote caller url lease world))
      (update S.platform name lease : LedgerProgram other _) world := by
  apply (credential_safe kept holds).bindOk
  · intro world failure holds
    exact ⟨holds, by simp⟩
  intro world _ holds
  apply itemUrl_safe
  · exact ⟨holds, by simp⟩
  intro url address
  apply safe_call_kept (.send (.put url lease)) kept holds rfl
  · intro before invariant holds
    exact ⟨permitted url before address holds, invariant.single caller⟩
  intro before answer after holds effect
  refine ⟨holds, ?_⟩
  intro updated
  have succeeded : answer = some 200 := updateResult_eq_updated.mp updated
  rcases effect with ⟨-, effect⟩ | ⟨refused, -⟩ | ⟨failed, -, -⟩
  · cases effect with
    | put version fresh inTime _ _ =>
        exact ⟨url, address, _, List.mem_cons_self, rfl, rfl, rfl, inTime⟩
  · rw [succeeded] at refused
    simp at refused
  · exact absurd succeeded failed

theorem list_safe (token : Option String) (kept : Kept caller fact) (holds : fact world) :
    (discipline S).Safe caller (fun world _ => fact world)
      (list token : LedgerProgram other _) world := by
  apply (credential_safe kept holds).bindOk
  · intro world failure holds
    exact holds
  intro world _ holds
  apply safe_call_kept (.list token) kept holds trivial (fun _ _ _ => trivial)
  intro before answer after holds effect
  exact holds

/-- The one operation that uses up the permission to delete. -/
theorem delete_safe (name resourceVersion : String) (framed : Framed caller fact)
    (holds : fact world) (armed : Armed caller now world)
    (seen : Sendable S caller name resourceVersion world) :
    (discipline S).Safe caller (fun world _ => fact world)
      (delete S.platform name resourceVersion : LedgerProgram other _) world := by
  have kept : Kept (ρ := ρ) caller fun world =>
      Armed caller now world ∧ Sendable S caller name resourceVersion world :=
    kept_armed.and framed_sendable.kept
  apply (credential_safe (framed.kept.and kept) ⟨holds, armed, seen⟩).bindOk
  · intro world failure holds
    exact holds.1
  intro world _ holds
  apply itemUrl_safe
  · exact holds.1
  intro url address
  apply safe_call
  · intro before moved _
    rcases kept world before moved holds.2 with ⟨armed, seen⟩
    refine ⟨seen url address, ?_⟩
    rw [armed.2, Request.deletes]
  · intro before answer after moved invariant effect
    have frame : Frame caller before after := by
      rcases effect with ⟨-, effect⟩ | ⟨-, rfl⟩ | ⟨-, -, rfl⟩
      · exact ⟨effect.grows, by rw [effect.reading], by rw [effect.verifiedAt]⟩
      · exact ⟨.refl _, rfl, rfl⟩
      · exact ⟨.submit before caller _, rfl, rfl⟩
    exact framed before after frame (framed.kept world before moved holds.1)

/-- An accepted reclaim has recorded the replacement. -/
theorem reclaimAttempts_safe (replacement : Lease) (attempts : List Nat)
    (framed : Framed caller fact) (holds : fact world) (armed : Armed caller now world) :
    (discipline S).Safe caller
      (fun world result => (fact world ∧ Armed caller now world) ∧
        (result = .ok () → Recorded S caller replacement world))
      (reclaimAttempts S.platform replacement.metadata.name replacement now attempts :
        LedgerProgram other _) world := by
  have kept : Kept caller fun world => fact world ∧ Armed caller now world :=
    framed.kept.and kept_armed
  induction attempts generalizing world with
  | nil => exact ⟨⟨holds, armed⟩, by simp⟩
  | cons attempt attempts inductionHypothesis =>
      apply (get_safe replacement.metadata.name kept ⟨holds, armed⟩).bindOk
      · intro world failure holds
        exact ⟨holds.1, by simp⟩
      rintro world (_ | existing) ⟨known, observed⟩
      · -- the lease is gone: one more POST decides
        apply (create_safe replacement kept known).bindOk
        · intro world failure holds
          exact ⟨holds.1, by simp⟩
        rintro world (_ | _) ⟨known, wrote⟩
        · exact ⟨known, fun _ => ⟨_, _, Or.inl rfl, wrote rfl⟩⟩
        · exact ⟨known, by simp⟩
      have observed := observed existing rfl
      cases isExpired : expired S.platform existing now with
      | false =>
          simp only [isExpired, ↓reduceIte]
          exact ⟨known, by simp⟩
      | true =>
          simp only [isExpired, Bool.true_eq_false, ↓reduceIte]
          cases reported : existing.metadata.resourceVersion.filter (· ≠ "") with
          | none => exact ⟨known, by simp⟩
          | some resourceVersion =>
              have sent : existing.metadata.resourceVersion = some resourceVersion :=
                (Option.filter_eq_some_iff.mp reported).1
              have sendable := observed.sendable known.2.1 isExpired sent
              apply (update_safe replacement.metadata.name
                (replacement.withResourceVersion (some resourceVersion))
                (kept.and framed_sendable.kept) ⟨known, sendable⟩ ?_).bindOk
              · intro world failure holds
                exact ⟨holds.1.1, by simp⟩
              · rintro world (_ | _) ⟨⟨known, _⟩, wrote⟩
                · obtain ⟨url, address, wrote⟩ := wrote rfl
                  exact ⟨known, fun _ => ⟨url, _, Or.inr address, wrote⟩⟩
                · by_cases first : attempt = 0
                  · simp only [first, ↓reduceIte]
                    exact inductionHypothesis known.1 known.2
                  · simp only [first, ↓reduceIte]
                    exact ⟨known, by simp⟩
              · intro url world address holds sent' sentEq
                cases sentEq
                exact holds.2 url address

/-- The candidates leave the permission to delete unless one was deleted. -/
theorem cleanupCandidates_safe (leases : List Lease) (framed : Framed caller fact)
    (holds : fact world) (armed : Armed caller now world) :
    (discipline S).Safe caller
      (fun world deleted => fact world ∧ (deleted = false → Armed caller now world))
      (cleanupCandidates S.platform now leases : LedgerProgram other _) world := by
  induction leases generalizing world with
  | nil => exact ⟨holds, fun _ => armed⟩
  | cons lease leases inductionHypothesis =>
      apply (get_safe lease.metadata.name (framed.kept.and kept_armed) ⟨holds, armed⟩).bind
      rintro world result ⟨⟨holds, armed⟩, observed⟩
      match result with
      | .error _ => exact inductionHypothesis holds armed
      | .ok none => exact inductionHypothesis holds armed
      | .ok (some current) =>
          have observed := observed current rfl
          by_cases skipped : ownedLedgerLease current = false ∨
              expired S.platform current now = false
          · simp only [skipped, ↓reduceIte]
            exact inductionHypothesis holds armed
          · simp only [skipped, ↓reduceIte]
            have isExpired : expired S.platform current now = true := by
              rw [not_or, Bool.not_eq_false] at skipped
              simpa using skipped.2
            cases reported : current.metadata.resourceVersion with
            | none => exact inductionHypothesis holds armed
            | some resourceVersion =>
                have sendable := observed.sendable armed.1 isExpired reported
                apply (delete_safe lease.metadata.name resourceVersion framed holds armed
                  sendable).bind
                intro world _ holds
                exact ⟨holds, by simp⟩

theorem setCleanupContinue_safe (token : Option String) (kept : Kept caller fact)
    (holds : fact world) :
    (discipline S).Safe caller (fun world _ => fact world)
      (setCleanupContinue token : LedgerProgram other _) world := by
  apply safe_call_kept (.setCleanupContinue token) kept holds trivial (fun _ _ _ => trivial)
  intro before answer after holds effect
  exact holds

theorem cleanupPages_safe (pages : Nat) (token : Option String) (framed : Framed caller fact)
    (holds : fact world) (armed : Armed caller now world) :
    (discipline S).Safe caller (fun world _ => fact world)
      (cleanupPages S.platform now pages token : LedgerProgram other _) world := by
  have kept : Kept caller fun world => fact world ∧ Armed caller now world :=
    framed.kept.and kept_armed
  induction pages generalizing world token with
  | zero => exact holds
  | succ pages inductionHypothesis =>
      apply (list_safe token kept ⟨holds, armed⟩).bind
      rintro world (_ | leases) ⟨holds, armed⟩
      · exact setCleanupContinue_safe none framed.kept holds
      · apply (setCleanupContinue_safe _ kept ⟨holds, armed⟩).bind
        rintro world - ⟨holds, armed⟩
        apply (cleanupCandidates_safe _ framed holds armed).bind
        rintro world (_ | _) ⟨holds, armed⟩
        · by_cases last : leases.continueToken = ""
          · simp only [last, ↓reduceIte]
            exact holds
          · simp only [last, ↓reduceIte]
            exact inductionHypothesis _ holds (armed rfl)
        · exact holds

theorem cleanupOne_safe (framed : Framed caller fact) (holds : fact world)
    (armed : Armed caller now world) :
    (discipline S).Safe caller (fun world _ => fact world)
      (cleanupOne S.platform now : LedgerProgram other _) world := by
  apply safe_call_kept .cleanupContinue (framed.kept.and kept_armed) ⟨holds, armed⟩ trivial
    (fun _ _ _ => trivial)
  rintro before answer after ⟨holds, armed⟩ effect
  exact cleanupPages_safe _ answer framed holds armed

/-- Cleanup after an accepted use keeps the use. -/
theorem accepted_safe {jti : String} {expiresAt : Int} {lease : Lease}
    (framed : Framed caller fact) (holds : fact world)
    (prepared : preparedLease S.platform jti expiresAt now = .ok lease)
    (armed : Armed caller now world) (recorded : Recorded S caller lease world) :
    (discipline S).Safe caller
      (fun world (result : Except ReplayError Unit) =>
        result = .ok () → fact world ∧ Used S caller jti expiresAt world)
      ((cleanupOne S.platform now).bind fun _ => .done (.ok ()) : LedgerProgram other _)
      world := by
  have used : Used S caller jti expiresAt world := ⟨now, lease, armed.1, prepared, recorded⟩
  apply (cleanupOne_safe (framed.and framed_used) ⟨holds, used⟩ armed).bind
  intro world _ used _
  exact used

/-- A call that has not read the clock nor deleted anything may use a key; if it
succeeds, it has written the lease of the key.  What the call knew before is
kept. -/
theorem useOnce_safe (jti : String) (expiresAt : Int) (framed : Framed caller fact)
    (clocked : ∀ world, fact world → fact (world.readClock caller)) (holds : fact world)
    (first : world.reading caller = none) (room : world.deleteCount caller = 0) :
    (discipline S).Safe caller
      (fun world result => result = .ok () → fact world ∧ Used S caller jti expiresAt world)
      (useOnce S.platform jti expiresAt : LedgerProgram other _) world := by
  apply safe_call
  · intro before moved _
    exact moved.reading.trans first
  rintro before now after moved invariant ⟨rfl, rfl⟩
  have armed : Armed caller before.clock (before.readClock caller) := by
    have bound := moved.deleteCount
    refine ⟨World.readClock_reading_self before caller, ?_⟩
    change before.deleteCount caller = 0
    omega
  have holds := clocked before (framed.kept world before moved holds)
  cases prepared : preparedLease S.platform jti expiresAt before.clock with
  | error failure =>
      simp only [Program.bind_done, prepared]
      exact Discipline.safe_done (by simp)
  | ok lease =>
      simp only [Program.bind_done, prepared]
      apply (create_safe lease (framed.kept.and kept_armed) ⟨holds, armed⟩).bindOk
      · intro world failure _
        simp
      rintro world (_ | _) ⟨⟨holds, armed⟩, wrote⟩
      · exact accepted_safe framed holds prepared armed ⟨_, _, Or.inl rfl, wrote rfl⟩
      · apply (reclaimAttempts_safe lease [0, 1] framed holds armed).bindOk
        · intro world failure _
          simp
        · rintro world _ ⟨⟨holds, armed⟩, recorded⟩
          exact accepted_safe framed holds prepared armed (recorded rfl)

end Specifications

end OidcExchange.Replay
