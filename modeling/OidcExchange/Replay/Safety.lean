import OidcExchange.Process.Discipline
import OidcExchange.Replay.Api

/-!
# The ledger's discipline

The invariant that all ledger calls maintain together: a lease of the ledger is
either still stored, or some call that carries a clock reading at which it was
expired has ended it.  Requests with an open effect are part of the invariant,
because they may act at any later time; they are justified by a version that
their caller has read.

Each call relies on the others only for this: recorded facts stay recorded, its
own clock reading stays as it is, and nobody deletes in its name.
-/

namespace OidcExchange.Replay

open OidcExchange.Process OidcExchange.Store

/-- The deletions that a request asks for. -/
def Request.deletes : Request → Nat
  | .delete _ _ => 1
  | _ => 0

section Facts

variable {ι ρ X : Type} {other : X → Type}

/-- What every step preserves. -/
structure Grows (before after : World ι ρ) : Prop where
  written : before.store.written <:+ after.store.written
  reading : ∀ caller now, before.reading caller = some now → after.reading caller = some now
  reads : ∀ read ∈ before.reads, read ∈ after.reads
  deletions : ∀ deletion ∈ before.deletions, deletion ∈ after.deletions

variable (S : Setting ι ρ other)

/-- `caller` carries the reading `now`, at which the lease of `record` is
expired, and has replaced or deleted it. -/
structure EndedBy (world : World ι ρ) (record : Write ι) (caller : ι) (now : DateTime) :
    Prop where
  reading : world.reading caller = some now
  expired : expired S.platform record.object.lease now = true
  ended : (∃ newer, world.store.WrittenAfter newer record ∧ newer.name = record.name ∧
      newer.object.writer = some caller) ∨
    ∃ deletion ∈ world.deletions, deletion.caller = caller ∧ deletion.record = record

/-- `caller` has read this version under this name and found it expired. -/
def SeenExpired (world : World ι ρ) (caller : ι) (url sent : String) : Prop :=
  ∃ now, world.reading caller = some now ∧
    ∃ read ∈ world.reads, read.caller = caller ∧ read.record.name = url ∧
      read.record.version = sent ∧ expired S.platform read.record.object.lease now = true

/-- A request that the ledger may send. -/
def Permitted (world : World ι ρ) (caller : ι) : Request → Prop
  | .post _ => True
  | .put url lease => ∀ sent, lease.metadata.resourceVersion = some sent →
      SeenExpired S world caller url sent
  | .delete url sent => SeenExpired S world caller url sent

/-- The removed lease was expired at its remover's reading, and the name has not
been written since the remover read it. -/
def Justified (world : World ι ρ) (deletion : Deletion ι) : Prop :=
  ∃ now, world.reading deletion.caller = some now ∧
    expired S.platform deletion.record.object.lease now = true ∧
      ∃ read ∈ world.reads, read.caller = deletion.caller ∧ read.record = deletion.record ∧
        ∃ between, deletion.seen = between ++ read.seen ∧
          ∀ newer ∈ between, newer.name ≠ deletion.record.name

variable {S} {before after : World ι ρ} {record : Write ι} {caller : ι}
  {now : DateTime} {request : Request} {url sent : String}

theorem Grows.refl (world : World ι ρ) : Grows world world :=
  ⟨List.suffix_rfl, fun _ _ same => same, fun _ same => same, fun _ same => same⟩

theorem Grows.trans {middle : World ι ρ} (first : Grows before middle)
    (second : Grows middle after) : Grows before after where
  written := first.written.trans second.written
  reading caller now holds := second.reading caller now (first.reading caller now holds)
  reads read member := second.reads read (first.reads read member)
  deletions deletion member := second.deletions deletion (first.deletions deletion member)

theorem Grows.observe (world : World ι ρ) (caller : ι) (record : Write ι) :
    Grows world (world.observe caller record) :=
  ⟨List.suffix_rfl, fun _ _ same => same, fun _ member => List.mem_cons_of_mem _ member,
    fun _ same => same⟩

theorem Grows.submit (world : World ι ρ) (caller : ι) (request : Request) :
    Grows world (world.submit caller request) :=
  ⟨List.suffix_rfl, fun _ _ same => same, fun _ same => same, fun _ same => same⟩

theorem EndedBy.grows (ended : EndedBy S before record caller now)
    (grows : Grows before after) : EndedBy S after record caller now where
  reading := grows.reading caller now ended.reading
  expired := ended.expired
  ended := by
    rcases ended.ended with ⟨newer, after, sameName, writer⟩ | ⟨deletion, member, same⟩
    · exact Or.inl ⟨newer, after.of_suffix grows.written, sameName, writer⟩
    · exact Or.inr ⟨deletion, grows.deletions deletion member, same⟩

theorem SeenExpired.grows (seen : SeenExpired S before caller url sent)
    (grows : Grows before after) : SeenExpired S after caller url sent := by
  rcases seen with ⟨now, reading, read, member, facts⟩
  exact ⟨now, grows.reading caller now reading, read, grows.reads read member, facts⟩

theorem Permitted.grows (permitted : Permitted S before caller request)
    (grows : Grows before after) : Permitted S after caller request := by
  cases request with
  | post lease => trivial
  | put url lease =>
      intro sent sentVersion
      exact (permitted sent sentVersion).grows grows
  | delete url sent => exact SeenExpired.grows permitted grows

theorem Justified.grows {deletion : Deletion ι} (justified : Justified S before deletion)
    (grows : Grows before after) : Justified S after deletion := by
  rcases justified with ⟨now, reading, isExpired, read, member, facts⟩
  exact ⟨now, grows.reading _ now reading, isExpired, read, grows.reads read member, facts⟩

/-- An effect adds to what is recorded. -/
theorem TakesEffect.grows (effect : TakesEffect caller before request after) :
    Grows before after := by
  cases effect with
  | post | put =>
      exact ⟨List.suffix_cons _ _, fun _ _ same => same, fun _ same => same, fun _ same => same⟩
  | delete =>
      exact ⟨List.suffix_rfl, fun _ _ same => same, fun _ same => same,
        fun _ member => List.mem_cons_of_mem _ member⟩

theorem TakesEffect.verifiedAt
    (effect : TakesEffect caller before request after) :
    after.verifiedAt = before.verifiedAt := by
  cases effect <;> rfl

theorem TakesEffect.reading
    (effect : TakesEffect caller before request after) :
    after.reading = before.reading := by
  cases effect <;> rfl

/-- A request that empties a name is a DELETE, and it is recorded. -/
theorem TakesEffect.removed {name version : String} {stored : Stored ι}
    (effect : TakesEffect caller before request after)
    (present : before.store.current name = some (version, stored))
    (gone : after.store.current name = none) :
    after.deletions =
      ⟨caller, ⟨name, version, stored⟩, before.store.written⟩ :: before.deletions := by
  have occupied : before.store.current name ≠ none := by simp [present]
  cases effect with
  | post written fresh _ _ => exact absurd gone (Versioned.current_write_ne_none fresh occupied)
  | put written fresh _ _ _ => exact absurd gone (Versioned.current_write_ne_none fresh occupied)
  | @delete url sent removed _ current =>
      by_cases same : name = url
      · subst same
        rw [present, Option.some.injEq, Prod.mk.injEq] at current
        obtain ⟨rfl, rfl⟩ := current
        rfl
      · have kept : (before.store.remove url).current name = before.store.current name :=
          Versioned.current_remove_of_ne same
        exact absurd (kept.symm.trans gone) occupied

end Facts

section Invariant

variable {ι ρ X : Type} [DecidableEq ι] {other : X → Type}

/-- The deletions of a call, those with an open effect included. -/
def World.deleteCount (world : World ι ρ) (caller : ι) : Nat :=
  world.deletions.countP (fun deletion => deletion.caller = caller) +
    (world.inFlight.map fun sent => if sent.1 = caller then sent.2.deletes else 0).sum

variable (S : Setting ι ρ other)

/-- The shared invariant of all ledger calls. -/
structure LedgerInvariant (world : World ι ρ) : Prop where
  readings : ∀ caller now, world.reading caller = some now →
    Relation.ReflTransGen S.clockMay now world.clock
  current_or_ended : ∀ record ∈ world.store.written, ¬ S.foreign record.name →
    world.store.IsCurrent record ∨ ∃ caller now, EndedBy S world record caller now
  replaced : ∀ newer older, world.store.WrittenAfter newer older →
    newer.name = older.name → ¬ S.foreign older.name →
      ∃ caller now, EndedBy S world older caller now ∧
        Relation.ReflTransGen S.clockMay now newer.object.writtenAt
  permitted : ∀ caller request, (caller, request) ∈ world.inFlight →
    Permitted S world caller request
  reads : ∀ read ∈ world.reads, read.seen <:+ world.store.written ∧ read.record ∈ read.seen
  deletions : ∀ deletion ∈ world.deletions, Justified S world deletion
  single : ∀ caller, world.deleteCount caller ≤ 1

/-- What one call may rely on. -/
structure Rely (caller : ι) (before after : World ι ρ) : Prop where
  grows : Grows before after
  reading : after.reading caller = before.reading caller
  verifiedAt : after.verifiedAt caller = before.verifiedAt caller
  deleteCount : after.deleteCount caller ≤ before.deleteCount caller

/-- Nothing that the ledger's facts are about has changed, except that requests
may have been withdrawn. -/
structure Unchanged (before after : World ι ρ) : Prop where
  store : after.store = before.store
  reading : after.reading = before.reading
  reads : after.reads = before.reads
  deletions : after.deletions = before.deletions
  inFlight : ∀ sent ∈ after.inFlight, sent ∈ before.inFlight
  deleteCount : ∀ caller, after.deleteCount caller ≤ before.deleteCount caller

variable {S} {world before after : World ι ρ} {caller : ι}

theorem Unchanged.grows (same : Unchanged before after) : Grows before after := by
  constructor
  · simp only [same.store, List.suffix_rfl]
  · intro caller now reading
    rwa [same.reading]
  · intro read member
    rwa [same.reads]
  · intro deletion member
    rwa [same.deletions]

theorem Unchanged.rely (same : Unchanged before after)
    (verifiedAt : after.verifiedAt caller = before.verifiedAt caller) :
    Rely caller before after :=
  ⟨same.grows, congrFun same.reading caller, verifiedAt, same.deleteCount caller⟩

theorem Rely.refl (caller : ι) (world : World ι ρ) : Rely caller world world :=
  ⟨.refl world, rfl, rfl, le_rfl⟩

theorem Rely.trans {middle : World ι ρ} (first : Rely caller before middle)
    (second : Rely caller middle after) : Rely caller before after where
  grows := first.grows.trans second.grows
  reading := second.reading.trans first.reading
  verifiedAt := second.verifiedAt.trans first.verifiedAt
  deleteCount := le_trans second.deleteCount first.deleteCount

namespace LedgerInvariant

theorem start (clock : DateTime) : LedgerInvariant S (World.start clock : World ι ρ) := by
  constructor <;> simp [World.start, World.deleteCount, Versioned.empty, Versioned.WrittenAfter]

variable {record : Write ι} {now : DateTime} {request : Request}

/-- A step that writes nothing only has to account for the current leases, readings,
open requests, reads and deletions. -/
theorem of_written_eq (invariant : LedgerInvariant S before) (grows : Grows before after)
    (written : after.store.written = before.store.written)
    (current : ∀ record, ¬ S.foreign record.name → before.store.IsCurrent record →
      after.store.IsCurrent record ∨ ∃ caller now, EndedBy S after record caller now)
    (readings : ∀ caller now, after.reading caller = some now →
      Relation.ReflTransGen S.clockMay now after.clock)
    (permitted : ∀ caller request, (caller, request) ∈ after.inFlight →
      Permitted S after caller request)
    (reads : ∀ read ∈ after.reads,
      read.seen <:+ after.store.written ∧ read.record ∈ read.seen)
    (deletions : ∀ deletion ∈ after.deletions,
      deletion ∈ before.deletions ∨ Justified S after deletion)
    (single : ∀ caller, after.deleteCount caller ≤ 1) : LedgerInvariant S after where
  readings := readings
  current_or_ended record member owned := by
    rw [written] at member
    rcases invariant.current_or_ended record member owned with
      isCurrent | ⟨caller, now, ended⟩
    · exact current record owned isCurrent
    · exact Or.inr ⟨caller, now, ended.grows grows⟩
  replaced newer older later sameName owned := by
    rw [Versioned.WrittenAfter, written] at later
    rcases invariant.replaced newer older later sameName owned with
      ⟨caller, now, ended, reached⟩
    exact ⟨caller, now, ended.grows grows, reached⟩
  permitted := permitted
  reads := reads
  deletions deletion member := by
    rcases deletions deletion member with earlier | justified
    · exact (invariant.deletions deletion earlier).grows grows
    · exact justified
  single := single

/-- A step that leaves the store and the deletions alone only has to account for
readings, open requests and reads. -/
theorem of_store_eq (invariant : LedgerInvariant S before) (grows : Grows before after)
    (store : after.store = before.store) (deletions : after.deletions = before.deletions)
    (readings : ∀ caller now, after.reading caller = some now →
      Relation.ReflTransGen S.clockMay now after.clock)
    (permitted : ∀ caller request, (caller, request) ∈ after.inFlight →
      Permitted S after caller request)
    (reads : ∀ read ∈ after.reads,
      read.seen <:+ after.store.written ∧ read.record ∈ read.seen)
    (single : ∀ caller, after.deleteCount caller ≤ 1) : LedgerInvariant S after := by
  refine invariant.of_written_eq grows (by rw [store]) ?_ readings permitted reads ?_ single
  · intro record _ current
    rw [store]
    exact Or.inl current
  · intro deletion member
    rw [deletions] at member
    exact Or.inl member

/-- The invariant does not depend on the continue tokens or on what the calls
have verified, and withdrawn requests do no harm. -/
theorem of_unchanged (invariant : LedgerInvariant S before) (same : Unchanged before after)
    (reached : Relation.ReflTransGen S.clockMay before.clock after.clock) :
    LedgerInvariant S after := by
  refine invariant.of_store_eq same.grows same.store same.deletions ?_ ?_ ?_ ?_
  · intro caller now reading
    rw [same.reading] at reading
    exact (invariant.readings caller now reading).trans reached
  · intro caller request member
    exact (invariant.permitted caller request (same.inFlight _ member)).grows same.grows
  · rw [same.reads, same.store]
    exact invariant.reads
  · intro caller
    exact le_trans (same.deleteCount caller) (invariant.single caller)

/-- A write under a name whose current lease, if the ledger owns the name, is
expired at the writer's reading. -/
theorem put {writer : Option ι} {name version : String} {lease : Lease}
    (invariant : LedgerInvariant S before) (fresh : before.store.Fresh version)
    (replaces : ∀ record, ¬ S.foreign name → before.store.IsCurrent record →
      record.name = name → ∃ caller now, writer = some caller ∧
        before.reading caller = some now ∧
          Replay.expired S.platform record.object.lease now = true) :
    LedgerInvariant S (before.put writer name version lease fresh) := by
  have grows : Grows before (before.put writer name version lease fresh) :=
    ⟨List.suffix_cons _ _, fun _ _ same => same, fun _ same => same, fun _ same => same⟩
  -- an earlier write under the name has ended, at the latest by this write
  have ended : ∀ record ∈ before.store.written, ¬ S.foreign record.name →
      record.name = name → ∃ caller now,
        EndedBy S (before.put writer name version lease fresh) record caller now ∧
          Relation.ReflTransGen S.clockMay now before.clock := by
    intro record member owned sameName
    rcases invariant.current_or_ended record member owned with current | ⟨caller, now, ended⟩
    · rw [sameName] at owned
      rcases replaces record owned current sameName with
        ⟨caller, now, rfl, reading, isExpired⟩
      refine ⟨caller, now, ⟨reading, isExpired, Or.inl ?_⟩,
        invariant.readings caller now reading⟩
      exact ⟨_, (Versioned.writtenAfter_write_iff fresh).mpr (Or.inl ⟨rfl, member⟩),
        sameName.symm, rfl⟩
    · exact ⟨caller, now, ended.grows grows, invariant.readings caller now ended.reading⟩
  constructor
  · exact invariant.readings
  · intro record member owned
    rcases List.mem_cons.mp member with rfl | member
    · exact Or.inl ((Versioned.isCurrent_write_iff fresh).mpr (Or.inl rfl))
    by_cases sameName : record.name = name
    · rcases ended record member owned sameName with ⟨caller, now, ended, _⟩
      exact Or.inr ⟨caller, now, ended⟩
    · rcases invariant.current_or_ended record member owned with current | ⟨caller, now, ended⟩
      · exact Or.inl ((Versioned.isCurrent_write_iff fresh).mpr (Or.inr ⟨sameName, current⟩))
      · exact Or.inr ⟨caller, now, ended.grows grows⟩
  · intro newer older written sameName owned
    rcases (Versioned.writtenAfter_write_iff fresh).mp written with ⟨rfl, member⟩ | written
    · exact ended older member owned sameName.symm
    · rcases invariant.replaced newer older written sameName owned with
        ⟨caller, now, ended, reached⟩
      exact ⟨caller, now, ended.grows grows, reached⟩
  · intro caller request member
    exact (invariant.permitted caller request member).grows grows
  · intro read member
    rcases invariant.reads read member with ⟨seen, present⟩
    exact ⟨seen.trans grows.written, present⟩
  · intro deletion member
    exact (invariant.deletions deletion member).grows grows
  · exact invariant.single

/-- A foreign client removes what it owns. -/
theorem foreignRemove {name : String} (invariant : LedgerInvariant S before)
    (isForeign : S.foreign name) :
    LedgerInvariant S { before with store := before.store.remove name } := by
  have grows : Grows before { before with store := before.store.remove name } :=
    ⟨List.suffix_rfl, fun _ _ same => same, fun _ same => same, fun _ same => same⟩
  refine invariant.of_written_eq grows rfl ?_ invariant.readings ?_ invariant.reads
    (fun _ => Or.inl) invariant.single
  · intro record owned current
    have different : record.name ≠ name := by
      rintro rfl
      exact owned isForeign
    exact Or.inl (Versioned.isCurrent_remove_iff.mpr ⟨different, current⟩)
  · intro caller request member
    exact (invariant.permitted caller request member).grows grows

/-- A DELETE that removes a current lease which its caller has read and found
expired. -/
theorem remove {url sent : String} {stored : Stored ι} (invariant : LedgerInvariant S before)
    (seen : SeenExpired S before caller url sent)
    (current : before.store.current url = some (sent, stored))
    (room : before.deleteCount caller = 0) :
    LedgerInvariant S (before.remove caller ⟨url, sent, stored⟩) := by
  have grows : Grows before (before.remove caller ⟨url, sent, stored⟩) :=
    ⟨List.suffix_rfl, fun _ _ same => same, fun _ same => same,
      fun _ member => List.mem_cons_of_mem _ member⟩
  rcases seen with ⟨now, reading, read, readMember, callerEq, nameEq, versionEq, isExpired⟩
  rcases invariant.reads read readMember with ⟨suffix, present⟩
  have isCurrent : before.store.IsCurrent ⟨url, sent, stored⟩ := current
  -- the version that was read is the version that is removed
  have recordEq : read.record = ⟨url, sent, stored⟩ :=
    Versioned.eq_of_version_eq (suffix.subset present) isCurrent.mem versionEq
  rw [recordEq] at isExpired present
  refine invariant.of_written_eq grows rfl ?_ invariant.readings ?_ invariant.reads ?_ ?_
  · intro record owned stillCurrent
    by_cases sameName : record.name = url
    · have same : record = ⟨url, sent, stored⟩ :=
        stillCurrent.eq_of_current current sameName
      subst same
      exact Or.inr ⟨caller, now, reading, isExpired,
        Or.inr ⟨_, List.mem_cons_self, rfl, rfl⟩⟩
    · exact Or.inl (Versioned.isCurrent_remove_iff.mpr ⟨sameName, stillCurrent⟩)
  · intro someone request member
    exact (invariant.permitted someone request member).grows grows
  · intro deletion member
    rcases List.mem_cons.mp member with rfl | member
    · rcases suffix with ⟨between, split⟩
      exact Or.inr ⟨now, reading, isExpired, read, readMember, callerEq, recordEq, between,
        split.symm, isCurrent.untouched split.symm present⟩
    · exact Or.inl member
  · intro someone
    have bound := invariant.single someone
    by_cases same : caller = someone
    · subst same
      simp only [World.deleteCount, World.remove, List.countP_cons] at room bound ⊢
      simp only [decide_true, if_true]
      omega
    · simpa [World.deleteCount, World.remove, same] using bound

/-- A permitted request takes effect. -/
theorem effect (invariant : LedgerInvariant S before)
    (permitted : Permitted S before caller request)
    (room : before.deleteCount caller + request.deletes ≤ 1)
    (effect : TakesEffect caller before request after) : LedgerInvariant S after := by
  cases effect with
  | post version fresh inTime absent =>
      refine invariant.put fresh ?_
      intro record _ current sameName
      rw [Versioned.IsCurrent, sameName, absent] at current
      contradiction
  | put version fresh inTime sentVersion current =>
      refine invariant.put fresh ?_
      intro record _ stillCurrent sameName
      rcases permitted _ sentVersion with
        ⟨now, reading, read, member, _, _, versionEq, isExpired⟩
      rcases invariant.reads read member with ⟨suffix, present⟩
      have same := stillCurrent.eq_of_current current sameName
      subst same
      rw [Versioned.eq_of_version_eq (suffix.subset present) stillCurrent.mem versionEq]
        at isExpired
      exact ⟨caller, now, rfl, reading, isExpired⟩
  | delete inTime current =>
      refine invariant.remove permitted current ?_
      rw [Request.deletes] at room
      omega

end LedgerInvariant

theorem TakesEffect.deleteCount {request : Request} (someone : ι)
    (effect : TakesEffect caller before request after) :
    after.deleteCount someone =
      before.deleteCount someone + if caller = someone then request.deletes else 0 := by
  cases effect with
  | post | put => simp [World.deleteCount, World.put, Request.deletes]
  | delete =>
      simp only [World.deleteCount, World.remove, List.countP_cons, Request.deletes,
        decide_eq_true_eq]
      omega

theorem Grows.readClock (first : before.reading caller = none) :
    Grows before (before.readClock caller) := by
  refine ⟨List.suffix_rfl, ?_, fun _ same => same, fun _ same => same⟩
  intro someone now reading
  have different : someone ≠ caller := by
    rintro rfl
    rw [first] at reading
    contradiction
  rwa [World.readClock_reading_of_ne before different]

theorem LedgerInvariant.observe {record : Write ι} (invariant : LedgerInvariant S before)
    (member : record ∈ before.store.written) :
    LedgerInvariant S (before.observe caller record) := by
  have grows := Grows.observe before caller record
  refine invariant.of_store_eq grows rfl rfl invariant.readings ?_ ?_ invariant.single
  · intro caller request sent
    exact (invariant.permitted caller request sent).grows grows
  · intro read readMember
    rcases List.mem_cons.mp readMember with rfl | readMember
    · exact ⟨List.suffix_rfl, member⟩
    · exact invariant.reads read readMember

theorem LedgerInvariant.readClock (invariant : LedgerInvariant S before)
    (first : before.reading caller = none) :
    LedgerInvariant S (before.readClock caller) := by
  have grows := Grows.readClock first
  refine invariant.of_store_eq grows rfl rfl ?_ ?_ invariant.reads invariant.single
  · intro someone now reading
    by_cases same : someone = caller
    · subst same
      rw [World.readClock_reading_self, Option.some.injEq] at reading
      subst reading
      exact .refl
    · rw [World.readClock_reading_of_ne before same] at reading
      exact invariant.readings someone now reading
  · intro caller request sent
    exact (invariant.permitted caller request sent).grows grows

theorem World.deleteCount_submit (world : World ι ρ) (caller someone : ι) (request : Request) :
    (world.submit caller request).deleteCount someone =
      world.deleteCount someone + if caller = someone then request.deletes else 0 := by
  simp only [deleteCount, submit, List.map_cons, List.sum_cons]
  omega

theorem LedgerInvariant.submit {request : Request} (invariant : LedgerInvariant S before)
    (permitted : Permitted S before caller request)
    (room : before.deleteCount caller + request.deletes ≤ 1) :
    LedgerInvariant S (before.submit caller request) := by
  have grows := Grows.submit before caller request
  refine invariant.of_store_eq grows rfl rfl invariant.readings ?_ invariant.reads ?_
  · intro someone sent member
    rcases List.mem_cons.mp member with same | member
    · cases same
      exact permitted.grows grows
    · exact (invariant.permitted someone sent member).grows grows
  · intro someone
    have bound := invariant.single someone
    rw [World.deleteCount_submit]
    split
    · rename_i same
      subst same
      exact room
    · exact bound

end Invariant

end OidcExchange.Replay
