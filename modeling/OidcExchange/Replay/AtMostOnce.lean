import OidcExchange.Process.Sequential
import OidcExchange.Replay.Calls

/-!
# Concurrent uses of the ledger

What holds in every run of any number of `use_once` calls, whatever the clock
does and however the requests interleave.  Two calls can succeed for one replay
key only if some call carries a reading at which the earlier lease was over, and
cleanup removes nothing but expired leases of the ledger.
-/

namespace OidcExchange.Replay

open OidcExchange.Process OidcExchange.Store

variable {ι ρ : Type}

/-- The ledger without a caller's own operations, on an arbitrary clock. -/
def anyClock (platform : Platform) (replica : ι → ρ) (foreign : String → Prop) :
    Setting ι ρ fun op : Empty => op.elim where
  platform := platform
  replica := replica
  foreign := foreign
  clockMay _ _ := True
  answers _ op := op.elim
  verifies _ := false

/-- One `use_once` call for each task. -/
def calls (platform : Platform) (call : ι → String × Int) (task : ι) :
    LedgerProgram (fun op : Empty => op.elim) (Except ReplayError Unit) :=
  useOnce platform (call task).1 (call task).2

/-- What is relied on for the names and the timestamps of leases: an item URL
addresses the lease of that name, nobody else writes it, and a timestamp is read
back up to the microsecond it was printed with. -/
structure Faithful (platform : Platform) (foreign : String → Prop) : Prop where
  address : ∀ jti, platform.itemUrl (leaseName platform jti) = some (leaseName platform jti)
  owned : ∀ jti, ¬ foreign (leaseName platform jti)
  timestamps : ∀ instant parsed,
    platform.parseFromRfc3339 (platform.toRfc3339Micros instant) = some parsed →
      parsed = instant.truncateMicros

/-- The digests of `a` and of `b`. -/
def sampleSha256 : List UInt8 → List UInt8
  | [97] =>
      [0xca, 0x97, 0x81, 0x12, 0xca, 0x1b, 0xbd, 0xca, 0xfa, 0xc2, 0x31, 0xb3, 0x9a, 0x23, 0xdc,
        0x4d, 0xa7, 0x86, 0xef, 0xf8, 0x14, 0x7c, 0x4f, 0x72, 0xb9, 0x80, 0x77, 0x85, 0xaf, 0xee,
        0x48, 0xbb]
  | _ =>
      [0x3e, 0x23, 0xe8, 0x16, 0x00, 0x39, 0x59, 0x4a, 0x33, 0x89, 0x4f, 0x65, 0x64, 0xe1, 0xb1,
        0x34, 0x8b, 0xbd, 0x7a, 0x00, 0x88, 0xd4, 0x2c, 0x4a, 0xcb, 0x73, 0xee, 0xae, 0xd5, 0x9c,
        0x00, 0x9d]

/-- A platform that knows two replay keys and the seconds 900 and 1400. -/
def samplePlatform : Platform where
  sha256 := sampleSha256
  toRfc3339Micros instant :=
    if instant = .ofSeconds 900 then "1970-01-01T00:15:00.000000Z"
    else if instant = .ofSeconds 1400 then "1970-01-01T00:23:20.000000Z"
    else ""
  parseFromRfc3339 text :=
    if text = "1970-01-01T00:15:00.000000Z" then some (.ofSeconds 900)
    else if text = "1970-01-01T00:23:20.000000Z" then some (.ofSeconds 1400)
    else none
  itemUrl := some

/-- The lease of the key `a`, prepared at 900 s for the expiry 1000 s. -/
def sampleLease : Lease where
  apiVersion := "coordination.k8s.io/v1"
  kind := "Lease"
  metadata :=
    { name := leaseName samplePlatform "a"
      resourceVersion := none
      labels := AList.singleton ledgerLabel ledgerVersion }
  spec :=
    { holderIdentity := ledgerHolder
      leaseDurationSeconds := 400
      acquireTime := "1970-01-01T00:15:00.000000Z"
      renewTime := "1970-01-01T00:15:00.000000Z" }

theorem faithful_samplePlatform : Faithful samplePlatform fun _ => False := by
  refine ⟨fun _ => rfl, fun _ => id, ?_⟩
  intro instant parsed
  simp only [samplePlatform]
  by_cases first : instant = .ofSeconds 900
  · subst first
    simp only [↓reduceIte, Option.some.injEq]
    rintro rfl
    rfl
  by_cases second : instant = .ofSeconds 1400
  · subst second
    rw [if_neg first]
    intro read
    have same : some (DateTime.ofSeconds 1400) = some parsed := read
    cases same
    rfl
  · simp [first, second]

section Uses

variable {X : Type} {other : X → Type} {S : Setting ι ρ other} {world : World ι ρ}
  {first second : ι} {jti : String} {expiresAt : Int}

/-- Two writes of one name: `older` by `earlier`, `newer` by `later`. -/
structure WrittenBy (world : World ι ρ) (name : String) (earlier later : ι)
    (older newer : Write ι) : Prop where
  order : world.store.WrittenAfter newer older
  olderName : older.name = name
  newerName : newer.name = name
  olderWriter : older.object.writer = some earlier
  newerWriter : newer.object.writer = some later

/-- A recorded use has written the lease of its key. -/
theorem Used.record (faithful : Faithful S.platform S.foreign)
    (used : Used S first jti expiresAt world) :
    ∃ record ∈ world.store.written, record.name = leaseName S.platform jti ∧
      record.object.writer = some first ∧
      (∀ instant, leaseExpiry S.platform record.object.lease = some instant →
        DateTime.ofSeconds (expiresAt + 299) ≤ instant) ∧
      ∀ second, world.verifiedAt first = some second →
        record.object.writtenAt < DateTime.ofSeconds (second + 269) := by
  rcases used with ⟨now, lease, _, prepared, name, version, nameEq, record, member,
    recordName, writer, leaseEq, inTime⟩
  refine ⟨record, member, ?_, writer, ?_, inTime⟩
  · rw [(preparedLease_eq_ok prepared).1, faithful.address, Option.some.injEq] at nameEq
    rw [recordName]
    rcases nameEq with nameEq | nameEq
    · exact nameEq
    · exact nameEq.symm
  · intro instant ends
    rw [leaseEq] at ends
    exact le_leaseExpiry faithful.timestamps prepared ends

/-- The lease that `earlier` wrote for an assertion was over before `later` wrote
its own. -/
def Outlived (S : Setting ι ρ other) (world : World ι ρ) (name : String) (expiresAt : Int)
    (earlier later : ι) : Prop :=
  ∃ older newer, WrittenBy world name earlier later older newer ∧
    ∃ instant, leaseExpiry S.platform older.object.lease = some instant ∧
      DateTime.ofSeconds (expiresAt + 299) ≤ instant ∧
      (∃ caller now, EndedBy S world older caller now ∧ instant ≤ now ∧
        Relation.ReflTransGen S.clockMay now newer.object.writtenAt) ∧
      ∀ second, world.verifiedAt later = some second →
        newer.object.writtenAt < DateTime.ofSeconds (second + 269)

variable [DecidableEq ι]

/-- Of two uses of one key, the earlier one's lease was over before the later
one wrote. -/
theorem outlived_of_used {otherExpiresAt : Int} (faithful : Faithful S.platform S.foreign)
    (invariant : LedgerInvariant S world) (different : first ≠ second)
    (firstUse : Used S first jti expiresAt world)
    (secondUse : Used S second jti otherExpiresAt world) :
    Outlived S world (leaseName S.platform jti) expiresAt first second ∨
      Outlived S world (leaseName S.platform jti) otherExpiresAt second first := by
  rcases firstUse.record faithful with
    ⟨record, member, recordName, writer, expiry, inTime⟩
  rcases secondUse.record faithful with
    ⟨record', member', recordName', writer', expiry', inTime'⟩
  have distinct : record ≠ record' := by
    rintro rfl
    exact different (Option.some.inj (writer.symm.trans writer'))
  have owned := faithful.owned jti
  rcases Versioned.writtenAfter_total member member' distinct with order | order
  · rcases invariant.replaced record record' order (recordName.trans recordName'.symm)
      (by rwa [recordName']) with ⟨caller, now, ended, reached⟩
    rcases leaseExpiry_of_expired ended.expired with ⟨instant, ends, le⟩
    exact Or.inr ⟨record', record, ⟨order, recordName', recordName, writer', writer⟩,
      instant, ends, expiry' instant ends, ⟨caller, now, ended, le, reached⟩, inTime⟩
  · rcases invariant.replaced record' record order (recordName'.trans recordName.symm)
      (by rwa [recordName]) with ⟨caller, now, ended, reached⟩
    rcases leaseExpiry_of_expired ended.expired with ⟨instant, ends, le⟩
    exact Or.inl ⟨record, record', ⟨order, recordName, recordName', writer, writer'⟩,
      instant, ends, expiry instant ends, ⟨caller, now, ended, le, reached⟩, inTime'⟩

end Uses

section Runs

variable [DecidableEq ι] [DecidableEq ρ] {platform : Platform} {replica : ι → ρ}
  {foreign : String → Prop}
  {call : ι → String × Int} {clock : DateTime}

/-- The pools that concurrent `use_once` calls can reach. -/
def Reached (platform : Platform) (replica : ι → ρ) (foreign : String → Prop)
    (call : ι → String × Int) (clock : DateTime)
    (config : Config ι (Answer fun op : Empty => op.elim) (World ι ρ)
      (Except ReplayError Unit)) : Prop :=
  Steps (api (anyClock platform replica foreign))
    (.initial (.start clock) (calls platform call)) config

/-- The call for `jti` and `expiresAt` has returned `Ok`. -/
def Accepted (call : ι → String × Int)
    (config : Config ι (Answer fun op : Empty => op.elim) (World ι ρ)
      (Except ReplayError Unit)) (task : ι) (jti : String) (expiresAt : Int) : Prop :=
  call task = (jti, expiresAt) ∧ config.tasks task = some (.done (.ok ()))

variable {config source target : Config ι (Answer fun op : Empty => op.elim) (World ι ρ)
  (Except ReplayError Unit)}

/-- In every reachable pool the invariant holds and every accepted call has used
its key. -/
theorem used_of_reached (reached : Reached platform replica foreign call clock config) :
    LedgerInvariant (anyClock platform replica foreign) config.shared ∧
      ∀ task jti expiresAt, Accepted call config task jti expiresAt →
        Used (anyClock platform replica foreign) task jti expiresAt config.shared := by
  let posts : ι → World ι ρ → Except ReplayError Unit → Prop := fun task world result =>
    result = .ok () →
      Used (anyClock platform replica foreign) task (call task).1 (call task).2 world
  have start : LedgerInvariant (anyClock platform replica foreign) (.start clock) :=
    .start clock
  have safe : ∀ task, (discipline (anyClock platform replica foreign)).Safe task (posts task)
      (calls platform call task) (.start clock) := by
    intro task
    have framed : Framed (ρ := ρ) task fun _ => True := fun _ _ _ _ => trivial
    apply (useOnce_safe (S := anyClock platform replica foreign) _ _ framed
      (fun _ _ => trivial) trivial rfl rfl).mono
    intro world result used ok
    exact (used ok).2
  have stable : ∀ task,
      (discipline (anyClock platform replica foreign)).Stable task (posts task) := by
    intro task before after result moved used ok
    exact framed_used.kept before after moved (used ok)
  refine ⟨((Discipline.Holds.initial start safe).steps reached).invariant, ?_⟩
  rintro task jti expiresAt ⟨callEq, returned⟩
  have used := Discipline.settled_of_steps stable start safe reached task _ returned rfl
  rwa [callEq] at used

/-- At most one use of a key per lease, whatever the clocks do.  Of two accepted
calls for one key, the one that wrote first wrote a lease that some call's
reading has outlived; so if no reading reaches 299 s after its expiry, there is
no second accepted call. -/
theorem use_once_at_most_once (faithful : Faithful platform foreign)
    (reached : Reached platform replica foreign call clock config) (jti : String) :
    (∀ first second firstExpiry secondExpiry, first ≠ second →
      Accepted call config first jti firstExpiry →
      Accepted call config second jti secondExpiry →
        ∃ earlier later, (earlier = first ∧ later = second ∨ earlier = second ∧ later = first) ∧
          ∃ older newer,
            WrittenBy config.shared (leaseName platform jti) earlier later older newer ∧
            ∃ expiry, leaseExpiry platform older.object.lease = some expiry ∧
              ∃ caller now,
                EndedBy (anyClock platform replica foreign) config.shared older caller now ∧
                  expiry ≤ now) ∧
    ∀ first firstExpiry, Accepted call config first jti firstExpiry →
      (∀ second secondExpiry older newer, Accepted call config second jti secondExpiry →
        ¬ WrittenBy config.shared (leaseName platform jti) second first older newer) →
      (∀ caller now, config.shared.reading caller = some now →
        now < DateTime.ofSeconds (firstExpiry + 299)) →
      ∀ second secondExpiry, Accepted call config second jti secondExpiry →
        second = first := by
  rcases used_of_reached reached with ⟨invariant, used⟩
  constructor
  · intro first second firstExpiry secondExpiry different firstOk secondOk
    rcases outlived_of_used faithful invariant different (used _ _ _ firstOk)
      (used _ _ _ secondOk) with
        ⟨older, newer, written, expiry, ends, _, ⟨caller, now, ended, le, _⟩, _⟩ |
        ⟨older, newer, written, expiry, ends, _, ⟨caller, now, ended, le, _⟩, _⟩
    · exact ⟨first, second, Or.inl ⟨rfl, rfl⟩, older, newer, written, expiry, ends, caller,
        now, ended, le⟩
    · exact ⟨second, first, Or.inr ⟨rfl, rfl⟩, older, newer, written, expiry, ends, caller,
        now, ended, le⟩
  · intro first firstExpiry firstOk wroteFirst below second secondExpiry secondOk
    by_contra different
    rcases outlived_of_used faithful invariant (Ne.symm different) (used _ _ _ firstOk)
      (used _ _ _ secondOk) with
        ⟨older, newer, _, expiry, _, bound, ⟨caller, now, ended, le, _⟩, _⟩ |
        ⟨older, newer, written, _⟩
    · have reading := below caller now ended.reading
      rw [DateTime.lt_iff] at reading
      rw [DateTime.le_iff] at bound le
      omega
    · exact wroteFirst second secondExpiry older newer secondOk written

/-- Two uses of the key `a`, the second after the first lease has ended. -/
def sampleUses : Bool → String × Int
  | false => ("a", 1000)
  | true => ("a", 1200)

/-- The run in which both uses are accepted one after the other. -/
theorem use_once_at_most_once_sample :
    ∃ config, Reached samplePlatform (fun _ : Bool => ()) (fun _ => False) sampleUses
        (.ofSeconds 900) config ∧
      Accepted sampleUses config false "a" 1000 ∧ Accepted sampleUses config true "a" 1200 ∧
      ∃ older expiry caller now, older ∈ config.shared.store.written ∧
        leaseExpiry samplePlatform older.object.lease = some expiry ∧
        config.shared.reading caller = some now ∧ expiry ≤ now := by
  have run : ∃ config, Reached samplePlatform (fun _ : Bool => ()) (fun _ => False) sampleUses
        (.ofSeconds 900) config ∧
      Accepted sampleUses config false "a" 1000 ∧ Accepted sampleUses config true "a" 1200 := by
    -- the first call creates the lease at 900 s; its cleanup gets no page
    refine Steps.reach_perform false rfl (DateTime.ofSeconds 900) ⟨rfl, rfl⟩ ?_
    refine Steps.reach_perform false rfl (some "token") rfl ?_
    refine Steps.reach_perform false rfl (some 201)
      (Or.inl ⟨rfl, .post "1" (Versioned.fresh_of_notMem (by decide))
        (fun _ verified => nomatch verified) rfl⟩) ?_
    refine Steps.reach_perform false rfl none ⟨rfl, rfl⟩ ?_
    refine Steps.reach_perform false rfl (some "token") rfl ?_
    refine Steps.reach_perform false rfl none rfl ?_
    refine Steps.reach_perform false rfl () rfl ?_
    -- the second call finds it at 1400 s and reclaims it
    refine Steps.reach_environment (.clock (.ofSeconds 1400) trivial) ?_
    refine Steps.reach_perform true rfl (DateTime.ofSeconds 1400) ⟨rfl, rfl⟩ ?_
    refine Steps.reach_perform true rfl (some "token") rfl ?_
    refine Steps.reach_perform true rfl (some 409) (Or.inr (Or.inl ⟨rfl, rfl⟩)) ?_
    refine Steps.reach_perform true rfl (some "token") rfl ?_
    refine Steps.reach_perform true rfl (some (200, some _))
      (Or.inl ⟨_, List.mem_cons_self, rfl, some "1", Or.inr rfl, rfl, rfl⟩) ?_
    refine Steps.reach_perform true rfl (some "token") rfl ?_
    refine Steps.reach_perform true rfl (some 200)
      (Or.inl ⟨rfl, .put "2" (Versioned.fresh_of_notMem (by decide))
        (fun _ verified => nomatch verified) rfl rfl⟩) ?_
    refine Steps.reach_perform true rfl none ⟨rfl, rfl⟩ ?_
    refine Steps.reach_perform true rfl (some "token") rfl ?_
    refine Steps.reach_perform true rfl none rfl ?_
    refine Steps.reach_perform true rfl () rfl ?_
    exact ⟨_, .refl _, ⟨rfl, rfl⟩, ⟨rfl, rfl⟩⟩
  rcases run with ⟨config, reached, firstOk, secondOk⟩
  rcases (use_once_at_most_once faithful_samplePlatform reached "a").1 false true 1000 1200
    (by decide) firstOk secondOk with
      ⟨_, _, _, older, newer, written, expiry, ends, caller, now, ended, le⟩
  refine ⟨config, reached, firstOk, secondOk, older, expiry, caller, now, ?_, ends,
    ended.reading, le⟩
  rcases written.order with ⟨later, earlier, split, _⟩
  simp [split]

/-- A step that empties a name is a foreign client's, or it is recorded as the
deletion of a call. -/
theorem removed_of_step {label : Label ι (Answer fun op : Empty => op.elim)}
    {name version : String} {stored : Stored ι}
    (step : Step (api (anyClock platform replica foreign)) source label target)
    (present : source.shared.store.current name = some (version, stored))
    (gone : target.shared.store.current name = none) :
    (label = .environment ∧ foreign name ∧
      target.shared.deletions = source.shared.deletions) ∨
    ∃ caller, target.shared.deletions =
      ⟨caller, ⟨name, version, stored⟩, source.shared.store.written⟩ ::
        source.shared.deletions := by
  have unchanged : ∀ {after : World ι ρ}, after.store = source.shared.store →
      after.store.current name ≠ none := by
    intro after storeEq
    simp [storeEq, present]
  cases step with
  | @perform caller op next answer after running effect =>
      refine Or.inr ⟨caller, ?_⟩
      cases op with
      | send request =>
          rcases effect with ⟨-, effect⟩ | ⟨-, rfl⟩ | ⟨-, -, rfl⟩
          · exact effect.removed present gone
          · exact absurd gone (unchanged rfl)
          · exact absurd gone (unchanged rfl)
      | get url =>
          rcases effect with ⟨_, -, -, -, -, -, rfl⟩ | ⟨-, rfl⟩
          · exact absurd gone (unchanged rfl)
          · exact absurd gone (unchanged rfl)
      | utcNow | cleanupContinue =>
          obtain ⟨-, rfl⟩ := effect
          exact absurd gone (unchanged rfl)
      | credential | list _ | setCleanupContinue _ =>
          obtain rfl := effect
          exact absurd gone (unchanged rfl)
      | other op => exact op.elim
  | cancel running dropped =>
      rcases dropped with rfl | ⟨_, -, rfl⟩
      · exact absurd gone (unchanged rfl)
      · exact absurd gone (unchanged rfl)
  | environment moved =>
      cases moved with
      | clock instant may => exact absurd gone (unchanged rfl)
      | deliver split effect => exact Or.inr ⟨_, effect.removed present gone⟩
      | foreignWrite isForeign fresh =>
          exact absurd gone (Versioned.current_write_ne_none fresh (by simp [present]))
      | @foreignRemove removed isForeign =>
          by_cases same : name = removed
          · subst same
            exact Or.inl ⟨rfl, isForeign, rfl⟩
          · rw [Versioned.current_remove_of_ne same, present] at gone
            contradiction

/-- What cleanup removes, it removes rightly.  Whenever a step empties a name and
no foreign client did it, the step is the DELETE of a call whose clock reading
the stored lease had expired by; the lease was the ledger's own; it is the very
version that the call had read, and the name was not written in between.  No call
deletes twice. -/
theorem cleanup_removes_expired {label : Label ι (Answer fun op : Empty => op.elim)}
    (reached : Reached platform replica foreign call clock source)
    (step : Step (api (anyClock platform replica foreign)) source label target) :
    (∀ name version stored,
      source.shared.store.current name = some (version, stored) →
      target.shared.store.current name = none →
        (label = .environment ∧ foreign name ∧
          target.shared.deletions = source.shared.deletions) ∨
        ∃ caller now,
          target.shared.deletions =
            ⟨caller, ⟨name, version, stored⟩, source.shared.store.written⟩ ::
              source.shared.deletions ∧
          target.shared.reading caller = some now ∧
          ownedLedgerLease stored.lease = true ∧
          expired platform stored.lease now = true ∧
          ∃ read ∈ target.shared.reads, read.caller = caller ∧
            read.record = ⟨name, version, stored⟩ ∧
            ∃ between, source.shared.store.written = between ++ read.seen ∧
              ∀ newer ∈ between, newer.name ≠ name) ∧
    ∀ caller,
      target.shared.deletions.countP (fun deletion => deletion.caller = caller) ≤ 1 := by
  have invariant := (used_of_reached (reached.tail step)).1
  constructor
  · intro name version stored present gone
    rcases removed_of_step step present gone with isForeign | ⟨caller, logged⟩
    · exact Or.inl isForeign
    · rcases invariant.deletions _ (logged ▸ List.mem_cons_self) with
        ⟨now, reading, isExpired, read, member, callerEq, recordEq, between, split, untouched⟩
      exact Or.inr ⟨caller, now, logged, reading, (expired_iff.mp isExpired).1, isExpired,
        read, member, callerEq, recordEq, between, split, untouched⟩
  · intro caller
    have bound := invariant.single caller
    rw [World.deleteCount] at bound
    omega

/-- A use of the key `a`, and one of `b` after the lease of `a` has ended. -/
def sampleCleanup : Bool → String × Int
  | false => ("a", 1000)
  | true => ("b", 1500)

/-- The run in which the cleanup of the second call removes the lease of the
first. -/
theorem cleanup_removes_expired_sample :
    ∃ source label target version stored now,
      Reached samplePlatform (fun _ : Bool => ()) (fun _ => False) sampleCleanup
        (.ofSeconds 900) source ∧
      Step (api (anyClock samplePlatform (fun _ : Bool => ()) fun _ => False)) source label
        target ∧
      source.shared.store.current (leaseName samplePlatform "a") = some (version, stored) ∧
      target.shared.store.current (leaseName samplePlatform "a") = none ∧
      target.shared.reading true = some now ∧ expired samplePlatform stored.lease now = true := by
  have run : ∃ source, Reached samplePlatform (fun _ : Bool => ()) (fun _ => False)
        sampleCleanup (.ofSeconds 900) source ∧
      ∃ version stored,
        source.shared.store.current (leaseName samplePlatform "a") = some (version, stored) ∧
        ∃ label target,
          Step (api (anyClock samplePlatform (fun _ : Bool => ()) fun _ => False)) source label
            target ∧
          target.shared.store.current (leaseName samplePlatform "a") = none ∧
          target.shared.deletions.map Deletion.caller = [true] := by
    refine Steps.reach_perform false rfl (DateTime.ofSeconds 900) ⟨rfl, rfl⟩ ?_
    refine Steps.reach_perform false rfl (some "token") rfl ?_
    refine Steps.reach_perform false rfl (some 201)
      (Or.inl ⟨rfl, .post "1" (Versioned.fresh_of_notMem (by decide))
        (fun _ verified => nomatch verified) rfl⟩) ?_
    refine Steps.reach_environment (.clock (.ofSeconds 1400) trivial) ?_
    refine Steps.reach_perform true rfl (DateTime.ofSeconds 1400) ⟨rfl, rfl⟩ ?_
    refine Steps.reach_perform true rfl (some "token") rfl ?_
    refine Steps.reach_perform true rfl (some 201)
      (Or.inl ⟨rfl, .post "2" (Versioned.fresh_of_notMem (by decide))
        (fun _ verified => nomatch verified) rfl⟩) ?_
    -- the page shows the expired lease, the item request confirms it
    refine Steps.reach_perform true rfl none ⟨rfl, rfl⟩ ?_
    refine Steps.reach_perform true rfl (some "token") rfl ?_
    refine Steps.reach_perform true rfl (some (200, some ⟨[sampleLease], ""⟩)) rfl ?_
    refine Steps.reach_perform true rfl () rfl ?_
    refine Steps.reach_perform true rfl (some "token") rfl ?_
    refine Steps.reach_perform true rfl (some (200, some _))
      (Or.inl ⟨_, List.mem_cons_of_mem _ List.mem_cons_self, rfl, some "1", Or.inr rfl, rfl,
        rfl⟩) ?_
    refine Steps.reach_perform true rfl (some "token") rfl ?_
    refine ⟨_, .refl _, "1", _, rfl, ?_⟩
    exact Step.exists_perform true rfl (some 200)
      (Or.inl ⟨rfl, .delete (fun _ verified => nomatch verified) rfl⟩) ⟨rfl, rfl⟩
  rcases run with ⟨source, reached, version, stored, present, label, target, step, gone, callers⟩
  rcases (cleanup_removes_expired reached step).1 _ _ _ present gone with
    ⟨_, isForeign, _⟩ | ⟨caller, now, logged, reading, _, isExpired, _⟩
  · exact isForeign.elim
  · have callerEq : caller = true := by
      rw [logged, List.map_cons, List.cons.injEq] at callers
      exact callers.1
    subst callerEq
    exact ⟨source, label, target, version, stored, now, reached, step, present, gone, reading,
      isExpired⟩

end Runs

end OidcExchange.Replay
