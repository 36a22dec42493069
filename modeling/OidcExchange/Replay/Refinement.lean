import Mathlib.Data.Fintype.EquivFin
import OidcExchange.Process.Sequential
import OidcExchange.Replay.AtMostOnce

/-!
# The abstract ledger

What the ledger is for: it remembers, for every replay key, when its last
accepted use runs out, and never forgets.  Used sequentially against a server
that answers every request, the Kubernetes ledger gives the results of the
abstract one, with or without cleanup and whatever the pages of its lists show.

Deleted leases make the two systems differ: an entry whose lease is gone is one
that has run out, and it stays run out because the clock does not go back.
-/

namespace OidcExchange.Replay

open OidcExchange.Process OidcExchange.Store

/-- The end of the last accepted use of each lease name; `some none` is a use
that never runs out. -/
abbrev Entries :=
  String → Option (Option DateTime)

/-- The end of the use that a lease records.  A lease without a positive duration
or without a readable renewal instant never ends. -/
def useEnd (platform : Platform) (lease : Lease) : Option DateTime :=
  if 0 < lease.spec.leaseDurationSeconds then leaseExpiry platform lease else none

/-- The entry has run out. -/
def ranOut (expiry : Option DateTime) (now : DateTime) : Bool :=
  match expiry with
  | none => false
  | some instant => decide (instant ≤ now)

/-- One use of the abstract ledger. -/
def abstractUse (platform : Platform) (entries : Entries) (now : DateTime) (jti : String)
    (expiresAt : Int) : Except ReplayError Unit × Entries :=
  match preparedLease platform jti expiresAt now with
  | .error _ => (.error .unavailable, entries)
  | .ok lease =>
      let accepted := Function.update entries (leaseName platform jti)
        (some (useEnd platform lease))
      match entries (leaseName platform jti) with
      | none => (.ok (), accepted)
      | some expiry =>
          if ranOut expiry now then (.ok (), accepted) else (.error .replayed, entries)

/-- The results of a sequence of uses, each with its clock reading. -/
def abstractUses (platform : Platform) :
    Entries → List (DateTime × String × Int) → List (Except ReplayError Unit)
  | _, [] => []
  | entries, (now, jti, expiresAt) :: uses =>
      let (result, next) := abstractUse platform entries now jti expiresAt
      result :: abstractUses platform next uses

theorem expired_iff_ranOut {platform : Platform} {lease : Lease} {now : DateTime} :
    expired platform lease now = true ↔
      ownedLedgerLease lease = true ∧ ranOut (useEnd platform lease) now = true := by
  rw [expired_iff, useEnd, leaseExpiry]
  by_cases positive : 0 < lease.spec.leaseDurationSeconds
  · cases parsed : platform.parseFromRfc3339 lease.spec.renewTime with
    | none => simp [positive, ranOut]
    | some renewedAt => simp [positive, ranOut]
  · simp [positive, ranOut]

theorem ranOut_mono {expiry : Option DateTime} {now later : DateTime}
    (elapsed : ranOut expiry now = true) (le : now ≤ later) : ranOut expiry later = true := by
  cases expiry with
  | none => contradiction
  | some instant =>
      simp only [ranOut, decide_eq_true_eq, DateTime.le_iff] at elapsed le ⊢
      omega

section Server

/-- The answers of a server that does what it is asked whenever it can, and says
whether it could. -/
def Answered (before : World Unit Unit) :
    (op : Op Empty) → Answer (fun op : Empty => op.elim) op → Prop
  | .credential, answer => ∃ text, answer = some text ∧ Text.isBlank text = false
  | .send (.post lease), answer =>
      answer = some 201 ∨ answer = some 409 ∧ before.store.current lease.metadata.name ≠ none
  | .send (.put url lease), answer =>
      answer = some 200 ∨ (answer = some 404 ∨ answer = some 409) ∧
        ∀ sent stored, lease.metadata.resourceVersion = some sent →
          before.store.current url ≠ some (sent, stored)
  | .send (.delete url sent), answer =>
      answer = some 200 ∨ (answer = some 404 ∨ answer = some 409) ∧
        ∀ stored, before.store.current url ≠ some (sent, stored)
  | .get url, answer =>
      match before.store.current url with
      | some (version, stored) =>
          answer = some (200, some (stored.lease.withResourceVersion (some version)))
      | none => ∃ body, answer = some (404, body)
  | _, _ => True

/-- The API for one user at a time.  Versions are never empty; the pages of a
list remain arbitrary. -/
def exactApi (platform : Platform) :
    Machine Unit (Answer fun op : Empty => op.elim) (World Unit Unit) where
  perform task before op answer after :=
    perform (anyClock platform (fun _ : Unit => ()) fun _ => False) task before op answer after ∧
      Answered before op answer ∧
        ∀ record ∈ after.store.written, record ∈ before.store.written ∨ record.version ≠ ""
  cancel _ _ _ _ := False
  environment _ _ := False

/-- The store agrees with the abstract entries: a stored lease carries its entry,
and the entry of an absent lease has run out. -/
structure Agrees (platform : Platform) (entries : Entries) (world : World Unit Unit) :
    Prop where
  stored : ∀ name version stored, world.store.current name = some (version, stored) →
    entries name = some (useEnd platform stored.lease) ∧
      ownedLedgerLease stored.lease = true ∧ version ≠ ""
  absent : ∀ name expiry, world.store.current name = none → entries name = some expiry →
    ranOut expiry world.clock = true

variable {platform : Platform} {entries : Entries} {world before after : World Unit Unit}

/-- A world that differs only in what the ledger does not look at. -/
structure SameStore (before after : World Unit Unit) : Prop where
  store : after.store = before.store
  clock : after.clock = before.clock

theorem Agrees.of_sameStore (agrees : Agrees platform entries before)
    (same : SameStore before after) : Agrees platform entries after := by
  constructor
  · rw [same.store]
    exact agrees.stored
  · rw [same.store, same.clock]
    exact agrees.absent

/-- The entries agree at every later instant. -/
theorem Agrees.later (agrees : Agrees platform entries world) {now : DateTime}
    (le : world.clock ≤ now) : Agrees platform entries { world with clock := now } where
  stored := agrees.stored
  absent name expiry gone entry := ranOut_mono (agrees.absent name expiry gone entry) le

/-- An accepted use writes its lease and its entry. -/
theorem Agrees.put (agrees : Agrees platform entries world) {name version : String}
    {lease : Lease} (fresh : world.store.Fresh version) (owned : ownedLedgerLease lease = true)
    (nonempty : version ≠ "") :
    Agrees platform (Function.update entries name (some (useEnd platform lease)))
      (world.put (some ()) name version lease fresh) := by
  constructor
  · intro other otherVersion stored present
    by_cases same : other = name
    · subst same
      simp only [World.put, Versioned.write, Function.update_self, Option.some.injEq,
        Prod.mk.injEq] at present
      obtain ⟨rfl, rfl⟩ := present
      rw [Function.update_self]
      exact ⟨rfl, owned, nonempty⟩
    · simp only [World.put, Versioned.write, Function.update_of_ne same] at present
      rw [Function.update_of_ne same]
      exact agrees.stored other otherVersion stored present
  · intro other expiry gone entry
    by_cases same : other = name
    · subst same
      simp [World.put, Versioned.write] at gone
    · simp only [World.put, Versioned.write, Function.update_of_ne same] at gone
      rw [Function.update_of_ne same] at entry
      exact agrees.absent other expiry gone entry

/-- Removing an expired lease does not change any entry. -/
theorem Agrees.remove (agrees : Agrees platform entries world) {url version : String}
    {stored : Stored Unit} (present : world.store.current url = some (version, stored))
    (isExpired : expired platform stored.lease world.clock = true)
    (store : after.store = world.store.remove url) (clock : after.clock = world.clock) :
    Agrees platform entries after := by
  constructor
  · intro name otherVersion other found
    rw [store] at found
    by_cases same : name = url
    · subst same
      simp [Versioned.remove] at found
    · rw [Versioned.current_remove_of_ne same] at found
      exact agrees.stored name otherVersion other found
  · intro name expiry gone entry
    rw [store] at gone
    rw [clock]
    by_cases same : name = url
    · subst same
      rw [(agrees.stored name version stored present).1, Option.some.injEq] at entry
      rw [← entry]
      exact (expired_iff_ranOut.mp isExpired).2
    · rw [Versioned.current_remove_of_ne same] at gone
      exact agrees.absent name expiry gone entry

theorem SameStore.refl (world : World Unit Unit) : SameStore world world :=
  ⟨rfl, rfl⟩

theorem credential_ensures :
    Ensures (exactApi platform) () credential world fun after result =>
      after = world ∧ ∃ text, result = .ok text := by
  apply ensures_call
  rintro answer after ⟨rfl, ⟨text, rfl, visible⟩, -⟩
  apply ensures_done
  exact ⟨rfl, text, by simp [credentialResult, visible]⟩

/-- POST creates an absent lease and conflicts with a present one. -/
theorem create_ensures (lease : Lease) :
    Ensures (exactApi platform) () (create lease) world fun after result =>
      (result = .ok .created ∧ world.store.current lease.metadata.name = none ∧
        ∃ version, ∃ fresh : world.store.Fresh version, version ≠ "" ∧
          after = world.put (some ()) lease.metadata.name version lease fresh) ∨
      (result = .ok .conflict ∧ world.store.current lease.metadata.name ≠ none ∧
        after = world) := by
  apply credential_ensures.bindOk
  · rintro state failure ⟨-, text, impossible⟩
    contradiction
  rintro state text ⟨rfl, -⟩
  apply ensures_call
  rintro answer after ⟨effect, answered, nonempty⟩
  apply ensures_done
  rcases answered with rfl | ⟨rfl, present⟩
  · rcases effect with ⟨-, effect⟩ | ⟨conflict, -⟩ | ⟨failed, -, -⟩
    · cases effect with
      | post version fresh inTime absent =>
          refine Or.inl ⟨rfl, absent, version, fresh, ?_, rfl⟩
          rcases nonempty _ List.mem_cons_self with member | nonempty
          · exact absurd rfl (fresh _ member)
          · exact nonempty
    · simp at conflict
    · exact absurd rfl failed
  · rcases effect with ⟨created, -⟩ | ⟨-, rfl⟩ | ⟨-, failed, -⟩
    · simp [Request.success] at created
    · exact Or.inr ⟨rfl, present, rfl⟩
    · exact absurd rfl failed

/-- What an item request finds. -/
def found (world : World Unit Unit) (url : String) : Option Lease :=
  (world.store.current url).map fun stored =>
    stored.2.lease.withResourceVersion (some stored.1)

theorem get_ensures (name : String) :
    Ensures (exactApi platform) () (get platform name) world fun after result =>
      SameStore world after ∧
        ((platform.itemUrl name = none ∧ ∃ failure, result = .error failure) ∨
          ∃ url, platform.itemUrl name = some url ∧ result = .ok (found world url)) := by
  apply credential_ensures.bindOk
  · rintro state failure ⟨-, text, impossible⟩
    contradiction
  rintro state text ⟨rfl, -⟩
  unfold itemUrl
  cases address : platform.itemUrl name with
  | none =>
      apply ensures_done
      exact ⟨.refl state, Or.inl ⟨rfl, _, rfl⟩⟩
  | some url =>
      apply ensures_call
      rintro answer after ⟨effect, answered, -⟩
      apply ensures_done
      have same : SameStore state after := by
        rcases effect with ⟨record, -, -, -, -, -, rfl⟩ | ⟨-, rfl⟩
        · exact ⟨rfl, rfl⟩
        · exact ⟨rfl, rfl⟩
      refine ⟨same, Or.inr ⟨url, rfl, ?_⟩⟩
      rw [found]
      cases current : state.store.current url with
      | none =>
          simp only [Answered, current] at answered
          rcases answered with ⟨body, rfl⟩
          rfl
      | some stored =>
          rcases stored with ⟨version, stored⟩
          simp only [Answered, current] at answered
          subst answered
          rfl

/-- PUT with the current version replaces the lease. -/
theorem update_ensures {name url sent : String} {lease : Lease} {stored : Stored Unit}
    (address : platform.itemUrl name = some url)
    (sentVersion : lease.metadata.resourceVersion = some sent)
    (current : world.store.current url = some (sent, stored)) :
    Ensures (exactApi platform) () (update platform name lease) world fun after result =>
      result = .ok .updated ∧
        ∃ version, ∃ fresh : world.store.Fresh version, version ≠ "" ∧
          after = world.put (some ()) url version lease fresh := by
  apply credential_ensures.bindOk
  · rintro state failure ⟨-, text, impossible⟩
    contradiction
  rintro state text ⟨rfl, -⟩
  simp only [itemUrl, address]
  apply ensures_call
  rintro answer after ⟨effect, answered, nonempty⟩
  apply ensures_done
  rcases answered with rfl | ⟨-, mismatch⟩
  · rcases effect with ⟨-, effect⟩ | ⟨conflict, -⟩ | ⟨failed, -, -⟩
    · cases effect with
      | put version fresh inTime _ _ =>
          refine ⟨rfl, version, fresh, ?_, rfl⟩
          rcases nonempty _ List.mem_cons_self with member | nonempty
          · exact absurd rfl (fresh _ member)
          · exact nonempty
    · simp at conflict
    · exact absurd rfl failed
  · exact absurd current (mismatch sent stored sentVersion)

/-- DELETE removes the version it names, if that is the current one. -/
theorem delete_ensures (name resourceVersion : String) :
    Ensures (exactApi platform) () (delete platform name resourceVersion) world fun after _ =>
      SameStore world after ∨
        ∃ url stored, platform.itemUrl name = some url ∧
          world.store.current url = some (resourceVersion, stored) ∧
            after.store = world.store.remove url ∧ after.clock = world.clock := by
  apply credential_ensures.bindOk
  · rintro state failure ⟨-, text, impossible⟩
    contradiction
  rintro state text ⟨rfl, -⟩
  unfold itemUrl
  cases address : platform.itemUrl name with
  | none => exact ensures_done (Or.inl (.refl state))
  | some url =>
      apply ensures_call
      rintro answer after ⟨effect, -, -⟩
      apply ensures_done
      rcases effect with ⟨-, effect⟩ | ⟨-, rfl⟩ | ⟨-, -, rfl⟩
      · cases effect with
        | delete inTime current => exact Or.inr ⟨url, _, rfl, current, rfl, rfl⟩
      · exact Or.inl (.refl _)
      · exact Or.inl ⟨rfl, rfl⟩

/-- Reclaiming a present lease replaces it exactly when it is expired. -/
theorem reclaimExpired_ensures {replacement : Lease} {version : String} {stored : Stored Unit}
    {now : DateTime}
    (address : platform.itemUrl replacement.metadata.name = some replacement.metadata.name)
    (current : world.store.current replacement.metadata.name = some (version, stored))
    (nonempty : version ≠ "") :
    Ensures (exactApi platform) ()
      (reclaimExpired platform replacement.metadata.name replacement now) world
      fun after result =>
        (expired platform stored.lease now = true ∧ result = .ok () ∧
          ∃ state written resourceVersion, ∃ fresh : state.store.Fresh written,
            SameStore world state ∧ written ≠ "" ∧
              after = state.put (some ()) replacement.metadata.name written
                (replacement.withResourceVersion resourceVersion) fresh) ∨
        (expired platform stored.lease now = false ∧ result = .error .replayed ∧
          SameStore world after) := by
  apply (get_ensures replacement.metadata.name).bindOk
  · rintro state failure ⟨-, ⟨missing, -⟩ | ⟨url, -, impossible⟩⟩
    · rw [address] at missing
      contradiction
    · contradiction
  rintro state result ⟨same, ⟨-, failure, impossible⟩ | ⟨url, addressed, resultEq⟩⟩
  · contradiction
  rw [address, Option.some.injEq] at addressed
  subst addressed
  rw [found, current, Option.map_some, Except.ok.injEq] at resultEq
  subst resultEq
  cases isExpired : expired platform stored.lease now with
  | false =>
      simp only [expired_withResourceVersion, isExpired, ↓reduceIte]
      exact ensures_done (Or.inr ⟨trivial, rfl, same⟩)
  | true =>
      have reported : (some version).filter (· ≠ "") = some version := by simp [nonempty]
      simp only [expired_withResourceVersion, isExpired, Bool.true_eq_false, ↓reduceIte,
        resourceVersion_withResourceVersion, reported]
      rw [← same.store] at current
      apply (update_ensures address rfl current).bindOk
      · rintro after failure ⟨impossible, -⟩
        contradiction
      · rintro after result ⟨resultEq, written, fresh, writtenNonempty, rfl⟩
        cases resultEq
        exact ensures_done (Or.inl ⟨trivial, rfl, state, written, _, fresh, same,
          writtenNonempty, rfl⟩)

/-- Cleanup changes no entry, whatever the lists show. -/
theorem cleanupCandidates_ensures (leases : List Lease)
    (agrees : Agrees platform entries world) :
    Ensures (exactApi platform) () (cleanupCandidates platform world.clock leases) world
      fun after _ => Agrees platform entries after ∧ after.clock = world.clock := by
  generalize nowEq : world.clock = now
  induction leases generalizing world with
  | nil => exact ensures_done ⟨agrees, nowEq⟩
  | cons lease leases inductionHypothesis =>
      have skip : ∀ {state}, SameStore world state →
          Ensures (exactApi platform) () (cleanupCandidates platform now leases) state
            fun after _ => Agrees platform entries after ∧ after.clock = now :=
        fun same => inductionHypothesis (agrees.of_sameStore same) (same.clock.trans nowEq)
      apply (get_ensures lease.metadata.name).bind
      rintro state result ⟨same, ⟨-, failure, rfl⟩ | ⟨url, address, rfl⟩⟩
      · exact skip same
      cases present : world.store.current url with
      | none =>
          simp only [found, present, Option.map_none]
          exact skip same
      | some stored =>
          rcases stored with ⟨version, stored⟩
          simp only [found, present, Option.map_some, ownedLedgerLease_withResourceVersion,
            expired_withResourceVersion]
          by_cases skipped : ownedLedgerLease stored.lease = false ∨
              expired platform stored.lease now = false
          · simp only [skipped, ↓reduceIte]
            exact skip same
          · simp only [skipped, ↓reduceIte, resourceVersion_withResourceVersion]
            have isExpired : expired platform stored.lease now = true := by
              rw [not_or, Bool.not_eq_false, Bool.not_eq_false] at skipped
              exact skipped.2
            apply (delete_ensures lease.metadata.name version).bind
            rintro after _ (unchanged | ⟨removed, other, addressed, current, store, clock⟩)
            · exact ensures_done ⟨(agrees.of_sameStore same).of_sameStore unchanged,
                unchanged.clock.trans (same.clock.trans nowEq)⟩
            · rw [address, Option.some.injEq] at addressed
              subst addressed
              rw [same.store] at store
              rw [same.clock] at clock
              rw [← nowEq] at isExpired
              exact ensures_done ⟨agrees.remove present isExpired store clock,
                clock.trans nowEq⟩

theorem list_ensures (token : Option String) :
    Ensures (exactApi platform) () (list token) world fun after _ => after = world := by
  apply credential_ensures.bindOk
  · rintro state failure ⟨rfl, -⟩
    rfl
  rintro state text ⟨rfl, -⟩
  apply ensures_call
  rintro answer after ⟨rfl, -⟩
  exact ensures_done rfl

theorem setCleanupContinue_ensures (token : Option String) :
    Ensures (exactApi platform) () (setCleanupContinue token) world fun after _ =>
      SameStore world after := by
  apply ensures_call
  rintro answer after ⟨rfl, -⟩
  exact ensures_done ⟨rfl, rfl⟩

theorem cleanupPages_ensures (pages : Nat) (token : Option String)
    (agrees : Agrees platform entries world) :
    Ensures (exactApi platform) () (cleanupPages platform world.clock pages token) world
      fun after _ => Agrees platform entries after ∧ after.clock = world.clock := by
  generalize nowEq : world.clock = now
  induction pages generalizing world token with
  | zero => exact ensures_done ⟨agrees, nowEq⟩
  | succ pages inductionHypothesis =>
      apply (list_ensures token).bind
      rintro state (_ | leases) rfl
      · apply (setCleanupContinue_ensures none).mono
        intro after _ same
        exact ⟨agrees.of_sameStore same, same.clock.trans nowEq⟩
      · apply (setCleanupContinue_ensures _).bind
        intro after _ same
        have clockEq := same.clock.trans nowEq
        subst clockEq
        apply (cleanupCandidates_ensures _ (agrees.of_sameStore same)).bind
        rintro last (_ | _) ⟨stillAgrees, lastClock⟩
        · by_cases final : leases.continueToken = ""
          · simp only [final, ↓reduceIte]
            exact ensures_done ⟨stillAgrees, lastClock⟩
          · simp only [final, ↓reduceIte]
            exact inductionHypothesis _ stillAgrees lastClock
        · exact ensures_done ⟨stillAgrees, lastClock⟩

/-- A cleanup that changes no entry. -/
def KeepsEntries (platform : Platform)
    (cleanup : DateTime → LedgerProgram (fun op : Empty => op.elim) Unit) : Prop :=
  ∀ entries world, Agrees platform entries world →
    Ensures (exactApi platform) () (cleanup world.clock) world fun after _ =>
      Agrees platform entries after

theorem keepsEntries_cleanupOne : KeepsEntries platform (cleanupOne platform) := by
  intro entries world agrees
  apply ensures_call
  rintro token after ⟨⟨-, rfl⟩, -⟩
  apply (cleanupPages_ensures _ _ agrees).mono
  exact fun after _ holds => holds.1

theorem keepsEntries_done : KeepsEntries platform fun _ => .done () :=
  fun _ _ agrees => ensures_done agrees

variable {cleanup : DateTime → LedgerProgram (fun op : Empty => op.elim) Unit}

/-- Both ways to accept write the lease and then clean up. -/
theorem accepted_ensures {state : World Unit Unit} {lease : Lease} {version : String}
    (resourceVersion : Option String) (keeps : KeepsEntries platform cleanup)
    (agrees : Agrees platform entries world) (same : SameStore world state)
    (fresh : state.store.Fresh version) (owned : ownedLedgerLease lease = true)
    (nonempty : version ≠ "") :
    Ensures (exactApi platform) ()
      ((cleanup world.clock).bind fun _ => .done (.ok () : Except ReplayError Unit))
      (state.put (some ()) lease.metadata.name version
        (lease.withResourceVersion resourceVersion) fresh)
      fun after result => result = .ok () ∧
        Agrees platform
          (Function.update entries lease.metadata.name (some (useEnd platform lease))) after := by
  have ownedSent : ownedLedgerLease (lease.withResourceVersion resourceVersion) = true := owned
  have written : Agrees platform
      (Function.update entries lease.metadata.name (some (useEnd platform lease)))
      (state.put (some ()) lease.metadata.name version
        (lease.withResourceVersion resourceVersion) fresh) :=
    (agrees.of_sameStore same).put fresh ownedSent nonempty
  have cleaned := keeps _ _ written
  have clock : (state.put (some ()) lease.metadata.name version
      (lease.withResourceVersion resourceVersion) fresh).clock = world.clock := same.clock
  rw [clock] at cleaned
  apply cleaned.bind
  exact fun after _ stillAgrees => ensures_done ⟨rfl, stillAgrees⟩

/-- One use of the ledger is one use of the abstract ledger. -/
theorem useOnceWith_ensures
    (address : ∀ jti, platform.itemUrl (leaseName platform jti) = some (leaseName platform jti))
    (keeps : KeepsEntries platform cleanup) (jti : String) (expiresAt : Int)
    (agrees : Agrees platform entries world) :
    Ensures (exactApi platform) () (useOnceWith platform cleanup jti expiresAt) world
      fun after result =>
        result = (abstractUse platform entries world.clock jti expiresAt).1 ∧
          Agrees platform (abstractUse platform entries world.clock jti expiresAt).2 after := by
  apply ensures_call
  rintro now begun ⟨⟨rfl, rfl⟩, -⟩
  simp only [Program.bind_done, abstractUse]
  cases prepared : preparedLease platform jti expiresAt world.clock with
  | error failure =>
      rw [preparedLease_eq_error prepared]
      exact ensures_done ⟨rfl, agrees.of_sameStore ⟨rfl, rfl⟩⟩
  | ok lease =>
      rcases preparedLease_eq_ok prepared with ⟨nameEq, _, owned, _⟩
      have addressed : platform.itemUrl lease.metadata.name = some lease.metadata.name := by
        rw [nameEq]
        exact address jti
      simp only [← nameEq]
      apply (create_ensures lease).bindOk
      · rintro state failure (⟨impossible, -⟩ | ⟨impossible, -⟩)
        · contradiction
        · contradiction
      rintro state result (⟨resultEq, absent, version, fresh, nonempty, rfl⟩ |
        ⟨resultEq, occupied, rfl⟩)
      · -- the name was free: its entry, if any, has run out
        cases resultEq
        have same : SameStore world (world.readClock ()) := ⟨rfl, rfl⟩
        apply (accepted_ensures lease.metadata.resourceVersion keeps agrees same fresh owned
          nonempty).mono
        rintro after _ ⟨rfl, stillAgrees⟩
        cases entry : entries lease.metadata.name with
        | none => exact ⟨rfl, stillAgrees⟩
        | some expiry =>
            simp only [agrees.absent _ expiry absent entry, ↓reduceIte]
            exact ⟨trivial, stillAgrees⟩
      · cases resultEq
        rcases Option.ne_none_iff_exists'.mp occupied with ⟨⟨version, stored⟩, present⟩
        rcases agrees.stored _ version stored present with ⟨entry, storedOwned, nonempty⟩
        rw [entry]
        apply (reclaimExpired_ensures addressed present nonempty).bindOk
        · rintro state failure (⟨_, impossible, -⟩ | ⟨running, resultEq, same⟩)
          · contradiction
          · cases resultEq
            have notOver : ranOut (useEnd platform stored.lease) world.clock = false := by
              rw [Bool.eq_false_iff]
              intro elapsed
              rw [expired_iff_ranOut.mpr ⟨storedOwned, elapsed⟩] at running
              contradiction
            simp only [notOver]
            exact ⟨rfl, agrees.of_sameStore ⟨same.store, same.clock⟩⟩
        · rintro state _ (⟨elapsed, -, middle, written, version', fresh, same, written', rfl⟩ |
            ⟨_, impossible, -⟩)
          · have same' : SameStore world middle := ⟨same.store, same.clock⟩
            apply (accepted_ensures version' keeps agrees same' fresh owned written').mono
            rintro after _ ⟨rfl, stillAgrees⟩
            simp only [(expired_iff_ranOut.mp elapsed).2, ↓reduceIte]
            exact ⟨trivial, stillAgrees⟩
          · contradiction

/-- Non-overlapping uses of the ledger: each starts at its clock reading, which is
not before the instant at which the previous one ended. -/
inductive Sequence (platform : Platform)
    (cleanup : DateTime → LedgerProgram (fun op : Empty => op.elim) Unit) :
    World Unit Unit → List (DateTime × String × Int) → List (Except ReplayError Unit) → Prop
  | nil (world : World Unit Unit) : Sequence platform cleanup world [] []
  | cons {world after : World Unit Unit} {now : DateTime} {jti : String} {expiresAt : Int}
      {result : Except ReplayError Unit} {uses : List (DateTime × String × Int)}
      {results : List (Except ReplayError Unit)} (le : world.clock ≤ now)
      (use : Executes (exactApi platform) () (useOnceWith platform cleanup jti expiresAt)
        { world with clock := now } after result)
      (rest : Sequence platform cleanup after uses results) :
      Sequence platform cleanup world ((now, jti, expiresAt) :: uses) (result :: results)

/-- A sequence of uses has the results of the abstract ledger. -/
theorem Sequence.results_eq {uses : List (DateTime × String × Int)}
    {results : List (Except ReplayError Unit)}
    (address : ∀ jti, platform.itemUrl (leaseName platform jti) = some (leaseName platform jti))
    (keeps : KeepsEntries platform cleanup)
    (sequence : Sequence platform cleanup world uses results)
    (agrees : Agrees platform entries world) :
    results = abstractUses platform entries uses := by
  induction sequence generalizing entries with
  | nil world => rfl
  | @cons world after now jti expiresAt result uses results le use rest inductionHypothesis =>
      rcases (useOnceWith_ensures address keeps jti expiresAt (agrees.later le)).result _ _ use
        with ⟨rfl, stillAgrees⟩
      rw [inductionHypothesis stillAgrees]
      rfl

theorem agrees_start (clock : DateTime) :
    Agrees platform (fun _ => none) (World.start clock : World Unit Unit) := by
  constructor
  · intro name version stored present
    contradiction
  · intro name expiry _ entry
    contradiction

/-- There is always a version that has not been used. -/
theorem exists_fresh (store : Versioned String String (Stored Unit)) :
    ∃ version, store.Fresh version ∧ version ≠ "" := by
  rcases Infinite.exists_notMem_finset ("" :: store.written.map Record.version).toFinset with
    ⟨version, unused⟩
  simp only [List.toFinset_cons, Finset.mem_insert, List.mem_toFinset, not_or] at unused
  exact ⟨version, Versioned.fresh_of_notMem unused.2, unused.1⟩

/-- The server answers every write: it carries the write out or reports a conflict. -/
theorem exactApi_answers_send (before : World Unit Unit) (request : Request)
    (inTime : before.InTime ()) :
    ∃ answer after, (exactApi platform).perform () before (.send request) answer after ∧
      after.verifiedAt = before.verifiedAt ∧ after.clock = before.clock := by
  have sameStore : ∀ record ∈ before.store.written,
      record ∈ before.store.written ∨ record.version ≠ "" :=
    fun _ member => Or.inl member
  rcases exists_fresh before.store with ⟨version, fresh, nonempty⟩
  have written : ∀ {name lease}, ∀ record ∈
      (before.put (some ()) name version lease fresh).store.written,
        record ∈ before.store.written ∨ record.version ≠ "" := by
    intro name lease record member
    rcases List.mem_cons.mp member with rfl | member
    · exact Or.inr nonempty
    · exact Or.inl member
  cases request with
  | post lease =>
      by_cases absent : before.store.current lease.metadata.name = none
      · exact ⟨some 201, _, ⟨Or.inl ⟨rfl, .post version fresh inTime absent⟩, Or.inl rfl,
          written⟩, rfl, rfl⟩
      · exact ⟨some 409, _, ⟨Or.inr (Or.inl ⟨rfl, rfl⟩), Or.inr ⟨rfl, absent⟩, sameStore⟩,
          rfl, rfl⟩
  | put url lease =>
      by_cases matched : ∃ sent stored, lease.metadata.resourceVersion = some sent ∧
          before.store.current url = some (sent, stored)
      · rcases matched with ⟨sent, stored, sentVersion, current⟩
        exact ⟨some 200, _, ⟨Or.inl ⟨rfl, .put version fresh inTime sentVersion current⟩,
          Or.inl rfl, written⟩, rfl, rfl⟩
      · refine ⟨some 409, _, ⟨Or.inr (Or.inl ⟨rfl, rfl⟩), Or.inr ⟨Or.inr rfl, ?_⟩,
          sameStore⟩, rfl, rfl⟩
        exact fun sent stored sentVersion current =>
          matched ⟨sent, stored, sentVersion, current⟩
  | delete url sent =>
      by_cases matched : ∃ stored, before.store.current url = some (sent, stored)
      · rcases matched with ⟨stored, current⟩
        exact ⟨some 200, _, ⟨Or.inl ⟨rfl, .delete inTime current⟩, Or.inl rfl, sameStore⟩,
          rfl, rfl⟩
      · exact ⟨some 409, _, ⟨Or.inr (Or.inl ⟨rfl, rfl⟩),
          Or.inr ⟨Or.inr rfl, fun stored current => matched ⟨stored, current⟩⟩, sameStore⟩,
          rfl, rfl⟩

/-- The server answers every request. -/
theorem exactApi_progress (now : DateTime) (before : World Unit Unit) (op : Op Empty)
    (enabled : before.verifiedAt () = none ∧ before.clock = now) :
    ∃ answer after, (exactApi platform).perform () before op answer after ∧
      after.verifiedAt () = none ∧ after.clock = now := by
  have sameStore : ∀ record ∈ before.store.written,
      record ∈ before.store.written ∨ record.version ≠ "" :=
    fun _ member => Or.inl member
  cases op with
  | utcNow => exact ⟨_, _, ⟨⟨rfl, rfl⟩, trivial, sameStore⟩, enabled⟩
  | credential => exact ⟨some "token", _, ⟨rfl, ⟨_, rfl, by decide⟩, sameStore⟩, enabled⟩
  | send request =>
      have inTime : before.InTime () := by
        intro second verified
        rw [enabled.1] at verified
        contradiction
      rcases exactApi_answers_send before request inTime with
        ⟨answer, after, effect, verifiedAt, clock⟩
      refine ⟨answer, after, effect, ?_, clock.trans enabled.2⟩
      rw [verifiedAt]
      exact enabled.1
  | get url =>
      cases current : before.store.current url with
      | none =>
          refine ⟨some (404, none), before, ⟨Or.inr ⟨by simp, rfl⟩, ?_, sameStore⟩, enabled⟩
          simp [Answered, current]
      | some stored =>
          have isCurrent : before.store.IsCurrent ⟨url, stored.1, stored.2⟩ := current
          refine ⟨_, _, ⟨Or.inl ⟨_, isCurrent.mem, rfl, _, Or.inr rfl, rfl, rfl⟩, ?_, sameStore⟩,
            enabled⟩
          simp [Answered, current]
  | list token => exact ⟨none, _, ⟨rfl, trivial, sameStore⟩, enabled⟩
  | cleanupContinue => exact ⟨_, _, ⟨⟨rfl, rfl⟩, trivial, sameStore⟩, enabled⟩
  | setCleanupContinue token => exact ⟨(), _, ⟨rfl, trivial, sameStore⟩, enabled⟩
  | other op => exact op.elim

/-- Every sequence of uses with non-decreasing readings can be carried out. -/
theorem exists_sequence (cleanup : DateTime → LedgerProgram (fun op : Empty => op.elim) Unit)
    (uses : List (DateTime × String × Int)) (unbounded : world.verifiedAt () = none)
    (ordered : (world.clock :: uses.map Prod.fst).IsChain (· ≤ ·)) :
    ∃ results, Sequence platform cleanup world uses results := by
  induction uses generalizing world with
  | nil => exact ⟨[], .nil world⟩
  | cons use uses inductionHypothesis =>
      rcases use with ⟨now, jti, expiresAt⟩
      rw [List.map_cons, List.isChain_cons_cons] at ordered
      have progress := @exactApi_progress platform now
      have start : ({ world with clock := now } : World Unit Unit).verifiedAt () = none ∧
          ({ world with clock := now } : World Unit Unit).clock = now := ⟨unbounded, rfl⟩
      rcases exists_executes (useOnceWith platform cleanup jti expiresAt) _ progress start with
        ⟨after, result, executes, afterUnbounded, clock⟩
      have laterOrdered : (after.clock :: uses.map Prod.fst).IsChain (· ≤ ·) := by
        rw [clock]
        exact ordered.2
      rcases inductionHypothesis afterUnbounded laterOrdered with ⟨results, rest⟩
      exact ⟨result :: results, .cons ordered.1 executes rest⟩

/-- Cleanup never affects acceptance.  Against a server that answers every
request, any sequence of uses can be carried out with cleanup and without it, and
either way it has the results of the abstract ledger. -/
theorem ledger_refines_abstract
    (address : ∀ jti, platform.itemUrl (leaseName platform jti) = some (leaseName platform jti))
    (clock : DateTime) (uses : List (DateTime × String × Int))
    (ordered : (clock :: uses.map Prod.fst).IsChain (· ≤ ·)) :
    (∃ results, Sequence platform (cleanupOne platform) (.start clock) uses results) ∧
    (∃ results, Sequence platform (fun _ => .done ()) (.start clock) uses results) ∧
    ∀ results,
      (Sequence platform (cleanupOne platform) (.start clock) uses results ∨
        Sequence platform (fun _ => .done ()) (.start clock) uses results) →
      results = abstractUses platform (fun _ => none) uses := by
  refine ⟨exists_sequence _ uses rfl ordered, exists_sequence _ uses rfl ordered, ?_⟩
  rintro results (sequence | sequence)
  · exact sequence.results_eq address keepsEntries_cleanupOne (agrees_start clock)
  · exact sequence.results_eq address keepsEntries_done (agrees_start clock)

/-- A key is accepted, refused while its lease lasts, and accepted again after
it. -/
theorem ledger_refines_abstract_sample :
    ∃ results, Sequence samplePlatform (cleanupOne samplePlatform) (.start (.ofSeconds 900))
        [(.ofSeconds 900, "a", 1000), (.ofSeconds 900, "a", 1000), (.ofSeconds 900, "a", 3000),
          (.ofSeconds 1400, "a", 1500)] results ∧
      results = [.ok (), .error .replayed, .error .unavailable, .ok ()] := by
  rcases ledger_refines_abstract faithful_samplePlatform.address (.ofSeconds 900)
    [(.ofSeconds 900, "a", 1000), (.ofSeconds 900, "a", 1000), (.ofSeconds 900, "a", 3000),
      (.ofSeconds 1400, "a", 1500)] (by decide) with ⟨⟨results, sequence⟩, _, equal⟩
  exact ⟨results, sequence, equal results (Or.inl sequence)⟩

end Server

end OidcExchange.Replay
