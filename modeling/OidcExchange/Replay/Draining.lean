import Mathlib.Data.String.Basic
import Mathlib.Tactic.Ring
import OidcExchange.Process.Labelled
import OidcExchange.Process.Sequential
import OidcExchange.Replay.AtMostOnce

/-!
# Cleanup drains the ledger

Cleanup against a server that answers every request and lists its leases in the order of
their names, `limit` of them at a time.  A continue token is the last name that was
shown.  Every cleanup removes an expired lease or moves the token past leases that are
not expired, so enough of them remove every lease that was expired at the first.
-/

namespace OidcExchange.Replay

open OidcExchange.Process

/-- The stored leases in the order of their names, and the continue token of the
replica. -/
structure Shelf where
  leases : List Lease
  cleanupContinue : Option String

/-- The label selector of the lists. -/
def labelled (lease : Lease) : Bool :=
  lease.metadata.labels.lookup ledgerLabel == some ledgerVersion

namespace Shelf

/-- What the lists from a token on still have to show. -/
def pending (shelf : Shelf) : Option String → List Lease
  | none => shelf.leases.filter labelled
  | some token =>
      shelf.leases.filter fun lease => labelled lease && decide (token < lease.metadata.name)

/-- The name of the last lease. -/
def lastName (leases : List Lease) : String :=
  match leases.getLast? with
  | some lease => lease.metadata.name
  | none => ""

/-- The answer to a LIST. -/
def page (shelf : Shelf) (limit : Nat) (token : Option String) : LeaseList where
  items := (shelf.pending token).take limit
  continueToken :=
    if limit < (shelf.pending token).length then
      lastName ((shelf.pending token).take limit)
    else
      ""

def find (shelf : Shelf) (name : String) : Option Lease :=
  shelf.leases.find? fun lease => lease.metadata.name == name

def remove (shelf : Shelf) (name : String) : Shelf :=
  { shelf with leases := shelf.leases.filter fun lease => lease.metadata.name != name }

/-- Names are in order and not empty, and a lease is addressed by its name. -/
structure Ordered (platform : Platform) (shelf : Shelf) : Prop where
  names : shelf.leases.Pairwise fun first second => first.metadata.name < second.metadata.name
  named : ∀ lease ∈ shelf.leases, lease.metadata.name ≠ ""
  versioned : ∀ lease ∈ shelf.leases, lease.metadata.resourceVersion.isSome = true
  addressed : ∀ lease ∈ shelf.leases,
    platform.itemUrl lease.metadata.name = some lease.metadata.name

/-- The server answers the requests of cleanup one after the other and refuses others. -/
def api (limit : Nat) : Machine Unit (Answer fun op : Empty => op.elim) Shelf where
  perform
    | (), before, .utcNow, _, after => after = before
    | (), before, .credential, answer, after => after = before ∧
        ∃ text, answer = some text ∧ Text.isBlank text = false
    | (), before, .send (.delete url version), answer, after =>
        (∃ lease, before.find url = some lease ∧
          lease.metadata.resourceVersion = some version ∧ answer = some 200 ∧
            after = before.remove url) ∨
          ((∀ lease, before.find url = some lease →
            lease.metadata.resourceVersion ≠ some version) ∧ answer = some 409 ∧ after = before)
    | (), before, .send _, answer, after => after = before ∧ answer = some 403
    | (), before, .get url, answer, after => after = before ∧
        answer = match before.find url with
          | some lease => some (200, some lease)
          | none => some (404, none)
    | (), before, .list token, answer, after => after = before ∧
        answer = some (200, some (before.page limit token))
    | (), before, .cleanupContinue, answer, after => after = before ∧
        answer = before.cleanupContinue
    | (), before, .setCleanupContinue token, _, after =>
        after = { before with cleanupContinue := token }
  cancel _ _ _ _ := False
  environment _ _ := False

section Pages

variable {platform : Platform} {shelf : Shelf} {limit : Nat} {token : Option String}

theorem pending_sublist (shelf : Shelf) (token : Option String) :
    (shelf.pending token).Sublist shelf.leases := by
  cases token with
  | none => exact List.filter_sublist
  | some token => exact List.filter_sublist

theorem Ordered.pending (ordered : shelf.Ordered platform) (token : Option String) :
    (shelf.pending token).Pairwise fun first second =>
      first.metadata.name < second.metadata.name :=
  ordered.names.sublist (pending_sublist shelf token)

/-- What comes after a pending lease is pending, too. -/
theorem pending_some {lease : Lease} (member : lease ∈ shelf.pending token) :
    shelf.pending (some lease.metadata.name) =
      (shelf.pending token).filter fun other =>
        decide (lease.metadata.name < other.metadata.name) := by
  cases token with
  | none =>
      unfold pending
      rw [List.filter_filter]
      apply List.filter_congr
      intro other _
      rw [Bool.and_comm]
  | some token =>
      have beyond : token < lease.metadata.name := by
        have both := (List.mem_filter.mp member).2
        simp only [Bool.and_eq_true, decide_eq_true_eq] at both
        exact both.2
      unfold pending
      rw [List.filter_filter]
      apply List.filter_congr
      intro other _
      by_cases after : lease.metadata.name < other.metadata.name
      · simp [after, beyond.trans after]
      · simp [after]

/-- A page either shows the rest, or the next token stands for what it leaves out. -/
theorem Ordered.page (ordered : shelf.Ordered platform) (positive : 0 < limit)
    (token : Option String) :
    ((shelf.page limit token).continueToken = "" ∧
        (shelf.page limit token).items = shelf.pending token) ∨
      (shelf.page limit token).continueToken ≠ "" ∧ (shelf.page limit token).items ≠ [] ∧
        shelf.pending token = (shelf.page limit token).items ++
          shelf.pending (some (shelf.page limit token).continueToken) := by
  unfold Shelf.page
  dsimp only
  by_cases more : limit < (shelf.pending token).length
  · rw [if_pos more]
    right
    have shown : (shelf.pending token).take limit ≠ [] := by
      intro empty
      have length := congrArg List.length empty
      rw [List.length_take, List.length_nil] at length
      omega
    rcases List.eq_nil_or_concat ((shelf.pending token).take limit) with empty | split
    · exact absurd empty shown
    rcases split with ⟨front, last, split⟩
    have lastEq : lastName ((shelf.pending token).take limit) = last.metadata.name := by
      rw [split, lastName, List.concat_eq_append, List.getLast?_concat]
    have whole := List.take_append_drop limit (shelf.pending token)
    rw [split, List.concat_eq_append] at whole
    have order := ordered.pending token
    rw [← whole, List.append_assoc, List.pairwise_append] at order
    have lastMember : last ∈ shelf.pending token := by
      rw [← whole]
      simp
    have notBlank : last.metadata.name ≠ "" :=
      ordered.named last ((pending_sublist shelf token).subset lastMember)
    rw [lastEq]
    refine ⟨notBlank, shown, ?_⟩
    rw [pending_some lastMember]
    conv_rhs => rw [split, List.concat_eq_append, ← whole]
    rw [List.filter_append, List.filter_append]
    have frontNone : front.filter
        (fun other => decide (last.metadata.name < other.metadata.name)) = [] := by
      rw [List.filter_eq_nil_iff]
      intro other member
      have before := order.2.2 other member last (by simp)
      simpa only [decide_eq_true_eq] using not_lt_of_gt before
    have lastNone : [last].filter
        (fun other => decide (last.metadata.name < other.metadata.name)) = [] := by
      rw [List.filter_eq_nil_iff]
      intro other member
      rw [List.mem_singleton.mp member]
      simpa only [decide_eq_true_eq] using lt_irrefl _
    have restAll : ((shelf.pending token).drop limit).filter
        (fun other => decide (last.metadata.name < other.metadata.name)) =
        (shelf.pending token).drop limit := by
      rw [List.filter_eq_self]
      intro other member
      have after := (List.pairwise_append.mp order.2.1).2.2 last (by simp) other member
      simpa only [decide_eq_true_eq] using after
    rw [frontNone, lastNone, restAll, List.nil_append, List.nil_append, whole]
  · rw [if_neg more]
    left
    exact ⟨rfl, List.take_of_length_le (Nat.le_of_not_lt more)⟩

/-- The lease under the name of a stored lease is that lease. -/
theorem Ordered.find (ordered : shelf.Ordered platform) {lease : Lease}
    (member : lease ∈ shelf.leases) : shelf.find lease.metadata.name = some lease := by
  have distinct : (shelf.leases.map fun lease => lease.metadata.name).Nodup :=
    List.pairwise_map.mpr (ordered.names.imp fun before => before.ne)
  cases found : shelf.find lease.metadata.name with
  | none =>
      have absent := List.find?_eq_none.mp found lease member
      simp at absent
  | some other =>
      have sameName : other.metadata.name = lease.metadata.name := by
        simpa using List.find?_some found
      rw [List.inj_on_of_nodup_map distinct (List.mem_of_find?_eq_some found) member sameName]

end Pages

section Cleanup

variable {platform : Platform} {shelf : Shelf} {limit : Nat} {token : Option String}
  {now : DateTime}

theorem credential_ensures :
    Ensures (api limit) () credential shelf fun after result =>
      after = shelf ∧ ∃ text, result = .ok text := by
  apply ensures_call
  rintro _ _ ⟨rfl, text, rfl, filled⟩
  apply ensures_done
  exact ⟨rfl, text, by simp [credentialResult, filled]⟩

theorem get_ensures (ordered : shelf.Ordered platform) {lease : Lease}
    (member : lease ∈ shelf.leases) :
    Ensures (api limit) () (get platform lease.metadata.name) shelf fun after result =>
      after = shelf ∧ result = .ok (some lease) := by
  apply credential_ensures.bindOk
  · rintro state failure ⟨_, text, failed⟩
    contradiction
  rintro state _ ⟨rfl, _⟩
  rw [itemUrl, ordered.addressed lease member]
  apply ensures_call
  rintro _ _ ⟨rfl, rfl⟩
  apply ensures_done
  rw [ordered.find member]
  exact ⟨rfl, rfl⟩

theorem list_ensures :
    Ensures (api limit) () (list token) shelf fun after result =>
      after = shelf ∧ result = .ok (shelf.page limit token) := by
  apply credential_ensures.bindOk
  · rintro state failure ⟨_, text, failed⟩
    contradiction
  rintro state _ ⟨rfl, _⟩
  apply ensures_call
  rintro _ _ ⟨rfl, rfl⟩
  apply ensures_done
  exact ⟨rfl, rfl⟩

theorem delete_ensures (ordered : shelf.Ordered platform) {lease : Lease}
    (member : lease ∈ shelf.leases) {version : String}
    (versioned : lease.metadata.resourceVersion = some version) :
    Ensures (api limit) () (delete platform lease.metadata.name version) shelf fun after _ =>
      after = shelf.remove lease.metadata.name := by
  apply credential_ensures.bindOk
  · rintro state failure ⟨_, text, failed⟩
    contradiction
  rintro state _ ⟨rfl, _⟩
  rw [itemUrl, ordered.addressed lease member]
  apply ensures_call
  rintro answer after (⟨_, _, _, _, rfl⟩ | ⟨stale, _, _⟩)
  · apply ensures_done
    rfl
  · exact absurd versioned (stale lease (ordered.find member))

theorem setCleanupContinue_ensures (next : Option String) :
    Ensures (api limit) () (setCleanupContinue next) shelf fun after _ =>
      after = { shelf with cleanupContinue := next } := by
  apply ensures_call
  rintro answer _ rfl
  apply ensures_done
  rfl

/-- An expired lease has been removed. -/
def Removes (platform : Platform) (now : DateTime) (before after : Shelf) : Prop :=
  ∃ lease ∈ before.leases, expired platform lease now = true ∧
    after.leases = (before.remove lease.metadata.name).leases

/-- The token has been moved past leases that are not expired, to the end or to another
place. -/
def Passes (platform : Platform) (now : DateTime) (before : Shelf) (token : Option String)
    (after : Shelf) : Prop :=
  after.leases = before.leases ∧
    ∃ skipped, (∀ lease ∈ skipped, expired platform lease now = false) ∧
      ((after.cleanupContinue = none ∧ before.pending token = skipped) ∨
        ∃ next, after.cleanupContinue = some next ∧
          before.pending token = skipped ++ before.pending (some next))

/-- Fewer leases are pending than before, unless the end has been reached. -/
def Shortens (before : Shelf) (token : Option String) (after : Shelf) : Prop :=
  ∀ next, after.cleanupContinue = some next →
    (before.pending (some next)).length < (before.pending token).length

/-- The first expired lease of a page is removed. -/
theorem cleanupCandidates_ensures (ordered : shelf.Ordered platform) {items : List Lease}
    (stored : ∀ lease ∈ items, lease ∈ shelf.leases) :
    Ensures (api limit) () (cleanupCandidates platform now
      ((expiredOwnedLeases platform items now).take maxCleanupPerExchange)) shelf
      fun after removed => (removed = true ∧ Removes platform now shelf after) ∨
        removed = false ∧ after = shelf ∧ ∀ lease ∈ items, expired platform lease now = false := by
  cases candidates : expiredOwnedLeases platform items now with
  | nil =>
      apply ensures_done
      refine Or.inr ⟨rfl, rfl, fun lease member => ?_⟩
      have skipped := List.filter_eq_nil_iff.mp candidates lease member
      cases dead : expired platform lease now with
      | false => rfl
      | true =>
          have owned := (expired_iff.mp dead).1
          simp [dead, owned] at skipped
  | cons lease leases =>
      have first : lease ∈ expiredOwnedLeases platform items now := by
        rw [candidates]
        exact List.mem_cons_self
      rcases List.mem_filter.mp first with ⟨member, both⟩
      rw [Bool.and_eq_true] at both
      rcases Option.isSome_iff_exists.mp (ordered.versioned lease (stored lease member)) with
        ⟨version, versioned⟩
      apply (get_ensures ordered (stored lease member)).bind
      rintro state _ ⟨rfl, rfl⟩
      dsimp only
      rw [if_neg (by simp [both.1, both.2]), versioned]
      apply (delete_ensures ordered (stored lease member) versioned).bind
      rintro after _ rfl
      apply ensures_done
      exact Or.inl ⟨rfl, lease, stored lease member, both.2, rfl⟩

theorem pending_congr {other : Shelf} (same : other.leases = shelf.leases)
    (token : Option String) : other.pending token = shelf.pending token := by
  cases token with
  | none => rw [pending, pending, same]
  | some token => rw [pending, pending, same]

/-- What follows a page without an expired lease passes on from there. -/
theorem Passes.after_page {state after : Shelf} {items : List Lease} {next : String}
    (same : state.leases = shelf.leases)
    (alive : ∀ lease ∈ items, expired platform lease now = false)
    (split : shelf.pending token = items ++ shelf.pending (some next))
    (passes : Passes platform now state (some next) after) :
    Passes platform now shelf token after := by
  rcases passes with ⟨sameAfter, skipped, skippedAlive, rest⟩
  refine ⟨sameAfter.trans same, items ++ skipped, ?_, ?_⟩
  · intro lease member
    rcases List.mem_append.mp member with member | member
    · exact alive lease member
    · exact skippedAlive lease member
  · rw [split]
    rcases rest with ⟨ended, all⟩ | ⟨later, moved, all⟩
    · rw [pending_congr same] at all
      exact Or.inl ⟨ended, by rw [all]⟩
    · rw [pending_congr same, pending_congr same] at all
      exact Or.inr ⟨later, moved, by rw [all, List.append_assoc]⟩

theorem Passes.length_le {after : Shelf} {later : String}
    (passes : Passes platform now shelf token after)
    (moved : after.cleanupContinue = some later) :
    (shelf.pending (some later)).length ≤ (shelf.pending token).length := by
  rcases passes with ⟨_, skipped, _, ⟨ended, _⟩ | ⟨next, continues, all⟩⟩
  · rw [ended] at moved
    contradiction
  · rw [continues, Option.some.injEq] at moved
    rw [all, List.length_append, moved]
    exact Nat.le_add_left _ _

/-- One page, if the pages after it pass on. -/
theorem cleanupPage_ensures (ordered : shelf.Ordered platform) (positive : 0 < limit)
    {pages : Nat}
    (rest : ∀ state next, state.leases = shelf.leases → state.cleanupContinue = some next →
      Ensures (api limit) () (cleanupPages platform now pages (some next)) state
        fun after _ => Removes platform now state after ∨
          Passes platform now state (some next) after) :
    Ensures (api limit) () (cleanupPages platform now (pages + 1) token) shelf fun after _ =>
      Removes platform now shelf after ∨
        Passes platform now shelf token after ∧ Shortens shelf token after := by
  apply list_ensures.bind
  rintro listed _ ⟨same, rfl⟩
  rw [same]
  dsimp only
  have stored : ∀ lease ∈ (shelf.page limit token).items, lease ∈ shelf.leases :=
    fun lease member => (pending_sublist shelf token).subset (List.mem_of_mem_take member)
  generalize nextEq : (if (shelf.page limit token).continueToken = "" then none
    else some (shelf.page limit token).continueToken) = next
  apply (setCleanupContinue_ensures next).bind
  rintro marked _ rfl
  have orderedMarked : ({ shelf with cleanupContinue := next } : Shelf).Ordered platform :=
    ⟨ordered.names, ordered.named, ordered.versioned, ordered.addressed⟩
  apply (cleanupCandidates_ensures orderedMarked stored).bind
  rintro state removed (⟨rfl, removes⟩ | ⟨rfl, same, alive⟩)
  · apply ensures_done
    exact Or.inl removes
  rw [same]
  rcases ordered.page positive token with ⟨ended, all⟩ | ⟨more, shown, split⟩
  · rw [if_pos ended] at nextEq
    subst nextEq
    apply ensures_done
    refine Or.inr ⟨⟨rfl, _, alive, Or.inl ⟨rfl, all.symm⟩⟩, nofun⟩
  · rw [if_neg more] at nextEq
    subst nextEq
    dsimp only
    rw [if_neg (by decide)]
    apply (rest { shelf with cleanupContinue := some _ } _ rfl rfl).mono
    rintro after _ (removes | passes)
    · exact Or.inl removes
    · refine Or.inr ⟨passes.after_page rfl alive split, fun later moved => ?_⟩
      have further : (shelf.pending (some later)).length ≤
          (shelf.pending (some (shelf.page limit token).continueToken)).length :=
        passes.length_le moved
      have nonempty := List.length_pos_iff.mpr shown
      have whole := congrArg List.length split
      rw [List.length_append] at whole
      exact lt_of_le_of_lt further (by omega)

/-- The pages of one cleanup. -/
theorem cleanupPages_ensures (ordered : shelf.Ordered platform) (positive : 0 < limit)
    (pages : Nat) (next : String) (marked : shelf.cleanupContinue = some next) :
    Ensures (api limit) () (cleanupPages platform now pages (some next)) shelf fun after _ =>
      Removes platform now shelf after ∨ Passes platform now shelf (some next) after := by
  induction pages generalizing shelf next with
  | zero =>
      apply ensures_done
      exact Or.inr ⟨rfl, [], nofun, Or.inr ⟨next, marked, rfl⟩⟩
  | succ pages inductionHypothesis =>
      apply (cleanupPage_ensures ordered positive ?_).mono
      · rintro after _ (removes | passes)
        · exact Or.inl removes
        · exact Or.inr passes.1
      · intro state later same moved
        apply inductionHypothesis _ later moved
        exact ⟨same ▸ ordered.names, same ▸ ordered.named, same ▸ ordered.versioned,
          same ▸ ordered.addressed⟩

/-- One cleanup removes an expired lease, or it moves the token past leases that are not
expired. -/
theorem cleanupOne_ensures (ordered : shelf.Ordered platform) (positive : 0 < limit) :
    Ensures (api limit) () (cleanupOne platform now) shelf fun after _ =>
      Removes platform now shelf after ∨
        Passes platform now shelf shelf.cleanupContinue after ∧
          Shortens shelf shelf.cleanupContinue after := by
  apply ensures_call
  rintro token _ ⟨rfl, rfl⟩
  apply cleanupPage_ensures ordered positive
  intro state next same marked
  apply cleanupPages_ensures _ positive 1 next marked
  exact ⟨same ▸ ordered.names, same ▸ ordered.named, same ▸ ordered.versioned,
    same ▸ ordered.addressed⟩

end Cleanup

section Draining

variable {platform : Platform} {shelf before after : Shelf} {limit : Nat}
  {now since : DateTime} {readings : List DateTime}

/-- One cleanup at a clock reading. -/
def Cleans (platform : Platform) (limit : Nat) (before : Shelf) (now : DateTime)
    (after : Shelf) : Prop :=
  Executes (api limit) () (cleanupOne platform now) before after ()

/-- Some lease was expired at the instant. -/
def Busy (platform : Platform) (since : DateTime) (shelf : Shelf) : Prop :=
  ∃ lease ∈ shelf.leases, expired platform lease since = true

/-- The leases that the token still leaves to be shown. -/
def todo (shelf : Shelf) : List Lease :=
  shelf.pending shelf.cleanupContinue

/-- How many pages and removals are left at most: while the token has passed every
expired lease, the list has to be begun again. -/
def remaining (platform : Platform) (since : DateTime) (shelf : Shelf) : Nat :=
  shelf.leases.length * (shelf.leases.length + 1) + shelf.todo.length +
    if shelf.todo.any (fun lease => expired platform lease since) then 0
    else shelf.leases.length + 1

theorem expired_of_le {lease : Lease} (later : since ≤ now)
    (isExpired : expired platform lease since = true) :
    expired platform lease now = true := by
  rcases expired_iff.mp isExpired with ⟨owned, positive, renewedAt, parsed, reached⟩
  rw [DateTime.le_iff] at later reached
  exact expired_iff.mpr ⟨owned, positive, renewedAt, parsed,
    DateTime.le_iff.mpr (reached.trans later)⟩

theorem labelled_of_expired {lease : Lease} (isExpired : expired platform lease now = true) :
    labelled lease = true := by
  have owned := (expired_iff.mp isExpired).1
  unfold ownedLedgerLease at owned
  rw [Bool.and_eq_true] at owned
  exact owned.1

theorem todo_length_le (shelf : Shelf) : shelf.todo.length ≤ shelf.leases.length :=
  (pending_sublist shelf shelf.cleanupContinue).length_le

theorem Cleans.effect (cleans : Cleans platform limit before now after)
    (ordered : before.Ordered platform) (positive : 0 < limit) :
    Removes platform now before after ∨
      Passes platform now before before.cleanupContinue after ∧
        Shortens before before.cleanupContinue after :=
  (cleanupOne_ensures ordered positive).result _ _ cleans

theorem Ordered.sublist (ordered : before.Ordered platform)
    (fewer : after.leases.Sublist before.leases) : after.Ordered platform :=
  ⟨ordered.names.sublist fewer, fun lease member => ordered.named lease (fewer.subset member),
    fun lease member => ordered.versioned lease (fewer.subset member),
    fun lease member => ordered.addressed lease (fewer.subset member)⟩

theorem Cleans.sublist (cleans : Cleans platform limit before now after)
    (ordered : before.Ordered platform) (positive : 0 < limit) :
    after.leases.Sublist before.leases := by
  rcases cleans.effect ordered positive with ⟨lease, _, _, fewer⟩ | ⟨⟨same, _⟩, _⟩
  · rw [fewer]
    exact List.filter_sublist
  · rw [same]

/-- What is not expired is kept. -/
theorem Cleans.keeps (cleans : Cleans platform limit before now after)
    (ordered : before.Ordered platform) (positive : 0 < limit) {lease : Lease}
    (member : lease ∈ before.leases) (alive : expired platform lease now = false) :
    lease ∈ after.leases := by
  rcases cleans.effect ordered positive with ⟨removed, stored, dead, fewer⟩ | ⟨⟨same, _⟩, _⟩
  · rw [fewer]
    refine List.mem_filter.mpr ⟨member, ?_⟩
    have different : lease.metadata.name ≠ removed.metadata.name := by
      intro sameName
      have found := ordered.find member
      rw [sameName, ordered.find stored, Option.some.injEq] at found
      rw [← found, dead] at alive
      contradiction
    simpa using different
  · rwa [same]

/-- A removal leaves less than there was, whatever the token. -/
theorem remaining_of_removes (removes : Removes platform now before after) :
    remaining platform since after < remaining platform since before := by
  rcases removes with ⟨lease, member, _, fewer⟩
  have less : after.leases.length < before.leases.length := by
    rw [fewer]
    exact List.length_filter_lt_length_iff_exists.mpr ⟨lease, member, by simp⟩
  have bounded := todo_length_le after
  have square : after.leases.length * (after.leases.length + 1) +
      2 * (after.leases.length + 1) ≤ before.leases.length * (before.leases.length + 1) := by
    calc after.leases.length * (after.leases.length + 1) + 2 * (after.leases.length + 1)
        = (after.leases.length + 1) * (after.leases.length + 1 + 1) := by ring
      _ ≤ before.leases.length * (before.leases.length + 1) := Nat.mul_le_mul less (by omega)
  unfold remaining
  split <;> split <;> omega

/-- A pass leaves fewer leases to be shown, or it begins the list again for the sake of
one that the token had passed. -/
theorem remaining_of_passes (later : since ≤ now)
    (passes : Passes platform now before before.cleanupContinue after)
    (shortens : Shortens before before.cleanupContinue after)
    (busy : Busy platform since after) :
    remaining platform since after < remaining platform since before := by
  rcases passes with ⟨same, skipped, alive, rest⟩
  have none : skipped.any (fun lease => expired platform lease since) = false := by
    rw [List.any_eq_false]
    intro lease member dead
    have dead := expired_of_le later dead
    rw [alive lease member] at dead
    contradiction
  rcases rest with ⟨ended, all⟩ | ⟨next, moved, all⟩
  · have again : after.todo.any (fun lease => expired platform lease since) = true := by
      rcases busy with ⟨lease, member, dead⟩
      rw [todo, ended]
      have shown := List.mem_filter.mpr ⟨member, labelled_of_expired dead⟩
      exact List.any_eq_true.mpr ⟨lease, shown, dead⟩
    have bounded := todo_length_le after
    rw [same] at bounded
    unfold remaining
    rw [if_pos again, if_neg (by rw [todo, all, none]; decide), same]
    omega
  · have left : after.todo = before.pending (some next) := by
      rw [todo, moved, pending_congr same]
    have fewer := shortens next moved
    unfold remaining
    rw [left, todo, all, List.any_append, none, Bool.false_or, same, ← all]
    exact Nat.add_lt_add_right (Nat.add_lt_add_left fewer _) _

/-- While an expired lease is left, every cleanup leaves less to do. -/
theorem Cleans.decreases (cleans : Cleans platform limit before now after)
    (ordered : before.Ordered platform) (positive : 0 < limit) (later : since ≤ now)
    (busy : Busy platform since after) :
    Busy platform since before ∧
      remaining platform since after < remaining platform since before := by
  constructor
  · rcases busy with ⟨lease, member, dead⟩
    exact ⟨lease, (cleans.sublist ordered positive).subset member, dead⟩
  · rcases cleans.effect ordered positive with removes | ⟨passes, shortens⟩
    · exact remaining_of_removes removes
    · exact remaining_of_passes later passes shortens busy

theorem remaining_lt (shelf : Shelf) :
    remaining platform since shelf <
      (shelf.leases.length + 1) * (shelf.leases.length + 2) := by
  have bounded := todo_length_le shelf
  have square : (shelf.leases.length + 1) * (shelf.leases.length + 2) =
      shelf.leases.length * (shelf.leases.length + 1) + 2 * shelf.leases.length + 2 := by
    ring
  unfold remaining
  split <;> omega

theorem sublist_of_run (ordered : shelf.Ordered platform) (positive : 0 < limit)
    (run : Run (Cleans platform limit) shelf readings after) :
    after.Ordered platform ∧ after.leases.Sublist shelf.leases := by
  refine run.invariant (fun state => state.Ordered platform ∧
    state.leases.Sublist shelf.leases) ?_ ⟨ordered, List.Sublist.refl _⟩
  rintro source now target ⟨ordered, fewer⟩ cleans
  have sublist := cleans.sublist ordered positive
  exact ⟨ordered.sublist sublist, sublist.trans fewer⟩

theorem mem_of_run (ordered : shelf.Ordered platform) (positive : 0 < limit) {lease : Lease}
    (member : lease ∈ shelf.leases) (never : ∀ now ∈ readings, expired platform lease now = false)
    (run : Run (Cleans platform limit) shelf readings after) : lease ∈ after.leases := by
  refine (run.invariant_of_allowed (fun state => state.Ordered platform ∧ lease ∈ state.leases)
    (fun now => expired platform lease now = false) ?_ never ⟨ordered, member⟩).2
  rintro source now target ⟨ordered, member⟩ alive cleans
  exact ⟨ordered.sublist (cleans.sublist ordered positive),
    cleans.keeps ordered positive member alive⟩

/-- The server answers every request of cleanup. -/
theorem exists_cleans (platform : Platform) (limit : Nat) (before : Shelf) (now : DateTime) :
    ∃ after, Cleans platform limit before now after := by
  have answered : ∀ (state : Shelf) op, True →
      ∃ answer after, (api limit).perform () state op answer after ∧ True := by
    rintro state op _
    cases op with
    | utcNow => exact ⟨now, state, rfl, trivial⟩
    | credential => exact ⟨some "token", state, ⟨rfl, "token", rfl, by decide⟩, trivial⟩
    | cleanupContinue => exact ⟨_, state, ⟨rfl, rfl⟩, trivial⟩
    | setCleanupContinue token => exact ⟨(), _, rfl, trivial⟩
    | get url => exact ⟨_, state, ⟨rfl, rfl⟩, trivial⟩
    | list token => exact ⟨_, state, ⟨rfl, rfl⟩, trivial⟩
    | other op => exact op.elim
    | send op =>
        cases op with
        | post lease => exact ⟨some 403, state, ⟨rfl, rfl⟩, trivial⟩
        | put url lease => exact ⟨some 403, state, ⟨rfl, rfl⟩, trivial⟩
        | delete url version =>
            by_cases current : ∃ lease, state.find url = some lease ∧
                lease.metadata.resourceVersion = some version
            · rcases current with ⟨lease, found, versioned⟩
              exact ⟨some 200, _, Or.inl ⟨lease, found, versioned, rfl, rfl⟩, trivial⟩
            · refine ⟨some 409, state, Or.inr ⟨?_, rfl, rfl⟩, trivial⟩
              intro lease found versioned
              exact current ⟨lease, found, versioned⟩
  rcases exists_executes (cleanupOne platform now) (fun _ => True) answered trivial with
    ⟨after, _, executes, _⟩
  exact ⟨after, executes⟩

end Draining

end Shelf

/-- Cleanup drains the ledger.  Cleanups run to their ends; so many of them remove every
lease that had expired before the first and keep every lease that never expires, however
the leases are divided into pages and wherever the continue token stands at first. -/
theorem cleanup_drains {platform : Platform} {shelf : Shelf} {limit : Nat} {since : DateTime}
    {readings : List DateTime} (ordered : shelf.Ordered platform) (positive : 0 < limit)
    (later : ∀ now ∈ readings, since ≤ now)
    (enough : (shelf.leases.length + 1) * (shelf.leases.length + 2) ≤ readings.length) :
    (∃ after, Run (Shelf.Cleans platform limit) shelf readings after) ∧
      ∀ after, Run (Shelf.Cleans platform limit) shelf readings after →
        after.leases.Sublist shelf.leases ∧
        (∀ lease ∈ after.leases, expired platform lease since = false) ∧
        ∀ lease ∈ shelf.leases, (∀ now ∈ readings, expired platform lease now = false) →
          lease ∈ after.leases := by
  refine ⟨Run.exists_of_total (Shelf.exists_cleans platform limit) shelf readings, ?_⟩
  intro after run
  refine ⟨(Shelf.sublist_of_run ordered positive run).2, fun lease member => ?_, ?_⟩
  · have calm : ¬ Shelf.Busy platform since after :=
      run.settles (Shelf.remaining platform since)
        (fun ordered (_ : since ≤ _) cleans =>
          ordered.sublist (Shelf.Cleans.sublist cleans ordered positive))
        (fun ordered later cleans busy =>
          Shelf.Cleans.decreases cleans ordered positive later busy)
        ordered later (lt_of_lt_of_le (Shelf.remaining_lt shelf) enough)
    exact Bool.eq_false_iff.mpr fun dead => calm ⟨lease, member, dead⟩
  · intro lease member never
    exact Shelf.mem_of_run ordered positive member never run

/-- The lease of the key `a`, renewed at the instant of the text, under another name. -/
def shelvedLease (name renewTime : String) : Lease :=
  { sampleLease with
    metadata := { sampleLease.metadata with name := name, resourceVersion := some "1" }
    spec := { sampleLease.spec with renewTime := renewTime } }

/-- A lease that is not expired at 1400 s, followed by one that is. -/
def sampleShelf : Shelf where
  leases :=
    [shelvedLease "a" "1970-01-01T00:23:20.000000Z",
      shelvedLease "b" "1970-01-01T00:15:00.000000Z"]
  cleanupContinue := some "b"

/-- The token has passed both leases at first, and every page shows one. -/
theorem cleanup_drains_sample :
    ∃ after, Run (Shelf.Cleans samplePlatform 1) sampleShelf
        (List.replicate 12 (.ofSeconds 1400)) after ∧
      shelvedLease "a" "1970-01-01T00:23:20.000000Z" ∈ after.leases ∧
      shelvedLease "b" "1970-01-01T00:15:00.000000Z" ∉ after.leases := by
  have ordered : sampleShelf.Ordered samplePlatform :=
    ⟨by decide, by decide, by decide, fun _ _ => rfl⟩
  have later : ∀ now ∈ List.replicate 12 (DateTime.ofSeconds 1400),
      DateTime.ofSeconds 1400 ≤ now := by decide
  have never : ∀ now ∈ List.replicate 12 (DateTime.ofSeconds 1400),
      expired samplePlatform (shelvedLease "a" "1970-01-01T00:23:20.000000Z") now = false := by
    decide
  rcases cleanup_drains ordered Nat.one_pos later (by decide) with ⟨⟨after, run⟩, all⟩
  rcases all after run with ⟨_, gone, kept⟩
  refine ⟨after, run, kept _ List.mem_cons_self never, fun member => ?_⟩
  have dead := gone _ member
  revert dead
  decide

end OidcExchange.Replay
