import OidcExchange.Process.Budget
import OidcExchange.Process.Trace
import OidcExchange.Replay.Ledger

/-!
# What one use sends to the API

Whatever the API answers and wherever the call is dropped, one use sends at most ten
requests, and they concern the Lease of its own key or an expired Lease of the ledger
that the API has just listed.
-/

namespace OidcExchange.Replay

open OidcExchange.Process

variable {X : Type} {other : X → Type} {platform : Platform}

/-- The requests to the API. -/
def Op.requests : Op X → Nat
  | .send _ => 1
  | .get _ => 1
  | .list _ => 1
  | _ => 0

section Budgets

variable {α : Type}

/-- The program sends at most `requests` requests. -/
abbrev Sends (requests : Nat) (program : LedgerProgram other α) : Prop :=
  ∀ budget, program.Within Op.requests (fun _ => budget) (budget + requests)

theorem credential_sends : Sends 0 (credential : LedgerProgram other _) := by
  intro budget
  exact Program.within_call fun _ => Program.within_done le_rfl

theorem create_sends (lease : Lease) : Sends 1 (create lease : LedgerProgram other _) := by
  intro budget
  apply (credential_sends (budget + 1)).bindOk
  · intro failure
    exact Nat.le_succ _
  · intro _
    exact Program.within_call fun _ => Program.within_done le_rfl

/-- A request to one item, if its name can be resolved. -/
theorem item_sends {name : String} {β : Type}
    {next : String → LedgerProgram other (Except ReplayError β)}
    (rest : ∀ url, Sends 1 (next url)) :
    Sends 1 (credential.bindOk fun _ =>
      (Program.done (itemUrl platform name)).bindOk next : LedgerProgram other _) := by
  intro budget
  apply (credential_sends (budget + 1)).bindOk
  · intro failure
    exact Nat.le_succ _
  · intro _
    cases itemUrl platform name with
    | error failure => exact Program.within_done (Nat.le_succ _)
    | ok url => exact rest url budget

theorem get_sends (name : String) : Sends 1 (get platform name : LedgerProgram other _) :=
  item_sends fun _ _ => Program.within_call fun _ => Program.within_done le_rfl

theorem update_sends (name : String) (lease : Lease) :
    Sends 1 (update platform name lease : LedgerProgram other _) :=
  item_sends fun _ _ => Program.within_call fun _ => Program.within_done le_rfl

theorem delete_sends (name resourceVersion : String) :
    Sends 1 (delete platform name resourceVersion : LedgerProgram other _) :=
  item_sends fun _ _ => Program.within_call fun _ => Program.within_done le_rfl

theorem list_sends (token : Option String) : Sends 1 (list token : LedgerProgram other _) := by
  intro budget
  apply (credential_sends (budget + 1)).bindOk
  · intro failure
    exact Nat.le_succ _
  · intro _
    exact Program.within_call fun _ => Program.within_done le_rfl

/-- Every attempt reads the Lease and replaces or creates it. -/
theorem reclaimAttempts_sends (name : String) (replacement : Lease) (now : DateTime)
    (attempts : List Nat) :
    Sends (2 * attempts.length)
      (reclaimAttempts platform name replacement now attempts : LedgerProgram other _) := by
  induction attempts with
  | nil =>
      intro budget
      exact Program.within_done le_rfl
  | cons attempt attempts inductionHypothesis =>
      intro budget
      rw [List.length_cons, Nat.mul_succ, ← Nat.add_assoc]
      have enough : budget ≤ budget + 2 * attempts.length := Nat.le_add_right _ _
      apply (get_sends name (budget + 2 * attempts.length + 1)).bindOk
      · intro failure
        exact Nat.le_succ_of_le enough
      · intro existing
        cases existing with
        | none =>
            apply (create_sends replacement (budget + 2 * attempts.length)).bindOk
            · intro failure
              exact enough
            · intro result
              cases result with
              | created => exact Program.within_done enough
              | conflict => exact Program.within_done enough
        | some existing =>
            dsimp only
            split
            · exact Program.within_done (Nat.le_succ_of_le enough)
            · split
              · exact Program.within_done (Nat.le_succ_of_le enough)
              · apply (update_sends name _ (budget + 2 * attempts.length)).bindOk
                · intro failure
                  exact enough
                · intro result
                  cases result with
                  | updated => exact Program.within_done enough
                  | conflict =>
                      dsimp only
                      split
                      · exact inductionHypothesis budget
                      · exact Program.within_done enough

/-- What a page may still cost once its candidates have been read. -/
def afterCandidates (budget : Nat) : Bool → Nat
  | true => budget
  | false => budget + 1

/-- Each candidate is read, and the first one that qualifies is deleted. -/
theorem cleanupCandidates_within (now : DateTime) (leases : List Lease) (budget : Nat) :
    (cleanupCandidates platform now leases : LedgerProgram other _).Within Op.requests
      (afterCandidates budget) (budget + 1 + leases.length) := by
  induction leases with
  | nil => exact Program.within_done le_rfl
  | cons lease leases inductionHypothesis =>
      apply (get_sends lease.metadata.name (budget + 1 + leases.length)).bind
      intro response
      rcases response with failure | current
      · exact inductionHypothesis
      · cases current with
        | none => exact inductionHypothesis
        | some current =>
            dsimp only
            split
            · exact inductionHypothesis
            · split
              · exact inductionHypothesis
              · rename_i resourceVersion _
                apply ((delete_sends lease.metadata.name resourceVersion budget).mono
                  (Nat.le_add_right _ leases.length)).bind
                intro _
                exact Program.within_done le_rfl

theorem setCleanupContinue_sends (token : Option String) :
    Sends 0 (setCleanupContinue token : LedgerProgram other _) := by
  intro budget
  exact Program.within_call fun _ => Program.within_done le_rfl

/-- Every page is listed, one candidate is read, and one Lease is deleted on the way. -/
theorem cleanupPages_sends (now : DateTime) (pages : Nat) (token : Option String) :
    Sends (1 + 2 * pages) (cleanupPages platform now pages token : LedgerProgram other _) := by
  induction pages generalizing token with
  | zero =>
      intro budget
      exact Program.within_done (Nat.le_add_right _ _)
  | succ pages inductionHypothesis =>
      intro budget
      have total : budget + (1 + 2 * (pages + 1)) = budget + 2 * pages + 1 + 1 + 1 := by
        omega
      rw [total]
      apply (list_sends token (budget + 2 * pages + 1 + 1)).bind
      intro response
      cases response with
      | error failure => exact (setCleanupContinue_sends none budget).mono (by omega)
      | ok leases =>
          refine (setCleanupContinue_sends _ (budget + 2 * pages + 1 + 1)).bind fun _ => ?_
          have few : ((expiredOwnedLeases platform leases.items now).take
              maxCleanupPerExchange).length ≤ 1 :=
            List.length_take_le _ _
          apply ((cleanupCandidates_within now _ (budget + 2 * pages)).mono
            (Nat.add_le_add_left few _)).bind
          intro deleted
          cases deleted with
          | true => exact Program.within_done (Nat.le_add_right _ _)
          | false =>
              have rest : budget + (1 + 2 * pages) = afterCandidates (budget + 2 * pages) false := by
                rw [afterCandidates]
                omega
              rw [← rest]
              cases (if leases.continueToken = "" then none else some leases.continueToken) with
              | none => exact Program.within_done (Nat.le_add_right _ _)
              | some next => exact inductionHypothesis (some next) budget

theorem cleanupOne_sends (now : DateTime) :
    Sends 5 (cleanupOne platform now : LedgerProgram other _) := by
  intro budget
  exact Program.within_call fun token => cleanupPages_sends now 2 token budget

theorem useOnce_sends (jti : String) (expiresAt : Int) :
    Sends 10 (useOnce platform jti expiresAt : LedgerProgram other _) := by
  intro budget
  refine Program.within_call fun now => ?_
  simp only [Program.bind_done]
  have used : budget ≤ budget + 9 := Nat.le_add_right _ _
  split
  · exact Program.within_done (Nat.le_succ_of_le used)
  · rename_i lease _
    apply (create_sends lease (budget + 9)).bindOk
    · intro failure
      exact used
    · intro result
      cases result with
      | created =>
          apply ((cleanupOne_sends now budget).mono (Nat.add_le_add_left (by decide) _)).bind
          intro _
          exact Program.within_done le_rfl
      | conflict =>
          apply (reclaimAttempts_sends lease.metadata.name lease now [0, 1] (budget + 5)).bindOk
          · intro failure
            exact Nat.le_add_right _ _
          · intro _
            apply (cleanupOne_sends now budget).bind
            intro _
            exact Program.within_done le_rfl

end Budgets

section Law

variable (platform) (jti : String)

/-- The page that lists a Lease of the ledger as expired at the call's reading. -/
def Listed (history : List (Event (Answer other))) (name : String) : Prop :=
  ∃ now token leases, (⟨.utcNow, now⟩ : Event (Answer other)) ∈ history ∧
    (⟨.list token, some (200, some leases)⟩ : Event (Answer other)) ∈ history ∧
    ∃ lease ∈ expiredOwnedLeases platform leases.items now, lease.metadata.name = name

/-- The call has read this Lease of the ledger as expired, with this version. -/
def ReadExpired (history : List (Event (Answer other))) (url resourceVersion : String) : Prop :=
  ∃ now lease, (⟨.utcNow, now⟩ : Event (Answer other)) ∈ history ∧
    (⟨.get url, some (200, some lease)⟩ : Event (Answer other)) ∈ history ∧
    ownedLedgerLease lease = true ∧ expired platform lease now = true ∧
    lease.metadata.resourceVersion = some resourceVersion

/-- What a call for the key may do after `history`: create the Lease of the key, read and
replace it, and read or delete what a page has listed as expired. -/
def UseLaw (history : List (Event (Answer other))) : Op X → Prop
  | .send (.post lease) => lease.metadata.name = leaseName platform jti
  | .send (.put url lease) => platform.itemUrl (leaseName platform jti) = some url ∧
      lease.metadata.name = leaseName platform jti ∧
      ∃ resourceVersion, lease.metadata.resourceVersion = some resourceVersion ∧
        ReadExpired platform history url resourceVersion
  | .send (.delete url resourceVersion) =>
      (∃ name, platform.itemUrl name = some url ∧ Listed platform history name) ∧
        ReadExpired platform history url resourceVersion
  | .get url => platform.itemUrl (leaseName platform jti) = some url ∨
      ∃ name, platform.itemUrl name = some url ∧ Listed platform history name
  | .utcNow => history = []
  | .other _ => False
  | _ => True

/-- Every request that may have changed the store was answered by a conflict. -/
def Conflicted (history : List (Event (Answer other))) : Prop :=
  ∀ request status, (⟨.send request, status⟩ : Event (Answer other)) ∈ history →
    status = some 409

/-- The call has read the Lease of its key and found it unexpired. -/
def ReadUnexpired (history : List (Event (Answer other))) : Prop :=
  ∃ now url lease, (⟨.utcNow, now⟩ : Event (Answer other)) ∈ history ∧
    platform.itemUrl (leaseName platform jti) = some url ∧
    (⟨.get url, some (200, some lease)⟩ : Event (Answer other)) ∈ history ∧
    expired platform lease now = false

end Law

variable {jti : String}

/-- More has happened, but nothing that could have changed the store. -/
structure Quietly (history later : List (Event (Answer other))) : Prop where
  before : ∀ event ∈ history, event ∈ later
  conflicted : Conflicted history → Conflicted later

theorem Quietly.refl (history : List (Event (Answer other))) : Quietly history history :=
  ⟨fun _ member => member, id⟩

theorem Quietly.trans {first second third : List (Event (Answer other))}
    (earlier : Quietly first second) (later : Quietly second third) : Quietly first third :=
  ⟨fun event member => later.before event (earlier.before event member),
    fun known => later.conflicted (earlier.conflicted known)⟩

/-- One more operation that is no request to change the store, or was answered by a
conflict. -/
theorem Quietly.snoc (history : List (Event (Answer other))) {op : Op X}
    {answer : Answer other op}
    (harmless : ∀ request status, (⟨op, answer⟩ : Event (Answer other)) = ⟨.send request, status⟩ →
      status = some 409) :
    Quietly history (history ++ [⟨op, answer⟩]) where
  before event member := List.mem_append_left _ member
  conflicted known request status member := by
    rcases List.mem_append.mp member with member | last
    · exact known request status member
    · exact harmless request status (List.mem_singleton.mp last).symm

theorem Listed.mono {history later : List (Event (Answer other))} {name : String}
    (listed : Listed platform history name) (grows : ∀ event ∈ history, event ∈ later) :
    Listed platform later name := by
  rcases listed with ⟨now, token, leases, read, page, candidate⟩
  exact ⟨now, token, leases, grows _ read, grows _ page, candidate⟩

theorem ReadExpired.mono {history later : List (Event (Answer other))}
    {url resourceVersion : String} (found : ReadExpired platform history url resourceVersion)
    (grows : ∀ event ∈ history, event ∈ later) :
    ReadExpired platform later url resourceVersion := by
  rcases found with ⟨now, lease, read, answered, facts⟩
  exact ⟨now, lease, grows _ read, grows _ answered, facts⟩

section Programs

variable {α : Type} {history : List (Event (Answer other))}

/-- `final` holds of whatever has happened after `history` in a lawful run. -/
abbrev Obeys (platform : Platform) (jti : String) (history : List (Event (Answer other)))
    (final : List (Event (Answer other)) → α → Prop) (program : LedgerProgram other α) : Prop :=
  program.Lawful (UseLaw platform jti) final history

/-- A failure other than a detected replay. -/
def NotReplayed : Except ReplayError α → Prop
  | .error .replayed => False
  | _ => True

theorem credential_obeys :
    Obeys platform jti history (fun later result => Quietly history later ∧ NotReplayed result)
      (credential : LedgerProgram other _) := by
  refine ⟨trivial, fun text => ?_⟩
  refine ⟨.snoc history ?_, ?_⟩
  · intro request status same
    cases same
  · unfold credentialResult
    split
    · trivial
    · split <;> trivial

/-- One request to one item, if its name can be resolved. -/
theorem item_obeys {name : String} {β : Type}
    {next : String → LedgerProgram other (Except ReplayError β)}
    {final : List (Event (Answer other)) → Except ReplayError β → Prop}
    (failed : ∀ later failure, Quietly history later →
      NotReplayed (.error failure : Except ReplayError β) → final later (.error failure))
    (rest : ∀ later url, Quietly history later → platform.itemUrl name = some url →
      Obeys platform jti later final (next url)) :
    Obeys platform jti history final (credential.bindOk fun _ =>
      (Program.done (itemUrl platform name)).bindOk next) := by
  apply credential_obeys.bindOk
  · rintro later failure ⟨quiet, notReplayed⟩
    apply failed later failure quiet
    cases failure <;> trivial
  · rintro later text ⟨quiet, _⟩
    cases resolved : platform.itemUrl name with
    | none =>
        rw [itemUrl, resolved]
        exact failed later .unavailable quiet trivial
    | some url =>
        rw [itemUrl, resolved]
        exact rest later url quiet resolved

theorem create_obeys {lease : Lease} (named : lease.metadata.name = leaseName platform jti) :
    Obeys platform jti history
      (fun later result => (∀ event ∈ history, event ∈ later) ∧ NotReplayed result ∧
        (result = .ok .conflict → Quietly history later))
      (create lease : LedgerProgram other _) := by
  apply credential_obeys.bindOk
  · rintro later failure ⟨quiet, notReplayed⟩
    refine ⟨quiet.before, ?_, fun conflict => by contradiction⟩
    cases failure <;> trivial
  · rintro later text ⟨quiet, _⟩
    refine ⟨named, fun status => ?_⟩
    refine ⟨fun event member => List.mem_append_left _ (quiet.before event member), ?_, ?_⟩
    · unfold createResult
      split <;> trivial
    · intro conflict
      apply quiet.trans
      apply Quietly.snoc
      intro request answered same
      cases same
      unfold createResult at conflict
      split at conflict <;> simp_all

theorem get_obeys {name : String}
    (allowed : ∀ later url, Quietly history later → platform.itemUrl name = some url →
      UseLaw platform jti later (.get url : Op X)) :
    Obeys platform jti history
      (fun later result => Quietly history later ∧ NotReplayed result ∧
        ∀ lease, result = .ok (some lease) → ∃ url, platform.itemUrl name = some url ∧
          (⟨.get url, some (200, some lease)⟩ : Event (Answer other)) ∈ later)
      (get platform name : LedgerProgram other _) := by
  apply item_obeys
  · intro later failure quiet notReplayed
    refine ⟨quiet, ?_, fun lease found => by contradiction⟩
    cases failure <;> trivial
  · intro later url quiet resolved
    refine ⟨allowed later url quiet resolved, fun response => ?_⟩
    refine ⟨quiet.trans (.snoc later fun _ _ same => by cases same), ?_, ?_⟩
    · unfold getResult
      split <;> trivial
    · intro lease found
      rw [getResult_eq_some] at found
      subst found
      exact ⟨url, resolved, List.mem_append_right _ List.mem_cons_self⟩

theorem update_obeys {name : String} {lease : Lease}
    (allowed : ∀ later url, Quietly history later → platform.itemUrl name = some url →
      UseLaw platform jti later (.send (.put url lease) : Op X)) :
    Obeys platform jti history
      (fun later result => (∀ event ∈ history, event ∈ later) ∧ NotReplayed result ∧
        (result = .ok .conflict → Quietly history later))
      (update platform name lease : LedgerProgram other _) := by
  apply item_obeys
  · intro later failure quiet notReplayed
    refine ⟨quiet.before, ?_, fun conflict => by contradiction⟩
    cases failure <;> trivial
  · intro later url quiet resolved
    refine ⟨allowed later url quiet resolved, fun status => ?_⟩
    refine ⟨fun event member => List.mem_append_left _ (quiet.before event member), ?_, ?_⟩
    · unfold updateResult
      split <;> trivial
    · intro conflict
      apply quiet.trans
      apply Quietly.snoc
      intro request answered same
      cases same
      unfold updateResult at conflict
      split at conflict <;> simp_all

/-- What is known when a use ends: a detected replay has left the store alone and has read
the Lease of the key unexpired. -/
def Justly (platform : Platform) (jti : String) (later : List (Event (Answer other)))
    (result : Except ReplayError Unit) : Prop :=
  result = .error .replayed → Conflicted later ∧ ReadUnexpired platform jti later

theorem Justly.of_notReplayed {later : List (Event (Answer other))}
    {result : Except ReplayError Unit} (notReplayed : NotReplayed result) :
    Justly platform jti later result := by
  rintro rfl
  exact notReplayed.elim

variable {now : DateTime}

/-- The loop of `reclaim_expired`, as long as nothing has changed the store. -/
theorem reclaimAttempts_obeys {replacement : Lease} (attempts : List Nat)
    (named : replacement.metadata.name = leaseName platform jti)
    (read : (⟨.utcNow, now⟩ : Event (Answer other)) ∈ history) (conflicted : Conflicted history) :
    Obeys platform jti history
      (fun later result => (⟨.utcNow, now⟩ : Event (Answer other)) ∈ later ∧
        Justly platform jti later result)
      (reclaimAttempts platform replacement.metadata.name replacement now attempts :
        LedgerProgram other _) := by
  induction attempts generalizing history with
  | nil => exact ⟨read, Justly.of_notReplayed trivial⟩
  | cons attempt attempts inductionHypothesis =>
      apply (get_obeys fun later url _ resolved => ?_).bindOk
      · rintro later failure ⟨quiet, notReplayed, _⟩
        refine ⟨quiet.before _ read, Justly.of_notReplayed ?_⟩
        cases failure <;> trivial
      · rintro later existing ⟨quiet, _, found⟩
        have read := quiet.before _ read
        have conflicted := quiet.conflicted conflicted
        cases existing with
        | none =>
            apply (create_obeys named).bindOk
            · rintro last failure ⟨grows, notReplayed, _⟩
              refine ⟨grows _ read, Justly.of_notReplayed ?_⟩
              cases failure <;> trivial
            · rintro last result ⟨grows, _, _⟩
              cases result with
              | created => exact ⟨grows _ read, Justly.of_notReplayed trivial⟩
              | conflict => exact ⟨grows _ read, Justly.of_notReplayed trivial⟩
        | some existing =>
            rcases found existing rfl with ⟨url, resolved, answered⟩
            rw [named] at resolved
            dsimp only
            split
            · rename_i unexpired
              exact ⟨read, fun _ => ⟨conflicted, now, url, existing, read, resolved, answered,
                unexpired⟩⟩
            · rename_i isExpired
              split
              · exact ⟨read, Justly.of_notReplayed trivial⟩
              · rename_i resourceVersion reported
                have expiredNow := Bool.not_eq_false _ ▸ isExpired
                have readExpired : ReadExpired platform later url resourceVersion :=
                  ⟨now, existing, read, answered, (expired_iff.mp expiredNow).1, expiredNow,
                    (Option.filter_eq_some_iff.mp reported).1⟩
                apply (update_obeys fun last url' quiet resolved' => ?_).bindOk
                · rintro last failure ⟨grows, notReplayed, _⟩
                  refine ⟨grows _ read, Justly.of_notReplayed ?_⟩
                  cases failure <;> trivial
                · rintro last result ⟨grows, _, quiet⟩
                  cases result with
                  | updated => exact ⟨grows _ read, Justly.of_notReplayed trivial⟩
                  | conflict =>
                      dsimp only
                      split
                      · exact inductionHypothesis (grows _ read)
                          ((quiet rfl).conflicted conflicted)
                      · exact ⟨grows _ read, Justly.of_notReplayed trivial⟩
                · rw [named] at resolved'
                  have urlEq : url' = url := by
                    rw [resolved, Option.some.injEq] at resolved'
                    exact resolved'.symm
                  subst urlEq
                  exact ⟨resolved, named, resourceVersion, rfl, readExpired.mono quiet.before⟩
      · exact Or.inl (by rwa [named] at resolved)

theorem delete_obeys {name resourceVersion : String}
    (allowed : ∀ later url, Quietly history later → platform.itemUrl name = some url →
      UseLaw platform jti later (.send (.delete url resourceVersion) : Op X)) :
    Obeys platform jti history (fun later _ => ∀ event ∈ history, event ∈ later)
      (delete platform name resourceVersion : LedgerProgram other _) := by
  apply item_obeys
  · intro later failure quiet _
    exact quiet.before
  · intro later url quiet resolved
    refine ⟨allowed later url quiet resolved, fun status => ?_⟩
    intro event member
    exact List.mem_append_left _ (quiet.before event member)

/-- Candidates that a page has listed. -/
theorem cleanupCandidates_obeys (leases : List Lease)
    (read : (⟨.utcNow, now⟩ : Event (Answer other)) ∈ history)
    (listed : ∀ lease ∈ leases, Listed platform history lease.metadata.name) :
    Obeys platform jti history (fun later _ => ∀ event ∈ history, event ∈ later)
      (cleanupCandidates platform now leases : LedgerProgram other _) := by
  induction leases generalizing history with
  | nil => exact fun event member => member
  | cons lease leases inductionHypothesis =>
      have candidate := listed lease List.mem_cons_self
      apply (get_obeys fun later url quiet resolved => ?_).bind
      · rintro later response ⟨quiet, _, found⟩
        have others : Obeys platform jti later (fun last _ => ∀ event ∈ history, event ∈ last)
            (cleanupCandidates platform now leases : LedgerProgram other _) := by
          refine (inductionHypothesis (quiet.before _ read) ?_).mono ?_
          · intro other member
            exact (listed other (List.mem_cons_of_mem _ member)).mono quiet.before
          · intro last deleted grows event member
            exact grows event (quiet.before event member)
        rcases response with failure | current
        · exact others
        · cases current with
          | none => exact others
          | some current =>
              rcases found current rfl with ⟨url, resolved, answered⟩
              dsimp only
              split
              · exact others
              · rename_i qualifies
                split
                · exact others
                · rename_i resourceVersion reported
                  simp only [not_or, Bool.not_eq_false] at qualifies
                  apply (delete_obeys fun last url' quiet' resolved' => ?_).bind
                  · rintro last _ grows event member
                    exact grows event (quiet.before event member)
                  · have urlEq : url' = url := by
                      rw [resolved, Option.some.injEq] at resolved'
                      exact resolved'.symm
                    subst urlEq
                    have readExpired : ReadExpired platform later url' resourceVersion :=
                      ⟨now, current, quiet.before _ read, answered, qualifies.1, qualifies.2,
                        reported⟩
                    exact ⟨⟨_, resolved, (candidate.mono quiet.before).mono quiet'.before⟩,
                      readExpired.mono quiet'.before⟩
      · exact Or.inr ⟨_, resolved, candidate.mono quiet.before⟩

theorem list_obeys (token : Option String) :
    Obeys platform jti history
      (fun later result => Quietly history later ∧ ∀ leases, result = .ok leases →
        (⟨.list token, some (200, some leases)⟩ : Event (Answer other)) ∈ later)
      (list token : LedgerProgram other _) := by
  apply credential_obeys.bindOk
  · rintro later failure ⟨quiet, _⟩
    exact ⟨quiet, fun leases found => by contradiction⟩
  · rintro later text ⟨quiet, _⟩
    refine ⟨trivial, fun response => ?_⟩
    refine ⟨quiet.trans (.snoc later fun _ _ same => by cases same), ?_⟩
    intro leases found
    unfold listResult at found
    split at found
    · cases found
      exact List.mem_append_right _ List.mem_cons_self
    · contradiction

theorem cleanupPages_obeys (pages : Nat) (token : Option String)
    (read : (⟨.utcNow, now⟩ : Event (Answer other)) ∈ history) :
    Obeys platform jti history (fun _ _ => True)
      (cleanupPages platform now pages token : LedgerProgram other _) := by
  induction pages generalizing history token with
  | zero => trivial
  | succ pages inductionHypothesis =>
      apply (list_obeys token).bind
      rintro later response ⟨quiet, found⟩
      cases response with
      | error failure => exact ⟨trivial, fun _ => trivial⟩
      | ok leases =>
          have page := found leases rfl
          have read := quiet.before _ read
          refine ⟨trivial, fun _ => ?_⟩
          have listed : ∀ event, ∀ lease ∈ (expiredOwnedLeases platform leases.items now).take
              maxCleanupPerExchange, Listed platform (later ++ [event]) lease.metadata.name := by
            intro event lease member
            exact ⟨now, token, leases, List.mem_append_left _ read, List.mem_append_left _ page,
              lease, List.mem_of_mem_take member, rfl⟩
          apply (cleanupCandidates_obeys _ (List.mem_append_left _ read) (listed _)).bind
          intro last deleted grows
          cases deleted with
          | true => trivial
          | false =>
              have read := grows _ (List.mem_append_left _ read)
              cases (if leases.continueToken = "" then none else some leases.continueToken) with
              | none => trivial
              | some next => exact inductionHypothesis (some next) read

theorem cleanupOne_obeys (read : (⟨.utcNow, now⟩ : Event (Answer other)) ∈ history) :
    Obeys platform jti history (fun _ _ => True)
      (cleanupOne platform now : LedgerProgram other _) :=
  ⟨trivial, fun token => cleanupPages_obeys _ token (List.mem_append_left _ read)⟩

/-- A prepared lease is the one of the key. -/
theorem name_of_preparedLease {expiresAt : Int} {lease : Lease}
    (prepared : preparedLease platform jti expiresAt now = .ok lease) :
    lease.metadata.name = leaseName platform jti := by
  unfold preparedLease Lease.new at prepared
  split at prepared
  · contradiction
  · dsimp only at prepared
    split at prepared
    · cases prepared
      rfl
    · contradiction

/-- The preparation fails as unavailable. -/
theorem preparedLease_notReplayed (platform : Platform) (jti : String) (expiresAt : Int)
    (now : DateTime) :
    NotReplayed (preparedLease platform jti expiresAt now) := by
  unfold preparedLease retainedUntil Lease.new
  split
  · rename_i failure failed
    split at failed
    · cases failed
      trivial
    · split at failed
      · cases failed
        trivial
      · split at failed
        · cases failed
          trivial
        · split at failed
          · cases failed
            trivial
          · contradiction
  · dsimp only
    split <;> trivial

theorem useOnce_obeys (expiresAt : Int) :
    Obeys platform jti [] (Justly platform jti)
      (useOnce platform jti expiresAt : LedgerProgram other _) := by
  refine ⟨rfl, fun now => ?_⟩
  have read : (⟨.utcNow, now⟩ : Event (Answer other)) ∈ [] ++ [⟨.utcNow, now⟩] :=
    List.mem_cons_self
  simp only [Program.bind_done]
  cases prepared : preparedLease platform jti expiresAt now with
  | error failure =>
      have notReplayed := preparedLease_notReplayed platform jti expiresAt now
      rw [prepared] at notReplayed
      apply Justly.of_notReplayed
      cases failure <;> trivial
  | ok lease =>
      have named := name_of_preparedLease prepared
      apply (create_obeys named).bindOk
      · rintro later failure ⟨_, notReplayed, _⟩
        apply Justly.of_notReplayed
        cases failure <;> trivial
      · rintro later result ⟨grows, _, quiet⟩
        have read := grows _ read
        cases result with
        | created =>
            apply (cleanupOne_obeys read).bind
            intro last _ _
            exact Justly.of_notReplayed trivial
        | conflict =>
            have conflicted : Conflicted later := by
              apply (quiet rfl).conflicted
              intro request status member
              cases List.mem_singleton.mp member
            apply (reclaimAttempts_obeys [0, 1] named read conflicted).bindOk
            · rintro last failure ⟨_, justly⟩
              exact justly
            · rintro last _ ⟨read, _⟩
              apply (cleanupOne_obeys read).bind
              intro _ _ _
              exact Justly.of_notReplayed trivial

end Programs

/-- On every path of one use, also of one that is cut off and whatever is answered, at most
ten requests are sent, and each operation obeys the law of the key.  A replay is
detected only after every request that could have changed the store was refused as a
conflict and the Lease of the key was read unexpired. -/
theorem use_once_traffic {expiresAt : Int} {events : List (Event (Answer other))}
    {rest : LedgerProgram other (Except ReplayError Unit)}
    (path : Program.Path (useOnce platform jti expiresAt) events rest) :
    Program.spent Op.requests events ≤ 10 ∧
      (∀ before event after, events = before ++ event :: after →
        UseLaw platform jti before event.1) ∧
      (rest = .done (.error .replayed) →
        Conflicted events ∧ ReadUnexpired platform jti events) := by
  have lawful : (useOnce platform jti expiresAt : LedgerProgram other _).Lawful
      (UseLaw platform jti) (Justly platform jti) [] :=
    useOnce_obeys expiresAt
  refine ⟨?_, ?_, ?_⟩
  · exact Program.Within.path (useOnce_sends jti expiresAt 0) path
  · rintro before event after rfl
    exact lawful.operation path
  · rintro rfl
    exact lawful.result path rfl

/-- A library that resolves every name and takes every renewal for long past. -/
def agingPlatform : Platform where
  sha256 bytes := bytes
  toRfc3339Micros _ := "2026-01-01T00:00:00.000000Z"
  parseFromRfc3339 _ := some (.ofSeconds 0)
  itemUrl := some

/-- A Lease of the ledger. -/
def agedLease (name resourceVersion : String) : Lease where
  apiVersion := "coordination.k8s.io/v1"
  kind := "Lease"
  metadata :=
    { name := name
      resourceVersion := some resourceVersion
      labels := AList.singleton ledgerLabel ledgerVersion }
  spec :=
    { holderIdentity := ledgerHolder
      leaseDurationSeconds := 400
      acquireTime := "1970-01-01T00:00:00.000000Z"
      renewTime := "1970-01-01T00:00:00.000000Z" }

/-- A use that reclaims its Lease at the second attempt and deletes another one from the
second page sends ten requests, within the law. -/
theorem use_once_traffic_sample :
    ∃ events : List (Event (Answer fun op : Empty => op.elim)),
      Program.Path (useOnce agingPlatform "a" 1000) events (.done (.ok ())) ∧
        Program.spent Op.requests events = 10 ∧
        ∀ before event after, events = before ++ event :: after →
          UseLaw agingPlatform "a" before event.1 := by
  have run : ∃ events : List (Event (Answer fun op : Empty => op.elim)),
      Program.Path (useOnce agingPlatform "a" 1000) events (.done (.ok ())) ∧
        Program.spent Op.requests events = 10 := by
    -- the Lease of the key exists and is replaced at the second attempt
    refine Program.Path.reach (DateTime.ofSeconds 900) ?_
    refine Program.Path.reach (some "token") ?_
    refine Program.Path.reach (some 409) ?_
    refine Program.Path.reach (some "token") ?_
    refine Program.Path.reach (some (200, some (agedLease "a" "1"))) ?_
    refine Program.Path.reach (some "token") ?_
    refine Program.Path.reach (some 409) ?_
    refine Program.Path.reach (some "token") ?_
    refine Program.Path.reach (some (200, some (agedLease "a" "2"))) ?_
    refine Program.Path.reach (some "token") ?_
    refine Program.Path.reach (some 200) ?_
    -- the candidate of the first page cannot be read, the one of the second is deleted
    refine Program.Path.reach none ?_
    refine Program.Path.reach (some "token") ?_
    refine Program.Path.reach (some (200, some ⟨[agedLease "b" "3"], "next"⟩)) ?_
    refine Program.Path.reach () ?_
    refine Program.Path.reach (some "token") ?_
    refine Program.Path.reach none ?_
    refine Program.Path.reach (some "token") ?_
    refine Program.Path.reach (some (200, some ⟨[agedLease "c" "4"], ""⟩)) ?_
    refine Program.Path.reach () ?_
    refine Program.Path.reach (some "token") ?_
    refine Program.Path.reach (some (200, some (agedLease "c" "4"))) ?_
    refine Program.Path.reach (some "token") ?_
    refine Program.Path.reach (some 200) ?_
    exact ⟨_, .refl _, rfl⟩
  rcases run with ⟨events, path, busy⟩
  exact ⟨events, path, busy, (use_once_traffic path).2.1⟩

end OidcExchange.Replay
