import OidcExchange.Data.Text
import OidcExchange.Keys.Document

/-!
# Loading key rings

`KeyRing::load` and `RsaKeyRing::load` of `src/keys.rs`.  They are the same function up
to the version, the field of the private key, its decoding and the texts of the errors.
-/

namespace OidcExchange.Keys

open OidcExchange.Oidc

def keyringVersion : String := "github-oidc-exchange.apelogic.io/keyring-v1"

def rsaKeyringVersion : String := "github-oidc-exchange.apelogic.io/rsa-keyring-v1"

/-- `KeyError`.  The text of `Invalid` is that of the file system, that of the JSON library
or one of the key rings. -/
inductive KeyError where
  | unreadable
  | malformed
  | invalid (message : String)
  | signing
  deriving DecidableEq

/-- What distinguishes the two kinds of key rings with keys `K`. -/
structure KeyFormat (K : Type) where
  version : String
  materialField : String
  decode : String → Except KeyError K
  unsupported : String
  outsideWindow : String
  unavailable : String

/-- The functions of the cryptographic libraries: Base64, P-256 scalars and RSA keys. -/
structure KeyLibrary (E R : Type) where
  base64 : String → Option (List UInt8)
  secretKey : List UInt8 → Option E
  fromPkcs8Pem : String → Option R
  bits : R → Nat
  validate : R → Bool

variable {E R K : Type}

def decodeSeed (library : KeyLibrary E R) (seed : String) : Except KeyError E :=
  match library.base64 seed with
  | none => .error (.invalid "signing seeds must be Base64")
  | some bytes =>
      if bytes.length ≠ 32 then
        .error (.invalid "P-256 private scalars must decode to exactly 32 bytes")
      else
        match library.secretKey bytes with
        | none => .error (.invalid "P-256 private scalar is outside the valid range")
        | some key => .ok key

def decodePkcs8 (library : KeyLibrary E R) (pem : String) : Except KeyError R :=
  match library.fromPkcs8Pem pem with
  | none => .error (.invalid "RSA private keys must be PKCS#8 PEM")
  | some key =>
      if library.bits key < 3072 then
        .error (.invalid "RSA private keys must be at least 3072 bits")
      else if library.validate key = false then
        .error (.invalid "RSA private key failed validation")
      else
        .ok key

/-- The format of `KeyRing`. -/
def es256Format (library : KeyLibrary E R) : KeyFormat E where
  version := keyringVersion
  materialField := "seed"
  decode := decodeSeed library
  unsupported := "unsupported or empty keyring"
  outsideWindow := "current signing key is missing or outside its validity window"
  unavailable := "current signing key validity window is unavailable"

/-- The format of `RsaKeyRing`. -/
def rsaFormat (library : KeyLibrary E R) : KeyFormat R where
  version := rsaKeyringVersion
  materialField := "private_key_pkcs8_pem"
  decode := decodePkcs8 library
  unsupported := "unsupported or empty RSA keyring"
  outsideWindow := "current RSA signing key is missing or outside its validity window"
  unavailable := "current RSA signing key validity window is unavailable"

/-- `KeyRing` and `RsaKeyRing`; the threshold is in nanoseconds. -/
structure KeyRing (K : Type) where
  currentKid : String
  currentNotBefore : DateTime
  currentNotAfter : DateTime
  readinessThreshold : Nat
  keys : AList fun _ : String => K

/-- The variables of the loop over the keys. -/
structure LoadState (K : Type) where
  keys : AList fun _ : String => K
  keyIds : List String
  currentValid : Bool
  currentWindow : Option (DateTime × DateTime)

def LoadState.initial : LoadState K where
  keys := ∅
  keyIds := []
  currentValid := false
  currentWindow := none

/-- `now >= spec.not_before && now < spec.not_after` -/
def KeySpec.inWindow (spec : KeySpec) (now : DateTime) : Bool :=
  decide (spec.notBefore ≤ now) && decide (now < spec.notAfter)

/-- The rest of the loop body, once the key is decoded. -/
def LoadState.visit (state : LoadState K) (currentKid : String) (now : DateTime)
    (spec : KeySpec) (key : K) : LoadState K where
  keys := if now < spec.notAfter then state.keys.insert spec.kid key else state.keys
  keyIds := spec.kid :: state.keyIds
  currentValid := if spec.kid = currentKid then spec.inWindow now else state.currentValid
  currentWindow :=
    if spec.kid = currentKid then some (spec.notBefore, spec.notAfter) else state.currentWindow

/-- The loop over the keys. -/
def loadKeys (format : KeyFormat K) (currentKid : String) (now : DateTime) :
    List KeySpec → LoadState K → Except KeyError (LoadState K)
  | [], state => .ok state
  | spec :: specs, state =>
      if Text.isEmpty spec.kid || decide (spec.notAfter ≤ spec.notBefore) ||
          state.keyIds.contains spec.kid then
        .error (.invalid "key IDs and validity windows are required")
      else
        match format.decode spec.material with
        | .error failure => .error failure
        | .ok key => loadKeys format currentKid now specs (state.visit currentKid now spec key)

/-- The loader on a deserialized file. -/
def KeyRingFile.load (format : KeyFormat K) (now : DateTime) (readinessThreshold : Nat)
    (input : KeyRingFile) : Except KeyError (KeyRing K) :=
  if input.version != format.version || Text.isEmpty input.currentKid || input.keys.isEmpty then
    .error (.invalid format.unsupported)
  else
    match loadKeys format input.currentKid now input.keys .initial with
    | .error failure => .error failure
    | .ok state =>
        if !state.currentValid || (state.keys.lookup input.currentKid).isNone then
          .error (.invalid format.outsideWindow)
        else
          match state.currentWindow with
          | none => .error (.invalid format.unavailable)
          | some (notBefore, notAfter) =>
              .ok
                { currentKid := input.currentKid
                  currentNotBefore := notBefore
                  currentNotAfter := notAfter
                  readinessThreshold := readinessThreshold
                  keys := state.keys }

/-- `load_with_readiness_threshold` on what the file holds. -/
def loadWithReadinessThreshold (parseTime : String → Option DateTime) (format : KeyFormat K)
    (tree : Option Json) (now : DateTime) (readinessThreshold : Nat) :
    Except KeyError (KeyRing K) :=
  match tree with
  | none => .error .malformed
  | some tree =>
      match KeyRingFile.deserialize parseTime format.materialField tree with
      | none => .error .malformed
      | some input => input.load format now readinessThreshold

/-- `load` -/
def load (parseTime : String → Option DateTime) (format : KeyFormat K) (tree : Option Json)
    (now : DateTime) : Except KeyError (KeyRing K) :=
  loadWithReadinessThreshold parseTime format tree now 0

/-! ## What a loaded key ring guarantees -/

/-- The keys that are published at `now`: those that have not expired. -/
def KeyFormat.Published (format : KeyFormat K) (specs : List KeySpec) (now : DateTime)
    (kid : String) (key : K) : Prop :=
  ∃ spec ∈ specs, spec.kid = kid ∧ now < spec.notAfter ∧ format.decode spec.material = .ok key

section Loop

variable {format : KeyFormat K} {currentKid : String} {now : DateTime} {spec : KeySpec}
  {specs : List KeySpec} {state after : LoadState K}

theorem loadKeys_cons_eq_ok_iff :
    loadKeys format currentKid now (spec :: specs) state = .ok after ↔
      (Text.isEmpty spec.kid = false ∧ ¬ spec.notAfter ≤ spec.notBefore ∧
        spec.kid ∉ state.keyIds) ∧
      ∃ key, format.decode spec.material = .ok key ∧
        loadKeys format currentKid now specs (state.visit currentKid now spec key) = .ok after := by
  rw [loadKeys]
  split
  · rename_i refused
    constructor
    · intro impossible
      contradiction
    · rintro ⟨⟨named, ordered, new⟩, _⟩
      simp [named, ordered, new] at refused
  · rename_i passed
    have checks : Text.isEmpty spec.kid = false ∧ ¬ spec.notAfter ≤ spec.notBefore ∧
        spec.kid ∉ state.keyIds := by
      simpa [and_assoc] using passed
    cases decoded : format.decode spec.material with
    | error failure => simp
    | ok key => simp [checks]

/-- What the loop has checked of its first key. -/
theorem loadKeys_cons
    (accepted : loadKeys format currentKid now (spec :: specs) state = .ok after) :
    (Text.isEmpty spec.kid = false ∧ ¬ spec.notAfter ≤ spec.notBefore ∧
      spec.kid ∉ state.keyIds) ∧
    ∃ key, format.decode spec.material = .ok key ∧
      loadKeys format currentKid now specs (state.visit currentKid now spec key) = .ok after :=
  loadKeys_cons_eq_ok_iff.mp accepted

/-- The loop accepts keys with different IDs that are new. -/
theorem loadKeys_distinct (accepted : loadKeys format currentKid now specs state = .ok after) :
    (specs.map KeySpec.kid).Nodup ∧ ∀ spec ∈ specs, spec.kid ∉ state.keyIds := by
  induction specs generalizing state with
  | nil => simp
  | cons spec specs inductionHypothesis =>
      rcases loadKeys_cons accepted with ⟨⟨_, _, new⟩, key, _, rest⟩
      rcases inductionHypothesis rest with ⟨distinct, laterNew⟩
      have later : ∀ other ∈ specs, other.kid ≠ spec.kid ∧ other.kid ∉ state.keyIds := by
        intro other member
        have fresh := laterNew other member
        rw [LoadState.visit, List.mem_cons, not_or] at fresh
        exact fresh
      rw [List.map_cons, List.nodup_cons, List.forall_mem_cons]
      refine ⟨⟨?_, distinct⟩, new, fun other member => (later other member).2⟩
      intro member
      rcases List.mem_map.mp member with ⟨other, otherMember, same⟩
      exact (later other otherMember).1 same

/-- If the current key is valid at the end, it is among the keys and in its window. -/
theorem loadKeys_current (accepted : loadKeys format currentKid now specs state = .ok after)
    (valid : after.currentValid = true) :
    state.currentValid = true ∨
      ∃ spec ∈ specs, spec.kid = currentKid ∧ spec.inWindow now = true := by
  induction specs generalizing state with
  | nil =>
      cases accepted
      exact Or.inl valid
  | cons spec specs inductionHypothesis =>
      rcases loadKeys_cons accepted with ⟨_, key, _, rest⟩
      rcases inductionHypothesis rest with visited | ⟨other, member, current⟩
      · by_cases same : spec.kid = currentKid
        · rw [LoadState.visit, if_pos same] at visited
          exact Or.inr ⟨spec, List.mem_cons_self, same, visited⟩
        · rw [LoadState.visit, if_neg same] at visited
          exact Or.inl visited
      · exact Or.inr ⟨other, List.mem_cons_of_mem _ member, current⟩

theorem published_cons_iff {kid : String} {key : K} :
    format.Published (spec :: specs) now kid key ↔
      (spec.kid = kid ∧ now < spec.notAfter ∧ format.decode spec.material = .ok key) ∨
        format.Published specs now kid key := by
  simp [KeyFormat.Published]

/-- The loop collects the published keys. -/
theorem loadKeys_lookup (accepted : loadKeys format currentKid now specs state = .ok after)
    (known : ∀ kid key, state.keys.lookup kid = some key → kid ∈ state.keyIds) (kid : String)
    (key : K) :
    after.keys.lookup kid = some key ↔
      state.keys.lookup kid = some key ∨ format.Published specs now kid key := by
  induction specs generalizing state with
  | nil =>
      cases accepted
      simp [KeyFormat.Published]
  | cons spec specs inductionHypothesis =>
      rcases loadKeys_cons accepted with ⟨⟨_, _, new⟩, decodedKey, decoded, rest⟩
      have visited : ∀ other otherKey,
          (state.visit currentKid now spec decodedKey).keys.lookup other = some otherKey ↔
            state.keys.lookup other = some otherKey ∨
              (spec.kid = other ∧ now < spec.notAfter ∧ format.decode spec.material = .ok otherKey) := by
        intro other otherKey
        by_cases live : now < spec.notAfter
        · rw [LoadState.visit, if_pos live]
          by_cases same : other = spec.kid
          · subst same
            have absent : state.keys.lookup spec.kid ≠ some otherKey :=
              fun present => new (known _ _ present)
            simp [AList.lookup_insert, absent, live, decoded]
          · rw [AList.lookup_insert_ne same]
            simp [Ne.symm same]
        · rw [LoadState.visit, if_neg live]
          simp [live]
      rw [inductionHypothesis rest, visited, published_cons_iff, or_assoc]
      intro other otherKey present
      rw [LoadState.visit, List.mem_cons]
      rcases (visited other otherKey).mp present with earlier | ⟨same, _⟩
      · exact Or.inr (known other otherKey earlier)
      · exact Or.inl same.symm

/-- Whether the loop succeeds does not depend on the instant, and of what it has collected
only the key IDs matter. -/
theorem loadKeys_at (accepted : loadKeys format currentKid now specs state = .ok after)
    (later : DateTime) (other : LoadState K) (sameIds : other.keyIds = state.keyIds) :
    ∃ reloaded, loadKeys format currentKid later specs other = .ok reloaded := by
  induction specs generalizing state other with
  | nil => exact ⟨other, rfl⟩
  | cons spec specs inductionHypothesis =>
      rcases loadKeys_cons accepted with ⟨⟨named, ordered, new⟩, key, decoded, rest⟩
      have visited : (other.visit currentKid later spec key).keyIds =
          (state.visit currentKid now spec key).keyIds := by
        rw [LoadState.visit, LoadState.visit, sameIds]
      rcases inductionHypothesis rest _ visited with ⟨reloaded, looped⟩
      rw [← sameIds] at new
      exact ⟨reloaded, loadKeys_cons_eq_ok_iff.mpr ⟨⟨named, ordered, new⟩, key, decoded, looped⟩⟩

theorem loadKeys_decoded (accepted : loadKeys format currentKid now specs state = .ok after)
    (member : spec ∈ specs) : ∃ key, format.decode spec.material = .ok key := by
  induction specs generalizing state with
  | nil => contradiction
  | cons first specs inductionHypothesis =>
      rcases loadKeys_cons accepted with ⟨_, key, decoded, rest⟩
      rcases List.mem_cons.mp member with rfl | later
      · exact ⟨key, decoded⟩
      · exact inductionHypothesis rest later

/-- Other keys leave what is known of the current key unchanged. -/
theorem loadKeys_current_eq (accepted : loadKeys format currentKid now specs state = .ok after)
    (absent : ∀ spec ∈ specs, spec.kid ≠ currentKid) :
    after.currentValid = state.currentValid ∧ after.currentWindow = state.currentWindow := by
  induction specs generalizing state with
  | nil =>
      cases accepted
      exact ⟨rfl, rfl⟩
  | cons spec specs inductionHypothesis =>
      rcases loadKeys_cons accepted with ⟨_, key, _, rest⟩
      have different := absent spec List.mem_cons_self
      have kept := inductionHypothesis rest fun other member =>
        absent other (List.mem_cons_of_mem _ member)
      rw [LoadState.visit, if_neg different, if_neg different] at kept
      exact kept

/-- The loop records the window of the current key and whether `now` is in it. -/
theorem loadKeys_window (accepted : loadKeys format currentKid now specs state = .ok after)
    (member : spec ∈ specs) (current : spec.kid = currentKid) :
    after.currentValid = spec.inWindow now ∧
      after.currentWindow = some (spec.notBefore, spec.notAfter) := by
  induction specs generalizing state with
  | nil => contradiction
  | cons first specs inductionHypothesis =>
      rcases loadKeys_cons accepted with ⟨_, key, _, rest⟩
      rcases List.mem_cons.mp member with rfl | later
      · have others := (loadKeys_distinct rest).2
        have absent : ∀ other ∈ specs, other.kid ≠ currentKid := by
          intro other otherMember same
          apply others other otherMember
          rw [LoadState.visit, same, current]
          exact List.mem_cons_self
        have kept := loadKeys_current_eq rest absent
        rw [LoadState.visit, if_pos current, if_pos current] at kept
        exact kept
      · exact inductionHypothesis rest later

end Loop

/-- What `load` has checked. -/
structure KeyRing.LoadedFrom (ring : KeyRing K) (format : KeyFormat K) (file : KeyRingFile)
    (now : DateTime) : Prop where
  version : file.version = format.version
  distinct : (file.keys.map KeySpec.kid).Nodup
  current : ∃ spec ∈ file.keys, spec.kid = file.currentKid ∧ spec.notBefore ≤ now ∧
    now < spec.notAfter
  currentKid : ring.currentKid = file.currentKid
  published : ∀ kid key, ring.keys.lookup kid = some key ↔
    format.Published file.keys now kid key

theorem KeyRingFile.load_eq_ok {format : KeyFormat K} {now : DateTime} {readinessThreshold : Nat}
    {file : KeyRingFile} {ring : KeyRing K}
    (accepted : file.load format now readinessThreshold = .ok ring) :
    ring.LoadedFrom format file now := by
  unfold KeyRingFile.load at accepted
  split at accepted
  · contradiction
  rename_i supported
  simp only [Bool.or_eq_true, not_or, bne_iff_ne, ne_eq, Decidable.not_not] at supported
  split at accepted
  · contradiction
  rename_i state looped
  split at accepted
  · contradiction
  rename_i inWindow
  split at accepted
  · contradiction
  cases accepted
  simp only [Bool.or_eq_true, Bool.not_eq_true', not_or, Bool.not_eq_false] at inWindow
  constructor
  · exact supported.1.1
  · exact (loadKeys_distinct looped).1
  · rcases loadKeys_current looped inWindow.1 with impossible | ⟨spec, member, same, window⟩
    · contradiction
    · rw [KeySpec.inWindow, Bool.and_eq_true, decide_eq_true_eq, decide_eq_true_eq] at window
      exact ⟨spec, member, same, window⟩
  · rfl
  · intro kid key
    rw [loadKeys_lookup looped (fun kid key present => by simp [LoadState.initial] at present)]
    simp [LoadState.initial]

/-- What the loader reads off the loop, when it accepts. -/
theorem KeyRingFile.load_eq_ok_loop {format : KeyFormat K} {now : DateTime}
    {readinessThreshold : Nat} {file : KeyRingFile} {ring : KeyRing K}
    (accepted : file.load format now readinessThreshold = .ok ring) :
    ∃ after, loadKeys format file.currentKid now file.keys .initial = .ok after ∧
      after.currentWindow = some (ring.currentNotBefore, ring.currentNotAfter) ∧
      ring.readinessThreshold = readinessThreshold := by
  unfold KeyRingFile.load at accepted
  split at accepted
  · contradiction
  split at accepted
  · contradiction
  rename_i after looped
  split at accepted
  · contradiction
  split at accepted
  · contradiction
  rename_i window
  cases accepted
  exact ⟨after, looped, window, rfl⟩

/-- The window of a loaded key ring is that of the current key in the file. -/
theorem KeyRingFile.load_window {format : KeyFormat K} {now : DateTime}
    {readinessThreshold : Nat} {file : KeyRingFile} {ring : KeyRing K}
    (accepted : file.load format now readinessThreshold = .ok ring) {spec : KeySpec}
    (member : spec ∈ file.keys) (current : spec.kid = file.currentKid) :
    ring.currentNotBefore = spec.notBefore ∧ ring.currentNotAfter = spec.notAfter := by
  rcases load_eq_ok_loop accepted with ⟨after, looped, window, _⟩
  rw [(loadKeys_window looped member current).2, Option.some.injEq, Prod.mk.injEq] at window
  exact ⟨window.1.symm, window.2.symm⟩

/-- A file that has been loaded once loads again as long as its current key is valid. -/
theorem KeyRingFile.load_at {format : KeyFormat K} {now later : DateTime}
    {readinessThreshold : Nat} {file : KeyRingFile} {ring : KeyRing K}
    (accepted : file.load format now readinessThreshold = .ok ring)
    (began : ring.currentNotBefore ≤ later) (lasts : later < ring.currentNotAfter)
    (laterThreshold : Nat) :
    ∃ reloaded, file.load format later laterThreshold = .ok reloaded := by
  rcases (load_eq_ok accepted).current with ⟨spec, member, current, _, _⟩
  rcases load_window accepted member current with ⟨notBefore, notAfter⟩
  rw [notBefore] at began
  rw [notAfter] at lasts
  unfold KeyRingFile.load at accepted ⊢
  split at accepted
  · contradiction
  rename_i supported
  rw [if_neg supported]
  split at accepted
  · contradiction
  rename_i state looped
  rcases loadKeys_at looped later .initial rfl with ⟨reloaded, relooped⟩
  rcases loadKeys_decoded looped member with ⟨key, decoded⟩
  rcases loadKeys_window relooped member current with ⟨valid, window⟩
  have inWindow : spec.inWindow later = true := by
    simp [KeySpec.inWindow, began, lasts]
  have present : reloaded.keys.lookup file.currentKid = some key := by
    rw [loadKeys_lookup relooped fun kid key present => by simp [LoadState.initial] at present]
    exact Or.inr ⟨spec, member, current, lasts, decoded⟩
  rw [relooped]
  simp [valid, inWindow, present, window]

theorem loadWithReadinessThreshold_eq_ok_iff {parseTime : String → Option DateTime}
    {format : KeyFormat K} {tree : Option Json} {now : DateTime} {readinessThreshold : Nat}
    {ring : KeyRing K} :
    loadWithReadinessThreshold parseTime format tree now readinessThreshold = .ok ring ↔
      ∃ text file, tree = some text ∧
        KeyRingFile.deserialize parseTime format.materialField text = some file ∧
        file.load format now readinessThreshold = .ok ring := by
  unfold loadWithReadinessThreshold
  cases tree with
  | none => simp
  | some text =>
      cases deserialized : KeyRingFile.deserialize parseTime format.materialField text with
      | none => simp [deserialized]
      | some file => simp [deserialized]

theorem load_eq_ok_iff {parseTime : String → Option DateTime} {format : KeyFormat K}
    {tree : Option Json} {now : DateTime} {ring : KeyRing K} :
    load parseTime format tree now = .ok ring ↔
      ∃ text file, tree = some text ∧
        KeyRingFile.deserialize parseTime format.materialField text = some file ∧
        file.load format now 0 = .ok ring :=
  loadWithReadinessThreshold_eq_ok_iff

end OidcExchange.Keys
