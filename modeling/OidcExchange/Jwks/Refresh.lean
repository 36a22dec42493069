import OidcExchange.Jwks.Lookup
import OidcExchange.Process.Trace

/-!
# What a refresh writes

A refresh writes the cache in its last operation and succeeds then; on every
other way out, also when it is cut off, it has written nothing.
-/

namespace OidcExchange.Jwks

open OidcExchange.Process

variable {K : Type}

/-- The refresh of a verifier. -/
def Verifier.refreshNow (library : JwksLibrary K) :
    Verifier → KeyProgram K (Except VerifyError Unit)
  | .github jwksUrl _ => GitHubVerifier.refreshNow library jwksUrl
  | .provider issuer _ => ProviderVerifier.refreshNow library issuer

/-- A new key set is written among these operations. -/
def Installs (events : List (Event (Answer K))) : Prop :=
  ∃ cache, (⟨.install cache, ()⟩ : Event (Answer K)) ∈ events

/-- Nothing follows the write of a new key set. -/
def beforeInstall (events : List (Event (Answer K))) (_ : Op K) : Prop :=
  ¬ Installs events

/-- An operation that writes no key set. -/
def writesNothing : Op K → Bool
  | .install _ => false
  | _ => true

variable {α : Type} {history : List (Event (Answer K))}

theorem not_installs_append {op : Op K} {answer : Answer K op} (other : writesNothing op = true)
    (before : ¬ Installs history) : ¬ Installs (history ++ [⟨op, answer⟩]) := by
  rintro ⟨cache, member⟩
  rcases List.mem_append.mp member with member | member
  · exact before ⟨cache, member⟩
  · rw [List.mem_singleton, Sigma.mk.injEq] at member
    rw [← member.1] at other
    contradiction

theorem sendOk_lawful (url : String) (before : ¬ Installs history) :
    (sendOk url).Lawful beforeInstall (fun history _ => ¬ Installs history) history := by
  refine ⟨before, ?_⟩
  intro response
  have before : ¬ Installs (history ++ [⟨.send url, response⟩]) := not_installs_append rfl before
  cases response with
  | none => exact before
  | some response =>
      simp only [Program.bind_done]
      split
      · exact before
      · exact before

theorem decodeBody_lawful (maximum : Option Nat) (parse : List UInt8 → Option α)
    (before : ¬ Installs history) :
    (decodeBody maximum parse).Lawful beforeInstall (fun history _ => ¬ Installs history)
      history := by
  refine ⟨before, ?_⟩
  intro body
  have before : ¬ Installs (history ++ [⟨.readBody, body⟩]) := not_installs_append rfl before
  cases body with
  | none => exact before
  | some body =>
      simp only [Program.bind_done]
      split
      · exact before
      · split
        · exact before
        · exact before

theorem fetchJson_lawful (uri : String) (maximum : Nat) (parse : List UInt8 → Option α)
    (before : ¬ Installs history) :
    (fetchJson uri maximum parse).Lawful beforeInstall (fun history _ => ¬ Installs history)
      history := by
  apply (sendOk_lawful uri before).bindOk
  · intro history failure before
    exact before
  intro history response before
  split
  · exact before
  · exact decodeBody_lawful (some maximum) parse before

/-- The key set is written by the last operation, and then the refresh succeeds. -/
theorem installKeys_lawful (document : List (Jwk K)) (before : ¬ Installs history) :
    (installKeys document).Lawful beforeInstall
      (fun history result => Installs history ↔ result = .ok ()) history := by
  unfold installKeys
  by_cases empty : (usableKeys document).entries.isEmpty = true
  · simp only [empty, ↓reduceIte]
    exact iff_of_false before (by simp)
  · simp only [empty, Bool.false_eq_true, ↓reduceIte]
    refine ⟨before, ?_⟩
    intro now
    refine ⟨not_installs_append rfl before, ?_⟩
    intro _
    refine iff_of_true ⟨⟨usableKeys document, now⟩, ?_⟩ rfl
    exact List.mem_append_right _ (List.mem_singleton.mpr rfl)

theorem Verifier.refreshNow_lawful (library : JwksLibrary K) (verifier : Verifier) :
    (verifier.refreshNow library).Lawful beforeInstall
      (fun history result => Installs history ↔ result = .ok ()) [] := by
  have fresh : ¬ Installs ([] : List (Event (Answer K))) := by simp [Installs]
  have failed : ∀ (history : List (Event (Answer K))) (failure : VerifyError),
      ¬ Installs history → (Installs history ↔ Except.error failure = Except.ok ()) :=
    fun _ _ before => iff_of_false before (by simp)
  cases verifier with
  | github jwksUrl _ =>
      apply (sendOk_lawful jwksUrl fresh).bindOk failed
      intro history _ before
      apply (decodeBody_lawful none library.parseJwks before).bindOk failed
      intro history document before
      exact installKeys_lawful document before
  | provider issuer _ =>
      apply (fetchJson_lawful _ maxDiscoveryBytes library.parseDiscovery fresh).bindOk failed
      intro history discovery before
      split
      · exact failed history .invalid before
      apply (fetchJson_lawful _ maxJwksBytes library.parseJwks before).bindOk failed
      intro history document before
      exact installKeys_lawful document before

/-- A refresh writes a key set exactly when it succeeds; one that has failed or was
cut off has written nothing. -/
theorem Verifier.installs_iff {library : JwksLibrary K} {verifier : Verifier}
    {target : KeyProgram K (Except VerifyError Unit)}
    (path : (verifier.refreshNow library).Path history target) :
    Installs history ↔ target = .done (.ok ()) := by
  have lawful := (verifier.refreshNow_lawful library).path path
  cases target with
  | done result =>
      rw [Program.done.injEq]
      exact lawful
  | call op next => exact iff_of_false lawful.1 (by simp)

end OidcExchange.Jwks
