import OidcExchange.GitHub.Provenance

/-!
# Subjects of GitHub assertions

What the provenance checks of `verify` say about the subject of an assertion.  It
names the repository, either as such or with the numeric identifiers of its owner
and of itself, and goes on with the source of the run.
-/

namespace OidcExchange.GitHub

variable {audience audience' : String} {now now' : Int} {claims claims' : GitHubClaims}
  {source source' suffix suffix' : String}

/-- The repository with its immutable identifiers. -/
def ImmutableSource (claims : GitHubClaims) (source : String) : Prop :=
  ∃ owner name, claims.repository = owner ++ "/" ++ name ∧
    source = owner ++ "@" ++ claims.repositoryOwnerId ++ "/" ++ name ++ "@" ++ claims.repositoryId

/-- One way to read the subject. -/
structure SubjectReading (claims : GitHubClaims) (source suffix : String) : Prop where
  subject : claims.sub = "repo:" ++ source ++ ":" ++ suffix
  names : source = claims.repository ∨ ImmutableSource claims source

/-- What `verify` has checked of the provenance. -/
structure Provenance (claims : GitHubClaims) : Prop where
  repository : githubRepository claims.repository = true
  ownerId : numericIdentifier claims.repositoryOwnerId = true
  repositoryId : numericIdentifier claims.repositoryId = true
  gitRef : validGitRef claims.gitRef = true
  consistent : provenanceConsistent claims = true

theorem provenance_of_claimsValid (valid : claimsValid audience now claims = true) :
    Provenance claims := by
  rw [claimsValid] at valid
  split at valid
  · contradiction
  · simp only [Bool.not_eq_true', Bool.or_eq_false_iff, Bool.not_eq_false', and_assoc] at valid
    rcases valid with ⟨_, _, _, _, _, _, _, _, _, _, repository, repositoryId, ownerId, _, _, _, _,
      _, _, _, _, gitRef, consistent⟩
    exact ⟨repository, ownerId, repositoryId, gitRef, consistent⟩

/-- What `provenance_consistent` accepts. -/
theorem consistent_reading (provenance : Provenance claims) :
    ∃ source suffix, SubjectReading claims source suffix ∧ boundedAscii suffix 1024 = true ∧
      (∀ rest, suffix = "ref:" ++ rest → rest = claims.gitRef) ∧
      (suffix = "pull_request" → Text.startsWith claims.gitRef "refs/pull/" = true ∧
        Text.endsWith claims.gitRef "/merge" = true) ∧
      workflowReference claims.workflowRef (some claims.repository) claims.workflowSha = true ∧
      workflowReference claims.jobWorkflowRef none claims.jobWorkflowSha = true := by
  have consistent := provenance.consistent
  rw [provenanceConsistent] at consistent
  split at consistent
  · contradiction
  · rename_i owner name parts
    rw [Text.splitOnce_eq_some_iff] at parts
    dsimp only at consistent
    split at consistent
    · contradiction
    · rename_i suffix found
      rw [Option.filter_eq_some_iff, Option.or_eq_some_iff, Text.stripPrefix_eq_some_iff,
        Text.stripPrefix_eq_some_iff] at found
      simp only [Bool.and_eq_true, Bool.or_eq_true, bne_iff_ne, ne_eq] at consistent
      rcases consistent with ⟨⟨⟨subjectMatchesRef, pullRequest⟩, workflow⟩, jobWorkflow⟩
      have names : ∃ source, SubjectReading claims source suffix := by
        rcases found.1 with standard | ⟨_, immutable⟩
        · exact ⟨claims.repository, standard, .inl rfl⟩
        · exact ⟨_, by simpa only [String.append_assoc] using immutable,
            .inr ⟨owner, name, parts.1, rfl⟩⟩
      rcases names with ⟨source, reading⟩
      refine ⟨source, suffix, reading, found.2, ?_, ?_, workflow, jobWorkflow⟩
      · intro rest restEq
        rw [Text.stripPrefix_eq_some_iff.mpr restEq] at subjectMatchesRef
        simpa using subjectMatchesRef
      · intro same
        rcases pullRequest with different | matched
        · exact absurd same different
        · exact matched

/-! ## One reading -/

/-- Identifiers leave out the separators too. -/
theorem numericIdentifier_characters {value : String} (valid : numericIdentifier value = true) :
    ∀ c ∈ value.toList, isSlugCharacter c = true := by
  simp only [numericIdentifier, decimalIdentifier, Text.all, Bool.and_eq_true,
    List.all_eq_true] at valid
  intro c member
  simp [isSlugCharacter, Text.isAsciiAlphanumeric, valid.1.1.2.2 c member]

/-- The names and numbers of an immutable source. -/
theorem ImmutableSource.exists_parts (immutable : ImmutableSource claims source)
    (provenance : Provenance claims) :
    ∃ owner name, RepositoryName claims.repository owner name ∧
      source.toList = (owner.toList ++ '@' :: claims.repositoryOwnerId.toList) ++
        '/' :: (name.toList ++ '@' :: claims.repositoryId.toList) := by
  rcases immutable with ⟨owner, name, repositoryEq, rfl⟩
  rcases githubRepository_iff.mp provenance.repository with ⟨owner', name', named⟩
  rcases named.unique repositoryEq with ⟨rfl, rfl⟩
  exact ⟨owner, name, named, by simp⟩

/-- The characters of a source. -/
theorem SubjectReading.character (reading : SubjectReading claims source suffix)
    (provenance : Provenance claims) :
    ∀ c ∈ source.toList, isSlugCharacter c = true ∨ c = '/' ∨ c = '@' := by
  rcases reading.names with rfl | immutable
  · rcases githubRepository_iff.mp provenance.repository with ⟨owner, name, named⟩
    intro c member
    rcases named.character c member with slug | separates
    · exact .inl slug
    · exact .inr (.inl separates)
  · rcases immutable.exists_parts provenance with ⟨owner, name, named, sourceEq⟩
    intro c member
    rw [sourceEq] at member
    simp only [List.mem_append, List.mem_cons] at member
    rcases member with (inside | separates | inside) | separates | inside | separates | inside
    · exact .inl (slug_characters named.ownerSlug c inside)
    · exact .inr (.inr separates)
    · exact .inl (numericIdentifier_characters provenance.ownerId c inside)
    · exact .inr (.inl separates)
    · exact .inl (slug_characters named.nameSlug c inside)
    · exact .inr (.inr separates)
    · exact .inl (numericIdentifier_characters provenance.repositoryId c inside)

theorem SubjectReading.colon_notMem (reading : SubjectReading claims source suffix)
    (provenance : Provenance claims) : ':' ∉ source.toList := by
  intro member
  rcases reading.character provenance ':' member with slug | separates | separates
  all_goals contradiction

/-- Equal subjects name equal sources and go on with equal suffixes. -/
theorem SubjectReading.inj (reading : SubjectReading claims source suffix)
    (provenance : Provenance claims) (reading' : SubjectReading claims' source' suffix')
    (provenance' : Provenance claims') (same : claims.sub = claims'.sub) :
    source = source' ∧ suffix = suffix' := by
  have parts := reading.subject.symm.trans (same.trans reading'.subject)
  rw [← String.toList_inj] at parts
  simp only [String.toList_append, List.append_assoc, List.append_cancel_left_eq] at parts
  have cut := (Separated.append_cons_inj (reading.colon_notMem provenance)
    (reading'.colon_notMem provenance')).mp parts
  exact ⟨String.toList_inj.mp cut.1, String.toList_inj.mp cut.2⟩

theorem at_notMem_repository (provenance : Provenance claims) :
    '@' ∉ claims.repository.toList := by
  rcases githubRepository_iff.mp provenance.repository with ⟨owner, name, named⟩
  intro member
  rcases named.character '@' member with slug | separates
  all_goals contradiction

/-- Immutable sources are told from repository names by their `@`. -/
theorem ImmutableSource.at_mem (immutable : ImmutableSource claims source) :
    '@' ∈ source.toList := by
  rcases immutable with ⟨owner, name, _, rfl⟩
  simp

/-- Immutable sources determine the names and the numbers. -/
theorem ImmutableSource.inj (immutable : ImmutableSource claims source)
    (provenance : Provenance claims) (immutable' : ImmutableSource claims' source)
    (provenance' : Provenance claims') :
    claims.repository = claims'.repository ∧
      claims.repositoryOwnerId = claims'.repositoryOwnerId ∧
        claims.repositoryId = claims'.repositoryId := by
  rcases immutable.exists_parts provenance with ⟨owner, name, named, sourceEq⟩
  rcases immutable'.exists_parts provenance' with ⟨owner', name', named', sourceEq'⟩
  have slashFree : ∀ {first second : String}, (∀ c ∈ first.toList, isSlugCharacter c = true) →
      (∀ c ∈ second.toList, isSlugCharacter c = true) →
        '/' ∉ first.toList ++ '@' :: second.toList := by
    intro first second firstSlug secondSlug member
    rcases List.mem_append.mp member with inside | member
    · exact notMem_of_slugCharacters rfl firstSlug inside
    · rcases List.mem_cons.mp member with separates | inside
      · contradiction
      · exact notMem_of_slugCharacters rfl secondSlug inside
  have atFree : ∀ {name : String}, githubSlug name = true → '@' ∉ name.toList :=
    fun valid => notMem_of_slugCharacters rfl (slug_characters valid)
  have halves := (Separated.append_cons_inj
    (slashFree (slug_characters named.ownerSlug) (numericIdentifier_characters provenance.ownerId))
    (slashFree (slug_characters named'.ownerSlug)
      (numericIdentifier_characters provenance'.ownerId))).mp (sourceEq.symm.trans sourceEq')
  have ofOwner := (Separated.append_cons_inj (atFree named.ownerSlug)
    (atFree named'.ownerSlug)).mp halves.1
  have ofRepository := (Separated.append_cons_inj (atFree named.nameSlug)
    (atFree named'.nameSlug)).mp halves.2
  refine ⟨?_, String.toList_inj.mp ofOwner.2, String.toList_inj.mp ofRepository.2⟩
  rw [← String.toList_inj, named.toList, named'.toList, ofOwner.1, ofRepository.1]

/-- Equal subjects name the same repository, with the same numbers if they name
any. -/
theorem SubjectReading.same_repository (reading : SubjectReading claims source suffix)
    (provenance : Provenance claims) (reading' : SubjectReading claims' source' suffix')
    (provenance' : Provenance claims') (same : claims.sub = claims'.sub) :
    claims.repository = claims'.repository ∧
      (ImmutableSource claims source →
        claims.repositoryOwnerId = claims'.repositoryOwnerId ∧
          claims.repositoryId = claims'.repositoryId) := by
  rcases reading.inj provenance reading' provenance' same with ⟨rfl, rfl⟩
  have mixed : ∀ {claims claims' : GitHubClaims}, Provenance claims →
      source = claims.repository → ¬ImmutableSource claims' source :=
    fun provenance names immutable => at_notMem_repository provenance (names ▸ immutable.at_mem)
  rcases reading.names with plain | immutable
  · rcases reading'.names with plain' | immutable'
    · exact ⟨plain.symm.trans plain', fun immutable => absurd immutable (mixed provenance plain)⟩
    · exact absurd immutable' (mixed provenance plain)
  · rcases reading'.names with plain' | immutable'
    · exact absurd immutable (mixed provenance' plain')
    · have same := immutable.inj provenance immutable' provenance'
      exact ⟨same.1, fun _ => same.2⟩

/-- **The provenance of a verified assertion can be read in one way only**, and the
same subject or the same workflow reference comes from the same repository. -/
theorem provenance_unambiguous (valid : claimsValid audience now claims = true) :
    (∃ source suffix, SubjectReading claims source suffix ∧
      suffix ≠ "" ∧ Text.len suffix ≤ 1024 ∧
      (∀ c ∈ suffix.toList, Text.isAsciiGraphic c = true) ∧
      ∀ source' suffix', SubjectReading claims source' suffix' →
        source' = source ∧ suffix' = suffix) ∧
    (∃ file gitRef,
      ReadsOnlyAs claims.workflowRef claims.workflowSha claims.repository file gitRef) ∧
    (∃ repository file gitRef,
      ReadsOnlyAs claims.jobWorkflowRef claims.jobWorkflowSha repository file gitRef) ∧
    ∀ audience' now' claims', claimsValid audience' now' claims' = true →
      (claims.sub = claims'.sub →
        claims.repository = claims'.repository ∧
          ∀ source suffix, SubjectReading claims source suffix → ImmutableSource claims source →
            claims.repositoryOwnerId = claims'.repositoryOwnerId ∧
              claims.repositoryId = claims'.repositoryId) ∧
      (claims.workflowRef = claims'.workflowRef → claims.repository = claims'.repository) := by
  have provenance := provenance_of_claimsValid valid
  rcases consistent_reading provenance with
    ⟨source, suffix, reading, bounded, _, _, workflow, jobWorkflow⟩
  rcases boundedAscii_iff.mp bounded with ⟨nonempty, short, visible⟩
  rcases readsOnlyAs_of_workflowReference workflow with
    ⟨repository, file, gitRef, expected, readsOnly⟩
  rcases readsOnlyAs_of_workflowReference jobWorkflow with
    ⟨jobRepository, jobFile, jobRef, _, jobReadsOnly⟩
  have repositoryEq : claims.repository = repository := expected _ rfl
  refine ⟨⟨source, suffix, reading, nonempty, short, visible, ?_⟩, ⟨file, gitRef, ?_⟩,
    ⟨jobRepository, jobFile, jobRef, jobReadsOnly⟩, ?_⟩
  · intro source' suffix' reading'
    exact reading'.inj provenance reading provenance rfl
  · rw [repositoryEq]
    exact readsOnly
  · intro audience' now' claims' valid'
    have provenance' := provenance_of_claimsValid valid'
    rcases consistent_reading provenance' with
      ⟨source', suffix', reading', _, _, _, workflow', _⟩
    constructor
    · intro same
      refine ⟨(reading.same_repository provenance reading' provenance' same).1, ?_⟩
      intro source suffix reading immutable
      exact (reading.same_repository provenance reading' provenance' same).2 immutable
    · intro same
      rcases readsOnlyAs_of_workflowReference workflow' with
        ⟨repository', file', gitRef', expected', reading', _⟩
      rw [repositoryEq, expected' _ rfl]
      exact (readsOnly.2 repository' file' gitRef' reading'.repositoryValid
        (same.trans reading'.parts)).1.symm

/-- The claims of a pull request. -/
def pullRequestClaims (gitRef : String) : GitHubClaims where
  iss := githubIssuer
  sub := "repo:octo/tools:pull_request"
  aud := .one "exchange"
  exp := 1000
  iat := 800
  nbf := 800
  jti := "a"
  actorId := "42"
  actor := "dev"
  repository := "octo/tools"
  repositoryId := "11"
  repositoryOwnerId := "7"
  sha := "0123456789abcdef0123456789abcdef01234567"
  runId := "9"
  runAttempt := 1
  workflowRef := "octo/tools/.github/workflows/ci.yml@refs/heads/main"
  workflowSha := "0123456789abcdef0123456789abcdef01234567"
  jobWorkflowRef := "octo/tools/.github/workflows/ci.yml@refs/heads/main"
  jobWorkflowSha := "0123456789abcdef0123456789abcdef01234567"
  eventName := "pull_request"
  gitRef := gitRef

theorem claimsValid_pullRequestClaims :
    claimsValid "exchange" 900 (pullRequestClaims "refs/pull/7/merge") = true := by
  decide +kernel

theorem reading_pullRequestClaims (gitRef : String) :
    SubjectReading (pullRequestClaims gitRef) "octo/tools" "pull_request" :=
  ⟨rfl, .inl rfl⟩

theorem provenance_unambiguous_sample :
    ∃ file gitRef, ReadsOnlyAs (pullRequestClaims "refs/pull/7/merge").workflowRef
      "0123456789abcdef0123456789abcdef01234567" "octo/tools" file gitRef :=
  (provenance_unambiguous claimsValid_pullRequestClaims).2.1

/-! ## Sources of runs -/

theorem pull_merge_ne (number : String) :
    "refs/pull/merge" ≠ "refs/pull/" ++ number ++ "/merge" := by
  intro same
  have length := congrArg (fun text : String => text.toList.length) same
  simp only [String.toList_append, List.length_append] at length
  have whole : "refs/pull/merge".toList.length = 15 := rfl
  have front : "refs/pull/".toList.length = 10 := rfl
  have back : "/merge".toList.length = 6 := rfl
  omega

/-- The only overlap of the two ends of a pull request is their slash. -/
theorem pullRequest_reference {gitRef : String} (valid : validGitRef gitRef = true)
    (starts : Text.startsWith gitRef "refs/pull/" = true)
    (ends : Text.endsWith gitRef "/merge" = true) :
    (∃ number, number ≠ "" ∧ gitRef = "refs/pull/" ++ number ++ "/merge") ∨
      gitRef = "refs/pull/merge" := by
  have overlaps : ∀ rest ∈ "/merge".toList.tails,
      "/merge".toList <:+ "refs/pull/".toList ++ rest →
        rest = "merge".toList ∨ rest = "/merge".toList := by decide
  have separated := (validGitRef_iff_characters.mp valid).2.2.2.2.1
  rw [Text.startsWith_iff] at starts
  rw [Text.endsWith_iff] at ends
  rcases starts with ⟨rest, gitRefEq⟩
  rw [← gitRefEq] at ends separated
  have doubled : rest ≠ "/merge".toList := by
    rintro rfl
    exact separated (by decide)
  rcases List.suffix_or_suffix_of_suffix ends (List.suffix_append _ rest) with inside | overlap
  · rcases inside with ⟨number, rfl⟩
    refine .inl ⟨String.ofList number, ?_, ?_⟩
    · intro empty
      rw [← String.toList_inj, String.toList_ofList, String.toList_empty] at empty
      exact doubled (by rw [empty, List.nil_append])
    · rw [← String.toList_inj, ← gitRefEq]
      simp
  · rcases overlaps rest ((List.mem_tails _ _).mpr overlap) ends with rfl | same
    · exact .inr (String.toList_inj.mp gitRefEq.symm)
    · exact absurd same doubled

/-- **The source in the subject agrees with the reference except for a pull request on
`refs/pull/merge`**, whose two ends share a slash. -/
theorem source_agrees_iff (valid : claimsValid audience now claims = true)
    (reading : SubjectReading claims source suffix) :
    ((∀ rest, suffix = "ref:" ++ rest → rest = claims.gitRef) ∧
      (suffix = "pull_request" →
        ∃ number, number ≠ "" ∧ claims.gitRef = "refs/pull/" ++ number ++ "/merge")) ↔
      ¬(suffix = "pull_request" ∧ claims.gitRef = "refs/pull/merge") := by
  have provenance := provenance_of_claimsValid valid
  rcases consistent_reading provenance with
    ⟨source', suffix', reading', _, subjectMatchesRef, pullRequestMatchesRef, _, _⟩
  rcases reading'.inj provenance reading provenance rfl with ⟨rfl, rfl⟩
  constructor
  · rintro ⟨_, pullRequest⟩ ⟨same, gitRef⟩
    rcases pullRequest same with ⟨number, nonempty, parts⟩
    exact pull_merge_ne number (gitRef.symm.trans parts)
  · intro apart
    refine ⟨subjectMatchesRef, ?_⟩
    intro same
    rcases pullRequestMatchesRef same with ⟨starts, ends⟩
    rcases pullRequest_reference provenance.gitRef starts ends with numbered | overlap
    · exact numbered
    · exact absurd ⟨same, overlap⟩ apart

theorem source_agrees_sample :
    ((∀ rest, "pull_request" = "ref:" ++ rest → rest = "refs/pull/7/merge") ∧
      ("pull_request" = "pull_request" →
        ∃ number, number ≠ "" ∧ "refs/pull/7/merge" = "refs/pull/" ++ number ++ "/merge")) ↔
      ¬("pull_request" = "pull_request" ∧ "refs/pull/7/merge" = "refs/pull/merge") :=
  source_agrees_iff claimsValid_pullRequestClaims (reading_pullRequestClaims "refs/pull/7/merge")

/-- A pull request whose reference has no number. -/
theorem pull_request_without_number :
    claimsValid "exchange" 900 (pullRequestClaims "refs/pull/merge") = true ∧
      SubjectReading (pullRequestClaims "refs/pull/merge") "octo/tools" "pull_request" ∧
      ¬∃ number, number ≠ "" ∧
        (pullRequestClaims "refs/pull/merge").gitRef = "refs/pull/" ++ number ++ "/merge" := by
  refine ⟨by decide +kernel, reading_pullRequestClaims _, ?_⟩
  rintro ⟨number, _, parts⟩
  exact pull_merge_ne number parts

end OidcExchange.GitHub
