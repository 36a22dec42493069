import OidcExchange.GitHub.References

/-!
# Provenance of GitHub assertions

The subject and the workflow references of an assertion can be read in one way
only.  Repository names, workflow files and identifiers leave out the characters
that separate them, which is what makes a first or a last occurrence the right
place to cut.
-/

namespace OidcExchange.GitHub

/-! ## Repositories -/

variable {value repository owner name : String}

theorem slug_characters (valid : githubSlug value = true) :
    ∀ c ∈ value.toList, isSlugCharacter c = true := by
  simp only [githubSlug, Text.all, Bool.and_eq_true, List.all_eq_true] at valid
  exact valid.2

/-- Names leave out the characters that separate them. -/
theorem notMem_of_slugCharacters {separator : Char} (outside : isSlugCharacter separator = false)
    (inside : ∀ c ∈ value.toList, isSlugCharacter c = true) : separator ∉ value.toList := by
  intro member
  rw [inside separator member] at outside
  contradiction

theorem isAsciiGraphic_of_isSlugCharacter {c : Char} (slug : isSlugCharacter c = true) :
    Text.isAsciiGraphic c = true := by
  have between : ∀ {low high : Char}, 0x21 ≤ low.toNat → high.toNat ≤ 0x7e →
      low.toNat ≤ c.toNat → c.toNat ≤ high.toNat → Text.isAsciiGraphic c = true := by
    intro low high above below first last
    rw [Text.isAsciiGraphic, Bool.and_eq_true, decide_eq_true_eq, decide_eq_true_eq]
    exact ⟨above.trans first, last.trans below⟩
  simp only [isSlugCharacter, Text.isAsciiAlphanumeric, Text.isAsciiDigit, Bool.or_eq_true,
    Bool.and_eq_true, decide_eq_true_eq, Char.le_def, UInt32.le_iff_toNat_le, beq_iff_eq] at slug
  rcases slug with ((((digit | lower) | upper) | rfl) | rfl) | rfl
  · exact between (by decide) (by decide) digit.1 digit.2
  · exact between (by decide) (by decide) lower.1 lower.2
  · exact between (by decide) (by decide) upper.1 upper.2
  · rfl
  · rfl
  · rfl

/-- A repository is the name of its owner and its own name. -/
structure RepositoryName (value owner name : String) : Prop where
  parts : value = owner ++ "/" ++ name
  ownerSlug : githubSlug owner = true
  nameSlug : githubSlug name = true

theorem RepositoryName.toList (repository : RepositoryName value owner name) :
    value.toList = owner.toList ++ '/' :: name.toList := by
  rw [repository.parts]
  simp

theorem RepositoryName.slash_notMem (repository : RepositoryName value owner name) :
    '/' ∉ owner.toList ∧ '/' ∉ name.toList :=
  ⟨notMem_of_slugCharacters rfl (slug_characters repository.ownerSlug),
    notMem_of_slugCharacters rfl (slug_characters repository.nameSlug)⟩

theorem RepositoryName.unique {owner' name' : String} (repository : RepositoryName value owner name)
    (parts : value = owner' ++ "/" ++ name') : owner' = owner ∧ name' = name := by
  have same : owner.toList ++ '/' :: name.toList = owner'.toList ++ '/' :: name'.toList := by
    rw [← repository.toList, parts]
    simp
  rcases (List.append_cons_inj_of_notMem repository.slash_notMem.1
    repository.slash_notMem.2).mp same with ⟨sameOwner, _, sameName⟩
  exact ⟨(String.toList_inj.mp sameOwner).symm, (String.toList_inj.mp sameName).symm⟩

theorem RepositoryName.splitOn (repository : RepositoryName value owner name) :
    value.toList.splitOn '/' = [owner.toList, name.toList] := by
  rw [repository.toList, List.splitOn_append_cons_self_of_not_mem repository.slash_notMem.1,
    List.splitOn_eq_singleton repository.slash_notMem.2]

/-- Every character of a repository belongs to a name or separates the two. -/
theorem RepositoryName.character (repository : RepositoryName value owner name) :
    ∀ c ∈ value.toList, isSlugCharacter c = true ∨ c = '/' := by
  rw [repository.toList]
  intro c member
  rcases List.mem_append.mp member with inside | member
  · exact .inl (slug_characters repository.ownerSlug c inside)
  · rcases List.mem_cons.mp member with separates | inside
    · exact .inr separates
    · exact .inl (slug_characters repository.nameSlug c inside)

theorem githubRepository_iff :
    githubRepository value = true ↔ ∃ owner name, RepositoryName value owner name := by
  constructor
  · intro valid
    rw [githubRepository] at valid
    split at valid
    · rename_i owner name parts
      simp only [Bool.and_eq_true] at valid
      have slash : String.singleton '/' = "/" := by decide
      have joined := Text.eq_of_split_eq_pair parts
      rw [slash] at joined
      exact ⟨owner, name, joined, valid.1.1.1, valid.1.1.2⟩
    · contradiction
  · rintro ⟨owner, name, repository⟩
    have parts : Text.split value '/' = [owner, name] := by
      rw [Text.split_eq_iff, repository.splitOn]
      rfl
    have nameSlug := repository.nameSlug
    simp only [githubSlug, Bool.and_eq_true] at nameSlug
    simp [githubRepository, parts, repository.ownerSlug, repository.nameSlug, nameSlug.1.1.2,
      nameSlug.1.2]

/-! ## Workflow references -/

/-- The names of workflow files. -/
structure WorkflowFile (file : String) : Prop where
  nonempty : file ≠ ""
  bounded : Text.len file ≤ 255
  extension : ".yml".toList <:+ file.toList ∨ ".yaml".toList <:+ file.toList
  characters : ∀ c ∈ file.toList, isSlugCharacter c = true

/-- A workflow reference read as its parts: the last one is a Git reference, or the
commit to which the reference was resolved. -/
structure WorkflowReading (value resolvedSha repository file gitRef : String) : Prop where
  parts : value = repository ++ "/.github/workflows/" ++ file ++ "@" ++ gitRef
  repositoryValid : githubRepository repository = true
  workflowFile : WorkflowFile file
  resolved : validGitRef gitRef = true ∨ gitSha1 gitRef = true ∧ gitRef = resolvedSha

variable {file gitRef rest resolvedSha : String} {expectedRepository : Option String}

theorem boundedAscii_iff {maximum : Nat} :
    boundedAscii value maximum = true ↔
      value ≠ "" ∧ Text.len value ≤ maximum ∧
        ∀ c ∈ value.toList, Text.isAsciiGraphic c = true := by
  simp [boundedAscii, Text.isEmpty, Text.all, and_assoc]

theorem workflowFile_iff :
    (!Text.isEmpty file && decide (Text.len file ≤ 255) &&
      (Text.endsWith file ".yml" || Text.endsWith file ".yaml") &&
      Text.all file isSlugCharacter) = true ↔ WorkflowFile file := by
  simp only [Text.isEmpty, Text.all, Bool.and_eq_true, Bool.or_eq_true, Text.endsWith_iff,
    decide_eq_true_eq, List.all_eq_true]
  constructor
  · rintro ⟨⟨⟨nonempty, bounded⟩, extension⟩, characters⟩
    exact ⟨by simpa using nonempty, bounded, extension, characters⟩
  · rintro ⟨nonempty, bounded, extension, characters⟩
    exact ⟨⟨⟨by simpa using nonempty, bounded⟩, extension⟩, characters⟩

theorem splitOn_workflows (before after : List Char) :
    (before ++ ("/.github/workflows/".toList ++ after)).splitOn '/' =
      before.splitOn '/' ++ ".github".toList :: "workflows".toList :: after.splitOn '/' := by
  have directory : "/.github/workflows/".toList ++ after =
      '/' :: (".github".toList ++ '/' :: ("workflows".toList ++ '/' :: after)) := rfl
  have github : '/' ∉ ".github".toList := by decide
  have workflows : '/' ∉ "workflows".toList := by decide
  rw [directory, List.splitOn_append_cons_self, List.splitOn_append_cons_self_of_not_mem github,
    List.splitOn_append_cons_self_of_not_mem workflows]

/-- The first occurrence of the directory follows the repository, even if the
repository is itself called `.github`. -/
theorem splitOnce_workflows (valid : githubRepository repository = true) :
    Text.splitOnce (repository ++ "/.github/workflows/" ++ rest) "/.github/workflows/" =
      some (repository, rest) := by
  rcases githubRepository_iff.mp valid with ⟨owner, name, named⟩
  rw [Text.splitOnce_eq_some_iff]
  refine ⟨rfl, ?_⟩
  intro first rest' same
  have components := congrArg (List.splitOn '/') (String.toList_inj.mpr same)
  simp only [String.toList_append, List.append_assoc] at components
  rw [splitOn_workflows, splitOn_workflows, named.splitOn] at components
  have joined : ['/'].intercalate (first.toList.splitOn '/') = first.toList :=
    List.intercalate_splitOn '/'
  rw [← joined, named.toList]
  cases firstParts : first.toList.splitOn '/' with
  | nil => exact absurd firstParts (List.splitOn_ne_nil '/' first.toList)
  | cons firstOwner others =>
      rw [firstParts] at components
      cases others with
      | nil =>
          -- the repository would be `.github` and its directory `.github` as well
          simp at components
      | cons firstName others =>
          simp only [List.cons_append, List.cons.injEq] at components
          rw [← components.1, ← components.2.1]
          cases others with
          | nil => simp
          | cons => simp

/-- What `workflow_reference` accepts.  It cuts at the last `@`, so that none is left
in the reference. -/
theorem workflowReference_iff :
    workflowReference value expectedRepository resolvedSha = true ↔
      boundedAscii value 2048 = true ∧
        ∃ repository file gitRef, WorkflowReading value resolvedSha repository file gitRef ∧
          (∀ expected ∈ expectedRepository, expected = repository) ∧ '@' ∉ gitRef.toList := by
  constructor
  · intro accepted
    rw [workflowReference] at accepted
    split at accepted
    · contradiction
    · rename_i bounded
      split at accepted
      · contradiction
      · rename_i repository workflowAndRef found
        split at accepted
        · contradiction
        · rename_i known
          split at accepted
          · contradiction
          · rename_i file gitRef cut
            rw [Bool.and_eq_true, workflowFile_iff] at accepted
            rw [Text.splitOnce_eq_some_iff] at found
            rw [Text.rsplitOnce_eq_some_iff] at cut
            simp only [Bool.or_eq_true, Bool.not_eq_true', not_or, Bool.not_eq_false,
              Option.any_eq_true, not_exists, not_and, bne_iff_ne, not_not] at known
            refine ⟨by simpa using bounded, repository, file, gitRef, ⟨?_, known.1, accepted.1, ?_⟩,
              fun expected member => known.2 expected member, cut.2⟩
            · rw [found.1, ← String.toList_inj]
              simp [cut.1]
            · simpa using accepted.2
  · rintro ⟨bounded, repository, file, gitRef, reading, expected, free⟩
    have found : Text.splitOnce value "/.github/workflows/" =
        some (repository, file ++ "@" ++ gitRef) := by
      rw [reading.parts, ← splitOnce_workflows reading.repositoryValid]
      simp only [String.append_assoc]
    have cut : Text.rsplitOnce (file ++ "@" ++ gitRef) '@' = some (file, gitRef) := by
      rw [Text.rsplitOnce_eq_some_iff]
      exact ⟨by simp, free⟩
    have known : (!githubRepository repository ||
        expectedRepository.any (fun expected => expected != repository)) = false := by
      rw [Bool.or_eq_false_iff, Bool.not_eq_false', Option.any_eq_false]
      exact ⟨reading.repositoryValid, fun found member => by simp [expected found member]⟩
    have resolved : (validGitRef gitRef || gitSha1 gitRef && gitRef == resolvedSha) = true := by
      simpa using reading.resolved
    simp only [workflowReference, bounded, found, known, cut, resolved,
      workflowFile_iff.mpr reading.workflowFile]
    simp

/-- The repository and what follows the directory are determined. -/
theorem workflows_inj {repository' rest' : String} (valid : githubRepository repository = true)
    (valid' : githubRepository repository' = true)
    (same : repository ++ "/.github/workflows/" ++ rest =
      repository' ++ "/.github/workflows/" ++ rest') : repository' = repository ∧ rest' = rest := by
  have found : Text.splitOnce (repository ++ "/.github/workflows/" ++ rest)
      "/.github/workflows/" = some (repository, rest) := splitOnce_workflows valid
  rw [same, splitOnce_workflows valid', Option.some.injEq, Prod.mk.injEq] at found
  exact found

/-- A reference without `@` leaves one way to read the whole, also among texts whose
file or reference is not valid. -/
theorem WorkflowReading.unique {repository' file' gitRef' : String}
    (reading : WorkflowReading value resolvedSha repository file gitRef)
    (free : '@' ∉ gitRef.toList) (valid : githubRepository repository' = true)
    (parts : value = repository' ++ "/.github/workflows/" ++ file' ++ "@" ++ gitRef') :
    repository' = repository ∧ file' = file ∧ gitRef' = gitRef := by
  have fileFree : '@' ∉ file.toList :=
    notMem_of_slugCharacters rfl reading.workflowFile.characters
  have same : repository ++ "/.github/workflows/" ++ (file ++ "@" ++ gitRef) =
      repository' ++ "/.github/workflows/" ++ (file' ++ "@" ++ gitRef') := by
    rw [← String.append_assoc, ← String.append_assoc, ← reading.parts, parts]
    simp only [String.append_assoc]
  rcases workflows_inj reading.repositoryValid valid same with ⟨sameRepository, sameRest⟩
  have sameCut := String.toList_inj.mpr sameRest
  simp only [String.toList_append, List.append_assoc] at sameCut
  rcases (List.append_cons_inj_of_notMem fileFree free).mp sameCut.symm with
    ⟨sameFile, _, sameRef⟩
  exact ⟨sameRepository, (String.toList_inj.mp sameFile).symm, (String.toList_inj.mp sameRef).symm⟩

/-- The parts of a workflow reference, which no other parts after a valid repository
make up. -/
def ReadsOnlyAs (value resolvedSha repository file gitRef : String) : Prop :=
  WorkflowReading value resolvedSha repository file gitRef ∧
    ∀ repository' file' gitRef', githubRepository repository' = true →
      value = repository' ++ "/.github/workflows/" ++ file' ++ "@" ++ gitRef' →
        repository' = repository ∧ file' = file ∧ gitRef' = gitRef

theorem readsOnlyAs_of_workflowReference
    (accepted : workflowReference value expectedRepository resolvedSha = true) :
    ∃ repository file gitRef, (∀ expected ∈ expectedRepository, expected = repository) ∧
      ReadsOnlyAs value resolvedSha repository file gitRef := by
  rcases workflowReference_iff.mp accepted with
    ⟨_, repository, file, gitRef, reading, expected, free⟩
  exact ⟨repository, file, gitRef, expected, reading,
    fun repository' file' gitRef' valid parts => reading.unique free valid parts⟩

/-- A workflow reference made of valid parts is visible ASCII. -/
theorem workflow_characters (valid : githubRepository repository = true)
    (workflow : WorkflowFile file) (validRef : validGitRef gitRef = true) :
    ∀ c ∈ (repository ++ "/.github/workflows/" ++ file ++ "@" ++ gitRef).toList,
      Text.isAsciiGraphic c = true := by
  rcases githubRepository_iff.mp valid with ⟨owner, name, named⟩
  have directory : ∀ c ∈ "/.github/workflows/".toList, Text.isAsciiGraphic c = true :=
    List.all_eq_true.mp (by decide)
  have target := (validGitRef_iff_characters.mp validRef).2.2.1
  intro c member
  simp only [String.toList_append, List.mem_append] at member
  rcases member with (((inside | inside) | inside) | inside) | inside
  · rcases named.character c inside with slug | rfl
    · exact isAsciiGraphic_of_isSlugCharacter slug
    · rfl
  · exact directory c inside
  · exact isAsciiGraphic_of_isSlugCharacter (workflow.characters c inside)
  · have separator : c = '@' := by simpa using inside
    rw [separator]
    rfl
  · exact (refCharacter_iff.mp (target c inside)).1

/-- **Workflow references round-trip exactly for the references without `@`.**  The
file name has none, but `workflow_reference` cuts at the last one. -/
theorem workflowReference_roundTrip_iff (valid : githubRepository repository = true)
    (workflow : WorkflowFile file) (validRef : validGitRef gitRef = true)
    (bounded : Text.len (repository ++ "/.github/workflows/" ++ file ++ "@" ++ gitRef) ≤ 2048) :
    workflowReference (repository ++ "/.github/workflows/" ++ file ++ "@" ++ gitRef)
      (some repository) resolvedSha = true ↔ '@' ∉ gitRef.toList := by
  have reading : WorkflowReading
      (repository ++ "/.github/workflows/" ++ file ++ "@" ++ gitRef) resolvedSha repository file
      gitRef := ⟨rfl, valid, workflow, .inl validRef⟩
  rw [workflowReference_iff]
  constructor
  · rintro ⟨_, repository', file', gitRef', reading', _, free⟩
    rcases reading'.unique free valid reading.parts with ⟨_, _, rfl⟩
    exact free
  · intro free
    refine ⟨boundedAscii_iff.mpr ⟨?_, bounded, ?_⟩, repository, file, gitRef, reading, ?_, free⟩
    · intro empty
      rw [← String.toList_inj] at empty
      simp at empty
    · exact workflow_characters valid workflow validRef
    · intro expected member
      exact (Option.mem_some_iff.mp member).symm

theorem workflowFile_sample : WorkflowFile "ci.yml" :=
  workflowFile_iff.mp (by decide)

theorem workflowReference_roundTrip_sample :
    workflowReference ("octo/tools" ++ "/.github/workflows/" ++ "ci.yml" ++ "@" ++ "refs/heads/main")
      (some "octo/tools") "" = true ↔ '@' ∉ "refs/heads/main".toList :=
  workflowReference_roundTrip_iff (by decide) workflowFile_sample (by decide) (by decide)

/-- A branch whose name contains `@`, which Git allows and `valid_git_ref` accepts. -/
theorem workflowReference_not_roundTrip :
    githubRepository "octo/tools" = true ∧ WorkflowFile "ci.yml" ∧
      validGitRef "refs/heads/user@feature" = true ∧
      Text.len ("octo/tools" ++ "/.github/workflows/" ++ "ci.yml" ++ "@" ++
        "refs/heads/user@feature") ≤ 2048 ∧
      workflowReference ("octo/tools" ++ "/.github/workflows/" ++ "ci.yml" ++ "@" ++
        "refs/heads/user@feature") (some "octo/tools")
        "0123456789abcdef0123456789abcdef01234567" = false := by
  refine ⟨by decide, workflowFile_sample, by decide, by decide, by decide⟩

end OidcExchange.GitHub
