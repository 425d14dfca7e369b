import LiveShader.Proofs.Fragment.References

/-!
# Loading from two trees of files

A fragment that was loaded from one tree loads in the same way from another, if the
other one holds the same manifest and the same text for every file that matters to the
fragment there.
-/

namespace LiveShader.Fragment

open LiveShader.Files LiveShader.Text

/-! ## Expansions in two trees -/

/--
Files of a directory that are closed under includes, and that can be read as `read`
reads them in another way as well.
-/
structure Stable (read other : ReadText) (directory : Path) (known : String → Prop) :
    Prop where
  same : ∀ name, known name → ∀ text, read (Path.join directory name) = .ok text →
    other (Path.join directory name) = .ok text
  closed : ∀ name, known name → ∀ text, read (Path.join directory name) = .ok text →
    ∀ next ∈ includes text, known next

theorem Expansion.Follows.transport {read other : ReadText} {directory : Path}
    {known : String → Prop} (stable : Stable read other directory known) {tree : Expansion}
    {met : List String} (follows : tree.Follows read directory met)
    (starts : ∀ name ∈ tree.sources.filterMap includedFile?, known name) :
    tree.Follows other directory met := by
  induction tree generalizing met with
  | done => trivial
  | keep line rest ih =>
      rcases follows with ⟨kept, follows⟩
      refine ⟨kept, ih follows ?_⟩
      intro name member
      apply starts
      rwa [sources, List.filterMap_cons_none kept]
  | skip line rest ih =>
      rcases follows with ⟨⟨name, present, included⟩, follows⟩
      refine ⟨⟨name, present, included⟩, ih follows ?_⟩
      intro other member
      apply starts
      rw [sources, List.filterMap_cons_some included]
      exact List.mem_cons_of_mem name member
  | enter line name inside rest insideIh restIh =>
      rcases follows with ⟨included, new, ⟨text, readable, lines⟩, insideFollows, restFollows⟩
      rw [sources, List.filterMap_cons_some included] at starts
      have entered : known name := starts name List.mem_cons_self
      refine ⟨included, new, ⟨text, stable.same name entered text readable, lines⟩, ?_, ?_⟩
      · apply insideIh insideFollows
        rw [lines]
        exact stable.closed name entered text readable
      · apply restIh restFollows
        exact fun next member => starts next (List.mem_cons_of_mem name member)

namespace Library

variable {directory : Directory} {seen now : Tree} {stem : List Char} {file : String}
  {tracked : List String}

/-- A line that includes a file does not name a manifest. -/
theorem ne_manifest_of_included {line : List Char} {name : String}
    (included : includedFile? line = some name) (stem : List Char) :
    name ≠ manifestName stem := by
  obtain ⟨word, spelled, _⟩ := spelled_includedFile included
  intro same
  have letters := congrArg (fun name => name.toList.reverse) same
  simp [spelled, manifestName] at letters

/-- The file of a fragment is no manifest, also not that of another fragment. -/
theorem ne_manifest (fragment : IsFragmentFile stem file) (other : List Char) :
    file ≠ manifestName other := by
  intro same
  have letters := congrArg (fun name => name.toList.reverse) same
  simp [fragment.spelled, manifestName] at letters

/-- A line that includes a file does not name a fragment. -/
theorem ne_fragment_of_included {line : List Char} {name : String}
    (included : includedFile? line = some name) (fragment : IsFragmentFile stem file) :
    name ≠ file := by
  obtain ⟨word, spelled, _⟩ := spelled_includedFile included
  intro same
  have letters := congrArg (fun name => name.toList.reverse) same
  simp [spelled, fragment.spelled] at letters

/-- A file that is included is no manifest. -/
theorem ne_manifestName {text name : String} (member : name ∈ includes text)
    (stem : List Char) : name ≠ manifestName stem := by
  obtain ⟨line, _, included⟩ := List.mem_filterMap.mp member
  exact ne_manifest_of_included included stem

/-- A fragment that can be combined is readable. -/
theorem exists_reading_of_combineIn {options : Options} {combined : Combined}
    (made : combineIn now options (Path.join directory.path file) = .ok combined) :
    ∃ text, directory.reading now file = .ok text := by
  rw [combineIn, combine] at made
  split at made
  · cases made
  · rename_i expanded expansion
    obtain ⟨_, record⟩ := expandFile_records _ expansion
    rcases record.sources with ⟨text, read, _⟩
    exact ⟨text, read⟩

theorem combineIn_of_tracks (fragment : IsFragmentFile stem file)
    (tracks : Tracks directory seen stem file tracked)
    (same : ∀ name ∈ tracked, name ≠ manifestName stem → ∀ text,
      directory.reading now name = .ok text → directory.reading seen name = .ok text)
    {options : Options} {combined : Combined}
    (made : combineIn now options (Path.join directory.path file) = .ok combined) :
    combineIn seen options (Path.join directory.path file) = .ok combined := by
  rw [combineIn, combine] at made
  split at made
  · cases made
  · rename_i expanded expansion
    cases made
    obtain ⟨tree, record⟩ := expandFile_records _ expansion
    have home : Path.directoryOf (Path.join directory.path file) = directory.path :=
      directory.directoryOf_join fragment.plain
    rcases record.sources with ⟨text, read, sources⟩
    have known : file ∈ tracked ∧ file ≠ manifestName stem :=
      ⟨tracks.file, fragment.ne_manifestName⟩
    have readBefore := same file known.1 known.2 text read
    have stable : Stable now.readText seen.readText directory.path
        fun name => name ∈ tracked ∧ name ≠ manifestName stem := by
      constructor
      · intro name known text read
        exact same name known.1 known.2 text read
      · intro name known text read next included
        have before := same name known.1 known.2 text read
        exact ⟨tracks.closed name known.1 known.2 text before included,
          Library.ne_manifestName included stem⟩
    have follows : tree.Follows seen.readText directory.path
        ([] ++ [knownName (Path.join directory.path file)]) := by
      have before := record.follows
      rw [home] at before
      apply before.transport stable
      rw [sources]
      intro next included
      exact ⟨tracks.closed file known.1 known.2 text readBefore included,
        Library.ne_manifestName included stem⟩
    have distinct : tree.entered.Nodup :=
      (follows.nodup (by simp)).sublist (List.sublist_append_right _ _)
    have lasts : tree.depth < seen.entries.length + 1 := by
      apply Nat.lt_succ_of_le
      apply Nat.le_trans tree.depth_le
      exact Directory.length_le_of_readable distinct follows.readable
    have record' : RecordsFile seen.readText options.directives []
        (Path.join directory.path file) expanded tree :=
      ⟨⟨text, readBefore, sources⟩, by rwa [home], record.text, record.files⟩
    rw [combineIn, combine]
    rw [expandFile_of_records record' lasts]

theorem loadManifest_congr {path : Path}
    (same : now.readText (manifestPath path) = seen.readText (manifestPath path)) :
    loadManifest now path = loadManifest seen path := by
  unfold loadManifest
  dsimp only
  rw [same]

/-- Without a readable manifest a fragment loads only if there is none. -/
theorem manifest_absent {tree : Tree} {path : Path} {controls : List Manifest.Declaration}
    (declared : loadManifest tree path = .ok controls)
    (unreadable : ∀ text, tree.readText (manifestPath path) ≠ .ok text) :
    tree.readText (manifestPath path) = .error .notFound := by
  cases read : tree.readText (manifestPath path) with
  | ok document => exact absurd read (unreadable document)
  | error cause =>
      cases cause with
      | notFound => rfl
      | _ =>
          unfold loadManifest at declared
          dsimp only at declared
          rw [read] at declared
          cases declared

/-! ## Loading -/

/-- A fragment loads when it is a file and both its text and its manifest can be read. -/
theorem load_eq_ok_iff (fragment : IsFragmentFile stem file) {tree : Tree} {options : Options}
    {loaded : Loaded} :
    (of directory).load tree options file = .ok loaded ↔
      tree.isFile (Path.join directory.path file) = true ∧ ∃ combined controls,
        combineIn tree options (Path.join directory.path file) = .ok combined ∧
          loadManifest tree (Path.join directory.path file) = .ok controls ∧
            loaded = ⟨file, combined.content, combined.files, controls⟩ := by
  rw [load]
  rw [resolve_eq fragment]
  constructor
  · intro made
    split at made
    · cases made
    · rename_i path resolved
      split at resolved
      · rename_i isFile
        cases resolved
        refine ⟨isFile, ?_⟩
        split at made
        · cases made
        · rename_i combined expansion
          split at made
          · cases made
          · rename_i controls declared
            cases made
            rw [lastName_join directory.path fragment.plain]
            exact ⟨combined, controls, expansion, declared, rfl⟩
      · cases resolved
  · rintro ⟨isFile, combined, controls, expansion, declared, rfl⟩
    rw [if_pos isFile]
    dsimp only
    rw [expansion]
    dsimp only
    rw [declared, lastName_join directory.path fragment.plain]

/-- A fragment loads as before from a tree that its references cannot tell apart. -/
theorem load_of_tracks (fragment : IsFragmentFile stem file)
    (tracks : Tracks directory seen stem file tracked)
    (same : ∀ name ∈ tracked, name ≠ manifestName stem → ∀ text,
      directory.reading now name = .ok text → directory.reading seen name = .ok text)
    (manifest : directory.reading now (manifestName stem) =
      directory.reading seen (manifestName stem))
    {options : Options} {loaded : Loaded}
    (made : (of directory).load now options file = .ok loaded) :
    (of directory).load seen options file = .ok loaded := by
  rw [load_eq_ok_iff fragment] at made ⊢
  rcases made with ⟨_, combined, controls, expansion, declared, equal⟩
  obtain ⟨text, read⟩ := exists_reading_of_combineIn expansion
  have readBefore := same file tracks.file fragment.ne_manifestName text read
  have beside : now.readText (manifestPath (Path.join directory.path file)) =
      seen.readText (manifestPath (Path.join directory.path file)) := by
    rw [fragment.manifestPath_join]
    exact manifest
  refine ⟨Directory.isFile_of_reading readBefore, combined, controls, ?_, ?_, equal⟩
  · exact combineIn_of_tracks fragment tracks same expansion
  · rw [← loadManifest_congr beside]
    exact declared

end Library

end LiveShader.Fragment
