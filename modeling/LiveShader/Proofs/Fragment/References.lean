import LiveShader.Proofs.Files.Directory
import LiveShader.Proofs.Fragment.Names
import LiveShader.Proofs.Fragment.Expansion

/-!
# The files that matter to a fragment

The files on which a fragment depends are collected by following include lines.  What
is found is closed: with every file that can be read, the files that it includes are
found as well.  The walk never runs out of fuel, because every readable file that it
enters has an entry of its own in the tree.
-/

namespace LiveShader.Fragment

open LiveShader.Files LiveShader.Text

/-! ## Include lines of a text -/

/-- The files that a text includes. -/
def includes (text : String) : List String :=
  (terminatedLines text.toList).filterMap includedFile?

theorem includedFile?_append (line : List Char) {tail : List Char} (blanks : Blanks tail) :
    includedFile? (line ++ tail) = includedFile? line := by
  have solid : ∀ c ∈ "#include".toList, isBlank c = false := by simp [isBlank]
  simp only [includedFile?]
  rcases trimStart_append line blanks with kept | ⟨gone, empty⟩
  · rw [kept, after?_append solid blanks]
    cases after? "#include".toList (trimStart line) with
    | none => rfl
    | some rest =>
        simp only [Option.map_some]
        rw [words_append rest blanks]
  · rw [gone, empty]

theorem includedFile?_dropTerminator (line : List Char) :
    includedFile? (dropTerminator line) = includedFile? line := by
  obtain ⟨blanks, all, equal⟩ := dropTerminator_append line
  have same := includedFile?_append (dropTerminator line) all
  rw [equal] at same
  exact same.symm

/-- Whether a line names a file does not depend on its terminator. -/
theorem filterMap_lines (text : String) :
    (lines text.toList).filterMap includedFile? = includes text := by
  rw [lines, includes]
  rw [List.filterMap_map]
  apply congrArg (fun named => List.filterMap named (terminatedLines text.toList))
  funext line
  exact includedFile?_dropTerminator line

theorem plain_of_mem_includes {text : String} {name : String} (member : name ∈ includes text) :
    Path.Plain name.toList := by
  obtain ⟨line, _, included⟩ := List.mem_filterMap.mp member
  exact plain_includedFile included

namespace Library

/-! ## Visits -/

theorem lastName_join (directory : Path) {name : String} (named : Path.Plain name.toList) :
    lastName (Path.join directory name) = name := by
  rw [lastName]
  rw [Path.fileName?_join named]
  rfl

/-- Names of files, each once. -/
structure FileNames (names : List String) : Prop where
  distinct : names.Nodup
  plain : ∀ name ∈ names, Path.Plain name.toList

theorem FileNames.cons {names : List String} {name : String} (files : FileNames names)
    (new : name ∉ names) (named : Path.Plain name.toList) : FileNames (name :: names) := by
  refine ⟨List.nodup_cons.mpr ⟨new, files.distinct⟩, ?_⟩
  intro other member
  rcases List.mem_cons.mp member with rfl | old
  · exact named
  · exact files.plain other old

section Visits

variable {directory : Directory} {tree : Tree}

/-- What a visit adds to the files found so far: with a readable file what it includes. -/
structure Visited (directory : Directory) (tree : Tree) (found after : List String) : Prop where
  files : FileNames after
  grows : found <:+ after
  closed : ∀ name ∈ after, name ∉ found → ∀ text, directory.reading tree name = .ok text →
    includes text ⊆ after

theorem Visited.refl {found : List String} (files : FileNames found) :
    Visited directory tree found found :=
  ⟨files, List.suffix_rfl, fun _ member absent => absurd member absent⟩

theorem Visited.trans {found between after : List String}
    (first : Visited directory tree found between)
    (second : Visited directory tree between after) : Visited directory tree found after := by
  refine ⟨second.files, first.grows.trans second.grows, ?_⟩
  intro name member absent text readable
  by_cases early : name ∈ between
  · exact List.Subset.trans (first.closed name early absent text readable) second.grows.subset
  · exact second.closed name member early text readable

/-- The files of a list that can be read. -/
def readable (directory : Directory) (tree : Tree) (names : List String) : List String :=
  names.filter fun name => (directory.reading tree name).isOk

theorem length_readable_le (directory : Directory) (tree : Tree) {names : List String}
    (files : FileNames names) :
    (readable directory tree names).length ≤ tree.entries.length := by
  apply Directory.length_le_of_readable (files.distinct.filter _)
  intro name member
  obtain ⟨present, isOk⟩ := List.mem_filter.mp member
  refine ⟨files.plain name present, ?_⟩
  cases read : directory.reading tree name with
  | error cause =>
      rw [read] at isOk
      cases isOk
  | ok text => exact ⟨text, rfl⟩

theorem length_readable_mono (directory : Directory) (tree : Tree) {found after : List String}
    (grows : found <:+ after) :
    (readable directory tree found).length ≤ (readable directory tree after).length :=
  (grows.sublist.filter _).length_le

theorem length_readable_cons (names : List String) {name text : String}
    (read : directory.reading tree name = .ok text) :
    (readable directory tree (name :: names)).length =
      (readable directory tree names).length + 1 := by
  simp only [readable]
  rw [List.filter_cons_of_pos (by rw [read]; rfl), List.length_cons]

/-- Fuel that lasts for every readable file not found yet. -/
def Lasts (directory : Directory) (tree : Tree) (fuel : Nat) (found : List String) : Prop :=
  tree.entries.length < fuel + (readable directory tree found).length

theorem visitAll_visited {visit : List String → Path → Except FileError (List String)}
    {fuel : Nat}
    (visits : ∀ found after name, FileNames found → Path.Plain name.toList →
      Lasts directory tree fuel found →
      visit found (Path.join directory.path name) = .ok after →
      Visited directory tree found after ∧ name ∈ after)
    {names : List String} (plain : ∀ name ∈ names, Path.Plain name.toList)
    {found after : List String} (files : FileNames found)
    (lasts : Lasts directory tree fuel found)
    (made : visitAll visit directory.path found names = .ok after) :
    Visited directory tree found after ∧ names ⊆ after := by
  induction names generalizing found with
  | nil =>
      cases made
      exact ⟨Visited.refl files, List.nil_subset _⟩
  | cons name rest ih =>
      rw [visitAll] at made
      split at made
      · cases made
      · rename_i between entered
        obtain ⟨first, member⟩ :=
          visits found between name files (plain name List.mem_cons_self) lasts entered
        have stillLasts : Lasts directory tree fuel between := by
          have more := length_readable_mono directory tree first.grows
          rw [Lasts] at lasts ⊢
          omega
        obtain ⟨second, covered⟩ :=
          ih (fun other present => plain other (List.mem_cons_of_mem name present))
            first.files stillLasts made
        refine ⟨first.trans second, ?_⟩
        exact List.cons_subset.mpr ⟨second.grows.subset member, covered⟩

/-- What the visit of a file can do: it is known, absent, or read and its includes visited. -/
theorem visitFile_cases {read : ReadText} {root path : Path} {fuel : Nat}
    {found after : List String} (made : visitFile read root fuel found path = .ok after) :
    lastName path ∈ found ∧ after = found ∨
      lastName path ∉ found ∧ read path = .error .notFound ∧ after = lastName path :: found ∨
        lastName path ∉ found ∧ ∃ text, read path = .ok text ∧
          (fuel = 0 ∨ ∃ less, fuel = less + 1 ∧
            visitAll (visitFile read root less) root (lastName path :: found) (includes text) =
              .ok after) := by
  rw [visitFile] at made
  split at made
  · rename_i known
    cases made
    exact Or.inl ⟨List.contains_iff_mem.mp known, rfl⟩
  · rename_i unknown
    have new : lastName path ∉ found := fun known => unknown (List.contains_iff_mem.mpr known)
    split at made
    · rename_i absent
      cases made
      exact Or.inr (Or.inl ⟨new, absent, rfl⟩)
    · cases made
    · rename_i text readable
      right
      right
      refine ⟨new, text, readable, ?_⟩
      cases fuel with
      | zero => exact Or.inl rfl
      | succ less =>
          rw [filterMap_lines] at made
          exact Or.inr ⟨less, rfl, made⟩

theorem visitFile_visited {fuel : Nat} {found after : List String} {name : String}
    (files : FileNames found) (named : Path.Plain name.toList)
    (lasts : Lasts directory tree fuel found)
    (made : visitFile tree.readText directory.path fuel found
      (Path.join directory.path name) = .ok after) :
    Visited directory tree found after ∧ name ∈ after := by
  induction fuel using Nat.strongRecOn generalizing found after name with
  | ind fuel ih =>
      have cases' := visitFile_cases made
      rw [lastName_join directory.path named] at cases'
      rcases cases' with ⟨known, rfl⟩ | ⟨new, absent, rfl⟩ | ⟨new, text, read, further⟩
      · exact ⟨Visited.refl files, known⟩
      · refine ⟨⟨files.cons new named, List.suffix_cons name found, ?_⟩, List.mem_cons_self⟩
        intro other member old text read
        rcases List.mem_cons.mp member with rfl | known
        · rw [Directory.reading] at read
          rw [absent] at read
          cases read
        · exact absurd known old
      · change directory.reading tree name = .ok text at read
        have entered := files.cons new named
        have counted := length_readable_cons found read
        have bound := length_readable_le directory tree entered
        rw [Lasts] at lasts
        rcases further with rfl | ⟨less, rfl, visited⟩
        · omega
        · have plain : ∀ name ∈ includes text, Path.Plain name.toList :=
            fun _ member => plain_of_mem_includes member
          obtain ⟨beyond, covered⟩ := visitAll_visited
            (fun _ _ _ files named lasts made =>
              ih less (Nat.lt_succ_self less) files named lasts made)
            plain entered (by unfold Lasts; omega) visited
          have member : name ∈ after := beyond.grows.subset List.mem_cons_self
          refine ⟨⟨beyond.files, (List.suffix_cons name found).trans beyond.grows, ?_⟩, member⟩
          intro other present old text' read'
          by_cases same : other = name
          · rw [same, read] at read'
            cases read'
            exact covered
          · refine beyond.closed other present ?_ text' read'
            exact List.not_mem_cons_of_ne_of_not_mem same old

end Visits

/-! ## References of a fragment -/

/-- The library of a directory. -/
def of (directory : Directory) : Library := ⟨directory.path⟩

/-- A name leads to a file in the root of a library, if it leads anywhere. -/
theorem exists_fragment_of_resolve {library : Library} {tree : Tree} {name : String}
    {path : Path} (resolved : library.resolve tree name = .ok path) :
    ∃ stem file, IsFragmentFile stem file ∧
      tree.isFile (Path.join library.root file) = true ∧
        path = Path.join library.root file := by
  rw [resolve] at resolved
  split at resolved
  · cases resolved
  · rename_i file addressed
    obtain ⟨stem, fragment⟩ := isFragmentFile_of_fileName? addressed
    dsimp only at resolved
    split at resolved
    · rename_i isFile
      cases resolved
      exact ⟨stem, file, fragment, isFile, rfl⟩
    · cases resolved

/-- A name leads to a file of the directory, if it leads anywhere. -/
theorem exists_file_of_resolve {directory : Directory} {tree : Tree} {name : String}
    {path : Path} (resolved : (of directory).resolve tree name = .ok path) :
    ∃ stem file, IsFragmentFile stem file ∧
      tree.isFile (Path.join directory.path file) = true ∧
        path = Path.join directory.path file :=
  exists_fragment_of_resolve resolved

theorem resolve_eq {stem : List Char} {file : String} (fragment : IsFragmentFile stem file)
    (directory : Directory) (tree : Tree) :
    (of directory).resolve tree file =
      if tree.isFile (Path.join directory.path file) then .ok (Path.join directory.path file)
      else .error (.unknownFragment file) := by
  rw [resolve, of]
  rw [fragment.fileName?_eq]

/-- The names that matter to a fragment: its own, its manifest's, and what they lead to. -/
structure Tracks (directory : Directory) (tree : Tree) (stem : List Char) (file : String)
    (tracked : List String) : Prop where
  plain : ∀ name ∈ tracked, Path.Plain name.toList
  file : file ∈ tracked
  manifest : manifestName stem ∈ tracked
  closed : ∀ name ∈ tracked, name ≠ manifestName stem → ∀ text,
    directory.reading tree name = .ok text → includes text ⊆ tracked

theorem fileNames_manifestName {stem : List Char} {file : String}
    (fragment : IsFragmentFile stem file) : FileNames [manifestName stem] := by
  refine ⟨by simp, ?_⟩
  intro name member
  rw [List.mem_singleton.mp member]
  exact fragment.plain_manifestName

theorem tracks_of_references {directory : Directory} {tree : Tree} {stem : List Char}
    {file : String} (fragment : IsFragmentFile stem file) {tracked : List String}
    (made : (of directory).references tree file = .ok tracked) :
    Tracks directory tree stem file tracked := by
  rw [references] at made
  rw [resolve_eq fragment] at made
  split at made
  · cases made
  · rename_i path resolved
    split at resolved
    · cases resolved
      rw [fragment.manifestPath_join, lastName_join directory.path fragment.plain_manifestName]
        at made
      split at made
      · cases made
      · rename_i found visited
        cases made
        have single := fileNames_manifestName fragment
        have lasts : Lasts directory tree (tree.entries.length + 1) [manifestName stem] := by
          rw [Lasts]
          omega
        obtain ⟨beyond, member⟩ := visitFile_visited single fragment.plain lasts visited
        refine ⟨?_, ?_, ?_, ?_⟩
        · intro name present
          exact beyond.files.plain name (List.mem_mergeSort.mp present)
        · exact List.mem_mergeSort.mpr member
        · exact List.mem_mergeSort.mpr (beyond.grows.subset List.mem_cons_self)
        · intro name present differ text read other included
          have old : name ∉ [manifestName stem] := fun same => differ (List.mem_singleton.mp same)
          have covered := beyond.closed name (List.mem_mergeSort.mp present) old text read
          exact List.mem_mergeSort.mpr (covered included)
    · cases resolved

/-! ## Names that can be references -/

section Kinds

variable {read : ReadText} {root : Path} {found after : List String} {name : String}

theorem kinds_cons : ∀ other ∈ name :: found,
    other ∈ found ∨ other = name ∨ ∃ line, includedFile? line = some other := by
  intro other member
  rcases List.mem_cons.mp member with rfl | old
  · exact Or.inr (Or.inl rfl)
  · exact Or.inl old

theorem visitAll_adds {visit : List String → Path → Except FileError (List String)}
    (adds : ∀ found after name, visit found (Path.join root name) = .ok after →
      Path.Plain name.toList → ∀ other ∈ after,
        other ∈ found ∨ other = name ∨ ∃ line, includedFile? line = some other)
    {names : List String} (included : ∀ name ∈ names, ∃ line, includedFile? line = some name)
    (made : visitAll visit root found names = .ok after) :
    ∀ other ∈ after, other ∈ found ∨ ∃ line, includedFile? line = some other := by
  induction names generalizing found with
  | nil =>
      cases made
      exact fun other member => Or.inl member
  | cons name rest ih =>
      obtain ⟨line, named⟩ := included name List.mem_cons_self
      rw [visitAll] at made
      split at made
      · cases made
      · rename_i between entered
        intro other member
        rcases ih (fun next later => included next (List.mem_cons_of_mem name later)) made other
          member with early | late
        · rcases adds found between name entered (plain_includedFile named) other early with
            old | rfl | inner
          · exact Or.inl old
          · exact Or.inr ⟨line, named⟩
          · exact Or.inr inner
        · exact Or.inr late

/-- A visit adds the file that it begins with and files that are named on include lines. -/
theorem visitFile_adds {fuel : Nat} (named : Path.Plain name.toList)
    (made : visitFile read root fuel found (Path.join root name) = .ok after) :
    ∀ other ∈ after, other ∈ found ∨ other = name ∨ ∃ line, includedFile? line = some other := by
  induction fuel generalizing found after name with
  | zero =>
      rw [visitFile, lastName_join root named] at made
      split at made
      · cases made
        exact fun other old => Or.inl old
      · split at made <;> cases made <;> exact kinds_cons
  | succ fuel ih =>
      rw [visitFile, lastName_join root named] at made
      split at made
      · cases made
        exact fun other old => Or.inl old
      · split at made
        · cases made
          exact kinds_cons
        · cases made
        · rename_i text readable
          dsimp only at made
          rw [filterMap_lines] at made
          intro other member
          rcases visitAll_adds (fun _ _ _ made named => ih named made)
            (fun next included => (List.mem_filterMap.mp included).imp fun _ both => both.2)
            made other member with early | inner
          · exact kinds_cons other early
          · exact Or.inr (Or.inr inner)

/-- References are the fragment, its manifest, and files that are named on include lines. -/
theorem mem_references {directory : Directory} {tree : Tree} {stem : List Char} {file : String}
    (fragment : IsFragmentFile stem file) {tracked : List String}
    (made : (of directory).references tree file = .ok tracked) {name : String}
    (member : name ∈ tracked) :
    name = file ∨ name = manifestName stem ∨ ∃ line, includedFile? line = some name := by
  rw [references, resolve_eq fragment] at made
  split at made
  · cases made
  · rename_i path resolved
    split at resolved
    · cases resolved
      rw [fragment.manifestPath_join, lastName_join directory.path fragment.plain_manifestName]
        at made
      split at made
      · cases made
      · rename_i found visited
        cases made
        rcases visitFile_adds fragment.plain visited name (List.mem_mergeSort.mp member) with
          old | rfl | included
        · exact Or.inr (Or.inl (List.mem_singleton.mp old))
        · exact Or.inl rfl
        · exact Or.inr (Or.inr included)
    · cases resolved

end Kinds

end Library

end LiveShader.Fragment
