import LiveShader.Proofs.Fragment.Watching

/-!
# The files that are opened

The paths that a load or a look-up of references opens are listed beside the two walks,
in the order in which they are opened.  The lists are complete: with the same readings
at these paths every other tree of files gives the same result.

Every path in them is the root of the library joined with one plain name.  A name given
to the library has no slash and does not begin with a dot, a name on an include line has
no slash, and an extension behind it keeps it from being `.` or `..`.
-/

namespace LiveShader.Fragment

open LiveShader.Files LiveShader.Text

/-! ## Opened paths -/

/-- The paths that are opened for the lines of one file. -/
def openedLines (expandChild : List String → String → Except ReadFault Expanded)
    (openedChild : List String → String → List Path) :
    List String → List (List Char) → List Path
  | _, [] => []
  | files, line :: rest =>
      match includedFile? line with
      | none => openedLines expandChild openedChild files rest
      | some name =>
          if files.contains name then openedLines expandChild openedChild files rest
          else
            openedChild files name ++
              match expandChild files name with
              | .error _ => []
              | .ok child => openedLines expandChild openedChild child.files rest

/-- The paths that are opened while a file is expanded. -/
def openedFile (read : ReadText) (directives : Bool) : Nat → List String → Path → List Path
  | fuel, files, path =>
      path ::
        match read path with
        | .error _ => []
        | .ok text =>
            match fuel with
            | 0 => []
            | fuel + 1 =>
                let directory := (Path.parent? path).getD ""
                openedLines
                  (fun met name => expandFile read directives fuel met (Path.join directory name))
                  (fun met name => openedFile read directives fuel met (Path.join directory name))
                  (files ++ [knownName path]) (terminatedLines text.toList)

namespace Library

/-- The paths that are opened while included files are visited. -/
def openedVisits (visit : List String → Path → Except FileError (List String))
    (openedVisit : List String → Path → List Path) (root : Path) :
    List String → List String → List Path
  | _, [] => []
  | found, name :: rest =>
      openedVisit found (Path.join root name) ++
        match visit found (Path.join root name) with
        | .error _ => []
        | .ok found => openedVisits visit openedVisit root found rest

/-- The paths that are opened while a file is visited. -/
def openedVisit (read : ReadText) (root : Path) : Nat → List String → Path → List Path
  | fuel, found, path =>
      if found.contains (lastName path) then []
      else
        path ::
          match read path with
          | .error _ => []
          | .ok text =>
              match fuel with
              | 0 => []
              | fuel + 1 =>
                  openedVisits (visitFile read root fuel) (openedVisit read root fuel) root
                    (lastName path :: found) ((lines text.toList).filterMap includedFile?)

/-- The paths that a load opens: the fragment, what it includes, and the manifest. -/
def openedByLoad (library : Library) (tree : Tree) (options : Options) (name : String) :
    List Path :=
  match library.resolve tree name with
  | .error _ => []
  | .ok path =>
      openedFile tree.readText options.directives (tree.entries.length + 1) [] path ++
        match combineIn tree options path with
        | .error _ => []
        | .ok _ => [manifestPath path]

/-- The paths that a look-up of references opens. -/
def openedByReferences (library : Library) (tree : Tree) (name : String) : List Path :=
  match library.resolve tree name with
  | .error _ => []
  | .ok path =>
      openedVisit tree.readText library.root (tree.entries.length + 1)
        [lastName (manifestPath path)] path

end Library

/-! ## Opened paths lie in the root -/

section Inside

variable {directory : Directory} {read : ReadText} {name : String}

theorem holds_openedLines
    {expandChild : List String → String → Except ReadFault Expanded}
    {openedChild : List String → String → List Path}
    (inside : ∀ met name, Path.Plain name.toList → ∀ path ∈ openedChild met name,
      directory.Holds path)
    (met : List String) (lines : List (List Char)) :
    ∀ path ∈ openedLines expandChild openedChild met lines, directory.Holds path := by
  induction lines generalizing met with
  | nil => simp [openedLines]
  | cons line rest ih =>
      intro path opened
      rw [openedLines] at opened
      split at opened
      · exact ih met path opened
      · rename_i name included
        split at opened
        · exact ih met path opened
        · rcases List.mem_append.mp opened with below | later
          · exact inside met name (plain_includedFile included) path below
          · split at later
            · cases later
            · exact ih _ path later

theorem holds_openedFile (directives : Bool) (fuel : Nat) (met : List String)
    (named : Path.Plain name.toList) :
    ∀ path ∈ openedFile read directives fuel met (Path.join directory.path name),
      directory.Holds path := by
  induction fuel generalizing met name with
  | zero =>
      intro path opened
      rw [openedFile] at opened
      rcases List.mem_cons.mp opened with rfl | further
      · exact Directory.holds_join named
      · split at further <;> cases further
  | succ fuel ih =>
      intro path opened
      rw [openedFile] at opened
      rcases List.mem_cons.mp opened with rfl | further
      · exact Directory.holds_join named
      · have home : (Path.parent? (Path.join directory.path name)).getD "" = directory.path :=
          directory.directoryOf_join named
        split at further
        · cases further
        · dsimp only at further
          rw [home] at further
          exact holds_openedLines (fun met _ named => ih met named) _ _ path further

namespace Library

theorem holds_openedVisits {visit : List String → Path → Except FileError (List String)}
    {opened : List String → Path → List Path}
    (inside : ∀ found name, Path.Plain name.toList →
      ∀ path ∈ opened found (Path.join directory.path name), directory.Holds path)
    (found : List String) {names : List String} (plain : ∀ name ∈ names, Path.Plain name.toList) :
    ∀ path ∈ openedVisits visit opened directory.path found names, directory.Holds path := by
  induction names generalizing found with
  | nil => simp [openedVisits]
  | cons name rest ih =>
      intro path opened
      rw [openedVisits] at opened
      rcases List.mem_append.mp opened with below | later
      · exact inside found name (plain name List.mem_cons_self) path below
      · split at later
        · cases later
        · exact ih _ (fun other member => plain other (List.mem_cons_of_mem name member)) path later

theorem holds_openedVisit (fuel : Nat) (found : List String) (named : Path.Plain name.toList) :
    ∀ path ∈ openedVisit read directory.path fuel found (Path.join directory.path name),
      directory.Holds path := by
  induction fuel generalizing found name with
  | zero =>
      intro path opened
      rw [openedVisit] at opened
      split at opened
      · cases opened
      · rcases List.mem_cons.mp opened with rfl | further
        · exact Directory.holds_join named
        · split at further <;> cases further
  | succ fuel ih =>
      intro path opened
      rw [openedVisit] at opened
      split at opened
      · cases opened
      · rcases List.mem_cons.mp opened with rfl | further
        · exact Directory.holds_join named
        · split at further
          · cases further
          · dsimp only at further
            rw [filterMap_lines] at further
            exact holds_openedVisits (fun found _ named => ih found named) _
              (fun _ member => plain_of_mem_includes member) path further

variable {tree : Tree} {path : Path}

theorem holds_resolved (resolved : (of directory).resolve tree name = .ok path) :
    directory.Holds path := by
  obtain ⟨stem, file, fragment, _, rfl⟩ := exists_file_of_resolve resolved
  exact Directory.holds_join fragment.plain

theorem holds_openedByLoad (options : Options) :
    ∀ path ∈ (of directory).openedByLoad tree options name, directory.Holds path := by
  intro path opened
  rw [openedByLoad] at opened
  split at opened
  · cases opened
  · rename_i found resolved
    obtain ⟨stem, file, fragment, _, rfl⟩ := exists_file_of_resolve resolved
    rcases List.mem_append.mp opened with source | beside
    · exact holds_openedFile _ _ _ fragment.plain path source
    · split at beside
      · cases beside
      · rw [List.mem_singleton.mp beside, fragment.manifestPath_join]
        exact Directory.holds_join fragment.plain_manifestName

theorem holds_openedByReferences :
    ∀ path ∈ (of directory).openedByReferences tree name, directory.Holds path := by
  intro path opened
  rw [openedByReferences] at opened
  split at opened
  · cases opened
  · rename_i found resolved
    obtain ⟨stem, file, fragment, _, rfl⟩ := exists_file_of_resolve resolved
    exact holds_openedVisit _ _ fragment.plain path opened

end Library

end Inside

/-! ## Nothing else is read -/

section Agreement

variable {directory : Directory} {tree other : Tree} {name : String}

/-- Two trees of files with the same readings at some paths. -/
def Agree (tree other : Tree) (paths : List Path) : Prop :=
  ∀ path ∈ paths, other.readText path = tree.readText path

/-- Lines are expanded alike if the files that they include are. -/
theorem expandLines_agree
    {first second : List String → String → Except ReadFault Expanded}
    {opened : List String → String → List Path} (ready : List String → Prop)
    (agree : ∀ met name, ready met → Path.Plain name.toList → name ∉ met →
      Agree tree other (opened met name) → second met name = first met name)
    (keeps : ∀ met name expanded, ready met → Path.Plain name.toList → name ∉ met →
      first met name = .ok expanded → second met name = .ok expanded → ready expanded.files)
    (directives : Bool) (file number : Nat) {met : List String} (fit : ready met)
    (lines : List (List Char)) (same : Agree tree other (openedLines first opened met lines)) :
    expandLines second directives file number met lines =
      expandLines first directives file number met lines := by
  induction lines generalizing number met with
  | nil => rfl
  | cons line rest ih =>
      rw [openedLines] at same
      rw [expandLines, expandLines]
      cases included : includedFile? line with
      | none =>
          rw [included] at same
          dsimp only at same ⊢
          rw [ih (number + 1) fit same]
      | some name =>
          rw [included] at same
          dsimp only at same ⊢
          by_cases known : met.contains name = true
          · rw [if_pos known] at same
            rw [if_pos known, if_pos known]
            exact ih (number + 1) fit same
          · rw [if_neg known] at same
            have new : name ∉ met := fun present => known (List.contains_iff_mem.mpr present)
            have named := plain_includedFile included
            have child := agree met name fit named new
              fun path below => same path (List.mem_append_left _ below)
            rw [if_neg known, if_neg known, child]
            cases entered : first met name with
            | error fault => rfl
            | ok expanded =>
                have further := keeps met name expanded fit named new entered
                  (child.trans entered)
                rw [entered] at same
                dsimp only at same ⊢
                rw [ih (number + 1) further
                  fun path later => same path (List.mem_append_right _ later)]

/-- Fuel with which an expansion that has met these files lasts. -/
structure Fits (directory : Directory) (tree : Tree) (fuel : Nat) (met : List String) : Prop where
  known : Library.Met directory tree met
  lasts : tree.entries.length < fuel + met.length

theorem Fits.pos {met : List String} (fits : Fits directory tree 0 met) : False := by
  have bound := fits.known.length_le
  have lasts := fits.lasts
  omega

theorem Fits.concat {fuel : Nat} {met : List String} (fits : Fits directory tree (fuel + 1) met)
    (named : Path.Plain name.toList) (new : name ∉ met) {text : String}
    (read : directory.reading tree name = .ok text) :
    Fits directory tree fuel (met ++ [name]) := by
  refine ⟨fits.known.concat named new read, ?_⟩
  have lasts := fits.lasts
  rw [List.length_append, List.length_singleton]
  omega

theorem Fits.expandFile {fuel : Nat} {met : List String} (fits : Fits directory tree fuel met)
    (named : Path.Plain name.toList) (new : name ∉ met) {directives : Bool}
    {expanded : Expanded}
    (made : expandFile tree.readText directives fuel met (Path.join directory.path name) =
      .ok expanded) : Fits directory tree fuel expanded.files := by
  obtain ⟨met, longer⟩ := fits.known.expandFile named new made
  have lasts := fits.lasts
  exact ⟨met, by omega⟩

/-- An expansion depends on the readings of the files that it opens, and not on its fuel. -/
theorem expandFile_agree (directives : Bool) {fuel fuel' : Nat} {met : List String}
    (fits : Fits directory tree fuel met) (fits' : Fits directory other fuel' met)
    (named : Path.Plain name.toList) (new : name ∉ met)
    (same : Agree tree other
      (openedFile tree.readText directives fuel met (Path.join directory.path name))) :
    expandFile other.readText directives fuel' met (Path.join directory.path name) =
      expandFile tree.readText directives fuel met (Path.join directory.path name) := by
  induction fuel generalizing fuel' met name with
  | zero => exact fits.pos.elim
  | succ fuel ih =>
      cases fuel' with
      | zero => exact fits'.pos.elim
      | succ fuel' =>
          rw [openedFile] at same
          have reading := same _ List.mem_cons_self
          rw [expandFile, expandFile, reading]
          cases read : tree.readText (Path.join directory.path name) with
          | error cause => rfl
          | ok text =>
              have home : (Path.parent? (Path.join directory.path name)).getD "" =
                  directory.path := directory.directoryOf_join named
              rw [read] at same reading
              dsimp only at same ⊢
              rw [knownName_join directory.path named, home] at same ⊢
              -- Neither fuel runs out: each entered file is new, and a tree has finitely many.
              refine expandLines_agree
                (fun met => Fits directory tree fuel met ∧ Fits directory other fuel' met)
                ?_ ?_ directives _ 1 ?_ _ (List.forall_mem_cons.mp same).2
              · intro met name ready named new same
                exact ih ready.1 ready.2 named new same
              · intro met name expanded ready named new made made'
                exact ⟨ready.1.expandFile named new made, ready.2.expandFile named new made'⟩
              · exact ⟨fits.concat named new read, fits'.concat named new reading⟩

theorem combineIn_agree (options : Options) (named : Path.Plain name.toList)
    (same : Agree tree other (openedFile tree.readText options.directives
      (tree.entries.length + 1) [] (Path.join directory.path name))) :
    combineIn other options (Path.join directory.path name) =
      combineIn tree options (Path.join directory.path name) := by
  have fits : ∀ tree, Fits directory tree (tree.entries.length + 1) [] := fun tree =>
    ⟨Library.met_nil, by simp⟩
  rw [combineIn, combineIn, combine, combine]
  rw [expandFile_agree options.directives (fits tree) (fits other) named List.not_mem_nil same]

namespace Library

/-- Files are visited alike if the visit of each one is alike. -/
theorem visitAll_agree
    {first second : List String → Path → Except FileError (List String)}
    {opened : List String → Path → List Path} (ready : List String → Prop)
    (agree : ∀ found name, ready found → Path.Plain name.toList →
      Agree tree other (opened found (Path.join directory.path name)) →
        second found (Path.join directory.path name) = first found (Path.join directory.path name))
    (keeps : ∀ found name after, ready found → Path.Plain name.toList →
      first found (Path.join directory.path name) = .ok after →
        second found (Path.join directory.path name) = .ok after → ready after)
    {found : List String} (fit : ready found) {names : List String}
    (plain : ∀ name ∈ names, Path.Plain name.toList)
    (same : Agree tree other (openedVisits first opened directory.path found names)) :
    visitAll second directory.path found names = visitAll first directory.path found names := by
  induction names generalizing found with
  | nil => rfl
  | cons name rest ih =>
      rw [openedVisits] at same
      obtain ⟨here, later⟩ := List.forall_mem_append.mp same
      have named := plain name List.mem_cons_self
      have visited := agree found name fit named here
      rw [visitAll, visitAll, visited]
      cases entered : first found (Path.join directory.path name) with
      | error cause => rfl
      | ok after =>
          rw [entered] at later
          exact ih (keeps found name after fit named entered (visited.trans entered))
            (fun other member => plain other (List.mem_cons_of_mem name member)) later

/-- Fuel with which a visit that has found these files lasts. -/
structure Roams (directory : Directory) (tree : Tree) (fuel : Nat) (found : List String) :
    Prop where
  files : FileNames found
  lasts : Lasts directory tree fuel found

theorem Roams.cons {fuel : Nat} {found : List String} (roams : Roams directory tree fuel found)
    (new : name ∉ found) (named : Path.Plain name.toList) {text : String}
    (read : directory.reading tree name = .ok text) :
    ∃ less, fuel = less + 1 ∧ Roams directory tree less (name :: found) := by
  have entered := roams.files.cons new named
  have counted := length_readable_cons found read
  have bound := length_readable_le directory tree entered
  have lasts := roams.lasts
  rw [Lasts] at lasts
  cases fuel with
  | zero => omega
  | succ less => exact ⟨less, rfl, entered, by rw [Lasts]; omega⟩

theorem Roams.visit {fuel : Nat} {found after : List String}
    (roams : Roams directory tree fuel found) (named : Path.Plain name.toList)
    (made : visitFile tree.readText directory.path fuel found (Path.join directory.path name) =
      .ok after) : Roams directory tree fuel after := by
  obtain ⟨visited, _⟩ := visitFile_visited roams.files named roams.lasts made
  have more := length_readable_mono directory tree visited.grows
  have lasts := roams.lasts
  rw [Lasts] at lasts
  exact ⟨visited.files, by rw [Lasts]; omega⟩

/-- A visit depends on the readings of the files that it opens, and not on its fuel. -/
theorem visitFile_agree {fuel fuel' : Nat} {found : List String}
    (roams : Roams directory tree fuel found) (roams' : Roams directory other fuel' found)
    (named : Path.Plain name.toList)
    (same : Agree tree other
      (openedVisit tree.readText directory.path fuel found (Path.join directory.path name))) :
    visitFile other.readText directory.path fuel' found (Path.join directory.path name) =
      visitFile tree.readText directory.path fuel found (Path.join directory.path name) := by
  -- Only a file that can be read costs fuel, so the fuel is not taken apart before that.
  induction fuel using Nat.strongRecOn generalizing fuel' found name with
  | ind fuel ih =>
      by_cases known : lastName (Path.join directory.path name) ∈ found
      · rw [visitFile_of_known fuel' known, visitFile_of_known fuel known]
      · have unknown : ¬ found.contains (lastName (Path.join directory.path name)) = true :=
          fun present => known (List.contains_iff_mem.mp present)
        rw [openedVisit, if_neg unknown] at same
        have reading := same _ List.mem_cons_self
        cases read : tree.readText (Path.join directory.path name) with
        | error cause =>
            rw [visitFile, visitFile, if_neg unknown, if_neg unknown, reading, read]
            cases cause <;> rfl
        | ok text =>
            rw [read] at same reading
            have new : name ∉ found := by
              rwa [lastName_join directory.path named] at known
            obtain ⟨less, rfl, onwards⟩ := roams.cons new named read
            obtain ⟨less', rfl, onwards'⟩ := roams'.cons new named reading
            rw [visitFile_of_new less' known reading, visitFile_of_new less known read,
              lastName_join directory.path named]
            dsimp only at same
            rw [filterMap_lines, lastName_join directory.path named] at same
            refine visitAll_agree
              (fun found => Roams directory tree less found ∧ Roams directory other less' found)
              ?_ ?_ ⟨onwards, onwards'⟩ (fun _ member => plain_of_mem_includes member)
              (List.forall_mem_cons.mp same).2
            · intro found name ready named same
              exact ih less (Nat.lt_succ_self less) ready.1 ready.2 named same
            · intro found name after ready named made made'
              exact ⟨ready.1.visit named made, ready.2.visit named made'⟩

/-- A load depends on the readings of the files that it opens. -/
theorem load_agree (options : Options) {name : String}
    (resolved : (of directory).resolve other name = (of directory).resolve tree name)
    (same : Agree tree other ((of directory).openedByLoad tree options name)) :
    (of directory).load other options name = (of directory).load tree options name := by
  rw [openedByLoad] at same
  rw [load, load, resolved]
  cases found : (of directory).resolve tree name with
  | error error => rfl
  | ok path =>
      obtain ⟨stem, file, fragment, _, rfl⟩ := exists_file_of_resolve found
      rw [found] at same
      obtain ⟨files, manifest⟩ := List.forall_mem_append.mp same
      dsimp only
      rw [combineIn_agree options fragment.plain files]
      cases made : combineIn tree options (Path.join directory.path file) with
      | error fault => rfl
      | ok combined =>
          rw [made] at manifest
          have beside := manifest _ List.mem_cons_self
          dsimp only
          rw [loadManifest_congr beside]

/-- A look-up of references depends on the readings of the files that it opens. -/
theorem references_agree {name : String}
    (resolved : (of directory).resolve other name = (of directory).resolve tree name)
    (same : Agree tree other ((of directory).openedByReferences tree name)) :
    (of directory).references other name = (of directory).references tree name := by
  rw [openedByReferences] at same
  rw [references, references, resolved]
  cases found : (of directory).resolve tree name with
  | error error => rfl
  | ok path =>
      obtain ⟨stem, file, fragment, _, rfl⟩ := exists_file_of_resolve found
      rw [found] at same
      dsimp only [of] at same ⊢
      have single : FileNames [lastName (manifestPath (Path.join directory.path file))] := by
        rw [lastName_manifestPath fragment]
        exact fileNames_manifestName fragment
      have roams : ∀ tree, Roams directory tree (tree.entries.length + 1)
          [lastName (manifestPath (Path.join directory.path file))] := fun tree =>
        ⟨single, by rw [Lasts]; omega⟩
      rw [visitFile_agree (roams tree) (roams other) fragment.plain same]

end Library

end Agreement

/-! ## Libraries that were opened -/

/-- An opened library has the path of a directory, without idle names. -/
theorem Library.exists_directory_of_openAt {files : Tree} {root : Path} {library : Library}
    (home : Tree.PlainLocation files.workingDirectory)
    (opened : Library.openAt files root = .ok library) :
    ∃ directory, library = .of directory := by
  rw [Library.openAt] at opened
  split at opened
  · rw [Tree.canonical] at opened
    cases present : files.find root with
    | error cause =>
        rw [present] at opened
        cases opened
    | ok found =>
        rw [present] at opened
        cases opened
        exact ⟨⟨found.1, Tree.plain_of_find home present⟩, rfl⟩
  · cases opened

/--
Loading never leaves the root of a library.  Whatever name is given, and whatever the files
say, each path that is resolved or opened (the fragment, a file included at any depth, the
manifest) is the root joined with one plain name.  Nothing else is read: a tree of files
with the same readings at the opened paths gives the same fragment and the same references.
-/
theorem opened_in_root {files : Tree} {root : Path} {library : Library}
    (home : Tree.PlainLocation files.workingDirectory)
    (opened : Library.openAt files root = .ok library) :
    ∃ directory, library = .of directory ∧ ∀ tree name,
      (∀ path, library.resolve tree name = .ok path → directory.Holds path) ∧
        (∀ options, ∀ path ∈ library.openedByLoad tree options name, directory.Holds path) ∧
        (∀ path ∈ library.openedByReferences tree name, directory.Holds path) ∧
        ∀ other, library.resolve other name = library.resolve tree name →
          (∀ options, Agree tree other (library.openedByLoad tree options name) →
            library.load other options name = library.load tree options name) ∧
          (Agree tree other (library.openedByReferences tree name) →
            library.references other name = library.references tree name) := by
  obtain ⟨directory, rfl⟩ := Library.exists_directory_of_openAt home opened
  refine ⟨directory, rfl, ?_⟩
  intro tree name
  refine ⟨?_, ?_, ?_, ?_⟩
  · exact fun path resolved => Library.holds_resolved resolved
  · exact fun options => Library.holds_openedByLoad options
  · exact Library.holds_openedByReferences
  · intro other resolved
    exact ⟨fun options => Library.load_agree options resolved,
      Library.references_agree resolved⟩

/-- Files with odd names: a fragment with dots that includes a file named by dots. -/
def dottedFiles : Tree := ⟨[
  (["lib"], .directory),
  (["lib", "a...frag"], .file (.text "#include ..\n#include ../b\n")),
  (["lib", "...glsl"], .file (.text "#include ...\n")),
  (["lib", "....glsl"], .file (.text "")),
  (["b.glsl"], .file (.text ""))], []⟩

/-- Names made of dots lead to files of the root as well. -/
theorem opened_in_root_dotted :
    Tree.PlainLocation dottedFiles.workingDirectory ∧
      Library.openAt dottedFiles "./lib/../lib/" = .ok ⟨"/lib"⟩ ∧
      Library.openedByLoad ⟨"/lib"⟩ dottedFiles .full "a.." =
        ["/lib/a...frag", "/lib/...glsl", "/lib/....glsl", "/lib/a...toml"] ∧
      ∃ directory : Directory, directory.path = "/lib" ∧
        ∀ path ∈ Library.openedByLoad ⟨"/lib"⟩ dottedFiles .full "a..", directory.Holds path := by
  have home : Tree.PlainLocation dottedFiles.workingDirectory := by
    intro name member
    cases member
  have opened : Library.openAt dottedFiles "./lib/../lib/" = .ok ⟨"/lib"⟩ := by
    decide +kernel
  obtain ⟨directory, same, confined⟩ := opened_in_root home opened
  refine ⟨home, opened, by decide +kernel, directory, (congrArg Library.root same).symm, ?_⟩
  exact (confined dottedFiles "a..").2.1 .full

end LiveShader.Fragment
