import LiveShader.Proofs.Files.Walk

/-!
# The files of a directory

What is read under the name of a file depends on the entries on the way to the file
only, so a change of one file of a directory does not show under any other name.
-/

namespace LiveShader.Files

/-- A directory, by a location whose names can all be names of directories. -/
structure Directory where
  location : Location
  plain : Tree.PlainLocation location

/-- A name that a file can have. -/
abbrev FileName := { name : String // Path.Plain name.toList }

namespace Directory

/-- The path of a directory. -/
def path (directory : Directory) : Path := Tree.pathOf directory.location

/-- What is read under a name in a directory. -/
def reading (directory : Directory) (tree : Tree) (name : String) : Except FileError String :=
  tree.readText (Path.join directory.path name)

/-- The location of a file. -/
def locationOf (directory : Directory) (name : String) : Location :=
  directory.location ++ [name]

variable {directory : Directory} {tree other : Tree} {name changed : String} {text : String}

theorem directoryOf_join (directory : Directory) (named : Path.Plain name.toList) :
    Path.directoryOf (Path.join directory.path name) = directory.path :=
  (Tree.settled_pathOf directory.plain).directoryOf_join named

theorem locate_join (named : Path.Plain name.toList) :
    tree.locate (Path.join directory.path name) =
      if (Path.join directory.path name).toList.contains '\x00' then .error .nulInName
      else if 4096 ≤ (Path.join directory.path name).utf8ByteSize then .error .nameTooLong
      else tree.walk [] (directory.locationOf name) := by
  have spelled : (Path.join directory.path name).toList =
      '/' :: (Tree.slashed directory.location ++ name.toList) := by
    rw [path]
    rw [Path.join_eq named, Tree.front_pathOf directory.plain, String.toList_ofList]
    rfl
  have full : (Path.join directory.path name).isEmpty = false := by
    rw [Bool.eq_false_iff]
    intro empty
    rw [String.isEmpty_iff.mp empty] at spelled
    cases spelled
  rw [Tree.locate]
  rw [full, spelled]
  rw [path, locationOf]
  rw [Tree.pathNames_join directory.plain named]
  rfl

theorem plain_locationOf (directory : Directory) (named : Path.Plain name.toList) :
    Tree.PlainLocation (directory.locationOf name) := by
  intro other member
  rcases List.mem_append.mp member with above | last
  · exact directory.plain other above
  · rw [List.mem_singleton.mp last]
    exact named

/-- What a name of a directory leads to lies in the directory, right under that name. -/
theorem location_of_find (named : Path.Plain name.toList) {location : Location} {entry : Entry}
    (present : tree.find (Path.join directory.path name) = .ok (location, entry)) :
    location = directory.locationOf name := by
  rw [Tree.find] at present
  rw [locate_join named] at present
  split at present
  · cases present
  · split at present
    · cases present
    · cases walked : tree.walk [] (directory.locationOf name) with
      | error cause =>
          rw [walked] at present
          cases present
      | ok found =>
          rw [walked] at present
          rcases found with ⟨found, _ | entry'⟩
          · cases present
          · cases present
            exact Tree.location_of_walk [] (directory.plain_locationOf named) walked

/--
A path right inside a directory: the directory joined with one plain name.  The names on
it are those of the directory and this one, and it leads to nothing but the file of the
directory under this name.
-/
def Holds (directory : Directory) (path : Path) : Prop :=
  ∃ name : FileName, path = Path.join directory.path name ∧
    Tree.pathNames path = directory.location ++ [name.val] ∧
      ∀ tree location entry, Tree.find tree path = .ok (location, entry) →
        location = directory.locationOf name

theorem holds_join (named : Path.Plain name.toList) :
    directory.Holds (Path.join directory.path name) := by
  refine ⟨⟨name, named⟩, rfl, Tree.pathNames_join directory.plain named, ?_⟩
  intro tree location entry present
  exact location_of_find named present

theorem reading_congr (named : Path.Plain name.toList)
    (agree : ∀ passed, passed <+: directory.locationOf name → passed ≠ [] →
      tree.lookup passed = other.lookup passed) :
    directory.reading tree name = directory.reading other name := by
  have walked : tree.walk [] (directory.locationOf name) =
      other.walk [] (directory.locationOf name) := by
    apply Tree.walk_congr [] (directory.plain_locationOf named)
    intro passed shorter longer
    exact agree passed shorter (List.ne_nil_of_length_pos longer)
  simp only [reading, Tree.readText, Tree.find]
  rw [locate_join named, locate_join named, walked]

theorem lookup_of_reading (named : Path.Plain name.toList)
    (readable : directory.reading tree name = .ok text) :
    tree.lookup (directory.locationOf name) = some (.file (.text text)) := by
  rw [reading, Tree.readText, Tree.find] at readable
  rw [locate_join named] at readable
  split at readable
  · cases readable
  · split at readable
    · cases readable
    · cases walked : tree.walk [] (directory.locationOf name) with
      | error cause =>
          rw [walked] at readable
          cases readable
      | ok found =>
          rw [walked] at readable
          rcases found with ⟨location, _ | _ | content⟩
          · cases readable
          · cases readable
          · have present := Tree.lookup_of_walk [] (directory.plain_locationOf named) walked
            cases content with
            | text content =>
                cases readable
                exact present
            | image content => cases readable
            | bytes content => cases readable

theorem isFile_of_reading (readable : directory.reading tree name = .ok text) :
    tree.isFile (Path.join directory.path name) = true := by
  rw [reading, Tree.readText] at readable
  rw [Tree.isFile]
  cases found : tree.find (Path.join directory.path name) with
  | error cause =>
      rw [found] at readable
      cases readable
  | ok item =>
      rw [found] at readable
      rcases item with ⟨location, _ | content⟩
      · cases readable
      · rfl

/-! ## Changes of one file -/

/-- The way to a file does not lead through another file of its directory. -/
theorem not_through_other (differ : name ≠ changed) {passed : Location}
    (shorter : passed <+: directory.locationOf name) :
    ¬ directory.locationOf changed <+: passed := by
  intro longer
  have through := longer.trans shorter
  have same : directory.locationOf changed = directory.locationOf name := by
    apply through.eq_of_length
    simp only [locationOf]
    simp
  simp only [locationOf] at same
  rw [List.append_cancel_left_eq, List.singleton_inj] at same
  exact differ same.symm

theorem reading_put_of_ne (named : Path.Plain name.toList) (entry : Entry)
    (differ : name ≠ changed) :
    directory.reading (tree.put (directory.locationOf changed) entry) name =
      directory.reading tree name := by
  apply reading_congr named
  intro passed shorter _
  apply Tree.lookup_put_of_ne
  rintro rfl
  exact not_through_other differ shorter List.prefix_rfl

theorem reading_erase_of_ne (named : Path.Plain name.toList) (differ : name ≠ changed) :
    directory.reading (tree.erase (directory.locationOf changed)) name =
      directory.reading tree name := by
  apply reading_congr named
  intro passed shorter _
  exact Tree.lookup_erase_of_apart (not_through_other differ shorter)

/-- A file that was removed cannot be read. -/
theorem reading_erase_self (named : Path.Plain name.toList) :
    directory.reading (tree.erase (directory.locationOf name)) name ≠ .ok text := by
  intro readable
  have present := lookup_of_reading named readable
  rw [Tree.lookup_erase_self (by simp [locationOf])] at present
  cases present

/-- A tree has an entry for every file that can be read. -/
theorem length_le_of_readable {names : List String} (distinct : names.Nodup)
    (readable : ∀ name ∈ names, Path.Plain name.toList ∧
      ∃ text, directory.reading tree name = .ok text) :
    names.length ≤ tree.entries.length :=
  Tree.length_le_of_readable distinct readable

/-! ## The directory itself -/

theorem path_eq_join (above : Location) {last : String} (plain : Tree.PlainLocation above)
    (named : Path.Plain last.toList) :
    Tree.pathOf (above ++ [last]) = Path.join (Tree.pathOf above) last := by
  apply String.toList_injective
  rw [Path.join_eq named, Tree.front_pathOf plain, String.toList_ofList, Tree.toList_pathOf]
  rfl

theorem locate_path (directory : Directory) (tree : Tree) :
    tree.locate directory.path =
      if directory.path.toList.contains '\x00' then .error .nulInName
      else if 4096 ≤ directory.path.utf8ByteSize then .error .nameTooLong
      else tree.walk [] directory.location := by
  rcases directory with ⟨location, plain⟩
  rcases List.eq_nil_or_concat location with rfl | ⟨above, last, rfl⟩
  · have root : Tree.pathOf [] = "/" := by decide
    have names : Tree.pathNames "/" = ["."] := by decide
    simp only [path, root]
    rw [Tree.locate, names]
    rfl
  · rw [List.concat_eq_append] at plain
    have named : Path.Plain last.toList := plain last (by simp)
    have parents : Tree.PlainLocation above := fun name member =>
      plain name (List.mem_append_left _ member)
    have located := @locate_join ⟨above, parents⟩ tree last named
    simp only [path, List.concat_eq_append, path_eq_join above parents named] at located ⊢
    exact located

end Directory

end LiveShader.Files
