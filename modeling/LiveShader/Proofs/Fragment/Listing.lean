import LiveShader.Proofs.Console.Turn
import Mathlib.Data.List.Nodup

/-!
# Fragments that are listed

The list of a library holds every file with the extension of a fragment.  A name leads to a
file only if it is visible, has no backslash, and the path to the file is not too long.  So
every file that a name leads to is listed, but a hidden file is listed and no name leads to
it; when such a file is the first of the list, a change of the list selects nothing.
-/

namespace LiveShader.Files.Tree

/-- A name that a disk gives to an entry of a directory. -/
structure EntryName (name : String) : Prop where
  plain : Path.Plain name.toList
  noNul : '\x00' ∉ name.toList
  short : name.utf8ByteSize ≤ 255

/-- Files as a disk holds them: each location once, and under names that entries can have. -/
structure OnDisk (tree : Tree) : Prop where
  distinct : (tree.entries.map Prod.fst).Nodup
  named : ∀ above name entry, (above ++ [name], entry) ∈ tree.entries → EntryName name

theorem OnDisk.lookup_of_mem {tree : Tree} (onDisk : tree.OnDisk) {above : Location}
    {name : String} {entry : Entry} (member : (above ++ [name], entry) ∈ tree.entries) :
    tree.lookup (above ++ [name]) = some entry := by
  have full : (above ++ [name]).isEmpty = false := by simp
  rw [lookup, full]
  cases found : tree.entries.find? fun item => item.1 == above ++ [name] with
  | none => simpa using List.find?_eq_none.mp found _ member
  | some item =>
      have same : item.1 = above ++ [name] := by simpa using List.find?_some found
      have equal := List.inj_on_of_nodup_map onDisk.distinct
        (List.mem_of_find?_eq_some found) member same
      rw [equal]
      rfl

end LiveShader.Files.Tree

namespace LiveShader.Fragment

open LiveShader.Files LiveShader.Text

/-! ## Names of fragments -/

/-- What a file with the extension of a fragment is called. -/
theorem spelled_of_extensionOf? {name : String}
    (extended : Path.extensionOf? name = some extension) :
    ∃ stem, stem ≠ [] ∧ name.toList = stem ++ ".frag".toList := by
  obtain ⟨letters, found, same⟩ := Option.map_eq_some_iff.mp extended
  have spelled : letters = "frag".toList := by
    rw [← String.toList_ofList (l := letters), same]
    rfl
  subst spelled
  simp only [Path.splitName] at found
  split at found
  · rename_i dotted
    simp only [Bool.and_eq_true, List.contains_iff_mem, Bool.not_eq_true',
      List.isEmpty_eq_false_iff] at dotted
    have tail := List.reverse_eq_iff.mp (Option.some.inj found)
    have whole := List.takeWhile_append_dropWhile (p := (· != '.')) (l := name.toList.reverse)
    -- What stands in front of the extension begins, read backwards, with the dot.
    cases cut : name.toList.reverse.dropWhile (· != '.') with
    | nil =>
        rw [cut] at dotted
        exact absurd rfl dotted.2
    | cons c rest =>
        have dot : c = '.' := by
          have first := List.head?_dropWhile_not (· != '.') name.toList.reverse
          rw [cut] at first
          simpa using first
        subst dot
        rw [cut] at dotted whole
        refine ⟨rest.reverse, by simpa using dotted.2, ?_⟩
        have turned := congrArg List.reverse whole
        rw [List.reverse_reverse, tail, List.reverse_append] at turned
        rw [← turned]
        simp
  · cases found

theorem extensionOf?_of_spelled {stem : List Char} {name : String} (full : stem ≠ [])
    (spelled : name.toList = stem ++ ".frag".toList) :
    Path.extensionOf? name = some extension := by
  rw [Path.extensionOf?, spelled]
  change (Path.splitName (stem ++ '.' :: "frag".toList)).2.map String.ofList = some extension
  rw [IsFragmentFile.splitName_append_dot full (by decide)]
  rfl

namespace Library

variable {directory : Directory} {tree : Tree} {name : String} {names : List String}

/-! ## What is listed -/

/-- A path begins with the one that it was joined to, and ends with the name. -/
theorem exists_join_eq (above : Path) (named : Path.Plain name.toList) :
    ∃ between, '\x00' ∉ between.toList ∧ Path.join above name = above ++ between ++ name := by
  have relative : Path.isAbsolute name = false := by
    rw [Path.isAbsolute, beq_eq_false_iff_ne]
    intro absolute
    exact named.noSlash (List.mem_of_mem_head? absolute)
  rw [Path.join, relative, Bool.false_or]
  split
  · rename_i empty
    refine ⟨"", by simp, ?_⟩
    rw [String.isEmpty_iff.mp empty]
    simp
  · split
    · exact ⟨"", by simp, by simp⟩
    · exact ⟨"/", by simp, rfl⟩

/-- The directory can be walked to, and these are the names of its fragments. -/
structure Listed (directory : Directory) (tree : Tree) (names : List String) : Prop where
  walked : tree.walk [] directory.location = .ok (directory.location, some .directory)
  noNul : '\x00' ∉ directory.path.toList
  mem_iff : ∀ name, name ∈ names ↔ Path.extensionOf? name = some extension ∧
    ∃ content, (directory.locationOf name, .file content) ∈ tree.entries

theorem mem_children_iff {entry : Entry} (directory : Directory) :
    (name, entry) ∈ (tree.entries.filterMap fun item =>
        match item.1.getLast? with
        | some name => if item.1.dropLast == directory.location then some (name, item.2) else none
        | none => none) ↔
      (directory.locationOf name, entry) ∈ tree.entries := by
  rw [List.mem_filterMap]
  constructor
  · rintro ⟨⟨location, held⟩, member, found⟩
    rcases List.eq_nil_or_concat location with rfl | ⟨above, last, rfl⟩
    · cases found
    · simp only [List.concat_eq_append, List.getLast?_concat, List.dropLast_concat] at found
      split at found
      · rename_i here
        cases found
        rw [beq_iff_eq] at here
        subst here
        simpa [Directory.locationOf] using member
      · cases found
  · intro member
    refine ⟨_, member, ?_⟩
    simp [Directory.locationOf]

theorem listed_of_list (listed : (of directory).list tree = .ok names) :
    Listed directory tree names := by
  rw [list, of, Tree.children, Tree.find, directory.locate_path] at listed
  split at listed
  · cases listed
  rename_i items found
  cases listed
  split at found
  · cases found
  rename_i noNul
  split at found
  · cases found
  cases walked : tree.walk [] directory.location with
  | error cause =>
      rw [walked] at found
      cases found
  | ok answer =>
      rw [walked] at found
      rcases answer with ⟨location, _ | _ | content⟩
      · cases found
      · have here := Tree.location_of_walk [] directory.plain walked
        rw [List.nil_append] at here
        subst here
        cases found
        refine ⟨walked, by simpa using noNul, ?_⟩
        intro name
        rw [List.mem_mergeSort, List.mem_map]
        constructor
        · rintro ⟨⟨other, entry⟩, member, rfl⟩
          obtain ⟨present, fragment⟩ := List.mem_filter.mp member
          replace present := (mem_children_iff directory).mp present
          simp only [isFragment, Bool.and_eq_true, beq_iff_eq] at fragment
          rcases entry with _ | content
          · cases fragment.2
          · exact ⟨fragment.1, content, present⟩
        · rintro ⟨extended, content, present⟩
          refine ⟨(name, .file content), List.mem_filter.mpr ⟨?_, ?_⟩, rfl⟩
          · exact (mem_children_iff directory).mpr present
          · simp [isFragment, extended]
      · cases found

/-- A directory that can be walked to can be listed. -/
theorem list_succeeds
    (walked : tree.walk [] directory.location = .ok (directory.location, some .directory))
    (noNul : '\x00' ∉ directory.path.toList) (short : directory.path.utf8ByteSize < 4096) :
    ∃ names, (of directory).list tree = .ok names := by
  have spelled : directory.path.toList.contains '\x00' = false := by simpa using noNul
  rw [list, of, Tree.children, Tree.find, directory.locate_path, spelled, walked,
    if_neg Bool.false_ne_true, if_neg (Nat.not_le.mpr short)]
  exact ⟨_, rfl⟩

/-! ## What a name leads to -/

/-- A name under which a listed file can be found. -/
structure Addressable (directory : Directory) (name : String) : Prop where
  visible : name.toList.head? ≠ some '.'
  noBackslash : '\\' ∉ name.toList
  short : (Path.join directory.path name).utf8ByteSize < 4096

instance (directory : Directory) (name : String) : Decidable (Addressable directory name) :=
  decidable_of_iff (name.toList.head? ≠ some '.' ∧ '\\' ∉ name.toList ∧
      (Path.join directory.path name).utf8ByteSize < 4096)
    ⟨fun ⟨visible, noBackslash, short⟩ => ⟨visible, noBackslash, short⟩,
      fun ⟨visible, noBackslash, short⟩ => ⟨visible, noBackslash, short⟩⟩

/-- A file of a listed directory is found unless the path to it is too long. -/
theorem Listed.isFile_iff (listed : Listed directory tree names) (onDisk : tree.OnDisk)
    (member : name ∈ names) :
    tree.isFile (Path.join directory.path name) = true ↔
      (Path.join directory.path name).utf8ByteSize < 4096 := by
  obtain ⟨_, content, present⟩ := (listed.mem_iff name).mp member
  have entry := onDisk.named directory.location name _ present
  obtain ⟨between, clean, joined⟩ := exists_join_eq directory.path entry.plain
  have noNul : (Path.join directory.path name).toList.contains '\x00' = false := by
    rw [joined]
    simp [listed.noNul, clean, entry.noNul]
  have last : tree.walk directory.location [name] =
      .ok (directory.locationOf name, some (.file content)) := by
    rw [Tree.walk_cons _ entry.plain, if_neg (Nat.not_lt.mpr entry.short),
      onDisk.lookup_of_mem present]
    rfl
  rw [Tree.isFile, Tree.find, Directory.locate_join entry.plain, noNul, if_neg Bool.false_ne_true]
  rw [Directory.locationOf, Tree.walk_append listed.walked, last]
  by_cases long : 4096 ≤ (Path.join directory.path name).utf8ByteSize
  · rw [if_pos long]
    exact iff_of_false Bool.false_ne_true (Nat.not_lt.mpr long)
  · rw [if_neg long]
    exact iff_of_true rfl (Nat.lt_of_not_le long)

/-- A file that is found in a directory is on the list of the directory. -/
theorem exists_list_of_isFile (named : Path.Plain name.toList)
    (extended : Path.extensionOf? name = some extension)
    (isFile : tree.isFile (Path.join directory.path name) = true) :
    ∃ names, (of directory).list tree = .ok names ∧ name ∈ names := by
  rw [Tree.isFile, Tree.find, Directory.locate_join named] at isFile
  split at isFile
  · rename_i location content found
    split at found
    · cases found
    rename_i noNul
    split at found
    · cases found
    rename_i short
    obtain ⟨between, _, joined⟩ := exists_join_eq directory.path named
    rw [joined] at noNul short
    cases walked : tree.walk [] (directory.locationOf name) with
    | error cause =>
        rw [walked] at found
        cases found
    | ok answer =>
        rw [walked] at found
        rcases answer with ⟨location', _ | entry⟩
        · cases found
        · cases found
          obtain ⟨home, reached⟩ := Tree.exists_directory_of_walk walked
          have here := Tree.location_of_walk [] directory.plain reached
          rw [List.nil_append] at here
          subst here
          have present := Tree.lookup_of_walk [] (directory.plain_locationOf named) walked
          obtain ⟨names, listed⟩ := list_succeeds reached
            (by simpa using fun nul => noNul (by simp [nul]))
            (by simp only [String.utf8ByteSize_append] at short; omega)
          refine ⟨names, listed, ?_⟩
          rw [(listed_of_list listed).mem_iff]
          exact ⟨extended, content,
            Tree.mem_entries_of_lookup (by simp [Directory.locationOf]) present⟩
  · cases isFile

theorem fileName?_eq_none
    (hidden : ¬ (name.toList.head? ≠ some '.' ∧ '\\' ∉ name.toList)) : fileName? name = none := by
  have refused : name.toList.head? = some '.' ∨ '\\' ∈ name.toList := by
    by_cases dot : name.toList.head? = some '.'
    · exact Or.inl dot
    · exact Or.inr (by simpa [dot] using hidden)
  rw [fileName?]
  rcases refused with dot | slash
  · simp [dot]
  · simp [slash]

/-- A listed name leads to its file if files can be addressed by it, and nowhere otherwise. -/
theorem Listed.resolve_eq (listed : Listed directory tree names) (onDisk : tree.OnDisk)
    (member : name ∈ names) :
    (of directory).resolve tree name =
      if Addressable directory name then .ok (Path.join directory.path name)
      else .error (.unknownFragment name) := by
  obtain ⟨extended, content, present⟩ := (listed.mem_iff name).mp member
  obtain ⟨stem, full, spelled⟩ := spelled_of_extensionOf? extended
  have entry := onDisk.named directory.location name _ present
  by_cases shown : name.toList.head? ≠ some '.' ∧ '\\' ∉ name.toList
  · have fragment : IsFragmentFile stem name := by
      have noSlash := entry.plain.noSlash
      have ⟨visible, noBackslash⟩ := shown
      rw [spelled] at visible noBackslash noSlash
      refine ⟨spelled, full, ?_, ?_, ?_⟩
      · rwa [List.head?_append_of_ne_nil _ full] at visible
      · exact fun slash => noSlash (List.mem_append_left _ slash)
      · exact fun slash => noBackslash (List.mem_append_left _ slash)
    have same : Addressable directory name ↔
        tree.isFile (Path.join directory.path name) = true := by
      rw [listed.isFile_iff onDisk member]
      exact ⟨Addressable.short, fun short => ⟨shown.1, shown.2, short⟩⟩
    rw [Library.resolve_eq fragment]
    simp only [same]
  · have hidden : ¬ Addressable directory name := fun addressable =>
      shown ⟨addressable.visible, addressable.noBackslash⟩
    rw [if_neg hidden, resolve, fileName?_eq_none shown]

/-- Whatever a name leads to is listed. -/
theorem exists_list_of_resolve {path : Path}
    (resolved : (of directory).resolve tree name = .ok path) :
    ∃ names, (of directory).list tree = .ok names ∧ lastName path ∈ names ∧
      path = Path.join directory.path (lastName path) := by
  obtain ⟨stem, file, fragment, isFile, rfl⟩ := exists_file_of_resolve resolved
  rw [lastName_join directory.path fragment.plain]
  obtain ⟨names, listed, member⟩ := exists_list_of_isFile fragment.plain
    (extensionOf?_of_spelled fragment.full fragment.spelled) isFile
  exact ⟨names, listed, member, rfl⟩

end Library

/-! ## What is selected when the list changes -/

section Selection

open Console

variable {operator : Operator} {place : Place} {names : List String}

/-- A selected fragment that is on the list stays selected, and no other one does. -/
theorem selected_refresh (listed : operator.library.list place.files = .ok names) :
    (operator.refresh place.files).fragments = names ∧
      (operator.refresh place.files).selected =
        operator.selected.filter fun name => names.contains name := by
  rw [Operator.refresh, listed]
  dsimp only
  cases selected : operator.selected with
  | none => exact ⟨rfl, rfl⟩
  | some name =>
      dsimp only
      rw [Option.filter_some]
      split
      · exact ⟨rfl, rfl⟩
      · exact ⟨rfl, rfl⟩

/-- A name selects what it leads to. -/
theorem selected_select (operator : Operator) (place : Place) (name : String) :
    (operator.select place name).operator.selected =
      match operator.library.resolve place.files name with
      | .ok path => some (Library.lastName path)
      | .error _ => operator.selected := by
  rw [Operator.select]
  cases operator.library.resolve place.files name with
  | error error => rfl
  | ok path =>
      dsimp only
      have selected : ({ operator with selected := some (Library.lastName path) } :
          Operator).selected = some (Library.lastName path) := rfl
      obtain ⟨current, after⟩ := reload_operator place selected
      rw [after]
      exact track_selected _ place.files _

/-- After a change of the list the old selection is kept, or the first of the list is tried. -/
theorem selected_listChanged (listed : operator.library.list place.files = .ok names) :
    (operator.onEvent place .listChanged).operator.selected =
      (operator.selected.filter fun name => names.contains name).or
        (names.head?.bind fun first =>
          (operator.library.resolve place.files first).toOption.map Library.lastName) := by
  obtain ⟨fragments, selected⟩ := selected_refresh listed
  change ((operator.refresh place.files).selectFirst place).operator.selected = _
  rw [Operator.selectFirst, fragments]
  cases kept : operator.selected.filter fun name => names.contains name with
  | some name =>
      rw [kept] at selected
      rw [selected]
      exact selected
  | none =>
      rw [kept] at selected
      rw [selected]
      cases names with
      | nil => exact selected
      | cons first rest =>
          dsimp only
          rw [selected_select, refresh_library, selected]
          simp only [List.head?_cons, Option.bind_some, Option.none_or]
          cases operator.library.resolve place.files first with
          | ok path => rfl
          | error error => rfl

end Selection

/--
Which listed fragments can be opened.  A listed name leads to the file of this name exactly
if files can be addressed by it: it is visible and has no backslash, and the path to the file
is not too long.  Whatever a name leads to is listed.  So after a change of the list
something is selected exactly if the old selection is still listed, or the first of the list
can be addressed.
-/
theorem listed_opens_iff {directory : Directory} {tree : Tree} (onDisk : tree.OnDisk) :
    (∀ names, (Library.of directory).list tree = .ok names →
      (∀ name ∈ names,
        (Library.of directory).resolve tree name = .ok (Path.join directory.path name) ↔
          Library.Addressable directory name) ∧
        ∀ (operator : Console.Operator) (windowIsOpen : Bool),
          operator.library = .of directory →
            ((operator.onEvent ⟨tree, windowIsOpen⟩ .listChanged).operator.selected.isSome = true ↔
              (∃ name ∈ names, operator.selected = some name) ∨
                ∃ first ∈ names.head?, Library.Addressable directory first)) ∧
      ∀ name path, (Library.of directory).resolve tree name = .ok path →
        ∃ names, (Library.of directory).list tree = .ok names ∧
          Library.lastName path ∈ names ∧
            path = Path.join directory.path (Library.lastName path) := by
  refine ⟨?_, fun name path resolved => Library.exists_list_of_resolve resolved⟩
  intro names listing
  have listed := Library.listed_of_list listing
  have opens : ∀ name ∈ names,
      (Library.of directory).resolve tree name = .ok (Path.join directory.path name) ↔
        Library.Addressable directory name := by
    intro name member
    rw [listed.resolve_eq onDisk member]
    split
    · rename_i addressable
      simpa using addressable
    · rename_i hidden
      simpa using hidden
  refine ⟨opens, ?_⟩
  intro operator windowIsOpen library
  rw [selected_listChanged (library ▸ listing), library]
  cases kept : operator.selected.filter fun name => names.contains name with
  | some name =>
      obtain ⟨selected, known⟩ := Option.filter_eq_some_iff.mp kept
      exact iff_of_true rfl (Or.inl ⟨name, List.contains_iff_mem.mp known, selected⟩)
  | none =>
      have lost : ¬ ∃ name ∈ names, operator.selected = some name := by
        rintro ⟨name, member, selected⟩
        rw [selected, Option.filter_some, if_pos (List.contains_iff_mem.mpr member)] at kept
        cases kept
      rw [or_iff_right lost, Option.none_or]
      cases names with
      | nil => simp
      | cons first rest =>
          have first_opens := listed.resolve_eq onDisk (List.mem_cons_self (a := first))
          rw [List.head?_cons, Option.bind_some, first_opens]
          by_cases addressable : Library.Addressable directory first
          · rw [if_pos addressable]
            exact iff_of_true rfl ⟨first, rfl, addressable⟩
          · rw [if_neg addressable]
            refine iff_of_false Bool.false_ne_true ?_
            rintro ⟨other, same, other_addressable⟩
            rw [Option.mem_some_iff] at same
            exact addressable (same ▸ other_addressable)

/-- A directory of a hidden fragment and a visible one. -/
def withHidden : Tree := ⟨[
  (["lib"], .directory),
  (["lib", ".a.frag"], .file (.text "void main() {}\n")),
  (["lib", "b.frag"], .file (.text "void main() {}\n"))], []⟩

theorem plain_gallery : Tree.PlainLocation ["lib"] := by
  intro name member
  rw [List.mem_singleton.mp member]
  constructor <;> decide

/-- The directory of the two fragments. -/
def gallery : Directory := ⟨["lib"], plain_gallery⟩

theorem list_withHidden : (Library.of gallery).list withHidden = .ok [".a.frag", "b.frag"] := by
  have found : withHidden.children gallery.path =
      .ok [(".a.frag", .file (.text "void main() {}\n")),
        ("b.frag", .file (.text "void main() {}\n"))] := by
    decide +kernel
  rw [Library.list, Library.of, found]
  dsimp only
  rw [List.mergeSort_of_pairwise]
  · decide +kernel
  · decide +kernel

/-- The hidden fragment is the first of the list, but its name leads to no fragment. -/
theorem hidden_first_not_opened :
    (Library.of gallery).list withHidden = .ok [".a.frag", "b.frag"] ∧
      (Library.of gallery).resolve withHidden ".a.frag" = .error (.unknownFragment ".a.frag") ∧
        (((Console.Operator.start (Library.of gallery)).onEvent ⟨withHidden, true⟩
          .listChanged).operator.selected = none) := by
  refine ⟨list_withHidden, by decide +kernel, ?_⟩
  rw [selected_listChanged list_withHidden]
  decide +kernel

theorem onDisk_withHidden : withHidden.OnDisk where
  distinct := by decide
  named := by
    intro above name entry member
    have lasts : ∀ item ∈ withHidden.entries,
        item.1.getLast? ∈ [some "lib", some ".a.frag", some "b.frag"] := by
      decide
    have known := lasts _ member
    simp only [List.getLast?_concat, List.mem_cons, Option.some.injEq, List.not_mem_nil,
      or_false] at known
    rcases known with rfl | rfl | rfl <;>
      exact ⟨by constructor <;> decide, by decide, by decide⟩

theorem listed_opens_withHidden :
    ((Library.of gallery).resolve withHidden "b.frag" = .ok "/lib/b.frag" ∧
      ∃ names, (Library.of gallery).list withHidden = .ok names ∧ "b.frag" ∈ names) ∧
    (Library.of gallery).resolve withHidden ".a.frag" ≠ .ok "/lib/.a.frag" ∧
      ((Console.Operator.start (Library.of gallery)).onEvent ⟨withHidden, true⟩
        .listChanged).operator.selected.isSome = false := by
  obtain ⟨opens, contains⟩ := @listed_opens_iff gallery withHidden onDisk_withHidden
  obtain ⟨leads, selects⟩ := opens _ list_withHidden
  have hidden : ¬ Library.Addressable gallery ".a.frag" := by decide +kernel
  have resolved : (Library.of gallery).resolve withHidden "b.frag" = .ok "/lib/b.frag" :=
    (leads "b.frag" (by decide)).mpr (by decide +kernel)
  obtain ⟨names, listing, member, _⟩ := contains _ _ resolved
  refine ⟨⟨resolved, names, listing, ?_⟩, ?_, ?_⟩
  · rwa [show Library.lastName "/lib/b.frag" = "b.frag" by decide +kernel] at member
  · intro found
    exact hidden ((leads ".a.frag" (by decide)).mp found)
  · rw [Bool.eq_false_iff]
    intro selected
    rcases (selects _ true rfl).mp selected with ⟨name, _, same⟩ | ⟨first, same, shown⟩
    · cases same
    · cases same
      exact hidden shown

end LiveShader.Fragment
