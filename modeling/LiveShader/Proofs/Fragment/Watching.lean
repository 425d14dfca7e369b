import LiveShader.Console.Operator
import LiveShader.Proofs.Fragment.Edit
import LiveShader.Proofs.Fragment.Loading

/-!
# The files that are watched

Loading a fragment and looking up its references follow the same include lines, one
walk with numbers for the files and the other with a set of names.  Side by side they
meet the same files in the same order, however the files include each other.  When a
fragment cannot be loaded because a file is missing, that file is watched all the same,
so its creation is told under a watched name.
-/

namespace LiveShader.Fragment

open LiveShader.Files LiveShader.Text

namespace Library

/-! ## A visit beside an expansion -/

section Beside

variable {manifest : String} {met : List String} {name : String}

/-- What a visit has found once an expansion has met these files, the latest first. -/
def foundWith (manifest : String) (met : List String) : List String := met.reverse ++ [manifest]

theorem mem_foundWith : name ∈ foundWith manifest met ↔ name ∈ met ∨ name = manifest := by
  simp [foundWith]

theorem cons_foundWith :
    name :: foundWith manifest met = foundWith manifest (met ++ [name]) := by
  simp [foundWith]

/-- The visit of a new file that can be read goes on with what the file includes. -/
theorem visitFile_of_new {read : ReadText} {root path : Path} {found : List String}
    {text : String} (fuel : Nat) (new : lastName path ∉ found) (readable : read path = .ok text) :
    visitFile read root (fuel + 1) found path =
      visitAll (visitFile read root fuel) root (lastName path :: found) (includes text) := by
  have unknown : ¬ found.contains (lastName path) = true := fun known =>
    new (List.contains_iff_mem.mp known)
  rw [visitFile, if_neg unknown, readable]
  dsimp only
  rw [filterMap_lines]

theorem visitFile_of_known {read : ReadText} {root path : Path} {found : List String}
    (fuel : Nat) (known : lastName path ∈ found) :
    visitFile read root fuel found path = .ok found := by
  rw [visitFile, if_pos (List.contains_iff_mem.mpr known)]

/-- The lines that an expansion followed lead a visit to the files that it entered. -/
theorem visitAll_of_follows {read : ReadText} {directory : Path} (stem : List Char)
    {tree : Expansion} {fuel : Nat} (follows : tree.Follows read directory met)
    (lasts : tree.entered.length ≤ fuel) :
    visitAll (visitFile read directory fuel) directory (foundWith (manifestName stem) met)
        (tree.sources.filterMap includedFile?) =
      .ok (foundWith (manifestName stem) (met ++ tree.entered)) := by
  induction tree generalizing fuel met with
  | done => simp [Expansion.sources, Expansion.entered, visitAll]
  | keep line rest ih =>
      rw [Expansion.sources, List.filterMap_cons_none follows.1]
      exact ih follows.2 lasts
  | skip line rest ih =>
      rcases follows with ⟨⟨name, known, included⟩, follows⟩
      have last := lastName_join directory (plain_includedFile included)
      have found : lastName (Path.join directory name) ∈ foundWith (manifestName stem) met := by
        rw [last, mem_foundWith]
        exact Or.inl known
      have stays : visitFile read directory fuel (foundWith (manifestName stem) met)
          (Path.join directory name) = .ok (foundWith (manifestName stem) met) :=
        visitFile_of_known fuel found
      rw [Expansion.sources, List.filterMap_cons_some included, visitAll, stays]
      exact ih follows lasts
  | enter line name inside rest insideIh restIh =>
      rcases follows with ⟨included, new, ⟨text, readable, lines⟩, insideFollows, restFollows⟩
      rw [Expansion.entered, List.length_cons, List.length_append] at lasts
      cases fuel with
      | zero => omega
      | succ fuel =>
          have last := lastName_join directory (plain_includedFile included)
          have unknown : lastName (Path.join directory name) ∉
              foundWith (manifestName stem) met := by
            rw [last, mem_foundWith]
            rintro (known | same)
            · exact new known
            · exact ne_manifest_of_included included stem same
          have within : inside.entered.length ≤ fuel := by omega
          have after : rest.entered.length ≤ fuel + 1 := by omega
          have below := insideIh insideFollows within
          rw [lines] at below
          change visitAll _ directory _ (includes text) = _ at below
          rw [Expansion.sources, List.filterMap_cons_some included, visitAll,
            visitFile_of_new fuel unknown readable, last, cons_foundWith, below]
          dsimp only
          rw [List.append_assoc, List.singleton_append, restIh restFollows after,
            Expansion.entered]
          simp

end Beside

/-! ## Files that stop an expansion -/

section Faults

variable {directory : Directory} {tree : Tree} {known : String → Prop} {met : List String}
  {name : String} {fault : ReadFault}

/-- Files that an expansion has met: each once, and all of them could be read. -/
structure Met (directory : Directory) (tree : Tree) (met : List String) : Prop where
  distinct : met.Nodup
  readable : ∀ name ∈ met, Path.Plain name.toList ∧
    ∃ text, directory.reading tree name = .ok text

theorem met_nil : Met directory tree [] := by
  constructor
  · exact List.nodup_nil
  · intro name member
    cases member

theorem Met.concat (before : Met directory tree met) (named : Path.Plain name.toList)
    (new : name ∉ met) {text : String} (read : directory.reading tree name = .ok text) :
    Met directory tree (met ++ [name]) := by
  constructor
  · exact Expansion.nodup_concat before.distinct new
  · intro other member
    rcases List.mem_append.mp member with early | last
    · exact before.readable other early
    · rw [List.mem_singleton.mp last]
      exact ⟨named, text, read⟩

theorem Met.length_le (before : Met directory tree met) : met.length ≤ tree.entries.length :=
  Directory.length_le_of_readable before.distinct before.readable

/-- The files that were met when the expansion of a file is done. -/
theorem Met.expandFile (before : Met directory tree met) (named : Path.Plain name.toList)
    (new : name ∉ met) {directives : Bool} {fuel : Nat} {expanded : Expanded}
    (made : expandFile tree.readText directives fuel met (Path.join directory.path name) =
      .ok expanded) :
    Met directory tree expanded.files ∧ met.length ≤ expanded.files.length := by
  obtain ⟨inside, record⟩ := expandFile_records fuel made
  obtain ⟨text, read, _⟩ := record.sources
  have follows := record.follows
  have files := record.files
  rw [knownName_join directory.path named] at follows files
  rw [directory.directoryOf_join named] at follows
  have entered := before.concat named new read
  rw [files]
  constructor
  · constructor
    · simpa using follows.nodup entered.distinct
    · intro other member
      rcases List.mem_append.mp member with early | late
      · exact before.readable other early
      · rcases List.mem_cons.mp late with rfl | within
        · exact ⟨named, text, read⟩
        · exact follows.readable other within
  · simp

/-- A fault is that of a known file: reading the file gives its cause. -/
def FaultOf (directory : Directory) (tree : Tree) (known : String → Prop) (fault : ReadFault) :
    Prop :=
  ∃ name, known name ∧ Path.Plain name.toList ∧ fault.path = Path.join directory.path name ∧
    directory.reading tree name = .error fault.cause

theorem faultOf_expandLines {expandChild : List String → String → Except ReadFault Expanded}
    (fuel : Nat)
    (succeeds : ∀ met name expanded, Met directory tree met → Path.Plain name.toList →
      name ∉ met → expandChild met name = .ok expanded →
        Met directory tree expanded.files ∧ met.length ≤ expanded.files.length)
    (fails : ∀ met name fault, Met directory tree met → Path.Plain name.toList → name ∉ met →
      known name → tree.entries.length < fuel + met.length →
        expandChild met name = .error fault → FaultOf directory tree known fault)
    {directives : Bool} {file number : Nat} {lines : List (List Char)}
    (leads : ∀ name ∈ lines.filterMap includedFile?, known name)
    (before : Met directory tree met) (lasts : tree.entries.length < fuel + met.length)
    (failed : expandLines expandChild directives file number met lines = .error fault) :
    FaultOf directory tree known fault := by
  induction lines generalizing number met with
  | nil => cases failed
  | cons line rest ih =>
      rw [expandLines] at failed
      split at failed
      · rename_i kept
        rw [List.filterMap_cons_none kept] at leads
        split at failed
        · rename_i later
          cases failed
          exact ih leads before lasts later
        · cases failed
      · rename_i name included
        rw [List.filterMap_cons_some included] at leads
        have later : ∀ name ∈ rest.filterMap includedFile?, known name := fun other member =>
          leads other (List.mem_cons_of_mem name member)
        split at failed
        · exact ih later before lasts failed
        · rename_i unknown
          have new : name ∉ met := fun present => unknown (List.contains_iff_mem.mpr present)
          have named := plain_includedFile included
          split at failed
          · rename_i stopped
            cases failed
            exact fails met name _ before named new (leads name List.mem_cons_self) lasts stopped
          · rename_i child entered
            obtain ⟨more, longer⟩ := succeeds met name child before named new entered
            split at failed
            · rename_i further
              cases failed
              exact ih later more (by omega) further
            · cases failed

/--
An expansion is stopped by a file that it was led to.  It never stops for lack of fuel,
since the files on the way to a file are met before it, and each has an entry in the tree.
-/
theorem faultOf_expandFile
    (closed : ∀ name, known name → ∀ text, directory.reading tree name = .ok text →
      ∀ next ∈ includes text, known next)
    {directives : Bool} {fuel : Nat} (before : Met directory tree met)
    (named : Path.Plain name.toList) (new : name ∉ met) (led : known name)
    (lasts : tree.entries.length < fuel + met.length)
    (failed : expandFile tree.readText directives fuel met (Path.join directory.path name) =
      .error fault) : FaultOf directory tree known fault := by
  induction fuel generalizing met name fault with
  | zero =>
      have bound := before.length_le
      omega
  | succ fuel ih =>
      rw [expandFile] at failed
      split at failed
      · rename_i cause unreadable
        cases failed
        exact ⟨name, led, named, rfl, unreadable⟩
      · rename_i text read
        change expandLines (fun met other => expandFile tree.readText directives fuel met
          (Path.join (Path.directoryOf (Path.join directory.path name)) other)) _ _ _ _ _ = _
          at failed
        rw [knownName_join directory.path named, directory.directoryOf_join named] at failed
        refine faultOf_expandLines fuel ?_ ?_ (closed name led text read)
          (before.concat named new read) ?_ failed
        · intro met name expanded before named new made
          exact before.expandFile named new made
        · intro met name fault before named new led lasts failed
          exact ih before named new led lasts failed
        · rw [List.length_append, List.length_singleton]
          omega

end Faults

/-! ## Watched files -/

section Watched

variable {directory : Directory} {tree : Tree} {stem : List Char} {file : String}
  {options : Options}

theorem lastName_manifestPath (fragment : IsFragmentFile stem file) :
    lastName (manifestPath (Path.join directory.path file)) = manifestName stem := by
  rw [fragment.manifestPath_join, lastName_join directory.path fragment.plain_manifestName]

/-- The visit of a fragment that was expanded meets the files of the expansion. -/
theorem visitFile_of_expanded (fragment : IsFragmentFile stem file) {directives : Bool}
    {fuel : Nat} {expanded : Expanded}
    (made : expandFile tree.readText directives fuel [] (Path.join directory.path file) =
      .ok expanded) :
    visitFile tree.readText directory.path (tree.entries.length + 1) [manifestName stem]
      (Path.join directory.path file) = .ok (foundWith (manifestName stem) expanded.files) := by
  obtain ⟨inside, record⟩ := expandFile_records fuel made
  obtain ⟨text, read, sources⟩ := record.sources
  have follows := record.follows
  have files := record.files
  rw [knownName_join directory.path fragment.plain] at follows files
  rw [directory.directoryOf_join fragment.plain] at follows
  have distinct : ([] ++ [file] ++ inside.entered).Nodup := follows.nodup (by simp)
  have lasts : inside.entered.length ≤ tree.entries.length :=
    Directory.length_le_of_readable (distinct.sublist (List.sublist_append_right _ _))
      follows.readable
  have new : lastName (Path.join directory.path file) ∉ foundWith (manifestName stem) [] := by
    rw [lastName_join directory.path fragment.plain, mem_foundWith]
    rintro (early | same)
    · cases early
    · exact fragment.ne_manifestName same
  have below := visitAll_of_follows stem follows lasts
  rw [sources] at below
  change visitAll _ directory.path _ (includes text) = _ at below
  change visitFile _ _ _ (foundWith (manifestName stem) []) _ = _
  rw [visitFile_of_new _ new read, lastName_join directory.path fragment.plain, cons_foundWith,
    below, files]
  simp

/-- The files of a fragment that was expanded, and its manifest, are its references. -/
theorem references_of_combineIn (fragment : IsFragmentFile stem file)
    (isFile : tree.isFile (Path.join directory.path file) = true) {combined : Combined}
    (made : combineIn tree options (Path.join directory.path file) = .ok combined) :
    (foundWith (manifestName stem) combined.files).Nodup ∧
      (of directory).references tree file =
        .ok ((foundWith (manifestName stem) combined.files).mergeSort
          fun a b => decide (a ≤ b)) := by
  rw [combineIn, combine] at made
  split at made
  · cases made
  · rename_i expansion
    cases made
    have visited := visitFile_of_expanded fragment expansion
    have single := fileNames_manifestName fragment
    constructor
    · have lasts : Lasts directory tree (tree.entries.length + 1) [manifestName stem] := by
        rw [Lasts]
        omega
      exact (visitFile_visited single fragment.plain lasts visited).1.files.distinct
    · rw [references, resolve_eq fragment, if_pos isFile]
      dsimp only [of]
      rw [lastName_manifestPath fragment, visited]

/-- A missing file that stops the expansion of a fragment is one of its references. -/
theorem mem_references_of_missing (fragment : IsFragmentFile stem file) {fault : ReadFault}
    (failed : combineIn tree options (Path.join directory.path file) = .error fault)
    {tracked : List String} (made : (of directory).references tree file = .ok tracked) :
    FaultOf directory tree (fun name => name ∈ tracked ∧ name ≠ manifestName stem) fault := by
  have tracks := tracks_of_references fragment made
  rw [combineIn, combine] at failed
  split at failed
  · rename_i stopped
    cases failed
    refine faultOf_expandFile ?_ met_nil fragment.plain List.not_mem_nil
      ⟨tracks.file, fragment.ne_manifestName⟩ (by simp) stopped
    intro name known text read next included
    exact ⟨tracks.closed name known.1 known.2 text read included,
      ne_manifestName included stem⟩
  · cases failed

end Watched

/--
The references of a fragment are the files from which it is loaded, and its manifest.  A
missing file that keeps it from being loaded is among them, so that the operator loads it
again when the file is created.
-/
theorem watched_eq_loaded {directory : Directory} {tree : Tree} {name : String} {path : Path}
    (resolved : (of directory).resolve tree name = .ok path) (options : Options) :
    (∀ combined, combineIn tree options path = .ok combined →
      ∃ tracked, (of directory).references tree name = .ok tracked ∧ tracked.Nodup ∧
        ∀ file, file ∈ tracked ↔ file ∈ combined.files ∨ file = lastName (manifestPath path)) ∧
    ∀ missing tracked, combineIn tree options path = .error ⟨missing, .notFound⟩ →
      (of directory).references tree name = .ok tracked →
        ∃ file : FileName, file.val ∈ tracked ∧
          missing = Path.join directory.path file ∧
          directory.reading tree file = .error .notFound ∧
          ∀ content, .changed file ∈ ((Edit.create file content).notice directory).events ∧
            ∀ (operator : Console.Operator) (place : Console.Place),
              operator.tracked = tracked →
                operator.onEvent place (.changed file) = operator.reload place := by
  obtain ⟨stem, file, fragment, isFile, rfl⟩ := exists_file_of_resolve resolved
  have again : (of directory).references tree name = (of directory).references tree file := by
    rw [references, references, resolved, resolve_eq fragment, if_pos isFile]
  rw [again, lastName_manifestPath fragment]
  constructor
  · intro combined made
    obtain ⟨distinct, referenced⟩ := references_of_combineIn fragment isFile made
    refine ⟨_, referenced, ?_, ?_⟩
    · exact (List.mergeSort_perm _ _).nodup_iff.mpr distinct
    · intro other
      rw [List.mem_mergeSort, mem_foundWith]
  · intro missing tracked failed referenced
    obtain ⟨other, ⟨member, _⟩, plain, spelled, absent⟩ :=
      mem_references_of_missing fragment failed referenced
    refine ⟨⟨other, plain⟩, member, spelled, absent, ?_⟩
    intro content
    constructor
    · exact Edit.changed_of_mem_written List.mem_cons_self
    · intro operator place tracks
      rw [Console.Operator.onEvent, tracks, if_pos (List.contains_iff_mem.mpr member)]

instance {ε α : Type} [DecidableEq ε] [DecidableEq α] : DecidableEq (Except ε α)
  | .ok first, .ok second => decidable_of_iff (first = second) (by simp)
  | .error first, .error second => decidable_of_iff (first = second) (by simp)
  | .ok _, .error _ => .isFalse (by simp)
  | .error _, .ok _ => .isFalse (by simp)

/-- A directory of shaders that include each other. -/
def knots : Directory := ⟨["knots"], by
  intro name member
  rw [List.mem_singleton.mp member]
  constructor <;> decide⟩

/-- Two files that include each other, and a fragment one of whose files is missing. -/
def knottedFiles : Tree := ⟨[
  (["knots"], .directory),
  (["knots", "loop.frag"], .file (.text "#include a\n#include b\n")),
  (["knots", "a.glsl"], .file (.text "#include b\n")),
  (["knots", "b.glsl"], .file (.text "#include a\n")),
  (["knots", "torn.frag"], .file (.text "#include a\n#include gone\n"))], []⟩

theorem watched_knots :
    (∃ tracked, (of knots).references knottedFiles "loop" = .ok tracked ∧ tracked.Nodup ∧
      ∀ file, file ∈ tracked ↔ file ∈ ["loop.frag", "a.glsl", "b.glsl"] ∨ file = "loop.toml") ∧
    ∃ tracked, ∃ file : FileName, (of knots).references knottedFiles "torn" = .ok tracked ∧
      file.val ∈ tracked ∧ "/knots/gone.glsl" = Path.join knots.path file := by
  constructor
  · have resolved : (of knots).resolve knottedFiles "loop" = .ok "/knots/loop.frag" := by
      decide +kernel
    have manifest : lastName (manifestPath "/knots/loop.frag") = "loop.toml" := by
      decide +kernel
    have files : (combineIn knottedFiles .full "/knots/loop.frag").toOption.map Combined.files =
        some ["loop.frag", "a.glsl", "b.glsl"] := by decide +kernel
    cases made : combineIn knottedFiles .full "/knots/loop.frag" with
    | error fault =>
        rw [made] at files
        cases files
    | ok combined =>
        rw [made] at files
        have watched := (watched_eq_loaded resolved .full).1 combined made
        rwa [manifest, Option.some.inj files] at watched
  · have resolved : (of knots).resolve knottedFiles "torn" = .ok "/knots/torn.frag" := by
      decide +kernel
    have missing : combineIn knottedFiles .full "/knots/torn.frag" =
        .error ⟨"/knots/gone.glsl", .notFound⟩ := by decide +kernel
    have isOk : ((of knots).references knottedFiles "torn").isOk = true := by decide +kernel
    cases referenced : (of knots).references knottedFiles "torn" with
    | error cause =>
        rw [referenced] at isOk
        cases isOk
    | ok tracked =>
        obtain ⟨file, member, spelled, _⟩ :=
          (watched_eq_loaded resolved .full).2 _ _ missing referenced
        exact ⟨tracked, file, rfl, member, spelled⟩

end Library

end LiveShader.Fragment
