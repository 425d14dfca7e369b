import LiveShader.Proofs.Fragment.Closing
import LiveShader.Proofs.Fragment.Following
import Mathlib.Data.List.Forall2

/-!
# Files are numbered as they are first met

However the files of a library include each other, an expansion and a look-up of references
come to an end, and they meet the files in the order of one search.  The files of a combined
text are numbered in this order.  Each of them but the main file is put in at one place, and
the directive in front of it has its number.
-/

namespace LiveShader.Fragment

open LiveShader.Files LiveShader.Text

/-! ## Where files are put into a text -/

/-- Files that are entered one after the other, each with the files that were met before it. -/
def arrivals : List String → List String → List (List String × String)
  | _, [] => []
  | met, name :: rest => (met, name) :: arrivals (met ++ [name]) rest

theorem arrivals_append (met first second : List String) :
    arrivals met (first ++ second) = arrivals met first ++ arrivals (met ++ first) second := by
  induction first generalizing met with
  | nil => simp [arrivals]
  | cons name rest ih => simp [arrivals, ih]

theorem length_arrivals (met names : List String) :
    (arrivals met names).length = names.length := by
  induction names generalizing met with
  | nil => rfl
  | cons name rest ih => simp [arrivals, ih]

theorem arrivals_getElem? (met names : List String) (index : Nat) :
    (arrivals met names)[index]? =
      names[index]?.map fun name => (met ++ names.take index, name) := by
  induction names generalizing met index with
  | nil => rfl
  | cons name rest ih =>
      cases index with
      | zero => simp [arrivals]
      | succ index => simp [arrivals, ih]

/-- A text begins with the expansion of a file, behind the directive with its number. -/
def Begins (expand : List String → String → Except ReadFault Expanded)
    (file : List String × String) (text : List Char) : Prop :=
  ∃ inside, expand file.1 file.2 = .ok inside ∧
    lineDirective 1 file.1.length ++ closeLine inside.text <+: text

theorem Begins.mono {expand : List String → String → Except ReadFault Expanded}
    {file : List String × String} {text longer : List Char} (begins : Begins expand file text)
    (grows : text <+: longer) : Begins expand file longer := by
  obtain ⟨inside, made, start⟩ := begins
  exact ⟨inside, made, start.trans grows⟩

theorem lineDirective_ne_nil (number file : Nat) : lineDirective number file ≠ [] := by
  simp [lineDirective]

/-- The places of a text at which files are put into it, from the first to the last. -/
structure Openings (expand : List String → String → Except ReadFault Expanded)
    (text : List Char) (files : List (List String × String)) (starts : List Nat) : Prop where
  increasing : starts.Pairwise (· < ·)
  within : ∀ start ∈ starts, start < text.length
  each : List.Forall₂ (fun start file => Begins expand file (text.drop start)) starts files

namespace Openings

variable {expand : List String → String → Except ReadFault Expanded} {text rest : List Char}
  {files later : List (List String × String)} {starts places : List Nat}

theorem none (text : List Char) : Openings expand text [] [] :=
  ⟨List.Pairwise.nil, List.forall_mem_nil _, .nil⟩

theorem append (first : Openings expand text files starts)
    (second : Openings expand rest later places) :
    Openings expand (text ++ rest) (files ++ later)
      (starts ++ places.map (text.length + ·)) where
  increasing := by
    refine List.pairwise_append.mpr ⟨first.increasing, ?_, ?_⟩
    · exact second.increasing.map _ fun _ _ lower => Nat.add_lt_add_left lower _
    · intro early before late after
      obtain ⟨place, _, rfl⟩ := List.mem_map.mp after
      exact Nat.lt_add_right place (first.within early before)
  within := by
    intro start member
    rw [List.length_append]
    rcases List.mem_append.mp member with before | after
    · exact Nat.lt_add_right _ (first.within start before)
    · obtain ⟨place, present, rfl⟩ := List.mem_map.mp after
      exact Nat.add_lt_add_left (second.within place present) _
  each := by
    refine List.rel_append (first.each.imp ?_) (List.forall₂_map_left_iff.mpr (second.each.imp ?_))
    · intro start file begins
      exact begins.mono ⟨_, List.drop_append.symm⟩
    · intro place file begins
      rwa [List.drop_length_add_append]

/-- A file that a text begins with comes before those behind its directive. -/
theorem opened {file : List String × String} {directive : List Char} (full : directive ≠ [])
    (begins : Begins expand file (directive ++ text))
    (below : Openings expand text files starts) :
    Openings expand (directive ++ text) (file :: files)
      (0 :: starts.map (directive.length + ·)) := by
  have some : 0 < directive.length := List.length_pos_of_ne_nil full
  have behind := (none directive).append below
  refine ⟨List.pairwise_cons.mpr ⟨?_, behind.increasing⟩, ?_, .cons begins behind.each⟩
  · intro start member
    obtain ⟨place, _, rfl⟩ := List.mem_map.mp member
    exact Nat.lt_add_right place some
  · refine List.forall_mem_cons.mpr ⟨?_, behind.within⟩
    rw [List.length_append]
    exact Nat.lt_add_right _ some

/-- A file comes first in the text that is put in its place. -/
theorem inlined {met known : List String} {name : String}
    (below : Openings expand text files starts)
    (made : expand met name = .ok ⟨text, known⟩) (parent number : Nat) :
    ∃ places, Openings expand (inlined true met.length parent number text)
      ((met, name) :: files) places := by
  obtain ⟨ending, _, closed⟩ := closeLine_eq text
  have shape : Fragment.inlined true met.length parent number text =
      lineDirective 1 met.length ++ (text ++ (ending ++ lineDirective (number + 1) parent)) := by
    simp only [Fragment.inlined, if_true, closed, List.append_assoc]
  have begins : Begins expand (met, name) (Fragment.inlined true met.length parent number text) :=
    ⟨_, made, List.prefix_append _ _⟩
  have longer := below.append (none (ending ++ lineDirective (number + 1) parent))
  rw [List.append_nil] at longer
  rw [shape] at begins ⊢
  exact ⟨_, opened (lineDirective_ne_nil 1 met.length) begins longer⟩

end Openings

/-- Where the text of each file begins, by its place among the files that are put in. -/
theorem Openings.begins {expand : List String → String → Except ReadFault Expanded}
    {text : List Char} {met names : List String} {starts : List Nat}
    (openings : Openings expand text (arrivals met names) starts) {index start : Nat}
    {name : String} (entered : names[index]? = some name) (starting : starts[index]? = some start) :
    Begins expand (met ++ names.take index, name) (text.drop start) := by
  have arrived : (arrivals met names)[index]? = some (met ++ names.take index, name) := by
    rw [arrivals_getElem?, entered]
    rfl
  obtain ⟨before, place⟩ := List.getElem?_eq_some_iff.mp starting
  obtain ⟨among, file⟩ := List.getElem?_eq_some_iff.mp arrived
  have begins := (List.forall₂_iff_get.mp openings.each).2 index before among
  rwa [List.get_eq_getElem, List.get_eq_getElem, place, file] at begins

/-- The files that a tree enters are put into its text in their order. -/
theorem Expansion.Follows.exists_openings {read : ReadText} {directory : Path}
    (settled : Path.Settled directory) {tree : Expansion} {met : List String} {fuel : Nat}
    (file number : Nat) (follows : tree.Follows read directory met) (lasts : tree.depth ≤ fuel) :
    ∃ starts,
      Openings (fun met name => expandFile read true fuel met (Path.join directory name))
        (tree.text true file met.length number) (arrivals met tree.entered) starts := by
  induction tree generalizing met file number with
  | done => exact ⟨[], .none _⟩
  | keep line rest ih =>
      obtain ⟨starts, openings⟩ := ih file (number + 1) follows.2 lasts
      exact ⟨_, (Openings.none line).append openings⟩
  | skip line rest ih => exact ih file (number + 1) follows.2 lasts
  | enter line name inside rest insideIh restIh =>
      rcases follows with ⟨included, new, sources, insideFollows, restFollows⟩
      have plain := plain_includedFile included
      rw [Expansion.depth, Nat.max_le] at lasts
      obtain ⟨inner, below⟩ := insideIh met.length 1 insideFollows (Nat.le_of_succ_le lasts.1)
      obtain ⟨starts, behind⟩ := restIh file (number + 1) restFollows lasts.2
      have record : RecordsFile read true met (Path.join directory name)
          ⟨inside.text true met.length (met.length + 1) 1, met ++ name :: inside.entered⟩
            inside := by
        have known := knownName_join directory plain
        refine ⟨sources, ?_, rfl, by rw [known]⟩
        rwa [settled.directoryOf_join plain, known]
      rw [List.length_append, List.length_singleton] at below
      obtain ⟨places, first⟩ :=
        below.inlined (expandFile_of_records record lasts.1) file number
      have next : (met ++ name :: inside.entered).length =
          met.length + 1 + inside.entered.length := by
        rw [List.length_append, List.length_cons]
        omega
      rw [next] at behind
      have files : arrivals met (name :: (inside.entered ++ rest.entered)) =
          (met, name) :: arrivals (met ++ [name]) inside.entered ++
            arrivals (met ++ name :: inside.entered) rest.entered := by
        rw [arrivals, arrivals_append, List.append_assoc, List.singleton_append, List.cons_append]
      rw [Expansion.text, Expansion.entered, files]
      exact ⟨_, first.append behind⟩

/--
All files of a combined text but the first stand in it one behind the other, each one expanded
after the files in front of it, and the directive in front of each has the number of the file.
-/
def PutInByNumber (tree : Tree) (path : Path) (combined : Combined) : Prop :=
  ∃ starts : List Nat, starts.length + 1 = combined.files.length ∧
    starts.Pairwise (· < ·) ∧ ∀ index name start, combined.files[index + 1]? = some name →
      starts[index]? = some start → ∃ inside,
        expandFile tree.readText true (tree.entries.length + 1)
            (combined.files.take (index + 1)) (namedPath path name) = .ok inside ∧
          lineDirective 1 (index + 1) ++ closeLine inside.text <+:
            combined.content.toList.drop start

/-- Files are put into a text in the order of their numbers. -/
theorem putInByNumber {tree : Tree} {options : Options} {path : Path} {combined : Combined}
    (directives : options.directives = true)
    (made : combineIn tree options path = .ok combined) :
    PutInByNumber tree path combined := by
  rw [combineIn, combine, directives] at made
  split at made
  · cases made
  rename_i expanded expansion
  cases made
  obtain ⟨followed, record, lasts⟩ := expandFile_bounded _ expansion
  have files : expanded.files = knownName path :: followed.entered := record.files
  have follows : followed.Follows tree.readText (Path.directoryOf path) [knownName path] :=
    record.follows
  have distinct : (knownName path :: followed.entered).Nodup := follows.nodup (by simp)
  obtain ⟨starts, openings⟩ := follows.exists_openings (Path.settled_directoryOf path) 0 1
    (Nat.le_of_lt lasts)
  have text : expanded.text = followed.text true 0 1 1 := record.text
  have whole := (Openings.none options.opening).append openings
  rw [List.length_singleton, ← text] at whole
  refine ⟨_, ?_, whole.increasing, ?_⟩
  · rw [whole.each.length_eq, List.nil_append, length_arrivals, files, List.length_cons]
  · intro index name start found starting
    rw [files, List.getElem?_cons_succ] at found
    obtain ⟨inside, made, prefixed⟩ := whole.begins found starting
    have differ : name ≠ knownName path := by
      rintro rfl
      exact (List.nodup_cons.mp distinct).1 (List.mem_of_getElem? found)
    have within : index < followed.entered.length := (List.getElem?_eq_some_iff.mp found).1
    have count : ([knownName path] ++ followed.entered.take index).length = index + 1 := by
      rw [List.length_append, List.length_singleton, List.length_take_of_le (Nat.le_of_lt within),
        Nat.add_comm]
    dsimp only at made prefixed
    rw [count] at prefixed
    refine ⟨inside, ?_, ?_⟩
    · rw [namedPath_of_ne differ, files]
      exact made
    · rw [String.toList_ofList]
      exact prefixed

/-! ## Files in their order -/

/--
A search that comes to an end has an order, and only one.  It reads only files that are named,
each of them once, and goes no deeper than there are texts among them.  It ends with the files
that it has read, or with the first one in its order that it cannot pass.
-/
structure Orderly (tree : Tree) (place : String → Path) (tolerated : FileError → Bool)
    (known : List String) (main : String) (found : Found) (reads : List String)
    (depth : Nat) : Prop where
  search : Search (fun name => tree.readText (place name)) tolerated known [main] found reads depth
  only : ∀ found' reads' depth',
    Search (fun name => tree.readText (place name)) tolerated known [main] found' reads' depth' →
      found' = found ∧ reads' = reads ∧ depth' = depth
  named : ∀ name ∈ reads, name = main ∨ ∃ above ∈ reads, ∃ text,
    tree.readText (place above) = .ok text ∧ name ∈ includes text
  distinct : (known ++ reads).Nodup
  apart : (reads.map place).Nodup
  shallow : depth ≤ (reads.filter fun name => (tree.readText (place name)).isOk).length
  succeeds : ∀ files, found = .ok files → files = known ++ reads
  fails : ∀ name cause, found = .error (name, cause) →
    ∃ before, reads = before ++ [name] ∧ tree.readText (place name) = .error cause ∧
      tolerated cause = false ∧
        ∀ early ∈ before, Search.Passes (fun name => tree.readText (place name)) tolerated early

theorem Search.orderly {tree : Tree} {place : String → Path} {tolerated : FileError → Bool}
    {known reads : List String} {main : String} {found : Found} {depth : Nat}
    (search : Search (fun name => tree.readText (place name)) tolerated known [main] found reads
      depth)
    (fresh : known.Nodup) (own : knownName (place main) = main)
    (placed : ∀ name, Path.Plain name.toList → knownName (place name) = name) :
    Orderly tree place tolerated known main found reads depth where
  search := search
  only := fun _ _ _ again => search.unique again
  named := by
    intro name member
    exact (search.named name member).imp_left List.mem_singleton.mp
  distinct := search.nodup fresh
  apart := by
    have each : ∀ name ∈ reads, knownName (place name) = name := by
      intro name member
      rcases search.named name member with given | ⟨_, _, text, _, included⟩
      · rw [List.mem_singleton.mp given, own]
      · exact placed name (plain_of_mem_includes included)
    have again : (reads.map place).map knownName = reads := by
      rw [List.map_map]
      exact (List.map_congr_left each).trans (List.map_id reads)
    have distinct := (List.nodup_append.mp (search.nodup fresh)).2.1
    rw [← again] at distinct
    exact List.Pairwise.of_map knownName
      (fun _ _ differ same => differ (congrArg knownName same)) distinct
  shallow := search.depth_le
  succeeds := fun _ ended => search.met_eq ended
  fails := fun _ _ ended => search.stops_at_first ended

/--
The files of a combined text, numbered in the order of a search from its path.  All files are
read by the search, and whatever fuel the expansion has beyond its depth, it does the same.
-/
structure CombinedInOrder (tree : Tree) (options : Options) (path : Path) (found : Found)
    (reads : List String) (depth : Nat) : Prop where
  orderly : Orderly tree (namedPath path) nothing [] (knownName path) found reads depth
  performs : ∀ fuel, depth ≤ fuel → Performs (namedPath path) (faultAt path)
    ((expandFile tree.readText options.directives fuel [] path).map Expanded.files)
    (openedFile tree.readText options.directives fuel [] path) found reads
  combined : (combineIn tree options path).map Combined.files = found.mapError (faultAt path)
  main : ∀ combined, combineIn tree options path = .ok combined →
    combined.files = reads ∧ combined.files.head? = some (knownName path)
  numbered : options.directives = true → ∀ combined, combineIn tree options path = .ok combined →
    PutInByNumber tree path combined

/-- The references of a fragment, found in the order of a search from its file. -/
structure ReferredInOrder (library : Library) (tree : Tree) (name : String) (path : Path)
    (found : Found) (reads : List String) (depth : Nat) : Prop where
  orderly : Orderly tree (Path.join library.root) absence [Library.lastName (manifestPath path)]
    (Library.lastName path) found reads depth
  performs : ∀ fuel, depth ≤ fuel → Performs (Path.join library.root) Prod.snd
    ((Library.visitFile tree.readText library.root fuel [Library.lastName (manifestPath path)]
      path).map List.reverse)
    (Library.openedVisit tree.readText library.root fuel [Library.lastName (manifestPath path)]
      path) found reads
  /-- The references are all names that were met, sorted. -/
  references : library.references tree name =
    (found.mapError fun fault => LibraryError.files fault.2).map fun files =>
      files.reverse.mergeSort fun a b => decide (a ≤ b)

/-- The files of every fragment are combined in order. -/
theorem exists_combinedInOrder (tree : Tree) (options : Options) (path : Path) :
    ∃ found reads depth, CombinedInOrder tree options path found reads depth := by
  obtain ⟨found, reads, depth, search, lasts⟩ := exists_search_of_path tree path
  have own : namedPath path (knownName path) = path := if_pos rfl
  have main : Led path [] (knownName path) := Or.inl rfl
  have performs : ∀ fuel, depth ≤ fuel → Performs (namedPath path) (faultAt path)
      ((expandFile tree.readText options.directives fuel [] path).map Expanded.files)
      (openedFile tree.readText options.directives fuel [] path) found reads := by
    intro fuel enough
    have performed :=
      performs_expandFile options.directives main List.not_mem_nil search enough
    rwa [own] at performed
  have combined : (combineIn tree options path).map Combined.files =
      found.mapError (faultAt path) := by
    rw [← (performs _ lasts).result, combineIn, combine]
    cases expandFile tree.readText options.directives (tree.entries.length + 1) [] path <;> rfl
  refine ⟨found, reads, depth, ?_, performs, combined, ?_, ?_⟩
  · exact search.orderly List.nodup_nil main.knownName_eq fun _ plain =>
      knownName_namedPath path plain
  · intro made equal
    have files : made.files = reads := by
      rw [equal] at combined
      cases found with
      | error fault => cases combined
      | ok met =>
          cases combined
          exact search.met_eq rfl
    refine ⟨files, ?_⟩
    rw [files]
    rcases search.single_cases List.not_mem_nil with
      ⟨_, _, rfl, _⟩ | ⟨_, _, _, _, _, rfl, _⟩ <;> rfl
  · exact fun directives made equal => putInByNumber directives equal

/-- The references of every fragment are found in order. -/
theorem exists_referredInOrder {library : Library} {tree : Tree} {name : String} {path : Path}
    (resolved : library.resolve tree name = .ok path) :
    ∃ found reads depth, ReferredInOrder library tree name path found reads depth := by
  obtain ⟨stem, file, fragment, _, rfl⟩ := Library.exists_fragment_of_resolve resolved
  have last := Library.lastName_join library.root fragment.plain
  obtain ⟨found, reads, depth, search, lasts⟩ := Library.exists_search_of_root tree library.root
    [Library.lastName (manifestPath (Path.join library.root file))] fragment.plain
  have performs := fun fuel (enough : depth ≤ fuel) =>
    Library.performs_visitFile fragment.plain search enough
  have visited : (Library.visitFile tree.readText library.root (tree.entries.length + 1)
      [Library.lastName (manifestPath (Path.join library.root file))]
        (Path.join library.root file)).map List.reverse = found.mapError Prod.snd :=
    (performs _ (Nat.le_succ_of_le lasts)).result
  refine ⟨found, reads, depth, ?_, performs, ?_⟩
  · rw [last]
    exact search.orderly (by simp) (knownName_join library.root fragment.plain)
      fun _ plain => knownName_join library.root plain
  · rw [Library.references, resolved]
    dsimp only
    generalize Library.visitFile _ _ _ _ _ = made at visited ⊢
    cases found with
    | error fault =>
        cases made with
        | ok after => cases visited
        | error cause =>
            cases visited
            rfl
    | ok files =>
        cases made with
        | error cause => cases visited
        | ok after =>
            cases visited
            rw [Except.mapError, Except.map, List.reverse_reverse]

/--
Includes are followed to an end, and files are numbered in the order in which they are first
met.  On every tree of files, however the files include each other, the expansion of a path and
the look-up of references carry out a search: it goes no deeper than there are files, reads
each of them once, and is the depth-first search along include lines.  The files of a combined
text are those that were read, the main file first, and the directive in front of each file has
its number.  What stops the search is the first file in its order that cannot be read.
-/
theorem includes_followed_in_order :
    (∀ tree options path, ∃ found reads depth,
      CombinedInOrder tree options path found reads depth) ∧
    ∀ library tree name path, Library.resolve library tree name = .ok path →
      ∃ found reads depth, ReferredInOrder library tree name path found reads depth :=
  ⟨exists_combinedInOrder, fun _ _ _ _ resolved => exists_referredInOrder resolved⟩

/-- Files that include themselves and each other, and a fragment one of whose files is missing. -/
def tangled : Tree := ⟨[
  (["lib"], .directory),
  (["lib", "main.frag"], .file (.text "#include self\n#include ping\n")),
  (["lib", "torn.frag"], .file (.text "#include ping\n#include gone\n#include self\n")),
  (["lib", "self.glsl"], .file (.text "#include self\n")),
  (["lib", "ping.glsl"], .file (.text "#include pong\n")),
  (["lib", "pong.glsl"], .file (.text "#include ping\n#include self"))], []⟩

theorem includes_followed_tangled :
    Library.resolve ⟨"/lib"⟩ tangled "torn" = .ok "/lib/torn.frag" ∧
      (∃ reads depth, CombinedInOrder tangled .full "/lib/main.frag"
        (.ok ["main.frag", "self.glsl", "ping.glsl", "pong.glsl"]) reads depth) ∧
      ∃ files reads depth, ReferredInOrder ⟨"/lib"⟩ tangled "torn" "/lib/torn.frag"
        (.ok files) reads depth := by
  have resolved : Library.resolve ⟨"/lib"⟩ tangled "torn" = .ok "/lib/torn.frag" := by
    decide +kernel
  refine ⟨resolved, ?_, ?_⟩
  · obtain ⟨found, reads, depth, ordered⟩ :=
      includes_followed_in_order.1 tangled .full "/lib/main.frag"
    have files : (combineIn tangled .full "/lib/main.frag").map Combined.files =
        .ok ["main.frag", "self.glsl", "ping.glsl", "pong.glsl"] := by
      decide +kernel
    have combined := ordered.combined
    rw [files] at combined
    cases found with
    | error fault => cases combined
    | ok met =>
        cases combined
        exact ⟨reads, depth, ordered⟩
  · obtain ⟨found, reads, depth, ordered⟩ :=
      includes_followed_in_order.2 ⟨"/lib"⟩ tangled "torn" "/lib/torn.frag" resolved
    have isOk : (Library.references ⟨"/lib"⟩ tangled "torn").isOk = true := by decide +kernel
    cases found with
    | ok files => exact ⟨files, reads, depth, ordered⟩
    | error fault =>
        rw [ordered.references] at isOk
        cases isOk

end LiveShader.Fragment
