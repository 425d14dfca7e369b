import LiveShader.Proofs.Fragment.Opening
import LiveShader.Proofs.Fragment.Search

/-!
# Walks that carry out a search

Expanding a fragment and looking up its references both carry out a search along include
lines, each with its own bookkeeping: the one is stopped by every file that cannot be read,
the other passes over missing files.  They end as the search does and open the files that
it reads, whatever fuel they are given beyond its depth.  A directory has an entry for each
file that can be read in it, so both come to an end on every tree of files.
-/

namespace LiveShader.Fragment

open LiveShader.Files LiveShader.Text

/--
A walk through files carries out a search: it ends as the search does, up to the way in
which it tells of a file that stops it, and it opens the files that the search reads.
-/
structure Performs {ε : Type} (place : String → Path) (explain : String × FileError → ε)
    (made : Except ε (List String)) (opened : List Path) (found : Found)
    (reads : List String) : Prop where
  result : made = found.mapError explain
  opened : opened = reads.map place

/-! ## Expansions -/

/-- Where a name leads that is met in the expansion of a path. -/
def namedPath (path : Path) (name : String) : Path :=
  if name = knownName path then path else Path.join (Path.directoryOf path) name

/-- How an expansion tells of a file that stops it. -/
def faultAt (path : Path) (fault : String × FileError) : ReadFault :=
  ⟨namedPath path fault.1, fault.2⟩

/-- An expansion is stopped by every file that cannot be read. -/
def nothing (_ : FileError) : Bool := false

section Expansions

variable {read : ReadText} {path : Path} {met reads : List String} {name : String}
  {found : Found} {depth fuel : Nat}

theorem namedPath_of_ne (differ : name ≠ knownName path) :
    namedPath path name = Path.join (Path.directoryOf path) name :=
  if_neg differ

theorem knownName_namedPath (path : Path) (plain : Path.Plain name.toList) :
    knownName (namedPath path name) = name := by
  by_cases same : name = knownName path
  · rw [namedPath, if_pos same, same]
  · rw [namedPath_of_ne same, knownName_join _ plain]

/-- A name that is met in the expansion of a path: its own, or one on an include line. -/
def Led (path : Path) (met : List String) (name : String) : Prop :=
  name = knownName path ∨ knownName path ∈ met ∧ Path.Plain name.toList

theorem Led.knownName_eq (led : Led path met name) : knownName (namedPath path name) = name := by
  rcases led with rfl | ⟨_, plain⟩
  · rw [namedPath, if_pos rfl]
  · exact knownName_namedPath path plain

theorem Led.directoryOf_eq (led : Led path met name) :
    Path.directoryOf (namedPath path name) = Path.directoryOf path := by
  by_cases same : name = knownName path
  · rw [namedPath, if_pos same]
  · rcases led with own | ⟨_, plain⟩
    · exact absurd own same
    · rw [namedPath_of_ne same, (Path.settled_directoryOf path).directoryOf_join plain]

theorem Led.mem_concat (led : Led path met name) : knownName path ∈ met ++ [name] := by
  rcases led with rfl | ⟨begun, _⟩
  · exact List.mem_append_right _ (List.mem_singleton.mpr rfl)
  · exact List.mem_append_left _ begun

/-- The lines of a file are searched if the files that they include are. -/
theorem performs_expandLines
    {expandChild : List String → String → Except ReadFault Expanded}
    {openedChild : List String → String → List Path}
    (children : ∀ met name found reads depth, knownName path ∈ met → Path.Plain name.toList →
      name ∉ met →
        Search (fun name => read (namedPath path name)) nothing met [name] found reads depth →
        depth ≤ fuel → Performs (namedPath path) (faultAt path)
          ((expandChild met name).map Expanded.files) (openedChild met name) found reads)
    (directives : Bool) (file number : Nat) (begun : knownName path ∈ met)
    {lines : List (List Char)} (search : Search (fun name => read (namedPath path name)) nothing met
      (lines.filterMap includedFile?) found reads depth) (lasts : depth ≤ fuel) :
    Performs (namedPath path) (faultAt path)
      ((expandLines expandChild directives file number met lines).map Expanded.files)
      (openedLines expandChild openedChild met lines) found reads := by
  induction lines generalizing number met found reads depth with
  | nil =>
      cases search
      exact ⟨rfl, rfl⟩
  | cons line rest ih =>
      rw [expandLines, openedLines]
      cases included : includedFile? line with
      | none =>
          rw [List.filterMap_cons_none included] at search
          obtain ⟨result, opened⟩ := ih (number + 1) begun search lasts
          refine ⟨?_, opened⟩
          rw [← result]
          dsimp only
          cases expandLines expandChild directives file (number + 1) met rest <;> rfl
      | some name =>
          rw [List.filterMap_cons_some included] at search
          dsimp only
          by_cases old : name ∈ met
          · rw [if_pos (List.contains_iff_mem.mpr old), if_pos (List.contains_iff_mem.mpr old)]
            exact ih (number + 1) begun (search.of_known old) lasts
          have unknown : ¬ met.contains name = true := fun known =>
            old (List.contains_iff_mem.mp known)
          rw [if_neg unknown, if_neg unknown]
          have plain := plain_includedFile included
          rcases search.cons_cases with
            ⟨fault, rfl, first⟩ | ⟨between, _, _, _, _, first, further, rfl, rfl⟩
          · obtain ⟨result, opened⟩ := children met name _ _ _ begun plain old first lasts
            cases made : expandChild met name with
            | ok child =>
                rw [made] at result
                cases result
            | error stopped =>
                rw [made] at result
                exact ⟨result, by rw [opened, List.append_nil]⟩
          · rw [Nat.max_le] at lasts
            obtain ⟨result, opened⟩ := children met name _ _ _ begun plain old first lasts.1
            cases made : expandChild met name with
            | error stopped =>
                rw [made] at result
                cases result
            | ok child =>
                rw [made] at result
                cases result
                have begun : knownName path ∈ child.files := by
                  rw [first.met_eq rfl]
                  exact List.mem_append_left _ begun
                obtain ⟨rest_result, rest_opened⟩ := ih (number + 1) begun further lasts.2
                constructor
                · rw [← rest_result]
                  dsimp only
                  cases expandLines expandChild directives file (number + 1) child.files rest <;>
                    rfl
                · rw [opened, List.map_append]
                  exact congrArg _ rest_opened

/-- The expansion of a file carries out a search, with any fuel for the depth of the search. -/
theorem performs_expandFile (directives : Bool) (led : Led path met name) (new : name ∉ met)
    (search : Search (fun name => read (namedPath path name)) nothing met [name] found reads depth)
    (lasts : depth ≤ fuel) :
    Performs (namedPath path) (faultAt path)
      ((expandFile read directives fuel met (namedPath path name)).map Expanded.files)
      (openedFile read directives fuel met (namedPath path name)) found reads := by
  induction fuel using Nat.strongRecOn generalizing met name found reads depth with
  | ind fuel ih =>
      rw [expandFile, openedFile]
      rcases search.single_cases new with
        ⟨cause, failed, rfl, rfl⟩ | ⟨text, inner, below, readable, inside, rfl, rfl⟩
      · change read (namedPath path name) = _ at failed
        rw [failed]
        exact ⟨rfl, rfl⟩
      · change read (namedPath path name) = _ at readable
        rw [readable]
        cases fuel with
        | zero => omega
        | succ less =>
            have home : (Path.parent? (namedPath path name)).getD "" = Path.directoryOf path :=
              led.directoryOf_eq
            dsimp only
            rw [home, led.knownName_eq]
            have children : ∀ met other found reads depth, knownName path ∈ met →
                Path.Plain other.toList → other ∉ met →
                Search (fun name => read (namedPath path name)) nothing met [other] found reads
                  depth → depth ≤ less → Performs (namedPath path) (faultAt path)
                    ((expandFile read directives less met
                      (Path.join (Path.directoryOf path) other)).map Expanded.files)
                    (openedFile read directives less met
                      (Path.join (Path.directoryOf path) other)) found reads := by
              intro met other found reads depth begun plain new search lasts
              have differ : other ≠ knownName path := fun same => new (same ▸ begun)
              rw [← namedPath_of_ne differ]
              exact ih less (Nat.lt_succ_self less) (Or.inr ⟨begun, plain⟩) new search lasts
            obtain ⟨result, opened⟩ := performs_expandLines children directives met.length 1
              led.mem_concat inside (Nat.le_of_succ_le_succ lasts)
            exact ⟨result, by rw [opened, List.map_cons]⟩

/-- A tree has an entry for each file of a directory that can be read. -/
theorem atMost_joined (tree : Tree) (directory : Path) :
    Search.AtMost (fun name => tree.readText (Path.join directory name)) tree.entries.length :=
  fun _ distinct readable => Tree.length_le_of_readable distinct readable

/-- The expansion of a path comes to an end, and nests no deeper than it is given fuel. -/
theorem exists_search_of_path (tree : Tree) (path : Path) :
    ∃ found reads depth,
      Search (fun name => tree.readText (namedPath path name)) nothing [] [knownName path]
          found reads depth ∧ depth ≤ tree.entries.length + 1 := by
  have own : namedPath path (knownName path) = path := if_pos rfl
  cases reading : tree.readText path with
  | error cause =>
      have unreadable : tree.readText (namedPath path (knownName path)) = .error cause :=
        (congrArg tree.readText own).trans reading
      exact ⟨_, _, _, .refused List.not_mem_nil unreadable rfl, Nat.zero_le _⟩
  | ok text =>
      have readable : tree.readText (namedPath path (knownName path)) = .ok text :=
        (congrArg tree.readText own).trans reading
      -- Below the path all files lie in one directory, which has an entry for each of them.
      obtain ⟨found, reads, depth, search, shallow⟩ : ∃ found reads depth,
          Search (fun name => tree.readText (Path.join (Path.directoryOf path) name)) nothing
            [knownName path] (includes text) found reads depth ∧ depth ≤ tree.entries.length :=
        Search.exists_of_atMost (atMost_joined tree (Path.directoryOf path)) .nil (Nat.le_refl _)
          fun _ member => plain_of_mem_includes member
      have inside : Search (fun name => tree.readText (namedPath path name)) nothing
          [knownName path] (includes text) found reads depth := by
        refine search.congr ?_
        intro name new
        have differ : name ≠ knownName path := fun same => new (List.mem_singleton.mpr same)
        exact congrArg tree.readText (namedPath_of_ne differ)
      cases found with
      | error fault =>
          exact ⟨_, _, _, .stopped List.not_mem_nil readable inside, Nat.succ_le_succ shallow⟩
      | ok between =>
          exact ⟨_, _, _, .entered List.not_mem_nil readable inside .done,
            Nat.max_le.mpr ⟨Nat.succ_le_succ shallow, Nat.zero_le _⟩⟩

end Expansions

/-! ## References -/

/-- A look-up of references passes over missing files. -/
def absence (cause : FileError) : Bool := cause == .notFound

namespace Library

section Visits

variable {read : ReadText} {root : Path} {met names reads : List String} {name : String}
  {found : Found} {depth fuel : Nat}

/-- Included files are searched in their order if each of them is. -/
theorem performs_visitAll {visit : List String → Path → Except FileError (List String)}
    {openedChild : List String → Path → List Path}
    (children : ∀ met name found reads depth, Path.Plain name.toList →
      Search (fun name => read (Path.join root name)) absence met [name] found reads depth →
        depth ≤ fuel → Performs (Path.join root) Prod.snd
          ((visit met.reverse (Path.join root name)).map List.reverse)
          (openedChild met.reverse (Path.join root name)) found reads)
    (plain : ∀ name ∈ names, Path.Plain name.toList)
    (search : Search (fun name => read (Path.join root name)) absence met names found reads depth)
    (lasts : depth ≤ fuel) :
    Performs (Path.join root) Prod.snd ((visitAll visit root met.reverse names).map List.reverse)
      (openedVisits visit openedChild root met.reverse names) found reads := by
  induction names generalizing met found reads depth with
  | nil =>
      cases search
      exact ⟨congrArg Except.ok (List.reverse_reverse met), rfl⟩
  | cons name rest ih =>
      obtain ⟨named, later⟩ := List.forall_mem_cons.mp plain
      rw [visitAll, openedVisits]
      rcases search.cons_cases with
        ⟨fault, rfl, first⟩ | ⟨between, _, _, _, _, first, further, rfl, rfl⟩
      · obtain ⟨result, opened⟩ := children met name _ _ _ named first lasts
        cases made : visit met.reverse (Path.join root name) with
        | ok after =>
            rw [made] at result
            cases result
        | error cause =>
            rw [made] at result
            exact ⟨result, by rw [opened, List.append_nil]⟩
      · rw [Nat.max_le] at lasts
        obtain ⟨result, opened⟩ := children met name _ _ _ named first lasts.1
        cases made : visit met.reverse (Path.join root name) with
        | error cause =>
            rw [made] at result
            cases result
        | ok after =>
            rw [made] at result
            cases result
            obtain ⟨rest_result, rest_opened⟩ := ih later further lasts.2
            rw [List.reverse_reverse] at rest_result rest_opened
            refine ⟨rest_result, ?_⟩
            rw [opened, List.map_append]
            exact congrArg _ rest_opened

/-- A visit carries out a search, with any fuel for the depth of the search. -/
theorem performs_visitFile (named : Path.Plain name.toList)
    (search : Search (fun name => read (Path.join root name)) absence met [name] found reads
      depth) (lasts : depth ≤ fuel) :
    Performs (Path.join root) Prod.snd
      ((visitFile read root fuel met.reverse (Path.join root name)).map List.reverse)
      (openedVisit read root fuel met.reverse (Path.join root name)) found reads := by
  induction fuel using Nat.strongRecOn generalizing met name found reads depth with
  | ind fuel ih =>
      have last := lastName_join root named
      by_cases old : name ∈ met
      · cases search.of_known old
        have known : lastName (Path.join root name) ∈ met.reverse := by
          rwa [last, List.mem_reverse]
        rw [visitFile_of_known fuel known, openedVisit, if_pos (List.contains_iff_mem.mpr known)]
        exact ⟨congrArg Except.ok (List.reverse_reverse met), rfl⟩
      have unknown : ¬ met.reverse.contains (lastName (Path.join root name)) = true := by
        rwa [last, List.contains_iff_mem, List.mem_reverse]
      rw [visitFile, openedVisit, if_neg unknown, if_neg unknown]
      rcases search.single_cases old with
        ⟨cause, failed, rfl, rfl⟩ | ⟨text, inner, below, readable, inside, rfl, rfl⟩
      · change read (Path.join root name) = _ at failed
        rw [failed, last]
        refine ⟨?_, by cases cause <;> rfl⟩
        cases cause with
        | notFound =>
            change Except.ok (name :: met.reverse).reverse = Except.ok (met ++ [name])
            rw [List.reverse_cons, List.reverse_reverse]
        | _ => rfl
      · change read (Path.join root name) = _ at readable
        rw [readable]
        cases fuel with
        | zero => omega
        | succ less =>
            dsimp only
            rw [last, filterMap_lines]
            have entered : name :: met.reverse = (met ++ [name]).reverse := by simp
            obtain ⟨result, opened⟩ := performs_visitAll
              (fun met name found reads depth named search lasts =>
                ih less (Nat.lt_succ_self less) named search lasts)
              (fun _ member => plain_of_mem_includes member) inside
              (Nat.le_of_succ_le_succ lasts)
            rw [entered]
            exact ⟨result, by rw [opened, List.map_cons]⟩

/-- The visit of a file comes to an end, and nests no deeper than there are entries. -/
theorem exists_search_of_root (tree : Tree) (root : Path) (met : List String)
    (named : Path.Plain name.toList) :
    ∃ found reads depth,
      Search (fun name => tree.readText (Path.join root name)) absence met [name] found reads
          depth ∧ depth ≤ tree.entries.length :=
  Search.exists_of_atMost (atMost_joined tree root) .nil (Nat.le_refl _)
    (List.forall_mem_singleton.mpr named)

end Visits

end Library

end LiveShader.Fragment
