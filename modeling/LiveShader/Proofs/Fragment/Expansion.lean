import LiveShader.Fragment.Expansion
import LiveShader.Proofs.Files.Path
import LiveShader.Proofs.Text.Lines

/-!
# What an expansion did

An expansion is recorded as a tree that follows the lines of a file: a line is kept,
or it is an include line whose file was met before and is skipped, or its file is
entered.  The text of the expansion, the numbers of its files and the places of their
lines can all be read off the tree.
-/

namespace LiveShader.Fragment

open LiveShader.Files LiveShader.Text

/-- What became of the lines of a file, from one of them to the last. -/
inductive Expansion where
  | done
  | keep (line : List Char) (rest : Expansion)
  /-- An include line whose file was met before. -/
  | skip (line : List Char) (rest : Expansion)
  /-- An include line whose file stands in its place. -/
  | enter (line : List Char) (name : String) (inside rest : Expansion)

namespace Expansion

/-- The lines of the file itself. -/
def sources : Expansion → List (List Char)
  | done => []
  | keep line rest => line :: rest.sources
  | skip line rest => line :: rest.sources
  | enter line _ _ rest => line :: rest.sources

/-- The files that were entered, in the order of their numbers. -/
def entered : Expansion → List String
  | done => []
  | keep _ rest => rest.entered
  | skip _ rest => rest.entered
  | enter _ name inside rest => name :: (inside.entered ++ rest.entered)

/-- How many files are entered within each other at most. -/
def depth : Expansion → Nat
  | done => 0
  | keep _ rest => rest.depth
  | skip _ rest => rest.depth
  | enter _ _ inside rest => max (inside.depth + 1) rest.depth

/--
The text, given the number of the file, of the next file to be entered, and of the
first line.
-/
def text (directives : Bool) (file : Nat) : Nat → Nat → Expansion → List Char
  | _, _, done => []
  | next, number, keep line rest => line ++ rest.text directives file next (number + 1)
  | next, number, skip _ rest => rest.text directives file next (number + 1)
  | next, number, enter _ _ inside rest =>
      inlined directives next file number (inside.text directives next (next + 1) 1) ++
        rest.text directives file (next + 1 + inside.entered.length) (number + 1)

/-- Whether a tree is what becomes of lines in a directory when these files were met. -/
def Follows (read : ReadText) (directory : Path) : List String → Expansion → Prop
  | _, done => True
  | met, keep line rest => includedFile? line = none ∧ rest.Follows read directory met
  | met, skip line rest =>
      (∃ name ∈ met, includedFile? line = some name) ∧ rest.Follows read directory met
  | met, enter line name inside rest =>
      includedFile? line = some name ∧ name ∉ met ∧
        (∃ text, read (Path.join directory name) = .ok text ∧
          inside.sources = terminatedLines text.toList) ∧
        inside.Follows read directory (met ++ [name]) ∧
        rest.Follows read directory (met ++ name :: inside.entered)

theorem depth_le (tree : Expansion) : tree.depth ≤ tree.entered.length := by
  induction tree with
  | done => exact Nat.le_refl 0
  | keep line rest ih => exact ih
  | skip line rest ih => exact ih
  | enter line name inside rest insideIh restIh =>
      rw [depth, entered, List.length_cons, List.length_append]
      omega

end Expansion

/-! ## Names of included files -/

/-- The name of an included file is a word without a slash, with an extension. -/
theorem spelled_includedFile {line : List Char} {name : String}
    (included : includedFile? line = some name) :
    ∃ word, name.toList = word ++ ".glsl".toList ∧ '/' ∉ word := by
  rw [includedFile?] at included
  split at included
  · cases included
  · split at included
    · cases included
    · rename_i word _ _
      split at included
      · cases included
      · rename_i noSlash
        cases Option.some.inj included
        refine ⟨word, ?_, by simpa using noSlash⟩
        simp [includeExtension]

theorem plain_includedFile {line : List Char} {name : String}
    (included : includedFile? line = some name) : Path.Plain name.toList := by
  obtain ⟨word, spelled, noSlash⟩ := spelled_includedFile included
  rw [spelled]
  apply Path.plain_of_length
  · simpa using noSlash
  · simp

theorem knownName_join (directory : Path) {name : String} (plain : Path.Plain name.toList) :
    knownName (Path.join directory name) = name := by
  rw [knownName]
  rw [Path.fileName?_join plain]
  rfl

/-! ## Expansions follow trees -/

/-- The record of an expansion of some lines of a file. -/
structure Records (read : ReadText) (directory : Path) (directives : Bool) (file number : Nat)
    (met : List String) (lines : List (List Char)) (expanded : Expanded) (tree : Expansion) :
    Prop where
  sources : tree.sources = lines
  follows : tree.Follows read directory met
  text : expanded.text = tree.text directives file met.length number
  files : expanded.files = met ++ tree.entered

/-- The record of an expansion of a file that is met after others. -/
structure RecordsFile (read : ReadText) (directives : Bool) (met : List String) (path : Path)
    (expanded : Expanded) (tree : Expansion) : Prop where
  sources : ∃ text, read path = .ok text ∧ tree.sources = terminatedLines text.toList
  follows : tree.Follows read (Path.directoryOf path) (met ++ [knownName path])
  text : expanded.text = tree.text directives met.length (met.length + 1) 1
  files : expanded.files = met ++ knownName path :: tree.entered

section Lines

variable {read : ReadText} {directory : Path} {directives : Bool} {file fuel : Nat}
  {expandChild : List String → String → Except ReadFault Expanded}

/--
The lines of a file follow a tree if the files that they include do, and it is at most one
deeper than the trees of these.
-/
theorem expandLines_records (settled : Path.Settled directory)
    (children : ∀ met name expanded, expandChild met name = .ok expanded →
      ∃ tree, RecordsFile read directives met (Path.join directory name) expanded tree ∧
        tree.depth < fuel)
    (lines : List (List Char)) {number : Nat} {met : List String} {expanded : Expanded}
    (made : expandLines expandChild directives file number met lines = .ok expanded) :
    ∃ tree, Records read directory directives file number met lines expanded tree ∧
      tree.depth ≤ fuel := by
  induction lines generalizing number met expanded with
  | nil =>
      cases made
      exact ⟨.done, ⟨rfl, trivial, rfl, by simp [Expansion.entered]⟩, Nat.zero_le fuel⟩
  | cons line rest ih =>
      rw [expandLines] at made
      split at made
      · rename_i kept
        split at made
        · cases made
        · rename_i tail equal
          cases made
          obtain ⟨tree, record, deep⟩ := ih equal
          exact ⟨.keep line tree, ⟨congrArg (line :: ·) record.sources, ⟨kept, record.follows⟩,
            congrArg (line ++ ·) record.text, record.files⟩, deep⟩
      · rename_i name included
        split at made
        · rename_i known
          obtain ⟨tree, record, deep⟩ := ih made
          have member : name ∈ met := by simpa using known
          exact ⟨.skip line tree, ⟨congrArg (line :: ·) record.sources,
            ⟨⟨name, member, included⟩, record.follows⟩, record.text, record.files⟩, deep⟩
        · rename_i unknown
          split at made
          · cases made
          · rename_i child entered
            split at made
            · cases made
            · rename_i tail equal
              cases made
              have plain := plain_includedFile included
              obtain ⟨inside, below, deepBelow⟩ := children met name child entered
              obtain ⟨tree, record, deep⟩ := ih equal
              have files : child.files = met ++ name :: inside.entered := by
                rw [below.files, knownName_join directory plain]
              have follows := below.follows
              rw [knownName_join directory plain, settled.directoryOf_join plain] at follows
              have absent : name ∉ met := by simpa using unknown
              refine ⟨.enter line name inside tree, ⟨congrArg (line :: ·) record.sources,
                ⟨included, absent, below.sources, follows, ?_⟩, ?_, ?_⟩,
                Nat.max_le.mpr ⟨deepBelow, deep⟩⟩
              · rw [← files]
                exact record.follows
              · have length : child.files.length = met.length + 1 + inside.entered.length := by
                  rw [files]
                  simp
                  omega
                rw [Expansion.text, ← below.text, ← length, ← record.text]
              · rw [record.files, files, Expansion.entered]
                simp

end Lines

/-- An expansion that succeeds follows a tree that is less deep than it had fuel. -/
theorem expandFile_bounded {read : ReadText} {directives : Bool} (fuel : Nat)
    {met : List String} {path : Path} {expanded : Expanded}
    (made : expandFile read directives fuel met path = .ok expanded) :
    ∃ tree, RecordsFile read directives met path expanded tree ∧ tree.depth < fuel := by
  induction fuel generalizing met path expanded with
  | zero =>
      rw [expandFile] at made
      split at made
      · cases made
      · cases made
  | succ fuel ih =>
      rw [expandFile] at made
      split at made
      · cases made
      · rename_i text readable
        obtain ⟨tree, record, deep⟩ :=
          expandLines_records (Path.settled_directoryOf path) (fun _ _ _ => ih) _ made
        refine ⟨tree, ⟨⟨text, readable, record.sources⟩, record.follows, ?_, ?_⟩,
          Nat.lt_succ_of_le deep⟩
        · rw [record.text]
          simp
        · rw [record.files]
          simp

/-- An expansion that succeeds follows a tree. -/
theorem expandFile_records {read : ReadText} {directives : Bool} (fuel : Nat)
    {met : List String} {path : Path} {expanded : Expanded}
    (made : expandFile read directives fuel met path = .ok expanded) :
    ∃ tree, RecordsFile read directives met path expanded tree :=
  (expandFile_bounded fuel made).imp fun _ bounded => bounded.1

/-! ## Trees are expanded -/

namespace Expansion

variable {read : ReadText} {directory : Path}

theorem nodup_concat {met : List String} {name : String} (distinct : met.Nodup)
    (new : name ∉ met) : (met ++ [name]).Nodup := by
  rw [List.nodup_append]
  refine ⟨distinct, by simp, ?_⟩
  intro first early second late
  rw [List.mem_singleton.mp late]
  rintro rfl
  exact new early

/-- No file is entered twice, or when it was met before. -/
theorem Follows.nodup {tree : Expansion} {met : List String}
    (follows : tree.Follows read directory met) (distinct : met.Nodup) :
    (met ++ tree.entered).Nodup := by
  induction tree generalizing met with
  | done => simpa [entered] using distinct
  | keep line rest ih => exact ih follows.2 distinct
  | skip line rest ih => exact ih follows.2 distinct
  | enter line name inside rest insideIh restIh =>
      rcases follows with ⟨_, new, _, insideFollows, restFollows⟩
      have below := insideIh insideFollows (nodup_concat distinct new)
      rw [List.append_assoc, List.singleton_append] at below
      have whole := restIh restFollows below
      rwa [List.append_assoc, List.cons_append] at whole

theorem Follows.readable {tree : Expansion} {met : List String}
    (follows : tree.Follows read directory met) :
    ∀ name ∈ tree.entered, Path.Plain name.toList ∧
      ∃ text, read (Path.join directory name) = .ok text := by
  induction tree generalizing met with
  | done =>
      intro name member
      cases member
  | keep line rest ih => exact ih follows.2
  | skip line rest ih => exact ih follows.2
  | enter line name inside rest insideIh restIh =>
      rcases follows with ⟨included, _, ⟨text, readable, _⟩, insideFollows, restFollows⟩
      intro other member
      rcases List.mem_cons.mp member with rfl | later
      · exact ⟨plain_includedFile included, text, readable⟩
      · rcases List.mem_append.mp later with within | after
        · exact insideIh insideFollows other within
        · exact restIh restFollows other after

end Expansion

/--
The lines that a tree follows are expanded as it says, given fuel for its depth.
-/
theorem expandLines_of_follows {read : ReadText} {directory : Path}
    (settled : Path.Settled directory) {tree : Expansion} {fuel : Nat} {met : List String}
    (directives : Bool) (file number : Nat) (follows : tree.Follows read directory met)
    (lasts : tree.depth ≤ fuel) :
    expandLines
        (fun met name => expandFile read directives fuel met (Path.join directory name))
        directives file number met tree.sources =
      .ok ⟨tree.text directives file met.length number, met ++ tree.entered⟩ := by
  induction tree generalizing fuel file number met with
  | done => simp [expandLines, Expansion.sources, Expansion.text, Expansion.entered]
  | keep line rest ih =>
      rcases follows with ⟨kept, follows⟩
      have later := ih file (number + 1) follows lasts
      rw [Expansion.sources, expandLines, kept]
      dsimp only
      rw [later]
      rfl
  | skip line rest ih =>
      rcases follows with ⟨⟨name, known, included⟩, follows⟩
      have later := ih file (number + 1) follows lasts
      rw [Expansion.sources, expandLines, included]
      dsimp only
      rw [if_pos (List.contains_iff_mem.mpr known), later]
      rfl
  | enter line name inside rest insideIh restIh =>
      rcases follows with ⟨included, new, ⟨text, readable, sources⟩, insideFollows, restFollows⟩
      have plain := plain_includedFile included
      have unknown : ¬ met.contains name = true := fun known =>
        new (List.contains_iff_mem.mp known)
      rw [Expansion.depth, Nat.max_le] at lasts
      rcases lasts with ⟨within, after⟩
      cases fuel with
      | zero => omega
      | succ fuel =>
          have child : expandFile read directives (fuel + 1) met (Path.join directory name) =
              .ok ⟨inside.text directives met.length (met.length + 1) 1,
                met ++ name :: inside.entered⟩ := by
            have home : (Path.parent? (Path.join directory name)).getD "" = directory :=
              settled.directoryOf_join plain
            have lines := insideIh met.length 1 insideFollows (Nat.le_of_succ_le_succ within)
            rw [sources] at lines
            rw [expandFile]
            rw [readable]
            dsimp only
            rw [home, knownName_join directory plain, lines]
            simp
          have later := restIh file (number + 1) restFollows after
          have count : (met ++ name :: inside.entered).length =
              met.length + 1 + inside.entered.length := by
            rw [List.length_append, List.length_cons]
            omega
          rw [count] at later
          rw [Expansion.sources, expandLines, included]
          dsimp only
          rw [if_neg unknown, child]
          dsimp only
          rw [later]
          simp [Expansion.text, Expansion.entered]

/-- A file that follows a tree is expanded as it says. -/
theorem expandFile_of_records {read : ReadText} {directives : Bool} {fuel : Nat}
    {met : List String} {path : Path} {expanded : Expanded} {tree : Expansion}
    (record : RecordsFile read directives met path expanded tree)
    (lasts : tree.depth < fuel) :
    expandFile read directives fuel met path = .ok expanded := by
  rcases record.sources with ⟨text, readable, sources⟩
  cases fuel with
  | zero => omega
  | succ fuel =>
      have lines := expandLines_of_follows (Path.settled_directoryOf path) directives met.length 1
        record.follows (Nat.le_of_lt_succ lasts)
      rw [sources] at lines
      rw [expandFile]
      rw [readable]
      dsimp only
      change expandLines (fun met name => expandFile read directives fuel met
        (Path.join (Path.directoryOf path) name)) directives met.length 1
          (met ++ [knownName path]) (terminatedLines text.toList) = .ok expanded
      rw [lines]
      rcases expanded with ⟨written, files⟩
      have sameText : written = _ := record.text
      have sameFiles : files = _ := record.files
      rw [sameText, sameFiles]
      simp

end LiveShader.Fragment
