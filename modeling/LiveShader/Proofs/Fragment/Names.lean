import LiveShader.Fragment.Library
import LiveShader.Proofs.Files.Path
import LiveShader.Proofs.Text.Cut

/-!
# The names of a fragment and its manifest

A name that addresses a fragment is the name of its file, up to the extension.  The
manifest of the fragment stands beside it, under the same name with another extension.
-/

namespace LiveShader.Fragment

open LiveShader.Files LiveShader.Text

/-- The file of a fragment: what stands before its extension is a visible name. -/
structure IsFragmentFile (stem : List Char) (file : String) : Prop where
  spelled : file.toList = stem ++ ".frag".toList
  full : stem ≠ []
  visible : stem.head? ≠ some '.'
  noSlash : '/' ∉ stem
  noBackslash : '\\' ∉ stem

namespace IsFragmentFile

variable {stem : List Char} {file : String}

theorem plain (fragment : IsFragmentFile stem file) : Path.Plain file.toList := by
  rw [fragment.spelled]
  apply Path.plain_of_length
  · simpa using fragment.noSlash
  · simp

theorem visible_spelled (fragment : IsFragmentFile stem file) (tail : List Char) :
    (stem ++ tail).head? ≠ some '.' := by
  cases equal : stem with
  | nil => exact absurd equal fragment.full
  | cons c rest =>
      have visible := fragment.visible
      rwa [equal] at visible

/-- A fragment can be addressed by the name of its file. -/
theorem fileName?_eq (fragment : IsFragmentFile stem file) :
    Library.fileName? file = some file := by
  have ends : endsWith file.toList ("." ++ extension).toList = true :=
    endsWith_iff.mpr ⟨stem, fragment.spelled⟩
  have allowed : (file.toList.isEmpty || file.toList.contains '/' ||
      file.toList.contains '\\' || file.toList.head? == some '.') = false := by
    rw [fragment.spelled]
    simp only [Bool.or_eq_false_iff, beq_eq_false_iff_ne]
    refine ⟨⟨⟨?_, ?_⟩, ?_⟩, fragment.visible_spelled _⟩
    · simp
    · simpa using fragment.noSlash
    · simpa using fragment.noBackslash
  simp only [Library.fileName?]
  rw [allowed, ends]
  rfl

end IsFragmentFile

theorem isFragmentFile_of_fileName? {name file : String}
    (addressed : Library.fileName? name = some file) : ∃ stem, IsFragmentFile stem file := by
  simp only [Library.fileName?] at addressed
  split at addressed
  · cases addressed
  · rename_i allowed
    simp only [Bool.or_eq_true, not_or, List.isEmpty_iff, List.contains_iff_mem,
      beq_iff_eq] at allowed
    rcases allowed with ⟨⟨⟨full, noSlash⟩, noBackslash⟩, visible⟩
    split at addressed
    · rename_i ends
      cases addressed
      obtain ⟨stem, spelled⟩ := endsWith_iff.mp ends
      have shown : ".frag".toList = '.' :: "frag".toList := rfl
      change name.toList = stem ++ ".frag".toList at spelled
      rw [spelled] at full noSlash noBackslash visible
      refine ⟨stem, spelled, ?_, ?_, ?_, ?_⟩
      · rintro rfl
        exact visible rfl
      · intro hidden
        cases stem with
        | nil => cases hidden
        | cons c rest => exact visible hidden
      · exact fun member => noSlash (List.mem_append_left _ member)
      · exact fun member => noBackslash (List.mem_append_left _ member)
    · cases addressed
      refine ⟨name.toList, ?_, full, visible, noSlash, noBackslash⟩
      simp [extension]

/-! ## Manifests -/

/-- The name of the manifest of a fragment. -/
def manifestName (stem : List Char) : String := String.ofList (stem ++ ".toml".toList)

namespace IsFragmentFile

variable {stem : List Char} {file : String}

theorem plain_manifestName (fragment : IsFragmentFile stem file) :
    Path.Plain (manifestName stem).toList := by
  rw [manifestName]
  rw [String.toList_ofList]
  apply Path.plain_of_length
  · simpa using fragment.noSlash
  · simp

theorem ne_manifestName (fragment : IsFragmentFile stem file) : file ≠ manifestName stem := by
  intro same
  have letters := congrArg String.toList same
  simp [fragment.spelled, manifestName] at letters

theorem splitName_append_dot (full : stem ≠ []) {tail : List Char} (solid : '.' ∉ tail) :
    Path.splitName (stem ++ '.' :: tail) = (stem, some tail) := by
  have before : ∀ c ∈ tail.reverse, (c != '.') = true := by
    intro c member
    rw [bne_iff_ne]
    rintro rfl
    exact solid (List.mem_reverse.mp member)
  have reversed : (stem ++ '.' :: tail).reverse = tail.reverse ++ '.' :: stem.reverse := by
    simp
  simp only [Path.splitName]
  rw [reversed]
  rw [List.takeWhile_append_of_pos before, List.dropWhile_append_of_pos before]
  simp [full]

theorem plain_dotted (fragment : IsFragmentFile stem file) : Path.Plain (stem ++ ['.']) := by
  refine ⟨?_, by simp, ?_, ?_⟩
  · simpa using fragment.noSlash
  · simpa using fragment.full
  · intro up
    have first : (stem ++ ['.']).head? = some '.' := congrArg List.head? up
    exact fragment.visible_spelled _ first

theorem extension?_join (fragment : IsFragmentFile stem file) (directory : Path) :
    Path.extension? (Path.join directory file) = some "frag" := by
  rw [Path.extension?]
  rw [Path.fileName?_join fragment.plain]
  simp only [Option.bind, Path.extensionOf?]
  rw [fragment.spelled]
  change (Path.splitName (stem ++ '.' :: "frag".toList)).2.map String.ofList = some "frag"
  rw [splitName_append_dot fragment.full (by decide)]
  rfl

/-- The manifest of a fragment stands beside it. -/
theorem manifestPath_join (fragment : IsFragmentFile stem file) (directory : Path) :
    manifestPath (Path.join directory file) = Path.join directory (manifestName stem) := by
  have dotted := fragment.plain_dotted
  have cut : (Path.join directory file).toList.take ((Path.join directory file).length - 4) =
      Path.front directory ++ (stem ++ ['.']) := by
    have whole : Path.join directory file =
        String.ofList ((Path.front directory ++ (stem ++ ['.'])) ++ ['f', 'r', 'a', 'g']) := by
      rw [Path.join_eq fragment.plain, fragment.spelled]
      simp
    rw [whole, String.length_ofList, String.toList_ofList, List.length_append]
    exact List.take_left
  have named : Path.fileName? (String.ofList (Path.front directory ++ (stem ++ ['.']))) =
      some (String.ofList (stem ++ ['.'])) := by
    rw [Path.fileName?]
    rw [Path.parts?_append (Path.leading_front directory) dotted]
    dsimp only
    rw [if_neg dotted.notUp]
  simp only [manifestPath, Path.withExtension]
  rw [fragment.extension?_join directory]
  change Path.putExtension (String.ofList ((Path.join directory file).toList.take
    ((Path.join directory file).length - 4))) "toml" = _
  rw [cut]
  rw [Path.putExtension]
  rw [named, Path.parts?_append (Path.leading_front directory) dotted]
  dsimp only
  rw [String.toList_ofList, splitName_append_dot fragment.full (by simp), Path.lead_append_drop]
  rw [Path.join_eq fragment.plain_manifestName]
  simp [manifestName, String.ofList_append, String.append_assoc]

end IsFragmentFile

end LiveShader.Fragment
