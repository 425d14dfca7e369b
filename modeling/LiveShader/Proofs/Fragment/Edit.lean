import LiveShader.Fragment.Change
import LiveShader.Proofs.Files.Directory

/-!
# Edits of a directory

A file of a directory is created, written, removed or given another name, and a notice
tells of it.  The events of the notice name every file whose text is another one
afterwards, except that nothing is said of a file that is gone.
-/

namespace LiveShader.Fragment

open LiveShader.Files

/-- An operation on the files of a directory. -/
inductive Edit where
  | create (name : FileName) (content : Content)
  | write (name : FileName) (content : Content)
  | remove (name : FileName)
  | rename (source target : FileName)

namespace Edit

/-- The files after an edit, unless it is refused. -/
def result? (directory : Directory) (files : Tree) : Edit → Option Tree
  | create name content =>
      match files.lookup (directory.locationOf name) with
      | none => some (files.put (directory.locationOf name) (.file content))
      | some _ => none
  | write name content =>
      match files.lookup (directory.locationOf name) with
      | some (.file _) => some (files.put (directory.locationOf name) (.file content))
      | _ => none
  | remove name =>
      match files.lookup (directory.locationOf name) with
      | some (.file _) => some (files.erase (directory.locationOf name))
      | _ => none
  | rename source target =>
      match files.lookup (directory.locationOf source),
          files.lookup (directory.locationOf target) with
      | some (.file _), some .directory => none
      | some (.file content), _ =>
          some ((files.erase (directory.locationOf source)).put
            (directory.locationOf target) (.file content))
      | _, _ => none

/-- What is told of an edit. -/
def notice (directory : Directory) : Edit → Notice
  | create name _ => ⟨.created, [Path.join directory.path name]⟩
  | write name _ => ⟨.modified, [Path.join directory.path name]⟩
  | remove name => ⟨.removed, [Path.join directory.path name]⟩
  | rename source target =>
      ⟨.renamed, [Path.join directory.path source, Path.join directory.path target]⟩

end Edit

/-! ## Events of a notice -/

namespace Notice

theorem mem_foldl_insert (added : List String) {name : String} {names : List String}
    (member : name ∈ names ∨ name ∈ added) :
    name ∈ added.foldl
      (fun names name => if names.contains name then names else names ++ [name]) names := by
  induction added generalizing names with
  | nil =>
      rcases member with old | new
      · exact old
      · cases new
  | cons first added ih =>
      rw [List.foldl_cons]
      apply ih
      rcases member with old | new
      · left
        split
        · exact old
        · exact List.mem_append_left [first] old
      · rcases List.mem_cons.mp new with rfl | later
        · left
          split
          · rename_i known
            exact List.contains_iff_mem.mp known
          · exact List.mem_append_right names List.mem_cons_self
        · exact Or.inr later

/-- A notice names its files, unless they are gone. -/
theorem changed_mem_events {notice : Notice} {path : Path} {name : String}
    (tells : notice.happening = .created ∨ notice.happening = .modified ∨
      notice.happening = .renamed)
    (present : path ∈ notice.paths) (named : Path.fileName? path = some name) :
    Event.changed name ∈ notice.events := by
  have member : name ∈ notice.changedNames := by
    apply mem_foldl_insert
    right
    exact List.mem_filterMap.mpr ⟨path, present, named⟩
  have told := List.mem_map_of_mem (f := Event.changed) member
  rw [events]
  rcases tells with happening | happening | happening
  all_goals
    rw [happening]
    exact List.mem_append_right _ told

end Notice

/-! ## What an edit does to a reading -/

namespace Edit

variable {directory : Directory} {files after : Tree}

theorem reading_put (entry : Entry) {name changed : FileName} (differ : name ≠ changed) :
    directory.reading (files.put (directory.locationOf changed) entry) name =
      directory.reading files name :=
  Directory.reading_put_of_ne name.property entry fun same => differ (Subtype.ext same)

theorem reading_erase {name changed : FileName} (differ : name ≠ changed) :
    directory.reading (files.erase (directory.locationOf changed)) name =
      directory.reading files name :=
  Directory.reading_erase_of_ne name.property fun same => differ (Subtype.ext same)

/-- The files whose text an edit may change while it leaves them there. -/
def written : Edit → List FileName
  | create name _ => [name]
  | write name _ => [name]
  | remove _ => []
  | rename source target => [source, target]

theorem changed_of_mem_written {edit : Edit} {name : FileName} (member : name ∈ edit.written) :
    Event.changed name ∈ (edit.notice directory).events := by
  have joined : Path.fileName? (Path.join directory.path name) = some name.val :=
    Path.fileName?_join name.property
  cases edit with
  | create changed content =>
      rw [List.mem_singleton.mp member] at joined ⊢
      exact Notice.changed_mem_events (Or.inl rfl) List.mem_cons_self joined
  | write changed content =>
      rw [List.mem_singleton.mp member] at joined ⊢
      exact Notice.changed_mem_events (Or.inr (Or.inl rfl)) List.mem_cons_self joined
  | remove changed => cases member
  | rename source target =>
      apply Notice.changed_mem_events (Or.inr (Or.inr rfl)) _ joined
      exact List.mem_map_of_mem (f := fun name : FileName => Path.join directory.path name) member

theorem reading_of_not_mem_written {edit : Edit} {name : FileName}
    (made : edit.result? directory files = some after) (absent : name ∉ edit.written)
    (kept : edit ≠ .remove name) :
    directory.reading after name = directory.reading files name := by
  cases edit with
  | create changed content =>
      simp only [result?] at made
      split at made
      · cases made
        exact reading_put _ (List.ne_of_not_mem_cons absent)
      · cases made
  | write changed content =>
      simp only [result?] at made
      split at made
      · cases made
        exact reading_put _ (List.ne_of_not_mem_cons absent)
      · cases made
  | remove changed =>
      have differ : name ≠ changed := by
        rintro rfl
        exact kept rfl
      simp only [result?] at made
      split at made
      · cases made
        exact reading_erase differ
      · cases made
  | rename source target =>
      obtain ⟨notSource, others⟩ := List.ne_and_not_mem_of_not_mem_cons absent
      simp only [result?] at made
      split at made
      · cases made
      · cases made
        exact (reading_put _ (List.ne_of_not_mem_cons others)).trans (reading_erase notSource)
      · cases made

theorem unreadable_of_remove {name : FileName}
    (made : (remove name).result? directory files = some after) (text : String) :
    directory.reading after name ≠ .ok text := by
  simp only [result?] at made
  split at made
  · cases made
    exact Directory.reading_erase_self name.property
  · cases made

/-- Every file that an edit may have changed is named, unless it is gone. -/
theorem reading_result {edit : Edit} (made : edit.result? directory files = some after)
    (name : FileName) :
    directory.reading after name = directory.reading files name ∨
      Event.changed name ∈ (edit.notice directory).events ∨
        edit = .remove name ∧ ∀ text, directory.reading after name ≠ .ok text := by
  by_cases member : name ∈ edit.written
  · exact Or.inr (Or.inl (changed_of_mem_written member))
  by_cases removed : edit = .remove name
  · rw [removed] at made
    exact Or.inr (Or.inr ⟨removed, unreadable_of_remove made⟩)
  · exact Or.inl (reading_of_not_mem_written made member removed)

end Edit

end LiveShader.Fragment
