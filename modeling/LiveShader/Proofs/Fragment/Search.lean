import LiveShader.Proofs.Fragment.References

/-!
# Searches along include lines

A search goes through the files that some names lead to, each name with all that its file
includes before the next one, and passes over names that were met before.  It is given as
a relation, without a bound on how deep it goes.  What a search says of its files follows
from its rules alone: which files are read, how often, in which order, and which of them
stops it.  A search comes to its end whenever only finitely many names can be read.
-/

namespace LiveShader.Fragment

open LiveShader.Files LiveShader.Text

/-- What a search ends with: the names that it has met, or the first file that it refuses. -/
abbrev Found := Except (String × FileError) (List String)

/--
What comes of the names in a list when some names were met before, the names that are read
on the way in their order, and how many texts are followed within each other at most.
-/
inductive Search (read : String → Except FileError String) (tolerated : FileError → Bool) :
    List String → List String → Found → List String → Nat → Prop where
  | done {met : List String} : Search read tolerated met [] (.ok met) [] 0
  | known {met rest reads : List String} {name : String} {found : Found} {depth : Nat}
      (old : name ∈ met) (later : Search read tolerated met rest found reads depth) :
      Search read tolerated met (name :: rest) found reads depth
  /-- A file that cannot be read includes nothing if this is tolerated. -/
  | absent {met rest reads : List String} {name : String} {cause : FileError} {found : Found}
      {depth : Nat} (new : name ∉ met) (failed : read name = .error cause)
      (harmless : tolerated cause = true)
      (later : Search read tolerated (met ++ [name]) rest found reads depth) :
      Search read tolerated met (name :: rest) found (name :: reads) depth
  | refused {met rest : List String} {name : String} {cause : FileError} (new : name ∉ met)
      (failed : read name = .error cause) (fatal : tolerated cause = false) :
      Search read tolerated met (name :: rest) (.error (name, cause)) [name] 0
  | entered {met between rest inner reads : List String} {name text : String} {found : Found}
      {below depth : Nat} (new : name ∉ met) (readable : read name = .ok text)
      (inside : Search read tolerated (met ++ [name]) (includes text) (.ok between) inner below)
      (later : Search read tolerated between rest found reads depth) :
      Search read tolerated met (name :: rest) found (name :: (inner ++ reads))
        (max (below + 1) depth)
  | stopped {met rest inner : List String} {name text : String} {fault : String × FileError}
      {below : Nat} (new : name ∉ met) (readable : read name = .ok text)
      (inside : Search read tolerated (met ++ [name]) (includes text) (.error fault) inner below) :
      Search read tolerated met (name :: rest) (.error fault) (name :: inner) (below + 1)

namespace Search

variable {read other : String → Except FileError String} {tolerated : FileError → Bool}
  {met names reads : List String} {name : String} {found : Found} {depth : Nat}

/-! ## The files of a search -/

/-- A search that is not stopped has met what it has read, behind what was met before. -/
theorem met_eq (search : Search read tolerated met names found reads depth)
    {after : List String} (ended : found = .ok after) : after = met ++ reads := by
  induction search generalizing after with
  | done =>
      cases ended
      rw [List.append_nil]
  | known _ _ ih => exact ih ended
  | absent _ _ _ _ ih => rw [ih ended, List.append_assoc, List.singleton_append]
  | refused => cases ended
  | entered _ _ _ _ insideIh laterIh =>
      rw [laterIh ended, insideIh rfl]
      simp only [List.append_assoc, List.cons_append, List.nil_append]
  | stopped => cases ended

/-- No name is read twice, or when it was met before. -/
theorem nodup (search : Search read tolerated met names found reads depth)
    (distinct : met.Nodup) : (met ++ reads).Nodup := by
  induction search with
  | done => rwa [List.append_nil]
  | known _ _ ih => exact ih distinct
  | absent new _ _ _ ih =>
      have whole := ih (Expansion.nodup_concat distinct new)
      rwa [List.append_assoc, List.singleton_append] at whole
  | refused new => exact Expansion.nodup_concat distinct new
  | entered new _ inside _ insideIh laterIh =>
      have before := insideIh (Expansion.nodup_concat distinct new)
      rw [← inside.met_eq rfl] at before
      have whole := laterIh before
      rw [inside.met_eq rfl] at whole
      simpa only [List.append_assoc, List.cons_append, List.nil_append] using whole
  | stopped new _ _ ih =>
      have whole := ih (Expansion.nodup_concat distinct new)
      rwa [List.append_assoc, List.singleton_append] at whole

/-- Every text that is followed is that of a file of its own. -/
theorem depth_le (search : Search read tolerated met names found reads depth) :
    depth ≤ (reads.filter fun name => (read name).isOk).length := by
  induction search with
  | done => exact Nat.le_refl 0
  | known _ _ ih => exact ih
  | absent _ failed _ _ ih =>
      rw [List.filter_cons_of_neg (by rw [failed]; exact Bool.false_ne_true)]
      exact ih
  | refused => exact Nat.zero_le _
  | entered _ readable _ _ insideIh laterIh =>
      rw [List.filter_cons_of_pos (by rw [readable]; rfl), List.filter_append, List.length_cons,
        List.length_append]
      omega
  | stopped _ readable _ ih =>
      rw [List.filter_cons_of_pos (by rw [readable]; rfl), List.length_cons]
      omega

/-- A file that does not stop a search. -/
def Passes (read : String → Except FileError String) (tolerated : FileError → Bool)
    (name : String) : Prop :=
  (∃ text, read name = .ok text) ∨ ∃ cause, read name = .error cause ∧ tolerated cause = true

theorem passes_of_ok (search : Search read tolerated met names found reads depth)
    {after : List String} (ended : found = .ok after) :
    ∀ name ∈ reads, Passes read tolerated name := by
  induction search generalizing after with
  | done => exact List.forall_mem_nil _
  | known _ _ ih => exact ih ended
  | absent _ failed harmless _ ih =>
      exact List.forall_mem_cons.mpr ⟨Or.inr ⟨_, failed, harmless⟩, ih ended⟩
  | refused => cases ended
  | entered _ readable _ _ insideIh laterIh =>
      refine List.forall_mem_cons.mpr ⟨Or.inl ⟨_, readable⟩, ?_⟩
      exact List.forall_mem_append.mpr ⟨insideIh rfl, laterIh ended⟩
  | stopped => cases ended

/-- The file that stops a search is the first one that cannot be passed. -/
theorem stops_at_first (search : Search read tolerated met names found reads depth)
    {cause : FileError} (ended : found = .error (name, cause)) :
    ∃ before, reads = before ++ [name] ∧ read name = .error cause ∧ tolerated cause = false ∧
      ∀ early ∈ before, Passes read tolerated early := by
  induction search with
  | done => cases ended
  | known _ _ ih => exact ih ended
  | absent _ failed harmless _ ih =>
      obtain ⟨before, shape, last, fatal, passed⟩ := ih ended
      exact ⟨_ :: before, congrArg _ shape, last, fatal,
        List.forall_mem_cons.mpr ⟨Or.inr ⟨_, failed, harmless⟩, passed⟩⟩
  | refused _ failed fatal =>
      cases ended
      exact ⟨[], rfl, failed, fatal, List.forall_mem_nil _⟩
  | @entered met between rest inner reads first _ _ _ _ _ readable inside _ _ ih =>
      obtain ⟨before, shape, last, fatal, passed⟩ := ih ended
      refine ⟨first :: (inner ++ before), ?_, last, fatal, ?_⟩
      · rw [shape, List.cons_append, List.append_assoc]
      · refine List.forall_mem_cons.mpr ⟨Or.inl ⟨_, readable⟩, ?_⟩
        exact List.forall_mem_append.mpr ⟨inside.passes_of_ok rfl, passed⟩
  | stopped _ readable _ ih =>
      obtain ⟨before, shape, last, fatal, passed⟩ := ih ended
      exact ⟨_ :: before, congrArg _ shape, last, fatal,
        List.forall_mem_cons.mpr ⟨Or.inl ⟨_, readable⟩, passed⟩⟩

/-- Only names that were given or that stand on include lines of files read are read. -/
theorem named (search : Search read tolerated met names found reads depth) :
    ∀ name ∈ reads, name ∈ names ∨
      ∃ above ∈ reads, ∃ text, read above = .ok text ∧ name ∈ includes text := by
  induction search with
  | done => exact List.forall_mem_nil _
  | known _ _ ih =>
      intro name member
      exact (ih name member).imp_left (List.mem_cons_of_mem _)
  | absent _ _ _ _ ih =>
      intro name member
      rcases List.mem_cons.mp member with rfl | later
      · exact Or.inl List.mem_cons_self
      · rcases ih name later with given | ⟨above, known, text, includes⟩
        · exact Or.inl (List.mem_cons_of_mem _ given)
        · exact Or.inr ⟨above, List.mem_cons_of_mem _ known, text, includes⟩
  | refused =>
      intro name member
      rw [List.mem_singleton.mp member]
      exact Or.inl List.mem_cons_self
  | entered _ readable _ _ insideIh laterIh =>
      intro name member
      rcases List.mem_cons.mp member with rfl | further
      · exact Or.inl List.mem_cons_self
      · rcases List.mem_append.mp further with within | later
        · rcases insideIh name within with included | ⟨above, known, text, includes⟩
          · exact Or.inr ⟨_, List.mem_cons_self, _, readable, included⟩
          · exact Or.inr ⟨above, List.mem_cons_of_mem _ (List.mem_append_left _ known), text,
              includes⟩
        · rcases laterIh name later with given | ⟨above, known, text, includes⟩
          · exact Or.inl (List.mem_cons_of_mem _ given)
          · exact Or.inr ⟨above, List.mem_cons_of_mem _ (List.mem_append_right _ known), text,
              includes⟩
  | stopped _ readable _ ih =>
      intro name member
      rcases List.mem_cons.mp member with rfl | within
      · exact Or.inl List.mem_cons_self
      · rcases ih name within with included | ⟨above, known, text, includes⟩
        · exact Or.inr ⟨_, List.mem_cons_self, _, readable, included⟩
        · exact Or.inr ⟨above, List.mem_cons_of_mem _ known, text, includes⟩

/-! ## Searches by their first name -/

/-- The search of one new name: its file cannot be read, or what it includes is searched. -/
theorem single_cases (search : Search read tolerated met [name] found reads depth)
    (new : name ∉ met) :
    (∃ cause, read name = .error cause ∧ reads = [name] ∧
      found = if tolerated cause then .ok (met ++ [name]) else .error (name, cause)) ∨
    ∃ text inner below, read name = .ok text ∧
      Search read tolerated (met ++ [name]) (includes text) found inner below ∧
        reads = name :: inner ∧ depth = below + 1 := by
  cases search with
  | known old => exact absurd old new
  | absent _ failed harmless later =>
      cases later
      exact Or.inl ⟨_, failed, rfl, by rw [if_pos harmless]⟩
  | refused _ failed fatal =>
      refine Or.inl ⟨_, failed, rfl, ?_⟩
      rw [if_neg (by rw [fatal]; exact Bool.false_ne_true)]
  | entered _ readable inside later =>
      cases later
      exact Or.inr ⟨_, _, _, readable, inside, by rw [List.append_nil], Nat.max_zero _⟩
  | stopped _ readable inside => exact Or.inr ⟨_, _, _, readable, inside, rfl, rfl⟩

/-- The search of a list is stopped at its first name, or goes on behind it. -/
theorem cons_cases {rest : List String}
    (search : Search read tolerated met (name :: rest) found reads depth) :
    (∃ fault, found = .error fault ∧
      Search read tolerated met [name] (.error fault) reads depth) ∨
    ∃ between first above later beside,
      Search read tolerated met [name] (.ok between) first above ∧
        Search read tolerated between rest found later beside ∧
          reads = first ++ later ∧ depth = max above beside := by
  cases search with
  | known old later =>
      exact Or.inr ⟨met, [], 0, _, _, .known old .done, later, rfl, by simp⟩
  | absent new failed harmless later =>
      exact Or.inr ⟨_, [name], 0, _, _, .absent new failed harmless .done, later, rfl, by simp⟩
  | refused new failed fatal => exact Or.inl ⟨_, rfl, .refused new failed fatal⟩
  | entered new readable inside later =>
      exact Or.inr ⟨_, _, _, _, _, .entered new readable inside .done, later, by simp, by simp⟩
  | stopped new readable inside => exact Or.inl ⟨_, rfl, .stopped new readable inside⟩

theorem of_known {rest : List String}
    (search : Search read tolerated met (name :: rest) found reads depth) (old : name ∈ met) :
    Search read tolerated met rest found reads depth := by
  cases search with
  | known _ later => exact later
  | absent new | refused new | entered new | stopped new => exact absurd old new

/-- A search has one outcome, one order and one depth. -/
theorem unique (search : Search read tolerated met names found reads depth) {found' : Found}
    {reads' : List String} {depth' : Nat}
    (again : Search read tolerated met names found' reads' depth') :
    found' = found ∧ reads' = reads ∧ depth' = depth := by
  induction search generalizing found' reads' depth' with
  | done =>
      cases again
      exact ⟨rfl, rfl, rfl⟩
  | known old _ ih => exact ih (again.of_known old)
  | absent new failed harmless _ ih =>
      cases again with
      | known old => exact absurd old new
      | absent _ _ _ later =>
          obtain ⟨rfl, rfl, rfl⟩ := ih later
          exact ⟨rfl, rfl, rfl⟩
      | refused _ failed' fatal =>
          cases failed.symm.trans failed'
          exact absurd harmless (by rw [fatal]; exact Bool.false_ne_true)
      | entered _ readable | stopped _ readable => cases failed.symm.trans readable
  | refused new failed fatal =>
      cases again with
      | known old => exact absurd old new
      | absent _ failed' harmless =>
          cases failed.symm.trans failed'
          exact absurd harmless (by rw [fatal]; exact Bool.false_ne_true)
      | refused _ failed' =>
          cases failed.symm.trans failed'
          exact ⟨rfl, rfl, rfl⟩
      | entered _ readable | stopped _ readable => cases failed.symm.trans readable
  | entered new readable _ _ insideIh laterIh =>
      cases again with
      | known old => exact absurd old new
      | absent _ failed | refused _ failed => cases readable.symm.trans failed
      | entered _ readable' inside later =>
          cases readable.symm.trans readable'
          obtain ⟨same, rfl, rfl⟩ := insideIh inside
          cases same
          obtain ⟨rfl, rfl, rfl⟩ := laterIh later
          exact ⟨rfl, rfl, rfl⟩
      | stopped _ readable' inside =>
          cases readable.symm.trans readable'
          cases (insideIh inside).1
  | stopped new readable _ ih =>
      cases again with
      | known old => exact absurd old new
      | absent _ failed | refused _ failed => cases readable.symm.trans failed
      | entered _ readable' inside =>
          cases readable.symm.trans readable'
          cases (ih inside).1
      | stopped _ readable' inside =>
          cases readable.symm.trans readable'
          obtain ⟨same, rfl, rfl⟩ := ih inside
          cases same
          exact ⟨rfl, rfl, rfl⟩

/-! ## Searches come to an end -/

/-- A search does not depend on how files are read that were met before it. -/
theorem congr (search : Search read tolerated met names found reads depth)
    (same : ∀ name, name ∉ met → other name = read name) :
    Search other tolerated met names found reads depth := by
  induction search with
  | done => exact .done
  | known old _ ih => exact .known old (ih same)
  | absent new failed harmless _ ih =>
      refine .absent new ((same _ new).trans failed) harmless (ih ?_)
      intro name beyond
      exact same name fun old => beyond (List.mem_append_left _ old)
  | refused new failed fatal => exact .refused new ((same _ new).trans failed) fatal
  | entered new readable inside _ insideIh laterIh =>
      refine .entered new ((same _ new).trans readable) (insideIh ?_) (laterIh ?_)
      · intro name beyond
        exact same name fun old => beyond (List.mem_append_left _ old)
      · intro name beyond
        rw [inside.met_eq rfl] at beyond
        exact same name fun old =>
          beyond (List.mem_append_left _ (List.mem_append_left _ old))
  | stopped new readable _ ih =>
      refine .stopped new ((same _ new).trans readable) (ih ?_)
      intro name beyond
      exact same name fun old => beyond (List.mem_append_left _ old)

/-- At most so many names can be read. -/
def AtMost (read : String → Except FileError String) (count : Nat) : Prop :=
  ∀ names : List String, names.Nodup →
    (∀ name ∈ names, Path.Plain name.toList ∧ ∃ text, read name = .ok text) →
      names.length ≤ count

/-- Names that were read on the way to some place of a search, each once. -/
structure Passed (read : String → Except FileError String) (met passed : List String) :
    Prop where
  distinct : passed.Nodup
  met : passed ⊆ met
  readable : ∀ name ∈ passed, Path.Plain name.toList ∧ ∃ text, read name = .ok text

theorem Passed.nil : Passed read met [] :=
  ⟨List.nodup_nil, List.nil_subset met, List.forall_mem_nil _⟩

theorem Passed.cons {passed : List String} {text : String} (before : Passed read met passed)
    (named : Path.Plain name.toList) (new : name ∉ met) (readable : read name = .ok text) :
    Passed read (met ++ [name]) (name :: passed) where
  distinct := List.nodup_cons.mpr ⟨fun old => new (before.met old), before.distinct⟩
  met := List.cons_subset.mpr ⟨by simp, fun _ old => List.mem_append_left _ (before.met old)⟩
  readable := List.forall_mem_cons.mpr ⟨⟨named, text, readable⟩, before.readable⟩

theorem Passed.mono {passed after : List String} (before : Passed read met passed)
    (grows : met ⊆ after) : Passed read after passed :=
  ⟨before.distinct, List.Subset.trans before.met grows, before.readable⟩

/-- Searches come to an end if all searches of included files do, within this room. -/
theorem exists_of_inside {room : Nat} {passed : List String}
    (inside : ∀ met name text, Passed read met passed → Path.Plain name.toList → name ∉ met →
      read name = .ok text → ∃ found reads below,
        Search read tolerated (met ++ [name]) (includes text) found reads below ∧ below < room)
    (before : Passed read met passed) (plain : ∀ name ∈ names, Path.Plain name.toList) :
    ∃ found reads depth, Search read tolerated met names found reads depth ∧ depth ≤ room := by
  induction names generalizing met with
  | nil => exact ⟨_, _, _, .done, Nat.zero_le room⟩
  | cons name rest ih =>
      obtain ⟨named, later⟩ := List.forall_mem_cons.mp plain
      by_cases old : name ∈ met
      · obtain ⟨found, reads, depth, search, shallow⟩ := ih before later
        exact ⟨_, _, _, .known old search, shallow⟩
      cases reading : read name with
      | error cause =>
          cases harmless : tolerated cause with
          | false => exact ⟨_, _, _, .refused old reading harmless, Nat.zero_le room⟩
          | true =>
              obtain ⟨found, reads, depth, search, shallow⟩ :=
                ih (before.mono (List.subset_append_left met [name])) later
              exact ⟨_, _, _, .absent old reading harmless search, shallow⟩
      | ok text =>
          obtain ⟨found, inner, below, first, lower⟩ :=
            inside met name text before named old reading
          cases found with
          | error fault => exact ⟨_, _, _, .stopped old reading first, lower⟩
          | ok between =>
              have grows : met ⊆ between := by
                rw [first.met_eq rfl, List.append_assoc]
                exact List.subset_append_left met _
              obtain ⟨found, reads, depth, search, shallow⟩ := ih (before.mono grows) later
              exact ⟨_, _, _, .entered old reading first search,
                Nat.max_le.mpr ⟨lower, shallow⟩⟩

/-- If few names can be read, every search comes to an end, and it goes no deeper than that. -/
theorem exists_of_atMost {count room : Nat} (few : AtMost read count) {passed : List String}
    (before : Passed read met passed) (lasts : count ≤ room + passed.length)
    (plain : ∀ name ∈ names, Path.Plain name.toList) :
    ∃ found reads depth, Search read tolerated met names found reads depth ∧ depth ≤ room := by
  induction room generalizing met names passed with
  | zero =>
      refine exists_of_inside ?_ before plain
      intro met name text before named new readable
      have further := before.cons named new readable
      have bound := few _ further.distinct further.readable
      rw [List.length_cons] at bound
      omega
  | succ room ih =>
      refine exists_of_inside ?_ before plain
      intro met name text before named new readable
      have enough : count ≤ room + (name :: passed).length := by
        rw [List.length_cons]
        omega
      obtain ⟨found, reads, depth, search, shallow⟩ :=
        ih (before.cons named new readable) enough fun _ member => plain_of_mem_includes member
      exact ⟨found, reads, depth, search, Nat.lt_succ_of_le shallow⟩

end Search

end LiveShader.Fragment
