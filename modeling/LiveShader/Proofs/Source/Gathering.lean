import LiveShader.Proofs.Source.LineMap

/-!
# Which loose uniforms are gathered

A declaration at the top level is gathered if it stands alone on its line with a space
behind the word `uniform`.  Any other one stays in the translated text: the scan walks
over its line, and what it writes in front of a line declares nothing.  So the uniforms
of a name are all gathered exactly if each of its declarations is of the one form.
-/

namespace LiveShader.Source

open LiveShader.Text

/--
A declaration stands on a line outside all braces, where `depth` of them are open before
the first line.
-/
inductive Stands (declaration : Declaration) (line : List Char) :
    Int → List (List Char) → Prop where
  | here {depth : Int} {rest : List (List Char)} {left right : List Token}
      (spelled : tokens line = left ++ (declaration.spelling ++ right))
      (top : depth + rise left = 0) : Stands declaration line depth (line :: rest)
  | later {depth : Int} {first : List Char} {rest : List (List Char)}
      (below : Stands declaration line (depth + rise (tokens first)) rest) :
      Stands declaration line depth (first :: rest)

/-- A declaration stands on a line of a text, outside all braces and comments. -/
def Loose (declaration : Declaration) (line text : List Char) : Prop :=
  Stands declaration line 0 (Comment.codeLines text)

/-- A declaration has its line for itself, with a space behind its first word. -/
structure Tidy (declaration : Declaration) (line : List Char) : Prop where
  alone : tokens line = declaration.spelling
  spaced : startsWith line "uniform ".toList = true

/-- Lines that are dropped for their first word hold no declaration and balance their braces. -/
def Sole (code : List (List Char)) : Prop :=
  ∀ line ∈ code, (isVersion line || isPrecision line) = true →
    rise (tokens line) = 0 ∧
      ∀ (declaration : Declaration) (left right : List Token),
        tokens line ≠ left ++ (declaration.spelling ++ right)

variable {declaration : Declaration} {line : List Char} {depth : Int}

/-! ## Where declarations stand -/

theorem stands_append_iff {first second : List (List Char)} :
    Stands declaration line depth (first ++ second) ↔ Stands declaration line depth first ∨
      Stands declaration line (depth + rise (first.flatMap tokens)) second := by
  induction first generalizing depth with
  | nil =>
      have same : depth + rise ([].flatMap tokens) = depth := Int.add_zero depth
      rw [List.nil_append, same]
      constructor
      · exact Or.inr
      · rintro (none' | stands)
        · cases none'
        · exact stands
  | cons code rest ih =>
      rw [List.flatMap_cons, rise_append, ← Int.add_assoc]
      constructor
      · intro stands
        cases stands with
        | here spelled top => exact Or.inl (.here spelled top)
        | later below =>
            rcases ih.mp below with early | late
            · exact Or.inl (.later early)
            · exact Or.inr late
      · rintro (early | late)
        · cases early with
          | here spelled top => exact .here spelled top
          | later below => exact .later (ih.mpr (Or.inl below))
        · exact .later (ih.mpr (Or.inr late))

theorem stands_of_alone {rest : List (List Char)} (alone : tokens line = declaration.spelling) :
    Stands declaration line 0 (line :: rest) := by
  have spelled : tokens line = [] ++ (declaration.spelling ++ []) := by
    rw [alone, List.append_nil, List.nil_append]
  exact .here spelled rfl

theorem Stands.mem {code : List (List Char)} (stands : Stands declaration line depth code) :
    line ∈ code ∧ .word "uniform".toList ∈ tokens line ∧ .mark ';' ∈ tokens line := by
  induction stands with
  | here spelled top =>
      rw [spelled, Declaration.spelling]
      simp
  | later below ih => exact ⟨List.mem_cons_of_mem _ ih.1, ih.2⟩

theorem not_stands {code : List (List Char)}
    (free : ∀ line ∈ code, .word "uniform".toList ∉ tokens line ∨ .mark ';' ∉ tokens line) :
    ¬ Stands declaration line depth code := by
  intro stands
  obtain ⟨member, word, mark⟩ := stands.mem
  rcases free line member with absent | absent
  · exact absent word
  · exact absent mark

theorem Tidy.top {left right : List Token} (tidy : Tidy declaration line)
    (spelled : tokens line = left ++ (declaration.spelling ++ right))
    (top : depth + rise left = 0) : depth = 0 := by
  rw [tidy.alone] at spelled
  obtain ⟨rfl, rfl⟩ := declaration.alone_of_spelling_eq declaration spelled
  have none' : rise [] = 0 := rfl
  omega

/-- A tidy line holds no other declaration. -/
theorem Tidy.of_stands {other : Declaration} {place : List Char} {rest : List (List Char)}
    (tidy : Tidy declaration line) (stands : Stands other place depth (line :: rest)) :
    Tidy other place ∨ Stands other place depth rest := by
  cases stands with
  | here spelled top =>
      have inside := tidy.alone.symm.trans spelled
      obtain ⟨rfl, rfl⟩ := declaration.alone_of_spelling_eq other inside
      left
      constructor
      · simpa using spelled
      · exact tidy.spaced
  | later below =>
      rw [tidy.alone, Declaration.rise_spelling, Int.add_zero] at below
      exact Or.inr below

/-! ## What is left of the code of a line -/

/-- What is left of a line's code, where `depth` braces are open before it. -/
inductive Outcome (depth : Int) (code : List Char) : List Char → Prop where
  | dropped {after : List Char} (spoken : (isVersion code || isPrecision code) = true)
      (bare : tokens after = []) : Outcome depth code after
  | gathered {after : List Char} {declaration : Declaration} (tidy : Tidy declaration code)
      (bare : tokens after = []) : Outcome depth code after
  | kept {after : List Char} {front : List Token}
      (untidy : depth = 0 → ∀ declaration, ¬ Tidy declaration code)
      (free : .word "uniform".toList ∉ front) (flat : rise front = 0)
      (spelled : tokens after = front ++ tokens code) : Outcome depth code after

/-- What is left of the code of some lines, one after the other. -/
inductive Outcomes : Int → List (List Char) → List (List Char) → Prop where
  | nil {depth : Int} : Outcomes depth [] []
  | cons {depth : Int} {code after : List Char} {rest others : List (List Char)}
      (first : Outcome depth code after)
      (below : Outcomes (depth + rise (tokens code)) rest others) :
      Outcomes depth (code :: rest) (after :: others)

theorem Sole.tail {code : List Char} {rest : List (List Char)} (sole : Sole (code :: rest)) :
    Sole rest :=
  fun line member => sole line (List.mem_cons_of_mem code member)

theorem Outcome.rise_eq {code after : List Char} {rest : List (List Char)}
    (outcome : Outcome depth code after) (sole : Sole (code :: rest)) :
    rise (tokens after) = rise (tokens code) := by
  cases outcome with
  | dropped spoken bare =>
      rw [bare, (sole code List.mem_cons_self spoken).1]
      rfl
  | gathered tidy bare =>
      rw [bare, tidy.alone, Declaration.rise_spelling]
      rfl
  | kept untidy free flat spelled =>
      rw [spelled, rise_append, flat, Int.zero_add]

/-- What stands in front without the word `uniform` is no part of a declaration. -/
theorem behind_front {front code left right : List Token} (free : .word "uniform".toList ∉ front)
    (spelled : front ++ code = left ++ (declaration.spelling ++ right)) :
    ∃ between, left = front ++ between ∧ code = between ++ (declaration.spelling ++ right) := by
  rcases List.append_eq_append_iff.mp spelled with
    ⟨between, inside, behind⟩ | ⟨more, beyond, behind⟩
  · exact ⟨between, inside, behind⟩
  · cases more with
    | nil =>
        refine ⟨[], ?_, ?_⟩
        · rw [beyond, List.append_nil, List.append_nil]
        · exact behind.symm
    | cons token more =>
        have word : token = .word "uniform".toList := (List.cons.inj behind).1.symm
        apply absurd _ free
        rw [beyond, word]
        simp

variable {code after : List (List Char)}

/-- A declaration that is left was there before, and it was not tidy. -/
theorem Outcomes.before (outcomes : Outcomes depth code after) (sole : Sole code)
    (stands : Stands declaration line depth after) :
    ∃ place, Stands declaration place depth code ∧ ¬ Tidy declaration place := by
  induction outcomes with
  | nil => cases stands
  | cons first below ih =>
      cases stands with
      | here spelled top =>
          cases first with
          | dropped spoken bare =>
              rw [bare, Declaration.spelling] at spelled
              simp at spelled
          | gathered tidy bare =>
              rw [bare, Declaration.spelling] at spelled
              simp at spelled
          | kept untidy free flat equal =>
              -- what stands in front declares nothing, so the line itself held the declaration
              rw [equal] at spelled
              obtain ⟨between, rfl, inside⟩ := behind_front free spelled
              rw [rise_append, flat, Int.zero_add] at top
              refine ⟨_, .here inside top, ?_⟩
              intro tidy
              exact untidy (tidy.top inside top) declaration tidy
      | later stands =>
          have same := first.rise_eq sole
          rw [same] at stands
          obtain ⟨place, there, untidy⟩ := ih sole.tail stands
          exact ⟨place, .later there, untidy⟩

/-- A declaration that is not tidy is left. -/
theorem Outcomes.remains (outcomes : Outcomes depth code after) (sole : Sole code)
    (stands : Stands declaration line depth code) (untidy : ¬ Tidy declaration line) :
    ∃ place, Stands declaration place depth after := by
  induction outcomes with
  | nil => cases stands
  | cons first below ih =>
      cases stands with
      | here spelled top =>
          cases first with
          | dropped spoken bare =>
              exact absurd spelled ((sole line List.mem_cons_self spoken).2 declaration _ _)
          | gathered tidy bare =>
              rcases tidy.of_stands (.here spelled top : Stands declaration line _ [line])
                with own | none'
              · exact absurd own untidy
              · cases none'
          | kept _ free flat equal =>
              rw [spelled, ← List.append_assoc] at equal
              refine ⟨_, .here equal ?_⟩
              rw [rise_append, flat, Int.zero_add]
              exact top
      | later stands =>
          have same := first.rise_eq sole
          obtain ⟨place, there⟩ := ih sole.tail stands
          rw [← same] at there
          exact ⟨place, .later there⟩

/-! ## The lines of a scan -/

namespace Scan

variable {scan : Scan} {text : List Char}

theorem blank_outcome (scan : Scan) (text : List Char) :
    (Comment.strip scan.isOpen (scan.edgesOf text)).isOpen =
        (Comment.strip scan.isOpen text).isOpen ∧
      tokens (trim (Comment.strip scan.isOpen (scan.edgesOf text)).code) = [] := by
  obtain ⟨code, blanks, stripped⟩ :=
    Comment.strip_edges scan.isOpen (Comment.strip scan.isOpen text).isOpen
  rw [edgesOf, stripped, tokens_trim]
  exact ⟨rfl, tokens_eq_nil_iff.mpr blanks⟩

/-- In code the place of an output is code, and the blanks that it takes the place of are. -/
theorem strip_led (text : List Char) :
    ∃ gap, Blanks gap ∧
      Comment.strip false text = ⟨gap ++ (Comment.strip false (trimStart text)).code,
        (Comment.strip false (trimStart text)).isOpen⟩ ∧
      Comment.strip false (outputPlace ++ trimStart text) =
        ⟨outputPlace ++ (Comment.strip false (trimStart text)).code,
          (Comment.strip false (trimStart text)).isOpen⟩ := by
  obtain ⟨gap, blanks, equal⟩ := exists_trimStart text
  have solid : '/' ∉ gap := fun member => absurd (blanks '/' member) (by decide)
  have stripped := Comment.strip_plain_append solid (trimStart text)
  rw [← equal] at stripped
  exact ⟨gap, blanks, stripped, Comment.strip_plain_append (by decide) _⟩

/-- In a comment the place of an output is part of the comment. -/
theorem strip_covered (text : List Char) :
    Comment.strip true (outputPlace ++ trimStart text) = Comment.strip true text := by
  obtain ⟨gap, blanks, equal⟩ := exists_trimStart text
  have solid : '*' ∉ gap := fun member => absurd (blanks '*' member) (by decide)
  have stripped := Comment.strip_swallowed solid (trimStart text)
  rw [← equal] at stripped
  rw [Comment.strip_swallowed (by decide), stripped]

/-- The place of an output has tokens of its own. -/
theorem tokens_outputPlace (text : List Char) :
    tokens (outputPlace ++ text) = [.word "layout".toList, .mark '(', .word "location".toList,
      .mark '=', .word "0".toList, .mark ')'] ++ tokens text := by
  have spaced : outputPlace = "layout(location = 0)".toList ++ [' '] := by decide
  have ends : startsWord (' ' :: text) = false := rfl
  have read : tokens "layout(location = 0)".toList = [.word "layout".toList, .mark '(',
      .word "location".toList, .mark '=', .word "0".toList, .mark ')'] := by
    simp [tokens, startsWord, isNameChar, isBlank]
  rw [spaced, List.append_assoc, List.singleton_append, tokens_append _ ends, tokens_blank rfl,
    read]

/-- The place of an output stands in the code or in a comment, and its line stays otherwise. -/
theorem led_outcome (isOpen : Bool) (text : List Char) :
    (Comment.strip isOpen (outputPlace ++ trimStart text)).isOpen =
        (Comment.strip isOpen text).isOpen ∧
      ∃ front, .word "uniform".toList ∉ front ∧ rise front = 0 ∧
        tokens (trim (Comment.strip isOpen (outputPlace ++ trimStart text)).code) =
          front ++ tokens (trim (Comment.strip isOpen text).code) := by
  cases isOpen with
  | false =>
      obtain ⟨gap, blanks, before, behind⟩ := strip_led text
      rw [before, behind, tokens_trim, tokens_trim, tokens_blanks blanks, tokens_outputPlace]
      refine ⟨rfl, _, ?_, ?_, rfl⟩
      · decide
      · rfl
  | true =>
      rw [strip_covered]
      exact ⟨rfl, [], List.not_mem_nil, rfl, rfl⟩

/-- A line at the top level is read as a declaration exactly if it is a tidy one. -/
theorem uniforms?_of_tidy (tidy : Tidy declaration (scan.codeOf text)) :
    uniforms? (scan.codeOf text) = some (declaration.type, declaration.names) :=
  (Declaration.uniforms?_eq_some_iff (trim_trim _)).mpr
    ⟨tidy.spaced, declaration, rfl, rfl, tidy.alone⟩

theorem silent_of_tidy (tidy : Tidy declaration line) :
    (isVersion line || isPrecision line) = false := by
  obtain ⟨tail, spoken⟩ := Option.isSome_iff_exists.mp tidy.spaced
  rw [after?_eq_some_iff.mp spoken]
  rfl

theorem outcome_line {rewrite : Rewrite} {after : Scan} (read : scan.line text = (rewrite, after)) :
    (Comment.strip scan.isOpen (rewrite.apply text)).isOpen =
        (Comment.strip scan.isOpen text).isOpen ∧
      Outcome scan.depth (scan.codeOf text)
        (trim (Comment.strip scan.isOpen (rewrite.apply text)).code) := by
  cases step_of_line read with
  | directive spoken =>
      obtain ⟨same, bare⟩ := scan.blank_outcome text
      exact ⟨same, .dropped spoken bare⟩
  | inner silent deep =>
      exact ⟨rfl, .kept (fun top => absurd top deep) List.not_mem_nil rfl rfl⟩
  | gathered silent top declared =>
      obtain ⟨same, bare⟩ := scan.blank_outcome text
      obtain ⟨spaced, declaration, _, _, alone⟩ :=
        (Declaration.uniforms?_eq_some_iff (trim_trim _)).mp declared
      exact ⟨same, .gathered ⟨alone, spaced⟩ bare⟩
  | output silent top undeclared placed =>
      obtain ⟨same, front, free, flat, spelled⟩ := led_outcome scan.isOpen text
      refine ⟨same, .kept ?_ free flat spelled⟩
      intro _ declaration tidy
      rw [uniforms?_of_tidy tidy] at undeclared
      cases undeclared
  | kept silent top undeclared unplaced =>
      refine ⟨rfl, .kept ?_ List.not_mem_nil rfl rfl⟩
      intro _ declaration tidy
      rw [uniforms?_of_tidy tidy] at undeclared
      cases undeclared

theorem outcomes_lines (scan : Scan) (texts : List (List Char)) :
    Outcomes scan.depth (Comment.codes scan.isOpen texts)
      (Comment.codes scan.isOpen (scan.lines texts).1) := by
  induction texts generalizing scan with
  | nil => exact .nil
  | cons text rest ih =>
      rcases read : scan.line text with ⟨rewrite, after⟩
      obtain ⟨isOpen, depth⟩ := carried_line read
      obtain ⟨same, outcome⟩ := outcome_line read
      have below := ih after
      rw [isOpen, depth, ← rise_tokens] at below
      rw [lines, read]
      dsimp only
      rw [Comment.codes, Comment.codes, same]
      exact .cons outcome below

/-- A tidy line at the top level is gathered: each of its names has a slot of its type. -/
theorem slot?_line {rewrite : Rewrite} {after : Scan} (read : scan.line text = (rewrite, after))
    (clean : after.fault = none) (top : scan.depth = 0)
    (tidy : Tidy declaration (scan.codeOf text)) :
    ∀ name ∈ declaration.names, ∃ offset,
      after.layout.slot? name = some ⟨offset, declaration.type⟩ := by
  have declares := uniforms?_of_tidy tidy
  cases step_of_line read with
  | directive spoken =>
      rw [silent_of_tidy tidy] at spoken
      cases spoken
  | inner silent deep => exact absurd top deep
  | gathered silent _ declared =>
      rw [declared] at declares
      cases declares
      exact slot?_addUniforms clean
  | output silent _ undeclared placed =>
      rw [undeclared] at declares
      cases declares
  | kept silent _ undeclared unplaced =>
      rw [undeclared] at declares
      cases declares

theorem slot?_lines {texts : List (List Char)} (clean : (scan.lines texts).2.fault = none)
    (stands : Stands declaration line scan.depth (Comment.codes scan.isOpen texts))
    (tidy : Tidy declaration line) :
    ∀ name ∈ declaration.names, ∃ offset,
      (scan.lines texts).2.layout.slot? name = some ⟨offset, declaration.type⟩ := by
  induction texts generalizing scan with
  | nil => cases stands
  | cons text rest ih =>
      rcases read : scan.line text with ⟨rewrite, after⟩
      obtain ⟨isOpen, depth⟩ := carried_line read
      have last : (scan.lines (text :: rest)).2 = (after.lines rest).2 := by
        rw [lines, read]
      rw [last] at clean ⊢
      cases stands with
      | here spelled top =>
          -- no later push moves a slot
          have extended := after.extends_lines rest
          intro name member
          obtain ⟨offset, found⟩ :=
            slot?_line read (extended.clean clean) (tidy.top spelled top) tidy name member
          exact ⟨offset, extended.slots name _ found⟩
      | later stands =>
          apply ih clean
          rw [isOpen, depth, ← rise_tokens]
          exact stands

end Scan

/-! ## Sources and translations -/

variable {source : List Char} {translation : Translation}

theorem not_stands_of_bare {code : List (List Char)} (bare : ∀ line ∈ code, line = []) :
    ¬ Stands declaration line depth code := by
  apply not_stands
  intro other member
  rw [bare other member]
  exact Or.inl List.not_mem_nil

theorem loose_source_iff : Loose declaration line source ↔
    Stands declaration line 0 (Comment.codes false (lines source)) := by
  obtain ⟨last, bare, equal⟩ := Comment.codeLines_eq source
  rw [Loose, equal, stands_append_iff]
  constructor
  · rintro (stands | stands)
    · exact stands
    · exact absurd stands (not_stands_of_bare bare)
  · exact Or.inl

theorem codes_of_plain {ls : List (List Char)} (plain : ∀ line ∈ ls, '/' ∉ line) :
    Comment.codes false ls = ls.map trim ∧ Comment.openAfter false ls = false := by
  induction ls with
  | nil => exact ⟨rfl, rfl⟩
  | cons line rest ih =>
      have stripped := Comment.strip_plain (plain line List.mem_cons_self)
      obtain ⟨code, closed⟩ := ih fun other member => plain other (List.mem_cons_of_mem line member)
      rw [Comment.codes, Comment.openAfter, stripped, code, closed]
      exact ⟨rfl, rfl⟩

theorem not_stands_fragmentEntry (isOpen : Bool) :
    ¬ Stands declaration line depth (Comment.codes isOpen (fragmentEntry.map String.toList)) := by
  apply not_stands
  cases isOpen <;> decide +kernel

theorem codes_fragmentPreamble {layout : Uniform.Layout} (built : layout.Built) :
    Comment.codes false ((fragmentPreamble layout).map String.toList) =
        ((fragmentPreamble layout).map String.toList).map trim ∧
      Comment.openAfter false ((fragmentPreamble layout).map String.toList) = false := by
  apply codes_of_plain
  intro line member
  obtain ⟨spelled, present, rfl⟩ := List.mem_map.mp member
  exact (made_fragmentPreamble built spelled present).not_mem rfl (by decide)

/-- The preamble declares nothing and leaves the depth as it is. -/
theorem stands_fragmentPreamble {layout : Uniform.Layout} (built : layout.Built)
    {code : List (List Char)} :
    Stands declaration line 0
        (((fragmentPreamble layout).map String.toList).map trim ++ code) ↔
      Stands declaration line 0 code := by
  have flat : rise ((((fragmentPreamble layout).map String.toList).map trim).flatMap tokens) =
      0 := by
    rw [List.flatMap_map, List.flatMap_map]
    simp only [tokens_trim]
    exact rise_fragmentPreamble built
  rw [stands_append_iff, flat]
  constructor
  · rintro (stands | stands)
    · refine absurd stands (not_stands ?_)
      intro other member
      obtain ⟨_, spelled, rfl⟩ := List.mem_map.mp member
      obtain ⟨string, present, rfl⟩ := List.mem_map.mp spelled
      rw [tokens_trim]
      exact undeclared_fragmentPreamble built string present
    · exact stands
  · exact Or.inr

/-- The code of a translated text: its preamble, the lines for the user and the entry point. -/
theorem codeLines_text (made : translateFragment source = .ok translation) :
    Comment.codeLines translation.text =
      translation.preamble.map trim ++ (Comment.codes false translation.body ++
        (Comment.codes (Comment.openAfter false translation.body)
          (fragmentEntry.map String.toList) ++ [[]])) := by
  obtain ⟨_, _, _, rfl⟩ := translateFragment_cases made
  have built : (Scan.start.lines (lines source)).2.layout.Built :=
    Scan.built_lines .empty (lines source)
  have single : ∀ line ∈ (fragmentPreamble (Scan.start.lines (lines source)).2.layout).map
      String.toList ++ (Scan.start.lines (lines source)).1 ++ fragmentEntry.map String.toList,
        '\n' ∉ line := by
    intro other member
    rcases List.mem_append.mp member with before | entry
    · rcases List.mem_append.mp before with front | body
      · exact noFeed_map (noFeed_fragmentPreamble built) other front
      · exact noFeed_rewritten (Scan.start.rewritten_lines _) other body
    · exact noFeed_map noFeed_fragmentEntry other entry
  obtain ⟨front, closed⟩ := codes_fragmentPreamble built
  rw [Comment.codeLines, Translation.text, Comment.codeLinesFrom_unlines false single,
    Comment.codes_append, Comment.codes_append, Comment.openAfter_append, closed, front,
    List.append_assoc, List.append_assoc]

/-- A translated text declares what its lines for the user declare. -/
theorem loose_text_iff (made : translateFragment source = .ok translation) :
    Loose declaration line translation.text ↔
      Stands declaration line 0 (Comment.codes false translation.body) := by
  have built : translation.layout.Built := by
    obtain ⟨_, _, _, rfl⟩ := translateFragment_cases made
    exact Scan.built_lines .empty (lines source)
  have preamble :
      translation.preamble = (fragmentPreamble translation.layout).map String.toList := by
    obtain ⟨_, _, _, rfl⟩ := translateFragment_cases made
    rfl
  have last : ∀ line ∈ [([] : List Char)], line = [] := fun other member =>
    List.mem_singleton.mp member
  rw [Loose, codeLines_text made, preamble, stands_fragmentPreamble built, stands_append_iff,
    stands_append_iff]
  constructor
  · rintro (stands | stands | stands)
    · exact stands
    · exact absurd stands (not_stands_fragmentEntry _)
    · exact absurd stands (not_stands_of_bare last)
  · exact Or.inl

/-! ## What is gathered -/

/--
Every loose uniform of a declaration is gathered, with a slot of its type and no
declaration left, exactly if each declaration of one of its names is tidy.
-/
theorem gathered_iff (made : translateFragment source = .ok translation)
    (sole : Sole (Comment.codeLines source)) (loose : Loose declaration line source) :
    (∀ name ∈ declaration.names,
      (∃ offset, translation.layout.slot? name = some ⟨offset, declaration.type⟩) ∧
        ∀ other place, Loose other place translation.text → name ∉ other.names) ↔
      ∀ other place, Loose other place source →
        (∃ name ∈ declaration.names, name ∈ other.names) → Tidy other place := by
  have outcomes := Scan.start.outcomes_lines (lines source)
  have sole' : Sole (Comment.codes false (lines source)) := by
    obtain ⟨last, _, equal⟩ := Comment.codeLines_eq source
    rw [equal] at sole
    exact fun other member => sole other (List.mem_append_left last member)
  have body : translation.body = (Scan.start.lines (lines source)).1 := by
    obtain ⟨_, _, _, rfl⟩ := translateFragment_cases made
    rfl
  constructor
  · intro gathered other place stands ⟨name, declared, shared⟩
    apply Classical.byContradiction
    intro untidy
    obtain ⟨left, there⟩ := outcomes.remains sole' (loose_source_iff.mp stands) untidy
    apply (gathered name declared).2 other left _ shared
    rw [loose_text_iff made, body]
    exact there
  · intro tidy name declared
    constructor
    · obtain ⟨_, _, clean, _⟩ := translateFragment_cases made
      have own := tidy declaration line loose ⟨name, declared, declared⟩
      have slots := Scan.slot?_lines clean (loose_source_iff.mp loose) own name declared
      obtain ⟨_, _, _, rfl⟩ := translateFragment_cases made
      exact slots
    · intro other place stands shared
      rw [loose_text_iff made, body] at stands
      obtain ⟨before, there, untidy⟩ := outcomes.before sole' stands
      exact untidy (tidy other before (loose_source_iff.mpr there) ⟨name, declared, shared⟩)

/-- A stage with comments around two declarations. -/
def commentedStage : List Char :=
  "#version 300 es\nuniform float speed; // how fast\n/* tint */ uniform highp vec3 a , b;\n".toList

/-- The line of two vectors in it. -/
def vectorLine : List Char := "uniform highp vec3 a , b;".toList

def speedDeclaration : Declaration :=
  ⟨none, .float, ["speed"], by simp, by simp, by decide⟩

def vectorDeclaration : Declaration :=
  ⟨some "highp".toList, .vec3, ["a", "b"], by simp [precisions], by simp, by decide⟩

theorem commentedStage_read :
    Comment.codeLines commentedStage =
        ["#version 300 es".toList, "uniform float speed;".toList, vectorLine, []] ∧
      tokens "#version 300 es".toList =
        [.mark '#', .word "version".toList, .word "300".toList, .word "es".toList] := by
  decide +kernel

theorem tidy_lines :
    Tidy speedDeclaration "uniform float speed;".toList ∧ Tidy vectorDeclaration vectorLine := by
  constructor
  · constructor
    · simp [tokens, startsWord, isNameChar, isBlank, speedDeclaration, Declaration.spelling,
        Declaration.content, Declaration.listed, Uniform.DataType.word]
    · simp [startsWith, after?]
  · constructor
    · unfold vectorLine
      simp [tokens, startsWord, isNameChar, isBlank, vectorDeclaration, Declaration.spelling,
        Declaration.content, Declaration.listed, Uniform.DataType.word]
    · unfold vectorLine
      simp [startsWith, after?]

theorem not_declaration_of_version {left right : List Token} :
    tokens "#version 300 es".toList ≠ left ++ (declaration.spelling ++ right) := by
  intro equal
  have word : Token.word "uniform".toList ∈ left ++ (declaration.spelling ++ right) := by
    simp [Declaration.spelling]
  rw [← equal, commentedStage_read.2] at word
  exact absurd word (by decide)

theorem sole_commentedStage : Sole (Comment.codeLines commentedStage) := by
  rw [commentedStage_read.1]
  intro line member spoken
  simp only [List.mem_cons, List.not_mem_nil, or_false] at member
  rcases member with rfl | rfl | rfl | rfl
  · constructor
    · rw [commentedStage_read.2]
      rfl
    · intro declaration left right
      exact not_declaration_of_version
  · rw [Scan.silent_of_tidy tidy_lines.1] at spoken
    cases spoken
  · rw [Scan.silent_of_tidy tidy_lines.2] at spoken
    cases spoken
  · cases spoken

theorem tidy_commentedStage (stands : Loose declaration line commentedStage) :
    Tidy declaration line := by
  rw [Loose, commentedStage_read.1] at stands
  cases stands with
  | here spelled top => exact absurd spelled not_declaration_of_version
  | later stands =>
      rcases tidy_lines.1.of_stands stands with own | stands
      · exact own
      · rcases tidy_lines.2.of_stands stands with own | stands
        · exact own
        · exact absurd stands (not_stands_of_bare (by simp))

theorem gathered_vectors :
    ∃ translation, translateFragment commentedStage = .ok translation ∧
      Sole (Comment.codeLines commentedStage) ∧
      Loose vectorDeclaration vectorLine commentedStage ∧
      ∀ name ∈ ["a", "b"],
        (∃ offset, translation.layout.slot? name = some ⟨offset, .vec3⟩) ∧
          ∀ other place, Loose other place translation.text → name ∉ other.names := by
  have isOk : (translateFragment commentedStage).isOk = true := by decide +kernel
  have loose : Loose vectorDeclaration vectorLine commentedStage := by
    rw [Loose, commentedStage_read.1]
    refine .later (.later ?_)
    rw [commentedStage_read.2, tidy_lines.1.alone, Declaration.rise_spelling]
    exact stands_of_alone tidy_lines.2.alone
  cases made : translateFragment commentedStage with
  | error fault =>
      rw [made] at isOk
      cases isOk
  | ok translation =>
      refine ⟨translation, rfl, sole_commentedStage, loose, ?_⟩
      exact (gathered_iff made sole_commentedStage loose).mpr fun _ _ stands _ =>
        tidy_commentedStage stands

/-- A stage with a tab behind the word `uniform`. -/
def tabbedStage : List Char := "uniform\tfloat a;\n".toList

def floatDeclaration : Declaration := ⟨none, .float, ["a"], by simp, by simp, by decide⟩

/-- A declaration with a tab behind its first word is left and gets no slot. -/
theorem tab_not_gathered :
    ∃ translation, translateFragment tabbedStage = .ok translation ∧
      Loose floatDeclaration tabbedStage.dropLast tabbedStage ∧
      translation.layout.slot? "a" = none ∧
      Loose floatDeclaration tabbedStage.dropLast translation.text := by
  have spelled : tokens tabbedStage.dropLast = floatDeclaration.spelling := by decide +kernel
  have read : (translateFragment tabbedStage).toOption.map
      (fun translation => (translation.layout.slot? "a", translation.body)) =
        some (none, [tabbedStage.dropLast]) := by
    decide +kernel
  have code : Comment.codeLines tabbedStage = [tabbedStage.dropLast, []] := by decide +kernel
  have kept : Comment.codes false [tabbedStage.dropLast] = [tabbedStage.dropLast] := by
    decide +kernel
  cases made : translateFragment tabbedStage with
  | error fault =>
      rw [made] at read
      cases read
  | ok translation =>
      rw [made] at read
      obtain ⟨unslotted, body⟩ := Prod.mk.inj (Option.some.inj read)
      refine ⟨translation, rfl, ?_, unslotted, ?_⟩
      · rw [Loose, code]
        exact stands_of_alone spelled
      · rw [loose_text_iff made, body, kept]
        exact stands_of_alone spelled

end LiveShader.Source
