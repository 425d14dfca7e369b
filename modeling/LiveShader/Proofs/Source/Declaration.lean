import LiveShader.Proofs.Source.Token

/-!
# Declarations of loose uniforms

A declaration is the word `uniform`, a precision if it has one, a type and names with
commas between them, up to a semicolon.  A line is read as a declaration exactly if its
tokens are those of one and a space stands behind its first word.
-/

namespace LiveShader.Source

open LiveShader.Text

/-- A declaration of loose uniforms. -/
structure Declaration where
  precision : Option (List Char)
  type : Uniform.DataType
  names : List String
  precise : ∀ word ∈ precision, word ∈ precisions
  full : names ≠ []
  identifiers : ∀ name ∈ names, isIdentifier name.toList = true

namespace Declaration

/-- Names with commas between them. -/
def listed : List String → List Token
  | [] => []
  | [name] => [.word name.toList]
  | name :: rest => .word name.toList :: .mark ',' :: listed rest

theorem listed_cons (name second : String) (rest : List String) :
    listed (name :: second :: rest) = .word name.toList :: .mark ',' :: listed (second :: rest) :=
  rfl

theorem exists_listed_eq {names : List String} (full : names ≠ []) :
    ∃ name others, listed names = .word name :: others := by
  cases names with
  | nil => exact absurd rfl full
  | cons name rest =>
      cases rest with
      | nil => exact ⟨name.toList, [], rfl⟩
      | cons second rest => exact ⟨name.toList, _, listed_cons name second rest⟩

/-- What stands between the word `uniform` and the semicolon. -/
def content (declaration : Declaration) : List Token :=
  (declaration.precision.map Token.word).toList ++
    .word declaration.type.word.toList :: listed declaration.names

/-- The tokens of a declaration. -/
def spelling (declaration : Declaration) : List Token :=
  .word "uniform".toList :: (declaration.content ++ [.mark ';'])

/-! ## Names -/

variable {names : List String} {text : List Char}

theorem trim_of_tokens {letters : List Char} (read : tokens text = [.word letters]) :
    trim text = letters := by
  obtain ⟨gap, rest, rfl, blanks, _, named, _, bare⟩ := word_of_tokens read
  have solid : ∀ c ∈ letters, isBlank c = false :=
    fun c member => isBlank_of_isNameChar (named c member)
  rw [trim_append_left blanks, trim_append_right _ (tokens_eq_nil_iff.mp bare),
    trim_of_solid solid]

theorem tokens_of_trim {letters : List Char} (identifier : isIdentifier letters = true)
    (trimmed : trim text = letters) : tokens text = [.word letters] := by
  have read := tokens_word [] (ne_nil_of_isIdentifier identifier)
    (isNameChar_of_isIdentifier identifier) rfl
  rw [List.append_nil] at read
  rw [← tokens_trim, trimmed]
  exact read

theorem comma_tokens (front rest : List Char) :
    tokens (front ++ ',' :: rest) = tokens front ++ .mark ',' :: tokens rest := by
  rw [tokens_append front rfl, tokens_mark rfl rfl]

/-- A list is cut at its first comma. -/
theorem split_of_apart {front rest others : List Token} {letters : List Char}
    (apart : .mark ',' ∉ front)
    (equal : front ++ .mark ',' :: rest = .word letters :: .mark ',' :: others) :
    front = [.word letters] ∧ rest = others := by
  cases front with
  | nil => cases equal
  | cons token front =>
      obtain ⟨rfl, behind⟩ := List.cons.inj equal
      cases front with
      | nil => exact ⟨rfl, (List.cons.inj behind).2⟩
      | cons second front =>
          have comma : second = .mark ',' := (List.cons.inj behind).1
          simp [comma] at apart

variable {name : String} {rest : List String}

theorem listed_of_single (identifier : isIdentifier name.toList = true)
    (apart : .mark ',' ∉ tokens text) :
    tokens text = listed (name :: rest) ↔ [trim text] = (name :: rest).map String.toList := by
  cases rest with
  | nil =>
      constructor
      · intro read
        exact congrArg (fun letters => [letters]) (trim_of_tokens read)
      · intro same
        exact tokens_of_trim identifier (List.cons.inj same).1
  | cons second rest =>
      constructor
      · intro read
        have inside : Token.mark ',' ∈ tokens text := by
          rw [read, listed_cons]
          simp
        exact absurd inside apart
      · intro same
        cases (List.cons.inj same).2

theorem listed_of_comma (identifier : isIdentifier name.toList = true) {front tail : List Char}
    (apart : .mark ',' ∉ tokens front)
    (later : rest ≠ [] →
      (tokens tail = listed rest ↔ (pieces (· == ',') tail).map trim = rest.map String.toList)) :
    tokens (front ++ ',' :: tail) = listed (name :: rest) ↔
      trim front :: (pieces (· == ',') tail).map trim = (name :: rest).map String.toList := by
  rw [comma_tokens]
  cases rest with
  | nil =>
      constructor
      · intro read
        have inside : Token.mark ',' ∈ listed [name] := by
          rw [← read]
          simp
        simp [listed] at inside
      · intro same
        have none' := List.map_eq_nil_iff.mp (List.cons.inj same).2
        exact absurd none' (pieces_ne_nil _ tail)
  | cons second rest =>
      constructor
      · intro read
        obtain ⟨first, behind⟩ := split_of_apart apart read
        rw [List.map_cons, trim_of_tokens first, (later (by simp)).mp behind]
      · intro same
        obtain ⟨first, behind⟩ := List.cons.inj same
        rw [tokens_of_trim identifier first, (later (by simp)).mpr behind, listed_cons]
        rfl

/-- Names are listed by a text exactly if they are its pieces between commas. -/
theorem tokens_eq_listed_iff (full : names ≠ [])
    (identifiers : ∀ name ∈ names, isIdentifier name.toList = true) :
    tokens text = listed names ↔ (pieces (· == ',') text).map trim = names.map String.toList := by
  induction names generalizing text with
  | nil => exact absurd rfl full
  | cons name rest ih =>
      have identifier := identifiers name List.mem_cons_self
      cases cut : pieces (· == ',') text with
      | nil => exact absurd cut (pieces_ne_nil _ text)
      | cons piece others =>
          obtain ⟨solid, shape⟩ := pieces_cases cut
          have apart : .mark ',' ∉ tokens piece := by
            intro member
            have comma := solid ',' (mem_of_mark_mem_tokens member)
            cases comma
          rcases shape with ⟨rfl, rfl⟩ | ⟨c, tail, rfl, comma, below⟩
          · exact listed_of_single identifier apart
          · cases beq_iff_eq.mp comma
            rw [← below]
            apply listed_of_comma identifier apart
            intro several
            exact ih several fun other member =>
              identifiers other (List.mem_cons_of_mem name member)

/-! ## Reading a declaration -/

theorem ofWord?_eq_some_iff {word : String} {type : Uniform.DataType} :
    Uniform.DataType.ofWord? word = some type ↔ type.word = word := by
  constructor
  · intro found
    rw [Uniform.DataType.ofWord?] at found
    simpa using List.find?_some found
  · rintro rfl
    cases type <;> rfl

theorem beforeSemicolon?_eq_some_iff {inner : List Char} :
    beforeSemicolon? text = some inner ↔ text = inner ++ [';'] := by
  rw [beforeSemicolon?, ← List.reverse_inj, List.reverse_append]
  split
  · rename_i rest equal
    rw [equal, Option.some.injEq]
    constructor
    · rintro rfl
      simp
    · intro same
      have behind : rest = inner.reverse := (List.cons.inj same).2
      rw [behind, List.reverse_reverse]
  · rename_i other
    constructor
    · intro none'
      cases none'
    · intro same
      exact absurd same (other inner.reverse)

/-- A precision is taken off the front of a text if there is one. -/
theorem tokens_afterPrecision (text : List Char) :
    ∃ precision : Option (List Char), (∀ word ∈ precision, word ∈ precisions) ∧
      tokens text = (precision.map Token.word).toList ++ tokens (afterPrecision text) := by
  have named : ∀ word ∈ precisions, word ≠ [] ∧ word.all isNameChar = true := by decide
  rw [afterPrecision]
  split
  · rename_i word tail cut
    split
    · rename_i known
      have member : word ∈ precisions := List.contains_iff_mem.mp known
      obtain ⟨c, rfl, blank, _⟩ := cutOn?_eq_some_iff.mp cut
      refine ⟨some word, ?_, ?_⟩
      · rintro other ⟨⟩
        exact member
      · have ends : startsWord (c :: tail) = false := isNameChar_of_isBlank blank
        rw [tokens_word _ (named word member).1 (List.all_eq_true.mp (named word member).2) ends,
          tokens_blank blank, tokens_trimStart]
        rfl
    · exact ⟨none, by simp, rfl⟩
  · exact ⟨none, by simp, rfl⟩

variable {code : List Char} {type : Uniform.DataType}

theorem isNameChar_word (type : Uniform.DataType) :
    type.word.toList ≠ [] ∧ ∀ c ∈ type.word.toList, isNameChar c = true := by
  constructor
  · cases type <;> decide
  · apply List.all_eq_true.mp
    cases type <;> decide

theorem afterPrecision_of_tokens {precision : Option (List Char)}
    (precise : ∀ word ∈ precision, word ∈ precisions) {name : List Char} {others : List Token}
    (bare : trimStart text = text)
    (read : tokens text = (precision.map Token.word).toList ++
      .word type.word.toList :: .word name :: others) :
    trimStart (afterPrecision text) = afterPrecision text ∧
      tokens (afterPrecision text) = .word type.word.toList :: .word name :: others := by
  cases precision with
  | none =>
      obtain ⟨rest, cut, _⟩ := cutOn?_of_tokens bare read
      have unknown : precisions.contains type.word.toList = false := by
        cases type <;> decide
      rw [afterPrecision, cut]
      dsimp only
      rw [unknown]
      exact ⟨bare, read⟩
  | some word =>
      obtain ⟨rest, cut, below⟩ := cutOn?_of_tokens bare read
      have known : precisions.contains word = true :=
        List.contains_iff_mem.mpr (precise word rfl)
      rw [afterPrecision, cut]
      dsimp only
      rw [known]
      exact ⟨trimStart_trimStart rest, (tokens_trimStart rest).trans below⟩

/-- The content of a declaration is read as its type and its names. -/
theorem content_eq_iff (full : names ≠ [])
    (identifiers : ∀ name ∈ names, isIdentifier name.toList = true) (text : List Char) :
    (∃ list, cutOn? isBlank (afterPrecision (trim text)) = some (type.word.toList, list) ∧
        (pieces (· == ',') list).map trim = names.map String.toList) ↔
      ∃ declaration : Declaration, declaration.type = type ∧ declaration.names = names ∧
        tokens text = declaration.content := by
  constructor
  · rintro ⟨list, cut, named⟩
    obtain ⟨precision, precise, read⟩ := tokens_afterPrecision (trim text)
    obtain ⟨c, equal, blank, _⟩ := cutOn?_eq_some_iff.mp cut
    have ends : startsWord (c :: list) = false := isNameChar_of_isBlank blank
    refine ⟨⟨precision, type, names, precise, full, identifiers⟩, rfl, rfl, ?_⟩
    rw [← tokens_trim, read, equal,
      tokens_word _ (isNameChar_word type).1 (isNameChar_word type).2 ends, tokens_blank blank,
      (tokens_eq_listed_iff full identifiers).mpr named]
    rfl
  · rintro ⟨declaration, rfl, rfl, read⟩
    obtain ⟨name, others, shape⟩ := exists_listed_eq declaration.full
    rw [← tokens_trim, content, shape] at read
    obtain ⟨bare, behind⟩ :=
      afterPrecision_of_tokens declaration.precise (trimStart_trim text) read
    obtain ⟨list, cut, below⟩ := cutOn?_of_tokens bare behind
    refine ⟨list, cut, ?_⟩
    rw [← tokens_eq_listed_iff declaration.full declaration.identifiers, shape]
    exact below

theorem uniforms?_eq_some {names : List String} : uniforms? code = some (type, names) ↔
    ∃ inner list, code = "uniform ".toList ++ (inner ++ [';']) ∧
      cutOn? isBlank (afterPrecision (trim inner)) = some (type.word.toList, list) ∧
      (pieces (· == ',') list).map trim = names.map String.toList ∧
      ∀ name ∈ names, isIdentifier name.toList = true := by
  simp only [uniforms?, Option.bind_eq_bind, Option.bind_eq_some_iff, after?_eq_some_iff,
    beforeSemicolon?_eq_some_iff, ofWord?_eq_some_iff]
  constructor
  · rintro ⟨tail, rfl, inner, rfl, ⟨word, list⟩, cut, found, spelled, named⟩
    split at named
    · rename_i identifiers
      cases named
      rw [← String.toList_inj, String.toList_ofList] at spelled
      refine ⟨inner, list, rfl, by rw [spelled]; exact cut, ?_, ?_⟩
      · simp [Function.comp_def]
      · intro name member
        obtain ⟨letters, present, rfl⟩ := List.mem_map.mp member
        rw [String.toList_ofList]
        exact List.all_eq_true.mp identifiers letters present
    · cases named
  · rintro ⟨inner, list, rfl, cut, same, identifiers⟩
    have all : ((pieces (· == ',') list).map trim).all isIdentifier = true := by
      rw [same, List.all_eq_true]
      intro letters member
      obtain ⟨name, present, rfl⟩ := List.mem_map.mp member
      exact identifiers name present
    refine ⟨inner ++ [';'], rfl, inner, rfl, (type.word.toList, list), cut, type, ?_, ?_⟩
    · exact String.ofList_toList.symm
    · rw [if_pos all, same, List.map_map]
      simp [Function.comp_def]

theorem tokens_spoken (tail : List Char) :
    tokens ("uniform ".toList ++ tail) = .word "uniform".toList :: tokens tail := by
  have read : tokens ("uniform".toList ++ ' ' :: tail) =
      .word "uniform".toList :: tokens (' ' :: tail) :=
    tokens_word _ (by decide) (List.all_eq_true.mp (by decide)) rfl
  rw [tokens_blank rfl] at read
  exact read

theorem tokens_closed (inner : List Char) :
    tokens (inner ++ [';']) = tokens inner ++ [.mark ';'] := by
  rw [tokens_append inner rfl, tokens_mark rfl rfl]
  rfl

/-- A line is read as a declaration if it is one and a space stands behind its first word. -/
theorem uniforms?_eq_some_iff (trimmed : trim code = code) :
    uniforms? code = some (type, names) ↔ startsWith code "uniform ".toList = true ∧
      ∃ declaration : Declaration, declaration.type = type ∧ declaration.names = names ∧
        tokens code = declaration.spelling := by
  rw [uniforms?_eq_some, startsWith, Option.isSome_iff_exists]
  constructor
  · rintro ⟨inner, list, rfl, cut, named, identifiers⟩
    have full : names ≠ [] := by
      rintro rfl
      exact pieces_ne_nil _ list (List.map_eq_nil_iff.mp named)
    obtain ⟨declaration, typed, same, read⟩ :=
      (content_eq_iff full identifiers inner).mp ⟨list, cut, named⟩
    refine ⟨⟨inner ++ [';'], after?_eq_some_iff.mpr rfl⟩, declaration, typed, same, ?_⟩
    rw [tokens_spoken, tokens_closed, read]
    rfl
  · rintro ⟨⟨tail, spoken⟩, declaration, rfl, rfl, read⟩
    cases after?_eq_some_iff.mp spoken
    rw [tokens_spoken] at read
    obtain ⟨inner, back, rfl, blanks, inside⟩ := last_of_tokens (List.cons.inj read).2
    -- the line is trimmed, so its semicolon is its last character
    have ended : back = [] := by
      have shape : "uniform ".toList ++ (inner ++ ';' :: back) =
          ("uniform ".toList ++ (inner ++ [';'])) ++ back := by simp
      rw [shape, trim_append_right _ blanks] at trimmed
      have lengths := length_trim_le ("uniform ".toList ++ (inner ++ [';']))
      rw [trimmed, List.length_append] at lengths
      exact List.eq_nil_of_length_eq_zero (by omega)
    cases ended
    obtain ⟨list, cut, named⟩ :=
      (content_eq_iff declaration.full declaration.identifiers inner).mpr
        ⟨declaration, rfl, rfl, inside⟩
    exact ⟨inner, list, rfl, cut, named, declaration.identifiers⟩

/-! ## Declarations inside declarations -/

/-- No word stands behind the word `uniform`. -/
def Lone (ts : List Token) : Prop :=
  ∀ left letters others, ts ≠ left ++ .word "uniform".toList :: .word letters :: others

theorem Lone.cons {token : Token} {ts : List Token} (lone : Lone ts)
    (other : token ≠ .word "uniform".toList) : Lone (token :: ts) := by
  intro left letters others equal
  cases left with
  | nil => exact other (List.cons.inj equal).1
  | cons first left => exact lone left letters others (List.cons.inj equal).2

theorem lone_listed (names : List String) : Lone (listed names) := by
  induction names with
  | nil =>
      intro left letters others equal
      have lengths := congrArg List.length equal
      simp [listed] at lengths
  | cons name rest ih =>
      cases rest with
      | nil =>
          intro left letters others equal
          have lengths := congrArg List.length equal
          simp only [listed, List.length_append, List.length_cons, List.length_nil] at lengths
          omega
      | cons second rest =>
          intro left letters others equal
          rw [listed_cons] at equal
          cases left with
          | nil => cases (List.cons.inj (List.cons.inj equal).2).1
          | cons first left =>
              have comma : Lone (.mark ',' :: listed (second :: rest)) := ih.cons (by simp)
              exact comma left letters others (List.cons.inj equal).2

variable (declaration other : Declaration)

theorem lone_content : Lone declaration.content := by
  have typed : Token.word declaration.type.word.toList ≠ .word "uniform".toList := by
    cases declaration.type <;> decide
  have below := (lone_listed declaration.names).cons typed
  rw [content]
  cases chosen : declaration.precision with
  | none => exact below
  | some word =>
      have known := declaration.precise word chosen
      refine Lone.cons below ?_
      rintro ⟨⟩
      revert known
      decide

theorem semicolon_not_mem_content : .mark ';' ∉ declaration.content := by
  have names : ∀ names : List String, .mark ';' ∉ listed names := by
    intro names
    induction names with
    | nil => exact List.not_mem_nil
    | cons name rest ih =>
        cases rest with
        | nil => simp [listed]
        | cons second rest =>
            rw [listed_cons]
            simpa using ih
  rw [content]
  cases declaration.precision <;> simpa using names declaration.names

theorem exists_content_eq : ∃ letters others, declaration.content = .word letters :: others := by
  rw [content]
  cases declaration.precision with
  | none => exact ⟨_, _, rfl⟩
  | some word => exact ⟨_, _, rfl⟩

theorem exists_spelling_eq :
    ∃ letters others, declaration.spelling =
      .word "uniform".toList :: .word letters :: (others ++ [.mark ';']) := by
  obtain ⟨letters, others, equal⟩ := declaration.exists_content_eq
  refine ⟨letters, others, ?_⟩
  rw [spelling, equal]
  rfl

/-- A declaration that stands in another one is all of it. -/
theorem alone_of_spelling_eq {left right : List Token}
    (equal : declaration.spelling = left ++ (other.spelling ++ right)) :
    left = [] ∧ right = [] := by
  have apart : .mark ';' ∉ .word "uniform".toList :: declaration.content := by
    simpa using declaration.semicolon_not_mem_content
  -- the only semicolon of a declaration is its last token
  have behind : right = [] := by
    rcases List.eq_nil_or_concat right with rfl | ⟨front, last, rfl⟩
    · rfl
    · have shape : (.word "uniform".toList :: declaration.content) ++ [.mark ';'] =
          (left ++ (other.spelling ++ front)) ++ [last] := by
        simpa [spelling] using equal
      obtain ⟨body, _⟩ := List.append_inj' shape rfl
      apply absurd _ apart
      rw [body, spelling]
      simp
  subst behind
  obtain ⟨letters, others, second⟩ := other.exists_spelling_eq
  cases left with
  | nil => exact ⟨rfl, rfl⟩
  | cons token left =>
      rw [second, spelling] at equal
      have shape : declaration.content ++ [.mark ';'] =
          (left ++ .word "uniform".toList :: .word letters :: others) ++ [.mark ';'] := by
        simpa using (List.cons.inj equal).2
      exact absurd (List.append_cancel_right shape) (declaration.lone_content left letters others)

theorem rise_listed (names : List String) : rise (listed names) = 0 := by
  induction names with
  | nil => rfl
  | cons name rest ih =>
      cases rest with
      | nil => rfl
      | cons second rest =>
          rw [listed_cons, rise_word, rise_mark, ih]
          rfl

theorem rise_spelling : rise declaration.spelling = 0 := by
  rw [spelling, rise_word, rise_append, content, rise_append, rise_word, rise_listed]
  cases declaration.precision with
  | none => rfl
  | some word => rfl

end Declaration

end LiveShader.Source
