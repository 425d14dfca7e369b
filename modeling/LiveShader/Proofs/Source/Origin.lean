import LiveShader.Fragment.Expansion
import LiveShader.Proofs.Number.Decimal
import LiveShader.Proofs.Text.Lines
import LiveShader.Source.Origin

/-!
# Reading directives

Whether a line is a directive, and which origin it gives to the next line, does not
depend on the terminator of the line.  A directive that is written for a file and a
line reads back as these.
-/

namespace LiveShader.Source.Origin

open LiveShader.Text

variable {tail : List Char}

/-! ## Terminators -/

theorem directiveWords?_append (line : List Char) (blanks : Blanks tail) :
    directiveWords? (line ++ tail) = directiveWords? line := by
  have solid : ∀ c ∈ "#line".toList, isBlank c = false := by simp [isBlank]
  simp only [directiveWords?]
  rcases trimStart_append line blanks with kept | ⟨gone, empty⟩
  · rw [kept, after?_append solid blanks]
    cases after? "#line".toList (trimStart line) with
    | none => rfl
    | some rest => exact congrArg some (words_append rest blanks)
  · rw [gone, empty]

theorem directive?_append (line : List Char) (blanks : Blanks tail) (file : UInt32) :
    directive? (line ++ tail) file = directive? line file := by
  simp only [directive?]
  rw [directiveWords?_append line blanks]

theorem directive?_dropTerminator (line : List Char) (file : UInt32) :
    directive? (dropTerminator line) file = directive? line file := by
  obtain ⟨blanks, all, equal⟩ := dropTerminator_append line
  have same := directive?_append (dropTerminator line) all file
  rw [equal] at same
  exact same.symm

/-- Being a directive does not depend on the file in force. -/
theorem directive?_eq_none_of {line : List Char} (first second : UInt32)
    (none' : directive? line first = none) :
    directive? line second = none := by
  rw [directive?] at none' ⊢
  split at none'
  · simpa using none'
  · exact none'
  · rfl

theorem ofLinesFrom_congr {lines : List (List Char)} {change : List Char → List Char}
    (same : ∀ line file, directive? (change line) file = directive? line file)
    (current : Origin) : ofLinesFrom current (lines.map change) = ofLinesFrom current lines := by
  induction lines generalizing current with
  | nil => rfl
  | cons line rest ih =>
      rw [List.map_cons, ofLinesFrom, ofLinesFrom, same]
      cases directive? line current.file with
      | none => simp only [ih]
      | some next => simp only [ih]

/-- The origins of a source can be read off its terminated lines. -/
theorem ofSource_eq (source : List Char) :
    ofSource source = ofLinesFrom start (terminatedLines source) :=
  ofLinesFrom_congr directive?_dropTerminator start

/-! ## Written directives -/

theorem isBlank_of_mem_toDigits {n : Nat} {c : Char} (member : c ∈ Nat.toDigits 10 n) :
    isBlank c = false := by
  have digit : c.isDigit = true :=
    Nat.isDigit_of_mem_toDigits (by decide) (by decide) member
  simp only [Char.isDigit, Bool.and_eq_true, decide_eq_true_eq] at digit
  rcases digit with ⟨low, high⟩
  have low' : 48 ≤ c.toNat := UInt32.le_iff_toNat_le.mp low
  have high' : c.toNat ≤ 57 := UInt32.le_iff_toNat_le.mp high
  simp only [isBlank, Bool.or_eq_false_iff, Bool.and_eq_false_iff, decide_eq_false_iff_not,
    beq_eq_false_iff_ne]
  omega

theorem lineDirective_eq (number file : Nat) :
    Fragment.lineDirective number file =
      "#line".toList ++ ' ' :: (Nat.toDigits 10 number ++
        ' ' :: (Nat.toDigits 10 file ++ ['\n'])) := by
  simp [Fragment.lineDirective, String.toList_append, Nat.toString_eq_repr, Nat.toList_repr]

theorem directiveWords?_lineDirective (number file : Nat) :
    directiveWords? (Fragment.lineDirective number file) =
      some [Nat.toDigits 10 number, Nat.toDigits 10 file] := by
  have space : isBlank ' ' = true := by decide
  have feed : isBlank '\n' = true := by decide
  have read : ∀ rest : List Char,
      after? "#line".toList (trimStart ("#line".toList ++ rest)) = some rest := by
    intro rest
    rfl
  rw [directiveWords?]
  rw [lineDirective_eq, read, Option.map_some, words_cons_of_blank space,
    words_append_cons (fun _ => isBlank_of_mem_toDigits) Nat.toDigits_ne_nil space,
    words_append_cons (fun _ => isBlank_of_mem_toDigits) Nat.toDigits_ne_nil feed]
  rfl

/-- A written directive gives the next line the origin that it was written for. -/
theorem directive?_lineDirective {number file : Nat} (number_lt : number < 4294967296)
    (file_lt : file < 4294967296) (current : UInt32) :
    directive? (Fragment.lineDirective number file) current =
      some ⟨file.toUInt32, number.toUInt32⟩ := by
  rw [directive?]
  rw [directiveWords?_lineDirective]
  simp [number?, Number.readUInt32?_toDigits number_lt, Number.readUInt32?_toDigits file_lt]

/-! ## Directives with numbers below a limit -/

/-- Whether a word is a number below a limit. -/
def isNumber (limit : Nat) (word : List Char) : Bool := (Number.readNat? word).any (· < limit)

/--
Whether a line is a directive whose numbers are below a limit.  With the limit of 32-bit
numbers these are the directives that give an origin.
-/
def isDirective (limit : Nat) (line : List Char) : Bool :=
  match directiveWords? line with
  | some [first] => isNumber limit first
  | some (first :: second :: _) => isNumber limit first && isNumber limit second
  | _ => false

theorem isNumber_eq (word : List Char) : isNumber 4294967296 word = (number? word).isSome := by
  rw [isNumber, number?, Number.readUInt32?_eq, Option.isSome_map]
  cases Number.readNat? word with
  | none => rfl
  | some value => by_cases small : value < 4294967296 <;> simp [small]

/-- The directives with 32-bit numbers are those that give an origin. -/
theorem isDirective_eq (line : List Char) (file : UInt32) :
    isDirective 4294967296 line = (directive? line file).isSome := by
  rw [isDirective, directive?]
  rcases directiveWords? line with _ | _ | ⟨first, _ | ⟨second, rest⟩⟩
  · rfl
  · rfl
  · dsimp only
    rw [isNumber_eq, Option.isSome_map]
  · dsimp only
    rw [isNumber_eq, isNumber_eq]
    cases number? first <;> cases number? second <;> rfl

theorem isDirective_append (limit : Nat) (line : List Char) (blanks : Blanks tail) :
    isDirective limit (line ++ tail) = isDirective limit line := by
  simp only [isDirective]
  rw [directiveWords?_append line blanks]

/-- A directive that is written for numbers below the limit is one. -/
theorem isDirective_lineDirective {limit number file : Nat} (number_lt : number < limit)
    (file_lt : file < limit) : isDirective limit (Fragment.lineDirective number file) = true := by
  rw [isDirective]
  rw [directiveWords?_lineDirective]
  simp [isNumber, Number.readNat?_toDigits, number_lt, file_lt]

/-! ## Counting -/

/-- The count goes on up to the last 32-bit number. -/
theorem next?_eq_some_iff {origin later : Origin} :
    origin.next? = some later ↔
      origin.line.toNat + 1 < 4294967296 ∧ later = ⟨origin.file, origin.line + 1⟩ := by
  rw [next?, Number.succ?]
  split
  · rename_i fits
    simp [fits, eq_comm]
  · rename_i last
    simp [last]

/-! ## Lines with their origins -/

/-- The lines that are no directives, with their origins, if they can be counted. -/
def attributedFrom (current : Origin) : List (List Char) → Option (List (List Char × Origin))
  | [] => some []
  | line :: rest =>
      match directive? line current.file with
      | some next => attributedFrom next rest
      | none =>
          current.next?.bind fun next => (attributedFrom next rest).map ((line, current) :: ·)

theorem attributedFrom_eq (current : Origin) (lines : List (List Char)) :
    attributedFrom current lines =
      (ofLinesFrom current lines).map fun origins =>
        (lines.zip origins).filterMap fun (line, origin) => origin.map (line, ·) := by
  induction lines generalizing current with
  | nil => rfl
  | cons line rest ih =>
      rw [attributedFrom, ofLinesFrom]
      cases directive? line current.file with
      | some next =>
          simp only [ih, Option.map_map]
          rfl
      | none =>
          cases current.next? with
          | none => rfl
          | some next =>
              simp only [ih, Option.bind_some, Option.map_map]
              rfl

/-- Lines that can be counted, in front of others. -/
theorem attributedFrom_append {current : Origin} {lines : List (List Char)}
    {front : List (List Char × Origin)} (counted : attributedFrom current lines = some front) :
    ∃ last, ∀ rest, attributedFrom current (lines ++ rest) =
      (attributedFrom last rest).map (front ++ ·) := by
  induction lines generalizing current front with
  | nil =>
      cases counted
      exact ⟨current, fun rest => Option.map_id'.symm⟩
  | cons line lines ih =>
      rw [attributedFrom] at counted
      cases found : directive? line current.file with
      | some next =>
          rw [found] at counted
          obtain ⟨last, follows⟩ := ih counted
          refine ⟨last, fun rest => ?_⟩
          rw [List.cons_append, attributedFrom, found]
          exact follows rest
      | none =>
          rw [found] at counted
          obtain ⟨next, goesOn, behind⟩ := Option.bind_eq_some_iff.mp counted
          obtain ⟨later, countedRest, rfl⟩ := Option.map_eq_some_iff.mp behind
          obtain ⟨last, follows⟩ := ih countedRest
          refine ⟨last, fun rest => ?_⟩
          rw [List.cons_append, attributedFrom, found]
          simp only [goesOn, Option.bind_some, follows, Option.map_map]
          rfl

theorem attributedFrom_lineDirective {number file : Nat} (number_lt : number < 4294967296)
    (file_lt : file < 4294967296) (current : Origin) (rest : List (List Char)) :
    attributedFrom current (Fragment.lineDirective number file :: rest) =
      attributedFrom ⟨file.toUInt32, number.toUInt32⟩ rest := by
  rw [attributedFrom, directive?_lineDirective number_lt file_lt]

theorem attributedFrom_of_plain {line : List Char} (plain : directive? line 0 = none)
    {current next : Origin} (goesOn : current.next? = some next) (rest : List (List Char)) :
    attributedFrom current (line :: rest) =
      (attributedFrom next rest).map ((line, current) :: ·) := by
  rw [attributedFrom, directive?_eq_none_of 0 current.file plain]
  simp only [goesOn, Option.bind_some]

end LiveShader.Source.Origin
