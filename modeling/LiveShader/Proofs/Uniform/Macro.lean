import LiveShader.Proofs.Source.Token

/-!
# Object-like macros

A line `#define NAME TEXT` lets a name stand for the tokens of a text.  When a name is
expanded, the tokens that take its place are expanded in turn, but a macro is not
expanded inside itself: there its name is a token like any other.
-/

namespace LiveShader.Uniform.Macro

open LiveShader.Source LiveShader.Text

/-! ## Definitions -/

/-- The names that stand for something else, with the tokens that take their place. -/
abbrev Table := List (List Char × List Token)

/--
The macro that a line defines, if it is an object-like one: a name directly before an
opening parenthesis has parameters.
-/
def define? (line : List Char) : Option (List Char × List Token) := do
  let rest ← after? "#define".toList (trimStart line)
  let text := trimStart rest
  let name := text.takeWhile isNameChar
  let body := text.dropWhile isNameChar
  if rest.length = text.length ∨ name.isEmpty ∨ body.head? = some '(' then none
  else some (name, tokens body)

theorem define?_spelled {name body : List Char} (full : name ≠ [])
    (named : ∀ c ∈ name, isNameChar c = true) :
    define? ("#define ".toList ++ (name ++ ' ' :: body)) = some (name, tokens body) := by
  have space : isBlank ' ' = true := by decide
  have directive : after? "#define".toList
      (trimStart ("#define ".toList ++ (name ++ ' ' :: body))) =
        some (' ' :: (name ++ ' ' :: body)) := rfl
  have trimmed : trimStart (' ' :: (name ++ ' ' :: body)) = name ++ ' ' :: body := by
    cases name with
    | nil => exact absurd rfl full
    | cons c name =>
        have solid := isBlank_of_isNameChar (named c List.mem_cons_self)
        simp [trimStart, space, solid]
  have taken : (name ++ ' ' :: body).takeWhile isNameChar = name := by
    rw [List.takeWhile_append_of_pos named, List.takeWhile_cons_of_neg (by decide),
      List.append_nil]
  have dropped : (name ++ ' ' :: body).dropWhile isNameChar = ' ' :: body := by
    rw [List.dropWhile_append_of_pos named, List.dropWhile_cons_of_neg (by decide)]
  simp only [define?, directive, Option.bind_eq_bind, Option.bind_some, trimmed, taken, dropped]
  rw [if_neg (by simp [full]), tokens_blank (by decide)]

namespace Table

/-- What stands for a token. -/
def body? (table : Table) : Token → Option (List Token)
  | .word letters => (table.find? fun macro' => macro'.1 == letters).map Prod.snd
  | .mark _ => none

/-- The table where a token stands for itself. -/
def without (table : Table) (token : Token) : Table :=
  table.filter fun macro' => .word macro'.1 ≠ token

theorem body?_eq_none_iff {table : Table} {token : Token} :
    table.body? token = none ↔ ∀ macro' ∈ table, .word macro'.1 ≠ token := by
  cases token with
  | mark c => simp [body?]
  | word letters => simp [body?]

theorem length_without {table : Table} {token : Token} {body : List Token}
    (defined : table.body? token = some body) : (table.without token).length < table.length := by
  cases token with
  | mark c => cases defined
  | word letters =>
      obtain ⟨macro', found, _⟩ := Option.map_eq_some_iff.mp defined
      rw [without, List.length_filter_lt_length_iff_exists]
      refine ⟨macro', List.mem_of_find?_eq_some found, ?_⟩
      have same := List.find?_some found
      simpa using same

end Table

/-- A token, fully expanded. -/
def expand (table : Table) (token : Token) : List Token :=
  match _defined : table.body? token with
  | none => [token]
  | some body => body.flatMap (expand (table.without token))
termination_by table.length
decreasing_by exact Table.length_without _defined

theorem expand_undefined {table : Table} {token : Token} (undefined' : table.body? token = none) :
    expand table token = [token] := by
  rw [expand]
  split
  · rfl
  · rename_i defined
    rw [undefined'] at defined
    cases defined

theorem expand_defined {table : Table} {token : Token} {body : List Token}
    (defined : table.body? token = some body) :
    expand table token = body.flatMap (expand (table.without token)) := by
  rw [expand]
  split
  · rename_i undefined'
    rw [undefined'] at defined
    cases defined
  · rename_i found
    rw [found] at defined
    cases defined
    rfl

/-! ## What expansion can leave alone -/

/-- A table in which every macro stands for several tokens. -/
def Table.Long (table : Table) : Prop := ∀ macro' ∈ table, 2 ≤ macro'.2.length

theorem Table.Long.without {table : Table} (long : table.Long) (token : Token) :
    (table.without token).Long :=
  fun macro' member => long macro' (List.mem_filter.mp member).1

theorem Table.Long.body {table : Table} (long : table.Long) {token : Token} {body : List Token}
    (defined : table.body? token = some body) : 2 ≤ body.length := by
  cases token with
  | mark c => cases defined
  | word letters =>
      obtain ⟨macro', found, rfl⟩ := Option.map_eq_some_iff.mp defined
      exact long macro' (List.mem_of_find?_eq_some found)

theorem length_le_flatMap {table : Table} (full : ∀ token, 1 ≤ (expand table token).length)
    (body : List Token) : body.length ≤ (body.flatMap (expand table)).length := by
  induction body with
  | nil => exact Nat.le_refl 0
  | cons token rest ih =>
      have first := full token
      rw [List.flatMap_cons, List.length_append, List.length_cons]
      omega

theorem one_le_length_expand {table : Table} (long : table.Long) (token : Token) :
    1 ≤ (expand table token).length := by
  cases defined : table.body? token with
  | none => exact Nat.le_of_eq (congrArg List.length (expand_undefined defined)).symm
  | some body =>
      have smaller := Table.length_without defined
      have rest := length_le_flatMap (one_le_length_expand (long.without token)) body
      have several := long.body defined
      rw [expand_defined defined]
      omega
termination_by table.length

theorem two_le_length_expand {table : Table} (long : table.Long) {token : Token}
    {body : List Token} (defined : table.body? token = some body) :
    2 ≤ (expand table token).length := by
  have rest := length_le_flatMap (one_le_length_expand (long.without token)) body
  have several := long.body defined
  rw [expand_defined defined]
  omega

/-- Expansion keeps a list of tokens exactly if it defines none of them. -/
theorem flatMap_expand_eq_self_iff {table : Table} (long : table.Long) (body : List Token) :
    body.flatMap (expand table) = body ↔ ∀ token ∈ body, table.body? token = none := by
  induction body with
  | nil => simp
  | cons token rest ih =>
      rw [List.flatMap_cons, List.forall_mem_cons]
      cases defined : table.body? token with
      | none =>
          rw [expand_undefined defined, List.singleton_append, List.cons_inj_right, ih]
          simp
      | some replaced =>
          have longer := two_le_length_expand long defined
          have others := length_le_flatMap (one_le_length_expand long) rest
          constructor
          · intro same
            have lengths := congrArg List.length same
            rw [List.length_append, List.length_cons] at lengths
            omega
          · rintro ⟨undefined', _⟩
            cases undefined'

end LiveShader.Uniform.Macro
