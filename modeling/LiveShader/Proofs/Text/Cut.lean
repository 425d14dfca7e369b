import LiveShader.Text.Cut

/-!
# Beginnings and ends of texts

Taking off a leading text succeeds exactly when the text begins with it, and a text
ends with another one exactly when that is left after some stem.  A part of a text is what
stands between the places where it begins and ends, counted in bytes.
-/

namespace LiveShader.Text

theorem after?_eq_some_iff {lead text rest : List Char} :
    after? lead text = some rest ↔ text = lead ++ rest := by
  induction lead generalizing text with
  | nil => simp [after?, eq_comm]
  | cons l lead ih =>
      cases text with
      | nil => simp [after?]
      | cons c text =>
          by_cases same : l = c
          · simp [after?, same, ih]
          · simp [after?, same, Ne.symm same]

/-- What follows a text does not hide what the text begins with. -/
theorem after?_append_of_apart {lead text tail : List Char}
    (apart : ∀ c ∈ tail.head?, c ∉ lead) :
    after? lead (text ++ tail) = (after? lead text).map (· ++ tail) := by
  induction lead generalizing text with
  | nil => rfl
  | cons l lead ih =>
      cases text with
      | nil =>
          cases tail with
          | nil => rfl
          | cons c tail =>
              have differ : l ≠ c := by
                rintro rfl
                exact apart l rfl List.mem_cons_self
              simp [after?, differ]
      | cons c text =>
          by_cases same : l = c
          · simp only [List.cons_append, after?, if_pos same]
            exact ih fun other member inside => apart other member (List.mem_cons_of_mem l inside)
          · simp [after?, same]

theorem endsWith_iff {text tail : List Char} :
    endsWith text tail = true ↔ ∃ stem, text = stem ++ tail := by
  rw [endsWith, startsWith]
  rw [Option.isSome_iff_exists]
  constructor
  · rintro ⟨rest, found⟩
    refine ⟨rest.reverse, ?_⟩
    rw [← List.reverse_inj, after?_eq_some_iff.mp found]
    simp
  · rintro ⟨stem, rfl⟩
    exact ⟨stem.reverse, after?_eq_some_iff.mpr (by simp)⟩

theorem cutOn?_eq_some_iff {isSeparator : Char → Bool} {text before rest : List Char} :
    cutOn? isSeparator text = some (before, rest) ↔
      ∃ c, text = before ++ c :: rest ∧ isSeparator c = true ∧
        ∀ d ∈ before, isSeparator d = false := by
  induction text generalizing before with
  | nil => simp [cutOn?]
  | cons c text ih =>
      rw [cutOn?]
      by_cases separator : isSeparator c = true
      · rw [if_pos separator]
        constructor
        · rintro ⟨⟩
          exact ⟨c, rfl, separator, fun _ member => nomatch member⟩
        · rintro ⟨d, equal, _, solid⟩
          cases before with
          | nil =>
              cases equal
              rfl
          | cons b before =>
              cases equal
              rw [solid c List.mem_cons_self] at separator
              cases separator
      · rw [if_neg separator, Option.map_eq_some_iff]
        constructor
        · rintro ⟨⟨front, back⟩, cut, ⟨⟩⟩
          obtain ⟨d, rfl, separates, solid⟩ := ih.mp cut
          refine ⟨d, rfl, separates, ?_⟩
          intro e member
          rcases List.mem_cons.mp member with rfl | later
          · exact Bool.eq_false_iff.mpr separator
          · exact solid e later
        · rintro ⟨d, equal, separates, solid⟩
          cases before with
          | nil =>
              cases equal
              exact absurd separates separator
          | cons b before =>
              cases equal
              refine ⟨(before, rest), ih.mpr ⟨d, rfl, separates, ?_⟩, rfl⟩
              exact fun e member => solid e (List.mem_cons_of_mem c member)

/-! ## Places in bytes -/

/-- A text is cut behind any number of its characters. -/
theorem cutBytes?_append (front back : List Char) :
    cutBytes? (byteCount front) (front ++ back) = some (front, back) := by
  induction front with
  | nil =>
      change cutBytes? 0 back = some ([], back)
      cases back <;> rfl
  | cons c front ih =>
      obtain ⟨less, some⟩ := Nat.exists_eq_succ_of_ne_zero
        (Nat.ne_of_gt (Nat.lt_of_lt_of_le c.utf8Size_pos (Nat.le_add_right _ (byteCount front))))
      have rest : less + 1 - c.utf8Size = byteCount front := by omega
      rw [byteCount, some, Nat.succ_eq_add_one, List.cons_append, cutBytes?, if_pos (by omega),
        rest, ih]
      rfl

/-- A part of a text is found at the places where it begins and ends. -/
theorem slice?_append (front part back : List Char) :
    slice? (front ++ part ++ back) (byteCount front) (byteCount front + byteCount part) =
      some part := by
  have beyond : byteCount front + byteCount part - byteCount front = byteCount part :=
    Nat.add_sub_cancel_left _ _
  rw [slice?, List.append_assoc, cutBytes?_append, beyond]
  simp only [Option.bind_eq_bind, Option.bind_some, cutBytes?_append]

end LiveShader.Text
