import LiveShader.Proofs.Source.Preamble
import LiveShader.Proofs.Source.Scan

/-!
# Where translated lines come from

A translated text consists of its preamble, one line for each line of the user, and the
entry point.  The number of lines in front depends on the uniforms that were gathered,
and none of their names can break a line, so the user's lines stand where the map of
the translation looks for them.
-/

namespace LiveShader.Source

open LiveShader.Text

/-! ## Lines that are not broken -/

theorem noFeed_fragmentPreamble {layout : Uniform.Layout} (built : layout.Built) :
    ∀ line ∈ fragmentPreamble layout, '\n' ∉ line.toList :=
  fun line member => (made_fragmentPreamble built line member).not_mem rfl (by decide)

theorem noFeed_map {ls : List String} (single : ∀ line ∈ ls, '\n' ∉ line.toList) :
    ∀ line ∈ ls.map String.toList, '\n' ∉ line := by
  intro line member
  obtain ⟨spelled, present, rfl⟩ := List.mem_map.mp member
  exact single spelled present

theorem noFeed_rewritten {source : List Char} {body : List (List Char)}
    (rewritten : List.Forall₂ Rewritten (lines source) body) : ∀ line ∈ body, '\n' ∉ line := by
  intro line member
  obtain ⟨index, inRange, rfl⟩ := List.mem_iff_getElem.mp member
  have bound : index < (lines source).length := rewritten.length_eq ▸ inRange
  exact (rewritten.get bound inRange).noFeed (noFeed_of_mem_lines (List.getElem_mem bound))

theorem noFeed_fragmentEntry : ∀ line ∈ fragmentEntry, '\n' ∉ line.toList := by
  simp [fragmentEntry, Uniform.blockName, Uniform.viewportMember]

/-! ## Lines of a translation -/

theorem length_ofLinesFrom {current : Origin} {texts : List (List Char)}
    {origins : List (Option Origin)} (counted : Origin.ofLinesFrom current texts = some origins) :
    origins.length = texts.length := by
  induction texts generalizing current origins with
  | nil =>
      cases counted
      rfl
  | cons text rest ih =>
      rw [Origin.ofLinesFrom] at counted
      split at counted
      · obtain ⟨later, countedRest, rfl⟩ := Option.map_eq_some_iff.mp counted
        exact congrArg (· + 1) (ih countedRest)
      · obtain ⟨next, _, behind⟩ := Option.bind_eq_some_iff.mp counted
        obtain ⟨later, countedRest, rfl⟩ := Option.map_eq_some_iff.mp behind
        exact congrArg (· + 1) (ih countedRest)

theorem length_ofSource {source : List Char} {origins : List (Option Origin)}
    (counted : Origin.ofSource source = some origins) : origins.length = (lines source).length :=
  length_ofLinesFrom counted

namespace Translation

/-- The text of a translation has its lines between these, and the map tells their origins. -/
structure Aligned (translation : Translation) (preamble entry : List (List Char))
    (source : List Char) (origins : List (Option Origin)) : Prop where
  text : terminatedLines translation.text =
    (preamble ++ translation.body ++ entry).map (· ++ ['\n'])
  body : List.Forall₂ Rewritten (lines source) translation.body
  user : ∀ index < (lines source).length,
    origins[index]? = some (translation.origin? (preamble.length + (index + 1)))
  generated : ∀ number, number ≤ preamble.length ∨
    preamble.length + (lines source).length < number → translation.origin? number = none

variable {translation : Translation} {source : List Char} {origins : List (Option Origin)}

theorem aligned (body : List.Forall₂ Rewritten (lines source) translation.body)
    (preamble : ∀ line ∈ translation.preamble, '\n' ∉ line)
    (entry : ∀ line ∈ translation.entry, '\n' ∉ line)
    (counted : Origin.ofSource source = some origins)
    (kept : translation.origins = origins) :
    translation.Aligned translation.preamble translation.entry source origins := by
  constructor
  · rw [text]
    apply terminatedLines_unlines
    intro line member
    rcases List.mem_append.mp member with before | behind
    · rcases List.mem_append.mp before with front | inside
      · exact preamble line front
      · exact noFeed_rewritten body line inside
    · exact entry line behind
  · exact body
  · intro index bound
    have inRange : index < origins.length := by
      rw [length_ofSource counted]
      exact bound
    have later : ¬ translation.preamble.length + (index + 1) < translation.preamble.length + 1 :=
      by omega
    have offset : translation.preamble.length + (index + 1) - (translation.preamble.length + 1) =
        index := by omega
    rw [origin?, if_neg later, offset, kept, List.getElem?_eq_getElem inRange]
    rfl
  · intro number outside
    rw [origin?]
    split
    · rfl
    · have beyond : origins.length ≤ number - (translation.preamble.length + 1) := by
        rw [length_ofSource counted]
        omega
      rw [kept, List.getElem?_eq_none beyond]
      rfl

end Translation

theorem rewritten_vertexLines (isOpen : Bool) (texts : List (List Char)) :
    List.Forall₂ Rewritten texts (vertexLines isOpen texts) := by
  induction texts generalizing isOpen with
  | nil => exact .nil
  | cons text rest ih =>
      rw [vertexLines]
      refine .cons ?_ (ih _)
      split
      · exact .blanked _ _
      · exact .kept

/-- What a translation of a fragment stage consists of. -/
theorem translateFragment_cases {source : List Char} {translation : Translation}
    (made : translateFragment source = .ok translation) :
    ∃ origins, Origin.ofSource source = some origins ∧
      (Scan.start.lines (lines source)).2.fault = none ∧
      translation = {
        preamble := (fragmentPreamble (Scan.start.lines (lines source)).2.layout).map String.toList
        body := (Scan.start.lines (lines source)).1
        entry := fragmentEntry.map String.toList
        layout := (Scan.start.lines (lines source)).2.layout
        origins := origins } := by
  rcases scanned : Scan.start.lines (lines source) with ⟨body, scan⟩
  rw [translateFragment, scanned] at made
  dsimp only at made
  split at made
  · cases made
  · rename_i clean
    split at made
    · cases made
    · rename_i origins counted
      cases made
      exact ⟨origins, counted, clean, rfl⟩

/--
The line map of a translation is exact: behind a preamble that declares the gathered
uniforms stands a line for each line of the user, whose origin is that of the user's
line, and no other line has an origin.  A vertex stage is translated whenever its lines
have origins.
-/
theorem line_map_exact (source : List Char) :
    (∀ translation, translateFragment source = .ok translation →
      ∃ origins, Origin.ofSource source = some origins ∧
        translation.Aligned ((fragmentPreamble translation.layout).map String.toList)
          (fragmentEntry.map String.toList) source origins) ∧
    ∀ origins, Origin.ofSource source = some origins →
      ∃ translation, translateVertex source = some translation ∧
        translation.Aligned
          ["#version 450".toList, "#define gl_VertexID gl_VertexIndex".toList] [] source
          origins := by
  constructor
  · intro translation made
    obtain ⟨origins, counted, _, rfl⟩ := translateFragment_cases made
    have built : (Scan.start.lines (lines source)).2.layout.Built :=
      Scan.built_lines .empty (lines source)
    exact ⟨origins, counted, Translation.aligned (Scan.start.rewritten_lines _)
      (noFeed_map (noFeed_fragmentPreamble built)) (noFeed_map noFeed_fragmentEntry) counted rfl⟩
  · intro origins counted
    refine ⟨_, congrArg (Option.map _) counted, ?_⟩
    refine Translation.aligned (rewritten_vertexLines false _) ?_ ?_ counted rfl
    · change ∀ line ∈ ["#version 450", "#define gl_VertexID gl_VertexIndex"].map String.toList,
        '\n' ∉ line
      exact noFeed_map (by decide)
    · intro line member
      cases member

/-- A stage with a blanked, a led and a kept line, a directive, and an open last line. -/
def mixedStage : List Char :=
  ("#version 300 es\r\nout vec4 c; /* a\n */ uniform float t;\n" ++
    "#line 7 2\nvoid main() \x7b\x7d").toList

/-- The origins of its lines. -/
def mixedOrigins : List (Option Origin) :=
  [some ⟨0, 1⟩, some ⟨0, 2⟩, some ⟨0, 3⟩, none, some ⟨2, 7⟩]

theorem line_map_mixedStage :
    Origin.ofSource mixedStage = some mixedOrigins ∧
    (∃ translation, translateFragment mixedStage = .ok translation ∧
      translation.Aligned ((fragmentPreamble translation.layout).map String.toList)
        (fragmentEntry.map String.toList) mixedStage mixedOrigins) ∧
    ∃ translation, translateVertex mixedStage = some translation ∧
      translation.Aligned
        ["#version 450".toList, "#define gl_VertexID gl_VertexIndex".toList] []
        mixedStage mixedOrigins := by
  have counted : Origin.ofSource mixedStage = some mixedOrigins := by decide +kernel
  have isOk : (translateFragment mixedStage).isOk = true := by decide +kernel
  refine ⟨counted, ?_, (line_map_exact mixedStage).2 mixedOrigins counted⟩
  cases made : translateFragment mixedStage with
  | error fault =>
      rw [made] at isOk
      cases isOk
  | ok translation =>
      obtain ⟨origins, same, aligned⟩ := (line_map_exact mixedStage).1 translation made
      cases counted.symm.trans same
      exact ⟨translation, rfl, aligned⟩

end LiveShader.Source
