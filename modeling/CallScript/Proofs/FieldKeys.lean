import CallScript.Eval.Environment
import CallScript.Proofs.Spelling

/-!
# The keys of field paths

A path is a row of parts with points between them, and a part is a name with any number of indices
in brackets behind it. Its keys are read off the parts: each name that is not empty, and behind it
the indices. So an index may as well be written as a part of its own, and the path finds the same
among the variables.
-/

namespace CallScript.FieldPath

open CallScript.Text

/-! ## Parts -/

/-- What may stand before the indices of a part. It may be empty. -/
structure PartName where
  chars : List Char
  noPoint : '.' ∉ chars
  noBracket : '[' ∉ chars

/-- What may stand in the brackets of an index. A closing bracket at its end could not be told from
the one that closes the index. -/
structure PartIndex extends PartName where
  noClosing : chars.getLast? ≠ some ']'

/-- A name and the indices behind it. -/
structure Part where
  name : PartName
  indices : List PartIndex

/-- An index as it is written. -/
def PartIndex.text (index : PartIndex) : List Char :=
  '[' :: (index.chars ++ [']'])

namespace Part

/-- A part as it is written. -/
def text (part : Part) : List Char :=
  part.name.chars ++ part.indices.flatMap PartIndex.text

/-- The name of a part, if it has one, and its indices. -/
def keys (part : Part) : List (List Char) :=
  (if part.name.chars.isEmpty then [] else [part.name.chars]) ++ part.indices.map (·.chars)

end Part

/-- A row of parts as it is written. -/
def written (parts : List Part) : List Char :=
  joinWith '.' (parts.map Part.text)

/-! ## Reading parts -/

/-- The bracket that closes an index is cut off, and nothing else. -/
theorem trimClosing_append_closing {chars : List Char} (h : chars.getLast? ≠ some ']') :
    trimClosing (chars ++ [']']) = chars := by
  have hkeep : chars.reverse.dropWhile (· == ']') = chars.reverse := by
    rw [← List.head?_reverse] at h
    cases hreverse : chars.reverse with
    | nil => rfl
    | cons c rest =>
      rw [hreverse, List.head?_cons] at h
      have hc : ¬ (c == ']') = true := fun heq => h (congrArg some (beq_iff_eq.mp heq))
      exact List.dropWhile_cons_of_neg (p := (· == ']')) hc
  simp only [trimClosing, List.reverse_append, List.reverse_singleton, List.singleton_append]
  rw [List.dropWhile_cons_of_pos (by decide), hkeep, List.reverse_reverse]

/-- Dividing at the opening brackets leaves to each index the bracket that closes it. -/
theorem splitAtEvery_indices {piece : List Char} (hpiece : '[' ∉ piece) (indices : List PartIndex) :
    splitAtEvery '[' (piece ++ indices.flatMap PartIndex.text) =
      piece :: indices.map fun index => index.chars ++ [']'] := by
  induction indices generalizing piece with
  | nil => rw [List.flatMap_nil, List.append_nil, splitAtEvery_of_notMem hpiece, List.map_nil]
  | cons index indices ih =>
    have hindex : '[' ∉ index.chars ++ [']'] := by simp [index.noBracket]
    rw [List.flatMap_cons, PartIndex.text, List.cons_append, splitAtEvery_append_cons hpiece,
      ih hindex, List.map_cons]

/-- The keys of a written part are its name, if it has one, and its indices. -/
theorem segmentKeys_text (part : Part) : segmentKeys part.text = part.keys := by
  have htrim : ∀ index : PartIndex, trimClosing (index.chars ++ [']']) = index.chars :=
    fun index => trimClosing_append_closing index.noClosing
  rw [segmentKeys, Part.text, splitAtEvery_indices part.name.noBracket]
  simp only [List.map_map, Function.comp_def, htrim]
  rfl

/-- No point stands in a written part. -/
theorem Part.point_notMem_text (part : Part) : '.' ∉ part.text := by
  intro hmem
  rcases List.mem_append.mp hmem with hname | hindices
  · exact part.name.noPoint hname
  · obtain ⟨index, -, hindex⟩ := List.mem_flatMap.mp hindices
    have hpoint := index.noPoint
    simp [PartIndex.text, hpoint] at hindex

/-- The keys of a written path are those of its parts in order. -/
theorem keys_parse_written (parts : List Part) :
    (parse (written parts)).keys = (parts.flatMap Part.keys).map String.ofList := by
  cases parts with
  | nil => rfl
  | cons part parts =>
    have hpoints : ∀ piece ∈ (part :: parts).map Part.text, '.' ∉ piece := by
      intro piece hpiece
      obtain ⟨part, -, rfl⟩ := List.mem_map.mp hpiece
      exact part.point_notMem_text
    have hsplit := splitAtEvery_joinWith (by simp) hpoints
    rw [keys, parse, written, hsplit]
    simp only [List.flatMap_map, String.toList_ofList, segmentKeys_text]

/-- An index that is not empty has the same key behind a point as in brackets. -/
theorem Part.keys_index_as_name (name : PartName) (indices more : List PartIndex)
    {index : PartIndex} (h : index.chars ≠ []) :
    Part.keys ⟨name, indices ++ index :: more⟩ =
      Part.keys ⟨name, indices⟩ ++ Part.keys ⟨index.toPartName, more⟩ := by
  simp [keys, h]

/-- What a path finds among the variables depends on its keys alone. -/
theorem inVariables?_congr {F : Type} (env : Environment F) {path other : FieldPath}
    (h : path.keys = other.keys) : env.inVariables? path = env.inVariables? other := by
  rw [Environment.inVariables?, Environment.inVariables?, h]

/-- Paths are split without loss, and the spellings of an index agree. Parsing and writing undo each
other, in one order for every text and in the other for every row of segments without points. The
keys of a path are, part by part, the name if it is not empty and then the indices. So where an
index that is not empty is written behind a point, with the indices that follow it, the keys stay
the same, and with them what the path finds among the variables of any environment. -/
theorem paths_split_without_loss :
    (∀ text : List Char, (parse text).text = text) ∧
    (∀ segments : List String, segments ≠ [] → (∀ segment ∈ segments, '.' ∉ segment.toList) →
      (parse (text ⟨segments⟩)).segments = segments) ∧
    (∀ parts : List Part,
      (parse (written parts)).keys = (parts.flatMap Part.keys).map String.ofList) ∧
    ∀ (before after : List Part) (name : PartName) (indices more : List PartIndex)
      (index : PartIndex), index.chars ≠ [] →
      let bracketed := parse (written (before ++ ⟨name, indices ++ index :: more⟩ :: after))
      let dotted := parse (written (before ++ ⟨name, indices⟩ :: ⟨index.toPartName, more⟩ :: after))
      bracketed.keys = dotted.keys ∧
        ∀ (F : Type) (env : Environment F),
          env.inVariables? bracketed = env.inVariables? dotted := by
  refine ⟨text_parse, ?_, keys_parse_written, ?_⟩
  · intro segments hne hpoints
    rw [parse_text hne hpoints]
  · intro before after name indices more index hindex bracketed dotted
    have hkeys : bracketed.keys = dotted.keys := by
      rw [keys_parse_written, keys_parse_written]
      simp only [List.flatMap_append, List.flatMap_cons,
        Part.keys_index_as_name name indices more hindex, List.append_assoc]
    exact ⟨hkeys, fun F env => inVariables?_congr env hkeys⟩

/-- The name `rows`. -/
def rowsName : PartName :=
  ⟨['r', 'o', 'w', 's'], by decide, by decide⟩

/-- The index `10`. -/
def indexTen : PartIndex :=
  { chars := ['1', '0'], noPoint := by decide, noBracket := by decide, noClosing := by decide }

/-- An index without characters. -/
def indexEmpty : PartIndex :=
  { chars := [], noPoint := by decide, noBracket := by decide, noClosing := by decide }

/-- An empty name comes first and an empty index follows the one that is moved behind a point: the
keys of `.rows[10][].rows` and of `.rows.10[].rows` are the same. An empty segment at the end is not
lost either. -/
theorem paths_split_without_loss_around_empty :
    indexTen.chars ≠ [] ∧
      (parse ['.', 'r', 'o', 'w', 's', '[', '1', '0', ']', '[', ']', '.', 'r', 'o', 'w', 's']).keys =
        (parse ['.', 'r', 'o', 'w', 's', '.', '1', '0', '[', ']', '.', 'r', 'o', 'w', 's']).keys ∧
      (∀ segment ∈ ["rows", ""], '.' ∉ segment.toList) ∧
      (parse (text ⟨["rows", ""]⟩)).segments = ["rows", ""] :=
  have hten : indexTen.chars ≠ [] := by decide
  have hpoints : ∀ segment ∈ ["rows", ""], '.' ∉ segment.toList := by decide
  ⟨hten,
    (paths_split_without_loss.2.2.2 [⟨⟨[], by decide, by decide⟩, []⟩] [⟨rowsName, []⟩] rowsName []
      [indexEmpty] indexTen hten).1,
    hpoints, paths_split_without_loss.2.1 ["rows", ""] (by decide) hpoints⟩

end CallScript.FieldPath
