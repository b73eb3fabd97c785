import CallScript.Proofs.StoredVariables

/-!
# Reading back what was set

The function `set` stores a value as the variable that has the whole written name, while `get`
divides the name into keys and enters the variable of the first one. The two mean the same variable
exactly if the name is plain, that is, one part without an index. What is stored under any other
name is out of reach of fields: the first key of a path is never its whole text then.
-/

namespace CallScript

/-! ## Names that are their own key -/

/-- A piece is the only one, or shorter than all of them with the divider between them. -/
theorem Text.eq_singleton_or_length_lt (sep : Char) {pieces : List (List Char)} {piece : List Char}
    (h : piece ∈ pieces) : pieces = [piece] ∨ piece.length < (joinWith sep pieces).length := by
  induction pieces with
  | nil => cases h
  | cons first rest ih =>
    cases rest with
    | nil => exact .inl (by rw [List.mem_singleton.mp h])
    | cons next rest =>
      have hlength : (joinWith sep (first :: next :: rest)).length =
          first.length + (joinWith sep (next :: rest)).length + 1 := by
        rw [joinWith, List.length_append, List.length_cons]
        · omega
        · simp
      right
      rw [hlength]
      rcases List.mem_cons.mp h with rfl | hrest
      · omega
      · rcases ih hrest with hsingle | hlt
        · rw [hsingle, joinWith]
          omega
        · omega

/-- A divided text has more than one piece. -/
theorem Text.splitAtEvery_ne_singleton {sep : Char} {text : List Char} (h : sep ∈ text)
    (piece : List Char) : splitAtEvery sep text ≠ [piece] := by
  intro hsingle
  obtain ⟨before, after, rfl, hbefore⟩ := List.eq_append_cons_of_mem h
  rw [splitAtEvery_append_cons hbefore] at hsingle
  exact splitAtEvery_ne_nil sep after (List.cons.inj hsingle).2

namespace FieldPath

/-- A path of one part, which is a name without an index. -/
def IsPlain (path : FieldPath) : Prop :=
  ∃ segment : String, path.segments = [segment] ∧ segment.toList ≠ [] ∧ '[' ∉ segment.toList

/-- An index is not longer without its closing brackets. -/
theorem length_trimClosing_le (index : List Char) : (trimClosing index).length ≤ index.length := by
  have hle := (List.dropWhile_sublist (· == ']') (l := index.reverse)).length_le
  rw [List.length_reverse] at hle
  rwa [trimClosing, List.length_reverse]

/-- A key of a part is the whole part if that is a name, and shorter in all other cases. -/
theorem eq_or_length_lt_of_mem_segmentKeys {segment key : List Char} (h : key ∈ segmentKeys segment) :
    key = segment ∧ segment ≠ [] ∧ '[' ∉ segment ∨ key.length < segment.length := by
  have hpieces : ∀ piece ∈ Text.splitAtEvery '[' segment,
      Text.splitAtEvery '[' segment = [piece] ∨ piece.length < segment.length := by
    intro piece hpiece
    have hlt := Text.eq_singleton_or_length_lt '[' hpiece
    rwa [Text.joinWith_splitAtEvery] at hlt
  have hjoin := Text.joinWith_splitAtEvery '[' segment
  unfold segmentKeys at h
  cases hsplit : Text.splitAtEvery '[' segment with
  | nil => exact absurd hsplit (Text.splitAtEvery_ne_nil _ _)
  | cons name indices =>
    rw [hsplit] at h hpieces hjoin
    rcases List.mem_append.mp h with hname | hindex
    · by_cases hempty : name.isEmpty
      · rw [if_pos hempty] at hname
        cases hname
      · rw [if_neg hempty] at hname
        obtain rfl := List.mem_singleton.mp hname
        rcases hpieces key List.mem_cons_self with hsingle | hlt
        · obtain rfl : key = segment := by rwa [hsingle] at hjoin
          refine .inl ⟨rfl, by simpa using hempty, fun hbracket => ?_⟩
          exact Text.splitAtEvery_ne_singleton hbracket key (hsplit.trans hsingle)
        · exact .inr hlt
    · obtain ⟨index, hmem, rfl⟩ := List.mem_map.mp hindex
      right
      have hle := length_trimClosing_le index
      rcases hpieces index (List.mem_cons_of_mem name hmem) with hsingle | hlt
      · -- an index is never the only piece, since the name comes before it
        rw [(List.cons.inj hsingle).2] at hmem
        cases hmem
      · omega

/-- The one key of a plain path is its text. -/
theorem IsPlain.keys_eq {path : FieldPath} (h : path.IsPlain) :
    path.keys = [String.ofList path.text] := by
  obtain ⟨segment, hsegments, hne, hbracket⟩ := h
  have hkeys : segmentKeys segment.toList = [segment.toList] := by
    rw [segmentKeys, Text.splitAtEvery_of_notMem hbracket]
    simp [hne]
  rw [keys, text, hsegments]
  simp [hkeys, Text.joinWith]

/-- A path with its whole text among its keys is plain. -/
theorem isPlain_of_mem_keys {path : FieldPath} (h : String.ofList path.text ∈ path.keys) :
    path.IsPlain := by
  obtain ⟨key, hkey, htext⟩ := List.mem_map.mp h
  obtain ⟨segment, hsegment, hkey⟩ := List.mem_flatMap.mp hkey
  obtain rfl : key = path.text := String.ofList_injective htext
  have hpart := Text.eq_singleton_or_length_lt '.' (List.mem_map_of_mem (f := String.toList) hsegment)
  change _ ∨ _ < path.text.length at hpart
  rcases eq_or_length_lt_of_mem_segmentKeys hkey with ⟨heq, hne, hbracket⟩ | hlt
  · rcases hpart with hsingle | hlt
    · obtain ⟨other, hother, hlist⟩ := List.map_eq_singleton_iff.mp hsingle
      rw [hother, List.mem_singleton] at hsegment
      exact ⟨segment, by rw [hother, hsegment], hne, hbracket⟩
    · rw [heq] at hlt
      omega
  · rcases hpart with hsingle | hlt'
    · have htext : path.text = segment.toList := by
        rw [text, hsingle]
        rfl
      rw [htext] at hlt
      omega
    · omega

end FieldPath

/-! ## The variable of a name and the field of a name -/

namespace Environment

variable {F : Type}

/-- A plain name finds the variable that is stored under it. -/
theorem lookup?_setVar_of_isPlain (env : Environment F) {path : FieldPath} (h : path.IsPlain)
    (value : Value) : (env.setVar (String.ofList path.text) value).lookup? path = some value := by
  have hvariables :
      (env.setVar (String.ofList path.text) value).inVariables? path = some value := by
    rw [inVariables?, h.keys_eq]
    dsimp only
    rw [var?_setVar, if_pos rfl]
    rfl
  rw [lookup?, hvariables]
  rfl

/-- Any other name finds what it has found before. -/
theorem lookup?_setVar_of_not_isPlain (env : Environment F) {path : FieldPath} (h : ¬ path.IsPlain)
    (value : Value) :
    (env.setVar (String.ofList path.text) value).lookup? path = env.lookup? path := by
  refine (env.agreesBut_setVar _ value).lookup_eq fun name hname hsame => h ?_
  apply FieldPath.isPlain_of_mem_keys
  rw [hsame]
  exact List.mem_of_mem_head? hname

/-- The host has the standard function under its name. -/
def Provides (apply : F → List Value → Session F → Value × Session F) (env : Environment F)
    (function : StandardFunction) : Prop :=
  ∃ own, env.function? function.name = some own ∧ apply own = function.apply

/-- A standard function that the host has is what a call of its name applies. -/
theorem Provides.call_eq {apply : F → List Value → Session F → Value × Session F} {s : Session F}
    {function : StandardFunction} (h : s.env.Provides apply function) (arguments : List Value) :
    Session.call apply function.name arguments s =
      function.apply arguments (s.record (.calling function.name arguments.length)) := by
  obtain ⟨own, hfunction, happly⟩ := h
  rw [Session.call_of_some hfunction, happly]

end Environment

namespace StandardFunction

variable {F : Type} {apply : F → List Value → Session F → Value × Session F} {s : Session F}
  {name : Value} {path : FieldPath}

/-- What `get` returns for a name is what the field finds. -/
theorem call_get_fst (hget : s.env.Provides apply .get) (hname : target? name = some path) :
    (Session.call apply "get" [name] s).1 = (s.env.lookup? path).getD .nil := by
  have hcall : Session.call apply "get" [name] s = applyGet [name] (s.record (.calling "get" 1)) :=
    hget.call_eq [name]
  rw [hcall]
  simp only [applyGet, hname]
  exact Session.resolveField_fst _ path

/-- What `set` leaves for a name and a value: what it returns is the variable of the whole name. -/
theorem env_call_set (hset : s.env.Provides apply .set) (hname : target? name = some path)
    (value : Value) :
    (Session.call apply "set" [name, value] s).2.env =
      s.env.setVar (String.ofList path.text) (Session.call apply "set" [name, value] s).1 := by
  have hcall : Session.call apply "set" [name, value] s =
      applySet [name, value] (s.record (.calling "set" 2)) := hset.call_eq [name, value]
  rw [hcall]
  exact env_applySet hname (s.record (.calling "set" 2))

/-- What is set under a plain name is read back: a `get` of that name right behind the `set` returns
what the `set` has returned. Under any other name nothing is read back: the `get` returns what it
would have returned before. -/
theorem get_after_set (s : Session F) (hset : s.env.Provides apply .set)
    (hget : s.env.Provides apply .get) (hname : target? name = some path) (value : Value) :
    let stored := Session.call apply "set" [name, value] s
    (path.IsPlain → (Session.call apply "get" [name] stored.2).1 = stored.1) ∧
    (¬ path.IsPlain → (Session.call apply "get" [name] stored.2).1 =
      (Session.call apply "get" [name] s).1) := by
  intro stored
  have henv : stored.2.env = s.env.setVar (String.ofList path.text) stored.1 :=
    env_call_set hset hname value
  have hget' : stored.2.env.Provides apply .get := by
    rw [henv]
    exact hget
  rw [call_get_fst hget' hname, call_get_fst hget hname, henv]
  constructor
  · intro hplain
    rw [s.env.lookup?_setVar_of_isPlain hplain]
    rfl
  · intro hplain
    rw [s.env.lookup?_setVar_of_not_isPlain hplain]

/-- A variable is set to the value of a field and read back. -/
theorem get_after_set_total :
    let s : Session StandardFunction := { env := environment.setVar "price" (.int 5) }
    let stored := callStandard "set" [.string "total", .fieldName ⟨["price"]⟩] s
    stored.1 = .int 5 ∧ (callStandard "get" [.string "total"] stored.2).1 = stored.1 := by
  intro s stored
  have hplain : (FieldPath.parse "total".toList).IsPlain := ⟨"total", rfl, by decide, by decide⟩
  have hset : s.env.Provides apply .set := ⟨.set, rfl, rfl⟩
  have hget : s.env.Provides apply .get := ⟨.get, rfl, rfl⟩
  have hname : target? (.string "total") = some (.parse "total".toList) := rfl
  exact ⟨rfl, (get_after_set s hset hget hname (.fieldName ⟨["price"]⟩)).1 hplain⟩

/-- What is set under a dotted name is not read back under it. -/
theorem get_after_set_dotted :
    let s : Session StandardFunction := { env := environment }
    let stored := callStandard "set" [.string "a.b", .int 1] s
    stored.1 = .int 1 ∧ (callStandard "get" [.string "a.b"] stored.2).1 = .nil :=
  ⟨rfl, rfl⟩

end StandardFunction

end CallScript
