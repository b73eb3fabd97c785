import CallScript.Value.Lookup
import CallScript.Proofs.JsonBraces
import CallScript.Proofs.JsonNormalForm

/-!
# Looking into undecoded documents

Keys enter an undecoded document as if it had been decoded before. Two values that differ only in
which of their documents are decoded, at whatever depth, therefore have the same keys, and what a
row of keys finds in them differs in nothing else either.
-/

namespace CallScript.Value

/-! ## Decoding parts of a value -/

mutual

/-- The second value is the first one with some of its documents decoded. -/
inductive Expands : Value → Value → Prop where
  | refl (v : Value) : Expands v v
  | document {raw : List UInt8} {w : Value} (decoded : decode raw = .ok w) : Expands (.json raw) w
  | list {items items' : List Value} (parts : ExpandItems items items') :
      Expands (.list items) (.list items')
  | map {entries entries' : List (String × Value)} (parts : ExpandEntries entries entries') :
      Expands (.map entries) (.map entries')

/-- Item by item, the second list is the first one with some documents decoded. -/
inductive ExpandItems : List Value → List Value → Prop where
  | nil : ExpandItems [] []
  | cons {v v' : Value} {items items' : List Value} (first : Expands v v')
      (rest : ExpandItems items items') : ExpandItems (v :: items) (v' :: items')

/-- Key by key, the second map is the first one with some documents decoded. -/
inductive ExpandEntries : List (String × Value) → List (String × Value) → Prop where
  | nil : ExpandEntries [] []
  | cons (key : String) {v v' : Value} {entries entries' : List (String × Value)}
      (first : Expands v v') (rest : ExpandEntries entries entries') :
      ExpandEntries ((key, v) :: entries) ((key, v') :: entries')

end

/-- What is found twice, or not at all, differs in decoded documents at most. -/
theorem rel_expands_self (found : Option Value) : Option.Rel Expands found found := by
  cases found with
  | none => exact .none
  | some v => exact .some (.refl v)

/-- The items at one index. -/
theorem ExpandItems.getElem? {items items' : List Value} (h : ExpandItems items items') (i : Nat) :
    Option.Rel Expands items[i]? items'[i]? := by
  induction items generalizing items' i with
  | nil =>
    cases h
    exact .none
  | cons v items ih =>
    cases h with
    | cons first rest =>
      cases i with
      | zero => exact .some first
      | succ i =>
        rw [List.getElem?_cons_succ, List.getElem?_cons_succ]
        exact ih rest i

/-- The values of one key. -/
theorem ExpandEntries.get? {entries entries' : List (String × Value)}
    (h : ExpandEntries entries entries') (key : String) :
    Option.Rel Expands (Dict.get? entries key) (Dict.get? entries' key) := by
  induction entries generalizing entries' with
  | nil =>
    cases h
    exact .none
  | cons e entries ih =>
    cases h with
    | cons k first rest =>
      simp only [Dict.get?]
      split
      · exact .some first
      · exact ih rest

/-! ## One key -/

/-- A decoded value is no document that is still to be decoded. -/
theorem IsDecoded.opened?_eq {v : Value} (h : v.IsDecoded) : v.opened? = some v := by
  cases h <;> rfl

theorem isDecoded_of_decode {raw : List UInt8} {v : Value} (h : decode raw = .ok v) :
    v.IsDecoded := by
  obtain ⟨doc, -, rfl⟩ := Json.exists_of_map_eq_ok h
  exact isDecoded_ofJson doc

/-- Opening a value once is enough. -/
theorem opened?_of_opened? {v w : Value} (h : v.opened? = some w) : w.opened? = some w := by
  cases v with
  | json raw =>
    cases hdecode : decode raw with
    | error fault =>
      rw [opened?, hdecode] at h
      cases h
    | ok value =>
      rw [opened?, hdecode] at h
      cases h
      exact (isDecoded_of_decode hdecode).opened?_eq
  | _ =>
    cases h
    rfl

/-- A key finds in an opened value what it finds in the value. -/
theorem opened?_bind_child? (v : Value) (key : String) :
    (v.opened?.bind fun w => w.child? key) = v.child? key := by
  cases hopened : v.opened? with
  | none => rw [child?, hopened, Option.bind_none, Option.bind_none]
  | some w => rw [child?, hopened, Option.bind_some, child?, opened?_of_opened? hopened]

/-- A key finds the same in a document and in what it decodes to. -/
theorem child?_json {raw : List UInt8} {w : Value} (h : decode raw = .ok w) (key : String) :
    (Value.json raw).child? key = w.child? key := by
  have hopened : (Value.json raw).opened? = some w := by
    rw [opened?, h]
    rfl
  rw [child?, hopened, child?, (isDecoded_of_decode h).opened?_eq]

/-- What one key finds differs in decoded documents at most. -/
theorem Expands.child? {v w : Value} (h : Expands v w) (key : String) :
    Option.Rel Expands (v.child? key) (w.child? key) := by
  cases h with
  | refl => exact rel_expands_self _
  | document decoded =>
    rw [child?_json decoded]
    exact rel_expands_self _
  | @list items items' parts =>
    change Option.Rel Expands ((index? key).bind fun i => items[i]?)
      ((index? key).bind fun i => items'[i]?)
    cases index? key with
    | none => exact .none
    | some i => exact parts.getElem? i
  | map parts => exact parts.get? key

/-! ## Rows of keys -/

/-- A row of keys begins with what its first key finds, whether the value is decoded before the key
or by it. -/
theorem walk?_cons (v : Value) (key : String) (keys : List String) :
    v.walk? (key :: keys) = (v.child? key).bind (·.walk? keys) := by
  rw [walk?, ← Option.bind_assoc, opened?_bind_child?]

/-- What a row of keys finds differs in decoded documents at most. -/
theorem Expands.walk? {v w : Value} (h : Expands v w) (keys : List String) :
    Option.Rel Expands (v.walk? keys) (w.walk? keys) := by
  induction keys generalizing v w with
  | nil => exact .some h
  | cons key keys ih =>
    have hchild := h.child? key
    rw [walk?_cons, walk?_cons]
    generalize v.child? key = found at *
    generalize w.child? key = found' at *
    cases hchild with
    | none => exact .none
    | some hfound => exact ih hfound

/-- A row of keys is walked key by key. -/
theorem walk?_eq_foldlM (v : Value) (keys : List String) : v.walk? keys = keys.foldlM child? v := by
  induction keys generalizing v with
  | nil => rfl
  | cons key keys ih =>
    rw [walk?_cons, List.foldlM_cons]
    exact Option.bind_congr fun w _ => ih w

/-- Nothing is found in a document that cannot be decoded. -/
theorem walk?_json_of_error {raw : List UInt8} {fault : Json.Fault} (h : decode raw = .error fault)
    (key : String) (keys : List String) : (Value.json raw).walk? (key :: keys) = none := by
  have hopened : (Value.json raw).opened? = none := by
    rw [opened?, h]
    rfl
  rw [walk?, hopened, Option.bind_none]

/-- Whether documents have been decoded does not matter for keys. In two values of which the second
has some documents of the first decoded, every row of keys finds nothing at all or two such values;
a document that cannot be decoded holds nothing; and a row is walked key by key, in parts as well as
at once, with a document on the way decoded before its key or by it. -/
theorem documents_transparent_to_keys :
    (∀ v w : Value, Expands v w → ∀ keys : List String,
      Option.Rel Expands (v.walk? keys) (w.walk? keys)) ∧
    (∀ (raw : List UInt8) (fault : Json.Fault), decode raw = .error fault →
      ∀ keys : List String, keys ≠ [] → (Value.json raw).walk? keys = none) ∧
    (∀ (v : Value) (keys : List String), v.walk? keys = keys.foldlM child? v) ∧
    (∀ (v : Value) (key : String) (keys : List String), v.walk? (key :: keys) =
      v.opened?.bind fun w => (w.child? key).bind fun found => found.walk? keys) ∧
    ∀ (v : Value) (keys more : List String),
      v.walk? (keys ++ more) = (v.walk? keys).bind fun found => found.walk? more := by
  refine ⟨fun v w h keys => h.walk? keys, ?_, walk?_eq_foldlM, ?_, walk?_append⟩
  · intro raw fault h keys hkeys
    obtain ⟨key, keys, rfl⟩ := List.exists_cons_of_ne_nil hkeys
    exact walk?_json_of_error h key keys
  · intro v key keys
    rw [walk?]

/-- Keys enter an undecoded document in a map as its decoded form, and find nothing in a broken one
beside it. -/
theorem documents_transparent_to_keys_in_map :
    let bad := Text.Utf8.encode ['\x7b', 'o', 'o', 'p', 's']
    let raw := Text.Utf8.encode
      ['\x7b', '"', 'a', '"', ':', '[', '\x7b', '"', 'b', '"', ':', '3', '\x7d', ']', '\x7d']
    let v := Value.map [("bad", .json bad), ("doc", .json raw)]
    let w := Value.map
      [("bad", .json bad), ("doc", .map [("a", .list [.map [("b", .int 3)]])])]
    Expands v w ∧ v.walk? ["doc", "a", "0", "b"] = some (.int 3) ∧
    Option.Rel Expands (v.walk? ["doc"]) (w.walk? ["doc"]) ∧
    (Value.json bad).walk? ["doc"] = none := by
  intro bad raw v w
  have hdecoded : decode raw = .ok (.map [("a", .list [.map [("b", .int 3)]])]) := by cbv
  obtain ⟨fault, hbad⟩ : ∃ fault, decode bad = .error fault := ⟨_, rfl⟩
  have hexpands : Expands v w :=
    .map (.cons _ (.refl _) (.cons _ (.document hdecoded) .nil))
  obtain ⟨hfound, hbroken, -⟩ := documents_transparent_to_keys
  have hwalk : v.walk? ["doc", "a", "0", "b"] = some (.int 3) := by cbv
  exact ⟨hexpands, hwalk, hfound v w hexpands ["doc"],
    hbroken bad fault hbad ["doc"] (List.cons_ne_nil _ _)⟩

end CallScript.Value
