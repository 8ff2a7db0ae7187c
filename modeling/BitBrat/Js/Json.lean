import BitBrat.Js.Value

/-! The JSON text that a value is written as, and its size. -/

namespace Js

def hexDigitOf (value : Nat) : Char :=
  if value < 10 then Char.ofNat (48 + value) else Char.ofNat (87 + value)

def escapedChar (char : Char) : List Char :=
  match char.toNat with
  | 0x22 => ['\\', '"']
  | 0x5C => ['\\', '\\']
  | 0x8 => ['\\', 'b']
  | 0x9 => ['\\', 't']
  | 0xA => ['\\', 'n']
  | 0xC => ['\\', 'f']
  | 0xD => ['\\', 'r']
  | code =>
    -- Every other control character is written by its code.
    if code < 0x20 then ['\\', 'u', '0', '0', hexDigitOf (code / 16), hexDigitOf (code % 16)]
    else [char]

def quotedText (text : String) : String :=
  "\"" ++ String.ofList (text.toList.flatMap escapedChar) ++ "\""

section

-- The text that a date is written as depends on its milliseconds alone.
variable (isoText : Int → String)

mutual

/-- The JSON text of a value, of which an absent one has none. -/
def stringify : Value → String
  | .undefined => ""
  | .null => "null"
  | .bool flag => if flag then "true" else "false"
  | .num (.finite value) => (Number.finite value).toText
  | .num _ => "null"
  | .str text => quotedText text
  | .date ms => quotedText (isoText ms)
  | .arr items => "[" ++ String.intercalate "," (stringifyItems items) ++ "]"
  | .obj fields => "\x7b" ++ String.intercalate "," (stringifyFields fields) ++ "\x7d"

/-- The texts of the items of an array, where an absent one is written as empty. -/
def stringifyItems : List Value → List String
  | [] => []
  | item :: rest =>
    (if item = .undefined then "null" else stringify item) :: stringifyItems rest

def stringifyFields : List (String × Value) → List String
  | [] => []
  | (key, value) :: rest =>
    if value = .undefined then stringifyFields rest
    else (quotedText key ++ ":" ++ stringify value) :: stringifyFields rest

end

def jsonBytes (value : Value) : Nat := (stringify isoText value).utf8ByteSize

theorem jsonBytes_obj_pos (fields : List (String × Value)) :
    0 < jsonBytes isoText (.obj fields) := by
  have brace : 0 < "\x7b".utf8ByteSize := by decide
  simp only [jsonBytes, stringify, String.utf8ByteSize_append]
  omega

end

/-! What a value becomes when it is written as JSON text and read back. -/

section

-- The text that a date is written as depends on its milliseconds alone.
variable (isoText : Int → String)

mutual

/-- A value after a round trip through JSON text, where an absent value stays absent. -/
def jsonForm : Value → Value
  | .num (.finite value) => .num (.finite value)
  -- Only finite numbers have a text.
  | .num _ => .null
  | .date ms => .str (isoText ms)
  | .arr items => .arr (jsonItems items)
  | .obj fields => .obj (jsonFields fields)
  | other => other

/-- The items of an array, in which absent ones are written as empty. -/
def jsonItems : List Value → List Value
  | [] => []
  | item :: rest => (if item = .undefined then .null else jsonForm item) :: jsonItems rest

/-- The properties of an object, of which absent ones are not written. -/
def jsonFields : List (String × Value) → List (String × Value)
  | [] => []
  | (key, value) :: rest =>
    -- An object has each name once, so that nothing is erased from a real one.
    let others := eraseKey key (jsonFields rest)
    if value = .undefined then others else (key, jsonForm value) :: others

end

def jsonItem (item : Value) : Value := if item = .undefined then .null else jsonForm isoText item

theorem lookup_jsonFields (key : String) (fields : List (String × Value)) :
    ((jsonFields isoText fields).lookup key).getD .undefined =
      jsonForm isoText ((fields.lookup key).getD .undefined) := by
  induction fields with
  | nil => simp [jsonFields, jsonForm]
  | cons entry rest ih =>
    obtain ⟨name, value⟩ := entry
    rw [jsonFields]
    by_cases absent : value = .undefined
    · -- An absent property reads the same whether it is written or not.
      subst absent
      simp only [↓reduceIte, lookup_eraseKey]
      by_cases same : key = name
      · simp [same, jsonForm]
      · have skipped : (key == name) = false := by simpa using same
        simp only [if_neg same, List.lookup_cons, skipped]
        exact ih
    · rw [if_neg absent]
      by_cases same : key = name
      · subst same
        simp
      · have skipped : (key == name) = false := by simpa using same
        simp only [List.lookup_cons, skipped, lookup_eraseKey, if_neg same]
        exact ih

theorem keys_jsonFields (fields : List (String × Value)) :
    ((jsonFields isoText fields).map Prod.fst).Sublist (fields.map Prod.fst) := by
  induction fields with
  | nil => simp [jsonFields]
  | cons field rest ih =>
    obtain ⟨key, value⟩ := field
    have others : ((eraseKey key (jsonFields isoText rest)).map Prod.fst).Sublist
        (rest.map Prod.fst) := (List.filter_sublist.map Prod.fst).trans ih
    simp only [jsonFields]
    split
    · exact others.trans (List.sublist_cons_self _ _)
    · exact others.cons_cons key

theorem jsonFields_cons {key : String} {value : Value}
    {rest : List (String × Value)} (fresh : key ∉ rest.map Prod.fst) (there : value ≠ .undefined) :
    jsonFields isoText ((key, value) :: rest) =
      (key, jsonForm isoText value) :: jsonFields isoText rest := by
  have absent : key ∉ (jsonFields isoText rest).map Prod.fst :=
    fun member => fresh ((keys_jsonFields isoText rest).subset member)
  -- Nothing is erased under a name that is not there.
  have kept : eraseKey key (jsonFields isoText rest) = jsonFields isoText rest := by
    apply List.filter_eq_self.mpr
    intro entry member
    have apart : entry.1 ≠ key := fun same => absent (same ▸ List.mem_map_of_mem member)
    simpa using apart
  simp only [jsonFields, if_neg there, kept]

/-- A property of a value that was written and read back is the property, written and read back. -/
@[simp] theorem get_jsonForm (value : Value) (key : String) :
    (jsonForm isoText value).get key = jsonForm isoText (value.get key) := by
  cases value with
  | obj fields => exact lookup_jsonFields isoText key fields
  | num number => cases number <;> simp [jsonForm, Value.get, Value.fields]
  | _ => simp [jsonForm, Value.get, Value.fields]

@[simp] theorem get_jsonItem (item : Value) (key : String) :
    (jsonItem isoText item).get key = jsonForm isoText (item.get key) := by
  unfold jsonItem
  split
  case isTrue absent => simp [absent, jsonForm]
  case isFalse => exact get_jsonForm isoText item key

theorem jsonFields_eraseKey (name : String) (fields : List (String × Value)) :
    jsonFields isoText (eraseKey name fields) = eraseKey name (jsonFields isoText fields) := by
  induction fields with
  | nil => rfl
  | cons entry rest ih =>
    obtain ⟨key, value⟩ := entry
    by_cases here : key = name
    · subst here
      -- The name is erased from what follows, whether it was written here or not.
      rw [eraseKey_cons_self, ih, jsonFields]
      split <;> simp
    · rw [eraseKey_cons_of_ne _ _ here, jsonFields, jsonFields, ih]
      split
      · exact eraseKey_comm key name _
      · rw [eraseKey_comm key name, eraseKey_cons_of_ne _ _ here]

theorem jsonForm_eq_undefined {value : Value} :
    jsonForm isoText value = .undefined ↔ value = .undefined := by
  cases value with
  | num number => cases number <;> simp [jsonForm]
  | _ => simp [jsonForm]

mutual

@[simp] theorem jsonForm_jsonForm : ∀ value : Value,
    jsonForm isoText (jsonForm isoText value) = jsonForm isoText value
  | .undefined => by simp [jsonForm]
  | .null => by simp [jsonForm]
  | .bool flag => by simp [jsonForm]
  | .num number => by cases number <;> simp [jsonForm]
  | .str text => by simp [jsonForm]
  | .date ms => by simp [jsonForm]
  | .arr items => by simp [jsonForm, jsonItems_jsonItems items]
  | .obj fields => by simp [jsonForm, jsonFields_jsonFields fields]

theorem jsonItems_jsonItems : ∀ items : List Value,
    jsonItems isoText (jsonItems isoText items) = jsonItems isoText items
  | [] => rfl
  | item :: rest => by
    by_cases absent : item = .undefined
    · simp [jsonItems, absent, jsonForm, jsonItems_jsonItems rest]
    · simp [jsonItems, absent, jsonForm_eq_undefined, jsonItems_jsonItems rest,
        jsonForm_jsonForm item]

theorem jsonFields_jsonFields : ∀ fields : List (String × Value),
    jsonFields isoText (jsonFields isoText fields) = jsonFields isoText fields
  | [] => rfl
  | (key, value) :: rest => by
    have below := jsonFields_jsonFields rest
    -- What was not written is not there to be read again.
    by_cases absent : value = .undefined
    · simp [jsonFields, absent, jsonFields_eraseKey, below]
    · simp [jsonFields, absent, jsonForm_eq_undefined, jsonFields_eraseKey, below,
        jsonForm_jsonForm value]

end

end

end Js
