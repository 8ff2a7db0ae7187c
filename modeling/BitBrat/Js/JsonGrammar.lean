import BitBrat.Js.JsonUnique

/-! The texts that are read as JSON, with the values that they stand for. -/

namespace Js

def JsonBlanks : Type :=
  { chars : List Char // ∀ char ∈ chars, char = ' ' ∨ char = '\t' ∨ char = '\n' ∨ char = '\r' }

inductive JsonChar where
  | plain (char : Char) (allowed : char ≠ '"' ∧ char ≠ '\\' ∧ 0x20 ≤ char.toNat)
  | escape (mark : Char) (known : mark ∈ ['"', '\\', '/', 'b', 'f', 'n', 'r', 't'])
  | unit (digits : List Char) (four : digits.length = 4 ∧ (digits.all (digitValue · ≠ none)) = true)

def JsonChar.chars : JsonChar → List Char
  | .plain char _ => [char]
  | .escape mark _ => ['\\', mark]
  | .unit digits _ => '\\' :: 'u' :: digits

def JsonChar.units : JsonChar → CodeUnits
  | .plain char _ => unitsOfChar char
  | .escape mark _ => unitsOfChar (controlOf mark)
  | .unit digits _ => [((basedValue 16 digits).getD 0).toUInt16]

def charsOfUnits : CodeUnits → List Char
  | [] => []
  | [unit] => [Char.ofNat unit.toNat]
  | high :: low :: rest =>
    if 0xD800 ≤ high.toNat ∧ high.toNat < 0xDC00 ∧ 0xDC00 ≤ low.toNat ∧ low.toNat < 0xE000 then
      Char.ofNat (0x10000 + (high.toNat - 0xD800) * 0x400 + (low.toNat - 0xDC00)) ::
        charsOfUnits rest
    else Char.ofNat high.toNat :: charsOfUnits (low :: rest)

def jsonText (chars : List JsonChar) : String :=
  String.ofList (charsOfUnits (chars.flatMap JsonChar.units))

def quotedChars (chars : List JsonChar) : List Char :=
  '"' :: (chars.flatMap JsonChar.chars ++ ['"'])

/-- The parts of a number: its digits, those behind the point, and those of its exponent. -/
inductive IsJsonNumber : List Char → Prop where
  | whole (negative : Bool) (digits fraction exponent : List Char)
      (leading : digits = ['0'] ∨ digits.head? ≠ some '0')
      (someDigits : digits ≠ [] ∧ digits.all Char.isDigit = true)
      (point : fraction = [] ∨ ∃ behind, fraction = '.' :: behind ∧ behind ≠ [] ∧
        behind.all Char.isDigit = true)
      (power : exponent = [] ∨ ∃ mark sign behind, exponent = mark :: (sign ++ behind) ∧
        (mark = 'e' ∨ mark = 'E') ∧ (sign = [] ∨ sign = ['+'] ∨ sign = ['-']) ∧ behind ≠ [] ∧
        behind.all Char.isDigit = true) :
      IsJsonNumber ((if negative then ['-'] else []) ++ digits ++ fraction ++ exponent)

structure JsonItem where
  before : JsonBlanks
  raw : List Char
  value : Value
  after : JsonBlanks

def JsonItem.chars (item : JsonItem) : List Char := item.before.1 ++ item.raw ++ item.after.1

structure JsonMember extends JsonItem where
  front : JsonBlanks
  name : List JsonChar
  gap : JsonBlanks

def JsonMember.chars (member : JsonMember) : List Char :=
  member.front.1 ++ quotedChars member.name ++ member.gap.1 ++ ':' :: member.toJsonItem.chars

/-- The properties of an object that are read one after the other: of two with one name, the later
one counts. -/
def assignMembers (members : List JsonMember) : List (String × Value) :=
  members.foldl (fun fields member => setEntry (jsonText member.name) member.value fields) []

inductive IsJsonText : List Char → Value → Prop where
  | null : IsJsonText "null".toList .null
  | true : IsJsonText "true".toList (.bool true)
  | false : IsJsonText "false".toList (.bool false)
  | number {raw : List Char} (valid : IsJsonNumber raw) :
      IsJsonText raw (.num (Number.ofText (String.ofList raw)))
  | text (chars : List JsonChar) : IsJsonText (quotedChars chars) (.str (jsonText chars))
  | emptyArray (blanks : JsonBlanks) : IsJsonText ('[' :: (blanks.1 ++ [']'])) (.arr [])
  | array (items : List JsonItem) (some : items ≠ [])
      (each : ∀ item ∈ items, IsJsonText item.raw item.value) :
      IsJsonText ('[' :: ([','].intercalate (items.map JsonItem.chars) ++ [']']))
        (.arr (items.map JsonItem.value))
  | emptyObject (blanks : JsonBlanks) : IsJsonText ('\x7b' :: (blanks.1 ++ ['\x7d'])) (.obj [])
  | object (members : List JsonMember) (some : members ≠ [])
      (each : ∀ member ∈ members, IsJsonText member.raw member.value) :
      IsJsonText ('\x7b' :: ([','].intercalate (members.map JsonMember.chars) ++ ['\x7d']))
        (.obj (assignMembers members))

def IsJsonDocument (text : List Char) (value : Value) : Prop :=
  ∃ (before after : JsonBlanks) (raw : List Char), IsJsonText raw value ∧
    text = before.1 ++ raw ++ after.1

end Js
