import BitBrat.Js.Assignment
import BitBrat.Js.JsonUnique
import Mathlib.Data.List.Sort

/-! Values up to the order of the names in their objects. -/

namespace Js

def unitsLe : CodeUnits → CodeUnits → Bool
  | [], _ => true
  | _ :: _, [] => false
  | unit :: units, other :: others =>
    unit < other || (unit == other && unitsLe units others)

theorem unitsLe_total (units others : CodeUnits) :
    unitsLe units others = true ∨ unitsLe others units = true := by
  induction units generalizing others with
  | nil => exact .inl rfl
  | cons unit units ih =>
    cases others with
    | nil => exact .inr rfl
    | cons other others =>
      simp only [unitsLe, Bool.or_eq_true, Bool.and_eq_true, decide_eq_true_eq, beq_iff_eq]
      rcases Nat.lt_trichotomy unit.toNat other.toNat with less | equal | more
      · exact .inl (.inl less)
      · have same : unit = other := UInt16.toNat_inj.mp equal
        rcases ih others with first | second
        · exact .inl (.inr ⟨same, first⟩)
        · exact .inr (.inr ⟨same.symm, second⟩)
      · exact .inr (.inl more)

theorem unitsLe_antisymm {units others : CodeUnits} (first : unitsLe units others = true)
    (second : unitsLe others units = true) : units = others := by
  induction units generalizing others with
  | nil =>
    cases others with
    | nil => rfl
    | cons other others => cases second
  | cons unit units ih =>
    cases others with
    | nil => cases first
    | cons other others =>
      simp only [unitsLe, Bool.or_eq_true, Bool.and_eq_true, decide_eq_true_eq, beq_iff_eq,
        UInt16.lt_iff_toNat_lt] at first second
      rcases first with less | ⟨rfl, rest⟩
      · rcases second with more | ⟨rfl, -⟩
        · omega
        · omega
      · rcases second with more | ⟨-, back⟩
        · omega
        · rw [ih rest back]

theorem unitsLe_trans {first second third : CodeUnits} (below : unitsLe first second = true)
    (above : unitsLe second third = true) : unitsLe first third = true := by
  induction first generalizing second third with
  | nil => rfl
  | cons unit units ih =>
    cases second with
    | nil => cases below
    | cons middle others =>
      cases third with
      | nil => cases above
      | cons last rest =>
        simp only [unitsLe, Bool.or_eq_true, Bool.and_eq_true, decide_eq_true_eq, beq_iff_eq,
          UInt16.lt_iff_toNat_lt] at below above ⊢
        rcases below with less | ⟨rfl, next⟩
        · rcases above with more | ⟨rfl, -⟩
          · exact .inl (by omega)
          · exact .inl less
        · rcases above with more | ⟨rfl, after⟩
          · exact .inl more
          · exact .inr ⟨rfl, ih next after⟩

def charOfUnits : CodeUnits → Option (Char × CodeUnits)
  | [] => none
  | unit :: rest =>
    if unit.toNat < 0xD800 ∨ 0xE000 ≤ unit.toNat then some (Char.ofNat unit.toNat, rest)
    else
      match rest with
      | [] => none
      | second :: rest =>
        some (Char.ofNat (0x10000 + (unit.toNat - 0xD800) * 0x400 + (second.toNat - 0xDC00)), rest)

theorem charOfUnits_unitsOfChar (char : Char) (rest : CodeUnits) :
    charOfUnits (unitsOfChar char ++ rest) = some (char, rest) := by
  have code : Char.ofNat char.toNat = char := Char.ofNat_toNat char
  have valid : char.toNat < 0xD800 ∨ 0xDFFF < char.toNat ∧ char.toNat < 0x110000 := char.valid
  have small (value : Nat) (fits : value < 0x10000) : value.toUInt16.toNat = value := by
    simpa using Nat.mod_eq_of_lt fits
  unfold unitsOfChar
  dsimp only
  split
  · rename_i basic
    rw [List.singleton_append, charOfUnits.eq_def]
    dsimp only
    rw [small char.toNat basic, if_pos (by omega), code]
  · -- The two units hold the halves of the number beyond the first plane.
    have high := small (0xD800 + (char.toNat - 0x10000) / 0x400) (by omega)
    have low := small (0xDC00 + (char.toNat - 0x10000) % 0x400) (by omega)
    have whole : 0x10000 + (0xD800 + (char.toNat - 0x10000) / 0x400 - 0xD800) * 0x400 +
        (0xDC00 + (char.toNat - 0x10000) % 0x400 - 0xDC00) = char.toNat := by omega
    rw [List.cons_append, List.singleton_append, charOfUnits.eq_def]
    dsimp only
    rw [high, if_neg (by omega), low, whole, code]

theorem codeUnits_inj {text other : String} (same : codeUnits text = codeUnits other) :
    text = other := by
  have general : ∀ chars others : List Char,
      chars.flatMap unitsOfChar = others.flatMap unitsOfChar → chars = others := by
    intro chars
    induction chars with
    | nil =>
      intro others equal
      cases others with
      | nil => rfl
      | cons other others =>
        have read := charOfUnits_unitsOfChar other (others.flatMap unitsOfChar)
        rw [← List.flatMap_cons, ← equal] at read
        cases read
    | cons char chars ih =>
      intro others equal
      have read := charOfUnits_unitsOfChar char (chars.flatMap unitsOfChar)
      rw [← List.flatMap_cons, equal] at read
      cases others with
      | nil => cases read
      | cons other others =>
        rw [List.flatMap_cons, charOfUnits_unitsOfChar] at read
        obtain ⟨rfl, later⟩ := Prod.mk.inj (Option.some.inj read)
        rw [ih others later.symm]
  exact String.toList_inj.mp (general _ _ same)

def arrayIndex (key : String) : Option Nat :=
  let digits := key.toList
  if digits ≠ [] ∧ digits.all Char.isDigit ∧ (digits = ['0'] ∨ digits.head? ≠ some '0') ∧
      Nat.ofDigitChars 10 digits 0 < 2 ^ 32 - 1 then
    some (Nat.ofDigitChars 10 digits 0)
  else none

/-- The properties of an object in the order of its names: the indices first, and the others as
they were added. -/
def ownProperties (fields : List (String × Value)) : List (String × Value) :=
  (fields.filter fun field => (arrayIndex field.1).isSome).insertionSort (fun field other =>
      (arrayIndex field.1).getD 0 ≤ (arrayIndex other.1).getD 0) ++
    fields.filter fun field => !(arrayIndex field.1).isSome

/-- The object that properties are assigned to one after the other; one name sets what the object
inherits from instead. -/
def assigned (fields : List (String × Value)) : List (String × Value) :=
  ownProperties (fields.filter (·.1 ≠ "__proto__"))

def sortKeys (fields : List (String × Value)) : List (String × Value) :=
  fields.insertionSort fun field other => unitsLe (codeUnits field.1) (codeUnits other.1)

theorem perm_ownProperties (fields : List (String × Value)) :
    (ownProperties fields).Perm fields :=
  ((List.perm_insertionSort _ _).append_right _).trans (List.filter_append_perm _ _)

theorem perm_assigned (fields : List (String × Value)) :
    (assigned fields).Perm (fields.filter (·.1 ≠ "__proto__")) :=
  perm_ownProperties _

theorem perm_sortKeys (fields : List (String × Value)) : (sortKeys fields).Perm fields :=
  List.perm_insertionSort _ _

theorem pairwise_sortKeys (fields : List (String × Value)) :
    (sortKeys fields).Pairwise fun field other =>
      unitsLe (codeUnits field.1) (codeUnits other.1) = true := by
  have total : Std.Total fun field other : String × Value =>
      unitsLe (codeUnits field.1) (codeUnits other.1) = true :=
    ⟨fun field other => unitsLe_total _ _⟩
  have trans : IsTrans (String × Value) fun field other =>
      unitsLe (codeUnits field.1) (codeUnits other.1) = true :=
    ⟨fun _ _ _ below above => unitsLe_trans below above⟩
  exact List.pairwise_insertionSort _ fields

theorem perm_of_lookup {fields others : List (String × Value)}
    (distinct : (fields.map Prod.fst).Nodup) (second : (others.map Prod.fst).Nodup)
    (same : ∀ key, fields.lookup key = others.lookup key) : fields.Perm others := by
  refine (List.perm_ext_iff_of_nodup (List.Nodup.of_map _ distinct)
    (List.Nodup.of_map _ second)).mpr fun field => ⟨fun member => ?_, fun member => ?_⟩
  · exact mem_of_lookup ((same field.1).symm.trans (lookup_of_mem distinct member))
  · exact mem_of_lookup ((same field.1).trans (lookup_of_mem second member))

theorem lookup_filter_key (keep : String → Bool) (fields : List (String × Value))
    (key : String) : (fields.filter fun field => keep field.1).lookup key =
      if keep key then fields.lookup key else none := by
  induction fields with
  | nil => simp
  | cons field rest ih =>
    obtain ⟨name, value⟩ := field
    rw [List.filter_cons, List.lookup_cons]
    by_cases here : key = name
    · subst here
      cases kept : keep key with
      | true => simp
      | false => simp [ih, kept]
    · have other : (key == name) = false := by simpa using here
      cases kept : keep name with
      | true => simp [List.lookup_cons, other, ih]
      | false => simp [other, ih]

/-- Objects that were assigned by the order of their names are the same just if they have the same
properties. -/
theorem assigned_sortKeys_eq_iff {fields others : List (String × Value)}
    (distinct : (fields.map Prod.fst).Nodup) (second : (others.map Prod.fst).Nodup) :
    assigned (sortKeys fields) = assigned (sortKeys others) ↔
      ∀ key, key ≠ "__proto__" → fields.lookup key = others.lookup key := by
  have kept (fields : List (String × Value)) (distinct : (fields.map Prod.fst).Nodup)
      (key : String) : ((sortKeys fields).filter (·.1 ≠ "__proto__")).lookup key =
        if key ≠ "__proto__" then fields.lookup key else none := by
    have found := lookup_filter_key (· ≠ "__proto__") (sortKeys fields) key
    rw [lookup_of_perm (perm_sortKeys fields) distinct] at found
    simpa using found
  have once (fields : List (String × Value)) (distinct : (fields.map Prod.fst).Nodup) :
      (((sortKeys fields).filter (·.1 ≠ "__proto__")).map Prod.fst).Nodup :=
    (List.filter_sublist.map _).nodup (((perm_sortKeys fields).map _).nodup_iff.mpr distinct)
  constructor
  · intro same key plain
    have read (fields : List (String × Value)) (distinct : (fields.map Prod.fst).Nodup) :
        (assigned (sortKeys fields)).lookup key = fields.lookup key := by
      rw [lookup_of_perm (perm_assigned _) (once fields distinct), kept fields distinct,
        if_pos plain]
    rw [← read fields distinct, same, read others second]
  · intro same
    have equal : (sortKeys fields).filter (·.1 ≠ "__proto__") =
        (sortKeys others).filter (·.1 ≠ "__proto__") := by
      have perm := perm_of_lookup (once fields distinct) (once others second) fun key => by
        rw [kept fields distinct, kept others second]
        split
        · rename_i plain
          exact same key plain
        · rfl
      refine perm.eq_of_pairwise (fun field other member member' below above => ?_)
        ((pairwise_sortKeys fields).sublist List.filter_sublist)
        ((pairwise_sortKeys others).sublist List.filter_sublist)
      -- Two properties of one name are the same one.
      have names : field.1 = other.1 := codeUnits_inj (unitsLe_antisymm below above)
      have found := lookup_of_mem (once others second) (perm.mem_iff.mp member)
      rw [names, lookup_of_mem (once others second) member'] at found
      exact Prod.ext names (Option.some.inj found).symm
    rw [assigned, assigned, equal]

-- The names that are not compared.
variable (skip : String → Bool)

mutual

/-- Two values are the same, but for the order of names and the properties that are not compared. -/
def SameBut : Value → Value → Prop
  | .arr items, .arr others => SameItems items others
  | .obj fields, .obj others =>
    (∀ key, skip key = false → others.lookup key ≠ none → fields.lookup key ≠ none) ∧
      SameFields fields others
  | value, other => value = other

def SameItems : List Value → List Value → Prop
  | [], [] => True
  | item :: rest, other :: others => SameBut item other ∧ SameItems rest others
  | _, _ => False

def SameFields : List (String × Value) → List (String × Value) → Prop
  | [], _ => True
  | (key, value) :: rest, others =>
    (skip key = false → ∃ other, others.lookup key = some other ∧ SameBut value other) ∧
      SameFields rest others

end

variable {skip} {fewer : String → Bool}

mutual

theorem SameBut.weaken (less : ∀ key, fewer key = true → skip key = true) :
    ∀ {value other : Value}, SameBut fewer value other → SameBut skip value other
  | .arr items, other, same => by
    cases other with
    | arr others =>
      simp only [SameBut] at same ⊢
      exact SameItems.weaken less same
    | _ => simp [SameBut] at same
  | .obj fields, other, same => by
    cases other with
    | obj others =>
      simp only [SameBut] at same ⊢
      refine ⟨fun key compared => same.1 key ?_, SameFields.weaken less same.2⟩
      cases kept : fewer key with
      | false => rfl
      | true => exact absurd (less key kept) (by simp [compared])
    | _ => simp [SameBut] at same
  | .undefined, other, same | .null, other, same | .bool _, other, same
  | .num _, other, same | .str _, other, same | .date _, other, same => by
    cases other <;> simp_all [SameBut]

theorem SameItems.weaken (less : ∀ key, fewer key = true → skip key = true) :
    ∀ {items others : List Value}, SameItems fewer items others → SameItems skip items others
  | [], [], _ => trivial
  | item :: items, other :: others, same => by
    rw [SameItems] at same ⊢
    exact ⟨SameBut.weaken less same.1, SameItems.weaken less same.2⟩

theorem SameFields.weaken (less : ∀ key, fewer key = true → skip key = true) :
    ∀ {fields others : List (String × Value)}, SameFields fewer fields others →
      SameFields skip fields others
  | [], _, _ => trivial
  | (key, value) :: fields, others, same => by
    rw [SameFields] at same ⊢
    refine ⟨fun compared => ?_, SameFields.weaken less same.2⟩
    have kept : fewer key = false := by
      cases kept : fewer key with
      | false => rfl
      | true => exact absurd (less key kept) (by simp [compared])
    obtain ⟨other, found, equal⟩ := same.1 kept
    exact ⟨other, found, SameBut.weaken less equal⟩

end

end Js
