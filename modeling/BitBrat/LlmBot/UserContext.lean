import BitBrat.Js.Sort
import BitBrat.Js.NumberText
import Mathlib.Data.List.Infix

/-! The context of a user in a prompt: how it is cut to its limit, and the roles that it shows. -/

namespace BitBrat

open Js

structure UserContext where
  username : String := ""
  rolesDisplay : List String := []
  rolePrompts : List String := []
  description : String := ""

namespace UserContext

variable (input : UserContext)

def usernameLine : List String :=
  if input.username = "" then [] else ["Username: " ++ input.username]

def rolesLine : List String :=
  if input.rolesDisplay = [] then []
  else ["Roles: " ++ String.intercalate ", " input.rolesDisplay]

def descriptionLine : List String :=
  if input.description = "" then [] else ["Description: " ++ input.description]

def lines : List String :=
  input.usernameLine ++ input.rolesLine ++ input.rolePrompts ++ input.descriptionLine

def textOf (lines : List String) : String := String.intercalate "\n" lines

def fits (maxChars : Number) (lines : List String) : Bool :=
  !maxChars.lt (.finite (codeUnits (textOf lines)).length)

/-- The prompts that are left when prompts are removed, last first, until their lines fit. The
prompts are given from the last one on. -/
def popPrompts (fits : List String → Bool) : List String → List String
  | [] => []
  | last :: before =>
    if fits (last :: before).reverse then last :: before else popPrompts fits before

/-- The text of a context, within a limit if there is one. -/
def composeContextText (maxChars : Number) : String :=
  let limited := match maxChars with
    | .finite limit => decide (0 < limit)
    | _ => false
  if limited && !fits maxChars input.lines then
    let shown (prompts : List String) := input.usernameLine ++ input.rolesLine ++ prompts
    let prompts :=
      (popPrompts (fun prompts => fits maxChars (shown prompts)) input.rolePrompts.reverse).reverse
    if fits maxChars (shown prompts) then textOf (shown prompts)
    else textOf (input.usernameLine ++ prompts)
  else textOf input.lines

/-- The lines of ever shorter contexts: all, without the description, without the last prompts one
by one, and without the roles. -/
def stages : List (List String) :=
  input.lines ::
    (input.rolePrompts.reverse.tails.map fun prompts =>
      input.usernameLine ++ input.rolesLine ++ prompts.reverse) ++ [input.usernameLine]

end UserContext

structure RoleDoc where
  docId : String := ""
  roleId : String := ""
  displayName : String := ""
  priority : Option Number := none
  prompt : String := ""
  aliases : List String := []
  deriving DecidableEq

structure RoleEntry where
  id : String
  display : String
  priority : Number
  prompt : Option String
  deriving DecidableEq

section

variable (toLowerCase : String → String)

namespace RoleDoc

def id (doc : RoleDoc) : String :=
  toLowerCase (if doc.docId = "" then doc.roleId else doc.docId)

def entry (doc : RoleDoc) : RoleEntry where
  id := doc.id toLowerCase
  display := if doc.displayName = "" then doc.id toLowerCase else doc.displayName
  priority := doc.priority.getD (.finite 100)
  prompt := if doc.prompt = "" then none else some doc.prompt

end RoleDoc

/-- The roles with those of one more document, under its id and the aliases that are free. -/
def addRole (map : OrderedMap String RoleEntry) (doc : RoleDoc) : OrderedMap String RoleEntry :=
  let id := doc.id toLowerCase
  if id = "" then map
  else
    doc.aliases.foldl
      (fun map name =>
        let aid := toLowerCase name
        if aid = "" ∨ (map.get? aid).isSome then map else map.set aid (doc.entry toLowerCase))
      (map.set id (doc.entry toLowerCase))

/-- The roles by id and alias, from the documents in the order in which the store returns them. -/
def loadEnabledRoles (docs : List RoleDoc) : OrderedMap String RoleEntry :=
  docs.foldl (addRole toLowerCase) .empty

/-- The roles of a user that an annotation shows, by priority. -/
def annotationRoles (map : OrderedMap String RoleEntry) (roles : List String) : List RoleEntry :=
  (roles.filterMap fun role => map.get? (toLowerCase role)).insertionSort fun left right =>
    (left.priority.sub right.priority).sign ≠ .gt

def RoleDoc.Owns (doc : RoleDoc) (key : String) : Prop := key ≠ "" ∧ doc.id toLowerCase = key

def RoleDoc.Names (doc : RoleDoc) (key : String) : Prop :=
  key ≠ "" ∧ doc.id toLowerCase ≠ "" ∧ key ∈ doc.aliases.map toLowerCase

/-- A key stands for a document: by its id, or by an alias that is no id. -/
def Claims (docs : List RoleDoc) (key : String) (doc : RoleDoc) : Prop :=
  doc ∈ docs ∧ (doc.Owns toLowerCase key ∨
    (doc.Names toLowerCase key ∧ ∀ other ∈ docs, ¬ other.Owns toLowerCase key))

structure UserContextLaw : Prop where
  /-- The text is that of the first stage that fits, or of the last one. -/
  composed : ∀ (input : UserContext) (maxChars : Number), (Number.finite 0).lt maxChars = true →
    input.composeContextText maxChars = UserContext.textOf
      ((input.stages.find? (UserContext.fits maxChars)).getD input.usernameLine)
  bounded : ∀ (input : UserContext) (maxChars : Number), (Number.finite 0).lt maxChars = true →
    UserContext.fits maxChars input.usernameLine = true →
    maxChars.lt (.finite (codeUnits (input.composeContextText maxChars)).length) = false
  sublist : ∀ (input : UserContext), ∀ stage ∈ input.stages, stage.Sublist input.lines
  /-- A key is looked up as the document with that id, or else as one with that alias. -/
  looked : ∀ docs key, ((loadEnabledRoles toLowerCase docs).get? key = none ∧
      ∀ doc, ¬ Claims toLowerCase docs key doc) ∨
    ∃ doc, Claims toLowerCase docs key doc ∧
      (loadEnabledRoles toLowerCase docs).get? key = some (doc.entry toLowerCase)
  /-- No order of the documents counts exactly when a key stands for one entry only. -/
  unordered : ∀ docs,
    (∀ others, others.Perm docs → ∀ key, (loadEnabledRoles toLowerCase others).get? key =
      (loadEnabledRoles toLowerCase docs).get? key) ↔
    ∀ key first second, Claims toLowerCase docs key first → Claims toLowerCase docs key second →
      first.entry toLowerCase = second.entry toLowerCase
  annotated : ∀ docs others, others.Perm docs →
    (∀ key first second, Claims toLowerCase docs key first → Claims toLowerCase docs key second →
      first.entry toLowerCase = second.entry toLowerCase) →
    ∀ roles, annotationRoles toLowerCase (loadEnabledRoles toLowerCase others) roles =
      annotationRoles toLowerCase (loadEnabledRoles toLowerCase docs) roles

end

namespace UserContext

theorem find?_tails (accepts : List String → Bool) (prompts : List String) :
    prompts.tails.find? (fun kept => accepts kept.reverse) =
      if accepts (popPrompts accepts prompts).reverse then some (popPrompts accepts prompts)
      else none := by
  induction prompts with
  | nil => cases accepted : accepts [] <;> simp [popPrompts, accepted]
  | cons last before ih =>
    rw [List.tails_cons, List.find?_cons, popPrompts]
    cases accepted : accepts (last :: before).reverse with
    | true => exact (if_pos accepted).symm
    | false => simpa using ih

theorem popPrompts_eq_nil {accepts : List String → Bool} {prompts : List String}
    (rejected : accepts (popPrompts accepts prompts).reverse = false) :
    popPrompts accepts prompts = [] := by
  induction prompts with
  | nil => rfl
  | cons last before ih =>
    rw [popPrompts] at rejected ⊢
    split
    · simp_all
    · simp_all

private theorem composed (input : UserContext) {maxChars : Number}
    (positive : (Number.finite 0).lt maxChars = true) :
    input.composeContextText maxChars = textOf
      ((input.stages.find? (fits maxChars)).getD input.usernameLine) := by
  unfold composeContextText stages
  rw [List.cons_append, List.find?_cons]
  cases all : fits maxChars input.lines with
  | true => simp
  | false =>
    have limited : ∃ limit, 0 < limit ∧ maxChars = .finite limit := by
      cases maxChars with
      | finite limit => exact ⟨limit, by simpa [Number.lt] using positive, rfl⟩
      | infinity negative => cases negative <;> simp_all [fits, Number.lt]
      | nan => simp [Number.lt] at positive
    obtain ⟨limit, above, rfl⟩ := limited
    have tails := find?_tails
      (fun prompts => fits (.finite limit) (input.usernameLine ++ input.rolesLine ++ prompts))
      input.rolePrompts.reverse
    simp only [above, decide_true, Bool.not_false, Bool.and_self, if_true, List.find?_append,
      List.find?_map, Function.comp_def, tails]
    split
    case isTrue kept => simp
    case isFalse cut =>
      -- No prompt is left where even the context without prompts is too long.
      rw [popPrompts_eq_nil (by simpa using cut)]
      cases last : fits (.finite limit) input.usernameLine <;> simp [last]

private theorem bounded (input : UserContext) {maxChars : Number}
    (positive : (Number.finite 0).lt maxChars = true)
    (least : fits maxChars input.usernameLine = true) :
    maxChars.lt (.finite (codeUnits (input.composeContextText maxChars)).length) = false := by
  have fitting : fits maxChars
      ((input.stages.find? (fits maxChars)).getD input.usernameLine) = true := by
    cases found : input.stages.find? (fits maxChars) with
    | none => exact least
    | some stage => exact List.find?_some found
  rw [composed input positive]
  simpa [fits] using fitting

theorem sublist_lines (input : UserContext) {stage : List String}
    (member : stage ∈ input.stages) : stage.Sublist input.lines := by
  unfold stages at member
  simp only [List.cons_append, List.mem_cons, List.mem_append, List.mem_map, List.mem_tails,
    List.not_mem_nil, or_false] at member
  unfold lines
  rcases member with rfl | ⟨prompts, suffix, rfl⟩ | rfl
  · rfl
  · have kept : prompts.reverse.Sublist input.rolePrompts := by
      simpa using (List.reverse_prefix.mpr suffix).sublist
    exact ((List.Sublist.refl _).append kept).trans (List.sublist_append_left _ _)
  · simp only [List.append_assoc]
    exact List.sublist_append_left _ _

end UserContext

section

variable {toLowerCase : String → String} {docs : List RoleDoc} {key : String}

theorem get?_aliases (entry : RoleEntry) (names : List String)
    (map : OrderedMap String RoleEntry) :
    (names.foldl (fun map name => if toLowerCase name = "" ∨ (map.get? (toLowerCase name)).isSome
      then map else map.set (toLowerCase name) entry) map).get? key =
      (map.get? key).or (if key ≠ "" ∧ key ∈ names.map toLowerCase then some entry else none) := by
  induction names generalizing map with
  | nil => simp
  | cons name rest ih =>
    rw [List.foldl_cons, ih]
    by_cases same : key = toLowerCase name
    · subst same
      by_cases empty : toLowerCase name = ""
      · simp [empty]
      · cases held : map.get? (toLowerCase name) <;> simp [held, empty]
    · split <;> simp [same]

instance (doc : RoleDoc) : Decidable (doc.Owns toLowerCase key) :=
  inferInstanceAs (Decidable (_ ∧ _))

instance (doc : RoleDoc) : Decidable (doc.Names toLowerCase key) :=
  inferInstanceAs (Decidable (_ ∧ _))

theorem get?_addRole (map : OrderedMap String RoleEntry) (doc : RoleDoc) :
    (addRole toLowerCase map doc).get? key =
      if doc.Owns toLowerCase key then some (doc.entry toLowerCase)
      else (map.get? key).or
        (if doc.Names toLowerCase key then some (doc.entry toLowerCase) else none) := by
  unfold addRole RoleDoc.Owns RoleDoc.Names
  by_cases empty : doc.id toLowerCase = ""
  · simp [empty, eq_comm]
  · dsimp only
    rw [if_neg empty, get?_aliases, OrderedMap.get?_set]
    by_cases same : key = doc.id toLowerCase
    · simp [same, empty]
    · simp [same, empty, Ne.symm same]

/-- The last document with a key as its id counts, or else the first one with it as an alias. -/
theorem get?_loadEnabledRoles (docs : List RoleDoc) (key : String) :
    (loadEnabledRoles toLowerCase docs).get? key =
      ((docs.reverse.find? fun doc => doc.Owns toLowerCase key).or
        (docs.find? fun doc => doc.Names toLowerCase key)).map (RoleDoc.entry toLowerCase) := by
  unfold loadEnabledRoles
  induction docs using List.reverseRecOn with
  | nil => rfl
  | append_singleton before doc ih =>
    rw [List.foldl_concat, get?_addRole, ih, List.reverse_concat, List.find?_cons,
      List.find?_append]
    by_cases owns : doc.Owns toLowerCase key
    · simp [owns]
    · by_cases names : doc.Names toLowerCase key <;>
        cases before.reverse.find? fun doc => doc.Owns toLowerCase key <;>
        cases before.find? fun doc => doc.Names toLowerCase key <;>
        simp [owns, names]

theorem claims_of_find {picked : Option RoleDoc}
    (pick : (docs.reverse.find? fun doc => doc.Owns toLowerCase key).or
      (docs.find? fun doc => doc.Names toLowerCase key) = picked) :
    (picked = none ∧ ∀ doc, ¬ Claims toLowerCase docs key doc) ∨
      ∃ doc, Claims toLowerCase docs key doc ∧ picked = some doc := by
  subst pick
  cases owner : docs.reverse.find? fun doc => doc.Owns toLowerCase key with
  | some doc =>
    have member := List.mem_reverse.mp (List.mem_of_find?_eq_some owner)
    exact .inr ⟨doc, ⟨member, .inl (by simpa using List.find?_some owner)⟩, rfl⟩
  | none =>
    have unowned : ∀ doc ∈ docs, ¬ doc.Owns toLowerCase key := by
      simpa using List.find?_eq_none.mp owner
    cases named : docs.find? fun doc => doc.Names toLowerCase key with
    | some doc =>
      exact .inr ⟨doc, ⟨List.mem_of_find?_eq_some named,
        .inr ⟨by simpa using List.find?_some named, unowned⟩⟩, rfl⟩
    | none =>
      refine .inl ⟨rfl, ?_⟩
      rintro doc ⟨member, owns | ⟨names, _⟩⟩
      · exact unowned doc member owns
      · have missing := List.find?_eq_none.mp named doc member
        exact missing (by simpa using names)

private theorem looked (docs : List RoleDoc) (key : String) :
    ((loadEnabledRoles toLowerCase docs).get? key = none ∧
      ∀ doc, ¬ Claims toLowerCase docs key doc) ∨
    ∃ doc, Claims toLowerCase docs key doc ∧
      (loadEnabledRoles toLowerCase docs).get? key = some (doc.entry toLowerCase) := by
  rw [get?_loadEnabledRoles]
  rcases @claims_of_find toLowerCase docs key _ rfl with
    ⟨none_eq, unclaimed⟩ | ⟨doc, claims, some_eq⟩
  · exact .inl ⟨by rw [none_eq]; rfl, unclaimed⟩
  · exact .inr ⟨doc, claims, by rw [some_eq]; rfl⟩

theorem claims_perm {others : List RoleDoc} (perm : others.Perm docs) {doc : RoleDoc} :
    Claims toLowerCase others key doc ↔ Claims toLowerCase docs key doc := by
  simp only [Claims, perm.mem_iff]

/-- Any claim of a key decides in some order of the documents. -/
theorem exists_perm_of_claims {doc : RoleDoc} (claims : Claims toLowerCase docs key doc) :
    ∃ others, others.Perm docs ∧
      (loadEnabledRoles toLowerCase others).get? key = some (doc.entry toLowerCase) := by
  obtain ⟨member, owns | ⟨names, unowned⟩⟩ := claims
  · refine ⟨docs.erase doc ++ [doc],
      (List.perm_append_singleton doc _).trans (List.perm_cons_erase member).symm, ?_⟩
    rw [get?_loadEnabledRoles, List.reverse_concat, List.find?_cons]
    simp [owns]
  · have perm : (doc :: docs.erase doc).Perm docs := (List.perm_cons_erase member).symm
    refine ⟨doc :: docs.erase doc, perm, ?_⟩
    have ownerless : ((doc :: docs.erase doc).reverse.find? fun other =>
        other.Owns toLowerCase key) = none := by
      refine List.find?_eq_none.mpr fun other present => ?_
      simpa using unowned other (perm.mem_iff.mp (List.mem_reverse.mp present))
    rw [get?_loadEnabledRoles, ownerless, List.find?_cons]
    simp [names]

theorem unordered_of_agree (agree : ∀ key first second, Claims toLowerCase docs key first →
      Claims toLowerCase docs key second → first.entry toLowerCase = second.entry toLowerCase)
    {others : List RoleDoc} (perm : others.Perm docs) (key : String) :
    (loadEnabledRoles toLowerCase others).get? key =
      (loadEnabledRoles toLowerCase docs).get? key := by
  rcases @looked toLowerCase docs key with ⟨none_eq, unclaimed⟩ | ⟨first, claims, first_eq⟩ <;>
    rcases @looked toLowerCase others key with
      ⟨other_none, free⟩ | ⟨second, others_claim, second_eq⟩
  · rw [none_eq, other_none]
  · exact absurd ((claims_perm perm).mp others_claim) (unclaimed second)
  · exact absurd ((claims_perm perm).mpr claims) (free first)
  · rw [first_eq, second_eq, agree key _ _ claims ((claims_perm perm).mp others_claim)]

end

/-- The context of a user is cut in the promised order, and the order of the documents counts only
where a key stands for two entries. -/
theorem userContextLaw (toLowerCase : String → String) : UserContextLaw toLowerCase where
  composed input _ positive := UserContext.composed input positive
  bounded input _ positive least := UserContext.bounded input positive least
  sublist input _ member := UserContext.sublist_lines input member
  looked := looked
  unordered docs := by
    refine ⟨fun independent key first second left right => ?_,
      fun agree others perm => unordered_of_agree agree perm⟩
    obtain ⟨before, before_perm, before_eq⟩ := exists_perm_of_claims left
    obtain ⟨after, after_perm, after_eq⟩ := exists_perm_of_claims right
    rw [independent before before_perm] at before_eq
    rw [independent after after_perm] at after_eq
    exact Option.some.inj (before_eq.symm.trans after_eq)
  annotated docs others perm agree roles := by
    unfold annotationRoles
    simp only [unordered_of_agree agree perm]

/-- Two roles with the same alias are found by it in the order in which they are stored. -/
theorem not_unordered : ¬ ∀ docs others : List RoleDoc, others.Perm docs → ∀ key,
    (loadEnabledRoles id others).get? key = (loadEnabledRoles id docs).get? key := by
  intro unordered
  have same := unordered [{ roleId := "mod", aliases := ["staff"] },
    { roleId := "admin", aliases := ["staff"] }] _ (List.Perm.swap _ _ _) "staff"
  revert same
  decide +kernel

end BitBrat
