import SecretEnv.Proofs.Entries
import SecretEnv.Resolver.Response

/-!
# What an answer of the resolver says

**Every answer refuses the credential, is malformed, or gives variables, and never two of these.**
The three are said here of the answer alone, without the order in which the reader looks at it
(`Refuses`, `Malforms`, `Gives`); the reader's result is then the one that applies. That it looks
for the mark before it reads JSON makes no difference, for no value begins like the mark; that it
stops at the first faulty name does, and the name is part of what is said.
-/

namespace SecretEnv.Resolver

/-- What is wrong with a member of an object of variables, if anything is. -/
def fault? (name : String) (value : Json.Value) : Option String :=
  if name.isEmpty then some "variable name is empty"
  else
    match value with
    | .string _ => none
    | .null => none
    | other => some s!"value for '{name}' is {other.kind}, expected a string"

/-- What is wrong with the last member of a name, if anything is. -/
def faultOf? (members : List (String × Json.Value)) (name : String) : Option String :=
  (lastValue? members name).bind (fault? name)

/-- An answer refuses the credential, with these words. -/
inductive Refuses : List Char → String → Prop where
  /-- It is empty. -/
  | empty : Refuses [] refusedMessage
  /-- It has the mark, and words behind it. -/
  | reason {rest : List Char} (h : Text.trimChars rest ≠ []) :
      Refuses (errorMark.toList ++ rest) (String.ofList (Text.trimChars rest))
  /-- It has the mark, and nothing behind it. -/
  | noReason {rest : List Char} (h : Text.trimChars rest = []) :
      Refuses (errorMark.toList ++ rest) refusedMessage
  /-- It is a null. -/
  | null {answer : List Char} (h : Json.parseChars answer = some .null) :
      Refuses answer refusedMessage

/-- An answer is malformed, for this reason. -/
inductive Malforms : List Char → String → Prop where
  /-- It is no JSON, and neither empty nor marked. -/
  | noJson {answer : List Char} (hempty : answer ≠ []) (hmark : ¬ errorMark.toList <+: answer)
      (h : Json.parseChars answer = none) : Malforms answer "resolver output is not valid JSON"
  /-- It is a value of another kind. -/
  | noObject {answer : List Char} {value : Json.Value} (h : Json.parseChars answer = some value)
      (hnull : value ≠ .null) (hobject : ∀ members, value ≠ .object members) :
      Malforms answer s!"expected a JSON object, got {value.kind}"
  /-- A member of it is at fault, and none that comes before it by name. -/
  | member {answer : List Char} {members : List (String × Json.Value)} {name detail : String}
      (h : Json.parseChars answer = some (.object members))
      (hfault : faultOf? members name = some detail)
      (hfirst : ∀ other, compare other name = .lt → faultOf? members other = none) :
      Malforms answer detail

/-- An answer gives variables: it is an object, no member of it is at fault, and they are the
texts among the last members of the names. -/
inductive Gives : List Char → Variables → Prop where
  | object {answer : List Char} {members : List (String × Json.Value)} {vars : Variables}
      (h : Json.parseChars answer = some (.object members))
      (hfault : ∀ name, faultOf? members name = none)
      (hvars : ∀ name text, vars[name]? = some text ↔
        lastValue? members name = some (.string text)) :
      Gives answer vars

/-! ### Collecting members -/

theorem getElem?_membersByName (members : List (String × Json.Value)) (name : String) :
    (membersByName members)[name]? = lastValue? members name := by
  rw [membersByName, getElem?_foldl_insert]
  simp

/-- One member: it is at fault, or it is passed over or kept. -/
theorem collect_cons (name : String) (value : Json.Value) (rest : List (String × Json.Value)) :
    collect ((name, value) :: rest) =
      match fault? name value with
      | some detail => .error (malformed detail)
      | none => (collect rest).map fun vars =>
        match value with
        | .string text => vars.insert name text
        | _ => vars := by
  by_cases hname : name.isEmpty = true
  · cases value <;> simp [collect, fault?, hname]
  · cases value with
    | null =>
        simp only [collect, fault?, hname]
        cases collect rest <;> rfl
    | string text => simp [collect, fault?, hname]
    | bool value => simp [collect, fault?, hname]
    | number text => simp [collect, fault?, hname]
    | array items => simp [collect, fault?, hname]
    | object members => simp [collect, fault?, hname]

/-- The first member at fault ends it. -/
theorem collect_of_some {entries : List (String × Json.Value)} {detail : String}
    (h : entries.findSome? (fun entry => fault? entry.1 entry.2) = some detail) :
    collect entries = .error (malformed detail) := by
  induction entries with
  | nil => cases h
  | cons entry rest ih =>
      obtain ⟨name, value⟩ := entry
      rw [collect_cons]
      cases hfault : fault? name value with
      | some other =>
          rw [List.findSome?_cons_of_isSome (by simp [hfault]), hfault] at h
          cases h
          rfl
      | none =>
          rw [List.findSome?_cons_of_isNone (by simp [hfault])] at h
          rw [ih h]
          rfl

/-- Where no member is at fault, the texts are kept. -/
theorem collect_of_none {entries : List (String × Json.Value)}
    (h : entries.findSome? (fun entry => fault? entry.1 entry.2) = none)
    (hnodup : (entries.map Prod.fst).Nodup) :
    ∃ vars, collect entries = .ok vars ∧
      ∀ name text, vars[name]? = some text ↔ (name, .string text) ∈ entries := by
  induction entries with
  | nil => exact ⟨∅, rfl, by simp⟩
  | cons entry rest ih =>
      obtain ⟨name, value⟩ := entry
      rw [List.findSome?_eq_none_iff] at h
      rw [List.map_cons, List.nodup_cons] at hnodup
      have hrest : rest.findSome? (fun entry => fault? entry.1 entry.2) = none :=
        List.findSome?_eq_none_iff.mpr fun entry hentry => h entry (List.mem_cons_of_mem _ hentry)
      obtain ⟨vars, hcollect, hvars⟩ := ih hrest hnodup.2
      have hfault : fault? name value = none := h (name, value) List.mem_cons_self
      rw [collect_cons, hfault, hcollect]
      refine ⟨_, rfl, fun other text => ?_⟩
      -- the name does not come up again, so what was kept of the rest stays
      have hnew : ∀ text, (name, Json.Value.string text) ∉ rest :=
        fun text hmem => hnodup.1 (List.mem_map.mpr ⟨_, hmem, rfl⟩)
      by_cases hother : other = name
      · subst hother
        cases value <;> simp [hvars, hnew, eq_comm]
      · cases value <;> simp [hvars, hother, Ne.symm hother, Std.ExtTreeMap.getElem?_insert]

/-! ### The first fault of an object -/

/-- What is wrong with the first faulty member, in the order of the names. -/
def firstFault? (members : List (String × Json.Value)) : Option String :=
  (membersByName members).toList.findSome? fun entry => fault? entry.1 entry.2

theorem mem_membersByName {members : List (String × Json.Value)} {name : String}
    {value : Json.Value} :
    (name, value) ∈ (membersByName members).toList ↔ lastValue? members name = some value := by
  rw [Std.ExtTreeMap.mem_toList_iff_getElem?_eq_some, getElem?_membersByName]

theorem firstFault?_eq_none_iff {members : List (String × Json.Value)} :
    firstFault? members = none ↔ ∀ name, faultOf? members name = none := by
  simp only [firstFault?, faultOf?, List.findSome?_eq_none_iff, Option.bind_eq_none_iff]
  constructor
  · intro h name value hvalue
    exact h (name, value) (mem_membersByName.mpr hvalue)
  · rintro h ⟨name, value⟩ hentry
    exact h name value (mem_membersByName.mp hentry)

theorem exists_of_firstFault? {members : List (String × Json.Value)} {detail : String}
    (h : firstFault? members = some detail) :
    ∃ name, faultOf? members name = some detail ∧
      ∀ other, compare other name = .lt → faultOf? members other = none := by
  obtain ⟨before, ⟨name, value⟩, after, hsplit, hfault, hbefore⟩ :=
    List.findSome?_eq_some_iff.mp h
  have hvalue : lastValue? members name = some value := by
    rw [← mem_membersByName, hsplit]
    simp
  refine ⟨name, by rw [faultOf?, hvalue]; exact hfault, fun other hlt => ?_⟩
  rw [faultOf?, Option.bind_eq_none_iff]
  intro otherValue hother
  -- what is listed behind a name is not before it in the order
  have hsorted := (membersByName members).ordered_keys_toList
  rw [hsplit, List.pairwise_append, List.pairwise_cons] at hsorted
  rw [← mem_membersByName, hsplit, List.mem_append, List.mem_cons] at hother
  rcases hother with hother | hother | hother
  · exact hbefore _ hother
  · cases hother
    have hself : compare name name = .eq := Std.ReflCmp.compare_self
    rw [hself] at hlt
    cases hlt
  · have hgt := hsorted.2.1.1 _ hother
    rw [Std.OrientedCmp.gt_of_lt hlt] at hgt
    cases hgt

theorem firstFault?_eq_some_iff {members : List (String × Json.Value)} {detail : String} :
    firstFault? members = some detail ↔ ∃ name, faultOf? members name = some detail ∧
      ∀ other, compare other name = .lt → faultOf? members other = none := by
  refine ⟨exists_of_firstFault?, fun ⟨name, hfault, hfirst⟩ => ?_⟩
  cases h : firstFault? members with
  | none =>
      rw [firstFault?_eq_none_iff.mp h name] at hfault
      cases hfault
  | some other =>
      obtain ⟨name', hfault', hfirst'⟩ := exists_of_firstFault? h
      cases hcompare : compare name' name with
      | lt => simp [hfirst name' hcompare] at hfault'
      | eq =>
          rw [Std.LawfulEqCmp.eq_of_compare hcompare, hfault] at hfault'
          exact hfault'.symm
      | gt => simp [hfirst' name (Std.OrientedCmp.lt_of_gt hcompare)] at hfault

/-! ### The reader's result -/

theorem parseChars_nil : Json.parseChars [] = none := rfl

/-- No value begins like the mark. -/
theorem parseChars_mark (rest : List Char) :
    Json.parseChars (errorMark.toList ++ rest) = none := by
  have hmark : errorMark.toList = ['e', 'r', 'r', 'o', 'r', ':'] := by decide
  have hnumber : Json.NumberLiteral.read ('e' :: 'r' :: 'r' :: 'o' :: 'r' :: ':' :: rest) = none :=
    rfl
  -- what begins with none of the other signs is tried as a number
  rw [hmark, Json.parseChars]
  simp [Json.readValue, Json.skipSpace, Json.isSpace, Json.readNumber, hnumber]

theorem decodeTrimmed_mark (rest : List Char) :
    decodeTrimmed (errorMark.toList ++ rest) = .error (refusal (Text.trimChars rest)) := by
  have hmark : errorMark.toList = ['e', 'r', 'r', 'o', 'r', ':'] := by decide
  have hlength : errorMark.length = 6 := by decide
  simp [decodeTrimmed, hmark, hlength, List.isPrefixOf]

/-- An answer that is neither empty nor marked is read as JSON. -/
theorem decodeTrimmed_of_parse {answer : List Char} {value : Json.Value}
    (h : Json.parseChars answer = some value) : decodeTrimmed answer = variablesOf value := by
  have hempty : answer.isEmpty = false := by
    cases answer with
    | nil =>
        rw [parseChars_nil] at h
        cases h
    | cons c answer => rfl
  have hmark : errorMark.toList.isPrefixOf answer = false := by
    rw [Bool.eq_false_iff]
    intro hprefix
    obtain ⟨rest, rfl⟩ := List.isPrefixOf_iff_prefix.mp hprefix
    rw [parseChars_mark] at h
    cases h
  simp [decodeTrimmed, hempty, hmark, h]

theorem decodeTrimmed_of_refuses {answer : List Char} {message : String}
    (h : Refuses answer message) : decodeTrimmed answer = .error (.invalidCredential message) := by
  cases h with
  | empty => rfl
  | reason h => rw [decodeTrimmed_mark, refusal, if_neg (by simpa using h)]
  | noReason h =>
      rw [decodeTrimmed_mark, h]
      rfl
  | null h =>
      rw [decodeTrimmed_of_parse h]
      rfl

theorem decodeTrimmed_of_malforms {answer : List Char} {detail : String}
    (h : Malforms answer detail) : decodeTrimmed answer = .error (malformed detail) := by
  cases h with
  | noJson hempty hmark h =>
      simp [decodeTrimmed, hempty, h, mt List.isPrefixOf_iff_prefix.mp hmark]
  | @noObject value h hnull hobject =>
      rw [decodeTrimmed_of_parse h]
      cases value with
      | null => exact absurd rfl hnull
      | object members => exact absurd rfl (hobject members)
      | bool value => rfl
      | number text => rfl
      | string text => rfl
      | array items => rfl
  | member h hfault hfirst =>
      rw [decodeTrimmed_of_parse h]
      exact collect_of_some (firstFault?_eq_some_iff.mpr ⟨_, hfault, hfirst⟩)

/-- An object without a fault is collected. -/
theorem exists_collect {members : List (String × Json.Value)}
    (h : ∀ name, faultOf? members name = none) :
    ∃ vars, collect (membersByName members).toList = .ok vars ∧
      ∀ name text, vars[name]? = some text ↔ lastValue? members name = some (.string text) := by
  obtain ⟨vars, hcollect, hvars⟩ := collect_of_none (firstFault?_eq_none_iff.mpr h)
    (nodup_keys_toList (membersByName members))
  refine ⟨vars, hcollect, fun name text => ?_⟩
  rw [hvars, mem_membersByName]

theorem decodeTrimmed_of_gives {answer : List Char} {vars : Variables} (h : Gives answer vars) :
    decodeTrimmed answer = .ok vars := by
  obtain ⟨h, hfault, hvars⟩ := h
  obtain ⟨collected, hcollect, hcollected⟩ := exists_collect hfault
  -- the variables are given by their values, so there is only one map of them
  have hsame : collected = vars := by
    apply Std.ExtTreeMap.ext_getElem?
    intro name
    apply Option.ext
    intro text
    rw [hcollected, hvars]
  rw [decodeTrimmed_of_parse h, ← hsame]
  exact hcollect

/-- **Every answer is one of the three.** -/
theorem refuses_or_malforms_or_gives (answer : List Char) :
    (∃ message, Refuses answer message) ∨ (∃ detail, Malforms answer detail) ∨
      ∃ vars, Gives answer vars := by
  cases hparse : Json.parseChars answer with
  | none =>
      by_cases hempty : answer = []
      · subst hempty
        exact .inl ⟨_, .empty⟩
      by_cases hmark : errorMark.toList <+: answer
      · obtain ⟨rest, rfl⟩ := hmark
        by_cases hrest : Text.trimChars rest = []
        · exact .inl ⟨_, .noReason hrest⟩
        · exact .inl ⟨_, .reason hrest⟩
      · exact .inr (.inl ⟨_, .noJson hempty hmark hparse⟩)
  | some value =>
      cases value with
      | null => exact .inl ⟨_, .null hparse⟩
      | bool value => exact .inr (.inl ⟨_, .noObject hparse nofun nofun⟩)
      | number text => exact .inr (.inl ⟨_, .noObject hparse nofun nofun⟩)
      | string text => exact .inr (.inl ⟨_, .noObject hparse nofun nofun⟩)
      | array items => exact .inr (.inl ⟨_, .noObject hparse nofun nofun⟩)
      | object members =>
          cases hfault : firstFault? members with
          | some detail =>
              obtain ⟨name, hname, hfirst⟩ := exists_of_firstFault? hfault
              exact .inr (.inl ⟨detail, .member hparse hname hfirst⟩)
          | none =>
              have hfault := firstFault?_eq_none_iff.mp hfault
              obtain ⟨vars, -, hvars⟩ := exists_collect hfault
              exact .inr (.inr ⟨vars, .object hparse hfault hvars⟩)

end SecretEnv.Resolver
