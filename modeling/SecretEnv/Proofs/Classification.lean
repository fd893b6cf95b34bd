import SecretEnv.Proofs.Answer
import SecretEnv.Proofs.Trim
import SecretEnv.Proofs.Utf8Order
import SecretEnv.Proofs.ValueText

/-!
# What every answer is taken for

**What an answer is taken for can be told from its text, by the grammar of JSON and the last
member of each name** (`Resolver.decodeResponse_classifies`). The reader makes three tests on the
text before it reads JSON, and then goes through the members one by one; here neither order is left.
Of several members that may not be what they are the one is reported whose name has the least
octets, but a member without a name before any other.
-/

namespace SecretEnv.Resolver

open Json (IsText Taken)

/-! ### The reader's result is what the answer says -/

section

variable {answer : List Char}

/-- The result and what the answer says go together. -/
theorem decodeTrimmed_says (answer : List Char) :
    (∃ message, decodeTrimmed answer = .error (.invalidCredential message) ∧
      Refuses answer message) ∨
    (∃ detail, decodeTrimmed answer = .error (malformed detail) ∧ Malforms answer detail) ∨
    ∃ vars, decodeTrimmed answer = .ok vars ∧ Gives answer vars := by
  rcases refuses_or_malforms_or_gives answer with ⟨_, h⟩ | ⟨_, h⟩ | ⟨_, h⟩
  · exact .inl ⟨_, decodeTrimmed_of_refuses h, h⟩
  · exact .inr (.inl ⟨_, decodeTrimmed_of_malforms h, h⟩)
  · exact .inr (.inr ⟨_, decodeTrimmed_of_gives h, h⟩)

theorem decodeTrimmed_eq_refused_iff {message : String} :
    decodeTrimmed answer = .error (.invalidCredential message) ↔ Refuses answer message := by
  refine ⟨fun h => ?_, decodeTrimmed_of_refuses⟩
  rcases decodeTrimmed_says answer with ⟨_, hresult, hrefuses⟩ | ⟨_, hresult, -⟩ | ⟨_, hresult, -⟩
  all_goals
    rw [hresult] at h
    cases h
  exact hrefuses

theorem decodeTrimmed_eq_malformed_iff {detail : String} :
    decodeTrimmed answer = .error (malformed detail) ↔ Malforms answer detail := by
  refine ⟨fun h => ?_, decodeTrimmed_of_malforms⟩
  rcases decodeTrimmed_says answer with ⟨_, hresult, -⟩ | ⟨_, hresult, hmalforms⟩ | ⟨_, hresult, -⟩
  all_goals
    rw [hresult] at h
    cases h
  exact hmalforms

theorem decodeTrimmed_eq_ok_iff {vars : Variables} :
    decodeTrimmed answer = .ok vars ↔ Gives answer vars := by
  refine ⟨fun h => ?_, decodeTrimmed_of_gives⟩
  rcases decodeTrimmed_says answer with ⟨_, hresult, -⟩ | ⟨_, hresult, -⟩ | ⟨_, hresult, hgives⟩
  all_goals
    rw [hresult] at h
    cases h
  exact hgives

end

/-! ### Refusals -/

/-- The text of an answer is a value. -/
def IsJson (answer : List Char) (value : Json.Value) : Prop :=
  IsText Taken Json.depthLimit answer value

theorem refuses_iff {answer : List Char} {message : String} :
    Refuses answer message ↔
      (answer = [] ∧ message = refusedMessage) ∨
      (∃ rest reason, answer = errorMark.toList ++ rest ∧ Text.TrimsTo rest reason ∧
        message = if reason = [] then refusedMessage else String.ofList reason) ∨
      (IsJson answer .null ∧ message = refusedMessage) := by
  constructor
  · intro h
    cases h with
    | empty => exact .inl ⟨rfl, rfl⟩
    | @reason rest h =>
        exact .inr (.inl ⟨rest, _, rfl, Text.trimsTo_trimChars rest, by rw [if_neg h]⟩)
    | @noReason rest h =>
        exact .inr (.inl ⟨rest, _, rfl, Text.trimsTo_trimChars rest, by rw [if_pos h]⟩)
    | null h => exact .inr (.inr ⟨Json.parseChars_eq_some_iff.mp h, rfl⟩)
  · intro h
    rcases h with ⟨rfl, rfl⟩ | ⟨rest, reason, rfl, hreason, rfl⟩ | ⟨hnull, rfl⟩
    · exact .empty
    · obtain rfl := hreason.eq_trimChars
      by_cases h : Text.trimChars rest = []
      · rw [if_pos h]
        exact .noReason h
      · rw [if_neg h]
        exact .reason h
    · exact .null (Json.parseChars_eq_some_iff.mpr hnull)

/-- No text that the grammar makes a value begins with the mark, whatever its limits are. -/
theorem not_mark_of_isText {numbers : Json.NumberLiteral → Prop} {depth : Nat} {answer : List Char}
    {value : Json.Value} (h : IsText numbers depth answer value) :
    ¬ errorMark.toList <+: answer := by
  obtain ⟨before, after, text, rfl, hdenotes⟩ := h
  obtain ⟨c, more, rfl, hc⟩ := hdenotes.exists_cons
  intro hprefix
  obtain ⟨rest, hmark⟩ := hprefix
  have hhead := congrArg List.head? hmark
  obtain ⟨_ | ⟨space, spaces⟩, hbefore⟩ := before
  · cases hhead
    cases hc
  · cases hhead
    cases List.all_eq_true.mp hbefore _ List.mem_cons_self

/-! ### Members -/

/-- What the value of a member has to be. -/
def Allowed (value : Json.Value) : Prop := value = .null ∨ ∃ text, value = .string text

/-- The last member of a name is not what it has to be, and no such name comes before it in the
order of octets. -/
structure FirstBad (members : List (String × Json.Value)) (name : String) (value : Json.Value) :
    Prop where
  last : lastValue? members name = some value
  bad : ¬ Allowed value
  first : ∀ other otherValue, lastValue? members other = some otherValue → ¬ Allowed otherValue →
    ¬ Utf8.encode other < Utf8.encode name

theorem fault?_eq_none_iff {name : String} {value : Json.Value} (hname : name ≠ "") :
    fault? name value = none ↔ Allowed value := by
  cases value <;> simp [fault?, hname, Allowed]

theorem fault?_eq_some_iff {name detail : String} {value : Json.Value} (hname : name ≠ "") :
    fault? name value = some detail ↔ ¬ Allowed value ∧
      detail = s!"value for '{name}' is {value.kind}, expected a string" := by
  rw [eq_comm (b := s!"value for '{name}' is {value.kind}, expected a string")]
  cases value <;> simp [fault?, hname, Allowed]

section

variable {members : List (String × Json.Value)} {name detail : String}

theorem faultOf?_empty_eq_some_iff :
    faultOf? members "" = some detail ↔
      lastValue? members "" ≠ none ∧ detail = "variable name is empty" := by
  rw [eq_comm (b := "variable name is empty")]
  cases h : lastValue? members "" <;> simp [faultOf?, h, fault?]

theorem faultOf?_eq_none_iff :
    faultOf? members name = none ↔
      ∀ value, lastValue? members name = some value → name ≠ "" ∧ Allowed value := by
  by_cases hname : name = ""
  · subst hname
    cases h : lastValue? members "" <;> simp [faultOf?, h, fault?]
  · simp only [faultOf?, Option.bind_eq_none_iff, fault?_eq_none_iff hname, ne_eq, hname,
      not_false_eq_true, true_and]

theorem faultOf?_eq_some_iff (hname : name ≠ "") :
    faultOf? members name = some detail ↔ ∃ value, lastValue? members name = some value ∧
      ¬ Allowed value ∧ detail = s!"value for '{name}' is {value.kind}, expected a string" := by
  simp only [faultOf?, Option.bind_eq_some_iff, fault?_eq_some_iff hname]

/-- The empty name comes before all others. -/
theorem compare_empty (hname : name ≠ "") : compare "" name = .lt := by
  rw [Utf8.compare_eq_lt_iff]
  obtain ⟨b, bs, hbs⟩ := List.exists_cons_of_ne_nil (Utf8.encode_ne_nil hname)
  rw [hbs]
  exact .nil

/-- The member that is reported: one without a name, or else the first that is not what it has to
be. -/
theorem firstFault_iff :
    (∃ name, faultOf? members name = some detail ∧
      ∀ other, compare other name = .lt → faultOf? members other = none) ↔
    (lastValue? members "" ≠ none ∧ detail = "variable name is empty") ∨
    (lastValue? members "" = none ∧ ∃ name value, FirstBad members name value ∧
      detail = s!"value for '{name}' is {value.kind}, expected a string") := by
  constructor
  · intro h
    obtain ⟨name, hfault, hfirst⟩ := h
    by_cases hname : name = ""
    · subst hname
      exact .inl (faultOf?_empty_eq_some_iff.mp hfault)
    · obtain ⟨value, hvalue, hbad, hdetail⟩ := (faultOf?_eq_some_iff hname).mp hfault
      have hempty : lastValue? members "" = none := by
        have hnone := faultOf?_eq_none_iff.mp (hfirst "" (compare_empty hname))
        cases h : lastValue? members "" with
        | none => rfl
        | some value => exact absurd rfl (hnone value h).1
      refine .inr ⟨hempty, name, value, ⟨hvalue, hbad, ?_⟩, hdetail⟩
      intro other otherValue hother hotherBad hlt
      have hnone := faultOf?_eq_none_iff.mp (hfirst other (Utf8.compare_eq_lt_iff.mpr hlt))
      exact hotherBad (hnone otherValue hother).2
  · intro h
    rcases h with hempty | ⟨hempty, name, value, ⟨hvalue, hbad, hfirst⟩, hdetail⟩
    · refine ⟨"", faultOf?_empty_eq_some_iff.mpr hempty, fun other hlt => ?_⟩
      -- nothing comes before the empty name
      rw [Utf8.compare_eq_lt_iff] at hlt
      exact absurd hlt (List.not_lt_nil _)
    · have hname : name ≠ "" := by
        intro heq
        rw [heq, hempty] at hvalue
        cases hvalue
      refine ⟨name, (faultOf?_eq_some_iff hname).mpr ⟨value, hvalue, hbad, hdetail⟩, ?_⟩
      intro other hlt
      rw [faultOf?_eq_none_iff]
      intro otherValue hother
      constructor
      · intro heq
        rw [heq, hempty] at hother
        cases hother
      · by_contra hotherBad
        exact hfirst other otherValue hother hotherBad (Utf8.compare_eq_lt_iff.mp hlt)

end

section

variable {answer : List Char}

theorem gives_iff {vars : Variables} :
    Gives answer vars ↔ ∃ members, IsJson answer (.object members) ∧
      (∀ name value, lastValue? members name = some value → name ≠ "" ∧ Allowed value) ∧
      ∀ name text, vars[name]? = some text ↔
        lastValue? members name = some (.string text) := by
  constructor
  · intro h
    obtain ⟨h, hfault, hvars⟩ := h
    exact ⟨_, Json.parseChars_eq_some_iff.mp h, fun name => faultOf?_eq_none_iff.mp (hfault name),
      hvars⟩
  · intro h
    obtain ⟨members, h, hallowed, hvars⟩ := h
    exact .object (Json.parseChars_eq_some_iff.mpr h)
      (fun name => faultOf?_eq_none_iff.mpr (hallowed name)) hvars

theorem malforms_iff {detail : String} :
    Malforms answer detail ↔
      (answer ≠ [] ∧ ¬ errorMark.toList <+: answer ∧ (∀ value, ¬ IsJson answer value) ∧
        detail = "resolver output is not valid JSON") ∨
      (∃ value, IsJson answer value ∧ value ≠ .null ∧ (∀ members, value ≠ .object members) ∧
        detail = s!"expected a JSON object, got {value.kind}") ∨
      (∃ members, IsJson answer (.object members) ∧
        ((lastValue? members "" ≠ none ∧ detail = "variable name is empty") ∨
        (lastValue? members "" = none ∧ ∃ name value, FirstBad members name value ∧
          detail = s!"value for '{name}' is {value.kind}, expected a string"))) := by
  constructor
  · intro h
    cases h with
    | noJson hempty hmark h =>
        refine .inl ⟨hempty, hmark, fun value hvalue => ?_, rfl⟩
        rw [Json.parseChars_eq_some_iff.mpr hvalue] at h
        cases h
    | noObject h hnull hobject =>
        exact .inr (.inl ⟨_, Json.parseChars_eq_some_iff.mp h, hnull, hobject, rfl⟩)
    | member h hfault hfirst =>
        exact .inr (.inr ⟨_, Json.parseChars_eq_some_iff.mp h,
          firstFault_iff.mp ⟨_, hfault, hfirst⟩⟩)
  · intro h
    rcases h with
      ⟨hempty, hmark, hnone, rfl⟩ | ⟨value, h, hnull, hobject, rfl⟩ | ⟨members, h, hfault⟩
    · refine .noJson hempty hmark ?_
      cases hparse : Json.parseChars answer with
      | none => rfl
      | some value => exact absurd (Json.parseChars_eq_some_iff.mp hparse) (hnone value)
    · exact .noObject (Json.parseChars_eq_some_iff.mpr h) hnull hobject
    · obtain ⟨name, hname, hfirst⟩ := firstFault_iff.mpr hfault
      exact .member (Json.parseChars_eq_some_iff.mpr h) hname hfirst

end

/-- What the result for an answer without blanks around it has to be. -/
structure Classified (answer : List Char) (result : Except Error Variables) : Prop where
  /-- The credential is refused if the answer is empty, or has the mark, or is a null: in the words
  behind the mark, or else in the fixed ones. -/
  refused : ∀ message, result = .error (.invalidCredential message) ↔
    (answer = [] ∧ message = refusedMessage) ∨
    (∃ rest reason, answer = errorMark.toList ++ rest ∧ Text.TrimsTo rest reason ∧
      message = if reason = [] then refusedMessage else String.ofList reason) ∨
    (IsJson answer .null ∧ message = refusedMessage)
  /-- It gives variables if it is an object in which no name is empty and the last member of each is
  a text or a null; they are those texts. -/
  given : ∀ vars, result = .ok vars ↔ ∃ members, IsJson answer (.object members) ∧
    (∀ name value, lastValue? members name = some value → name ≠ "" ∧ Allowed value) ∧
    ∀ name text, vars[name]? = some text ↔ lastValue? members name = some (.string text)
  /-- It is malformed if it is no JSON, or another value, or an object with a member that has no
  name, or else with one that is reported as the first that is neither. -/
  faulty : ∀ detail, result = .error (malformed detail) ↔
    (answer ≠ [] ∧ ¬ errorMark.toList <+: answer ∧ (∀ value, ¬ IsJson answer value) ∧
      detail = "resolver output is not valid JSON") ∨
    (∃ value, IsJson answer value ∧ value ≠ .null ∧ (∀ members, value ≠ .object members) ∧
      detail = s!"expected a JSON object, got {value.kind}") ∨
    (∃ members, IsJson answer (.object members) ∧
      ((lastValue? members "" ≠ none ∧ detail = "variable name is empty") ∨
      (lastValue? members "" = none ∧ ∃ name value, FirstBad members name value ∧
        detail = s!"value for '{name}' is {value.kind}, expected a string")))
  /-- It is one of the three. -/
  total : (∃ message, result = .error (.invalidCredential message)) ∨ (∃ vars, result = .ok vars) ∨
    ∃ detail, result = .error (malformed detail)
  /-- No value has the mark, whatever its depth and its numbers. -/
  unmarked : ∀ numbers depth value, IsText numbers depth answer value →
    ¬ errorMark.toList <+: answer

/-- **Every answer is classified by its text**, which is what stands between the blanks at its
ends. -/
theorem decodeResponse_classifies (stdout : String) :
    ∃ answer, (∀ kept, Text.TrimsTo stdout.toList kept ↔ kept = answer) ∧
      Classified answer (decodeResponse stdout) := by
  refine ⟨Text.trimChars stdout.toList, fun kept => Text.trimsTo_iff.trans eq_comm, ?_⟩
  refine ⟨?refused, ?given, ?faulty, ?total, fun numbers depth value => not_mark_of_isText⟩
  case refused =>
    intro message
    exact decodeTrimmed_eq_refused_iff.trans refuses_iff
  case given =>
    intro vars
    exact decodeTrimmed_eq_ok_iff.trans gives_iff
  case faulty =>
    intro detail
    exact decodeTrimmed_eq_malformed_iff.trans malforms_iff
  case total =>
    rcases decodeTrimmed_says (Text.trimChars stdout.toList) with
      ⟨message, h, -⟩ | ⟨detail, h, -⟩ | ⟨vars, h, -⟩
    · exact .inl ⟨message, h⟩
    · exact .inr (.inr ⟨detail, h⟩)
    · exact .inr (.inl ⟨vars, h⟩)

/-- Of an object between blanks the later member `a` counts and the null leaves nothing, and a mark
between blanks refuses the credential in the words behind it. -/
theorem classifies_object_and_mark_between_blanks :
    let object := "\x7b\"a\":[],\"b\":null,\"a\":\"x\"\x7d"
    let padded := " \n" ++ object ++ "\u0085"
    let marked := "\terror:  ENVKEY invalid\n"
    (∃ members vars, IsJson object.toList (.object members) ∧
      lastValue? members "a" = some (.string "x") ∧
      decodeResponse padded = .ok vars ∧ vars.toList = [("a", "x")]) ∧
    decodeResponse marked = .error (.invalidCredential "ENVKEY invalid") := by
  intro object padded marked
  constructor
  · have htrim : Text.TrimsTo padded.toList object.toList := Text.trimsTo_iff.mpr (by decide)
    have hread : (decodeResponse padded).toOption.map (·.toList) = some [("a", "x")] := by
      decide +kernel
    obtain ⟨vars, hgiven, hlist⟩ :
        ∃ vars, decodeResponse padded = .ok vars ∧ vars.toList = [("a", "x")] := by
      cases hresult : decodeResponse padded with
      | error error => simp [hresult, Except.toOption] at hread
      | ok vars => exact ⟨vars, rfl, by simpa [hresult, Except.toOption] using hread⟩
    have hvalue : vars["a"]? = some "x" := by
      rw [← Std.ExtTreeMap.mem_toList_iff_getElem?_eq_some, hlist]
      exact List.mem_singleton_self _
    obtain ⟨answer, htrims, hclassified⟩ := decodeResponse_classifies padded
    obtain rfl := (htrims _).mp htrim
    obtain ⟨members, hjson, -, htexts⟩ := (hclassified.given vars).mp hgiven
    exact ⟨members, vars, hjson, (htexts "a" "x").mp hvalue, hgiven, hlist⟩
  · have htrim : Text.TrimsTo marked.toList "error:  ENVKEY invalid".toList :=
      Text.trimsTo_iff.mpr (by decide)
    have hreason : Text.TrimsTo "  ENVKEY invalid".toList "ENVKEY invalid".toList :=
      Text.trimsTo_iff.mpr (by decide)
    obtain ⟨answer, htrims, hclassified⟩ := decodeResponse_classifies marked
    obtain rfl := (htrims _).mp htrim
    exact (hclassified.refused _).mpr (.inr (.inl ⟨_, _, rfl, hreason, rfl⟩))

/-- The later member `a` counts, and it is none that is reported. -/
example : (decodeResponse " \x7b\"b\":true,\"a\":[],\"a\":null\x7d\u0085" matches
    .error (.malformedResponse "value for 'b' is a boolean, expected a string" none)) = true := by
  decide +kernel

end SecretEnv.Resolver
