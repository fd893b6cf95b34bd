import SecretEnv.Json.Writer
import SecretEnv.Proofs.Answer
import SecretEnv.Proofs.Literal
import SecretEnv.Proofs.Trim
import SecretEnv.Proofs.ValueText

/-!
# Written variables read back

**Variables that are written as an object are what an answer with that object gives**
(`decodeResponse_writeObject_iff`), in every layout, in whatever order they are written, and with
blanks of any kind around the object. Only a map with an empty name does not come back, for an
answer with one is malformed.
-/

namespace SecretEnv

namespace Json

/-! ### Members -/

/-- A member as the reader gives it. -/
def textMember (member : String × String) : String × Value := (member.1, .string member.2)

section

variable (layout : Layout)

variable {numbers : NumberLiteral → Prop} {depth : Nat}

/-- A text, written between quotes. -/
theorem denotes_writeString (text : String) :
    Denotes numbers depth ('"' :: (text.toList.flatMap writeChar ++ ['"']))
      (.value (.string text)) := by
  have hdenotes : Denotes numbers depth _ (.value (.string (String.ofList text.toList))) :=
    .string (spells_writeChars text.toList)
  rwa [String.ofList_toList] at hdenotes

/-- Written members are the members of an object as the grammar has them. -/
theorem denotes_writeMembers (member : String × String) (members : List (String × String)) :
    Denotes numbers depth (writeMembers layout (member :: members))
      (.members ((member :: members).map textMember)) := by
  induction members generalizing member with
  | nil =>
      have hlast : Denotes numbers depth _ (.members [(String.ofList member.1.toList, _)]) :=
        .lastMember layout.beforeName ⟨[], rfl⟩ layout.beforeValue layout.beforeEnd
          (spells_writeChars member.1.toList) (denotes_writeString member.2)
      simpa [writeMembers, writeMember, writeString, textMember] using hlast
  | cons next members ih =>
      have hmember : Denotes numbers depth _
          (.members ((String.ofList member.1.toList, _) :: (next :: members).map textMember)) :=
        .member layout.beforeName ⟨[], rfl⟩ layout.beforeValue ⟨[], rfl⟩
          (spells_writeChars member.1.toList) (denotes_writeString member.2) (ih next)
      simpa [writeMembers, writeMember, writeString, textMember] using hmember

/-- **A written object reads back**, member for member. -/
theorem parseChars_writeObject (members : List (String × String)) :
    parseChars (writeObject layout members) = some (.object (members.map textMember)) := by
  rw [parseChars_eq_some_iff]
  refine ⟨⟨[], rfl⟩, ⟨[], rfl⟩, writeObject layout members, by simp, ?_⟩
  cases members with
  | nil => exact .emptyObject ⟨[], rfl⟩
  | cons member members => exact .object (denotes_writeMembers layout member members)

end

end Json

/-! ### Blanks around a text -/

/-- Blanks around a text that has none at its ends are all that trimming takes. -/
theorem Text.trimChars_append {before after : List Char} {first last : Char}
    (hbefore : before.all isBlank = true) (hafter : after.all isBlank = true)
    (hfirst : isBlank first = false) (hlast : isBlank last = false) (middle : List Char) :
    trimChars (before ++ (first :: middle ++ [last]) ++ after) = first :: middle ++ [last] := by
  refine TrimsTo.eq_trimChars ⟨⟨before, after, hbefore, hafter, rfl⟩, ?_, ?_⟩
  · intro c hc
    cases hc
    exact hfirst
  · intro c hc
    rw [List.getLast?_append] at hc
    cases hc
    exact hlast

/-! ### Members by name -/

namespace Resolver

variable (vars : Variables) (visiting : Visiting)

/-- What is written of variables, as members. -/
theorem lastValue?_textMembers (name : String) :
    lastValue? ((visiting.entries vars).map Json.textMember) name =
      vars[name]?.map Json.Value.string := by
  have hvalue : lastValue? (visiting.entries vars) name = vars[name]? := by
    apply Option.ext
    intro text
    rw [lastValue?_eq_some_iff (visiting.nodup_names vars), visiting.mem_entries]
  rw [← hvalue]
  exact lastValue?_map _ _ _

/-- A text is at fault only for want of a name. -/
theorem faultOf?_textMembers {name : String} (hname : name ≠ "") :
    faultOf? ((visiting.entries vars).map Json.textMember) name = none := by
  rw [faultOf?, lastValue?_textMembers]
  cases vars[name]? with
  | none => rfl
  | some text => simp [fault?, hname]

variable {vars}

theorem gives_writeObject (layout : Json.Layout) (hnames : "" ∉ vars) :
    Gives (Json.writeObject layout (visiting.entries vars)) vars := by
  refine .object (Json.parseChars_writeObject layout _) ?_ ?_
  · intro name
    by_cases hname : name = ""
    · subst hname
      have habsent : vars[""]? = none := Std.ExtTreeMap.getElem?_eq_none hnames
      rw [faultOf?, lastValue?_textMembers, habsent]
      rfl
    · exact faultOf?_textMembers vars visiting hname
  · intro name text
    rw [lastValue?_textMembers]
    cases vars[name]? with
    | none => simp
    | some value => simp

/-- An empty name is the only fault that written variables can have. -/
theorem malforms_writeObject (layout : Json.Layout) (hnames : "" ∈ vars) :
    Malforms (Json.writeObject layout (visiting.entries vars)) "variable name is empty" := by
  obtain ⟨text, htext⟩ : ∃ text, vars[""]? = some text :=
    ⟨_, Std.ExtTreeMap.getElem?_eq_some_getElem hnames⟩
  have hfault : faultOf? ((visiting.entries vars).map Json.textMember) "" =
      some "variable name is empty" := by
    rw [faultOf?, lastValue?_textMembers, htext]
    rfl
  refine .member (Json.parseChars_writeObject layout _) hfault fun other hlt => ?_
  refine faultOf?_textMembers vars visiting ?_
  rintro rfl
  cases hlt

/-- **Written variables come back exactly where no name is empty**: for every layout, order and
blanks around the object. -/
theorem decodeResponse_writeObject_iff (vars : Variables) (visiting : Visiting)
    (layout : Json.Layout) {before after : List Char}
    (hbefore : before.all Text.isBlank = true) (hafter : after.all Text.isBlank = true) :
    decodeResponse (String.ofList
      (before ++ Json.writeObject layout (visiting.entries vars) ++ after)) = .ok vars ↔
        "" ∉ vars := by
  have htrim : Text.trimChars (before ++ Json.writeObject layout (visiting.entries vars) ++ after) =
      Json.writeObject layout (visiting.entries vars) :=
    Text.trimChars_append hbefore hafter rfl rfl _
  rw [decodeResponse, String.toList_ofList, htrim]
  constructor
  · intro hdecode hempty
    rw [decodeTrimmed_of_malforms (malforms_writeObject visiting layout hempty)] at hdecode
    cases hdecode
  · intro hnames
    exact decodeTrimmed_of_gives (gives_writeObject visiting layout hnames)

/-- Names and values that need every kind of escape, or look like an answer of another kind, come
back from both layouts, whether they are written backwards or in the order of the names. -/
theorem odd_variables_come_back :
    let vars : Variables := .ofEntries
      [("error:", "null"), ("\"\\\x00", "\x1f\u2028\t😀"), (" A\n", "\x7b\"A\":1\x7d"), ("null", "")]
    let backwards : Visiting := ⟨fun vars => vars.toList.reverse, fun _ => List.reverse_perm _⟩
    let blanks := ['\u3000', '\x0b', '\x85', '\n']
    blanks.all Text.isBlank = true ∧ "" ∉ vars ∧
      decodeResponse (String.ofList
        (blanks ++ Json.writeObject .compact (backwards.entries vars) ++ blanks)) = .ok vars ∧
      decodeResponse (String.ofList
        (blanks ++ Json.writeObject .lines (Visiting.byName.entries vars) ++ blanks)) =
          .ok vars := by
  intro vars backwards blanks
  have hblanks : blanks.all Text.isBlank = true := by decide
  have hnames : "" ∉ vars := by decide
  refine ⟨hblanks, hnames, ?_, ?_⟩
  · exact (decodeResponse_writeObject_iff vars backwards .compact hblanks hblanks).mpr hnames
  · exact (decodeResponse_writeObject_iff vars .byName .lines hblanks hblanks).mpr hnames

end Resolver

end SecretEnv
