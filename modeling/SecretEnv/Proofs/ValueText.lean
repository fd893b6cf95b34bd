import Mathlib.Data.List.DropRight
import SecretEnv.Json.Writer
import SecretEnv.Proofs.NumberText
import SecretEnv.Proofs.StringText

/-!
# The texts of values

**A text is a value exactly if the format's grammar makes it one** (`parseChars_eq_some_iff`).
The grammar (`Denotes`) is that of RFC 8259 with two limits: how deep arrays and objects may nest,
and which numbers are taken. It knows neither fuel nor an order in which to look at characters; the
reader is sound for it at every fuel, and complete at fuel for twice the length of the text.
-/

namespace SecretEnv.Json

open NumberLiteral (Writes Ended)

/-! ### The grammar -/

/-- What a piece of text can stand for: a value, or what is between the brackets of an array or the
braces of an object. -/
inductive Part where
  | value (value : Value)
  | items (items : List Value)
  | members (members : List (String × Value))

/-- The grammar of values, for certain numbers and with so many levels to nest. Gaps stand around
items, names and values, and between the brackets or braces of an empty array or object. -/
inductive Denotes (numbers : NumberLiteral → Prop) : Nat → List Char → Part → Prop where
  | null {depth : Nat} : Denotes numbers depth ['n', 'u', 'l', 'l'] (.value .null)
  | yes {depth : Nat} : Denotes numbers depth ['t', 'r', 'u', 'e'] (.value (.bool true))
  | no {depth : Nat} : Denotes numbers depth ['f', 'a', 'l', 's', 'e'] (.value (.bool false))
  | string {depth : Nat} {body cs : List Char} (h : Spells body cs) :
      Denotes numbers depth ('"' :: (body ++ ['"'])) (.value (.string (String.ofList cs)))
  | number {depth : Nat} {literal : NumberLiteral} {text : List Char} (h : Writes literal text)
      (htaken : numbers literal) :
      Denotes numbers depth text (.value (.number (String.ofList text)))
  | emptyArray {depth : Nat} (gap : Gap) :
      Denotes numbers (depth + 1) ('[' :: (gap ++ [']'])) (.value (.array []))
  | array {depth : Nat} {body : List Char} {items : List Value}
      (h : Denotes numbers depth body (.items items)) :
      Denotes numbers (depth + 1) ('[' :: (body ++ [']'])) (.value (.array items))
  | emptyObject {depth : Nat} (gap : Gap) :
      Denotes numbers (depth + 1) ('\x7b' :: (gap ++ ['\x7d'])) (.value (.object []))
  | object {depth : Nat} {body : List Char} {members : List (String × Value)}
      (h : Denotes numbers depth body (.members members)) :
      Denotes numbers (depth + 1) ('\x7b' :: (body ++ ['\x7d'])) (.value (.object members))
  | lastItem {depth : Nat} {text : List Char} {item : Value} (before after : Gap)
      (h : Denotes numbers depth text (.value item)) :
      Denotes numbers depth (before ++ (text ++ after)) (.items [item])
  | item {depth : Nat} {text rest : List Char} {item : Value} {items : List Value}
      (before after : Gap) (h : Denotes numbers depth text (.value item))
      (hrest : Denotes numbers depth rest (.items items)) :
      Denotes numbers depth (before ++ (text ++ (after ++ ',' :: rest))) (.items (item :: items))
  | lastMember {depth : Nat} {body cs text : List Char} {value : Value}
      (beforeName afterName before after : Gap) (hname : Spells body cs)
      (h : Denotes numbers depth text (.value value)) :
      Denotes numbers depth
        (beforeName ++ '"' :: (body ++ '"' :: (afterName ++ ':' :: (before ++ (text ++ after)))))
        (.members [(String.ofList cs, value)])
  | member {depth : Nat} {body cs text rest : List Char} {value : Value}
      {members : List (String × Value)} (beforeName afterName before after : Gap)
      (hname : Spells body cs) (h : Denotes numbers depth text (.value value))
      (hrest : Denotes numbers depth rest (.members members)) :
      Denotes numbers depth
        (beforeName ++ '"' :: (body ++ '"' :: (afterName ++ ':' :: (before ++ (text ++
          (after ++ ',' :: rest))))))
        (.members ((String.ofList cs, value) :: members))

/-- A whole text is a value: gaps stand before and behind it. -/
def IsText (numbers : NumberLiteral → Prop) (depth : Nat) (cs : List Char) (value : Value) : Prop :=
  ∃ (before after : Gap) (text : List Char), cs = before ++ (text ++ after) ∧
    Denotes numbers depth text (.value value)

variable {numbers : NumberLiteral → Prop} {depth : Nat} {text : List Char} {value : Value}
  {part : Part}

/-! ### How texts begin -/

/-- The characters with which values begin. -/
def begins (c : Char) : Bool :=
  c.isDigit || ['n', 't', 'f', '"', '[', '\x7b', '-'].contains c

theorem isSpace_of_begins {c : Char} (h : begins c = true) : isSpace c = false := by
  rw [Bool.eq_false_iff]
  intro hspace
  simp only [isSpace, Bool.or_eq_true, decide_eq_true_eq] at hspace
  rcases hspace with ((rfl | rfl) | rfl) | rfl <;> cases h

/-- A text of a value begins with such a character. -/
theorem Denotes.exists_cons (h : Denotes numbers depth text (.value value)) :
    ∃ c more, text = c :: more ∧ begins c = true := by
  cases h with
  | number h =>
      obtain ⟨c, more, rfl, hc⟩ := h.exists_cons
      refine ⟨c, more, rfl, ?_⟩
      rcases hc with rfl | hc
      · rfl
      · simp [begins, hc]
  | _ => exact ⟨_, _, rfl, rfl⟩

@[simp] theorem skipSpace_gap (gap : Gap) (rest : List Char) :
    skipSpace (gap ++ rest) = skipSpace rest :=
  List.dropWhile_append_of_pos (List.all_eq_true.mp gap.2)

theorem skipSpace_of_not_isSpace {c : Char} (h : isSpace c = false) (rest : List Char) :
    skipSpace (c :: rest) = c :: rest :=
  List.dropWhile_cons_of_neg (by simp [h])

/-- Behind a gap what is no space is found. -/
theorem skipSpace_gap_cons {c : Char} (h : isSpace c = false) (gap : Gap) (rest : List Char) :
    skipSpace (gap ++ c :: rest) = c :: rest := by
  rw [skipSpace_gap, skipSpace_of_not_isSpace h]

/-- Behind a gap a value is found as it is. -/
theorem Denotes.skipSpace_eq (h : Denotes numbers depth text (.value value)) (gap : Gap)
    (rest : List Char) : skipSpace (gap ++ (text ++ rest)) = text ++ rest := by
  obtain ⟨c, more, rfl, hc⟩ := h.exists_cons
  rw [List.cons_append, skipSpace_gap_cons (isSpace_of_begins hc)]

/-- What is between brackets or braces begins, behind a gap, as a value does, and not with what
closes them. -/
theorem Denotes.exists_skipSpace (h : Denotes numbers depth text part) (rest : List Char) :
    ∃ c more, skipSpace (text ++ rest) = c :: more ∧ begins c = true := by
  have hvalue : ∀ {text value}, Denotes numbers depth text (.value value) → ∀ (gap : Gap) rest,
      ∃ c more, skipSpace (gap ++ (text ++ rest)) = c :: more ∧ begins c = true := by
    intro text value h gap rest
    obtain ⟨c, more, rfl, hc⟩ := h.exists_cons
    exact ⟨c, more ++ rest, h.skipSpace_eq gap rest, hc⟩
  cases part with
  | value value => exact hvalue h ⟨[], rfl⟩ rest
  | items items =>
      cases h with
      | lastItem before after h =>
          rw [List.append_assoc, List.append_assoc]
          exact hvalue h before _
      | item before after h hrest =>
          rw [List.append_assoc, List.append_assoc]
          exact hvalue h before _
  | members members =>
      cases h with
      | lastMember beforeName =>
          rw [List.append_assoc]
          exact ⟨'"', _, skipSpace_gap_cons rfl beforeName _, rfl⟩
      | member beforeName =>
          rw [List.append_assoc]
          exact ⟨'"', _, skipSpace_gap_cons rfl beforeName _, rfl⟩

/-! ### What is read denotes -/

/-- Spaces in front are a gap. -/
theorem exists_gap_skipSpace (cs : List Char) : ∃ gap : Gap, cs = gap ++ skipSpace cs :=
  ⟨⟨cs.takeWhile isSpace, List.all_takeWhile⟩, List.takeWhile_append_dropWhile.symm⟩

/-- Two gaps are one. -/
theorem exists_gap_append (first second : Gap) :
    ∃ gap : Gap, gap.val = first.val ++ second.val :=
  ⟨⟨first ++ second, by rw [List.all_append, first.2, second.2]; rfl⟩, rfl⟩

/-- A gap before what is between brackets or braces belongs to it. -/
theorem Denotes.gap_append (h : Denotes numbers depth text part)
    (hpart : ∀ value, part ≠ .value value) (gap : Gap) : Denotes numbers depth (gap ++ text) part := by
  cases part with
  | value value => exact absurd rfl (hpart value)
  | items items =>
      cases h with
      | lastItem before after h =>
          obtain ⟨front, hfront⟩ := exists_gap_append gap before
          rw [← List.append_assoc, ← hfront]
          exact .lastItem front after h
      | item before after h hrest =>
          obtain ⟨front, hfront⟩ := exists_gap_append gap before
          rw [← List.append_assoc, ← hfront]
          exact .item front after h hrest
  | members members =>
      cases h with
      | lastMember before afterName beforeValue after hname h =>
          obtain ⟨front, hfront⟩ := exists_gap_append gap before
          rw [← List.append_assoc, ← hfront]
          exact .lastMember front afterName beforeValue after hname h
      | member before afterName beforeValue after hname h hrest =>
          obtain ⟨front, hfront⟩ := exists_gap_append gap before
          rw [← List.append_assoc, ← hfront]
          exact .member front afterName beforeValue after hname h hrest

/-- The numbers that are read. -/
abbrev Taken (literal : NumberLiteral) : Prop := literal.inRange = true

/-- What the readers take off a text denotes what they give, whatever their fuel. -/
structure Sound (fuel : Nat) : Prop where
  value : ∀ {depth cs value rest}, readValue fuel depth cs = some (value, rest) →
    ∃ (gap : Gap) (text : List Char), cs = gap ++ (text ++ rest) ∧
      Denotes Taken depth text (.value value)
  items : ∀ {depth cs items rest}, readItems fuel depth cs = some (items, rest) →
    ∃ body, cs = body ++ ']' :: rest ∧ Denotes Taken depth body (.items items)
  members : ∀ {depth cs members rest}, readMembers fuel depth cs = some (members, rest) →
    ∃ body, cs = body ++ '\x7d' :: rest ∧ Denotes Taken depth body (.members members)

section

variable {fuel : Nat} {cs rest : List Char}

theorem Sound.readValue (ih : Sound fuel)
    (h : readValue (fuel + 1) depth cs = some (value, rest)) :
    ∃ (gap : Gap) (text : List Char), cs = gap ++ (text ++ rest) ∧
      Denotes Taken depth text (.value value) := by
  obtain ⟨gap, hgap⟩ := exists_gap_skipSpace cs
  suffices htext : ∃ text, skipSpace cs = text ++ rest ∧
      Denotes Taken depth text (.value value) by
    obtain ⟨text, hsplit, hdenotes⟩ := htext
    exact ⟨gap, text, by rw [← hsplit, ← hgap], hdenotes⟩
  -- one case for each way in which a value can begin
  rw [Json.readValue] at h
  split at h
  · rename_i heq
    cases h
    exact ⟨_, heq, .null⟩
  · rename_i heq
    cases h
    exact ⟨_, heq, .yes⟩
  · rename_i heq
    cases h
    exact ⟨_, heq, .no⟩
  · rename_i more heq
    obtain ⟨cs, hread, rfl⟩ :=
      (map_eq_some_iff (f := fun cs => Value.string (String.ofList cs))).mp h
    obtain ⟨body, rfl, hbody⟩ := exists_of_readString hread
    exact ⟨'"' :: (body ++ ['"']), by simp [heq], .string hbody⟩
  · rename_i more heq
    cases depth with
    | zero => cases h
    | succ depth =>
        -- the bracket is closed behind a gap, or items come first
        obtain ⟨inner, hinner⟩ := exists_gap_skipSpace more
        dsimp only at h
        split at h
        · rename_i after hclose
          cases h
          rw [hclose] at hinner
          exact ⟨'[' :: (inner ++ [']']), by simp [heq, hinner], .emptyArray inner⟩
        · obtain ⟨items, hread, rfl⟩ := map_eq_some_iff.mp h
          obtain ⟨body, hbody, hdenotes⟩ := ih.items hread
          rw [hbody] at hinner
          exact ⟨'[' :: (inner ++ body ++ [']']), by simp [heq, hinner],
            .array (hdenotes.gap_append nofun inner)⟩
  · rename_i more heq
    cases depth with
    | zero => cases h
    | succ depth =>
        obtain ⟨inner, hinner⟩ := exists_gap_skipSpace more
        dsimp only at h
        split at h
        · rename_i after hclose
          cases h
          rw [hclose] at hinner
          exact ⟨'\x7b' :: (inner ++ ['\x7d']), by simp [heq, hinner], .emptyObject inner⟩
        · obtain ⟨members, hread, rfl⟩ := map_eq_some_iff.mp h
          obtain ⟨body, hbody, hdenotes⟩ := ih.members hread
          rw [hbody] at hinner
          exact ⟨'\x7b' :: (inner ++ body ++ ['\x7d']), by simp [heq, hinner],
            .object (hdenotes.gap_append nofun inner)⟩
  · obtain ⟨text, hread, rfl⟩ :=
      (map_eq_some_iff (f := fun text => Value.number (String.ofList text))).mp h
    obtain ⟨hsplit, literal, hrange, hwrites⟩ := exists_of_readNumber hread
    exact ⟨text, hsplit, .number hwrites hrange⟩

theorem Sound.readItems (ih : Sound fuel) {items : List Value}
    (h : readItems (fuel + 1) depth cs = some (items, rest)) :
    ∃ body, cs = body ++ ']' :: rest ∧ Denotes Taken depth body (.items items) := by
  rw [Json.readItems] at h
  split at h
  · cases h
  · rename_i item after hread
    obtain ⟨before, text, rfl, hitem⟩ := ih.value hread
    obtain ⟨behind, hbehind⟩ := exists_gap_skipSpace after
    split at h
    · rename_i more hcomma
      obtain ⟨others, hothers, rfl⟩ := map_eq_some_iff.mp h
      obtain ⟨body, rfl, hbody⟩ := ih.items hothers
      refine ⟨_, ?_, .item before behind hitem hbody⟩
      rw [hbehind, hcomma]
      simp
    · rename_i close hclose
      cases h
      refine ⟨_, ?_, .lastItem before behind hitem⟩
      rw [hbehind, hclose]
      simp
    · cases h

theorem Sound.readMembers (ih : Sound fuel) {members : List (String × Value)}
    (h : readMembers (fuel + 1) depth cs = some (members, rest)) :
    ∃ body, cs = body ++ '\x7d' :: rest ∧ Denotes Taken depth body (.members members) := by
  obtain ⟨front, hfront⟩ := exists_gap_skipSpace cs
  rw [Json.readMembers] at h
  -- a quote, a name, a colon and a value must follow one another
  split at h
  case h_2 => cases h
  rename_i more hquote
  split at h
  · cases h
  rename_i name afterName hname
  obtain ⟨body, rfl, hbody⟩ := exists_of_readString hname
  obtain ⟨gap, hgap⟩ := exists_gap_skipSpace afterName
  split at h
  case h_2 => cases h
  rename_i start hcolon
  split at h
  · cases h
  rename_i value afterValue hvalue
  obtain ⟨before, text, rfl, hdenotes⟩ := ih.value hvalue
  obtain ⟨behind, hbehind⟩ := exists_gap_skipSpace afterValue
  dsimp only at h
  split at h
  · rename_i more hcomma
    obtain ⟨others, hothers, rfl⟩ := map_eq_some_iff.mp h
    obtain ⟨tail, rfl, htail⟩ := ih.members hothers
    refine ⟨_, ?_, .member front gap before behind hbody hdenotes htail⟩
    rw [hfront, hquote, hgap, hcolon, hbehind, hcomma]
    simp
  · rename_i close hclose
    cases h
    refine ⟨_, ?_, .lastMember front gap before behind hbody hdenotes⟩
    rw [hfront, hquote, hgap, hcolon, hbehind, hclose]
    simp
  · cases h

end

theorem sound (fuel : Nat) : Sound fuel := by
  induction fuel with
  | zero => exact ⟨fun h => by simp [Json.readValue] at h, fun h => by simp [Json.readItems] at h,
      fun h => by simp [Json.readMembers] at h⟩
  | succ fuel ih => exact ⟨ih.readValue, ih.readItems, ih.readMembers⟩

/-! ### What denotes is read -/

/-- What may stand behind a value does not go on with a number. -/
theorem ended_append {after : List Char} (hafter : after.all isSpace = true) {rest : List Char}
    (hrest : ∀ c ∈ rest.head?, c = ',' ∨ c = ']' ∨ c = '\x7d') : Ended (after ++ rest) := by
  intro c hc
  have hcase : isSpace c = true ∨ c = ',' ∨ c = ']' ∨ c = '\x7d' := by
    cases after with
    | nil => exact .inr (hrest c hc)
    | cons space after =>
        cases hc
        exact .inl (List.all_eq_true.mp hafter c List.mem_cons_self)
  rcases hcase with hspace | rfl | rfl | rfl
  · simp only [isSpace, Bool.or_eq_true, decide_eq_true_eq] at hspace
    rcases hspace with ((rfl | rfl) | rfl) | rfl <;> decide
  all_goals decide

theorem skipSpace_skipSpace (cs : List Char) : skipSpace (skipSpace cs) = skipSpace cs :=
  List.dropWhile_idempotent _ _

theorem readValue_skipSpace (fuel depth : Nat) (cs : List Char) :
    readValue fuel depth (skipSpace cs) = readValue fuel depth cs := by
  cases fuel with
  | zero => simp only [readValue]
  | succ fuel => rw [readValue, readValue, skipSpace_skipSpace]

theorem readItems_skipSpace (fuel depth : Nat) (cs : List Char) :
    readItems fuel depth (skipSpace cs) = readItems fuel depth cs := by
  cases fuel with
  | zero => simp only [readItems]
  | succ fuel => rw [readItems, readItems, readValue_skipSpace]

theorem readMembers_skipSpace (fuel depth : Nat) (cs : List Char) :
    readMembers fuel depth (skipSpace cs) = readMembers fuel depth cs := by
  cases fuel with
  | zero => simp only [readMembers]
  | succ fuel => rw [readMembers, readMembers, skipSpace_skipSpace]

section

variable {start rest more after : List Char} {c : Char} {fuel : Nat}

/-- An array with something in it is read through its items. -/
theorem readValue_array (hcs : skipSpace start = '[' :: rest) (hrest : skipSpace rest = c :: more)
    (hc : begins c = true) :
    readValue (fuel + 1) (depth + 1) start =
      (readItems fuel depth rest).map fun (items, after) => (.array items, after) := by
  have hclose : c ≠ ']' := by
    intro heq
    rw [heq] at hc
    cases hc
  rw [readValue, hcs, ← readItems_skipSpace]
  simp only [hrest]
  split
  · rename_i heq
    cases heq
    exact absurd rfl hclose
  · rfl

/-- An object with something in it is read through its members. -/
theorem readValue_object (hcs : skipSpace start = '\x7b' :: rest)
    (hrest : skipSpace rest = c :: more) (hc : begins c = true) :
    readValue (fuel + 1) (depth + 1) start =
      (readMembers fuel depth rest).map fun (members, after) => (.object members, after) := by
  have hclose : c ≠ '\x7d' := by
    intro heq
    rw [heq] at hc
    cases hc
  rw [readValue, hcs, ← readMembers_skipSpace]
  simp only [hrest]
  split
  · rename_i heq
    cases heq
    exact absurd rfl hclose
  · rfl

/-- What begins with a sign or a digit is read as a number. -/
theorem readValue_number (hcs : skipSpace start = c :: more) (hc : c = '-' ∨ c.isDigit = true) :
    readValue (fuel + 1) depth start =
      (readNumber (c :: more)).map fun (text, after) => (.number (String.ofList text), after) := by
  have hother : c ∉ ['n', 't', 'f', '"', '[', '\x7b'] := by
    intro hmem
    simp only [List.mem_cons, List.not_mem_nil, or_false] at hmem
    rcases hc with rfl | hc
    · revert hmem
      decide
    · rcases hmem with rfl | rfl | rfl | rfl | rfl | rfl <;> cases hc
  simp only [List.mem_cons, List.not_mem_nil, or_false, not_or] at hother
  obtain ⟨hn, ht, hf, hquote, hbracket, hbrace⟩ := hother
  rw [readValue, hcs]
  simp [hn, ht, hf, hquote, hbracket, hbrace]

variable {item : Value}

theorem readItems_last (hitem : readValue fuel depth start = some (item, rest))
    (hclose : skipSpace rest = ']' :: after) :
    readItems (fuel + 1) depth start = some ([item], after) := by
  simp only [readItems, hitem, hclose]

theorem readItems_comma (hitem : readValue fuel depth start = some (item, rest))
    (hcomma : skipSpace rest = ',' :: more) :
    readItems (fuel + 1) depth start =
      (readItems fuel depth more).map fun (items, after) => (item :: items, after) := by
  simp only [readItems, hitem, hcomma]

variable {body cs : List Char}

theorem readMembers_last (beforeName afterName : Gap) (hname : Spells body cs)
    (hvalue : readValue fuel depth start = some (item, rest))
    (hclose : skipSpace rest = '\x7d' :: after) :
    readMembers (fuel + 1) depth
      (beforeName ++ '"' :: (body ++ '"' :: (afterName ++ ':' :: start))) =
      some ([(String.ofList cs, item)], after) := by
  rw [readMembers, skipSpace_gap_cons rfl]
  simp only [readString_of_spells hname, skipSpace_gap_cons (c := ':') rfl, hvalue, hclose]

theorem readMembers_comma (beforeName afterName : Gap) (hname : Spells body cs)
    (hvalue : readValue fuel depth start = some (item, rest))
    (hcomma : skipSpace rest = ',' :: more) :
    readMembers (fuel + 1) depth
      (beforeName ++ '"' :: (body ++ '"' :: (afterName ++ ':' :: start))) =
      (readMembers fuel depth more).map fun (members, after) =>
        ((String.ofList cs, item) :: members, after) := by
  rw [readMembers, skipSpace_gap_cons rfl]
  simp only [readString_of_spells hname, skipSpace_gap_cons (c := ':') rfl, hvalue, hcomma]

end

/-- Between what opens and what closes stands the body. -/
theorem skipSpace_bracketed {opens closes : Char} (h : isSpace opens = false) (gap : Gap)
    (body rest : List Char) :
    skipSpace (gap ++ (opens :: (body ++ [closes]) ++ rest)) =
      opens :: (body ++ closes :: rest) := by
  rw [List.cons_append, skipSpace_gap_cons h, List.append_assoc, List.singleton_append]

/-- A text that denotes something is read as that, whatever may stand behind it, given fuel for
twice its length: each step down takes a character off the text, and goes through two readers. -/
def Part.ReadBack (depth : Nat) (text : List Char) : Part → Prop
  | .value v => ∀ (gap : Gap) (rest : List Char) (fuel : Nat), Ended rest →
      2 * text.length ≤ fuel →
      readValue (fuel + 1) depth (gap ++ (text ++ rest)) = some (v, rest)
  | .items vs => ∀ (rest : List Char) (fuel : Nat), 2 * text.length + 1 ≤ fuel →
      readItems (fuel + 1) depth (text ++ ']' :: rest) = some (vs, rest)
  | .members ms => ∀ (rest : List Char) (fuel : Nat), 2 * text.length + 1 ≤ fuel →
      readMembers (fuel + 1) depth (text ++ '\x7d' :: rest) = some (ms, rest)

theorem readBack (h : Denotes Taken depth text part) : part.ReadBack depth text := by
  induction h with
  | null =>
      intro gap rest fuel hrest hfuel
      rw [readValue, skipSpace_gap]
      rfl
  | yes =>
      intro gap rest fuel hrest hfuel
      rw [readValue, skipSpace_gap]
      rfl
  | no =>
      intro gap rest fuel hrest hfuel
      rw [readValue, skipSpace_gap]
      rfl
  | @string depth body cs hbody =>
      intro gap rest fuel hrest hfuel
      rw [readValue, skipSpace_bracketed rfl]
      simp [readString_of_spells hbody]
  | @number depth literal text hwrites htaken =>
      intro gap rest fuel hrest hfuel
      have hread := readNumber_of_writes hwrites htaken hrest
      have hdenotes : Denotes Taken depth text _ := .number hwrites htaken
      have hskip := hdenotes.skipSpace_eq gap rest
      obtain ⟨c, more, rfl, hc⟩ := hwrites.exists_cons
      rw [readValue_number hskip hc]
      change (readNumber (c :: more ++ rest)).map _ = _
      rw [hread]
      rfl
  | emptyArray inner =>
      intro gap rest fuel hrest hfuel
      rw [readValue, skipSpace_bracketed rfl]
      simp only [skipSpace_gap_cons (c := ']') rfl]
  | @array depth body items h ih =>
      intro gap rest fuel hrest hfuel
      simp only [List.length_cons, List.length_append, List.length_nil] at hfuel
      obtain ⟨less, rfl⟩ := Nat.exists_eq_add_one_of_ne_zero (show fuel ≠ 0 by omega)
      obtain ⟨c, more, hfirst, hc⟩ := h.exists_skipSpace (']' :: rest)
      rw [readValue_array (skipSpace_bracketed rfl gap body rest) hfirst hc,
        ih rest less (by omega)]
      rfl
  | emptyObject inner =>
      intro gap rest fuel hrest hfuel
      rw [readValue, skipSpace_bracketed rfl]
      simp only [skipSpace_gap_cons (c := '\x7d') rfl]
  | @object depth body members h ih =>
      intro gap rest fuel hrest hfuel
      simp only [List.length_cons, List.length_append, List.length_nil] at hfuel
      obtain ⟨less, rfl⟩ := Nat.exists_eq_add_one_of_ne_zero (show fuel ≠ 0 by omega)
      obtain ⟨c, more, hfirst, hc⟩ := h.exists_skipSpace ('\x7d' :: rest)
      rw [readValue_object (skipSpace_bracketed rfl gap body rest) hfirst hc,
        ih rest less (by omega)]
      rfl
  | @lastItem depth text item before after h ih =>
      intro rest fuel hfuel
      simp only [List.length_append] at hfuel
      obtain ⟨less, rfl⟩ := Nat.exists_eq_add_one_of_ne_zero (show fuel ≠ 0 by omega)
      have hended : Ended (after ++ ']' :: rest) := ended_append after.2 (by simp)
      rw [List.append_assoc, List.append_assoc]
      exact readItems_last (ih before _ less hended (by omega)) (skipSpace_gap_cons rfl after rest)
  | @item depth text rest item items before after h hrest ih ihRest =>
      intro behind fuel hfuel
      simp only [List.length_append, List.length_cons] at hfuel
      obtain ⟨less, rfl⟩ := Nat.exists_eq_add_one_of_ne_zero (show fuel ≠ 0 by omega)
      have hended : Ended (after ++ ',' :: (rest ++ ']' :: behind)) :=
        ended_append after.2 (by simp)
      simp only [List.append_assoc, List.cons_append]
      rw [readItems_comma (ih before _ less hended (by omega)) (skipSpace_gap_cons rfl after _),
        ihRest behind less (by omega)]
      rfl
  | @lastMember depth body cs text value beforeName afterName before after hname h ih =>
      intro rest fuel hfuel
      simp only [List.length_append, List.length_cons] at hfuel
      obtain ⟨less, rfl⟩ := Nat.exists_eq_add_one_of_ne_zero (show fuel ≠ 0 by omega)
      have hended : Ended (after ++ '\x7d' :: rest) := ended_append after.2 (by simp)
      simp only [List.append_assoc, List.cons_append]
      exact readMembers_last beforeName afterName hname (ih before _ less hended (by omega))
        (skipSpace_gap_cons rfl after rest)
  | @member depth body cs text rest value members beforeName afterName before after hname h hrest
      ih ihRest =>
      intro behind fuel hfuel
      simp only [List.length_append, List.length_cons] at hfuel
      obtain ⟨less, rfl⟩ := Nat.exists_eq_add_one_of_ne_zero (show fuel ≠ 0 by omega)
      have hended : Ended (after ++ ',' :: (rest ++ '\x7d' :: behind)) :=
        ended_append after.2 (by simp)
      simp only [List.append_assoc, List.cons_append]
      rw [readMembers_comma beforeName afterName hname (ih before _ less hended (by omega))
        (skipSpace_gap_cons rfl after _), ihRest behind less (by omega)]
      rfl

/-- **A text is read as a value exactly if the grammar makes it one**, with numbers that a double
can hold and at most 127 levels of arrays and objects. -/
theorem parseChars_eq_some_iff {cs : List Char} :
    parseChars cs = some value ↔ IsText Taken depthLimit cs value := by
  unfold parseChars
  constructor
  · intro h
    split at h
    · rename_i found rest hread
      split at h
      · rename_i hrest
        cases h
        obtain ⟨before, text, rfl, hdenotes⟩ := (sound _).value hread
        have hspaces : rest.all isSpace = true := by
          rw [List.all_eq_true]
          exact List.dropWhile_eq_nil_iff.mp (List.isEmpty_iff.mp hrest)
        exact ⟨before, ⟨rest, hspaces⟩, text, rfl, hdenotes⟩
      · cases h
    · cases h
  · intro htext
    obtain ⟨before, after, text, rfl, hdenotes⟩ := htext
    have hended : Ended ((after : List Char) ++ []) := ended_append after.2 nofun
    rw [List.append_nil] at hended
    have hread := readBack hdenotes before after
      (2 * (before ++ (text ++ after) : List Char).length + 1) hended (by simp; omega)
    have hrest : skipSpace after = [] :=
      List.dropWhile_eq_nil_iff.mpr (List.all_eq_true.mp after.2)
    rw [hread]
    simp [hrest]

end SecretEnv.Json
