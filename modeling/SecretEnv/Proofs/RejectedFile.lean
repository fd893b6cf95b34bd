import Mathlib.Data.Bool.AllAny
import SecretEnv.Proofs.Redaction
import SecretEnv.Proofs.Trim
import SecretEnv.Proofs.WholeFile

/-!
# What a rejected file shows of its credential

**The error for a file that cannot be read quotes the line that cannot be read, or its value**
(`OverrideFile.value_shown_iff_refused`). So it shows a credential in full if the value in the
credential's own line is what stops the reading: a quote or a brace that is left open, a backslash
in front of an ordinary character, something behind a blank. If anything else stops it, the error is
the same for every credential that can be read. A value without quotes, backslashes, dollars and
blanks always can, so its own line never brings it into an error.
-/

namespace SecretEnv

/-- A text stands somewhere in another one. -/
def Text.Holds (text part : String) : Prop := part.toList <:+: text.toList

instance (text part : String) : Decidable (Text.Holds text part) :=
  inferInstanceAs (Decidable (_ <:+: _))

namespace Override

/-- The line that gives the credential a value. -/
def credentialLine (value : String) : String := Names.credential ++ "=" ++ value

/-- A value that cannot be read, whatever its references stand for, and where that shows. -/
def Refuses (value : List Char) (failure : Failure) : Prop :=
  nothingLeft value = false ∧ ∀ lookup, readValue lookup value = .error failure

/-- A character that means itself wherever it stands in the open. -/
def IsOrdinary (c : Char) : Prop :=
  c ≠ '\'' ∧ c ≠ '"' ∧ c ≠ '\\' ∧ c ≠ '$' ∧ c ≠ ' ' ∧ c ≠ '\t'

instance (c : Char) : Decidable (IsOrdinary c) := inferInstanceAs (Decidable (_ ∧ _))

/-! ### What is quoted of a line -/

/-- What is quoted in the fault of a line is part of the line. -/
theorem text_infix_of_readLine {lookup : String → String} {line : String} {fault : LineFault}
    (h : readLine lookup line = .error fault) : fault.text.toList <:+: line.toList := by
  simp only [readLine] at h
  split at h
  · cases h
  split at h
  · cases h
    exact List.infix_rfl
  rename_i name rest hkey
  split at h
  · cases h
  split at h
  · cases h
  rename_i failure hvalue
  cases h
  have hend : Text.trimEnd line.toList <+: line.toList := by
    obtain ⟨after, -, hsplit⟩ := Text.exists_trimEnd_append line.toList
    exact ⟨after, hsplit.symm⟩
  have hrest : Text.trimStart rest <:+ Text.trimEnd line.toList :=
    (List.dropWhile_suffix _).trans ((readKey_suffix hkey).trans (List.dropWhile_suffix _))
  have htext : (valueFault (Text.trimStart rest) failure).text.toList = Text.trimStart rest := by
    cases failure <;> simp [valueFault]
  rw [htext]
  exact hrest.isInfix.trans hend.isInfix

/-- The line of a credential is read by its value alone. -/
theorem readLine_credentialLine (lookup : String → String) (value : String) :
    readLine lookup (credentialLine value) =
      let kept := Text.trimChars value.toList
      if nothingLeft kept then .ok (some (Names.credential, ""))
      else
        match readValue lookup kept with
        | .ok text => .ok (some (Names.credential, String.ofList text))
        | .error failure => .error (valueFault kept failure) := by
  have hline : (credentialLine value).toList = "ENVKEY".toList ++ '=' :: value.toList := by
    simp [credentialLine, Names.credential]
  have hstart (rest : List Char) : Text.trimStart ("ENVKEY".toList ++ '=' :: rest) =
      "ENVKEY".toList ++ '=' :: rest := rfl
  have hkey (rest : List Char) :
      readKey ("ENVKEY".toList ++ '=' :: rest) = .ok ("ENVKEY".toList, rest) := rfl
  have hnothing (rest : List Char) : nothingLeft ("ENVKEY".toList ++ '=' :: rest) = false := rfl
  have hname : String.ofList "ENVKEY".toList = Names.credential := rfl
  generalize hread : readLine lookup (credentialLine value) = result
  simp only [readLine, hline, Text.trimEnd_append_cons (show Text.isBlank '=' = false by decide),
    hstart, hkey, hnothing, Text.trimStart_trimEnd, hname, Bool.false_eq_true, if_false] at hread
  exact hread.symm

/-- The line of a credential stops the reading exactly if its value is refused. -/
theorem stops_credentialLine_iff {value : String} {stop : Stop} :
    Stops (Utf8.encode (credentialLine value)) stop ↔
      ∃ failure, Refuses (Text.trimChars value.toList) failure ∧
        stop = .malformed (valueFault (Text.trimChars value.toList) failure) := by
  constructor
  · intro h
    generalize hoctets : Utf8.encode (credentialLine value) = octets at h
    cases h with
    | notText hdecode =>
        rw [Utf8.decode_eq_ok_iff.mpr hoctets] at hdecode
        cases hdecode
    | malformed hline =>
        obtain rfl := Utf8.encode_injective hoctets
        have hfault := hline fun _ => ""
        rw [readLine_credentialLine] at hfault
        simp only at hfault
        split at hfault
        · cases hfault
        rename_i hleft
        split at hfault
        · cases hfault
        · rename_i failure hfailure
          cases hfault
          exact ⟨failure,
            ⟨Bool.eq_false_iff.mpr hleft, fun lookup => readFrom_error_congr hfailure⟩, rfl⟩
  · rintro ⟨failure, ⟨hleft, hrefused⟩, rfl⟩
    refine .malformed fun lookup => ?_
    rw [readLine_credentialLine]
    simp only [hleft, hrefused lookup, Bool.false_eq_true, if_false]

/-- Ordinary characters are taken as they are. -/
theorem readFrom_append_of_ordinary {front : List Char} (h : ∀ c ∈ front, IsOrdinary c)
    (lookup : String → String) (index : Nat) (rest : List Char) :
    readFrom lookup index (.plain false) (front ++ rest) =
      (readFrom lookup (index + front.length) (.plain false) rest).map (front ++ ·) := by
  induction front generalizing index with
  | nil =>
      simp only [List.nil_append, List.length_nil, Nat.add_zero]
      cases readFrom lookup index (.plain false) rest <;> rfl
  | cons c front ih =>
      obtain ⟨hfirst, hfront⟩ := List.forall_mem_cons.mp h
      obtain ⟨hsingle, hdouble, hslash, hdollar, hspace, htab⟩ := hfirst
      have hmove : move lookup (.plain false) c = .go [c] (.plain false) := by
        simp [move, hsingle, hdouble, hslash, hdollar, hspace, htab]
      have hindex : index + (front.length + 1) = index + 1 + front.length := by omega
      rw [List.cons_append, readFrom, hmove, List.length_cons, hindex]
      simp only [ih hfront]
      cases readFrom lookup (index + 1 + front.length) (.plain false) rest <;> rfl

theorem not_refuses_of_ordinary {value : List Char} (h : ∀ c ∈ value, IsOrdinary c)
    (failure : Failure) : ¬ Refuses value failure := by
  rintro ⟨-, hrefused⟩
  have hread := hrefused fun _ => ""
  rw [readValue, ← List.append_nil value, readFrom_append_of_ordinary h] at hread
  cases hread

/-- Behind a blank nothing but a comment may follow. -/
theorem refuses_of_word_behind_blank {front rest : List Char} {c : Char}
    (hfront : ∀ d ∈ front, IsOrdinary d) (hcomment : front.head? ≠ some '#') (hspace : c ≠ ' ')
    (htab : c ≠ '\t') (hmark : c ≠ '#') :
    Refuses (front ++ ' ' :: c :: rest) (.character (front.length + 1)) := by
  constructor
  · cases front with
    | nil => rfl
    | cons first front => simpa [nothingLeft] using hcomment
  · intro lookup
    have hblank : move lookup (.plain false) ' ' = .go [] .done := rfl
    have hword : move lookup .done c = .refuse := by
      simp [move, hspace, htab, hmark]
    rw [readValue, readFrom_append_of_ordinary hfront, Nat.zero_add, readFrom, hblank]
    simp only [readFrom, hword, Except.map]

/-! ### Places in the list of lines -/

/-- Of two lines in one list, the one comes before the other, or both stand at one place. -/
theorem before_or_eq_or_after {α : Type} {before before' after after' : List α} {line line' : α}
    (h : before ++ line :: after = before' ++ line' :: after') :
    (∃ between, before = before' ++ line' :: between ∧ after' = between ++ line :: after) ∨
      (before = before' ∧ line = line' ∧ after = after') ∨
      ∃ between, before' = before ++ line :: between ∧ after = between ++ line' :: after' := by
  rcases List.append_eq_append_iff.mp h with ⟨between, rfl, htail⟩ | ⟨between, rfl, htail⟩
  · cases between with
    | nil =>
        cases htail
        exact .inr (.inl ⟨(List.append_nil _).symm, rfl, rfl⟩)
    | cons first between =>
        cases htail
        exact .inr (.inr ⟨between, rfl, rfl⟩)
  · cases between with
    | nil =>
        cases htail
        exact .inr (.inl ⟨List.append_nil _, rfl, rfl⟩)
    | cons first between =>
        cases htail
        exact .inl ⟨between, rfl, rfl⟩

/-- A line that is not what stops the reading may be another one that is not. -/
theorem FirstStop.exists_replaced {before before' after after' : List Octets}
    {line other octets : Octets} {stop : Stop}
    (h : FirstStop (before ++ line :: after) before' octets after' stop)
    (hline : (∀ octets ∈ before, Readable octets) → Readable line)
    (hother : (∀ octets ∈ before, Readable octets) → Readable other) :
    ∃ front back, FirstStop (before ++ other :: after) front octets back stop := by
  obtain ⟨hsplit, hbefore, hstops⟩ := h
  rcases before_or_eq_or_after hsplit with ⟨between, rfl, -⟩ | ⟨rfl, rfl, -⟩ | ⟨between, rfl, rfl⟩
  · exact ⟨before', between ++ other :: after, by simp, hbefore, hstops⟩
  · exact absurd hstops ((hline hbefore).not_stops stop)
  · rw [List.forall_mem_append, List.forall_mem_cons] at hbefore
    obtain ⟨hfront, -, hbetween⟩ := hbefore
    refine ⟨before ++ other :: between, after', by simp, ?_, hstops⟩
    rw [List.forall_mem_append, List.forall_mem_cons]
    exact ⟨hfront, hother hfront, hbetween⟩

end Override

namespace OverrideFile

/-! ### The words of the error -/

/-- The words of an error about a file that is there, without the path and what is quoted. -/
def wordsAround (offset : Nat) : List String :=
  ["override file ", ": failed to open file", ": failed to parse file", ": malformed line ",
    s!" at offset {offset}"]

/-- A text that stands neither in the path nor on another line nor in the words of an error, and
has no quote in it, with which it might reach from one of them into the next. -/
structure Apart (path : String) (others : List Octets) (text : String) : Prop where
  path : ¬ Text.Holds path text
  others : ∀ line, Utf8.encode line ∈ others → ¬ Text.Holds line text
  words : ∀ offset, ∀ words ∈ wordsAround offset, ¬ Text.Holds words text
  quote : '\'' ∉ text.toList

/-- The value of the credential is what stops the reading of a file: the file is open to this
process, the lines before can be read, and the value cannot. -/
def StoppedBy (readable : Bool) (before : List Octets) (value : String) : Prop :=
  readable = true ∧ (∀ octets ∈ before, Override.Readable octets) ∧
    ∃ failure, Override.Refuses (Text.trim value).toList failure

theorem message_overrideFile (path detail : String) (cause : Option String) :
    (Error.overrideFile path detail cause).message = s!"override file '{path}': {detail}" := by
  -- the equations of `message` would take long to make, for all the texts in it
  delta Error.message
  rfl

theorem message_fault (fault : Override.LineFault) :
    fault.message = s!"malformed line '{fault.text}' at offset {fault.offset}" := rfl

/-- The error for a line that cannot be read, in one piece. -/
theorem message_malformed (path : String) (fault : Override.LineFault) (cause : Option String) :
    (Error.overrideFile path fault.message cause).message =
      s!"override file '{path}': malformed line '{fault.text}' at offset {fault.offset}" := by
  have hwords : "': malformed line '" = "': " ++ "malformed line '" := by decide
  rw [message_overrideFile, message_fault]
  simp only [toString, hwords, String.append_assoc]

theorem toList_message (path detail : String) (cause : Option String) :
    (Error.overrideFile path detail cause).message.toList =
      "override file ".toList ++ '\'' :: (path.toList ++ '\'' :: (": " ++ detail).toList) := by
  have hopening : "override file '".toList = "override file ".toList ++ ['\''] := by decide
  have hclosing : "': ".toList = '\'' :: ": ".toList := by decide
  rw [message_overrideFile]
  simp only [toString, String.toList_append, hopening, hclosing, List.append_assoc,
    List.cons_append, List.nil_append]

theorem toList_faultMessage (fault : Override.LineFault) :
    (": " ++ fault.message).toList = ": malformed line ".toList ++
      '\'' :: (fault.text.toList ++ '\'' :: s!" at offset {fault.offset}".toList) := by
  have hwords : ": malformed line ".toList = ": ".toList ++ "malformed line ".toList := by decide
  have hopening : "malformed line '".toList = "malformed line ".toList ++ ['\''] := by decide
  have hclosing : "' at offset ".toList = '\'' :: " at offset ".toList := by decide
  rw [message_fault]
  simp only [toString, String.toList_append, hwords, hopening, hclosing, List.append_assoc,
    List.cons_append, List.nil_append]

/-- An error about a file holds what one of its parts holds, if that has no quote in it. -/
theorem holds_message_iff {value : String} (hquote : '\'' ∉ value.toList) (path detail : String)
    (cause : Option String) :
    Text.Holds (Error.overrideFile path detail cause).message value ↔
      Text.Holds "override file " value ∨ Text.Holds path value ∨
        Text.Holds (": " ++ detail) value := by
  unfold Text.Holds
  rw [toList_message, infix_append_cons_iff hquote, infix_append_cons_iff hquote]

theorem holds_fault_iff {value : String} (hquote : '\'' ∉ value.toList)
    (fault : Override.LineFault) :
    Text.Holds (": " ++ fault.message) value ↔
      Text.Holds ": malformed line " value ∨ Text.Holds fault.text value ∨
        Text.Holds s!" at offset {fault.offset}" value := by
  unfold Text.Holds
  rw [toList_faultMessage, infix_append_cons_iff hquote, infix_append_cons_iff hquote]

/-- A value with a character that is no digit and in none of the words is in none of them, whatever
number is among them. -/
theorem not_holds_words {value : String} {c : Char} (hc : c ∈ value.toList)
    (hdigit : c.isDigit = false)
    (hwords : ∀ words ∈ " at offset " :: wordsAround 0, c ∉ words.toList) (offset : Nat) :
    ∀ words ∈ wordsAround offset, ¬ Text.Holds words value := by
  intro words hmem hholds
  have hcmem : c ∈ words.toList := hholds.subset hc
  simp only [wordsAround, List.mem_cons, List.not_mem_nil, or_false] at hmem
  rcases hmem with rfl | rfl | rfl | rfl | rfl
  · exact hwords _ (by simp [wordsAround]) hcmem
  · exact hwords _ (by simp [wordsAround]) hcmem
  · exact hwords _ (by simp [wordsAround]) hcmem
  · exact hwords _ (by simp [wordsAround]) hcmem
  · have hnumber : s!" at offset {offset}".toList =
        " at offset ".toList ++ Nat.toDigits 10 offset := by
      rw [String.toList_append, ← Nat.toList_repr]
      rfl
    rw [hnumber, List.mem_append] at hcmem
    rcases hcmem with hword | hnumeral
    · exact hwords _ List.mem_cons_self hword
    · rw [Nat.isDigit_of_mem_toDigits (by decide) (by decide) hnumeral] at hdigit
      cases hdigit

section

variable {files : FileTree} {env : Environment} {path : String} {content : Octets}
  {readable executable : Bool} {before after : List Octets} {value : String}

/-- Of a line that cannot be read, the error shows the value only if the line holds it. -/
theorem Apart.holds_message_iff {others : List Octets} (h : Apart path others value)
    (fault : Override.LineFault) (cause : Option String) :
    Text.Holds (Error.overrideFile path fault.message cause).message value ↔
      Text.Holds fault.text value := by
  have hwords := h.words fault.offset
  simp only [wordsAround, List.forall_mem_cons] at hwords
  obtain ⟨hopening, -, -, hmiddle, hend, -⟩ := hwords
  rw [OverrideFile.holds_message_iff h.quote, holds_fault_iff h.quote]
  simp only [hopening, h.path, hmiddle, hend, false_or, or_false]

/-- Of a file that cannot be opened, or a line that is no text, nothing is quoted. -/
theorem Apart.not_holds_message {others : List Octets} (h : Apart path others value)
    {detail : String} (hdetail : ": " ++ detail ∈ wordsAround 0) (cause : Option String) :
    ¬ Text.Holds (Error.overrideFile path detail cause).message value := by
  rw [OverrideFile.holds_message_iff h.quote]
  rintro (hopening | hpath | hrest)
  · exact h.words 0 _ List.mem_cons_self hopening
  · exact h.path hpath
  · exact h.words 0 _ hdetail hrest

/-- Where the value of the credential stops the reading, the error quotes all of it but the blanks
around it. -/
theorem read_of_stoppedBy
    (hfind : files.find path = .ok (.file content readable executable))
    (hlines : Override.lines content =
      before ++ Utf8.encode (Override.credentialLine value) :: after)
    (h : StoppedBy readable before value) (env : Environment) :
    ∃ fault : Override.LineFault, fault.text = Text.trim value ∧ read files env path =
      .error (.overrideFile path fault.message (some (causeOf (.malformed fault)))) := by
  obtain ⟨rfl, hbefore, failure, hrefuses⟩ := h
  rw [Text.toList_trim] at hrefuses
  have hstops := Override.stops_credentialLine_iff.mpr ⟨failure, hrefuses, rfl⟩
  refine ⟨Override.valueFault (Text.trimChars value.toList) failure, ?_,
    read_of_unreadable (.line hfind ⟨hlines, hbefore, hstops⟩)⟩
  cases failure <;> rfl

/-- The first line that stops the reading is that of the credential, or another one, and then the
value is not what stops it. -/
theorem stoppedBy_or_other {octets : Octets} {before' after' : List Octets} {stop : Override.Stop}
    (hfirst : Override.FirstStop (before ++ Utf8.encode (Override.credentialLine value) :: after)
      before' octets after' stop) :
    StoppedBy true before value ∨ (octets ∈ before ++ after ∧ ¬ StoppedBy true before value) := by
  obtain ⟨hsplit, hbefore, hstops⟩ := hfirst
  rcases Override.before_or_eq_or_after hsplit with
    ⟨between, rfl, -⟩ | ⟨rfl, rfl, -⟩ | ⟨between, rfl, rfl⟩
  · refine .inr ⟨by simp, fun hstopped => ?_⟩
    exact (hstopped.2.1 octets (by simp)).not_stops stop hstops
  · obtain ⟨failure, hrefuses, -⟩ := Override.stops_credentialLine_iff.mp hstops
    exact .inl ⟨rfl, hbefore, failure, by rwa [Text.toList_trim]⟩
  · refine .inr ⟨by simp, ?_⟩
    rintro ⟨-, -, failure, hrefuses⟩
    rw [Text.toList_trim] at hrefuses
    have hline := Override.stops_credentialLine_iff.mpr ⟨failure, hrefuses, rfl⟩
    exact (hbefore _ (by simp)).not_stops _ hline

theorem readable_of_not_stoppedBy (h : ¬ StoppedBy true before value)
    (hbefore : ∀ octets ∈ before, Override.Readable octets) :
    Override.Readable (Utf8.encode (Override.credentialLine value)) := by
  rcases Override.readable_or_stops (Utf8.encode (Override.credentialLine value)) with
    hreadable | ⟨stop, hstops⟩
  · exact hreadable
  · obtain ⟨failure, hrefuses, -⟩ := Override.stops_credentialLine_iff.mp hstops
    exact absurd ⟨rfl, hbefore, failure, by rwa [Text.toList_trim]⟩ h

/-- Another line that stops the reading does not show the value. -/
theorem Apart.not_holds_of_stops {others : List Octets} (h : Apart path others value)
    {octets : Octets} (hmem : octets ∈ others) {stop : Override.Stop}
    (hstops : Override.Stops octets stop) (cause : Option String) :
    ¬ Text.Holds (Error.overrideFile path stop.message cause).message value := by
  cases hstops with
  | notText hdecode =>
      exact h.not_holds_message (by simp [wordsAround, Override.Stop.message]) cause
  | malformed hline =>
      rw [Override.Stop.message, h.holds_message_iff]
      intro htext
      exact h.others _ hmem (htext.trans (Override.text_infix_of_readLine (hline fun _ => "")))

/-- The error shows what stands nowhere else exactly if the value is what stops the reading, and has
it between the blanks around it. -/
theorem Apart.holds_error_iff
    (hfind : files.find path = .ok (.file content readable executable))
    (hlines : Override.lines content =
      before ++ Utf8.encode (Override.credentialLine value) :: after)
    {part : String} (h : Apart path (before ++ after) part) {error : Error}
    (hread : read files env path = .error error) :
    Text.Holds error.message part ↔
      StoppedBy readable before value ∧ Text.Holds (Text.trim value) part := by
  by_cases hstopped : StoppedBy readable before value
  · obtain ⟨fault, htext, hfault⟩ := read_of_stoppedBy hfind hlines hstopped env
    rw [hread] at hfault
    cases hfault
    rw [h.holds_message_iff, htext]
    simp only [hstopped, true_and]
  · simp only [hstopped, false_and, iff_false]
    cases read_eq_error_iff.mp hread with
    | noFile hnone => cases hnone _ hfind
    | program hprogram => cases hfind.symm.trans hprogram
    | closed hclosed => exact h.not_holds_message (by simp [wordsAround]) _
    | line hopen hfirst =>
        rw [hfind] at hopen
        cases hopen
        rw [hlines] at hfirst
        rcases stoppedBy_or_other hfirst with hvalue | ⟨hmem, -⟩
        · exact absurd hvalue hstopped
        · exact h.not_holds_of_stops hmem hfirst.stops _

/-- What is not about the value does not depend on it. -/
theorem read_error_of_not_stoppedBy {other : FileTree} {otherContent : Octets}
    {otherExecutable : Bool} {otherValue : String}
    (hfind : files.find path = .ok (.file content readable executable))
    (hlines : Override.lines content =
      before ++ Utf8.encode (Override.credentialLine value) :: after)
    (hother : other.find path = .ok (.file otherContent readable otherExecutable))
    (hotherLines : Override.lines otherContent =
      before ++ Utf8.encode (Override.credentialLine otherValue) :: after)
    (h : ¬ StoppedBy readable before value) (hotherValue : ¬ StoppedBy readable before otherValue)
    {error : Error} (hread : read files env path = .error error) (otherEnv : Environment) :
    read other otherEnv path = .error error := by
  cases read_eq_error_iff.mp hread with
  | noFile hnone => cases hnone _ hfind
  | program hprogram => cases hfind.symm.trans hprogram
  | closed hclosed =>
      rw [hfind] at hclosed
      cases hclosed
      exact read_of_unreadable (.closed hother)
  | line hopen hfirst =>
      rw [hfind] at hopen
      cases hopen
      have hreplaced := hlines ▸ hfirst
      obtain ⟨front, back, hotherFirst⟩ := hreplaced.exists_replaced (readable_of_not_stoppedBy h)
        (readable_of_not_stoppedBy hotherValue)
      rw [← hotherLines] at hotherFirst
      exact read_of_unreadable (.line hother hotherFirst)

/-- **What a rejected file shows of its credential.** For every file with a line that gives the
credential a value, and wherever it stands among the other lines: if the value is what stops the
reading, the error quotes the value, without the blanks around it. What stands in nothing else that
an error is put together of, be it the value or a part of it, is shown by the error if and only if
the value is what stops the reading and holds it between these blanks. If the value is not what
stops it, the error is the same for any other value that does not either. A value without quotes,
backslashes, dollars and blanks never stops it; one with a word behind a blank does, if the lines
before can be read. A fetch or a load for the file fails with just this error. -/
theorem value_shown_iff_refused
    (hfind : files.find path = .ok (.file content readable executable))
    (hlines : Override.lines content =
      before ++ Utf8.encode (Override.credentialLine value) :: after) (env : Environment) :
    (StoppedBy readable before value → ∃ (error : Error) (offset : Nat),
      read files env path = .error error ∧ error.message =
        s!"override file '{path}': malformed line '{Text.trim value}' at offset {offset}") ∧
    (∀ part error, Apart path (before ++ after) part → read files env path = .error error →
      (Text.Holds error.message part ↔
        StoppedBy readable before value ∧ Text.Holds (Text.trim value) part)) ∧
    (¬ StoppedBy readable before value →
      ∀ (other : FileTree) (otherEnv : Environment) otherContent otherExecutable otherValue,
        other.find path = .ok (.file otherContent readable otherExecutable) →
        Override.lines otherContent =
          before ++ Utf8.encode (Override.credentialLine otherValue) :: after →
        ¬ StoppedBy readable before otherValue →
        ∀ error, read files env path = .error error ↔ read other otherEnv path = .error error) ∧
    ((∀ c ∈ (Text.trim value).toList, Override.IsOrdinary c) →
      ¬ StoppedBy readable before value) ∧
    (∀ front c rest, (Text.trim value).toList = front ++ ' ' :: c :: rest →
      (∀ d ∈ front, Override.IsOrdinary d) → front.head? ≠ some '#' →
      c ≠ ' ' → c ≠ '\t' → c ≠ '#' → readable = true →
      (∀ octets ∈ before, Override.Readable octets) → StoppedBy readable before value) ∧
    ∀ error, read files env path = .error error →
      ∀ (loader : Loader) calling executor (around : Environment) store (request : Request)
        visiting, request.overrideFile = some path → calling.obstacle? = none →
        (loader.fetch calling executor ⟨files, around⟩ store request).result = .error error ∧
          (loader.load calling executor ⟨files, around⟩ store request visiting).result =
            .error error := by
  refine ⟨fun hstopped => ?_, fun part error hapart => hapart.holds_error_iff hfind hlines, ?_, ?_,
    ?_, ?_⟩
  · obtain ⟨fault, htext, hread⟩ := read_of_stoppedBy hfind hlines hstopped env
    refine ⟨_, fault.offset, hread, ?_⟩
    rw [message_malformed, htext]
  · intro hstopped other otherEnv otherContent otherExecutable otherValue hother hotherLines
      hotherStopped error
    exact ⟨fun hread => read_error_of_not_stoppedBy hfind hlines hother hotherLines hstopped
        hotherStopped hread otherEnv,
      fun hread => read_error_of_not_stoppedBy hother hotherLines hfind hlines hotherStopped
        hstopped hread env⟩
  · rintro hordinary ⟨-, -, failure, hrefuses⟩
    exact Override.not_refuses_of_ordinary hordinary failure hrefuses
  · intro front c rest hvalue hfront hcomment hspace htab hmark hopen hbefore
    refine ⟨hopen, hbefore, .character (front.length + 1), ?_⟩
    rw [hvalue]
    exact Override.refuses_of_word_behind_blank hfront hcomment hspace htab hmark
  · intro error hread loader calling executor around store request visiting hpath hcalling
    obtain ⟨hfetch, hload⟩ := Loader.fetch_and_load_of_unreadable (read_eq_error_iff.mp hread)
      loader calling executor around store hpath visiting
    rw [hcalling] at hfetch hload
    exact ⟨congrArg Loader.Fetched.result hfetch, congrArg Loader.Loaded.result hload⟩

end

/-- It says of a file whose credential has a word behind it that the error shows both, and of one
with another line that cannot be read that the error does not show the credential. -/
theorem value_shown_in_its_own_line_only :
    let bad := Utf8.encode "A=1\nENVKEY=ekValid-host extra\n"
    let good := Utf8.encode "ENVKEY=ekValid-host\nNOT A PAIR\n"
    let files : FileTree :=
      ⟨((∅ : Std.ExtTreeMap Place Node).insert ["b"] (.file bad true false)).insert ["g"]
        (.file good true false), []⟩
    (∃ (error : Error) (offset : Nat), read files ∅ "b" = .error error ∧ error.message =
      s!"override file 'b': malformed line 'ekValid-host extra' at offset {offset}") ∧
    ∃ error, read files ∅ "g" = .error error ∧ ¬ Text.Holds error.message "ekValid-host" := by
  intro bad good files
  constructor
  · have hbad : files.find "b" = .ok (.file bad true false) := rfl
    have hlines : Override.lines bad = [Utf8.encode "A=1"] ++
        Utf8.encode (Override.credentialLine "ekValid-host extra") :: [] := by decide +kernel
    have hvalue : (Text.trim "ekValid-host extra").toList =
        "ekValid-host".toList ++ ' ' :: 'e' :: "xtra".toList := by decide +kernel
    have hbefore : Override.Readable (Utf8.encode "A=1") :=
      ⟨"A=1", rfl, fun _ => ⟨some ("A", "1"), rfl⟩⟩
    obtain ⟨hshown, -, -, -, hword, -⟩ := value_shown_iff_refused hbad hlines ∅
    have hstopped : StoppedBy true [Utf8.encode "A=1"] "ekValid-host extra" :=
      hword _ _ _ hvalue (List.all_iff_forall_prop.mp (by decide +kernel)) (by decide) (by decide)
        (by decide) (by decide) rfl (List.forall_mem_singleton.mpr hbefore)
    exact hshown hstopped
  · have hgood : files.find "g" = .ok (.file good true false) := rfl
    have hlines : Override.lines good = [] ++
        Utf8.encode (Override.credentialLine "ekValid-host") :: [Utf8.encode "NOT A PAIR"] := by
      decide +kernel
    obtain ⟨-, hholds, -, hordinary, -⟩ := value_shown_iff_refused hgood hlines ∅
    have hreadable : Override.Readable (Utf8.encode (Override.credentialLine "ekValid-host")) :=
      ⟨_, rfl, fun _ => ⟨some ("ENVKEY", "ekValid-host"), rfl⟩⟩
    have hstops : Override.Stops (Utf8.encode "NOT A PAIR") (.malformed ⟨"NOT A PAIR", 4⟩) :=
      .malformed fun _ => rfl
    have hfirst : Override.FirstStop (Override.lines good)
        [Utf8.encode (Override.credentialLine "ekValid-host")] (Utf8.encode "NOT A PAIR") [] _ :=
      ⟨hlines, List.forall_mem_singleton.mpr hreadable, hstops⟩
    have hread : read files ∅ "g" = .error _ := read_of_unreadable (.line hgood hfirst)
    have hnotStopped : ¬ StoppedBy true [] "ekValid-host" :=
      hordinary (List.all_iff_forall_prop.mp (by decide +kernel))
    have hapart : Apart "g" ([] ++ [Utf8.encode "NOT A PAIR"]) "ekValid-host" := by
      refine ⟨by decide, fun line hline => ?_, fun offset => ?_, by decide⟩
      · rw [List.nil_append, List.mem_singleton] at hline
        obtain rfl := Utf8.encode_injective hline
        decide
      · exact not_holds_words (c := 'V') (by decide) (by decide) (by decide +kernel) offset
    exact ⟨_, hread, fun hshown => hnotStopped ((hholds _ _ hapart hread).mp hshown).1⟩

/-- A credential with a word behind it is shown in full, though it stands nowhere else. -/
theorem refused_credential_is_shown_in_full :
    let value := "ekValid-host extra"
    let content := Utf8.encode "ENVKEY=ekValid-host extra\n"
    let files : FileTree :=
      ⟨(∅ : Std.ExtTreeMap Place Node).insert ["f"] (.file content true false), []⟩
    Override.lines content = [Utf8.encode (Override.credentialLine value)] ∧ 4 < value.length ∧
      Apart "f" [] value ∧ ∃ error, read files ∅ "f" = .error error ∧
        Text.Holds error.message value := by
  intro value content files
  have hfind : files.find "f" = .ok (.file content true false) := rfl
  have hlines : Override.lines content =
      [] ++ Utf8.encode (Override.credentialLine value) :: [] := by decide +kernel
  have htrim : Text.trim value = value := by decide +kernel
  have hwords : value.toList = "ekValid-host".toList ++ ' ' :: 'e' :: "xtra".toList := by
    decide +kernel
  have hrefused : Override.Refuses (Text.trim value).toList (.character 13) := by
    rw [htrim, hwords]
    exact Override.refuses_of_word_behind_blank (List.all_iff_forall_prop.mp (by decide +kernel))
      (by decide) (by decide) (by decide) (by decide)
  have hapart : Apart "f" [] value := by
    refine ⟨by decide, nofun, fun offset => ?_, by decide⟩
    exact not_holds_words (c := 'V') (by decide) (by decide) (by decide +kernel) offset
  obtain ⟨fault, htext, hread⟩ := read_of_stoppedBy hfind hlines ⟨rfl, nofun, _, hrefused⟩ ∅
  refine ⟨hlines, by decide, hapart, _, hread, ?_⟩
  rw [hapart.holds_message_iff, htext, htrim]
  exact List.infix_rfl

end OverrideFile

end SecretEnv
