import Mathlib.Data.List.Basic
import SecretEnv.Child.Rehearsal
import SecretEnv.Proofs.Entries

/-!
# Whom a rehearsed answer reaches

**An answer is kept under a text, and reaches every call that asks for this text**
(`Rehearsal.answered_as_meant_iff`). The text of a call is its command and its arguments with blanks
between them, so that what can be told from it are the words between blanks and not where a command
or an argument ends (`Target.key_eq_iff`). A call gets the answer that is meant for it after
whatever was entered and asked, as long as no answer for another call has its words; without blanks
in commands and arguments, and without a single empty argument, none has.
-/

namespace SecretEnv.Rehearsal

/-! ### What is done with a rehearsal -/

/-- Whom an answer is meant for. -/
inductive Target where
  /-- A command with exactly these arguments. -/
  | call (command : String) (args : List String)
  /-- Every call of a command. -/
  | anyCall (command : String)
  deriving Repr, DecidableEq

/-- Something that is done with a rehearsal. -/
inductive Deed where
  /-- An answer is entered. -/
  | enter (target : Target) (answer : Answer)
  /-- A call is made. -/
  | ask (invocation : Invocation)

/-- Enters an answer. -/
def enter (rehearsal : Rehearsal) : Target → Answer → Rehearsal
  | .call command args, answer => rehearsal.answerCall command args answer
  | .anyCall command, answer => rehearsal.answerCommand command answer

/-- The rehearsal after a deed. -/
def perform (rehearsal : Rehearsal) : Deed → Rehearsal
  | .enter target answer => rehearsal.enter target answer
  | .ask invocation => (rehearsal.execute invocation).2

/-- The rehearsal after deeds, one after the other. -/
def performAll (rehearsal : Rehearsal) (deeds : List Deed) : Rehearsal :=
  deeds.foldl perform rehearsal

/-- What a deed enters. -/
def Deed.entry? : Deed → Option (Target × Answer)
  | .enter target answer => some (target, answer)
  | .ask _ => none

/-- The call that a deed makes. -/
def Deed.call? : Deed → Option Invocation
  | .enter _ _ => none
  | .ask invocation => some invocation

/-- The answers that deeds enter, in order, and whom they are meant for. -/
def entered (deeds : List Deed) : List (Target × Answer) := deeds.filterMap Deed.entry?

/-- The calls that deeds make, in order. -/
def asked (deeds : List Deed) : List Invocation := deeds.filterMap Deed.call?

/-! ### Keys and words -/

/-- What stands between the blanks of a text. -/
def wordsOf (text : String) : List (List Char) := text.toList.splitOn ' '

namespace Target

/-- The text under which an answer is kept. -/
def key : Target → String
  | call command args => callKey command args
  | anyCall command => command

/-- Arguments as they are to be seen in a key, where none looks like an empty one. -/
def shown (args : List String) : List String := if args = [] then [""] else args

/-- The words of the command and of each argument. -/
def words : Target → List (List Char)
  | call command args => wordsOf command ++ (shown args).flatMap wordsOf
  | anyCall command => wordsOf command

/-- An answer that is meant neither for a call nor for its command, and is looked up for it. -/
def Meets (target : Target) (command : String) (args : List String) : Prop :=
  target ≠ .call command args ∧ target ≠ .anyCall command ∧
    (target.key = (call command args).key ∨ target.key = (anyCall command).key)

/-- No blank is in the command or in an argument, and there is not just one empty argument. -/
def Plain : Target → Prop
  | call command args => ' ' ∉ command.toList ∧ (∀ arg ∈ args, ' ' ∉ arg.toList) ∧ args ≠ [""]
  | anyCall command => ' ' ∉ command.toList

end Target

/-! ### What is meant -/

/-- The answer that is meant for a call: the last one for it, or else the last one for its command
whatever the arguments. -/
def meant? (entries : List (Target × Answer)) (command : String) (args : List String) :
    Option Answer :=
  (lastValue? entries (.call command args)).or (lastValue? entries (.anyCall command))

/-- The answer that is used for a call: the last one that is meant for something with its words, or
else the last one for something with the words of its command. -/
def used? (entries : List (Target × Answer)) (command : String) (args : List String) :
    Option Answer :=
  let spoken := entries.map fun entry => (entry.1.words, entry.2)
  (lastValue? spoken (Target.call command args).words).or
    (lastValue? spoken (Target.anyCall command).words)

/-- What is replied to a call by the answer that is used for it, if there is one. -/
inductive Replies (invocation : Invocation) : Option Answer → Except Error Output → Prop where
  | noAnswer : Replies invocation none (.error (.commandExecution invocation.command invocation.args
      ("failed to execute command: no test response configured for " ++
        callKey invocation.command invocation.args) none))
  | late {answer : Answer} {delay limit : Duration} (hdelay : answer.delay = some delay)
      (hlimit : invocation.timeout = some limit) (h : limit.nanoseconds < delay.nanoseconds) :
      Replies invocation (some answer) (.error (.timeout invocation.command limit))
  | inTime {answer : Answer} (h : ∀ delay limit, answer.delay = some delay →
      invocation.timeout = some limit → delay.nanoseconds ≤ limit.nanoseconds) :
      Replies invocation (some answer) (.ok answer.output)

/-! ### What stands between blanks -/

/-- The words of a text tell the text. -/
theorem wordsOf_injective : Function.Injective wordsOf := by
  intro text other h
  have hread (text : String) : [' '].intercalate (wordsOf text) = text.toList :=
    List.intercalate_splitOn ' '
  rw [← String.toList_inj, ← hread, h, hread]

theorem wordsOf_eq_singleton {text : String} (h : ' ' ∉ text.toList) :
    wordsOf text = [text.toList] :=
  List.splitOn_eq_singleton h

namespace Target

theorem wordsOf_intercalate (args : List String) :
    wordsOf (" ".intercalate args) = (shown args).flatMap wordsOf := by
  have hblank : " ".toList = [' '] := by decide
  rw [wordsOf, String.toList_intercalate, hblank]
  induction args with
  | nil => rfl
  | cons arg args ih =>
      cases args with
      | nil => simp [shown, wordsOf]
      | cons next args =>
          rw [List.map_cons, List.map_cons, List.intercalate_cons_cons, List.append_assoc,
            List.singleton_append, List.splitOn_append_cons_self, ← List.map_cons, ih]
          rfl

/-- The words of an answer's target are those of its key. -/
theorem words_eq (target : Target) : target.words = wordsOf target.key := by
  cases target with
  | anyCall command => rfl
  | call command args =>
      have hkey : (call command args).key.toList =
          command.toList ++ ' ' :: (" ".intercalate args).toList := by
        simp [key, callKey]
      rw [wordsOf, hkey, List.splitOn_append_cons_self, words, ← wordsOf_intercalate]
      rfl

/-- Two keys are one exactly if the words are the same. -/
theorem key_eq_iff {target other : Target} :
    target.key = other.key ↔ target.words = other.words := by
  rw [words_eq, words_eq, wordsOf_injective.eq_iff]

theorem key_call_ne (command : String) (args : List String) :
    (call command args).key ≠ (anyCall command).key := by
  intro h
  have hlist := congrArg String.toList h
  simp [key, callKey] at hlist

/-- What is said of keys in `Meets` is a matter of words. -/
theorem meets_iff {target : Target} {command : String} {args : List String} :
    target.Meets command args ↔
      target ≠ .call command args ∧ target ≠ .anyCall command ∧
        (target.words = (call command args).words ∨ target.words = (anyCall command).words) := by
  rw [Meets, key_eq_iff, key_eq_iff]

theorem words_anyCall_of_plain {command : String} (h : (anyCall command).Plain) :
    (anyCall command).words = [command.toList] :=
  wordsOf_eq_singleton h

/-- Without blanks every argument is one word. -/
theorem words_call_of_plain {command : String} {args : List String}
    (h : (call command args).Plain) :
    (call command args).words = command.toList :: (shown args).map String.toList := by
  obtain ⟨hcommand, hargs, -⟩ := h
  have hshown : ∀ arg ∈ shown args, ' ' ∉ arg.toList := by
    unfold shown
    split
    · simp
    · exact hargs
  rw [words, wordsOf_eq_singleton hcommand, List.singleton_append, List.map_eq_flatMap]
  exact congrArg _ (List.flatMap_congr fun arg harg => wordsOf_eq_singleton (hshown arg harg))

theorem shown_ne_nil (args : List String) : shown args ≠ [] := by
  unfold shown
  split <;> simp_all

theorem eq_of_shown_eq {args others : List String} (hargs : args ≠ [""]) (hothers : others ≠ [""])
    (h : shown args = shown others) : args = others := by
  unfold shown at h
  split at h <;> split at h <;> simp_all

/-- Targets without blanks are known by their words. -/
theorem eq_of_words_eq {target other : Target} (htarget : target.Plain) (hother : other.Plain)
    (h : target.words = other.words) : target = other := by
  have hlonger {args : List String} : [] ≠ (shown args).map String.toList :=
    fun h => shown_ne_nil args (List.map_eq_nil_iff.mp h.symm)
  cases target with
  | anyCall command =>
      rw [words_anyCall_of_plain htarget] at h
      cases other with
      | anyCall another =>
          rw [words_anyCall_of_plain hother, List.singleton_inj, String.toList_inj] at h
          rw [h]
      | call another args =>
          rw [words_call_of_plain hother] at h
          exact absurd (List.cons.inj h).2 hlonger
  | call command args =>
      rw [words_call_of_plain htarget] at h
      cases other with
      | anyCall another =>
          rw [words_anyCall_of_plain hother] at h
          exact absurd (List.cons.inj h).2.symm hlonger
      | call another others =>
          rw [words_call_of_plain hother] at h
          obtain ⟨hcommand, hargs⟩ := List.cons.inj h
          have hshown := List.map_injective_iff.mpr (fun _ _ => String.toList_inj.mp) hargs
          rw [String.toList_inj.mp hcommand, eq_of_shown_eq htarget.2.2 hother.2.2 hshown]

end Target

/-! ### Runs of deeds -/

/-- The step: an answer is kept under the key of its target. -/
theorem answers_enter (rehearsal : Rehearsal) (target : Target) (answer : Answer) :
    (rehearsal.enter target answer).answers = rehearsal.answers.insert target.key answer := by
  cases target <;> rfl

/-- The run: what is entered is kept under its keys, one answer after the other. -/
theorem answers_performAll (rehearsal : Rehearsal) (deeds : List Deed) :
    (rehearsal.performAll deeds).answers =
      ((entered deeds).map fun entry => (entry.1.key, entry.2)).foldl
        (fun table entry => table.insert entry.1 entry.2) rehearsal.answers := by
  induction deeds generalizing rehearsal with
  | nil => rfl
  | cons deed deeds ih =>
      rw [performAll, List.foldl_cons, ← performAll, ih]
      cases deed with
      | ask invocation => rfl
      | enter target answer =>
          rw [perform, answers_enter]
          rfl

/-- Every call is remembered, and nothing else. -/
theorem calls_performAll (rehearsal : Rehearsal) (deeds : List Deed) :
    (rehearsal.performAll deeds).calls = rehearsal.calls ++ asked deeds := by
  induction deeds generalizing rehearsal with
  | nil => exact (List.append_nil _).symm
  | cons deed deeds ih =>
      rw [performAll, List.foldl_cons, ← performAll, ih]
      cases deed with
      | ask invocation => exact List.append_assoc ..
      | enter target answer => cases target <;> rfl

/-- A call gets the last answer under its own text, or else the last one under its command. -/
theorem find?_performAll (deeds : List Deed) (command : String) (args : List String) :
    let kept := (entered deeds).map fun entry => (entry.1.key, entry.2)
    (empty.performAll deeds).find? command args =
      (lastValue? kept (Target.call command args).key).or
        (lastValue? kept (Target.anyCall command).key) := by
  intro kept
  have hkept (text : String) :
      (empty.performAll deeds).answers[text]? = lastValue? kept text := by
    rw [answers_performAll, getElem?_foldl_insert]
    exact Option.or_none
  have hfind (rehearsal : Rehearsal) : rehearsal.find? command args =
      rehearsal.answers[(Target.call command args).key]?.or
        rehearsal.answers[(Target.anyCall command).key]? := by
    unfold find?
    split
    · rename_i answer hanswer
      exact (congrArg (Option.or · _) hanswer).symm
    · rename_i hnone
      exact (congrArg (Option.or · _) hnone).symm
  rw [hfind, hkept, hkept]

theorem find?_performAll_eq_used? (deeds : List Deed) (command : String) (args : List String) :
    (empty.performAll deeds).find? command args = used? (entered deeds) command args := by
  have hspoken (target : Target) :
      lastValue? ((entered deeds).map fun entry => (entry.1.key, entry.2)) target.key =
        lastValue? ((entered deeds).map fun entry => (entry.1.words, entry.2)) target.words := by
    rw [Target.words_eq, ← lastValue?_map_key (f := wordsOf) fun _ _ h => wordsOf_injective h,
      List.map_map]
    simp only [Function.comp_def, ← Target.words_eq]
  rw [find?_performAll, hspoken, hspoken]
  rfl

/-- Where no answer meets a call that is not meant for it, what is used is what is meant. -/
theorem used?_eq_meant? {entries : List (Target × Answer)} {command : String} {args : List String}
    (h : ∀ entry ∈ entries, ¬ entry.1.Meets command args) :
    used? entries command args = meant? entries command args := by
  have hcall : ∀ entry ∈ entries, entry.1.words = (Target.call command args).words →
      entry.1 = .call command args := by
    intro entry hentry hwords
    have hkey := Target.key_eq_iff.mpr hwords
    by_contra hother
    refine h entry hentry ⟨hother, fun hcommand => ?_, .inl hkey⟩
    rw [hcommand] at hkey
    exact Target.key_call_ne command args hkey.symm
  have hcommand : ∀ entry ∈ entries, entry.1.words = (Target.anyCall command).words →
      entry.1 = .anyCall command := by
    intro entry hentry hwords
    have hkey := Target.key_eq_iff.mpr hwords
    by_contra hother
    refine h entry hentry ⟨fun hcall => ?_, hother, .inr hkey⟩
    rw [hcall] at hkey
    exact Target.key_call_ne command args hkey
  rw [used?, lastValue?_map_key hcall, lastValue?_map_key hcommand, meant?]

/-- What is entered under a text that is looked up for a call reaches the call. -/
theorem used?_of_meets {target : Target} {command : String} {args : List String}
    (h : target.Meets command args) (answer : Answer) :
    used? [(target, answer)] command args = some answer ∧
      meant? [(target, answer)] command args = none := by
  obtain ⟨hcall, hcommand, hwords⟩ := Target.meets_iff.mp h
  constructor
  · simp only [used?, List.map_cons, List.map_nil, lastValue?_cons]
    rcases hwords with hwords | hwords
    · simp [hwords, lastValue?]
    · simp only [hwords, lastValue?]
      split <;> simp_all
  · simp [meant?, lastValue?, Ne.symm hcall, Ne.symm hcommand]

theorem replies_respond (rehearsal : Rehearsal) (invocation : Invocation) :
    Replies invocation (rehearsal.find? invocation.command invocation.args)
      (rehearsal.respond invocation) := by
  unfold respond
  cases rehearsal.find? invocation.command invocation.args with
  | none => exact .noAnswer
  | some answer =>
      simp only
      split
      · rename_i delay limit hdelay hlimit
        split
        · rename_i hlate
          exact .late hdelay hlimit hlate
        · rename_i hlate
          refine .inTime fun other another hother hanother => ?_
          rw [hdelay] at hother
          rw [hlimit] at hanother
          cases hother
          cases hanother
          exact Nat.le_of_not_lt hlate
      · rename_i hnot
        exact .inTime fun delay limit hdelay hlimit => absurd hlimit (hnot delay limit hdelay)

/-! ### Whom answers reach -/

/-- **Whom a rehearsed answer reaches.** A call after any deeds is replied to by the last answer for
something with its words, or else the last one for something with the words of its command, or else
fails as one that could not be run; and it is remembered behind all earlier calls. This is the
answer that is meant for it if none of the others entered has these words. Of answers that may be
entered for certain targets, in any number and order, that is always so if and only if none of the
targets has these words without being the call's own; and where no text has a blank in it and no
single argument is empty, none has. -/
theorem answered_as_meant_iff (invocation : Invocation) (targets : Target → Prop) :
    let command := invocation.command
    let args := invocation.args
    (∀ deeds : List Deed, let after := (empty.performAll deeds).execute invocation
      Replies invocation (used? (entered deeds) command args) after.1 ∧
        after.2.calls = asked deeds ++ [invocation]) ∧
    ((∀ deeds : List Deed, (∀ entry ∈ entered deeds, targets entry.1) →
        Replies invocation (meant? (entered deeds) command args)
          ((empty.performAll deeds).execute invocation).1) ↔
      ∀ target, targets target → ¬ target.Meets command args) ∧
    (∀ target : Target, target.Meets command args ↔
      target ≠ .call command args ∧ target ≠ .anyCall command ∧
        (target.words = (Target.call command args).words ∨
          target.words = (Target.anyCall command).words)) ∧
    ((Target.call command args).Plain →
      ∀ target : Target, target.Plain → ¬ target.Meets command args) := by
  intro command args
  have hreplies (deeds : List Deed) : Replies invocation (used? (entered deeds) command args)
      ((empty.performAll deeds).execute invocation).1 := by
    rw [← find?_performAll_eq_used?]
    exact replies_respond _ invocation
  refine ⟨fun deeds => ⟨hreplies deeds, ?_⟩, ⟨fun hmeant target htarget hmeets => ?_,
    fun hapart deeds hentered => ?_⟩, fun target => Target.meets_iff, ?_⟩
  · exact congrArg (· ++ [invocation]) (calls_performAll empty deeds)
  · -- one answer for the target is enough, and the call succeeds with it
    let answer : Answer := ⟨[], [], 0, none⟩
    obtain ⟨hused, hnone⟩ := used?_of_meets hmeets answer
    have hreply := hmeant [.enter target answer] (List.forall_mem_singleton.mpr htarget)
    have hgiven := hreplies [.enter target answer]
    simp only [entered, List.filterMap_cons, Deed.entry?, List.filterMap_nil] at hreply hgiven
    rw [hnone] at hreply
    rw [hused] at hgiven
    generalize ((empty.performAll _).execute invocation).1 = reply at hreply hgiven
    cases hreply
    cases hgiven
  · rw [← used?_eq_meant? fun entry hentry => hapart entry.1 (hentered entry hentry)]
    exact hreplies deeds
  · rintro hcall target htarget ⟨hother, hany, hkey⟩
    rcases hkey with hkey | hkey
    · exact hother (Target.eq_of_words_eq htarget hcall (Target.key_eq_iff.mp hkey))
    · exact hany (Target.eq_of_words_eq htarget hcall.1 (Target.key_eq_iff.mp hkey))

/-- The answer for one argument with a blank in it reaches the call with two. -/
theorem answer_for_one_argument_reaches_two :
    let answer : Answer := ⟨Utf8.encode "1", [], 0, none⟩
    let deeds := [Deed.enter (.call "c" ["a b"]) answer]
    let invocation : Invocation := ⟨"c", ["a", "b"], ∅, none, none⟩
    meant? (entered deeds) "c" ["a", "b"] = none ∧
      ((empty.performAll deeds).execute invocation).1 = .ok answer.output := by
  decide +kernel

end SecretEnv.Rehearsal
