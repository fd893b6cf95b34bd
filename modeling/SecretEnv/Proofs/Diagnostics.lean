import SecretEnv.Proofs.Removal
import SecretEnv.Proofs.Trim
import SecretEnv.Resolver.Client

/-!
# What a failed run says

**A run of the resolver that failed is an error with the run's own complaint and its exit code**
(`Resolver.failed_run_is_explained`). The complaint is the error output, or the other output where
that one shows nothing; it is passed on without the command in which it may be wrapped and without
the blanks at its ends. Unwrapping gives back the message that was wrapped: no part of the wrapper
begins in a message and ends in the wrapper, and none comes together when another is taken out.
-/

namespace SecretEnv.Resolver

/-- A message is what is left of a complaint without the two parts of the wrapper, one after the
other, and without the blanks at the ends. -/
def Unwraps (complaint message : List Char) : Prop :=
  ∃ opened closed, Text.Without "echo 'error: ".toList complaint opened ∧
    Text.Without "'; false".toList opened closed ∧ Text.TrimsTo closed message

theorem unwraps_iff {complaint message : List Char} :
    Unwraps complaint message ↔ unwrap complaint = message := by
  have hstart : "echo 'error: ".toList ≠ [] := by decide
  have hend : "'; false".toList ≠ [] := by decide
  simp only [Unwraps, Text.without_iff hstart, Text.without_iff hend, Text.trimsTo_iff]
  constructor
  · rintro ⟨opened, closed, rfl, rfl, rfl⟩
    rfl
  · rintro rfl
    exact ⟨_, _, rfl, rfl, rfl⟩

/-! ### The wrapper -/

theorem borderless_wrapperStart : Text.Borderless wrapperStart := by decide +kernel

theorem borderless_wrapperEnd : Text.Borderless wrapperEnd := by decide +kernel

/-- Blanks hold no phrase with a character that shows. -/
theorem not_infix_of_all_isBlank {phrase blanks : List Char} {c : Char} (hc : c ∈ phrase)
    (hshown : Text.isBlank c = false) (h : blanks.all Text.isBlank = true) :
    ¬ phrase <:+: blanks := by
  refine Text.not_infix_of_not_mem hc fun hmem => ?_
  rw [List.all_eq_true.mp h c hmem] at hshown
  cases hshown

section

variable {message before after : List Char}

/-- The wrapper's first part does not begin in the message and end behind it. -/
theorem not_infix_wrapperStart (hmessage : ¬ wrapperStart <:+: message)
    (hafter : after.all Text.isBlank = true) :
    ¬ wrapperStart <:+: message ++ (wrapperEnd ++ after) := by
  refine Text.not_infix_append hmessage ?_ ?_
  · have hletter : 'c' ∉ wrapperEnd := by decide
    refine Text.not_infix_of_not_mem (c := 'c') (by decide) fun hmem => ?_
    rcases List.mem_append.mp hmem with hin | hin
    · exact hletter hin
    · have hblank := List.all_eq_true.mp hafter 'c' hin
      cases hblank
  · -- the quote in it goes on otherwise than the quote behind a message
    have hquote : ∀ stop ∈ wrapperStart.tails, stop.take 2 <+: wrapperEnd → stop = [] := by
      decide +kernel
    intro stop hstop hprefix
    refine hquote stop ((List.mem_tails stop wrapperStart).mpr hstop) ?_
    have hquoted : stop.take 2 <+: (wrapperEnd ++ after).take 2 := hprefix.take 2
    exact hquoted.trans (List.take_prefix 2 wrapperEnd)

/-- A wrapped message comes out as it would without the wrapper. -/
theorem unwrap_wrapped (hstart : ¬ wrapperStart <:+: message) (hend : ¬ wrapperEnd <:+: message)
    (hbefore : before.all Text.isBlank = true) (hafter : after.all Text.isBlank = true) :
    unwrap (before ++ wrapperStart ++ message ++ wrapperEnd ++ after) =
      Text.trimChars message := by
  have hopened : Text.removeAll wrapperStart
      (before ++ wrapperStart ++ message ++ wrapperEnd ++ after) =
        before ++ message ++ wrapperEnd ++ after := by
    have hblank : ¬ wrapperStart <:+: before :=
      not_infix_of_all_isBlank (c := 'e') (by decide) (by decide) hbefore
    have hrest := Text.removeAll_eq_self (not_infix_wrapperStart hstart hafter)
    calc Text.removeAll wrapperStart (before ++ wrapperStart ++ message ++ wrapperEnd ++ after)
        = Text.removeAll wrapperStart
            (before ++ wrapperStart ++ (message ++ (wrapperEnd ++ after))) := by
          simp only [List.append_assoc]
      _ = before ++ (message ++ (wrapperEnd ++ after)) := by
          rw [borderless_wrapperStart.removeAll_eq hblank, hrest]
      _ = before ++ message ++ wrapperEnd ++ after := by simp only [List.append_assoc]
  have hclosed : Text.removeAll wrapperEnd (before ++ message ++ wrapperEnd ++ after) =
      before ++ message ++ after := by
    have hfront : ¬ wrapperEnd <:+: before ++ message := by
      refine Text.not_infix_append_of_head ?_ hend
      rintro c ⟨⟩ hmem
      cases List.all_eq_true.mp hbefore _ hmem
    have hblank : ¬ wrapperEnd <:+: after :=
      not_infix_of_all_isBlank (c := 'f') (by decide) (by decide) hafter
    rw [borderless_wrapperEnd.removeAll_eq hfront, Text.removeAll_eq_self hblank]
  rw [unwrap, hopened, hclosed, Text.trimChars_padded hbefore hafter]

/-- A message that is not wrapped is only trimmed. -/
theorem unwrap_bare (hstart : ¬ wrapperStart <:+: message) (hend : ¬ wrapperEnd <:+: message) :
    unwrap message = Text.trimChars message := by
  rw [unwrap, Text.removeAll_eq_self hstart, Text.removeAll_eq_self hend]

end

/-! ### The failed run -/

theorem fetch_of_failed {binary : String} {executor : Executor} {credential : Credential}
    {options : Options} {snapshot : Variables} {output : Output}
    (hran : executor (call binary credential options snapshot) = .ok output)
    (hfailed : output.succeeded = false) :
    fetch binary executor credential options snapshot =
      .error (.fetchFailed binary (diagnostics output) output.ending.code?) := by
  rw [fetch, hran, interpret, hfailed]
  rfl

/-- The complaint is taken from the error output if that shows anything. -/
theorem toList_diagnostics (output : Output) :
    (diagnostics output).toList =
      unwrap (if Text.isBlankText (Utf8.decodeLossy output.stderr)
        then (Utf8.decodeLossy output.stdout).toList
        else (Utf8.decodeLossy output.stderr).toList) := by
  rw [diagnostics, String.toList_ofList]
  split <;> rfl

-- the bare wrapper shows something, so that the other output does not count
example : diagnostics ⟨.exited 1, Utf8.encode "why", Utf8.encode "echo 'error: '; false"⟩ = "" := by
  decide +kernel

/-- **What a failed run says.** Whatever a run of the resolver that did not succeed has written, the
fetch fails with its exit code and with its complaint: what unwraps from its error output, read as
text, if a character of that shows, and otherwise from its other output. A message that holds
neither part of the wrapper comes out trimmed, both from the wrapper with any blanks around it and
without it. -/
theorem failed_run_is_explained (binary : String) (executor : Executor) (credential : Credential)
    (options : Options) (snapshot : Variables) (output : Output)
    (hran : executor (call binary credential options snapshot) = .ok output)
    (hfailed : output.ending ≠ .exited 0) :
    let stderr := (Utf8.decodeLossy output.stderr).toList
    let stdout := (Utf8.decodeLossy output.stdout).toList
    (∃ message : String,
      fetch binary executor credential options snapshot =
        .error (.fetchFailed binary message output.ending.code?) ∧
      ((∃ c ∈ stderr, Text.isBlank c = false) → Unwraps stderr message.toList) ∧
      ((∀ c ∈ stderr, Text.isBlank c = true) → Unwraps stdout message.toList)) ∧
    ∀ message : List Char,
      ¬ "echo 'error: ".toList <:+: message → ¬ "'; false".toList <:+: message →
      (∀ before after : List Char, before.all Text.isBlank = true → after.all Text.isBlank = true →
        ∀ shown, Unwraps (before ++ "echo 'error: ".toList ++ message ++ "'; false".toList ++ after)
          shown ↔ Text.TrimsTo message shown) ∧
      ∀ shown, Unwraps message shown ↔ Text.TrimsTo message shown := by
  intro stderr stdout
  refine ⟨⟨diagnostics output, fetch_of_failed hran (by simp [Output.succeeded, hfailed]), ?_, ?_⟩,
    fun message hstart hend => ⟨fun before after hbefore hafter shown => ?_, fun shown => ?_⟩⟩
  · rintro ⟨c, hmem, hshown⟩
    have hnot : Text.isBlankText (Utf8.decodeLossy output.stderr) = false :=
      List.all_eq_false.mpr ⟨c, hmem, by simp [hshown]⟩
    rw [unwraps_iff, toList_diagnostics, hnot, if_neg Bool.false_ne_true]
  · intro hblank
    have hall : Text.isBlankText (Utf8.decodeLossy output.stderr) = true :=
      List.all_eq_true.mpr hblank
    rw [unwraps_iff, toList_diagnostics, hall, if_pos rfl]
  · rw [unwraps_iff, Text.trimsTo_iff, ← unwrap_wrapped hstart hend hbefore hafter]
    exact Iff.rfl
  · rw [unwraps_iff, unwrap_bare hstart hend, Text.trimsTo_iff]

/-- It says of a wrapped complaint, with blanks around it, that the fetch fails with the message
alone. -/
theorem failed_run_with_wrapped_complaint :
    let output : Output :=
      ⟨.exited 3, Utf8.encode "2 keys", Utf8.encode "\techo 'error: ENVKEY invalid'; false\n"⟩
    fetch "/r" (fun _ => .ok output) ⟨"k"⟩ {} ∅ =
      .error (.fetchFailed "/r" "ENVKEY invalid" (some 3)) := by
  intro output
  obtain ⟨⟨message, hfetch, hstderr, -⟩, hunwraps⟩ :=
    failed_run_is_explained "/r" (fun _ => .ok output) ⟨"k"⟩ {} ∅ output rfl (by decide)
  obtain ⟨hwrapped, -⟩ :=
    hunwraps "ENVKEY invalid".toList (by decide +kernel) (by decide +kernel)
  have hparts : (Utf8.decodeLossy output.stderr).toList =
      ['\t'] ++ "echo 'error: ".toList ++ "ENVKEY invalid".toList ++ "'; false".toList ++
        ['\n'] := by
    rw [Utf8.decodeLossy_encode]
    decide +kernel
  have hshown : ∃ c ∈ (Utf8.decodeLossy output.stderr).toList, Text.isBlank c = false := by
    rw [hparts]
    exact ⟨'e', by decide, by decide⟩
  have hmessage := hstderr hshown
  rw [hparts, hwrapped ['\t'] ['\n'] (by decide) (by decide), Text.trimsTo_iff] at hmessage
  have htrimmed : Text.trimChars "ENVKEY invalid".toList = "ENVKEY invalid".toList := by
    decide +kernel
  rw [hfetch, ← String.toList_inj.mp (htrimmed.symm.trans hmessage)]
  rfl

end SecretEnv.Resolver
