import Mathlib.Data.List.Basic
import SecretEnv.Override.Entries

/-!
# The lines of a file

**A content is cut into lines at its line feeds, and nowhere else** (`Override.lines_eq_iff`). Each
line feed ends a line and takes one carriage return before it away. What is left behind the last
line feed is a line as it stands, if anything is left.
-/

namespace SecretEnv.Override

/-- How a content is cut into lines. -/
inductive CutsInto : Octets → List Octets → Prop where
  | nil : CutsInto [] []
  /-- What no line feed ends keeps even a carriage return. -/
  | last {line : Octets} (hline : line ≠ []) (h : 0x0A ∉ line) : CutsInto line [line]
  | fed {line rest : Octets} {others : List Octets} (h : 0x0A ∉ line)
      (hreturn : line.getLast? ≠ some 0x0D) (hrest : CutsInto rest others) :
      CutsInto (line ++ 0x0A :: rest) (line :: others)
  | returned {line rest : Octets} {others : List Octets} (h : 0x0A ∉ line)
      (hrest : CutsInto rest others) :
      CutsInto (line ++ 0x0D :: 0x0A :: rest) (line :: others)

/-! ### What the cutter does with a line -/

section

variable {line : Octets}

theorem go_of_not_mem (h : 0x0A ∉ line) (start rest : Octets) :
    lines.go start (line ++ rest) = lines.go (line.reverse ++ start) rest := by
  induction line generalizing start with
  | nil => rfl
  | cons b line ih =>
      obtain ⟨hb, hline⟩ := not_or.mp (mt List.mem_cons.mpr h)
      rw [List.cons_append, lines.go, if_neg (Ne.symm hb), ih hline]
      simp

theorem lines_last (hline : line ≠ []) (h : 0x0A ∉ line) : lines line = [line] := by
  have hgo := go_of_not_mem h [] []
  rw [List.append_nil, List.append_nil] at hgo
  rw [lines, hgo, lines.go, if_neg (by simpa using hline), List.reverse_reverse]

theorem lines_fed (h : 0x0A ∉ line) (hreturn : line.getLast? ≠ some 0x0D) (rest : Octets) :
    lines (line ++ 0x0A :: rest) = line :: lines rest := by
  rw [lines, go_of_not_mem h, List.append_nil, lines.go, if_pos rfl,
    if_neg (by simpa using hreturn)]
  simp only [List.reverse_reverse, lines]

theorem lines_returned (h : 0x0A ∉ line) (rest : Octets) :
    lines (line ++ 0x0D :: 0x0A :: rest) = line :: lines rest := by
  have hended : 0x0A ∉ line ++ [0x0D] := by simp [h]
  rw [show line ++ 0x0D :: 0x0A :: rest = (line ++ [0x0D]) ++ 0x0A :: rest by simp, lines,
    go_of_not_mem hended, List.append_nil, lines.go, if_pos rfl]
  simp [lines]

end

/-! ### The cutter and the cut -/

theorem lines_of_cutsInto {content : Octets} {found : List Octets} (h : CutsInto content found) :
    lines content = found := by
  induction h with
  | nil => rfl
  | last hline h => exact lines_last hline h
  | fed h hreturn hrest ih => rw [lines_fed h hreturn, ih]
  | returned h hrest ih => rw [lines_returned h, ih]

theorem cutsInto_lines (content : Octets) : CutsInto content (lines content) := by
  by_cases hfeed : 0x0A ∈ content
  · obtain ⟨line, rest, rfl, hline⟩ := List.eq_append_cons_of_mem hfeed
    have hrest := cutsInto_lines rest
    by_cases hreturn : line.getLast? = some 0x0D
    · obtain ⟨front, rfl⟩ := List.getLast?_eq_some_iff.mp hreturn
      have hfront : 0x0A ∉ front := fun hmem => hline (List.mem_append_left _ hmem)
      rw [List.append_assoc, List.singleton_append, lines_returned hfront]
      exact .returned hfront hrest
    · rw [lines_fed hline hreturn]
      exact .fed hline hreturn hrest
  · cases content with
    | nil => exact .nil
    | cons b rest =>
        rw [lines_last (List.cons_ne_nil b rest) hfeed]
        exact .last (List.cons_ne_nil b rest) hfeed
termination_by content.length
decreasing_by
  subst_vars
  simp only [List.length_append, List.length_cons]
  omega

/-- **The cutter finds the lines of a content**, and a content has no other ones. -/
theorem lines_eq_iff {content : Octets} {found : List Octets} :
    lines content = found ↔ CutsInto content found := by
  refine ⟨?_, lines_of_cutsInto⟩
  rintro rfl
  exact cutsInto_lines content

/-! ### What lines have of their content -/

/-- What stands between line ends is part of the whole. -/
theorem mem_of_mem_lines {line content : Octets} {b : UInt8} (hline : line ∈ lines content)
    (hb : b ∈ line) : b ∈ content := by
  have hmem {content : Octets} {found : List Octets} (h : CutsInto content found) :
      line ∈ found → b ∈ content := by
    induction h with
    | nil => nofun
    | last =>
        intro hline
        rwa [← List.mem_singleton.mp hline]
    | fed h hreturn hrest ih =>
        intro hline
        rcases List.mem_cons.mp hline with rfl | hline
        · exact List.mem_append_left _ hb
        · simp [ih hline]
    | returned h hrest ih =>
        intro hline
        rcases List.mem_cons.mp hline with rfl | hline
        · exact List.mem_append_left _ hb
        · simp [ih hline]
  exact hmem (cutsInto_lines content) hline

/-- The lines up to a line end do not depend on what follows it. -/
theorem lines_append (start rest : Octets) :
    lines (start ++ 0x0A :: rest) = lines (start ++ [0x0A]) ++ lines rest := by
  have hgo : ∀ line, lines.go line (start ++ 0x0A :: rest) =
      lines.go line (start ++ [0x0A]) ++ lines.go [] rest := by
    induction start with
    | nil => intro line; simp [lines.go]
    | cons b start ih =>
        intro line
        simp only [List.cons_append, lines.go]
        split
        · rw [ih, List.cons_append]
        · rw [ih]
  exact hgo []

/-- A carriage return stays where no line feed follows it, and one of two goes where one does. -/
example : lines (Utf8.encode "a\r\r\nb\r") = [Utf8.encode "a\r", Utf8.encode "b\r"] := by decide

end SecretEnv.Override
