import Mathlib.Data.List.Basic
import SecretEnv.FileTree

/-!
# Where a path leads

**A relative path leads some levels up from where it starts, and from there down by names**
(`Route`), whatever directory that is. So from two directories it names the same place exactly if
they are the same so many levels up (`FileTree.named_eq_named_iff`). An absolute path leads down
from the root. Following a path through the files gives the place that it names, or a fault
(`FileTree.eq_named_of_resolveFrom`).
-/

namespace SecretEnv

/-! ### The parts of a path -/

namespace Path

theorem parts_ne_nil (cs : List Char) : parts cs ≠ [] := by
  fun_cases parts cs <;> simp

/-- A slash divides the parts before it from the parts behind it. -/
theorem parts_append_slash (cs rest : List Char) :
    parts (cs ++ '/' :: rest) = parts cs ++ parts rest := by
  induction cs with
  | nil => rfl
  | cons c cs ih =>
      by_cases hslash : c = '/'
      · subst hslash
        rw [List.cons_append, parts, parts, ih, List.cons_append]
      · obtain ⟨part, more, hparts⟩ := List.exists_cons_of_ne_nil (parts_ne_nil cs)
        rw [List.cons_append, parts, parts, ih, hparts]
        · rfl
        all_goals simp [hslash]

end Path

/-! ### Places -/

namespace Place

/-- Where one part of a path leads from a place. -/
def enter (place : Place) (part : String) : Place :=
  if Path.staysHere part then place
  else if part = ".." then place.dropLast
  else place ++ [part]

/-- The place so many levels up; the root is above itself. -/
def above (levels : Nat) (place : Place) : Place := place.take (place.length - levels)

@[simp] theorem above_zero (place : Place) : place.above 0 = place := by
  simp [above]

theorem above_succ (levels : Nat) (place : Place) :
    place.above (levels + 1) = (place.above levels).dropLast := by
  simp only [above, List.dropLast_eq_take, List.take_take, List.length_take]
  congr 1
  omega

end Place

/-! ### Routes -/

/-- A way that goes up first, and then down by names. -/
structure Route where
  up : Nat
  down : List String

namespace Route

/-- A route with one part of a path more: it goes back where it can, and else further up. -/
def enter (route : Route) (part : String) : Route :=
  if Path.staysHere part then route
  else if part = ".." then
    if route.down.isEmpty then ⟨route.up + 1, []⟩ else ⟨route.up, route.down.dropLast⟩
  else ⟨route.up, route.down ++ [part]⟩

/-- The route that a relative path describes. -/
def ofPath (path : String) : Route := (Path.parts path.toList).foldl enter ⟨0, []⟩

/-- Where a route leads. -/
def leadsTo (route : Route) (dir : Place) : Place := dir.above route.up ++ route.down

theorem leadsTo_enter (route : Route) (part : String) (dir : Place) :
    (route.enter part).leadsTo dir = Place.enter (route.leadsTo dir) part := by
  unfold enter Place.enter
  split
  · rfl
  split
  · obtain ⟨up, down⟩ := route
    cases down with
    | nil => simp [leadsTo, Place.above_succ]
    | cons name names => simp [leadsTo, List.dropLast_append_of_ne_nil]
  · simp [leadsTo]

theorem leadsTo_foldl_enter (parts : List String) (route : Route) (dir : Place) :
    (parts.foldl enter route).leadsTo dir = parts.foldl Place.enter (route.leadsTo dir) := by
  induction parts generalizing route with
  | nil => rfl
  | cons part parts ih => rw [List.foldl_cons, List.foldl_cons, ih, leadsTo_enter]

end Route

/-! ### What a path names -/

namespace FileTree

theorem named_eq_foldl (dir : Place) (path : String) :
    named dir path =
      (Path.parts path.toList).foldl Place.enter (if Path.isAbsolute path then [] else dir) := rfl

theorem named_of_isAbsolute {path : String} (h : Path.isAbsolute path = true) (dir : Place) :
    named dir path = named [] path := by
  rw [named_eq_foldl, named_eq_foldl, if_pos h, if_pos h]

/-- A relative path names the place to which its route leads. -/
theorem named_of_not_isAbsolute {path : String} (h : Path.isAbsolute path = false) (dir : Place) :
    named dir path = (Route.ofPath path).leadsTo dir := by
  have hstart : Route.leadsTo ⟨0, []⟩ dir = dir := by simp [Route.leadsTo]
  rw [named_eq_foldl, if_neg (by simp [h]), Route.ofPath, Route.leadsTo_foldl_enter, hstart]

/-- From two directories a path names the same place exactly if it is absolute, or if they are the
same as many levels up as it goes. -/
theorem named_eq_named_iff (dir other : Place) (path : String) :
    named dir path = named other path ↔
      Path.isAbsolute path = true ∨
        dir.above (Route.ofPath path).up = other.above (Route.ofPath path).up := by
  cases h : Path.isAbsolute path with
  | true => simp [named_of_isAbsolute h dir, named_of_isAbsolute h other]
  | false => simp [named_of_not_isAbsolute h, Route.leadsTo]

/-- A slash at the end of a path leads nowhere else. -/
theorem foldl_enter_parts_slash (cs : List Char) (start : Place) :
    (Path.parts (cs ++ ['/'])).foldl Place.enter start =
      (Path.parts cs).foldl Place.enter start := by
  have hparts : Path.parts (cs ++ ['/']) = Path.parts cs ++ [""] := Path.parts_append_slash cs []
  rw [hparts, List.foldl_append]
  rfl

/-- Behind a slash a relative path goes on from where the path before it leads. -/
theorem named_of_slash {base path joined : String} {front : List Char} (dir : Place)
    (hpath : Path.isAbsolute path = false) (hempty : base ≠ "")
    (hbase : base.toList = front ∨ base.toList = front ++ ['/'])
    (hjoined : joined.toList = front ++ '/' :: path.toList) :
    named dir joined = named (named dir base) path := by
  have habsolute : Path.isAbsolute joined = Path.isAbsolute base := by
    have hnonempty : base.toList ≠ [] := by simpa using hempty
    rw [Path.isAbsolute, Path.isAbsolute, hjoined]
    rcases hbase with hbase | hbase
    · rw [hbase] at hnonempty ⊢
      rw [List.head?_append_of_ne_nil _ hnonempty]
    · rw [hbase]
      cases front <;> rfl
  have hstart : ∀ start, (Path.parts base.toList).foldl Place.enter start =
      (Path.parts front).foldl Place.enter start := by
    intro start
    rcases hbase with hbase | hbase
    · rw [hbase]
    · rw [hbase, foldl_enter_parts_slash]
  have hrelative : ¬ Path.isAbsolute path = true := by simp [hpath]
  rw [named_eq_foldl dir joined, hjoined, habsolute, Path.parts_append_slash, List.foldl_append,
    named_eq_foldl _ path, if_neg hrelative, named_eq_foldl dir base, hstart]

/-- A path below another names what it names from there. -/
theorem named_join (dir : Place) (base path : String) :
    named dir (Path.join base path) = named (named dir base) path := by
  unfold Path.join
  split
  · rename_i hstands
    cases habsolute : Path.isAbsolute path with
    | true => rw [named_of_isAbsolute habsolute, named_of_isAbsolute habsolute (named dir base)]
    | false =>
        have hempty : base = "" := by simpa [habsolute] using hstands
        rw [hempty]
        rfl
  rename_i hbelow
  simp only [Bool.or_eq_true, not_or, Bool.not_eq_true, String.isEmpty_eq_false_iff] at hbelow
  obtain ⟨hpath, hempty⟩ := hbelow
  split
  · rename_i hslash
    obtain ⟨front, hfront⟩ := List.getLast?_eq_some_iff.mp (by simpa using hslash)
    exact named_of_slash dir hpath hempty (.inr hfront) (by simp [hfront])
  · exact named_of_slash dir hpath hempty (.inl rfl) (by simp)

/-! ### Following a path -/

/-- Parts that are followed to a place lead there. -/
theorem eq_foldl_of_follow {tree : FileTree} {start place : Place} {parts : List String}
    (h : tree.follow start parts = .ok place) : place = parts.foldl Place.enter start := by
  induction parts generalizing start with
  | nil =>
      cases h
      rfl
  | cons part parts ih =>
      unfold follow at h
      split at h
      · cases h
      · rw [List.foldl_cons, Place.enter]
        split at h
        · rename_i hstays
          rw [if_pos hstays]
          exact ih h
        rename_i hmoves
        rw [if_neg hmoves]
        split at h
        · rename_i hup
          rw [if_pos hup]
          exact ih h
        · rename_i hdown
          rw [if_neg hdown]
          exact ih h
      · cases h

/-- A path that is followed to a place names it. -/
theorem eq_named_of_resolveFrom {tree : FileTree} {dir place : Place} {path : String}
    (h : tree.resolveFrom dir path = .ok place) : place = named dir path := by
  unfold resolveFrom at h
  split at h
  · cases h
  · exact eq_foldl_of_follow h

end FileTree

end SecretEnv
