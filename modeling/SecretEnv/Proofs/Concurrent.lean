import Mathlib.Data.List.OfFn
import Mathlib.Logic.Function.Iterate
import SecretEnv.Proofs.Order

/-!
# Merges at the same time

**Merges that take turns on one store lose nothing and write nothing twice**
(`concurrent_merges_settle`). A turn of a merge is one write of a variable that is absent, which
nothing comes between; what the others do from one turn to the next is up to them. So what a merge
finds absent it writes and reports, and every other merge finds it there. The invariant is that the
store holds what it held and what the merges have written so far (`Merges.Sound`), and of each merge
that it has gone through some of its map and found or written that (`Merging.Fits`).

A merge whose turns are not interrupted is `Store.merge`, whatever the others did before
(`Merges.run_alone`).
-/

namespace SecretEnv

/-- What is read after an insertion was inserted, or was there under another name. -/
theorem Variables.getElem?_insert_eq_some_iff {vars : Variables} {name value other held : String} :
    (vars.insert name value)[other]? = some held ↔
      (other = name ∧ held = value) ∨ (other ≠ name ∧ vars[other]? = some held) := by
  simp only [Std.ExtTreeMap.getElem?_insert, Std.LawfulEqOrd.compare_eq_iff_eq]
  by_cases h : name = other
  · simp [h, eq_comm (a := held)]
  · simp [h, Ne.symm h]

/-- The variables of all maps of a list. -/
def Variables.unionAll (maps : List Variables) : Variables := maps.foldr (· ∪ ·) ∅

/-- Where maps agree on the names that they share, their union holds what any of them holds. -/
theorem Variables.getElem?_unionAll_eq_some_iff {maps : List Variables}
    (hagree : ∀ first ∈ maps, ∀ second ∈ maps, ∀ name held text : String,
      first[name]? = some held → second[name]? = some text → held = text) {name value : String} :
    (unionAll maps)[name]? = some value ↔ ∃ vars ∈ maps, vars[name]? = some value := by
  induction maps generalizing value with
  | nil => simp [unionAll]
  | cons vars maps ih =>
      have hrest : ∀ value, (unionAll maps)[name]? = some value ↔
          ∃ vars ∈ maps, vars[name]? = some value :=
        fun value => ih fun first hfirst second hsecond =>
          hagree first (List.mem_cons_of_mem _ hfirst) second (List.mem_cons_of_mem _ hsecond)
      rw [unionAll, List.foldr_cons, ← unionAll, Std.ExtTreeMap.getElem?_union,
        List.exists_mem_cons_iff, ← hrest]
      cases hlater : (unionAll maps)[name]? with
      | none => simp
      | some held =>
          -- one of the others holds it, and what this one holds is the same
          obtain ⟨other, hmem, hother⟩ := (hrest held).mp hlater
          rw [Option.some_or]
          refine ⟨.inr, ?_⟩
          rintro (hvalue | hheld)
          · rw [hagree other (List.mem_cons_of_mem _ hmem) vars List.mem_cons_self name held value
              hother hvalue]
          · exact hheld

namespace Store

/-! ### Stores that have grown -/

/-- The one store has become the other: it takes the same names and keeps what it holds. -/
structure GrowsTo (before after : Store) : Prop where
  accepts : ∀ name, after.accepts name = before.accepts name
  keeps : Keeps before after

namespace GrowsTo

theorem refl (store : Store) : store.GrowsTo store := ⟨fun _ => rfl, Keeps.refl store⟩

theorem trans {first second third : Store} (h : first.GrowsTo second) (h' : second.GrowsTo third) :
    first.GrowsTo third :=
  ⟨fun name => (h'.accepts name).trans (h.accepts name), h.keeps.trans h'.keeps⟩

theorem write {store : Store} {name : String} (value : String)
    (haccepts : store.accepts name = true) (habsent : store.has name = false) :
    store.GrowsTo (store.write name value) :=
  ⟨accepts_write store name value, keeps_write value haccepts habsent⟩

theorem has {before after : Store} (h : before.GrowsTo after) {name : String}
    (haccepts : before.accepts name = true) (hhas : before.has name = true) :
    after.has name = true := by
  obtain ⟨held, hheld⟩ := (has_iff_exists_held haccepts).mp hhas
  exact (has_iff_exists_held ((h.accepts name).trans haccepts)).mpr
    ⟨held, h.keeps _ held hheld⟩

/-- A store takes a map still when it has grown. -/
theorem accepts_of_takesAll {before after : Store} (h : before.GrowsTo after) {secrets : Variables}
    (htakes : before.TakesAll secrets) {name value : String}
    (hvalue : secrets[name]? = some value) : after.accepts name = true := by
  rw [h.accepts]
  exact htakes name (mem_iff_exists_getElem?.mpr ⟨value, hvalue⟩)

end GrowsTo

end Store

/-! ### One merge, turn by turn -/

/-- A merge so far. -/
inductive Merging where
  /-- It has written these variables, and has these entries still to visit. -/
  | underWay (written : Variables) (rest : List (String × String))
  /-- It is over. -/
  | ended (result : Except Error Variables)

namespace Merging

/-- The variables that a merge has written, unless it has failed. -/
def written : Merging → Variables
  | underWay written _ => written
  | ended (.ok written) => written
  | ended (.error _) => ∅

/-- The entries that a merge has still to visit. -/
def rest : Merging → List (String × String)
  | underWay _ rest => rest
  | ended _ => []

/-- How many turns a merge needs at most to be over. -/
def pending : Merging → Nat
  | underWay _ rest => rest.length + 1
  | ended _ => 0

/-- One turn of a merge, on the store as it is by then: it visits its next entry, or finds that there
is none and is over. -/
def turn : Store × Merging → Store × Merging
  | (store, underWay written []) => (store, ended (.ok written))
  | (store, underWay written ((name, value) :: rest)) =>
    match store.setIfAbsent name value with
    | .error error => (store, ended (.error error))
    | .ok (true, after) => (after, underWay (written.insert name value) rest)
    | .ok (false, after) => (after, underWay written rest)
  | (store, ended result) => (store, ended result)

/-- A merge that takes its turns without interruption is a merge. -/
theorem turns_alone (written : Variables) (store : Store) (entries : List (String × String)) :
    turn^[entries.length + 1] (store, underWay written entries) =
      ((Store.mergeAfter written store entries).store,
        ended (Store.mergeAfter written store entries).result) := by
  induction entries generalizing written store with
  | nil => rfl
  | cons entry rest ih =>
      obtain ⟨name, value⟩ := entry
      rw [List.length_cons, Function.iterate_succ_apply, Store.mergeAfter, turn]
      cases hset : store.setIfAbsent name value with
      | error error => exact Function.iterate_fixed rfl _
      | ok outcome =>
          obtain ⟨done, after⟩ := outcome
          cases done with
          | true => exact ih (written.insert name value) after
          | false => exact ih written after

theorem pending_turn (store : Store) (merging : Merging) :
    (turn (store, merging)).2.pending ≤ merging.pending - 1 := by
  cases merging with
  | ended result => exact Nat.le_refl 0
  | underWay written entries =>
      cases entries with
      | nil => exact Nat.le_refl 0
      | cons entry rest =>
          rw [turn]
          split
          · exact Nat.zero_le _
          · exact Nat.le_refl _
          · exact Nat.le_refl _

theorem exists_ended {merging : Merging} (h : merging.pending = 0) :
    ∃ result, merging = ended result := by
  cases merging with
  | underWay written rest => cases h
  | ended result => exact ⟨result, rfl⟩

/-- A turn for a name that the store takes. -/
theorem turn_of_accepts {store : Store} {name : String} (haccepts : store.accepts name = true)
    (written : Variables) (value : String) (rest : List (String × String)) :
    turn (store, underWay written ((name, value) :: rest)) =
      if store.has name then (store, underWay written rest)
      else (store.write name value, underWay (written.insert name value) rest) := by
  rw [turn, Store.setIfAbsent_eq, if_pos haccepts]
  by_cases hhas : store.has name = true
  · rw [if_pos hhas, if_pos hhas]
  · rw [if_neg hhas, if_neg hhas]

/-- A turn writes nothing, or it writes one variable that was absent. -/
theorem turn_cases {store : Store} {merging : Merging}
    (haccepts : ∀ entry ∈ merging.rest, store.accepts entry.1 = true) :
    ((turn (store, merging)).1 = store ∧
      (turn (store, merging)).2.written = merging.written) ∨
    ∃ name value, store.accepts name = true ∧ store.has name = false ∧
      (turn (store, merging)).1 = store.write name value ∧
      (turn (store, merging)).2.written = merging.written.insert name value := by
  cases merging with
  | ended result => exact .inl ⟨rfl, rfl⟩
  | underWay written entries =>
      cases entries with
      | nil => exact .inl ⟨rfl, rfl⟩
      | cons entry rest =>
          obtain ⟨name, value⟩ := entry
          have hname : store.accepts name = true := haccepts (name, value) List.mem_cons_self
          rw [turn_of_accepts hname]
          by_cases hhas : store.has name = true
          · rw [if_pos hhas]
            exact .inl ⟨rfl, rfl⟩
          · rw [if_neg hhas]
            exact .inr ⟨name, value, hname, by simpa using hhas, rfl, rfl⟩

/-- Where a merge of a map has got to. -/
structure Fits (before : Store) (secrets : Variables) (store : Store) (merging : Merging) :
    Prop where
  /-- What it has written is held. -/
  stored : ∀ name value, merging.written[name]? = some value →
    store.contents[Utf8.encode name]? = some (Utf8.encode value)
  /-- What it has written is in its map, and was absent. -/
  own : ∀ name value, merging.written[name]? = some value →
    secrets[name]? = some value ∧ before.has name = false
  /-- What it has still to visit is in its map. -/
  rest : ∀ entry ∈ merging.rest, secrets[entry.1]? = some entry.2
  /-- What it has visited is there. -/
  visited : ∀ name value, secrets[name]? = some value →
    (name, value) ∈ merging.rest ∨ store.has name = true
  /-- It has not failed. -/
  successful : ∀ error, merging ≠ .ended (.error error)

section

variable {before store : Store} {secrets : Variables} {merging : Merging}

theorem fits_underWay (before : Store) (secrets : Variables) (visiting : Visiting) :
    (underWay ∅ (visiting.entries secrets)).Fits before secrets before where
  stored := by simp [written]
  own := by simp [written]
  rest _ hentry := (visiting.mem_entries secrets).mp hentry
  visited _ _ hvalue := .inl ((visiting.mem_entries secrets).mpr hvalue)
  successful := nofun

/-- What the others write does not matter to a merge. -/
theorem Fits.mono (h : merging.Fits before secrets store) (hgrown : before.GrowsTo store)
    (htakes : before.TakesAll secrets) {after : Store} (hafter : store.GrowsTo after) :
    merging.Fits before secrets after where
  stored name value hvalue := hafter.keeps _ _ (h.stored name value hvalue)
  own := h.own
  rest := h.rest
  visited name value hvalue := by
    rcases h.visited name value hvalue with hmem | hhas
    · exact .inl hmem
    · exact .inr (hafter.has (hgrown.accepts_of_takesAll htakes hvalue) hhas)
  successful := h.successful

theorem Fits.accepts (h : merging.Fits before secrets store) (hgrown : before.GrowsTo store)
    (htakes : before.TakesAll secrets) : ∀ entry ∈ merging.rest, store.accepts entry.1 = true :=
  fun entry hentry => hgrown.accepts_of_takesAll htakes (h.rest entry hentry)

theorem growsTo_turn (haccepts : ∀ entry ∈ merging.rest, store.accepts entry.1 = true) :
    store.GrowsTo (turn (store, merging)).1 := by
  rcases turn_cases haccepts with ⟨hstore, -⟩ | ⟨name, value, hname, habsent, hstore, -⟩
  · rw [hstore]
    exact .refl store
  · rw [hstore]
    exact .write value hname habsent

/-- A merge that writes its next entry goes on with what it has written. -/
theorem Fits.write {written : Variables} {name value : String} {rest : List (String × String)}
    (h : (underWay written ((name, value) :: rest)).Fits before secrets store)
    (hgrown : before.GrowsTo store) (htakes : before.TakesAll secrets)
    (habsent : store.has name = false) :
    (underWay (written.insert name value) rest).Fits before secrets (store.write name value) := by
  have hvalue : secrets[name]? = some value := h.rest (name, value) List.mem_cons_self
  have hname : store.accepts name = true := hgrown.accepts_of_takesAll htakes hvalue
  have hmono := h.mono hgrown htakes (.write value hname habsent)
  refine ⟨?_, ?_, ?_, ?_, nofun⟩
  · intro other held hheld
    rcases Variables.getElem?_insert_eq_some_iff.mp hheld with ⟨rfl, rfl⟩ | ⟨-, hheld⟩
    · rw [Store.contents_write]
      exact Std.ExtTreeMap.getElem?_insert_self
    · exact hmono.stored other held hheld
  · intro other held hheld
    rcases Variables.getElem?_insert_eq_some_iff.mp hheld with ⟨rfl, rfl⟩ | ⟨-, hheld⟩
    · refine ⟨hvalue, ?_⟩
      -- what is absent now was absent before
      cases hbefore : before.has other with
      | false => rfl
      | true =>
          rw [hgrown.has (by rwa [← hgrown.accepts]) hbefore] at habsent
          cases habsent
    · exact hmono.own other held hheld
  · exact fun entry hentry => h.rest entry (List.mem_cons_of_mem _ hentry)
  · intro other held hheld
    rcases hmono.visited other held hheld with hmem | hhas
    · rcases List.mem_cons.mp hmem with heq | hmem
      · obtain ⟨rfl, rfl⟩ := Prod.mk.inj heq
        exact .inr (by simp [Store.has_write held hname])
      · exact .inl hmem
    · exact .inr hhas

/-- A merge goes through its map in its own turns. -/
theorem Fits.turn (h : merging.Fits before secrets store) (hgrown : before.GrowsTo store)
    (htakes : before.TakesAll secrets) :
    (turn (store, merging)).2.Fits before secrets (turn (store, merging)).1 := by
  cases merging with
  | ended result => exact h
  | underWay written entries =>
      cases entries with
      | nil => exact ⟨h.stored, h.own, h.rest, h.visited, nofun⟩
      | cons entry rest =>
          obtain ⟨name, value⟩ := entry
          rw [turn_of_accepts (h.accepts hgrown htakes (name, value) List.mem_cons_self)]
          by_cases hhas : store.has name = true
          · rw [if_pos hhas]
            refine ⟨h.stored, h.own, ?_, ?_, nofun⟩
            · exact fun entry hentry => h.rest entry (List.mem_cons_of_mem _ hentry)
            · intro other held hheld
              rcases h.visited other held hheld with hmem | hother
              · rcases List.mem_cons.mp hmem with heq | hmem
                · obtain ⟨rfl, rfl⟩ := Prod.mk.inj heq
                  exact .inr hhas
                · exact .inl hmem
              · exact .inr hother
          · rw [if_neg hhas]
            exact h.write hgrown htakes (by simpa using hhas)

end

end Merging

/-! ### Many merges -/

/-- Merges into one store. -/
structure Merges (ι : Type) where
  store : Store
  merging : ι → Merging

namespace Merges

variable {ι : Type}

/-- Merges that have not begun, each of a map of its own and in an order of its own. -/
def initial (store : Store) (secrets : ι → Variables) (visiting : ι → Visiting) : Merges ι :=
  ⟨store, fun i => .underWay ∅ ((visiting i).entries (secrets i))⟩

/-- Where merges of maps have got to that began with the same store. -/
structure Sound (before : Store) (secrets : ι → Variables) (merges : Merges ι) : Prop where
  grown : before.GrowsTo merges.store
  fits : ∀ i, (merges.merging i).Fits before (secrets i) merges.store
  /-- The store holds nothing but what it held and what the merges have written. -/
  only : ∀ octets held, merges.store.contents[octets]? = some held →
    before.contents[octets]? = some held ∨
      ∃ i name value, (merges.merging i).written[name]? = some value ∧
        Utf8.encode name = octets ∧ Utf8.encode value = held
  /-- No name is written by two merges. -/
  once : ∀ i j (name held text : String), (merges.merging i).written[name]? = some held →
    (merges.merging j).written[name]? = some text → i = j

theorem sound_initial (before : Store) (secrets : ι → Variables) (visiting : ι → Visiting) :
    Sound before secrets (initial before secrets visiting) where
  grown := .refl before
  fits i := Merging.fits_underWay before (secrets i) (visiting i)
  only _ _ hheld := .inl hheld
  once := by simp [initial, Merging.written]

theorem pending_initial (before : Store) (secrets : ι → Variables) (visiting : ι → Visiting)
    (i : ι) : ((initial before secrets visiting).merging i).pending = (secrets i).size + 1 := by
  rw [initial, Merging.pending, ((visiting i).perm (secrets i)).length_eq,
    Std.ExtTreeMap.length_toList]

variable {before : Store} {secrets : ι → Variables} {merges : Merges ι}

/-- A name that a merge has written is there. -/
theorem Sound.has_of_written (h : Sound before secrets merges)
    (htakes : ∀ i, before.TakesAll (secrets i)) {i : ι} {name value : String}
    (hwritten : (merges.merging i).written[name]? = some value) :
    merges.store.has name = true := by
  have hown := ((h.fits i).own name value hwritten).1
  exact (Store.has_iff_exists_held (h.grown.accepts_of_takesAll (htakes i) hown)).mpr
    ⟨_, (h.fits i).stored name value hwritten⟩

/-- A name that a merge has written was absent. -/
theorem Sound.not_mem_of_written (h : Sound before secrets merges)
    (htakes : ∀ i, before.TakesAll (secrets i)) {i : ι} {name value : String}
    (hwritten : (merges.merging i).written[name]? = some value) :
    Utf8.encode name ∉ before.contents := by
  obtain ⟨hown, habsent⟩ := (h.fits i).own name value hwritten
  have haccepts := htakes i name (mem_iff_exists_getElem?.mpr ⟨value, hown⟩)
  rw [Store.has_eq_contains haccepts] at habsent
  rw [Std.ExtTreeMap.mem_iff_contains, habsent]
  exact Bool.false_ne_true

/-- A name that was absent and that a merge has visited has been written, by that merge or by
another. -/
theorem Sound.exists_written (h : Sound before secrets merges)
    (htakes : ∀ i, before.TakesAll (secrets i)) {i : ι} {name value : String}
    (hvalue : (secrets i)[name]? = some value)
    (hvisited : (name, value) ∉ (merges.merging i).rest) (habsent : before.has name = false) :
    ∃ j text, (merges.merging j).written[name]? = some text := by
  have hthere := ((h.fits i).visited name value hvalue).resolve_left hvisited
  have haccepts := htakes i name (mem_iff_exists_getElem?.mpr ⟨value, hvalue⟩)
  obtain ⟨held, hheld⟩ := (Store.has_iff_exists_held
    (h.grown.accepts_of_takesAll (htakes i) hvalue)).mp hthere
  rcases h.only _ held hheld with hbefore | ⟨j, other, text, htext, hname, -⟩
  · rw [(Store.has_iff_exists_held haccepts).mpr ⟨held, hbefore⟩] at habsent
    cases habsent
  · exact ⟨j, text, Utf8.encode_injective hname ▸ htext⟩

/-- A merge that has had turns enough is over, and reports what it has written. -/
theorem Sound.ended (h : Sound before secrets merges) {i : ι}
    (hover : (merges.merging i).pending = 0) :
    merges.merging i = .ended (.ok (merges.merging i).written) := by
  obtain ⟨result, hresult⟩ := Merging.exists_ended hover
  cases result with
  | error error => exact absurd hresult ((h.fits i).successful error)
  | ok written => rw [hresult, Merging.written]

variable [DecidableEq ι]

/-- A merge has a turn. -/
def turn (merges : Merges ι) (i : ι) : Merges ι :=
  let after := Merging.turn (merges.store, merges.merging i)
  ⟨after.1, Function.update merges.merging i after.2⟩

/-- Merges have turns in this order. -/
def run (merges : Merges ι) (turns : List ι) : Merges ι := turns.foldl turn merges

/-! ### A turn of one of them -/

theorem merging_turn_self (merges : Merges ι) (i : ι) :
    (merges.turn i).merging i = (Merging.turn (merges.store, merges.merging i)).2 :=
  Function.update_self ..

theorem merging_turn_of_ne {i j : ι} (h : j ≠ i) (merges : Merges ι) :
    (merges.turn i).merging j = merges.merging j := Function.update_of_ne h ..

/-! ### Turns that nothing comes between -/

/-- A merge without a turn stays where it is. -/
theorem merging_run_of_not_mem {turns : List ι} {i : ι} (h : i ∉ turns) (merges : Merges ι) :
    (merges.run turns).merging i = merges.merging i := by
  induction turns generalizing merges with
  | nil => rfl
  | cons j turns ih =>
      obtain ⟨hj, hturns⟩ := not_or.mp (mt List.mem_cons.mpr h)
      exact (ih hturns (merges.turn j)).trans (merging_turn_of_ne hj merges)

theorem run_replicate (merges : Merges ι) (i : ι) (count : Nat) :
    let alone := merges.run (List.replicate count i)
    (alone.store, alone.merging i) = Merging.turn^[count] (merges.store, merges.merging i) := by
  induction count generalizing merges with
  | zero => rfl
  | succ count ih =>
      have hturn : ((merges.turn i).store, (merges.turn i).merging i) =
          Merging.turn (merges.store, merges.merging i) := by
        rw [merging_turn_self, turn]
      rw [Function.iterate_succ_apply, ← hturn]
      exact ih (merges.turn i)

/-- A merge that begins when the others have had some turns, and is not interrupted then, is
`Store.merge` into the store as it finds it. -/
theorem run_alone {visiting : ι → Visiting} {earlier : List ι} {i : ι} (h : i ∉ earlier) :
    let merges := (initial before secrets visiting).run earlier
    let merged := merges.store.merge (secrets i) (visiting i)
    let alone := merges.run (List.replicate ((secrets i).size + 1) i)
    alone.store = merged.store ∧ alone.merging i = .ended merged.result := by
  intro merges merged alone
  have hstart : merges.merging i = .underWay ∅ ((visiting i).entries (secrets i)) :=
    merging_run_of_not_mem h _
  have hlength : ((visiting i).entries (secrets i)).length = (secrets i).size := by
    rw [((visiting i).perm (secrets i)).length_eq, Std.ExtTreeMap.length_toList]
  have halone : (alone.store, alone.merging i) = _ := run_replicate merges i _
  rw [hstart, ← hlength, Merging.turns_alone] at halone
  exact Prod.mk.inj halone

/-! ### What a turn changes -/

/-- What the merges have written after a turn, if that wrote a variable. -/
theorem written_turn {i : ι} {name value : String}
    (hwritten : (Merging.turn (merges.store, merges.merging i)).2.written =
      (merges.merging i).written.insert name value)
    (habsent : ∀ j held, (merges.merging j).written[name]? ≠ some held) (j : ι)
    (other held : String) :
    ((merges.turn i).merging j).written[other]? = some held ↔
      (j = i ∧ other = name ∧ held = value) ∨ (merges.merging j).written[other]? = some held := by
  by_cases hj : j = i
  · subst hj
    rw [merging_turn_self, hwritten, Variables.getElem?_insert_eq_some_iff]
    constructor
    · rintro (⟨rfl, rfl⟩ | ⟨-, hheld⟩)
      · exact .inl ⟨rfl, rfl, rfl⟩
      · exact .inr hheld
    · rintro (⟨-, rfl, rfl⟩ | hheld)
      · exact .inl ⟨rfl, rfl⟩
      · exact .inr ⟨fun heq => habsent j held (heq ▸ hheld), hheld⟩
  · simp [merging_turn_of_ne hj, hj]

/-- After a turn every merge has still got where it had, or one entry further. -/
theorem Sound.fits_turn (h : Sound before secrets merges)
    (htakes : ∀ i, before.TakesAll (secrets i)) (i j : ι) :
    ((merges.turn i).merging j).Fits before (secrets j) (merges.turn i).store := by
  by_cases hj : j = i
  · subst hj
    rw [merging_turn_self]
    exact (h.fits j).turn h.grown (htakes j)
  · rw [merging_turn_of_ne hj]
    exact (h.fits j).mono h.grown (htakes j)
      (Merging.growsTo_turn ((h.fits i).accepts h.grown (htakes i)))

/-- A turn that writes nothing. -/
theorem Sound.turn_of_store_eq (h : Sound before secrets merges)
    (htakes : ∀ i, before.TakesAll (secrets i)) {i : ι}
    (hstore : (merges.turn i).store = merges.store)
    (hwritten : (Merging.turn (merges.store, merges.merging i)).2.written =
      (merges.merging i).written) : Sound before secrets (merges.turn i) := by
  have hsame : ∀ j, ((merges.turn i).merging j).written = (merges.merging j).written := by
    intro j
    by_cases hj : j = i
    · subst hj
      rw [merging_turn_self, hwritten]
    · rw [merging_turn_of_ne hj]
  refine ⟨?_, h.fits_turn htakes i, ?_, ?_⟩
  · rw [hstore]
    exact h.grown
  · simpa only [hsame, hstore] using h.only
  · simpa only [hsame] using h.once

/-- A turn that writes a variable: no merge has written it before, for it would be there. -/
theorem Sound.turn_of_write (h : Sound before secrets merges)
    (htakes : ∀ i, before.TakesAll (secrets i)) {i : ι} {name value : String}
    (haccepts : merges.store.accepts name = true) (habsent : merges.store.has name = false)
    (hstore : (merges.turn i).store = merges.store.write name value)
    (hwritten : (Merging.turn (merges.store, merges.merging i)).2.written =
      (merges.merging i).written.insert name value) : Sound before secrets (merges.turn i) := by
  have hnew : ∀ j held, (merges.merging j).written[name]? ≠ some held := by
    intro j held hheld
    rw [h.has_of_written htakes hheld] at habsent
    cases habsent
  have hturn := written_turn hwritten hnew
  refine ⟨?_, h.fits_turn htakes i, ?_, ?_⟩
  · rw [hstore]
    exact h.grown.trans (.write value haccepts habsent)
  · intro octets held hheld
    simp only [hstore, Store.contents_write, Std.ExtTreeMap.getElem?_insert,
      Std.LawfulEqOrd.compare_eq_iff_eq] at hheld
    split at hheld
    · exact .inr ⟨i, name, value, (hturn i name value).mpr (.inl ⟨rfl, rfl, rfl⟩), ‹_›,
        Option.some.inj hheld⟩
    · rcases h.only octets held hheld with hbefore | ⟨j, other, text, htext, hother, hheld⟩
      · exact .inl hbefore
      · exact .inr ⟨j, other, text, (hturn j other text).mpr (.inr htext), hother, hheld⟩
  · intro j k other held text hheld htext
    rcases (hturn j other held).mp hheld with ⟨rfl, rfl, -⟩ | hfirst
    · rcases (hturn k other text).mp htext with ⟨rfl, -, -⟩ | hsecond
      · rfl
      · exact absurd hsecond (hnew k text)
    · rcases (hturn k other text).mp htext with ⟨rfl, rfl, -⟩ | hsecond
      · exact absurd hfirst (hnew j held)
      · exact h.once j k other held text hfirst hsecond

theorem Sound.turn (h : Sound before secrets merges) (htakes : ∀ i, before.TakesAll (secrets i))
    (i : ι) : Sound before secrets (merges.turn i) := by
  rcases Merging.turn_cases ((h.fits i).accepts h.grown (htakes i)) with
    ⟨hstore, hwritten⟩ | ⟨name, value, haccepts, habsent, hstore, hwritten⟩
  · exact h.turn_of_store_eq htakes hstore hwritten
  · exact h.turn_of_write htakes haccepts habsent hstore hwritten

/-! ### All turns -/

theorem Sound.run (h : Sound before secrets merges) (htakes : ∀ i, before.TakesAll (secrets i))
    (turns : List ι) : Sound before secrets (merges.run turns) := by
  induction turns generalizing merges with
  | nil => exact h
  | cons i turns ih => exact ih (h.turn htakes i)

/-- Each turn of a merge takes it one entry further, whoever else has turns. -/
theorem pending_run (merges : Merges ι) (turns : List ι) (i : ι) :
    ((merges.run turns).merging i).pending ≤ (merges.merging i).pending - turns.count i := by
  induction turns generalizing merges with
  | nil => exact Nat.le_refl _
  | cons j turns ih =>
      have hrest := ih (merges.turn j)
      by_cases hj : i = j
      · subst hj
        have hturn := Merging.pending_turn merges.store (merges.merging i)
        rw [merging_turn_self] at hrest
        rw [List.count_cons_self]
        exact hrest.trans (by omega)
      · rw [merging_turn_of_ne hj] at hrest
        rw [List.count_cons_of_ne (Ne.symm hj)]
        exact hrest

/-! ### When all are over -/

/-- What merges of maps leave behind that began with the same store, and what each of them reports. -/
structure Settled {n : Nat} (before : Store) (secrets reported : Fin n → Variables)
    (after : Store) : Prop where
  /-- What was held is held, with the same value. -/
  kept : before.Keeps after
  /-- A merge reports nothing but what is in its map and was absent. -/
  own : ∀ i name value, (reported i)[name]? = some value →
    (secrets i)[name]? = some value ∧ before.has name = false
  /-- A name that was absent and is in a map is reported by exactly one merge, and is held with the
  value that it has in the map of that merge. -/
  once : ∀ name, before.has name = false → (∃ i, name ∈ secrets i) →
    ∃ winner value, (∀ i, name ∈ reported i ↔ i = winner) ∧
      (secrets winner)[name]? = some value ∧ (reported winner)[name]? = some value ∧
      after.contents[Utf8.encode name]? = some (Utf8.encode value)
  /-- What the merges report together is what the store holds more than it held. -/
  difference : after.contents \ before.contents =
    Environment.ofVariables (Variables.unionAll (List.ofFn reported))

/-- What merges have written is what the store holds more than it held. -/
theorem Sound.difference {n : Nat} {before : Store} {secrets : Fin n → Variables}
    {merges : Merges (Fin n)} (h : Sound before secrets merges)
    (htakes : ∀ i, before.TakesAll (secrets i)) :
    merges.store.contents \ before.contents = Environment.ofVariables
      (Variables.unionAll (List.ofFn fun i => (merges.merging i).written)) := by
  have hunion : ∀ name value : String,
      (Variables.unionAll (List.ofFn fun i => (merges.merging i).written))[name]? = some value ↔
        ∃ i, (merges.merging i).written[name]? = some value := by
    intro name value
    rw [Variables.getElem?_unionAll_eq_some_iff]
    · simp only [List.mem_ofFn, exists_exists_eq_and]
    · simp only [List.mem_ofFn, forall_exists_index, forall_apply_eq_imp_iff]
      intro i j name held text hheld htext
      obtain rfl := h.once i j name held text hheld htext
      exact Option.some.inj (hheld.symm.trans htext)
  apply Std.ExtTreeMap.ext_getElem?
  intro octets
  apply Option.ext
  intro held
  rw [Std.ExtTreeMap.getElem?_diff, Environment.getElem?_ofVariables_eq_some_iff]
  simp only [hunion]
  constructor
  · intro hheld
    split at hheld
    · cases hheld
    · rename_i habsent
      rcases h.only octets held hheld with hbefore | ⟨i, name, value, hvalue, hoctets⟩
      · exact absurd (mem_iff_exists_getElem?.mpr ⟨held, hbefore⟩) habsent
      · exact ⟨name, value, ⟨i, hvalue⟩, hoctets⟩
  · rintro ⟨name, value, ⟨i, hvalue⟩, rfl, rfl⟩
    rw [if_neg (h.not_mem_of_written htakes hvalue)]
    exact (h.fits i).stored name value hvalue

theorem Sound.settled {n : Nat} {before : Store} {secrets : Fin n → Variables}
    {merges : Merges (Fin n)} (h : Sound before secrets merges)
    (htakes : ∀ i, before.TakesAll (secrets i)) (hover : ∀ i, (merges.merging i).rest = []) :
    Settled before secrets (fun i => (merges.merging i).written) merges.store where
  kept := h.grown.keeps
  own i := (h.fits i).own
  once := by
    rintro name habsent ⟨i, hmem⟩
    obtain ⟨value, hvalue⟩ := mem_iff_exists_getElem?.mp hmem
    obtain ⟨winner, text, htext⟩ :=
      h.exists_written htakes hvalue (by simp [hover]) habsent
    refine ⟨winner, text, fun j => ⟨fun hj => ?_, ?_⟩, ((h.fits winner).own name text htext).1,
      htext, (h.fits winner).stored name text htext⟩
    · obtain ⟨held, hheld⟩ := mem_iff_exists_getElem?.mp hj
      exact h.once j winner name held text hheld htext
    · rintro rfl
      exact mem_iff_exists_getElem?.mpr ⟨text, htext⟩
  difference := h.difference htakes

/-- **Merges at the same time lose nothing and write nothing twice.** Any number of merges into one
store, whose turns come in any order until each has gone through its map: all succeed, and what they
leave and report is settled. The turns are those of the program: a merge that begins when the others
have had some turns, and is not interrupted then, is `Store.merge`. -/
theorem concurrent_merges_settle {n : Nat} (before : Store) (secrets : Fin n → Variables)
    (visiting : Fin n → Visiting) (htakes : ∀ i, before.TakesAll (secrets i))
    (turns : List (Fin n)) (hturns : ∀ i, (secrets i).size < turns.count i) :
    (∃ reported, (∀ i, ((initial before secrets visiting).run turns).merging i =
        .ended (.ok (reported i))) ∧
      Settled before secrets reported ((initial before secrets visiting).run turns).store) ∧
    ∀ (earlier : List (Fin n)) i, i ∉ earlier →
      let merges := (initial before secrets visiting).run earlier
      let merged := merges.store.merge (secrets i) (visiting i)
      let alone := merges.run (List.replicate ((secrets i).size + 1) i)
      alone.store = merged.store ∧ alone.merging i = .ended merged.result := by
  refine ⟨?_, fun earlier i => run_alone⟩
  have hsound := (sound_initial before secrets visiting).run htakes turns
  have hover : ∀ i, (((initial before secrets visiting).run turns).merging i).pending = 0 := by
    intro i
    have hpending := pending_run (initial before secrets visiting) turns i
    rw [pending_initial] at hpending
    have hcount := hturns i
    omega
  have hended := fun i => hsound.ended (hover i)
  exact ⟨_, hended, hsound.settled htakes fun i => by rw [hended i, Merging.rest]⟩

/-- It says of two merges whose maps share `B`, into an environment that holds `A` as no text, that
the one which is the first to visit `B` writes and reports it; and that the second, all of whose
turns come after two of the first, merges into the store which these have left. -/
theorem two_merges_settle :
    let before : Store := .process ((∅ : Environment).insert [0x41] [0xFF])
    let secrets : Fin 2 → Variables := fun i =>
      if i = 0 then .ofEntries [("A", "1"), ("B", "2"), ("D", "5")]
      else .ofEntries [("B", "3"), ("C", "4")]
    let turns : List (Fin 2) := [1, 0, 0, 0, 1, 0, 1]
    let merges := (initial before secrets fun _ => .byName).run turns
    ∃ reported, (∀ i, merges.merging i = .ended (.ok (reported i))) ∧
      Settled before secrets reported merges.store ∧
      (reported 0).toList = [("D", "5")] ∧ (reported 1).toList = [("B", "3"), ("C", "4")] ∧
      ∃ result, ((initial before secrets fun _ => .byName).run [0, 0, 1, 1, 1]).merging 1 =
        .ended result ∧ result.toOption.map (·.toList) = some [("C", "4")] := by
  intro before secrets turns merges
  have htakes : ∀ i, before.TakesAll (secrets i) := by
    intro i name hname
    rw [← Std.ExtTreeMap.mem_keys] at hname
    have hkeys : ∀ i, ∀ name ∈ (secrets i).keys, before.accepts name = true := by decide +kernel
    exact hkeys i name hname
  obtain ⟨⟨reported, hended, hsettled⟩, halone⟩ := concurrent_merges_settle before secrets
    (fun _ => .byName) htakes turns (by decide +kernel)
  have hreported : ∀ i, (merges.merging i).written = reported i := fun i => by
    rw [hended i, Merging.written]
  refine ⟨reported, hended, hsettled, ?_, ?_, _, (halone [0, 0] 1 (by decide)).2, ?_⟩
  · rw [← hreported]
    decide +kernel
  · rw [← hreported]
    decide +kernel
  · decide +kernel

end Merges

end SecretEnv
