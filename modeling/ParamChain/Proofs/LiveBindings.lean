import Mathlib.Data.List.Basic
import Mathlib.Data.List.Induction
import Mathlib.Order.Lattice
import ParamChain.Proofs.ScopeSteps

/-
This file says what a name stands for after any course of opening scopes, binding names and closing
scopes, without looking at the frames.

The course itself tells which bindings are live. A binding goes into the scope that is innermost
when it is made, and the number of open scopes tells how deep that scope lies. It is there as long
as this number has not been smaller since. Of the live bindings of a name the one made last counts,
whether or not it knows a type: while a scope is open, nothing is bound in those around it, so what
lies deeper was bound later. Closing the root frame is not possible, and an attempt at it leaves the
number of open scopes at none.
-/

namespace ParamChain.ParseTree.Scopes

/-! ### Courses of changes -/

/-- What can be done to scopes. -/
inductive Change where
  | push (frame : Frame)
  | bind (name : String) (type : Option TypeExpr)
  | pop

/-- The scopes after a change. -/
def change (s : Scopes) : Change → Scopes
  | .push frame => s.push frame
  | .bind name type => s.bind name type
  | .pop => s.pop

/-- The scopes after changes that begin with the root frame alone. -/
def after (root : Frame) (changes : List Change) : Scopes :=
  changes.foldl change (ofRoot root)

/-- The number of open scopes after a change, the root frame not counted. -/
def Change.depth (before : Nat) : Change → Nat
  | .push _ => before + 1
  | .bind _ _ => before
  | .pop => before - 1

/-- The number of open scopes after changes, the root frame not counted. -/
def depth (changes : List Change) : Nat :=
  changes.foldl Change.depth 0

/-- What a change binds a name to, if it does. -/
def Change.binding? (x : String) : Change → Option (Option TypeExpr)
  | .push frame => Scopes.binding? frame x
  | .bind name type => if name = x then some type else none
  | .pop => none

/-- What a name is bound to at a place, if it is bound there. The root frame is the place zero, and
the changes follow from one on. -/
def bindingAt? (root : Frame) (changes : List Change) (x : String) : Nat → Option (Option TypeExpr)
  | 0 => binding? root x
  | place + 1 => changes[place]?.bind (Change.binding? x)

/-- The name is bound at the place, and the scope in which it is bound there has not been closed. -/
structure Live (root : Frame) (changes : List Change) (x : String) (place : Nat)
    (type : Option TypeExpr) : Prop where
  made : bindingAt? root changes x place = some type
  kept : ∀ later, place ≤ later → depth (changes.take place) ≤ depth (changes.take later)

/-- What stands at the last place at which anything does. -/
def Newest {Item : Type} (stands : Nat → Item → Prop) : Option Item → Prop
  | none => ∀ place item, ¬ stands place item
  | some item => ∃ place, stands place item ∧ ∀ other item', stands other item' → other ≤ place

theorem Newest.congr {Item : Type} {stands stands' : Nat → Item → Prop} {found : Option Item}
    (same : ∀ place item, stands' place item ↔ stands place item) (newest : Newest stands found) :
    Newest stands' found := by
  have equal : stands' = stands := funext fun place => funext fun item => propext (same place item)
  rw [equal]
  exact newest

/-- If there is one place only, what stands there is the newest. -/
theorem newest_of_only {Item : Type} {stands : Nat → Item → Prop} {found : Option Item}
    (here : Nat) (only : ∀ place item, stands place item ↔ place = here ∧ found = some item) :
    Newest stands found := by
  cases found with
  | none =>
    intro place item stood
    cases ((only place item).1 stood).2
  | some item =>
    refine ⟨here, (only here item).2 ⟨rfl, rfl⟩, fun other item' stood => ?_⟩
    exact Nat.le_of_eq ((only other item').1 stood).1

/-! ### One change more -/

variable {root : Frame} {changes : List Change} {x : String}

theorem after_concat (root : Frame) (changes : List Change) (c : Change) :
    after root (changes ++ [c]) = (after root changes).change c :=
  List.foldl_concat _ _ _ _

theorem depth_concat (changes : List Change) (c : Change) :
    depth (changes ++ [c]) = c.depth (depth changes) :=
  List.foldl_concat _ _ _ _

/-- The scopes around the innermost are as many as are open besides the root frame. -/
theorem length_outer_after (root : Frame) (changes : List Change) :
    (after root changes).outer.length = depth changes := by
  induction changes using List.reverseRecOn with
  | nil => rfl
  | append_singleton changes c inductionHypothesis =>
    rw [after_concat, depth_concat, ← inductionHypothesis]
    cases c with
    | push frame => rfl
    | bind name type => rfl
    | pop =>
      rw [change, pop, Change.depth]
      cases outer : (after root changes).outer with
      | nil => rw [outer]; rfl
      | cons frame rest => rfl

/-- A live binding was made by a change that has been. -/
theorem Live.place_le {place : Nat} {type : Option TypeExpr}
    (live : Live root changes x place type) : place ≤ changes.length := by
  cases place with
  | zero => exact Nat.zero_le _
  | succ place =>
    obtain ⟨c, found, -⟩ := Option.bind_eq_some_iff.1 live.made
    exact (List.getElem?_eq_some_iff.1 found).1

/-- A live binding lies in a scope that is open. -/
theorem Live.depth_le {place : Nat} {type : Option TypeExpr}
    (live : Live root changes x place type) : depth (changes.take place) ≤ depth changes := by
  have now := live.kept changes.length live.place_le
  rwa [List.take_length] at now

/-- A binding that is live was made after whatever lies less deep. -/
theorem Live.place_lt {place other : Nat} {type : Option TypeExpr}
    (live : Live root changes x place type)
    (deeper : depth (changes.take other) < depth (changes.take place)) : other < place := by
  by_contra notEarlier
  exact absurd (live.kept other (Nat.le_of_not_lt notEarlier)) (Nat.not_le_of_lt deeper)

/-- A further change leaves what earlier ones bound. -/
theorem bindingAt?_concat {c : Change} {place : Nat} (old : place ≤ changes.length) :
    bindingAt? root (changes ++ [c]) x place = bindingAt? root changes x place := by
  cases place with
  | zero => rfl
  | succ place => rw [bindingAt?, bindingAt?, List.getElem?_append_left old]

theorem bindingAt?_concat_new {c : Change} :
    bindingAt? root (changes ++ [c]) x (changes.length + 1) = c.binding? x := by
  rw [bindingAt?, List.getElem?_concat_length, Option.bind_some]

theorem take_concat_new {c : Change} {place : Nat} (new : changes.length < place) :
    (changes ++ [c]).take place = changes ++ [c] :=
  List.take_of_length_le (by rw [List.length_append]; exact new)

/-- After one change more those bindings are live that were so and lie no deeper than the scopes
reach now, and those of the change. -/
theorem live_concat {c : Change} {place : Nat} {type : Option TypeExpr} :
    Live root (changes ++ [c]) x place type ↔
      (Live root changes x place type ∧ depth (changes.take place) ≤ depth (changes ++ [c])) ∨
        (place = changes.length + 1 ∧ c.binding? x = some type) := by
  constructor
  · intro live
    rcases Nat.lt_or_ge changes.length place with new | old
    · have atMost := live.place_le
      rw [List.length_append, List.length_singleton] at atMost
      obtain rfl : place = changes.length + 1 := Nat.le_antisymm atMost new
      exact Or.inr ⟨rfl, bindingAt?_concat_new.symm.trans live.made⟩
    · have within := live.depth_le
      rw [List.take_append_of_le_length old] at within
      have made := (bindingAt?_concat old).symm.trans live.made
      refine Or.inl ⟨⟨made, fun later ordered => ?_⟩, within⟩
      have capped : changes.take later = changes.take (min later changes.length) := by
        rw [List.take_eq_take_min]
      have kept := live.kept (min later changes.length) (Nat.le_min.2 ⟨ordered, old⟩)
      rwa [List.take_append_of_le_length old,
        List.take_append_of_le_length (Nat.min_le_right _ _), ← capped] at kept
  · rintro (⟨live, within⟩ | ⟨rfl, made⟩)
    · have old := live.place_le
      refine ⟨(bindingAt?_concat old).trans live.made, fun later ordered => ?_⟩
      rw [List.take_append_of_le_length old]
      rcases Nat.lt_or_ge changes.length later with new | within'
      · rwa [take_concat_new new]
      · rw [List.take_append_of_le_length within']
        exact live.kept later ordered
    · refine ⟨bindingAt?_concat_new.trans made, fun later ordered => ?_⟩
      rw [take_concat_new (Nat.lt_succ_self _), take_concat_new ordered]

/-! ### Frames and live bindings -/

/-- The name is bound at the place, in a scope that lies at the level and has not been closed. -/
def LiveIn (root : Frame) (changes : List Change) (x : String) (level place : Nat)
    (type : Option TypeExpr) : Prop :=
  Live root changes x place type ∧ depth (changes.take place) = level

/-- After a change the bindings of a scope are those that still are in reach, and that of the
change. -/
theorem liveIn_concat {c : Change} {level place : Nat} {type : Option TypeExpr} :
    LiveIn root (changes ++ [c]) x level place type ↔
      (LiveIn root changes x level place type ∧ level ≤ depth (changes ++ [c])) ∨
        (place = changes.length + 1 ∧ level = depth (changes ++ [c]) ∧
          c.binding? x = some type) := by
  rw [LiveIn, LiveIn, live_concat]
  constructor
  · rintro ⟨⟨live, within⟩ | ⟨rfl, made⟩, rfl⟩
    · rw [List.take_append_of_le_length live.place_le]
      exact Or.inl ⟨⟨live, rfl⟩, within⟩
    · rw [take_concat_new (Nat.lt_succ_self _)]
      exact Or.inr ⟨rfl, rfl, made⟩
  · rintro (⟨⟨live, rfl⟩, within⟩ | ⟨rfl, rfl, made⟩)
    · rw [List.take_append_of_le_length live.place_le]
      exact ⟨Or.inl ⟨live, within⟩, rfl⟩
    · rw [take_concat_new (Nat.lt_succ_self _)]
      exact ⟨Or.inr ⟨rfl, made⟩, rfl⟩

/-- A change does nothing to a scope that stays open and in which it binds nothing. -/
theorem liveIn_concat_of_quiet {c : Change} {level : Nat} (within : level ≤ depth (changes ++ [c]))
    (quiet : level = depth (changes ++ [c]) → c.binding? x = none) (place : Nat)
    (type : Option TypeExpr) :
    LiveIn root (changes ++ [c]) x level place type ↔ LiveIn root changes x level place type := by
  rw [liveIn_concat]
  constructor
  · rintro (⟨live, -⟩ | ⟨-, isLevel, made⟩)
    · exact live
    · rw [quiet isLevel] at made
      cases made
  · exact fun live => Or.inl ⟨live, within⟩

/-- Each frame binds the name as the newest of the live bindings at its level does. The level of a
frame is the number of frames around it. -/
def FramesShow (root : Frame) (changes : List Change) (x : String) : List Frame → Prop
  | [] => True
  | frame :: outer =>
    Newest (LiveIn root changes x outer.length) (binding? frame x) ∧
      FramesShow root changes x outer

theorem FramesShow.congr {changes' : List Change} {frames : List Frame}
    (same : ∀ level < frames.length, ∀ place type,
      LiveIn root changes' x level place type ↔ LiveIn root changes x level place type)
    (shown : FramesShow root changes x frames) : FramesShow root changes' x frames := by
  induction frames with
  | nil => trivial
  | cons frame outer inductionHypothesis =>
    have here := same outer.length (Nat.lt_succ_self _)
    exact ⟨shown.1.congr here, inductionHypothesis
      (fun level below => same level (Nat.lt_succ_of_lt below)) shown.2⟩

/-- A new frame shows what it was opened with, and the others show what they did. -/
theorem framesShow_push {frame : Frame} {frames : List Frame}
    (count : frames.length = depth changes + 1) (shown : FramesShow root changes x frames) :
    FramesShow root (changes ++ [.push frame]) x (frame :: frames) := by
  have reach : depth (changes ++ [.push frame]) = frames.length := by
    rw [depth_concat, count]
    rfl
  refine ⟨newest_of_only (changes.length + 1) fun place type => ?_,
    shown.congr fun level below => liveIn_concat_of_quiet (by omega) (by omega)⟩
  rw [liveIn_concat]
  constructor
  · rintro (⟨⟨live, isLevel⟩, -⟩ | ⟨isPlace, -, made⟩)
    · have lessDeep := live.depth_le
      omega
    · exact ⟨isPlace, made⟩
  · rintro ⟨isPlace, made⟩
    exact Or.inr ⟨isPlace, reach.symm, made⟩

/-- A binding shows in the innermost frame. -/
theorem framesShow_bind {name : String} {type : Option TypeExpr} {inner : Frame}
    {outer : List Frame} (count : outer.length = depth changes)
    (shown : FramesShow root changes x (inner :: outer)) :
    FramesShow root (changes ++ [.bind name type]) x (((name, type) :: inner) :: outer) := by
  have reach : depth (changes ++ [.bind name type]) = outer.length := by
    rw [depth_concat, count]
    rfl
  refine ⟨?_, shown.2.congr fun level below => liveIn_concat_of_quiet (by omega) (by omega)⟩
  rw [binding?_cons]
  by_cases same : name = x
  · rw [if_pos same]
    refine ⟨changes.length + 1, liveIn_concat.2 (Or.inr ⟨rfl, reach.symm, if_pos same⟩), ?_⟩
    intro other type' live
    rcases liveIn_concat.1 live with ⟨old, -⟩ | ⟨rfl, -⟩
    · exact Nat.le_succ_of_le old.1.place_le
    · exact Nat.le_refl _
  · rw [if_neg same]
    exact shown.1.congr (liveIn_concat_of_quiet (by omega) fun _ => if_neg same)

/-- Closing a scope takes its frame away, and nothing where only the root frame is left. -/
theorem framesShow_pop {inner : Frame} {outer : List Frame} (count : outer.length = depth changes)
    (shown : FramesShow root changes x (inner :: outer)) :
    FramesShow root (changes ++ [.pop]) x (pop ⟨inner, outer⟩).frames := by
  have reach : depth (changes ++ [.pop]) = outer.length - 1 := by
    rw [depth_concat, count]
    rfl
  cases outer with
  | nil =>
    refine FramesShow.congr (fun level below => liveIn_concat_of_quiet ?_ fun _ => rfl) shown
    exact Nat.le_of_lt_succ (Nat.lt_of_lt_of_le below (by simp [pop, frames]))
  | cons frame rest =>
    refine FramesShow.congr (fun level below => liveIn_concat_of_quiet ?_ fun _ => rfl) shown.2
    rw [reach]
    exact Nat.le_of_lt_succ below

/-- Whatever was done, each frame shows the newest of the live bindings at its level. -/
theorem framesShow_after (root : Frame) (changes : List Change) (x : String) :
    FramesShow root changes x (after root changes).frames := by
  induction changes using List.reverseRecOn with
  | nil =>
    refine ⟨newest_of_only 0 fun place type => ?_, trivial⟩
    constructor
    · rintro ⟨live, -⟩
      obtain rfl : place = 0 := Nat.le_zero.1 live.place_le
      exact ⟨rfl, live.made⟩
    · rintro ⟨rfl, made⟩
      exact ⟨⟨made, fun later _ => by rw [List.take_nil, List.take_nil]⟩, rfl⟩
  | append_singleton changes c inductionHypothesis =>
    have count := length_outer_after root changes
    rw [after_concat]
    cases c with
    | push frame => exact framesShow_push (congrArg (· + 1) count) inductionHypothesis
    | bind name type => exact framesShow_bind count inductionHypothesis
    | pop => exact framesShow_pop count inductionHypothesis

/-- The first frame from the inside that binds the name shows the newest of all live bindings. -/
theorem newest_findSome? {frames : List Frame} (shown : FramesShow root changes x frames) :
    Newest (fun place type => ∃ level < frames.length, LiveIn root changes x level place type)
      (frames.findSome? (binding? · x)) := by
  induction frames with
  | nil =>
    rintro place type ⟨level, below, -⟩
    exact absurd below (Nat.not_lt_zero level)
  | cons frame outer inductionHypothesis =>
    obtain ⟨here, around⟩ := shown
    rw [List.findSome?_cons]
    cases found : binding? frame x with
    | none =>
      rw [found] at here
      refine (inductionHypothesis around).congr fun place type => ?_
      constructor
      · rintro ⟨level, below, live⟩
        rcases Nat.lt_succ_iff_lt_or_eq.1 below with outside | rfl
        · exact ⟨level, outside, live⟩
        · exact absurd live (here place type)
      · rintro ⟨level, outside, live⟩
        exact ⟨level, Nat.lt_succ_of_lt outside, live⟩
    | some type =>
      rw [found] at here
      obtain ⟨place, live, last⟩ := here
      refine ⟨place, ⟨outer.length, Nat.lt_succ_self _, live⟩, ?_⟩
      rintro other type' ⟨level, below, live'⟩
      rcases Nat.lt_succ_iff_lt_or_eq.1 below with outside | rfl
      · refine Nat.le_of_lt (live.1.place_lt ?_)
        rwa [live.2, live'.2]
      · exact last other type' live'

/-- The frames from the inside out show the newest live binding. -/
theorem newest_live (root : Frame) (changes : List Change) (x : String) :
    Newest (Live root changes x) ((after root changes).frames.findSome? (binding? · x)) := by
  refine (newest_findSome? (framesShow_after root changes x)).congr fun place type => ?_
  constructor
  · intro live
    refine ⟨_, ?_, live, rfl⟩
    rw [frames, List.length_cons, length_outer_after]
    exact Nat.lt_succ_of_le live.depth_le
  · rintro ⟨level, -, live⟩
    exact live.1

/-- A name is bound in the innermost scope if a live binding of it was made there. -/
theorem isBoundHere_after :
    (after root changes).isBoundHere x ↔
      ∃ place type, Live root changes x place type ∧
        depth (changes.take place) = depth changes := by
  have here := (framesShow_after root changes x).1
  rw [length_outer_after] at here
  rw [isBoundHere]
  cases found : binding? (after root changes).inner x with
  | none =>
    rw [found] at here
    constructor
    · intro bound
      cases bound
    · rintro ⟨place, type, live⟩
      exact absurd live (here place type)
  | some type =>
    rw [found] at here
    obtain ⟨place, live, -⟩ := here
    exact ⟨fun _ => ⟨place, type, live⟩, fun _ => rfl⟩

/-! ### Scopes that are closed again -/

/-- Every scope that the changes open they also close, and they close no other. -/
inductive Balanced : List Change → Prop
  | nil : Balanced []
  | bind (name : String) (type : Option TypeExpr) {rest : List Change} :
      Balanced rest → Balanced (.bind name type :: rest)
  | scope (frame : Frame) {inside rest : List Change} :
      Balanced inside → Balanced rest → Balanced (.push frame :: (inside ++ .pop :: rest))

theorem pop_of_outer {s inside : Scopes} (around : inside.outer = s.frames) : inside.pop = s := by
  rw [pop, around]
  rfl

/-- Balanced changes touch the innermost frame alone. -/
theorem Balanced.outer_eq {inside : List Change} (balanced : Balanced inside) (s : Scopes) :
    (inside.foldl change s).outer = s.outer := by
  induction balanced generalizing s with
  | nil => rfl
  | bind name type _ inductionHypothesis => exact inductionHypothesis (s.bind name type)
  | scope frame _ _ opened rest =>
    have closed : (change (List.foldl change (s.push frame) _) .pop) = s :=
      pop_of_outer (opened (s.push frame))
    rw [List.foldl_cons, List.foldl_append, List.foldl_cons, rest]
    exact congrArg Scopes.outer closed

/-- Closing a scope gives back what there was before it was opened. -/
theorem after_closed {inside : List Change} (balanced : Balanced inside) (root : Frame)
    (changes : List Change) (frame : Frame) :
    after root (changes ++ .push frame :: (inside ++ [.pop])) = after root changes := by
  rw [after, List.foldl_append, List.foldl_cons, List.foldl_append]
  exact pop_of_outer (balanced.outer_eq ((after root changes).push frame))

/-- Where no scope is open, closing one has no effect. -/
theorem after_pops (root : Frame) {changes : List Change} (none : depth changes = 0) (count : Nat) :
    after root (changes ++ List.replicate count .pop) = after root changes := by
  induction count with
  | zero => rw [List.replicate_zero, List.append_nil]
  | succ count inductionHypothesis =>
    have alone : (after root changes).outer = [] := by
      rw [← List.length_eq_zero_iff, length_outer_after, none]
    rw [List.replicate_succ', ← List.append_assoc, after_concat, inductionHypothesis, change, pop,
      alone]

/-! ### Answers -/

/-- After any course of changes a name stands for what the newest of its live bindings knows, and
for nothing known if there is none or that one knows no type. It is bound in the innermost scope if
one of its live bindings lies as deep as the scopes reach. Opening a scope and closing it again
changes no answer, and neither does closing scopes where none is open. -/
theorem answers_of_live_bindings (root : Frame) (changes : List Change) (x : String) :
    (∃ found, Newest (Live root changes x) found ∧ (after root changes).lookup x = found.join) ∧
      ((after root changes).isBoundHere x ↔ ∃ place type, Live root changes x place type ∧
        depth (changes.take place) = depth changes) ∧
      (∀ frame inside, Balanced inside →
        let closed := after root (changes ++ .push frame :: (inside ++ [.pop]))
        closed.lookup x = (after root changes).lookup x ∧
          closed.isBoundHere x = (after root changes).isBoundHere x) ∧
      (depth changes = 0 → ∀ count,
        after root (changes ++ List.replicate count .pop) = after root changes) := by
  refine ⟨⟨_, newest_live root changes x, rfl⟩, isBoundHere_after, ?_, after_pops root⟩
  intro frame inside balanced closed
  have restored : closed = after root changes := after_closed balanced root changes frame
  rw [restored]
  exact ⟨rfl, rfl⟩

/-- A service that is bound anew in a scope, and to nothing known in a scope inside that one. -/
def boundAnew : List Change :=
  [.bind "s" (some (.named "Other" none)), .push [], .bind "s" none]

/-- In the innermost scope the service is unknown though all around it know its type, and once both
scopes are closed it is what it was, however many more are closed. -/
theorem boundAnew_answers :
    let service := some (TypeExpr.named "Service" none)
    let root : Frame := [("s", service)]
    let opened : List Change := .push [] :: boundAnew
    let inside : List Change := boundAnew ++ [Change.pop]
    let closed : List Change := .push [] :: (inside ++ [Change.pop])
    Balanced inside ∧ depth closed = 0 ∧
      (∃ found, Newest (Live root opened "s") found ∧ found.join = none) ∧
      (after root opened).lookup "s" = none ∧ (after root closed).lookup "s" = service ∧
      after root (closed ++ List.replicate 3 .pop) = after root closed := by
  intro service root opened inside closed
  have balanced : Balanced inside := .bind _ _ (.scope [] (.bind _ _ .nil) .nil)
  have known : (after root []).lookup "s" = service := by decide
  have unknown : (after root opened).lookup "s" = none := by decide
  obtain ⟨found, newest, looked⟩ := (answers_of_live_bindings root opened "s").1
  obtain ⟨restored, -⟩ := (answers_of_live_bindings root [] "s").2.2.1 [] inside balanced
  have still := (answers_of_live_bindings root closed "s").2.2.2 rfl 3
  exact ⟨balanced, rfl, ⟨found, newest, looked.symm.trans unknown⟩, unknown, restored.trans known,
    still⟩

end ParamChain.ParseTree.Scopes
