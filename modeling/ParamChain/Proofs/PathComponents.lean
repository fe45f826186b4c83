import Mathlib.Data.Prod.Lex
import Mathlib.Data.String.Basic
import Mathlib.Order.Compare
import ParamChain.Files.Path

/-
This file says what paths are compared by. The comparison of two paths walks down their components
side by side; it amounts to comparing lists of keys, one key for a component, in lexicographic
order, so it is a linear order on components and two texts are one path when their components
are the same. The parent of a path is cut out of its text, at the end of the last component but
one, and what is left of the text reads as the components without the last.
-/

namespace ParamChain.Files

/-! ### Comparisons in lexicographic order -/

section Compares

variable {First Second : Type} [LT First] [LT Second] {o p : Ordering}

/-- A comparison that is refined by another compares pairs. -/
theorem compares_pair {a b : First} {c d : Second} (first : o.Compares a b)
    (second : p.Compares c d) :
    (o.then p).Compares (toLex (a, c)) (toLex (b, d)) := by
  cases o with
  | lt => exact Prod.Lex.toLex_lt_toLex.2 (.inl first)
  | gt => exact Prod.Lex.toLex_lt_toLex.2 (.inl first)
  | eq =>
    obtain rfl : a = b := first
    cases p with
    | lt => exact Prod.Lex.toLex_lt_toLex.2 (.inr ⟨rfl, second⟩)
    | gt => exact Prod.Lex.toLex_lt_toLex.2 (.inr ⟨rfl, second⟩)
    | eq =>
      obtain rfl : c = d := second
      rfl

/-- A comparison of heads that is refined by one of tails compares lists. -/
theorem compares_cons {a b : First} {as bs : List First} (heads : o.Compares a b)
    (tails : p.Compares as bs) : (o.then p).Compares (a :: as) (b :: bs) := by
  cases o with
  | lt => exact List.cons_lt_cons_iff.2 (.inl heads)
  | gt => exact List.cons_lt_cons_iff.2 (.inl heads)
  | eq =>
    obtain rfl : a = b := heads
    cases p with
    | lt => exact List.cons_lt_cons_iff.2 (.inr ⟨rfl, tails⟩)
    | gt => exact List.cons_lt_cons_iff.2 (.inr ⟨rfl, tails⟩)
    | eq =>
      obtain rfl : as = bs := tails
      rfl

end Compares

theorem compares_text (s t : String) :
    (if s < t then Ordering.lt else if s = t then .eq else .gt).Compares s t := by
  split
  · assumption
  · next notBefore =>
    split
    · assumption
    · next different => exact lt_of_le_of_ne (not_lt.1 notBefore) (Ne.symm different)

/-! ### The order of paths -/

/-- The text of a name; no other component has one. -/
def Component.text : Component → String
  | .name text => text
  | _ => ""

/-- What a component is compared by: its rank and, of a name, its text. -/
def Component.sortKey (c : Component) : ℕ ×ₗ String :=
  toLex (c.rank, c.text)

theorem Component.compare_eq (a b : Component) :
    a.compare b = (Ord.compare a.rank b.rank).then
      (if a.text < b.text then .lt else if a.text = b.text then .eq else .gt) := by
  cases a <;> cases b <;> rfl

/-- Components are compared by rank and then by text. -/
theorem Component.compare_compares (a b : Component) :
    (a.compare b).Compares a.sortKey b.sortKey := by
  have ranks : (Ord.compare a.rank b.rank).Compares a.rank b.rank := by
    rw [← cmp_eq_compare]
    exact cmp_compares a.rank b.rank
  rw [compare_eq]
  exact compares_pair ranks (compares_text a.text b.text)

theorem Component.sortKey_injective : Function.Injective Component.sortKey := by
  intro a b same
  have sameRank : a.rank = b.rank := congrArg (fun key => (ofLex key).1) same
  have sameText : a.text = b.text := congrArg (fun key => (ofLex key).2) same
  cases a <;> cases b <;> simp_all [rank, text]

/-- What a path is compared by. -/
def pathKey (path : String) : List (ℕ ×ₗ String) :=
  (components path).map Component.sortKey

theorem pathKey_eq_iff {a b : String} : pathKey a = pathKey b ↔ components a = components b :=
  (List.map_injective_iff.2 Component.sortKey_injective).eq_iff

/-- Lists of components are compared component by component. -/
theorem compareComponents_compares (as bs : List Component) :
    (compareComponents as bs).Compares (as.map Component.sortKey) (bs.map Component.sortKey) := by
  induction as generalizing bs with
  | nil =>
    cases bs with
    | nil => rfl
    | cons b bs => exact List.nil_lt_cons _ _
  | cons a as inductionHypothesis =>
    cases bs with
    | nil => exact List.nil_lt_cons _ _
    | cons b bs => exact compares_cons (a.compare_compares b) (inductionHypothesis bs)

/-- Paths are compared as their keys are. -/
theorem comparePaths_compares (a b : String) :
    (comparePaths a b).Compares (pathKey a) (pathKey b) :=
  compareComponents_compares _ _

/-! ### The parent of a path -/

/-- The piece that ends at a slash or at the end of a path, if there is one. -/
def endingPiece (first : Bool) (text : List Char) (position : Nat) : List Piece :=
  (componentOf? first text.reverse).toList.map fun component => ⟨component, position⟩

theorem piecesFrom_nil (first : Bool) (text : List Char) (position : Nat) :
    piecesFrom first text position [] = endingPiece first text position := by
  rw [piecesFrom, endingPiece]
  cases componentOf? first text.reverse <;> rfl

/-- At a slash a piece ends and the next begins. -/
theorem piecesFrom_slash (first : Bool) (text rest : List Char) (position : Nat) :
    piecesFrom first text position ('/' :: rest) =
      endingPiece first text position ++ piecesFrom false [] (position + 1) rest := by
  rw [piecesFrom, if_pos rfl, endingPiece]
  cases componentOf? first text.reverse <;> rfl

theorem piecesFrom_char (first : Bool) (text rest : List Char) (position : Nat) {c : Char}
    (inside : c ≠ '/') :
    piecesFrom first text position (c :: rest) =
      piecesFrom first (c :: text) (position + 1) rest := by
  rw [piecesFrom, if_neg inside]

/-- The last piece ends where the text ends. -/
theorem endingPiece_split {first : Bool} {text : List Char} {position : Nat}
    {before after : List Piece} {piece : Piece}
    (split : endingPiece first text position = before ++ piece :: after) :
    piece.stop = position ∧ endingPiece first text position = before ++ [piece] := by
  unfold endingPiece at split ⊢
  generalize componentOf? first text.reverse = found at split ⊢
  cases found with
  | none => simp at split
  | some component =>
    cases before with
    | nil =>
      obtain ⟨rfl, rfl⟩ := List.cons.inj split
      exact ⟨rfl, rfl⟩
    | cons _ before => simp at split

/-- A path that is cut off at the end of a piece has the pieces up to that one. -/
theorem piecesFrom_take {first : Bool} {text chars : List Char} {position : Nat}
    {before after : List Piece} {piece : Piece}
    (split : piecesFrom first text position chars = before ++ piece :: after) :
    position ≤ piece.stop ∧
      piecesFrom first text position (chars.take (piece.stop - position)) = before ++ [piece] := by
  induction chars generalizing first text position before with
  | nil =>
    rw [piecesFrom_nil] at split
    obtain ⟨stop, ending⟩ := endingPiece_split split
    rw [List.take_nil, piecesFrom_nil]
    exact ⟨stop.ge, ending⟩
  | cons c rest inductionHypothesis =>
    have later (before : List Piece) {first : Bool} {text : List Char}
        (split : piecesFrom first text (position + 1) rest = before ++ piece :: after) :
        position + 1 ≤ piece.stop ∧
          (c :: rest).take (piece.stop - position) =
            c :: rest.take (piece.stop - (position + 1)) ∧
          piecesFrom first text (position + 1) (rest.take (piece.stop - (position + 1))) =
            before ++ [piece] := by
      obtain ⟨past, pieces⟩ := inductionHypothesis split
      have step : piece.stop - position = piece.stop - (position + 1) + 1 := by omega
      exact ⟨past, by rw [step, List.take_succ_cons], pieces⟩
    by_cases slash : c = '/'
    · subst slash
      rw [piecesFrom_slash] at split
      rcases List.append_eq_append_iff.1 split with ⟨middle, rfl, tail⟩ | ⟨middle, ending, tail⟩
      · obtain ⟨past, cut, pieces⟩ := later middle tail
        rw [cut, piecesFrom_slash, pieces, List.append_assoc]
        exact ⟨by omega, rfl⟩
      · cases middle with
        | nil =>
          obtain ⟨past, cut, pieces⟩ := later [] tail.symm
          rw [cut, piecesFrom_slash, pieces, ending, List.append_nil]
          exact ⟨by omega, rfl⟩
        | cons _ middle =>
          obtain ⟨rfl, -⟩ := List.cons.inj tail
          obtain ⟨stop, cut⟩ := endingPiece_split ending
          rw [stop, Nat.sub_self, List.take_zero, piecesFrom_nil]
          exact ⟨le_rfl, cut⟩
    · rw [piecesFrom_char _ _ _ _ slash] at split
      obtain ⟨past, cut, pieces⟩ := later before split
      rw [cut, piecesFrom_char _ _ _ _ slash, pieces]
      exact ⟨by omega, rfl⟩

theorem pieces_of_slash {path : String} {rest : List Char} (begins : path.toList = '/' :: rest) :
    pieces path = ⟨.root, 1⟩ :: piecesFrom false [] 1 rest := by
  rw [pieces, begins]
  rfl

theorem pieces_of_relative {path : String} (relative : path.toList.head? ≠ some '/') :
    pieces path = piecesFrom true [] 0 path.toList := by
  unfold pieces
  split
  · next begins => exact absurd (by rw [begins, List.head?_cons]) relative
  · rfl

/-- The pieces of a path up to one of them are those of the path that is cut off there. -/
theorem pieces_take {path : String} {before after : List Piece} {piece : Piece}
    (split : pieces path = before ++ piece :: after) :
    pieces (String.ofList (path.toList.take piece.stop)) = before ++ [piece] := by
  by_cases slash : path.toList.head? = some '/'
  · obtain ⟨rest, begins⟩ := List.head?_eq_some_iff.1 slash
    rw [pieces_of_slash begins] at split
    cases before with
    | nil =>
      obtain ⟨rfl, -⟩ := List.cons.inj split
      rw [pieces_of_slash (by rw [String.toList_ofList, begins, List.take_succ_cons])]
      rfl
    | cons first before =>
      obtain ⟨rfl, tail⟩ := List.cons.inj split
      obtain ⟨past, pieces⟩ := piecesFrom_take tail
      have cut : path.toList.take piece.stop = '/' :: rest.take (piece.stop - 1) := by
        rw [begins, ← List.take_succ_cons, Nat.sub_add_cancel past]
      rw [pieces_of_slash (by rw [String.toList_ofList, cut]), pieces]
      rfl
  · rw [pieces_of_relative slash] at split
    have stillRelative : (path.toList.take piece.stop).head? ≠ some '/' := by
      rw [List.head?_take]
      split
      · exact (Option.some_ne_none _).symm
      · exact slash
    rw [pieces_of_relative (by rwa [String.toList_ofList]), String.toList_ofList]
    exact (piecesFrom_take split).2

/-- A path has a parent unless it has no components or ends with the root. -/
def HasParent (path : String) : Prop :=
  ∃ last ∈ (components path).getLast?, last ≠ Component.root

instance (path : String) : Decidable (HasParent path) :=
  inferInstanceAs (Decidable (∃ last ∈ (components path).getLast?, last ≠ Component.root))

theorem getLast?_components (path : String) :
    (components path).getLast? = (pieces path).getLast?.map Piece.component :=
  List.getLast?_map

/-- The parent of a path has all its components but the last. -/
theorem parent?_of_hasParent {path : String} (below : HasParent path) :
    ∃ directory, parent? path = some directory ∧
      components directory = (components path).dropLast := by
  obtain ⟨last, isLast, notRoot⟩ := below
  rw [getLast?_components, Option.mem_def, Option.map_eq_some_iff] at isLast
  obtain ⟨⟨component, stop⟩, isLast, rfl⟩ := isLast
  obtain ⟨before, ends⟩ := List.getLast?_eq_some_iff.1 isLast
  have withoutLast : (components path).dropLast = before.map Piece.component := by
    rw [components, ends, List.map_append]
    exact List.dropLast_concat
  rw [withoutLast, parent?, ends, List.reverse_concat]
  rcases List.eq_nil_or_concat before with rfl | ⟨earlier, previous, rfl⟩
  · refine ⟨"", ?_, rfl⟩
    cases component with
    | root => exact absurd rfl notRoot
    | _ => rfl
  · refine ⟨String.ofList (path.toList.take previous.stop), ?_, ?_⟩
    · rw [List.concat_eq_append, List.reverse_concat]
      cases component with
      | root => exact absurd rfl notRoot
      | _ => rfl
    · have split : pieces path = earlier ++ previous :: [⟨component, stop⟩] := by
        rw [ends, List.concat_eq_append, List.append_assoc]
        rfl
      rw [components, pieces_take split, List.concat_eq_append]

theorem parent?_eq_none {path : String} (top : ¬ HasParent path) : parent? path = none := by
  rcases List.eq_nil_or_concat (pieces path) with empty | ⟨before, ⟨component, stop⟩, ends⟩
  · rw [parent?, empty]
    rfl
  · have isLast : (components path).getLast? = some component := by
      rw [getLast?_components, ends, List.concat_eq_append, List.getLast?_concat]
      rfl
    have isRoot : component = .root := by
      by_contra notRoot
      exact top ⟨component, isLast, notRoot⟩
    rw [parent?, ends, List.concat_eq_append, List.reverse_concat, isRoot]

end ParamChain.Files
