import Mathlib.Data.List.Basic
import ParamChain.Text.Blank

/-
This file proves that the normal form of a type text stands for its words and for nothing else.

A text is read from the left as white space and words, where a word goes on as far as it can: what
follows it is white space or the end. There is one way to read a text like this, and it gives the
words that are taken apart for the normal form. Joining words and reading the result gives the same
words back, since the space between two of them ends the first, begins no word and is all there is
between them. So texts with the same words have one normal form, other texts have another, and a
normal form is its own normal form.
-/

namespace ParamChain.Text

/-! ### Reading words -/

/-- No word goes on here: what comes next is white space or the end. -/
def EndsWord (rest : List Char) : Prop :=
  ∀ c ∈ rest.head?, isBlank c = true

theorem endsWord_nil : EndsWord [] := by
  intro c member
  cases member

theorem endsWord_cons {c : Char} (white : isBlank c = true) (rest : List Char) :
    EndsWord (c :: rest) := by
  intro d member
  rw [List.head?_cons, Option.mem_some_iff] at member
  exact member ▸ white

/-- The text consists of the words, in order, with white space before, between and after them. -/
inductive Spells : List Char → List (List Char) → Prop
  | nil : Spells [] []
  | blank {c : Char} {rest : List Char} {ws : List (List Char)} (white : isBlank c = true)
      (spells : Spells rest ws) : Spells (c :: rest) ws
  | word {w rest : List Char} {ws : List (List Char)} (nonempty : w ≠ [])
      (solid : ∀ c ∈ w, isBlank c = false) (ends : EndsWord rest)
      (spells : Spells rest ws) : Spells (w ++ rest) (w :: ws)

variable {text rest w : List Char} {ws : List (List Char)}

/-- The words of a text, by its first character. -/
theorem words_cons (c : Char) (rest : List Char) :
    words (c :: rest) =
      if isBlank c then words rest
      else
        match rest, words rest with
        | d :: _, w :: ws => if isBlank d then [c] :: w :: ws else (c :: w) :: ws
        | _, ws => [c] :: ws := rfl

theorem words_blank {c : Char} (white : isBlank c = true) : words (c :: rest) = words rest := by
  rw [words_cons, if_pos white]

/-- A character joins the word that begins right behind it. -/
theorem words_cons_cons {c d : Char} (solid : isBlank c = false) (solid' : isBlank d = false)
    (behind : words (d :: rest) = w :: ws) : words (c :: d :: rest) = (c :: w) :: ws := by
  rw [words_cons, if_neg (Bool.eq_false_iff.1 solid), behind]
  exact if_neg (Bool.eq_false_iff.1 solid')

/-- A character before white space or the end is a word of its own. -/
theorem words_cons_of_endsWord {c : Char} (solid : isBlank c = false) (ends : EndsWord rest) :
    words (c :: rest) = [c] :: words rest := by
  rw [words_cons, if_neg (Bool.eq_false_iff.1 solid)]
  cases rest with
  | nil => rfl
  | cons d rest =>
    cases words (d :: rest) with
    | nil => rfl
    | cons w ws => exact if_pos (ends d rfl)

/-- A word that ends where white space begins is taken off as a whole. -/
theorem words_append (nonempty : w ≠ []) (solid : ∀ c ∈ w, isBlank c = false)
    (ends : EndsWord rest) : words (w ++ rest) = w :: words rest := by
  induction w with
  | nil => exact absurd rfl nonempty
  | cons c w inductionHypothesis =>
    have solidHead := solid c List.mem_cons_self
    cases w with
    | nil => exact words_cons_of_endsWord solidHead ends
    | cons d w =>
      have solidTail : ∀ e ∈ d :: w, isBlank e = false := fun e member =>
        solid e (List.mem_cons_of_mem _ member)
      exact words_cons_cons solidHead (solidTail d List.mem_cons_self)
        (inductionHypothesis (List.cons_ne_nil _ _) solidTail)

theorem Spells.words_eq (spells : Spells text ws) : words text = ws := by
  induction spells with
  | nil => rfl
  | blank white _ inductionHypothesis => rw [words_blank white, inductionHypothesis]
  | word nonempty solid ends _ inductionHypothesis =>
    rw [words_append nonempty solid ends, inductionHypothesis]

/-- A character that is no white space goes to the word behind it, or is one if there is none. -/
theorem Spells.cons {c : Char} (solid : isBlank c = false) (spells : Spells rest ws) :
    ∃ ws', Spells (c :: rest) ws' := by
  have solidAlone : ∀ d ∈ [c], isBlank d = false := fun d member =>
    List.mem_singleton.1 member ▸ solid
  cases spells with
  | nil => exact ⟨[[c]], .word (List.cons_ne_nil c []) solidAlone endsWord_nil .nil⟩
  | @blank d rest _ white spells =>
    exact ⟨[c] :: ws, .word (List.cons_ne_nil c []) solidAlone (endsWord_cons white rest)
      (.blank white spells)⟩
  | @word w rest ws _ solidBehind ends spells =>
    refine ⟨(c :: w) :: ws, .word (List.cons_ne_nil c w) ?_ ends spells⟩
    exact List.forall_mem_cons.2 ⟨solid, solidBehind⟩

/-- Every text can be read. -/
theorem exists_spells (text : List Char) : ∃ ws, Spells text ws := by
  induction text with
  | nil => exact ⟨[], .nil⟩
  | cons c rest inductionHypothesis =>
    obtain ⟨ws, spells⟩ := inductionHypothesis
    cases white : isBlank c with
    | true => exact ⟨ws, .blank white spells⟩
    | false => exact spells.cons white

/-- The words that a text is taken apart into are those that it is read as. -/
theorem spells_iff : Spells text ws ↔ words text = ws := by
  constructor
  · exact Spells.words_eq
  · rintro rfl
    obtain ⟨ws, spells⟩ := exists_spells text
    rwa [spells.words_eq]

/-! ### Joining words -/

/-- Words as they are read: none of them is empty or has white space in it. -/
def AreWords (ws : List (List Char)) : Prop :=
  ∀ w ∈ ws, w ≠ [] ∧ ∀ c ∈ w, isBlank c = false

theorem Spells.areWords (spells : Spells text ws) : AreWords ws := by
  induction spells with
  | nil => exact List.forall_mem_nil _
  | blank _ _ inductionHypothesis => exact inductionHypothesis
  | word nonempty solid _ _ inductionHypothesis =>
    exact List.forall_mem_cons.2 ⟨⟨nonempty, solid⟩, inductionHypothesis⟩

theorem isBlank_space : isBlank ' ' = true := by decide

theorem unwords_cons_cons (w v : List Char) (ws : List (List Char)) :
    unwords (w :: v :: ws) = w ++ ' ' :: unwords (v :: ws) := rfl

/-- Words that are joined are read as they were. -/
theorem spells_unwords (areWords : AreWords ws) : Spells (unwords ws) ws := by
  induction ws with
  | nil => exact .nil
  | cons w ws inductionHypothesis =>
    obtain ⟨⟨nonempty, solid⟩, areWordsRest⟩ := List.forall_mem_cons.1 areWords
    have spells := inductionHypothesis areWordsRest
    cases ws with
    | nil =>
      have alone : Spells (w ++ []) [w] := .word nonempty solid endsWord_nil .nil
      rwa [List.append_nil] at alone
    | cons v ws =>
      exact .word nonempty solid (endsWord_cons isBlank_space _) (.blank isBlank_space spells)

theorem spells_normalize (text : String) : Spells (normalize text).toList (words text.toList) := by
  rw [normalize, String.toList_ofList]
  exact spells_unwords (spells_iff.2 rfl).areWords

theorem normalize_eq_iff {a b : String} :
    normalize a = normalize b ↔ words a.toList = words b.toList := by
  constructor
  · intro same
    rw [← (spells_normalize a).words_eq, same, (spells_normalize b).words_eq]
  · intro same
    rw [normalize, same, normalize]

/-! ### White space that is left -/

theorem head?_unwords {v : List Char} (areWords : AreWords (v :: ws)) :
    ∃ d ∈ (unwords (v :: ws)).head?, isBlank d = false := by
  obtain ⟨⟨nonempty, solid⟩, -⟩ := List.forall_mem_cons.1 areWords
  obtain ⟨d, v, rfl⟩ := List.exists_cons_of_ne_nil nonempty
  refine ⟨d, ?_, solid d List.mem_cons_self⟩
  cases ws <;> rfl

/-- White space in joined words is one space, with the end of a word before it and the beginning of
the next one behind it. -/
theorem blank_in_unwords (areWords : AreWords ws) {before after : List Char} {c : Char}
    (place : unwords ws = before ++ c :: after) (white : isBlank c = true) :
    c = ' ' ∧ (∃ d ∈ before.getLast?, isBlank d = false) ∧
      ∃ d ∈ after.head?, isBlank d = false := by
  induction ws generalizing before with
  | nil => exact absurd place (by simp [unwords])
  | cons w ws inductionHypothesis =>
    obtain ⟨⟨nonempty, solid⟩, areWordsRest⟩ := List.forall_mem_cons.1 areWords
    have outside : c ∉ w := fun inside => Bool.eq_false_iff.1 (solid c inside) white
    cases ws with
    | nil =>
      have inside : c ∈ unwords [w] := place ▸ List.mem_append_right before List.mem_cons_self
      exact absurd inside outside
    | cons v ws =>
      have lastSolid : ∃ d ∈ w.getLast?, isBlank d = false :=
        ⟨w.getLast nonempty, List.getLast?_eq_some_getLast nonempty,
          solid _ (List.getLast_mem nonempty)⟩
      rw [unwords_cons_cons, List.append_eq_append_iff] at place
      rcases place with ⟨more, rfl, behind⟩ | ⟨more, rfl, behind⟩
      · cases more with
        | nil =>
          obtain ⟨rfl, rfl⟩ := List.cons_eq_cons.1 behind
          exact ⟨rfl, (List.append_nil w).symm ▸ lastSolid, head?_unwords areWordsRest⟩
        | cons e more =>
          obtain ⟨rfl, later⟩ := List.cons_eq_cons.1 behind
          obtain ⟨isSpace, ⟨d, isLast, solidLast⟩, next⟩ := inductionHypothesis areWordsRest later
          refine ⟨isSpace, ⟨d, ?_, solidLast⟩, next⟩
          rw [Option.mem_def] at isLast ⊢
          rw [List.getLast?_append, List.getLast?_cons, isLast]
          rfl
      · cases more with
        | nil =>
          obtain ⟨rfl, rfl⟩ := List.cons_eq_cons.1 behind
          rw [List.append_nil] at lastSolid
          exact ⟨rfl, lastSolid, head?_unwords areWordsRest⟩
        | cons e more =>
          obtain ⟨rfl, -⟩ := List.cons_eq_cons.1 behind
          exact absurd (List.mem_append_right before List.mem_cons_self) outside

/-- Two texts have one normal form when they are read as the same words, and every text is read as
one sequence of words. The normal form has these words with one space between neighbours, is its
own normal form, and has no other white space: what white space there is in it is a space between
two characters that are none. -/
theorem normalize_is_canonical (a b : String) :
    (normalize a = normalize b ↔ ∃ ws, Spells a.toList ws ∧ Spells b.toList ws) ∧
      (∃! ws, Spells a.toList ws) ∧
      (∀ ws, Spells a.toList ws → (normalize a).toList = unwords ws) ∧
      normalize (normalize a) = normalize a ∧
      ∀ (before after : List Char) (c : Char),
        (normalize a).toList = before ++ c :: after → isBlank c = true →
          c = ' ' ∧ (∃ d ∈ before.getLast?, isBlank d = false) ∧
            ∃ d ∈ after.head?, isBlank d = false := by
  have spells : Spells a.toList (words a.toList) := spells_iff.2 rfl
  refine ⟨?_, ⟨_, spells, fun ws other => other.words_eq.symm⟩, fun ws other => ?_, ?_,
    fun before after c place => blank_in_unwords spells.areWords ?_⟩
  · rw [normalize_eq_iff]
    constructor
    · intro same
      exact ⟨_, spells, spells_iff.2 same.symm⟩
    · rintro ⟨ws, first, second⟩
      rw [first.words_eq, second.words_eq]
  · rw [normalize, String.toList_ofList, other.words_eq]
  · rw [normalize_eq_iff]
    exact (spells_normalize a).words_eq
  · rw [← place, normalize, String.toList_ofList]

/-- A map type with white space of five kinds around and between its two words has the normal form
of the same type written plainly, and the space that is left stands between the words. -/
theorem mapType_normalized :
    let spaced := "\u00a0map[string]\t\u2003\n int\u3000"
    let ws := ["map[string]".toList, "int".toList]
    Spells spaced.toList ws ∧ Spells "map[string] int".toList ws ∧
      normalize spaced = normalize "map[string] int" ∧
      (normalize spaced).toList = "map[string]".toList ++ ' ' :: "int".toList ∧
      (∃ d ∈ "map[string]".toList.getLast?, isBlank d = false) ∧
      ∃ d ∈ "int".toList.head?, isBlank d = false := by
  intro spaced ws
  have first : Spells spaced.toList ws := spells_iff.2 (by decide +kernel)
  have second : Spells "map[string] int".toList ws := spells_iff.2 (by decide +kernel)
  obtain ⟨same, -, joined, -, between⟩ := normalize_is_canonical spaced "map[string] int"
  have form : (normalize spaced).toList = "map[string]".toList ++ ' ' :: "int".toList :=
    joined ws first
  obtain ⟨-, ends, begins⟩ := between _ _ _ form isBlank_space
  exact ⟨first, second, same.2 ⟨ws, first, second⟩, form, ends, begins⟩

end ParamChain.Text
