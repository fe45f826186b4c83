import ParamChain.Toml.Quoting

/-
This file proves that a string in a document is read back whichever of its four forms it was
written in.

A basic form can show any text, since whatever it cannot show as it is it escapes. A literal form
shows only what needs no escape, and that is why it is not always chosen. In the long forms one or
two quotes may stand at the end of the text, right before the three that close it; there the reader
takes all of them at once, and nowhere else does it meet three quotes side by side.
-/

namespace ParamChain.Toml

/-- A string that stands before this text ends there. -/
def EndsString (rest : List Char) : Prop :=
  ∀ c ∈ rest.head?, c ≠ '\x22' ∧ c ≠ '\x27'

/-! ### Escapes -/

theorem coded?_hexDigits {c : Char} (small : c.toNat < 128) :
    coded? ['0', '0', hexDigit (c.toNat / 16), hexDigit c.toNat] = some c := by
  have each : ∀ n < 128,
      coded? ['0', '0', hexDigit (n / 16), hexDigit n] = some (Char.ofNat n) := by decide
  rw [each c.toNat small, Char.ofNat_toNat]

/-- A character that needs a code has a short one. -/
theorem toNat_lt_of_not_isPlain {c : Char} (control : isPlain c = false) : c.toNat < 128 := by
  simp only [isPlain, Bool.or_eq_false_iff, Bool.and_eq_false_iff, decide_eq_false_iff_not,
    bne_eq_false_iff_eq] at control
  omega

/-! ### Basic strings -/

theorem basicText_plain {c : Char} (quote : c ≠ '\x22') (backslash : c ≠ '\x5c')
    (plain : isPlain c) (rest : List Char) : basicText (c :: rest) = keep c (basicText rest) := by
  rw [basicText, if_neg quote]
  · simp [backslash, plain]
  all_goals
    intros
    exact absurd ‹c = '\x5c'› backslash

/-- An escaped character is read as the character. -/
theorem basicText_escapeChar {c : Char} (quote : c ≠ '\x22') (rest : List Char) :
    basicText (escapeChar false c ++ rest) = keep c (basicText rest) := by
  unfold escapeChar
  iterate 6
    split
    · subst c
      rfl
  split
  next backslash plain => exact basicText_plain quote backslash plain rest
  next control =>
    have code := coded?_hexDigits (toNat_lt_of_not_isPlain (Bool.eq_false_iff.2 control))
    simp only [List.cons_append, List.nil_append]
    rw [basicText, code]
    rfl

/-- An escaped text is read back up to the closing quote. -/
theorem basicText_escapeText (text rest : List Char) :
    basicText (escapeText false 0 0 text ++ '\x22' :: rest) = some (text, rest) := by
  induction text with
  | nil => rfl
  | cons c text inductionHypothesis =>
    rw [escapeText]
    by_cases quote : c = '\x22'
    · subst c
      rw [if_pos rfl, if_neg (Nat.lt_irrefl 0), List.cons_append, List.cons_append]
      show keep '\x22' (basicText _) = _
      rw [inductionHypothesis]
      rfl
    · rw [if_neg quote, List.append_assoc, basicText_escapeChar quote, inductionHypothesis]
      rfl

/-- A character other than a quote is shown by characters of which the first is no quote. -/
theorem escapeChar_eq_cons {c : Char} (quote : c ≠ '\x22') (long : Bool) :
    ∃ first more, escapeChar long c = first :: more ∧ first ≠ '\x22' := by
  unfold escapeChar
  repeat' split
  all_goals exact ⟨_, _, rfl, by first | exact quote | decide⟩

/-- The inside of a basic string starts with no more quotes than may stand side by side. -/
theorem length_takeWhile_escapeText (long : Bool) (allowed run : Nat) (text : List Char) :
    ((escapeText long allowed run text).takeWhile (· == '\x22')).length ≤ allowed - run := by
  induction text generalizing run with
  | nil => exact Nat.zero_le _
  | cons c text inductionHypothesis =>
    rw [escapeText]
    by_cases quote : c = '\x22'
    · rw [if_pos quote]
      by_cases room : run < allowed
      · have more := inductionHypothesis (run + 1)
        rw [if_pos room, List.takeWhile_cons, if_pos (beq_iff_eq.2 quote), List.length_cons]
        omega
      · rw [if_neg room]
        exact Nat.zero_le _
    · obtain ⟨first, more, written, other⟩ := escapeChar_eq_cons quote long
      rw [if_neg quote, written, List.cons_append, List.takeWhile_cons,
        if_neg fun same => other (beq_iff_eq.1 same)]
      exact Nat.zero_le _

/-- Quotes alone are shown without escapes only as themselves. -/
theorem escapeText_eq_self {long : Bool} {allowed run : Nat} {text : List Char}
    (quotes : (escapeText long allowed run text).all (· == '\x22')) :
    escapeText long allowed run text = text := by
  induction text generalizing run with
  | nil => rfl
  | cons c text inductionHypothesis =>
    rw [escapeText] at quotes ⊢
    by_cases quote : c = '\x22'
    · rw [if_pos quote] at quotes ⊢
      by_cases room : run < allowed
      · rw [if_pos room] at quotes ⊢
        rw [inductionHypothesis (Bool.and_eq_true_iff.1 quotes).2]
      · rw [if_neg room] at quotes
        exact absurd (Bool.and_eq_true_iff.1 quotes).1 (by decide)
    · obtain ⟨first, more, written, other⟩ := escapeChar_eq_cons quote long
      rw [if_neg quote, written] at quotes
      exact absurd (beq_iff_eq.1 (Bool.and_eq_true_iff.1 quotes).1) other

/-! ### Literal strings -/

/-- A text without quotes and codes is read back as it stands. -/
theorem literalText_append {text : List Char} (rest : List Char)
    (shown : ∀ c ∈ text, c ≠ '\x27' ∧ isPlain c) :
    literalText (text ++ '\x27' :: rest) = some (text, rest) := by
  induction text with
  | nil => rfl
  | cons c text inductionHypothesis =>
    obtain ⟨⟨quote, plain⟩, others⟩ := List.forall_mem_cons.1 shown
    rw [List.cons_append, literalText, if_neg quote, if_pos plain, inductionHypothesis others]
    rfl

/-! ### The end of a long form -/

/-- Quotes right before the closing ones belong to the text, if they are all that is left of it.
Elsewhere no end is seen. -/
theorem closing?_append {quote : Char} {text rest : List Char}
    (few : (text.takeWhile (· == quote)).length ≤ 2) (ends : ∀ c ∈ rest.head?, c ≠ quote) :
    closing? quote (text ++ quote :: quote :: quote :: rest) =
      if text.all (· == quote) then some (text, rest) else none := by
  match text with
  | [] =>
    match rest with
    | [] => simp [closing?]
    | [d] => simp [closing?, ends d rfl]
    | d :: e :: more => simp [closing?, ends d rfl]
  | [a] =>
    by_cases first : a = quote
    · match rest with
      | [] => simp [closing?, first]
      | d :: more => simp [closing?, first, ends d rfl]
    · simp [closing?, first]
  | [a, b] => by_cases first : a = quote <;> by_cases second : b = quote <;>
      simp [closing?, first, second]
  | a :: b :: c :: more =>
    by_cases first : a = quote
    · by_cases second : b = quote
      · have third : c ≠ quote := by
          rintro rfl
          simp [first, second] at few
        simp [closing?, third]
      · simp [closing?, second]
    · simp [closing?, first]

theorem closing?_of_ne {quote c : Char} (other : c ≠ quote) (rest : List Char) :
    closing? quote (c :: rest) = none := by
  match rest with
  | [] | [_] => rfl
  | a :: b :: more => simp [closing?, other]

/-! ### Long strings -/

theorem longBasicText_plain {c : Char} (lineBreak : c ≠ '\n') (backslash : c ≠ '\x5c')
    (plain : isPlain c) (rest : List Char) :
    longBasicText false (c :: rest) =
      (closing? '\x22' (c :: rest)).or (keep c (longBasicText false rest)) := by
  have carriageReturn : c ≠ '\r' := by
    rintro rfl
    cases plain
  rw [longBasicText]
  · cases closing? '\x22' (c :: rest) <;> simp [backslash, plain]
  · exact carriageReturn
  · exact lineBreak
  all_goals
    intros
    exact absurd ‹c = '\x5c'› backslash

theorem longBasicText_escapeChar {c : Char} (quote : c ≠ '\x22') (rest : List Char) :
    longBasicText false (escapeChar true c ++ rest) = keep c (longBasicText false rest) := by
  unfold escapeChar
  iterate 6
    split
    · subst c
      rfl
  split
  next lineBreak _ _ backslash plain =>
    rw [List.singleton_append, longBasicText_plain lineBreak backslash plain,
      closing?_of_ne quote, Option.none_or]
  next control =>
    have code := coded?_hexDigits (toNat_lt_of_not_isPlain (Bool.eq_false_iff.2 control))
    simp only [List.cons_append, List.nil_append]
    rw [longBasicText, code]
    rfl

/-- A text over several lines is read back, with two quotes in a row at most. -/
theorem longBasicText_escapeText (run : Nat) (text : List Char) {rest : List Char}
    (ends : EndsString rest) :
    longBasicText false (escapeText true 2 run text ++ '\x22' :: '\x22' :: '\x22' :: rest) =
      some (text, rest) := by
  have quoted := longBasicText_plain (c := '\x22') (by decide) (by decide) rfl
  induction text generalizing run with
  | nil =>
    have few : (([] : List Char).takeWhile (· == '\x22')).length ≤ 2 := Nat.zero_le 2
    have done := closing?_append few fun c member => (ends c member).1
    rw [escapeText, List.nil_append, quoted]
    exact congrArg (Option.or · _) done
  | cons c text inductionHypothesis =>
    by_cases quote : c = '\x22'
    · subst c
      by_cases room : run < 2
      · have few := Nat.le_trans (length_takeWhile_escapeText true 2 run ('\x22' :: text))
          (Nat.sub_le 2 run)
        have done := closing?_append few fun c member => (ends c member).1
        have written : escapeText true 2 run ('\x22' :: text) =
            '\x22' :: escapeText true 2 (run + 1) text := by
          rw [escapeText, if_pos rfl, if_pos room]
        by_cases quotes : (escapeText true 2 run ('\x22' :: text)).all (· == '\x22')
        · rw [if_pos quotes, escapeText_eq_self quotes] at done
          rw [escapeText_eq_self quotes, List.cons_append, quoted, ← List.cons_append, done,
            Option.some_or]
        · rw [if_neg quotes, written, List.cons_append] at done
          rw [written, List.cons_append, quoted, done, Option.none_or, inductionHypothesis]
          rfl
      · rw [escapeText, if_pos rfl, if_neg room, List.cons_append, List.cons_append]
        show keep '\x22' (longBasicText false _) = _
        rw [inductionHypothesis]
        rfl
    · rw [escapeText, if_neg quote, List.append_assoc, longBasicText_escapeChar quote,
        inductionHypothesis]
      rfl

/-- The quotes that a text begins with are among its longest run. -/
theorem length_takeWhile_le_longestRun (quote : Char) (text : List Char) (run : Nat) :
    run + (text.takeWhile (· == quote)).length ≤ longestRun quote run text := by
  induction text generalizing run with
  | nil => exact Nat.le_refl run
  | cons c text inductionHypothesis =>
    rw [longestRun, List.takeWhile_cons]
    by_cases same : c = quote
    · have more := inductionHypothesis (run + 1)
      rw [if_pos same, if_pos (beq_iff_eq.2 same), List.length_cons]
      omega
    · rw [if_neg same, if_neg fun equal => same (beq_iff_eq.1 equal)]
      exact Nat.le_max_left _ _

theorem longestRun_mono (quote : Char) (text : List Char) {run more : Nat} (le : run ≤ more) :
    longestRun quote run text ≤ longestRun quote more text := by
  induction text generalizing run more with
  | nil => exact le
  | cons c text inductionHypothesis =>
    rw [longestRun, longestRun]
    split
    · exact inductionHypothesis (Nat.add_le_add_right le 1)
    · omega

/-- Without its first character a text has no longer run. -/
theorem longestRun_tail_le (quote c : Char) (text : List Char) :
    longestRun quote 0 text ≤ longestRun quote 0 (c :: text) := by
  rw [longestRun]
  split
  · exact longestRun_mono quote text (Nat.zero_le 1)
  · exact Nat.le_max_right _ _

theorem longLiteralText_shown {c : Char} (shown : isPlain c ∨ c = '\n') (rest : List Char) :
    longLiteralText (c :: rest) =
      (closing? '\x27' (c :: rest)).or (keep c (longLiteralText rest)) := by
  have carriageReturn : c ≠ '\r' := by
    rintro rfl
    exact absurd shown (by decide)
  rw [longLiteralText]
  · cases closing? '\x27' (c :: rest) <;> simp [shown]
  · exact carriageReturn

/-- A text over several lines without codes is read back, with two quotes in a row at most. -/
theorem longLiteralText_append {text rest : List Char} (ends : EndsString rest)
    (few : longestRun '\x27' 0 text ≤ 2) (shown : ∀ c ∈ text, isPlain c ∨ c = '\n') :
    longLiteralText (text ++ '\x27' :: '\x27' :: '\x27' :: rest) = some (text, rest) := by
  induction text with
  | nil =>
    have few : (([] : List Char).takeWhile (· == '\x27')).length ≤ 2 := Nat.zero_le 2
    have done := closing?_append few fun c member => (ends c member).2
    rw [List.nil_append, longLiteralText_shown (by decide)]
    exact congrArg (Option.or · _) done
  | cons c text inductionHypothesis =>
    obtain ⟨here, others⟩ := List.forall_mem_cons.1 shown
    have leading := Nat.le_trans (length_takeWhile_le_longestRun '\x27' (c :: text) 0) few
    have done := closing?_append (Nat.zero_add _ ▸ leading) fun c member => (ends c member).2
    rw [List.cons_append, longLiteralText_shown here, ← List.cons_append, done]
    split
    · rfl
    · have fewer := Nat.le_trans (longestRun_tail_le '\x27' c text) few
      rw [Option.none_or, inductionHypothesis fewer others]
      rfl

/-! ### The form that is chosen -/

theorem ne_of_longestRun_eq_zero {quote : Char} {text : List Char}
    (none : longestRun quote 0 text = 0) : ∀ c ∈ text, c ≠ quote := by
  induction text with
  | nil => exact nofun
  | cons c text inductionHypothesis =>
    have later := Nat.le_trans (longestRun_tail_le quote c text) (Nat.le_of_eq none)
    refine List.forall_mem_cons.2 ⟨?_, inductionHypothesis (Nat.le_zero.1 later)⟩
    rintro rfl
    have run := length_takeWhile_le_longestRun c (c :: text) 0
    rw [none, List.takeWhile_cons, if_pos (beq_self_eq_true c), List.length_cons] at run
    omega

/-- Where no codes are needed, every character is shown or breaks the line. -/
theorem shown_of_needsCodes {text : List Char} (codes : needsCodes text = false) :
    ∀ c ∈ text, isPlain c ∨ c = '\n' := by
  intro c member
  have control := List.any_eq_false.1 codes c member
  by_cases plain : isPlain c
  · exact .inl plain
  · simpa [plain] using control

/-- Single quotes are chosen only for a text without them and without codes. -/
theorem Quoting.shown_of_choose_literal {text : List Char} (chosen : choose text = .literal) :
    ∀ c ∈ text, c ≠ '\x27' ∧ isPlain c := by
  unfold choose at chosen
  dsimp only at chosen
  split at chosen
  · cases chosen
  split at chosen
  next possible =>
    simp only [Bool.and_eq_true, Bool.not_eq_true', beq_iff_eq] at possible
    obtain ⟨⟨codes, singles⟩, oneLine⟩ := possible
    intro c member
    refine ⟨ne_of_longestRun_eq_zero singles c member, ?_⟩
    refine (shown_of_needsCodes codes c member).resolve_right ?_
    rintro rfl
    rw [List.contains_iff_mem.2 member] at oneLine
    cases oneLine
  next =>
    repeat' split at chosen
    all_goals cases chosen

/-- Three single quotes are chosen only for a text without three in a row and without codes. -/
theorem Quoting.shown_of_choose_longLiteral {text : List Char}
    (chosen : choose text = .longLiteral) :
    longestRun '\x27' 0 text ≤ 2 ∧ ∀ c ∈ text, isPlain c ∨ c = '\n' := by
  unfold choose at chosen
  dsimp only at chosen
  iterate 3
    split at chosen
    · cases chosen
  split at chosen
  next possible =>
    simp only [Bool.and_eq_true, Bool.not_eq_true', decide_eq_true_eq] at possible
    exact ⟨possible.2, shown_of_needsCodes possible.1⟩
  next =>
    split at chosen
    all_goals cases chosen

/-! ### Any form -/

/-- A short form is not taken for a long one. -/
theorem append_quote_ne {quote : Char} {text rest : List Char}
    (first : ∀ c ∈ text.head?, c ≠ quote) (ends : ∀ c ∈ rest.head?, c ≠ quote)
    (more : List Char) : text ++ quote :: rest ≠ quote :: quote :: more := by
  cases text with
  | nil =>
    rintro ⟨⟩
    exact ends quote rfl rfl
  | cons c text =>
    intro equal
    exact first c rfl (List.cons.inj equal).1

/-- A line break right behind the opening quotes does not belong to the text. -/
theorem skipBreak_openingBreak {text inside : List Char}
    (first : '\n' ∉ text → ∀ c ∈ inside.head?, c ≠ '\n' ∧ c ≠ '\r') :
    skipBreak (openingBreak text ++ inside) = inside := by
  rw [openingBreak]
  by_cases lines : '\n' ∈ text
  · rw [if_pos (List.contains_iff_mem.2 lines)]
    rfl
  · rw [if_neg fun found => lines (List.contains_iff_mem.1 found), List.nil_append]
    cases inside with
    | nil => rfl
    | cons c inside =>
      obtain ⟨lineFeed, carriageReturn⟩ := first lines c rfl
      unfold skipBreak
      split
      next equation => exact absurd (List.cons.inj equation).1 lineFeed
      next equation => exact absurd (List.cons.inj equation).1 carriageReturn
      next => rfl

theorem ne_break_of_isPlain {c : Char} (plain : isPlain c) : c ≠ '\n' ∧ c ≠ '\r' := by
  constructor <;> rintro rfl <;> cases plain

theorem head?_escapeText_long {text rest : List Char} (oneLine : '\n' ∉ text) :
    ∀ c ∈ (escapeText true 2 0 text ++ '\x22' :: rest).head?, c ≠ '\n' ∧ c ≠ '\r' := by
  cases text with
  | nil =>
    rintro c ⟨⟩
    decide
  | cons c text =>
    have other : c ≠ '\n' := fun same => oneLine (same ▸ List.mem_cons_self)
    rw [escapeText]
    by_cases quote : c = '\x22'
    · subst c
      rintro d ⟨⟩
      decide
    · rw [if_neg quote, escapeChar]
      repeat' split
      all_goals
        rintro d ⟨⟩
        first
        | exact ne_break_of_isPlain ‹_›
        | decide

/-- A text is read back from the form it was written in. -/
theorem readText_writeText (text : List Char) {rest : List Char} (ends : EndsString rest) :
    readText (writeText text ++ rest) = some (text, rest) := by
  rw [writeText]
  cases chosen : Quoting.choose text with
  | basic =>
    have leading := length_takeWhile_escapeText false 0 0 text
    have first : ∀ c ∈ (escapeText false 0 0 text).head?, c ≠ '\x22' := by
      rintro c member rfl
      obtain ⟨more, inside⟩ := List.head?_eq_some_iff.1 member
      rw [inside, List.takeWhile_cons, if_pos (beq_self_eq_true _)] at leading
      exact absurd leading (Nat.not_succ_le_zero _)
    simp only [Quoting.write, List.append_assoc, List.cons_append, List.nil_append]
    rw [readText, basicText_escapeText]
    exact append_quote_ne first fun c member => (ends c member).1
  | literal =>
    have shown := Quoting.shown_of_choose_literal chosen
    have first : ∀ c ∈ text.head?, c ≠ '\x27' := fun c member =>
      (shown c (List.mem_of_mem_head? member)).1
    simp only [Quoting.write, List.append_assoc, List.cons_append, List.nil_append]
    rw [readText, literalText_append rest shown]
    exact append_quote_ne first fun c member => (ends c member).2
  | longBasic =>
    simp only [Quoting.write, List.append_assoc, List.cons_append, List.nil_append]
    rw [readText, skipBreak_openingBreak head?_escapeText_long,
      longBasicText_escapeText 0 text ends]
  | longLiteral =>
    obtain ⟨few, shown⟩ := Quoting.shown_of_choose_longLiteral chosen
    simp only [Quoting.write, List.append_assoc, List.cons_append, List.nil_append]
    rw [readText, skipBreak_openingBreak, longLiteralText_append ends few shown]
    intro oneLine
    cases text with
    | nil =>
      rintro c ⟨⟩
      decide
    | cons c text =>
      rintro d ⟨⟩
      exact ne_break_of_isPlain ((shown c List.mem_cons_self).resolve_right fun same =>
        oneLine (same ▸ List.mem_cons_self))

end ParamChain.Toml
