import ParamChain.Proofs.Decimals
import ParamChain.Proofs.TomlQuoting
import ParamChain.Settings
import ParamChain.Toml.Reader
import ParamChain.Toml.Writer

/-
This file proves that a document of sections is read back as it was written: each line says what it
was written to say, each entry goes into the table whose header stands above it, and the document
comes to one object for each section, in order.
-/

namespace ParamChain.Toml

open Text

/-! ### Numbers -/

theorem letter_of_ne {a b c : Char} (first : c ≠ a) (second : c ≠ b) (rest : List Char) :
    letter a b (c :: rest) = none := by
  simp [letter, first, second]

theorem ne_of_isDigit {c d : Char} (digit : c.isDigit) (other : d.isDigit = false) : c ≠ d := by
  rintro rfl
  rw [digit] at other
  cases other

theorem cons_ne_of_ne {c d : Char} (other : c ≠ d) {rest more : List Char} :
    c :: rest ≠ d :: more := fun same => other (List.cons.inj same).1

section Digits

variable {digits : List Char} (all : ∀ c ∈ digits, c.isDigit) (more : List Char)
include all

/-- Behind a part of the digits stands neither a dash nor a colon. -/
theorem letter_of_field {count low high : Nat} {a : Char} (digit : a.isDigit = false)
    (lineEnd : a ≠ '\n') : ∀ found ∈ field count low high (digits ++ '\n' :: more),
      letter a a found.2 = none := by
  rintro ⟨n, after⟩ found
  simp only [field, Option.mem_def] at found
  split at found
  next good =>
    simp only [Bool.and_eq_true, decide_eq_true_eq, List.all_eq_true] at good
    obtain ⟨⟨⟨full, numeric⟩, -⟩, -⟩ := good
    cases found
    have inside : count ≤ digits.length := by
      refine Nat.le_of_not_lt fun beyond => ?_
      have endAmongDigits : '\n' ∈ (digits ++ '\n' :: more).take count := by
        rw [List.take_append, List.mem_append]
        refine .inr ?_
        obtain ⟨left, equal⟩ := Nat.exists_eq_add_of_lt beyond
        rw [equal, Nat.add_assoc, Nat.add_sub_cancel_left, List.take_succ_cons]
        exact List.mem_cons_self
      exact absurd (numeric '\n' endAmongDigits) (by decide)
    show letter a a ((digits ++ '\n' :: more).drop count) = none
    rw [List.drop_append_of_le_length inside]
    cases left : digits.drop count with
    | nil => exact letter_of_ne lineEnd.symm lineEnd.symm more
    | cons c rest =>
      have other := ne_of_isDigit (all c (List.mem_of_mem_drop (left ▸ List.mem_cons_self))) digit
      exact letter_of_ne other other _
  next => cases found

/-- Digits at the end of a line are no date and no time. -/
theorem moment_digits : moment (digits ++ '\n' :: more) = none := by
  have noDate : date (digits ++ '\n' :: more) = none := by
    simp only [date, Option.bind_eq_bind, Option.bind_eq_none_iff]
    intro year found
    rw [letter_of_field all more (by decide) (by decide) year found]
    exact nofun
  have noTime : time (digits ++ '\n' :: more) = none := by
    simp only [time, Option.bind_eq_bind, Option.bind_eq_none_iff]
    intro hour found
    rw [letter_of_field all more (by decide) (by decide) hour found]
    exact nofun
  rw [moment, noDate, noTime]
  rfl

theorem moreDigits_append :
    moreDigits Char.isDigit (digits ++ '\n' :: more) = (digits, '\n' :: more) := by
  induction digits with
  | nil => rfl
  | cons c rest inductionHypothesis =>
    obtain ⟨digit, others⟩ := List.forall_mem_cons.1 all
    rw [List.cons_append, moreDigits, if_pos digit, inductionHypothesis others]
    exact fun _ _ same => absurd same (ne_of_isDigit digit (by decide))

end Digits

/-- A numeral begins with a digit, and with a zero only if it is nothing else. -/
theorem toDigits_eq_cons (n : Nat) :
    ∃ c rest, Nat.toDigits 10 n = c :: rest ∧ c.isDigit ∧ (∀ d ∈ rest, d.isDigit) ∧
      (c = '0' → rest = []) := by
  have all : ∀ c ∈ Nat.toDigits 10 n, c.isDigit := fun c => isDigit_of_mem_toDigits
  cases spelled : Nat.toDigits 10 n with
  | nil => exact absurd spelled Nat.toDigits_ne_nil
  | cons c rest =>
    rw [spelled] at all
    obtain ⟨digit, others⟩ := List.forall_mem_cons.1 all
    refine ⟨c, rest, rfl, digit, others, ?_⟩
    rintro rfl
    have zero : n = 0 := by
      refine Nat.eq_zero_of_not_pos fun positive => head?_toDigits positive ?_
      rw [spelled]
      rfl
    rw [zero] at spelled
    exact (List.cons.inj spelled).2.symm

/-- The digits of a number are read up to the end of the line. -/
theorem wholeDigits_toDigits (n : Nat) (more : List Char) :
    wholeDigits (Nat.toDigits 10 n ++ '\n' :: more) = some (Nat.toDigits 10 n, '\n' :: more) := by
  obtain ⟨c, rest, spelled, digit, others, zero⟩ := toDigits_eq_cons n
  rw [spelled, List.cons_append]
  by_cases leading : c = '0'
  · rw [zero leading, leading]
    rfl
  · rw [wholeDigits, digits, if_pos digit, moreDigits_append others]
    exact fun _ => cons_ne_of_ne leading

/-- A number as it is spelled: its sign and its digits. -/
def numeral (negative : Bool) (n : Nat) : List Char :=
  (if negative then ['-'] else []) ++ Nat.toDigits 10 n

theorem toList_toString (n : Int) : (toString n).toList = numeral (n < 0) n.natAbs := by
  rw [toList_toString_int, numeral]
  simp only [decide_eq_true_eq]

theorem numeral_eq_cons (negative : Bool) (n : Nat) :
    ∃ c rest, numeral negative n = c :: rest ∧
      (∀ d, '-' ≠ d → d.isDigit = false → c ≠ d) ∧ (c = '0' → rest = []) := by
  cases negative with
  | true => exact ⟨'-', _, rfl, fun _ other _ => other, fun same => absurd same (by decide)⟩
  | false =>
    obtain ⟨c, rest, spelled, digit, -, zero⟩ := toDigits_eq_cons n
    exact ⟨c, rest, spelled, fun d _ other => ne_of_isDigit digit other, zero⟩

/-- The sign in front of a numeral is read off it. -/
theorem sign_numeral (negative : Bool) (n : Nat) (more : List Char) :
    sign (numeral negative n ++ more) = (negative, Nat.toDigits 10 n ++ more) := by
  cases negative with
  | true => rfl
  | false =>
    obtain ⟨c, rest, spelled, digit, -⟩ := toDigits_eq_cons n
    have plus : c ≠ '+' := ne_of_isDigit digit rfl
    have minus : c ≠ '-' := ne_of_isDigit digit rfl
    show sign (Nat.toDigits 10 n ++ more) = _
    rw [spelled, List.cons_append, sign]
    · exact fun _ => cons_ne_of_ne plus
    · exact fun _ => cons_ne_of_ne minus

section Numerals

variable (negative : Bool) (n : Nat) (more : List Char)

theorem moment_numeral : moment (numeral negative n ++ '\n' :: more) = none := by
  cases negative with
  | true =>
    have dash (count low high : Nat) (rest : List Char) :
        field (count + 1) low high ('-' :: rest) = none := by simp [field]
    show moment ('-' :: (Nat.toDigits 10 n ++ '\n' :: more)) = none
    simp only [moment, date, time, dash, Option.bind_eq_bind, Option.bind_none]
  | false => exact moment_digits (fun c => isDigit_of_mem_toDigits) more

/-- A numeral at the end of a line has no fraction and no exponent. -/
theorem decimalNumber_numeral : decimalNumber (numeral negative n ++ '\n' :: more) = none := by
  simp only [decimalNumber, sign_numeral, wholeDigits_toDigits]
  rfl

theorem specialNumber_numeral : specialNumber (numeral negative n ++ '\n' :: more) = none := by
  obtain ⟨c, rest, spelled, digit, -⟩ := toDigits_eq_cons n
  rw [specialNumber, sign_numeral, spelled, List.cons_append]
  split
  next same => exact absurd same (cons_ne_of_ne (ne_of_isDigit digit rfl))
  next same => exact absurd same (cons_ne_of_ne (ne_of_isDigit digit rfl))
  next => rfl

/-- A numeral at the end of a line is read as its number, if that fits. -/
theorem wholeNumber_numeral : wholeNumber (numeral negative n ++ '\n' :: more) =
    (wholeOf negative n).map fun v => (v, '\n' :: more) := by
  have decimal {x : Char} (other : '\n' ≠ x) (rest : List Char) :
      numeral negative n ++ '\n' :: more ≠ '0' :: x :: rest := by
    obtain ⟨c, digits, spelled, -, zero⟩ := numeral_eq_cons negative n
    rw [spelled]
    intro same
    rw [zero (List.cons.inj same).1] at same
    exact other (List.cons.inj (List.cons.inj same).2).1
  rw [wholeNumber]
  · simp only [sign_numeral, wholeDigits_toDigits, Option.bind_eq_bind, Option.bind_some,
      natOfDigits_toDigits]
    cases wholeOf negative n <;> rfl
  · exact decimal (by decide)
  · exact decimal (by decide)
  · exact decimal (by decide)

/-- A numeral is taken for nothing but a whole number. -/
theorem scalar_numeral : scalar (numeral negative n ++ '\n' :: more) =
    (wholeOf negative n).map fun v => (v, '\n' :: more) := by
  obtain ⟨c, rest, spelled, start, -⟩ := numeral_eq_cons negative n
  rw [scalar, moment_numeral, decimalNumber_numeral, specialNumber_numeral, wholeNumber_numeral]
  · rfl
  · rw [spelled]
    exact fun _ => cons_ne_of_ne (start 't' (by decide) rfl)
  · rw [spelled]
    exact fun _ => cons_ne_of_ne (start 'f' (by decide) rfl)

end Numerals

/-! ### Values -/

/-- A value that stands before this text ends there. -/
theorem endsString_cons {c : Char} (double : c ≠ '\x22') (single : c ≠ '\x27')
    (rest : List Char) : EndsString (c :: rest) := by
  rintro d ⟨⟩
  exact ⟨double, single⟩

theorem writeText_eq_cons (text : List Char) :
    ∃ c rest, writeText text = c :: rest ∧ (c = '\x22' ∨ c = '\x27') := by
  rw [writeText]
  cases Quoting.choose text with
  | basic | longBasic => exact ⟨'\x22', _, rfl, .inl rfl⟩
  | literal | longLiteral => exact ⟨'\x27', _, rfl, .inr rfl⟩

/-- What starts neither an array nor a table in braces is a string or a scalar. -/
theorem value_of_ne (limit depth : Nat) {c : Char} (array : c ≠ '[') (table : c ≠ '\x7b')
    (rest : List Char) : value limit depth (c :: rest) =
      ((readText (c :: rest)).map fun r => (Json.str (String.ofList r.1), r.2)).or
        (scalar (c :: rest)) := by
  rw [value]
  · exact fun _ _ _ => cons_ne_of_ne array
  · exact fun _ _ _ => cons_ne_of_ne table

/-- A written text is read back as a value. -/
theorem value_writeText (limit depth : Nat) (s : String) {rest : List Char}
    (ends : EndsString rest) :
    value limit depth (writeText s.toList ++ rest) = some (.str s, rest) := by
  have read := readText_writeText s.toList ends
  obtain ⟨c, more, written, quote⟩ := writeText_eq_cons s.toList
  rw [written, List.cons_append] at read ⊢
  rw [value_of_ne, read]
  · simp
  all_goals rcases quote with rfl | rfl <;> decide

theorem readText_of_ne {c : Char} (double : c ≠ '\x22') (single : c ≠ '\x27')
    (rest : List Char) : readText (c :: rest) = none := by
  rw [readText]
  · exact fun _ => cons_ne_of_ne double
  · exact fun _ => cons_ne_of_ne single
  · exact fun _ => cons_ne_of_ne double
  · exact fun _ => cons_ne_of_ne single

/-- A number of the settings is read back as a value. -/
theorem value_number (limit depth : Nat) {n : Int} (fits : Settings.fits n) (more : List Char) :
    value limit depth ((toString n).toList ++ '\n' :: more) = some (.int n, '\n' :: more) := by
  obtain ⟨lower, upper⟩ : -0x8000000000000000 ≤ n ∧ n < 0x8000000000000000 := by
    simpa [Settings.fits] using fits
  have whole : wholeOf (n < 0) n.natAbs = some (.int n) := by
    by_cases negative : n < 0
    · have value : -(n.natAbs : Int) = n := by omega
      simp only [wholeOf, negative, decide_true, if_true]
      rw [if_pos (by omega), value]
    · have value : (n.natAbs : Int) = n := by omega
      simp only [wholeOf, negative, decide_false, Bool.false_eq_true, if_false]
      rw [if_pos (by omega), value]
  have read := scalar_numeral (n < 0) n.natAbs more
  obtain ⟨c, rest, first, start, -⟩ := numeral_eq_cons (n < 0) n.natAbs
  rw [whole, first] at read
  rw [toList_toString, first, List.cons_append, value_of_ne limit depth (start '[' (by decide) rfl)
    (start '\x7b' (by decide) rfl), readText_of_ne (start '\x22' (by decide) rfl)
    (start '\x27' (by decide) rfl)]
  exact read

/-! ### Lists of texts -/

theorem skipBlank_cons {c : Char} (visible : isBlank c = false) (rest : List Char) :
    skipBlank (c :: rest) = c :: rest := by
  rw [skipBlank, List.dropWhile_cons, if_neg (by rw [visible]; exact Bool.false_ne_true)]

section Items

variable {limit fuel : Nat} {read : Reader Json} {input text after more : List Char} {item : Json}
  (skipped : skipLines limit input = some text) (inside : ∀ rest, text ≠ ']' :: rest)
  (found : read text = some (item, after))
include skipped inside found

/-- After an item and a comma the next item is read, over the end of the line. -/
theorem arrayItems_comma (comma : skipLines limit after = some (',' :: more)) :
    arrayItems limit read (fuel + 1) input =
      (arrayItems limit read fuel more).map fun items => (item :: items.1, items.2) := by
  rw [arrayItems, skipped, Option.bind_eq_bind, Option.bind_some]
  split
  next rest => exact absurd rfl (inside rest)
  next =>
    rw [found]
    simp only [Option.bind_eq_bind, Option.bind_some, comma]
    cases arrayItems limit read fuel more <;> rfl

/-- After an item and the closing bracket the array ends. -/
theorem arrayItems_last (last : skipLines limit after = some (']' :: more)) :
    arrayItems limit read (fuel + 1) input = some ([item], more) := by
  rw [arrayItems, skipped, Option.bind_eq_bind, Option.bind_some]
  split
  next rest => exact absurd rfl (inside rest)
  next =>
    rw [found]
    simp only [Option.bind_eq_bind, Option.bind_some, last]

end Items

/-- A line of its own for a text in a list. -/
def textLine (s : String) : List Char :=
  [' ', ' ', ' ', ' '] ++ writeText s.toList ++ [',', '\n']

/-- An array has a line for each of its texts. -/
theorem length_le_textLines (texts : List String) :
    texts.length ≤ (texts.flatMap textLine).length := by
  induction texts with
  | nil => exact Nat.le_refl 0
  | cons s texts inductionHypothesis =>
    rw [List.flatMap_cons, List.length_append, textLine, List.length_append, List.length_append,
      List.length_cons, List.length_cons]
    omega

theorem writeText_append_ne (s : String) (rest more : List Char) :
    writeText s.toList ++ rest ≠ ']' :: more := by
  obtain ⟨c, inside, written, quote⟩ := writeText_eq_cons s.toList
  rw [written, List.cons_append]
  exact cons_ne_of_ne (by rcases quote with rfl | rfl <;> decide)

/-- Blanks and line breaks before a text are passed over. -/
theorem skipLines_writeText (lines : Nat) (s : String) (rest : List Char) :
    skipLines (lines + 1) (writeText s.toList ++ rest) = some (writeText s.toList ++ rest) ∧
      skipLines (lines + 2) ('\n' :: ' ' :: ' ' :: ' ' :: ' ' :: (writeText s.toList ++ rest)) =
        some (writeText s.toList ++ rest) := by
  obtain ⟨c, inside, written, quote⟩ := writeText_eq_cons s.toList
  rw [written]
  rcases quote with rfl | rfl <;> exact ⟨rfl, rfl⟩

/-- An array with one text a line is read back. -/
theorem arrayItems_lines (limit depth lines : Nat) (texts : List String) (rest : List Char)
    {fuel : Nat} (enough : texts.length < fuel) :
    arrayItems (lines + 2) (value limit depth) fuel
        ('\n' :: (texts.flatMap textLine ++ ']' :: rest)) = some (texts.map .str, rest) := by
  obtain ⟨fuel, rfl⟩ := Nat.exists_eq_add_one_of_ne_zero (Nat.ne_zero_of_lt enough)
  induction texts generalizing fuel with
  | nil => rfl
  | cons s texts inductionHypothesis =>
    obtain ⟨fuel, rfl⟩ := Nat.exists_eq_add_one_of_ne_zero (n := fuel) (by
      rintro rfl
      exact absurd enough (Nat.not_lt_of_le (Nat.succ_le_succ (Nat.zero_le _))))
    have following := inductionHypothesis fuel (Nat.lt_of_succ_lt_succ enough)
    have text := value_writeText limit depth s (endsString_cons (c := ',') (by decide) (by decide)
      ('\n' :: (texts.flatMap textLine ++ ']' :: rest)))
    simp only [List.flatMap_cons, textLine, List.append_assoc, List.cons_append, List.nil_append]
      at following text ⊢
    rw [arrayItems_comma (skipLines_writeText lines s _).2 (writeText_append_ne s _) text rfl,
      following]
    rfl

/-- A list of texts is read back. -/
theorem value_writeTexts {limit : Nat} (depth : Nat) (texts : List String) (rest : List Char)
    (enough : (writeTexts texts).length ≤ limit) :
    value limit (depth + 2) (writeTexts texts ++ rest) = some (Json.ofTexts texts, rest) := by
  have array {input : List Char} {items : List Json}
      (read : arrayItems (limit + 1) (value limit (depth + 1)) (limit + 1) input =
        some (items, rest)) :
      value limit (depth + 2) ('[' :: input) = some (.arr items, rest) := by
    rw [value, if_neg (Nat.succ_ne_zero depth), read]
    rfl
  match texts with
  | [] => exact array rfl
  | [s] =>
    have text := value_writeText limit (depth + 1) s
      (endsString_cons (c := ']') (by decide) (by decide) rest)
    rw [writeTexts]
    simp only [List.append_assoc, List.cons_append, List.nil_append]
    have skipped := (skipLines_writeText limit s (']' :: rest)).1
    exact array (arrayItems_last skipped (writeText_append_ne s _) text rfl)
  | s :: t :: texts =>
    have count := length_le_textLines (s :: t :: texts)
    have layout : writeTexts (s :: t :: texts) =
        '[' :: '\n' :: ((s :: t :: texts).flatMap textLine ++ [']']) := by
      rw [writeTexts]
      · rfl
      · exact nofun
      · exact nofun
    rw [layout] at enough ⊢
    simp only [List.length_cons, List.length_append] at enough count
    obtain ⟨lines, rfl⟩ := Nat.exists_eq_add_one_of_ne_zero (n := limit) (by omega)
    rw [List.cons_append, List.cons_append, List.append_assoc, List.singleton_append]
    refine array (arrayItems_lines _ _ lines _ rest ?_)
    rw [List.length_cons, List.length_cons]
    omega

/-! ### Lines -/

/-- A name that needs no quotes as a key. -/
def IsBareName (name : String) : Prop :=
  name.toList.isEmpty = false ∧ name.toList.all isBare = true

instance (name : String) : Decidable (IsBareName name) :=
  inferInstanceAs (Decidable (_ ∧ _))

/-- A number that is written fits sixty-four bits with a sign. -/
def Field.Fits : Field → Prop
  | .number n => Settings.fits n
  | _ => True

theorem IsBareName.eq_cons {name : String} (bare : IsBareName name) :
    ∃ c rest, name.toList = c :: rest ∧ isBare c := by
  cases chars : name.toList with
  | nil =>
    rw [IsBareName, chars] at bare
    cases bare.1
  | cons c rest => exact ⟨c, rest, rfl, List.all_eq_true.1 bare.2 c (chars ▸ List.mem_cons_self)⟩

theorem ne_of_isBare {c d : Char} (bare : isBare c) (other : isBare d = false) : c ≠ d := by
  rintro rfl
  rw [bare] at other
  cases other

/-- A name that needs no quotes is read up to the first character that is none of its own. -/
theorem keyPart_bare {name : String} (bare : IsBareName name) {c : Char} (stop : isBare c = false)
    (rest : List Char) : keyPart (name.toList ++ c :: rest) = some (name, c :: rest) := by
  have stops : ¬isBare c = true := Bool.eq_false_iff.1 stop
  have taken : (name.toList ++ c :: rest).takeWhile isBare = name.toList := by
    rw [List.takeWhile_append_of_pos (List.all_eq_true.1 bare.2), List.takeWhile_cons,
      if_neg stops, List.append_nil]
  have dropped : (name.toList ++ c :: rest).dropWhile isBare = c :: rest := by
    rw [List.dropWhile_append_of_pos (List.all_eq_true.1 bare.2), List.dropWhile_cons,
      if_neg stops]
  obtain ⟨first, chars, spelled, start⟩ := bare.eq_cons
  rw [keyPart]
  · simp only [taken, dropped, bare.1, Bool.false_eq_true, if_false, String.ofList_toList]
  · rw [spelled]
    exact fun _ => cons_ne_of_ne (ne_of_isBare start (by decide))
  · rw [spelled]
    exact fun _ => cons_ne_of_ne (ne_of_isBare start (by decide))

theorem isBlank_of_isBare {c : Char} (bare : isBare c) : isBlank c = false := by
  rw [isBlank, Bool.or_eq_false_iff]
  exact ⟨beq_false_of_ne (ne_of_isBare bare (by decide)),
    beq_false_of_ne (ne_of_isBare bare (by decide))⟩

theorem skipBlank_name {name : String} (bare : IsBareName name) (rest : List Char) :
    skipBlank (name.toList ++ rest) = name.toList ++ rest := by
  obtain ⟨first, chars, spelled, start⟩ := bare.eq_cons
  rw [spelled, List.cons_append, skipBlank_cons (isBlank_of_isBare start)]

/-- A key of one part is read up to what follows it. -/
theorem key_bare {name : String} (bare : IsBareName name) (parts : Nat) {c d : Char}
    {more : List Char} (rest : List Char) (stop : isBare c = false)
    (next : skipBlank (c :: rest) = d :: more) (dot : d ≠ '.') :
    key (parts + 1) (name.toList ++ c :: rest) = some (([], name), d :: more) := by
  rw [key, skipBlank_name bare, keyPart_bare bare stop, Option.bind_eq_bind, Option.bind_some]
  simp only [next]
  split
  next same => exact absurd (List.cons.inj same).1 dot
  next => rfl

/-- The header of a section is read as one. -/
theorem readLine_header (limit : Nat) {name : String} (bare : IsBareName name)
    (more : List Char) :
    readLine limit ('[' :: (name.toList ++ ']' :: '\n' :: more)) =
      some (.header [] name, more) := by
  have found := key_bare bare 78 (c := ']') ('\n' :: more) (by decide) rfl (by decide)
  obtain ⟨first, chars, spelled, start⟩ := bare.eq_cons
  rw [readLine]
  · show (key (78 + 1) _).bind _ = _
    rw [found]
    rfl
  · rw [spelled]
    exact fun _ => cons_ne_of_ne (ne_of_isBare start (by decide))

/-- The value of a field is read back. -/
theorem Field.value_write {f : Field} (fits : f.Fits) {limit : Nat}
    (enough : f.write.length ≤ limit) (more : List Char) :
    value limit maxDepth (f.write ++ '\n' :: more) = some (f.toJson, '\n' :: more) := by
  cases f with
  | text content =>
    exact value_writeText limit maxDepth content (endsString_cons (by decide) (by decide) more)
  | texts contents => exact value_writeTexts 78 contents ('\n' :: more) enough
  | number n => exact value_number limit maxDepth fits more

theorem Field.skipBlank_write (f : Field) (more : List Char) :
    skipBlank (f.write ++ more) = f.write ++ more := by
  have visible : ∃ c rest, f.write = c :: rest ∧ isBlank c = false := by
    cases f with
    | text content =>
      obtain ⟨c, rest, written, quote⟩ := writeText_eq_cons content.toList
      exact ⟨c, rest, written, by rcases quote with rfl | rfl <;> rfl⟩
    | texts contents =>
      match contents with
      | [] | [_] | _ :: _ :: _ => exact ⟨'[', _, rfl, rfl⟩
    | number n =>
      obtain ⟨c, rest, written, start, -⟩ := numeral_eq_cons (n < 0) n.natAbs
      refine ⟨c, rest, (toList_toString n).trans written, ?_⟩
      rw [isBlank, Bool.or_eq_false_iff]
      exact ⟨beq_false_of_ne (start ' ' (by decide) rfl),
        beq_false_of_ne (start '\t' (by decide) rfl)⟩
  obtain ⟨c, rest, written, blank⟩ := visible
  rw [written, List.cons_append, skipBlank_cons blank]

/-- The line of a field, or the lines of an array, are read as one entry. -/
theorem readLine_entry {limit : Nat} {name : String} (bare : IsBareName name) {f : Field}
    (fits : f.Fits) (enough : f.write.length ≤ limit) (more : List Char) :
    readLine limit (writeField (name, f) ++ more) = some (.entry [] name f.toJson, more) := by
  have found := key_bare bare 78 (c := ' ') ('=' :: ' ' :: (f.write ++ '\n' :: more)) (by decide)
    rfl (by decide)
  have content := Field.value_write fits enough more
  have blank : skipBlank (' ' :: (f.write ++ '\n' :: more)) = f.write ++ '\n' :: more :=
    f.skipBlank_write ('\n' :: more)
  have layout : writeField (name, f) ++ more =
      name.toList ++ ' ' :: '=' :: ' ' :: (f.write ++ '\n' :: more) := by
    simp only [writeField, List.append_assoc, List.cons_append, List.nil_append]
  obtain ⟨first, chars, spelled, start⟩ := bare.eq_cons
  have other {d : Char} (special : isBare d = false) : first ≠ d := ne_of_isBare start special
  rw [layout]
  rw [spelled, List.cons_append] at found ⊢
  rw [readLine, if_neg]
  · show (key (78 + 1) _).bind _ = _
    rw [found, Option.bind_some]
    show (value limit maxDepth (skipBlank _)).bind _ = _
    rw [blank, content]
    rfl
  · simp [other (d := '#') rfl, other (d := '\n') rfl, other (d := '\r') rfl]
  · exact fun _ bracket _ => other rfl bracket
  · exact other rfl

/-! ### Tables -/

namespace Draft

theorem find?_eq_none {members : Members} {name : String} (fresh : name ∉ members.map Prod.fst) :
    find? members name = none := by
  rw [find?, Option.map_eq_none_iff, List.find?_eq_none]
  intro m member same
  exact fresh (beq_iff_eq.1 same ▸ List.mem_map_of_mem member)

theorem find?_concat {members : Members} {name : String} (fresh : name ∉ members.map Prod.fst)
    (draft : Draft) : find? (members ++ [(name, draft)]) name = some draft := by
  have absent := Option.map_eq_none_iff.1 (find?_eq_none fresh)
  rw [find?, List.find?_append, absent]
  simp

/-- A new member is put behind the others. -/
theorem set_fresh {members : Members} {name : String} (fresh : name ∉ members.map Prod.fst)
    (draft : Draft) : set name draft members = members ++ [(name, draft)] := by
  induction members with
  | nil => rfl
  | cons m rest inductionHypothesis =>
    rw [List.map_cons, List.mem_cons, not_or] at fresh
    rw [set, if_neg (Ne.symm fresh.1), inductionHypothesis fresh.2, List.cons_append]

/-- The member that was put in last can be replaced. -/
theorem set_concat {members : Members} {name : String} (fresh : name ∉ members.map Prod.fst)
    (old draft : Draft) :
    set name draft (members ++ [(name, old)]) = members ++ [(name, draft)] := by
  induction members with
  | nil => rw [List.nil_append, set, if_pos rfl, List.nil_append]
  | cons m rest inductionHypothesis =>
    rw [List.map_cons, List.mem_cons, not_or] at fresh
    rw [List.cons_append, set, if_neg (Ne.symm fresh.1), inductionHypothesis fresh.2,
      List.cons_append]

theorem membersJson_eq_map (members : Members) :
    membersJson members = members.map fun m => (m.1, m.2.toJson) := by
  induction members with
  | nil => rfl
  | cons m rest inductionHypothesis => rw [membersJson, inductionHypothesis, List.map_cons]

end Draft

/-- What a section comes to. -/
def Section.draft (s : Section) : String × Draft :=
  (s.name, .table true false (s.fields.map fun f => (f.1, .value f.2.toJson)))

/-- What is gathered of a section is the section. -/
theorem Section.draft_toJson (s : Section) : s.draft.2.toJson = s.toJson := by
  rw [draft, Draft.toJson, Draft.membersJson_eq_map, List.map_map, toJson]
  rfl

/-- The document once the header of a new section has been read. -/
theorem Document.add_header {name : String} {members : Draft.Members}
    (fresh : name ∉ members.map Prod.fst) (current : List String) :
    Document.add ⟨current, members⟩ (.header [] name) =
      some ⟨[name], members ++ [(name, .table true false [])]⟩ := by
  rw [add, Draft.within, Draft.openTable, Draft.find?_eq_none fresh, Draft.set_fresh fresh]
  rfl

/-- The document once a new entry of the last section has been read. -/
theorem Document.add_entry {name key : String} {members fields : Draft.Members}
    (fresh : name ∉ members.map Prod.fst) (newKey : key ∉ fields.map Prod.fst) (content : Json) :
    Document.add ⟨[name], members ++ [(name, .table true false fields)]⟩ (.entry [] key content) =
      some ⟨[name],
        members ++ [(name, .table true false (fields ++ [(key, .value content)]))]⟩ := by
  rw [add, Draft.within, Draft.find?_concat fresh]
  simp only [Draft.within, Draft.insertDotted, Draft.insert, Draft.find?_eq_none newKey,
    Draft.set_fresh newKey, Option.map_some, Draft.set_concat fresh]

/-! ### Documents -/

/-- The names of the section are bare, its fields have different names, and its numbers fit. -/
structure Section.WellFormed (s : Section) : Prop where
  name : IsBareName s.name
  fields : ∀ f ∈ s.fields, IsBareName f.1 ∧ f.2.Fits
  distinct : (s.fields.map Prod.fst).Nodup

theorem Section.wellFormed_of_sublist {name : String} {fields : List (String × Field)}
    (names : List String) (listed : (fields.map Prod.fst).Sublist names) (distinct : names.Nodup)
    (bare : IsBareName name ∧ ∀ n ∈ names, IsBareName n) (fits : ∀ f ∈ fields, f.2.Fits) :
    Section.WellFormed ⟨name, fields⟩ where
  name := bare.1
  fields f member := ⟨bare.2 f.1 (listed.subset (List.mem_map_of_mem member)), fits f member⟩
  distinct := distinct.sublist listed

/-- Lines are added one after the other. -/
theorem Document.addLines_line {limit fuel : Nat} {d d' : Document} {input more : List Char}
    {line : Line} (visible : ∃ c rest, input = c :: rest ∧ isBlank c = false)
    (read : readLine limit input = some (line, more)) (added : d.add line = some d') :
    addLines limit (fuel + 1) d input = addLines limit fuel d' more := by
  obtain ⟨c, rest, rfl, blank⟩ := visible
  rw [addLines, skipBlank_cons blank]
  simp only [read, added, Option.bind_eq_bind, Option.bind_some]

theorem visible_writeField {f : String × Field} (bare : IsBareName f.1) (more : List Char) :
    ∃ c rest, writeField f ++ more = c :: rest ∧ isBlank c = false := by
  obtain ⟨c, rest, spelled, start⟩ := bare.eq_cons
  rw [writeField, spelled]
  exact ⟨c, _, rfl, isBlank_of_isBare start⟩

/-- The fields of a section are added to the section that was begun last. -/
theorem Document.addLines_fields {limit fuel : Nat} {name : String} {members : Draft.Members}
    (fresh : name ∉ members.map Prod.fst) {fields : List (String × Field)}
    (good : ∀ f ∈ fields, IsBareName f.1 ∧ f.2.Fits)
    (enough : (fields.flatMap writeField).length ≤ limit) (more : List Char)
    (done : Draft.Members) (distinct : (done.map Prod.fst ++ fields.map Prod.fst).Nodup) :
    addLines limit (fields.length + fuel) ⟨[name], members ++ [(name, .table true false done)]⟩
        (fields.flatMap writeField ++ more) =
      addLines limit fuel ⟨[name], members ++ [(name, .table true false
        (done ++ fields.map fun f => (f.1, .value f.2.toJson)))]⟩ more := by
  induction fields generalizing done with
  | nil =>
    rw [List.length_nil, Nat.zero_add, List.flatMap_nil, List.nil_append, List.map_nil,
      List.append_nil]
  | cons f fields inductionHypothesis =>
    obtain ⟨⟨bare, fits⟩, others⟩ := List.forall_mem_cons.1 good
    have newKey : f.1 ∉ done.map Prod.fst := fun member =>
      (List.nodup_append.1 distinct).2.2 f.1 member f.1 List.mem_cons_self rfl
    rw [List.flatMap_cons, List.length_append] at enough
    have inside : f.2.write.length ≤ (writeField f).length := by
      simp only [writeField, List.length_append]
      omega
    have short : f.2.write.length ≤ limit := by omega
    have read := readLine_entry bare fits short (fields.flatMap writeField ++ more)
    have added := Document.add_entry fresh newKey f.2.toJson
    rw [List.flatMap_cons, List.append_assoc, List.length_cons, Nat.add_right_comm,
      addLines_line (visible_writeField bare _) read added,
      inductionHypothesis others (by omega), List.map_cons, List.append_assoc,
      List.singleton_append]
    rw [List.map_append, List.append_assoc]
    exact distinct

/-- The document once all lines of a new section have been read. -/
theorem Document.addLines_section {limit : Nat} (fuel : Nat) {s : Section}
    (wellFormed : s.WellFormed) {members : Draft.Members} (fresh : s.name ∉ members.map Prod.fst)
    (enough : s.write.length ≤ limit) (current : List String) (more : List Char) :
    addLines limit (s.fields.length + 1 + fuel) ⟨current, members⟩ (s.write ++ more) =
      addLines limit fuel ⟨[s.name], members ++ [s.draft]⟩ more := by
  have read := readLine_header limit wellFormed.name (s.fields.flatMap writeField ++ more)
  have layout : s.write ++ more =
      '[' :: (s.name.toList ++ ']' :: '\n' :: (s.fields.flatMap writeField ++ more)) := by
    simp only [Section.write, List.append_assoc, List.cons_append, List.nil_append]
  have short : (s.fields.flatMap writeField).length ≤ limit := by
    simp only [Section.write, List.length_append] at enough
    omega
  rw [layout, Nat.add_right_comm, addLines_line ⟨_, _, rfl, rfl⟩ read (add_header fresh current),
    addLines_fields fresh wellFormed.fields short more [] wellFormed.distinct]
  rfl

theorem Section.length_write (s : Section) : s.fields.length + 1 ≤ s.write.length := by
  have lines (fields : List (String × Field)) :
      fields.length ≤ (fields.flatMap writeField).length := by
    induction fields with
    | nil => exact Nat.le_refl 0
    | cons f fields inductionHypothesis =>
      rw [List.flatMap_cons, List.length_append, writeField, List.length_append,
        List.length_singleton, List.length_cons]
      omega
  have fields := lines s.fields
  rw [Section.write, List.length_append, List.length_append, List.length_append,
    List.length_singleton]
  omega

/-- Sections are added behind those that are there, by induction on their number. -/
theorem Document.addLines_sections {limit fuel : Nat} {sections : List Section}
    (wellFormed : ∀ s ∈ sections, s.WellFormed) (members : Draft.Members)
    (distinct : (members.map Prod.fst ++ sections.map Section.name).Nodup)
    (enough : (writeSections sections).length ≤ limit)
    (fuelled : (writeSections sections).length < fuel) (current : List String) :
    ∃ last, addLines limit fuel ⟨current, members⟩ (writeSections sections) =
      some ⟨last, members ++ sections.map Section.draft⟩ := by
  induction sections generalizing fuel members current with
  | nil =>
    obtain ⟨fuel, rfl⟩ := Nat.exists_eq_add_one_of_ne_zero (Nat.ne_zero_of_lt fuelled)
    exact ⟨current, by rw [List.map_nil, List.append_nil]; rfl⟩
  | cons s rest inductionHypothesis =>
    obtain ⟨here, others⟩ := List.forall_mem_cons.1 wellFormed
    have fresh : s.name ∉ members.map Prod.fst := fun member =>
      (List.nodup_append.1 distinct).2.2 s.name member s.name List.mem_cons_self rfl
    have lines := s.length_write
    cases rest with
    | nil =>
      rw [writeSections] at enough fuelled ⊢
      obtain ⟨left, rfl⟩ : ∃ left, fuel = s.fields.length + 1 + (left + 1) :=
        ⟨fuel - (s.fields.length + 2), by omega⟩
      have whole := addLines_section (left + 1) here fresh enough current []
      rw [List.append_nil] at whole
      exact ⟨[s.name], whole⟩
    | cons next rest =>
      have layout : writeSections (s :: next :: rest) =
          s.write ++ '\n' :: writeSections (next :: rest) := by
        rw [writeSections, List.append_assoc, List.singleton_append]
        exact nofun
      rw [layout, List.length_append, List.length_cons] at enough fuelled
      obtain ⟨left, rfl⟩ : ∃ left, fuel = s.fields.length + 1 + (left + 1) :=
        ⟨fuel - (s.fields.length + 2), by omega⟩
      have blank (d : Document) :
          addLines limit (left + 1) d ('\n' :: writeSections (next :: rest)) =
            addLines limit left d (writeSections (next :: rest)) :=
        addLines_line ⟨_, _, rfl, rfl⟩ rfl rfl
      have distinctLeft : ((members ++ [s.draft]).map Prod.fst ++
          (next :: rest).map Section.name).Nodup := by
        rw [List.map_append, List.append_assoc]
        exact distinct
      have remaining : (writeSections (next :: rest)).length < left := by omega
      obtain ⟨last, following⟩ := inductionHypothesis others (members ++ [s.draft]) distinctLeft
        (by omega) remaining [s.name]
      refine ⟨last, ?_⟩
      rw [layout, addLines_section (left + 1) here fresh (by omega), blank, following,
        List.append_assoc]
      rfl

/-- A document of sections is read back as the objects that they stand for. -/
theorem parse_render {sections : List Section} (wellFormed : ∀ s ∈ sections, s.WellFormed)
    (distinct : (sections.map Section.name).Nodup) :
    parse (render sections) = some (.obj (sections.map fun s => (s.name, s.toJson))) := by
  have unmarked : ∀ rest, writeSections sections ≠ '\ufeff' :: rest := by
    match sections with
    | [] => exact nofun
    | [_] | _ :: _ :: _ => exact fun _ => cons_ne_of_ne (by decide)
  obtain ⟨last, read⟩ := Document.addLines_sections wellFormed [] distinct (Nat.le_refl _)
    (Nat.lt_succ_self _) []
  have objects : Draft.membersJson (sections.map Section.draft) =
      sections.map fun s => (s.name, s.toJson) := by
    rw [Draft.membersJson_eq_map, List.map_map]
    refine List.map_congr_left fun s _ => ?_
    exact congrArg (s.name, ·) s.draft_toJson
  rw [parse, render, String.toList_ofList]
  split
  next rest marked => exact absurd marked (unmarked rest)
  next =>
    rw [read, Option.map_some]
    exact congrArg (some ∘ Json.obj) objects

end ParamChain.Toml
