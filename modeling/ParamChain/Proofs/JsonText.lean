import Mathlib.Data.List.DropRight
import ParamChain.Json.Reader
import ParamChain.Json.Record
import ParamChain.Json.Writer
import ParamChain.Proofs.Decimals

/-
This file proves that the reader of JSON text reads back what the writer lays out.

What is read is the value that was written, with the members of each object in the order of their
names: that is how the reader keeps them, and no look-up depends on it. The value may not hold
fractions, its numbers have to fit sixty-four bits, and it may nest no deeper than the reader goes.
-/

namespace ParamChain.Json

open Text

/-! ### The value that is read -/

mutual

/-- The value with the members of all objects in the order of their names. Of members of one name
the last is kept. -/
def ordered : Json → Json
  | .arr items => .arr (orderedItems items)
  | .obj members => .obj (orderedMembers [] members)
  | .null => .null
  | .bool b => .bool b
  | .int n => .int n
  | .float x => .float x
  | .str s => .str s

/-- The same for each item of a list. -/
def orderedItems : List Json → List Json
  | [] => []
  | item :: rest => ordered item :: orderedItems rest

/-- The same for each member of an object, put in order to those in front. -/
def orderedMembers (done : List (String × Json)) : List (String × Json) → List (String × Json)
  | [] => done
  | (name, value) :: rest => orderedMembers (insertMember name (ordered value) done) rest

end

/-- The value holds no fractions, its numbers fit sixty-four bits, and at most `depth` arrays and
objects stand inside one another. -/
def Plain : Nat → Json → Prop
  | _, .null => True
  | _, .bool _ => True
  | _, .int n => -0x8000000000000000 ≤ n ∧ n < 0x10000000000000000
  | _, .float _ => False
  | _, .str _ => True
  | 0, .arr _ => False
  | depth + 1, .arr items => ∀ v ∈ items, Plain depth v
  | 0, .obj _ => False
  | depth + 1, .obj members => ∀ m ∈ members, Plain depth m.2

theorem plain_str (depth : Nat) (s : String) : Plain depth (.str s) := by
  rw [Plain]
  trivial

/-- A number that fits into the machine word is written as it is. -/
theorem plain_size (depth : Nat) {n : Nat} (small : n < 0x10000000000000000) :
    Plain depth (.int n) := by
  rw [Plain]
  omega

theorem plain_ofTexts (depth : Nat) (texts : List String) : Plain (depth + 1) (ofTexts texts) := by
  rw [ofTexts, Plain]
  exact List.forall_mem_map.2 fun s _ => plain_str depth s

/-! ### Looking up what was put in order -/

/-- The members of an object are put in order, and so are those inside them. -/
theorem ordered_obj (members : List (String × Json)) :
    ordered (.obj members) = .obj (orderedMembers [] members) := by
  rw [ordered]

theorem orderedItems_eq_map (items : List Json) : orderedItems items = items.map ordered := by
  induction items with
  | nil => rfl
  | cons item rest inductionHypothesis => rw [orderedItems, inductionHypothesis, List.map_cons]

theorem member?_cons (m : String × Json) (rest : List (String × Json)) (name : String) :
    member? (m :: rest) name = if m.1 = name then some m.2 else member? rest name := by
  by_cases same : m.1 = name
  · simp [member?, same]
  · simp [member?, same]

/-- A member that is put in is found, and the others as before. -/
theorem member?_insertMember (name other : String) (v : Json) (members : List (String × Json)) :
    member? (insertMember name v members) other =
      if name = other then some v else member? members other := by
  induction members with
  | nil => rw [insertMember, member?_cons]
  | cons m rest inductionHypothesis =>
    rw [insertMember]
    by_cases smaller : name < m.1
    · rw [if_pos smaller, member?_cons]
    rw [if_neg smaller]
    by_cases same : name = m.1
    · rw [if_pos same, member?_cons, member?_cons, same]
      split <;> rfl
    rw [if_neg same, member?_cons, member?_cons, inductionHypothesis]
    by_cases found : m.1 = other
    · rw [if_pos found, if_pos found, if_neg (found ▸ same)]
    · rw [if_neg found, if_neg found]

/-- Ordering changes where a member stands, not what is found under its name. -/
theorem member?_orderedMembers {members : List (String × Json)}
    (distinct : (members.map Prod.fst).Nodup) (done : List (String × Json)) (name : String) :
    member? (orderedMembers done members) name =
      ((member? members name).map ordered).or (member? done name) := by
  induction members generalizing done with
  | nil => rfl
  | cons m rest inductionHypothesis =>
    obtain ⟨fresh, distinct⟩ := List.nodup_cons.1 distinct
    rw [orderedMembers, inductionHypothesis distinct, member?_insertMember, member?_cons]
    by_cases same : m.1 = name
    · have absent : member? rest name = none := by
        rw [member?, Option.map_eq_none_iff, List.find?_eq_none]
        intro other member equal
        exact fresh (List.mem_map.2 ⟨other, member, (beq_iff_eq.1 equal).trans same.symm⟩)
      rw [if_pos same, if_pos same, absent]
      rfl
    · rw [if_neg same, if_neg same]

/-- What is found under a name in an ordered object is the ordered value. -/
theorem get_ordered {members : List (String × Json)} (distinct : (members.map Prod.fst).Nodup)
    (name : String) :
    (ordered (.obj members)).get name = ((Json.obj members).get name).ordered := by
  rw [ordered_obj, get, get, member?_orderedMembers distinct]
  cases member? members name <;> rfl

theorem member?_of_mem {members : List (String × Json)} (distinct : (members.map Prod.fst).Nodup)
    {m : String × Json} (member : m ∈ members) : member? members m.1 = some m.2 := by
  induction members with
  | nil => cases member
  | cons first rest inductionHypothesis =>
    obtain ⟨fresh, distinct⟩ := List.nodup_cons.1 distinct
    rw [member?_cons]
    rcases List.mem_cons.1 member with rfl | later
    · rw [if_pos rfl]
    · have other : first.1 ≠ m.1 := fun same => fresh (same ▸ List.mem_map_of_mem later)
      rw [if_neg other, inductionHypothesis distinct later]

/-- The fields of a record are found wherever they stand. -/
theorem fields?_ordered (required : Nat) (names : List String) {members : List (String × Json)}
    (named : members.map Prod.fst = names) (distinct : names.Nodup) :
    fields? required names (ordered (.obj members)) =
      some (members.map fun m => some m.2.ordered) := by
  subst named
  rw [ordered_obj, fields?, List.map_map]
  refine congrArg some (List.map_congr_left fun m member => ?_)
  rw [Function.comp_apply, member?_orderedMembers distinct, member?_of_mem distinct member]
  rfl

/-! ### White space -/

theorem skipSpace_cons {c : Char} (visible : isSpace c = false) (rest : List Char) :
    skipSpace (c :: rest) = c :: rest := by
  rw [skipSpace, List.dropWhile_cons, if_neg (by rw [visible]; exact Bool.false_ne_true)]

theorem skipSpace_skipSpace (input : List Char) : skipSpace (skipSpace input) = skipSpace input :=
  List.dropWhile_idempotent isSpace input

/-- A line break with its indent is white space. -/
theorem skipSpace_newline (level : Nat) (rest : List Char) :
    skipSpace ((newline level).toList ++ rest) = skipSpace rest := by
  have spaces (n : Nat) : skipSpace (List.replicate n ' ' ++ rest) = skipSpace rest := by
    induction n with
    | zero => rfl
    | succ n inductionHypothesis => exact inductionHypothesis
  simp only [newline, String.toList_append, String.toList_ofList]
  exact spaces (2 * level)

/-! ### Strings -/

/-- The digits of a control character are read back. -/
theorem hexValue?_hexDigit {n : Nat} (small : n < 32) :
    hexValue? (hexDigit (n / 16)) = some (n / 16) ∧ hexValue? (hexDigit n) = some (n % 16) := by
  have each : ∀ n < 32, hexValue? (hexDigit (n / 16)) = some (n / 16) ∧
      hexValue? (hexDigit n) = some (n % 16) := by decide
  exact each n small

/-- A control character is spelled by its number. -/
theorem escape?_code {c : Char} (control : c.toNat < 32) (rest : List Char) :
    escape? ('u' :: '0' :: '0' :: hexDigit (c.toNat / 16) :: hexDigit c.toNat :: rest) =
      some (c, rest) := by
  obtain ⟨high, low⟩ := hexValue?_hexDigit control
  have zero : hexValue? '0' = some 0 := by decide
  have spelled : (0 * 16 + 0) * 16 + c.toNat / 16 = c.toNat / 16 := by omega
  have value : c.toNat / 16 * 16 + c.toNat % 16 = c.toNat := Nat.div_add_mod' c.toNat 16
  simp only [escape?, hexQuad?, zero, high, low, Option.bind_eq_bind, Option.bind_some, spelled,
    value]
  rw [if_neg, if_neg, Char.ofNat_toNat]
  · simp; omega
  · simp; omega

/-- An escaped character is read as the character. -/
theorem stringChars_escapeChar (fuel : Nat) (done rest : List Char) (c : Char) :
    stringChars (fuel + 1) done (escapeChar c ++ rest) = stringChars fuel (c :: done) rest := by
  by_cases quote : c = '\x22'
  · subst c
    rfl
  by_cases backslash : c = '\x5c'
  · subst c
    rfl
  rw [escapeChar, if_neg quote, if_neg backslash]
  iterate 5
    split
    · subst c
      rfl
  split
  next control =>
    simp only [List.cons_append, List.nil_append]
    rw [stringChars, if_neg (by decide), if_pos rfl, escape?_code control, Option.bind_some]
  next visible =>
    rw [List.singleton_append, stringChars, if_neg quote, if_neg backslash, if_neg visible]

/-- Escaped characters up to the closing quote are read as the characters. -/
theorem stringChars_escaped (chars done rest : List Char) {fuel : Nat}
    (enough : chars.length < fuel) :
    stringChars fuel done (chars.flatMap escapeChar ++ '\x22' :: rest) =
      some (done.reverse ++ chars, rest) := by
  induction chars generalizing done fuel with
  | nil =>
    obtain ⟨fuel, rfl⟩ := Nat.exists_eq_add_one_of_ne_zero (Nat.ne_of_gt enough)
    rw [List.flatMap_nil, List.nil_append, stringChars, if_pos rfl, List.append_nil]
  | cons c chars inductionHypothesis =>
    obtain ⟨fuel, rfl⟩ := Nat.exists_eq_add_one_of_ne_zero (Nat.ne_of_gt (Nat.zero_lt_of_lt enough))
    rw [List.flatMap_cons, List.append_assoc, stringChars_escapeChar,
      inductionHypothesis _ (Nat.lt_of_succ_lt_succ enough), List.reverse_cons, List.append_assoc]
    rfl

theorem toList_writeString (s : String) :
    (writeString s).toList = '\x22' :: (s.toList.flatMap escapeChar ++ ['\x22']) := by
  rw [writeString, String.toList_ofList]

theorem length_le_writeString (s : String) : s.toList.length ≤ (writeString s).toList.length := by
  have escaped (chars : List Char) : chars.length ≤ (chars.flatMap escapeChar).length := by
    induction chars with
    | nil => exact Nat.le_refl 0
    | cons c chars inductionHypothesis =>
      have some : 0 < (escapeChar c).length := by
        unfold escapeChar
        repeat' split
        all_goals exact Nat.zero_lt_succ _
      rw [List.flatMap_cons, List.length_append, List.length_cons]
      omega
  have inside := escaped s.toList
  simp only [toList_writeString, List.length_cons, List.length_append]
  omega

/-- A written string is read back, whatever follows it. -/
theorem readString_writeString {limit : Nat} {s : String} (enough : s.toList.length ≤ limit)
    (rest : List Char) :
    ∃ text, (writeString s).toList ++ rest = '\x22' :: text ∧
      readString limit text = some (s, rest) := by
  refine ⟨s.toList.flatMap escapeChar ++ '\x22' :: rest, ?_, ?_⟩
  · rw [toList_writeString, List.cons_append, List.append_assoc, List.singleton_append]
  · rw [readString, stringChars_escaped _ _ _ (Nat.lt_succ_of_le enough), Option.map_some]
    simp only [List.reverse_nil, List.nil_append, String.ofList_toList]

/-! ### Numbers -/

/-- A number that stands before this text ends there. -/
def EndsNumber (rest : List Char) : Prop :=
  ∀ c ∈ rest.head?, c.isDigit = false ∧ c ≠ '.' ∧ c ≠ 'e' ∧ c ≠ 'E'

/-- Digits are read up to the end of the number. -/
theorem takeDigits_append {digits rest : List Char} (all : ∀ c ∈ digits, c.isDigit)
    (ends : EndsNumber rest) (value count : Nat)
    (small : natOnDigits value digits < 0x10000000000000000) :
    takeDigits value count (digits ++ rest) =
      (natOnDigits value digits, count + digits.length, rest) := by
  induction digits generalizing value count with
  | nil =>
    cases rest with
    | nil => rfl
    | cons c rest =>
      have stop := (ends c rfl).1
      simp [takeDigits, stop, natOnDigits]
  | cons c digits inductionHypothesis =>
    have next := le_natOnDigits (value * 10 + (c.toNat - 48)) digits
    rw [List.cons_append, takeDigits, if_pos (all c List.mem_cons_self)]
    dsimp only
    rw [if_pos (Nat.lt_of_le_of_lt next small),
      inductionHypothesis (fun d member => all d (List.mem_cons_of_mem c member)) _ _ small,
      List.length_cons, Nat.add_assoc, Nat.add_comm 1]
    rfl

theorem skipDigits_of_ends {rest : List Char} (ends : EndsNumber rest) :
    skipDigits rest = (0, rest) := by
  cases rest with
  | nil => rfl
  | cons c rest =>
    have stop := (ends c rfl).1
    simp [skipDigits, stop]

/-- A number is read by its digits, and what follows them decides whether it is whole. -/
theorem readNumber_toDigits (negative : Bool) {n : Nat} (small : n < 0x10000000000000000)
    {rest : List Char} (ends : EndsNumber rest) :
    readNumber negative (Nat.toDigits 10 n ++ rest) = readFraction negative n 0 rest := by
  by_cases zero : n = 0
  · subst zero
    cases rest with
    | nil => rfl
    | cons c rest =>
      show (if c.isDigit then none else readFraction negative 0 0 (c :: rest)) = _
      rw [if_neg (Bool.eq_false_iff.1 (ends c rfl).1)]
  · have leading := head?_toDigits (Nat.pos_of_ne_zero zero)
    have spelled := natOfDigits_toDigits n
    have all : ∀ c ∈ Nat.toDigits 10 n, c.isDigit := fun c member => isDigit_of_mem_toDigits member
    have taken := takeDigits_append all ends 0 0 (by rwa [← natOfDigits_toDigits n] at small)
    cases digits : Nat.toDigits 10 n with
    | nil => exact absurd digits Nat.toDigits_ne_nil
    | cons d ds =>
      rw [digits] at leading spelled all taken
      unfold readNumber
      split
      next equation => exact absurd (congrArg List.head? equation) leading
      next equation =>
        cases equation
        rw [if_pos (all d List.mem_cons_self), taken]
        dsimp only
        rw [skipDigits_of_ends ends]
        exact congrArg (readFraction negative · 0 rest) spelled
      next equation => cases equation

/-- A number without a fraction is whole. -/
theorem readFraction_of_ends {rest : List Char} (ends : EndsNumber rest) (negative : Bool)
    {n : Nat} (kept : negative = true → 0 < n ∧ n ≤ 0x8000000000000000) :
    readFraction negative n 0 rest = some (.int (if negative then -n else n), rest) := by
  unfold readFraction
  split
  next equation => exact absurd rfl (ends '.' rfl).2.1
  next c rest _ =>
    obtain ⟨-, -, e, E⟩ := ends c rfl
    cases negative with
    | false => simp [e, E]
    | true => simp [e, E, kept rfl]
  next =>
    cases negative with
    | false => rfl
    | true => simp [kept rfl]

/-- A whole number of the machine is read back. -/
theorem readValue_int (limit depth : Nat) {n : Int} (lower : -0x8000000000000000 ≤ n)
    (upper : n < 0x10000000000000000) {rest : List Char} (ends : EndsNumber rest) :
    readValue limit depth ((toString n).toList ++ rest) = some (.int n, rest) := by
  have small : n.natAbs < 0x10000000000000000 := by omega
  rw [toList_toString_int]
  by_cases negative : n < 0
  · have value : -(n.natAbs : Int) = n := by omega
    rw [if_pos negative, List.singleton_append, List.cons_append, readValue,
      readNumber_toDigits true small ends, readFraction_of_ends ends true (fun _ => by omega),
      if_pos rfl, value]
  · have value : (n.natAbs : Int) = n := by omega
    have digit : ∀ c ∈ Nat.toDigits 10 n.natAbs, c.isDigit := fun c => isDigit_of_mem_toDigits
    have number : readNumber false (Nat.toDigits 10 n.natAbs ++ rest) = some (.int n, rest) := by
      rw [readNumber_toDigits false small ends, readFraction_of_ends ends false nofun,
        if_neg Bool.false_ne_true, value]
    rw [if_neg negative, List.nil_append]
    cases digits : Nat.toDigits 10 n.natAbs with
    | nil => exact absurd digits Nat.toDigits_ne_nil
    | cons d ds =>
      rw [digits] at digit number
      have first := digit d List.mem_cons_self
      unfold readValue
      split
      all_goals first
        | exact number
        | (next equation =>
            rw [List.cons_append, List.cons.injEq] at equation
            rw [equation.1] at first
            exact absurd first (by decide))

/-! ### Values -/

/-- A value starts neither with white space nor with a closing bracket. -/
theorem start_of_readValue {limit depth : Nat} {input : List Char} {answer : Json × List Char}
    (accepted : readValue limit depth input = some answer) :
    skipSpace input = input ∧ ∀ rest, input ≠ ']' :: rest := by
  have refused (c : Char) (rest : List Char) (other : isSpace c ∨ c = ']') :
      readValue limit depth (c :: rest) = none := by
    have cases : c = ' ' ∨ c = '\n' ∨ c = '\t' ∨ c = '\r' ∨ c = ']' := by
      simpa [isSpace, or_assoc] using other
    obtain rfl | rfl | rfl | rfl | rfl := cases <;> cases depth <;> rfl
  cases input with
  | nil => exact ⟨rfl, nofun⟩
  | cons c rest =>
    constructor
    · refine skipSpace_cons (Bool.eq_false_iff.2 fun space => ?_) rest
      rw [refused c rest (.inl space)] at accepted
      cases accepted
    · rintro _ ⟨⟩
      rw [refused _ _ (.inr rfl)] at accepted
      cases accepted

theorem endsNumber_newline (level : Nat) (rest : List Char) :
    EndsNumber ((newline level).toList ++ rest) := by
  rw [newline, String.toList_append, List.append_assoc]
  rintro c ⟨⟩
  decide

theorem endsNumber_comma (rest : List Char) : EndsNumber (',' :: rest) := by
  rintro c ⟨⟩
  decide

/-- An array is read by its items, one level deeper. -/
theorem readValue_array {limit depth : Nat} {input rest : List Char} {items : List Json}
    (accepted : readItems (readValue limit (depth + 1)) (limit + 1) [] input =
      some (items, rest)) :
    readValue limit (depth + 2) ('[' :: input) = some (.arr items, rest) := by
  have inside : readItems (readValue limit (depth + 1)) (limit + 1) [] (skipSpace input) =
      some (items, rest) := by
    rw [readItems] at accepted ⊢
    rwa [skipSpace_skipSpace]
  rw [readItems, Option.bind_eq_bind, Option.bind_eq_some_iff] at accepted
  obtain ⟨_, first, -⟩ := accepted
  rw [readValue, if_neg (Nat.succ_ne_zero depth)]
  split
  next rest' equation => exact absurd equation ((start_of_readValue first).2 rest')
  next => rw [inside, Option.map_some]

/-- An object is read by its members, one level deeper. -/
theorem readValue_object {limit depth : Nat} {input rest : List Char}
    {members : List (String × Json)}
    (accepted : readMembers limit (readValue limit (depth + 1)) (limit + 1) [] input =
      some (members, rest)) :
    readValue limit (depth + 2) ('\x7b' :: input) = some (.obj members, rest) := by
  have inside : readMembers limit (readValue limit (depth + 1)) (limit + 1) [] (skipSpace input) =
      some (members, rest) := by
    rw [readMembers] at accepted ⊢
    rwa [skipSpace_skipSpace]
  rw [readMembers, Option.bind_eq_bind, Option.bind_eq_some_iff] at accepted
  obtain ⟨_, first, -⟩ := accepted
  rw [readValue, if_neg (Nat.succ_ne_zero depth)]
  split
  next rest' equation =>
    rw [equation] at first
    cases first
  next => rw [inside, Option.map_some]

section Lines

variable {limit fuel level : Nat} {value : List Char → Option (Json × List Char)} {item : Json}
  {text after more : List Char} (read : value text = some (item, after))
  (start : skipSpace text = text)
include read start

/-- After an item and a comma the next item is read. -/
theorem readItems_comma (done : List Json) (comma : skipSpace after = ',' :: more) :
    readItems value (fuel + 1) done ((newline level).toList ++ text) =
      readItems value fuel (item :: done) more := by
  rw [readItems, skipSpace_newline, start, read, Option.bind_eq_bind, Option.bind_some]
  simp only [comma]

/-- After an item and the closing bracket the array ends. -/
theorem readItems_last (done : List Json) (last : skipSpace after = ']' :: more) :
    readItems value (fuel + 1) done ((newline level).toList ++ text) =
      some (done.reverse ++ [item], more) := by
  rw [readItems, skipSpace_newline, start, read, Option.bind_eq_bind, Option.bind_some]
  simp only [last, List.reverse_cons]

variable {name : String} (enough : name.toList.length ≤ limit)
include enough

/-- After a member and a comma the next member is read. -/
theorem readMembers_comma (done : List (String × Json)) (comma : skipSpace after = ',' :: more) :
    readMembers limit value (fuel + 1) done
        ((newline level).toList ++ ((writeString name).toList ++ (':' :: ' ' :: text))) =
      readMembers limit value fuel (insertMember name item done) more := by
  obtain ⟨quoted, written, readName⟩ := readString_writeString enough (':' :: ' ' :: text)
  have space : skipSpace (' ' :: text) = text := start
  rw [readMembers, skipSpace_newline, written, skipSpace_cons rfl]
  simp only [expect, if_true, Option.bind_eq_bind, Option.bind_some, readName,
    skipSpace_cons (c := ':') rfl, space, read, comma]

/-- After a member and the closing brace the object ends. -/
theorem readMembers_last (done : List (String × Json)) (last : skipSpace after = '\x7d' :: more) :
    readMembers limit value (fuel + 1) done
        ((newline level).toList ++ ((writeString name).toList ++ (':' :: ' ' :: text))) =
      some (insertMember name item done, more) := by
  obtain ⟨quoted, written, readName⟩ := readString_writeString enough (':' :: ' ' :: text)
  have space : skipSpace (' ' :: text) = text := start
  rw [readMembers, skipSpace_newline, written, skipSpace_cons rfl]
  simp only [expect, if_true, Option.bind_eq_bind, Option.bind_some, readName,
    skipSpace_cons (c := ':') rfl, space, read, last]

end Lines

/-- The value is read back wherever its laid out text stands, if the limit allows for the text. -/
def ReadBack (limit depth level : Nat) (v : Json) : Prop :=
  ∀ rest, EndsNumber rest → (prettyAt level v).toList.length ≤ limit →
    readValue limit (depth + 1) ((prettyAt level v).toList ++ rest) = some (ordered v, rest)

theorem toList_prettyItems_singleton (level : Nat) (item : Json) :
    (prettyItems level [item]).toList = (newline level).toList ++ (prettyAt level item).toList := by
  rw [prettyItems, String.toList_append]

theorem toList_prettyItems_cons (level : Nat) (item next : Json) (items : List Json) :
    (prettyItems level (item :: next :: items)).toList = (newline level).toList ++
      ((prettyAt level item).toList ++ ',' :: (prettyItems level (next :: items)).toList) := by
  rw [prettyItems]
  · simp only [String.toList_append, List.append_assoc]
    rfl
  · exact nofun

/-- The items of a written array are read back, by induction on their number. -/
theorem readItems_prettyItems {limit depth level outer : Nat} {rest : List Char} {item : Json}
    {items : List Json} (each : ∀ v ∈ item :: items, ReadBack limit depth level v)
    (done : List Json) {fuel : Nat}
    (enough : (prettyItems level (item :: items)).toList.length ≤ limit)
    (fuelled : (prettyItems level (item :: items)).toList.length < fuel) :
    readItems (readValue limit (depth + 1)) fuel done
        ((prettyItems level (item :: items)).toList ++ ((newline outer).toList ++ ']' :: rest)) =
      some (done.reverse ++ orderedItems (item :: items), rest) := by
  obtain ⟨fuel, rfl⟩ := Nat.exists_eq_add_one_of_ne_zero (Nat.ne_zero_of_lt fuelled)
  obtain ⟨first, others⟩ := List.forall_mem_cons.1 each
  induction items generalizing item fuel done with
  | nil =>
    rw [toList_prettyItems_singleton] at enough ⊢
    rw [List.length_append] at enough
    have read := first _ (endsNumber_newline outer (']' :: rest)) (by omega)
    have closed := (skipSpace_newline outer (']' :: rest)).trans (skipSpace_cons rfl rest)
    rw [List.append_assoc, readItems_last read (start_of_readValue read).1 done closed]
    rfl
  | cons next items inductionHypothesis =>
    rw [toList_prettyItems_cons] at enough fuelled ⊢
    simp only [List.length_append, List.length_cons] at enough fuelled
    simp only [List.append_assoc, List.cons_append]
    have read := first _ (endsNumber_comma ((prettyItems level (next :: items)).toList ++
      ((newline outer).toList ++ ']' :: rest))) (by omega)
    obtain ⟨fuel, rfl⟩ := Nat.exists_eq_add_one_of_ne_zero (n := fuel) (by omega)
    have following := inductionHypothesis others (ordered item :: done) (by omega) fuel
      (by omega) (others next List.mem_cons_self) (List.forall_mem_cons.1 others).2
    rw [readItems_comma read (start_of_readValue read).1 done (skipSpace_cons rfl _), following,
      List.reverse_cons, List.append_assoc]
    rfl

theorem toList_prettyMembers_singleton (level : Nat) (name : String) (v : Json) :
    (prettyMembers level [(name, v)]).toList = (newline level).toList ++
      ((writeString name).toList ++ (':' :: ' ' :: (prettyAt level v).toList)) := by
  rw [prettyMembers]
  simp only [String.toList_append, List.append_assoc]
  rfl

theorem toList_prettyMembers_cons (level : Nat) (name : String) (v : Json)
    (next : String × Json) (members : List (String × Json)) :
    (prettyMembers level ((name, v) :: next :: members)).toList = (newline level).toList ++
      ((writeString name).toList ++ (':' :: ' ' :: ((prettyAt level v).toList ++
        ',' :: (prettyMembers level (next :: members)).toList))) := by
  rw [prettyMembers]
  · simp only [String.toList_append, List.append_assoc]
    rfl
  · exact nofun

/-- The members of a written object are read back in order, by induction on their number. -/
theorem readMembers_prettyMembers {limit depth level outer : Nat} {rest : List Char}
    {member : String × Json} {members : List (String × Json)}
    (each : ∀ m ∈ member :: members, ReadBack limit depth level m.2)
    {fuel : Nat} {done : List (String × Json)}
    (enough : (prettyMembers level (member :: members)).toList.length ≤ limit)
    (fuelled : (prettyMembers level (member :: members)).toList.length < fuel) :
    readMembers limit (readValue limit (depth + 1)) fuel done
        ((prettyMembers level (member :: members)).toList ++
          ((newline outer).toList ++ '\x7d' :: rest)) =
      some (orderedMembers done (member :: members), rest) := by
  obtain ⟨fuel, rfl⟩ := Nat.exists_eq_add_one_of_ne_zero (Nat.ne_zero_of_lt fuelled)
  obtain ⟨name, v⟩ := member
  have short := length_le_writeString name
  have first : ReadBack limit depth level v := each (name, v) List.mem_cons_self
  have others := (List.forall_mem_cons.1 each).2
  induction members generalizing name v fuel done with
  | nil =>
    rw [toList_prettyMembers_singleton] at enough ⊢
    simp only [List.length_append, List.length_cons] at enough
    simp only [List.append_assoc, List.cons_append]
    have read := first _ (endsNumber_newline outer ('\x7d' :: rest)) (by omega)
    have closed := (skipSpace_newline outer ('\x7d' :: rest)).trans (skipSpace_cons rfl rest)
    rw [readMembers_last read (start_of_readValue read).1 (by omega) done closed]
    rfl
  | cons next members inductionHypothesis =>
    obtain ⟨nextName, nextValue⟩ := next
    rw [toList_prettyMembers_cons] at enough fuelled ⊢
    simp only [List.length_append, List.length_cons] at enough fuelled
    simp only [List.append_assoc, List.cons_append]
    have read := first _ (endsNumber_comma
      ((prettyMembers level ((nextName, nextValue) :: members)).toList ++
        ((newline outer).toList ++ '\x7d' :: rest))) (by omega)
    obtain ⟨fuel, rfl⟩ := Nat.exists_eq_add_one_of_ne_zero (n := fuel) (by omega)
    rw [readMembers_comma read (start_of_readValue read).1 (by omega) done (skipSpace_cons rfl _)]
    exact inductionHypothesis fuel nextName nextValue others (by omega) (by omega)
      (length_le_writeString nextName) (others (nextName, nextValue) List.mem_cons_self)
      (List.forall_mem_cons.1 others).2

theorem readBack_str (s : String) (limit depth level : Nat) :
    ReadBack limit depth level (.str s) := by
  intro rest _ enough
  rw [prettyAt] at enough ⊢
  obtain ⟨text, written, read⟩ :=
    readString_writeString (Nat.le_trans (length_le_writeString s) enough) rest
  rw [written, readValue, read]
  rfl

/-- An array is read back if its items are. -/
theorem readBack_arr {limit depth level : Nat} {items : List Json}
    (each : ∀ v ∈ items, ReadBack limit depth (level + 1) v) :
    ReadBack limit (depth + 1) level (.arr items) := by
  intro rest _ enough
  cases items with
  | nil =>
    rw [prettyAt]
    rfl
  | cons item items =>
    simp only [prettyAt, String.toList_append, List.length_append, List.append_assoc] at enough ⊢
    exact readValue_array (readItems_prettyItems each [] (by omega) (by omega))

/-- An object is read back if its members are. -/
theorem readBack_obj {limit depth level : Nat} {members : List (String × Json)}
    (each : ∀ m ∈ members, ReadBack limit depth (level + 1) m.2) :
    ReadBack limit (depth + 1) level (.obj members) := by
  intro rest _ enough
  cases members with
  | nil =>
    rw [prettyAt]
    rfl
  | cons member members =>
    simp only [prettyAt, String.toList_append, List.length_append, List.append_assoc] at enough ⊢
    exact readValue_object (readMembers_prettyMembers each (by omega) (by omega))

/-- A plain value is read back at any level. -/
theorem readBack_of_plain {depth : Nat} {v : Json} (plain : Plain depth v) (limit level : Nat) :
    ReadBack limit depth level v := by
  induction depth, v using Plain.induct generalizing level with
  | case1 depth => exact fun rest _ _ => by rw [prettyAt]; rfl
  | case2 depth b => exact fun rest _ _ => by cases b <;> rw [prettyAt] <;> rfl
  | case3 depth n =>
    intro rest ends _
    rw [Plain] at plain
    rw [prettyAt]
    exact readValue_int limit _ plain.1 plain.2 ends
  | case4 | case6 | case8 =>
    rw [Plain] at plain
    exact plain.elim
  | case5 depth s => exact readBack_str s limit depth level
  | case7 depth items inductionHypothesis =>
    exact readBack_arr fun v member => inductionHypothesis v (plain v member) (level + 1)
  | case9 depth members inductionHypothesis =>
    exact readBack_obj fun m member => inductionHypothesis m (plain m member) (level + 1)

/-- A plain value that is laid out with a line break behind it is read back. -/
theorem parse_pretty {v : Json} (plain : Plain 127 v) :
    parse (v.pretty ++ "\n") = some v.ordered := by
  have ends : EndsNumber ['\n'] := by
    rintro c ⟨⟩
    decide
  have read := readBack_of_plain plain (v.pretty ++ "\n").toList.length 0 ['\n'] ends (by
    rw [pretty, String.toList_append, List.length_append]
    exact Nat.le_add_right _ _)
  have text : (v.pretty ++ "\n").toList = (prettyAt 0 v).toList ++ ['\n'] := String.toList_append
  rw [text] at read
  rw [parse, text, (start_of_readValue read).1, read]
  rfl

end ParamChain.Json
