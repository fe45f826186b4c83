import ParamChain.Proofs.Arrangement
import ParamChain.Proofs.KeptChains

/-
This file proves that within a unit two findings are never taken for one by their fingerprints,
short of a collision of the digest.

What is digested is one text: the keys of the call stack with arrows between them, a line break and
the arguments with commas between them. Nothing in it is escaped, and a type may well hold arrows,
commas and line breaks. The stack can be read off all the same, as long as no key holds an arrow or
a line break: it ends at the first line break, and a blank, an arrow and a blank stand between two
keys and nowhere else, since the blanks keep the arrow from running into the keys beside it. The
reduction of chains leaves no two with one stack, so the stack alone tells the findings apart.
-/

namespace ParamChain

open Chain Report

/-! ### Reading the stack -/

/-- The pieces between which an arrow stands with a blank on either side. -/
def arrowPieces : List Char → List (List Char)
  | [] => [[]]
  | ' ' :: '-' :: '>' :: ' ' :: rest => [] :: arrowPieces rest
  | c :: rest => (arrowPieces rest).modifyHead (c :: ·)

/-- The call stack in the bytes that a fingerprint is the digest of, if they are text at all. -/
def stackIn? (bytes : List UInt8) : Option (List String) :=
  (String.fromUTF8? bytes.toByteArray).map fun text =>
    (arrowPieces (text.toList.takeWhile (· ≠ '\n'))).map String.ofList

theorem arrowPieces_spaced (rest : List Char) :
    arrowPieces (' ' :: '-' :: '>' :: ' ' :: rest) = [] :: arrowPieces rest := by
  rw [arrowPieces]

theorem arrowPieces_cons (c : Char) {rest : List Char} (noArrow : ¬ ['-', '>'] <+: rest) :
    arrowPieces (c :: rest) = (arrowPieces rest).modifyHead (c :: ·) := by
  rw [arrowPieces]
  rintro after - rfl
  exact noArrow ⟨_, rfl⟩

/-- Behind a character of a key without arrows, no arrow begins before the next blank. -/
theorem not_begins_arrow {c : Char} {key : List Char} (free : ¬ ['-', '>'] <:+: c :: key)
    (rest : List Char) : ¬ ['-', '>'] <+: key ++ ' ' :: rest := by
  match key with
  | [] => simp
  | [d] => simp
  | d :: e :: key =>
    rintro ⟨after, same⟩
    simp only [List.cons_append, List.nil_append, List.cons.injEq] at same
    obtain ⟨rfl, rfl, -⟩ := same
    exact free (arrow_infix_append [c] key)

/-- A key without arrows is one piece. -/
theorem arrowPieces_key {key : List Char} (free : ¬ ['-', '>'] <:+: key) :
    arrowPieces key = [key] := by
  induction key with
  | nil => rfl
  | cons c key inductionHypothesis =>
    have freeRest : ¬ ['-', '>'] <:+: key := fun inside => free (List.infix_cons inside)
    rw [arrowPieces_cons c fun begins => freeRest begins.isInfix, inductionHypothesis freeRest]
    rfl

/-- A key without arrows and the arrow behind it are read as one piece. -/
theorem arrowPieces_append {key : List Char} (free : ¬ ['-', '>'] <:+: key) (rest : List Char) :
    arrowPieces (key ++ ' ' :: '-' :: '>' :: ' ' :: rest) = key :: arrowPieces rest := by
  induction key with
  | nil => exact arrowPieces_spaced rest
  | cons c key inductionHypothesis =>
    have freeRest : ¬ ['-', '>'] <:+: key := fun inside => free (List.infix_cons inside)
    rw [List.cons_append, arrowPieces_cons c (not_begins_arrow free _),
      inductionHypothesis freeRest]
    rfl

theorem toList_join_spaced (key next : String) (keys : List String) :
    (Text.join " -> " (key :: next :: keys)).toList =
      key.toList ++ ' ' :: '-' :: '>' :: ' ' :: (Text.join " -> " (next :: keys)).toList := by
  rw [toList_join_cons]
  exact List.append_assoc _ _ _

/-- Keys without arrows are the pieces of the text that joins them. -/
theorem arrowPieces_join {keys : List String} (nonempty : keys ≠ [])
    (free : ∀ key ∈ keys, ArrowFree key) :
    arrowPieces (Text.join " -> " keys).toList = keys.map String.toList := by
  induction keys with
  | nil => exact absurd rfl nonempty
  | cons key keys inductionHypothesis =>
    have freeKey := free key List.mem_cons_self
    cases keys with
    | nil => exact arrowPieces_key freeKey
    | cons next keys =>
      rw [toList_join_spaced, arrowPieces_append freeKey, inductionHypothesis
        (List.cons_ne_nil _ _) fun k member => free k (List.mem_cons_of_mem _ member)]
      rfl

/-! ### The end of the stack -/

/-- The key stands on one line. -/
def OneLine (key : String) : Prop :=
  '\n' ∉ key.toList

instance (key : String) : Decidable (OneLine key) :=
  inferInstanceAs (Decidable (_ ∉ _))

theorem oneLine_join {keys : List String} (oneLine : ∀ key ∈ keys, OneLine key) :
    OneLine (Text.join " -> " keys) := by
  induction keys with
  | nil => exact List.not_mem_nil
  | cons key keys inductionHypothesis =>
    have oneLineKey := oneLine key List.mem_cons_self
    cases keys with
    | nil => exact oneLineKey
    | cons next keys =>
      have oneLineRest := inductionHypothesis fun k member =>
        oneLine k (List.mem_cons_of_mem _ member)
      unfold OneLine at oneLineKey oneLineRest ⊢
      rw [toList_join_spaced]
      simp [oneLineKey, oneLineRest]

/-- The stack ends where the first line does. -/
theorem takeWhile_fingerprintText {callStack : List String} (arguments : List String)
    (oneLine : ∀ key ∈ callStack, OneLine key) :
    (fingerprintText callStack arguments).toList.takeWhile (· ≠ '\n') =
      (Text.join " -> " callStack).toList := by
  have line : ∀ c ∈ (Text.join " -> " callStack).toList, decide (c ≠ '\n') = true := by
    intro c member
    refine decide_eq_true fun isBreak => oneLine_join oneLine ?_
    rwa [isBreak] at member
  rw [fingerprintText, String.toList_append, String.toList_append, List.append_assoc,
    List.takeWhile_append_of_pos line]
  exact List.append_nil _

/-! ### Bytes -/

theorem toList_loop (bytes : ByteArray) (place : Nat) (before : List UInt8) :
    ByteArray.toList.loop bytes place before = before.reverse ++ bytes.data.toList.drop place := by
  fun_induction ByteArray.toList.loop bytes place before with
  | case1 place before inside inductionHypothesis =>
    have next : bytes.data.toList.drop place =
        bytes.get! place :: bytes.data.toList.drop (place + 1) := by
      rw [List.drop_eq_getElem_cons (by simpa using inside)]
      congr 1
      exact (getElem!_pos bytes.data place inside).symm
    rw [inductionHypothesis, List.reverse_cons, List.append_assoc, next]
    rfl
  | case2 place before outside =>
    rw [List.drop_eq_nil_of_le (by simpa using outside), List.append_nil]

theorem toByteArray_toList (bytes : ByteArray) : bytes.toList.toByteArray = bytes := by
  refine ByteArray.ext (Array.toList_inj.1 ?_)
  rw [List.toList_data_toByteArray]
  exact toList_loop bytes 0 []

theorem fromUTF8?_toUTF8 (text : String) :
    String.fromUTF8? text.toUTF8.toList.toByteArray = some text := by
  rw [toByteArray_toList]
  exact dif_pos text.isValidUTF8

/-- The stack is read off the digested bytes, whatever the arguments are. -/
theorem stackIn?_fingerprintText {callStack : List String} (arguments : List String)
    (nonempty : callStack ≠ []) (free : ∀ key ∈ callStack, ArrowFree key)
    (oneLine : ∀ key ∈ callStack, OneLine key) :
    stackIn? (fingerprintText callStack arguments).toUTF8.toList = some callStack := by
  rw [stackIn?, fromUTF8?_toUTF8, Option.map_some, takeWhile_fingerprintText arguments oneLine,
    arrowPieces_join nonempty free, List.map_map]
  refine congrArg some ((List.map_congr_left fun key _ => ?_).trans (List.map_id callStack))
  exact String.ofList_toList

/-! ### Findings of a unit -/

/-- The bytes that the fingerprint of a diagnostic is the digest of. -/
def Report.Diagnostic.digested (d : Diagnostic) : List UInt8 :=
  (fingerprintText d.callStack d.arguments).toUTF8.toList

/-- Every finding is that of a chain that the search finds. -/
theorem exists_chain_of_mem_run {a : Analyzer} {unit : SourceUnit} {d : Diagnostic}
    (reported : d ∈ a.run unit) :
    ∃ c ∈ exploreAll (Index.build unit.declarations a.minimum) a.ceiling,
      Diagnostic.ofChain c = d := by
  rw [Analyzer.run_eq] at reported
  obtain ⟨c, isKept, rfl⟩ := List.mem_map.1 reported
  exact ⟨c, mem_of_mem_reduceChains isKept, rfl⟩

/-- No two findings of a unit have one stack. -/
theorem run_pairwise_callStack (a : Analyzer) (unit : SourceUnit) :
    (a.run unit).Pairwise fun d e => d.callStack ≠ e.callStack := by
  rw [Analyzer.run_eq, List.pairwise_map]
  exact (reduceChains_pairwise _).imp fun uncovered same =>
    uncovered (Or.inr (congrArg (Text.join "->") same))

/-- Where no eligible key holds an arrow or a line break, the fingerprint of a finding is the digest
of bytes from which its stack can be read, and no two findings of the unit have the same bytes. -/
theorem digested_tells_findings_apart (a : Analyzer) (unit : SourceUnit)
    (free : ∀ d ∈ eligible unit.declarations a.minimum, ArrowFree (declKey d))
    (oneLine : ∀ d ∈ eligible unit.declarations a.minimum, OneLine (declKey d)) :
    (∀ d ∈ a.run unit,
        d.fingerprint = Digest.sha256Bytes d.digested ∧ stackIn? d.digested = some d.callStack) ∧
      (a.run unit).Pairwise fun d e => d.digested ≠ e.digested := by
  have readable : ∀ d ∈ a.run unit, stackIn? d.digested = some d.callStack := by
    intro d reported
    obtain ⟨c, found, rfl⟩ := exists_chain_of_mem_run reported
    exact stackIn?_fingerprintText _ (callStack_ne_nil found) (of_mem_callStack free found)
      (of_mem_callStack oneLine found)
  refine ⟨fun d reported => ⟨?_, readable d reported⟩, ?_⟩
  · obtain ⟨c, -, rfl⟩ := exists_chain_of_mem_run reported
    rfl
  · refine (run_pairwise_callStack a unit).imp_of_mem fun {d e} first second different same => ?_
    have both : some d.callStack = some e.callStack := by
      rw [← readable d first, ← readable e second, same]
    exact different (Option.some.inj both)

/-- A function that calls two others. Blanks and halves of arrows stand where keys meet, and the
type of the parameters holds an arrow, a comma and a line break. -/
def spacedKeys : List FunctionDecl :=
  let decl (name : String) (callees : List String) : FunctionDecl :=
    declOf name [⟨["x", "y", "z"], "fn(a, b) -> c\n"⟩] callees 1
  [decl "read -" ["> parse", " skip "], decl "> parse" [], decl " skip " []]

/-- The two findings share their arguments, and are told apart by their stacks. -/
theorem spacedKeys_told_apart :
    let unit := oneFile spacedKeys
    let found := Analyzer.run ⟨2, 10⟩ unit
    (∀ d ∈ eligible unit.declarations 2, ArrowFree (declKey d) ∧ OneLine (declKey d)) ∧
      found.map Diagnostic.callStack = [["read -", "> parse"], ["read -", " skip "]] ∧
      found.map (fun d => stackIn? d.digested) =
        [some ["read -", "> parse"], some ["read -", " skip "]] ∧
      found.Pairwise fun d e => d.digested ≠ e.digested := by
  intro unit found
  have keys : ∀ d ∈ eligible unit.declarations 2, ArrowFree (declKey d) ∧ OneLine (declKey d) := by
    decide +kernel
  have calls : found.map Diagnostic.callStack =
      [["read -", "> parse"], ["read -", " skip "]] := by
    rw [map_callStack_run]
    cbv
  obtain ⟨readable, apart⟩ := digested_tells_findings_apart ⟨2, 10⟩ unit
    (fun d declared => (keys d declared).1) (fun d declared => (keys d declared).2)
  refine ⟨keys, calls, ?_, apart⟩
  calc found.map (fun d => stackIn? d.digested) = found.map (fun d => some d.callStack) :=
        List.map_congr_left fun d reported => (readable d reported).2
    _ = (found.map Diagnostic.callStack).map some := List.map_map.symm
    _ = _ := by rw [calls, List.map_cons, List.map_cons, List.map_nil]

end ParamChain
