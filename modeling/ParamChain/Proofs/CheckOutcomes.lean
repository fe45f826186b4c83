import Mathlib.Algebra.BigOperators.Group.List.Basic
import Mathlib.Algebra.GroupWithZero.Nat
import Mathlib.Logic.Relation
import Mathlib.Order.Nat
import ParamChain.Check
import ParamChain.Proofs.IndexLookup
import ParamChain.Proofs.KeyedSort

/-
This file proves what a check adds to the analysis of its units, which is nothing but their order.

Units are analyzed at the same time and end in any order. What has ended is collected with the
number of its unit, so at the end the results have come in as some permutation of what analyzing
one unit after another gives, and every permutation can come about. The numbers are distinct, hence
sorting by them leaves one list only, and the diagnostics, the counts and the report are those of
an analysis without any concurrency.

Neither do roots depend on each other. Each root is walked, read and grouped by itself, with one
reader, and the units of all roots follow one another; so a check of some roots and then of others
comes to what the two checks come to, one after the other.
-/

namespace ParamChain

open Report

/-! ### Units under way -/

namespace Check

/-- A check under way: the units whose analysis has not ended, each with its number, and the
results that have come in. -/
structure Pool where
  pending : List (Nat × SourceUnit)
  collected : List (Nat × List Diagnostic)

namespace Pool

/-- The result of a unit that is under way. -/
def resultOf (a : Analyzer) (task : Nat × SourceUnit) : Nat × List Diagnostic :=
  (task.1, a.run task.2)

/-- All units with their numbers, and no results. -/
def start (units : List SourceUnit) : Pool :=
  ⟨(List.range units.length).zip units, []⟩

/-- Any unit under way can be the next whose analysis ends. -/
inductive Step (a : Analyzer) : Pool → Pool → Prop
  | finish (before after : List (Nat × SourceUnit)) (task : Nat × SourceUnit)
      (collected : List (Nat × List Diagnostic)) :
    Step a ⟨before ++ task :: after, collected⟩
      ⟨before ++ after, collected ++ [resultOf a task]⟩

/-- The results that have come in and those that will. -/
def allResults (a : Analyzer) (p : Pool) : List (Nat × List Diagnostic) :=
  p.collected ++ p.pending.map (resultOf a)

theorem Step.allResults_perm {a : Analyzer} {p q : Pool} (step : Step a p q) :
    (q.allResults a).Perm (p.allResults a) := by
  obtain ⟨before, after, task, collected⟩ := step
  simp only [allResults, List.map_append, List.map_cons, List.append_assoc, List.singleton_append]
  exact List.Perm.append_left _ List.perm_middle.symm

theorem allResults_start (a : Analyzer) (units : List SourceUnit) :
    (start units).allResults a = results a units := by
  rw [results, List.zip_map_right]
  rfl

/-- What comes in and what will come in is settled from the start. -/
theorem allResults_perm {a : Analyzer} {p q : Pool}
    (run : Relation.ReflTransGen (Step a) p q) : (q.allResults a).Perm (p.allResults a) := by
  induction run with
  | refl => exact List.Perm.refl _
  | tail _ step inductionHypothesis => exact step.allResults_perm.trans inductionHypothesis

/-- The units under way can end in any order. -/
theorem exists_run {a : Analyzer} {pending : List (Nat × SourceUnit)}
    {order : List (Nat × List Diagnostic)} (anyOrder : order.Perm (pending.map (resultOf a)))
    (collected : List (Nat × List Diagnostic)) :
    Relation.ReflTransGen (Step a) ⟨pending, collected⟩ ⟨[], collected ++ order⟩ := by
  induction order generalizing pending collected with
  | nil =>
    have none : pending = [] := List.map_eq_nil_iff.1 (List.nil_perm.1 anyOrder)
    rw [none, List.append_nil]
  | cons result rest inductionHypothesis =>
    have expected : result ∈ pending.map (resultOf a) := anyOrder.subset List.mem_cons_self
    obtain ⟨task, isPending, rfl⟩ := List.mem_map.1 expected
    obtain ⟨before, after, rfl⟩ := List.append_of_mem isPending
    have others : rest.Perm ((before ++ after).map (resultOf a)) := by
      rw [List.map_append, List.map_cons] at anyOrder
      rw [List.map_append]
      exact (anyOrder.trans List.perm_middle).cons_inv
    have run := inductionHypothesis others (collected ++ [resultOf a task])
    rw [List.append_assoc] at run
    exact .head (.finish before after task collected) run

end Pool

/-- The results of the units can come in as the given list. -/
def Collects (a : Analyzer) (units : List SourceUnit)
    (completed : List (Nat × List Diagnostic)) : Prop :=
  Relation.ReflTransGen (Pool.Step a) (Pool.start units) ⟨[], completed⟩

/-- The results can come in in any order, and nothing else can come in. -/
theorem collects_iff_perm {a : Analyzer} {units : List SourceUnit}
    {completed : List (Nat × List Diagnostic)} :
    Collects a units completed ↔ completed.Perm (results a units) := by
  constructor
  · intro run
    have settled := Pool.allResults_perm run
    rw [Pool.allResults_start, Pool.allResults, List.map_nil, List.append_nil] at settled
    exact settled
  · intro anyOrder
    rw [← Pool.allResults_start] at anyOrder
    exact Pool.exists_run anyOrder []

/-! ### Results in the order of the units -/

theorem map_fst_results (a : Analyzer) (units : List SourceUnit) :
    (results a units).map Prod.fst = List.range units.length :=
  List.map_fst_zip (by simp)

theorem map_snd_results (a : Analyzer) (units : List SourceUnit) :
    (results a units).map Prod.snd = units.map a.run :=
  List.map_snd_zip (by simp)

theorem results_ascending (a : Analyzer) (units : List SourceUnit) :
    (results a units).Pairwise fun first second => first.1 < second.1 := by
  rw [← List.pairwise_map (f := Prod.fst), map_fst_results]
  exact List.pairwise_lt_range

/-- Whatever the order in which the results came in, they are gathered in the order of the
units. -/
theorem gather_eq {a : Analyzer} {units : List SourceUnit}
    {completed : List (Nat × List Diagnostic)} (anyOrder : completed.Perm (results a units)) :
    gather completed = units.flatMap a.run := by
  have byNumber : SortsBy (fun result : Nat × List Diagnostic => result.1)
      fun first second => decide (first.1 ≤ second.1) :=
    fun first second => decide_eq_true_iff
  have distinct := (results_ascending a units).imp fun {_ _} before => ne_of_lt before
  have inOrder : (results a units).mergeSort (fun first second => decide (first.1 ≤ second.1)) =
      results a units :=
    List.mergeSort_of_pairwise
      ((results_ascending a units).imp fun {_ _} before => decide_eq_true (le_of_lt before))
  rw [gather, ← byNumber.mergeSort_eq_of_perm anyOrder.symm distinct, inOrder,
    List.flatMap_def, map_snd_results, ← List.flatMap_def]

/-- The outcome is that of analyzing one unit after another. -/
theorem outcomeOf_eq {a : Analyzer} {units : List SourceUnit}
    {completed : List (Nat × List Diagnostic)} (anyOrder : completed.Perm (results a units))
    (format : Format) : outcomeOf units completed format = outcome a units format := by
  rw [outcome, outcomeOf, outcomeOf, gather_eq anyOrder, gather_eq (List.Perm.refl _)]

theorem files_summarize (units : List SourceUnit) (diagnostics : List Diagnostic) :
    (summarize units diagnostics).files = (units.map fun u => u.files.length).sum := by
  rw [List.sum_eq_foldr, List.foldr_map]
  rfl

end Check

open Check

/-- The order in which the analyses of the units end does not show. Their results can come in as
any permutation and as nothing else, and from each the diagnostics are those of the units one
after another, the counts are the number of units, of their files and of the diagnostics, and the
report is the one of these. -/
theorem outcome_any_order (a : Analyzer) (units : List SourceUnit) (format : Format)
    (completed : List (Nat × List Diagnostic)) :
    (Collects a units completed ↔ completed.Perm (results a units)) ∧
      (completed.Perm (results a units) →
        let diagnostics := units.flatMap a.run
        let summary : Summary :=
          ⟨units.length, (units.map fun u => u.files.length).sum, diagnostics.length⟩
        outcomeOf units completed format =
            ⟨diagnostics, summary, render diagnostics summary format⟩ ∧
          outcomeOf units completed format = outcome a units format) := by
  refine ⟨collects_iff_perm, fun anyOrder => ⟨?_, outcomeOf_eq anyOrder format⟩⟩
  have counts : summarize units (units.flatMap a.run) =
      ⟨units.length, (units.map fun u => u.files.length).sum, (units.flatMap a.run).length⟩ := by
    rw [← files_summarize units (units.flatMap a.run)]
    rfl
  rw [outcomeOf, gather_eq anyOrder, ← counts]

/-- Two packages, in each of which one function hands its three parameters on. -/
def handingOn : List SourceUnit :=
  let unit (package caller callee : String) : SourceUnit :=
    ⟨"go", package, some package,
      [⟨caller ++ ".go", "go", some package, [Chain.threeInts caller [callee] 1]⟩,
        ⟨callee ++ ".go", "go", some package, [Chain.threeInts callee [] 1]⟩]⟩
  [unit "disk" "open" "seek", unit "net" "dial" "bind"]

/-- The second package can come in first and is reported second nonetheless. -/
theorem handingOn_reversed :
    let a : Analyzer := ⟨2, 10⟩
    let reversed := (results a handingOn).reverse
    reversed.map Prod.fst = [1, 0] ∧ Collects a handingOn reversed ∧
      (outcomeOf handingOn reversed .text).summary = ⟨2, 4, 2⟩ ∧
      (outcomeOf handingOn reversed .text).diagnostics.map Diagnostic.callStack =
        [["open", "seek"], ["dial", "bind"]] := by
  intro a reversed
  have anyOrder : reversed.Perm (results a handingOn) := List.reverse_perm _
  obtain ⟨collects, outcome⟩ := outcome_any_order a handingOn .text reversed
  rw [(outcome anyOrder).1]
  exact ⟨by decide +kernel, collects.2 anyOrder, by decide +kernel, by decide +kernel⟩

/-! ### Roots one after another -/

/-- A computation in two steps succeeds when both steps do. -/
theorem bind_eq_ok {Error First Second : Type} {first : Except Error First}
    {second : First → Except Error Second} {result : Second} :
    (first >>= second) = .ok result ↔ ∃ value, first = .ok value ∧ second value = .ok result := by
  cases first with
  | error e => simp [bind, Except.bind]
  | ok value => simp [bind, Except.bind]

theorem unitsOf_eq_ok {reader : SourceReader} {tree : Files.FileTree} {roots : List String}
    {units : List SourceUnit} :
    unitsOf reader tree roots = .ok units ↔
      ∃ parts, roots.mapM (unitsUnder reader tree) = .ok parts ∧ parts.flatten = units := by
  rw [unitsOf, bind_eq_ok]
  simp only [pure, Except.pure, Except.ok.injEq]

/-- The units under some roots and then others can be read when those under the ones and under the
others can, and follow one another. -/
theorem unitsOf_append {reader : SourceReader} {tree : Files.FileTree}
    {first second : List String} {units : List SourceUnit} :
    unitsOf reader tree (first ++ second) = .ok units ↔
      ∃ us vs, unitsOf reader tree first = .ok us ∧ unitsOf reader tree second = .ok vs ∧
        us ++ vs = units := by
  simp only [unitsOf_eq_ok, List.mapM_append, bind_eq_ok, pure, Except.pure, Except.ok.injEq]
  constructor
  · rintro ⟨_, ⟨ps, readFirst, qs, readSecond, rfl⟩, rfl⟩
    exact ⟨ps.flatten, qs.flatten, ⟨ps, readFirst, rfl⟩, ⟨qs, readSecond, rfl⟩,
      List.flatten_append.symm⟩
  · rintro ⟨_, _, ⟨ps, readFirst, rfl⟩, ⟨qs, readSecond, rfl⟩, rfl⟩
    exact ⟨ps ++ qs, ⟨ps, readFirst, qs, readSecond, rfl⟩, List.flatten_append⟩

theorem summarize_append (us vs : List SourceUnit) (first second : List Diagnostic) :
    summarize (us ++ vs) (first ++ second) =
      ⟨(summarize us first).units + (summarize vs second).units,
        (summarize us first).files + (summarize vs second).files,
        (summarize us first).diagnostics + (summarize vs second).diagnostics⟩ := by
  have files : (summarize (us ++ vs) (first ++ second)).files =
      (summarize us first).files + (summarize vs second).files := by
    rw [files_summarize, files_summarize, files_summarize, List.map_append, List.sum_append]
  rw [← files]
  simp only [summarize, List.length_append]

/-- The outcome for units one after another, in parts. -/
theorem outcome_append (a : Analyzer) (us vs : List SourceUnit) (format : Format) :
    let o := outcome a (us ++ vs) format
    let p := outcome a us format
    let q := outcome a vs format
    o.diagnostics = p.diagnostics ++ q.diagnostics ∧
      o.summary = ⟨p.summary.units + q.summary.units, p.summary.files + q.summary.files,
        p.summary.diagnostics + q.summary.diagnostics⟩ ∧
      (format = .text → o.rendered = p.rendered ++ q.rendered) := by
  have found : gather (results a (us ++ vs)) =
      gather (results a us) ++ gather (results a vs) := by
    simp only [gather_eq (List.Perm.refl _), List.flatMap_append]
  refine ⟨found, ?_, ?_⟩
  · rw [outcome, outcomeOf, found]
    exact summarize_append us vs _ _
  · rintro rfl
    simp only [outcome, outcomeOf, found, render, List.map_append, String.join_append]

/-- What a check needs besides its units. -/
structure Check.Setup where
  settings : Settings
  reader : SourceReader
  format : Format

/-- The setup is the one of the configuration and options, whatever the roots, with patterns
understood as the matcher has them. -/
structure Check.Setup.Fits (setup : Setup) (config : Config) (options : CheckOptions)
    (matcher : Pattern.Matcher) : Prop where
  settings : Check.settings config options = .ok setup.settings
  reader : SourceReader.ofConfig config.parsing config.project matcher = .ok setup.reader
  format : Check.format config options = .ok setup.format

variable {matcher : Pattern.Matcher}

theorem Check.Setup.Fits.unique {setup setup' : Setup} {config : Config} {options : CheckOptions}
    (fits : setup.Fits config options matcher) (fits' : setup'.Fits config options matcher) :
    setup = setup' := by
  obtain ⟨settings, reader, format⟩ := setup
  obtain ⟨settings', reader', format'⟩ := setup'
  obtain rfl : settings = settings' := Except.ok.inj (fits.settings.symm.trans fits'.settings)
  obtain rfl : reader = reader' := Except.ok.inj (fits.reader.symm.trans fits'.reader)
  obtain rfl : format = format' := Except.ok.inj (fits.format.symm.trans fits'.format)
  rfl

/-- A check succeeds when there is a setup and all sources can be read with it, and comes to the
outcome of these. -/
theorem check_eq_ok_iff {tree : Files.FileTree} {config : Config} {options : CheckOptions}
    {o : CheckOutcome} :
    check tree config options matcher = .ok o ↔
      ∃ setup units, Setup.Fits setup config options matcher ∧
        unitsOf setup.reader tree (roots config options) = .ok units ∧
        outcome (.ofSettings setup.settings) units setup.format = o := by
  simp only [check, bind_eq_ok, pure, Except.pure, Except.ok.injEq]
  constructor
  · rintro ⟨settings, isSettings, reader, isReader, units, read, format, isFormat, result⟩
    exact ⟨⟨settings, reader, format⟩, units, ⟨isSettings, isReader, isFormat⟩, read, result⟩
  · rintro ⟨setup, units, fits, read, result⟩
    exact ⟨_, fits.settings, _, fits.reader, units, read, _, fits.format, result⟩

/-- Where roots are given, the setup is that of the other options. -/
theorem check_eq_ok {tree : Files.FileTree} {config : Config} {options : CheckOptions}
    {paths : List String} (nonempty : paths ≠ []) {o : CheckOutcome} :
    check tree config { options with paths } matcher = .ok o ↔
      ∃ setup units, Setup.Fits setup config options matcher ∧
        unitsOf setup.reader tree paths = .ok units ∧
        outcome (.ofSettings setup.settings) units setup.format = o := by
  have given : roots config { options with paths } = paths := by
    rw [roots, if_neg (by simpa using nonempty)]
  rw [check_eq_ok_iff, given]
  constructor
  · rintro ⟨setup, units, fits, rest⟩
    exact ⟨setup, units, ⟨fits.settings, fits.reader, fits.format⟩, rest⟩
  · rintro ⟨setup, units, fits, rest⟩
    exact ⟨setup, units, ⟨fits.settings, fits.reader, fits.format⟩, rest⟩

/-- A check of some roots and then others has the units of both, one after the other. -/
theorem check_append_eq_ok {tree : Files.FileTree} {config : Config} {options : CheckOptions}
    {first second : List String} (someFirst : first ≠ []) {o : CheckOutcome} :
    check tree config { options with paths := first ++ second } matcher = .ok o ↔
      ∃ setup us vs, Setup.Fits setup config options matcher ∧
        unitsOf setup.reader tree first = .ok us ∧ unitsOf setup.reader tree second = .ok vs ∧
        outcome (.ofSettings setup.settings) (us ++ vs) setup.format = o := by
  rw [check_eq_ok (List.append_ne_nil_of_left_ne_nil someFirst second)]
  constructor
  · rintro ⟨setup, units, fits, read, result⟩
    obtain ⟨us, vs, readFirst, readSecond, rfl⟩ := unitsOf_append.1 read
    exact ⟨setup, us, vs, fits, readFirst, readSecond, result⟩
  · rintro ⟨setup, us, vs, fits, readFirst, readSecond, result⟩
    exact ⟨setup, us ++ vs, fits, unitsOf_append.2 ⟨us, vs, readFirst, readSecond, rfl⟩, result⟩

/-- A check of some roots and then others succeeds when the checks of the ones and of the others
do, and it finds what the two find, one after the other; its counts are their sums, and in text
its report is theirs, one after the other. This holds whatever matches the patterns of the
configuration. -/
theorem check_append (tree : Files.FileTree) (config : Config) (options : CheckOptions)
    (matcher : Pattern.Matcher) {first second : List String} (someFirst : first ≠ [])
    (someSecond : second ≠ []) :
    let checked (paths : List String) := check tree config { options with paths } matcher
    ((∃ o, checked (first ++ second) = .ok o) ↔
        (∃ p, checked first = .ok p) ∧ ∃ q, checked second = .ok q) ∧
      ∀ o p q, checked (first ++ second) = .ok o → checked first = .ok p →
        checked second = .ok q →
          o.diagnostics = p.diagnostics ++ q.diagnostics ∧
            o.summary = ⟨p.summary.units + q.summary.units, p.summary.files + q.summary.files,
              p.summary.diagnostics + q.summary.diagnostics⟩ ∧
            (Check.format config options = .ok .text → o.rendered = p.rendered ++ q.rendered) := by
  simp only [check_append_eq_ok someFirst, check_eq_ok someFirst, check_eq_ok someSecond]
  constructor
  · constructor
    · rintro ⟨_, setup, us, vs, fits, readFirst, readSecond, -⟩
      exact ⟨⟨_, setup, us, fits, readFirst, rfl⟩, _, setup, vs, fits, readSecond, rfl⟩
    · rintro ⟨⟨_, setup, us, fits, readFirst, -⟩, _, setup', vs, fits', readSecond, -⟩
      obtain rfl := fits.unique fits'
      exact ⟨_, setup, us, vs, fits, readFirst, readSecond, rfl⟩
  · rintro _ _ _ ⟨setup, us, vs, fits, readFirst, readSecond, rfl⟩
      ⟨setup', us', fits', readFirst', rfl⟩ ⟨setup'', vs', fits'', readSecond', rfl⟩
    obtain rfl := fits.unique fits'
    obtain rfl := fits.unique fits''
    obtain rfl : us = us' := Except.ok.inj (readFirst.symm.trans readFirst')
    obtain rfl : vs = vs' := Except.ok.inj (readSecond.symm.trans readSecond')
    obtain ⟨found, counted, written⟩ :=
      outcome_append (.ofSettings setup.settings) us vs setup.format
    refine ⟨found, counted, fun isText => written ?_⟩
    exact Except.ok.inj (fits.format.symm.trans isText)

/-- A Go package and a Rust file under two roots. -/
def twoRoots : Files.FileTree :=
  let source (text : String) : Files.Entry := .file text.toUTF8
  ⟨[("disk", .directory [("io.go",
      source "package disk\nfunc open(x, y, z int) { seek(x, y, z) }\nfunc seek(x, y, z int) {}")]),
    ("net", .directory [("io.rs",
      source "fn dial(x: u8, y: u8, z: u8) { bind(x, y, z) }\nfn bind(x: u8, y: u8, z: u8) {}")])],
    []⟩

theorem exists_ok_of_toOption {Error Value View : Type} {result : Except Error Value}
    {view : Value → View} {seen : View} (shown : result.toOption.map view = some seen) :
    ∃ value, result = .ok value ∧ view value = seen := by
  cases result with
  | error e => cases shown
  | ok value => exact ⟨value, rfl, Option.some.inj shown⟩

/-- What the two roots give on their own stands one after the other in the report on both. -/
theorem twoRoots_checked :
    let checked (paths : List String) := check twoRoots .standard ⟨paths, none, none, none, none⟩
    let view (o : CheckOutcome) := (o.diagnostics.map Diagnostic.callStack, o.summary)
    ∃ o p q, checked ["disk", "net"] = .ok o ∧ checked ["disk"] = .ok p ∧ checked ["net"] = .ok q ∧
      view p = ([["open", "seek"]], ⟨1, 1, 1⟩) ∧ view q = ([["dial", "bind"]], ⟨1, 1, 1⟩) ∧
      view o = ([["open", "seek"], ["dial", "bind"]], ⟨2, 2, 2⟩) ∧
      o.rendered = p.rendered ++ q.rendered := by
  intro checked view
  have first : (checked ["disk"]).toOption.map view = some ([["open", "seek"]], ⟨1, 1, 1⟩) := by
    decide +kernel
  have second : (checked ["net"]).toOption.map view = some ([["dial", "bind"]], ⟨1, 1, 1⟩) := by
    decide +kernel
  obtain ⟨p, checkedFirst, viewFirst⟩ := exists_ok_of_toOption first
  obtain ⟨q, checkedSecond, viewSecond⟩ := exists_ok_of_toOption second
  have appended := check_append twoRoots .standard ⟨[], none, none, none, none⟩ Pattern.matcher
    (List.cons_ne_nil "disk" []) (List.cons_ne_nil "net" [])
  obtain ⟨o, checkedBoth⟩ := appended.1.2 ⟨⟨p, checkedFirst⟩, q, checkedSecond⟩
  obtain ⟨found, counted, written⟩ := appended.2 o p q checkedBoth checkedFirst checkedSecond
  refine ⟨o, p, q, checkedBoth, checkedFirst, checkedSecond, viewFirst, viewSecond, ?_,
    written (by decide +kernel)⟩
  obtain ⟨stackFirst, countsFirst⟩ := Prod.mk.inj viewFirst
  obtain ⟨stackSecond, countsSecond⟩ := Prod.mk.inj viewSecond
  simp only [view, found, counted, List.map_append, stackFirst, stackSecond, countsFirst,
    countsSecond, List.singleton_append]

end ParamChain
