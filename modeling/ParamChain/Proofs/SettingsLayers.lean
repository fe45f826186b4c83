import ParamChain.Proofs.CheckOutcomes
import ParamChain.Proofs.JsonForms

/-
This file says which value of a setting counts when settings come in layers.

The last layer that sets a value decides, and only then does it matter whether the value is
positive. So zero in a later layer is not the same as nothing: it hides what earlier layers set, and
the default takes its place. A JSON value sets what its members say in whole numbers and nothing
else; it is refused as soon as one of the two members says anything but a number of the right size
or `null`. A check has three layers, of which such a value is the second.
-/

namespace ParamChain

open Json

/-! ### One setting -/

/-- The settings, one by one. -/
inductive Setting where
  | minRequiredParams
  | maxRecursionDepth

namespace Setting

/-- The member of a JSON object that sets it. -/
def name : Setting → String
  | minRequiredParams => "min_required_params"
  | maxRecursionDepth => "max_recursion_depth"

/-- The value where none is set. -/
def fallback : Setting → Nat
  | minRequiredParams => 2
  | maxRecursionDepth => 10

/-- What settings set it to. -/
def given : Setting → Settings → Option Int
  | minRequiredParams => Settings.minRequiredParams
  | maxRecursionDepth => Settings.maxRecursionDepth

/-- The value that settings come to. -/
def effective : Setting → Settings → Nat
  | minRequiredParams => Settings.minimum
  | maxRecursionDepth => Settings.ceiling

/-- The JSON value sets it to a whole number. -/
def SetBy (f : Setting) (v : Json) (n : Int) : Prop :=
  ∃ members, v = .obj members ∧ member? members f.name = some (.int n)

/-- The JSON value says something about it that is neither `null` nor a whole number in sixty-four
bits with a sign. -/
def MissetBy (f : Setting) (v : Json) : Prop :=
  ∃ members w, v = .obj members ∧ member? members f.name = some w ∧ w ≠ .null ∧
    ∀ n, w = .int n → ¬ (-2 ^ 63 ≤ n ∧ n < 2 ^ 63)

theorem effective_eq (f : Setting) (s : Settings) :
    f.effective s = Settings.positiveOr f.fallback (f.given s) := by
  cases f <;> rfl

end Setting

/-! ### Settings in a JSON value -/

namespace Settings

theorem fits_iff {n : Int} : fits n = true ↔ -2 ^ 63 ≤ n ∧ n < 2 ^ 63 := by
  rw [fits, Bool.and_eq_true, decide_eq_true_iff, decide_eq_true_iff]
  omega

theorem readNumber_eq_ok_iff {w : Json} {number : Option Int} :
    readNumber w = .ok number ↔
      (w = .null ∧ number = none) ∨ ∃ n, w = .int n ∧ fits n ∧ number = some n := by
  cases w with
  | null =>
    constructor
    · exact fun accepted => Or.inl ⟨rfl, (Except.ok.inj accepted).symm⟩
    · rintro (⟨-, rfl⟩ | ⟨n, ⟨⟩, -⟩)
      rfl
  | int n =>
    rw [readNumber]
    constructor
    · intro accepted
      split at accepted
      next small => exact Or.inr ⟨n, rfl, small, (Except.ok.inj accepted).symm⟩
      next => cases accepted
    · rintro (⟨⟨⟩, -⟩ | ⟨m, ⟨⟩, small, rfl⟩)
      rw [if_pos small]
  | bool | float | str | arr | obj => simp [readNumber]

/-- The member for a setting can be read unless it says the wrong thing. -/
theorem exists_readMember_iff {members : List (String × Json)} (f : Setting) :
    (∃ number, readMember members f.name = .ok number) ↔ ¬ f.MissetBy (.obj members) := by
  rw [readMember]
  cases found : member? members f.name with
  | none =>
    refine ⟨fun _ => ?_, fun _ => ⟨none, rfl⟩⟩
    rintro ⟨members', w, ⟨⟩, said, -⟩
    rw [found] at said
    cases said
  | some w =>
    simp only [readNumber_eq_ok_iff]
    constructor
    · rintro ⟨number, accepted⟩ ⟨members', w', ⟨⟩, said, notNull, tooLarge⟩
      obtain rfl : w = w' := Option.some.inj (found.symm.trans said)
      rcases accepted with ⟨isNull, -⟩ | ⟨n, isNumber, small, -⟩
      · exact notNull isNull
      · exact tooLarge n isNumber (fits_iff.1 small)
    · intro wellSet
      by_contra refused
      refine wellSet ⟨members, w, rfl, found, fun isNull => ?_, fun n isNumber small => ?_⟩
      · exact refused ⟨none, Or.inl ⟨isNull, rfl⟩⟩
      · exact refused ⟨some n, Or.inr ⟨n, isNumber, fits_iff.2 small, rfl⟩⟩

/-- What can be read of a member is the number that it says. -/
theorem eq_some_iff_of_readMember {members : List (String × Json)} {f : Setting}
    {number : Option Int} (accepted : readMember members f.name = .ok number) (n : Int) :
    number = some n ↔ f.SetBy (.obj members) n := by
  have said : f.SetBy (.obj members) n ↔ member? members f.name = some (.int n) := by
    constructor
    · rintro ⟨members', ⟨⟩, found⟩
      exact found
    · exact fun found => ⟨members, rfl, found⟩
  rw [said]
  rw [readMember] at accepted
  cases found : member? members f.name with
  | none =>
    rw [found] at accepted
    cases accepted
    exact ⟨nofun, nofun⟩
  | some w =>
    rw [found] at accepted
    rcases readNumber_eq_ok_iff.1 accepted with ⟨rfl, rfl⟩ | ⟨m, rfl, -, rfl⟩
    · exact ⟨nofun, nofun⟩
    · simp

theorem ofJson_obj_eq_ok_iff {members : List (String × Json)} {s : Settings} :
    ofJson (.obj members) = .ok s ↔ ∀ f : Setting, readMember members f.name = .ok (f.given s) := by
  have each : (∀ f : Setting, readMember members f.name = .ok (f.given s)) ↔
      readMember members "min_required_params" = .ok s.minRequiredParams ∧
        readMember members "max_recursion_depth" = .ok s.maxRecursionDepth :=
    ⟨fun all => ⟨all .minRequiredParams, all .maxRecursionDepth⟩, fun both f => by
      cases f
      · exact both.1
      · exact both.2⟩
  have both : ofMembers members = .ok s ↔
      ∃ depth, readMember members "max_recursion_depth" = .ok depth ∧
        ∃ params, readMember members "min_required_params" = .ok params ∧
          (⟨params, depth⟩ : Settings) = s := by
    simp only [ofMembers, bind_eq_ok, pure, Except.pure, Except.ok.injEq]
  have same : ofJson (.obj members) = .ok s ↔ ofMembers members = .ok s := by
    rw [ofJson]
    split
    next settings isRead => rw [isRead, Except.ok.injEq, Except.ok.injEq]
    next reason isRefused =>
      refine ⟨nofun, fun isRead => ?_⟩
      rw [isRead] at isRefused
      cases isRefused
  rw [each, same, both]
  constructor
  · rintro ⟨depth, readDepth, params, readParams, rfl⟩
    exact ⟨readParams, readDepth⟩
  · rintro ⟨readParams, readDepth⟩
    exact ⟨_, readDepth, _, readParams, rfl⟩

theorem ofJson_of_not_obj {v : Json} (noObject : ∀ members, v ≠ .obj members) :
    ofJson v = .ok unset := by
  rw [ofJson]
  exact noObject

theorem exists_ofJson_obj_iff {members : List (String × Json)} :
    (∃ s, ofJson (.obj members) = .ok s) ↔ ∀ f : Setting, ¬ f.MissetBy (.obj members) := by
  simp only [ofJson_obj_eq_ok_iff, ← exists_readMember_iff]
  constructor
  · rintro ⟨s, all⟩ f
    exact ⟨f.given s, all f⟩
  · intro all
    obtain ⟨params, readParams⟩ := all .minRequiredParams
    obtain ⟨depth, readDepth⟩ := all .maxRecursionDepth
    refine ⟨⟨params, depth⟩, fun f => ?_⟩
    cases f with
    | minRequiredParams => exact readParams
    | maxRecursionDepth => exact readDepth

/-- A JSON value is refused when it says the wrong thing about a setting. -/
theorem exists_fault_iff (v : Json) :
    (∃ fault, ofJson v = .error fault) ↔ ∃ f : Setting, f.MissetBy v := by
  have refused : (∃ fault, ofJson v = .error fault) ↔ ¬ ∃ s, ofJson v = .ok s := by
    cases ofJson v <;> simp
  rw [refused]
  by_cases isObject : ∃ members, v = .obj members
  · obtain ⟨members, rfl⟩ := isObject
    rw [exists_ofJson_obj_iff, not_forall_not]
  · have accepted := ofJson_of_not_obj fun members same => isObject ⟨members, same⟩
    refine ⟨fun missing => absurd ⟨unset, accepted⟩ missing, ?_⟩
    rintro ⟨f, members, w, isObj, -⟩
    exact absurd ⟨members, isObj⟩ isObject

/-- A JSON value that is not refused sets what it says. -/
theorem given_iff_of_ofJson {v : Json} {s : Settings} (accepted : ofJson v = .ok s) (f : Setting)
    (n : Int) : f.given s = some n ↔ f.SetBy v n := by
  by_cases isObject : ∃ members, v = .obj members
  · obtain ⟨members, rfl⟩ := isObject
    exact eq_some_iff_of_readMember (ofJson_obj_eq_ok_iff.1 accepted f) n
  · rw [ofJson_of_not_obj fun members same => isObject ⟨members, same⟩] at accepted
    cases accepted
    refine ⟨fun isSet => ?_, ?_⟩
    · cases f <;> cases isSet
    · rintro ⟨members, isObj, -⟩
      exact absurd ⟨members, isObj⟩ isObject

theorem fits_of_ofJson {v : Json} {s : Settings} (accepted : ofJson v = .ok s) : s.Fits := by
  have wellSet : ∀ (f : Setting) n, f.given s = some n → fits n := by
    intro f n isSet
    obtain ⟨members, isObject, found⟩ := (given_iff_of_ofJson accepted f n).1 isSet
    by_contra tooLarge
    rw [fits_iff] at tooLarge
    obtain ⟨fault, refused⟩ := (exists_fault_iff v).2
      ⟨f, members, .int n, isObject, found, nofun, fun m same => Json.int.inj same ▸ tooLarge⟩
    rw [accepted] at refused
    cases refused
  exact ⟨wellSet .minRequiredParams, wellSet .maxRecursionDepth⟩

/-! ### Layers -/

/-- The settings under further layers, each over those before it. -/
def under (start : Settings) (layers : List Settings) : Settings :=
  layers.foldl (fun s layer => s.overlay layer.minRequiredParams layer.maxRecursionDepth) start

theorem given_overlay (f : Setting) (s layer : Settings) :
    f.given (s.overlay layer.minRequiredParams layer.maxRecursionDepth) =
      (f.given layer).or (f.given s) := by
  cases f <;> rfl

/-- The value that counts is found by going through the layers from the last. -/
theorem given_under (f : Setting) (start : Settings) (layers : List Settings) :
    f.given (start.under layers) = (start :: layers).reverse.findSome? f.given := by
  induction layers using List.reverseRecOn with
  | nil =>
    rw [List.reverse_singleton, List.findSome?_singleton]
    rfl
  | append_singleton layers layer inductionHypothesis =>
    rw [under, List.foldl_concat, given_overlay, ← under, inductionHypothesis, ← List.cons_append,
      List.reverse_append, List.reverse_singleton, List.singleton_append, List.findSome?_cons]
    cases f.given layer <;> rfl

end Settings

/-- The number is the one that the last of the layers which set it says. -/
def Setting.LastSet (f : Setting) (layers : List Settings) (n : Int) : Prop :=
  ∃ before layer after, layers = before ++ layer :: after ∧ f.given layer = some n ∧
    ∀ later ∈ after, f.given later = none

theorem Setting.lastSet_iff {f : Setting} {layers : List Settings} {n : Int} :
    f.LastSet layers n ↔ layers.reverse.findSome? f.given = some n := by
  rw [List.findSome?_eq_some_iff]
  constructor
  · rintro ⟨before, layer, after, rfl, isSet, unset⟩
    refine ⟨after.reverse, layer, before.reverse, by simp, isSet, fun later member => ?_⟩
    exact unset later (List.mem_reverse.1 member)
  · rintro ⟨after, layer, before, split, isSet, unset⟩
    refine ⟨before.reverse, layer, after.reverse, ?_, isSet, fun later member => ?_⟩
    · rw [← List.reverse_reverse layers, split]
      simp
    · exact unset later (List.mem_reverse.1 member)

variable {f : Setting} {start : Settings} {layers : List Settings}

theorem effective_of_lastSet {n : Int} (last : f.LastSet (start :: layers) n) :
    (f.effective (start.under layers) : Int) = if 0 < n then n else (f.fallback : Int) := by
  rw [f.effective_eq, Settings.given_under, Setting.lastSet_iff.1 last, Settings.positiveOr]
  split
  next positive => exact Int.toNat_of_nonneg (Int.le_of_lt positive)
  next => rfl

theorem effective_of_unset (unset : ∀ layer ∈ start :: layers, f.given layer = none) :
    f.effective (start.under layers) = f.fallback := by
  have nothing : (start :: layers).reverse.findSome? f.given = none :=
    List.findSome?_eq_none_iff.2 fun layer member => unset layer (List.mem_reverse.1 member)
  rw [f.effective_eq, Settings.given_under, nothing, Settings.positiveOr]

theorem Settings.Fits.given {s : Settings} (fits : s.Fits) {n : Int} (isSet : f.given s = some n) :
    n < 2 ^ 63 := by
  cases f with
  | minRequiredParams => exact (fits_iff.1 (fits.minRequiredParams n isSet)).2
  | maxRecursionDepth => exact (fits_iff.1 (fits.maxRecursionDepth n isSet)).2

/-- What settings come to is positive, and fits where all that the layers set does. -/
theorem effective_in_range (fits : ∀ layer ∈ start :: layers, layer.Fits) :
    1 ≤ f.effective (start.under layers) ∧ f.effective (start.under layers) ≤ 2 ^ 63 - 1 := by
  have standard : 1 ≤ f.fallback ∧ f.fallback ≤ 2 ^ 63 - 1 := by
    cases f <;> decide
  rw [f.effective_eq, Settings.given_under]
  cases found : (start :: layers).reverse.findSome? f.given with
  | none => exact standard
  | some n =>
    obtain ⟨layer, member, isSet⟩ := List.exists_of_findSome?_eq_some found
    have small := (fits layer (List.mem_reverse.1 member)).given isSet
    rw [Settings.positiveOr]
    split
    next positive => omega
    next => exact standard

/-! ### The layers of a check -/

/-- The settings that the options give as a JSON value, which are none where there is no value. -/
def CheckOptions.Gives (options : CheckOptions) (given : Settings) : Prop :=
  (options.settings = none ∧ given = Settings.unset) ∨
    ∃ v, options.settings = some v ∧ Settings.ofJson v = .ok given

theorem settings_of_gives {config : Config} {options : CheckOptions} {given : Settings}
    (gives : options.Gives given) :
    Check.settings config options =
      .ok (config.analyzer.under
        [given, ⟨options.minRequiredParams, options.maxRecursionDepth⟩]) := by
  rcases gives with ⟨absent, rfl⟩ | ⟨v, isGiven, accepted⟩
  · rw [Check.settings, absent]
    rfl
  · rw [Check.settings, isGiven]
    simp only [accepted]
    rfl

theorem check_of_refused {tree : Files.FileTree} {config : Config} {options : CheckOptions}
    {matcher : Pattern.Matcher} {v : Json} {fault : Fault} (isGiven : options.settings = some v)
    (refused : Settings.ofJson v = .error fault) :
    check tree config options matcher = .error fault := by
  have noSettings : Check.settings config options = .error fault := by
    rw [Check.settings, isGiven]
    simp only [refused]
    rfl
  rw [check, noSettings]
  rfl

/-- A check analyzes with what its three layers come to. -/
theorem check_eq_ok_of_gives {tree : Files.FileTree} {config : Config} {options : CheckOptions}
    {matcher : Pattern.Matcher} {given : Settings} (gives : options.Gives given)
    {o : CheckOutcome} :
    let layered := config.analyzer.under
      [given, ⟨options.minRequiredParams, options.maxRecursionDepth⟩]
    check tree config options matcher = .ok o ↔
      ∃ reader units format,
        SourceReader.ofConfig config.parsing config.project matcher = .ok reader ∧
        Check.unitsOf reader tree (Check.roots config options) = .ok units ∧
        Check.format config options = .ok format ∧
        o = Check.outcome
          ⟨Setting.minRequiredParams.effective layered, Setting.maxRecursionDepth.effective layered⟩
          units format := by
  intro layered
  have settings : Check.settings config options = .ok layered := settings_of_gives gives
  rw [check_eq_ok_iff]
  constructor
  · rintro ⟨⟨s, reader, format⟩, units, fits, read, rfl⟩
    obtain rfl : s = layered := Except.ok.inj (fits.settings.symm.trans settings)
    exact ⟨reader, units, format, fits.reader, read, fits.format, rfl⟩
  · rintro ⟨reader, units, format, isReader, read, isFormat, rfl⟩
    exact ⟨⟨layered, reader, format⟩, units, ⟨settings, isReader, isFormat⟩, read, rfl⟩

/-- What settings come to. A JSON value is refused when it says the wrong thing about a setting, and
else sets what it says; one that is no object sets nothing. Under any layers the last value that is
set counts if it is positive, and the default otherwise, so a last layer whose value is not positive
brings back the default whatever was set before. A check takes the configuration, the JSON value and
the two single settings as its layers, in this order. -/
theorem settings_in_layers :
    (∀ v : Json, ((∃ fault, Settings.ofJson v = .error fault) ↔ ∃ f : Setting, f.MissetBy v) ∧
      ((∀ members, v ≠ .obj members) → Settings.ofJson v = .ok Settings.unset) ∧
      ∀ s, Settings.ofJson v = .ok s →
        s.Fits ∧ ∀ (f : Setting) (n : Int), f.given s = some n ↔ f.SetBy v n) ∧
    (∀ (f : Setting) (start : Settings) (layers : List Settings),
      (∀ n : Int, f.LastSet (start :: layers) n →
        (f.effective (start.under layers) : Int) = if 0 < n then n else (f.fallback : Int)) ∧
      ((∀ layer ∈ start :: layers, f.given layer = none) →
        f.effective (start.under layers) = f.fallback) ∧
      (∀ (last : Settings) (n : Int), f.given last = some n → n ≤ 0 →
        f.effective (start.under (layers ++ [last])) = f.fallback) ∧
      ((∀ layer ∈ start :: layers, layer.Fits) →
        1 ≤ f.effective (start.under layers) ∧ f.effective (start.under layers) ≤ 2 ^ 63 - 1)) ∧
    ∀ (tree : Files.FileTree) (config : Config) (options : CheckOptions)
        (matcher : Pattern.Matcher),
      (∀ v fault, options.settings = some v → Settings.ofJson v = .error fault →
        check tree config options matcher = .error fault) ∧
      ∀ given, options.Gives given →
        let layered := config.analyzer.under
          [given, ⟨options.minRequiredParams, options.maxRecursionDepth⟩]
        ∀ o, check tree config options matcher = .ok o ↔
          ∃ reader units format,
            SourceReader.ofConfig config.parsing config.project matcher = .ok reader ∧
            Check.unitsOf reader tree (Check.roots config options) = .ok units ∧
            Check.format config options = .ok format ∧
            o = Check.outcome ⟨Setting.minRequiredParams.effective layered,
              Setting.maxRecursionDepth.effective layered⟩ units format := by
  refine ⟨fun v => ⟨Settings.exists_fault_iff v, Settings.ofJson_of_not_obj, fun s accepted => ?_⟩,
    fun f start layers =>
      ⟨fun n => effective_of_lastSet, effective_of_unset, ?_, effective_in_range⟩,
    fun tree config options matcher => ⟨fun v fault => check_of_refused, ?_⟩⟩
  · exact ⟨Settings.fits_of_ofJson accepted, Settings.given_iff_of_ofJson accepted⟩
  · intro last n isSet notPositive
    have decides : f.LastSet (start :: (layers ++ [last])) n :=
      ⟨start :: layers, last, [], rfl, isSet, nofun⟩
    have value := effective_of_lastSet decides
    rw [if_neg (Int.not_lt.2 notPositive)] at value
    exact Int.ofNat.inj value
  · intro given gives layered o
    exact check_eq_ok_of_gives gives

/-- A value that switches the number of parameters back to the default, leaves the depth alone and
says something of its own. -/
def backToDefault : Json :=
  .obj [("max_recursion_depth", .null), ("min_required_params", .int (-1)), ("strict", .bool true)]

/-- Over four parameters and a depth of three, the value gives two parameters and a depth of three,
and a check with all of them analyzes so and finds the functions of three parameters. A text in the
place of the number is refused, and so is every check with it. -/
theorem backToDefault_over_config :
    let config : Config := { Config.standard with analyzer := ⟨some 4, some 3⟩ }
    let given : Settings := ⟨some (-1), none⟩
    let layered := config.analyzer.under [given, .unset]
    let text : Json := .obj [("min_required_params", .str "4")]
    Settings.ofJson backToDefault = .ok given ∧
      Setting.minRequiredParams.effective (config.analyzer.under [given]) = 2 ∧
      (Setting.maxRecursionDepth.effective layered : Int) = 3 ∧
      Setting.maxRecursionDepth.effective (given.under []) = 10 ∧
      (∀ f : Setting, 1 ≤ f.effective layered ∧ f.effective layered ≤ 2 ^ 63 - 1) ∧
      (∃ o units format,
        check twoRoots config ⟨["disk"], none, some backToDefault, none, none⟩ = .ok o ∧
          o.diagnostics.map Report.Diagnostic.callStack = [["open", "seek"]] ∧
          o = Check.outcome ⟨2, 3⟩ units format) ∧
      ∃ fault, Settings.ofJson text = .error fault ∧
        check twoRoots config ⟨["disk"], none, some text, none, none⟩ = .error fault := by
  intro config given layered text
  obtain ⟨values, layers, checks⟩ := settings_in_layers
  have accepted : Settings.ofJson backToDefault = .ok given := by rfl
  have depthLast : Setting.maxRecursionDepth.LastSet [config.analyzer, given, .unset] 3 :=
    ⟨[], config.analyzer, [given, .unset], rfl, rfl, by decide⟩
  have allFit : ∀ layer ∈ [config.analyzer, given, .unset], layer.Fits := by
    rintro layer (_ | ⟨_, _ | ⟨_, _ | ⟨_, ⟨⟩⟩⟩⟩)
    · exact ⟨by decide, by decide⟩
    · exact ((values backToDefault).2.2 given accepted).1
    · exact ⟨nofun, nofun⟩
  let options : CheckOptions := ⟨["disk"], none, some backToDefault, none, none⟩
  have checked : (check twoRoots config options).toOption.map
      (fun o => o.diagnostics.map Report.Diagnostic.callStack) = some [["open", "seek"]] := by
    decide +kernel
  obtain ⟨o, isOk, found⟩ := exists_ok_of_toOption checked
  obtain ⟨reader, units, format, -, -, -, result⟩ :=
    ((checks twoRoots config options Pattern.matcher).2 given
      (Or.inr ⟨backToDefault, rfl, accepted⟩) o).1 isOk
  obtain ⟨fault, refused⟩ := (values text).1.2 ⟨.minRequiredParams, _, _, rfl, rfl, nofun, nofun⟩
  refine ⟨accepted, ?_, ?_, ?_, fun f => ?_, ⟨o, units, format, isOk, found, result⟩, fault,
    refused, ?_⟩
  · exact (layers .minRequiredParams config.analyzer []).2.2.1 given (-1) rfl (by decide)
  · exact (layers .maxRecursionDepth config.analyzer [given, .unset]).1 3 depthLast
  · exact (layers .maxRecursionDepth given []).2.1 (by decide)
  · exact (layers f config.analyzer [given, .unset]).2.2.2 allFit
  · exact (checks twoRoots config _ Pattern.matcher).1 text fault rfl refused

end ParamChain
