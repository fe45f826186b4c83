import ParamChain.Config
import ParamChain.Proofs.JsonText
import ParamChain.Report.Format

/-
This file proves that reading undoes writing for every value that has a JSON form.

Reading accepts more than writing produces: a record may be an array of its fields, an optional
field may be missing, unknown members are passed over, and a choice without content has two forms.
So reading is no inverse of writing on all values. But whatever is read is a value that can be
written, and what is written is read back as the value it came from. A value that has been read and
written once is therefore in the one form that further reading and writing leaves alone.

The numbers of a value have to fit the words they are kept in: counts, lines and columns sixty-four
bits, the two settings sixty-four bits with a sign. Reading yields no other numbers.
-/

namespace ParamChain

open Json

namespace Json

variable {α : Type} {read : Json → Option α} {write : α → Json} {Fits : α → Prop}

/-- A value that fits is read back as it was written. A value that was read, in whatever form, is
read back too, and is written the same ever after. -/
structure Lossless (write : α → Json) (read : Json → Option α) (Fits : α → Prop) : Prop where
  restored : ∀ x, Fits x → read (write x) = some x
  settled : ∀ v x, read v = some x →
    read (write x) = some x ∧ (read (write x)).map write = some (write x)

/-- A form is lossless if what fits is read back and only what fits is accepted. -/
theorem Lossless.of_fits (restored : ∀ {x}, Fits x → read (write x) = some x)
    (fits : ∀ {v x}, read v = some x → Fits x) : Lossless write read Fits where
  restored _ := restored
  settled v x accepted := by
    have back := restored (fits accepted)
    exact ⟨back, by rw [back, Option.map_some]⟩

/-! ### Numbers, lists and fields -/

theorem size?_int {n : Nat} (small : n < 0x10000000000000000) : size? (.int n) = some n := by
  have lower : (0 : Int) ≤ n := Int.natCast_nonneg n
  have upper : (n : Int) < 0x10000000000000000 := by omega
  simp [size?, lower, upper]

/-- A number is accepted only where it fits into the machine word. -/
theorem lt_of_size? {v : Json} {n : Nat} (accepted : size? v = some n) :
    n < 0x10000000000000000 := by
  unfold size? at accepted
  split at accepted
  · simp only [Bool.and_eq_true, decide_eq_true_eq, Option.ite_none_right_eq_some,
      Option.some.injEq] at accepted
    omega
  · cases accepted

/-- A list is read back if each of its items is. -/
theorem list?_written {xs : List α} (each : ∀ x ∈ xs, read (write x) = some x) :
    list? read (.arr (xs.map write)) = some xs := by
  rw [list?]
  induction xs with
  | nil => rfl
  | cons x rest inductionHypothesis =>
    rw [List.map_cons, List.mapM_cons, each x List.mem_cons_self,
      inductionHypothesis fun y member => each y (List.mem_cons_of_mem x member)]
    rfl

theorem list?_ofTexts (texts : List String) : list? text? (ofTexts texts) = some texts :=
  list?_written fun _ _ => rfl

/-- Whatever holds of each accepted item holds of all items of an accepted list. -/
theorem forall_of_list? (fits : ∀ {v x}, read v = some x → Fits x) {v : Json} {xs : List α}
    (accepted : list? read v = some xs) : ∀ x ∈ xs, Fits x := by
  cases v with
  | arr items =>
    rw [list?] at accepted
    induction items generalizing xs with
    | nil =>
      cases accepted
      exact fun x member => absurd member List.not_mem_nil
    | cons v rest inductionHypothesis =>
      simp only [List.mapM_cons, Option.bind_eq_bind, Option.bind_eq_some_iff] at accepted
      obtain ⟨x, first, others, following, ⟨⟩⟩ := accepted
      exact List.forall_mem_cons.2 ⟨fits first, inductionHypothesis following⟩
  | _ => cases accepted

theorem required?_some {v : Json} {x : α} (accepted : read v = some x) :
    required? read (some v) = some x := by
  rw [required?, Option.bind_some, accepted]

/-- A value that may be missing is read back, as nothing that is there is written as nothing. -/
theorem optional?_written {x : Option α} (each : ∀ a ∈ x, read (write a) = some a)
    (content : ∀ a, write a ≠ .null) :
    optional? read (some ((x.map write).getD .null)) = some x := by
  cases x with
  | none => rfl
  | some a =>
    rw [Option.map_some, Option.getD_some, optional?, option?, each a rfl, Option.map_some]
    exact content a

theorem optional?_ofOptionText (text : Option String) :
    optional? text? (some (ofOptionText text)) = some text := by
  cases text <;> rfl

/-! ### Records -/

section Records

variable {β : Type} {item : Option Json → Option α} {others : α → FieldReader β}
  {reader : FieldReader α} {required : Nat} {names : List String} {v : Json}

/-- A value with fields that a reader takes is a form of the record that the reader makes, in
whatever order the fields stand there. -/
theorem record?_of_fields {fields rest : List (Option Json)} {x : α}
    (found : fields? required names v = some fields) (made : reader fields = some (x, rest)) :
    record? required names reader v = some x := by
  simp only [record?, found, Option.bind_eq_bind, Option.bind_some, StateT.run', made]
  rfl

/-- A reader that takes a field goes on with those after it. -/
theorem bind_field {first : Option Json} {rest : List (Option Json)} {a : α}
    {result : Option (β × List (Option Json))} (accepted : item first = some a)
    (following : others a rest = result) : (field item >>= others) (first :: rest) = result := by
  show (field item (first :: rest)).bind (fun taken => others taken.1 taken.2) = result
  rw [field, accepted]
  exact following

/-- All that a reader makes satisfies a condition. -/
def Makes (reader : FieldReader α) (P : α → Prop) : Prop :=
  ∀ fields x rest, reader fields = some (x, rest) → P x

/-- Whatever a reader makes sure of holds of every record that it accepts. -/
theorem Makes.of_record? {P : α → Prop} {x : α} (makes : Makes reader P)
    (accepted : record? required names reader v = some x) : P x := by
  obtain ⟨fields, -, accepted⟩ := Option.bind_eq_some_iff.1 accepted
  obtain ⟨⟨_, rest⟩, made, rfl⟩ := Option.map_eq_some_iff.1 accepted
  exact makes fields _ rest made

theorem Makes.pure {P : α → Prop} {x : α} (holds : P x) : Makes (Pure.pure x) P := by
  rintro fields y rest ⟨⟩
  exact holds

/-- What is known of a field that was read can be used for the record. -/
theorem Makes.known {P : β → Prop} {Q : α → Prop} (each : ∀ {f a}, item f = some a → Q a)
    (following : ∀ a, Q a → Makes (others a) P) : Makes (field item >>= others) P := by
  intro fields x rest made
  obtain ⟨⟨a, left⟩, taken, goesOn⟩ := Option.bind_eq_some_iff.1 made
  cases fields with
  | nil => cases taken
  | cons first fields =>
    obtain ⟨_, accepted, ⟨⟩⟩ := Option.map_eq_some_iff.1 taken
    exact following a (each accepted) _ x rest goesOn

/-- A field of which nothing need be known. -/
theorem Makes.skip {P : β → Prop} (following : ∀ a, Makes (others a) P) :
    Makes (field item >>= others) P :=
  Makes.known (fun _ => trivial) fun a _ => following a

end Records

theorem forall_required? (fits : ∀ {v x}, read v = some x → Fits x) {f : Option Json} {x : α}
    (accepted : required? read f = some x) : Fits x := by
  obtain ⟨_, _, accepted⟩ := Option.bind_eq_some_iff.1 accepted
  exact fits accepted

end Json

/-! ### The source model -/

/-- The line and the column fit sixty-four bits. -/
structure SourcePosition.Fits (p : SourcePosition) : Prop where
  line : p.line < 0x10000000000000000
  column : p.column < 0x10000000000000000

/-- A position is made of its three fields, wherever they are found. -/
theorem SourcePosition.ofJson?_of_fields {p : SourcePosition} (fits : p.Fits) {v : Json}
    (found : fields? 3 ["file", "line", "column"] v =
      some [some (.str p.file), some (.int p.line), some (.int p.column)]) :
    SourcePosition.ofJson? v = some p :=
  record?_of_fields found <| bind_field (required?_some rfl) <|
    bind_field (required?_some (size?_int fits.line)) <|
    bind_field (required?_some (size?_int fits.column)) rfl

theorem SourcePosition.ofJson?_toJson {p : SourcePosition} (fits : p.Fits) :
    SourcePosition.ofJson? p.toJson = some p :=
  ofJson?_of_fields fits rfl

/-- The line and the column of an accepted position fit. -/
theorem SourcePosition.fits_of_ofJson? {v : Json} {p : SourcePosition}
    (accepted : SourcePosition.ofJson? v = some p) : p.Fits := by
  refine Makes.of_record? (.skip fun file => ?_) accepted
  refine .known (forall_required? lt_of_size?) fun line smallLine => ?_
  refine .known (forall_required? lt_of_size?) fun column smallColumn => ?_
  exact .pure ⟨smallLine, smallColumn⟩

/-- Every type is read back, by induction on the pointers in front of it. -/
theorem TypeExpr.ofJson?_toJson (t : TypeExpr) : TypeExpr.ofJson? t.toJson = some t := by
  induction t with
  | named name qualifier => cases qualifier <;> rfl
  | pointer target inductionHypothesis =>
    rw [toJson, ofJson?, if_neg (by decide), if_pos rfl, inductionHypothesis]
    rfl
  | other text => rfl

theorem TypeExpr.toJson_ne_null (t : TypeExpr) : t.toJson ≠ .null := by
  cases t <;> exact nofun

theorem optional?_receiver (receiver : Option TypeExpr) :
    optional? TypeExpr.ofJson? (some ((receiver.map TypeExpr.toJson).getD .null)) =
      some receiver :=
  optional?_written (fun t _ => t.ofJson?_toJson) TypeExpr.toJson_ne_null

/-- Every callee is read back, also one of which nothing is known. -/
theorem Callee.ofJson?_toJson (c : Callee) : Callee.ofJson? c.toJson = some c := by
  cases c with
  | function name => rfl
  | method receiver name =>
    rw [toJson, ofJson?, if_neg (by decide), if_pos rfl]
    · simp only [Option.bind_eq_bind, Option.bind_eq_some_iff]
      exact ⟨_, rfl, receiver, optional?_receiver receiver, name, rfl, rfl⟩
    · exact nofun
  | unresolved => rfl

theorem ParamDecl.ofJson?_toJson (p : ParamDecl) : ParamDecl.ofJson? p.toJson = some p :=
  record?_of_fields rfl <| bind_field (required?_some (list?_ofTexts p.names)) <|
    bind_field (required?_some rfl) rfl

theorem CallSite.ofJson?_toJson {c : CallSite} (fits : c.position.Fits) :
    CallSite.ofJson? c.toJson = some c :=
  record?_of_fields rfl <| bind_field (required?_some c.callee.ofJson?_toJson) <|
    bind_field (required?_some (SourcePosition.ofJson?_toJson fits)) rfl

theorem CallSite.fits_of_ofJson? {v : Json} {c : CallSite}
    (accepted : CallSite.ofJson? v = some c) : c.position.Fits := by
  refine Makes.of_record? (P := fun c => c.position.Fits) (.skip fun callee => ?_) accepted
  exact .known (forall_required? SourcePosition.fits_of_ofJson?) fun position fits => .pure fits

/-- The positions of the declaration and of its calls fit. -/
structure FunctionDecl.Fits (d : FunctionDecl) : Prop where
  calls : ∀ c ∈ d.calls, c.position.Fits
  position : d.position.Fits

/-- A declaration is read back if its positions fit. -/
theorem FunctionDecl.ofJson?_toJson {d : FunctionDecl} (fits : d.Fits) :
    FunctionDecl.ofJson? d.toJson = some d := by
  have params : list? ParamDecl.ofJson? (.arr (d.params.map ParamDecl.toJson)) = some d.params :=
    list?_written fun p _ => p.ofJson?_toJson
  have calls : list? CallSite.ofJson? (.arr (d.calls.map CallSite.toJson)) = some d.calls :=
    list?_written fun c member => CallSite.ofJson?_toJson (fits.calls c member)
  exact record?_of_fields rfl <| bind_field (required?_some rfl) <|
    bind_field (optional?_receiver d.receiver) <| bind_field (required?_some params) <|
    bind_field (required?_some calls) <|
    bind_field (required?_some (SourcePosition.ofJson?_toJson fits.position)) rfl

/-- The positions in an accepted declaration fit. -/
theorem FunctionDecl.fits_of_ofJson? {v : Json} {d : FunctionDecl}
    (accepted : FunctionDecl.ofJson? v = some d) : d.Fits := by
  refine Makes.of_record? (.skip fun name => .skip fun receiver => .skip fun params => ?_) accepted
  refine .known (forall_required? (forall_of_list? CallSite.fits_of_ofJson?)) fun calls fit => ?_
  refine .known (forall_required? SourcePosition.fits_of_ofJson?) fun position fits => ?_
  exact .pure ⟨fit, fits⟩

theorem list?_functions {functions : List FunctionDecl} (fits : ∀ d ∈ functions, d.Fits) :
    list? FunctionDecl.ofJson? (.arr (functions.map FunctionDecl.toJson)) = some functions :=
  list?_written fun d member => FunctionDecl.ofJson?_toJson (fits d member)

/-- The last field of a file holds its functions. -/
theorem makes_functions {α : Type} {P : α → Prop} {make : List FunctionDecl → α}
    (each : ∀ {functions}, (∀ d ∈ functions, d.Fits) → P (make functions)) :
    Makes (do return make (← field (required? (list? FunctionDecl.ofJson?)))) P :=
  .known (forall_required? (forall_of_list? FunctionDecl.fits_of_ofJson?)) fun _ fits =>
    .pure (each fits)

theorem FileModel.ofJson?_toJson {m : FileModel} (fits : ∀ d ∈ m.functions, d.Fits) :
    FileModel.ofJson? m.toJson = some m :=
  record?_of_fields rfl <| bind_field (optional?_ofOptionText m.package) <|
    bind_field (required?_some (list?_functions fits)) rfl

theorem FileModel.fits_of_ofJson? {v : Json} {m : FileModel}
    (accepted : FileModel.ofJson? v = some m) : ∀ d ∈ m.functions, d.Fits :=
  Makes.of_record? (P := fun m => ∀ d ∈ m.functions, d.Fits)
    (.skip fun _ => makes_functions id) accepted

theorem ParsedFile.ofJson?_toJson {f : ParsedFile} (fits : ∀ d ∈ f.functions, d.Fits) :
    ParsedFile.ofJson? f.toJson = some f :=
  record?_of_fields rfl <| bind_field (required?_some rfl) <| bind_field (required?_some rfl) <|
    bind_field (optional?_ofOptionText f.package) <|
    bind_field (required?_some (list?_functions fits)) rfl

theorem ParsedFile.fits_of_ofJson? {v : Json} {f : ParsedFile}
    (accepted : ParsedFile.ofJson? v = some f) : ∀ d ∈ f.functions, d.Fits :=
  Makes.of_record? (P := fun f => ∀ d ∈ f.functions, d.Fits)
    (.skip fun _ => .skip fun _ => .skip fun _ => makes_functions id) accepted

/-! ### Reports -/

namespace Report

/-- A diagnostic is made of its five fields, wherever they are found. -/
theorem Diagnostic.ofJson?_of_fields {d : Diagnostic} {v position arguments callStack : Json}
    (isPosition : SourcePosition.ofJson? position = some d.position)
    (isArguments : list? text? arguments = some d.arguments)
    (isCallStack : list? text? callStack = some d.callStack)
    (found : fields? 5 ["position", "message", "arguments", "call_stack", "fingerprint"] v =
      some [some position, some (.str d.message), some arguments, some callStack,
        some (.str d.fingerprint)]) :
    Diagnostic.ofJson? v = some d :=
  record?_of_fields found <| bind_field (required?_some isPosition) <|
    bind_field (required?_some rfl) <| bind_field (required?_some isArguments) <|
    bind_field (required?_some isCallStack) <| bind_field (required?_some rfl) rfl

theorem Diagnostic.ofJson?_toJson {d : Diagnostic} (fits : d.position.Fits) :
    Diagnostic.ofJson? d.toJson = some d :=
  ofJson?_of_fields (SourcePosition.ofJson?_toJson fits) (list?_ofTexts _) (list?_ofTexts _) rfl

theorem Diagnostic.fits_of_ofJson? {v : Json} {d : Diagnostic}
    (accepted : Diagnostic.ofJson? v = some d) : d.position.Fits := by
  refine Makes.of_record? (P := fun d => d.position.Fits) ?_ accepted
  refine .known (forall_required? SourcePosition.fits_of_ofJson?) fun position fits => ?_
  exact .skip fun message => .skip fun arguments => .skip fun callStack => .skip fun fingerprint =>
    .pure fits

/-- The counts fit sixty-four bits. -/
structure Summary.Fits (s : Summary) : Prop where
  units : s.units < 0x10000000000000000
  files : s.files < 0x10000000000000000
  diagnostics : s.diagnostics < 0x10000000000000000

/-- A summary is made of its three counts, wherever they are found. -/
theorem Summary.ofJson?_of_fields {s : Summary} (fits : s.Fits) {v : Json}
    (found : fields? 3 ["units", "files", "diagnostics"] v =
      some [some (.int s.units), some (.int s.files), some (.int s.diagnostics)]) :
    Summary.ofJson? v = some s :=
  record?_of_fields found <| bind_field (required?_some (size?_int fits.units)) <|
    bind_field (required?_some (size?_int fits.files)) <|
    bind_field (required?_some (size?_int fits.diagnostics)) rfl

theorem Summary.ofJson?_toJson {s : Summary} (fits : s.Fits) :
    Summary.ofJson? s.toJson = some s :=
  ofJson?_of_fields fits rfl

theorem Summary.fits_of_ofJson? {v : Json} {s : Summary}
    (accepted : Summary.ofJson? v = some s) : s.Fits := by
  refine Makes.of_record? ?_ accepted
  refine .known (forall_required? lt_of_size?) fun units smallUnits => ?_
  refine .known (forall_required? lt_of_size?) fun files smallFiles => ?_
  refine .known (forall_required? lt_of_size?) fun diagnostics smallDiagnostics => ?_
  exact .pure ⟨smallUnits, smallFiles, smallDiagnostics⟩

end Report

/-! ### Configurations -/

/-- The numbers that are set fit sixty-four bits with a sign. -/
structure Settings.Fits (s : Settings) : Prop where
  minRequiredParams : ∀ n ∈ s.minRequiredParams, Settings.fits n
  maxRecursionDepth : ∀ n ∈ s.maxRecursionDepth, Settings.fits n

/-- A field that sets a number, or sets nothing where it is absent. -/
theorem Settings.fits_of_number {f : Option Json} {number : Option Int}
    (accepted : defaulted? none (fun v => (readNumber v).toOption) f = some number) :
    ∀ n ∈ number, Settings.fits n := by
  cases f with
  | none =>
    cases accepted
    exact nofun
  | some v =>
    rw [defaulted?] at accepted
    unfold readNumber at accepted
    split at accepted
    · cases accepted
      exact nofun
    · split at accepted
      next small =>
        cases accepted
        rintro n ⟨⟩
        exact small
      next => cases accepted
    all_goals cases accepted

/-- A number of the settings is read back, also where there is none. -/
theorem Settings.number_written {number : Option Int} (small : ∀ n ∈ number, Settings.fits n) :
    defaulted? none (fun v => (readNumber v).toOption) (number.map Json.int) = some number := by
  cases number with
  | none => rfl
  | some n =>
    rw [Option.map_some, defaulted?, readNumber, if_pos (small n rfl)]
    rfl

/-- Settings are read back if their numbers fit. -/
theorem Settings.ofJson?_toJson {s : Settings} (fits : s.Fits) :
    Settings.ofJson? s.toJson = some s := by
  have found : fields? 0 ["min_required_params", "max_recursion_depth"] s.toJson =
      some [s.minRequiredParams.map Json.int, s.maxRecursionDepth.map Json.int] := by
    obtain ⟨params, depth⟩ := s
    cases params <;> cases depth <;> rfl
  exact record?_of_fields found <| bind_field (number_written fits.minRequiredParams) <|
    bind_field (number_written fits.maxRecursionDepth) rfl

theorem Settings.fits_of_ofJson? {v : Json} {s : Settings}
    (accepted : Settings.ofJson? v = some s) : s.Fits := by
  refine Makes.of_record? (.known fits_of_number fun params fit => ?_) accepted
  exact .known fits_of_number fun depth fits => .pure ⟨fit, fits⟩

theorem ProjectConfig.ofJson?_toJson (p : ProjectConfig) :
    ProjectConfig.ofJson? p.toJson = some p :=
  record?_of_fields rfl <| bind_field (required?_some rfl) <|
    bind_field (required?_some (list?_ofTexts p.sourceDirs)) <|
    bind_field (required?_some (list?_ofTexts p.ignorePatterns)) <|
    bind_field (list?_ofTexts p.excludePaths) rfl

theorem ParsingConfig.ofJson?_toJson {p : ParsingConfig}
    (fits : p.maxFileSize < 0x10000000000000000) : ParsingConfig.ofJson? p.toJson = some p :=
  record?_of_fields rfl <| bind_field (required?_some (list?_ofTexts p.languages)) <|
    bind_field (required?_some (size?_int fits)) rfl

/-- The file size in an accepted configuration fits. -/
theorem ParsingConfig.fits_of_ofJson? {v : Json} {p : ParsingConfig}
    (accepted : ParsingConfig.ofJson? v = some p) : p.maxFileSize < 0x10000000000000000 := by
  refine Makes.of_record? (P := fun p => p.maxFileSize < 0x10000000000000000) ?_ accepted
  exact .skip fun languages => .known (forall_required? lt_of_size?) fun size small => .pure small

theorem OutputConfig.ofJson?_toJson (o : OutputConfig) : OutputConfig.ofJson? o.toJson = some o :=
  rfl

/-- The numbers of the configuration fit the words they are kept in. -/
structure Config.Fits (c : Config) : Prop where
  analyzer : c.analyzer.Fits
  maxFileSize : c.parsing.maxFileSize < 0x10000000000000000

/-- A configuration is read back if its numbers fit. -/
theorem Config.ofJson?_toJson {c : Config} (fits : c.Fits) : Config.ofJson? c.toJson = some c :=
  record?_of_fields rfl <| bind_field (required?_some c.project.ofJson?_toJson) <|
    bind_field (Settings.ofJson?_toJson fits.analyzer) <|
    bind_field (required?_some (ParsingConfig.ofJson?_toJson fits.maxFileSize)) <|
    bind_field (required?_some c.output.ofJson?_toJson) rfl

theorem Settings.fits_of_defaulted? {f : Option Json} {s : Settings}
    (accepted : defaulted? Settings.unset Settings.ofJson? f = some s) : s.Fits := by
  cases f with
  | none =>
    cases accepted
    exact ⟨nofun, nofun⟩
  | some v => exact Settings.fits_of_ofJson? accepted

/-- The numbers of an accepted configuration fit. -/
theorem Config.fits_of_ofJson? {v : Json} {c : Config} (accepted : Config.ofJson? v = some c) :
    c.Fits := by
  refine Makes.of_record? (.skip fun project => ?_) accepted
  refine .known Settings.fits_of_defaulted? fun analyzer fits => ?_
  refine .known (forall_required? ParsingConfig.fits_of_ofJson?) fun parsing small => ?_
  exact .skip fun output => .pure ⟨fits, small⟩

/-! ### Reports as text -/

theorem Json.ordered_ofTexts (texts : List String) : ordered (ofTexts texts) = ofTexts texts := by
  rw [ofTexts, ordered, orderedItems_eq_map, List.map_map]
  rfl

/-- The order of the fields does not matter to a position. -/
theorem SourcePosition.ofJson?_ordered {p : SourcePosition} (fits : p.Fits) :
    SourcePosition.ofJson? p.toJson.ordered = some p :=
  ofJson?_of_fields fits (fields?_ordered 3 ["file", "line", "column"] rfl (by decide))

theorem SourcePosition.plain_toJson {p : SourcePosition} (fits : p.Fits) (depth : Nat) :
    Plain (depth + 1) p.toJson := by
  rw [toJson, Plain]
  simp only [List.forall_mem_cons, plain_str, plain_size depth fits.line,
    plain_size depth fits.column, true_and]
  exact List.forall_mem_nil _

namespace Report

/-- The order of the fields does not matter to a diagnostic. -/
theorem Diagnostic.ofJson?_ordered {d : Diagnostic} (fits : d.position.Fits) :
    Diagnostic.ofJson? d.toJson.ordered = some d := by
  have texts (ts : List String) : list? text? (ordered (ofTexts ts)) = some ts := by
    rw [ordered_ofTexts, list?_ofTexts]
  exact ofJson?_of_fields (SourcePosition.ofJson?_ordered fits) (texts _) (texts _)
    (fields?_ordered 5 ["position", "message", "arguments", "call_stack", "fingerprint"] rfl
      (by decide))

/-- The order of the fields does not matter to a summary. -/
theorem Summary.ofJson?_ordered {s : Summary} (fits : s.Fits) :
    Summary.ofJson? s.toJson.ordered = some s :=
  ofJson?_of_fields fits (fields?_ordered 3 ["units", "files", "diagnostics"] rfl (by decide))

theorem Diagnostic.plain_toJson {d : Diagnostic} (fits : d.position.Fits) (depth : Nat) :
    Plain (depth + 2) d.toJson := by
  rw [Diagnostic.toJson, Plain]
  have position := SourcePosition.plain_toJson fits depth
  simp only [List.forall_mem_cons, plain_str, plain_ofTexts, position, true_and]
  exact List.forall_mem_nil _

theorem Summary.plain_toJson {s : Summary} (fits : s.Fits) (depth : Nat) :
    Plain (depth + 1) s.toJson := by
  rw [Summary.toJson, Plain]
  simp only [List.forall_mem_cons, plain_size depth fits.units, plain_size depth fits.files,
    plain_size depth fits.diagnostics, true_and]
  exact List.forall_mem_nil _

/-- A report has nothing in it but what the text of a value can hold. -/
theorem plain_toJson {diagnostics : List Diagnostic} {summary : Summary}
    (fits : ∀ d ∈ diagnostics, d.position.Fits) (counts : summary.Fits) (depth : Nat) :
    Plain (depth + 4) (toJson diagnostics summary) := by
  rw [toJson, Plain]
  have plainSummary := Summary.plain_toJson counts (depth + 2)
  refine List.forall_mem_cons.2 ⟨?_, List.forall_mem_singleton.2 plainSummary⟩
  rw [Plain]
  exact List.forall_mem_map.2 fun d member => Diagnostic.plain_toJson (fits d member) depth

/-- A report that is read again holds the diagnostics and the counts that it was written from. -/
theorem parse_render {diagnostics : List Diagnostic} {summary : Summary}
    (fits : ∀ d ∈ diagnostics, d.position.Fits) (counts : summary.Fits) :
    ∃ document, Json.parse (render diagnostics summary .json) = some document ∧
      list? Diagnostic.ofJson? (document.get "diagnostics") = some diagnostics ∧
      Summary.ofJson? (document.get "summary") = some summary := by
  have found (name : String) : (toJson diagnostics summary).ordered.get name =
      ((toJson diagnostics summary).get name).ordered := by
    refine get_ordered ?_ name
    show ["diagnostics", "summary"].Nodup
    decide
  refine ⟨_, parse_pretty (plain_toJson fits counts 123), ?_, ?_⟩
  · rw [found]
    show list? Diagnostic.ofJson? (ordered (.arr (diagnostics.map Diagnostic.toJson))) = _
    rw [ordered, orderedItems_eq_map, List.map_map]
    exact list?_written fun d member => Diagnostic.ofJson?_ordered (fits d member)
  · rw [found]
    exact Summary.ofJson?_ordered counts

end Report

/-! ### All forms together -/

/-- Every value with a JSON form is read back from it, whatever form it was read from before. The
diagnostics and the counts of a report can be read back from its text. -/
theorem json_forms_lossless :
    Lossless TypeExpr.toJson TypeExpr.ofJson? (fun _ => True) ∧
    Lossless Callee.toJson Callee.ofJson? (fun _ => True) ∧
    Lossless ParamDecl.toJson ParamDecl.ofJson? (fun _ => True) ∧
    Lossless FunctionDecl.toJson FunctionDecl.ofJson? FunctionDecl.Fits ∧
    Lossless FileModel.toJson FileModel.ofJson? (fun m => ∀ d ∈ m.functions, d.Fits) ∧
    Lossless ParsedFile.toJson ParsedFile.ofJson? (fun f => ∀ d ∈ f.functions, d.Fits) ∧
    Lossless Report.Diagnostic.toJson Report.Diagnostic.ofJson? (fun d => d.position.Fits) ∧
    Lossless Report.Summary.toJson Report.Summary.ofJson? Report.Summary.Fits ∧
    Lossless Config.toJson Config.ofJson? Config.Fits ∧
    ∀ diagnostics summary, (∀ d ∈ diagnostics, d.position.Fits) → summary.Fits →
      ∃ document, Json.parse (Report.render diagnostics summary .json) = some document ∧
        list? Report.Diagnostic.ofJson? (document.get "diagnostics") = some diagnostics ∧
        Report.Summary.ofJson? (document.get "summary") = some summary :=
  ⟨.of_fits (fun _ => TypeExpr.ofJson?_toJson _) fun _ => trivial,
    .of_fits (fun _ => Callee.ofJson?_toJson _) fun _ => trivial,
    .of_fits (fun _ => ParamDecl.ofJson?_toJson _) fun _ => trivial,
    .of_fits FunctionDecl.ofJson?_toJson FunctionDecl.fits_of_ofJson?,
    .of_fits FileModel.ofJson?_toJson FileModel.fits_of_ofJson?,
    .of_fits ParsedFile.ofJson?_toJson ParsedFile.fits_of_ofJson?,
    .of_fits Report.Diagnostic.ofJson?_toJson Report.Diagnostic.fits_of_ofJson?,
    .of_fits Report.Summary.ofJson?_toJson Report.Summary.fits_of_ofJson?,
    .of_fits Config.ofJson?_toJson Config.fits_of_ofJson?,
    fun _ _ => Report.parse_render⟩

/-- A method of a pointer to a pointer, and a finding whose texts need escapes. -/
theorem json_forms_restored :
    (FunctionDecl.mk "m" (some (.pointer (.pointer (.named "T" none)))) []
        [⟨.method none "n", ⟨"a.rs", 2, 9⟩⟩] ⟨"a.rs", 1, 4⟩).Fits ∧
      FunctionDecl.ofJson? (FunctionDecl.mk "m" (some (.pointer (.pointer (.named "T" none)))) []
        [⟨.method none "n", ⟨"a.rs", 2, 9⟩⟩] ⟨"a.rs", 1, 4⟩).toJson =
          some ⟨"m", some (.pointer (.pointer (.named "T" none))), [],
            [⟨.method none "n", ⟨"a.rs", 2, 9⟩⟩], ⟨"a.rs", 1, 4⟩⟩ ∧
    ∃ document,
      Json.parse (Report.render [⟨⟨"a.go", 3, 7⟩, "say \"\\\" \n", ["é\t"], ["T.g"], "0a"⟩]
        ⟨1, 2, 1⟩ .json) = some document ∧
      list? Report.Diagnostic.ofJson? (document.get "diagnostics") =
        some [⟨⟨"a.go", 3, 7⟩, "say \"\\\" \n", ["é\t"], ["T.g"], "0a"⟩] ∧
      Report.Summary.ofJson? (document.get "summary") = some ⟨1, 2, 1⟩ := by
  have declaration : (FunctionDecl.mk "m" (some (.pointer (.pointer (.named "T" none)))) []
      [⟨.method none "n", ⟨"a.rs", 2, 9⟩⟩] ⟨"a.rs", 1, 4⟩).Fits :=
    ⟨List.forall_mem_singleton.2 ⟨by decide, by decide⟩, ⟨by decide, by decide⟩⟩
  have counts : (Report.Summary.mk 1 2 1).Fits := ⟨by decide, by decide, by decide⟩
  obtain ⟨_, _, _, declarations, _, _, _, _, _, reports⟩ := json_forms_lossless
  refine ⟨declaration, declarations.restored _ declaration, reports _ _ ?_ counts⟩
  exact List.forall_mem_singleton.2 ⟨by decide, by decide⟩

end ParamChain
