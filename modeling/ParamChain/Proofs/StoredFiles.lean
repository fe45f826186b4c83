import ParamChain.Files.FileTree

/-
This file proves that what is written to a file is what is read from it afterwards.

Reading follows a path with the directories on the way on a stack, so that `..` can go back to the
one before; writing reduces the path to names first and then goes down along them. The two meet in
the directory that a list of names leads to: whatever stack the components of a path leave behind,
the directory on it is the one at the names that they reduce to. Writing a file leaves every
directory in its place, the working directory among them, so the components lead to the same place
once more, and there the file stands. Whether the path begins at the root or at the working
directory makes no difference to this.
-/

namespace ParamChain.Files

/-! ### Entries -/

theorem child?_cons (e : String × Entry) (rest : List (String × Entry)) (name : String) :
    child? (e :: rest) name = if e.1 = name then some e.2 else child? rest name := by
  by_cases same : e.1 = name
  · simp [child?, same]
  · simp [child?, same]

theorem child?_setEntry (name other : String) (entry : Entry) (entries : List (String × Entry)) :
    child? (setEntry name entry entries) other =
      if name = other then some entry else child? entries other := by
  induction entries with
  | nil => rw [setEntry, child?_cons]
  | cons e rest inductionHypothesis =>
    rw [setEntry]
    by_cases same : e.1 = name
    · rw [if_pos same, child?_cons, child?_cons, same]
      split <;> rfl
    · rw [if_neg same, child?_cons, child?_cons, inductionHypothesis]
      by_cases found : e.1 = other
      · rw [if_pos found, if_pos found, if_neg (found ▸ Ne.symm same)]
      · rw [if_neg found, if_neg found]

/-! ### Directories at names -/

/-- The directory that names lead to. -/
def directoryAt? : List String → List (String × Entry) → Option (List (String × Entry))
  | [], entries => some entries
  | name :: rest, entries =>
    match child? entries name with
    | some (.directory inner) => directoryAt? rest inner
    | _ => none

theorem directoryAt?_cons {name : String} {entries inner : List (String × Entry)}
    (found : child? entries name = some (.directory inner)) (rest : List String) :
    directoryAt? (name :: rest) entries = directoryAt? rest inner := by
  rw [directoryAt?, found]

theorem child?_of_directoryAt?_cons {name : String} {rest : List String}
    {entries directory : List (String × Entry)}
    (found : directoryAt? (name :: rest) entries = some directory) :
    ∃ inner, child? entries name = some (.directory inner) ∧
      directoryAt? rest inner = some directory := by
  rw [directoryAt?] at found
  split at found
  next inner child => exact ⟨inner, child, found⟩
  next => cases found

theorem directoryAt?_concat {names : List String} {root here : List (String × Entry)}
    (found : directoryAt? names root = some here) (name : String) :
    directoryAt? (names ++ [name]) root = directoryAt? [name] here := by
  induction names generalizing root with
  | nil =>
    cases found
    rfl
  | cons first names inductionHypothesis =>
    obtain ⟨inner, child, found⟩ := child?_of_directoryAt?_cons found
    rw [List.cons_append, directoryAt?_cons child, inductionHypothesis found]

/-- No directory has gone: where the first entries have one, the second have one too. -/
def DirectoriesKept (top top' : List (String × Entry)) : Prop :=
  ∀ names, (directoryAt? names top).isSome → (directoryAt? names top').isSome

/-- No directory goes by putting in an entry, unless the entry takes the place of a directory and
is none in which those of that directory are kept. -/
theorem DirectoriesKept.setEntry {name : String} {entry : Entry} {entries : List (String × Entry)}
    (replaced : ∀ inner, child? entries name = some (.directory inner) →
      ∃ inner', entry = .directory inner' ∧ DirectoriesKept inner inner') :
    DirectoriesKept entries (setEntry name entry entries) := by
  intro names there
  cases names with
  | nil => rfl
  | cons other rest =>
    by_cases same : name = other
    · subst same
      obtain ⟨_, there⟩ := Option.isSome_iff_exists.1 there
      obtain ⟨inner, child, there⟩ := child?_of_directoryAt?_cons there
      obtain ⟨inner', rfl, kept⟩ := replaced inner child
      have entered : child? (Files.setEntry name (.directory inner') entries) name =
          some (.directory inner') := by
        rw [child?_setEntry, if_pos rfl]
      rw [directoryAt?_cons entered]
      exact kept rest (there ▸ rfl)
    · rw [directoryAt?, child?_setEntry, if_neg same, ← directoryAt?]
      exact there

/-- An entry can be put into a directory that names lead to, and it stands there then. Where it
takes the place of no directory, all directories stay where they are. -/
theorem setAt_of_directoryAt? (entry : Entry) {names : List String} {name : String}
    {root directory : List (String × Entry)} (found : directoryAt? names root = some directory)
    (free : ∀ inner, child? directory name ≠ some (.directory inner)) :
    ∃ changed, setAt entry (names ++ [name]) root = .ok changed ∧
      directoryAt? names changed = some (setEntry name entry directory) ∧
      DirectoriesKept root changed := by
  induction names generalizing root with
  | nil =>
    cases found
    exact ⟨_, rfl, rfl, .setEntry fun inner child => absurd child (free inner)⟩
  | cons first names inductionHypothesis =>
    obtain ⟨inner, child, found⟩ := child?_of_directoryAt?_cons found
    obtain ⟨changed, set, placed, kept⟩ := inductionHypothesis found
    have entered : child? (setEntry first (.directory changed) root) first =
        some (.directory changed) := by
      rw [child?_setEntry, if_pos rfl]
    refine ⟨setEntry first (.directory changed) root, ?_, ?_, .setEntry fun replaced there => ?_⟩
    · rw [List.cons_append, setAt, child]
      · simp only [set]
      · simp
    · rw [directoryAt?_cons entered, placed]
    · rw [child, Option.some.injEq, Entry.directory.injEq] at there
      exact ⟨changed, rfl, there ▸ kept⟩

/-! ### Following components -/

/-- The directories on the way to a place, the last of them in front, as the names to it have the
last of them in front. -/
inductive Stacked (top : List (String × Entry)) :
    List String → List (List (String × Entry)) → Prop
  | top : Stacked top [] []
  | inside {back : List String} {inner : List (String × Entry)}
      {stack : List (List (String × Entry))} {name : String} :
      Stacked top back stack → child? (stack.headD top) name = some (.directory inner) →
        Stacked top (name :: back) (inner :: stack)

variable {top top' directory : List (String × Entry)} {back : List String}
  {stack stack' : List (List (String × Entry))} {path : List Component}

theorem Stacked.directoryAt?_eq (stacked : Stacked top back stack) :
    directoryAt? back.reverse top = some (stack.headD top) := by
  induction stacked with
  | top => rfl
  | inside _ child inductionHypothesis =>
    rw [List.reverse_cons, directoryAt?_concat inductionHypothesis, directoryAt?_cons child]
    rfl

/-- A `..` takes one directory from the stack and one name from those that lead to it, and neither
where the stack is empty. -/
theorem Stacked.tail (stacked : Stacked top back stack) : Stacked top back.tail stack.tail := by
  cases stacked with
  | top => exact .top
  | inside stacked child => exact stacked

/-- Components that lead to a directory leave it on the stack, and the names that they reduce to
lead to it. -/
theorem follow_directory (stacked : Stacked top back stack)
    (found : follow top stack path = .ok (.directory directory)) :
    ∃ stack', Stacked top (path.foldl Component.onto back) stack' ∧
      stack'.headD top = directory ∧
      ∀ rest, follow top stack (path ++ rest) = follow top stack' rest := by
  induction path generalizing back stack with
  | nil =>
    cases found
    exact ⟨stack, stacked, rfl, fun _ => rfl⟩
  | cons component path inductionHypothesis =>
    cases component with
    | root => exact inductionHypothesis .top found
    | current => exact inductionHypothesis stacked found
    | parent => exact inductionHypothesis stacked.tail found
    | name text =>
      simp only [List.cons_append, follow] at found ⊢
      split at found
      next => cases found
      next inner child => exact inductionHypothesis (.inside stacked child) found
      next => split at found <;> cases found

/-- A name that leads to a directory still does, if not to the same, where no directory has gone. -/
theorem child?_kept (kept : DirectoriesKept top top')
    (stacked : Stacked top back stack) (stacked' : Stacked top' back stack') {name : String}
    {inner : List (String × Entry)}
    (child : child? (stack.headD top) name = some (.directory inner)) :
    ∃ inner', child? (stack'.headD top') name = some (.directory inner') := by
  have before : directoryAt? (back.reverse ++ [name]) top = some inner := by
    rw [directoryAt?_concat stacked.directoryAt?_eq, directoryAt?_cons child]
    rfl
  have after := kept (back.reverse ++ [name]) (before ▸ rfl)
  rw [directoryAt?_concat stacked'.directoryAt?_eq] at after
  obtain ⟨_, after⟩ := Option.isSome_iff_exists.1 after
  obtain ⟨inner', child', -⟩ := child?_of_directoryAt?_cons after
  exact ⟨inner', child'⟩

/-- Where no directory has gone, components that led to a directory lead to one again. -/
theorem follow_kept (kept : DirectoriesKept top top')
    (stacked : Stacked top back stack) (stacked' : Stacked top' back stack')
    (found : follow top stack path = .ok (.directory directory)) :
    ∃ directory', follow top' stack' path = .ok (.directory directory') := by
  induction path generalizing back stack stack' with
  | nil => exact ⟨_, rfl⟩
  | cons component path inductionHypothesis =>
    cases component with
    | root => exact inductionHypothesis .top .top found
    | current => exact inductionHypothesis stacked stacked' found
    | parent => exact inductionHypothesis stacked.tail stacked'.tail found
    | name text =>
      simp only [follow] at found ⊢
      split at found
      next => cases found
      next inner child =>
        obtain ⟨inner', child'⟩ := child?_kept kept stacked stacked' child
        rw [child']
        exact inductionHypothesis (.inside stacked child) (.inside stacked' child') found
      next => split at found <;> cases found

/-! ### Writing and reading -/

/-- A file can be written at the path: it names something in a directory that is there, and no
directory of that name. -/
def FileTree.Writable (tree : FileTree) (path : String) : Prop :=
  endsAsDirectory path = false ∧ ∃ parents name directory,
    components path = parents ++ [.name name] ∧
    tree.lookUp parents = .ok (.directory directory) ∧
    ∀ inner, child? directory name ≠ some (.directory inner)

theorem FileTree.fromTop_concat (tree : FileTree) (parents : List Component) (name : String) :
    tree.fromTop (parents ++ [.name name]) = tree.fromTop parents ++ [.name name] := by
  cases parents with
  | nil => simp [fromTop]
  | cons first parents => cases first <;> simp [fromTop]

theorem isEmpty_of_components {path : String} (named : components path ≠ []) :
    path.isEmpty = false := by
  rw [Bool.eq_false_iff]
  intro empty
  rw [String.isEmpty_iff.1 empty] at named
  exact named rfl

theorem FileTree.resolve_eq (tree : FileTree) {path : String} (named : components path ≠ [])
    (file : endsAsDirectory path = false) :
    tree.resolve path = tree.lookUp (components path) := by
  rw [resolve, isEmpty_of_components named, if_neg Bool.false_ne_true, file]
  cases tree.lookUp (components path) with
  | error e => rfl
  | ok entry => cases entry <;> rfl

/-- A name after components that lead to a directory leads to what is there under that name. -/
theorem FileTree.lookUp_concat {tree : FileTree} {parents : List Component}
    (found : tree.lookUp parents = .ok (.directory directory)) (name : String) :
    tree.lookUp (parents ++ [.name name]) =
      (child? directory name).elim (.error .notFound) .ok := by
  obtain ⟨stack, stacked, rfl, follows⟩ := follow_directory .top found
  rw [lookUp, fromTop_concat, follows, follow]
  cases child? (stack.headD tree.entries) name with
  | none => rfl
  | some entry => cases entry <;> rfl

/-- A file can be put into a directory that components lead to, and then they lead to a directory
with the file in it. -/
theorem FileTree.setAt_nameSteps {tree : FileTree} {path name : String} {parents : List Component}
    (split : components path = parents ++ [.name name])
    (found : tree.lookUp parents = .ok (.directory directory))
    (free : ∀ inner, child? directory name ≠ some (.directory inner)) (content : ByteArray) :
    ∃ changed directory', setAt (.file content) (tree.nameSteps path) tree.entries = .ok changed ∧
      FileTree.lookUp { tree with entries := changed } parents = .ok (.directory directory') ∧
      child? directory' name = some (.file content) := by
  obtain ⟨stack, stacked, rfl, -⟩ := follow_directory .top found
  have steps :
      tree.nameSteps path = ((tree.fromTop parents).foldl Component.onto []).reverse ++ [name] := by
    rw [nameSteps, split, fromTop_concat, List.foldl_append]
    exact List.reverse_cons
  obtain ⟨changed, set, placed, kept⟩ :=
    setAt_of_directoryAt? (.file content) stacked.directoryAt?_eq free
  obtain ⟨directory', found'⟩ := follow_kept kept .top .top found
  obtain ⟨stack', stacked', rfl, -⟩ := follow_directory .top found'
  rw [stacked'.directoryAt?_eq, Option.some.injEq] at placed
  refine ⟨changed, _, steps ▸ set, found', ?_⟩
  rw [placed, child?_setEntry, if_pos rfl]

/-- A file that is written where one can be is read as it was written. -/
theorem FileTree.Writable.writeBytes {tree : FileTree} {path : String}
    (writable : tree.Writable path) (content : ByteArray) :
    ∃ changed, tree.writeBytes path content = .ok changed ∧
      changed.readBytes path = .ok content := by
  obtain ⟨file, parents, name, directory, split, found, free⟩ := writable
  have named : components path ≠ [] := by
    rw [split]
    exact List.append_ne_nil_of_right_ne_nil parents (List.cons_ne_nil _ _)
  obtain ⟨changed, directory', set, found', child'⟩ :=
    setAt_nameSteps split found free content
  refine ⟨{ tree with entries := changed }, ?_, ?_⟩
  · rw [FileTree.writeBytes, set, tree.resolve_eq named file, isEmpty_of_components named, file,
      split, List.dropLast_concat, found, lookUp_concat found]
    cases child : child? directory name with
    | none => rfl
    | some entry =>
      cases entry with
      | file old => rfl
      | directory inner => exact absurd child (free inner)
  · rw [readBytes, FileTree.resolve_eq _ named file, split, lookUp_concat found', child']
    rfl

theorem FileTree.Writable.writeText {tree : FileTree} {path : String}
    (writable : tree.Writable path) (text : String) :
    ∃ changed, tree.writeText path text = .ok changed ∧ changed.readText path = .ok text := by
  obtain ⟨changed, written, read⟩ := writable.writeBytes text.toUTF8
  have valid : text.toUTF8.IsValidUTF8 := text.isValidUTF8
  refine ⟨changed, written, ?_⟩
  rw [readText, read]
  simp only [String.fromUTF8?, dif_pos valid]
  rfl

end ParamChain.Files
