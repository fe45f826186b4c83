import Mathlib.Data.List.Forall2
import Mathlib.Data.List.Induction
import Mathlib.Data.List.Perm.Basic
import Mathlib.Order.WithBot
import ParamChain.Proofs.KeyedSort
import ParamChain.Proofs.PathComponents
import ParamChain.SourceUnit

/-
This file proves that the units of a list of files are an ordered partition of it. Units are kept
in a list that strictly ascends in what groups are compared by, and each file is put where its
group belongs, so at any time the files with one group are together in one unit, in the order they
came in. That is all there is to know about the list: which files it has for which group. The
order in which the files were found shows in nothing but the order of files with equal paths and
the spelling of a root that several files share.
-/

namespace ParamChain.SourceUnit

open Files

/-! ### What units are ordered by -/

/-- What a package is compared by. No package comes before every package. -/
def packageKey : Option String → WithBot String
  | none => ⊥
  | some package => package

theorem packageKey_injective : Function.Injective packageKey := by
  intro a b same
  cases a <;> cases b <;> simp_all [packageKey]

/-- Packages are compared as their keys are, a missing one before all others. -/
theorem comparePackages_compares (a b : Option String) :
    (comparePackages a b).Compares (packageKey a) (packageKey b) := by
  cases a with
  | none =>
    cases b with
    | none => rfl
    | some b => exact WithBot.bot_lt_coe b
  | some a =>
    cases b with
    | none => exact WithBot.bot_lt_coe a
    | some b =>
      have texts : (compareTexts a b).Compares a b := compares_text a b
      show (compareTexts a b).Compares (a : WithBot String) (b : WithBot String)
      cases order : compareTexts a b with
      | lt => exact WithBot.coe_lt_coe.2 (texts.eq_lt.1 order)
      | eq => exact congrArg _ (texts.eq_eq.1 order)
      | gt => exact WithBot.coe_lt_coe.2 (texts.eq_gt.1 order)

/-- What a group is compared by: its language, then its root as a path, then its package. -/
def Group.sortKey (g : Group) : (String ×ₗ List (ℕ ×ₗ String)) ×ₗ WithBot String :=
  toLex (toLex (g.language, pathKey g.root), packageKey g.package)

theorem Group.compare_compares (a b : Group) : (a.compare b).Compares a.sortKey b.sortKey :=
  compares_pair (compares_pair (compares_text _ _) (comparePaths_compares _ _))
    (comparePackages_compares _ _)

/-- Groups have one key if they agree in language, directory and package. -/
theorem Group.sortKey_eq_iff {a b : Group} :
    a.sortKey = b.sortKey ↔
      a.language = b.language ∧ components a.root = components b.root ∧ a.package = b.package := by
  rw [Group.sortKey, Group.sortKey, toLex_inj, Prod.mk.injEq, toLex_inj, Prod.mk.injEq,
    pathKey_eq_iff, packageKey_injective.eq_iff, and_assoc]

/-- What a unit is compared by. -/
def sortKey (unit : SourceUnit) : (String ×ₗ List (ℕ ×ₗ String)) ×ₗ WithBot String :=
  Group.sortKey ⟨unit.language, unit.root, unit.package⟩

@[simp]
theorem sortKey_withFiles (unit : SourceUnit) (files : List ParsedFile) :
    sortKey { unit with files } = unit.sortKey := rfl

/-! ### Putting a file into its unit -/

section Place

variable {group : Group} {file : ParsedFile} {unit : SourceUnit} {units rest : List SourceUnit}

/-- The unit of a file that is the first of its group. -/
def ofFile (group : Group) (file : ParsedFile) : SourceUnit :=
  ⟨group.language, group.root, group.package, [file]⟩

@[simp]
theorem sortKey_ofFile (group : Group) (file : ParsedFile) :
    (ofFile group file).sortKey = group.sortKey := rfl

/-- A file whose group comes before all others opens a new unit at the front. -/
theorem place_before (before : group.sortKey < unit.sortKey) :
    place group file (unit :: rest) = ofFile group file :: unit :: rest := by
  rw [place, (group.compare_compares _).eq_lt.2 before]
  rfl

/-- A file whose group has a unit is put behind the files of that unit. -/
theorem place_here (here : group.sortKey = unit.sortKey) :
    place group file (unit :: rest) = { unit with files := unit.files ++ [file] } :: rest := by
  rw [place, (group.compare_compares _).eq_eq.2 here]

/-- A file whose group comes later is placed among the units behind. -/
theorem place_after (after : unit.sortKey < group.sortKey) :
    place group file (unit :: rest) = unit :: place group file rest := by
  rw [place, (group.compare_compares _).eq_gt.2 after]

/-- A unit is left as it was, or has the group of the file and the file in it. -/
theorem mem_place (member : unit ∈ place group file units) :
    unit ∈ units ∨ unit.sortKey = group.sortKey ∧ file ∈ unit.files := by
  induction units with
  | nil =>
    rw [List.mem_singleton.1 member]
    exact .inr ⟨rfl, List.mem_singleton_self file⟩
  | cons first rest inductionHypothesis =>
    rcases lt_trichotomy group.sortKey first.sortKey with before | here | after
    · rw [place_before before] at member
      rcases List.mem_cons.1 member with rfl | old
      · exact .inr ⟨rfl, List.mem_singleton_self file⟩
      · exact .inl old
    · rw [place_here here] at member
      rcases List.mem_cons.1 member with rfl | old
      · exact .inr ⟨here.symm, List.mem_append_right _ (List.mem_singleton_self file)⟩
      · exact .inl (List.mem_cons_of_mem _ old)
    · rw [place_after after] at member
      rcases List.mem_cons.1 member with rfl | later
      · exact .inl List.mem_cons_self
      · exact (inductionHypothesis later).imp_left (List.mem_cons_of_mem _)

/-- Units in strictly ascending order. -/
def Ascending (units : List SourceUnit) : Prop :=
  units.Pairwise fun u v => u.sortKey < v.sortKey

/-- Placing a file keeps the units in order. -/
theorem Ascending.place (ordered : Ascending units) : Ascending (place group file units) := by
  induction units with
  | nil => exact List.pairwise_singleton _ _
  | cons first rest inductionHypothesis =>
    obtain ⟨firstBefore, restOrdered⟩ := List.pairwise_cons.1 ordered
    rcases lt_trichotomy group.sortKey first.sortKey with before | here | after
    · rw [place_before before]
      refine List.pairwise_cons.2 ⟨fun unit member => ?_, ordered⟩
      rcases List.mem_cons.1 member with rfl | later
      · exact before
      · exact before.trans (firstBefore unit later)
    · rw [place_here here]
      exact List.pairwise_cons.2 ⟨firstBefore, restOrdered⟩
    · rw [place_after after]
      refine List.pairwise_cons.2 ⟨fun unit member => ?_, inductionHypothesis restOrdered⟩
      rcases mem_place member with old | ⟨sameKey, -⟩
      · exact firstBefore unit old
      · rw [sameKey]
        exact after

/-- Placing a file adds this file and no other. -/
theorem place_perm (group : Group) (file : ParsedFile) (units : List SourceUnit) :
    ((place group file units).flatMap files).Perm (units.flatMap files ++ [file]) := by
  induction units with
  | nil => exact List.Perm.refl _
  | cons first rest inductionHypothesis =>
    rcases lt_trichotomy group.sortKey first.sortKey with before | here | after
    · rw [place_before before]
      exact (List.perm_append_singleton file _).symm
    · rw [place_here here, List.flatMap_cons, List.flatMap_cons, List.append_assoc,
        List.append_assoc]
      exact List.Perm.append_left _ List.perm_append_comm
    · rw [place_after after, List.flatMap_cons, List.flatMap_cons, List.append_assoc]
      exact List.Perm.append_left _ inductionHypothesis

end Place

/-! ### The files of a group -/

section FilesWith

variable {key : (String ×ₗ List (ℕ ×ₗ String)) ×ₗ WithBot String} {units : List SourceUnit}

/-- The files of the units with a key, of which there is one at most. -/
def filesWith (key : (String ×ₗ List (ℕ ×ₗ String)) ×ₗ WithBot String)
    (units : List SourceUnit) : List ParsedFile :=
  (units.filter fun unit => unit.sortKey = key).flatMap files

theorem filesWith_cons (unit : SourceUnit) (rest : List SourceUnit) :
    filesWith key (unit :: rest) =
      (if unit.sortKey = key then unit.files else []) ++ filesWith key rest := by
  rw [filesWith, List.filter_cons]
  by_cases same : unit.sortKey = key
  · rw [if_pos (decide_eq_true same), if_pos same, List.flatMap_cons, filesWith]
  · rw [if_neg (by simpa using same), if_neg same, List.nil_append, filesWith]

theorem filesWith_eq_nil (others : ∀ unit ∈ units, unit.sortKey ≠ key) :
    filesWith key units = [] := by
  have none : (units.filter fun unit => unit.sortKey = key) = [] :=
    List.filter_eq_nil_iff.2 fun unit member => by simpa using others unit member
  rw [filesWith, none, List.flatMap_nil]

/-- In ordered units the files with one key are those of one unit. -/
theorem Ascending.filesWith_sortKey (ordered : Ascending units) {unit : SourceUnit}
    (member : unit ∈ units) : filesWith unit.sortKey units = unit.files := by
  induction units with
  | nil => cases member
  | cons first rest inductionHypothesis =>
    obtain ⟨firstBefore, restOrdered⟩ := List.pairwise_cons.1 ordered
    rw [filesWith_cons]
    rcases List.mem_cons.1 member with rfl | later
    · rw [if_pos rfl, filesWith_eq_nil fun v inRest => (firstBefore v inRest).ne',
        List.append_nil]
    · rw [if_neg (firstBefore unit later).ne, List.nil_append,
        inductionHypothesis restOrdered later]

/-- A file is put at the end of the files of its group, and no other group changes. -/
theorem Ascending.filesWith_place (ordered : Ascending units) (group : Group)
    (file : ParsedFile) :
    filesWith key (SourceUnit.place group file units) =
      filesWith key units ++ if group.sortKey = key then [file] else [] := by
  induction units with
  | nil =>
    show filesWith key [ofFile group file] = _
    rw [filesWith_cons]
    exact List.append_nil _
  | cons first rest inductionHypothesis =>
    obtain ⟨firstBefore, restOrdered⟩ := List.pairwise_cons.1 ordered
    rcases lt_trichotomy group.sortKey first.sortKey with before | here | after
    · rw [place_before before, filesWith_cons, sortKey_ofFile]
      obtain rfl | other := eq_or_ne group.sortKey key
      · have absent : filesWith group.sortKey (first :: rest) = [] := by
          refine filesWith_eq_nil fun unit member => ?_
          rcases List.mem_cons.1 member with rfl | later
          · exact before.ne'
          · exact (before.trans (firstBefore unit later)).ne'
        rw [absent, if_pos rfl, if_pos rfl]
        rfl
      · rw [if_neg other, if_neg other, List.nil_append, List.append_nil]
    · rw [place_here here, filesWith_cons, filesWith_cons, sortKey_withFiles, ← here]
      obtain rfl | other := eq_or_ne group.sortKey key
      · have absent : filesWith group.sortKey rest = [] := by
          refine filesWith_eq_nil fun unit member => ?_
          rw [here]
          exact (firstBefore unit member).ne'
        rw [absent, if_pos rfl, if_pos rfl, if_pos rfl, List.append_nil, List.append_nil]
      · rw [if_neg other, if_neg other, if_neg other, List.append_nil]
    · rw [place_after after, filesWith_cons, filesWith_cons, inductionHypothesis restOrdered,
        List.append_assoc]

end FilesWith

/-! ### All files in their units -/

/-- The units before the files of each are sorted. -/
def placed (root : String) (files : List ParsedFile) : List SourceUnit :=
  files.foldl (fun units file => place (groupOf root file) file units) []

theorem placed_concat (root : String) (files : List ParsedFile) (file : ParsedFile) :
    placed root (files ++ [file]) = place (groupOf root file) file (placed root files) := by
  rw [placed, List.foldl_append]
  rfl

theorem placed_ascending (root : String) (files : List ParsedFile) :
    Ascending (placed root files) := by
  induction files using List.reverseRecOn with
  | nil => exact List.Pairwise.nil
  | append_singleton files file inductionHypothesis =>
    rw [placed_concat]
    exact inductionHypothesis.place

/-- The files with one key are those of the groups with that key, in their order. -/
theorem filesWith_placed (root : String) (files : List ParsedFile)
    (key : (String ×ₗ List (ℕ ×ₗ String)) ×ₗ WithBot String) :
    filesWith key (placed root files) =
      files.filter fun file => (groupOf root file).sortKey = key := by
  induction files using List.reverseRecOn with
  | nil => rfl
  | append_singleton files file inductionHypothesis =>
    rw [placed_concat, (placed_ascending root files).filesWith_place, inductionHypothesis,
      List.filter_append, List.filter_singleton, Bool.cond_decide]

/-- Every file is placed once. -/
theorem placed_perm (root : String) (files : List ParsedFile) :
    ((placed root files).flatMap SourceUnit.files).Perm files := by
  induction files using List.reverseRecOn with
  | nil => exact List.Perm.refl _
  | append_singleton files file inductionHypothesis =>
    rw [placed_concat]
    exact (place_perm _ _ _).trans (inductionHypothesis.append_right [file])

/-- A unit is opened only for a file. -/
theorem files_ne_nil_of_mem_placed {root : String} {files : List ParsedFile} {unit : SourceUnit}
    (member : unit ∈ placed root files) : unit.files ≠ [] := by
  induction files using List.reverseRecOn with
  | nil => cases member
  | append_singleton files file inductionHypothesis =>
    rw [placed_concat] at member
    rcases mem_place member with old | ⟨-, inside⟩
    · exact inductionHypothesis old
    · exact List.ne_nil_of_mem inside

/-! ### Files in the order of their paths -/

theorem sortsBy_pathKey :
    SortsBy (fun file : ParsedFile => pathKey file.path)
      fun a b => (comparePaths a.path b.path).isLE := by
  intro a b
  rw [← (comparePaths_compares a.path b.path).ne_gt]
  exact Ordering.isLE_iff_ne_gt

theorem sortFiles_perm (files : List ParsedFile) : (sortFiles files).Perm files :=
  List.mergeSort_perm _ _

/-! ### The units of files -/

section Group

variable {root : String} {files : List ParsedFile} {unit : SourceUnit}

theorem mem_group : unit ∈ group root files ↔
    ∃ u ∈ placed root files, { u with files := sortFiles u.files } = unit :=
  List.mem_map

theorem group_ascending (root : String) (files : List ParsedFile) :
    Ascending (group root files) :=
  List.pairwise_map.2 (placed_ascending root files)

/-- The files of a unit are those of its group, sorted. -/
theorem files_eq_of_mem_group (member : unit ∈ group root files) :
    unit.files =
      sortFiles (files.filter fun file => (groupOf root file).sortKey = unit.sortKey) := by
  obtain ⟨u, inPlaced, rfl⟩ := mem_group.1 member
  have own : filesWith u.sortKey (placed root files) = u.files :=
    (placed_ascending root files).filesWith_sortKey inPlaced
  rw [sortKey_withFiles, ← filesWith_placed, own]

theorem mem_files_iff (member : unit ∈ group root files) {file : ParsedFile} :
    file ∈ unit.files ↔ file ∈ files ∧ (groupOf root file).sortKey = unit.sortKey := by
  rw [files_eq_of_mem_group member, (sortFiles_perm _).mem_iff, List.mem_filter,
    decide_eq_true_eq]

theorem files_ne_nil (member : unit ∈ group root files) : unit.files ≠ [] := by
  obtain ⟨u, inPlaced, rfl⟩ := mem_group.1 member
  exact fun empty => files_ne_nil_of_mem_placed inPlaced
    (List.nil_perm.1 (empty ▸ sortFiles_perm u.files))

/-- Every file is in one unit, once. -/
theorem group_perm (root : String) (files : List ParsedFile) :
    ((group root files).flatMap SourceUnit.files).Perm files := by
  have sorted : ((placed root files).flatMap fun u => sortFiles u.files).Perm
      ((placed root files).flatMap SourceUnit.files) :=
    List.Perm.flatMap_left _ fun u _ => sortFiles_perm u.files
  rw [group, List.flatMap_map]
  exact sorted.trans (placed_perm root files)

/-- Every file is in a unit, and no unit is empty: the keys of the units are those of the files. -/
theorem mem_map_sortKey_group {key : (String ×ₗ List (ℕ ×ₗ String)) ×ₗ WithBot String} :
    key ∈ (group root files).map sortKey ↔ ∃ file ∈ files, (groupOf root file).sortKey = key := by
  constructor
  · intro inKeys
    obtain ⟨unit, member, rfl⟩ := List.mem_map.1 inKeys
    obtain ⟨file, inside⟩ := List.exists_mem_of_ne_nil _ (files_ne_nil member)
    exact ⟨file, (mem_files_iff member).1 inside⟩
  · rintro ⟨file, member, rfl⟩
    obtain ⟨unit, inGroup, inside⟩ := List.mem_flatMap.1 ((group_perm root files).mem_iff.2 member)
    exact List.mem_map.2 ⟨unit, inGroup, ((mem_files_iff inGroup).1 inside).2.symm⟩

/-! ### What a unit has in common -/

/-- The components of the directory that a file counts for: its own if it is a Go file and has
one, the given root otherwise. -/
def unitDirectory (root : String) (file : ParsedFile) : List Component :=
  if file.language = "go" ∧ HasParent file.path then (components file.path).dropLast
  else components root

theorem components_groupOf (root : String) (file : ParsedFile) :
    components (groupOf root file).root = unitDirectory root file := by
  have written : (groupOf root file).root =
      if file.language = "go" then (parent? file.path).getD root else root := rfl
  rw [written, unitDirectory]
  by_cases isGo : file.language = "go"
  · rw [if_pos isGo]
    by_cases below : HasParent file.path
    · obtain ⟨directory, isParent, withoutLast⟩ := parent?_of_hasParent below
      rw [isParent, Option.getD_some, if_pos ⟨isGo, below⟩, withoutLast]
    · rw [parent?_eq_none below, Option.getD_none, if_neg fun both => below both.2]
  · rw [if_neg isGo, if_neg fun both => isGo both.1]

/-- What makes a file one of a unit. -/
structure Belongs (root : String) (file : ParsedFile) (unit : SourceUnit) : Prop where
  language : file.language = unit.language
  package : file.package = unit.package
  directory : unitDirectory root file = components unit.root

/-- A file belongs to a unit if their groups have one key. -/
theorem belongs_iff {file : ParsedFile} :
    Belongs root file unit ↔ (groupOf root file).sortKey = unit.sortKey := by
  rw [sortKey, Group.sortKey_eq_iff, components_groupOf]
  exact ⟨fun belongs => ⟨belongs.language, belongs.directory, belongs.package⟩,
    fun ⟨language, directory, package⟩ => ⟨language, package, directory⟩⟩

instance (root : String) (file : ParsedFile) (unit : SourceUnit) :
    Decidable (Belongs root file unit) :=
  decidable_of_iff _ belongs_iff.symm

theorem belongs_of_mem (member : unit ∈ group root files) {file : ParsedFile}
    (inside : file ∈ unit.files) : Belongs root file unit :=
  belongs_iff.2 ((mem_files_iff member).1 inside).2

/-- Two files are in one unit when they have the same language, package and directory. -/
theorem shares_unit_iff {f g : ParsedFile} (memberF : f ∈ files) (memberG : g ∈ files) :
    (∃ unit ∈ group root files, f ∈ unit.files ∧ g ∈ unit.files) ↔
      f.language = g.language ∧ f.package = g.package ∧
        unitDirectory root f = unitDirectory root g := by
  constructor
  · rintro ⟨unit, member, insideF, insideG⟩
    have belongsF := belongs_of_mem member insideF
    have belongsG := belongs_of_mem member insideG
    exact ⟨belongsF.language.trans belongsG.language.symm,
      belongsF.package.trans belongsG.package.symm,
      belongsF.directory.trans belongsG.directory.symm⟩
  · rintro ⟨language, package, directory⟩
    obtain ⟨unit, member, insideF⟩ :=
      List.mem_flatMap.1 ((group_perm root files).mem_iff.2 memberF)
    have belongsF := belongs_of_mem member insideF
    have belongsG : Belongs root g unit := ⟨language.symm.trans belongsF.language,
      package.symm.trans belongsF.package, directory.symm.trans belongsF.directory⟩
    exact ⟨unit, member, insideF, (mem_files_iff member).2 ⟨memberG, belongs_iff.1 belongsG⟩⟩

/-- The files of a unit that have one path stand in it as they were found. -/
theorem filter_files (member : unit ∈ group root files) (path : String) :
    (unit.files.filter fun f => components f.path = components path) =
      files.filter fun f => Belongs root f unit ∧ components f.path = components path := by
  have kept := sortsBy_pathKey.filter_mergeSort (pathKey path)
    (files.filter fun file => (groupOf root file).sortKey = unit.sortKey)
  simp only [pathKey_eq_iff, List.filter_filter] at kept
  rw [files_eq_of_mem_group member, sortFiles, kept]
  refine List.filter_congr fun f _ => ?_
  rw [← Bool.decide_and, decide_eq_decide, ← belongs_iff, and_comm]

/-- Units that differ in the spelling of their root at most. -/
structure SameUnit (u v : SourceUnit) : Prop where
  language : u.language = v.language
  root : components u.root = components v.root
  package : u.package = v.package
  files : u.files = v.files

/-- Where all paths are distinct the order of the files does not matter. -/
theorem group_reordered {files' : List ParsedFile} (reordered : files.Perm files')
    (distinct : files.Pairwise fun f g => components f.path ≠ components g.path) :
    List.Forall₂ SameUnit (group root files) (group root files') := by
  have sameKeys : (group root files).map sortKey = (group root files').map sortKey := by
    have ascending (files : List ParsedFile) :
        ((group root files).map sortKey).Pairwise (· < ·) :=
      List.pairwise_map.2 (group_ascending root files)
    have sameMembers : ((group root files).map sortKey).Perm ((group root files').map sortKey) := by
      refine (List.perm_ext_iff_of_nodup ((ascending files).imp ne_of_lt)
        ((ascending files').imp ne_of_lt)).2 fun key => ?_
      simp only [mem_map_sortKey_group, reordered.mem_iff]
    exact sameMembers.eq_of_pairwise (fun _ _ _ _ forth back => absurd back forth.asymm)
      (ascending files) (ascending files')
  have matched : List.Forall₂ (fun u v => sortKey u = sortKey v) (group root files)
      (group root files') := by
    rw [← List.forall₂_eq_eq_eq, List.forall₂_map_left_iff, List.forall₂_map_right_iff] at sameKeys
    exact sameKeys
  rw [List.forall₂_iff_zip] at matched ⊢
  refine ⟨matched.1, fun {u v} member => ?_⟩
  have sameKey := matched.2 member
  obtain ⟨inFirst, inSecond⟩ := List.of_mem_zip member
  obtain ⟨language, directory, package⟩ := Group.sortKey_eq_iff.1 sameKey
  refine ⟨language, directory, package, ?_⟩
  rw [files_eq_of_mem_group inFirst, files_eq_of_mem_group inSecond, sameKey]
  refine sortsBy_pathKey.mergeSort_eq_of_perm (reordered.filter _) ?_
  exact (distinct.sublist List.filter_sublist).imp fun {f g} other same =>
    other (pathKey_eq_iff.1 same)

end Group

/-- The units of files are an ordered partition of them. Together they hold the files, each unit
holding those of one language, package and directory; they strictly ascend in language, root and
package; the files of a unit ascend in their paths and keep their order where the paths are equal;
and where no two paths are equal, the order in which the files were found shows in nothing but the
spelling of the roots. -/
theorem group_partition (root : String) (files : List ParsedFile) :
    let units := group root files
    (units.flatMap SourceUnit.files).Perm files ∧
      (∀ unit ∈ units, unit.files ≠ [] ∧ ∀ file ∈ unit.files, Belongs root file unit) ∧
      (∀ f ∈ files, ∀ g ∈ files,
        (∃ unit ∈ units, f ∈ unit.files ∧ g ∈ unit.files) ↔
          f.language = g.language ∧ f.package = g.package ∧
            unitDirectory root f = unitDirectory root g) ∧
      units.Pairwise (fun u v => u.sortKey < v.sortKey) ∧
      (∀ unit ∈ units,
        (unit.files.Pairwise fun f g => pathKey f.path ≤ pathKey g.path) ∧
          ∀ path : String,
            (unit.files.filter fun f => components f.path = components path) =
              files.filter fun f => Belongs root f unit ∧ components f.path = components path) ∧
      ((files.Pairwise fun f g => components f.path ≠ components g.path) →
        ∀ files', files.Perm files' → List.Forall₂ SameUnit units (group root files')) := by
  intro units
  refine ⟨group_perm root files, ?_, ?_, group_ascending root files, ?_, ?_⟩
  · intro unit member
    exact ⟨files_ne_nil member, fun file inside => belongs_of_mem member inside⟩
  · intro f memberF g memberG
    exact shares_unit_iff memberF memberG
  · intro unit member
    refine ⟨?_, fun path => filter_files member path⟩
    rw [files_eq_of_mem_group member]
    exact sortsBy_pathKey.ascending _
  · intro distinct files' reordered
    exact group_reordered reordered distinct

/-- A Go package with a test package of its own, a Go file without a package clause, and a Rust
file, found in no order and with a root that is spelled in two ways. -/
def foundFiles : List ParsedFile :=
  [⟨"src/w/widget_test.go", "go", some "w_test", []⟩, ⟨"src//w/./widget.go", "go", some "w", []⟩,
    ⟨"src/lib.rs", "rust", none, []⟩, ⟨"src/w/build.go", "go", some "w", []⟩,
    ⟨"src/w/notes.go", "go", none, []⟩]

/-- Found in the opposite order the files form the same units, though one root is spelled in the
other way. -/
theorem foundFiles_grouped :
    (group "src" foundFiles).map (fun u => (u.language, u.root, u.package)) =
        [("go", "src/w", none), ("go", "src//w", some "w"), ("go", "src/w", some "w_test"),
          ("rust", "src", none)] ∧
      (group "src" foundFiles.reverse).map (fun u => (u.language, u.root, u.package)) =
        [("go", "src/w", none), ("go", "src/w", some "w"), ("go", "src/w", some "w_test"),
          ("rust", "src", none)] ∧
      List.Forall₂ SameUnit (group "src" foundFiles) (group "src" foundFiles.reverse) := by
  have distinct : foundFiles.Pairwise fun f g => components f.path ≠ components g.path := by
    decide +kernel
  refine ⟨by decide +kernel, by decide +kernel, ?_⟩
  exact (group_partition "src" foundFiles).2.2.2.2.2 distinct _ (List.reverse_perm _).symm

end ParamChain.SourceUnit
