import ParamChain.ConfigFile
import ParamChain.Proofs.JsonForms
import ParamChain.Proofs.StoredFiles
import ParamChain.Proofs.TomlDocument

/-
This file proves that a configuration survives being saved and loaded. Three round trips make up
this one: the file gives back the text that was written to it, the text is read as the sections it
was made of, and the sections stand for the object that the configuration is read from. Only a size
limit that no document can hold keeps a configuration from being saved, and then nothing is written.
-/

namespace ParamChain

open Files

namespace Config

theorem sections_toJson (c : Config) :
    Json.obj (c.sections.map fun s => (s.name, s.toJson)) = c.toJson := by
  obtain ⟨project, ⟨params, depth⟩, parsing, output⟩ := c
  cases params <;> cases depth <;> rfl

theorem sections_wellFormed {c : Config} (fits : c.analyzer.Fits)
    (small : c.parsing.maxFileSize < 0x8000000000000000) :
    ∀ s ∈ c.sections, s.WellFormed := by
  obtain ⟨project, ⟨params, depth⟩, parsing, output⟩ := c
  have size : Settings.fits parsing.maxFileSize := by
    simp only [Settings.fits, Bool.and_eq_true, decide_eq_true_eq]
    dsimp only at small
    omega
  have number (name : String) {set : Option Int} (small : ∀ n ∈ set, Settings.fits n) :
      ∀ f ∈ numberField name set, f.2.Fits := by
    cases set with
    | none => exact List.forall_mem_nil _
    | some n => exact List.forall_mem_singleton.2 (small n rfl)
  have settings := List.forall_mem_append.2 ⟨number "min_required_params" fits.minRequiredParams,
    number "max_recursion_depth" fits.maxRecursionDepth⟩
  simp only [sections, List.forall_mem_cons]
  refine ⟨?_, ?_, ?_, ?_, List.forall_mem_nil _⟩
  · exact Toml.Section.wellFormed_of_sublist
      ["name", "source_dirs", "ignore_patterns", "exclude_paths"] (List.Sublist.refl _)
      (by decide) (by decide) (by simp [Toml.Field.Fits])
  · refine Toml.Section.wellFormed_of_sublist ["min_required_params", "max_recursion_depth"] ?_
      (by decide) (by decide) settings
    cases params <;> cases depth <;> simp [numberField]
  · exact Toml.Section.wellFormed_of_sublist ["languages", "max_file_size"] (List.Sublist.refl _)
      (by decide) (by decide) (by simp [Toml.Field.Fits, size])
  · exact Toml.Section.wellFormed_of_sublist ["format"] (List.Sublist.refl _)
      (by decide) (by decide) (by simp [Toml.Field.Fits])

/-- What a configuration is written as is read as the same configuration. -/
theorem parse_render {c : Config} (fits : c.analyzer.Fits)
    (small : c.parsing.maxFileSize < 0x8000000000000000) :
    Config.parse (Toml.render c.sections) = .ok c := by
  have distinct : (c.sections.map Toml.Section.name).Nodup := by
    show ["project", "analyzer", "parsing", "output"].Nodup
    decide
  have document := Toml.parse_render (sections_wellFormed fits small) distinct
  have back : ofDocument? c.toJson = some c :=
    Config.ofJson?_toJson ⟨fits, Nat.lt_trans small (by decide)⟩
  rw [sections_toJson] at document
  rw [Config.parse, document, Option.bind_some, back]

/-- A configuration that no document can hold is refused before the file is touched. -/
theorem write_of_large {c : Config} (large : 0x8000000000000000 ≤ c.parsing.maxFileSize)
    (tree : FileTree) (path : String) :
    c.write tree path = (.error (.config "out-of-range value for u64 type"), tree) := by
  have unrendered : c.render = .error (.config "out-of-range value for u64 type") := by
    rw [render, if_neg (Nat.not_lt_of_le large)]
  rw [write, unrendered]

/-- A configuration that a document can hold is saved at any path where a file can be written, and
loaded from there as it was. Another one is refused, and no file changes. -/
theorem config_survives_saving {c : Config} (fits : c.analyzer.Fits) (tree : FileTree)
    (path : String) :
    (c.parsing.maxFileSize < 0x8000000000000000 → tree.Writable path →
      ∃ saved, c.write tree path = (.ok (), saved) ∧ c.save tree path = .ok saved ∧
        load saved path = .ok c) ∧
    (0x8000000000000000 ≤ c.parsing.maxFileSize →
      ∃ reason, c.write tree path = (.error (.config reason), tree) ∧
        c.save tree path = .error (.config reason)) := by
  constructor
  · intro small writable
    obtain ⟨saved, stored, read⟩ := writable.writeText (Toml.render c.sections)
    have rendered : c.render = .ok (Toml.render c.sections) := by
      rw [render, if_pos small]
    have written : c.write tree path = (.ok (), saved) := by
      rw [write, rendered]
      simp only [stored]
    refine ⟨saved, written, ?_, ?_⟩
    · rw [save, written]
    · rw [load, read]
      exact parse_render fits small
  · intro large
    have refused := write_of_large large tree path
    exact ⟨_, refused, by rw [save, refused]⟩

/-- A configuration whose texts take all ways of quoting. -/
def quotedConfig (maxFileSize : Nat) : Config where
  project := {
    name := "it's \"so\""
    sourceDirs := ["a\\b", "\x22\x22\x22'\n\x22", "\x01é"]
    ignorePatterns := []
    excludePaths := ["'''\\"] }
  analyzer := ⟨some (-1), none⟩
  parsing := { languages := ["go"], maxFileSize := maxFileSize }
  output := { format := "" }

/-- A working directory with a directory in it. -/
def insideHome : FileTree :=
  ⟨[("home", .directory [("a", .directory [])])], ["home"]⟩

/-- The configuration is saved by way of a directory that is left again, and beside the working
directory by way of the root; it is not saved with a size limit that is too large. -/
theorem quotedConfig_survives :
    ((quotedConfig 0x7fffffffffffffff).analyzer.Fits ∧ insideHome.Writable "a/../c.toml" ∧
      insideHome.Writable "/c.toml") ∧
    (∃ saved, (quotedConfig 0x7fffffffffffffff).save insideHome "a/../c.toml" = .ok saved ∧
      load saved "a/../c.toml" = .ok (quotedConfig 0x7fffffffffffffff)) ∧
    (∃ saved, (quotedConfig 0x7fffffffffffffff).save insideHome "/c.toml" = .ok saved ∧
      load saved "/c.toml" = .ok (quotedConfig 0x7fffffffffffffff)) ∧
    ∃ reason, (quotedConfig 0x8000000000000000).write insideHome "a/../c.toml" =
      (.error (.config reason), insideHome) := by
  have fits (size : Nat) : (quotedConfig size).analyzer.Fits := by
    refine ⟨?_, nofun⟩
    rintro n ⟨⟩
    decide
  have relative : insideHome.Writable "a/../c.toml" :=
    ⟨by decide, [.name "a", .parent], "c.toml", _, by decide, rfl, nofun⟩
  have absolute : insideHome.Writable "/c.toml" :=
    ⟨by decide, [.root], "c.toml", _, by decide, rfl, nofun⟩
  obtain ⟨saved, -, inDirectory, loaded⟩ :=
    (config_survives_saving (fits 0x7fffffffffffffff) insideHome "a/../c.toml").1 (by decide)
      relative
  obtain ⟨saved', -, atRoot, loaded'⟩ :=
    (config_survives_saving (fits 0x7fffffffffffffff) insideHome "/c.toml").1 (by decide) absolute
  obtain ⟨reason, refused, -⟩ :=
    (config_survives_saving (fits 0x8000000000000000) insideHome "a/../c.toml").2 (by decide)
  exact ⟨⟨fits _, relative, absolute⟩, ⟨saved, inDirectory, loaded⟩, ⟨saved', atRoot, loaded'⟩,
    reason, refused⟩

end Config

end ParamChain
