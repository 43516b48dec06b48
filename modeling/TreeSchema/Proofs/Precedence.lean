import TreeSchema.Files.FileTree
import TreeSchema.Proofs.Sources

/-!
# Which source supplies a schema

The last definition of an id wins among all sources of a run. All directories
come before all single files, so a file that the configuration lists wins over a
directory of the command line: `build_precedence`.
-/

namespace TreeSchema

open SchemaSource

theorem or_exchange_iff {α : Type} (last first second earlier : Option α) :
    last.or (first.or (second.or earlier)) = last.or (second.or (first.or earlier)) ↔
      last.isSome = true ∨ second = none ∨ first = none ∨ second = first := by
  cases last <;> cases first <;> cases second <;> simp [eq_comm]

/-- In a run that loads, an id stands for the schema of the last source that
defines it, of the directories of the configuration, those of the command line,
the files of the configuration and those of the command line. It is registered if
there is such a source. Putting the whole configuration before the command line
would give another schema exactly where a file of the configuration replaces a
different schema from a directory of the command line. -/
theorem build_precedence {files : FileSystem} {config : Config} {directories : List FilePath}
    {registrations : List Registration} {registry : Registry}
    (h : Registry.build files config directories registrations = .ok registry) (id : String) :
    let configDirectories := config.schemaDirectories.map SchemaSource.directory
    let configFiles := ofEntries config.schemas
    let lineDirectories := directories.map SchemaSource.directory
    let lineFiles := ofEntries (registrations.map fun r => (r.id, r.path))
    let sources := configDirectories ++ lineDirectories ++ configFiles ++ lineFiles
    registry.lookup id = supplied files sources id ∧
      (registry.contains id = true ↔ ∃ source ∈ sources, source.Defines files id) ∧
      (registry.lookup id =
          supplied files (configDirectories ++ configFiles ++ lineDirectories ++ lineFiles) id ↔
        (∃ source ∈ lineFiles, source.Defines files id) ∨
        (¬∃ source ∈ lineDirectories, source.Defines files id) ∨
        (¬∃ source ∈ configFiles, source.Defines files id) ∨
        supplied files lineDirectories id = supplied files configFiles id) := by
  intro configDirectories configFiles lineDirectories lineFiles sources
  obtain ⟨hload, hregistry⟩ := Registry.build_eq_ok.mp h
  have hsources : SchemaSource.all config directories registrations = sources := by
    simp only [SchemaSource.all, sources, configDirectories, configFiles, lineDirectories, lineFiles,
      ofEntries, List.map_append, List.append_assoc]
  rw [hsources] at hload hregistry
  have hlookup : registry.lookup id = supplied files sources id := by
    rw [hregistry, Registry.lookup_define_empty, supplied]
  refine ⟨hlookup, ?_, ?_⟩
  · rw [← supplied_isSome hload, ← hlookup, Registry.contains]
  · obtain ⟨⟨⟨-, hline⟩, hconfig⟩, hregistered⟩ : (((∀ source ∈ configDirectories, source.Loads files) ∧
        ∀ source ∈ lineDirectories, source.Loads files) ∧
        ∀ source ∈ configFiles, source.Loads files) ∧ ∀ source ∈ lineFiles, source.Loads files := by
      simpa only [sources, List.forall_mem_append] using hload
    rw [hlookup, ← supplied_isSome hregistered, ← supplied_eq_none hline,
      ← supplied_eq_none hconfig]
    simp only [sources, supplied_append]
    exact or_exchange_iff ..

-- -----------------------------------------------------------------------------
-- A file of the configuration against a directory of the command line

def rivalFiles : FileSystem :=
  (FileTree.directory [("base.json", .file (some "true")),
    ("extra", .directory [("tag.json", .file (some "false"))])]).view

theorem schemaFiles_rival : rivalFiles.schemaFiles ⟨"extra"⟩ = .ok [⟨"extra/tag.json"⟩] := by
  have hentries : rivalFiles.entries ⟨"extra"⟩ = .ok ["tag.json"] := rfl
  simp only [FileSystem.schemaFiles, hentries, bind, Except.bind, List.mergeSort_singleton]
  rfl

theorem build_rival :
    Registry.build rivalFiles ⟨[], [("tag.json", ⟨"base.json"⟩)]⟩ [⟨"extra"⟩] [] =
      .ok ((Registry.empty.register "tag.json" (.bool false)).register "tag.json" (.bool true)) := by
  have hdirectory : Registry.empty.loadDirectory rivalFiles ⟨"extra"⟩ =
      (.ok 1, Registry.empty.register "tag.json" (.bool false)) := by
    simp only [Registry.loadDirectory, schemaFiles_rival]
    rfl
  simp only [Registry.build, List.nil_append, Registry.addDirectories, hdirectory]
  rfl

theorem build_precedence_rival :
    ∃ registry, Registry.build rivalFiles ⟨[], [("tag.json", ⟨"base.json"⟩)]⟩ [⟨"extra"⟩] [] =
        .ok registry ∧
      registry.lookup "tag.json" =
        supplied rivalFiles ([.directory ⟨"extra"⟩] ++ ofEntries [("tag.json", ⟨"base.json"⟩)])
          "tag.json" ∧
      registry.contains "tag.json" = true := by
  obtain ⟨hlookup, hcontains, -⟩ := build_precedence build_rival "tag.json"
  have hdefines : (SchemaSource.file "tag.json" ⟨"base.json"⟩).Defines rivalFiles "tag.json" := .file
  exact ⟨_, build_rival, hlookup, hcontains.mpr ⟨_, by simp [ofEntries], hdefines⟩⟩

/-- A configuration names a file for an id, and a directory of the command line
defines the id too. The file of the configuration is registered. -/
theorem configuration_file_over_line_directory :
    ∃ registry, Registry.build rivalFiles ⟨[], [("tag.json", ⟨"base.json"⟩)]⟩ [⟨"extra"⟩] [] =
        .ok registry ∧
      registry.lookup "tag.json" = some (.bool true) ∧
      supplied rivalFiles (ofEntries [("tag.json", ⟨"base.json"⟩)] ++ [.directory ⟨"extra"⟩])
        "tag.json" = some (.bool false) := by
  refine ⟨_, build_rival, rfl, ?_⟩
  simp only [supplied, ofEntries, List.map_cons, List.map_nil, List.cons_append, List.nil_append,
    List.flatMap_cons, definitions, schemaFiles_rival]
  rfl

end TreeSchema
