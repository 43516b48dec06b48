import Mathlib
import TreeSchema.Files.FileTree
import TreeSchema.Proofs.Pointer
import TreeSchema.Proofs.Sources

/-!
# File names as ids

A directory registers each of its schema files under the name of the file, in the
order of the names, and a file that comes later may take that name over by its
`$id`. After a load every name is registered, for the last file that has or takes
it: `lookup_loadDirectory`.
-/

namespace TreeSchema

-- -----------------------------------------------------------------------------
-- Names below a directory

namespace Text

variable {separator : Char} {part : List Char}

theorem split_ne_nil (separator : Char) (text : List Char) : split separator text ≠ [] := by
  cases text with
  | nil => exact List.cons_ne_nil _ _
  | cons c rest =>
    unfold split
    split
    · exact List.cons_ne_nil _ _
    · split <;> exact List.cons_ne_nil _ _

theorem split_append_last (h : separator ∉ part) (before : List Char) :
    split separator (before ++ separator :: part) = split separator before ++ [part] := by
  induction before with
  | nil => simp [split, split_of_not_mem h]
  | cons c before ih =>
    by_cases hc : c = separator
    · simp [split, hc, ih]
    · obtain ⟨first, parts, hsplit⟩ :=
        List.exists_cons_of_ne_nil (split_ne_nil separator before)
      simp [split, hc, ih, hsplit]

end Text

namespace FilePath

/-- A name as a directory lists it: one step that leads further down. -/
structure IsName (name : String) : Prop where
  single : '/' ∉ name.toList
  nonempty : name ≠ ""
  notHere : name ≠ "."
  notAbove : name ≠ ".."

theorem segments_under {name : String} (h : '/' ∉ name.toList) (base : FilePath) :
    ∃ before, ((FilePath.mk name).under base).segments = before ++ [name] := by
  have hrelative : (FilePath.mk name).isAbsolute = false := by
    simpa [isAbsolute] using fun hhead => h (List.mem_of_head? hhead)
  have hsplit (before : List Char) {text : String} (htext : text.toList = before ++ '/' :: name.toList) :
      ∃ before, (FilePath.mk text).segments = before ++ [name] :=
    ⟨(Text.split '/' before).map String.ofList, by
      simp [segments, htext, Text.split_append_last h]⟩
  simp only [under, hrelative, Bool.false_eq_true, if_false]
  split
  · rename_i hend
    have hbase : base.text = "" ∨ base.text.toList.getLast? = some '/' := by simpa using hend
    rcases hbase with hempty | hslash
    · exact ⟨[], by simp [segments, hempty, Text.split_of_not_mem h]⟩
    · obtain ⟨before, hbefore⟩ := List.getLast?_eq_some_iff.mp hslash
      exact hsplit before (by simp [hbefore])
  · exact hsplit base.text.toList (by simp)

theorem fileName?_of_segments {p : FilePath} {before : List String} {name : String}
    (hname : IsName name) (h : p.segments = before ++ [name]) : p.fileName? = some name := by
  have hlast : p.stepPositions.getLast? = some before.length := by
    simp [stepPositions, h, List.zipIdx_append, List.filter_append, hname.nonempty, hname.notHere]
  simp [fileName?, hlast, h, hname.notHere, hname.notAbove, guard]

theorem fileName?_under {name : String} (hname : IsName name) (base : FilePath) :
    ((FilePath.mk name).under base).fileName? = some name := by
  obtain ⟨before, hsegments⟩ := segments_under hname.single base
  exact fileName?_of_segments hname hsegments

end FilePath

-- -----------------------------------------------------------------------------
-- The last file that defines an id

theorem exists_last {α : Type} {r : α → α → Prop} {xs : List α}
    (definitions : α → List (String × Value)) {id : String} (hordered : xs.Pairwise r)
    (hdefined : ∃ x ∈ xs, ∃ schema, (id, schema) ∈ definitions x) :
    ∃ last ∈ xs, ∃ schema, (id, schema) ∈ definitions last ∧
      lastDefined (xs.flatMap definitions) id = some schema ∧
      ∀ x ∈ xs, (∃ schema, (id, schema) ∈ definitions x) → x = last ∨ r x last := by
  induction xs with
  | nil =>
    obtain ⟨_, hmem, -⟩ := hdefined
    exact absurd hmem List.not_mem_nil
  | cons first rest ih =>
    obtain ⟨hfirst, hrest⟩ := List.pairwise_cons.mp hordered
    rw [List.flatMap_cons, lastDefined_append]
    by_cases hlater : ∃ x ∈ rest, ∃ schema, (id, schema) ∈ definitions x
    · obtain ⟨last, hmem, schema, hschema, hlast, hbefore⟩ := ih hrest hlater
      refine ⟨last, List.mem_cons_of_mem _ hmem, schema, hschema, by rw [hlast]; rfl, ?_⟩
      intro x hx hdefines
      rcases List.mem_cons.mp hx with rfl | hx
      · exact .inr (hfirst last hmem)
      · exact hbefore x hx hdefines
    · have hnone : lastDefined (rest.flatMap definitions) id = none := by
        rw [← Option.not_isSome_iff_eq_none, lastDefined_isSome]
        rintro ⟨schema, hmem⟩
        obtain ⟨x, hx, hschema⟩ := List.mem_flatMap.mp hmem
        exact hlater ⟨x, hx, schema, hschema⟩
      have hhere : ∃ schema, (id, schema) ∈ definitions first := by
        obtain ⟨x, hx, hdefines⟩ := hdefined
        rcases List.mem_cons.mp hx with rfl | hx
        · exact hdefines
        · exact absurd ⟨x, hx, hdefines⟩ hlater
      obtain ⟨schema, hschema⟩ := Option.isSome_iff_exists.mp (lastDefined_isSome.mpr hhere)
      refine ⟨first, List.mem_cons_self, schema, mem_of_lastDefined hschema, ?_, ?_⟩
      · rw [hnone, hschema]
        rfl
      · intro x hx hdefines
        rcases List.mem_cons.mp hx with rfl | hx
        · exact .inl rfl
        · exact absurd ⟨x, hx, hdefines⟩ hlater

namespace FileSystem

structure SchemaFile (files : FileSystem) (directory : FilePath) (name : String) (schema : Value) :
    Prop where
  listed : ∃ names, files.entries directory = .ok names ∧ name ∈ names
  isFile : files.isFile ((FilePath.mk name).under directory) = true
  extension : ((FilePath.mk name).under directory).extension? ∈
    [some "json", some "yaml", some "yml"]
  document : files.loadDocument ((FilePath.mk name).under directory) = .ok schema

def Defines (id name : String) (schema : Value) : Prop :=
  name = id ∨ schema.member? "$id" = some (.string id)

/-- The last schema file in a directory, in the order of the names, that defines
`id`. -/
structure LastFile (files : FileSystem) (directory : FilePath) (id name : String) (schema : Value) :
    Prop where
  file : files.SchemaFile directory name schema
  defines : Defines id name schema
  last {other : String} {schema' : Value} : files.SchemaFile directory other schema' →
    Defines id other schema' → other ≤ name

variable {files : FileSystem} {directory : FilePath} {names : List String} {id name : String}
  {schema : Value}

theorem SchemaFile.unique {schema' : Value} (h : files.SchemaFile directory name schema)
    (h' : files.SchemaFile directory name schema') : schema = schema' :=
  Except.ok.inj (h.document.symm.trans h'.document)

def schemaNames (files : FileSystem) (directory : FilePath) (names : List String) : List String :=
  names.filter fun name =>
    let path := (FilePath.mk name).under directory
    files.isFile path && (Format.ofPath? path).isSome

theorem mem_schemaNames : name ∈ files.schemaNames directory names ↔
    name ∈ names ∧ files.isFile ((FilePath.mk name).under directory) = true ∧
      ((FilePath.mk name).under directory).extension? ∈ [some "json", some "yaml", some "yml"] := by
  simp only [schemaNames, List.mem_filter, isSome_ofPath?, Bool.and_eq_true, decide_eq_true_eq]

theorem schemaFilesOf_eq_map (files : FileSystem) (directory : FilePath) (names : List String) :
    files.schemaFilesOf directory names =
      (files.schemaNames directory names).map fun name => (FilePath.mk name).under directory := by
  simp only [schemaFilesOf, schemaNames, ← isSome_ofPath?, List.filter_map, Function.comp_def]

theorem schemaFile_iff (hnames : files.entries directory = .ok names) :
    files.SchemaFile directory name schema ↔ name ∈ files.schemaNames directory names ∧
      files.loadDocument ((FilePath.mk name).under directory) = .ok schema := by
  rw [mem_schemaNames]
  constructor
  · rintro ⟨⟨names', hnames', hmem⟩, hfile, hextension, hdocument⟩
    obtain rfl := Except.ok.inj (hnames.symm.trans hnames')
    exact ⟨⟨hmem, hfile, hextension⟩, hdocument⟩
  · rintro ⟨⟨hmem, hfile, hextension⟩, hdocument⟩
    exact ⟨⟨names, hnames, hmem⟩, hfile, hextension, hdocument⟩

theorem mem_definitions_iff {schema' : Value} (hname : FilePath.IsName name)
    (hdocument : files.loadDocument ((FilePath.mk name).under directory) = .ok schema) :
    (id, schema') ∈ files.fileDefinitions ((FilePath.mk name).under directory) ↔
      schema' = schema ∧ Defines id name schema := by
  rw [SchemaSource.mem_fileDefinitions (FilePath.fileName?_under hname directory) hdocument, Defines,
    or_comm, eq_comm (a := id)]

end FileSystem

open FileSystem

section Loaded

variable {files : FileSystem} {directory : FilePath} {registry : Registry} {count : Nat}
  {names : List String} {id : String}

theorem Registry.loadDirectory_define (hload : (registry.loadDirectory files directory).1 = .ok count)
    (hnames : files.entries directory = .ok names) :
    ∃ ordered : List String, ordered.Pairwise (· ≤ ·) ∧
      (∀ name, name ∈ ordered ↔ name ∈ files.schemaNames directory names) ∧
      (∀ name ∈ ordered, ∃ schema,
        files.loadDocument ((FilePath.mk name).under directory) = .ok schema) ∧
      (registry.loadDirectory files directory).2 = registry.define (ordered.flatMap fun name =>
        files.fileDefinitions ((FilePath.mk name).under directory)) := by
  let ordered := names.mergeSort fun a b => a ≤ b
  have hperm : ordered.Perm names := List.mergeSort_perm names _
  have hordered : ordered.Pairwise (· ≤ ·) := pairwise_mergeSort_le names
  have hpaths := schemaFiles_of_perm hnames hperm hordered
  obtain ⟨paths, hpaths', hholds, -⟩ := loadDirectory_eq_ok.mp hload
  obtain rfl := Except.ok.inj (hpaths.symm.trans hpaths')
  refine ⟨files.schemaNames directory ordered, hordered.filter _,
    fun name => (hperm.filter _).mem_iff, fun name hmem => ?_, ?_⟩
  · rw [schemaFilesOf_eq_map] at hholds
    obtain ⟨_, schema, -, hdocument⟩ := holdsSchema_iff.mp (hholds _ (List.mem_map_of_mem hmem))
    exact ⟨schema, hdocument⟩
  · rw [loadDirectory_registry, directoryDefinitions, hpaths]
    simp only [List.takeWhile_eq_self_iff.mpr hholds]
    rw [schemaFilesOf_eq_map, List.flatMap_map]

theorem Registry.lookup_of_defines (hload : (registry.loadDirectory files directory).1 = .ok count)
    (hnames : files.entries directory = .ok names) (hsteps : ∀ name ∈ names, FilePath.IsName name)
    (hdefined : ∃ name schema, files.SchemaFile directory name schema ∧ Defines id name schema) :
    ∃ last schema, files.LastFile directory id last schema ∧
      (registry.loadDirectory files directory).2.lookup id = some schema := by
  obtain ⟨ordered, hordered, hmem, hdocuments, hregistry⟩ := loadDirectory_define hload hnames
  have hfile {name : String} {schema : Value} (h : files.SchemaFile directory name schema) :
      name ∈ ordered ∧ FilePath.IsName name :=
    have hlisted := ((schemaFile_iff hnames).mp h).1
    ⟨(hmem name).mpr hlisted, hsteps name (mem_schemaNames.mp hlisted).1⟩
  have hdefined' : ∃ name ∈ ordered, ∃ schema,
      (id, schema) ∈ files.fileDefinitions ((FilePath.mk name).under directory) := by
    obtain ⟨name, schema, hschema, hdefines⟩ := hdefined
    obtain ⟨hname, hstep⟩ := hfile hschema
    exact ⟨name, hname, schema, (mem_definitions_iff hstep hschema.document).mpr ⟨rfl, hdefines⟩⟩
  obtain ⟨last, hlast, schema, hdefinition, hsupplied, hbefore⟩ :=
    exists_last _ hordered hdefined'
  obtain ⟨schema', hdocument⟩ := hdocuments last hlast
  have hlisted := (hmem last).mp hlast
  have hstep := hsteps last (mem_schemaNames.mp hlisted).1
  obtain ⟨rfl, hdefines⟩ := (mem_definitions_iff hstep hdocument).mp hdefinition
  refine ⟨last, schema, ⟨(schemaFile_iff hnames).mpr ⟨hlisted, hdocument⟩, hdefines, ?_⟩, ?_⟩
  · intro other schema' hother hdefines'
    obtain ⟨hname, hstep'⟩ := hfile hother
    have hdefinition' := (mem_definitions_iff hstep' hother.document).mpr ⟨rfl, hdefines'⟩
    obtain rfl | hle := hbefore other hname ⟨schema', hdefinition'⟩
    · exact String.le_refl _
    · exact hle
  · rw [hregistry, lookup_define, hsupplied]
    rfl

/-- After a load every schema file of a directory is found under its name, unless a
later file takes the name over by its `$id`: then the last such file is. -/
theorem Registry.lookup_loadDirectory
    (hload : (registry.loadDirectory files directory).1 = .ok count)
    (hnames : files.entries directory = .ok names)
    (hsteps : ∀ name ∈ names, FilePath.IsName name) :
    ∀ name ∈ names, files.isFile ((FilePath.mk name).under directory) = true →
      ((FilePath.mk name).under directory).extension? ∈ [some "json", some "yaml", some "yml"] →
      ∃ schema last supplied, files.SchemaFile directory name schema ∧
        files.LastFile directory name last supplied ∧
        (registry.loadDirectory files directory).2.lookup name = some supplied ∧
        ((∀ later schema', files.SchemaFile directory later schema' → name < later →
          schema'.member? "$id" ≠ some (.string name)) → supplied = schema) := by
  intro name hmem hfile hextension
  obtain ⟨ordered, -, hlisted, hdocuments, -⟩ := loadDirectory_define hload hnames
  obtain ⟨schema, hdocument⟩ :=
    hdocuments name ((hlisted name).mpr (mem_schemaNames.mpr ⟨hmem, hfile, hextension⟩))
  have hschema : files.SchemaFile directory name schema :=
    ⟨⟨names, hnames, hmem⟩, hfile, hextension, hdocument⟩
  obtain ⟨last, supplied, hlast, hlookup⟩ :=
    lookup_of_defines hload hnames hsteps ⟨name, schema, hschema, .inl rfl⟩
  refine ⟨schema, last, supplied, hschema, hlast, hlookup, fun hfree => ?_⟩
  by_cases heq : last = name
  · subst heq
    exact hlast.file.unique hschema
  · -- A later file defines the name by its `$id` alone.
    have hlater : name < last := String.not_le.mp fun hle =>
      heq (String.le_antisymm hle (hlast.last hschema (.inl rfl)))
    exact absurd (hlast.defines.resolve_left heq) (hfree last supplied hlast.file hlater)

/-- A directory in which the second file takes over the name of the first. -/
def takenOverFiles : FileSystem :=
  (FileTree.directory [("d", .directory
    [("a.json", .file (some "true")),
     ("b.json", .file (some "\x7b\"$id\": \"a.json\"\x7d"))])]).view

theorem takenOverFiles_schemaFiles :
    takenOverFiles.schemaFiles ⟨"d"⟩ = .ok [⟨"d/a.json"⟩, ⟨"d/b.json"⟩] :=
  (schemaFiles_of_perm (by decide) (.refl ["a.json", "b.json"])
    (List.pairwise_pair.mpr (by decide))).trans (by decide)

theorem takenOverFiles_first : takenOverFiles.loadDocument ⟨"d/a.json"⟩ = .ok (.bool true) :=
  loadDocument_of_json rfl (by decide) (by cbv)

theorem takenOverFiles_second :
    takenOverFiles.loadDocument ⟨"d/b.json"⟩ = .ok (.object [("$id", .string "a.json")]) :=
  loadDocument_of_json rfl (by decide) (by cbv)

theorem takenOverFiles_loadDirectory :
    Registry.empty.loadDirectory takenOverFiles ⟨"d"⟩ =
      (.ok 2, Registry.empty.define
        [("a.json", .bool true), ("a.json", .object [("$id", .string "a.json")]),
         ("b.json", .object [("$id", .string "a.json")])]) := by
  have hfirst : holdsSchema takenOverFiles ⟨"d/a.json"⟩ = true :=
    holdsSchema_iff.mpr ⟨"a.json", _, by decide, takenOverFiles_first⟩
  have hsecond : holdsSchema takenOverFiles ⟨"d/b.json"⟩ = true :=
    holdsSchema_iff.mpr ⟨"b.json", _, by decide, takenOverFiles_second⟩
  have hnames : (FilePath.mk "d/a.json").fileName? = some "a.json" ∧
      (FilePath.mk "d/b.json").fileName? = some "b.json" := by decide
  refine Prod.ext (Registry.loadDirectory_eq_ok.mpr ⟨_, takenOverFiles_schemaFiles, ?_, rfl⟩) ?_
  · simp [hfirst, hsecond]
  · simp only [Registry.loadDirectory_registry, directoryDefinitions, takenOverFiles_schemaFiles,
      List.takeWhile_cons, hfirst, hsecond, if_true, List.takeWhile_nil, List.flatMap_cons,
      fileDefinitions, hnames.1, hnames.2, takenOverFiles_first, takenOverFiles_second]
    rfl

theorem Registry.lookup_loadDirectory_second :
    let load := Registry.empty.loadDirectory takenOverFiles ⟨"d"⟩
    (load.1 = .ok 2 ∧ takenOverFiles.entries ⟨"d"⟩ = .ok ["a.json", "b.json"] ∧
        ∀ name ∈ ["a.json", "b.json"], FilePath.IsName name) ∧
      load.2.lookup "b.json" = some (.object [("$id", .string "a.json")]) := by
  intro load
  have hload : load.1 = .ok 2 := congrArg Prod.fst takenOverFiles_loadDirectory
  have hnames : takenOverFiles.entries ⟨"d"⟩ = .ok ["a.json", "b.json"] := by decide
  have hsteps : ∀ name ∈ ["a.json", "b.json"], FilePath.IsName name := by
    simp only [List.forall_mem_cons, List.not_mem_nil, false_implies, implies_true, and_true]
    exact ⟨by constructor <;> decide, by constructor <;> decide⟩
  refine ⟨⟨hload, hnames, hsteps⟩, ?_⟩
  obtain ⟨schema, last, supplied, hschema, -, hlookup, hfree⟩ :=
    Registry.lookup_loadDirectory hload hnames hsteps "b.json" (by decide) (by decide) (by decide)
  obtain rfl := Except.ok.inj (hschema.document.symm.trans takenOverFiles_second)
  rw [hlookup, hfree]
  intro later schema' hlater hlt
  obtain ⟨names, hnames', hmem⟩ := hlater.listed
  obtain rfl := Except.ok.inj (hnames.symm.trans hnames')
  have hnone : ∀ name ∈ ["a.json", "b.json"], ¬"b.json" < name := by decide
  exact absurd hlt (hnone later hmem)

theorem Registry.lookup_of_taken_over :
    let load := Registry.empty.loadDirectory takenOverFiles ⟨"d"⟩
    load.1 = .ok 2 ∧ takenOverFiles.SchemaFile ⟨"d"⟩ "a.json" (.bool true) ∧
      load.2.lookup "a.json" ≠ some (.bool true) := by
  have hlisted : takenOverFiles.entries ⟨"d"⟩ = .ok ["a.json", "b.json"] := by decide
  refine ⟨congrArg Prod.fst takenOverFiles_loadDirectory,
    ⟨⟨_, hlisted, List.mem_cons_self⟩, by decide, by decide, takenOverFiles_first⟩, ?_⟩
  rw [takenOverFiles_loadDirectory, lookup_define_empty]
  show some (Value.object _) ≠ some (.bool true)
  simp

end Loaded

end TreeSchema
