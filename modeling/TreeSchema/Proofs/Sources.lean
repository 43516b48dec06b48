import Mathlib.Data.List.TakeWhile
import TreeSchema.Run
import TreeSchema.Proofs.Subtree

/-!
# What sources register

A source of schemas, a directory or a single file, is read as a list of
definitions, ids with schemas in the order in which they are registered. A
registry that has taken definitions in stands for the last one of each id. One
lemma for each function that loads says when it succeeds and what it registers.
-/

namespace TreeSchema

-- -----------------------------------------------------------------------------
-- Results

section Results

variable {ε ε' α β : Type} {a : α} {b : β}

theorem bind_eq_ok {x : Except ε α} {f : α → Except ε β} :
    x >>= f = .ok b ↔ ∃ a, x = .ok a ∧ f a = .ok b := by
  cases x <;> simp [bind, Except.bind]

theorem map_eq_ok {x : Except ε α} {f : α → β} : x.map f = .ok b ↔ ∃ a, x = .ok a ∧ f a = b := by
  cases x <;> simp [Except.map]

theorem mapError_eq_ok {x : Except ε α} {f : ε → ε'} : x.mapError f = .ok a ↔ x = .ok a := by
  cases x <;> simp [Except.mapError]

end Results

-- -----------------------------------------------------------------------------
-- Definitions

def lastDefined (definitions : List (String × Value)) (id : String) : Option Value :=
  definitions.reverse.lookup id

theorem lastDefined_append (definitions later : List (String × Value)) (id : String) :
    lastDefined (definitions ++ later) id = (lastDefined later id).or (lastDefined definitions id) := by
  simp only [lastDefined, List.reverse_append, List.lookup_append]

theorem lastDefined_cons (other : String) (schema : Value) (later : List (String × Value))
    (id : String) :
    lastDefined ((other, schema) :: later) id =
      (lastDefined later id).or (if id = other then some schema else none) := by
  rw [← List.singleton_append, lastDefined_append]
  by_cases h : id = other <;> simp [lastDefined, List.lookup_cons, h, beq_eq_false_iff_ne.mpr]

theorem lastDefined_isSome {definitions : List (String × Value)} {id : String} :
    (lastDefined definitions id).isSome = true ↔ ∃ schema, (id, schema) ∈ definitions := by
  simp only [lastDefined, List.lookup_isSome_iff, List.mem_reverse, beq_iff_eq]
  constructor
  · rintro ⟨⟨_, schema⟩, hmem, rfl⟩
    exact ⟨schema, hmem⟩
  · rintro ⟨schema, hmem⟩
    exact ⟨(id, schema), hmem, rfl⟩

theorem mem_of_lastDefined {definitions : List (String × Value)} {id : String} {schema : Value}
    (h : lastDefined definitions id = some schema) : (id, schema) ∈ definitions :=
  List.mem_reverse.mp (mem_of_lookup h)

namespace Registry

variable {registry registry' : Registry}

def define (registry : Registry) (definitions : List (String × Value)) : Registry :=
  definitions.foldl (fun registry definition => registry.register definition.1 definition.2) registry

theorem define_append (registry : Registry) (definitions later : List (String × Value)) :
    registry.define (definitions ++ later) = (registry.define definitions).define later :=
  List.foldl_append

theorem registerAll_eq_define (registry : Registry) (ids : List String) (schema : Value) :
    registry.registerAll ids schema = registry.define (ids.map fun id => (id, schema)) := by
  simp only [registerAll, define, List.foldl_map]

theorem lookup_define (registry : Registry) (definitions : List (String × Value)) (id : String) :
    (registry.define definitions).lookup id =
      (lastDefined definitions id).or (registry.lookup id) := by
  induction definitions generalizing registry with
  | nil => rfl
  | cons definition rest ih =>
    obtain ⟨other, schema⟩ := definition
    show ((registry.register other schema).define rest).lookup id = _
    rw [ih, lookup_register, lastDefined_cons, Option.or_assoc]
    split <;> rfl

theorem lookup_define_empty (definitions : List (String × Value)) (id : String) :
    (empty.define definitions).lookup id = lastDefined definitions id := by
  rw [lookup_define, lookup_empty, Option.or_none]

end Registry

-- -----------------------------------------------------------------------------
-- Sources

inductive SchemaSource where
  | directory (path : FilePath)
  | file (id : String) (path : FilePath)

def SchemaSource.ofEntries (entries : List (String × FilePath)) : List SchemaSource :=
  entries.map fun entry => .file entry.1 entry.2

/-- The schema of a file, under its `$id` if that is a string, and then under the
name of the file. A file that does not load defines nothing. -/
def FileSystem.fileDefinitions (files : FileSystem) (path : FilePath) : List (String × Value) :=
  match path.fileName?, files.loadDocument path with
  | some name, .ok schema =>
    match schema.member? "$id" with
    | some (.string id) => [(id, schema), (name, schema)]
    | _ => [(name, schema)]
  | _, _ => []

namespace SchemaSource

variable {files : FileSystem} {source : SchemaSource} {id : String}

def definitions (files : FileSystem) : SchemaSource → List (String × Value)
  | .directory path =>
    match files.schemaFiles path with
    | .ok paths => paths.flatMap files.fileDefinitions
    | .error _ => []
  | .file id path =>
    match files.loadDocument path with
    | .ok schema => [(id, schema)]
    | .error _ => []

def supplied (files : FileSystem) (sources : List SchemaSource) (id : String) : Option Value :=
  lastDefined (sources.flatMap (definitions files)) id

/-- A directory defines the names of its schema files and the strings under
`$id` in them. -/
inductive Defines (files : FileSystem) (id : String) : SchemaSource → Prop
  | name {directory path : FilePath} {paths : List FilePath} :
      files.schemaFiles directory = .ok paths → path ∈ paths → path.fileName? = some id →
      Defines files id (.directory directory)
  | declared {directory path : FilePath} {paths : List FilePath} {schema : Value} :
      files.schemaFiles directory = .ok paths → path ∈ paths →
      files.loadDocument path = .ok schema → schema.member? "$id" = some (.string id) →
      Defines files id (.directory directory)
  | file {path : FilePath} : Defines files id (.file id path)

def Loads (files : FileSystem) : SchemaSource → Prop
  | .directory path => ∃ paths, files.schemaFiles path = .ok paths ∧
      ∀ path ∈ paths, ∃ name schema, path.fileName? = some name ∧
        files.loadDocument path = .ok schema
  | .file _ path => ∃ schema, files.loadDocument path = .ok schema

theorem mem_fileDefinitions {path : FilePath} {name : String} {schema schema' : Value}
    (hname : path.fileName? = some name) (hdocument : files.loadDocument path = .ok schema) :
    (id, schema') ∈ files.fileDefinitions path ↔
      schema' = schema ∧ (schema.member? "$id" = some (.string id) ∨ id = name) := by
  simp only [FileSystem.fileDefinitions, hname, hdocument]
  split
  · rename_i declared hdeclared
    simp only [List.mem_cons, List.not_mem_nil, or_false, Prod.mk.injEq, hdeclared,
      Option.some.injEq, Value.string.injEq, eq_comm (a := declared)]
    exact ⟨fun h => h.elim (fun h => ⟨h.2, .inl h.1⟩) (fun h => ⟨h.2, .inr h.1⟩),
      fun h => h.2.imp (⟨·, h.1⟩) (⟨·, h.1⟩)⟩
  · rename_i hother
    have hnone : schema.member? "$id" ≠ some (.string id) := hother id
    simp only [List.mem_singleton, Prod.mk.injEq, hnone, false_or, and_comm]

theorem defines_iff (h : source.Loads files) :
    source.Defines files id ↔ ∃ schema, (id, schema) ∈ source.definitions files := by
  cases source with
  | directory directory =>
    obtain ⟨paths, hpaths, hload⟩ := h
    simp only [definitions, hpaths, List.mem_flatMap]
    constructor
    · intro hdefines
      cases hdefines with
      | @name _ path paths' hpaths' hmem hname =>
        obtain rfl := Except.ok.inj (hpaths.symm.trans hpaths')
        obtain ⟨_, schema, hname', hdocument⟩ := hload path hmem
        obtain rfl := Option.some.inj (hname.symm.trans hname')
        exact ⟨schema, path, hmem, (mem_fileDefinitions hname hdocument).mpr ⟨rfl, .inr rfl⟩⟩
      | @declared _ path paths' schema hpaths' hmem hdocument hid =>
        obtain rfl := Except.ok.inj (hpaths.symm.trans hpaths')
        obtain ⟨_, _, hname, -⟩ := hload path hmem
        exact ⟨schema, path, hmem, (mem_fileDefinitions hname hdocument).mpr ⟨rfl, .inl hid⟩⟩
    · rintro ⟨schema', path, hmem, hdefinition⟩
      obtain ⟨name, schema, hname, hdocument⟩ := hload path hmem
      obtain ⟨rfl, hid | rfl⟩ := (mem_fileDefinitions hname hdocument).mp hdefinition
      · exact .declared hpaths hmem hdocument hid
      · exact .name hpaths hmem hname
  | file other path =>
    obtain ⟨schema, hdocument⟩ := h
    simp only [definitions, hdocument, List.mem_singleton, Prod.mk.injEq]
    constructor
    · intro hdefines
      cases hdefines
      exact ⟨schema, rfl, rfl⟩
    · rintro ⟨_, rfl, rfl⟩
      exact .file

theorem supplied_append (files : FileSystem) (sources later : List SchemaSource) (id : String) :
    supplied files (sources ++ later) id =
      (supplied files later id).or (supplied files sources id) := by
  simp only [supplied, List.flatMap_append, lastDefined_append]

theorem supplied_isSome {sources : List SchemaSource} (h : ∀ source ∈ sources, source.Loads files) :
    (supplied files sources id).isSome = true ↔ ∃ source ∈ sources, source.Defines files id := by
  simp only [supplied, lastDefined_isSome, List.mem_flatMap]
  constructor
  · rintro ⟨schema, source, hmem, hdefinition⟩
    exact ⟨source, hmem, (defines_iff (h source hmem)).mpr ⟨schema, hdefinition⟩⟩
  · rintro ⟨source, hmem, hdefines⟩
    obtain ⟨schema, hdefinition⟩ := (defines_iff (h source hmem)).mp hdefines
    exact ⟨schema, source, hmem, hdefinition⟩

theorem supplied_eq_none {sources : List SchemaSource} (h : ∀ source ∈ sources, source.Loads files) :
    supplied files sources id = none ↔ ¬∃ source ∈ sources, source.Defines files id := by
  rw [← supplied_isSome h, Option.not_isSome_iff_eq_none]

end SchemaSource

-- -----------------------------------------------------------------------------
-- Loading

namespace FileSystem

variable {files : FileSystem} {path : FilePath}

theorem loadDocument_of_json {text : String} {schema : Value} (hread : files.read path = .ok text)
    (hformat : Format.ofPath? path = some .json)
    (hjson : Json.read greatestJsonDepth text = some schema) :
    files.loadDocument path = .ok schema := by
  simp only [loadDocument, hread, hformat, Option.getD_some, parseDocument, hjson, Except.mapError,
    bind, Except.bind]

def holdsSchema (files : FileSystem) (path : FilePath) : Bool :=
  path.fileName?.isSome && (files.loadDocument path).isOk

theorem holdsSchema_iff : files.holdsSchema path = true ↔
    ∃ name schema, path.fileName? = some name ∧ files.loadDocument path = .ok schema := by
  unfold holdsSchema
  cases path.fileName? <;> cases files.loadDocument path <;>
    simp [Except.isOk, Except.toBool]

theorem fileDefinitions_of_not_holdsSchema (h : files.holdsSchema path = false) :
    files.fileDefinitions path = [] := by
  unfold fileDefinitions
  split
  · rename_i name schema hname hdocument
    rw [← Bool.not_eq_true, holdsSchema_iff] at h
    exact absurd ⟨name, schema, hname, hdocument⟩ h
  · rfl

def schemaFilesOf (files : FileSystem) (directory : FilePath) (names : List String) :
    List FilePath :=
  (names.map fun name => (FilePath.mk name).under directory).filter fun path =>
    files.isFile path && path.extension? ∈ [some "json", some "yaml", some "yml"]

theorem isSome_ofPath? (path : FilePath) :
    (Format.ofPath? path).isSome =
      decide (path.extension? ∈ [some "json", some "yaml", some "yml"]) := by
  unfold Format.ofPath?
  split <;> simp_all

theorem pairwise_mergeSort_le (names : List String) :
    (names.mergeSort fun a b => a ≤ b).Pairwise (· ≤ ·) := by
  refine (List.pairwise_mergeSort (fun a b c hab hbc => ?_) (fun a b => ?_) names).imp
    of_decide_eq_true
  · exact decide_eq_true (String.le_trans (of_decide_eq_true hab) (of_decide_eq_true hbc))
  · simpa using String.le_total a b

/-- In whatever order the names of a directory are listed, its schema files are
in ascending order. -/
theorem schemaFiles_of_perm {directory : FilePath} {names ordered : List String}
    (hnames : files.entries directory = .ok names) (hperm : ordered.Perm names)
    (hordered : ordered.Pairwise (· ≤ ·)) :
    files.schemaFiles directory = .ok (files.schemaFilesOf directory ordered) := by
  have hsort : (names.mergeSort fun a b => a ≤ b) = ordered :=
    ((List.mergeSort_perm names _).trans hperm.symm).eq_of_pairwise
      (fun a b _ _ => String.le_antisymm) (pairwise_mergeSort_le names) hordered
  simp only [schemaFiles, hnames, bind, Except.bind, pure, Except.pure, hsort, schemaFilesOf,
    isSome_ofPath?]

/-- What a directory registers: its schema files up to the first that fails. -/
def directoryDefinitions (files : FileSystem) (directory : FilePath) : List (String × Value) :=
  match files.schemaFiles directory with
  | .ok paths => (paths.takeWhile files.holdsSchema).flatMap files.fileDefinitions
  | .error _ => []

end FileSystem

namespace Registry

open SchemaSource

variable {files : FileSystem} {registry registry' : Registry}

theorem registerAll_fileIds {path : FilePath} {name : String} {schema : Value}
    (hname : path.fileName? = some name) (hdocument : files.loadDocument path = .ok schema)
    (registry : Registry) :
    registry.registerAll (fileIds name schema) schema =
      registry.define (files.fileDefinitions path) := by
  simp only [registerAll_eq_define, fileIds, FileSystem.fileDefinitions, hname, hdocument]
  cases schema.member? "$id" with
  | none => rfl
  | some held => cases held <;> rfl

theorem loadFile_eq_ok {path : FilePath} {name : String} :
    registry.loadFile files path = .ok (name, registry') ↔
      path.fileName? = some name ∧ (∃ schema, files.loadDocument path = .ok schema) ∧
        registry' = registry.define (files.fileDefinitions path) := by
  unfold loadFile
  cases hname : path.fileName? with
  | none => simp
  | some other =>
    cases hdocument : files.loadDocument path with
    | error fault => simp
    | ok schema => simp [registerAll_fileIds hname hdocument, eq_comm]

theorem not_holdsSchema_of_loadFile {path : FilePath} {error : SchemaError}
    (h : registry.loadFile files path = .error error) : files.holdsSchema path = false := by
  rw [← Bool.not_eq_true, FileSystem.holdsSchema_iff]
  rintro ⟨name, schema, hname, hdocument⟩
  simp [loadFile_eq_ok.mpr ⟨hname, ⟨schema, hdocument⟩, rfl⟩] at h

theorem loadFiles_eq (registry : Registry) (files : FileSystem) (paths : List FilePath) :
    (registry.loadFiles files paths).2 =
        registry.define ((paths.takeWhile files.holdsSchema).flatMap files.fileDefinitions) ∧
      ((registry.loadFiles files paths).1 = none ↔ ∀ path ∈ paths, files.holdsSchema path = true) := by
  induction paths generalizing registry with
  | nil => exact ⟨rfl, by simp [loadFiles]⟩
  | cons path rest ih =>
    unfold loadFiles
    cases hload : registry.loadFile files path with
    | error error =>
      simp [not_holdsSchema_of_loadFile hload, define]
    | ok loaded =>
      obtain ⟨name, next⟩ := loaded
      obtain ⟨hname, ⟨schema, hdocument⟩, rfl⟩ := loadFile_eq_ok.mp hload
      have hholds : files.holdsSchema path = true :=
        FileSystem.holdsSchema_iff.mpr ⟨name, schema, hname, hdocument⟩
      obtain ⟨hregistry, hnone⟩ := ih (registry.define (files.fileDefinitions path))
      constructor
      · simp only [hregistry, List.takeWhile_cons, hholds, if_true, List.flatMap_cons, define_append]
      · simp only [hnone, List.forall_mem_cons, hholds, true_and]

theorem loadDirectory_eq_ok {directory : FilePath} {count : Nat} :
    (registry.loadDirectory files directory).1 = .ok count ↔
      ∃ paths, files.schemaFiles directory = .ok paths ∧
        (∀ path ∈ paths, files.holdsSchema path = true) ∧ paths.length = count := by
  unfold loadDirectory
  cases files.schemaFiles directory with
  | error error => simp
  | ok paths =>
    obtain ⟨-, hnone⟩ := loadFiles_eq registry files paths
    cases hload : registry.loadFiles files paths with
    | mk failure next =>
      rw [hload] at hnone
      cases failure <;> simp [hload, ← hnone]

theorem loadDirectory_registry (registry : Registry) (files : FileSystem) (directory : FilePath) :
    (registry.loadDirectory files directory).2 =
      registry.define (files.directoryDefinitions directory) := by
  unfold loadDirectory FileSystem.directoryDefinitions
  cases files.schemaFiles directory with
  | error error => rfl
  | ok paths =>
    obtain ⟨hregistry, -⟩ := loadFiles_eq registry files paths
    show _ = registry.define _
    rw [← hregistry]
    cases hload : registry.loadFiles files paths with
    | mk failure next => cases failure <;> simp [hload]

theorem loads_of_loadDirectory {directory : FilePath} {count : Nat}
    (h : (registry.loadDirectory files directory).1 = .ok count) :
    (SchemaSource.directory directory).Loads files := by
  obtain ⟨paths, hpaths, hfiles, -⟩ := loadDirectory_eq_ok.mp h
  exact ⟨paths, hpaths, fun path hmem => FileSystem.holdsSchema_iff.mp (hfiles path hmem)⟩

theorem loadDirectory_of_loads {directory : FilePath}
    (h : (SchemaSource.directory directory).Loads files) (registry : Registry) :
    ∃ count, registry.loadDirectory files directory =
      (.ok count, registry.define ((SchemaSource.directory directory).definitions files)) := by
  obtain ⟨paths, hpaths, hfiles⟩ := h
  have hholds : ∀ path ∈ paths, files.holdsSchema path = true :=
    fun path hmem => FileSystem.holdsSchema_iff.mpr (hfiles path hmem)
  have hdefinitions : files.directoryDefinitions directory =
      (SchemaSource.directory directory).definitions files := by
    simp only [FileSystem.directoryDefinitions, definitions, hpaths,
      List.takeWhile_eq_self_iff.mpr hholds]
  have hok : (registry.loadDirectory files directory).1 = .ok paths.length :=
    loadDirectory_eq_ok.mpr ⟨paths, hpaths, hholds, rfl⟩
  refine ⟨paths.length, Prod.ext hok ?_⟩
  rw [loadDirectory_registry, hdefinitions]

theorem addDirectories_eq_ok {directories : List FilePath} :
    registry.addDirectories files directories = .ok registry' ↔
      (∀ source ∈ directories.map SchemaSource.directory, source.Loads files) ∧
        registry' = registry.define
          ((directories.map SchemaSource.directory).flatMap (definitions files)) := by
  induction directories generalizing registry with
  | nil => simp [addDirectories, define, eq_comm]
  | cons directory rest ih =>
    unfold addDirectories
    rw [List.map_cons, List.forall_mem_cons, List.flatMap_cons, define_append]
    by_cases hloads : (SchemaSource.directory directory).Loads files
    · obtain ⟨count, hload⟩ := loadDirectory_of_loads hloads registry
      simp only [hload, hloads, true_and, ih]
    · rcases hload : registry.loadDirectory files directory with ⟨error | count, next⟩
      · simp [hloads]
      · exact absurd (loads_of_loadDirectory (congrArg Prod.fst hload)) hloads

theorem addFiles_eq_ok {entries : List (String × FilePath)} :
    registry.addFiles files entries = .ok registry' ↔
      (∀ source ∈ ofEntries entries, source.Loads files) ∧
        registry' = registry.define ((ofEntries entries).flatMap (definitions files)) := by
  induction entries generalizing registry with
  | nil => simp [addFiles, ofEntries, define, eq_comm]
  | cons entry rest ih =>
    obtain ⟨id, path⟩ := entry
    unfold addFiles
    rw [show ofEntries ((id, path) :: rest) = .file id path :: ofEntries rest from rfl,
      List.forall_mem_cons, List.flatMap_cons, define_append]
    cases hdocument : files.loadDocument path with
    | error fault => simp [Loads, hdocument]
    | ok schema =>
      have hdefinitions : (SchemaSource.file id path).definitions files = [(id, schema)] := by
        simp only [definitions, hdocument]
      have hloads : (SchemaSource.file id path).Loads files := ⟨schema, hdocument⟩
      simp only [ih, hdefinitions, hloads, true_and]
      rfl

end Registry

def SchemaSource.all (config : Config) (directories : List FilePath)
    (registrations : List Registration) : List SchemaSource :=
  (config.schemaDirectories ++ directories).map .directory ++
    ofEntries (config.schemas ++ registrations.map fun r => (r.id, r.path))

theorem Registry.build_eq_ok {files : FileSystem} {config : Config} {directories : List FilePath}
    {registrations : List Registration} {registry : Registry} :
    Registry.build files config directories registrations = .ok registry ↔
      (∀ source ∈ SchemaSource.all config directories registrations, source.Loads files) ∧
        registry = empty.define ((SchemaSource.all config directories registrations).flatMap
          (SchemaSource.definitions files)) := by
  simp only [build, bind_eq_ok, addDirectories_eq_ok, addFiles_eq_ok, SchemaSource.all,
    List.forall_mem_append, List.flatMap_append, define_append]
  constructor
  · rintro ⟨_, ⟨hdirectories, rfl⟩, hfiles, rfl⟩
    exact ⟨⟨hdirectories, hfiles⟩, rfl⟩
  · rintro ⟨⟨hdirectories, hfiles⟩, rfl⟩
    exact ⟨_, ⟨hdirectories, rfl⟩, hfiles, rfl⟩

end TreeSchema
