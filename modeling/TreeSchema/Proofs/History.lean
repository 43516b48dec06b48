import Mathlib
import TreeSchema.Session
import TreeSchema.Proofs.Sources
import TreeSchema.Proofs.WellFormed

/-!
# The history of a registry

The history of a session is what its steps have registered since the registry was
empty, in order. After each step the registry stands for the last definition of
each id in the history, and all its views agree on that: `registry_after`.
-/

namespace TreeSchema

-- -----------------------------------------------------------------------------
-- Views of a registry

namespace Registry

variable {registry : Registry} {id : String} {log : List (String × Value)}

theorem ids_pairwise (registry : Registry) : registry.ids.Pairwise (· < ·) :=
  registry.sorted.keys_pairwise

theorem mem_ids : id ∈ registry.ids ↔ (registry.lookup id).isSome = true := by
  simp [ids, Assoc.keys, lookup, List.lookup_isSome_iff]

theorem length_ids (registry : Registry) : registry.ids.length = registry.size :=
  List.length_map _

theorem isEmpty_iff : registry.isEmpty = true ↔ registry.ids = [] := by
  simp [isEmpty, ids, Assoc.keys]

theorem mem_ids_define : id ∈ (empty.define log).ids ↔ ∃ schema, (id, schema) ∈ log := by
  rw [mem_ids, lookup_define_empty, lastDefined_isSome]

theorem size_define (log : List (String × Value)) :
    (empty.define log).size = (log.map Prod.fst).dedup.length := by
  have hperm : (empty.define log).ids.Perm (log.map Prod.fst).dedup := by
    refine (List.perm_ext_iff_of_nodup (empty.define log).sorted.keys_nodup
      (List.nodup_dedup _)).mpr fun id => ?_
    rw [List.mem_dedup]
    exact mem_ids_define.trans (by simp)
  rw [← length_ids, hperm.length_eq]

theorem isEmpty_define : (empty.define log).isEmpty = true ↔ log = [] := by
  rw [isEmpty_iff, List.eq_nil_iff_forall_not_mem, List.eq_nil_iff_forall_not_mem]
  simp [mem_ids_define]

end Registry

-- -----------------------------------------------------------------------------
-- Steps

namespace Session

structure Moment where
  files : FileSystem
  step : Step

def Moment.definitions (m : Moment) : List (String × Value) :=
  match m.step with
  | .register id schema => [(id, schema)]
  | .loadFile path => m.files.fileDefinitions path
  | .loadDirectory path => m.files.directoryDefinitions path
  | _ => []

def Moment.extend (log : List (String × Value)) (m : Moment) : List (String × Value) :=
  match m.step with
  | .reset => []
  | _ => log ++ m.definitions

/-- What has been registered since the registry was empty, in order. -/
def history (moments : List Moment) : List (String × Value) := moments.foldl Moment.extend []

def registryAfter (moments : List Moment) : Registry :=
  moments.foldl (fun registry m => (perform m.files registry m.step).2) .empty

variable {files : FileSystem} {registry : Registry}

theorem perform_registry (files : FileSystem) (registry : Registry) {step : Step}
    (h : step ≠ .reset) :
    (perform files registry step).2 = registry.define (Moment.definitions ⟨files, step⟩) := by
  cases step with
  | reset => exact absurd rfl h
  | register id schema => rfl
  | loadDirectory directory => exact registry.loadDirectory_registry files directory
  | loadFile path =>
    simp only [perform, Moment.definitions]
    cases hload : registry.loadFile files path with
    | error error =>
      rw [FileSystem.fileDefinitions_of_not_holdsSchema
        (Registry.not_holdsSchema_of_loadFile hload)]
      rfl
    | ok loaded =>
      obtain ⟨-, -, hregistry⟩ := Registry.loadFile_eq_ok.mp hload
      exact hregistry
  | validateRegistered value id =>
    simp only [perform]
    cases registry.validateRegistered value id <;> rfl
  | _ => rfl

theorem perform_extend (m : Moment) (log : List (String × Value)) :
    (perform m.files (Registry.empty.define log) m.step).2 =
      Registry.empty.define (m.extend log) := by
  unfold Moment.extend
  split
  · rename_i h
    rw [h]
    rfl
  · rename_i h
    rw [perform_registry m.files _ h, Registry.define_append]

theorem registryAfter_eq_define (moments : List Moment) :
    registryAfter moments = Registry.empty.define (history moments) := by
  induction moments using List.reverseRecOn with
  | nil => rfl
  | append_singleton moments m ih =>
    simp only [registryAfter, history, List.foldl_append, List.foldl_cons, List.foldl_nil] at ih ⊢
    rw [ih, perform_extend]

-- -----------------------------------------------------------------------------
-- Answers

theorem loadFile_answer {path : FilePath} {name : String} :
    (perform files registry (.loadFile path)).1 = .named name ↔
      path.fileName? = some name ∧ ∃ schema, files.loadDocument path = .ok schema := by
  simp only [perform]
  cases hload : registry.loadFile files path with
  | error error =>
    have hfails := Registry.not_holdsSchema_of_loadFile hload
    rw [← Bool.not_eq_true, FileSystem.holdsSchema_iff] at hfails
    simp only [reduceCtorEq, false_iff]
    rintro ⟨hname, schema, hdocument⟩
    exact hfails ⟨name, schema, hname, hdocument⟩
  | ok loaded =>
    obtain ⟨other, next⟩ := loaded
    obtain ⟨hname, hdocument, -⟩ := Registry.loadFile_eq_ok.mp hload
    simp [hname, hdocument]

theorem loadDirectory_answer {directory : FilePath} {count : Nat} :
    (perform files registry (.loadDirectory directory)).1 = .loaded count ↔
      ∃ paths, files.schemaFiles directory = .ok paths ∧
        (∀ path ∈ paths, files.holdsSchema path = true) ∧ paths.length = count := by
  have hanswer : (perform files registry (.loadDirectory directory)).1 = .loaded count ↔
      (registry.loadDirectory files directory).1 = .ok count := by
    show Answer.ofExcept .loaded (registry.loadDirectory files directory).1 = _ ↔ _
    cases (registry.loadDirectory files directory).1 <;> simp [Answer.ofExcept]
  rw [hanswer, Registry.loadDirectory_eq_ok]

/-- After any steps the registry stands for the last definition of each id in the
history, and all its views agree. A directory registers its schema files in the
ascending order of their names, in whatever order they are listed, up to the first
that fails; its answer is their number if none does. -/
theorem registry_after (moments : List Moment) :
    let registry := registryAfter moments
    let log := history moments
    (∀ id, registry.lookup id = lastDefined log id ∧
      registry.contains id = (lastDefined log id).isSome ∧
      (id ∈ registry.ids ↔ ∃ schema, (id, schema) ∈ log)) ∧
    registry.ids.Pairwise (· < ·) ∧
    registry.size = (log.map Prod.fst).dedup.length ∧
    (registry.isEmpty = true ↔ log = []) ∧
    (∀ files id schema,
      (perform files registry (.register id schema)).1 = .schema (lastDefined log id)) ∧
    (∀ files path name, (perform files registry (.loadFile path)).1 = .named name ↔
      path.fileName? = some name ∧ ∃ schema, files.loadDocument path = .ok schema) ∧
    ∀ files directory names ordered, files.entries directory = .ok names →
      ordered.Perm names → ordered.Pairwise (· ≤ ·) →
      let paths := files.schemaFilesOf directory ordered
      (Moment.mk files (.loadDirectory directory)).definitions =
        (paths.takeWhile files.holdsSchema).flatMap files.fileDefinitions ∧
      ∀ count, (perform files registry (.loadDirectory directory)).1 = .loaded count ↔
        (∀ path ∈ paths, files.holdsSchema path = true) ∧ paths.length = count := by
  intro registry log
  have hregistry : registry = Registry.empty.define log := registryAfter_eq_define moments
  have hlookup (id : String) : registry.lookup id = lastDefined log id := by
    rw [hregistry, Registry.lookup_define_empty]
  refine ⟨fun id => ⟨hlookup id, ?_, ?_⟩, registry.ids_pairwise, ?_, ?_, ?_, ?_, ?_⟩
  · rw [Registry.contains, hlookup]
  · rw [hregistry, Registry.mem_ids_define]
  · rw [hregistry, Registry.size_define]
  · rw [hregistry, Registry.isEmpty_define]
  · exact fun files id schema => congrArg Answer.schema (hlookup id)
  · exact fun files path name => loadFile_answer
  · intro files directory names ordered hnames hperm hordered paths
    have hpaths : files.schemaFiles directory = .ok paths :=
      FileSystem.schemaFiles_of_perm hnames hperm hordered
    constructor
    · simp only [Moment.definitions, FileSystem.directoryDefinitions, hpaths]
    · intro count
      simp [loadDirectory_answer, hpaths]

/-- A directory that lists its files backwards. The second schema file takes over
the name of the first, and the third is no document. -/
def backwardFiles : FileSystem :=
  (FileTree.directory [("d", .directory
    [("e.json", .file (some "false")),
     ("c.json", .file (some "")),
     ("b.json", .file (some "\x7b\"$id\": \"a.json\"\x7d")),
     ("a.json", .file (some "true"))])]).view

theorem backwardFiles_definitions :
    let taking : Value := .object [("$id", .string "a.json")]
    let paths : List FilePath := [⟨"d/a.json"⟩, ⟨"d/b.json"⟩, ⟨"d/c.json"⟩, ⟨"d/e.json"⟩]
    backwardFiles.holdsSchema ⟨"d/c.json"⟩ = false ∧
      (paths.takeWhile backwardFiles.holdsSchema).flatMap backwardFiles.fileDefinitions =
        [("a.json", .bool true), ("a.json", taking), ("b.json", taking)] := by
  intro taking paths
  have hfirst : backwardFiles.loadDocument ⟨"d/a.json"⟩ = .ok (.bool true) :=
    FileSystem.loadDocument_of_json rfl (by decide) (by cbv)
  have hsecond : backwardFiles.loadDocument ⟨"d/b.json"⟩ = .ok taking :=
    FileSystem.loadDocument_of_json rfl (by decide) (by cbv)
  have hthird : backwardFiles.holdsSchema ⟨"d/c.json"⟩ = false := by decide
  have hnames : (FilePath.mk "d/a.json").fileName? = some "a.json" ∧
      (FilePath.mk "d/b.json").fileName? = some "b.json" := by decide
  have hholds : backwardFiles.holdsSchema ⟨"d/a.json"⟩ = true ∧
      backwardFiles.holdsSchema ⟨"d/b.json"⟩ = true :=
    ⟨FileSystem.holdsSchema_iff.mpr ⟨_, _, hnames.1, hfirst⟩,
      FileSystem.holdsSchema_iff.mpr ⟨_, _, hnames.2, hsecond⟩⟩
  refine ⟨hthird, ?_⟩
  simp only [paths, List.takeWhile_cons, hholds.1, hholds.2, hthird, if_true, Bool.false_eq_true,
    if_false, List.flatMap_cons, FileSystem.fileDefinitions, hnames.1, hnames.2, hfirst, hsecond]
  rfl

/-- A load that stops at a file: what comes before it replaces earlier schemas, by
the `$id` of a file as by its name, and what comes after it is not registered. -/
theorem registry_after_stopped_load :
    let taking : Value := .object [("$id", .string "a.json")]
    let moments : List Moment :=
      [⟨backwardFiles, .register "a.json" .null⟩, ⟨backwardFiles, .register "c.json" .null⟩,
       ⟨backwardFiles, .loadDirectory ⟨"d"⟩⟩]
    let registry := registryAfter moments
    (["a.json", "b.json", "c.json", "e.json"].Perm ["e.json", "c.json", "b.json", "a.json"] ∧
        ["a.json", "b.json", "c.json", "e.json"].Pairwise (· ≤ ·)) ∧
      registry.lookup "a.json" = some taking ∧ registry.lookup "b.json" = some taking ∧
      registry.lookup "c.json" = some .null ∧ registry.lookup "e.json" = none ∧
      registry.size = 3 ∧
      ∀ count, (perform backwardFiles registry (.loadDirectory ⟨"d"⟩)).1 ≠ .loaded count := by
  intro taking moments registry
  have hperm : ["a.json", "b.json", "c.json", "e.json"].Perm
      ["e.json", "c.json", "b.json", "a.json"] := by decide
  have hordered : ["a.json", "b.json", "c.json", "e.json"].Pairwise (· ≤ ·) := by decide
  have hpaths : backwardFiles.schemaFilesOf ⟨"d"⟩ ["a.json", "b.json", "c.json", "e.json"] =
      [⟨"d/a.json"⟩, ⟨"d/b.json"⟩, ⟨"d/c.json"⟩, ⟨"d/e.json"⟩] := by decide
  obtain ⟨hviews, -, hsize, -, -, -, hdirectory⟩ := registry_after moments
  obtain ⟨hdefinitions, hanswer⟩ := hdirectory backwardFiles ⟨"d"⟩ _ _ rfl hperm hordered
  obtain ⟨hthird, hregistered⟩ := backwardFiles_definitions
  have hlog : history moments =
      [("a.json", .null), ("c.json", .null), ("a.json", .bool true), ("a.json", taking),
       ("b.json", taking)] := by
    show [("a.json", Value.null), ("c.json", Value.null)] ++
      (Moment.mk backwardFiles (.loadDirectory ⟨"d"⟩)).definitions = _
    rw [hdefinitions, hpaths, hregistered]
    rfl
  have hlookup (id : String) : registry.lookup id = lastDefined (history moments) id :=
    (hviews id).1
  rw [hlog] at hsize
  simp only [hlookup, hlog]
  refine ⟨⟨hperm, hordered⟩, rfl, rfl, rfl, rfl, hsize.trans rfl, fun count hcount => ?_⟩
  obtain ⟨hholds, -⟩ := (hanswer count).mp hcount
  have hmem : (FilePath.mk "d/c.json") ∈
      backwardFiles.schemaFilesOf ⟨"d"⟩ ["a.json", "b.json", "c.json", "e.json"] := by
    rw [hpaths]
    decide
  exact absurd (hholds _ hmem) (by rw [hthird]; decide)

-- -----------------------------------------------------------------------------
-- Sessions over a file tree

def moments (files : FileTree) : List Step → List Moment
  | [] => []
  | step :: rest => ⟨files.view, step⟩ :: moments (step.filesAfter files) rest

def after (s : Session) (steps : List Step) : Session :=
  steps.foldl (fun s step => (s.run step).2) s

theorem after_registry (s : Session) (steps : List Step) :
    (s.after steps).registry =
      (moments s.files steps).foldl (fun registry m => (perform m.files registry m.step).2)
        s.registry := by
  induction steps generalizing s with
  | nil => rfl
  | cons step rest ih => exact ih (s.run step).2

theorem runAll_append (s : Session) (steps later : List Step) :
    s.runAll (steps ++ later) = s.runAll steps ++ (s.after steps).runAll later := by
  induction steps generalizing s with
  | nil => rfl
  | cons step rest ih => exact congrArg ((s.run step) :: ·) (ih (s.run step).2)

theorem runAll_append_step (files : FileTree) (steps : List Step) (step : Step) :
    ((start files).runAll (steps ++ [step])).map Prod.fst =
      ((start files).runAll steps).map Prod.fst ++
        [(perform ((start files).after steps).files.view
          (registryAfter (moments files steps)) step).1] := by
  have hregistry : ((start files).after steps).registry = registryAfter (moments files steps) :=
    after_registry (start files) steps
  rw [runAll_append, List.map_append, ← hregistry]
  rfl

end Session

end TreeSchema
