import Mathlib
import TreeSchema.CommandLine
import TreeSchema.Files.FileTree
import TreeSchema.Proofs.Reports
import TreeSchema.Proofs.Sources

/-!
# Reports and exit codes

A validation ends with code `2` and no output unless all that it reads can be
loaded. Otherwise it reports on each document by itself, and the code says whether
all of them are valid: `result_validate`.
-/

namespace TreeSchema

theorem mapM_eq_ok {ε α β : Type} {f : α → Except ε β} {xs : List α} {ys : List β} :
    xs.mapM f = .ok ys ↔ List.Forall₂ (fun x y => f x = .ok y) xs ys := by
  induction xs generalizing ys with
  | nil => simp [pure, Except.pure, eq_comm]
  | cons x rest ih =>
    simp only [List.mapM_cons, bind_eq_ok, ih, pure, Except.pure, Except.ok.injEq,
      List.forall₂_cons_left_iff]
    constructor
    · rintro ⟨y, hy, others, hothers, rfl⟩
      exact ⟨y, others, hy, hothers, rfl⟩
    · rintro ⟨y, others, hy, hothers, rfl⟩
      exact ⟨y, hy, others, hothers, rfl⟩

-- -----------------------------------------------------------------------------
-- What can be loaded

inductive Configured (files : FileSystem) : Option FilePath → Config → Prop
  | none : Configured files none .empty
  | file {path : FilePath} {text : String} {config : Config} :
      files.read path = .ok text → Config.ofText? text = some config →
      Configured files (some path) (config.under (path.parent?.getD ⟨"."⟩))

structure Loadable (files : FileSystem) (sources : Sources) (name : String)
    (documents : List FilePath) (config : Config) : Prop where
  configured : Configured files sources.config config
  loads : ∀ source ∈ SchemaSource.all config sources.directories sources.registrations,
    source.Loads files
  /-- The schema is in a file of that name or under that id. -/
  schema : if files.isFile ⟨name⟩ then ∃ schema, files.loadDocument ⟨name⟩ = .ok schema
    else ∃ source ∈ SchemaSource.all config sources.directories sources.registrations,
      source.Defines files name
  documents : ∀ document ∈ documents, ∃ value, files.loadDocument document = .ok value

variable {files : FileSystem} {sources : Sources} {registry : Registry} {schema : Value}
  {name : String} {documents : List FilePath} {reports : List DocumentReport}

theorem Loadable.subset {documents' : List FilePath} {config : Config}
    (h : Loadable files sources name documents config)
    (hsubset : ∀ document ∈ documents', document ∈ documents) :
    Loadable files sources name documents' config :=
  ⟨h.configured, h.loads, h.schema, fun document hmem => h.documents document (hsubset document hmem)⟩

theorem Config.load_eq_ok {path : FilePath} {config : Config} :
    Config.load files path = .ok config ↔ Configured files (some path) config := by
  simp only [Config.load, bind_eq_ok, mapError_eq_ok]
  constructor
  · rintro ⟨text, htext, h⟩
    cases hconfig : Config.ofText? text with
    | none => simp [hconfig, throw, throwThe, MonadExceptOf.throw] at h
    | some written =>
      obtain rfl : written.under _ = config := by simpa [hconfig, pure, Except.pure] using h
      exact .file htext hconfig
  · intro h
    cases h with
    | @file _ text written htext hconfig =>
      exact ⟨text, htext, by simp [hconfig, pure, Except.pure]⟩

theorem Sources.load_eq_ok :
    sources.load files = .ok registry ↔ ∃ config, Configured files sources.config config ∧
      Registry.build files config sources.directories sources.registrations = .ok registry := by
  obtain ⟨_ | path, directories, registrations⟩ := sources
  · constructor
    · intro h
      exact ⟨.empty, .none, h⟩
    · rintro ⟨config, hconfig, h⟩
      cases hconfig
      exact h
  · simp only [Sources.load, bind_eq_ok, Config.load_eq_ok]

theorem findSchema_eq_ok : findSchema files registry name = .ok schema ↔
    if files.isFile ⟨name⟩ then files.loadDocument ⟨name⟩ = .ok schema
    else registry.lookup name = some schema := by
  unfold findSchema
  split
  · exact mapError_eq_ok
  · cases registry.lookup name <;> simp

theorem exists_findSchema {config : Config}
    (h : Registry.build files config sources.directories sources.registrations = .ok registry) :
    (∃ schema, findSchema files registry name = .ok schema) ↔
      if files.isFile ⟨name⟩ then ∃ schema, files.loadDocument ⟨name⟩ = .ok schema
      else ∃ source ∈ SchemaSource.all config sources.directories sources.registrations,
        source.Defines files name := by
  obtain ⟨hloads, rfl⟩ := Registry.build_eq_ok.mp h
  simp only [findSchema_eq_ok]
  split
  · rfl
  · rw [← SchemaSource.supplied_isSome hloads, Option.isSome_iff_exists,
      Registry.lookup_define_empty]
    rfl

-- -----------------------------------------------------------------------------
-- Reports

def ReportsOn (files : FileSystem) (registry : Registry) (schema : Value) (document : FilePath)
    (report : DocumentReport) : Prop :=
  ∃ value, files.loadDocument document = .ok value ∧
    ⟨document, registry.validate value schema⟩ = report

theorem validateDocuments_eq_ok :
    validateDocuments files registry schema documents = .ok reports ↔
      List.Forall₂ (ReportsOn files registry schema) documents reports := by
  simp only [validateDocuments, mapM_eq_ok, bind_eq_ok, mapError_eq_ok, pure, Except.pure,
    Except.ok.injEq]
  rfl

theorem documentReports_eq_ok :
    documentReports files sources name documents = .ok reports ↔
      ∃ registry schema, sources.load files = .ok registry ∧
        findSchema files registry name = .ok schema ∧
        List.Forall₂ (ReportsOn files registry schema) documents reports := by
  simp only [documentReports, bind_eq_ok, validateDocuments_eq_ok, exists_and_left]

theorem exists_reports :
    (∃ reports, List.Forall₂ (ReportsOn files registry schema) documents reports) ↔
      ∀ document ∈ documents, ∃ value, files.loadDocument document = .ok value := by
  induction documents with
  | nil => simp
  | cons document rest ih =>
    rw [List.forall_mem_cons, ← ih]
    constructor
    · rintro ⟨_, hreports⟩
      cases hreports with
      | cons hreport hrest =>
        obtain ⟨value, hvalue, -⟩ := hreport
        exact ⟨⟨value, hvalue⟩, _, hrest⟩
    · rintro ⟨⟨value, hvalue⟩, reports, hrest⟩
      exact ⟨_, .cons ⟨value, hvalue, rfl⟩ hrest⟩

theorem exists_documentReports :
    (∃ reports, documentReports files sources name documents = .ok reports) ↔
      ∃ config, Loadable files sources name documents config := by
  simp only [documentReports_eq_ok]
  constructor
  · rintro ⟨reports, registry, schema, hload, hschema, hreports⟩
    obtain ⟨config, hconfigured, hbuild⟩ := Sources.load_eq_ok.mp hload
    obtain ⟨hloads, -⟩ := Registry.build_eq_ok.mp hbuild
    exact ⟨config, hconfigured, hloads, (exists_findSchema hbuild).mp ⟨schema, hschema⟩,
      exists_reports.mp ⟨reports, hreports⟩⟩
  · rintro ⟨config, hloadable⟩
    have hbuild := Registry.build_eq_ok.mpr ⟨hloadable.loads, rfl⟩
    obtain ⟨schema, hschema⟩ := (exists_findSchema hbuild).mpr hloadable.schema
    obtain ⟨reports, hreports⟩ := exists_reports.mpr hloadable.documents
    exact ⟨reports, _, schema, Sources.load_eq_ok.mpr ⟨config, hloadable.configured, hbuild⟩,
      hschema, hreports⟩

theorem documentReports_append (files : FileSystem) (sources : Sources) (name : String)
    (documents later : List FilePath) :
    documentReports files sources name (documents ++ later) = do
      let reports ← documentReports files sources name documents
      return reports ++ (← documentReports files sources name later) := by
  unfold documentReports
  cases sources.load files with
  | error => rfl
  | ok registry =>
    cases hschema : findSchema files registry name with
    | error => simp [hschema, bind, Except.bind]
    | ok schema => simp [hschema, validateDocuments, bind, Except.bind]

-- -----------------------------------------------------------------------------
-- Results

namespace CommandLine

theorem result_of_reports (h : documentReports files sources name documents = .ok reports)
    (format : ReportFormat) :
    (Command.validate sources name format documents).result files =
      ⟨if reports.all (·.outcome.isValid) then 0 else 1, format.render reports⟩ := by
  simp [Command.result, Command.run, runValidate, h, bind, Except.bind, pure, Except.pure]

theorem result_of_fault {error : RunError}
    (h : documentReports files sources name documents = .error error) (format : ReportFormat) :
    (Command.validate sources name format documents).result files = failed := by
  simp [Command.result, Command.run, runValidate, h, bind, Except.bind]

theorem code_lt_two (h : documentReports files sources name documents = .ok reports)
    (format : ReportFormat) :
    ((Command.validate sources name format documents).result files).code < 2 := by
  rw [result_of_reports h]
  show (if _ then 0 else 1) < 2
  split <;> decide

theorem code_eq_two (format : ReportFormat) :
    ((Command.validate sources name format documents).result files).code = 2 ↔
      ¬∃ config, Loadable files sources name documents config := by
  rw [← exists_documentReports]
  cases hreports : documentReports files sources name documents with
  | error error => simp [result_of_fault hreports, failed]
  | ok reports => simpa using (code_lt_two hreports format).ne

theorem code_eq_zero (h : documentReports files sources name documents = .ok reports)
    (format : ReportFormat) :
    ((Command.validate sources name format documents).result files).code = 0 ↔
      ∀ report ∈ reports, report.outcome.violations = [] := by
  rw [result_of_reports h]
  simp [Outcome.isValid]

theorem forall_reports {P : Outcome → Prop}
    (h : List.Forall₂ (ReportsOn files registry schema) documents reports) :
    (∀ report ∈ reports, P report.outcome) ↔ ∀ document ∈ documents, ∀ value,
      files.loadDocument document = .ok value → P (registry.validate value schema) := by
  induction h with
  | nil => simp
  | @cons document report rest others hreport _ ih =>
    obtain ⟨value, hvalue, rfl⟩ := hreport
    simp [ih, hvalue]

theorem code_congr {documents' : List FilePath} (format format' : ReportFormat)
    (h : ∀ document, document ∈ documents' ↔ document ∈ documents) :
    ((Command.validate sources name format' documents').result files).code =
      ((Command.validate sources name format documents).result files).code := by
  have hexists : (∃ reports, documentReports files sources name documents' = .ok reports) ↔
      ∃ reports, documentReports files sources name documents = .ok reports := by
    simp only [exists_documentReports]
    exact exists_congr fun config =>
      ⟨fun hloadable => hloadable.subset fun document => (h document).mpr,
        fun hloadable => hloadable.subset fun document => (h document).mp⟩
  cases hreports : documentReports files sources name documents with
  | error error =>
    cases hreports' : documentReports files sources name documents' with
    | error error' => rw [result_of_fault hreports, result_of_fault hreports']
    | ok reports' => simp [hreports, hreports'] at hexists
  | ok reports =>
    obtain ⟨reports', hreports'⟩ := hexists.mpr ⟨reports, hreports⟩
    obtain ⟨registry, schema, hload, hschema, hall⟩ := documentReports_eq_ok.mp hreports
    obtain ⟨registry', schema', hload', hschema', hall'⟩ := documentReports_eq_ok.mp hreports'
    obtain rfl := Except.ok.inj (hload.symm.trans hload')
    obtain rfl := Except.ok.inj (hschema.symm.trans hschema')
    -- Both codes are below two, and zero for the same documents.
    have hzero := code_eq_zero hreports format
    have hzero' := code_eq_zero hreports' format'
    have hlt := code_lt_two hreports format
    have hlt' := code_lt_two hreports' format'
    rw [forall_reports (P := fun outcome => outcome.violations = []) hall] at hzero
    rw [forall_reports (P := fun outcome => outcome.violations = []) hall'] at hzero'
    simp only [h] at hzero'
    have hiff := hzero'.trans hzero.symm
    omega

/-- A validation has code `2` just if something that it reads cannot be loaded, a
document at any place among them, and then it has no output. Otherwise it has one
report on each document, in order, with the outcome of validating that document;
the code is `0` if no report has violations, and else `1`. As text the output is
the lines of the reports and the number of those without violations; as JSON it is
read as their records. -/
theorem result_validate (files : FileSystem) (sources : Sources) (name : String)
    (format : ReportFormat) (documents : List FilePath) :
    let result := (Command.validate sources name format documents).result files
    (result.code = 2 ↔ ¬∃ config, Loadable files sources name documents config) ∧
    (result.code = 2 → result.output = "") ∧
    (∀ config, Loadable files sources name documents config →
      ∃ registry schema reports, sources.load files = .ok registry ∧
        findSchema files registry name = .ok schema ∧
        documentReports files sources name documents = .ok reports ∧
        List.Forall₂ (ReportsOn files registry schema) documents reports ∧
        (result.code = 0 ↔ ∀ report ∈ reports, report.outcome.violations = []) ∧
        (result.code = 1 ↔ ∃ report ∈ reports, report.outcome.violations ≠ []) ∧
        (format = .text →
          let passed := reports.countP fun report => report.outcome.violations.isEmpty
          result.output = String.join ((reports.flatMap DocumentReport.lines ++
            ["", s!"Documents: {passed}/{documents.length} passed"]).map (· ++ "\n"))) ∧
        (format = .json →
          Json.read greatestJsonDepth result.output =
              some (.array (reports.map DocumentReport.record)) ∧
            ∀ report ∈ reports, ∃ errors, report.record.member? "errors" = some (.array errors) ∧
              (report.record.member? "valid" = some (.bool true) ↔ errors = []))) ∧
    (∀ later, documentReports files sources name (documents ++ later) = do
      let reports ← documentReports files sources name documents
      return reports ++ (← documentReports files sources name later)) ∧
    ∀ format' documents', (∀ document, document ∈ documents' ↔ document ∈ documents) →
      ((Command.validate sources name format' documents').result files).code = result.code := by
  intro result
  refine ⟨code_eq_two format, ?_, ?_, documentReports_append files sources name documents,
    fun format' documents' h => code_congr format format' h⟩
  · intro hcode
    cases hreports : documentReports files sources name documents with
    | error error =>
      show ((Command.validate sources name format documents).result files).output = ""
      rw [result_of_fault hreports, failed]
    | ok reports => exact absurd hcode (code_lt_two hreports format).ne
  · intro config hloadable
    obtain ⟨reports, hreports⟩ := exists_documentReports.mpr ⟨config, hloadable⟩
    obtain ⟨registry, schema, hload, hschema, hall⟩ := documentReports_eq_ok.mp hreports
    have hzero : result.code = 0 ↔ _ := code_eq_zero hreports format
    have hlt : result.code < 2 := code_lt_two hreports format
    have houtput : result.output = format.render reports := by
      show ((Command.validate sources name format documents).result files).output = _
      rw [result_of_reports hreports]
    refine ⟨registry, schema, reports, hload, hschema, hreports, hall, hzero, ?_, ?_, ?_⟩
    · have hone : result.code = 1 ↔ ¬result.code = 0 := by omega
      rw [hone, hzero]
      simp
    · rintro rfl
      rw [houtput, hall.length_eq]
      exact DocumentReport.textOf_eq reports
    · rintro rfl
      rw [houtput]
      exact ⟨DocumentReport.read_layoutOf reports, fun report _ => report.valid_iff_errors⟩

def itemSchema : Value :=
  .object [("allOf", .array [.object [("uniqueItems", .bool true)],
    .object [("items", .object [("const", .bool true)])]])]

/-- A schema for lists without repetition, which one of two documents meets. -/
def itemFiles : FileSystem :=
  (FileTree.directory [("no.json", .file (some "[false, false]")),
    ("schema.json", .file (some ("\x7b\"allOf\": [\x7b\"uniqueItems\": true\x7d, " ++
      "\x7b\"items\": \x7b\"const\": true\x7d\x7d]\x7d"))),
    ("yes.json", .file (some "[true]"))]).view

theorem itemFiles_schema : itemFiles.loadDocument ⟨"schema.json"⟩ = .ok itemSchema :=
  FileSystem.loadDocument_of_json rfl (by decide) (by cbv)

theorem itemFiles_yes : itemFiles.loadDocument ⟨"yes.json"⟩ = .ok (.array [.bool true]) :=
  FileSystem.loadDocument_of_json rfl (by decide) (by cbv)

theorem itemFiles_no :
    itemFiles.loadDocument ⟨"no.json"⟩ = .ok (.array [.bool false, .bool false]) :=
  FileSystem.loadDocument_of_json rfl (by decide) (by cbv)

theorem itemFiles_reports :
    documentReports itemFiles ⟨none, [], []⟩ "schema.json" [⟨"yes.json"⟩, ⟨"no.json"⟩] =
      .ok [⟨⟨"yes.json"⟩, ⟨[]⟩⟩, ⟨⟨"no.json"⟩,
        ⟨[⟨.root, .repeatedItem 0 1⟩, ⟨.index .root 0, .notConst (.bool true)⟩,
          ⟨.index .root 1, .notConst (.bool true)⟩]⟩⟩] := by
  have hfile : itemFiles.isFile ⟨"schema.json"⟩ = true := rfl
  refine documentReports_eq_ok.mpr ⟨.empty, itemSchema, rfl, ?_, ?_⟩
  · rw [findSchema_eq_ok, if_pos hfile]
    exact itemFiles_schema
  exact .cons ⟨_, itemFiles_yes, rfl⟩ (.cons ⟨_, itemFiles_no, rfl⟩ .nil)

/-- The reports on both documents in either format, and none once a third one is
not there. -/
theorem result_validate_items :
    let sources : Sources := ⟨none, [], []⟩
    let documents : List FilePath := [⟨"yes.json"⟩, ⟨"no.json"⟩]
    let result (format : ReportFormat) (documents : List FilePath) : Result :=
      (Command.validate sources "schema.json" format documents).result itemFiles
    Loadable itemFiles sources "schema.json" documents .empty ∧
      (result .text documents).code = 1 ∧
      (result .text documents).output = String.join ([
        "OK:   yes.json",
        "FAIL: no.json (3 violation(s))",
        "  (root): array items at index 0 and 1 are equal, but uniqueItems is set",
        "  [0]: value does not equal const true",
        "  [1]: value does not equal const true",
        "",
        "Documents: 1/2 passed"].map (· ++ "\n")) ∧
      (result .json documents).code = 1 ∧
      Json.read greatestJsonDepth (result .json documents).output = some (.array
        [.object [("document", .string "yes.json"), ("errors", .array []), ("valid", .bool true)],
         .object [("document", .string "no.json"), ("errors", .array
            [.object [("kind", .string "constraint"),
              ("message", .string "array items at index 0 and 1 are equal, but uniqueItems is set"),
              ("path", .string "")],
             .object [("kind", .string "value_mismatch"),
              ("message", .string "value does not equal const true"), ("path", .string "[0]")],
             .object [("kind", .string "value_mismatch"),
              ("message", .string "value does not equal const true"), ("path", .string "[1]")]]),
          ("valid", .bool false)]]) ∧
      (result .text (documents ++ [⟨"lost.json"⟩])).code = 2 ∧
      (result .text (documents ++ [⟨"lost.json"⟩])).output = "" := by
  intro sources documents result
  have hlost : itemFiles.loadDocument ⟨"lost.json"⟩ = .error (.unreadable .notFound) := rfl
  have hfile : itemFiles.isFile ⟨"schema.json"⟩ = true := rfl
  have hloadable : Loadable itemFiles sources "schema.json" documents .empty :=
    ⟨.none, by simp [SchemaSource.all, Config.empty, sources, SchemaSource.ofEntries],
      by simp [hfile, itemFiles_schema], by simp [documents, itemFiles_yes, itemFiles_no]⟩
  have htwo : (result .text (documents ++ [⟨"lost.json"⟩])).code = 2 := by
    refine (result_validate itemFiles sources "schema.json" .text _).1.mpr ?_
    rintro ⟨config, hloaded⟩
    simpa [hlost] using hloaded.documents ⟨"lost.json"⟩ (by simp)
  obtain ⟨-, -, htext, -⟩ := result_validate itemFiles sources "schema.json" .text documents
  obtain ⟨-, -, hjson, -⟩ := result_validate itemFiles sources "schema.json" .json documents
  obtain ⟨_, _, reports, -, -, hreports, -, -, hone, houtput, -⟩ := htext _ hloadable
  obtain ⟨_, _, reports', -, -, hreports', -, -, hone', -, houtput'⟩ := hjson _ hloadable
  obtain rfl := Except.ok.inj (itemFiles_reports.symm.trans hreports)
  obtain rfl := Except.ok.inj (itemFiles_reports.symm.trans hreports')
  refine ⟨hloadable, hone.mpr (by simp), (houtput rfl).trans ?_, hone'.mpr (by simp),
    (houtput' rfl).1.trans rfl, htwo, ?_⟩
  · exact congrArg (fun lines => String.join (List.map (· ++ "\n") lines)) (by decide)
  exact (result_validate itemFiles sources "schema.json" .text _).2.1 htwo

end CommandLine

end TreeSchema
