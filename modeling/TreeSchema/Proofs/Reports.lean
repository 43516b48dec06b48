import TreeSchema.Document
import TreeSchema.Report
import TreeSchema.Proofs.Printing

/-!
# What reports say

A report is a few lines of text or one JSON record. Both are given here by what
they say and not by how they are printed: `textOf_eq` and `read_layoutOf`.
-/

namespace TreeSchema

theorem Text.join_newline {lines : List String} (h : lines ≠ []) :
    join "\n" lines ++ "\n" = String.join (lines.map (· ++ "\n")) := by
  induction lines with
  | nil => exact absurd rfl h
  | cons line rest ih =>
    cases rest with
    | nil => simp [join]
    | cons next rest =>
      simp only [join, List.map_cons, String.join_cons, String.append_assoc] at ih ⊢
      rw [ih (List.cons_ne_nil _ _)]

theorem Location.text_eq_empty {location : Location} :
    location.text = "" ↔ location.isRoot = true := by
  cases location <;> simp [text, isRoot]

def Violation.record (v : Violation) : Value :=
  .object [("kind", .string v.kind.name), ("message", .string v.message),
    ("path", .string v.location.text)]

namespace DocumentReport

variable (report : DocumentReport) (reports : List DocumentReport)

-- -----------------------------------------------------------------------------
-- Lines

/-- One line if the document is valid. Otherwise a line with the number of its
violations, and one for each of them. -/
def lines : List String :=
  match report.outcome.violations with
  | [] => ["OK:   " ++ report.document.text]
  | violations =>
    ("FAIL: " ++ report.document.text ++ " (" ++ toString violations.length ++ " violation(s))") ::
      violations.map fun v =>
        "  " ++ (if v.location.text = "" then "(root)" else v.location.text) ++ ": " ++ v.message

theorem lines_of_violations {document : FilePath} {v : Violation} {rest : List Violation} :
    (DocumentReport.mk document ⟨v :: rest⟩).lines =
      s!"FAIL: {document.text} ({(v :: rest).length} violation(s))" ::
        (v :: rest).map Violation.text := by
  refine congrArg (_ :: ·) (List.map_congr_left fun v _ => ?_)
  simp only [Violation.text, Location.text_eq_empty]
  rfl

theorem text_eq : report.text = String.join (report.lines.map (· ++ "\n")) := by
  obtain ⟨document, ⟨violations⟩⟩ := report
  cases violations with
  | nil => simp [text, lines, Outcome.isValid, toString]
  | cons v rest =>
    have hviolations := Text.join_newline (List.cons_ne_nil v.text (rest.map Violation.text))
    rw [lines_of_violations, List.map_cons, String.join_cons, List.map_cons, ← hviolations]
    simp [text, Outcome.isValid, Outcome.text, toString, String.append_assoc]

theorem textOf_eq :
    textOf reports = String.join ((reports.flatMap lines ++
      ["", s!"Documents: {reports.countP (·.outcome.violations.isEmpty)}/{reports.length} passed"]).map
        (· ++ "\n")) := by
  have hreports : String.join (reports.map text) =
      String.join ((reports.flatMap lines).map (· ++ "\n")) := by
    induction reports with
    | nil => rfl
    | cons report rest ih =>
      simp only [List.map_cons, String.join_cons, ih, text_eq, List.flatMap_cons, List.map_append,
        String.join_append]
  have hsummary (passed count : String) :
      "\nDocuments: " ++ passed ++ "/" ++ count ++ " passed\n" =
        String.join
          (["", "Documents: " ++ passed ++ "/" ++ count ++ " passed"].map (· ++ "\n")) := by
    refine String.toList_inj.mp ?_
    simp
  rw [List.map_append, String.join_append, ← hreports]
  exact congrArg (String.join (reports.map text) ++ ·) (hsummary _ _)

-- -----------------------------------------------------------------------------
-- Records

def record : Value :=
  .object [("document", .string report.document.text),
    ("errors", .array (report.outcome.violations.map Violation.record)),
    ("valid", .bool report.outcome.violations.isEmpty)]

theorem valid_iff_errors : ∃ errors, report.record.member? "errors" = some (.array errors) ∧
    (report.record.member? "valid" = some (.bool true) ↔ errors = []) := by
  refine ⟨_, rfl, ?_⟩
  have hvalid : report.record.member? "valid" =
      some (.bool report.outcome.violations.isEmpty) := rfl
  simp [hvalid]

open Json.Layout

theorem layoutOfViolation_readsAs (depth : Nat) (v : Violation) :
    (layoutOfViolation v).ReadsAs (depth + 1) v.record := by
  have hread : (layoutOfViolation v).ReadsAs (depth + 1) (.ofPairs
      [("path", .string v.location.text), ("kind", .string v.kind.name),
       ("message", .string v.message)]) :=
    readsAs_record (.cons ⟨rfl, readsAs_string _ _⟩ (.cons ⟨rfl, readsAs_string _ _⟩
      (.cons ⟨rfl, readsAs_string _ _⟩ .nil)))
  have hkind : "kind" < "path" := by decide
  have hmessage : ¬"message" < "kind" ∧ "message" < "path" := by decide
  simpa only [Violation.record, Value.ofPairs, Assoc.ofList, List.foldl_cons, List.foldl_nil,
    Assoc.insert, hkind, hmessage, if_true, if_false, String.reduceEq] using hread

theorem layout_readsAs (depth : Nat) : report.layout.ReadsAs (depth + 3) report.record := by
  have herrors : (Json.Layout.list (report.outcome.violations.map layoutOfViolation)).ReadsAs
      (depth + 2) (.array (report.outcome.violations.map Violation.record)) := by
    refine readsAs_list (List.forall₂_map_left_iff.mpr (List.forall₂_map_right_iff.mpr ?_))
    exact List.forall₂_same.mpr fun v _ => layoutOfViolation_readsAs depth v
  have hread : report.layout.ReadsAs (depth + 3) (.ofPairs
      [("document", .string report.document.text), ("valid", .bool report.outcome.isValid),
       ("errors", .array (report.outcome.violations.map Violation.record))]) :=
    readsAs_record (.cons ⟨rfl, readsAs_string _ _⟩ (.cons ⟨rfl, readsAs_bool _ _⟩
      (.cons ⟨rfl, herrors⟩ .nil)))
  have hvalid : ¬"valid" < "document" := by decide
  have hbetween : ¬"errors" < "document" ∧ "errors" < "valid" := by decide
  simpa only [record, Outcome.isValid, Value.ofPairs, Assoc.ofList, List.foldl_cons,
    List.foldl_nil, Assoc.insert, hvalid, hbetween, if_true, if_false, String.reduceEq] using hread

theorem read_layoutOf :
    Json.read greatestJsonDepth ((layoutOf reports).indented 0 ++ "\n") =
      some (.array (reports.map record)) := by
  have hlayout : (layoutOf reports).ReadsAs (123 + 4) (.array (reports.map record)) := by
    refine readsAs_list (List.forall₂_map_left_iff.mpr (List.forall₂_map_right_iff.mpr ?_))
    exact List.forall₂_same.mpr fun report _ => report.layout_readsAs 123
  exact hlayout.read

end DocumentReport

end TreeSchema
