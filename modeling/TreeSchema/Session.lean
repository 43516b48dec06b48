import TreeSchema.Files.FileTree
import TreeSchema.Loading

/-!
# Sessions

A registry lives through a sequence of steps, beside a file tree that steps may
write to. Each step has an answer and leads to a new state.
-/

namespace TreeSchema

structure Session where
  registry : Registry
  files : FileTree

namespace Session

inductive Step where
  | register (id : String) (schema : Value)
  | lookup (id : String)
  | contains (id : String)
  | size
  | validate (value schema : Value)
  | validateRegistered (value : Value) (id : String)
  | validateFile (path : FilePath) (id : String)
  | loadDirectory (path : FilePath)
  | loadFile (path : FilePath)
  | loadDocument (path : FilePath)
  | write (files : List (FilePath × FileTree))
  | reset

inductive Answer where
  /-- The schema under an id, before the step. -/
  | schema (schema : Option Value)
  | truth (b : Bool)
  | size (size : Nat)
  | outcome (outcome : Outcome)
  | valid
  | loaded (count : Nat)
  | named (name : String)
  | document (value : Value)
  | failed (error : SchemaError)
  | done

def Answer.ofExcept {α : Type} (answer : α → Answer) : Except SchemaError α → Answer
  | .ok a => answer a
  | .error error => .failed error

/-- The answer of a step and the registry after it, given the files around it. -/
def perform (files : FileSystem) (registry : Registry) : Step → Answer × Registry
  | .register id schema => (.schema (registry.lookup id), registry.register id schema)
  | .lookup id => (.schema (registry.lookup id), registry)
  | .contains id => (.truth (registry.contains id), registry)
  | .size => (.size registry.size, registry)
  | .validate value schema => (.outcome (registry.validate value schema), registry)
  | .validateRegistered value id =>
    match registry.validateRegistered value id with
    | some outcome => (.outcome outcome, registry)
    | none => (.failed (.schemaNotFound id), registry)
  | .validateFile path id =>
    (.ofExcept (fun _ => .valid) (registry.validateFile files path id), registry)
  | .loadDirectory path =>
    let (result, registry) := registry.loadDirectory files path
    (.ofExcept .loaded result, registry)
  | .loadFile path =>
    match registry.loadFile files path with
    | .ok (name, registry) => (.named name, registry)
    | .error error => (.failed error, registry)
  | .loadDocument path =>
    (.ofExcept .document ((files.loadDocument path).mapError (.documentLoad path)), registry)
  | .write _ => (.done, registry)
  | .reset => (.done, .empty)

def Step.filesAfter (files : FileTree) : Step → FileTree
  | .write written => written.foldl (fun tree file => tree.write file.1 file.2) files
  | _ => files

def start (files : FileTree) : Session := ⟨.empty, files⟩

def run (s : Session) (step : Step) : Answer × Session :=
  let (answer, registry) := perform s.files.view s.registry step
  (answer, ⟨registry, step.filesAfter s.files⟩)

/-- The answers of several steps, each with the state after it. -/
def runAll (s : Session) : List Step → List (Answer × Session)
  | [] => []
  | step :: rest =>
    let (answer, s) := s.run step
    (answer, s) :: s.runAll rest

end Session

end TreeSchema
