import LayoutRecovery.Config.Basic
import LayoutRecovery.Files.Error

/-!
# Batches

Many inputs under one configuration.  Each input is processed by itself: it is loaded, its class is
reconstructed, and a class is handed on under the name of the input.  The inputs may be processed in
any order; the outcomes come back in the order of the inputs.  Inputs that are processed at the same
time count as processed in some order.
-/

namespace LayoutRecovery

/-- An input of a batch. -/
structure Source (m : Type → Type) where
  /-- The name of the input. -/
  name : String
  /-- Its lines. -/
  load : m (Except FileError (List SourceLine))

/-- A place for the texts of classes, which come with the names of their inputs. -/
abbrev Sink (m : Type → Type) :=
  (name text : String) → m (Except FileError Unit)

/-- Why an input has no outcome. -/
inductive InputError where
  /-- It holds a malformed directive. -/
  | directive (error : MalformedDirective)
  /-- It cannot be read, or its class cannot be written. -/
  | file (error : FileError)
  deriving DecidableEq

namespace InputError

/-- The error in words. -/
def message : InputError → String
  | directive error => error.message
  | file error => "IO error: " ++ error.message

end InputError

/-- What became of one input. -/
structure Outcome where
  /-- The name of the input. -/
  name : String
  /-- Its class, nothing for lack of a signature, or why there is neither. -/
  result : Except InputError (Option Stub)

namespace Outcome

/-- Whether the input has a class. -/
def isSuccess (outcome : Outcome) : Bool :=
  match outcome.result with
  | .ok (some _) => true
  | _ => false

/-- Whether the input could not be processed. -/
def isFailure (outcome : Outcome) : Bool :=
  match outcome.result with
  | .ok _ => false
  | .error _ => true

end Outcome

/-- How the inputs of a batch are processed. -/
structure Batch (m : Type → Type) where
  /-- The settings. -/
  config : Config
  /-- Takes the log records. -/
  log : LogRecord → m Unit
  /-- Takes the classes. -/
  sink : Sink m
  /-- Is told each outcome as soon as it is there. -/
  finished : Outcome → m Unit

/-- Orders in which inputs are visited. -/
structure Schedule where
  /-- The inputs in the order of their visits, for every number of inputs. -/
  order : (count : Nat) → List (Fin count)
  /-- Every input is visited once. -/
  complete : ∀ count, (order count).Perm (List.finRange count)

/-- The inputs are visited as they are given. -/
def Schedule.inTurn : Schedule where
  order := List.finRange
  complete _ := .refl _

namespace Batch

variable {m : Type → Type} [Monad m]

/-- Hands on the class of an input, if it has one. -/
def deliver (batch : Batch m) (name : String) (reconstruction : Reconstruction) : m Outcome := do
  match reconstruction.result with
  | .error error => return { name, result := .error (.directive error) }
  | .ok none => return { name, result := .ok none }
  | .ok (some stub) =>
      match ← batch.sink name stub.render with
      | .error error => return { name, result := .error (.file error) }
      | .ok () => return { name, result := .ok (some stub) }

/-- Processes one input. -/
def process (batch : Batch m) (source : Source m) : m Outcome := do
  match ← source.load with
  | .error error => return { name := source.name, result := .error (.file error) }
  | .ok lines =>
      let reconstruction := batch.config.reconstruct lines
      reconstruction.log.forM batch.log
      batch.deliver source.name reconstruction

/-- Processes one input and tells what became of it. -/
def visit (batch : Batch m) (source : Source m) : m Outcome := do
  let outcome ← batch.process source
  batch.finished outcome
  return outcome

/-- Processes the inputs in the given order. -/
def runInOrder (batch : Batch m) (sources : List (Source m))
    (order : List (Fin sources.length)) : m (List Outcome) := do
  let done ← order.mapM fun index => return (index, ← batch.visit (sources.get index))
  return (List.finRange sources.length).filterMap fun index => done.lookup index

/-- Processes the inputs one after the other. -/
def run (batch : Batch m) (sources : List (Source m)) : m (List Outcome) :=
  batch.runInOrder sources (List.finRange sources.length)

end Batch

/-- Outputs that are kept in memory, and the outcomes of the finished inputs. -/
structure Shelf where
  /-- The texts by name. -/
  texts : List (String × String)
  /-- The outcomes that were told, first to last. -/
  told : List Outcome

namespace Shelf

/-- Nothing kept, nothing told. -/
def empty : Shelf := ⟨[], []⟩

/-- How many inputs are finished. -/
def finished (shelf : Shelf) : Nat := shelf.told.length

/-- The text under a name. -/
def text? (shelf : Shelf) (name : String) : Option String :=
  shelf.texts.lookup name

/-- Keeps a text under a name in place of the one before. -/
def put (shelf : Shelf) (name text : String) : Shelf :=
  { shelf with texts := (name, text) :: shelf.texts.filter fun entry => entry.1 != name }

/-- A batch that keeps its classes in memory and drops its log records. -/
def batch (config : Config) : Batch (StateM Shelf) where
  config := config
  log _ := return ()
  sink name text := do
    modify fun shelf => shelf.put name text
    return .ok ()
  finished outcome := modify fun shelf => { shelf with told := shelf.told ++ [outcome] }

end Shelf

namespace Source

/-- An input whose text is at hand. -/
def ofText {m : Type → Type} [Monad m] (name text : String) : Source m where
  name := name
  load := return .ok (SourceLine.ofText text)

end Source
end LayoutRecovery
