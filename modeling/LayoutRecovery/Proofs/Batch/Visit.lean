import LayoutRecovery.CommandLine.Run
import LayoutRecovery.CommandLine.Workspace
import LayoutRecovery.Proofs.Batch.Schedule
import LayoutRecovery.Proofs.Files.Growth

/-!
# Visits to inputs

What a command does on a workspace depends on its files only, and not on the messages before it.  A
visit to an input reads one file, and hands on the class that comes of it: it is printed or written,
and nothing else is printed or changes the files.
-/

namespace LayoutRecovery

/-- The text of the file at a path. -/
def FileTree.readText (tree : FileTree) (path : String) : Except FileError String :=
  match tree.read path with
  | .error error => .error error
  | .ok bytes =>
      match String.fromUTF8? bytes with
      | some text => .ok text
      | none => .error .notText

/-- The class of an input. -/
def Outcome.stub? (outcome : Outcome) : Option Stub :=
  match outcome.result with
  | .ok stub => stub
  | .error _ => none

namespace CommandLine
namespace Workspace

/-- What an action comes to on files, whatever has been said before: its value, the files that it
leaves, and the text that it prints. -/
def Yields {α : Type} (action : StateM Workspace α) (tree : FileTree) (value : α) (later : FileTree)
    (text : String) : Prop :=
  ∀ workspace : Workspace, workspace.tree = tree →
    ∃ after, action.run workspace = (value, after) ∧ after.tree = later ∧
      after.stdout = workspace.stdout ++ text

section Actions

variable {α β : Type} {tree middle later : FileTree} {text more : String}

theorem Yields.pure (value : α) : Yields (pure value) tree value tree "" :=
  fun workspace same => ⟨workspace, rfl, same, by simp⟩

theorem Yields.bind {action : StateM Workspace α} {value : α} {next : α → StateM Workspace β}
    {result : β} (first : Yields action tree value middle text)
    (second : Yields (next value) middle result later more) :
    Yields (action >>= next) tree result later (text ++ more) := by
  intro workspace same
  obtain ⟨between, ran, reached, printed⟩ := first workspace same
  obtain ⟨after, others, left, printed_later⟩ := second between reached
  refine ⟨after, (run_bind_eq ran next).trans others, left, ?_⟩
  rw [printed_later, printed, String.append_assoc]

theorem Yields.silent_bind {action : StateM Workspace α} {value : α}
    {next : α → StateM Workspace β} {result : β} (first : Yields action tree value middle "")
    (second : Yields (next value) middle result later more) :
    Yields (action >>= next) tree result later more := by
  simpa using first.bind second

theorem Yields.bind_silent {action : StateM Workspace α} {value : α}
    {next : α → StateM Workspace β} {result : β} (first : Yields action tree value middle text)
    (second : Yields (next value) middle result later "") :
    Yields (action >>= next) tree result later text := by
  simpa using first.bind second

theorem Yields.forM_silent {items : List α} {action : α → StateM Workspace Unit}
    (silent : ∀ item ∈ items, Yields (action item) tree () tree "") :
    Yields (items.forM action) tree () tree "" := by
  induction items with
  | nil => exact .pure ()
  | cons item rest ih =>
      obtain ⟨here, others⟩ := List.forall_mem_cons.mp silent
      exact here.silent_bind (ih others)

end Actions

/-- A host whose files are those of the workspace, and which prints all that is to be printed. -/
structure Backs (host : Host (StateM Workspace)) : Prop where
  readFile : ∀ tree path, Yields (host.readFile path) tree (tree.read path) tree ""
  writeFile : ∀ tree path content, Yields (host.writeFile path content) tree
    (tree.write path content).1 (tree.write path content).2 ""
  pathExists : ∀ tree path, Yields (host.pathExists path) tree (tree.hasPath path) tree ""
  emit : ∀ tree event, Yields (host.emit event) tree () tree event.printed

/-- The workspace is such a host, in whatever order inputs are visited. -/
theorem backs_host (schedule : Schedule) : Backs { host with schedule } where
  readFile tree path workspace same := ⟨workspace, by rw [← same]; rfl, same, by simp⟩
  writeFile tree path content workspace same := by
    refine ⟨{ workspace with tree := (tree.write path content).2 }, ?_, rfl, by simp [stdout]⟩
    rw [← same]
    rfl
  pathExists tree path workspace same := ⟨workspace, by rw [← same]; rfl, same, by simp⟩
  emit tree event workspace same :=
    ⟨{ workspace with events := workspace.events ++ [event] }, rfl, same, by simp [stdout]⟩

/-- Log records that are left out are not missed in print. -/
theorem Backs.admitting {host : Host (StateM Workspace)} (backs : Backs host)
    (verbosity : Verbosity) : Backs (host.admitting verbosity) where
  readFile := backs.readFile
  writeFile := backs.writeFile
  pathExists := backs.pathExists
  emit tree event := by
    cases event with
    | output text => exact backs.emit tree (.output text)
    | status line => exact backs.emit tree (.status line)
    | log record =>
        simp only [Host.admitting]
        split
        · exact backs.emit tree (.log record)
        · exact .pure ()

end Workspace

namespace GenerateRequest

variable (request : GenerateRequest) (config : Config)

/-- What handing on a class comes to, and the files behind it. -/
def handed (tree : FileTree) (name text : String) : Except FileError Unit × FileTree :=
  if request.stdout then (.ok (), tree)
  else tree.write ((request.destination config).path name) text.toUTF8

/-- What becomes of an input whose class is handed on, if it has one, and the files behind it. -/
def delivered (tree : FileTree) (name : String) (reconstruction : Reconstruction) :
    Outcome × FileTree :=
  match reconstruction.result with
  | .error error => ({ name, result := .error (.directive error) }, tree)
  | .ok none => ({ name, result := .ok none }, tree)
  | .ok (some stub) =>
      match request.handed config tree name stub.render with
      | (.error error, later) => ({ name, result := .error (.file error) }, later)
      | (.ok (), later) => ({ name, result := .ok (some stub) }, later)

/-- What becomes of an input, and the files behind its visit. -/
def visited (tree : FileTree) (path : String) : Outcome × FileTree :=
  match tree.readText path with
  | .error error => ({ name := path, result := .error (.file error) }, tree)
  | .ok text =>
      request.delivered config tree path (config.reconstruct (SourceLine.ofText text))

/-- The text that an outcome adds to standard output. -/
def printed (outcome : Outcome) : String :=
  if request.stdout then (outcome.stub?.map Stub.render).getD "" else ""

/-- The file that an outcome leaves, with the path at which it is written. -/
def written (outcome : Outcome) : List (String × ByteArray) :=
  if request.stdout then []
  else outcome.stub?.toList.map fun stub =>
    ((request.destination config).path outcome.name, stub.render.toUTF8)

/-! ## What a visit changes -/

variable {request config}

theorem printed_of_stub?_eq_none {outcome : Outcome} (without : outcome.stub? = none) :
    request.printed outcome = "" := by
  simp [printed, without]

theorem name_delivered (tree : FileTree) (name : String) (reconstruction : Reconstruction) :
    (request.delivered config tree name reconstruction).1.name = name := by
  unfold delivered
  split
  · rfl
  · rfl
  · split <;> rfl

theorem name_visited (tree : FileTree) (path : String) :
    (request.visited config tree path).1.name = path := by
  unfold visited
  split
  · rfl
  · exact name_delivered tree path _

theorem tree_visited (prints : request.stdout = true) (tree : FileTree) (path : String) :
    (request.visited config tree path).2 = tree := by
  unfold visited delivered handed
  simp only [prints, if_true]
  split
  · rfl
  · split <;> rfl

/-- At most the class of the input is written, where its destination leads. -/
theorem grown_delivered (tree : FileTree) (name : String) (reconstruction : Reconstruction) :
    (request.delivered config tree name reconstruction).2.Grown tree
      (request.written config (request.delivered config tree name reconstruction).1) := by
  unfold delivered
  split
  · simpa [written, Outcome.stub?] using FileTree.Grown.refl tree
  · simpa [written, Outcome.stub?] using FileTree.Grown.refl tree
  · rename_i stub result
    cases prints : request.stdout with
    | true => simpa [handed, written, prints] using FileTree.Grown.refl tree
    | false =>
        simp only [handed, prints, Bool.false_eq_true, if_false]
        split
        · rename_i refused
          simpa [written, prints, Outcome.stub?] using FileTree.grown_of_write_error refused
        · rename_i wrote
          simpa [written, prints, Outcome.stub?] using FileTree.grown_of_write wrote

theorem grown_visited (tree : FileTree) (path : String) :
    (request.visited config tree path).2.Grown tree
      (request.written config (request.visited config tree path).1) := by
  unfold visited
  split
  · simpa [written, Outcome.stub?] using FileTree.Grown.refl tree
  · exact grown_delivered tree path _

end GenerateRequest

/-! ## Visits on a workspace -/

namespace Workspace

variable {host : Host (StateM Workspace)} (backs : Backs host)
include backs

theorem Backs.readText (tree : FileTree) (path : String) :
    Yields (host.readText path) tree (tree.readText path) tree "" := by
  refine (backs.readFile tree path).silent_bind ?_
  unfold FileTree.readText
  cases tree.read path with
  | error error => exact .pure _
  | ok bytes =>
      dsimp only
      cases String.fromUTF8? bytes with
      | none => exact .pure _
      | some text => exact .pure _

variable (request : GenerateRequest) (config : Config)

theorem Backs.sink (tree : FileTree) (name text : String) :
    Yields (request.sink host config name text) tree (request.handed config tree name text).1
      (request.handed config tree name text).2 (if request.stdout then text else "") := by
  unfold GenerateRequest.sink GenerateRequest.handed
  cases request.stdout with
  | true => exact (backs.emit tree (.output text)).bind_silent (.pure _)
  | false =>
      simp only [Bool.false_eq_true, if_false]
      refine (backs.writeFile tree _ _).silent_bind ?_
      cases tree.write ((request.destination config).path name) text.toUTF8 with
      | mk result later =>
          cases result with
          | error error => exact .pure _
          | ok _ => exact (backs.emit later (.log _)).silent_bind (.pure _)

theorem Backs.deliver (tree : FileTree) (name : String) (reconstruction : Reconstruction) :
    Yields ((request.batch host config).deliver name reconstruction) tree
      (request.delivered config tree name reconstruction).1
      (request.delivered config tree name reconstruction).2
      (request.printed (request.delivered config tree name reconstruction).1) := by
  obtain ⟨result, log⟩ := reconstruction
  rcases result with error | (- | stub)
  · have silent : request.printed { name, result := .error (.directive error) } = "" :=
      GenerateRequest.printed_of_stub?_eq_none rfl
    rw [GenerateRequest.delivered, silent]
    exact .pure _
  · have silent : request.printed { name, result := .ok none } = "" :=
      GenerateRequest.printed_of_stub?_eq_none rfl
    rw [GenerateRequest.delivered, silent]
    exact .pure _
  · have handed := backs.sink request config tree name stub.render
    cases prints : request.stdout with
    | true =>
        simp only [GenerateRequest.delivered, GenerateRequest.handed, GenerateRequest.printed,
          Outcome.stub?, prints, if_true] at handed ⊢
        exact handed.bind_silent (.pure _)
    | false =>
        simp only [GenerateRequest.delivered, GenerateRequest.printed, prints, Bool.false_eq_true,
          if_false] at handed ⊢
        refine handed.silent_bind ?_
        cases request.handed config tree name stub.render with
        | mk result later =>
            cases result with
            | error error => exact .pure _
            | ok _ => exact .pure _

/-- Processing an input prints its class or writes it, and nothing else. -/
theorem Backs.process (tree : FileTree) (path : String) :
    Yields ((request.batch host config).process (host.source path)) tree
      (request.visited config tree path).1 (request.visited config tree path).2
      (request.printed (request.visited config tree path).1) := by
  have loaded : Yields (host.source path).load tree
      ((tree.readText path).map SourceLine.ofText) tree "" :=
    (backs.readText tree path).silent_bind (.pure _)
  refine loaded.silent_bind ?_
  unfold GenerateRequest.visited
  cases tree.readText path with
  | error error =>
      have silent : request.printed { name := path, result := .error (.file error) } = "" :=
        GenerateRequest.printed_of_stub?_eq_none rfl
      simp only [silent]
      exact .pure _
  | ok text =>
      have logged : Yields ((config.reconstruct (SourceLine.ofText text)).log.forM
          (request.batch host config).log) tree () tree "" :=
        .forM_silent fun record _ => backs.emit tree (.log record)
      exact logged.silent_bind (backs.deliver request config tree path _)

theorem Backs.visit (tree : FileTree) (path : String) :
    Yields ((request.batch host config).visit (host.source path)) tree
      (request.visited config tree path).1 (request.visited config tree path).2
      (request.printed (request.visited config tree path).1) := by
  have finished : Yields ((request.batch host config).finished
      (request.visited config tree path).1) (request.visited config tree path).2 ()
      (request.visited config tree path).2 "" := .pure ()
  exact (backs.process request config tree path).bind_silent (finished.silent_bind (.pure _))

end Workspace
end CommandLine
end LayoutRecovery
