import LayoutRecovery.Proofs.Batch.Visit

/-!
# The command that reconstructs classes

Everything that can be wrong with the configuration, the options and the names of the inputs is
looked at before the first input is visited, so that a request that is turned down leaves no trace.
Behind that, the inputs succeed or fail one by one: only their classes are printed or written, and
the command fails if one of them has.
-/

namespace LayoutRecovery

theorem Outcome.isFailure_iff {outcome : Outcome} :
    outcome.isFailure = true ↔ ∃ error, outcome.result = .error error := by
  unfold isFailure
  split <;> simp_all

namespace CommandLine
namespace GenerateRequest

variable {request : GenerateRequest} {config : Config}

/-- The text that outcomes add to standard output. -/
def printout (request : GenerateRequest) (outcomes : List Outcome) : String :=
  String.join (outcomes.map request.printed)

theorem printout_cons (outcome : Outcome) (rest : List Outcome) :
    request.printout (outcome :: rest) = request.printed outcome ++ request.printout rest := by
  rw [printout, List.map_cons, String.join_cons, printout]

theorem printout_of_prints (prints : request.stdout = true) (outcomes : List Outcome) :
    request.printout outcomes =
      String.join (outcomes.filterMap fun outcome => outcome.stub?.map Stub.render) := by
  induction outcomes with
  | nil => rfl
  | cons outcome rest ih =>
      rw [printout_cons, ih, List.filterMap_cons]
      cases stub : outcome.stub? with
      | none => simp [printed_of_stub?_eq_none stub]
      | some stub' => simp [printed, prints, stub]

theorem printout_of_writes (writes : request.stdout = false) (outcomes : List Outcome) :
    request.printout outcomes = "" := by
  induction outcomes with
  | nil => rfl
  | cons outcome rest ih =>
      rw [printout_cons, ih]
      simp [printed, writes]

/-- What visits with given outcomes leave of a tree. -/
structure Progress (request : GenerateRequest) (config : Config) (tree : FileTree)
    (outcomes : List Outcome) (later : FileTree) : Prop where
  grown : later.Grown tree (outcomes.flatMap (request.written config))
  still : request.stdout = true → later = tree

theorem Progress.nil (tree : FileTree) : request.Progress config tree [] tree where
  grown := .refl tree
  still _ := rfl

theorem Progress.visit {tree later : FileTree} {path : String} {outcomes : List Outcome}
    (rest : request.Progress config (request.visited config tree path).2 outcomes later) :
    request.Progress config tree ((request.visited config tree path).1 :: outcomes) later where
  grown := by
    rw [List.flatMap_cons]
    exact rest.grown.trans (grown_visited tree path)
  still prints := (rest.still prints).trans (tree_visited prints tree path)

theorem Progress.perm {tree later : FileTree} {outcomes others : List Outcome}
    (progress : request.Progress config tree outcomes later) (same : outcomes.Perm others) :
    request.Progress config tree others later where
  grown := progress.grown.mono fun _ inside => (same.flatMap_right _).mem_iff.mp inside
  still := progress.still

/-- A batch that is run in an order has given outcomes, one for each input. -/
structure Batched (request : GenerateRequest) (host : Host (StateM Workspace)) (config : Config)
    (order : List (Fin (request.sources host).length)) (tree : FileTree) (outcomes : List Outcome)
    (later : FileTree) : Prop where
  yields : Workspace.Yields ((request.batch host config).runInOrder (request.sources host) order)
    tree outcomes later (request.printout outcomes)
  names : outcomes.map Outcome.name = request.inputs
  progress : request.Progress config tree outcomes later

/-- What a batch with given outcomes comes to. -/
def verdict (outcomes : List Outcome) : Except Failure Unit :=
  let failed := outcomes.countP Outcome.isFailure
  if failed = 0 then .ok () else .error (.inputs failed outcomes.length)

/-- A request that can be carried out: its options go together, its inputs exist, and so do its
settings with those of the configuration. -/
structure Fits (request : GenerateRequest) (tree : FileTree) (config : Config) : Prop where
  single : request.output.isSome = true → request.inputs.length ≤ 1
  either : request.output.isSome = true → request.stdout = false
  exist : ∀ path ∈ request.inputs, tree.hasPath path = true
  settings : (request.adjust config).fault? = none

end GenerateRequest

/-- The configuration of an invocation: the default one, or that in a file, which is sound. -/
def Invocation.Configures (invocation : Invocation) (tree : FileTree) (config : Config) : Prop :=
  match invocation.config with
  | none => config = {}
  | some path => ∃ text, tree.readText path = .ok text ∧ Config.parse? text = some config ∧
      config.fault? = none

namespace Workspace

section Batches

variable {host : Host (StateM Workspace)} (backs : Backs host)
variable (request : GenerateRequest) (config : Config)
include backs

theorem Backs.exists_visits (tree : FileTree) (rest : List (Fin (request.sources host).length)) :
    ∃ visits later,
      Yields (rest.mapM fun index => do
          return (index, ← (request.batch host config).visit ((request.sources host).get index)))
        tree visits later (request.printout (visits.map Prod.snd)) ∧
      visits.map Prod.fst = rest ∧
      (∀ visit ∈ visits, visit.2.name = ((request.sources host).get visit.1).name) ∧
      request.Progress config tree (visits.map Prod.snd) later := by
  induction rest generalizing tree with
  | nil => exact ⟨[], tree, .pure _, rfl, by simp, .nil tree⟩
  | cons index rest ih =>
      obtain ⟨path, -, source⟩ := List.mem_map.mp (List.get_mem (request.sources host) index)
      have visit := backs.visit request config tree path
      rw [source] at visit
      have step : Yields (do
          return (index, ← (request.batch host config).visit ((request.sources host).get index)))
          tree (index, (request.visited config tree path).1)
          (request.visited config tree path).2
          (request.printed (request.visited config tree path).1) := visit.bind_silent (.pure _)
      obtain ⟨visits, later, yields, indices, names, progress⟩ :=
        ih (request.visited config tree path).2
      refine ⟨(index, (request.visited config tree path).1) :: visits, later, ?_, ?_, ?_, ?_⟩
      · rw [List.mapM_cons, List.map_cons, GenerateRequest.printout_cons]
        exact step.bind (yields.bind_silent (.pure _))
      · rw [List.map_cons, indices]
      · refine List.forall_mem_cons.mpr ⟨?_, names⟩
        rw [← source]
        exact GenerateRequest.name_visited tree path
      · exact progress.visit

/-- A batch that visits every input once has an outcome for each of them, in the order of the
inputs.  If the classes are printed, the inputs are visited in that order as well. -/
theorem Backs.exists_runInOrder (tree : FileTree)
    {order : List (Fin (request.sources host).length)} (complete : order.Perm (List.finRange _))
    (turn : request.stdout = true → order = List.finRange _) :
    ∃ outcomes later, request.Batched host config order tree outcomes later := by
  obtain ⟨visits, later, yields, indices, names, progress⟩ :=
    backs.exists_visits request config tree order
  obtain ⟨outcome, visits_eq⟩ := exists_eq_map_of_complete (indices ▸ complete)
  rw [indices] at visits_eq
  have told : visits.map Prod.snd = order.map outcome := by
    rw [visits_eq, List.map_map]
    rfl
  let outcomes := (List.finRange _).map outcome
  have printed :
      request.printout (visits.map Prod.snd) = request.printout outcomes := by
    rw [told]
    cases prints : request.stdout with
    | true => rw [turn prints]
    | false =>
        rw [GenerateRequest.printout_of_writes prints,
          GenerateRequest.printout_of_writes prints]
  refine ⟨outcomes, later, ?_, ?_, ?_⟩
  · rw [← printed]
    refine yields.bind_silent ?_
    have returned := filterMap_lookup_graph complete outcome
    rw [← visits_eq] at returned
    rw [returned]
    exact .pure _
  · have named (index) : (outcome index).name = ((request.sources host).get index).name := by
      refine names (index, outcome index) ?_
      rw [visits_eq]
      exact List.mem_map_of_mem (complete.mem_iff.mpr (List.mem_finRange index))
    calc
      outcomes.map Outcome.name
        = (List.finRange _).map (Source.name ∘ (request.sources host).get) := by
          rw [List.map_map]
          exact List.map_congr_left fun index _ => named index
      _ = (request.sources host).map Source.name := by rw [← List.map_map, List.map_get_finRange]
      _ = request.inputs := by
          simp [GenerateRequest.sources, Host.source, Function.comp_def]
  · exact progress.perm (told ▸ complete.map outcome)

theorem Backs.report (tree : FileTree) (quiet : Bool) (outcome : Outcome) :
    Yields (request.report host config quiet outcome) tree () tree "" := by
  unfold GenerateRequest.report
  split
  · split
    · exact .pure ()
    · exact backs.emit tree (.status _)
  · split
    · exact .pure ()
    · exact backs.emit tree (.status _)
  · exact backs.emit tree (.status _)

theorem Backs.exists_runBatch (tree : FileTree) (quiet : Bool)
    (turn : request.stdout = true → config.parallel = false) :
    ∃ outcomes later,
      request.Batched host config ((host.scheduleFor config).order _) tree outcomes later ∧
      Yields (request.runBatch host config quiet) tree (GenerateRequest.verdict outcomes) later
        (request.printout outcomes) := by
  have in_turn (prints : request.stdout = true) :
      (host.scheduleFor config).order (request.sources host).length = List.finRange _ := by
    rw [Host.scheduleFor, turn prints]
    rfl
  obtain ⟨outcomes, later, batch⟩ := backs.exists_runInOrder request config tree
    ((host.scheduleFor config).complete _) in_turn
  refine ⟨outcomes, later, batch, ?_⟩
  have reported : Yields (outcomes.forM (request.report host config quiet)) later () later "" :=
    .forM_silent fun outcome _ => backs.report request config later quiet outcome
  have batched : Yields (do
      let outcomes ← (request.batch host config).runInOrder (request.sources host)
        ((host.scheduleFor config).order _)
      outcomes.forM (request.report host config quiet)
      let failed := outcomes.countP Outcome.isFailure
      if failed = 0 then return .ok () else return .error (.inputs failed outcomes.length))
      tree (GenerateRequest.verdict outcomes) later (request.printout outcomes) := by
    refine batch.yields.bind_silent (reported.silent_bind ?_)
    unfold GenerateRequest.verdict
    dsimp only
    split
    · exact .pure _
    · exact .pure _
  unfold GenerateRequest.runBatch
  cases quiet with
  | true => exact batched
  | false => exact (backs.emit tree (.status _)).silent_bind batched

theorem Backs.missingInput? (tree : FileTree) (paths : List String) :
    Yields (GenerateRequest.missingInput? host paths) tree
      (paths.find? fun path => !tree.hasPath path) tree "" := by
  induction paths with
  | nil => exact .pure none
  | cons path rest ih =>
      refine (backs.pathExists tree path).silent_bind ?_
      cases there : tree.hasPath path with
      | true => simpa [there] using ih
      | false => simpa [there] using Yields.pure _

/-- The checks of a request look at its options first, and then at its inputs. -/
theorem Backs.exists_check (tree : FileTree) :
    ∃ answer, Yields (request.check host) tree answer tree "" ∧
      (answer = none ↔ (request.output.isSome = true → request.inputs.length ≤ 1) ∧
        (request.output.isSome = true → request.stdout = false) ∧
        ∀ path ∈ request.inputs, tree.hasPath path = true) := by
  unfold GenerateRequest.check
  split
  · rename_i several
    refine ⟨_, .pure _, ?_⟩
    simp_all
  · split
    · rename_i both
      refine ⟨_, .pure _, ?_⟩
      simp_all
    · rename_i single either
      refine ⟨_, (backs.missingInput? tree request.inputs).silent_bind (.pure _), ?_⟩
      simp_all

theorem Backs.exists_run (tree : FileTree) (quiet : Bool) (fits : request.Fits tree config) :
    let adjusted := request.adjust config
    ∃ outcomes later,
      request.Batched host adjusted ((host.scheduleFor adjusted).order _) tree outcomes later ∧
      Yields (request.run host config quiet) tree (GenerateRequest.verdict outcomes) later
        (request.printout outcomes) := by
  intro adjusted
  obtain ⟨answer, checked, passes⟩ := backs.exists_check request tree
  rw [passes.mpr ⟨fits.single, fits.either, fits.exist⟩] at checked
  have turn (prints : request.stdout = true) : adjusted.parallel = false := by
    simp [adjusted, GenerateRequest.adjust, prints]
  obtain ⟨outcomes, later, batch, ran⟩ := backs.exists_runBatch request adjusted tree quiet turn
  refine ⟨outcomes, later, batch, checked.silent_bind ?_⟩
  simpa only [fits.settings] using ran

/-- A request that cannot be carried out is turned down before anything is printed or written. -/
theorem Backs.exists_refused (tree : FileTree) (quiet : Bool) (unfit : ¬ request.Fits tree config) :
    ∃ failure, Yields (request.run host config quiet) tree (.error failure) tree "" := by
  obtain ⟨answer, checked, passes⟩ := backs.exists_check request tree
  cases answer with
  | some failure => exact ⟨failure, checked.silent_bind (.pure _)⟩
  | none =>
      obtain ⟨single, either, exist⟩ := passes.mp rfl
      cases settings : (request.adjust config).fault? with
      | none => exact absurd ⟨single, either, exist, settings⟩ unfit
      | some fault =>
          refine ⟨.settings fault, checked.silent_bind ?_⟩
          simp only [settings]
          exact .pure _

end Batches

/-! ## The command on a command line -/

section Commands

variable {host : Host (StateM Workspace)} (backs : Backs host) {invocation : Invocation}
variable {tree : FileTree}
include backs

theorem Backs.exists_loadFile (tree : FileTree) (path : String) :
    ∃ answer, Yields (CommandLine.loadConfig host path) tree answer tree "" ∧
      ∀ config, answer = .ok config ↔ ∃ text, tree.readText path = .ok text ∧
        Config.parse? text = some config ∧ config.fault? = none := by
  have read := backs.readText tree path
  cases given : tree.readText path with
  | error error =>
      rw [given] at read
      exact ⟨.error (.file error), read.silent_bind (.pure _), by simp⟩
  | ok text =>
      rw [given] at read
      cases parsed : Config.parse? text with
      | none =>
          refine ⟨.error .unreadable, read.silent_bind ?_, by simp [parsed]⟩
          simp only [parsed]
          exact .pure _
      | some config =>
          cases checked : config.fault? with
          | some fault =>
              refine ⟨.error (.fault fault), read.silent_bind ?_, by simp_all⟩
              simp only [parsed, checked]
              exact .pure _
          | none =>
              refine ⟨.ok config, read.silent_bind ?_, by simp_all⟩
              simp only [parsed, checked]
              exact .pure _

theorem Backs.exists_loadConfig (invocation : Invocation) (tree : FileTree) :
    ∃ answer, Yields (invocation.loadConfig host) tree answer tree "" ∧
      ∀ config, answer = .ok config ↔ invocation.Configures tree config := by
  unfold Invocation.loadConfig Invocation.Configures
  cases invocation.config with
  | none => exact ⟨.ok {}, .pure _, fun config => by simp [eq_comm]⟩
  | some path =>
      obtain ⟨answer, loaded, sound⟩ := backs.exists_loadFile tree path
      cases answer with
      | error error =>
          exact ⟨.error (.config path error), loaded.silent_bind (.pure _), by simp_all⟩
      | ok config => exact ⟨.ok config, loaded.silent_bind (.pure _), by simpa using sound⟩

theorem Backs.exists_run_generate {request : GenerateRequest}
    (generates : invocation.command = .generate request) :
    ((¬ ∃ config, invocation.Configures tree config ∧ request.Fits tree config) →
      ∃ failure, Yields (invocation.run host) tree (.error failure) tree "") ∧
    ∀ config, invocation.Configures tree config → request.Fits tree config →
      let adjusted := request.adjust config
      ∃ outcomes later,
        request.Batched host adjusted ((host.scheduleFor adjusted).order _) tree outcomes later ∧
        Yields (invocation.run host) tree (GenerateRequest.verdict outcomes) later
          (request.printout outcomes) := by
  obtain ⟨answer, loaded, configures⟩ := backs.exists_loadConfig invocation tree
  constructor
  · intro unfit
    cases answer with
    | error failure => exact ⟨failure, loaded.silent_bind (.pure _)⟩
    | ok config =>
        have refused : ¬ request.Fits tree config := fun fits =>
          unfit ⟨config, (configures config).mp rfl, fits⟩
        obtain ⟨failure, ran⟩ := backs.exists_refused request config tree invocation.quiet refused
        refine ⟨failure, loaded.silent_bind ?_⟩
        simpa only [generates] using ran
  · intro config configured fits adjusted
    rw [(configures config).mpr configured] at loaded
    obtain ⟨outcomes, later, batch, ran⟩ :=
      backs.exists_run request config tree invocation.quiet fits
    refine ⟨outcomes, later, batch, loaded.silent_bind ?_⟩
    simpa only [generates] using ran

end Commands

/-- What is left when a command has come to an end: a failure is told last, and by the exit code. -/
def close (workspace : Workspace) : Except Failure Unit → Nat × Workspace
  | .ok () => (0, workspace)
  | .error failure =>
      (1, { workspace with
        events := workspace.events ++ [.status ("[!] " ++ failure.message)] })

@[simp]
theorem tree_close (workspace : Workspace) (result : Except Failure Unit) :
    (workspace.close result).2.tree = workspace.tree := by
  cases result <;> rfl

@[simp]
theorem stdout_close (workspace : Workspace) (result : Except Failure Unit) :
    (workspace.close result).2.stdout = workspace.stdout := by
  cases result with
  | ok _ => rfl
  | error failure => simp [close, stdout, Event.printed]

theorem getLast?_close (workspace : Workspace) (failure : Failure) :
    (workspace.close (.error failure)).2.events.getLast? =
      some (.status ("[!] " ++ failure.message)) :=
  List.getLast?_concat

theorem run_execute (schedule : Schedule) {arguments : List String} {invocation : Invocation}
    (read : Invocation.read arguments = .ok invocation) {workspace after : Workspace}
    {result : Except Failure Unit}
    (ran : (invocation.run ({ host with schedule }.admitting invocation.verbosity)).run workspace =
      (result, after)) :
    (execute { host with schedule } arguments).run workspace = after.close result := by
  unfold execute
  rw [read]
  refine (run_bind_eq ran _).trans ?_
  cases result <;> rfl

end Workspace

/-- What a request has come to whose inputs have the given outcomes: the exit code, and the files
and messages behind it. -/
structure GenerateRequest.Completed (request : GenerateRequest) (config : Config) (tree : FileTree)
    (outcomes : List Outcome) (code : Nat) (final : Workspace) : Prop where
  /-- There is an outcome for every input. -/
  names_eq : outcomes.map Outcome.name = request.inputs
  /-- The command fails if an input has failed. -/
  failed_iff : code = 1 ↔ ∃ outcome ∈ outcomes, ∃ error, outcome.result = .error error
  /-- It succeeds if all inputs have a class or nothing to parse. -/
  succeeded_iff : code = 0 ↔ ∀ outcome ∈ outcomes, ∃ answer, outcome.result = .ok answer
  /-- A failure counts the inputs that have failed. -/
  told : code = 1 → final.events.getLast? = some (.status ("[!] "
    ++ toString (outcomes.countP Outcome.isFailure) ++ " of " ++ toString outcomes.length
    ++ " input(s) failed"))
  /-- Printed are the classes in the order of the inputs. -/
  printed : request.stdout = true → final.tree = tree ∧
    final.stdout =
      String.join (outcomes.filterMap fun outcome => outcome.stub?.map Stub.render)
  /-- Without that, nothing is printed, and the files that are new are those of the classes. -/
  written : request.stdout = false → final.stdout = "" ∧
    ∀ place, final.tree.node? place = tree.node? place ∨
      (tree.node? place = none ∧ final.tree.node? place = some .directory) ∨
      ∃ outcome ∈ outcomes, ∃ stub, outcome.stub? = some stub ∧
        final.tree.locate ((request.destination config).path outcome.name) = .ok place ∧
        final.tree.node? place = some (.file stub.render.toUTF8)

namespace GenerateRequest

variable {request : GenerateRequest} {config : Config} {tree later : FileTree}
variable {outcomes : List Outcome}

theorem verdict_cases (outcomes : List Outcome) :
    (verdict outcomes = .ok () ∧
      ∀ outcome ∈ outcomes, ∃ answer, outcome.result = .ok answer) ∨
    (verdict outcomes = .error (.inputs (outcomes.countP Outcome.isFailure) outcomes.length) ∧
      ∃ outcome ∈ outcomes, ∃ error, outcome.result = .error error) := by
  unfold verdict
  by_cases none_failed : outcomes.countP Outcome.isFailure = 0
  · refine .inl ⟨if_pos none_failed, fun outcome inside => ?_⟩
    have sound := List.countP_eq_zero.mp none_failed outcome inside
    cases result : outcome.result with
    | ok answer => exact ⟨answer, rfl⟩
    | error error => exact absurd (Outcome.isFailure_iff.mpr ⟨error, result⟩) sound
  · refine .inr ⟨if_neg none_failed, ?_⟩
    obtain ⟨outcome, inside, failed⟩ := List.countP_pos_iff.mp (Nat.pos_of_ne_zero none_failed)
    exact ⟨outcome, inside, Outcome.isFailure_iff.mp failed⟩

theorem message_inputs (failed total : Nat) :
    "[!] " ++ (Failure.inputs failed total).message =
      "[!] " ++ toString failed ++ " of " ++ toString total ++ " input(s) failed" := by
  unfold Failure.message
  rw [← String.append_assoc, ← String.append_assoc, ← String.append_assoc]

/-- The files that are new behind visits are those of the classes. -/
theorem Progress.changes (progress : request.Progress config tree outcomes later)
    (place : Location) :
    later.node? place = tree.node? place ∨
      (tree.node? place = none ∧ later.node? place = some .directory) ∨
      ∃ outcome ∈ outcomes, ∃ stub, outcome.stub? = some stub ∧
        later.locate ((request.destination config).path outcome.name) = .ok place ∧
        later.node? place = some (.file stub.render.toUTF8) := by
  obtain same | made | ⟨path, content, inside, found, put⟩ := progress.grown.changes place
  · exact .inl same
  · exact .inr (.inl made)
  · obtain ⟨outcome, given, wrote⟩ := List.mem_flatMap.mp inside
    unfold written at wrote
    split at wrote
    · cases wrote
    · obtain ⟨stub, returned, file⟩ := List.mem_map.mp wrote
      cases file
      exact .inr (.inr
        ⟨outcome, given, stub, Option.mem_toList.mp returned, found, put⟩)

theorem Progress.completed (progress : request.Progress config tree outcomes later)
    (names : outcomes.map Outcome.name = request.inputs) {final : Workspace}
    (left : final.tree = later)
    (said : final.stdout = request.printout outcomes) :
    let closed := final.close (verdict outcomes)
    request.Completed config tree outcomes closed.1 closed.2 := by
  intro closed
  have left_closed : closed.2.tree = later := (Workspace.tree_close _ _).trans left
  have said_closed : closed.2.stdout = request.printout outcomes :=
    (Workspace.stdout_close _ _).trans said
  have ended : (closed.1 = 0 ∧ ∀ outcome ∈ outcomes, ∃ answer, outcome.result = .ok answer) ∨
      (closed.1 = 1 ∧ (∃ outcome ∈ outcomes, ∃ error, outcome.result = .error error) ∧
        closed.2.events.getLast? = some (.status ("[!] "
          ++ toString (outcomes.countP Outcome.isFailure) ++ " of " ++ toString outcomes.length
          ++ " input(s) failed"))) := by
    obtain ⟨sound, all⟩ | ⟨unsound, failed⟩ := verdict_cases outcomes
    · exact .inl ⟨by simp only [closed, sound, Workspace.close], all⟩
    · have told := Workspace.getLast?_close final
        (.inputs (outcomes.countP Outcome.isFailure) outcomes.length)
      rw [← unsound, message_inputs] at told
      exact .inr ⟨by simp only [closed, unsound, Workspace.close], failed, told⟩
  have apart (all : ∀ outcome ∈ outcomes, ∃ answer, outcome.result = .ok answer) :
      ¬ ∃ outcome ∈ outcomes, ∃ error, outcome.result = .error error := by
    rintro ⟨outcome, inside, error, failed⟩
    obtain ⟨answer, returned⟩ := all outcome inside
    rw [failed] at returned
    cases returned
  have printed (prints : request.stdout = true) := And.intro
    (left_closed.trans (progress.still prints))
    (said_closed.trans (printout_of_prints prints outcomes))
  have written (writes : request.stdout = false) := And.intro
    (said_closed.trans (printout_of_writes writes outcomes)) (left_closed ▸ progress.changes)
  obtain ⟨zero, all⟩ | ⟨one, failed, told⟩ := ended
  · have not_one : closed.1 ≠ 1 := by simp [zero]
    exact ⟨names, ⟨fun one => absurd one not_one, fun failed => absurd failed (apart all)⟩,
      ⟨fun _ => all, fun _ => zero⟩, fun one => absurd one not_one, printed, written⟩
  · have not_zero : closed.1 ≠ 0 := by simp [one]
    exact ⟨names, ⟨fun _ => failed, fun _ => one⟩,
      ⟨fun zero => absurd zero not_zero, fun all => absurd failed (apart all)⟩, fun _ => told,
      printed, written⟩

end GenerateRequest

namespace Workspace

/-- The command turns down a request that cannot be carried out, and leaves no trace of it.  Any
other one it completes, in whatever order inputs processed at the same time are visited. -/
theorem execute_generate (schedule : Schedule) (tree : FileTree) {arguments : List String}
    {invocation : Invocation} {request : GenerateRequest}
    (read : Invocation.read arguments = .ok invocation)
    (generates : invocation.command = .generate request) :
    let host := { host with schedule }
    let ran := (execute host arguments).run (ofTree tree)
    ((¬ ∃ config, invocation.Configures tree config ∧ request.Fits tree config) →
      ran.1 = 1 ∧ ran.2.tree = tree ∧ ran.2.stdout = "") ∧
    ∀ config, invocation.Configures tree config → request.Fits tree config →
      let adjusted := request.adjust config
      let host := host.admitting invocation.verbosity
      let sources := request.sources host
      let order := (host.scheduleFor adjusted).order sources.length
      let outcomes :=
        (((request.batch host adjusted).runInOrder sources order).run (ofTree tree)).1
      request.Completed adjusted tree outcomes ran.1 ran.2 := by
  intro host ran
  have backs : Backs (host.admitting invocation.verbosity) :=
    (backs_host schedule).admitting invocation.verbosity
  obtain ⟨refused, carried⟩ := backs.exists_run_generate generates
  constructor
  · intro unfit
    obtain ⟨failure, yields⟩ := refused unfit
    obtain ⟨after, ended, left, printed⟩ := yields (ofTree tree) rfl
    have ran_eq : ran = after.close (.error failure) := run_execute schedule read ended
    rw [ran_eq, tree_close, stdout_close]
    exact ⟨rfl, left, by simpa [stdout, ofTree] using printed⟩
  · intro config configures fits adjusted host' sources order outcomes
    obtain ⟨found, later, batch, yields⟩ := carried config configures fits
    obtain ⟨_, batch_ran, -⟩ := batch.yields (ofTree tree) rfl
    have found_eq : outcomes = found := congrArg Prod.fst batch_ran
    obtain ⟨after, ended, left, printed⟩ := yields (ofTree tree) rfl
    have ran_eq : ran = after.close (GenerateRequest.verdict found) :=
      run_execute schedule read ended
    rw [ran_eq, found_eq]
    exact batch.progress.completed batch.names left (by simpa [stdout, ofTree] using printed)

/-- A class, a text without signature and a malformed directive, visited last to first: the class is
written, and one input of three has failed. -/
theorem execute_generate_three :
    let schedule : Schedule :=
      ⟨fun count => (List.finRange count).reverse, fun _ => List.reverse_perm _⟩
    let tree : FileTree := ⟨[(["a"], .file "void sub_1(a1)\n  *(_DWORD *)(a1 + 0) = 0;\n".toUTF8),
      (["b"], .file "// no body here\n".toUTF8), (["c"], .file "#size x\nvoid f(a1)\n".toUTF8)]⟩
    let arguments := ["generate", "a", "b", "c"]
    let request : GenerateRequest :=
      { inputs := ["a", "b", "c"], output := none, suffix := none, stdout := false,
        sequential := false }
    let invocation : Invocation :=
      { command := .generate request, logLevel := "info", quiet := false, config := none }
    let host := { host with schedule }
    let ran := (execute host arguments).run (ofTree tree)
    Invocation.read arguments = .ok invocation ∧ invocation.Configures tree {} ∧
      request.Fits tree {} ∧ ran.1 = 1 ∧
      ran.2.events.getLast? = some (.status "[!] 1 of 3 input(s) failed") ∧
      let adjusted := request.adjust {}
      let host := host.admitting invocation.verbosity
      let sources := request.sources host
      let order := (host.scheduleFor adjusted).order sources.length
      let outcomes :=
        (((request.batch host adjusted).runInOrder sources order).run (ofTree tree)).1
      outcomes.map (fun outcome => (outcome.isSuccess, outcome.isFailure)) =
          [(true, false), (false, false), (false, true)] ∧
        request.Completed adjusted tree outcomes ran.1 ran.2 := by
  intro schedule tree arguments request invocation host ran
  have read : Invocation.read arguments = .ok invocation := by decide +kernel
  have configures : invocation.Configures tree {} := rfl
  have fits : request.Fits tree {} :=
    ⟨by decide, by decide, by decide +kernel, by decide +kernel⟩
  have completed := (execute_generate schedule tree read rfl).2 {} configures fits
  refine ⟨read, configures, fits, by decide +kernel, by decide +kernel, ?_, completed⟩
  decide +kernel

end Workspace
end CommandLine
end LayoutRecovery
