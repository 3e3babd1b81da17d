import LayoutRecovery.Proofs.Batch.Visit

/-!
# Batches of files

A batch of files whose classes are written next to them, under their names with a suffix.  An input
is read only when it is visited, so it can find what another input has left.  Where no output leads
to an input, it does not: each input has the outcome that it has alone, and leaves the file that it
leaves alone.
-/

namespace LayoutRecovery

theorem FileTree.exists_entryAt_of_readText {tree : FileTree} {path text : String}
    (read : tree.readText path = .ok text) :
    ∃ front name outer,
      tree.EntryAt path front name outer ∧ tree.locate path = .ok (name :: outer) := by
  unfold readText FileTree.read at read
  cases located : tree.locate path with
  | error error => simp [located] at read
  | ok place =>
      have solid : tree.node? place ≠ some .directory := by
        intro directory
        simp [located, directory] at read
      obtain ⟨front, name, outer, entry, rfl⟩ := exists_entryAt located solid
      exact ⟨front, name, outer, entry, rfl⟩

/-- What becomes of an input whose class can be written to a place or not, and the file that it
leaves. -/
def Reconstruction.settle (reconstruction : Reconstruction) (name : String)
    (output : Except FileError Location) : Outcome × Option (Location × ByteArray) :=
  match reconstruction.result, output with
  | .error error, _ => ({ name, result := .error (.directive error) }, none)
  | .ok none, _ => ({ name, result := .ok none }, none)
  | .ok (some _), .error error => ({ name, result := .error (.file error) }, none)
  | .ok (some stub), .ok place =>
      ({ name, result := .ok (some stub) }, some (place, stub.render.toUTF8))

/-- What becomes of an input of a batch, and the file that it leaves. -/
def Config.settle (config : Config) (tree : FileTree) (path : String) :
    Outcome × Option (Location × ByteArray) :=
  match tree.readText path with
  | .error error => ({ name := path, result := .error (.file error) }, none)
  | .ok text =>
      (config.reconstruct (SourceLine.ofText text)).settle path
        (tree.outputPlace (path ++ config.outputSuffix))

theorem Config.settle_of_readText {config : Config} {tree : FileTree} {path text : String}
    (read : tree.readText path = .ok text) :
    config.settle tree path = (config.reconstruct (SourceLine.ofText text)).settle path
      (tree.outputPlace (path ++ config.outputSuffix)) := by
  rw [settle, read]

theorem fromUTF8?_toUTF8 (text : String) : String.fromUTF8? text.toUTF8 = some text :=
  dif_pos text.isValidUTF8

namespace FileTree

/-- The tree with a file put into it. -/
def withFile (tree : FileTree) : Option (Location × ByteArray) → FileTree
  | none => tree
  | some (place, content) => tree.put place (.file content)

variable {tree later : FileTree} {config : Config} {path other : String}
variable {place : Location} {content : ByteArray}

theorem readText_eq (located : tree.locate path = .ok place)
    (located_other : later.locate other = .ok place) (same : later.node? place = tree.node? place) :
    later.readText other = tree.readText path := by
  rw [readText, readText, read, read, located, located_other]
  simp only [same]

/-- An input that is read as a text with a class, which is written to a place. -/
structure Leaves (tree : FileTree) (config : Config) (path : String) (front : List String)
    (name : String) (outer place : Location) (text : String) (stub : Stub) : Prop where
  entry : tree.EntryAt path front name outer
  located : tree.locate path = .ok (name :: outer)
  read : tree.readText path = .ok text
  placed : tree.outputPlace (path ++ config.outputSuffix) = .ok place
  returned : (config.reconstruct (SourceLine.ofText text)).result = .ok (some stub)

theorem exists_leaves_of_settle (left : (config.settle tree path).2 = some (place, content)) :
    ∃ front name outer text stub, tree.Leaves config path front name outer place text stub ∧
      content = stub.render.toUTF8 := by
  unfold Config.settle at left
  split at left
  · cases left
  · rename_i text read
    obtain ⟨front, name, outer, entry, located⟩ := exists_entryAt_of_readText read
    unfold Reconstruction.settle at left
    split at left
    · cases left
    · cases left
    · cases left
    · rename_i stub output returned placed
      cases left
      exact ⟨front, name, outer, text, stub, ⟨entry, located, read, placed, returned⟩, rfl⟩

theorem solid_of_settle (plain : '/' ∉ config.outputSuffix.toList)
    (left : (config.settle tree path).2 = some (place, content)) :
    tree.node? place ≠ some .directory := by
  obtain ⟨front, name, outer, text, stub, leaves, -⟩ := exists_leaves_of_settle left
  exact (leaves.entry.eq_of_outputPlace plain leaves.placed).2.1

/-- Two inputs that leave files at one place are one input. -/
theorem content_of_settle (plain : '/' ∉ config.outputSuffix.toList) {another : ByteArray}
    (left : (config.settle tree path).2 = some (place, content))
    (left_other : (config.settle tree other).2 = some (place, another)) : content = another := by
  obtain ⟨front, name, outer, text, stub, leaves, rfl⟩ := exists_leaves_of_settle left
  obtain ⟨front', name', outer', text', stub', others, rfl⟩ := exists_leaves_of_settle left_other
  have here := (leaves.entry.eq_of_outputPlace plain leaves.placed).1
  have there := (others.entry.eq_of_outputPlace plain others.placed).1
  obtain ⟨names, rfl⟩ := List.cons.inj (here.symm.trans there)
  obtain rfl := (String.append_left_inj _).mp names
  have texts := (readText_eq leaves.located others.located rfl).symm
  rw [leaves.read, others.read] at texts
  obtain rfl := Except.ok.inj texts
  have stubs := leaves.returned.symm.trans others.returned
  rw [Option.some.inj (Except.ok.inj stubs)]

theorem locate_of_settle (plain : '/' ∉ config.outputSuffix.toList)
    (left : (config.settle tree path).2 = some (place, content))
    (located : tree.locate other = .ok place) :
    tree.locate (path ++ config.outputSuffix) = tree.locate other := by
  obtain ⟨front, name, outer, text, stub, leaves, -⟩ := exists_leaves_of_settle left
  rw [located]
  exact leaves.entry.locate_of_outputPlace plain leaves.placed (isSome_of_locate located)

/-- An input that another one has replaced by its class is read as that class. -/
theorem readText_withFile (plain : '/' ∉ config.outputSuffix.toList)
    (left : (config.settle tree path).2 = some (place, content))
    (located : tree.locate other = .ok place) :
    ∃ text stub, tree.readText path = .ok text ∧
      (config.reconstruct (SourceLine.ofText text)).result = .ok (some stub) ∧
      (tree.withFile (config.settle tree path).2).readText other = .ok stub.render := by
  have solid := solid_of_settle plain left
  obtain ⟨front, name, outer, text, stub, leaves, rfl⟩ := exists_leaves_of_settle left
  refine ⟨text, stub, leaves.read, leaves.returned, ?_⟩
  have grown : (tree.put place (.file stub.render.toUTF8)).Extends tree :=
    ((overlays_nil tree).put solid (by simp)).extends_of_solid (by simpa using solid)
  have located_later := grown.locate located
  rw [left]
  simp only [withFile, readText, FileTree.read, located_later, node?_put_of_solid solid,
    fromUTF8?_toUTF8]

/-- What becomes of an input does not depend on files that are added elsewhere. -/
theorem settle_grow (plain : '/' ∉ config.outputSuffix.toList) (grown : later.Extends tree)
    (located : tree.locate path = .ok place) (same : later.node? place = tree.node? place) :
    config.settle later path = config.settle tree path := by
  have text_eq := readText_eq located (grown.locate located) same
  cases read : tree.readText path with
  | error error => rw [Config.settle, Config.settle, text_eq, read]
  | ok text =>
      obtain ⟨front, name, outer, entry, -⟩ := exists_entryAt_of_readText read
      rw [Config.settle_of_readText read, Config.settle_of_readText (text_eq.trans read),
        entry.outputPlace_grow grown plain]

end FileTree

namespace CommandLine
namespace Workspace

variable (verbosity : Verbosity) (workspace : Workspace)

section Visits

variable {request : GenerateRequest} {config : Config}

theorem handed_beside (beside : request.output = none) (kept : request.stdout = false)
    (plain : '/' ∉ config.outputSuffix.toList) {tree : FileTree} {path text : String}
    (read : tree.readText path = .ok text) (rendered : String) :
    request.handed config tree path rendered =
      match tree.outputPlace (path ++ config.outputSuffix) with
      | .error error => (.error error, tree)
      | .ok place => (.ok (), tree.put place (.file rendered.toUTF8)) := by
  obtain ⟨front, name, outer, entry, -⟩ := FileTree.exists_entryAt_of_readText read
  simp only [GenerateRequest.handed, kept, Bool.false_eq_true, if_false,
    GenerateRequest.destination, beside]
  exact entry.write_append plain rendered.toUTF8

theorem delivered_beside (beside : request.output = none) (kept : request.stdout = false)
    (plain : '/' ∉ config.outputSuffix.toList) {tree : FileTree} {path text : String}
    (read : tree.readText path = .ok text) (reconstruction : Reconstruction) :
    let settled := reconstruction.settle path (tree.outputPlace (path ++ config.outputSuffix))
    request.delivered config tree path reconstruction = (settled.1, tree.withFile settled.2) := by
  obtain ⟨result, log⟩ := reconstruction
  rcases result with error | (- | stub)
  · rfl
  · rfl
  · simp only [GenerateRequest.delivered, handed_beside beside kept plain read]
    cases tree.outputPlace (path ++ config.outputSuffix) <;> rfl

theorem visited_beside (beside : request.output = none) (kept : request.stdout = false)
    (plain : '/' ∉ config.outputSuffix.toList) (tree : FileTree) (path : String) :
    request.visited config tree path =
      ((config.settle tree path).1, tree.withFile (config.settle tree path).2) := by
  cases read : tree.readText path with
  | error error => simp only [GenerateRequest.visited, Config.settle, read, FileTree.withFile]
  | ok text =>
      rw [GenerateRequest.visited, Config.settle_of_readText read, read]
      exact delivered_beside beside kept plain read _

theorem backs_admitting : Backs (host.admitting verbosity) :=
  (backs_host .inTurn).admitting verbosity

theorem exists_run_process (beside : request.output = none) (kept : request.stdout = false)
    (plain : '/' ∉ config.outputSuffix.toList) (path : String) :
    let host := host.admitting verbosity
    let settled := config.settle workspace.tree path
    ∃ after, ((request.batch host config).process (host.source path)).run workspace =
      (settled.1, after) ∧ after.tree = workspace.tree.withFile settled.2 := by
  obtain ⟨after, ran, left, -⟩ :=
    (backs_admitting verbosity).process request config workspace.tree path workspace rfl
  rw [visited_beside beside kept plain] at ran left
  exact ⟨after, ran, left⟩

theorem exists_run_visit (beside : request.output = none) (kept : request.stdout = false)
    (plain : '/' ∉ config.outputSuffix.toList) (path : String) :
    let host := host.admitting verbosity
    let settled := config.settle workspace.tree path
    ∃ after, ((request.batch host config).visit (host.source path)).run workspace =
      (settled.1, after) ∧ after.tree = workspace.tree.withFile settled.2 := by
  obtain ⟨after, ran, left, -⟩ :=
    (backs_admitting verbosity).visit request config workspace.tree path workspace rfl
  rw [visited_beside beside kept plain] at ran left
  exact ⟨after, ran, left⟩

end Visits

/-- The files that inputs leave, each by itself. -/
def left (config : Config) (tree : FileTree) (paths : List String) : List (Location × ByteArray) :=
  paths.filterMap fun path => (config.settle tree path).2

theorem mem_left_iff {config : Config} {tree : FileTree} {paths : List String}
    {file : Location × ByteArray} :
    file ∈ left config tree paths ↔ ∃ path ∈ paths, (config.settle tree path).2 = some file := by
  simp [left]

theorem perm_inputs {request : GenerateRequest} {host : Host (StateM Workspace)}
    {order : List (Fin (request.sources host).length)} (complete : order.Perm (List.finRange _)) :
    (order.map fun index => ((request.sources host).get index).name).Perm request.inputs := by
  have names : (request.sources host).map Source.name = request.inputs := by
    simp [GenerateRequest.sources, Host.source, Function.comp_def]
  have listed : (order.map (request.sources host).get).Perm (request.sources host) :=
    (complete.map _).trans (.of_eq (List.map_get_finRange _))
  rw [← names]
  simpa [Function.comp_def] using listed.map Source.name

section Batches

variable {request : GenerateRequest} {config : Config} {tree later : FileTree}
variable {paths : List String} {path : String}

theorem overlays_withFile (path : String) (plain : '/' ∉ config.outputSuffix.toList)
    (overlays : later.Overlays tree (left config tree paths)) :
    (later.withFile (config.settle tree path).2).Overlays tree
      (left config tree (paths ++ [path])) := by
  have appended : left config tree (paths ++ [path]) =
      left config tree paths ++ (config.settle tree path).2.toList := by
    rw [left, List.filterMap_append]
    rfl
  rw [appended]
  cases settled : (config.settle tree path).2 with
  | none => simpa [FileTree.withFile] using overlays
  | some file =>
      obtain ⟨place, content⟩ := file
      refine overlays.put (FileTree.solid_of_settle plain settled) fun other inside => ?_
      obtain ⟨before, -, earlier⟩ := mem_left_iff.mp inside
      exact FileTree.content_of_settle plain earlier settled

theorem settle_of_overlays (plain : '/' ∉ config.outputSuffix.toList)
    (overlays : later.Overlays tree (left config tree paths)) (there : tree.hasPath path = true)
    (separate : ∀ other ∈ paths,
      tree.locate (other ++ config.outputSuffix) ≠ tree.locate path) :
    config.settle later path = config.settle tree path := by
  have grown : later.Extends tree := overlays.extends_of_solid fun file inside => by
    obtain ⟨other, -, settled⟩ := mem_left_iff.mp inside
    exact FileTree.solid_of_settle plain settled
  unfold FileTree.hasPath at there
  split at there
  · rename_i place located
    obtain ⟨content, inside, -⟩ | same := overlays.node?_cases place
    · obtain ⟨other, visited, settled⟩ := mem_left_iff.mp inside
      exact absurd (FileTree.locate_of_settle plain settled located) (separate other visited)
    · exact FileTree.settle_grow plain grown located same
  · cases there

theorem node?_of_changed (plain : '/' ∉ config.outputSuffix.toList)
    (overlays : later.Overlays tree (left config tree paths)) (given : path ∈ paths)
    {place : Location}
    (changed : (tree.withFile (config.settle tree path).2).node? place ≠ tree.node? place) :
    later.node? place = (tree.withFile (config.settle tree path).2).node? place := by
  cases settled : (config.settle tree path).2 with
  | none =>
      rw [settled] at changed
      exact absurd rfl changed
  | some file =>
      obtain ⟨put, content⟩ := file
      rw [settled] at changed
      have here : place = put := Decidable.byContradiction fun elsewhere =>
        changed (FileTree.node?_put_of_ne _ _ elsewhere)
      rw [here, overlays.there put content (mem_left_iff.mpr ⟨path, given, settled⟩)]
      exact (FileTree.node?_put_of_solid (FileTree.solid_of_settle plain settled) _).symm

theorem node?_of_unchanged (plain : '/' ∉ config.outputSuffix.toList)
    (overlays : later.Overlays tree (left config tree paths)) {place : Location}
    (unchanged : ∀ path ∈ paths,
      (tree.withFile (config.settle tree path).2).node? place = tree.node? place) :
    later.node? place = tree.node? place := by
  obtain ⟨content, inside, put⟩ | same := overlays.node?_cases place
  · obtain ⟨path, given, settled⟩ := mem_left_iff.mp inside
    have still := unchanged path given
    rw [settled] at still
    rw [put, ← still]
    exact (FileTree.node?_put_of_solid (FileTree.solid_of_settle plain settled) _).symm
  · exact same

theorem settles_beside (beside : request.output = none) (kept : request.stdout = false)
    (plain : '/' ∉ config.outputSuffix.toList)
    (exist : ∀ path ∈ request.inputs, workspace.tree.hasPath path = true)
    (separate : ∀ path ∈ request.inputs, ∀ other ∈ request.inputs,
      workspace.tree.locate (path ++ config.outputSuffix) ≠ workspace.tree.locate other) :
    let host := host.admitting verbosity
    (request.batch host config).Settles (request.sources host)
      (fun source => (config.settle workspace.tree source.name).1) fun done later =>
        later.tree.Overlays workspace.tree (left config workspace.tree
          (done.map fun index => ((request.sources host).get index).name)) := by
  intro host
  let name (index : Fin (request.sources host).length) := ((request.sources host).get index).name
  have given (index) : name index ∈ request.inputs ∧
      (request.sources host).get index = host.source (name index) := by
    obtain ⟨path, inside, comes⟩ := List.mem_map.mp (List.get_mem (request.sources host) index)
    have same : name index = path := congrArg Source.name comes.symm
    exact same ▸ ⟨inside, comes.symm⟩
  have settled (done : List (Fin (request.sources host).length)) (index) (later : Workspace)
      (overlays : later.tree.Overlays workspace.tree
        (left config workspace.tree (done.map name))) :
      config.settle later.tree (name index) = config.settle workspace.tree (name index) := by
    refine settle_of_overlays plain overlays (exist _ (given index).1) fun other before => ?_
    obtain ⟨earlier, -, rfl⟩ := List.mem_map.mp before
    exact separate _ (given earlier).1 _ (given index).1
  constructor
  · intro done index later fresh overlays
    obtain ⟨after, ran, -⟩ := exists_run_visit verbosity later beside kept plain (name index)
    rw [(given index).2, ran, settled done index later overlays]
    rfl
  · intro done index later fresh overlays
    obtain ⟨after, ran, tree⟩ := exists_run_visit verbosity later beside kept plain
      (name index)
    rw [(given index).2, ran, tree, settled done index later overlays, List.map_append]
    exact overlays_withFile _ plain overlays

/-- In an order, the inputs of a batch have the outcomes that they have alone; the files end up as
each input alone changes them. -/
structure ActsAlone (batch : Batch (StateM Workspace)) (sources : List (Source (StateM Workspace)))
    (order : List (Fin sources.length)) (workspace : Workspace) : Prop where
  outcomes_eq :
    ((batch.runInOrder sources order).run workspace).1 =
      sources.map fun source => ((batch.process source).run workspace).1
  changes : ∀ source ∈ sources, ∀ place,
    ((batch.process source).run workspace).2.tree.node? place ≠ workspace.tree.node? place →
      ((batch.runInOrder sources order).run workspace).2.tree.node? place =
        ((batch.process source).run workspace).2.tree.node? place
  stays : ∀ place,
    (∀ source ∈ sources, ((batch.process source).run workspace).2.tree.node? place =
      workspace.tree.node? place) →
    ((batch.runInOrder sources order).run workspace).2.tree.node? place =
      workspace.tree.node? place

/-- A batch whose classes are written next to their inputs does in every order what the inputs do
alone, if no output leads to an input. -/
theorem actsAlone_beside (request : GenerateRequest) (verbosity : Verbosity) (config : Config)
    (workspace : Workspace) (beside : request.output = none) (kept : request.stdout = false)
    (plain : '/' ∉ config.outputSuffix.toList)
    (exist : ∀ path ∈ request.inputs, workspace.tree.hasPath path = true)
    (separate : ∀ path ∈ request.inputs, ∀ other ∈ request.inputs,
      workspace.tree.locate (path ++ config.outputSuffix) ≠ workspace.tree.locate other)
    (order : List (Fin (request.sources (host.admitting verbosity)).length))
    (complete : order.Perm (List.finRange _)) :
    ActsAlone (request.batch (host.admitting verbosity) config)
      (request.sources (host.admitting verbosity)) order workspace := by
  have settles := settles_beside verbosity workspace beside kept plain exist separate
  have start := FileTree.overlays_nil workspace.tree
  obtain ⟨final, visited, ran⟩ := settles.run_runInOrder complete start
  have overlays := visited.perm ((perm_inputs complete).filterMap _)
  have alone (source) (inside : source ∈ request.sources (host.admitting verbosity)) :
      source.name ∈ request.inputs ∧ ∃ after,
        ((request.batch (host.admitting verbosity) config).process source).run workspace =
          ((config.settle workspace.tree source.name).1, after) ∧
        after.tree = workspace.tree.withFile (config.settle workspace.tree source.name).2 := by
    obtain ⟨path, given, rfl⟩ := List.mem_map.mp inside
    exact ⟨given, exists_run_process verbosity workspace beside kept plain path⟩
  constructor
  · rw [ran]
    refine List.map_congr_left fun source inside => ?_
    obtain ⟨-, after, processed, -⟩ := alone source inside
    rw [processed]
  · intro source inside place changed
    obtain ⟨given, after, processed, tree⟩ := alone source inside
    rw [processed, tree] at changed
    rw [ran, processed, tree]
    exact node?_of_changed plain overlays given changed
  · intro place unchanged
    rw [ran]
    refine node?_of_unchanged plain overlays fun path given => ?_
    obtain ⟨-, after, processed, tree⟩ := alone _ (List.mem_map_of_mem given)
    have same := unchanged _ (List.mem_map_of_mem given)
    rw [processed, tree] at same
    exact same

end Batches

/-- A class and a text without signature, one of them given twice, visited last to first. -/
theorem actsAlone_beside_three :
    let request : GenerateRequest :=
      { inputs := ["a", "./b", "a"], output := none, suffix := none, stdout := false,
        sequential := false }
    let workspace := ofTree
      ⟨[(["a"], .file "void f(a1)\n".toUTF8), (["b"], .file "nothing\n".toUTF8)]⟩
    let order : List (Fin (request.sources (host.admitting .info)).length) :=
      [⟨2, by decide⟩, ⟨1, by decide⟩, ⟨0, by decide⟩]
    (∀ path ∈ request.inputs, workspace.tree.hasPath path = true) ∧
      (∀ path ∈ request.inputs, ∀ other ∈ request.inputs,
        workspace.tree.locate (path ++ ({} : Config).outputSuffix) ≠ workspace.tree.locate other) ∧
      order.Perm (List.finRange _) ∧
      ActsAlone (request.batch (host.admitting .info) {}) (request.sources (host.admitting .info))
        order workspace := by
  intro request workspace order
  have plain : '/' ∉ ({} : Config).outputSuffix.toList := by decide
  have exist : ∀ path ∈ request.inputs, workspace.tree.hasPath path = true := by decide +kernel
  have separate : ∀ path ∈ request.inputs, ∀ other ∈ request.inputs,
      workspace.tree.locate (path ++ ({} : Config).outputSuffix) ≠ workspace.tree.locate other := by
    decide +kernel
  have complete : order.Perm (List.finRange _) := by decide
  exact ⟨exist, separate, complete,
    actsAlone_beside request .info {} workspace rfl rfl plain exist separate order complete⟩

/-- An input that is the output of another one is read as it is when its turn comes: before the
other one it is no text, and behind it a class. -/
theorem outcomes_depend_on_order :
    let request : GenerateRequest :=
      { inputs := ["a", "a.cs"], output := none, suffix := none, stdout := false,
        sequential := false }
    let tree : FileTree := ⟨[(["a"], .file "void f(a1)\n".toUTF8), (["a.cs"], .file ⟨#[255]⟩)]⟩
    let host := host.admitting .info
    let outcomes order :=
      (((request.batch host {}).runInOrder (request.sources host) order).run (ofTree tree)).1
    (∀ path ∈ request.inputs, tree.hasPath path = true) ∧ Config.fault? {} = none ∧
      outcomes [⟨0, by decide⟩, ⟨1, by decide⟩] ≠ outcomes [⟨1, by decide⟩, ⟨0, by decide⟩] := by
  intro request tree host outcomes
  have plain : '/' ∉ ({} : Config).outputSuffix.toList := by decide
  have visit (workspace : Workspace) (path : String) : ∃ after,
      ((request.batch host {}).visit (host.source path)).run workspace =
        ((Config.settle {} workspace.tree path).1, after) ∧
      after.tree = workspace.tree.withFile (Config.settle {} workspace.tree path).2 :=
    exists_run_visit .info workspace rfl rfl plain path
  obtain ⟨middle, first, replaced⟩ := visit (ofTree tree) "a"
  obtain ⟨late, second, -⟩ := visit middle "a.cs"
  have behind : (Config.settle {} middle.tree "a.cs").1.result ≠ .error (.file .notText) := by
    have put : (Config.settle {} tree "a").2.any (fun file => file.1 = ["a.cs"]) = true := by
      decide +kernel
    have placed : (tree.withFile (Config.settle {} tree "a").2).outputPlace
        ("a.cs" ++ ({} : Config).outputSuffix) = .ok ["a.cs.cs"] := by decide +kernel
    obtain ⟨⟨place, content⟩, left, here⟩ := (Option.any_eq_true _ _).mp put
    obtain rfl := of_decide_eq_true here
    have located : tree.locate "a.cs" = .ok ["a.cs"] := by decide +kernel
    obtain ⟨-, stub, -, -, read⟩ := FileTree.readText_withFile plain left located
    have same : middle.tree = tree.withFile (Config.settle {} tree "a").2 := replaced
    rw [same, Config.settle_of_readText read, placed]
    unfold Reconstruction.settle
    split <;> simp_all
  obtain ⟨early, alone, -⟩ := visit (ofTree tree) "a.cs"
  have before : (Config.settle {} tree "a.cs").1.result = .error (.file .notText) := by
    decide +kernel
  refine ⟨by decide +kernel, by decide +kernel, fun same => behind ?_⟩
  have forward := Batch.outcomes_first_second (request.batch host {}) (host.source "a")
    (host.source "a.cs") (ofTree tree)
  have backward := Batch.outcomes_second_first (request.batch host {}) (host.source "a")
    (host.source "a.cs") (ofTree tree)
  simp only [first, second] at forward
  simp only [alone] at backward
  have lists := forward.symm.trans (same.trans backward)
  obtain ⟨-, rest⟩ := List.cons.inj lists
  rw [List.singleton_inj.mp rest]
  exact before

end Workspace
end CommandLine
end LayoutRecovery
