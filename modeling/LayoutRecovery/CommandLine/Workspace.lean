import LayoutRecovery.CommandLine.Host
import LayoutRecovery.Files.Tree

/-!
# Workspaces

A working directory together with the messages of the runs in it.  It is a host whose files are a
value, so that a run on it is a function from workspaces to workspaces.
-/

namespace LayoutRecovery
namespace CommandLine

/-- A working directory and what runs in it have said. -/
structure Workspace where
  /-- The files. -/
  tree : FileTree
  /-- The messages, first to last. -/
  events : List Event

namespace Workspace

/-- A workspace in which nothing has run yet. -/
def ofTree (tree : FileTree) : Workspace := ⟨tree, []⟩

/-- The workspace as a host. -/
def host : Host (StateM Workspace) where
  readFile path := return (← get).tree.read path
  writeFile path content := do
    let (result, tree) := (← get).tree.write path content
    modify fun workspace => { workspace with tree }
    return result
  pathExists path := return (← get).tree.hasPath path
  emit event := modify fun workspace => { workspace with events := workspace.events ++ [event] }

/-- What has been printed. -/
def stdout (workspace : Workspace) : String :=
  String.join (workspace.events.map Event.printed)

/-- What has been reported. -/
def stderr (workspace : Workspace) : String :=
  String.join (workspace.events.map Event.reported)

end Workspace
end CommandLine
end LayoutRecovery
