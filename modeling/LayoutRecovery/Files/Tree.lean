import LayoutRecovery.Files.Error
import LayoutRecovery.Files.Path

/-!
# File trees

The files and directories below a working directory as a value, with the operations that a run
needs.  A path is followed name by name: each step needs a directory to stand in, empty names and
`.` stay there, and `..` goes up, also beyond the working directory.
-/

namespace LayoutRecovery

/-- What stands at a place in a file tree. -/
inductive FileNode where
  /-- A directory. -/
  | directory
  /-- A file with its bytes. -/
  | file (content : ByteArray)

/-- Files are compared byte by byte. -/
instance : DecidableEq FileNode
  | .directory, .directory => isTrue rfl
  | .directory, .file _ => isFalse nofun
  | .file _, .directory => isFalse nofun
  | .file left, .file right =>
      if same : left.data = right.data then isTrue (congrArg FileNode.file (ByteArray.ext same))
      else isFalse fun equal => same (congrArg ByteArray.data (FileNode.file.inj equal))

/-- The files and directories of a working directory. -/
structure FileTree where
  /-- What is there, by place; the working directory itself is not listed. -/
  nodes : List (Location × FileNode)

namespace FileTree

/-- A working directory without contents. -/
def empty : FileTree := ⟨[]⟩

/-- What stands at a place. -/
def node? (tree : FileTree) (location : Location) : Option FileNode :=
  if location.all Location.leadsOut then some .directory else tree.nodes.lookup location

/-- Puts something at a place. -/
def put (tree : FileTree) (location : Location) (node : FileNode) : FileTree :=
  ⟨(location, node) :: tree.nodes.filter fun entry => entry.1 != location⟩

/-- Follows names from a place. -/
def follow (tree : FileTree) : Location → List String → Except FileError Location
  | here, [] => .ok here
  | here, name :: rest =>
      if tree.node? here = some .directory then
        if name = "" ∨ name = "." then tree.follow here rest
        else if name = ".." then tree.follow (Location.parent here) rest
        else if FilePath.maximumNameLength < name.utf8ByteSize then .error .nameTooLong
        else if (tree.node? (name :: here)).isSome then tree.follow (name :: here) rest
        else .error .notFound
      else .error .notDirectory

/-- The directory that names lead to. -/
def followToDirectory (tree : FileTree) (base : Location) (names : List String) :
    Except FileError Location :=
  match tree.follow base names with
  | .ok location =>
      if tree.node? location = some .directory then .ok location else .error .notDirectory
  | .error error => .error error

/-- The place that a path leads to. -/
def locate (tree : FileTree) (path : String) : Except FileError Location :=
  match FilePath.fault? path with
  | some error => .error error
  | none => tree.follow (FilePath.base path) (FilePath.names path)

/-- Whether a path leads to something. -/
def hasPath (tree : FileTree) (path : String) : Bool :=
  match tree.locate path with
  | .ok _ => true
  | .error _ => false

/-- The bytes of the file at a path. -/
def read (tree : FileTree) (path : String) : Except FileError ByteArray :=
  match tree.locate path with
  | .error error => .error error
  | .ok location =>
      match tree.node? location with
      | some (.file content) => .ok content
      | some .directory => .error .isDirectory
      | none => .error .notFound

/-- Makes a directory in an existing one. -/
def makeDirectory (tree : FileTree) (base : Location) (outer : List String) (name : String) :
    Except FileError FileTree :=
  match tree.followToDirectory base outer with
  | .error error => .error error
  | .ok location =>
      if name = "." ∨ name = ".." then .error .alreadyExists
      else if FilePath.maximumNameLength < name.utf8ByteSize then .error .nameTooLong
      else if (tree.node? (name :: location)).isSome then .error .alreadyExists
      else .ok (tree.put (name :: location) .directory)

/-- Whether names lead to a directory. -/
def hasDirectory (tree : FileTree) (base : Location) (names : List String) : Bool :=
  match tree.followToDirectory base names with
  | .ok _ => true
  | .error _ => false

/-- Makes a directory and the missing ones above it; the names come last to first.  What has been
made stays, also if a later step fails. -/
def makeDirectories (tree : FileTree) (base : Location) :
    (reversed : List String) → Except FileError Unit × FileTree
  | [] => (.ok (), tree)
  | name :: outer =>
      let settle (reached : FileTree) (attempt : Except FileError FileTree) :=
        match attempt with
        | .ok grown => (.ok (), grown)
        | .error error =>
            (if reached.hasDirectory base (name :: outer).reverse then .ok () else .error error,
              reached)
      match tree.makeDirectory base outer.reverse name with
      | .error .notFound =>
          match tree.makeDirectories base outer with
          | (.ok (), grown) => settle grown (grown.makeDirectory base outer.reverse name)
          | (.error error, grown) => (.error error, grown)
      | attempt => settle tree attempt

/-- Makes the directory that is to hold what a path leads to, and the missing ones above it. -/
def makeRoom (tree : FileTree) (path : String) : Except FileError Unit × FileTree :=
  match FilePath.directory? path with
  | none => (.ok (), tree)
  | some directory =>
      match FilePath.fault? directory with
      | some error => (.error error, tree)
      | none =>
          tree.makeDirectories (FilePath.base directory) (FilePath.components directory).reverse

/-- The place that names, last to first, give to a file that is created or replaced. -/
def creationPlace (tree : FileTree) (base : Location) (reversed : List String) :
    Except FileError Location :=
  match reversed.dropWhile (· == "") with
  | [] => .error .isDirectory
  | name :: outer =>
      match tree.followToDirectory base outer.reverse with
      | .error error => .error error
      | .ok location =>
          if name = "." ∨ name = ".." ∨ reversed.head? = some "" then .error .isDirectory
          else if FilePath.maximumNameLength < name.utf8ByteSize then .error .nameTooLong
          else if tree.node? (name :: location) = some .directory then .error .isDirectory
          else .ok (name :: location)

/-- Creates or replaces the file at a path in an existing directory. -/
def putFile (tree : FileTree) (path : String) (content : ByteArray) : Except FileError FileTree :=
  match FilePath.fault? path with
  | some error => .error error
  | none =>
      match tree.creationPlace (FilePath.base path) (FilePath.names path).reverse with
      | .error error => .error error
      | .ok location => .ok (tree.put location (.file content))

/-- Creates or replaces the file at a path, with the missing directories above it.  Directories stay
also if the file cannot be put there. -/
def write (tree : FileTree) (path : String) (content : ByteArray) :
    Except FileError Unit × FileTree :=
  match tree.makeRoom path with
  | (.error error, grown) => (.error error, grown)
  | (.ok (), grown) =>
      match grown.putFile path content with
      | .error error => (.error error, grown)
      | .ok later => (.ok (), later)

/-- Adds a file or a directory at a path, with all directories above it. -/
def withEntry (tree : FileTree) (path : String) (node : FileNode) : FileTree :=
  let reversed := (FilePath.components path).reverse
  match tree.makeDirectories [] (reversed.drop 1) with
  | (.ok (), grown) => grown.put reversed node
  | (.error _, _) => tree

/-- The files below the working directory. -/
def files (tree : FileTree) : List (Location × ByteArray) :=
  tree.nodes.filterMap fun (location, node) =>
    match node with
    | .file content => if location.isInside then some (location, content) else none
    | .directory => none

theorem node?_put_self (tree : FileTree) {location : Location} (node : FileNode)
    (named : location.all Location.leadsOut = false) :
    (tree.put location node).node? location = some node := by
  simp [node?, put, named]

theorem node?_put_of_ne (tree : FileTree) {location other : Location} (node : FileNode)
    (different : other ≠ location) : (tree.put location node).node? other = tree.node? other := by
  unfold node? put
  split
  · rfl
  · have missed : (other == location) = false := by simpa using different
    rw [List.lookup_cons, missed]
    generalize tree.nodes = nodes
    induction nodes with
    | nil => rfl
    | cons entry rest ih =>
        by_cases same : entry.1 = location
        · have missed_entry : (other == entry.1) = false := by
            rw [same]
            exact missed
          rw [List.filter_cons_of_neg (by simpa using same), List.lookup_cons, missed_entry]
          exact ih
        · rw [List.filter_cons_of_pos (by simpa using same), List.lookup_cons, List.lookup_cons]
          cases other == entry.1
          · exact ih
          · rfl

end FileTree
end LayoutRecovery
