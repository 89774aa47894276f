/-!
# Files and directories

A tree of files and directories as a value. Paths are names with slashes between them; empty names
and single dots stay where they are, and double dots go to the parent. A path that goes through
something leads on only if that is a directory.

* `FileTree.locate`: where a path leads.
* `FileTree.read`, `readText`: the contents of a file.
* `FileTree.write`: the tree with a file.
* `FileTree.makeDirectory`, `createAll`: the tree with a directory, or with all that are missing on
  the way to it.
-/

namespace OnScreen

/-- Why a file operation failed. -/
inductive FileFault
  | notFound
  | alreadyExists
  | notDirectory
  | isDirectory
  | notText
  /-- A name or a path has more bytes than one may have. -/
  | nameTooLong
  /-- A path holds the character that ends texts for the system. -/
  | nulInPath
  /-- A place in a file is farther from its start than a file may be long. -/
  | placeTooFar
  /-- Anything that a tree of files does not know, in the words of the system. -/
  | other (reason : String)
  deriving DecidableEq

/-- The failure as a sentence. -/
def FileFault.message : FileFault → String
  | notFound => "No such file or directory (os error 2)"
  | alreadyExists => "File exists (os error 17)"
  | notDirectory => "Not a directory (os error 20)"
  | isDirectory => "Is a directory (os error 21)"
  | notText => "stream did not contain valid UTF-8"
  | nameTooLong => "File name too long (os error 36)"
  | nulInPath => "file name contained an unexpected NUL byte"
  | placeTooFar => "Invalid argument (os error 22)"
  | other reason => reason

/-- The most bytes that a file may have. -/
def maxFileBytes : Nat := 17592186040320

/-- What there is under a path. -/
inductive FileEntry
  | file (bytes : ByteArray)
  | directory

/-- The entries below the top directory, which always exists, by the names that lead to them. -/
structure FileTree where
  entries : List (List String × FileEntry) := []

/-- Where a path leads: the names from the top, and what is there. -/
structure Location where
  names : List String
  entry : Option FileEntry

namespace FileTree

/-! ## Paths -/

/-- The most bytes that a name may have. -/
def maxNameBytes : Nat := 255

/-- The most bytes that a path may have. -/
def maxPathBytes : Nat := 4095

/-- A name that leads nowhere else. -/
def staysPut (name : String) : Bool :=
  name = "" || name = "."

/-- The path with the given names, from the last to the first. -/
def pathOf (reversed : List String) : String :=
  String.intercalate "/" reversed.reverse

/-- The name that a path ends in, without empty names and single dots behind it. -/
def lastName? (path : String) : Option String :=
  ((path.splitOn "/").reverse.dropWhile staysPut).head?

/-- The path of the directory that the last name of a path is in: what stands before that name. A
path without a name has none. -/
def parentOf? (path : String) : Option String :=
  match (path.splitOn "/").reverse.dropWhile staysPut with
  | [] => none
  | _ :: above => some (pathOf (above.dropWhile staysPut))

/-- The names of a path, single dots included. The system takes no path with a NUL in it, none that
is empty, and none that is too long. -/
def namesOf (path : String) : Except FileFault (List String) :=
  if path.contains '\x00' then .error .nulInPath
  else if path = "" then .error .notFound
  else if maxPathBytes < path.utf8ByteSize then .error .nameTooLong
  else .ok ((path.splitOn "/").filter fun name => decide (name ≠ ""))

/-! ## Looking up -/

/-- What there is under a list of names. -/
def entry? (tree : FileTree) (names : List String) : Option FileEntry :=
  if names.isEmpty then some .directory
  else (tree.entries.find? fun e => decide (e.1 = names)).map Prod.snd

/-- The tree with an entry put under a list of names. -/
def put (tree : FileTree) (names : List String) (entry : FileEntry) : FileTree where
  entries := (names, entry) :: tree.entries.filter fun e => decide (e.1 ≠ names)

/-- The top directory, where every path starts. -/
def top : Location :=
  ⟨[], some .directory⟩

/-- Follows a name from a place in the tree, which has to be a directory. -/
def step (tree : FileTree) (here : Location) (name : String) : Except FileFault Location :=
  match here.entry with
  | none => .error .notFound
  | some (.file _) => .error .notDirectory
  | some .directory =>
    if staysPut name then .ok here
    else if name = ".." then .ok ⟨here.names.dropLast, tree.entry? here.names.dropLast⟩
    else if maxNameBytes < name.utf8ByteSize then .error .nameTooLong
    else .ok ⟨here.names ++ [name], tree.entry? (here.names ++ [name])⟩

/-- Where a path leads. -/
def locate (tree : FileTree) (path : String) : Except FileFault Location := do
  (← namesOf path).foldlM tree.step top

/-- The path leads to a directory. -/
def isDirectory (tree : FileTree) (path : String) : Bool :=
  match tree.locate path with
  | .ok ⟨_, some .directory⟩ => true
  | _ => false

/-! ## Files -/

/-- The contents of a file. A path with a slash at its end leads to none. -/
def read (tree : FileTree) (path : String) : Except FileFault ByteArray :=
  match tree.locate path with
  | .error e => .error e
  | .ok ⟨_, none⟩ => .error .notFound
  | .ok ⟨_, some .directory⟩ => .error .isDirectory
  | .ok ⟨_, some (.file bytes)⟩ =>
    if path.endsWith "/" then .error .notDirectory else .ok bytes

/-- The text of some bytes. -/
def textOf (bytes : ByteArray) : Except FileFault String :=
  match String.fromUTF8? bytes with
  | some text => .ok text
  | none => .error .notText

/-- The contents of a file as a text. -/
def readText (tree : FileTree) (path : String) : Except FileFault String :=
  match tree.read path with
  | .error e => .error e
  | .ok bytes => textOf bytes

/-- Where a file with this path is to be written. Behind a slash at the end of the path there is
only a directory; that is noticed before its name is looked up. -/
def locateForWriting (tree : FileTree) (path : String) : Except FileFault Location := do
  let names ← namesOf path
  if path.endsWith "/" then
    (names.dropLast ++ ["."]).foldlM tree.step top >>= fun _ => .error .isDirectory
  else
    let place ← names.foldlM tree.step top
    match place.entry with
    | some .directory => .error .isDirectory
    | _ => .ok place

/-- The tree with a file written, in place of the one that was there. -/
def write (tree : FileTree) (path : String) (bytes : ByteArray) : Except FileFault FileTree :=
  (tree.locateForWriting path).map fun place => tree.put place.names (.file bytes)

/-! ## Directories -/

/-- The tree with a directory made where there is nothing yet. -/
def makeDirectory (tree : FileTree) (path : String) : Except FileFault FileTree :=
  match tree.locate path with
  | .error e => .error e
  | .ok ⟨_, some _⟩ => .error .alreadyExists
  | .ok ⟨names, none⟩ => .ok (tree.put names .directory)

/-- The tree with a directory made, unless there is one already. -/
def ensureDirectory (tree : FileTree) (path : String) : Except FileFault FileTree :=
  match tree.makeDirectory path with
  | .ok tree => .ok tree
  | .error fault => if tree.isDirectory path then .ok tree else .error fault

/-- The tree with the directory made that has the given names, from the last to the first. What is
missing above it is made before. -/
def createNamed (tree : FileTree) : List String → FileTree × Option FileFault
  | [] => (tree, none)
  | name :: above =>
    if staysPut name then createNamed tree above
    else
      let path := pathOf (name :: above)
      match tree.ensureDirectory path with
      | .ok tree => (tree, none)
      | .error .notFound =>
        match createNamed tree above with
        | (tree, some fault) => (tree, some fault)
        | (tree, none) =>
          match tree.ensureDirectory path with
          | .ok tree => (tree, none)
          | .error fault => (tree, some fault)
      | .error fault => (tree, some fault)

/-- The tree with a directory and the ones above it created where they are missing. Those that were
created before a fault stay. -/
def createAll (tree : FileTree) (path : String) : FileTree × Option FileFault :=
  tree.createNamed (path.splitOn "/").reverse

end FileTree

/-- A path continued by another. -/
def joinPaths (a b : String) : String :=
  if a = "" then b else if a.endsWith "/" then a ++ b else a ++ "/" ++ b

end OnScreen
