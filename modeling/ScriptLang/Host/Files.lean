import ScriptLang.Host

/-!
# Files in memory

A tree of files, directories and symbolic links.  A path is followed name by name from the working
directory, or from the root when it starts with a slash; a link on the way is replaced by the path
that it holds.

## Main definitions

* `FileNode`, `Files` — the nodes of a tree, and the tree
* `Files.spot` — where a path leads
* `Files.read`, `Files.write`, `Files.isFile`, … — what can be done at a path
-/

namespace ScriptLang

/-- A device that is always there. -/
inductive Device where
  /-- Always empty; takes what is written to it. -/
  | null
  /-- Full of zero bytes; takes what is written to it. -/
  | zero
  /-- Full of zero bytes; never has room for anything. -/
  | full
  deriving DecidableEq, Repr

/-- What a node of the tree is. -/
inductive FileNode where
  /-- The directory that holds this one, and what this one holds, oldest entry first. -/
  | directory (parent : Nat) (entries : List (String × Nat))
  | file (content : List UInt8)
  /-- A symbolic link to a path. -/
  | link (target : String)
  | device (which : Device)

/-- A node with its permission bits and the time of its last change. -/
structure Inode where
  node : FileNode
  mode : Nat
  modified : Float

/-- What kind of node something is. -/
inductive FileKind where
  | directory
  | file
  | link
  | device
  deriving DecidableEq, Repr

/-- What can be told about a node without opening it. -/
structure FileInfo where
  kind : FileKind
  /-- A number that no other node has. -/
  identity : Nat
  size : Nat
  mode : Nat
  /-- How many names the node has. -/
  links : Nat
  modified : Float

/-- A change to the tree other than to the content of a file. -/
inductive FileChange where
  | makeDirectory (path : String) (mode : Nat)
  /-- Removes a name that is not a directory's. -/
  | remove (path : String)
  | removeDirectory (path : String)
  | rename (source target : String)
  /-- Gives a node one more name. -/
  | addName (source target : String)
  /-- Creates a symbolic link that holds a text. -/
  | makeLink (text path : String)
  | setMode (path : String) (mode : Nat)
  | setTime (path : String) (time : Float)

/-- A tree of nodes.  Nodes are known by their numbers; number zero is the root.  A node without a
name stays, but nothing leads there. -/
structure Files where
  nodes : Array Inode
  /-- The directory where relative paths start. -/
  working : Nat
  /-- The permission bits that new nodes do not get. -/
  mask : Nat := 0o022

namespace Files

/-- The longest name, in bytes. -/
def maxName : Nat := 255

/-- The length in bytes from which on a path is too long. -/
def maxPath : Nat := 4096

/-- How many links may be followed on the way. -/
def maxLinks : Nat := 40

/-- The node with a number. -/
def at? (fs : Files) (id : Nat) : Option FileNode :=
  fs.nodes[id]?.map Inode.node

/-- The tree with another node under a number. -/
def put (fs : Files) (id : Nat) (node : FileNode) (now : Float) : Files :=
  { fs with nodes := fs.nodes.modify id fun old => { old with node, modified := now } }

/-- The names in a path, split at slashes. -/
def names (path : String) : List String :=
  path.splitOn "/"

/-! ### Following paths -/

/-- Where a path leads: the directory and the last name in it, and the node, if there is one.  The
name is empty if the path ends at the directory itself. -/
structure Spot where
  directory : Nat
  name : String
  target : Option Nat

/-- Follows names from a directory.  A link in the last place is followed only if `last` says so,
or if a slash stands behind it.  If a file is to be made, what has a slash behind it can only be a
directory, and nobody looks whether it is there. -/
def walk (fs : Files) (links : Nat) (here : Nat) (path : List String) (last : Bool)
    (making : Bool := false) : Except IoError Spot :=
  match path with
  | [] => .ok ⟨here, "", some here⟩
  | name :: later =>
    match fs.at? here with
    | some (.directory parent entries) =>
      -- An empty name comes from two slashes in a row, or from one at either end.
      if name = "" ∨ name = "." then fs.walk links here later last making
      else if name = ".." then fs.walk links parent later last making
      else if making ∧ later ≠ [] ∧ later.all (· == "") then .error .isDirectory
      else if maxName < name.utf8ByteSize then .error .nameTooLong
      else
        match entries.lookup name with
        | none => if later.all (· == "") then .ok ⟨here, name, none⟩ else .error .notFound
        | some id =>
          match fs.at? id with
          | some (.link target) =>
            if later = [] ∧ !last then .ok ⟨here, name, some id⟩
            else
              match links with
              | 0 => .error .tooManyLinks
              | links + 1 =>
                let start := if target.startsWith "/" then 0 else here
                fs.walk links start (names target ++ later) last making
          | some (.directory ..) =>
            if later = [] then .ok ⟨here, name, some id⟩ else fs.walk links id later last making
          | _ => if later = [] then .ok ⟨here, name, some id⟩ else .error .notDirectory
    | _ => .error .notDirectory
termination_by (links, path.length)

/-- Where a path leads. -/
def spot (fs : Files) (path : String) (last : Bool := true) (making : Bool := false) :
    Except IoError Spot :=
  if '\x00' ∈ path.toList then .error .nulInPath
  else if path = "" then .error .notFound
  else if maxPath ≤ path.utf8ByteSize then .error .nameTooLong
  else fs.walk maxLinks (if path.startsWith "/" then 0 else fs.working) (names path) last making

/-- A path without the slashes at its end. -/
def trimSlashes (path : String) : String :=
  let trimmed := String.ofList (path.toList.reverse.dropWhile (· == '/')).reverse
  if trimmed = "" ∧ path ≠ "" then "/" else trimmed

/-- Where a path leads whose last name is not followed, even if a slash stands behind it. -/
def nameSpot (fs : Files) (path : String) : Except IoError Spot :=
  if maxPath ≤ path.utf8ByteSize then fs.spot path false
  else fs.spot (trimSlashes path) false

/-- The node to which a path leads. -/
def locate (fs : Files) (path : String) (last : Bool := true) : Except IoError Nat :=
  (fs.spot path last).bind fun s =>
    match s.target with
    | some id => .ok id
    | none => .error .notFound

/-! ### Looking -/

/-- The content of a file.  Of a device without end only a part is read. -/
def read (fs : Files) (path : String) : Except IoError (List UInt8) :=
  (fs.locate path).bind fun id =>
    match fs.at? id with
    | some (.file content) => .ok content
    | some (.directory ..) => .error .isDirectory
    | some (.device .null) => .ok []
    | some (.device .zero) | some (.device .full) => .ok (List.replicate 2097152 0)
    | _ => .error .notFound

/-- Whether there is a file at a path. -/
def isFile (fs : Files) (path : String) : Bool :=
  match fs.locate path with
  | .error _ => false
  | .ok id =>
    match fs.at? id with
    | some (.file _) => true
    | _ => false

/-- The nodes that a directory holds. -/
def children (fs : Files) (id : Nat) : List Nat :=
  match fs.at? id with
  | some (.directory _ entries) => entries.map Prod.snd
  | _ => []

/-- How many names a node has.  A directory counts its own and those in the directories below. -/
def linkCount (fs : Files) (id : Nat) : Nat :=
  match fs.at? id with
  | some (.directory _ entries) =>
    2 + (entries.filter fun e => match fs.at? e.2 with
      | some (.directory ..) => true
      | _ => false).length
  | _ => (List.range fs.nodes.size).foldl (fun n d => n + (fs.children d).count id) 0

/-- What can be told about a node. -/
def inspect (fs : Files) (path : String) (last : Bool) : Except IoError FileInfo :=
  (fs.locate path last).bind fun id =>
    match fs.nodes[id]? with
    | none => .error .notFound
    | some i =>
      let (kind, size) : FileKind × Nat := match i.node with
        | .directory .. => (.directory, 4096)
        | .file content => (.file, content.length)
        | .link target => (.link, target.utf8ByteSize)
        | .device _ => (.device, 0)
      .ok ⟨kind, id, size, i.mode, fs.linkCount id, i.modified⟩

/-- The names in a directory. -/
def list (fs : Files) (path : String) : Except IoError (List String) :=
  (fs.locate path).bind fun id =>
    match fs.at? id with
    | some (.directory _ entries) => .ok (entries.map Prod.fst)
    | _ => .error .notDirectory

/-- The text that a symbolic link holds. -/
def readLink (fs : Files) (path : String) : Except IoError String :=
  (fs.locate path false).bind fun id =>
    match fs.at? id with
    | some (.link target) => .ok target
    | _ => .error .invalidArgument

/-- The names that lead from the root to a directory; the fuel bounds how deep it lies. -/
def placeOf (fs : Files) : Nat → Nat → List String
  | 0, _ => []
  | _ + 1, 0 => []
  | fuel + 1, id =>
    match fs.at? id with
    | some (.directory parent _) =>
      match fs.at? parent with
      | some (.directory _ entries) =>
        match entries.find? (·.2 == id) with
        | some (name, _) => fs.placeOf fuel parent ++ [name]
        | none => []
      | _ => []
    | _ => []

/-- The path of names from the root. -/
def pathOf (place : List String) : String :=
  "/" ++ "/".intercalate place

/-- The one path to a node that leads over no links. -/
def resolve (fs : Files) (path : String) : Except IoError String :=
  (fs.spot path).bind fun s =>
    match s.target with
    | none => .error .notFound
    | some _ =>
      let place := fs.placeOf fs.nodes.size s.directory
      .ok (pathOf (if s.name = "" then place else place ++ [s.name]))

/-- The path of the working directory. -/
def workingPath (fs : Files) : String :=
  pathOf (fs.placeOf fs.nodes.size fs.working)

/-! ### Changing -/

/-- Changes the entries of a directory. -/
def modifyEntries (fs : Files) (directory : Nat) (now : Float)
    (f : List (String × Nat) → List (String × Nat)) : Files :=
  match fs.at? directory with
  | some (.directory parent entries) => fs.put directory (.directory parent (f entries)) now
  | _ => fs

/-- Gives a node a name. -/
def enter (fs : Files) (directory : Nat) (name : String) (id : Nat) (now : Float) : Files :=
  fs.modifyEntries directory now (· ++ [(name, id)])

/-- Takes a name away. -/
def forget (fs : Files) (directory : Nat) (name : String) (now : Float) : Files :=
  fs.modifyEntries directory now (·.filter (·.1 != name))

/-- The tree with a new node under a name. -/
def create (fs : Files) (directory : Nat) (name : String) (node : FileNode) (mode : Nat)
    (now : Float) : Files :=
  { fs with nodes := fs.nodes.push ⟨node, mode, now⟩ }.enter directory name fs.nodes.size now

/-- The bits of `mode` that a mask leaves. -/
def unmasked (mode mask : Nat) : Nat :=
  mode - (mode &&& mask)

/-- Writes a file, creating it if there is none; what it held stays in front if `append` says so. -/
def write (fs : Files) (path : String) (content : List UInt8) (append : Bool) (now : Float) :
    Except IoError Files :=
  (fs.spot path true true).bind fun s =>
    match s.target with
    | none => .ok (fs.create s.directory s.name (.file content) (unmasked 0o666 fs.mask) now)
    | some id =>
      match fs.at? id with
      | some (.directory ..) => .error .isDirectory
      | some (.file old) =>
        .ok (fs.put id (.file (if append then old ++ content else content)) now)
      | some (.device .full) => if content.isEmpty then .ok fs else .error .noSpace
      | _ => .ok fs

/-- Where a new name can be made: the path must lead to nothing in a directory. -/
def vacancy (fs : Files) (path : String) : Except IoError Spot :=
  (fs.nameSpot path).bind fun s =>
    if s.target.isSome then .error .alreadyExists else .ok s

/-- Whether a directory lies below another one, or is the same. -/
def isBelow (fs : Files) (id above : Nat) : Nat → Bool
  | 0 => false
  | fuel + 1 =>
    if id = above then true
    else
      match id, fs.at? id with
      | 0, _ => false
      | _, some (.directory parent _) => fs.isBelow parent above fuel
      | _, _ => false

/-- Moves a name to another place.  What was there before vanishes, unless it is a directory that
holds something or unless only one of the two is a directory. -/
def rename (fs : Files) (source target : String) (now : Float) : Except IoError Files := do
  let old ← fs.nameSpot source
  let some id := old.target | throw .notFound
  let new ← fs.nameSpot target
  if old.name = "" then throw (.other "Device or resource busy")
  -- Only a directory can have a slash behind its name.
  let slashed := source.endsWith "/" || target.endsWith "/"
  let moved (fs : Files) : Files :=
    let fs := (fs.forget old.directory old.name now).enter new.directory new.name id now
    match fs.at? id with
    | some (.directory _ entries) =>
      { fs with nodes := fs.nodes.modify id fun i =>
        { i with node := .directory new.directory entries } }
    | _ => fs
  match fs.at? id, new.target, new.target.bind fs.at? with
  | some (.directory ..), none, _ =>
    if fs.isBelow new.directory id fs.nodes.size then throw .invalidArgument
    return moved fs
  | some (.directory ..), some other, some (.directory _ entries) =>
    if other = id then return fs
    if new.name = "" then throw (.other "Device or resource busy")
    if fs.isBelow new.directory id fs.nodes.size then throw .invalidArgument
    if entries ≠ [] then throw .notEmpty
    return moved (fs.forget new.directory new.name now)
  | some (.directory ..), some _, _ => throw .notDirectory
  | _, none, _ => if slashed then throw .notDirectory else return moved fs
  | _, some _, some (.directory ..) => throw (if slashed then .notDirectory else .isDirectory)
  | _, some other, _ =>
    if slashed then throw .notDirectory
    if other = id then return fs else return moved (fs.forget new.directory new.name now)

/-- Makes a change. -/
def change (fs : Files) (now : Float) : FileChange → Except IoError Files
  | .makeDirectory path mode =>
    (fs.vacancy path).bind fun s =>
      .ok (fs.create s.directory s.name (.directory s.directory []) (unmasked mode fs.mask) now)
  | .remove path =>
    (fs.nameSpot path).bind fun s =>
      match s.target, s.target.bind fs.at? with
      | none, _ => .error .notFound
      | _, some (.directory ..) => .error .isDirectory
      | some _, _ =>
        if path.endsWith "/" then .error .notDirectory
        else .ok (fs.forget s.directory s.name now)
  | .removeDirectory path =>
    (fs.nameSpot path).bind fun s =>
      match (names (trimSlashes path)).getLast?, s.target, s.target.bind fs.at? with
      | some ".", _, _ => .error .invalidArgument
      | some "..", _, _ => .error .notEmpty
      | some "", _, _ => .error (.other "Device or resource busy")
      | _, none, _ => .error .notFound
      | _, _, some (.directory _ []) => .ok (fs.forget s.directory s.name now)
      | _, _, some (.directory ..) => .error .notEmpty
      | _, _, _ => .error .notDirectory
  | .rename source target => fs.rename source target now
  | .addName source target =>
    (fs.locate source false).bind fun id =>
      (fs.vacancy target).bind fun s =>
        match fs.at? id with
        | some (.directory ..) =>
          .error (if target.endsWith "/" then .notFound else .notPermitted)
        | _ =>
          if target.endsWith "/" then .error .notFound
          else .ok (fs.enter s.directory s.name id now)
  | .makeLink text path =>
    if text = "" then .error .notFound
    else (fs.vacancy path).bind fun s =>
      if path.endsWith "/" then .error .notFound
      else .ok (fs.create s.directory s.name (.link text) 0o777 now)
  | .setMode path mode =>
    (fs.locate path).bind fun id =>
      .ok { fs with nodes := fs.nodes.modify id fun i => { i with mode } }
  | .setTime path time =>
    (fs.locate path).bind fun id =>
      .ok { fs with nodes := fs.nodes.modify id fun i => { i with modified := time } }

/-! ### Building a tree -/

/-- The tree after a change that may fail; a failed one changes nothing. -/
def attempt (fs : Files) (change : Files → Except IoError Files) : Files :=
  match change fs with
  | .ok fs => fs
  | .error _ => fs

/-- The tree with a directory under a path, and the directories that lead to it. -/
def addDirectory (fs : Files) (path : String) : Files :=
  let place := (names path).filter (fun name => name ≠ "" ∧ name ≠ ".")
  let start := if path.startsWith "/" then "/" else ""
  (List.range place.length).foldl
    (fun fs n =>
      let path := start ++ "/".intercalate (place.take (n + 1))
      fs.attempt (·.change 0 (.makeDirectory path 0o777)))
    fs

/-- The tree with a file under a path, and the directories that lead to it. -/
def add (fs : Files) (path : String) (content : List UInt8) : Files :=
  let place := names path
  let fs := if 1 < place.length then fs.addDirectory ("/".intercalate place.dropLast) else fs
  fs.attempt (·.write path content false 0)

/-- A tree that holds only a root. -/
def bare : Files where
  nodes := #[⟨.directory 0 [], 0o755, 0⟩]
  working := 0

end Files

end ScriptLang
