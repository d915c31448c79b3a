import SchemaServer.FileTree

/-! # Walking a file tree

A path is walked step by step from the root: into an entry, up to the directory above, or nowhere.
Every step has to start in a directory, so `f/..` is no way past a file `f`.  `locate` gives the
place where a path ends, and `makeDirectories` makes the directories of a path that are missing. -/

namespace SchemaServer.FileTree

inductive Step where
  | stay
  | up
  | into (name : String)
deriving DecidableEq, Repr

/-- The step that a part of a path stands for; an empty part is none. -/
def Step.ofPart? (part : String) : Option Step :=
  if part = "" then none
  else if part = "." then some .stay
  else if part = ".." then some .up
  else some (.into part)

def maxName : Nat := 255

def entry (name : String) (entries : List (String × FileTree)) : Except FileFault FileTree :=
  if maxName < name.utf8ByteSize then .error .nameTooLong
  else
    match SortedMap.lookup name entries with
    | some t => .ok t
    | none => .error .notFound

def locateFrom (root : FileTree) : (place : List String) → List Step →
    Except FileFault (List String)
  | place, [] => .ok place
  | place, step :: rest => do
    match ← root.find place with
    | .file _ => throw .notDirectory
    | .directory entries =>
      match step with
      | .stay => root.locateFrom place rest
      -- Above the root is the root itself.
      | .up => root.locateFrom place.dropLast rest
      | .into name =>
        let _ ← entry name entries
        root.locateFrom (place ++ [name]) rest

def locate (root : FileTree) (path : List Step) : Except FileFault (List String) :=
  root.locateFrom [] path

def isDirectory (root : FileTree) (path : List Step) : Bool :=
  match root.locate path with
  | .ok place =>
    match root.find place with
    | .ok (.directory _) => true
    | _ => false
  | .error _ => false

/-! ## Making directories -/

/-- Make the directory at the end of a path; the directory above it has to be there.  The steps stand
    last first. -/
def makeDirectory : (steps : List Step) → FileTree → Except FileFault FileTree
  | [], _ => .error .alreadyExists
  | last :: before, root => do
    let place ← root.locate before.reverse
    match ← root.find place with
    | .file _ => throw .notDirectory
    | .directory entries =>
      match last with
      | .stay | .up => throw .alreadyExists
      | .into name =>
        match entry name entries with
        | .ok _ => throw .alreadyExists
        | .error .notFound => alter (fun _ => .ok empty) (place ++ [name]) root
        | .error fault => throw fault

/-- The steps, last first, without those that go nowhere at their end. -/
def dropStays (steps : List Step) : List Step := steps.dropWhile (· = .stay)

theorem length_dropStays (steps : List Step) : (dropStays steps).length ≤ steps.length :=
  (List.dropWhile_sublist _).length_le

def above (steps : List Step) : List Step := dropStays ((dropStays steps).drop 1)

theorem length_above {last : Step} {before : List Step} :
    (above (last :: before)).length < (last :: before).length := by
  rcases h : dropStays (last :: before) with _ | ⟨step, rest⟩
  · rw [above, h]
    simp [dropStays]
  · have hlen := length_dropStays (last :: before)
    have hrest := length_dropStays rest
    simp [h] at hlen
    simp [above, h]
    omega

def ensureDirectory (steps : List Step) (root : FileTree) : Except FileFault Unit × FileTree :=
  match root.makeDirectory steps with
  | .ok made => (.ok (), made)
  | .error .alreadyExists =>
    -- A file in its place is no directory that could be left as it is.
    if root.isDirectory steps.reverse then (.ok (), root) else (.error .alreadyExists, root)
  | .error fault => (.error fault, root)

/-- Make a directory and those above it that are missing; what was made stays even if the rest
    fails.  The steps stand last first. -/
def makeDirectories (steps : List Step) (root : FileTree) : Except FileFault Unit × FileTree :=
  match steps with
  | [] => (.ok (), root)
  | last :: before =>
    if dropStays (last :: before) = [] then (.ok (), root)
    else
      match root.ensureDirectory (last :: before) with
      | (.error .notFound, root) =>
        match makeDirectories (above (last :: before)) root with
        | (.ok (), root) => root.ensureDirectory (last :: before)
        | failed => failed
      | settled => settled
termination_by steps.length
decreasing_by exact length_above

end SchemaServer.FileTree
