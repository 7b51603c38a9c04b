import PagedReports.Database.Basic

/-!
# The file tree

Directories, text files and database files by their place, which is the list of names from the
root on. A path is followed from a starting directory one name at a time, as long as each name
but the last is that of a directory. A path can also be spelled out: then its dots are taken
away without a look at what is there.
-/

namespace PagedReports.Host

/-- A place in the tree: the names from the root on. -/
abbrev Place := List String

/-- The path of a place. -/
def pathOf (place : Place) : String :=
  if place = [] then "/" else String.join (place.map fun name => "/" ++ name)

/-- What is at a place. -/
inductive Node where
  /-- A directory. -/
  | directory
  /-- A file of text. -/
  | text (content : String)
  /-- A file that holds a database, or one that has no tables yet. -/
  | database (content : Option Database)
  deriving DecidableEq

/-- What is at which place. The root is always a directory. -/
structure FileTree where
  /-- Places below the root, and what is there. -/
  nodes : List (Place × Node)
  deriving DecidableEq

namespace FileTree

/-- What is at a place. -/
def node? (t : FileTree) (place : Place) : Option Node :=
  if place = [] then some .directory else t.nodes.lookup place

/-- Whether a place is a directory. -/
def isDirectory (t : FileTree) (place : Place) : Bool := t.node? place = some .directory

/-- The tree with something else at a place. -/
def set (t : FileTree) (place : Place) (n : Node) : FileTree :=
  ⟨(place, n) :: t.nodes.filter fun e => e.1 ≠ place⟩

/-- Follows names from a place. A single dot stays and a double dot goes up; either needs a
directory to be there, as every further name does. -/
def follow? (t : FileTree) : Place → List String → Option Place
  | place, [] => if (t.node? place).isSome then some place else none
  | place, name :: rest =>
    if !t.isDirectory place then none
    else if name = "" ∨ name = "." then t.follow? place rest
    else if name = ".." then t.follow? place.dropLast rest
    else t.follow? (place ++ [name]) rest

/-- A name that a file can have: at most 255 bytes, and no zero byte among them. -/
def isFileName (name : String) : Bool := name.utf8ByteSize ≤ 255 && !name.toList.contains '\x00'

/-- Makes the directories on a way, where they are missing, and says whether the whole way is
there. What was made before something stood in the way stays. -/
def makeDirectories (t : FileTree) : Place → List String → FileTree × Bool
  | place, [] => (t, t.isDirectory place)
  | place, name :: rest =>
    if !t.isDirectory place then (t, false)
    else if name = "" ∨ name = "." then t.makeDirectories place rest
    else if name = ".." then t.makeDirectories place.dropLast rest
    else
      match t.node? (place ++ [name]) with
      | some _ => t.makeDirectories (place ++ [name]) rest
      | none =>
        if isFileName name then
          (t.set (place ++ [name]) .directory).makeDirectories (place ++ [name]) rest
        else (t, false)

/-- Whether a place is a file. -/
def isFile (t : FileTree) (place : Place) : Bool :=
  match t.node? place with
  | some .directory | none => false
  | some _ => true

/-- The place that names write down, whether something is there or not: a double dot takes the
name before it away. No name may be too long or stand below a file, and the path may nowhere
have `limit` bytes. -/
def spell? (t : FileTree) (limit : Nat) : Place → List String → Option Place
  | place, [] => some place
  | place, name :: rest =>
    if name = "" ∨ name = "." then t.spell? limit place rest
    else if name = ".." then t.spell? limit place.dropLast rest
    else if isFileName name ∧ !t.isFile place ∧ (pathOf (place ++ [name])).utf8ByteSize < limit then
      t.spell? limit (place ++ [name]) rest
    else none

end FileTree

end PagedReports.Host
