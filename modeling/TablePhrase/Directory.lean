import TablePhrase.Text.Search

/-!
The files that the program reads and writes, as a value. A place is the list of names on the way to
a file; a path is a text that leads to a place through directories that exist.
-/

namespace TablePhrase

inductive Node
  | file (text : String)
  | directory
deriving DecidableEq

/-- Files and directories by their places; the place without names is the working directory. -/
structure Directory where
  nodes : List (List String × Node)
deriving DecidableEq, Inhabited

namespace Directory

def empty : Directory :=
  ⟨[]⟩

def isAncestor (place : List String) : Bool :=
  place.all fun name => name == ".." || name == "/"

/-- What is at a place; the working directory and those above it exist. -/
def node? (d : Directory) (place : List String) : Option Node :=
  if isAncestor place then some .directory else d.nodes.lookup place

def put (d : Directory) (place : List String) (node : Node) : Directory :=
  ⟨(place, node) :: d.nodes.filter fun entry => entry.1 != place⟩

def isName (name : String) : Bool :=
  name.utf8ByteSize ≤ 255 && !name.toList.contains '\x00'

def above (place : List String) : List String :=
  match place.getLast? with
  | none | some ".." => place ++ [".."]
  | some "/" => place
  | some _ => place.dropLast

def names (path : String) : List String :=
  ((Text.splitOn ['/'] path.toList).map String.ofList).filter fun name => name != "" && name != "."

def start (path : String) : List String :=
  if path.startsWith "/" then ["/"] else []

def enter (d : Directory) (place : List String) (name : String) : Option (List String) :=
  if name = ".." then some (above place)
  else if d.node? (place ++ [name]) = some .directory then some (place ++ [name])
  else none

def endsInDirectory (path : String) : Bool :=
  match (Text.splitOn ['/'] path.toList).getLast? with
  | some [] | some ['.'] | some ['.', '.'] => true
  | _ => false

/-- The place that a path leads to. The last name need not exist, unless the path can only lead to a
directory. -/
def locate (d : Directory) (path : String) : Option (List String) :=
  if path = "" then none
  else if endsInDirectory path then (names path).foldlM d.enter (start path)
  else do
    let place ← (names path).dropLast.foldlM d.enter (start path)
    let name ← (names path).getLast?
    if isName name then some (place ++ [name]) else none

def contains (d : Directory) (path : String) : Bool :=
  ((d.locate path).bind d.node?).isSome

def read? (d : Directory) (path : String) : Option String :=
  match (d.locate path).bind d.node? with
  | some (.file text) => some text
  | _ => none

def write? (d : Directory) (path text : String) : Option Directory := do
  let place ← d.locate path
  if d.node? place = some .directory then none else some (d.put place (.file text))

/-- The directories of the given names made one in the other, as far as they do not exist; answers
whether all of them are directories. -/
def makeAll (d : Directory) (place : List String) : List String → Directory × Bool
  | [] => (d, true)
  | name :: rest =>
    if name = ".." then d.makeAll (above place) rest
    else
      match d.node? (place ++ [name]) with
      | some .directory => d.makeAll (place ++ [name]) rest
      | some (.file _) => (d, false)
      | none =>
        if isName name then
          (d.put (place ++ [name]) .directory).makeAll (place ++ [name]) rest
        else (d, false)

def save (d : Directory) (path text : String) : Directory × Bool :=
  let (d, made) := d.makeAll (start path) (names path).dropLast
  match if made then d.write? path text else none with
  | some d => (d, true)
  | none => (d, false)

end Directory
end TablePhrase
