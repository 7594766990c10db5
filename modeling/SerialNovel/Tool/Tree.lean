import SerialNovel.Fault
import SerialNovel.Text.Words

namespace SerialNovel

/-- A file with its text, or why it cannot be read; or a directory with the entries that a listing
gives and those that it leaves out. It leaves out all if the directory cannot be listed, and some if
their names cannot be read. -/
inductive Tree
  | file (contents : Except DiskFault Text)
  | dir (entries : List (Text × Tree)) (hidden : List (Text × Tree))
  deriving Repr, Inhabited

namespace Tree

/-- The names in a path, where a dot names nothing. -/
def names (path : Text) : List Text :=
  (Text.partsAt '/' path).filter fun n => !n.isEmpty && n != ['.']

/-- Whether a path can only name a directory. -/
def namesDirectory (path : Text) : Bool :=
  match (Text.partsAt '/' path).getLast? with
  | some n => n.isEmpty || n == ['.'] || n == ['.', '.']
  | none => false

/-- What names lead to from a tree below its `parents`. Two dots lead to the parent, and from the
root to the root. They lead to an entry whether it is listed or not. -/
def walk (parents : List Tree) (t : Tree) : List Text → Except DiskFault Tree
  | [] => .ok t
  | n :: ns =>
    match t with
    | file _ => .error .notDirectory
    | dir entries hidden =>
      if n = ['.', '.'] then
        match parents with
        | [] => walk [] t ns
        | p :: ps => walk ps p ns
      else match (entries ++ hidden).lookup n with
        | none => .error .notFound
        | some t' => walk (t :: parents) t' ns

def at? (root : Tree) (path : Text) : Except DiskFault Tree :=
  if path.isEmpty then .error .notFound
  else match walk [] root (names path) with
    | .ok (file contents) =>
      if namesDirectory path then .error .notDirectory else .ok (file contents)
    | found => found

def text : Tree → Except DiskFault Text
  | dir _ _ => .error .isDirectory
  | file contents => contents

def child (path name : Text) : Text :=
  if path.isEmpty || path.getLast? == some '/' then path ++ name else path ++ '/' :: name

/-- A file below a directory: the names that lead to it and its whole path. -/
structure Found where
  names : List Text
  path : Text
  contents : Except DiskFault Text
  deriving Repr

mutual

/-- The files below the tree at a path that names lead to, in the order of the entries. What is not
listed is passed over without a word. -/
def filesBelow (names : List Text) (path : Text) : Tree → List Found
  | file contents => [⟨names, path, contents⟩]
  | dir entries _ => filesAmong names path entries

def filesAmong (names : List Text) (path : Text) : List (Text × Tree) → List Found
  | [] => []
  | (n, t) :: rest =>
    filesBelow (names ++ [n]) (child path n) t ++ filesAmong names path rest

end

/-- Puts a tree at the place that names lead to, and makes the directories on the way. -/
def put (leaf : Tree) : List Text → Tree → Tree
  | [], _ => leaf
  | n :: ns, t =>
    let (entries, hidden) := match t with
      | dir entries hidden => (entries, hidden)
      | file _ => ([], [])
    let inner := put leaf ns (((entries ++ hidden).lookup n).getD (dir [] []))
    dir (entries.filter (·.1 != n) ++ [(n, inner)]) (hidden.filter (·.1 != n))

end Tree

abbrev Places := Text → Except DiskFault Tree

def Places.read (places : Places) (path : Text) : Except DiskFault Text :=
  (places path).bind Tree.text

end SerialNovel
