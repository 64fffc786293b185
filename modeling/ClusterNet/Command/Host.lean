/- What commands need of their surroundings: files and two streams for what they print. A directory
   of plain files is a host by itself. -/
namespace ClusterNet.Command

inductive FileFault where
  | notFound
  | notDirectory
  | isDirectory
  | notText
  | other (detail : String)
  deriving DecidableEq, Repr

def FileFault.message : FileFault → String
  | .notFound => "No such file or directory (os error 2)"
  | .notDirectory => "Not a directory (os error 20)"
  | .isDirectory => "Is a directory (os error 21)"
  | .notText => "stream did not contain valid UTF-8"
  | .other detail => detail

class Host (m : Type → Type) where
  readFile : String → m (Except FileFault String)
  writeFile : String → String → m (Except FileFault Unit)
  print : String → m Unit
  warn : String → m Unit

/-- Files by the names on the way to them from the directory that commands run in, and what was
    printed. -/
structure Directory where
  files : List (List String × String)
  printed : String
  warned : String
  deriving DecidableEq, Repr

namespace Directory

/-- The names in a path; a name that is empty or a single dot stays where it is. -/
def names (path : String) : List String :=
  (path.splitOn "/").filter fun name => name ≠ "" && name ≠ "."

def ofFiles (files : List (String × String)) : Directory :=
  ⟨files.map fun (path, text) => (names path, text), "", ""⟩

def isDirectory (d : Directory) (place : List String) : Bool :=
  place.isEmpty || d.files.any fun (file, _) => place.length < file.length && place.isPrefixOf file

/-- Where a path leads: to a place that is there or that a file may be put in. Nothing but
    directories is known of what is above the directory. -/
def walk (d : Directory) (place : List String) : List String → Except FileFault (List String)
  | [] => .ok place
  | ".." :: rest =>
    if place.isEmpty then .error (if rest.all (· = "..") then .isDirectory else .notFound)
    else walk d place.dropLast rest
  | name :: rest =>
    let next := place ++ [name]
    if rest.isEmpty ∨ d.isDirectory next then walk d next rest
    else if (d.files.lookup next).isSome then .error .notDirectory
    else .error .notFound

def locate (d : Directory) (path : String) : Except FileFault (List String) := do
  if path.startsWith "/" ∧ names path ≠ [] then .error .notFound
  else
    let place ← d.walk [] (names path)
    if path.endsWith "/" ∧ (d.files.lookup place).isSome then .error .notDirectory else return place

def read (d : Directory) (path : String) : Except FileFault String := do
  let place ← d.locate path
  if d.isDirectory place then .error .isDirectory
  else
    match d.files.lookup place with
    | some text => return text
    | none => .error .notFound

def write (d : Directory) (path text : String) : Except FileFault Directory := do
  let place ← d.locate path
  if d.isDirectory place ∨ path.endsWith "/" then .error .isDirectory
  else return { d with files := (place, text) :: d.files.filter (·.1 ≠ place) }

def newFiles (d before : Directory) : List (String × String) :=
  (d.files.filter fun (place, _) => (before.files.lookup place).isNone).map fun (place, text) =>
    ("/".intercalate place, text)

instance : Host (StateM Directory) where
  readFile path := do return (← get).read path
  writeFile path text := do
    match (← get).write path text with
    | .ok d => set d; return .ok ()
    | .error fault => return .error fault
  print s := modify fun d => { d with printed := d.printed ++ s }
  warn s := modify fun d => { d with warned := d.warned ++ s }

end Directory
end ClusterNet.Command
