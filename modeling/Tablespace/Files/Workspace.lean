import Tablespace.Files.Access
import Tablespace.Files.Path
import Tablespace.NameTable

/-!
# Workspaces

A workspace is what surrounds a run, as a value: the files in and around the folder one stands in,
the devices that every machine has, and what was written to the standard streams by way of their
devices. Names are looked up one after the other, each in the place that the names before it lead
to, and the first name that leads nowhere decides what is wrong with a path.

Main statement: `read_write`, what was put into a file is read from it.
-/

namespace Tablespace

/-- A folder. -/
inductive Folder where
  /-- The folder so many levels above the one in which one stands. -/
  | above (levels : Nat)
  /-- The root. -/
  | root
  /-- A folder right below the root. -/
  | top (name : String)
  deriving DecidableEq, Repr

namespace Folder

/-- The folder in which one stands. -/
def here : Folder := above 0

/-- The folder in which a folder is. The root is in itself. -/
def parent : Folder → Folder
  | above levels => above (levels + 1)
  | root | top _ => root

/-- How names in a folder begin. -/
def path : Folder → String
  | above levels => String.join (List.replicate levels "../")
  | root => "/"
  | top name => "/" ++ name ++ "/"

/-- The name of the folder of devices. -/
def devices : String := "dev"

/-- The folders that every machine has right below the root. -/
def topNames : List String :=
  ["bin", "boot", devices, "etc", "home", "lib", "media", "mnt", "opt", "proc", "root", "run",
   "sbin", "srv", "sys", "tmp", "usr", "var"]

end Folder

/-- A device. -/
inductive Device where
  /-- Nothing, and room for everything. -/
  | null
  /-- Zeros without end. -/
  | zero
  /-- No room at all. -/
  | full
  /-- Random bytes without end. -/
  | random
  /-- The terminal. -/
  | terminal
  /-- The standard input, which is empty. -/
  | input
  /-- The standard output. -/
  | output
  /-- The standard stream for errors. -/
  | errors
  deriving DecidableEq, Repr

/-- The device of a name. -/
def Device.ofName? : String → Option Device
  | "null" => some null
  | "zero" => some zero
  | "full" => some full
  | "random" | "urandom" => some random
  | "tty" => some terminal
  | "stdin" => some input
  | "stdout" => some output
  | "stderr" => some errors
  | _ => none

/-- A place that names lead to. -/
inductive Place where
  /-- A folder. -/
  | folder (folder : Folder)
  /-- A device. -/
  | device (device : Device)
  /-- A file. -/
  | file (path : String)
  /-- A place where a file can be made. -/
  | vacant (path : String)
  deriving DecidableEq, Repr

/-- What surrounds a run. -/
structure Workspace where
  /-- The files, by their names after the paths of their folders. -/
  files : NameTable ByteArray := []
  /-- What was written to the standard output by way of its device. -/
  output : String := ""
  /-- What was written to the standard stream for errors by way of its device. -/
  errors : String := ""

namespace Workspace

/-- The place that a name leads to in a folder. -/
def lookup (workspace : Workspace) (folder : Folder) (name : String) : Place :=
  if name = "." then .folder folder
  else if name = ".." then .folder folder.parent
  else if folder = .root ∧ name ∈ Folder.topNames then .folder (.top name)
  else
    match if folder = .top Folder.devices then Device.ofName? name else none with
    | some device => .device device
    | none =>
      if (workspace.files.get? (folder.path ++ name)).isSome then .file (folder.path ++ name)
      else .vacant (folder.path ++ name)

/-- The place that a name leads to in a place. -/
def enter (workspace : Workspace) (place : Place) (name : String) : Except Refusal Place :=
  match place with
  | .folder folder =>
    if Path.maxNameSize < name.utf8ByteSize then .error .tooLong
    else .ok (workspace.lookup folder name)
  | .vacant _ => .error .missing
  | .file _ | .device _ => .error .notFolder

/-- The place that names lead to, one after the other. -/
def walk (workspace : Workspace) : Place → List String → Except Refusal Place
  | place, [] => .ok place
  | place, name :: names => do workspace.walk (← workspace.enter place name) names

/-- The place where a path begins. -/
def start (path : Path) : Place := .folder (if path.fromRoot then .root else .here)

/-- The place that a path leads to. A slash at the end leads out of a file. -/
def place (workspace : Workspace) (text : String) : Except Refusal Place := do
  let path ← Path.ofString text
  match ← workspace.walk (start path) path.names with
  | .vacant _ => .error .missing
  | .folder folder => return .folder folder
  | found => if path.toFolder then .error .notFolder else return found

/-- The place that a path leads to for a file to be made there. A slash at the end asks for a folder
in the place before the last name, whatever that name leads to. -/
def placeToCreate (workspace : Workspace) (text : String) : Except Refusal Place := do
  let path ← Path.ofString text
  let names := if path.toFolder then path.names.dropLast ++ ["."] else path.names
  match ← workspace.walk (start path) names with
  | .folder _ => .error .folder
  | .device .terminal => .error .noTerminal
  | found => return found

/-- The number of bytes that a folder is said to have, none of which can be read. -/
def folderSize : Nat := 4096

/-- The bytes of a file. A device that can be read says that it has none. -/
def read (workspace : Workspace) (mapped : Bool) (path : String) : Except IoFault ByteArray :=
  match workspace.place path with
  | .error refusal => .error (.cannotOpen path refusal.reason)
  | .ok (.vacant _) => .error (.cannotOpen path Refusal.missing.reason)
  | .ok (.file name) => .ok ((workspace.files.get? name).getD .empty)
  | .ok (.device .terminal) => .error (.cannotOpen path Refusal.noTerminal.reason)
  | .ok (.device .zero) => .ok .empty
  | .ok (.device _) =>
    if mapped then .error (.cannotMap path Refusal.notMappable.reason) else .ok .empty
  | .ok (.folder _) =>
    if mapped then .error (.cannotMap path Refusal.notMappable.reason)
    else .error (.cannotRead folderSize 0 path Refusal.folder.reason)

/-- The workspace with a file made empty. A device stays as it is. -/
def create (workspace : Workspace) (path : String) : Except IoFault Workspace :=
  match workspace.placeToCreate path with
  | .error refusal => .error (.cannotCreate path refusal.reason)
  | .ok (.file name) | .ok (.vacant name) =>
    .ok { workspace with files := workspace.files.put name .empty }
  | .ok (.device _) | .ok (.folder _) => .ok workspace

/-- The workspace with a text put into a file or written to a device. -/
def write (workspace : Workspace) (path text : String) : Except IoFault Workspace :=
  match workspace.placeToCreate path with
  | .error refusal => .error (.cannotCreate path refusal.reason)
  | .ok (.file name) | .ok (.vacant name) =>
    .ok { workspace with files := workspace.files.put name text.toUTF8 }
  | .ok (.device .output) => .ok { workspace with output := workspace.output ++ text }
  | .ok (.device .errors) => .ok { workspace with errors := workspace.errors ++ text }
  | .ok (.device .full) =>
    if text = "" then .ok workspace else .error (.cannotWrite Refusal.full.reason)
  | .ok (.device _) | .ok (.folder _) => .ok workspace

/-- Change a workspace, or leave it as it is and say why. -/
def update (change : Workspace → Except IoFault Workspace) :
    StateM Workspace (Except IoFault Unit) := do
  match change (← get) with
  | .error fault => return .error fault
  | .ok after =>
    set after
    return .ok ()

/-- The files of a workspace, for a run that may change them. -/
def access : FileAccess (StateM Workspace) where
  read mapped path := return (← get).read mapped path
  create path := update (·.create path)
  write path text := update (·.write path text)

/-! ## Ways -/

/-- What is looked up and found to be a file is a file. -/
theorem isSome_of_lookup_eq_file {workspace : Workspace} {folder : Folder} {name path : String}
    (h : workspace.lookup folder name = .file path) : (workspace.files.get? path).isSome := by
  unfold lookup at h
  split at h
  · cases h
  · split at h
    · cases h
    · split at h
      · cases h
      · split at h
        · cases h
        · split at h
          next hsome =>
            cases h
            exact hsome
          next => cases h

/-- What names lead to from a folder and is found to be a file is a file. -/
theorem isSome_of_walk_eq_file {workspace : Workspace} {folder : Folder} {names : List String}
    {path : String} (h : workspace.walk (.folder folder) names = .ok (.file path)) :
    (workspace.files.get? path).isSome := by
  induction names generalizing folder with
  | nil => cases h
  | cons name names ih =>
    rw [walk, enter] at h
    split at h
    · cases h
    · change workspace.walk (workspace.lookup folder name) names = _ at h
      cases hplace : workspace.lookup folder name with
      | folder next => exact ih (hplace ▸ h)
      | file found =>
        rw [hplace] at h
        cases names with
        | nil =>
          cases h
          exact isSome_of_lookup_eq_file hplace
        | cons => cases h
      | device found => rw [hplace] at h; cases names <;> cases h
      | vacant found => rw [hplace] at h; cases names <;> cases h

/-! ## Writing and reading -/

/-- A file keeps its place when its bytes change. -/
theorem walk_put {workspace : Workspace} {path : String} (h : (workspace.files.get? path).isSome)
    (bytes : ByteArray) (place : Place) (names : List String) :
    { workspace with files := workspace.files.put path bytes }.walk place names =
      workspace.walk place names := by
  have hlookup (folder : Folder) (name : String) :
      { workspace with files := workspace.files.put path bytes }.lookup folder name =
        workspace.lookup folder name := by
    have hsome (other : String) : ((workspace.files.put path bytes).get? other).isSome =
        (workspace.files.get? other).isSome := by
      by_cases hother : other = path
      · rw [hother, NameTable.get?_put_self, h]
        rfl
      · rw [NameTable.get?_put_of_ne hother]
    simp only [lookup, hsome]
  induction names generalizing place with
  | nil => rfl
  | cons name names ih => simp only [walk, enter, hlookup, ih]

/-- A path that leads to a file does not end in a slash, and its names lead there. -/
theorem walk_of_place_eq_file {workspace : Workspace} {text name : String}
    (h : workspace.place text = .ok (.file name)) :
    ∃ path, Path.ofString text = .ok path ∧ path.toFolder = false ∧
      workspace.walk (start path) path.names = .ok (.file name) := by
  rcases hpath : Path.ofString text with refusal | path
  · simp [place, hpath, bind, Except.bind] at h
  rcases hwalk : workspace.walk (start path) path.names with refusal | found
  · simp [place, hpath, hwalk, bind, Except.bind] at h
  refine ⟨path, rfl, ?_⟩
  cases found <;> cases hfolder : path.toFolder <;>
    simp_all [place, bind, Except.bind, pure, Except.pure]

/-- What was put into a file is read from it. -/
theorem read_write {workspace : Workspace} {path name : String}
    (h : workspace.place path = .ok (.file name)) (text : String) :
    ∃ after, workspace.write path text = .ok after ∧
      ∀ mapped, after.read mapped path = .ok text.toUTF8 := by
  obtain ⟨parsed, hparsed, hfolder, hwalk⟩ := walk_of_place_eq_file h
  have hsome := isSome_of_walk_eq_file hwalk
  refine ⟨{ workspace with files := workspace.files.put name text.toUTF8 }, ?_, fun mapped => ?_⟩
  · simp [write, placeToCreate, hparsed, hfolder, hwalk, bind, Except.bind, pure, Except.pure]
  · have hplace : { workspace with files := workspace.files.put name text.toUTF8 }.place path =
        .ok (.file name) := by
      rw [← h]
      simp only [place, hparsed, bind, Except.bind, walk_put hsome]
    rw [read, hplace]
    simp

end Workspace

end Tablespace
