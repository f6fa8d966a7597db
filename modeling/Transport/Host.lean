import Transport.Engine.FileSystem
/-!
# A fixed Linux host

A file system that keeps no state (`Host.fileSystem`): the paths of a Linux host as a fresh
machine has them, so that what a path reads as, or why writing it fails, depends on the path
alone. A write changes nothing that is read afterwards, so it does not read back what it
writes. It is the file system the engine's tests run against. It holds the standard
top-level directories, the directories `/dev/pts` and `/dev/shm`, three device files:

* `/dev/null` reads as empty and takes any write;
* `/dev/zero` reads as zero bytes without end and takes any write;
* `/dev/full` reads as zero bytes without end and refuses a write: no space is left;

the account files of `/etc`, the top directories of `/sys` and `/proc/sys`, and a few
entries of `/proc`: the running process as `/proc/self` (its descriptor directory `fd`, its
working directory `cwd`, its root `root` and its executable `exe`, besides some directories
and texts), some directories, and some texts about the machine.

A path that holds a NUL byte cannot be handed to the system at all; this is checked before
anything else. An empty path names nothing, and a path of 4096 bytes or more is too long.
Then every component but the last is looked up, one at a time, as the kernel does: each
must be a directory. An empty component and `.` stay where they are, and `..` goes up (the
root is its own parent). A relative path starts in the working directory, an empty
directory below the root. A disk file system refuses a component of more than 255 bytes as
too long; `/proc` and `/sys` look it up and find nothing.

The last component is looked up only then, and how depends on the use. To read, a name
followed by `/` must be a directory. To write, a path that ends in `/`, `.` or `..`, or
names a directory, is a directory and refused before the name is looked up. A new file may
be made in any directory but those below `/proc`, which have no such entry, and those below
`/sys` and `/dev/pts`, which refuse it. A file of `/proc` refuses to be written. A system error reads as
its description and code, as in `No such file or directory (os error 2)`.
-/
namespace Transport

/-- The description of a system error code. -/
def osDescription : UInt32 → Option String
  | 1 => some "Operation not permitted"
  | 2 => some "No such file or directory"
  | 4 => some "Interrupted system call"
  | 5 => some "Input/output error"
  | 6 => some "No such device or address"
  | 9 => some "Bad file descriptor"
  | 11 => some "Resource temporarily unavailable"
  | 12 => some "Cannot allocate memory"
  | 13 => some "Permission denied"
  | 16 => some "Device or resource busy"
  | 17 => some "File exists"
  | 18 => some "Invalid cross-device link"
  | 19 => some "No such device"
  | 20 => some "Not a directory"
  | 21 => some "Is a directory"
  | 22 => some "Invalid argument"
  | 23 => some "Too many open files in system"
  | 24 => some "Too many open files"
  | 26 => some "Text file busy"
  | 27 => some "File too large"
  | 28 => some "No space left on device"
  | 29 => some "Illegal seek"
  | 30 => some "Read-only file system"
  | 31 => some "Too many links"
  | 32 => some "Broken pipe"
  | 36 => some "File name too long"
  | 40 => some "Too many levels of symbolic links"
  | 95 => some "Operation not supported"
  | 122 => some "Disk quota exceeded"
  | _ => none

/-- A system error as its description and code. -/
def osText (code : UInt32) (details : String) : String :=
  (osDescription code).getD details ++ s!" (os error {code})"

/-- Why a path cannot be read or written. -/
inductive FileFault where
  | nulByte
  | notFound
  | accessDenied
  | notDirectory
  | isDirectory
  | noSpace
  | nameTooLong
  deriving DecidableEq, Repr

namespace FileFault

/-- The system error code of a fault; a NUL byte is refused before the system is asked. -/
def code : FileFault → Option UInt32
  | .nulByte => none
  | .notFound => some 2
  | .accessDenied => some 13
  | .notDirectory => some 20
  | .isDirectory => some 21
  | .noSpace => some 28
  | .nameTooLong => some 36

def text (f : FileFault) : String :=
  match f.code with
  | some c => osText c ""
  | none => "file name contained an unexpected NUL byte"

end FileFault

namespace Host

/-- The device files of the host. -/
inductive Device where
  | null
  | zero
  | full
  deriving DecidableEq, Repr

/-- A directory of the host: a standard one, by its components from the root, or the
working directory. -/
inductive Directory where
  | standard (components : List String)
  | working
  deriving DecidableEq, Repr

def topDirectories : List String :=
  ["bin", "boot", "dev", "etc", "home", "lib", "lib64", "media", "mnt", "opt", "proc", "root",
   "run", "sbin", "srv", "sys", "tmp", "usr", "var"]

def systemDirectories : List String :=
  ["block", "bus", "class", "dev", "devices", "firmware", "fs", "kernel", "module", "power"]

def deviceDirectories : List String :=
  ["pts", "shm"]

/-- The directories of `/proc` besides the running process: the first process among them. -/
def processDirectories : List String :=
  ["1", "sys", "net", "thread-self", "bus", "driver", "fs", "irq", "tty", "sysvipc", "pressure"]

/-- The directories of `/proc/self` besides its descriptors and its working directory. -/
def selfDirectories : List String :=
  ["task", "net", "ns", "fdinfo", "attr"]

def tunableDirectories : List String :=
  ["abi", "debug", "dev", "fs", "kernel", "net", "user", "vm"]

/-- The device files, by name within `/dev`. -/
def deviceNamed : String → Option Device
  | "null" => some .null
  | "zero" => some .zero
  | "full" => some .full
  | _ => none

/-- A regular file of the host: its bytes, and why writing it fails, if it does. -/
structure File where
  data : List UInt8
  writeFault : Option FileFault

/-- A text file that takes any write. -/
def File.text (s : String) : File := ⟨s.toUTF8.toList, none⟩

/-- A text file of `/proc`, which refuses a write. -/
def File.procText (s : String) : File := ⟨s.toUTF8.toList, some .accessDenied⟩

/-- The files of `/etc`, by name: the accounts of the administrator alone. -/
def etcFile : String → Option File
  | "passwd" => some (.text "root:x:0:0:root:/root:/bin/bash\n")
  | "group" => some (.text "root:x:0:\n")
  | "shadow" => some (.text "root:*:19000:0:99999:7:::\n")
  | _ => none

/-- The texts of `/proc` about the machine, by name. -/
def procFile : String → Option File
  | "version" => some (.procText "Linux version 6.1.0\n")
  | "cpuinfo" => some (.procText "processor\t: 0\n")
  | "meminfo" => some (.procText "MemTotal:        1048576 kB\n")
  | "mounts" => some (.procText "overlay / overlay rw 0 0\n")
  | "filesystems" => some (.procText "nodev\tsysfs\n")
  | _ => none

/-- The texts of `/proc/self` about the running process, by name, and its executable, an
ELF image. -/
def selfFile : String → Option File
  | "exe" => some ⟨[0x7F, 0x45, 0x4C, 0x46], some .accessDenied⟩
  | "status" => some (.procText "Name:\ttransport\n")
  | "comm" => some (.procText "transport\n")
  | "cmdline" => some (.procText "transport\x00")
  | _ => none

/-- What an entry of a directory is. -/
inductive Child where
  | directory (d : Directory)
  | device (v : Device)
  | file (f : File)

namespace Directory

def root : Directory := .standard []

/-- The directory above; the root is its own parent, and the working directory lies
below the root. -/
def parent : Directory → Directory
  | .standard cs => .standard cs.dropLast
  | .working => root

/-- A directory of one of the names in `names`, below `d`, if `name` is one. -/
def among (d : List String) (names : List String) (name : String) : Option Child :=
  if names.contains name then some (.directory (.standard (d ++ [name]))) else none

/-- The entry of a directory with a given name, if there is one. -/
def child : Directory → String → Option Child
  | .standard [], name => among [] topDirectories name
  | .standard ["dev"], name => (among ["dev"] deviceDirectories name).orElse fun _ =>
      (deviceNamed name).map .device
  | .standard ["etc"], name => (etcFile name).map .file
  | .standard ["sys"], name => among ["sys"] systemDirectories name
  | .standard ["proc"], "self" => some (.directory (.standard ["proc", "self"]))
  | .standard ["proc"], name => (among ["proc"] processDirectories name).orElse fun _ =>
      (procFile name).map .file
  | .standard ["proc", "sys"], name => among ["proc", "sys"] tunableDirectories name
  | .standard ["proc", "self"], "fd" => some (.directory (.standard ["proc", "self", "fd"]))
  | .standard ["proc", "self"], "cwd" => some (.directory .working)
  | .standard ["proc", "self"], "root" => some (.directory root)
  | .standard ["proc", "self"], name => (among ["proc", "self"] selfDirectories name).orElse fun _ =>
      (selfFile name).map .file
  | _, _ => none

/-- Whether the directory belongs to a file system made up by the kernel (`/proc` and
`/sys`), which looks up a name of any length and merely finds none that is too long. -/
def isVirtual : Directory → Bool
  | .standard ("proc" :: _) => true
  | .standard ("sys" :: _) => true
  | _ => false

/-- Looks up a name in a directory. A disk file system refuses a name of more than 255
bytes. -/
def lookup (d : Directory) (name : String) : Except FileFault (Option Child) :=
  if name.utf8ByteSize > 255 && !d.isVirtual then .error .nameTooLong
  else .ok (d.child name)

/-- Why a new file cannot be made in a directory, if it cannot. -/
def creationFault : Directory → Option FileFault
  | .standard ("proc" :: _) => some .notFound
  | .standard ("sys" :: _) => some .accessDenied
  | .standard ["dev", "pts"] => some .accessDenied
  | _ => none

end Directory

/-- Where a path leads once every component but the last has been looked up: a directory
(the path ends in the root, `.` or `..`), or a name in a directory, perhaps followed by a
slash, which has yet to be looked up. -/
inductive Place where
  | directory (d : Directory)
  | name (parent : Directory) (name : String) (slash : Bool)

/-- Looks up the components of a path from a directory, up to the last. Every component
before the last must be a directory. -/
def walk : Directory → List String → Except FileFault Place
  | d, [] => .ok (.directory d)
  | d, c :: cs =>
    if c.isEmpty || c == "." then walk d cs
    else if c == ".." then walk d.parent cs
    else if cs.all String.isEmpty then .ok (.name d c !cs.isEmpty)
    else
      match d.lookup c with
      | .error f => .error f
      | .ok (some (.directory e)) => walk e cs
      | .ok (some _) => .error .notDirectory
      | .ok none => .error .notFound

/-- Where a path leads. -/
def resolve (path : String) : Except FileFault Place :=
  if path.contains (Char.ofNat 0) then .error .nulByte
  else if path.isEmpty then .error .notFound
  else if path.utf8ByteSize ≥ 4096 then .error .nameTooLong
  else if path.startsWith "/" then walk Directory.root (path.splitOn "/")
  else walk .working (path.splitOn "/")

/-- What reading a path gives: bytes that end, a byte repeated without end, or a
directory, which opens but cannot be read. -/
inductive Source where
  | bytes (data : List UInt8)
  | endless (b : UInt8)
  | directory

/-- What reading an entry gives. -/
def Child.source : Child → Source
  | .directory _ => .directory
  | .device .null => .bytes []
  | .device _ => .endless 0
  | .file f => .bytes f.data

/-- Opens a path to read it. A name followed by a slash must be a directory. -/
def openToRead (path : String) : Except FileFault Source :=
  match resolve path with
  | .error f => .error f
  | .ok (.directory _) => .ok .directory
  | .ok (.name d n slash) =>
    match d.lookup n with
    | .error f => .error f
    | .ok none => .error .notFound
    | .ok (some (.directory _)) => .ok .directory
    | .ok (some c) => if slash then .error .notDirectory else .ok c.source

/-- Writes `data` to a path, making a new file where there is none. A path that ends in a
directory, or in a slash, is refused as a directory before its last name is looked up. -/
def write (path : String) (data : List UInt8) : Except FileFault Unit :=
  match resolve path with
  | .error f => .error f
  | .ok (.directory _) => .error .isDirectory
  | .ok (.name d n slash) =>
    if slash then .error .isDirectory
    else
      match d.lookup n with
      | .error f => .error f
      | .ok none =>
        match d.creationFault with
        | some f => .error f
        | none => .ok ()
      | .ok (some (.directory _)) => .error .isDirectory
      | .ok (some (.device .full)) => if data.isEmpty then .ok () else .error .noSpace
      | .ok (some (.device _)) => .ok ()
      | .ok (some (.file f)) =>
        match f.writeFault with
        | some e => .error e
        | none => .ok ()

/-- The host as a file system: a directory opens but cannot be read, and a write leaves the
host as it was. -/
def fileSystem : FileSystem Unit where
  openToRead _ path :=
    match openToRead path with
    | .error f => .error f.text
    | .ok .directory => .ok (.unreadable FileFault.isDirectory.text)
    | .ok (.bytes data) => .ok (.bytes data)
    | .ok (.endless b) => .ok (.endless b)
  write _ path data := (write path data).mapError FileFault.text

end Host

end Transport
