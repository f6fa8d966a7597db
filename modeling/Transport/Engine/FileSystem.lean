/-!
# File systems

A run reads its settings from a path and writes its result to one. The engine takes the
file system as a parameter: states `σ` of it, read and written by path, each operation
giving the text of its fault when it fails. What the engine's results assume of a file
system is said by named hypotheses, taken only by the theorems that need them:

* `FileSystem.ReadsBack`: a path reads back as the bytes last written to it.

`FileSystem.memory` keeps its files in a list and meets it (`FileSystem.memory_readsBack`).
-/
namespace Transport

/-- What reading a path gives: bytes that end, a byte repeated without end, or a fault that
shows only once the path is open, as reading a directory does. -/
inductive FileSource where
  | bytes (data : List UInt8)
  | endless (b : UInt8)
  | unreadable (reason : String)
  deriving DecidableEq

/-- A file system: states `σ`, read and written by path. A write gives the state after it. -/
structure FileSystem (σ : Type) where
  openToRead : σ → String → Except String FileSource
  write : σ → String → List UInt8 → Except String σ

namespace FileSystem

variable {σ : Type}

/-- A path reads back as the bytes last written to it. -/
def ReadsBack (fs : FileSystem σ) : Prop :=
  ∀ s path data s', fs.write s path data = .ok s' → fs.openToRead s' path = .ok (.bytes data)

/-- Files held in memory, the latest write of a path first; a path never written is
missing. -/
def memory : FileSystem (List (String × List UInt8)) where
  openToRead files path :=
    match files.lookup path with
    | some data => .ok (.bytes data)
    | none => .error "no such file"
  write files path data := .ok ((path, data) :: files)

theorem memory_readsBack : memory.ReadsBack := by
  intro files path data s' h
  cases h
  simp only [memory, List.lookup_cons_self]

end FileSystem

end Transport
