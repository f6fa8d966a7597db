import Transport.Engine.Run
import Transport.Engine.Settings
import Transport.Json.Write
import Transport.Engine.FileSystem
/-!
# Reading settings and writing results

The file side of a run, over any file system: settings read from a JSON file, and a result
written to one as indented JSON. A file that cannot be opened is an `Io` error naming the
path; text that cannot be read as settings, or a read that fails after the file opened, is
a `Parse` error.

* `RunInput.fromPath_after_write`: on a file system that reads back what it writes, settings
  written as a text and read from the file are the settings read from the text.
* `RunResult.saveTo_reads_back`: there, a saved result reads back as its JSON text.
-/
namespace Transport

/-- Why a result could not be written. -/
inductive OutputError where
  | io (path reason : String)
  deriving Inhabited

namespace OutputError

def message : OutputError → String
  | .io path reason => s!"cannot write '{path}': {reason}"

def describe : OutputError → String
  | .io path reason => Describe.record "Io" [("path", Describe.quoted path), ("reason", Describe.quoted reason)]

end OutputError

/-- Reads settings from JSON text; `path` names the text in the error. -/
def RunInput.ofText (path text : String) : Except ConfigError RunInput :=
  match RunInput.read (Json.Byte.ofString text) with
  | .ok r => .ok r
  | .error (e, _) => .error (.parse path e.text)

/-- Reads settings from a source that repeats the byte `b` without end. A prefix of `n`
bytes decides once the reading stops before its end; otherwise the prefix doubles, at
most `rounds` times. -/
def RunInput.readRepeating (b : UInt8) : Nat → Nat → Except (Json.ReadError × Nat) RunInput
  | 0, n => RunInput.read (List.replicate n b)
  | rounds + 1, n =>
    match RunInput.read (List.replicate n b) with
    | .error (e, looked) =>
      if looked < n then .error (e, looked) else RunInput.readRepeating b rounds (2 * n)
    | .ok _ => RunInput.readRepeating b rounds (2 * n)

/-- Reads settings from a file. A path that cannot be opened is an `Io` error; a file that
opens but cannot be read is a `Parse` error. -/
def RunInput.fromPath {σ : Type} (fs : FileSystem σ) (s : σ) (path : String) :
    Except ConfigError RunInput :=
  let parsed (r : Except (Json.ReadError × Nat) RunInput) : Except ConfigError RunInput :=
    match r with
    | .ok input => .ok input
    | .error (e, _) => .error (.parse path e.text)
  match fs.openToRead s path with
  | .error reason => .error (.io path reason)
  | .ok (.unreadable reason) => .error (.parse path reason)
  | .ok (.bytes data) => parsed (RunInput.read data)
  | .ok (.endless b) => parsed (RunInput.readRepeating b 16 2)

def RunResult.toText (r : RunResult) : String := Json.renderPretty "" r.toJson

/-- Writes a result as indented JSON to a file, replacing it. -/
def RunResult.saveTo {σ : Type} (r : RunResult) (fs : FileSystem σ) (s : σ) (path : String) :
    Except OutputError σ :=
  match fs.write s path (Json.Byte.ofString r.toText) with
  | .ok s' => .ok s'
  | .error reason => .error (.io path reason)

section ReadsBack

variable {σ : Type} {fs : FileSystem σ} {s s' : σ} {path : String}

theorem RunInput.fromPath_after_write (h : fs.ReadsBack) {text : String}
    (hw : fs.write s path (Json.Byte.ofString text) = .ok s') :
    RunInput.fromPath fs s' path = RunInput.ofText path text := by
  simp only [RunInput.fromPath, RunInput.ofText, h s path _ s' hw]

theorem RunResult.saveTo_reads_back (h : fs.ReadsBack) {r : RunResult}
    (hw : r.saveTo fs s path = .ok s') :
    fs.openToRead s' path = .ok (.bytes (Json.Byte.ofString r.toText)) := by
  unfold RunResult.saveTo at hw
  split at hw
  · rename_i s'' hwrite
    cases hw
    exact h s path _ s' hwrite
  · cases hw

end ReadsBack

end Transport
