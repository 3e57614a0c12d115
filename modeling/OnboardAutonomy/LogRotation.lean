import OnboardAutonomy.Retention
import Mathlib.Data.List.Sort
import Mathlib.Data.String.Basic

/-! `rotate_jsonl_logs.py`: the JSONL logs of the program are mirrored into files of a bounded size, and after
every line the newest files are kept within limits of count and total size. The names in a directory are
plain file names, its entries are told apart by them. -/

namespace OnboardAutonomy

/-! ### The log directory -/

/-- A symbolic link or a directory is not regular. -/
structure LogEntry where
  name : String
  regular : Bool
  mtimeNs : Int
  content : List UInt8
  deriving DecidableEq

def LogEntry.size (entry : LogEntry) : Nat := entry.content.length

structure LogDirectory where
  entries : List LogEntry
  unique : (entries.map LogEntry.name).Nodup

namespace LogDirectory

def names (directory : LogDirectory) : List String := directory.entries.map LogEntry.name

/-- `open("xb")`: a name that exists already is refused. -/
def create (directory : LogDirectory) (name : String) (time : Int) : LogDirectory :=
  if h : name ∈ directory.entries.map LogEntry.name then directory
  else
    { entries := { name := name, regular := true, mtimeNs := time, content := [] } :: directory.entries
      unique := List.nodup_cons.mpr ⟨h, directory.unique⟩ }

def appendTo (name : String) (payload : List UInt8) (time : Int) (entry : LogEntry) : LogEntry :=
  if entry.name = name then
    { entry with
      mtimeNs := time
      content := entry.content ++ payload }
  else entry

theorem appendTo_name (name : String) (payload : List UInt8) (time : Int) (entry : LogEntry) :
    (appendTo name payload time entry).name = entry.name := by
  rw [appendTo]
  split <;> rfl

/-- Bytes written to an open file. Where its entry has been unlinked they are in no file of the directory. -/
def write (directory : LogDirectory) (name : String) (payload : List UInt8) (time : Int) : LogDirectory where
  entries := directory.entries.map (appendTo name payload time)
  unique := by
    have hnames : LogEntry.name ∘ appendTo name payload time = LogEntry.name :=
      funext (appendTo_name name payload time)
    rw [List.map_map, hnames]
    exact directory.unique

def unlink (directory : LogDirectory) (removed : List String) : LogDirectory where
  entries := directory.entries.filter fun entry => entry.name ∉ removed
  unique := directory.unique.sublist (List.filter_sublist.map LogEntry.name)

end LogDirectory

/-! ### Rotation -/

structure RotationResult where
  kept : List String
  removed : List String
  retainedBytes : Nat
  deriving DecidableEq

/-- The pattern `telemetry-*.jsonl`. -/
def isTelemetryLog (name : String) : Bool :=
  "telemetry-".toList.isPrefixOf name.toList &&
    ".jsonl".toList.isSuffixOf (name.toList.drop "telemetry-".toList.length)

/-- The order of the keys `(st_mtime_ns, name)`, reversed. -/
def NewerFirst (a b : LogEntry) : Prop := b.mtimeNs < a.mtimeNs ∨ (b.mtimeNs = a.mtimeNs ∧ b.name ≤ a.name)

instance : DecidableRel NewerFirst := fun a b =>
  inferInstanceAs (Decidable (b.mtimeNs < a.mtimeNs ∨ (b.mtimeNs = a.mtimeNs ∧ b.name ≤ a.name)))

/-- The regular telemetry files. -/
def LogDirectory.telemetryFiles (directory : LogDirectory) : List LogEntry :=
  directory.entries.filter fun entry => isTelemetryLog entry.name && entry.regular

def LogDirectory.candidates (directory : LogDirectory) : List LogEntry :=
  directory.telemetryFiles.insertionSort NewerFirst

/-- `max_files` and `max_total_bytes`. Anything below one is a `ValueError`. -/
def rotationLimits (maxFiles maxTotalBytes : Int) : Except String Retention.Limits :=
  if h : maxFiles < 1 then .error "max_files must be at least 1"
  else if maxTotalBytes < 1 then .error "max_total_bytes must be at least 1"
  else .ok { maxCount := maxFiles.toNat, maxTotal := maxTotalBytes.toNat, count_pos := by omega }

/-- The loop over the candidates is the greedy retention of their sizes. -/
def rotateJsonlLogs (limits : Retention.Limits) (directory : LogDirectory) : LogDirectory × RotationResult :=
  let selection := Retention.select LogEntry.size limits directory.candidates
  let removed := selection.removed.map LogEntry.name
  (directory.unlink removed,
    { kept := selection.kept.map LogEntry.name
      removed := removed
      retainedBytes := selection.total })

/-! ### The stream -/

/-- A line of the input, encoded. There is no empty one. -/
structure LogLine where
  payload : List UInt8
  nonempty : payload ≠ []

structure LogStream where
  directory : LogDirectory
  result : RotationResult
  mirror : List LogLine := []
  sequence : Nat := 0
  activeSize : Nat := 0
  activeFile : Option String := none

/-- The format `03d`. -/
def threeDigits (n : Nat) : List Char :=
  List.replicate (3 - (Nat.toDigits 10 n).length) '0' ++ Nat.toDigits 10 n

def logFileName (stem : String) (sequence : Nat) : String :=
  let suffix := if sequence = 0 then "" else "-" ++ String.ofList (threeDigits sequence)
  stem ++ suffix ++ ".jsonl"

/-- The loop that looks for a name. Each round meets another entry of the directory, so it ends after as many
rounds as there are entries. -/
def freeSequence (names : List String) (stem : String) : Nat → Nat → Nat
  | 0, sequence => sequence
  | rounds + 1, sequence =>
      if logFileName stem sequence ∈ names then freeSequence names stem rounds (sequence + 1) else sequence

namespace LogStream

/-- The number of the next file. -/
def nextSequence (s : LogStream) (stem : String) : Nat :=
  freeSequence s.directory.names stem s.directory.entries.length s.sequence

def openNext (s : LogStream) (stem : String) (time : Int) : LogStream :=
  let sequence := s.nextSequence stem
  let path := logFileName stem sequence
  { s with
    directory := s.directory.create path time
    sequence := sequence + 1
    activeSize := 0
    activeFile := some path }

/-- No file is open, or the line does not fit into the one that is. -/
def opensNext (s : LogStream) (maxFileBytes : Nat) (line : LogLine) : Bool :=
  s.activeFile.isNone ||
    (decide (0 < s.activeSize) && decide (maxFileBytes < s.activeSize + line.payload.length))

def writeLine (s : LogStream) (stem : String) (maxFileBytes : Nat) (line : LogLine) (time : Int) : LogStream :=
  let s := if s.opensNext maxFileBytes line then s.openNext stem time else s
  { s with
    directory :=
      match s.activeFile with
      | some path => s.directory.write path line.payload time
      | none => s.directory
    activeSize := s.activeSize + line.payload.length
    mirror := s.mirror ++ [line] }

def rotate (s : LogStream) (limits : Retention.Limits) : LogStream :=
  let (directory, result) := rotateJsonlLogs limits s.directory
  { s with
    directory := directory
    result := result }

end LogStream

/-- What `stream_jsonl_logs` is started with. -/
structure LogStreamConfig where
  stem : String
  limits : Retention.Limits
  maxFileBytes : Nat
  bytes_pos : 1 ≤ maxFileBytes

def logStreamConfig (stem : String) (maxFiles maxTotalBytes maxFileBytes : Int) :
    Except String LogStreamConfig :=
  if h : maxFileBytes < 1 then .error "max_file_bytes must be at least 1"
  else do
    let limits ← rotationLimits maxFiles maxTotalBytes
    .ok { stem := stem, limits := limits, maxFileBytes := maxFileBytes.toNat, bytes_pos := by omega }

namespace LogStreamConfig

/-- Before the first line the directory is rotated once. -/
def start (config : LogStreamConfig) (directory : LogDirectory) : LogStream where
  directory := (rotateJsonlLogs config.limits directory).1
  result := (rotateJsonlLogs config.limits directory).2

/-- A line, with the time of the clock of the file system when it is written. -/
def step (config : LogStreamConfig) (s : LogStream) (line : LogLine × Int) : LogStream :=
  (s.writeLine config.stem config.maxFileBytes line.1 line.2).rotate config.limits

/-- `stream_jsonl_logs`. -/
def stream (config : LogStreamConfig) (directory : LogDirectory) (lines : List (LogLine × Int)) : LogStream :=
  lines.foldl config.step (config.start directory)

end LogStreamConfig

end OnboardAutonomy
