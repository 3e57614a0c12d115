import OnboardAutonomy.ActiveLog

/-! What a stream writes. Beside the stream runs a record of the files it creates, in the order of their
creation, with the lines that it writes into each. Until rotation unlinks such a file it is in the directory with
these lines; what is unlinked stays in the record. -/

namespace OnboardAutonomy

/-- A file that the stream created: the number its search for a name began with, the names that were in
the directory then, and the lines it was given. -/
structure CreatedFile where
  name : String
  searchedFrom : Nat
  present : List String
  lines : List LogLine

namespace CreatedFile

def bytes (file : CreatedFile) : List UInt8 := file.lines.flatMap LogLine.payload

def add (file : CreatedFile) (line : LogLine) : CreatedFile := { file with lines := file.lines ++ [line] }

theorem bytes_add (file : CreatedFile) (line : LogLine) : (file.add line).bytes = file.bytes ++ line.payload := by
  rw [bytes, add, List.flatMap_append, List.flatMap_singleton]
  rfl

theorem bytes_ne_nil {file : CreatedFile} (h : file.lines ≠ []) : file.bytes ≠ [] := by
  obtain ⟨line, lines, hlines⟩ := List.exists_cons_of_ne_nil h
  rw [bytes, hlines, List.flatMap_cons]
  exact List.append_ne_nil_of_left_ne_nil line.nonempty _

end CreatedFile

/-- The stream beside its record: the files it has closed, and the one it has open. -/
structure StreamRecord where
  stream : LogStream
  closed : List CreatedFile := []
  current : Option CreatedFile := none

/-- In the order of their creation. -/
def StreamRecord.files (r : StreamRecord) : List CreatedFile := r.closed ++ r.current.toList

namespace LogStreamConfig

variable (config : LogStreamConfig)

def recordStep (r : StreamRecord) (line : LogLine × Int) : StreamRecord :=
  if r.stream.opensNext config.maxFileBytes line.1 then
    { stream := config.step r.stream line
      closed := r.files
      current := some
        { name := logFileName config.stem (r.stream.nextSequence config.stem)
          searchedFrom := r.stream.sequence
          present := r.stream.directory.names
          lines := [line.1] } }
  else
    { stream := config.step r.stream line
      closed := r.closed
      current := r.current.map fun file => file.add line.1 }

def record (directory : LogDirectory) (lines : List (LogLine × Int)) : StreamRecord :=
  lines.foldl config.recordStep { stream := config.start directory }

theorem record_concat (directory : LogDirectory) (lines : List (LogLine × Int)) (line : LogLine × Int) :
    config.record directory (lines ++ [line]) = config.recordStep (config.record directory lines) line := by
  rw [record, List.foldl_append]
  rfl

theorem recordStep_stream (r : StreamRecord) (line : LogLine × Int) :
    (config.recordStep r line).stream = config.step r.stream line := by
  rw [recordStep]
  split <;> rfl

/-- The record does not disturb the stream. -/
theorem record_stream (directory : LogDirectory) (lines : List (LogLine × Int)) :
    (config.record directory lines).stream = config.stream directory lines := by
  induction lines using List.reverseRecOn with
  | nil => rfl
  | append_singleton lines line ih => rw [record_concat, recordStep_stream, ih, stream_concat]

end LogStreamConfig

/-! ### The search for a name -/

theorem le_freeSequence (names : List String) (stem : String) (rounds sequence : Nat) :
    sequence ≤ freeSequence names stem rounds sequence := by
  induction rounds generalizing sequence with
  | zero => exact Nat.le_refl _
  | succ rounds ih =>
      rw [freeSequence]
      split
      · exact (Nat.le_succ sequence).trans (ih (sequence + 1))
      · exact Nat.le_refl _

/-- The search passes over names that are in use, and over no others. -/
theorem mem_of_lt_freeSequence {names : List String} {stem : String} (rounds sequence : Nat) {n : Nat}
    (hle : sequence ≤ n) (hlt : n < freeSequence names stem rounds sequence) :
    logFileName stem n ∈ names := by
  induction rounds generalizing sequence with
  | zero => exact absurd hlt (not_lt.mpr hle)
  | succ rounds ih =>
      rw [freeSequence] at hlt
      split at hlt
      · next hused =>
          rcases Nat.eq_or_lt_of_le hle with rfl | hlater
          · exact hused
          · exact ih (sequence + 1) hlater hlt
      · exact absurd hlt (not_lt.mpr hle)

/-- The name of a new file is the first free one. -/
structure FirstFree (stem : String) (file : CreatedFile) (number : Nat) : Prop where
  name : file.name = logFileName stem number
  searched : file.searchedFrom ≤ number
  free : file.name ∉ file.present
  used : ∀ n, file.searchedFrom ≤ n → n < number → logFileName stem n ∈ file.present

namespace LogStream

theorem nextSequence_free (s : LogStream) (stem : String) :
    logFileName stem (s.nextSequence stem) ∉ s.directory.names := by
  have hfree := freeSequence_free s.directory.names stem s.sequence
  rwa [LogDirectory.names, List.length_map] at hfree

theorem writeLine_mirror (s : LogStream) (stem : String) (maxFileBytes : Nat) (line : LogLine) (time : Int) :
    (s.writeLine stem maxFileBytes line time).mirror = s.mirror ++ [line] := by
  rw [writeLine]
  cases s.opensNext maxFileBytes line <;> rfl

theorem writeLine_sequence (s : LogStream) (stem : String) (maxFileBytes : Nat) (line : LogLine) (time : Int) :
    (s.writeLine stem maxFileBytes line time).sequence =
      if s.opensNext maxFileBytes line then s.nextSequence stem + 1 else s.sequence := by
  rw [writeLine]
  cases s.opensNext maxFileBytes line <;> rfl

end LogStream

/-! ### Entries -/

namespace LogDirectory

theorem mem_create {directory : LogDirectory} {name : String} (hfresh : name ∉ directory.names) (time : Int)
    (entry : LogEntry) : entry ∈ (directory.create name time).entries ↔
      entry = { name := name, regular := true, mtimeNs := time, content := [] } ∨
        entry ∈ directory.entries := by
  rw [show (directory.create name time).entries =
    { name := name, regular := true, mtimeNs := time, content := [] } :: directory.entries from
      congrArg entries (dif_neg hfresh), List.mem_cons]

theorem mem_rotate {limits : Retention.Limits} {directory : LogDirectory} {entry : LogEntry}
    (h : entry ∈ (rotateJsonlLogs limits directory).1.entries) : entry ∈ directory.entries :=
  (List.mem_filter.mp h).1

end LogDirectory

/-! ### The invariant -/

/-- An entry of the directory is a created file with what was written to it, or an entry of the start. -/
structure Accounted (start : LogDirectory) (files : List CreatedFile) (entry : LogEntry) : Prop where
  created : ∀ file ∈ files, entry.name = file.name → entry.content = file.bytes
  old : (∀ file ∈ files, entry.name ≠ file.name) → entry ∈ start.entries

namespace Accounted

variable {start : LogDirectory} {closed files : List CreatedFile} {file : CreatedFile} {entry : LogEntry}

theorem appendTo (h : Accounted start (closed ++ [file]) entry)
    (honce : file.name ∉ closed.map CreatedFile.name) (line : LogLine) (time : Int) :
    Accounted start (closed ++ [file.add line]) (LogDirectory.appendTo file.name line.payload time entry) := by
  by_cases hname : entry.name = file.name
  · rw [LogDirectory.appendTo, if_pos hname]
    have hbytes : entry.content = file.bytes := h.created file List.mem_concat_self hname
    refine ⟨List.forall_mem_append.mpr ⟨fun other hclosed hsame => ?_, ?_⟩, fun hnone => ?_⟩
    · exact absurd (List.mem_map.mpr ⟨other, hclosed, hsame.symm.trans hname⟩) honce
    · rw [List.forall_mem_singleton, file.bytes_add, ← hbytes]
      exact fun _ => rfl
    · exact absurd hname (hnone (file.add line) List.mem_concat_self)
  · rw [LogDirectory.appendTo, if_neg hname]
    obtain ⟨hcreated, -⟩ := List.forall_mem_append.mp h.created
    refine ⟨List.forall_mem_append.mpr ⟨hcreated, ?_⟩, fun hnone => h.old ?_⟩
    · exact List.forall_mem_singleton.mpr fun hsame => absurd hsame hname
    · exact List.forall_mem_append.mpr
        ⟨(List.forall_mem_append.mp hnone).1, List.forall_mem_singleton.mpr hname⟩

/-- A new file has a name that no entry has. -/
theorem beside (h : Accounted start files entry) (hname : entry.name ≠ file.name) :
    Accounted start (files ++ [file]) entry := by
  refine ⟨List.forall_mem_append.mpr ⟨h.created, ?_⟩, fun hnone => h.old ?_⟩
  · exact List.forall_mem_singleton.mpr fun hsame => absurd hsame hname
  · exact (List.forall_mem_append.mp hnone).1

theorem new (honce : file.name ∉ files.map CreatedFile.name) (hname : entry.name = file.name)
    (hcontent : entry.content = file.bytes) : Accounted start (files ++ [file]) entry := by
  refine ⟨List.forall_mem_append.mpr ⟨fun other hold hsame => ?_, ?_⟩, fun hnone => ?_⟩
  · exact absurd (List.mem_map.mpr ⟨other, hold, hsame.symm.trans hname⟩) honce
  · exact List.forall_mem_singleton.mpr fun _ => hcontent
  · exact absurd hname (hnone file List.mem_concat_self)

end Accounted

/-- What the record and the stream agree on after every line. -/
structure Recorded (config : LogStreamConfig) (start : LogDirectory) (r : StreamRecord) : Prop where
  active : r.stream.activeFile = r.current.map CreatedFile.name
  size : ∀ file ∈ r.current, r.stream.activeSize = file.bytes.length
  mirror : r.stream.mirror = r.files.flatMap CreatedFile.lines
  filled : ∀ file ∈ r.files, file.lines ≠ []
  bounded : ∀ file ∈ r.files, file.bytes.length ≤ config.maxFileBytes ∨ ∃ line, file.lines = [line]
  found : ∀ file ∈ r.files, ∃ number, FirstFree config.stem file number ∧ number < r.stream.sequence
  once : (r.files.map CreatedFile.name).Nodup
  entries : ∀ entry ∈ r.stream.directory.entries, Accounted start r.files entry

namespace Recorded

variable {config : LogStreamConfig} {start : LogDirectory} {r : StreamRecord}

theorem begin (config : LogStreamConfig) (start : LogDirectory) :
    Recorded config start { stream := config.start start } := by
  constructor
  case active => rfl
  case size => exact fun file hfile => absurd hfile (Option.not_mem_none file)
  case mirror => rfl
  case filled => exact fun file hfile => absurd hfile List.not_mem_nil
  case bounded => exact fun file hfile => absurd hfile List.not_mem_nil
  case found => exact fun file hfile => absurd hfile List.not_mem_nil
  case once => exact List.nodup_nil
  case entries =>
    intro entry hentry
    exact ⟨fun file hfile => absurd hfile List.not_mem_nil, fun _ => LogDirectory.mem_rotate hentry⟩

/-- The file that is opened next, with its first line. -/
def opened (config : LogStreamConfig) (s : LogStream) (line : LogLine) : CreatedFile :=
  { name := logFileName config.stem (s.nextSequence config.stem)
    searchedFrom := s.sequence
    present := s.directory.names
    lines := [line] }

theorem opened_firstFree (config : LogStreamConfig) (s : LogStream) (line : LogLine) :
    FirstFree config.stem (opened config s line) (s.nextSequence config.stem) where
  name := rfl
  searched := le_freeSequence _ _ _ _
  free := s.nextSequence_free config.stem
  used := fun _ hle hlt => mem_of_lt_freeSequence _ _ hle hlt

theorem recordStep_opened {line : LogLine × Int} (hopen : r.stream.opensNext config.maxFileBytes line.1 = true) :
    (config.recordStep r line).current = some (opened config r.stream line.1) ∧
      (config.recordStep r line).files = r.files ++ [opened config r.stream line.1] := by
  rw [LogStreamConfig.recordStep, if_pos hopen]
  exact ⟨rfl, rfl⟩

theorem recordStep_kept {file : CreatedFile} {line : LogLine × Int} (hcurrent : r.current = some file)
    (hkeep : r.stream.opensNext config.maxFileBytes line.1 = false) :
    r.files = r.closed ++ [file] ∧ (config.recordStep r line).current = some (file.add line.1) ∧
      (config.recordStep r line).files = r.closed ++ [file.add line.1] := by
  rw [LogStreamConfig.recordStep, if_neg (by rw [hkeep]; exact Bool.false_ne_true), StreamRecord.files, hcurrent]
  exact ⟨rfl, rfl, rfl⟩

/-- Its number is larger than those of the files before. -/
theorem opened_new (h : Recorded config start r) (line : LogLine) :
    (opened config r.stream line).name ∉ r.files.map CreatedFile.name := by
  intro hmem
  obtain ⟨file, hfile, hname⟩ := List.mem_map.mp hmem
  obtain ⟨number, hfound, hlt⟩ := h.found file hfile
  rw [hfound.name] at hname
  have hnumber : number = r.stream.nextSequence config.stem := logFileName_injective config.stem hname
  have hle : r.stream.sequence ≤ r.stream.nextSequence config.stem := le_freeSequence _ _ _ _
  omega

theorem step_open (h : Recorded config start r) {line : LogLine × Int}
    (hopen : r.stream.opensNext config.maxFileBytes line.1 = true) :
    Recorded config start (config.recordStep r line) := by
  have hnew := h.opened_new line.1
  have hfree := r.stream.nextSequence_free config.stem
  have htarget : r.stream.target config.stem config.maxFileBytes line.1 =
      logFileName config.stem (r.stream.nextSequence config.stem) := by rw [LogStream.target, if_pos hopen]
  have hactive := r.stream.writeLine_active config.stem config.maxFileBytes line.1 line.2
  have hsequence := r.stream.writeLine_sequence config.stem config.maxFileBytes line.1 line.2
  rw [if_pos hopen] at hsequence
  have hstream := config.recordStep_stream r line
  obtain ⟨hcurrent, hfiles⟩ := recordStep_opened hopen
  constructor
  case active =>
    rw [hstream, hcurrent]
    exact hactive.1.trans (congrArg some htarget)
  case size =>
    intro file hfile
    rw [hcurrent, Option.mem_some_iff] at hfile
    rw [hstream, ← hfile, opened, CreatedFile.bytes, List.flatMap_singleton]
    have hsize := hactive.2
    rw [LogStream.targetSize, if_pos hopen, Nat.zero_add] at hsize
    exact hsize
  case mirror =>
    rw [hstream, hfiles, List.flatMap_append, List.flatMap_singleton, ← h.mirror]
    exact r.stream.writeLine_mirror config.stem config.maxFileBytes line.1 line.2
  case filled =>
    rw [hfiles, List.forall_mem_append, List.forall_mem_singleton]
    exact ⟨h.filled, List.cons_ne_nil _ _⟩
  case bounded =>
    rw [hfiles, List.forall_mem_append, List.forall_mem_singleton]
    exact ⟨h.bounded, Or.inr ⟨line.1, rfl⟩⟩
  case found =>
    have hnext : (config.recordStep r line).stream.sequence = r.stream.nextSequence config.stem + 1 := by
      rw [hstream]
      exact hsequence
    have hle : r.stream.sequence ≤ r.stream.nextSequence config.stem := le_freeSequence _ _ _ _
    rw [hfiles, hnext, List.forall_mem_append, List.forall_mem_singleton]
    refine ⟨?_, _, opened_firstFree config r.stream line.1, Nat.lt_succ_self _⟩
    intro file hold
    obtain ⟨number, hfound, hlt⟩ := h.found file hold
    exact ⟨number, hfound, by omega⟩
  case once =>
    rw [hfiles, List.map_append, List.map_singleton]
    exact List.nodup_append.mpr ⟨h.once, List.nodup_singleton _, fun a ha b hb hab => hnew (by
      rw [List.mem_singleton.mp hb] at hab
      rwa [← hab])⟩
  case entries =>
    intro entry hentry
    rw [hstream] at hentry
    rw [hfiles]
    have hwritten := LogDirectory.mem_rotate hentry
    rcases r.stream.writeLine_cases config.stem config.maxFileBytes line.1 line.2 with
      ⟨hclosed, -, -⟩ | ⟨-, -, hdirectory⟩
    · rw [hopen] at hclosed
      cases hclosed
    · rw [hdirectory, htarget] at hwritten
      obtain ⟨before, hbefore, rfl⟩ := List.mem_map.mp hwritten
      rcases (LogDirectory.mem_create hfree line.2 before).mp hbefore with rfl | hold
      · refine Accounted.new hnew (LogDirectory.appendTo_name _ _ _ _) ?_
        rw [LogDirectory.appendTo, if_pos rfl, opened, CreatedFile.bytes, List.flatMap_singleton]
        rfl
      · have hne : before.name ≠ logFileName config.stem (r.stream.nextSequence config.stem) := fun hname =>
          hfree (hname ▸ List.mem_map_of_mem hold)
        rw [LogDirectory.appendTo_of_ne _ _ _ hne]
        exact (h.entries before hold).beside hne

/-- A file that keeps its line has been written to before, so the limit was checked. -/
theorem keep_fits (h : Recorded config start r) {file : CreatedFile} {line : LogLine}
    (hcurrent : r.current = some file) (hmem : file ∈ r.files)
    (hkeep : r.stream.opensNext config.maxFileBytes line = false) :
    file.bytes.length + line.payload.length ≤ config.maxFileBytes := by
  have hnonempty := List.length_pos_iff.mpr (CreatedFile.bytes_ne_nil (h.filled file hmem))
  rw [LogStream.opensNext, h.active, hcurrent, h.size file hcurrent] at hkeep
  simp only [Option.map_some, Option.isNone_some, Bool.false_or, Bool.and_eq_false_iff,
    decide_eq_false_iff_not, not_lt] at hkeep
  omega

/-- A line that opens no file goes to the current one. -/
theorem keep_current (h : Recorded config start r) {line : LogLine × Int}
    (hkeep : r.stream.opensNext config.maxFileBytes line.1 = false) :
    ∃ file, r.current = some file ∧ file.name = r.stream.target config.stem config.maxFileBytes line.1 := by
  rcases r.stream.writeLine_cases config.stem config.maxFileBytes line.1 line.2 with ⟨-, hname, -⟩ | ⟨hopen, -, -⟩
  · rw [h.active, Option.map_eq_some_iff] at hname
    exact hname
  · rw [hkeep] at hopen
    cases hopen

theorem step_keep (h : Recorded config start r) {line : LogLine × Int}
    (hkeep : r.stream.opensNext config.maxFileBytes line.1 = false) :
    Recorded config start (config.recordStep r line) := by
  have hnot : ¬r.stream.opensNext config.maxFileBytes line.1 = true := by rw [hkeep]; exact Bool.false_ne_true
  rcases r.stream.writeLine_cases config.stem config.maxFileBytes line.1 line.2 with
    ⟨-, -, hdirectory⟩ | ⟨hopen, -, -⟩
  case inr =>
    rw [hkeep] at hopen
    cases hopen
  obtain ⟨file, hcurrent, htarget⟩ := h.keep_current hkeep
  obtain ⟨hfiles, hcurrent', hfiles'⟩ := recordStep_kept hcurrent hkeep
  have hstream := config.recordStep_stream r line
  have hactive := r.stream.writeLine_active config.stem config.maxFileBytes line.1 line.2
  have hsequence := r.stream.writeLine_sequence config.stem config.maxFileBytes line.1 line.2
  rw [if_neg hnot] at hsequence
  have hsize : r.stream.activeSize = file.bytes.length := h.size file hcurrent
  have hlast : file ∈ r.files := by
    rw [hfiles]
    exact List.mem_concat_self
  have hfits := h.keep_fits hcurrent hlast hkeep
  constructor
  case active =>
    rw [hstream, hcurrent']
    exact hactive.1.trans (congrArg some htarget.symm)
  case size =>
    intro other hother
    rw [hcurrent', Option.mem_some_iff] at hother
    rw [hstream, ← hother, CreatedFile.bytes_add, List.length_append, ← hsize]
    have hwritten := hactive.2
    rw [LogStream.targetSize, if_neg hnot] at hwritten
    exact hwritten
  case mirror =>
    rw [hstream, hfiles', List.flatMap_append, List.flatMap_singleton, CreatedFile.add, ← List.append_assoc]
    have hmirror := r.stream.writeLine_mirror config.stem config.maxFileBytes line.1 line.2
    rw [h.mirror, hfiles, List.flatMap_append, List.flatMap_singleton] at hmirror
    exact hmirror
  case filled =>
    have hfilled := h.filled
    rw [hfiles, List.forall_mem_append] at hfilled
    rw [hfiles', List.forall_mem_append, List.forall_mem_singleton]
    exact ⟨hfilled.1, List.append_ne_nil_of_right_ne_nil _ (List.cons_ne_nil _ _)⟩
  case bounded =>
    have hbounded := h.bounded
    rw [hfiles, List.forall_mem_append] at hbounded
    rw [hfiles', List.forall_mem_append, List.forall_mem_singleton, CreatedFile.bytes_add,
      List.length_append]
    exact ⟨hbounded.1, Or.inl hfits⟩
  case found =>
    have hsame : (config.recordStep r line).stream.sequence = r.stream.sequence := by
      rw [hstream]
      exact hsequence
    have hfound := h.found
    rw [hfiles, List.forall_mem_append, List.forall_mem_singleton] at hfound
    obtain ⟨hclosed, number, hfirst, hlt⟩ := hfound
    rw [hfiles', hsame, List.forall_mem_append, List.forall_mem_singleton]
    exact ⟨hclosed, number, ⟨hfirst.name, hfirst.searched, hfirst.free, hfirst.used⟩, hlt⟩
  case once =>
    have honce := h.once
    rw [hfiles, List.map_append] at honce
    rw [hfiles', List.map_append]
    exact honce
  case entries =>
    intro entry hentry
    rw [hstream] at hentry
    rw [hfiles']
    have hwritten := LogDirectory.mem_rotate hentry
    rw [hdirectory, ← htarget] at hwritten
    obtain ⟨before, hbefore, rfl⟩ := List.mem_map.mp hwritten
    have haccounted := h.entries before hbefore
    have honce := h.once
    rw [hfiles] at haccounted
    rw [hfiles, List.map_append, List.nodup_append] at honce
    refine haccounted.appendTo (fun hmem => ?_) line.1 line.2
    exact honce.2.2 file.name hmem file.name List.mem_cons_self rfl

theorem step (h : Recorded config start r) (line : LogLine × Int) :
    Recorded config start (config.recordStep r line) := by
  cases hopen : r.stream.opensNext config.maxFileBytes line.1 with
  | true => exact h.step_open hopen
  | false => exact h.step_keep hopen

theorem run (config : LogStreamConfig) (start : LogDirectory) (lines : List (LogLine × Int)) :
    Recorded config start (config.record start lines) := by
  induction lines using List.reverseRecOn with
  | nil => exact begin config start
  | append_singleton lines line ih =>
      rw [config.record_concat]
      exact ih.step line

end Recorded

/-! ### The files in the directory -/

/-- The file is in the directory, with what the record has of it. -/
def CreatedFile.In (file : CreatedFile) (directory : LogDirectory) : Prop :=
  ∃ entry ∈ directory.entries, entry.name = file.name ∧ entry.regular = true ∧ entry.content = file.bytes

/-- The file was opened for a line of the input. Since then it is in the directory, with what the record has of
it, unless a rotation has removed it. -/
def Held (config : LogStreamConfig) (start : LogDirectory) (lines : List (LogLine × Int)) (file : CreatedFile) : Prop :=
  ∃ before line, before ++ [line] <+: lines ∧
    (config.stream start before).opensNext config.maxFileBytes line.1 = true ∧
    file.name = logFileName config.stem ((config.stream start before).nextSequence config.stem) ∧
    (file.In (config.stream start lines).directory ∨
      ∃ later, before ++ [line] <+: later ∧ later <+: lines ∧
        file.name ∈ (config.stream start later).result.removed)

section Directory

variable {config : LogStreamConfig} {start : LogDirectory} {lines : List (LogLine × Int)} {file : CreatedFile}

theorem LogDirectory.mem_rotate_or_removed (limits : Retention.Limits) {directory : LogDirectory} {entry : LogEntry}
    (h : entry ∈ directory.entries) :
    entry ∈ (rotateJsonlLogs limits directory).1.entries ∨
      entry.name ∈ (rotateJsonlLogs limits directory).2.removed := by
  by_cases hremoved : entry.name ∈ (rotateJsonlLogs limits directory).2.removed
  · exact Or.inr hremoved
  · exact Or.inl (List.mem_filter.mpr ⟨h, decide_eq_true hremoved⟩)

/-- A file that a line leaves in the directory is still there after the rotation, or that has removed it. -/
theorem CreatedFile.In.rotated {s : LogStream} {line : LogLine × Int}
    (h : file.In (s.writeLine config.stem config.maxFileBytes line.1 line.2).directory) :
    file.In (config.step s line).directory ∨ file.name ∈ (config.step s line).result.removed := by
  obtain ⟨entry, hentry, hname, hregular, hcontent⟩ := h
  rcases LogDirectory.mem_rotate_or_removed config.limits hentry with hkept | hremoved
  · exact Or.inl ⟨entry, hkept, hname, hregular, hcontent⟩
  · rw [hname] at hremoved
    exact Or.inr hremoved

/-- A new file has one line. -/
theorem in_writeLine_open (s : LogStream) {line : LogLine × Int}
    (hopen : s.opensNext config.maxFileBytes line.1 = true) :
    (Recorded.opened config s line.1).In (s.writeLine config.stem config.maxFileBytes line.1 line.2).directory := by
  have htarget : s.target config.stem config.maxFileBytes line.1 =
      logFileName config.stem (s.nextSequence config.stem) := by rw [LogStream.target, if_pos hopen]
  rcases s.writeLine_cases config.stem config.maxFileBytes line.1 line.2 with
    ⟨hclosed, -, -⟩ | ⟨-, hfresh, hdirectory⟩
  · rw [hopen] at hclosed
    cases hclosed
  · rw [htarget] at hfresh hdirectory
    rw [hdirectory]
    refine ⟨_, List.mem_map_of_mem ((LogDirectory.mem_create hfresh line.2 _).mpr (Or.inl rfl)), ?_, ?_, ?_⟩
    · exact LogDirectory.appendTo_name _ _ _ _
    · rw [LogDirectory.appendTo, if_pos rfl]
    · rw [LogDirectory.appendTo, if_pos rfl, Recorded.opened, CreatedFile.bytes, List.flatMap_singleton]
      rfl

/-- A line for another file changes nothing in the directory for this one. -/
theorem CreatedFile.In.writeLine_other {s : LogStream} {line : LogLine × Int} (h : file.In s.directory)
    (hother : file.name ≠ s.target config.stem config.maxFileBytes line.1) :
    file.In (s.writeLine config.stem config.maxFileBytes line.1 line.2).directory := by
  obtain ⟨entry, hentry, hname, hregular, hcontent⟩ := h
  have hsame : LogDirectory.appendTo (s.target config.stem config.maxFileBytes line.1) line.1.payload line.2 entry =
      entry := LogDirectory.appendTo_of_ne _ _ _ (hname ▸ hother)
  refine ⟨entry, ?_, hname, hregular, hcontent⟩
  rcases s.writeLine_cases config.stem config.maxFileBytes line.1 line.2 with
    ⟨-, -, hdirectory⟩ | ⟨-, hfresh, hdirectory⟩
  · rw [hdirectory]
    exact List.mem_map.mpr ⟨entry, hentry, hsame⟩
  · rw [hdirectory]
    exact List.mem_map.mpr ⟨entry, (LogDirectory.mem_create hfresh line.2 entry).mpr (Or.inr hentry), hsame⟩

/-- A line for this file is appended to it. -/
theorem CreatedFile.In.writeLine_same {s : LogStream} {line : LogLine × Int} (h : file.In s.directory)
    (hkeep : s.opensNext config.maxFileBytes line.1 = false)
    (hsame : file.name = s.target config.stem config.maxFileBytes line.1) :
    (file.add line.1).In (s.writeLine config.stem config.maxFileBytes line.1 line.2).directory := by
  obtain ⟨entry, hentry, hname, hregular, hcontent⟩ := h
  rcases s.writeLine_cases config.stem config.maxFileBytes line.1 line.2 with
    ⟨-, -, hdirectory⟩ | ⟨hopen, -, -⟩
  · rw [hdirectory]
    have happended : LogDirectory.appendTo (s.target config.stem config.maxFileBytes line.1) line.1.payload line.2
        entry = { entry with mtimeNs := line.2, content := entry.content ++ line.1.payload } := by
      rw [LogDirectory.appendTo, if_pos (hname.trans hsame)]
    refine ⟨_, List.mem_map.mpr ⟨entry, hentry, happended⟩, hname, hregular, ?_⟩
    rw [file.bytes_add, ← hcontent]
  · rw [hkeep] at hopen
    cases hopen

/-- A file stays held when the next line leaves it in the directory. -/
theorem Held.concat (h : Held config start lines file) (line : LogLine × Int) {file' : CreatedFile}
    (hname : file'.name = file.name)
    (hwritten : file.In (config.stream start lines).directory →
      file'.In ((config.stream start lines).writeLine config.stem config.maxFileBytes line.1 line.2).directory) :
    Held config start (lines ++ [line]) file' := by
  obtain ⟨before, first, hprefix, hopen, hnumber, hin⟩ := h
  have hlonger : before ++ [first] <+: lines ++ [line] := hprefix.trans (List.prefix_append ..)
  refine ⟨before, first, hlonger, hopen, hname.trans hnumber, ?_⟩
  rw [config.stream_concat]
  rcases hin with hin | ⟨later, hbehind, hlater, hremoved⟩
  · rcases (hwritten hin).rotated with hkept | hremoved
    · exact Or.inl hkept
    · refine Or.inr ⟨lines ++ [line], hlonger, List.prefix_refl _, ?_⟩
      rw [config.stream_concat]
      exact hremoved
  · exact Or.inr ⟨later, hbehind, hlater.trans (List.prefix_append ..), hname ▸ hremoved⟩

theorem held_opened (line : LogLine × Int)
    (hopen : (config.stream start lines).opensNext config.maxFileBytes line.1 = true) :
    Held config start (lines ++ [line]) (Recorded.opened config (config.stream start lines) line.1) := by
  refine ⟨lines, line, List.prefix_refl _, hopen, rfl, ?_⟩
  rcases (in_writeLine_open (config.stream start lines) hopen).rotated with hkept | hremoved
  · rw [config.stream_concat]
    exact Or.inl hkept
  · refine Or.inr ⟨lines ++ [line], List.prefix_refl _, List.prefix_refl _, ?_⟩
    rw [config.stream_concat]
    exact hremoved

/-- Every file of the record is held. -/
theorem held_run (config : LogStreamConfig) (start : LogDirectory) (lines : List (LogLine × Int)) :
    ∀ file ∈ (config.record start lines).files, Held config start lines file := by
  induction lines using List.reverseRecOn with
  | nil => exact fun file hfile => absurd hfile List.not_mem_nil
  | append_singleton lines line ih =>
      have hrecorded := Recorded.run config start lines
      have hstream := config.record_stream start lines
      rw [config.record_concat]
      generalize config.record start lines = r at ih hrecorded hstream
      cases hopen : r.stream.opensNext config.maxFileBytes line.1 with
      | true =>
          have hnew := hrecorded.opened_new line.1
          rw [(Recorded.recordStep_opened hopen).2, hstream, List.forall_mem_append, List.forall_mem_singleton]
          rw [hstream] at hopen hnew
          refine ⟨fun file hfile => (ih file hfile).concat line rfl fun hin => hin.writeLine_other fun hsame => ?_,
            held_opened line hopen⟩
          rw [LogStream.target, if_pos hopen] at hsame
          exact hnew (List.mem_map.mpr ⟨file, hfile, hsame⟩)
      | false =>
          obtain ⟨file, hcurrent, htarget⟩ := hrecorded.keep_current hopen
          obtain ⟨hfiles, -, hfiles'⟩ := Recorded.recordStep_kept hcurrent hopen
          have honce := hrecorded.once
          rw [hfiles, List.map_append, List.nodup_append] at honce
          rw [hfiles, List.forall_mem_append, List.forall_mem_singleton] at ih
          rw [hfiles', List.forall_mem_append, List.forall_mem_singleton]
          rw [hstream] at hopen htarget
          refine ⟨fun other hclosed => (ih.1 other hclosed).concat line rfl fun hin => hin.writeLine_other ?_,
            ih.2.concat line rfl fun hin => hin.writeLine_same hopen htarget⟩
          rw [← htarget]
          exact honce.2.2 other.name (List.mem_map_of_mem hclosed) file.name List.mem_cons_self

end Directory

theorem stream_mirror (config : LogStreamConfig) (directory : LogDirectory) (lines : List (LogLine × Int)) :
    (config.stream directory lines).mirror = lines.map Prod.fst := by
  induction lines using List.reverseRecOn with
  | nil => rfl
  | append_singleton lines line ih =>
      rw [config.stream_concat, List.map_append, List.map_singleton, ← ih]
      exact LogStream.writeLine_mirror _ config.stem config.maxFileBytes line.1 line.2

/-- A stream loses nothing while it writes: the mirror and the created files, in the order of their
creation, hold the lines of the input; and every created file is in the directory with its bytes until a rotation
removes it. -/
structure LosslessStream (config : LogStreamConfig) (directory : LogDirectory) (lines : List (LogLine × Int))
    (files : List CreatedFile) : Prop where
  mirror : (config.stream directory lines).mirror = lines.map Prod.fst
  whole : files.flatMap CreatedFile.lines = lines.map Prod.fst
  bytes : files.flatMap CreatedFile.bytes = (lines.map Prod.fst).flatMap LogLine.payload
  created : ∀ file ∈ files, ∃ number, FirstFree config.stem file number
  once : (files.map CreatedFile.name).Nodup
  bounded : ∀ file ∈ files, file.bytes.length ≤ config.maxFileBytes ∨ ∃ line, file.lines = [line]
  entries : ∀ entry ∈ (config.stream directory lines).directory.entries, Accounted directory files entry
  held : ∀ file ∈ files, Held config directory lines file

/-- For every input, every directory and all limits; the record is one of the stream itself. -/
theorem stream_lossless (config : LogStreamConfig) (directory : LogDirectory)
    (lines : List (LogLine × Int)) :
    (config.record directory lines).stream = config.stream directory lines ∧
      LosslessStream config directory lines (config.record directory lines).files := by
  have hstream := config.record_stream directory lines
  have hrecorded := Recorded.run config directory lines
  have hlines : (config.record directory lines).files.flatMap CreatedFile.lines = lines.map Prod.fst := by
    rw [← hrecorded.mirror, hstream, stream_mirror]
  refine ⟨hstream, ?_⟩
  constructor
  case mirror => exact stream_mirror config directory lines
  case whole => exact hlines
  case bytes =>
    rw [← hlines, List.flatMap_assoc]
    rfl
  case created =>
    intro file hfile
    obtain ⟨number, hfound, -⟩ := hrecorded.found file hfile
    exact ⟨number, hfound⟩
  case once => exact hrecorded.once
  case bounded => exact hrecorded.bounded
  case entries =>
    intro entry hentry
    rw [← hstream] at hentry
    exact hrecorded.entries entry hentry
  case held => exact held_run config directory lines

end OnboardAutonomy
