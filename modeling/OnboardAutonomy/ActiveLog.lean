import OnboardAutonomy.LogRotation
import Mathlib.Data.List.Perm.Subperm

/-! The file a stream writes to. Rotation does not know it: it is kept as the newest of the telemetry files,
and among files of the same time it may stand behind others. It stays in the directory exactly as long as
there is room for it behind these. -/

namespace OnboardAutonomy

/-! ### The names of a stream -/

theorem threeDigits_injective {m n : Nat} (h : threeDigits m = threeDigits n) : m = n := by
  have hvalue : ∀ n, Nat.ofDigitChars 10 (threeDigits n) 0 = n := by
    intro n
    rw [threeDigits, Nat.ofDigitChars_append, Nat.ofDigitChars_replicate_zero, Nat.mul_zero,
      Nat.ofDigitChars_ten_toDigits]
  calc m = Nat.ofDigitChars 10 (threeDigits m) 0 := (hvalue m).symm
    _ = Nat.ofDigitChars 10 (threeDigits n) 0 := by rw [h]
    _ = n := hvalue n

theorem logFileName_injective (stem : String) : Function.Injective (logFileName stem) := by
  intro m n h
  have hchars := congrArg String.toList h
  simp only [logFileName, String.toList_append] at hchars
  have hsuffix := List.append_cancel_left (List.append_cancel_right hchars)
  by_cases hm : m = 0 <;> by_cases hn : n = 0 <;>
    simp only [hm, hn, if_true, if_false, String.toList_append, String.toList_ofList] at hsuffix
  · rw [hm, hn]
  · exact absurd hsuffix (by simp)
  · exact absurd hsuffix (by simp)
  · exact threeDigits_injective (List.append_cancel_left hsuffix)

/-- A name is passed over only where an entry has it. -/
theorem freeSequence_cases (names : List String) (stem : String) (rounds sequence : Nat) :
    logFileName stem (freeSequence names stem rounds sequence) ∉ names ∨
      ((List.range' sequence rounds).map (logFileName stem) ⊆ names ∧
        freeSequence names stem rounds sequence = sequence + rounds) := by
  induction rounds generalizing sequence with
  | zero => exact Or.inr ⟨List.nil_subset _, rfl⟩
  | succ rounds ih =>
      rw [freeSequence]
      split
      · next hused =>
          rcases ih (sequence + 1) with hfree | ⟨hpassed, hlast⟩
          · exact Or.inl hfree
          · refine Or.inr ⟨?_, by omega⟩
            rw [List.range'_succ, List.map_cons]
            exact List.cons_subset.mpr ⟨hused, hpassed⟩
      · next hfree => exact Or.inl hfree

/-- As many rounds as there are names find a free one: otherwise one more name than these would be in use. -/
theorem freeSequence_free (names : List String) (stem : String) (sequence : Nat) :
    logFileName stem (freeSequence names stem names.length sequence) ∉ names := by
  rcases freeSequence_cases names stem names.length sequence with hfree | ⟨hpassed, hlast⟩
  · exact hfree
  · intro hused
    have hall : (List.range' sequence (names.length + 1)).map (logFileName stem) ⊆ names := by
      rw [List.range'_concat, List.map_append, Nat.one_mul]
      apply List.append_subset.mpr
      refine ⟨hpassed, ?_⟩
      rw [List.map_singleton, ← hlast]
      exact List.cons_subset.mpr ⟨hused, List.nil_subset _⟩
    have hnodup : ((List.range' sequence (names.length + 1)).map (logFileName stem)).Nodup :=
      List.Nodup.map (logFileName_injective stem) List.nodup_range'
    have hlength := (List.subperm_of_subset hnodup hall).length_le
    rw [List.length_map, List.length_range'] at hlength
    omega

theorem isTelemetryLog_logFileName (rest : String) (sequence : Nat) :
    isTelemetryLog (logFileName ("telemetry-" ++ rest) sequence) = true := by
  rw [isTelemetryLog, logFileName]
  simp only [String.toList_append, List.append_assoc, List.drop_left]
  rw [Bool.and_eq_true]
  refine ⟨List.isPrefixOf_iff_prefix.mpr (List.prefix_append _ _), ?_⟩
  apply List.isSuffixOf_iff_suffix.mpr
  rw [← List.append_assoc]
  exact List.suffix_append _ _

/-! ### One rotation -/

instance : Std.Total NewerFirst where
  total a b := by
    unfold NewerFirst
    rcases lt_trichotomy a.mtimeNs b.mtimeNs with h | h | h
    · exact Or.inr (Or.inl h)
    · rcases le_total a.name b.name with hname | hname
      · exact Or.inr (Or.inr ⟨h, hname⟩)
      · exact Or.inl (Or.inr ⟨h.symm, hname⟩)
    · exact Or.inl (Or.inl h)

instance : IsTrans LogEntry NewerFirst where
  trans a b c hab hbc := by
    unfold NewerFirst at *
    rcases hab with hab | ⟨hab, habName⟩ <;> rcases hbc with hbc | ⟨hbc, hbcName⟩
    · exact Or.inl (hbc.trans hab)
    · exact Or.inl (hbc ▸ hab)
    · exact Or.inl (hab ▸ hbc)
    · exact Or.inr ⟨hbc.trans hab, hbcName.trans habName⟩

namespace LogDirectory

/-- The telemetry files that rotation puts before a name of the same time. -/
def tiedAhead (directory : LogDirectory) (name : String) (time : Int) : List LogEntry :=
  directory.telemetryFiles.filter fun other => other.mtimeNs = time ∧ name < other.name

theorem candidates_perm (directory : LogDirectory) : directory.candidates.Perm directory.telemetryFiles :=
  List.perm_insertionSort NewerFirst _

theorem telemetryFiles_unique (directory : LogDirectory) :
    (directory.telemetryFiles.map LogEntry.name).Nodup :=
  directory.unique.sublist (List.filter_sublist.map LogEntry.name)

theorem eq_of_name (directory : LogDirectory) {a b : LogEntry} (ha : a ∈ directory.telemetryFiles)
    (hb : b ∈ directory.telemetryFiles) (hname : a.name = b.name) : a = b :=
  List.inj_on_of_nodup_map directory.telemetryFiles_unique ha hb hname

/-- Behind the files that are tied with it and ahead the newest entry comes next. -/
theorem candidates_split (directory : LogDirectory) {entry : LogEntry}
    (hentry : entry ∈ directory.telemetryFiles)
    (hnewest : ∀ other ∈ directory.telemetryFiles, other.mtimeNs ≤ entry.mtimeNs) :
    ∃ before after,
      directory.candidates = before ++ entry :: after ∧
        before.Perm (directory.tiedAhead entry.name entry.mtimeNs) := by
  have hperm := directory.candidates_perm
  obtain ⟨before, after, hsplit⟩ := List.append_of_mem (hperm.mem_iff.mpr hentry)
  refine ⟨before, after, hsplit, ?_⟩
  have hsorted : directory.candidates.Pairwise NewerFirst := List.pairwise_insertionSort NewerFirst _
  have hnodup : directory.candidates.Nodup :=
    hperm.nodup_iff.mpr (List.Nodup.of_map LogEntry.name directory.telemetryFiles_unique)
  rw [hsplit, List.pairwise_append] at hsorted
  rw [hsplit] at hnodup
  have hmem : ∀ other ∈ before ++ entry :: after, other ∈ directory.telemetryFiles := by
    intro other hother
    rw [← hsplit] at hother
    exact hperm.mem_iff.mp hother
  have hbefore : ∀ other ∈ before, other.mtimeNs = entry.mtimeNs ∧ entry.name < other.name := by
    intro other hother
    have hother' := hmem other (List.mem_append_left _ hother)
    rcases hsorted.2.2 other hother entry List.mem_cons_self with hnewer | ⟨htied, hname⟩
    · exact absurd (hnewest other hother') (not_le.mpr hnewer)
    · refine ⟨htied.symm, lt_of_le_of_ne hname ?_⟩
      intro hsame
      have heq := directory.eq_of_name hentry hother' hsame
      exact List.disjoint_of_nodup_append hnodup (heq ▸ hother) List.mem_cons_self
  have hafter : ∀ other ∈ entry :: after, ¬(other.mtimeNs = entry.mtimeNs ∧ entry.name < other.name) := by
    intro other hother ⟨htied, hname⟩
    rcases List.mem_cons.mp hother with rfl | hother
    · exact lt_irrefl _ hname
    · rcases List.rel_of_pairwise_cons hsorted.2.1 hother with holder | ⟨-, hsorts⟩
      · omega
      · exact not_le.mpr hname hsorts
  have hfilter := hperm.filter fun other =>
    decide (other.mtimeNs = entry.mtimeNs ∧ entry.name < other.name)
  rw [hsplit, List.filter_append,
    List.filter_eq_self.mpr fun other hother => decide_eq_true (hbefore other hother),
    List.filter_eq_nil_iff.mpr fun other hother => by simpa using hafter other hother,
    List.append_nil] at hfilter
  exact hfilter

end LogDirectory

section Rotation

variable (limits : Retention.Limits) (directory : LogDirectory)

theorem rotate_telemetryFiles_eq :
    (rotateJsonlLogs limits directory).1.telemetryFiles =
      directory.telemetryFiles.filter
        fun entry => entry.name ∉ (rotateJsonlLogs limits directory).2.removed := by
  rw [LogDirectory.telemetryFiles, LogDirectory.telemetryFiles, List.filter_comm]
  rfl

/-- After a rotation the telemetry files are the ones it kept. -/
theorem rotate_telemetryFiles :
    (rotateJsonlLogs limits directory).1.telemetryFiles.Perm
      (Retention.select LogEntry.size limits directory.candidates).kept := by
  have hperm := (Retention.select_perm LogEntry.size limits directory.candidates).trans
    directory.candidates_perm
  have hnodup := (hperm.map LogEntry.name).nodup_iff.mpr directory.telemetryFiles_unique
  rw [List.map_append] at hnodup
  rw [rotate_telemetryFiles_eq]
  refine (hperm.filter _).symm.trans ?_
  rw [List.filter_append, List.filter_eq_self.mpr, List.filter_eq_nil_iff.mpr, List.append_nil]
  · intro entry hentry
    simpa [rotateJsonlLogs] using ⟨entry, hentry, rfl⟩
  · intro entry hentry
    apply decide_eq_true
    intro hremoved
    exact List.disjoint_of_nodup_append hnodup (List.mem_map_of_mem hentry) hremoved

theorem rotate_fits :
    Retention.Fits LogEntry.size limits (rotateJsonlLogs limits directory).1.telemetryFiles :=
  (Retention.fits_select LogEntry.size limits directory.candidates).perm LogEntry.size limits
    (rotate_telemetryFiles limits directory)

theorem rotate_sublist :
    (rotateJsonlLogs limits directory).1.telemetryFiles.Sublist directory.telemetryFiles := by
  rw [rotate_telemetryFiles_eq]
  exact List.filter_sublist

theorem mem_result_kept (name : String) :
    name ∈ (rotateJsonlLogs limits directory).2.kept ↔
      name ∈ (rotateJsonlLogs limits directory).1.telemetryFiles.map LogEntry.name :=
  ((rotate_telemetryFiles limits directory).map LogEntry.name).mem_iff.symm

/-- The newest entry is kept exactly if there is room for it behind the files that are tied with it. -/
theorem newest_kept_iff {entry : LogEntry} (hentry : entry ∈ directory.telemetryFiles)
    (hnewest : ∀ other ∈ directory.telemetryFiles, other.mtimeNs ≤ entry.mtimeNs)
    (hfits : Retention.Fits LogEntry.size limits (directory.tiedAhead entry.name entry.mtimeNs)) :
    entry.name ∈ (rotateJsonlLogs limits directory).2.kept ↔
      Retention.Room LogEntry.size limits (directory.tiedAhead entry.name entry.mtimeNs) entry.size := by
  obtain ⟨before, after, hsplit, hperm⟩ := directory.candidates_split hentry hnewest
  have hnodup : (before ++ entry :: after).Nodup := by
    rw [← hsplit]
    exact directory.candidates_perm.nodup_iff.mpr
      (List.Nodup.of_map LogEntry.name directory.telemetryFiles_unique)
  rw [← Retention.Room.perm LogEntry.size limits hperm,
    ← Retention.mem_kept_iff LogEntry.size limits hnodup (hfits.perm LogEntry.size limits hperm), ← hsplit]
  apply Iff.intro
  · intro hkept
    obtain ⟨other, hother, hname⟩ := List.mem_map.mp hkept
    have hfile := (rotate_sublist limits directory).subset
      ((rotate_telemetryFiles limits directory).mem_iff.mpr hother)
    exact directory.eq_of_name hfile hentry hname ▸ hother
  · exact List.mem_map_of_mem

end Rotation

/-! ### Writing a line -/

namespace LogDirectory

/-- The telemetry files of other names. -/
def others (directory : LogDirectory) (name : String) : List LogEntry :=
  directory.telemetryFiles.filter fun entry => entry.name ≠ name

theorem others_sublist (directory : LogDirectory) (name : String) :
    (directory.others name).Sublist directory.telemetryFiles := List.filter_sublist

/-- Of the files with other names. -/
theorem tiedAhead_eq (directory : LogDirectory) (name : String) (time : Int) :
    directory.tiedAhead name time =
      (directory.others name).filter fun other => other.mtimeNs = time ∧ name < other.name := by
  rw [tiedAhead, others, List.filter_filter]
  apply List.filter_congr
  intro other _
  by_cases hname : name < other.name
  · simp [hname, hname.ne']
  · simp [hname]

theorem tiedAhead_sublist (directory : LogDirectory) (name : String) (time : Int) :
    (directory.tiedAhead name time).Sublist (directory.others name) := by
  rw [tiedAhead_eq]
  exact List.filter_sublist

theorem create_telemetryFiles {directory : LogDirectory} {name : String} (hname : isTelemetryLog name = true)
    (hfresh : name ∉ directory.names) (time : Int) :
    (directory.create name time).telemetryFiles =
      { name := name, regular := true, mtimeNs := time, content := [] } :: directory.telemetryFiles := by
  have hcreate : directory.create name time =
      { entries := { name := name, regular := true, mtimeNs := time, content := [] } :: directory.entries
        unique := List.nodup_cons.mpr ⟨hfresh, directory.unique⟩ } := dif_neg hfresh
  rw [telemetryFiles, hcreate]
  exact List.filter_cons_of_pos (by simp [hname])

theorem create_others {directory : LogDirectory} {name : String} (hname : isTelemetryLog name = true)
    (hfresh : name ∉ directory.names) (time : Int) :
    (directory.create name time).others name = directory.others name := by
  rw [others, create_telemetryFiles hname hfresh, List.filter_cons_of_neg (by simp)]
  rfl

theorem tiedAhead_congr {a b : LogDirectory} {name : String} (h : a.others name = b.others name) (time : Int) :
    a.tiedAhead name time = b.tiedAhead name time := by rw [tiedAhead_eq, h, ← tiedAhead_eq]

variable (directory : LogDirectory) (name : String) (payload : List UInt8) (time : Int)

theorem appendTo_of_ne {entry : LogEntry} (h : entry.name ≠ name) :
    appendTo name payload time entry = entry := by rw [appendTo, if_neg h]

theorem write_telemetryFiles :
    (directory.write name payload time).telemetryFiles =
      directory.telemetryFiles.map (appendTo name payload time) := by
  have hsame : ∀ entry : LogEntry,
      (isTelemetryLog (appendTo name payload time entry).name &&
        (appendTo name payload time entry).regular) = (isTelemetryLog entry.name && entry.regular) := by
    intro entry
    rw [appendTo]
    split <;> rfl
  rw [telemetryFiles, telemetryFiles, write, List.filter_map]
  exact congrArg _ (List.filter_congr fun entry _ => hsame entry)

theorem write_others : (directory.write name payload time).others name = directory.others name := by
  rw [others, others, write_telemetryFiles, List.filter_map]
  have hfilter : directory.telemetryFiles.filter
        ((fun entry => decide (entry.name ≠ name)) ∘ appendTo name payload time) =
      directory.telemetryFiles.filter fun entry => decide (entry.name ≠ name) := by
    apply List.filter_congr
    intro entry _
    rw [Function.comp_apply, appendTo_name]
  rw [hfilter]
  calc _ = (directory.telemetryFiles.filter fun entry => decide (entry.name ≠ name)).map id := by
        apply List.map_congr_left
        intro entry hentry
        exact appendTo_of_ne name payload time (of_decide_eq_true (List.mem_filter.mp hentry).2)
    _ = _ := List.map_id _

theorem create_notNewer {now : Int} (htime : time ≤ now)
    (hold : ∀ entry ∈ directory.telemetryFiles, entry.mtimeNs ≤ now) :
    ∀ entry ∈ (directory.create name time).telemetryFiles, entry.mtimeNs ≤ now := by
  intro entry hentry
  obtain ⟨hmem, htelemetry⟩ := List.mem_filter.mp hentry
  rw [create] at hmem
  split at hmem
  · exact hold entry (List.mem_filter.mpr ⟨hmem, htelemetry⟩)
  · rcases List.mem_cons.mp hmem with rfl | hmem
    · exact htime
    · exact hold entry (List.mem_filter.mpr ⟨hmem, htelemetry⟩)

theorem write_notNewer {now : Int} (htime : time ≤ now)
    (hold : ∀ entry ∈ directory.telemetryFiles, entry.mtimeNs ≤ now) :
    ∀ entry ∈ (directory.write name payload time).telemetryFiles, entry.mtimeNs ≤ now := by
  intro entry hentry
  rw [write_telemetryFiles] at hentry
  obtain ⟨before, hbefore, rfl⟩ := List.mem_map.mp hentry
  rw [appendTo]
  split
  · exact htime
  · exact hold before hbefore

/-- Every file of a name has a size. -/
def Sized (size : Nat) : Prop := ∀ entry ∈ directory.telemetryFiles, entry.name = name → entry.size = size

theorem create_sized {directory : LogDirectory} {name : String} (hfresh : name ∉ directory.names) :
    (directory.create name time).Sized name 0 := by
  intro entry hentry hname
  have hcreate : (directory.create name time).entries =
      { name := name, regular := true, mtimeNs := time, content := [] } :: directory.entries :=
    congrArg entries (dif_neg hfresh)
  have hmem := (List.mem_filter.mp hentry).1
  rw [hcreate] at hmem
  rcases List.mem_cons.mp hmem with rfl | hmem
  · rfl
  · exact absurd (hname ▸ List.mem_map_of_mem hmem) hfresh

theorem write_sized {size : Nat} (h : directory.Sized name size) :
    (directory.write name payload time).Sized name (size + payload.length) := by
  intro entry hentry hname
  rw [write_telemetryFiles] at hentry
  obtain ⟨before, hbefore, rfl⟩ := List.mem_map.mp hentry
  rw [appendTo_name] at hname
  rw [appendTo, if_pos hname, ← h before hbefore hname]
  exact List.length_append

end LogDirectory

/-! ### A line and the rotation behind it -/

namespace LogStream

/-- The file the stream has open is in the directory, and the last rotation kept it. -/
def Linked (s : LogStream) : Prop := ∀ name ∈ s.activeFile, name ∈ s.result.kept ∧ name ∈ s.directory.names

/-- The file that a line goes into. -/
def target (s : LogStream) (stem : String) (maxFileBytes : Nat) (line : LogLine) : String :=
  if s.opensNext maxFileBytes line then logFileName stem (s.nextSequence stem) else s.activeFile.getD ""

/-- What that file holds before the line. -/
def targetSize (s : LogStream) (maxFileBytes : Nat) (line : LogLine) : Nat :=
  if s.opensNext maxFileBytes line then 0 else s.activeSize

/-- What holds after a rotation. -/
structure Rotated (s : LogStream) (limits : Retention.Limits) (now : Int) : Prop where
  fits : Retention.Fits LogEntry.size limits s.directory.telemetryFiles
  notNewer : ∀ entry ∈ s.directory.telemetryFiles, entry.mtimeNs ≤ now
  kept : ∀ name ∈ s.result.kept, name ∈ s.directory.telemetryFiles.map LogEntry.name
  sized : ∀ name ∈ s.activeFile, s.directory.Sized name s.activeSize

/-- What holds once a line has been written, before the rotation. -/
structure Written (s : LogStream) (limits : Retention.Limits) (entry : LogEntry) : Prop where
  active : s.activeFile = some entry.name
  file : entry ∈ s.directory.telemetryFiles
  newest : ∀ other ∈ s.directory.telemetryFiles, other.mtimeNs ≤ entry.mtimeNs
  fits : Retention.Fits LogEntry.size limits (s.directory.others entry.name)

variable {limits : Retention.Limits}

theorem rotated_of_rotation {s : LogStream} {directory : LogDirectory} {now : Int}
    (hnotNewer : ∀ entry ∈ directory.telemetryFiles, entry.mtimeNs ≤ now)
    (hsized : ∀ name ∈ s.activeFile, directory.Sized name s.activeSize)
    (hdirectory : s.directory = (rotateJsonlLogs limits directory).1)
    (hresult : s.result = (rotateJsonlLogs limits directory).2) : s.Rotated limits now := by
  have hsubset := (rotate_sublist limits directory).subset
  refine ⟨?_, ?_, ?_, ?_⟩ <;> rw [hdirectory]
  · exact rotate_fits limits directory
  · intro entry hentry
    exact hnotNewer entry (hsubset hentry)
  · rw [hresult]
    exact fun name => (mem_result_kept limits directory name).mp
  · intro name hname entry hentry
    exact hsized name hname entry (hsubset hentry)

/-- The step of the rotation: the file stays linked exactly if there is room for it. -/
theorem Written.linked_iff {s : LogStream} {entry : LogEntry} (h : s.Written limits entry) :
    (s.rotate limits).Linked ↔
      Retention.Room LogEntry.size limits (s.directory.tiedAhead entry.name entry.mtimeNs) entry.size := by
  have hactive : (s.rotate limits).activeFile = some entry.name := h.active
  rw [← newest_kept_iff limits s.directory h.file h.newest
    (h.fits.sublist LogEntry.size limits (s.directory.tiedAhead_sublist entry.name entry.mtimeNs))]
  apply Iff.intro
  · intro hlinked
    exact (hlinked entry.name hactive).1
  · intro hmem name hname
    rw [hactive, Option.mem_some_iff] at hname
    rw [← hname]
    obtain ⟨file, hfile, hfileName⟩ := List.mem_map.mp ((mem_result_kept limits s.directory _).mp hmem)
    refine ⟨hmem, ?_⟩
    rw [← hfileName]
    exact List.mem_map_of_mem (List.mem_filter.mp hfile).1

/-- A line that goes into a file of the directory. -/
theorem write_written {directory : LogDirectory} {name : String} {payload : List UInt8} {time : Int}
    (hname : name ∈ directory.telemetryFiles.map LogEntry.name)
    (hnotNewer : ∀ entry ∈ directory.telemetryFiles, entry.mtimeNs ≤ time)
    (hfits : Retention.Fits LogEntry.size limits (directory.others name)) {s : LogStream}
    (hdirectory : s.directory = directory.write name payload time) (hactive : s.activeFile = some name) :
    ∃ entry, s.Written limits entry ∧ entry.name = name ∧ entry.mtimeNs = time := by
  obtain ⟨file, hfile, rfl⟩ := List.mem_map.mp hname
  have hwritten : LogDirectory.appendTo file.name payload time file =
      { file with
        mtimeNs := time
        content := file.content ++ payload } := if_pos rfl
  refine ⟨LogDirectory.appendTo file.name payload time file, ⟨?_, ?_, ?_, ?_⟩, ?_, ?_⟩
  · rw [LogDirectory.appendTo_name, hactive]
  · rw [hdirectory, LogDirectory.write_telemetryFiles]
    exact List.mem_map_of_mem hfile
  · rw [hdirectory, hwritten]
    exact directory.write_notNewer file.name payload time (Int.le_refl time) hnotNewer
  · rw [hdirectory, LogDirectory.appendTo_name, LogDirectory.write_others]
    exact hfits
  · exact LogDirectory.appendTo_name file.name payload time file
  · rw [hwritten]

/-- A line goes into the file that is open, or into a new one. -/
theorem writeLine_cases (s : LogStream) (stem : String) (maxFileBytes : Nat) (line : LogLine) (time : Int) :
    (s.opensNext maxFileBytes line = false ∧ s.activeFile = some (s.target stem maxFileBytes line) ∧
      (s.writeLine stem maxFileBytes line time).directory =
        s.directory.write (s.target stem maxFileBytes line) line.payload time) ∨
    (s.opensNext maxFileBytes line = true ∧ s.target stem maxFileBytes line ∉ s.directory.names ∧
      (s.writeLine stem maxFileBytes line time).directory =
        (s.directory.create (s.target stem maxFileBytes line) time).write (s.target stem maxFileBytes line)
          line.payload time) := by
  cases hopen : s.opensNext maxFileBytes line with
  | true =>
      have hfree := freeSequence_free s.directory.names stem s.sequence
      rw [LogDirectory.names, List.length_map] at hfree
      refine Or.inr ⟨rfl, ?_, ?_⟩
      · rw [target, if_pos hopen]
        exact hfree
      · rw [writeLine, target, if_pos hopen, if_pos hopen]
        rfl
  | false =>
      have hclosed : ¬(s.opensNext maxFileBytes line = true) := by rw [hopen]; exact Bool.false_ne_true
      cases hactive : s.activeFile with
      | none => exact absurd (by rw [opensNext, hactive]; rfl) hclosed
      | some name =>
          refine Or.inl ⟨rfl, ?_, ?_⟩
          · rw [target, if_neg hclosed, hactive]
            rfl
          · rw [writeLine, target, if_neg hclosed, if_neg hclosed, hactive]
            rfl

theorem writeLine_active (s : LogStream) (stem : String) (maxFileBytes : Nat) (line : LogLine) (time : Int) :
    (s.writeLine stem maxFileBytes line time).activeFile = some (s.target stem maxFileBytes line) ∧
      (s.writeLine stem maxFileBytes line time).activeSize =
        s.targetSize maxFileBytes line + line.payload.length := by
  by_cases hopen : s.opensNext maxFileBytes line = true
  · rw [writeLine, target, targetSize, if_pos hopen, if_pos hopen, if_pos hopen]
    exact ⟨rfl, rfl⟩
  · rw [writeLine, target, targetSize, if_neg hopen, if_neg hopen, if_neg hopen]
    cases hactive : s.activeFile with
    | none => exact absurd (by rw [opensNext, hactive]; rfl) hopen
    | some name => exact ⟨rfl, rfl⟩

end LogStream

namespace LogStreamConfig

/-- Behind the files of the time of a line that sort before the file it goes into there is room for that
file, with the line. -/
def RoomFor (config : LogStreamConfig) (s : LogStream) (line : LogLine × Int) : Prop :=
  Retention.Room LogEntry.size config.limits
    (s.directory.tiedAhead (s.target config.stem config.maxFileBytes line.1) line.2)
    (s.targetSize config.maxFileBytes line.1 + line.1.payload.length)

variable {config : LogStreamConfig} {s : LogStream} {now : Int}

/-- The size of the file that a line went into. -/
theorem written_sized (hs : s.Rotated config.limits now) (line : LogLine × Int) :
    (s.writeLine config.stem config.maxFileBytes line.1 line.2).directory.Sized
      (s.target config.stem config.maxFileBytes line.1)
      (s.targetSize config.maxFileBytes line.1 + line.1.payload.length) := by
  rcases s.writeLine_cases config.stem config.maxFileBytes line.1 line.2 with
    ⟨hopen, hname, hdirectory⟩ | ⟨hopen, hfree, hdirectory⟩
  · rw [hdirectory, LogStream.targetSize, hopen, if_neg Bool.false_ne_true]
    exact LogDirectory.write_sized _ _ _ _ (hs.sized _ hname)
  · rw [hdirectory, LogStream.targetSize, hopen, if_pos rfl]
    exact LogDirectory.write_sized _ _ _ _ (LogDirectory.create_sized line.2 hfree)

theorem step_rotated (hs : s.Rotated config.limits now) {line : LogLine × Int} (hline : line.2 ≤ now) :
    (config.step s line).Rotated config.limits now := by
  obtain ⟨hactive, hsize⟩ := s.writeLine_active config.stem config.maxFileBytes line.1 line.2
  refine LogStream.rotated_of_rotation ?_ ?_ rfl rfl
  · rcases s.writeLine_cases config.stem config.maxFileBytes line.1 line.2 with
      ⟨-, -, hdirectory⟩ | ⟨-, -, hdirectory⟩
    · rw [hdirectory]
      exact s.directory.write_notNewer _ _ _ hline hs.notNewer
    · rw [hdirectory]
      exact LogDirectory.write_notNewer _ _ _ _ hline
        (LogDirectory.create_notNewer _ _ _ hline hs.notNewer)
  · intro name hname
    obtain rfl : s.target config.stem config.maxFileBytes line.1 = name :=
      Option.some.inj (hactive.symm.trans hname)
    show LogDirectory.Sized _ _ (LogStream.activeSize (s.writeLine ..))
    rw [hsize]
    exact written_sized hs line

/-- A line is written into a file that is linked, or into a new one. -/
theorem line_written {rest : String} (hstem : config.stem = "telemetry-" ++ rest) {line : LogLine × Int}
    (hs : s.Rotated config.limits line.2) (hlinked : s.Linked) :
    ∃ entry, (s.writeLine config.stem config.maxFileBytes line.1 line.2).Written config.limits entry ∧
      entry.name = s.target config.stem config.maxFileBytes line.1 ∧ entry.mtimeNs = line.2 ∧
      (s.writeLine config.stem config.maxFileBytes line.1 line.2).directory.others
          (s.target config.stem config.maxFileBytes line.1) =
        s.directory.others (s.target config.stem config.maxFileBytes line.1) := by
  have hactive := (s.writeLine_active config.stem config.maxFileBytes line.1 line.2).1
  have hfits := hs.fits.sublist LogEntry.size config.limits
    (s.directory.others_sublist (s.target config.stem config.maxFileBytes line.1))
  rcases s.writeLine_cases config.stem config.maxFileBytes line.1 line.2 with
    ⟨-, hname, hdirectory⟩ | ⟨hopen, hfree, hdirectory⟩
  · obtain ⟨entry, hwritten, hentry, htime⟩ := LogStream.write_written
      (hs.kept _ (hlinked _ hname).1) hs.notNewer hfits hdirectory hactive
    refine ⟨entry, hwritten, hentry, htime, ?_⟩
    rw [hdirectory, LogDirectory.write_others]
  · have htelemetry : isTelemetryLog (s.target config.stem config.maxFileBytes line.1) = true := by
      rw [LogStream.target, if_pos hopen, hstem]
      exact isTelemetryLog_logFileName rest _
    have hfiles := LogDirectory.create_telemetryFiles htelemetry hfree line.2
    have hothers := LogDirectory.create_others htelemetry hfree line.2
    obtain ⟨entry, hwritten, hentry, htime⟩ := LogStream.write_written
      (by rw [hfiles]; exact List.mem_cons_self)
      (LogDirectory.create_notNewer _ _ _ (Int.le_refl _) hs.notNewer) (by rw [hothers]; exact hfits)
      hdirectory hactive
    refine ⟨entry, hwritten, hentry, htime, ?_⟩
    rw [hdirectory, LogDirectory.write_others, hothers]

theorem step_linked_iff {rest : String} (hstem : config.stem = "telemetry-" ++ rest)
    {line : LogLine × Int} (hs : s.Rotated config.limits line.2) (hlinked : s.Linked) :
    (config.step s line).Linked ↔ config.RoomFor s line := by
  obtain ⟨entry, hwritten, hname, htime, hothers⟩ := line_written hstem hs hlinked
  have hsize := written_sized hs line entry hwritten.file hname
  rw [step, hwritten.linked_iff, RoomFor, hname, htime, hsize, LogDirectory.tiedAhead_congr hothers]

/-! ### Runs -/

theorem stream_concat (config : LogStreamConfig) (directory : LogDirectory) (lines : List (LogLine × Int))
    (line : LogLine × Int) :
    config.stream directory (lines ++ [line]) = config.step (config.stream directory lines) line := by
  rw [stream, List.foldl_append]
  rfl

theorem stream_rotated {directory : LogDirectory} {lines : List (LogLine × Int)}
    (hold : ∀ entry ∈ directory.telemetryFiles, entry.mtimeNs ≤ now)
    (hlines : ∀ line ∈ lines, line.2 ≤ now) : (config.stream directory lines).Rotated config.limits now := by
  induction lines using List.reverseRecOn with
  | nil =>
      refine LogStream.rotated_of_rotation hold ?_ rfl rfl
      intro name hname
      cases hname
  | append_singleton lines line ih =>
      rw [stream_concat]
      refine step_rotated (ih fun other hother => ?_) (hlines line (List.mem_append_right _ List.mem_cons_self))
      exact hlines other (List.mem_append_left _ hother)

/-- After every line of a stream the file it has open is linked, exactly if with every line there is room for
the file behind the ones of the same time that sort before it. -/
theorem stream_linked_iff (config : LogStreamConfig) {rest : String}
    (hstem : config.stem = "telemetry-" ++ rest) {directory : LogDirectory} {startTime : Int}
    (hold : ∀ entry ∈ directory.telemetryFiles, entry.mtimeNs ≤ startTime) {lines : List (LogLine × Int)}
    (hclock : (startTime :: lines.map Prod.snd).Pairwise (· ≤ ·)) :
    (∀ before, before <+: lines → (config.stream directory before).Linked) ↔
      ∀ before line, before ++ [line] <+: lines → config.RoomFor (config.stream directory before) line := by
  have hstep : ∀ before line, before ++ [line] <+: lines → (config.stream directory before).Linked →
      ((config.stream directory (before ++ [line])).Linked ↔
        config.RoomFor (config.stream directory before) line) := by
    intro before line hinit hlinked
    have htimes := hclock.sublist ((hinit.sublist.map Prod.snd).cons_cons startTime)
    rw [List.map_append, ← List.cons_append, List.pairwise_append] at htimes
    have hline : ∀ time ∈ startTime :: before.map Prod.snd, time ≤ line.2 := by
      intro time htime
      exact htimes.2.2 time htime line.2 List.mem_cons_self
    rw [stream_concat]
    apply step_linked_iff hstem (stream_rotated ?_ ?_) hlinked
    · intro entry hentry
      exact (hold entry hentry).trans (hline startTime List.mem_cons_self)
    · intro other hother
      exact hline other.2 (List.mem_cons_of_mem _ (List.mem_map_of_mem hother))
  apply Iff.intro
  · intro hlinked before line hinit
    have hbefore := hlinked before ((List.prefix_append before [line]).trans hinit)
    exact (hstep before line hinit hbefore).mp (hlinked (before ++ [line]) hinit)
  · intro hroom before hinit
    induction before using List.reverseRecOn with
    | nil =>
        intro name hname
        exact absurd hname (Option.not_mem_none name)
    | append_singleton before line ih =>
        have hbefore := ih ((List.prefix_append before [line]).trans hinit)
        exact (hstep before line hinit hbefore).mpr (hroom before line hinit)

end LogStreamConfig

/-! ### Two lines of the same time

The second file of a stream sorts before the first one: `-` is less than `.`. -/

def tiedStem : LogStreamConfig where
  stem := "telemetry-test"
  limits := { maxCount := 1, maxTotal := 100, count_pos := Nat.le_refl 1 }
  maxFileBytes := 5
  bytes_pos := by decide

def emptyLogs : LogDirectory := { entries := [], unique := List.nodup_nil }

/-- `one`, and the end of the line. -/
def tiedLine : LogLine := { payload := [111, 110, 101, 10], nonempty := List.cons_ne_nil _ _ }

def tiedLines : List (LogLine × Int) := [(tiedLine, 0), (tiedLine, 0)]

theorem tiedLines_unlinked :
    logStreamConfig "telemetry-test" 1 100 5 = .ok tiedStem ∧
      ((0 : Int) :: tiedLines.map Prod.snd).Pairwise (· ≤ ·) ∧
      (tiedStem.stream emptyLogs tiedLines).activeFile = some "telemetry-test-001.jsonl" ∧
      "telemetry-test-001.jsonl" ∉ (tiedStem.stream emptyLogs tiedLines).directory.names ∧
      ¬(tiedStem.stream emptyLogs tiedLines).Linked := by
  have hactive : (tiedStem.stream emptyLogs tiedLines).activeFile = some "telemetry-test-001.jsonl" := by
    decide +kernel
  refine ⟨rfl, by decide, hactive, by decide +kernel, ?_⟩
  intro hlinked
  exact absurd (hlinked "telemetry-test-001.jsonl" hactive).1 (by decide +kernel)

theorem tiedLines_linked_iff :
    (∀ before, before <+: tiedLines → (tiedStem.stream emptyLogs before).Linked) ↔
      ∀ before line, before ++ [line] <+: tiedLines →
        tiedStem.RoomFor (tiedStem.stream emptyLogs before) line :=
  @LogStreamConfig.stream_linked_iff tiedStem "test" rfl emptyLogs 0 (by decide) tiedLines (by decide)

end OnboardAutonomy
