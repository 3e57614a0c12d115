import OnboardAutonomy.ActiveLog

/-! One rotation of the log directory: what it keeps, what it leaves alone, and when the files that it keeps
are the newest ones. The scan goes on behind a file that does not fit, so an older and smaller file may be
kept where a newer one is removed. -/

namespace OnboardAutonomy

theorem NewerFirst.name_eq {a b : LogEntry} (hab : NewerFirst a b) (hba : NewerFirst b a) :
    a.name = b.name := by
  rcases hab with hab | ⟨hab, hname⟩ <;> rcases hba with hba | ⟨hba, hname'⟩
  · omega
  · omega
  · omega
  · exact le_antisymm hname' hname

namespace LogDirectory

variable (directory : LogDirectory)

theorem candidates_sorted : directory.candidates.Pairwise NewerFirst := List.pairwise_insertionSort NewerFirst _

theorem candidates_unique : (directory.candidates.map LogEntry.name).Nodup :=
  (directory.candidates_perm.map LogEntry.name).nodup_iff.mpr directory.telemetryFiles_unique

/-- The newest telemetry file comes first. -/
theorem candidates_head {newest : LogEntry} (hnewest : newest ∈ directory.telemetryFiles)
    (hall : ∀ other ∈ directory.telemetryFiles, NewerFirst newest other) :
    ∃ rest, directory.candidates = newest :: rest := by
  have hperm := directory.candidates_perm
  have hmem := hperm.mem_iff.mpr hnewest
  have hsorted := directory.candidates_sorted
  cases hcandidates : directory.candidates with
  | nil =>
      rw [hcandidates] at hmem
      exact absurd hmem List.not_mem_nil
  | cons first rest =>
      rw [hcandidates] at hmem hsorted
      have hfirst : first ∈ directory.telemetryFiles := by
        rw [← hperm.mem_iff, hcandidates]
        exact List.mem_cons_self
      rcases List.mem_cons.mp hmem with rfl | hlater
      · exact ⟨rest, rfl⟩
      · have hname := (hall first hfirst).name_eq (List.rel_of_pairwise_cons hsorted hlater)
        rw [directory.eq_of_name hnewest hfirst hname]
        exact ⟨rest, rfl⟩

/-- Telemetry files in the order of the candidates are told apart by their order alone. -/
theorem eq_of_sorted {files files' : List LogEntry} (hperm : files.Perm files')
    (hmem : ∀ file ∈ files, file ∈ directory.telemetryFiles) (hsorted : files.Pairwise NewerFirst)
    (hsorted' : files'.Pairwise NewerFirst) : files = files' := by
  refine List.Perm.eq_of_pairwise ?_ hsorted hsorted' hperm
  intro a b ha hb hab hba
  exact directory.eq_of_name (hmem a ha) (hmem b (hperm.mem_iff.mpr hb)) (hab.name_eq hba)

theorem unlink_nil : directory.unlink [] = directory := by
  have hentries : (directory.entries.filter fun entry => decide (entry.name ∉ ([] : List String))) =
      directory.entries := List.filter_eq_self.mpr fun entry _ => decide_eq_true List.not_mem_nil
  cases directory
  simp only [unlink, LogDirectory.mk.injEq]
  exact hentries

end LogDirectory

theorem prefix_of_map_prefix {α β : Type} {f : α → β} {as bs : List α}
    (hinjective : ∀ a ∈ as, ∀ b ∈ bs, f a = f b → a = b) (h : as.map f <+: bs.map f) : as <+: bs := by
  induction as generalizing bs with
  | nil => exact List.nil_prefix
  | cons a as ih =>
      cases bs with
      | nil => simp at h
      | cons b bs =>
          rw [List.map_cons, List.map_cons, List.cons_prefix_cons] at h
          obtain rfl := hinjective a List.mem_cons_self b List.mem_cons_self h.1
          rw [List.cons_prefix_cons]
          refine ⟨rfl, ih (fun c hc d hd => ?_) h.2⟩
          exact hinjective c (List.mem_cons_of_mem _ hc) d (List.mem_cons_of_mem _ hd)

section Rotation

variable (limits : Retention.Limits) (directory : LogDirectory)

/-- The files that a rotation keeps, newest first. -/
def keptFiles : List LogEntry := (Retention.select LogEntry.size limits directory.candidates).kept

theorem keptFiles_mem {file : LogEntry} (h : file ∈ keptFiles limits directory) :
    file ∈ directory.telemetryFiles :=
  directory.candidates_perm.mem_iff.mp
    ((Retention.select_kept_sublist LogEntry.size limits directory.candidates).subset h)

/-- The next scan meets the kept files in the same order. -/
theorem rotate_candidates :
    (rotateJsonlLogs limits directory).1.candidates = keptFiles limits directory := by
  have hperm := (rotateJsonlLogs limits directory).1.candidates_perm.trans
    (rotate_telemetryFiles limits directory)
  refine (directory.eq_of_sorted hperm.symm (fun file hfile => keptFiles_mem limits directory hfile) ?_
    (rotateJsonlLogs limits directory).1.candidates_sorted).symm
  exact directory.candidates_sorted.sublist (Retention.select_kept_sublist LogEntry.size limits _)

/-- A second rotation finds nothing to remove. -/
theorem rotate_again :
    rotateJsonlLogs limits (rotateJsonlLogs limits directory).1 =
      ((rotateJsonlLogs limits directory).1,
        { (rotateJsonlLogs limits directory).2 with removed := [] }) := by
  have hfits := Retention.fits_select LogEntry.size limits directory.candidates
  have hkept := Retention.select_of_fits LogEntry.size limits hfits
  have hremoved : (Retention.select LogEntry.size limits (keptFiles limits directory)).removed = [] := by
    have hperm := Retention.select_perm LogEntry.size limits (keptFiles limits directory)
    rw [keptFiles, hkept] at hperm
    have hlength := hperm.length_eq
    rw [List.length_append] at hlength
    exact List.eq_nil_of_length_eq_zero (by rw [keptFiles]; omega)
  have htotal := Retention.select_total LogEntry.size limits (keptFiles limits directory)
  rw [keptFiles, hkept, ← Retention.select_total] at htotal
  have hagain : rotateJsonlLogs limits (rotateJsonlLogs limits directory).1 =
      ((rotateJsonlLogs limits directory).1.unlink [],
        { kept := (keptFiles limits directory).map LogEntry.name
          removed := []
          retainedBytes := (rotateJsonlLogs limits directory).2.retainedBytes }) := by
    rw [rotateJsonlLogs, rotate_candidates, hremoved, keptFiles, hkept, htotal]
    rfl
  rw [hagain, LogDirectory.unlink_nil]
  rfl

/-- What a rotation keeps to. The newest file is the one that the order of times and names puts first. -/
structure RotationBounded (after : LogDirectory) (result : RotationResult) : Prop where
  partition : (result.kept ++ result.removed).Perm (directory.telemetryFiles.map LogEntry.name)
  once : (result.kept ++ result.removed).Nodup
  remaining : (after.telemetryFiles.map LogEntry.name).Perm result.kept
  count : result.kept.length ≤ limits.maxCount
  newest : ∀ newest ∈ directory.telemetryFiles,
    (∀ other ∈ directory.telemetryFiles, NewerFirst newest other) → newest.name ∈ result.kept
  total : result.retainedBytes = Retention.totalSize LogEntry.size after.telemetryFiles
  bounded : ∀ newest ∈ directory.telemetryFiles,
    (∀ other ∈ directory.telemetryFiles, NewerFirst newest other) →
    result.retainedBytes ≤ max limits.maxTotal newest.size
  empty : directory.telemetryFiles = [] → result.retainedBytes = 0
  frame : after.entries = directory.entries.filter fun entry => entry.name ∉ result.removed
  untouched : ∀ entry ∈ directory.entries, entry ∉ directory.telemetryFiles → entry ∈ after.entries
  again : rotateJsonlLogs limits after = (after, { result with removed := [] })

/-- The kept files start with the newest one. -/
theorem keptFiles_head {newest : LogEntry} (hnewest : newest ∈ directory.telemetryFiles)
    (hall : ∀ other ∈ directory.telemetryFiles, NewerFirst newest other) :
    ∃ rest, keptFiles limits directory = newest :: rest := by
  obtain ⟨rest, hcandidates⟩ := directory.candidates_head hnewest hall
  rw [keptFiles, hcandidates]
  exact Retention.select_kept_head LogEntry.size limits newest rest

theorem retainedBytes_eq : (rotateJsonlLogs limits directory).2.retainedBytes =
    Retention.totalSize LogEntry.size (keptFiles limits directory) :=
  Retention.select_total LogEntry.size limits directory.candidates

/-- Kept and removed together are the telemetry files. -/
theorem rotate_partition : ((rotateJsonlLogs limits directory).2.kept ++
    (rotateJsonlLogs limits directory).2.removed).Perm (directory.telemetryFiles.map LogEntry.name) := by
  have hperm := (Retention.select_perm LogEntry.size limits directory.candidates).trans
    directory.candidates_perm
  rw [rotateJsonlLogs, ← List.map_append]
  exact hperm.map LogEntry.name

theorem rotate_once : ((rotateJsonlLogs limits directory).2.kept ++
    (rotateJsonlLogs limits directory).2.removed).Nodup :=
  (rotate_partition limits directory).nodup_iff.mpr directory.telemetryFiles_unique

/-- Rotation stays within its limits and touches nothing but the files that it removes. -/
theorem rotation_bounded : RotationBounded limits directory (rotateJsonlLogs limits directory).1
    (rotateJsonlLogs limits directory).2 := by
  have hnames := rotate_partition limits directory
  have hfits := Retention.fits_select LogEntry.size limits directory.candidates
  constructor
  case partition => exact hnames
  case once => exact rotate_once limits directory
  case remaining => exact (rotate_telemetryFiles limits directory).map LogEntry.name
  case count =>
    rw [rotateJsonlLogs, List.length_map]
    exact hfits.1
  case newest =>
    intro newest hnewest hall
    obtain ⟨rest, hkept⟩ := keptFiles_head limits directory hnewest hall
    rw [show (rotateJsonlLogs limits directory).2.kept =
      (keptFiles limits directory).map LogEntry.name from rfl, hkept]
    exact List.mem_cons_self
  case total =>
    rw [retainedBytes_eq, Retention.totalSize_perm LogEntry.size (rotate_telemetryFiles limits directory)]
    rfl
  case bounded =>
    intro newest hnewest hall
    obtain ⟨rest, hkept⟩ := keptFiles_head limits directory hnewest hall
    rw [retainedBytes_eq]
    rcases hfits.2 with htotal | hlength
    · exact htotal.trans (le_max_left _ _)
    · change (keptFiles limits directory).length ≤ 1 at hlength
      rw [hkept] at hlength ⊢
      rw [List.length_cons] at hlength
      rw [List.eq_nil_of_length_eq_zero (by omega : rest.length = 0), Retention.totalSize_singleton]
      exact le_max_right _ _
  case empty =>
    intro hempty
    rw [hempty, List.map_nil] at hnames
    have hkept : keptFiles limits directory = [] :=
      List.map_eq_nil_iff.mp (List.append_eq_nil_iff.mp hnames.eq_nil).1
    rw [retainedBytes_eq, hkept]
    rfl
  case frame => rfl
  case untouched =>
    intro entry hentry hother
    refine List.mem_filter.mpr ⟨hentry, decide_eq_true fun hremoved => hother ?_⟩
    have hfile := hnames.mem_iff.mp (List.mem_append_right _ hremoved)
    obtain ⟨file, hmem, hname⟩ := List.mem_map.mp hfile
    have hsame : file = entry := List.inj_on_of_nodup_map directory.unique (List.mem_filter.mp hmem).1 hentry hname
    rwa [← hsame]
  case again => exact rotate_again limits directory

/-! ### The order of removal -/

/-- The files kept are the first ones of the candidates, and no file removed is newer than one kept. -/
structure OldestFirst : Prop where
  initial : (rotateJsonlLogs limits directory).2.kept <+: directory.candidates.map LogEntry.name
  older : ∀ file ∈ directory.telemetryFiles, ∀ file' ∈ directory.telemetryFiles,
    file.name ∈ (rotateJsonlLogs limits directory).2.removed →
    file'.name ∈ (rotateJsonlLogs limits directory).2.kept → file.mtimeNs < file'.mtimeNs

/-- Names tell the candidates apart, so it does not matter whether files or names are compared. -/
theorem initial_iff : (rotateJsonlLogs limits directory).2.kept <+: directory.candidates.map LogEntry.name ↔
    keptFiles limits directory <+: directory.candidates := by
  refine ⟨fun hnames => ?_, fun hfiles => hfiles.map LogEntry.name⟩
  have hsublist := Retention.select_kept_sublist LogEntry.size limits directory.candidates
  have hinjective := List.inj_on_of_nodup_map directory.candidates_unique
  exact prefix_of_map_prefix (fun a ha b hb => hinjective (hsublist.subset ha) hb) hnames

theorem oldestFirst_iff_initial (hdistinct : (directory.telemetryFiles.map LogEntry.mtimeNs).Nodup) :
    OldestFirst limits directory ↔ keptFiles limits directory <+: directory.candidates := by
  refine ⟨fun h => (initial_iff limits directory).mp h.initial, fun hinit => ?_⟩
  refine ⟨(initial_iff limits directory).mpr hinit, fun file hfile file' hfile' hremoved hkept => ?_⟩
  have honce := rotate_once limits directory
  have hmem' : file' ∈ keptFiles limits directory := by
    obtain ⟨other, hother, hname⟩ := List.mem_map.mp hkept
    rwa [← directory.eq_of_name (keptFiles_mem limits directory hother) hfile' hname]
  have hmem : file ∉ keptFiles limits directory := fun hmem =>
    List.disjoint_of_nodup_append honce (List.mem_map_of_mem hmem) hremoved
  obtain ⟨later, hlater⟩ := hinit
  have hfileLater : file ∈ later := by
    have hcandidate := directory.candidates_perm.mem_iff.mpr hfile
    rw [← hlater] at hcandidate
    exact (List.mem_append.mp hcandidate).resolve_left hmem
  have hsorted := directory.candidates_sorted
  rw [← hlater, List.pairwise_append] at hsorted
  rcases hsorted.2.2 file' hmem' file hfileLater with hnewer | ⟨htied, -⟩
  · exact hnewer
  · have hsame := List.inj_on_of_nodup_map hdistinct hfile hfile' htied
    exact absurd (hsame ▸ hmem') hmem

/-- The first candidate that does not fit behind the ones before it, if there is one, is followed only by
candidates that do not fit behind those either. -/
def NothingFitsLater : Prop :=
  ∀ before file after, directory.candidates = before ++ file :: after →
    Retention.Fits LogEntry.size limits before → ¬Retention.Room LogEntry.size limits before file.size →
    ∀ older ∈ after, ¬Retention.Room LogEntry.size limits before older.size

/-- Rotation removes the oldest files exactly if nothing older fits where a newer file does not. -/
theorem oldestFirst_iff (hdistinct : (directory.telemetryFiles.map LogEntry.mtimeNs).Nodup) :
    OldestFirst limits directory ↔ NothingFitsLater limits directory := by
  rw [oldestFirst_iff_initial limits directory hdistinct, keptFiles, NothingFitsLater]
  exact Retention.select_kept_front_iff LogEntry.size limits directory.candidates

end Rotation

/-- Three files of 2, 3 and 1 bytes, the newest first. -/
def gapLogs : LogDirectory where
  entries :=
    [{ name := "telemetry-3.jsonl", regular := true, mtimeNs := 3, content := [1, 1] },
      { name := "telemetry-2.jsonl", regular := true, mtimeNs := 2, content := [1, 1, 1] },
      { name := "telemetry-1.jsonl", regular := true, mtimeNs := 1, content := [1] }]
  unique := by decide

def gapLimits : Retention.Limits := { maxCount := 10, maxTotal := 3, count_pos := by decide }

/-- The file in the middle is removed, the oldest one stays. -/
theorem gapLogs_gap : ¬∀ (limits : Retention.Limits) (directory : LogDirectory),
    (directory.telemetryFiles.map LogEntry.mtimeNs).Nodup → OldestFirst limits directory := by
  intro hall
  have hgap := (hall gapLimits gapLogs (by decide +kernel)).initial
  exact absurd hgap (by decide +kernel)

theorem gapLogs_iff : OldestFirst gapLimits gapLogs ↔ NothingFitsLater gapLimits gapLogs :=
  oldestFirst_iff gapLimits gapLogs (by decide +kernel)

end OnboardAutonomy
