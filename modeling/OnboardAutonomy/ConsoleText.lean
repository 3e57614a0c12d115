import OnboardAutonomy.ConsoleLayout
import OnboardAutonomy.ControlCharacters

/-! The program's own words on the screen. All of them, the numbers included, are printable ASCII; nothing
else on the screen is but what it is given. -/

namespace OnboardAutonomy.ConsoleView

open ControlCharacters

theorem Plain.harmless {text : Bytes} (h : Plain text) : ∀ byte ∈ text, Harmless byte := fun byte hbyte =>
  ⟨Or.inl (h byte hbyte).1, (h byte hbyte).2⟩

theorem Plain.printable {text : Bytes} (h : Plain text) : printable text = text := by
  calc ConsoleView.printable text = text.map id := by
        apply List.map_congr_left
        intro byte hbyte
        exact if_pos (h.drawable byte hbyte)
    _ = text := List.map_id text

@[simp] theorem literal_append (before after : String) :
    literal (before ++ after) = literal before ++ literal after := by
  simp only [literal, String.toUTF8_eq_toByteArray, String.toByteArray_append, ByteArray.data_append,
    Array.toList_append]

theorem plain_joined {before after : String} (hbefore : Plain (literal before))
    (hafter : Plain (literal after)) : Plain (literal (before ++ after)) := by
  rw [literal_append, plain_append]
  exact ⟨hbefore, hafter⟩

theorem literal_ofList (characters : List Char) :
    literal (String.ofList characters) = characters.flatMap String.utf8EncodeChar := by
  simp only [literal, String.toUTF8_eq_toByteArray, String.toByteArray_ofList, List.utf8Encode,
    List.data_toByteArray, List.toList_toArray]

/-! ### Numbers -/

@[simp] theorem plain_nat (n : Nat) : Plain (literal (toString n)) := by
  have hrepr : toString n = String.ofList (Nat.toDigits 10 n) := Nat.repr_eq_ofList_toDigits
  rw [hrepr, literal_ofList]
  intro byte hbyte
  obtain ⟨character, hcharacter, hbyte⟩ := List.mem_flatMap.mp hbyte
  have hdigit : 48 ≤ character.toNat ∧ character.toNat ≤ 57 :=
    Char.isDigit_iff_toNat.mp (Nat.isDigit_of_mem_toDigits (by decide) (by decide) hcharacter)
  rcases utf8EncodeChar_cases character with ⟨-, hsingle⟩ | ⟨hhigh, -, -⟩
  · rw [hsingle, List.mem_singleton] at hbyte
    have hvalue : byte.toNat = character.toNat := by
      rw [hbyte, UInt8.toNat_ofNat']
      omega
    rw [UInt8.le_iff_toNat_le, UInt8.lt_iff_toNat_lt, hvalue]
    show 32 ≤ character.toNat ∧ character.toNat < 127
    omega
  · omega

@[simp] theorem plain_int (n : Int) : Plain (literal (toString n)) := by
  cases n with
  | ofNat n => exact plain_nat n
  | negSucc n =>
      have hrepr : toString (Int.negSucc n) = "-" ++ toString (n + 1) := rfl
      rw [hrepr]
      exact plain_joined (by decide) (plain_nat (n + 1))

/-- The digits of a number down to its point. -/
theorem plain_toPoint (q : ℚ) (whole : Nat) :
    Plain (literal ((if q < 0 then "-" else "") ++ toString whole ++ ".")) := by
  refine plain_joined (plain_joined ?_ (plain_nat whole)) (by decide)
  split <;> decide

@[simp] theorem plain_fixedTenths (value : Binary64) : Plain (literal value.fixedTenths) := by
  cases value with
  | finite q => exact plain_joined (plain_toPoint q _) (plain_nat _)
  | posInf => decide
  | negInf => decide
  | nan => decide

@[simp] theorem plain_fixedHundredths (value : Binary64) : Plain (literal value.fixedHundredths) := by
  cases value with
  | finite q => exact plain_joined (plain_joined (plain_toPoint q _) (plain_nat _)) (plain_nat _)
  | posInf => decide
  | negInf => decide
  | nan => decide

theorem plain_optional {β : Type} {value : Option β} {text : β → String} (h : ∀ x, Plain (literal (text x))) :
    Plain (literal (optionalText value text)) := by
  cases value with
  | none => exact nofun
  | some x => exact h x

/-! ### The texts -/

theorem gpsFixName_plain (fixType : Option UInt8) : Plain (literal (gpsFixName fixType)) := by
  cases fixType with
  | none => decide
  | some fixType =>
      simp only [gpsFixName]
      split <;> decide

theorem flightModeName_plain (mode : Option UInt32) : Plain (literal (flightModeName mode)) := by
  cases mode with
  | none => decide
  | some mode =>
      have hmode : Plain (literal "MODE ") := by decide
      simp only [flightModeName]
      split
      all_goals first | decide | exact plain_joined hmode (plain_nat _)

theorem autopilotName_plain (type : Option UInt8) : Plain (literal (autopilotName type)) := by
  cases type with
  | none => decide
  | some type =>
      simp only [autopilotName]
      split
      · decide
      · exact plain_joined (by decide) (plain_nat _)

theorem firmwareReleaseName_plain (releaseType : UInt8) :
    Plain (literal (firmwareReleaseName releaseType)) := by
  unfold firmwareReleaseName
  split
  · decide
  split
  · decide
  split
  · decide
  split <;> decide

theorem firmwareDetail_plain (vehicle : VehicleSnapshot) : Plain (literal (firmwareDetail vehicle)) := by
  unfold firmwareDetail
  split
  · decide
  split
  · decide
  · simp only [literal_append, plain_append, plain_nat, firmwareReleaseName_plain, and_true]
    decide

theorem telemetryDetail_plain (telemetry : TelemetryStatus) : Plain (literal (telemetryDetail telemetry)) := by
  cases hstate : telemetry.state with
  | waitingForVehicle =>
      simp only [telemetryDetail, hstate]
      decide
  | configuring =>
      simp only [telemetryDetail, hstate, literal_append, plain_append, plain_nat, and_true, true_and]
      decide
  | active =>
      simp only [telemetryDetail, hstate, literal_append, plain_append, plain_nat, and_true]
      decide
  | failed =>
      simp only [telemetryDetail, hstate, literal_append, plain_append, plain_nat, and_true, true_and]
      decide

theorem altitudeDetail_plain (vehicle : VehicleSnapshot) : Plain (literal (altitudeDetail vehicle)) := by
  unfold altitudeDetail
  split
  · decide
  · exact plain_joined (plain_fixedHundredths _) (by decide)

theorem gpsDetail_plain (vehicle : VehicleSnapshot) : Plain (literal (gpsDetail vehicle)) := by
  refine plain_joined (gpsFixName_plain _) (plain_optional fun satellites => ?_)
  simp only [literal_append, plain_append, plain_nat, and_true]
  decide

theorem batteryDetail_plain (vehicle : VehicleSnapshot) : Plain (literal (batteryDetail vehicle)) := by
  have hvoltage : ∀ voltage : Binary64, Plain (literal (voltage.fixedHundredths ++ " V")) := fun voltage =>
    plain_joined (plain_fixedHundredths voltage) (by decide)
  have hpercent : ∀ percent : Int8, Plain (literal (toString percent.toInt ++ "%")) := fun percent =>
    plain_joined (plain_int _) (by decide)
  unfold batteryDetail
  cases vehicle.batteryVoltageV with
  | none =>
      cases vehicle.batteryRemainingPct with
      | none => decide
      | some percent => exact hpercent percent
  | some voltage =>
      cases vehicle.batteryRemainingPct with
      | none => exact hvoltage voltage
      | some percent => exact plain_joined (plain_joined (hvoltage voltage) (by decide)) (hpercent percent)

theorem boardNumbers_plain (boardVersion : UInt32) (resolver : Option BoardTypeResolver) :
    Plain (literal (boardNumbers boardVersion resolver)) := by
  refine plain_joined ?_ ?_
  · simp only [literal_append, plain_append, plain_nat, and_true]
    decide
  · split
    · split
      · simp only [literal_append, plain_append, plain_nat, and_true]
        decide
      · decide
    · decide

/-- A text that begins with a space still does when more is added. -/
theorem head_joined {before : String} (after : String) (h : (literal before).head? = some space) :
    (literal (before ++ after)).head? = some space := by
  rw [literal_append, List.head?_append, h]
  rfl

theorem boardNumbers_head (boardVersion : UInt32) (resolver : Option BoardTypeResolver) :
    (literal (boardNumbers boardVersion resolver)).head? = some space := by
  unfold boardNumbers
  exact head_joined _ (head_joined _ (head_joined _ (head_joined _ (by decide))))

theorem cameraStreamDetail_plain (camera : ScreenCamera) : Plain (literal (cameraStreamDetail camera)) := by
  refine plain_joined (plain_joined (plain_joined (plain_joined (plain_joined (plain_joined ?_ ?_) ?_) ?_) ?_)
    ?_) ?_
  · unfold cameraPhaseName
    split <;> decide
  · split
    · simp only [literal_append, plain_append, plain_nat, and_true]
      decide
    · decide
  · apply plain_optional
    intro fps
    simp only [literal_append, plain_append, plain_fixedTenths, and_true]
    decide
  · decide
  · exact plain_nat _
  · decide
  · split
    · simp only [literal_append, plain_append, plain_nat, and_true]
      decide
    · decide

/-- The failsafe's line while the policy is accepted. -/
theorem failsafeReady_plain {failsafe : ScreenFailsafe} (h : failsafe.accepted = true) :
    Plain (companionLinkFailsafeDetail failsafe) := by
  rw [companionLinkFailsafeDetail, h]
  refine plain_joined (plain_joined (by decide) (plain_optional fun timeout => ?_))
    (plain_optional fun systemId => ?_)
  · simp only [literal_append, plain_append, plain_fixedTenths, and_true]
    decide
  · exact plain_joined (by decide) (plain_nat _)

/-- The camera's second line when there is no error. -/
theorem cameraLatency_plain {camera : ScreenCamera} (h : camera.error = []) :
    Plain (cameraLatencyDetail camera) := by
  rw [cameraLatencyDetail, h]
  have hpart : ∀ (average : Binary64) (name : String), Plain (literal name) →
      Plain (literal (" / " ++ average.fixedTenths ++ name)) := by
    intro average name hname
    exact plain_joined (plain_joined (by decide) (plain_fixedTenths _)) hname
  split
  · contradiction
  split
  · decide
  · refine plain_joined (plain_joined (plain_joined (plain_joined ?_ ?_) ?_) (by decide)) (plain_nat _)
    · exact plain_joined (plain_joined (by decide) (plain_fixedTenths _)) (by decide)
    · exact plain_optional fun average => hpart average _ (by decide)
    · exact plain_optional fun maximum => hpart maximum _ (by decide)

theorem visionNumbers_plain (vision : ScreenVision) : Plain (literal (visionNumbers vision)) := by
  refine plain_joined (plain_joined (plain_joined (by decide) (plain_nat _)) (by decide))
    (plain_optional fun average => ?_)
  exact plain_joined (plain_joined (by decide) (plain_fixedTenths _)) (by decide)

theorem visionNumbers_head (vision : ScreenVision) : (literal (visionNumbers vision)).head? = some space := by
  unfold visionNumbers
  exact head_joined _ (head_joined _ (head_joined _ (by decide)))

theorem targetNumbers_plain (target : ScreenTarget) (objects : Nat) :
    Plain (literal (targetNumbers target objects)) := by
  refine plain_joined ?_ ?_
  · simp only [literal_append, plain_append, plain_fixedTenths, and_true]
    decide
  · split
    · exact plain_joined (plain_joined (by decide) (plain_nat _)) (by decide)
    · decide

theorem targetNumbers_head (target : ScreenTarget) (objects : Nat) :
    (literal (targetNumbers target objects)).head? = some space := by
  unfold targetNumbers
  apply head_joined
  apply head_joined
  exact head_joined _ (head_joined _ (head_joined _ (head_joined _ (head_joined _ (by decide)))))

theorem overallStatus_plain (snapshot : ScreenSnapshot) : Plain (literal (overallStatus snapshot)) := by
  simp only [overallStatus]
  split
  · decide
  split
  · decide
  split <;> decide

theorem activityAge_plain (activity : ScreenActivity) (elapsed : Int) :
    Plain (literal (activityAge activity elapsed)) := by
  unfold activityAge
  split
  · simp only [literal_append, plain_append, plain_fixedTenths, and_true]
    decide
  · decide

theorem activityAge_head (activity : ScreenActivity) (elapsed : Int) :
    (literal (activityAge activity elapsed)).head? = some space := by
  unfold activityAge
  split
  · exact head_joined _ (head_joined _ (by decide))
  · decide

end OnboardAutonomy.ConsoleView
