import OnboardAutonomy.RpicamCapture
import OnboardAutonomy.Scanning

/-! Which lines `parse_rpicam_frame_wall_clock_ns` reads right. It searches for the key, behind it for a colon
and behind that for digits, and takes no notice of what it passes over. A line may give the key a value in the
way of a JSON object; the two are compared here. -/

namespace OnboardAutonomy

open Scanning

/-! ### The value of the key -/

def isBlank (character : Char) : Bool :=
  character = ' ' || character = '\t' || character = '\r' || character = '\n'

/-- A token ends at a blank, a comma or a bracket, and at the end of the line. -/
def endsToken (character : Char) : Bool :=
  isBlank character || character = ',' || character = '}' || character = ']'

theorem isBlank_scanned {character : Char} (h : isBlank character = true) :
    (character != ':') = true ∧ character.isDigit = false := by
  simp only [isBlank, Bool.or_eq_true, decide_eq_true_eq] at h
  rcases h with ((rfl | rfl) | rfl) | rfl <;> decide

theorem endsToken_isDigit {character : Char} (h : endsToken character = true) : character.isDigit = false := by
  simp only [endsToken, Bool.or_eq_true, decide_eq_true_eq] at h
  rcases h with ((h | rfl) | rfl) | rfl
  · exact (isBlank_scanned h).2
  all_goals decide

/-- What stands behind the key: its value is a decimal integer. -/
structure GivesValue (text gap lead digits rest : List Char) : Prop where
  joined : text = gap ++ ':' :: (lead ++ (digits ++ rest))
  gap_blank : gap.all isBlank = true
  lead_blank : lead.all isBlank = true
  digits_ne : digits ≠ []
  all_digits : digits.all Char.isDigit = true
  rest_ends : rest.head?.all endsToken = true

/-- A line that gives the key a value in the range of the timestamps. -/
def HasValue (line : List Char) (value : Nat) : Prop :=
  ∃ before gap lead digits rest text, line = before ++ (kFrameWallClockKey ++ text) ∧
    GivesValue text gap lead digits rest ∧ value = decimalValue digits ∧ value < 2 ^ 63

/-! ### The searches -/

/-- What the searches find: what stands between the key and the colon, between the colon and the digits, the
digits, and the rest of the line. -/
structure Found where
  gap : List Char
  lead : List Char
  digits : List Char
  rest : List Char
  deriving DecidableEq

namespace Found

def value (f : Found) : Nat := decimalValue f.digits

/-- The line behind the key. -/
def text (f : Found) : List Char := f.gap ++ ':' :: (f.lead ++ (f.digits ++ f.rest))

/-- The line behind the head of the key, where the key may come again. -/
def behind (f : Found) : List Char := (kFrameWallClockKey ++ f.text).tail

/-- The digits are the value of the key. -/
def Direct (f : Found) : Prop := GivesValue f.text f.gap f.lead f.digits f.rest

end Found

def searchWallClock (line : List Char) : Option Found := do
  let afterKey ← afterFirst kFrameWallClockKey line
  match afterKey.dropWhile (· != ':') with
  | [] => none
  | _ :: afterColon =>
      let digits := (afterColon.dropWhile (!·.isDigit)).takeWhile Char.isDigit
      if digits.isEmpty then none
      else
        some
          { gap := afterKey.takeWhile (· != ':')
            lead := afterColon.takeWhile (!·.isDigit)
            digits := digits
            rest := (afterColon.dropWhile (!·.isDigit)).dropWhile Char.isDigit }

theorem fromCharsUnsigned_digits (size : Nat) {digits : List Char} (h : digits.all Char.isDigit = true) :
    fromCharsUnsigned size digits =
      if digits.isEmpty || decide (size ≤ decimalValue digits) then none
      else some (decimalValue digits, []) := by
  rw [fromCharsUnsigned, List.takeWhile_eq_self_iff.mpr (List.all_eq_true.mp h),
    List.dropWhile_eq_nil_iff.mpr (List.all_eq_true.mp h)]

/-- The parser takes the digits that its searches find, unless their value is out of range. -/
theorem parse_eq (line : List Char) : parseRpicamFrameWallClockNs line =
    (searchWallClock line).bind fun f => if f.value < 2 ^ 63 then some (f.value : Int) else none := by
  rw [parseRpicamFrameWallClockNs, searchWallClock]
  cases afterFirst kFrameWallClockKey line with
  | none => rfl
  | some afterKey =>
      simp only [Option.bind_eq_bind, Option.bind_some]
      cases afterKey.dropWhile (· != ':') with
      | nil => rfl
      | cons colon afterColon =>
          have hdigits := List.all_takeWhile (p := Char.isDigit)
            (l := afterColon.dropWhile (!·.isDigit))
          simp only [fromCharsUnsigned_digits _ hdigits]
          generalize (afterColon.dropWhile (!·.isDigit)).takeWhile Char.isDigit = digits
          generalize 2 ^ 63 = size
          cases hempty : digits.isEmpty with
          | true => rfl
          | false =>
              by_cases hrange : size ≤ decimalValue digits
              · have hvalue : ¬decimalValue digits < size := by omega
                simp [Found.value, hrange, hvalue]
              · have hvalue : decimalValue digits < size := by omega
                simp [Found.value, hrange, hvalue]

/-! ### What the searches tell of the line -/

theorem afterFirst_first {key line rest : List Char} (h : afterFirst key line = some rest) :
    ∃ before, FirstOccurrence key line before rest := by
  induction line with
  | nil =>
      rw [afterFirst] at h
      split at h
      · next hkey =>
          cases h
          rw [List.isEmpty_iff.mp hkey]
          exact ⟨[], .here rfl⟩
      · cases h
  | cons character line ih =>
      rw [afterFirst] at h
      split at h
      · next hkey =>
          cases h
          have hjoined := List.prefix_iff_eq_append.mp (List.isPrefixOf_iff_prefix.mp hkey)
          exact ⟨[], .here hjoined⟩
      · next hkey =>
          obtain ⟨before, hfirst⟩ := ih h
          refine ⟨character :: before, .cons (fun rest' hjoined => hkey ?_) hfirst⟩
          exact List.isPrefixOf_iff_prefix.mpr ⟨rest', hjoined⟩

theorem afterFirst_isSome {key line before rest : List Char} (h : before ++ (key ++ rest) = line) :
    ∃ rest', afterFirst key line = some rest' := by
  induction before generalizing line with
  | nil =>
      rw [← h]
      cases key with
      | nil => cases rest <;> exact ⟨_, rfl⟩
      | cons character key =>
          refine ⟨rest, ?_⟩
          have hprefix : (character :: key).isPrefixOf (character :: (key ++ rest)) = true :=
            List.isPrefixOf_iff_prefix.mpr ⟨rest, rfl⟩
          rw [List.nil_append, List.cons_append, afterFirst, if_pos hprefix]
          exact congrArg some List.drop_left
  | cons character before ih =>
      rw [← h, List.cons_append, afterFirst]
      split
      · exact ⟨_, rfl⟩
      · exact ih rfl

/-- The first key, the first colon behind it, and the first run of digits behind that. -/
structure Searched (line : List Char) (f : Found) : Prop where
  key : ∃ before, FirstOccurrence kFrameWallClockKey line before f.text
  gap : Run (· != ':') f.text f.gap (':' :: (f.lead ++ (f.digits ++ f.rest)))
  lead : Run (!·.isDigit) (f.lead ++ (f.digits ++ f.rest)) f.lead (f.digits ++ f.rest)
  digits : Run Char.isDigit (f.digits ++ f.rest) f.digits f.rest
  digits_ne : f.digits ≠ []

theorem searchWallClock_searched {line : List Char} {f : Found} (h : searchWallClock line = some f) :
    Searched line f := by
  rw [searchWallClock] at h
  cases hafter : afterFirst kFrameWallClockKey line with
  | none =>
      rw [hafter] at h
      cases h
  | some afterKey =>
      rw [hafter] at h
      simp only [Option.bind_eq_bind, Option.bind_some] at h
      have hgap := Run.scan (· != ':') afterKey
      generalize hcolon : afterKey.dropWhile (· != ':') = behind at h hgap
      cases behind with
      | nil => cases h
      | cons colon afterColon =>
          have hcolon' : colon = ':' := by simpa using hgap.stop colon rfl
          dsimp only at h
          split at h
          · cases h
          · next hdigits =>
              have hlead := Run.scan (!·.isDigit) afterColon
              have hrun := Run.scan Char.isDigit (afterColon.dropWhile (!·.isDigit))
              cases h
              subst hcolon'
              obtain ⟨before, hfirst⟩ := afterFirst_first hafter
              refine ⟨⟨before, ?_⟩, ⟨rfl, hgap.all, ?_⟩, ⟨rfl, hlead.all, ?_⟩, ⟨rfl, hrun.all, hrun.stop⟩, ?_⟩
              · rw [Found.text, hrun.joined, hlead.joined, hgap.joined]
                exact hfirst
              · rintro _ ⟨⟩
                rfl
              · dsimp only
                rw [hrun.joined]
                exact hlead.stop
              · exact fun hnil => hdigits (List.isEmpty_iff.mpr hnil)

namespace Searched

variable {line : List Char} {f : Found}

/-- A value that stands behind the first key is what was found. -/
theorem direct (h : Searched line f) {gap lead digits rest : List Char}
    (hvalue : GivesValue f.text gap lead digits rest) : f.Direct ∧ digits = f.digits := by
  have hgap : Run (· != ':') f.text gap (':' :: (lead ++ (digits ++ rest))) := by
    refine ⟨hvalue.joined.symm, fun character hmem => ?_, ?_⟩
    · exact (isBlank_scanned (List.all_eq_true.mp hvalue.gap_blank character hmem)).1
    · rintro _ ⟨⟩
      rfl
  have hlead : Run (!·.isDigit) (lead ++ (digits ++ rest)) lead (digits ++ rest) := by
    refine ⟨rfl, fun character hmem => ?_, fun character hhead => ?_⟩
    · rw [(isBlank_scanned (List.all_eq_true.mp hvalue.lead_blank character hmem)).2]
      rfl
    · rw [List.head?_append_of_ne_nil _ hvalue.digits_ne] at hhead
      rw [List.all_eq_true.mp hvalue.all_digits character (List.mem_of_mem_head? hhead)]
      rfl
  have hdigits : Run Char.isDigit (digits ++ rest) digits rest := by
    refine ⟨rfl, List.all_eq_true.mp hvalue.all_digits, fun character hhead => ?_⟩
    have hends := hvalue.rest_ends
    rw [Option.mem_def.mp hhead] at hends
    exact endsToken_isDigit hends
  obtain ⟨rfl, hbehind⟩ := h.gap.unique hgap
  rw [← (List.cons.inj hbehind).2] at hlead
  obtain ⟨rfl, hfound⟩ := h.lead.unique hlead
  rw [← hfound] at hdigits
  obtain ⟨rfl, rfl⟩ := h.digits.unique hdigits
  exact ⟨hvalue, rfl⟩

/-- A value of the key is what was found behind the first one, or a later one has it. -/
theorem direct_or_behind (h : Searched line f) {value : Nat} (hvalue : HasValue line value) :
    f.Direct ∧ value = f.value ∨ HasValue f.behind value := by
  obtain ⟨before, gap, lead, digits, rest, text, hline, hgives, hvalue, hrange⟩ := hvalue
  obtain ⟨first, hfirst⟩ := h.key
  rcases hfirst.other hline.symm with rfl | ⟨between, hbehind⟩
  · obtain ⟨hdirect, hdigits⟩ := h.direct hgives
    left
    exact ⟨hdirect, by rw [hvalue, hdigits, Found.value]⟩
  · right
    exact ⟨between, gap, lead, digits, rest, text, hbehind.symm, hgives, hvalue, hrange⟩

theorem hasValue_of_direct (h : Searched line f) (hdirect : f.Direct) (hrange : f.value < 2 ^ 63) :
    HasValue line f.value := by
  obtain ⟨before, hfirst⟩ := h.key
  exact ⟨before, _, _, _, _, _, hfirst.joined.symm, hdirect, rfl, hrange⟩

theorem hasValue_of_behind (h : Searched line f) {value : Nat} (hvalue : HasValue f.behind value) :
    HasValue line value := by
  obtain ⟨between, gap, lead, digits, rest, text, hbehind, hgives, hvalue, hrange⟩ := hvalue
  obtain ⟨before, hfirst⟩ := h.key
  refine ⟨before ++ '"' :: between, gap, lead, digits, rest, text, ?_, hgives, hvalue, hrange⟩
  rw [List.append_assoc, List.cons_append, ← hbehind]
  exact hfirst.joined.symm

end Searched

/-- Without a result of the searches there is no value. -/
theorem not_hasValue {line : List Char} (h : searchWallClock line = none) (value : Nat) :
    ¬HasValue line value := by
  rintro ⟨before, gap, lead, digits, rest, text, hline, hgives, -, -⟩
  obtain ⟨afterKey, hafter⟩ := afterFirst_isSome hline.symm
  obtain ⟨first, hfirst⟩ := afterFirst_first hafter
  obtain ⟨between, hbetween⟩ := hfirst.suffix hline.symm
  rw [searchWallClock, hafter] at h
  simp only [Option.bind_eq_bind, Option.bind_some] at h
  have hcolon : ':' ∈ afterKey := by
    rw [← hbetween, hgives.joined]
    exact List.mem_append_right _ (List.mem_append_right _ List.mem_cons_self)
  have hgap := Run.scan (· != ':') afterKey
  generalize afterKey.dropWhile (· != ':') = behind at h hgap
  cases behind with
  | nil =>
      rw [← hgap.joined, List.append_nil] at hcolon
      exact absurd (hgap.all ':' hcolon) (by decide)
  | cons colon afterColon =>
      have hcolon' : colon = ':' := by simpa using hgap.stop colon rfl
      subst hcolon'
      have hother : (between ++ gap) ++ ([':'] ++ (lead ++ (digits ++ rest))) = afterKey := by
        rw [List.append_assoc, ← hbetween, hgives.joined]
        rfl
      obtain ⟨digit, hdigit⟩ := List.exists_mem_of_ne_nil digits hgives.digits_ne
      have hmem : digit ∈ afterColon :=
        (hgap.firstOccurrence.suffix hother).subset
          (List.mem_append_right _ (List.mem_append_left _ hdigit))
      have hisDigit := List.all_eq_true.mp hgives.all_digits digit hdigit
      have hlead := Run.scan (!·.isDigit) afterColon
      dsimp only at h
      generalize afterColon.dropWhile (!·.isDigit) = found at h hlead
      cases found with
      | nil =>
          rw [← hlead.joined, List.append_nil] at hmem
          simpa [hisDigit] using hlead.all digit hmem
      | cons first found =>
          have hfirst : first.isDigit = true := by simpa using hlead.stop first rfl
          rw [List.takeWhile_cons_of_pos hfirst] at h
          cases h

/-! ### Lines that are read right -/

/-- The line is one that the searches are right for. They find nothing, or digits in range which the key has
for its value where it comes first or again, and which are not another value of it, or digits out of range
while the key has no value where it comes again. -/
def ReadRight (line : List Char) : Prop :=
  ∀ f, searchWallClock line = some f →
    if f.value < 2 ^ 63 then
      (f.Direct ∨ HasValue f.behind f.value) ∧ ∀ value, HasValue f.behind value → value = f.value
    else ∀ value, ¬HasValue f.behind value

/-- The parser returns the values of the key, and nothing else, on a line. -/
def Attributed (line : List Char) : Prop :=
  ∀ timestamp : Int, parseRpicamFrameWallClockNs line = some timestamp ↔
    ∃ value : Nat, timestamp = value ∧ HasValue line value

theorem readRight_of_attributed {line : List Char} (h : Attributed line) : ReadRight line := by
  intro f hf
  have hsearched := searchWallClock_searched hf
  have hparsed := parse_eq line
  rw [hf, Option.bind_some] at hparsed
  split
  · next hrange =>
      rw [if_pos hrange] at hparsed
      constructor
      · obtain ⟨value, heq, hvalue⟩ := (h f.value).mp hparsed
        rw [← Int.ofNat_inj.mp heq] at hvalue
        rcases hsearched.direct_or_behind hvalue with ⟨hdirect, -⟩ | hbehind
        · exact Or.inl hdirect
        · exact Or.inr hbehind
      · intro value hvalue
        have hother := (h value).mpr ⟨value, rfl, hsearched.hasValue_of_behind hvalue⟩
        exact Int.ofNat_inj.mp (Option.some.inj (hother.symm.trans hparsed))
  · next hrange =>
      rw [if_neg hrange] at hparsed
      intro value hvalue
      have hother := (h value).mpr ⟨value, rfl, hsearched.hasValue_of_behind hvalue⟩
      rw [hparsed] at hother
      cases hother

theorem attributed_of_readRight {line : List Char} (h : ReadRight line) : Attributed line := by
  intro timestamp
  rw [parse_eq]
  cases hf : searchWallClock line with
  | none =>
      refine ⟨fun hnone => absurd hnone.symm (Option.some_ne_none _), ?_⟩
      rintro ⟨value, -, hvalue⟩
      exact absurd hvalue (not_hasValue hf value)
  | some f =>
      have hsearched := searchWallClock_searched hf
      have hright := h f hf
      rw [Option.bind_some]
      split at hright
      · next hrange =>
          obtain ⟨hgiven, hbehind⟩ := hright
          rw [if_pos hrange]
          constructor
          · intro hsome
            refine ⟨f.value, (Option.some.inj hsome).symm, ?_⟩
            rcases hgiven with hdirect | hbehind
            · exact hsearched.hasValue_of_direct hdirect hrange
            · exact hsearched.hasValue_of_behind hbehind
          · rintro ⟨value, rfl, hvalue⟩
            rcases hsearched.direct_or_behind hvalue with ⟨-, rfl⟩ | hlater
            · rfl
            · rw [hbehind value hlater]
      · next hrange =>
          rw [if_neg hrange]
          refine ⟨fun hnone => absurd hnone.symm (Option.some_ne_none _), ?_⟩
          rintro ⟨value, -, hvalue⟩
          rcases hsearched.direct_or_behind hvalue with ⟨-, rfl⟩ | hlater
          · obtain ⟨_, _, _, _, _, _, _, _, -, hinrange⟩ := hvalue
            exact absurd hinrange hrange
          · exact absurd hlater (hright value)

/-- A line is read as the value that it gives the key just when the searches are right for it. -/
theorem attributed_iff (line : List Char) : Attributed line ↔ ReadRight line :=
  ⟨readRight_of_attributed, attributed_of_readRight⟩

/-- The key is null, and the number is another key's. -/
def nullLine : List Char := "\"FrameWallClock\": null, \"X\": 5".toList

theorem nullLine_searched : searchWallClock nullLine =
    some { gap := [], lead := " null, \"X\": ".toList, digits := ['5'], rest := [] } := by decide

theorem not_hasValue_nullLine (value : Nat) : ¬HasValue nullLine value := by
  intro hvalue
  rcases (searchWallClock_searched nullLine_searched).direct_or_behind hvalue with ⟨hdirect, -⟩ | hbehind
  · exact absurd hdirect.lead_blank (by decide)
  · obtain ⟨between, _, _, _, _, text, hline, -⟩ := hbehind
    obtain ⟨_, hafter⟩ := afterFirst_isSome hline.symm
    have hnone : afterFirst kFrameWallClockKey
        (Found.behind ⟨[], " null, \"X\": ".toList, ['5'], []⟩) = none := by decide
    rw [hnone] at hafter
    cases hafter

/-- The number of another key is taken for the value. -/
theorem nullLine_misattributed : parseRpicamFrameWallClockNs nullLine = some 5 ∧ ¬HasValue nullLine 5 ∧
    ¬∀ line, Attributed line := by
  have hparsed : parseRpicamFrameWallClockNs nullLine = some 5 := by
    rw [parse_eq, nullLine_searched]
    rfl
  refine ⟨hparsed, not_hasValue_nullLine 5, fun h => ?_⟩
  obtain ⟨value, -, hvalue⟩ := (h nullLine 5).mp hparsed
  exact not_hasValue_nullLine value hvalue

end OnboardAutonomy
