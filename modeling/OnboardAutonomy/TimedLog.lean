import Mathlib.Algebra.Order.Group.Defs
import Mathlib.Algebra.Order.Sub.Basic
import Mathlib.Data.List.Nodup

/-! Timed logs. An entry carries a time stamp and an observation; a sample is what some observations
carry. Three notions are developed: the last sample of a log, a cell that remembers it (a stamp next
to a cached value that is allowed to be left over while the stamp is cleared), and a set of keys that
expire when they have not been seen for longer than a limit. Nothing here is about a particular
program. -/

namespace OnboardAutonomy.TimedLog

variable {τ α β γ κ : Type}

/-- The last sample of a log, with the time it was taken. -/
def lastSample (sample : α → Option β) (log : List (τ × α)) : Option (τ × β) :=
  (log.filterMap fun e => (sample e.2).map (Prod.mk e.1)).getLast?

theorem lastSample_concat_some {sample : α → Option β} {a : α} {b : β} (log : List (τ × α)) (t : τ)
    (h : sample a = some b) : lastSample sample (log ++ [(t, a)]) = some (t, b) := by
  simp [lastSample, List.filterMap_append, h]

theorem lastSample_concat_none {sample : α → Option β} {a : α} (log : List (τ × α)) (t : τ)
    (h : sample a = none) : lastSample sample (log ++ [(t, a)]) = lastSample sample log := by
  simp [lastSample, List.filterMap_append, h]

theorem lastSample_singleton_none {sample : α → Option β} {a : α} (t : τ) (h : sample a = none) :
    lastSample sample [(t, a)] = none :=
  lastSample_concat_none [] t h

theorem lastSample_isSome_of_mem {sample : α → Option β} {log : List (τ × α)} {e : τ × α} {b : β}
    (hmem : e ∈ log) (h : sample e.2 = some b) : (lastSample sample log).isSome = true := by
  rw [lastSample, List.getLast?_isSome]
  exact List.ne_nil_of_mem (List.mem_filterMap.mpr ⟨e, hmem, by rw [h]; rfl⟩)

theorem lastSample_mem {sample : α → Option β} {log : List (τ × α)} {t : τ} {b : β}
    (h : lastSample sample log = some (t, b)) : ∃ a, (t, a) ∈ log ∧ sample a = some b := by
  obtain ⟨⟨t', a⟩, hmem, heq⟩ := List.mem_filterMap.mp (List.mem_of_getLast? h)
  obtain ⟨b', hsample, hpair⟩ := Option.map_eq_some_iff.mp heq
  cases hpair
  exact ⟨a, hmem, hsample⟩

/-- Observations that carry no sample may be dropped from the log. -/
theorem lastSample_filter {sample : α → Option β} {p : α → Bool} (h : ∀ a, p a = false → sample a = none)
    (log : List (τ × α)) : lastSample sample (log.filter fun e => p e.2) = lastSample sample log := by
  have hdrop : (log.filter fun e => p e.2).filterMap (fun e => (sample e.2).map (Prod.mk e.1)) =
      log.filterMap fun e => (sample e.2).map (Prod.mk e.1) := by
    rw [List.filterMap_filter]
    apply List.filterMap_congr
    intro e _
    cases hp : p e.2 with
    | true => rw [if_pos rfl]
    | false => rw [h e.2 hp, if_neg Bool.false_ne_true, Option.map_none]
  rw [lastSample, hdrop, lastSample]

/-- The value of a sample, when it is no older than the limit. -/
def freshSample [Sub τ] [LE τ] [DecidableLE τ] (limit now : τ) : Option (τ × β) → Option β
  | none => none
  | some (t, b) => if now - t ≤ limit then some b else none

theorem freshSample_eq_some [Sub τ] [LE τ] [DecidableLE τ] {limit now : τ} {s : Option (τ × β)}
    {b : β} : freshSample limit now s = some b ↔ ∃ t, s = some (t, b) ∧ now - t ≤ limit := by
  cases s with
  | none => simp [freshSample]
  | some s =>
      obtain ⟨t, b'⟩ := s
      simp only [freshSample, Option.ite_none_right_eq_some, Option.some.injEq, Prod.mk.injEq]
      constructor
      · rintro ⟨hle, rfl⟩
        exact ⟨t, ⟨rfl, rfl⟩, hle⟩
      · rintro ⟨_, ⟨rfl, rfl⟩, hle⟩
        exact ⟨hle, rfl⟩

/-! ### Cells

The stamp decides whether the cell holds a sample; the value beside a cleared stamp means nothing. The
value may be kept in another form than the sample, given by an encoding. -/

/-- A stamp and a cached value remember a sample. -/
structure Remembers {ν : Type} (encode : β → ν) (stamp : Option τ) (value : ν)
    (sample : Option (τ × β)) : Prop where
  stamp_eq : stamp = sample.map Prod.fst
  value_eq : ∀ t b, sample = some (t, b) → value = encode b

section Cells

variable {ν : Type} {encode : β → ν}

theorem Remembers.cleared (value : ν) : Remembers encode (none : Option τ) value none :=
  ⟨rfl, fun _ _ h => nomatch h⟩

theorem Remembers.stored (t : τ) (b : β) : Remembers encode (some t) (encode b) (some (t, b)) :=
  ⟨rfl, fun _ _ h => by cases h; rfl⟩

variable [Sub τ] [LE τ] [DecidableLE τ] {stamp : Option τ} {value : ν} {sample : Option (τ × β)}

/-- The stamp is fresh exactly when the sample is. -/
theorem Remembers.fresh (h : Remembers encode stamp value sample) (limit now : τ) :
    stamp.any (fun t => decide (now - t ≤ limit)) = (freshSample limit now sample).isSome := by
  rw [h.stamp_eq]
  cases sample with
  | none => rfl
  | some s =>
      simp only [Option.map_some, Option.any_some, freshSample]
      split <;> simp_all

/-- Reading a field of the value while the stamp is fresh yields the field of the fresh sample. -/
theorem Remembers.read (h : Remembers encode stamp value sample) (limit now : τ)
    (field : ν → Option γ) (g : β → γ) (hfield : ∀ b, field (encode b) = some (g b)) :
    (if stamp.any (fun t => decide (now - t ≤ limit)) then field value else none) =
      (freshSample limit now sample).map g := by
  rw [h.stamp_eq]
  cases sample with
  | none => rfl
  | some s =>
      obtain ⟨t, b⟩ := s
      rw [h.value_eq t b rfl, hfield]
      simp only [Option.map_some, Option.any_some, freshSample, decide_eq_true_eq]
      split <;> rfl

/-- Testing the value while the stamp is fresh tests the fresh sample. -/
theorem Remembers.test (h : Remembers encode stamp value sample) (limit now : τ) (p : ν → Bool)
    (q : β → Bool) (hpq : ∀ b, p (encode b) = q b) :
    (stamp.any (fun t => decide (now - t ≤ limit)) && p value) = (freshSample limit now sample).any q := by
  rw [h.stamp_eq]
  cases sample with
  | none => rfl
  | some s =>
      obtain ⟨t, b⟩ := s
      rw [h.value_eq t b rfl, hpq]
      simp only [Option.map_some, Option.any_some, freshSample]
      by_cases hle : now - t ≤ limit <;> simp [hle]

end Cells

/-! ### Expiring keys -/

/-- When a key was last seen in a log. -/
def lastSeen [DecidableEq κ] (key : α → Option κ) (k : κ) (log : List (τ × α)) : Option τ :=
  (log.filter fun e => key e.2 = some k).getLast?.map Prod.fst

section Expiring

variable [DecidableEq κ] {key : α → Option κ}

theorem lastSeen_filter {p : α → Bool} (h : ∀ a, p a = false → key a = none) (k : κ) (log : List (τ × α)) :
    lastSeen key k (log.filter fun e => p e.2) = lastSeen key k log := by
  have hdrop : (log.filter fun e => p e.2).filter (fun e => decide (key e.2 = some k)) =
      log.filter fun e => decide (key e.2 = some k) := by
    rw [List.filter_filter]
    apply List.filter_congr
    intro e _
    cases hp : p e.2 with
    | true => rw [Bool.and_true]
    | false => rw [h e.2 hp, Bool.and_false, decide_eq_false nofun]
  rw [lastSeen, hdrop, lastSeen]

theorem lastSeen_concat_self {a : α} {k : κ} (log : List (τ × α)) (t : τ) (h : key a = some k) :
    lastSeen key k (log ++ [(t, a)]) = some t := by
  simp [lastSeen, List.filter_append, h]

theorem lastSeen_concat_other {a : α} {k : κ} (log : List (τ × α)) (t : τ) (h : key a ≠ some k) :
    lastSeen key k (log ++ [(t, a)]) = lastSeen key k log := by
  simp [lastSeen, List.filter_append, h]

/-- Forget the keys not seen for longer than the limit. -/
def purge [Sub τ] [LT τ] [DecidableLT τ] (limit now : τ) (entries : List (κ × τ)) : List (κ × τ) :=
  entries.filter fun e => !decide (limit < now - e.2)

/-- See a key: move its stamp if it is there, append it otherwise. -/
def touch (k : κ) (now : τ) (entries : List (κ × τ)) : List (κ × τ) :=
  if k ∈ entries.map Prod.fst then entries.map fun e => if e.1 = k then (k, now) else e
  else entries ++ [(k, now)]

theorem touch_keys_of_mem {k : κ} {entries : List (κ × τ)} (now : τ)
    (hmem : k ∈ entries.map Prod.fst) :
    (touch k now entries).map Prod.fst = entries.map Prod.fst := by
  rw [touch, if_pos hmem, List.map_map]
  apply List.map_congr_left
  intro e _
  simp only [Function.comp_apply]
  split
  · rename_i heq
    exact heq.symm
  · rfl

theorem mem_touch_self (k : κ) (now : τ) (entries : List (κ × τ)) :
    (k, now) ∈ touch k now entries := by
  by_cases hmem : k ∈ entries.map Prod.fst
  · rw [touch, if_pos hmem]
    obtain ⟨e, he, hk⟩ := List.mem_map.mp hmem
    exact List.mem_map.mpr ⟨e, he, by rw [if_pos hk]⟩
  · rw [touch, if_neg hmem]
    exact List.mem_append_right _ (List.mem_singleton.mpr rfl)

theorem mem_touch_other {k k' : κ} (now t : τ) (entries : List (κ × τ)) (hne : k' ≠ k) :
    (k', t) ∈ touch k now entries ↔ (k', t) ∈ entries := by
  by_cases hmem : k ∈ entries.map Prod.fst
  · rw [touch, if_pos hmem, List.mem_map]
    constructor
    · rintro ⟨e, he, heq⟩
      split at heq
      · cases heq
        exact absurd rfl hne
      · exact heq ▸ he
    · intro he
      exact ⟨(k', t), he, if_neg hne⟩
  · rw [touch, if_neg hmem, List.mem_append, List.mem_singleton, Prod.mk.injEq]
    simp [hne]

theorem touch_nodup {k : κ} {entries : List (κ × τ)} (now : τ)
    (h : (entries.map Prod.fst).Nodup) : ((touch k now entries).map Prod.fst).Nodup := by
  by_cases hmem : k ∈ entries.map Prod.fst
  · rw [touch_keys_of_mem now hmem]
    exact h
  · rw [touch, if_neg hmem, List.map_append]
    refine List.nodup_append.mpr ⟨h, List.nodup_singleton k, fun x hx y hy hxy => ?_⟩
    rw [List.map_singleton, List.mem_singleton] at hy
    rw [hxy, hy] at hx
    exact hmem hx

theorem touch_stamp {k : κ} {t now : τ} {entries : List (κ × τ)}
    (h : (k, t) ∈ touch k now entries) : t = now := by
  by_cases hmem : k ∈ entries.map Prod.fst
  · rw [touch, if_pos hmem] at h
    obtain ⟨e, _, heq⟩ := List.mem_map.mp h
    split at heq
    · exact (congrArg Prod.snd heq).symm
    · rename_i hne
      rw [heq] at hne
      exact absurd rfl hne
  · rw [touch, if_neg hmem, List.mem_append, List.mem_singleton] at h
    rcases h with hin | heq
    · exact absurd (List.mem_map.mpr ⟨_, hin, rfl⟩) hmem
    · exact congrArg Prod.snd heq

/-- The entries hold each key at most once, with the time it was last seen, and every key seen
within the limit. -/
structure Retains [Sub τ] [LE τ] (limit now : τ) (key : α → Option κ) (entries : List (κ × τ))
    (log : List (τ × α)) : Prop where
  nodup : (entries.map Prod.fst).Nodup
  sound : ∀ k t, (k, t) ∈ entries → lastSeen key k log = some t
  complete : ∀ k t, lastSeen key k log = some t → now - t ≤ limit → (k, t) ∈ entries

theorem Retains.empty [Sub τ] [LE τ] (limit now : τ) {log : List (τ × α)} (h : ∀ k, lastSeen key k log = none) :
    Retains limit now key [] log :=
  ⟨List.nodup_nil, fun _ _ hmem => absurd hmem List.not_mem_nil,
    fun k t hseen _ => by rw [h k] at hseen; cases hseen⟩

theorem Retains.skip [Sub τ] [LE τ] {limit now : τ} {entries : List (κ × τ)} {log : List (τ × α)} {a : α}
    (h : Retains limit now key entries log) (t : τ) (hkey : key a = none) :
    Retains limit now key entries (log ++ [(t, a)]) := by
  have hsame : ∀ k, lastSeen key k (log ++ [(t, a)]) = lastSeen key k log := fun k =>
    lastSeen_concat_other log t (by rw [hkey]; exact nofun)
  refine ⟨h.nodup, fun k u hmem => ?_, fun k u hseen => ?_⟩
  · rw [hsame]
    exact h.sound k u hmem
  · rw [hsame] at hseen
    exact h.complete k u hseen

variable [AddCommGroup τ] [LinearOrder τ] [IsOrderedAddMonoid τ]

theorem Retains.later {limit now now' : τ} {entries : List (κ × τ)} {log : List (τ × α)}
    (h : Retains limit now key entries log) (hle : now ≤ now') :
    Retains limit now' key entries log :=
  ⟨h.nodup, h.sound, fun k t hseen hlimit =>
    h.complete k t hseen ((sub_le_sub_right hle t).trans hlimit)⟩

theorem Retains.purge {limit now : τ} {entries : List (κ × τ)} {log : List (τ × α)}
    (h : Retains limit now key entries log) :
    Retains limit now key (TimedLog.purge limit now entries) log := by
  refine ⟨?_, ?_, ?_⟩
  · exact h.nodup.sublist (List.Sublist.map _ List.filter_sublist)
  · intro k t hmem
    exact h.sound k t (List.mem_filter.mp hmem).1
  · intro k t hseen hlimit
    exact List.mem_filter.mpr ⟨h.complete k t hseen hlimit, by simpa using hlimit⟩

/-- After a purge the entries are exactly the keys last seen within the limit. -/
theorem Retains.mem_purge_iff {limit now : τ} {entries : List (κ × τ)} {log : List (τ × α)}
    (h : Retains limit now key entries log) (k : κ) (t : τ) :
    (k, t) ∈ TimedLog.purge limit now entries ↔
      lastSeen key k log = some t ∧ now - t ≤ limit := by
  constructor
  · intro hmem
    obtain ⟨hin, hfresh⟩ := List.mem_filter.mp hmem
    exact ⟨h.sound k t hin, by simpa using hfresh⟩
  · rintro ⟨hseen, hlimit⟩
    exact h.purge.complete k t hseen hlimit

omit [IsOrderedAddMonoid τ] in
theorem Retains.touch {limit now : τ} {entries : List (κ × τ)} {log : List (τ × α)} {a : α} {k : κ}
    (h : Retains limit now key entries log) (hkey : key a = some k) :
    Retains limit now key (TimedLog.touch k now entries) (log ++ [(now, a)]) := by
  refine ⟨touch_nodup now h.nodup, fun k' t hmem => ?_, fun k' t hseen hlimit => ?_⟩
  · by_cases hk : k' = k
    · subst hk
      rw [lastSeen_concat_self log now hkey, touch_stamp hmem]
    · rw [lastSeen_concat_other log now (by rw [hkey]; simpa using Ne.symm hk)]
      exact h.sound k' t ((mem_touch_other now t entries hk).mp hmem)
  · by_cases hk : k' = k
    · subst hk
      rw [lastSeen_concat_self log now hkey] at hseen
      cases hseen
      exact mem_touch_self k' _ entries
    · rw [lastSeen_concat_other log now (by rw [hkey]; simpa using Ne.symm hk)] at hseen
      exact (mem_touch_other now t entries hk).mpr (h.complete k' t hseen hlimit)

end Expiring

end OnboardAutonomy.TimedLog
