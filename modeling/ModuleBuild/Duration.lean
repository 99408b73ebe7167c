/-!
# Durations

How long something takes is measured in seconds, of which there are as many as a word of 64 bits
counts, and in the nanoseconds of the last one. Two durations may have no sum.

## Main definitions

* `Duration`, `Duration.total` — a duration, and all its nanoseconds
* `Duration.ofSeconds`, `Duration.ofMillis` — durations by their number of seconds or milliseconds
* `Duration.add?` — the sum of two durations, if there is one

## Main results

* `Duration.le_iff`, `Duration.add?_of_lt`, `Duration.add?_of_le` — order and sum are those of all
  nanoseconds
-/

namespace ModuleBuild

/-- A span of time. -/
structure Duration where
  /-- The whole seconds. -/
  seconds : UInt64
  /-- The nanoseconds after them. -/
  nanos : Fin 1000000000
  deriving DecidableEq

namespace Duration

/-- No time. -/
def zero : Duration := ⟨0, 0⟩

/-- Some seconds. -/
def ofSeconds (n : UInt64) : Duration := ⟨n, 0⟩

/-- Some milliseconds. -/
def ofMillis (n : UInt64) : Duration :=
  ⟨n / 1000, ⟨n.toNat % 1000 * 1000000, by omega⟩⟩

/-- All nanoseconds of a duration. -/
def total (a : Duration) : Nat := a.seconds.toNat * 1000000000 + a.nanos

/-- No duration has this many nanoseconds. -/
def limit : Nat := UInt64.size * 1000000000

/-- A duration is at most another if it has fewer seconds, or as many and no more nanoseconds after
them. -/
instance : LE Duration where
  le a b := a.seconds < b.seconds ∨ a.seconds = b.seconds ∧ a.nanos ≤ b.nanos

instance (a b : Duration) : Decidable (a ≤ b) :=
  inferInstanceAs (Decidable (a.seconds < b.seconds ∨ a.seconds = b.seconds ∧ a.nanos ≤ b.nanos))

/-- The sum of two durations, unless it has too many seconds. A full second of nanoseconds is
carried. -/
def add? (a b : Duration) : Option Duration :=
  let nanos := a.nanos.val + b.nanos.val
  let seconds := a.seconds.toNat + b.seconds.toNat + nanos / 1000000000
  if h : seconds < UInt64.size then
    some ⟨UInt64.ofNatLT seconds h, ⟨nanos % 1000000000, Nat.mod_lt _ (by decide)⟩⟩
  else none

variable {a b : Duration}

@[simp] theorem total_zero : zero.total = 0 := by simp [total, zero]

theorem total_ofSeconds (n : UInt64) : (ofSeconds n).total = n.toNat * 1000000000 := by
  simp [total, ofSeconds]

theorem total_ofMillis (n : UInt64) : (ofMillis n).total = n.toNat * 1000000 := by
  have hseconds : (n / 1000).toNat = n.toNat / 1000 := UInt64.toNat_div ..
  simp only [total, ofMillis, hseconds]
  omega

theorem le_iff : a ≤ b ↔ a.total ≤ b.total := by
  have ha := a.nanos.isLt
  have hb := b.nanos.isLt
  change a.seconds < b.seconds ∨ a.seconds = b.seconds ∧ a.nanos ≤ b.nanos ↔ _
  rw [UInt64.lt_iff_toNat_lt, ← UInt64.toNat_inj, Fin.le_def]
  unfold total
  omega

/-- Two durations whose nanoseconds are not too many have a sum. -/
theorem add?_of_lt (h : a.total + b.total < limit) :
    ∃ c, a.add? b = some c ∧ c.total = a.total + b.total := by
  have hseconds : a.seconds.toNat + b.seconds.toNat + (a.nanos.val + b.nanos.val) / 1000000000 <
      UInt64.size := by
    unfold total limit at h
    omega
  refine ⟨_, dif_pos hseconds, ?_⟩
  simp only [total, UInt64.toNat_ofNatLT]
  omega

/-- Two durations with too many nanoseconds have no sum. -/
theorem add?_of_le (h : limit ≤ a.total + b.total) : a.add? b = none := by
  have ha := a.nanos.isLt
  have hb := b.nanos.isLt
  refine dif_neg ?_
  unfold total limit at h
  omega

/-- The sum of two durations has their nanoseconds. -/
theorem total_of_add? {c : Duration} (h : a.add? b = some c) : c.total = a.total + b.total := by
  rcases Nat.lt_or_ge (a.total + b.total) limit with hlt | hge
  · obtain ⟨d, hd, htotal⟩ := add?_of_lt hlt
    obtain rfl : d = c := Option.some.inj (hd.symm.trans h)
    exact htotal
  · exact absurd (h.symm.trans (add?_of_le hge)) (Option.some_ne_none c)

end Duration

end ModuleBuild
