import Mathlib.Algebra.Order.Floor.Div
import ModuleBuild.Command.Run

/-!
# Waiting ends, and not early

The pauses add up to the time that was granted or to more. So there are as many of them as this time
has whole or begun pauses in it, unless a look finds the path before: what decides is the sum, which
need not meet the granted time, and no look is left out after the last pause.

## Two ways not to overflow

The sum never gets past the granted time by a whole pause. So a granted time to which a pause can be
added is safe, whatever the pause. Where the looks are a second apart and the granted time is a
number of seconds, the sum meets it, and then even the longest time is safe, although nothing could
be added to that.

## Main definitions

* `WaitAct.rounds` — what is done with a number of pauses
* `Waited.Keeps` — waiting that keeps to a number of pauses

## Main results

* `waitFrom_of_le` — what waiting comes to does not hang on how many looks are allowed
* `isSome_waitFrom`, `awaitPath_eq` — waiting ends if pauses are not empty
* `waitFrom_pause`, `waitFor_rounds` — one round, and the first ones
* `exists_keeps` — waiting keeps to the number of pauses that the granted time needs
* `waiting_bounded` — all waiting
-/

namespace ModuleBuild

/-- What is done in a number of rounds: a look and a pause in each. -/
def WaitAct.rounds : Nat → List WaitAct
  | 0 => []
  | k + 1 => rounds k ++ [.look, .pause]

namespace WaitAct

@[simp] theorem count_pause_rounds (k : Nat) : (rounds k).count .pause = k := by
  induction k with
  | zero => rfl
  | succ k ih => simp [rounds, ih]

@[simp] theorem count_look_rounds (k : Nat) : (rounds k).count .look = k := by
  induction k with
  | zero => rfl
  | succ k ih => simp [rounds, ih]

end WaitAct

open WaitAct (rounds)

/-- Waiting that keeps to a number of pauses. -/
structure Waited.Keeps (present : Nat → Bool) (n : Nat) (w : Waited) : Prop where
  /-- The pauses do not get too long. -/
  fits : w.ending ≠ .overflowed
  /-- It ends well if one of the looks finds the path. -/
  found : ∀ p, w.result? p = some (.ok ()) ↔ ∃ k ≤ n, present k = true
  /-- It fails for want of time if none does. -/
  missed : ∀ p, w.result? p = some (.error (.timedOut p)) ↔ ∀ k ≤ n, present k = false
  /-- There are as many pauses as looks before the first one that finds the path. -/
  first : ∀ k ≤ n, present k = true → (∀ j < k, present j = false) → w.pauses = k
  /-- There are all pauses if none does. -/
  all : (∀ k ≤ n, present k = false) → w.pauses = n
  /-- There is a look before each pause, and one more at the end. -/
  acts : w.acts = rounds w.pauses ++ [.look]
  /-- So there is one more look than pauses. -/
  looks : w.looks = w.pauses + 1

namespace Waited

variable {present : Nat → Bool} {n k : Nat}

/-- Waiting that ends with the first look that finds the path. -/
theorem keeps_appeared (hk : k ≤ n) (hpresent : present k = true)
    (habsent : ∀ j < k, present j = false) :
    Keeps present n ⟨.appeared, rounds k ++ [.look]⟩ := by
  have hpauses : pauses ⟨.appeared, rounds k ++ [.look]⟩ = k := by simp [pauses]
  refine ⟨by simp, fun p => ⟨fun _ => ⟨k, hk, hpresent⟩, fun _ => rfl⟩, fun p => ?_, ?_, ?_, ?_, ?_⟩
  · have hfound : ¬ ∀ k ≤ n, present k = false := fun h => by simp [h k hk] at hpresent
    simpa [result?] using hfound
  · intro l _ hl hbefore
    rw [hpauses]
    rcases Nat.lt_trichotomy k l with hlt | rfl | hlt
    · simp [hbefore k hlt] at hpresent
    · rfl
    · simp [habsent l hlt] at hl
  · intro h
    simp [h k hk] at hpresent
  · rw [hpauses]
  · simp [looks, pauses]

/-- Waiting that ends when the time is over. -/
theorem keeps_timedOut (habsent : ∀ k ≤ n, present k = false) :
    Keeps present n ⟨.timedOut, rounds n ++ [.look]⟩ := by
  have hpauses : pauses ⟨.timedOut, rounds n ++ [.look]⟩ = n := by simp [pauses]
  refine ⟨by simp, fun p => ?_, fun p => ⟨fun _ => habsent, fun _ => rfl⟩, ?_, fun _ => hpauses, ?_,
    ?_⟩
  · have hmissed : ¬ ∃ k ≤ n, present k = true := fun ⟨k, hk, h⟩ => by simp [habsent k hk] at h
    simpa [result?] using hmissed
  · intro k hk hpresent
    simp [habsent k hk] at hpresent
  · rw [hpauses]
  · simp [looks, pauses]

end Waited

variable {present : Nat → Bool} {timeout pause waited : Duration} {number n looks more : Nat}
  {w : Waited}

/-! ### Rounds -/

/-- What waiting comes to does not hang on how many looks are allowed. -/
theorem waitFrom_of_le (h : waitFrom present timeout pause looks number waited = some w)
    (hle : looks ≤ more) : waitFrom present timeout pause more number waited = some w := by
  induction looks generalizing more number waited w with
  | zero => exact nomatch h
  | succ looks ih =>
    obtain ⟨more, rfl⟩ : ∃ k, more = k + 1 := ⟨more - 1, by omega⟩
    rcases hlook : WaitEnd.afterLook? timeout waited (present number) with _ | ending
    · rcases hadd : waited.add? pause with _ | waited'
      · rwa [waitFrom, hlook, hadd] at h ⊢
      · rw [waitFrom, hlook, hadd] at h ⊢
        obtain ⟨v, hv, hw⟩ := Option.bind_eq_some_iff.1 h
        exact Option.bind_eq_some_iff.2 ⟨v, ih hv (Nat.le_of_succ_le_succ hle), hw⟩
    · rwa [waitFrom, hlook] at h ⊢

/-- **Waiting ends** if pauses are not empty: one look for each nanosecond that is left, and one
more, are enough. -/
theorem isSome_waitFrom (hpause : 0 < pause.total) (number : Nat)
    (htime : timeout.total ≤ waited.total + looks) :
    (waitFrom present timeout pause (looks + 1) number waited).isSome = true := by
  induction looks generalizing number waited with
  | zero =>
    have hlate : timeout ≤ waited := Duration.le_iff.2 (by rwa [Nat.add_zero] at htime)
    rw [waitFrom, WaitEnd.afterLook?, if_pos hlate]
    cases present number <;> rfl
  | succ looks ih =>
    rw [waitFrom]
    rcases WaitEnd.afterLook? timeout waited (present number) with _ | ending
    · rcases hadd : waited.add? pause with _ | waited'
      · rfl
      · have htotal : waited'.total = waited.total + pause.total := Duration.total_of_add? hadd
        obtain ⟨w, hw⟩ := Option.isSome_iff_exists.1
          (ih (number + 1) (show timeout.total ≤ waited'.total + looks by omega))
        dsimp only
        rw [hw]
        rfl
    · rfl

/-- Waiting in a file tree that does not change comes to what waiting comes to, however many looks
are allowed. -/
theorem awaitPath_eq (files : FileTree) (cwd : Location) (p : Path) (timeout : Duration)
    (hpause : 0 < pause.total) :
    ∃ w, (∀ looks, timeout.total < looks →
        waitFor (fun _ => files.contains cwd p) timeout pause looks = some w) ∧
      awaitPath files cwd p timeout pause = (w.result? p).getD (.error (.timedOut p)) := by
  obtain ⟨w, hw⟩ := Option.isSome_iff_exists.1
    (@isSome_waitFrom (fun _ => files.contains cwd p) timeout pause .zero timeout.total hpause 0
      (show timeout.total ≤ Duration.zero.total + timeout.total by simp))
  refine ⟨w, fun looks hlooks => waitFrom_of_le hw hlooks, ?_⟩
  rw [awaitPath, waitFor, hw, Option.bind_some]

/-- **One round** after a look that has found nothing while there is time. -/
theorem waitFrom_pause (looks : Nat) (habsent : present number = false)
    (hwaited : waited.total = number * pause.total) (htime : number * pause.total < timeout.total)
    (hfits : (number + 1) * pause.total < Duration.limit) :
    ∃ waited' : Duration, waited'.total = (number + 1) * pause.total ∧
      waitFrom present timeout pause (looks + 1) number waited =
        (waitFrom present timeout pause looks (number + 1) waited').map
          fun w => { w with acts := .look :: .pause :: w.acts } := by
  obtain ⟨waited', hadd, htotal⟩ :=
    Duration.add?_of_lt (a := waited) (b := pause) (by rwa [hwaited, ← Nat.succ_mul])
  refine ⟨waited', by rw [htotal, hwaited, Nat.succ_mul], ?_⟩
  have hearly : ¬ timeout ≤ waited := by
    rw [Duration.le_iff, hwaited]
    omega
  have hgoes : WaitEnd.afterLook? timeout waited (present number) = none := by
    simp [WaitEnd.afterLook?, habsent, hearly]
  rw [waitFrom, hgoes, hadd]
  dsimp only
  cases waitFrom present timeout pause looks (number + 1) waited' <;> rfl

/-- **The first rounds**, of which none comes too late and the sum of all pauses is a duration. -/
theorem waitFor_rounds (j looks : Nat) (habsent : ∀ i < j, present i = false)
    (htime : ∀ i < j, i * pause.total < timeout.total)
    (hfits : j * pause.total < Duration.limit) :
    ∃ waited : Duration, waited.total = j * pause.total ∧
      waitFor present timeout pause (j + looks) =
        (waitFrom present timeout pause looks j waited).map
          fun w => { w with acts := rounds j ++ w.acts } := by
  induction j generalizing looks with
  | zero =>
    refine ⟨.zero, by simp, ?_⟩
    rw [waitFor, Nat.zero_add]
    cases waitFrom present timeout pause looks 0 .zero <;> rfl
  | succ j ih =>
    have hle : j * pause.total ≤ (j + 1) * pause.total := Nat.mul_le_mul_right _ (Nat.le_succ j)
    obtain ⟨waited, hwaited, hrounds⟩ :=
      ih (looks + 1) (fun i hi => habsent i (Nat.lt_succ_of_lt hi))
        (fun i hi => htime i (Nat.lt_succ_of_lt hi)) (Nat.lt_of_le_of_lt hle hfits)
    obtain ⟨waited', hwaited', hround⟩ := waitFrom_pause looks (habsent j (Nat.lt_succ_self j))
      hwaited (htime j (Nat.lt_succ_self j)) hfits
    refine ⟨waited', hwaited', ?_⟩
    rw [Nat.add_assoc, Nat.add_comm 1 looks, hrounds, hround, Option.map_map]
    cases waitFrom present timeout pause looks (j + 1) waited' with
    | none => rfl
    | some w => simp [rounds]

/-- **Waiting keeps to the number of pauses** that the granted time needs, if all of them together
are a duration. One look more than these pauses is enough. -/
theorem exists_keeps (present : Nat → Bool) (hbefore : ∀ k, k < n ↔ k * pause.total < timeout.total)
    (hfits : n * pause.total < Duration.limit) :
    ∃ w, (∀ looks, n < looks → waitFor present timeout pause looks = some w) ∧
      w.Keeps present n := by
  have hfits_of_le : ∀ k ≤ n, k * pause.total < Duration.limit :=
    fun k hk => Nat.lt_of_le_of_lt (Nat.mul_le_mul_right _ hk) hfits
  by_cases hfound : ∃ k ≤ n, present k = true
  · classical
    obtain ⟨hk, hpresent⟩ := Nat.find_spec hfound
    have habsent : ∀ j < Nat.find hfound, present j = false := fun j hj =>
      Bool.eq_false_iff.2 fun h => Nat.find_min hfound hj ⟨hj.le.trans hk, h⟩
    obtain ⟨waited, -, hrounds⟩ := waitFor_rounds (Nat.find hfound) 1 habsent
      (fun i hi => (hbefore i).1 (Nat.lt_of_lt_of_le hi hk)) (hfits_of_le _ hk)
    refine ⟨_, fun looks hlooks => waitFrom_of_le ?_ (Nat.lt_of_le_of_lt hk hlooks),
      Waited.keeps_appeared hk hpresent habsent⟩
    refine hrounds.trans ?_
    rw [waitFrom, hpresent]
    rfl
  · have habsent : ∀ k ≤ n, present k = false := by simpa using hfound
    obtain ⟨waited, hwaited, hrounds⟩ := waitFor_rounds n 1 (fun i hi => habsent i hi.le)
      (fun i hi => (hbefore i).1 hi) hfits
    have htime : timeout ≤ waited := by
      rw [Duration.le_iff, hwaited]
      exact Nat.le_of_not_lt fun h => Nat.lt_irrefl n ((hbefore n).2 h)
    refine ⟨_, fun looks hlooks => waitFrom_of_le ?_ hlooks, Waited.keeps_timedOut habsent⟩
    have hends : WaitEnd.afterLook? timeout waited (present n) = some .timedOut := by
      simp [WaitEnd.afterLook?, habsent n le_rfl, htime]
    refine hrounds.trans ?_
    rw [waitFrom, hends]
    rfl

/-! ### The number of pauses -/

/-- A round begins in time if its number is below that of the whole and begun pauses in the granted
time. -/
theorem lt_ceilDiv_iff (hpause : 0 < pause.total) (k : Nat) :
    k < timeout.total ⌈/⌉ pause.total ↔ k * pause.total < timeout.total := by
  rw [← not_le, ceilDiv_le_iff_le_mul hpause, not_le, Nat.mul_comm]

/-- The pauses add up to the granted time, and to less than a pause more. -/
theorem ceilDiv_mul_bounds (timeout : Duration) (hpause : 0 < pause.total) :
    timeout.total ≤ timeout.total ⌈/⌉ pause.total * pause.total ∧
      timeout.total ⌈/⌉ pause.total * pause.total < timeout.total + pause.total := by
  constructor
  · exact Nat.le_of_not_lt fun h => Nat.lt_irrefl _ ((lt_ceilDiv_iff hpause _).2 h)
  · rcases hn : timeout.total ⌈/⌉ pause.total with _ | m
    · omega
    · have hlast : m * pause.total < timeout.total := (lt_ceilDiv_iff hpause m).1 (by omega)
      rw [Nat.succ_mul]
      omega

/-- **Waiting is bounded and never early.** Whatever the looks find, waiting with pauses that are
not empty ends, if the granted time and a pause have a sum. It makes at most as many pauses as the
granted time has whole or begun ones in it, so one look more is all it needs: it ends well with the
first look that finds the path, and for want of time after all pauses and one more look, when they
add up to the granted time but not to a pause more. With the pause of the command any number of
seconds can be granted. -/
theorem waiting_bounded (present : Nat → Bool) :
    (∀ timeout pause : Duration, 0 < pause.total → (timeout.add? pause).isSome = true →
      ∃ w, (∀ looks, timeout.total ⌈/⌉ pause.total < looks →
          waitFor present timeout pause looks = some w) ∧
        w.Keeps present (timeout.total ⌈/⌉ pause.total) ∧
        (w.ending = .timedOut → timeout.total ≤ w.pauses * pause.total ∧
          w.pauses * pause.total < timeout.total + pause.total)) ∧
      ∀ seconds : UInt64,
        ∃ w, (∀ looks, seconds.toNat < looks →
            waitFor present (.ofSeconds seconds) Command.waitPause looks = some w) ∧
          w.Keeps present seconds.toNat := by
  constructor
  · intro timeout pause hpause hsum
    have hbounds := ceilDiv_mul_bounds timeout hpause
    have hfits : timeout.total + pause.total < Duration.limit := by
      by_contra hover
      rw [Duration.add?_of_le (Nat.le_of_not_lt hover)] at hsum
      exact Bool.false_ne_true hsum
    obtain ⟨w, hw, hkeeps⟩ :=
      exists_keeps present (lt_ceilDiv_iff hpause) (Nat.lt_trans hbounds.2 hfits)
    refine ⟨w, hw, hkeeps, fun hending => ?_⟩
    have hresult : w.result? ⟨""⟩ = some (.error (.timedOut ⟨""⟩)) := by
      rw [Waited.result?, hending]
    rwa [hkeeps.all ((hkeeps.missed _).1 hresult)]
  · intro seconds
    have hpause : Command.waitPause.total = 1000000000 := by
      rw [Command.waitPause, Duration.total_ofSeconds]
      rfl
    have hseconds := seconds.toNat_lt_size
    have hbefore : ∀ k, k < seconds.toNat ↔
        k * Command.waitPause.total < (Duration.ofSeconds seconds).total := fun k => by
      rw [hpause, Duration.total_ofSeconds]
      omega
    refine exists_keeps present hbefore ?_
    rw [hpause]
    exact Nat.mul_lt_mul_of_pos_right hseconds (by decide)

/-- Pauses of six milliseconds in a time of twenty: a path that appears before the fourth look, and
one that does not appear. -/
theorem waiting_bounded_between :
    let timeout : Duration := .ofMillis 20
    let pause : Duration := .ofMillis 6
    0 < pause.total ∧ (timeout.add? pause).isSome = true ∧
      (∃ w, waitFor (fun k => decide (3 ≤ k)) timeout pause 5 = some w ∧ w.pauses = 3) ∧
      ∃ w, waitFor (fun _ => false) timeout pause 5 = some w ∧ w.pauses = 4 ∧
        timeout.total ≤ w.pauses * pause.total ∧
        w.pauses * pause.total < timeout.total + pause.total := by
  intro timeout pause
  have htimeout : timeout.total = 20000000 := Duration.total_ofMillis 20
  have hlength : pause.total = 6000000 := Duration.total_ofMillis 6
  have hpause : 0 < pause.total := by omega
  have hsum : (timeout.add? pause).isSome = true := by decide +kernel
  have hn : timeout.total ⌈/⌉ pause.total = 4 := by rw [htimeout, hlength]; rfl
  obtain ⟨w, hw, hkeeps, -⟩ :=
    (waiting_bounded fun k => decide (3 ≤ k)).1 timeout pause hpause hsum
  obtain ⟨v, hv, hkeeps', hbounds⟩ := (waiting_bounded fun _ => false).1 timeout pause hpause hsum
  rw [hn] at hw hv hkeeps hkeeps'
  have hmissed := (hkeeps'.missed ⟨"app.bc"⟩).2 fun _ _ => rfl
  have hending : v.ending = .timedOut := by
    unfold Waited.result? at hmissed
    split at hmissed <;> simp_all
  exact ⟨hpause, hsum, ⟨w, hw 5 (by decide), hkeeps.first 3 (by decide) (by decide) (by decide)⟩,
    v, hv 5 (by decide), hkeeps'.all fun _ _ => rfl, hbounds hending⟩

end ModuleBuild
