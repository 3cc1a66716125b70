import RampMetering.Lib.Run
import RampMetering.Lib.Window
import RampMetering.MaxGreen

/-! The release automaton inside `get_new_max_green_phase3`. Two flags and three counters
stand for one of three phases: waiting for a release, in a regular one, in an overwrite one.
`Phase` carries the bounds of its counter, `Shows` says how the five variables spell it,
and every call moves along `Phase.Next`. -/

namespace RampMetering

inductive Branch where
  | notActivated
  | overwriteRelease
  | regularRelease
  | normalCycle
  deriving DecidableEq

def branch (t : Tuning) (s : SignalVariables) (r : RampVariables) : Branch :=
  if !(isActivation t s r).2 then .notActivated
  else if s.overwriteRelease then .overwriteRelease
  else if s.regularRelease then .regularRelease
  else .normalCycle

theorem branch_eq_notActivated_iff (t : Tuning) (s : SignalVariables) (r : RampVariables) :
    branch t s r = .notActivated ↔ (isActivation t s r).2 = false := by
  unfold branch
  split_ifs with off <;> simpa using off

theorem isActivation_fst (t : Tuning) (s : SignalVariables) (r : RampVariables) :
    ∃ q, (isActivation t s r).1 = { s with rampQueue := q } := by
  unfold isActivation
  split_ifs
  · exact ⟨_, rfl⟩
  all_goals exact ⟨s.rampQueue, rfl⟩

/-- All a call can do besides estimating the queue, by branch: the two releases count down
and the normal cycles count up, each with a last step of its own. -/
inductive CallStep (t : Tuning) (s : SignalVariables) : Branch → SignalVariables → Prop
  | notActivated : CallStep t s .notActivated (notActivated s)
  | overwrite (overwriting : s.overwriteRelease = true) (more : s.overwriteRemainCycle ≠ 1) :
      CallStep t s .overwriteRelease
        { s with
          newMaxGreen := maxGreenUpperbound
          overwriteRemainCycle := s.overwriteRemainCycle - 1 }
  | overwriteEnd (overwriting : s.overwriteRelease = true) (last : s.overwriteRemainCycle = 1) :
      CallStep t s .overwriteRelease
        { s with
          newMaxGreen := maxGreenUpperbound
          overwriteRemainCycle := 0
          overwriteRelease := false }
  | regular (overwriting : s.overwriteRelease = false) (reg : s.regularRelease = true)
      (more : s.regularRemainCycle ≠ 1) :
      CallStep t s .regularRelease
        { s with
          newMaxGreen := maxGreenUpperbound
          regularRemainCycle := s.regularRemainCycle - 1
          rtExceedNum := countExceed s }
  | extend (overwriting : s.overwriteRelease = false) (reg : s.regularRelease = true)
      (last : s.regularRemainCycle = 1)
      (enough : t.cycleToActivateOverwrite ≤ countExceed s) :
      CallStep t s .regularRelease
        { s with
          newMaxGreen := maxGreenUpperbound
          regularRemainCycle := 0
          rtExceedNum := 0
          regularRelease := false
          cyclePassed := 0
          overwriteRelease := true
          overwriteRemainCycle := t.overwriteCycle }
  | regularEnd (overwriting : s.overwriteRelease = false) (reg : s.regularRelease = true)
      (last : s.regularRemainCycle = 1)
      (few : countExceed s < t.cycleToActivateOverwrite) :
      CallStep t s .regularRelease
        { s with
          newMaxGreen := maxGreenUpperbound
          regularRemainCycle := 0
          rtExceedNum := 0
          regularRelease := false
          cyclePassed := 0 }
  | wait (overwriting : s.overwriteRelease = false) (reg : s.regularRelease = false)
      (more : s.cyclePassed + 1 ≠ t.cycleToRelease) :
      CallStep t s .normalCycle
        { s with
          newMaxGreen := regulatedGreen s
          oldMaxGreen := regulatedGreen s
          rtExceedNum := countExceed s
          cyclePassed := s.cyclePassed + 1 }
  | release (overwriting : s.overwriteRelease = false) (reg : s.regularRelease = false)
      (due : s.cyclePassed + 1 = t.cycleToRelease) :
      CallStep t s .normalCycle
        { s with
          newMaxGreen := regulatedGreen s
          oldMaxGreen := regulatedGreen s
          rtExceedNum := countExceed s
          cyclePassed := t.cycleToRelease
          regularRelease := true
          regularRemainCycle := t.regularCycle }

theorem activated_step (t : Tuning) (s : SignalVariables) :
    CallStep t s
      (if s.overwriteRelease then .overwriteRelease
        else if s.regularRelease then .regularRelease else .normalCycle)
      (if s.overwriteRelease then duringOverwriteRelease s
        else if s.regularRelease then duringRegularRelease t s else duringNormalCycle t s) := by
  cases overwriting : s.overwriteRelease with
  | true =>
    simp only [if_true]
    obtain ⟨more, eq⟩ | ⟨last, eq⟩ := duringOverwriteRelease_cases s
    · exact eq ▸ .overwrite overwriting more
    · exact eq ▸ .overwriteEnd overwriting last
  | false =>
    simp only [Bool.false_eq_true, if_false]
    cases reg : s.regularRelease with
    | true =>
      simp only [if_true]
      obtain ⟨more, eq⟩ | ⟨last, enough, eq⟩ | ⟨last, few, eq⟩ := duringRegularRelease_cases t s
      · exact eq ▸ .regular overwriting reg more
      · exact eq ▸ .extend overwriting reg last enough
      · exact eq ▸ .regularEnd overwriting reg last few
    | false =>
      simp only [Bool.false_eq_true, if_false]
      obtain ⟨more, eq⟩ | ⟨due, eq⟩ := duringNormalCycle_cases t s
      · exact eq ▸ .wait overwriting reg more
      · exact eq ▸ .release overwriting reg due

theorem getNewMaxGreenPhase3_step (t : Tuning) (s : SignalVariables) (r : RampVariables) :
    ∃ q, CallStep t { s with rampQueue := q } (branch t s r) (getNewMaxGreenPhase3 t s r) := by
  obtain ⟨q, stored⟩ := isActivation_fst t s r
  refine ⟨q, ?_⟩
  simp only [branch, getNewMaxGreenPhase3, stored]
  cases (isActivation t s r).2
  · exact .notActivated
  · exact activated_step t { s with rampQueue := q }

structure Measurement where
  ltOcc : ℚ
  oldLtOcc : ℚ
  rtOcc : ℚ
  oldRampQueue : ℚ
  realtimeData : Matrix
  dataRow : ℤ
  prevCycleTerminateTime : ℚ
  currentCycleTerminateTime : ℚ
  ramp : RampVariables

def measure (s : SignalVariables) (m : Measurement) : SignalVariables :=
  { s with
    ltOcc := m.ltOcc
    oldLtOcc := m.oldLtOcc
    rtOcc := m.rtOcc
    oldRampQueue := m.oldRampQueue
    realtimeData := m.realtimeData
    dataRow := m.dataRow
    prevCycleTerminateTime := m.prevCycleTerminateTime
    currentCycleTerminateTime := m.currentCycleTerminateTime }

def call (t : Tuning) (s : SignalVariables) (m : Measurement) : SignalVariables :=
  getNewMaxGreenPhase3 t (measure s m) m.ramp

def callBranch (t : Tuning) (s : SignalVariables) (m : Measurement) : Branch :=
  branch t (measure s m) m.ramp

theorem call_step (t : Tuning) (s : SignalVariables) (m : Measurement) :
    ∃ q, CallStep t { measure s m with rampQueue := q } (callBranch t s m) (call t s m) :=
  getNewMaxGreenPhase3_step t (measure s m) m.ramp

inductive Phase (t : Tuning) where
  | waiting (n : ℤ) (nonneg : 0 ≤ n) (below : n < t.cycleToRelease)
  | regular (n : ℤ) (pos : 1 ≤ n) (le : n ≤ t.regularCycle)
  | overwrite (n : ℤ) (pos : 1 ≤ n) (le : n ≤ t.overwriteCycle)

/-- How the variables spell a phase. -/
def Phase.Shows {t : Tuning} : Phase t → SignalVariables → Prop
  | .waiting n _ _, s =>
    s.regularRelease = false ∧ s.overwriteRelease = false ∧ s.regularRemainCycle = 0 ∧
      s.overwriteRemainCycle = 0 ∧ s.cyclePassed = n
  | .regular n _ _, s =>
    s.regularRelease = true ∧ s.overwriteRelease = false ∧ s.regularRemainCycle = n ∧
      s.overwriteRemainCycle = 0 ∧ s.cyclePassed = t.cycleToRelease
  | .overwrite n _ _, s =>
    s.regularRelease = false ∧ s.overwriteRelease = true ∧ s.regularRemainCycle = 0 ∧
      s.overwriteRemainCycle = n ∧ s.cyclePassed = 0

section reading

variable {t : Tuning} {ph : Phase t} {s : SignalVariables}

theorem Phase.Shows.of_overwrite (h : ph.Shows s) (overwriting : s.overwriteRelease = true) :
    ∃ n pos le, ph = .overwrite n pos le ∧ s.regularRelease = false ∧
      s.regularRemainCycle = 0 ∧ s.overwriteRemainCycle = n ∧ s.cyclePassed = 0 := by
  cases ph with
  | waiting n => simp [h.2.1] at overwriting
  | regular n => simp [h.2.1] at overwriting
  | overwrite n pos le => exact ⟨n, pos, le, rfl, h.1, h.2.2⟩

theorem Phase.Shows.of_regular (h : ph.Shows s) (reg : s.regularRelease = true) :
    ∃ n pos le, ph = .regular n pos le ∧ s.regularRemainCycle = n ∧
      s.overwriteRemainCycle = 0 ∧ s.cyclePassed = t.cycleToRelease := by
  cases ph with
  | waiting n => simp [h.1] at reg
  | regular n pos le => exact ⟨n, pos, le, rfl, h.2.2⟩
  | overwrite n => simp [h.1] at reg

theorem Phase.Shows.of_waiting (h : ph.Shows s) (overwriting : s.overwriteRelease = false)
    (reg : s.regularRelease = false) :
    ∃ n nonneg below, ph = .waiting n nonneg below ∧ s.regularRemainCycle = 0 ∧
      s.overwriteRemainCycle = 0 ∧ s.cyclePassed = n := by
  cases ph with
  | waiting n nonneg below => exact ⟨n, nonneg, below, rfl, h.2.2⟩
  | regular n => simp [h.1] at reg
  | overwrite n => simp [h.2.1] at overwriting

end reading

inductive Phase.Next {t : Tuning} : Branch → Phase t → Phase t → Prop
  | deactivate (ph : Phase t) (h₀ : 0 ≤ (0 : ℤ)) (h₁ : 0 < t.cycleToRelease) :
      Next .notActivated ph (.waiting 0 h₀ h₁)
  | wait (n : ℤ) (h₀ : 0 ≤ n) (h₁ : n < t.cycleToRelease) (h₂ : 0 ≤ n + 1)
      (h₃ : n + 1 < t.cycleToRelease) :
      Next .normalCycle (.waiting n h₀ h₁) (.waiting (n + 1) h₂ h₃)
  | release (n : ℤ) (h₀ : 0 ≤ n) (h₁ : n < t.cycleToRelease) (due : n + 1 = t.cycleToRelease)
      (h₂ : 1 ≤ t.regularCycle) (h₃ : t.regularCycle ≤ t.regularCycle) :
      Next .normalCycle (.waiting n h₀ h₁) (.regular t.regularCycle h₂ h₃)
  | regular (n : ℤ) (h₀ : 1 ≤ n) (h₁ : n ≤ t.regularCycle) (h₂ : 1 ≤ n - 1)
      (h₃ : n - 1 ≤ t.regularCycle) :
      Next .regularRelease (.regular n h₀ h₁) (.regular (n - 1) h₂ h₃)
  | regularEnd (h₀ : 1 ≤ (1 : ℤ)) (h₁ : 1 ≤ t.regularCycle) (h₂ : 0 ≤ (0 : ℤ))
      (h₃ : 0 < t.cycleToRelease) :
      Next .regularRelease (.regular 1 h₀ h₁) (.waiting 0 h₂ h₃)
  | extend (h₀ : 1 ≤ (1 : ℤ)) (h₁ : 1 ≤ t.regularCycle) (h₂ : 1 ≤ t.overwriteCycle)
      (h₃ : t.overwriteCycle ≤ t.overwriteCycle) :
      Next .regularRelease (.regular 1 h₀ h₁) (.overwrite t.overwriteCycle h₂ h₃)
  | overwrite (n : ℤ) (h₀ : 1 ≤ n) (h₁ : n ≤ t.overwriteCycle) (h₂ : 1 ≤ n - 1)
      (h₃ : n - 1 ≤ t.overwriteCycle) :
      Next .overwriteRelease (.overwrite n h₀ h₁) (.overwrite (n - 1) h₂ h₃)
  | overwriteEnd (h₀ : 1 ≤ (1 : ℤ)) (h₁ : 1 ≤ t.overwriteCycle) (h₂ : 0 ≤ (0 : ℤ))
      (h₃ : 0 < t.cycleToRelease) :
      Next .overwriteRelease (.overwrite 1 h₀ h₁) (.waiting 0 h₂ h₃)

section phases

variable {t : Tuning} (hK : 0 < t.cycleToRelease) (hR : 0 < t.regularCycle)
  (hW : 0 < t.overwriteCycle)

include hK hR hW

theorem Phase.Shows.call {ph : Phase t} {s : SignalVariables} (h : ph.Shows s)
    (m : Measurement) :
    ∃ ph' : Phase t, Phase.Next (callBranch t s m) ph ph' ∧ ph'.Shows (call t s m) := by
  obtain ⟨q, step⟩ := call_step t s m
  generalize callBranch t s m = b at step ⊢
  generalize RampMetering.call t s m = s' at step ⊢
  cases step with
  | notActivated => exact ⟨_, .deactivate ph le_rfl hK, rfl, rfl, rfl, rfl, rfl⟩
  | overwrite overwriting more =>
    obtain ⟨n, pos, le, rfl, reg, remain, left, passed⟩ := h.of_overwrite overwriting
    have more' : n ≠ 1 := left ▸ more
    refine ⟨_, .overwrite n pos le (by omega) (by omega), ?_⟩
    simp only [measure] at overwriting
    simp [Phase.Shows, measure, *]
  | overwriteEnd overwriting last =>
    obtain ⟨n, pos, le, rfl, reg, remain, left, passed⟩ := h.of_overwrite overwriting
    obtain rfl : n = 1 := left ▸ last
    refine ⟨_, .overwriteEnd pos le le_rfl hK, ?_⟩
    simp [Phase.Shows, measure, *]
  | regular overwriting reg more =>
    obtain ⟨n, pos, le, rfl, remain, left, passed⟩ := h.of_regular reg
    have more' : n ≠ 1 := remain ▸ more
    refine ⟨_, .regular n pos le (by omega) (by omega), ?_⟩
    simp only [measure] at overwriting reg
    simp [Phase.Shows, measure, *]
  | extend overwriting reg last enough =>
    obtain ⟨n, pos, le, rfl, remain, left, passed⟩ := h.of_regular reg
    obtain rfl : n = 1 := remain ▸ last
    refine ⟨_, .extend pos le hW le_rfl, ?_⟩
    simp [Phase.Shows]
  | regularEnd overwriting reg last few =>
    obtain ⟨n, pos, le, rfl, remain, left, passed⟩ := h.of_regular reg
    obtain rfl : n = 1 := remain ▸ last
    refine ⟨_, .regularEnd pos le le_rfl hK, ?_⟩
    simp only [measure] at overwriting
    simp [Phase.Shows, measure, *]
  | wait overwriting reg more =>
    obtain ⟨n, nonneg, below, rfl, remain, left, passed⟩ := h.of_waiting overwriting reg
    have more' : n + 1 ≠ t.cycleToRelease := passed ▸ more
    refine ⟨_, .wait n nonneg below (by omega) (by omega), ?_⟩
    simp only [measure] at overwriting reg
    simp [Phase.Shows, measure, *]
  | release overwriting reg due =>
    obtain ⟨n, nonneg, below, rfl, remain, left, passed⟩ := h.of_waiting overwriting reg
    have due' : n + 1 = t.cycleToRelease := passed ▸ due
    refine ⟨_, .release n nonneg below due' hR le_rfl, ?_⟩
    simp only [measure] at overwriting
    simp [Phase.Shows, measure, *]

omit hK hR hW in
theorem shows_initSignal (hK : 0 < t.cycleToRelease) (s : SignalVariables) :
    (Phase.waiting 0 (Int.le_refl 0) hK : Phase t).Shows (initSignal s) :=
  ⟨rfl, rfl, rfl, rfl, rfl⟩

end phases

structure ReleaseInvariant (t : Tuning) (s : SignalVariables) : Prop where
  exclusive : ¬(s.regularRelease = true ∧ s.overwriteRelease = true)
  regular_iff : s.regularRelease = true ↔
    1 ≤ s.regularRemainCycle ∧ s.regularRemainCycle ≤ t.regularCycle
  regular_off : s.regularRelease = false → s.regularRemainCycle = 0
  overwrite_iff : s.overwriteRelease = true ↔
    1 ≤ s.overwriteRemainCycle ∧ s.overwriteRemainCycle ≤ t.overwriteCycle
  overwrite_off : s.overwriteRelease = false → s.overwriteRemainCycle = 0
  passed_nonneg : 0 ≤ s.cyclePassed
  passed_le : s.cyclePassed ≤ t.cycleToRelease
  passed_eq_iff : s.cyclePassed = t.cycleToRelease ↔ s.regularRelease = true

theorem Phase.Shows.releaseInvariant {t : Tuning} {ph : Phase t} {s : SignalVariables}
    (hK : 0 < t.cycleToRelease) (h : ph.Shows s) : ReleaseInvariant t s := by
  cases ph with
  | waiting n nonneg below =>
    obtain ⟨reg, overwriting, remain, left, passed⟩ := h
    constructor <;> simp [reg, overwriting, remain, left, passed] <;> omega
  | regular n pos le =>
    obtain ⟨reg, overwriting, remain, left, passed⟩ := h
    constructor <;> simp [reg, overwriting, remain, left, passed, pos, le]
    omega
  | overwrite n pos le =>
    obtain ⟨reg, overwriting, remain, left, passed⟩ := h
    constructor <;> simp [reg, overwriting, remain, left, passed, pos, le] <;> omega

def callsAt (t : Tuning) (s : SignalVariables) (ms : ℕ → Measurement) (k : ℕ) :
    SignalVariables :=
  Run.run (call t) (initSignal s) ms k

def branchAt (t : Tuning) (s : SignalVariables) (ms : ℕ → Measurement) (k : ℕ) : Branch :=
  callBranch t (callsAt t s ms k) (ms k)

theorem exists_shows (t : Tuning) (hK : 0 < t.cycleToRelease) (hR : 0 < t.regularCycle)
    (hW : 0 < t.overwriteCycle) (s : SignalVariables) (ms : ℕ → Measurement) (k : ℕ) :
    ∃ ph : Phase t, ph.Shows (callsAt t s ms k) :=
  Run.run_invariant (fun _ s => ∃ ph : Phase t, ph.Shows s) ⟨_, shows_initSignal hK s⟩
    (fun k _ ⟨_, h⟩ => (h.call hK hR hW (ms k)).imp fun _ next => next.2) k

def Phase.normalLeft {t : Tuning} : Phase t → ℤ
  | .waiting n _ _ => t.cycleToRelease - n
  | .regular _ _ _ => 0
  | .overwrite _ _ _ => t.cycleToRelease

def Phase.releasedLeft {t : Tuning} : Phase t → ℤ
  | .waiting _ _ _ => 0
  | .regular n _ _ => n + t.overwriteCycle
  | .overwrite n _ _ => n

theorem Phase.Next.normalLeft {t : Tuning} {ph ph' : Phase t}
    (h : Phase.Next .normalCycle ph ph') :
    1 ≤ ph.normalLeft ∧ ph'.normalLeft ≤ ph.normalLeft - 1 := by
  cases h with
  | wait n => simp only [Phase.normalLeft]; omega
  | release n => simp only [Phase.normalLeft]; omega

theorem Phase.Next.releasedLeft {t : Tuning} {b : Branch} {ph ph' : Phase t}
    (hW : 0 < t.overwriteCycle) (released : b = .regularRelease ∨ b = .overwriteRelease)
    (h : Phase.Next b ph ph') :
    1 ≤ ph.releasedLeft ∧ ph'.releasedLeft ≤ ph.releasedLeft - 1 := by
  -- `extend` moves from `1 + overwriteCycle` to `overwriteCycle`
  cases h <;> simp only [Phase.releasedLeft, reduceCtorEq, or_self] at * <;> omega

def normalLeft (t : Tuning) (s : SignalVariables) : ℤ := t.cycleToRelease - s.cyclePassed

def releasedLeft (t : Tuning) (s : SignalVariables) : ℤ :=
  if s.regularRelease then s.regularRemainCycle + t.overwriteCycle else s.overwriteRemainCycle

theorem Phase.Shows.normalLeft_eq {t : Tuning} {ph : Phase t} {s : SignalVariables}
    (h : ph.Shows s) : RampMetering.normalLeft t s = ph.normalLeft := by
  cases ph <;> obtain ⟨reg, overwriting, remain, left, passed⟩ := h <;>
    simp [RampMetering.normalLeft, Phase.normalLeft, passed]

theorem Phase.Shows.releasedLeft_eq {t : Tuning} {ph : Phase t} {s : SignalVariables}
    (h : ph.Shows s) : RampMetering.releasedLeft t s = ph.releasedLeft := by
  cases ph <;> obtain ⟨reg, overwriting, remain, left, passed⟩ := h <;>
    simp [RampMetering.releasedLeft, Phase.releasedLeft, reg, remain, left]

theorem Phase.normalLeft_le {t : Tuning} (hK : 0 < t.cycleToRelease) (ph : Phase t) :
    ph.normalLeft ≤ t.cycleToRelease := by
  cases ph <;> simp only [Phase.normalLeft] <;> omega

theorem Phase.releasedLeft_le {t : Tuning} (hR : 0 < t.regularCycle)
    (hW : 0 < t.overwriteCycle) (ph : Phase t) :
    ph.releasedLeft ≤ t.regularCycle + t.overwriteCycle := by
  cases ph <;> simp only [Phase.releasedLeft] <;> omega

theorem call_newMaxGreen {t : Tuning} {s : SignalVariables} {m : Measurement}
    (h : callBranch t s m ≠ .normalCycle) :
    (call t s m).newMaxGreen = maxGreenUpperbound := by
  obtain ⟨q, step⟩ := call_step t s m
  generalize callBranch t s m = b at step h
  generalize call t s m = s' at step ⊢
  cases step with
  | wait => exact absurd rfl h
  | release => exact absurd rfl h
  | _ => rfl

/-- If every move in a branch of `spends` uses up something a phase has a bounded amount
of, among any `bound + 1` consecutive calls one takes another branch. -/
theorem exists_branch_not_spending (t : Tuning) (hK : 0 < t.cycleToRelease)
    (hR : 0 < t.regularCycle) (hW : 0 < t.overwriteCycle) (s : SignalVariables)
    (ms : ℕ → Measurement) (spends : Branch → Prop) (left : Phase t → ℤ)
    (resource : SignalVariables → ℤ) (bound : ℤ)
    (shown : ∀ ph s, ph.Shows s → resource s = left ph) (le_bound : ∀ ph, left ph ≤ bound)
    (spend : ∀ b ph ph', spends b → Phase.Next b ph ph' →
      1 ≤ left ph ∧ left ph' ≤ left ph - 1) (k : ℕ) :
    ∃ j : ℕ, k ≤ j ∧ (j : ℤ) ≤ k + max bound 0 ∧ ¬ spends (branchAt t s ms j) := by
  have shows := exists_shows t hK hR hW s ms
  refine Run.exists_not_spending (call t) (initSignal s) ms resource bound
    (fun s m => spends (callBranch t s m)) (fun k => ?_) (fun k spent => ?_) k
  · obtain ⟨ph, h⟩ := shows k
    exact (shown ph _ h).trans_le (le_bound ph)
  · obtain ⟨ph, h⟩ := shows k
    obtain ⟨ph', move, h'⟩ := h.call hK hR hW (ms k)
    have used := spend _ ph ph' spent move
    rw [← shown ph _ h, ← shown ph' _ h'] at used
    exact used

/-- The invariant holds along every run of calls; among any `K + 1` consecutive calls one
releases or finds the control not activated, and among any `R + W + 1` one does not release. -/
theorem release_automaton (t : Tuning) (hK : 0 < t.cycleToRelease) (hR : 0 < t.regularCycle)
    (hW : 0 < t.overwriteCycle) (s : SignalVariables) (ms : ℕ → Measurement) :
    (∀ k, ReleaseInvariant t (callsAt t s ms k)) ∧
    (∀ k, ∃ j : ℕ, k ≤ j ∧ (j : ℤ) ≤ k + t.cycleToRelease ∧
      branchAt t s ms j ≠ .normalCycle ∧
      (callsAt t s ms (j + 1)).newMaxGreen = maxGreenUpperbound) ∧
    (∀ k, ∃ j : ℕ, k ≤ j ∧ (j : ℤ) ≤ k + (t.regularCycle + t.overwriteCycle) ∧
      branchAt t s ms j ≠ .regularRelease ∧ branchAt t s ms j ≠ .overwriteRelease) := by
  refine ⟨fun k => ?_, fun k => ?_, fun k => ?_⟩
  · obtain ⟨ph, h⟩ := exists_shows t hK hR hW s ms k
    exact h.releaseInvariant hK
  · obtain ⟨j, hkj, hj, other⟩ := exists_branch_not_spending t hK hR hW s ms
      (fun b => b = .normalCycle) Phase.normalLeft (normalLeft t) t.cycleToRelease
      (fun _ _ h => h.normalLeft_eq) (Phase.normalLeft_le hK)
      (fun _ _ _ normal move => Phase.Next.normalLeft (normal ▸ move)) k
    exact ⟨j, hkj, by omega, other, call_newMaxGreen other⟩
  · obtain ⟨j, hkj, hj, other⟩ := exists_branch_not_spending t hK hR hW s ms
      (fun b => b = .regularRelease ∨ b = .overwriteRelease) Phase.releasedLeft (releasedLeft t)
      (t.regularCycle + t.overwriteCycle)
      (fun _ _ h => h.releasedLeft_eq) (Phase.releasedLeft_le hR hW)
      (fun _ _ _ released move => move.releasedLeft hW released) k
    exact ⟨j, hkj, by omega, fun h => other (Or.inl h), fun h => other (Or.inr h)⟩

def occupied (ltOcc rtOcc : ℚ) : Measurement where
  ltOcc := ltOcc
  oldLtOcc := 0
  rtOcc := rtOcc
  oldRampQueue := 0
  realtimeData := fun _ _ => 0
  dataRow := 0
  prevCycleTerminateTime := 0
  currentCycleTerminateTime := 0
  ramp := staticRamp

theorem release_automaton_busy_left :
    ∃ j : ℕ, 7 ≤ j ∧ (j : ℤ) ≤ 7 + 3 ∧
      branchAt {} staticSignal (fun _ => occupied (1 / 2) 0) j ≠ .normalCycle ∧
      (callsAt {} staticSignal (fun _ => occupied (1 / 2) 0) (j + 1)).newMaxGreen = 30 :=
  (release_automaton {} (by decide) (by decide) (by decide) staticSignal
    (fun _ => occupied (1 / 2) 0)).2.1 7

end RampMetering
