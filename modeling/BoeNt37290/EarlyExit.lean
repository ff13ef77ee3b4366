/-
`nt37290_commit_done` and the early-exit trigger, after every frame.

With early exit on, a commit that comes 17 ms or more after the previous one
stamps a mode set and either sends one 0x2C, to pull the panel out of its
lowered rate before the frame, or, after 50 ms with an idle delay configured,
renegotiates the current mode. Because the stamp comes first, the resolver
then sees no time passed since the last mode set and holds idle back: the long
idle turns auto mode off (`commit_done_early_exit_contract`). With early exit
off, a commit in a mode that idles on inactivity resumes an idle that was held
back (`commit_done_resumes_deferred_idle`); it cannot be swallowed by the
early-exit branch, since held-back idle has no features (`Inv.delayed`).

`nt37290_commit_done` has no AOD guard, unlike `nt37290_set_self_refresh`, and
AOD entry through the common LP path leaves the software features as they
were: a commit in AOD after an idle with early exit still triggers it
(`commit_done_in_aod_triggers_early_exit`).
-/
import BoeNt37290.Invariant

set_option autoImplicit false

namespace BoeNt37290

open nt37290_panel_feature exynos_panel_idle_mode

/-! ## The branches of the trigger -/

section
variable {s : nt37290_panel} {cur : exynos_panel_mode}

/-- On an active panel with a mode and early exit on, a commit triggers early exit. -/
theorem commit_done_of_early_exit (hact : s.active = true) (hcur : s.current_mode = some cur)
    (hee : s.feat.early_exit = true) : nt37290_commit_done s = nt37290_trigger_early_exit s := by
  simp [nt37290_commit_done, hcur, hact, hee]

/-- From 17 ms after the last commit on, with no long idle to handle, the trigger stamps a
mode set and sends one 0x2C. -/
theorem trigger_early_exit_stream_2c (hmin : EARLY_EXIT_THRESHOLD_US ≤ s.now - s.last_commit_ts)
    (hshort : s.now - s.last_commit_ts ≤ IDLE_DELAY_THRESHOLD_US ∨ s.inputs.idle_delay_ms = 0) :
    nt37290_trigger_early_exit s = some
        { s with last_mode_set_ts := s.now, log := s.log ++ EXYNOS_DCS_WRITE_TABLE stream_2c } := by
  unfold nt37290_trigger_early_exit
  dsimp only
  rw [if_neg (by omega), if_neg (by unfold IDLE_DELAY_THRESHOLD_US at hshort ⊢; omega)]

/-- After a long idle with an idle delay configured, the trigger stamps a mode set and
renegotiates the current mode. -/
theorem trigger_early_exit_long_idle (hcur : s.current_mode = some cur)
    (hd : s.inputs.idle_delay_ms ≠ 0) (hlong : s.now - s.last_commit_ts > IDLE_DELAY_THRESHOLD_US) :
    nt37290_trigger_early_exit s =
      (nt37290_change_frequency { s with last_mode_set_ts := s.now } cur).map Prod.fst := by
  unfold nt37290_trigger_early_exit
  dsimp only
  rw [if_neg (by unfold EARLY_EXIT_THRESHOLD_US IDLE_DELAY_THRESHOLD_US at *; omega),
    if_pos ⟨hd, hlong⟩]
  simp only [hcur]

end

/-! ## Long idle turns auto mode off -/

section
variable (s : nt37290_panel) (pmode : exynos_panel_mode)

/-- Right after a mode-set stamp, with an idle delay configured, the resolver holds any idle
rate back. -/
theorem auto_mode_vrefresh_just_stamped (hd : s.inputs.idle_delay_ms ≠ 0)
    (hts : s.last_mode_set_ts = s.now) :
    (nt37290_update_min_idle_vrefresh s pmode).auto_mode_vrefresh = 0 := by
  have hdelta : panel_get_idle_time_delta s = 0 := by simp [panel_get_idle_time_delta, hts]
  rw [update_min_idle_vrefresh_eq]
  by_cases hr : resolved s pmode = 0
  · simp [hr]
  · simp [held_back, hr, hd, hdelta, Nat.pos_of_ne_zero hd]

/-- With no idle rate there are no features. -/
theorem desired_feat_of_auto_zero
    (h : (nt37290_update_min_idle_vrefresh s pmode).auto_mode_vrefresh = 0) :
    desired_feat s pmode = bitmap_zero := by
  simp [desired_feat, nt37290_change_frequency.idle_active, h]

end

/-- **Early exit after a commit.** On an active panel with a mode and early exit on: after a
long idle (more than 50 ms) with an idle delay configured, `nt37290_commit_done` stamps a
mode set, renegotiates, and ends with no features, desired or committed, and no idle rate,
resolved or committed; from 17 ms on otherwise, it stamps a mode set, sends one 0x2C and
changes nothing else. -/
theorem commit_done_early_exit_contract {s : nt37290_panel} {cur : exynos_panel_mode}
    (hact : s.active = true) (hcur : s.current_mode = some cur)
    (hee : test_bit G10_FEAT_EARLY_EXIT s.feat = true) :
    (s.inputs.idle_delay_ms ≠ 0 → s.now - s.last_commit_ts > IDLE_DELAY_THRESHOLD_US →
      ∃ s', nt37290_commit_done s = some s' ∧ s'.last_mode_set_ts = s.now ∧
        s'.feat = bitmap_zero ∧ s'.hw_feat = bitmap_zero ∧
        s'.auto_mode_vrefresh = 0 ∧ s'.hw_idle_vrefresh = 0) ∧
    (EARLY_EXIT_THRESHOLD_US ≤ s.now - s.last_commit_ts →
      (s.now - s.last_commit_ts ≤ IDLE_DELAY_THRESHOLD_US ∨ s.inputs.idle_delay_ms = 0) →
      nt37290_commit_done s = some
        { s with last_mode_set_ts := s.now, log := s.log ++ EXYNOS_DCS_WRITE_TABLE stream_2c }) := by
  rw [test_bit_early_exit] at hee
  rw [commit_done_of_early_exit hact hcur hee]
  refine ⟨fun hd hlong => ?_, fun hmin hshort => trigger_early_exit_stream_2c hmin hshort⟩
  let t : nt37290_panel := { s with last_mode_set_ts := s.now }
  have ha := auto_mode_vrefresh_just_stamped t cur hd rfl
  rw [trigger_early_exit_long_idle hcur hd hlong, change_frequency_eq t hcur]
  refine ⟨_, rfl, ?_, ?_, ?_, ha, ha⟩ <;>
    simp [change_frequency_post, desired_feat_of_auto_zero t cur ha, ha, t]

/-- Early exit on at 120 Hz with idle down to 10 Hz and a 100 ms idle delay, resolved after
200 ms, then a commit and 60 ms. -/
def long_idle_run : List Op :=
  [.mode_set nt37290_mode_120, .enable,
   .set_inputs ⟨true, .HBM_OFF, false, true, 10, 100, 500⟩, .tick 200000,
   .set_self_refresh true, .record_commit, .tick 60000]

/-- Both branches at 120 Hz with idle down to 10 Hz: 20 ms after a commit with no idle delay,
one 0x2C; 60 ms after a commit with a 100 ms idle delay, a renegotiation that turns idle
off. -/
theorem early_exit_both_branches :
    (∃ s, Reachable s ∧ s.now - s.last_commit_ts = 20000 ∧
      nt37290_commit_done s = some
        { s with last_mode_set_ts := s.now, log := s.log ++ EXYNOS_DCS_WRITE_TABLE stream_2c }) ∧
    (∃ s, Reachable s ∧ s.current_mode = some nt37290_mode_120 ∧ s.hw_idle_vrefresh = 10 ∧
      s.now - s.last_commit_ts = 60000 ∧ ∃ s', nt37290_commit_done s = some s' ∧
        s'.last_mode_set_ts = s.now ∧ s'.feat = bitmap_zero ∧ s'.hw_feat = bitmap_zero ∧
        s'.auto_mode_vrefresh = 0 ∧ s'.hw_idle_vrefresh = 0) := by
  constructor
  · obtain ⟨s, hs, hp⟩ := Reachable.of_probe_run 8
      (self_refresh_idle_run ++ [Op.record_commit, Op.tick 20000])
      (fun s => s.active && s.current_mode == some nt37290_mode_120 && s.feat.early_exit &&
        s.now - s.last_commit_ts == 20000 && s.inputs.idle_delay_ms == 0) rfl (by decide)
    simp only [Bool.and_eq_true, beq_iff_eq] at hp
    obtain ⟨⟨⟨⟨hact, hcur⟩, hee⟩, hdelta⟩, hd⟩ := hp
    refine ⟨s, hs, hdelta, ?_⟩
    exact (commit_done_early_exit_contract hact hcur (by simpa using hee)).2
      (by rw [hdelta]; decide) (.inr hd)
  · obtain ⟨s, hs, hp⟩ := Reachable.of_probe_run 8 long_idle_run
      (fun s => s.active && s.current_mode == some nt37290_mode_120 && s.feat.early_exit &&
        s.hw_idle_vrefresh == 10 && s.now - s.last_commit_ts == 60000 &&
        s.inputs.idle_delay_ms == 100) rfl (by decide)
    simp only [Bool.and_eq_true, beq_iff_eq] at hp
    obtain ⟨⟨⟨⟨⟨hact, hcur⟩, hee⟩, hi⟩, hdelta⟩, hd⟩ := hp
    refine ⟨s, hs, hcur, hi, hdelta, ?_⟩
    exact (commit_done_early_exit_contract hact hcur (by simpa using hee)).1
      (by rw [hd]; decide) (by rw [hdelta]; decide)

/-! ## Held-back idle is resumed -/

/-- **A held-back idle is resumed.** On an active panel of a reachable state whose mode idles
on inactivity and whose idle was held back, once the idle delay has passed since the last mode
set, `nt37290_commit_done` renegotiates the current mode (early exit is off, so the trigger
cannot take the commit), and ends with idle no longer held back; when the resolver gives an
idle rate, early exit and auto frame insertion are on, committed, at that rate. -/
theorem commit_done_resumes_deferred_idle {s : nt37290_panel} {cur : exynos_panel_mode}
    (h : Reachable s) (hact : s.active = true) (hcur : s.current_mode = some cur)
    (hidle : cur.idle_mode = IDLE_MODE_ON_INACTIVITY) (hd : s.delayed_idle = true)
    (hdelay : s.inputs.idle_delay_ms ≤ panel_get_idle_time_delta s) :
    nt37290_commit_done s = (nt37290_change_frequency s cur).map Prod.fst ∧
    ∃ s', nt37290_commit_done s = some s' ∧ s'.delayed_idle = false ∧
      ((nt37290_update_min_idle_vrefresh s cur).auto_mode_vrefresh ≠ 0 →
        test_bit G10_FEAT_EARLY_EXIT s'.feat = true ∧ test_bit G10_FEAT_FRAME_AUTO s'.feat = true ∧
        s'.hw_feat = s'.feat ∧
        s'.hw_idle_vrefresh = (nt37290_update_min_idle_vrefresh s cur).auto_mode_vrefresh) := by
  have hfeat := ((reachable_inv h).delayed hd).1
  have hcd : nt37290_commit_done s = (nt37290_change_frequency s cur).map Prod.fst := by
    simp [nt37290_commit_done, hcur, hact, hfeat, bitmap_zero, hidle, hd]
  refine ⟨hcd, _, by rw [hcd, change_frequency_eq s hcur]; rfl, ?_, fun ha => ?_⟩
  · simp [change_frequency_post, update_min_idle_vrefresh_eq, held_back, Nat.not_lt.2 hdelay]
  · have hi : nt37290_change_frequency.idle_active (nt37290_update_min_idle_vrefresh s cur) cur :=
      by simp [nt37290_change_frequency.idle_active, ha, hidle]
    simp [change_frequency_post, desired_feat, hi]

/-- A mode at 120 Hz that idles on inactivity. -/
def inactivity_mode_120 : exynos_panel_mode := ⟨120, false, IDLE_MODE_ON_INACTIVITY⟩

/-- Idle down to 10 Hz on `inactivity_mode_120` with a 100 ms idle delay: a renegotiation
right after a mode set holds it back, then 100 ms pass. -/
def deferred_idle_run : List Op :=
  [.mode_set inactivity_mode_120, .enable,
   .set_inputs ⟨false, .HBM_OFF, false, true, 10, 100, 500⟩, .record_mode_set,
   .set_self_refresh false, .tick 100000]

theorem deferred_idle_resumed :
    ∃ s, Reachable s ∧ s.delayed_idle = true ∧ ∃ s', nt37290_commit_done s = some s' ∧
      s'.delayed_idle = false ∧ s'.hw_idle_vrefresh = 10 := by
  obtain ⟨s, hs, hp⟩ := Reachable.of_probe_run 8 deferred_idle_run
    (fun s => s.active && s.current_mode == some inactivity_mode_120 && s.delayed_idle &&
      decide (s.inputs.idle_delay_ms ≤ panel_get_idle_time_delta s) &&
      (nt37290_update_min_idle_vrefresh s inactivity_mode_120).auto_mode_vrefresh == 10)
    rfl (by decide)
  simp only [Bool.and_eq_true, beq_iff_eq, decide_eq_true_eq] at hp
  obtain ⟨⟨⟨⟨hact, hcur⟩, hd⟩, hdelay⟩, ha⟩ := hp
  obtain ⟨-, s', hs', hd', hfa⟩ := commit_done_resumes_deferred_idle hs hact hcur rfl hd hdelay
  exact ⟨s, hs, hd, s', hs', hd', by rw [(hfa (by rw [ha]; decide)).2.2.2, ha]⟩

/-! ## Early exit in AOD -/

/-- Early exit on at 120 Hz with idle down to 10 Hz and no idle delay, then AOD entry, a
commit, and 17 ms. -/
def aod_stream_2c_run : List Op :=
  [.mode_set nt37290_mode_120, .enable, .set_inputs ⟨true, .HBM_OFF, false, true, 10, 0, 500⟩,
   .set_self_refresh true, .set_lp_mode nt37290_lp_mode, .record_commit, .tick 17000]

/-- The same with a 100 ms idle delay, resolved after 200 ms, then AOD entry, a commit, and
60 ms. -/
def aod_long_idle_run : List Op :=
  [.mode_set nt37290_mode_120, .enable,
   .set_inputs ⟨true, .HBM_OFF, false, true, 10, 100, 500⟩, .tick 200000,
   .set_self_refresh true, .set_lp_mode nt37290_lp_mode, .record_commit, .tick 60000]

/-- After `aod_long_idle_run` the panel is in AOD with 120 Hz committed, and a commit
renegotiates the LP mode: forced, since the current mode is LP, it sends the batch for 30 Hz
in manual mode and commits 30 Hz. -/
theorem aod_long_idle_commit_done :
    ∃ s, Reachable s ∧ s.current_mode = some nt37290_lp_mode ∧ s.hw_vrefresh = 120 ∧
      ∃ s', nt37290_commit_done s = some s' ∧
        s'.log = s.log ++ (nt37290_update_panel_feat.batch 30 0 false false ++
          [.backlight_state_changed]) ∧ s'.hw_vrefresh = 30 := by
  obtain ⟨s, hs, hp⟩ := Reachable.of_probe_run 8 aod_long_idle_run
    (fun s => s.active && s.current_mode == some nt37290_lp_mode && s.feat.early_exit &&
      s.now - s.last_commit_ts == 60000 && s.inputs.idle_delay_ms == 100 &&
      s.hw_vrefresh == 120) rfl (by decide)
  simp only [Bool.and_eq_true, beq_iff_eq] at hp
  obtain ⟨⟨⟨⟨⟨hact, hcur⟩, hee⟩, hdelta⟩, hd⟩, hv⟩ := hp
  let t : nt37290_panel := { s with last_mode_set_ts := s.now }
  have ha : (nt37290_update_min_idle_vrefresh t nt37290_lp_mode).auto_mode_vrefresh = 0 :=
    auto_mode_vrefresh_unsupported t nt37290_lp_mode rfl
  have hu : change_frequency_updated t nt37290_lp_mode nt37290_lp_mode = true := rfl
  refine ⟨s, hs, hcur, hv, change_frequency_post t nt37290_lp_mode true, ?_, ?_, rfl⟩
  · rw [commit_done_of_early_exit hact hcur hee,
      trigger_early_exit_long_idle hcur (by omega) (by rw [hdelta]; decide),
      change_frequency_eq t hcur, hu]
    rfl
  · simp only [change_frequency_post, ha, desired_feat_of_auto_zero t _ ha, ite_true]
    rfl

/-- **`nt37290_commit_done` triggers early exit in AOD.** AOD entry leaves early exit in the
software features and `nt37290_commit_done` does not check for an LP mode: 17 ms after a
commit in AOD it stamps a mode set and sends 0x2C, and with an idle delay, after 50 ms, it
renegotiates the LP mode itself and sends a frame-skip batch (0x2F = 0x30) that carries the
"Unsupported vrefresh 30Hz for manual mode" warning and commits 30 Hz to the shadow. -/
theorem commit_done_in_aod_triggers_early_exit :
    (∃ s, Reachable s ∧ s.current_mode = some nt37290_lp_mode ∧ s.last_mode_set_ts ≠ s.now ∧
      nt37290_commit_done s = some
        { s with last_mode_set_ts := s.now, log := s.log ++ EXYNOS_DCS_WRITE_TABLE stream_2c }) ∧
    (∃ s, Reachable s ∧ s.current_mode = some nt37290_lp_mode ∧ s.hw_vrefresh = 120 ∧
      ∃ s' l, nt37290_commit_done s = some s' ∧ s'.log = s.log ++ l ∧ regVal 0x2F l = some [0x30] ∧
        Event.warn (.unsupported_vrefresh 30) ∈ l ∧ s'.hw_vrefresh = 30) := by
  constructor
  · obtain ⟨s, hs, hp⟩ := Reachable.of_probe_run 8 aod_stream_2c_run
      (fun s => s.active && s.current_mode == some nt37290_lp_mode && s.feat.early_exit &&
        s.now - s.last_commit_ts == 17000 && s.inputs.idle_delay_ms == 0 &&
        s.last_mode_set_ts != s.now) rfl (by decide)
    simp only [Bool.and_eq_true, beq_iff_eq, bne_iff_ne] at hp
    obtain ⟨⟨⟨⟨⟨hact, hcur⟩, hee⟩, hdelta⟩, hd⟩, hts⟩ := hp
    refine ⟨s, hs, hcur, hts, ?_⟩
    rw [commit_done_of_early_exit hact hcur hee]
    exact trigger_early_exit_stream_2c (by rw [hdelta]; decide) (.inr hd)
  · obtain ⟨s, hs, hcur, hv, s', hc, hl, hv'⟩ := aod_long_idle_commit_done
    exact ⟨s, hs, hcur, hv, s', _, hc, hl, by rw [regVal_append, regVal_batch_2F]; rfl,
      by decide, hv'⟩

end BoeNt37290
