/-
The invariant of the reconciliation engine, and that it holds in every
reachable state.

`Inv` ties the software features, the committed shadow, the resolver's
output and the idle rate reported to the pipeline together:

* the two correlated features are set and cleared together, in `feat` and in
  `hw_feat`;
* `auto_mode_vrefresh` and `hw_idle_vrefresh` are idle rates the panel has a
  payload for (0, 10, 30 or 60);
* `FRAME_AUTO` in `feat` needs an idle rate, and a held-back idle has none and
  no features;
* an active panel has a current mode, and reports a nonzero idle rate only
  when the shadow runs auto frame insertion at exactly that rate.

The work is in two places: `change_frequency_post_inv`, the state
`nt37290_change_frequency` leaves satisfies `Inv` whatever it started from
(only the "active has a mode" part is carried over), and `enable_inv`, a
forced commit of the stored features keeps the coupling because `feat` had
it. Every other entry point writes none of these fields (`Inv.congr`).

What does not hold is the second half of the committed-state invariant:
`hw_idle_vrefresh < hw_vrefresh` fails after `nt37290_enable` commits a stored
idle rate together with the rate of a mode it was not resolved for
(`enable_commits_stale_idle_rate`).
-/
import BoeNt37290.System

set_option autoImplicit false

namespace BoeNt37290

open nt37290_panel_feature exynos_panel_idle_mode

/-- The invariant of every reachable state. -/
structure Inv (s : nt37290_panel) : Prop where
  feat_coupled : s.feat.early_exit = s.feat.frame_auto
  hw_feat_coupled : s.hw_feat.early_exit = s.hw_feat.frame_auto
  auto_rate : IdleRate s.auto_mode_vrefresh
  frame_auto_rate : s.feat.frame_auto = true → s.auto_mode_vrefresh ≠ 0
  delayed : s.delayed_idle = true → s.feat = bitmap_zero ∧ s.auto_mode_vrefresh = 0
  hw_idle_rate : IdleRate s.hw_idle_vrefresh
  active_mode : s.active = true → s.current_mode.isSome
  panel_idle : s.active = true → s.panel_idle_vrefresh ≠ 0 →
    s.hw_feat = ⟨true, true⟩ ∧ s.panel_idle_vrefresh = s.hw_idle_vrefresh

/-- `Inv` reads eight fields; a step that keeps them keeps `Inv`. -/
theorem Inv.congr {s s' : nt37290_panel} (h : Inv s) (hf : s'.feat = s.feat)
    (hh : s'.hw_feat = s.hw_feat) (ha : s'.auto_mode_vrefresh = s.auto_mode_vrefresh)
    (hd : s'.delayed_idle = s.delayed_idle) (hi : s'.hw_idle_vrefresh = s.hw_idle_vrefresh)
    (hact : s'.active = s.active) (hm : s'.current_mode = s.current_mode)
    (hp : s'.panel_idle_vrefresh = s.panel_idle_vrefresh) : Inv s' := by
  obtain ⟨h1, h2, h3, h4, h5, h6, h7, h8⟩ := h
  exact ⟨hf ▸ h1, hh ▸ h2, ha ▸ h3, hf ▸ ha ▸ h4, hd ▸ hf ▸ ha ▸ h5, hi ▸ h6, hact ▸ hm ▸ h7,
    hact ▸ hp ▸ hh ▸ hi ▸ h8⟩

theorem Inv.with_log {s : nt37290_panel} (h : Inv s) (l : List Event) : Inv { s with log := l } :=
  h.congr rfl rfl rfl rfl rfl rfl rfl rfl

theorem probe_inv (panel_rev : UInt32) : Inv (nt37290_panel_probe panel_rev) :=
  ⟨rfl, rfl, Or.inl rfl, nofun, nofun, Or.inl rfl, nofun, nofun⟩

/-! ## `nt37290_change_frequency` -/

section
variable (s : nt37290_panel) (pmode : exynos_panel_mode)

/-- The features asked for are both set or both clear. -/
theorem desired_feat_cases : desired_feat s pmode = ⟨true, true⟩ ∧
      nt37290_change_frequency.idle_active (nt37290_update_min_idle_vrefresh s pmode) pmode ∨
    desired_feat s pmode = bitmap_zero ∧
      nt37290_change_frequency.idle_active (nt37290_update_min_idle_vrefresh s pmode) pmode = false := by
  unfold desired_feat
  cases nt37290_change_frequency.idle_active (nt37290_update_min_idle_vrefresh s pmode) pmode <;>
    simp

/-- `idle_active` needs a resolved idle rate. -/
theorem idle_active_auto (h : nt37290_change_frequency.idle_active
    (nt37290_update_min_idle_vrefresh s pmode) pmode = true) :
    (nt37290_update_min_idle_vrefresh s pmode).auto_mode_vrefresh ≠ 0 := by
  simp only [nt37290_change_frequency.idle_active, Bool.and_eq_true, bne_iff_ne] at h
  exact h.1

/-- With a resolved idle rate and self refresh on, the mode idles. -/
theorem idle_active_of_self_refresh (ha : (nt37290_update_min_idle_vrefresh s pmode).auto_mode_vrefresh ≠ 0)
    (hsr : s.inputs.self_refresh_active = true) :
    nt37290_change_frequency.idle_active (nt37290_update_min_idle_vrefresh s pmode) pmode = true := by
  have hm : pmode.idle_mode ≠ IDLE_MODE_UNSUPPORTED := fun hm =>
    ha (auto_mode_vrefresh_unsupported s pmode hm)
  simp only [nt37290_change_frequency.idle_active, update_min_idle_vrefresh_frame, hsr]
  cases hi : pmode.idle_mode <;> simp_all

/-- **The state `nt37290_change_frequency` leaves satisfies the invariant**, from any state
whose active panel has a mode. -/
theorem change_frequency_post_inv (u : Bool) (hm : s.active = true → s.current_mode.isSome) :
    Inv (change_frequency_post s pmode u) := by
  have hrate := auto_mode_vrefresh_idleRate s pmode
  refine ⟨?_, ?_, hrate, ?_, ?_, hrate, by simpa [change_frequency_post] using hm, ?_⟩
  · rcases desired_feat_cases s pmode with ⟨h, -⟩ | ⟨h, -⟩ <;> simp [change_frequency_post, h, bitmap_zero]
  · rcases desired_feat_cases s pmode with ⟨h, -⟩ | ⟨h, -⟩ <;> simp [change_frequency_post, h, bitmap_zero]
  · rcases desired_feat_cases s pmode with ⟨h, ha⟩ | ⟨h, -⟩
    · exact fun _ => idle_active_auto s pmode ha
    · simp [change_frequency_post, h, bitmap_zero]
  · intro hd
    have ha := auto_mode_vrefresh_of_delayed s pmode hd
    rcases desired_feat_cases s pmode with ⟨-, hi⟩ | ⟨h, -⟩
    · exact absurd ha (idle_active_auto s pmode hi)
    · exact ⟨h, ha⟩
  · intro _ hp
    simp only [change_frequency_post] at hp ⊢
    split_ifs at hp with hsr
    · have hi := idle_active_of_self_refresh s pmode hp hsr
      simp [desired_feat, hi, hsr]
    · exact absurd rfl hp

end

/-- `nt37290_change_frequency` keeps the invariant. -/
theorem change_frequency_inv {s s' : nt37290_panel} {pmode : exynos_panel_mode} {u : Bool}
    (h : Inv s) (hc : nt37290_change_frequency s pmode = some (s', u)) : Inv s' := by
  cases hcur : s.current_mode with
  | none => simp [nt37290_change_frequency, hcur] at hc
  | some cur =>
    rw [change_frequency_eq s hcur] at hc
    cases hc
    exact change_frequency_post_inv s pmode _ h.active_mode

/-! ## The entry points -/

section
variable {s s' : nt37290_panel}

theorem Inv.set_current_mode (h : Inv s) (pmode : exynos_panel_mode) :
    Inv (s.set_current_mode pmode) :=
  ⟨h.1, h.2, h.3, h.4, h.5, h.6, fun _ => rfl, h.8⟩

theorem mode_set_inv {pmode : exynos_panel_mode} (h : Inv s)
    (hs : nt37290_mode_set s pmode = some s') : Inv s' := by
  rcases mode_set_cases hs with ⟨-, rfl⟩ | ⟨-, u, hc⟩
  · exact h
  · exact change_frequency_inv h hc

theorem set_nolp_mode_inv {pmode : exynos_panel_mode} (h : Inv s)
    (hs : nt37290_set_nolp_mode s pmode = some s') : Inv s' := by
  rcases set_nolp_mode_cases hs with ⟨-, rfl⟩ | ⟨-, t, u, hc, rfl⟩
  · exact h
  · exact (change_frequency_inv (h.with_log _) hc).with_log _

theorem set_self_refresh_inv {enable u : Bool} (h : Inv s)
    (hs : nt37290_set_self_refresh s enable = some (s', u)) : Inv s' := by
  rcases set_self_refresh_cases hs with rfl | ⟨cur, -, -, hc⟩
  · exact h
  · exact change_frequency_inv h hc

theorem commit_done_inv (h : Inv s) (hs : nt37290_commit_done s = some s') : Inv s' := by
  have h' : Inv { s with last_mode_set_ts := s.now } := h.congr rfl rfl rfl rfl rfl rfl rfl rfl
  rcases commit_done_cases hs with rfl | ⟨-, cur, -, rfl | ⟨u, hc | hc⟩⟩
  · exact h
  · exact h'.with_log _
  · exact change_frequency_inv h hc
  · exact change_frequency_inv h' hc

/-- A forced commit of the stored features keeps the coupling, and resets the reported
idle rate. -/
theorem enable_inv {ret : Int} (h : Inv s) (hs : nt37290_enable s = some (s', ret)) :
    Inv (if ret = 0 then { s' with active := true } else s') := by
  cases hcur : s.current_mode with
  | none =>
    simp only [nt37290_enable, hcur, Option.some.injEq, Prod.mk.injEq] at hs
    obtain ⟨rfl, rfl⟩ := hs
    rw [if_neg (by decide)]
    exact h.congr rfl rfl rfl rfl rfl rfl hcur.symm rfl
  | some pmode =>
    rw [enable_eq s hcur] at hs
    obtain ⟨rfl, rfl⟩ := Prod.mk.inj (Option.some.inj hs)
    exact ⟨h.1, h.1, h.3, h.4, h.5, h.3, fun _ => by simp [hcur], fun _ hp => absurd rfl hp⟩

theorem disable_inv (h : Inv s) : Inv (nt37290_disable s) :=
  ⟨h.1, rfl, h.3, h.4, h.5, Or.inl rfl, nofun, nofun⟩

/-- **Every step keeps the invariant.** -/
theorem step_inv {op : Op} (h : Inv s) (hs : step s op = some s') : Inv s' := by
  cases op with
  | mode_set pmode =>
    obtain ⟨t, ht, rfl⟩ := Option.map_eq_some'.1 hs
    exact (mode_set_inv h ht).set_current_mode pmode
  | set_lp_mode pmode =>
    cases hs
    split
    · exact (h.with_log _).set_current_mode pmode
    · exact h.set_current_mode pmode
  | set_nolp_mode pmode =>
    obtain ⟨t, ht, rfl⟩ := Option.map_eq_some'.1 hs
    exact (set_nolp_mode_inv h ht).set_current_mode pmode
  | set_self_refresh enable =>
    obtain ⟨⟨t, u⟩, ht, rfl⟩ := Option.map_eq_some'.1 hs
    exact set_self_refresh_inv h ht
  | commit_done => exact commit_done_inv h hs
  | enable =>
    obtain ⟨⟨t, ret⟩, ht, rfl⟩ := Option.map_eq_some'.1 hs
    exact enable_inv h ht
  | disable => cases hs; exact disable_inv h
  | set_brightness br =>
    cases hs
    obtain ⟨l, hl, -⟩ := set_brightness_log s br
    rw [hl]; exact h.with_log _
  | set_local_hbm_mode local_hbm_en =>
    cases hs
    obtain ⟨l, hl, -⟩ := set_local_hbm_mode_log s local_hbm_en
    rw [hl]; exact h.congr rfl rfl rfl rfl rfl rfl rfl rfl
  | update_te2 timing =>
    cases hs
    obtain ⟨l, hl, -⟩ := update_te2_log s timing
    rw [hl]; exact h.with_log _
  | set_binned_lp binned_lp => cases hs; exact h.with_log _
  | panel_init => cases hs; exact h.with_log _
  | set_inputs i => cases hs; exact h.congr rfl rfl rfl rfl rfl rfl rfl rfl
  | tick us => cases hs; exact h.congr rfl rfl rfl rfl rfl rfl rfl rfl
  | record_commit => cases hs; exact h.congr rfl rfl rfl rfl rfl rfl rfl rfl
  | record_mode_set => cases hs; exact h.congr rfl rfl rfl rfl rfl rfl rfl rfl

end

/-- Every reachable state, through any restriction of the runs, satisfies `Inv`. -/
theorem reachable_inv {adm : nt37290_panel → Op → Prop} {s : nt37290_panel}
    (h : ReachableBy adm s) : Inv s := by
  induction h with
  | probe panel_rev => exact probe_inv panel_rev
  | step _ _ _ _ hs ih => exact step_inv ih hs

/-! ## No `NULL` current mode is dereferenced -/

theorem change_frequency_isSome {s : nt37290_panel} (pmode : exynos_panel_mode)
    (h : s.current_mode.isSome) : (nt37290_change_frequency s pmode).isSome := by
  obtain ⟨cur, hcur⟩ := Option.isSome_iff_exists.1 h
  rw [change_frequency_eq s hcur]
  rfl

theorem commit_done_isSome {s : nt37290_panel} : (nt37290_commit_done s).isSome := by
  unfold nt37290_commit_done
  split
  · rfl
  rename_i cur hcur
  have h : s.current_mode.isSome := by simp [hcur]
  split
  · rfl
  split
  · unfold nt37290_trigger_early_exit
    dsimp only
    split
    · rfl
    split
    · split
      · rename_i hnone
        simp [hcur] at hnone
      · exact Option.isSome_map'.trans
          (change_frequency_isSome (s := { s with last_mode_set_ts := s.now }) _ h)
    · rfl
  split
  · exact Option.isSome_map'.trans (change_frequency_isSome _ h)
  · rfl

/-- **No step dereferences a `NULL` current mode.** From every state of the invariant, so
from every reachable state, every step returns: an active panel always has a mode. -/
theorem step_isSome {s : nt37290_panel} (hi : Inv s) (op : Op) : (step s op).isSome := by
  cases op with
  | mode_set pmode =>
    simp only [step, nt37290_mode_set, Option.isSome_map']
    split
    · rfl
    · rename_i hact
      exact Option.isSome_map'.trans (change_frequency_isSome pmode (hi.active_mode (by simpa using hact)))
  | set_nolp_mode pmode =>
    simp only [step, nt37290_set_nolp_mode, Option.isSome_map']
    split
    · rfl
    · rename_i hact
      exact Option.isSome_map'.trans (change_frequency_isSome pmode (hi.active_mode (by simpa using hact)))
  | set_self_refresh enable =>
    simp only [step, nt37290_set_self_refresh, Option.isSome_map']
    split
    · rfl
    · split
      · rfl
      · exact change_frequency_isSome _ (by simp [*])
  | commit_done => exact commit_done_isSome
  | enable =>
    simp only [step, nt37290_enable, Option.isSome_map']
    split
    · rfl
    · simp only [update_panel_feat_eq, Option.map_some', Option.isSome_some]
  | _ => rfl

/-! ## What every run keeps -/

section
variable {s : nt37290_panel}

/-- **The driver never dereferences a `NULL` current mode**: from every reachable state,
every step returns. -/
theorem reachable_step_some (h : Reachable s) (op : Op) : ∃ s', step s op = some s' :=
  Option.isSome_iff_exists.1 (step_isSome (reachable_inv h) op)

/-- **Feature coupling.** In every reachable state the two correlated features are both
set or both clear, in the software features and in the committed shadow; auto frame
insertion comes with an idle rate the panel has a payload for, and held-back idle has
neither features nor a rate. -/
theorem reachable_feat_coupled (h : Reachable s) :
    (test_bit G10_FEAT_EARLY_EXIT s.feat = true ↔ test_bit G10_FEAT_FRAME_AUTO s.feat = true) ∧
    (test_bit G10_FEAT_EARLY_EXIT s.hw_feat = true ↔
      test_bit G10_FEAT_FRAME_AUTO s.hw_feat = true) ∧
    (test_bit G10_FEAT_FRAME_AUTO s.feat = true →
      s.auto_mode_vrefresh = 10 ∨ s.auto_mode_vrefresh = 30 ∨ s.auto_mode_vrefresh = 60) ∧
    (s.delayed_idle = true → bitmap_empty s.feat = true ∧ s.auto_mode_vrefresh = 0) := by
  have hi := reachable_inv h
  refine ⟨by rw [test_bit_early_exit, test_bit_frame_auto, hi.feat_coupled],
    by rw [test_bit_early_exit, test_bit_frame_auto, hi.hw_feat_coupled], fun hfa => ?_, fun hd => ?_⟩
  · have h0 := hi.frame_auto_rate hfa
    have hr := hi.auto_rate
    unfold IdleRate at hr
    omega
  · obtain ⟨hf, ha⟩ := hi.delayed hd
    exact ⟨by rw [hf]; rfl, ha⟩

/-- **The reported idle rate is the committed one.** On an active panel of a reachable
state, a nonzero idle rate reported to the pipeline is the committed idle rate, 10, 30 or
60 Hz, and the committed shadow runs early exit and auto frame insertion. -/
theorem reachable_panel_idle_committed (h : Reachable s) (hact : s.active = true)
    (hp : s.panel_idle_vrefresh ≠ 0) :
    test_bit G10_FEAT_EARLY_EXIT s.hw_feat = true ∧ test_bit G10_FEAT_FRAME_AUTO s.hw_feat = true ∧
    s.panel_idle_vrefresh = s.hw_idle_vrefresh ∧
    (s.panel_idle_vrefresh = 10 ∨ s.panel_idle_vrefresh = 30 ∨ s.panel_idle_vrefresh = 60) := by
  have hi := reachable_inv h
  obtain ⟨hf, he⟩ := hi.panel_idle hact hp
  have hr := hi.hw_idle_rate
  unfold IdleRate at hr
  exact ⟨by simp [hf], by simp [hf], he, by omega⟩

/-- The committed idle rate is one the panel has a payload for, in every reachable state. -/
theorem reachable_hw_idle_vrefresh_rate (h : Reachable s) :
    s.hw_idle_vrefresh = 0 ∨ s.hw_idle_vrefresh = 10 ∨ s.hw_idle_vrefresh = 30 ∨
      s.hw_idle_vrefresh = 60 :=
  (reachable_inv h).hw_idle_rate

/-- **TE2 is fixed exactly in AOD or at a committed idle rate of 10 Hz**: the idle rates
below `NT37290_TE2_MIN_RATE` the panel can be committed to are 10 Hz alone. -/
theorem reachable_te2_fixed (h : Reachable s) {m : exynos_panel_mode}
    (hcur : s.current_mode = some m) :
    nt37290_get_te2_option s = NT37290_TE2_FIXED ↔
      m.is_lp_mode = true ∨ s.hw_idle_vrefresh = 10 := by
  have hr := (reachable_inv h).hw_idle_rate
  unfold IdleRate at hr
  simp only [nt37290_get_te2_option, hcur, NT37290_TE2_MIN_RATE]
  split_ifs with hc
  · refine iff_of_true rfl (hc.imp id fun h30 => ?_)
    omega
  · refine iff_of_false (by decide) fun h' => hc (h'.imp id fun h10 => ?_)
    omega

end

/-- The 120 Hz mode with idle on self refresh down to 10 Hz and no idle delay. -/
def self_refresh_idle_run : List Op :=
  [.mode_set nt37290_mode_120, .enable, .set_inputs ⟨true, .HBM_OFF, false, true, 10, 0, 500⟩,
   .set_self_refresh true]

theorem self_refresh_idle_step_some :
    ∃ s, Reachable s ∧ s.active = true ∧ ∃ s', step s .commit_done = some s' := by
  obtain ⟨s, hs, hp⟩ := Reachable.of_probe_run 8 self_refresh_idle_run
    (fun s => s.active) rfl (by decide)
  exact ⟨s, hs, hp, reachable_step_some hs .commit_done⟩

theorem self_refresh_idle_feat_coupled :
    ∃ s, Reachable s ∧ s.feat = ⟨true, true⟩ ∧
      (s.auto_mode_vrefresh = 10 ∨ s.auto_mode_vrefresh = 30 ∨ s.auto_mode_vrefresh = 60) := by
  obtain ⟨s, hs, hp⟩ := Reachable.of_probe_run 8 self_refresh_idle_run
    (fun s => s.feat == ⟨true, true⟩) rfl (by decide)
  have hf : s.feat = ⟨true, true⟩ := by simpa using hp
  exact ⟨s, hs, hf, (reachable_feat_coupled hs).2.2.1 (by simp [hf])⟩

theorem self_refresh_idle_panel_idle :
    ∃ s, Reachable s ∧ s.active = true ∧ s.panel_idle_vrefresh = 10 ∧ s.hw_idle_vrefresh = 10 ∧
      test_bit G10_FEAT_FRAME_AUTO s.hw_feat = true := by
  obtain ⟨s, hs, hp⟩ := Reachable.of_probe_run 8 self_refresh_idle_run
    (fun s => s.active && s.panel_idle_vrefresh == 10) rfl (by decide)
  simp only [Bool.and_eq_true, beq_iff_eq] at hp
  obtain ⟨-, hf, hi, -⟩ := reachable_panel_idle_committed hs hp.1 (by rw [hp.2]; decide)
  exact ⟨s, hs, hp.1, hp.2, hi ▸ hp.2, hf⟩

theorem self_refresh_idle_hw_idle_rate :
    ∃ s, Reachable s ∧ s.hw_idle_vrefresh ≠ 0 ∧
      (s.hw_idle_vrefresh = 10 ∨ s.hw_idle_vrefresh = 30 ∨ s.hw_idle_vrefresh = 60) := by
  obtain ⟨s, hs, hp⟩ := Reachable.of_probe_run 8 self_refresh_idle_run
    (fun s => s.hw_idle_vrefresh == 10) rfl (by decide)
  have h0 : s.hw_idle_vrefresh ≠ 0 := by simp only [beq_iff_eq] at hp; omega
  exact ⟨s, hs, h0, (reachable_hw_idle_vrefresh_rate hs).resolve_left h0⟩

theorem self_refresh_idle_te2_fixed :
    ∃ s, Reachable s ∧ s.hw_idle_vrefresh = 10 ∧ nt37290_get_te2_option s = NT37290_TE2_FIXED := by
  obtain ⟨s, hs, hp⟩ := Reachable.of_probe_run 8 self_refresh_idle_run
    (fun s => s.current_mode == some nt37290_mode_120 && s.hw_idle_vrefresh == 10) rfl (by decide)
  simp only [Bool.and_eq_true, beq_iff_eq] at hp
  exact ⟨s, hs, hp.2, (reachable_te2_fixed hs hp.1).2 (.inr hp.2)⟩

/-! ## Where the committed state goes stale -/

/-- Idle resolved at 60 Hz on the 120 Hz mode with self refresh on, then a disable, a mode
set to 60 Hz while the panel is off, and an enable. -/
def stale_idle_run : List Op :=
  [.mode_set nt37290_mode_120, .enable, .set_inputs ⟨true, .HBM_OFF, false, true, 60, 0, 500⟩,
   .set_self_refresh true, .disable, .mode_set nt37290_mode_60, .enable]

/-- **`nt37290_enable` commits an idle rate the mode cannot have.** It commits the stored
`auto_mode_vrefresh` and features with the rate of the current mode, which need not be the
mode they were resolved for: after `stale_idle_run` the panel is active in the 60 Hz mode
(which does not idle) and its committed shadow runs auto frame insertion at an idle rate of
60 Hz, not below the committed rate. -/
theorem enable_commits_stale_idle_rate :
    ∃ s, Reachable s ∧ s.active = true ∧ s.current_mode = some nt37290_mode_60 ∧
      s.hw_feat = ⟨true, true⟩ ∧ s.hw_vrefresh = 60 ∧ s.hw_idle_vrefresh = 60 := by
  obtain ⟨s, hs, hp⟩ := Reachable.of_probe_run 8 stale_idle_run
    (fun s => s.active && s.current_mode == some nt37290_mode_60 &&
      s.hw_feat == ⟨true, true⟩ && s.hw_vrefresh == 60 && s.hw_idle_vrefresh == 60) rfl (by decide)
  simp only [Bool.and_eq_true, beq_iff_eq] at hp
  exact ⟨s, hs, hp.1.1.1.1, hp.1.1.1.2, hp.1.1.2, hp.1.2, hp.2⟩

end BoeNt37290
