/-
The auto frame insertion payload: every frame-skip batch is meant to follow
the 0x1C offset command (6F 1C) with a 0xBA payload. `nt37290_update_panel_feat`
has one for manual mode at 60 Hz and for auto mode at an idle rate of 10, 30
or 60 Hz; for any other configuration it writes a `dev_warn` instead and the
offset is left pending for the next command (`afi_supported_iff`).

With the panel's own modes (`TableModes`), no step that ends outside AOD
builds such a batch (`table_mode_step_supported`): outside AOD the rate is 60
or 120 Hz, and auto frame insertion comes with a resolved idle rate
(`Inv.frame_auto_rate`), also in the features `nt37290_enable` commits
unresolved. A step that ends in AOD does build one
(`lp_mode_builds_unsupported_batch`): `nt37290_enable` into the LP mode
commits its 30 Hz in manual mode, and so does a commit in AOD that re-runs
`nt37290_change_frequency` on the LP mode.
-/
import BoeNt37290.EarlyExit

set_option autoImplicit false

namespace BoeNt37290

open nt37290_panel_feature exynos_panel_idle_mode

/-! ## The payload -/

/-- Without a warning, the auto frame insertion part is exactly one 0xBA payload. -/
theorem afi_supported_iff (v i : Int) (fi : Bool) :
    NoUnsupported (nt37290_update_panel_feat.afi v i fi) ↔
      ∃ p, nt37290_update_panel_feat.afi v i fi = [.cmd (0xBA :: p) 0] := by
  rcases afi_cases v i fi with ⟨p, hp⟩ | ⟨w, h, hw⟩
  · simp [hp, NoUnsupported]
  · simp [h, NoUnsupported, Event.unsupported, hw]

/-- The auto frame insertion part has no warning for manual mode at 60 Hz and for auto
mode at 10, 30 or 60 Hz. -/
theorem afi_supported {v i : Int} {fi : Bool} (hman : fi = false → v = 60)
    (hauto : fi = true → i = 10 ∨ i = 30 ∨ i = 60) :
    NoUnsupported (nt37290_update_panel_feat.afi v i fi) := by
  unfold nt37290_update_panel_feat.afi
  cases fi
  · simp [hman rfl]
  · rcases hauto rfl with rfl | rfl | rfl <;> simp

/-- A batch carries no warning when manual mode is at 60 or 120 Hz and auto mode has an
idle rate the panel has a payload for. -/
theorem batch_supported {v i : Int} {ee fi : Bool} (hman : fi = false → v = 60 ∨ v = 120)
    (hauto : fi = true → IdleRate i ∧ i ≠ 0) :
    NoUnsupported (nt37290_update_panel_feat.batch v i ee fi) := by
  unfold nt37290_update_panel_feat.batch
  by_cases h120 : v = 120 ∧ fi = false
  · rw [if_pos h120]
    simp
  · rw [if_neg h120]
    have hafi : NoUnsupported (nt37290_update_panel_feat.afi v i fi) := by
      refine afi_supported (fun hfi => ?_) (fun hfi => ?_)
      · have := hman hfi
        have : v ≠ 120 := fun hv => h120 ⟨hv, hfi⟩
        omega
      · obtain ⟨hr, h0⟩ := hauto hfi
        unfold IdleRate at hr
        omega
    split_ifs <;> simp [hafi, EXYNOS_DCS_BUF_ADD_SET]

/-! ## The mode table -/

/-- The runs that pass the driver only the panel's own modes. -/
def TableModes (_ : nt37290_panel) (op : Op) : Prop :=
  ∀ m ∈ op.modes, m ∈ nt37290_lp_mode :: nt37290_modes

/-- The current mode is one of the panel's own modes. -/
def ModeInTable (s : nt37290_panel) : Prop :=
  ∀ m, s.current_mode = some m → m ∈ nt37290_lp_mode :: nt37290_modes

/-- The panel's modes outside AOD run at 60 or 120 Hz. -/
theorem table_vrefresh {m : exynos_panel_mode} (hm : m ∈ nt37290_lp_mode :: nt37290_modes)
    (hlp : m.is_lp_mode = false) : m.vrefresh = 60 ∨ m.vrefresh = 120 := by
  simp only [nt37290_modes, List.mem_cons, List.mem_singleton, List.not_mem_nil, or_false] at hm
  rcases hm with rfl | rfl | rfl
  · exact absurd hlp (by decide)
  · exact .inl rfl
  · exact .inr rfl

section
variable {s s' : nt37290_panel}

theorem commit_done_current_mode (hs : nt37290_commit_done s = some s') :
    s'.current_mode = s.current_mode := by
  rcases commit_done_cases hs with rfl | ⟨-, cur, -, rfl | ⟨u, hc | hc⟩⟩
  · rfl
  · rfl
  · exact (change_frequency_frame hc).1
  · exact (change_frequency_frame hc).1

/-- A step sets the current mode to one it was given, or leaves it. -/
theorem step_current_mode {op : Op} (hs : step s op = some s') :
    s'.current_mode = s.current_mode ∨ ∃ p ∈ op.modes, s'.current_mode = some p := by
  cases op with
  | mode_set pmode | set_nolp_mode pmode =>
    obtain ⟨t, -, rfl⟩ := Option.map_eq_some'.1 hs
    exact .inr ⟨pmode, List.mem_singleton_self _, rfl⟩
  | set_lp_mode pmode =>
    cases hs
    exact .inr ⟨pmode, List.mem_singleton_self _, rfl⟩
  | set_self_refresh enable =>
    obtain ⟨⟨t, u⟩, ht, rfl⟩ := Option.map_eq_some'.1 hs
    left
    rcases set_self_refresh_cases ht with rfl | ⟨cur, -, -, hc⟩
    · rfl
    · exact (change_frequency_frame hc).1
  | commit_done => exact .inl (commit_done_current_mode hs)
  | enable =>
    obtain ⟨⟨t, ret⟩, ht, rfl⟩ := Option.map_eq_some'.1 hs
    left
    cases hcur : s.current_mode with
    | none =>
      simp only [nt37290_enable, hcur, Option.some.injEq, Prod.mk.injEq] at ht
      obtain ⟨rfl, rfl⟩ := ht
      rfl
    | some pmode =>
      rw [enable_eq s hcur] at ht
      obtain ⟨rfl, rfl⟩ := Prod.mk.inj (Option.some.inj ht)
      simp [hcur]
  | set_brightness br =>
    cases hs
    obtain ⟨l, hl, -⟩ := set_brightness_log s br
    exact .inl (by rw [hl])
  | set_local_hbm_mode local_hbm_en =>
    cases hs
    obtain ⟨l, hl, -⟩ := set_local_hbm_mode_log s local_hbm_en
    exact .inl (by rw [hl])
  | update_te2 timing =>
    cases hs
    obtain ⟨l, hl, -⟩ := update_te2_log s timing
    exact .inl (by rw [hl])
  | _ => cases hs; exact .inl rfl

/-- Every state of a run with the panel's own modes is in one of them. -/
theorem reachable_mode_in_table {s : nt37290_panel} (h : ReachableBy TableModes s) :
    ModeInTable s := by
  induction h with
  | probe panel_rev => exact fun _ hm => nomatch hm
  | step op _ _ hadm hs ih =>
    intro m hm
    rcases step_current_mode hs with heq | ⟨p, hp, heq⟩
    · exact ih m (heq ▸ hm)
    · rw [heq, Option.some.injEq] at hm
      exact hm ▸ hadm p hp

end

/-! ## Every step outside AOD builds supported batches -/

section
variable {s s' : nt37290_panel}

/-- A step that writes nothing writes no warning. -/
theorem supported_of_log_eq (h : s'.log = s.log) : ∃ l, s'.log = s.log ++ l ∧ NoUnsupported l :=
  ⟨[], by rw [h, List.append_nil], nofun⟩

/-- `nt37290_change_frequency` for a mode at 60 or 120 Hz sends no warning. -/
theorem change_frequency_supported {pmode : exynos_panel_mode} {u : Bool}
    (hv : pmode.vrefresh = 60 ∨ pmode.vrefresh = 120)
    (hc : nt37290_change_frequency s pmode = some (s', u)) :
    ∃ l, s'.log = s.log ++ l ∧ NoUnsupported l := by
  cases hcur : s.current_mode with
  | none => simp [nt37290_change_frequency, hcur] at hc
  | some cur =>
    rw [change_frequency_eq s hcur] at hc
    obtain ⟨rfl, rfl⟩ := Prod.mk.inj (Option.some.inj hc)
    refine ⟨_, rfl, ?_⟩
    split
    · refine NoUnsupported_append.2 ⟨batch_supported (fun _ => hv) fun hfa => ?_, by decide⟩
      rcases desired_feat_cases s pmode with ⟨-, hi⟩ | ⟨h, -⟩
      · exact ⟨auto_mode_vrefresh_idleRate s pmode, idle_active_auto s pmode hi⟩
      · simp [h, bitmap_zero] at hfa
    · exact nofun

theorem commit_done_supported (hcur : ∀ m, s.current_mode = some m →
      m.vrefresh = 60 ∨ m.vrefresh = 120) (hs : nt37290_commit_done s = some s') :
    ∃ l, s'.log = s.log ++ l ∧ NoUnsupported l := by
  rcases commit_done_cases hs with rfl | ⟨-, cur, hm, rfl | ⟨u, hc | hc⟩⟩
  · exact supported_of_log_eq rfl
  · exact ⟨_, rfl, by decide⟩
  · exact change_frequency_supported (hcur cur hm) hc
  · exact change_frequency_supported (s := { s with last_mode_set_ts := s.now }) (hcur cur hm) hc

/-- `nt37290_enable` into a mode at 60 or 120 Hz sends no warning: the features it commits
unresolved have an idle rate when they have auto frame insertion. -/
theorem enable_supported {pmode : exynos_panel_mode} {ret : Int} (hi : Inv s)
    (hcur : s.current_mode = some pmode) (hv : pmode.vrefresh = 60 ∨ pmode.vrefresh = 120)
    (hlp : pmode.is_lp_mode = false) (hs : nt37290_enable s = some (s', ret)) :
    ∃ l, s'.log = s.log ++ l ∧ NoUnsupported l := by
  rw [enable_eq s hcur] at hs
  obtain ⟨rfl, rfl⟩ := Prod.mk.inj (Option.some.inj hs)
  refine ⟨[.reset] ++ exynos_panel_send_cmd_set s.panel_rev nt37290_init_cmds ++
    exynos_panel_send_cmd_set s.panel_rev nt37290_lhbm_on_setting_cmds ++
    nt37290_update_panel_feat.batch pmode.vrefresh s.auto_mode_vrefresh s.feat.early_exit
      s.feat.frame_auto ++ EXYNOS_DCS_WRITE_TABLE display_on, by simp [hlp], ?_⟩
  simp only [NoUnsupported_append]
  exact ⟨⟨⟨⟨by decide, NoUnsupported_send_cmd_set _ _⟩, NoUnsupported_send_cmd_set _ _⟩,
    batch_supported (fun _ => hv) fun hfa => ⟨hi.auto_rate, hi.frame_auto_rate hfa⟩⟩,
    NoUnsupported_WRITE_TABLE_DELAY _ _⟩

end

/-- A step from a state of the invariant, in one of the panel's own modes, given only the
panel's own modes, that ends in a non-LP mode writes no warning. -/
theorem step_supported {s s' : nt37290_panel} {op : Op} {m : exynos_panel_mode} (hi : Inv s)
    (htab : ModeInTable s) (hadm : TableModes s op) (hs : step s op = some s')
    (hcur : s'.current_mode = some m) (hlp : m.is_lp_mode = false) :
    ∃ l, s'.log = s.log ++ l ∧ NoUnsupported l := by
  have hm : m.vrefresh = 60 ∨ m.vrefresh = 120 := by
    rcases step_current_mode hs with heq | ⟨p, hp, heq⟩
    · exact table_vrefresh (htab m (heq ▸ hcur)) hlp
    · rw [heq, Option.some.injEq] at hcur
      exact table_vrefresh (hcur ▸ hadm p hp) hlp
  have hsame : s'.current_mode = s.current_mode → ∀ p, s.current_mode = some p →
      p.vrefresh = 60 ∨ p.vrefresh = 120 := fun heq p hp => by
    rw [← heq, hcur, Option.some.injEq] at hp
    exact hp ▸ hm
  cases op with
  | mode_set pmode =>
    obtain ⟨t, ht, rfl⟩ := Option.map_eq_some'.1 hs
    cases Option.some.inj hcur
    rcases mode_set_cases ht with ⟨-, rfl⟩ | ⟨-, u, hc⟩
    · exact supported_of_log_eq rfl
    · have hsup := change_frequency_supported hm hc
      exact hsup
  | set_lp_mode pmode =>
    cases hs
    split
    · exact ⟨_, rfl, NoUnsupported_send_cmd_set _ _⟩
    · exact supported_of_log_eq rfl
  | set_nolp_mode pmode =>
    obtain ⟨t, ht, rfl⟩ := Option.map_eq_some'.1 hs
    cases Option.some.inj hcur
    rcases set_nolp_mode_cases ht with ⟨-, rfl⟩ | ⟨-, t, u, hc, rfl⟩
    · exact supported_of_log_eq rfl
    · obtain ⟨l, hl, hsup⟩ := change_frequency_supported hm hc
      refine ⟨EXYNOS_DCS_WRITE_SEQ_DELAY 34 [0x38] ++ l ++ (EXYNOS_DCS_WRITE_TABLE_DELAY 34 stream_2c ++
        EXYNOS_DCS_WRITE_TABLE stream_2c ++ EXYNOS_DCS_WRITE_TABLE display_on),
        by simp only [nt37290_panel.set_current_mode, hl, List.append_assoc], ?_⟩
      simp only [NoUnsupported_append]
      exact ⟨⟨by decide, hsup⟩, by decide⟩
  | set_self_refresh enable =>
    obtain ⟨⟨t, u⟩, ht, rfl⟩ := Option.map_eq_some'.1 hs
    rcases set_self_refresh_cases ht with rfl | ⟨pmode, hp, -, hc⟩
    · exact supported_of_log_eq rfl
    · exact change_frequency_supported (hsame (change_frequency_frame hc).1 pmode hp) hc
  | commit_done => exact commit_done_supported (hsame (commit_done_current_mode hs)) hs
  | enable =>
    obtain ⟨⟨t, ret⟩, ht, rfl⟩ := Option.map_eq_some'.1 hs
    cases hc : s.current_mode with
    | none =>
      simp only [nt37290_enable, hc, Option.some.injEq, Prod.mk.injEq] at ht
      obtain ⟨rfl, rfl⟩ := ht
      dsimp only at hcur
      split at hcur <;> cases hcur
    | some pmode =>
      rw [enable_eq s hc] at ht
      obtain ⟨rfl, rfl⟩ := Prod.mk.inj (Option.some.inj ht)
      dsimp only at hcur ⊢
      rw [if_pos rfl] at hcur ⊢
      obtain rfl : pmode = m := by simpa [hc] using hcur
      have hsup := enable_supported hi hc hm hlp (enable_eq s hc)
      exact hsup
  | disable => cases hs; exact ⟨_, rfl, NoUnsupported_send_cmd_set _ _⟩
  | set_brightness br =>
    cases hs
    obtain ⟨l, hl, -, hsup, -⟩ := set_brightness_log s br
    exact ⟨l, by rw [hl], hsup⟩
  | set_local_hbm_mode local_hbm_en =>
    cases hs
    obtain ⟨l, hl, -, -, hsup, -⟩ := set_local_hbm_mode_log s local_hbm_en
    exact ⟨l, by rw [hl], hsup⟩
  | update_te2 timing =>
    cases hs
    obtain ⟨l, hl, -, hsup, -⟩ := update_te2_log s timing
    exact ⟨l, by rw [hl], hsup⟩
  | set_binned_lp binned_lp => cases hs; exact ⟨_, rfl, NoUnsupported_send_cmd_set _ _⟩
  | panel_init => cases hs; exact ⟨_, rfl, NoUnsupported_send_cmd_set _ _⟩
  | _ => cases hs; exact supported_of_log_eq rfl

/-- **No unsupported configuration is built outside AOD.** In every state of a run that
passes the driver only the panel's own modes, a step that ends with the panel in a non-LP
mode writes no `Unsupported ...` warning: every frame-skip batch it builds follows 6F 1C
with a 0xBA payload (`afi_supported_iff`). -/
theorem table_mode_step_supported {s s' : nt37290_panel} {op : Op} {m : exynos_panel_mode}
    (h : ReachableBy TableModes s) (hadm : TableModes s op) (hs : step s op = some s')
    (hcur : s'.current_mode = some m) (hlp : m.is_lp_mode = false) :
    ∃ l, s'.log = s.log ++ l ∧ NoUnsupported l :=
  step_supported (reachable_inv h) (reachable_mode_in_table h) hadm hs hcur hlp

theorem enable_at_60_supported :
    ∃ s s', ReachableBy TableModes s ∧ step s .enable = some s' ∧
      s'.current_mode = some nt37290_mode_60 ∧ ∃ l, s'.log = s.log ++ l ∧ NoUnsupported l := by
  obtain ⟨s, hs, hp⟩ := ReachableBy.of_probe_run TableModes 8 [.mode_set nt37290_mode_60]
    (fun s => s.current_mode == some nt37290_mode_60)
    (by simp only [List.mem_singleton]; rintro op rfl; exact ⟨rfl, fun _ => by unfold TableModes; decide⟩)
    (by decide)
  obtain ⟨s', hs'⟩ := Option.isSome_iff_exists.1 (step_isSome (reachable_inv hs) .enable)
  have hcur : s'.current_mode = some nt37290_mode_60 := by
    rcases step_current_mode hs' with heq | ⟨p, hp', -⟩
    · simpa [heq] using hp
    · simp [Op.modes] at hp'
  exact ⟨s, s', hs, hs', hcur,
    table_mode_step_supported hs (fun m hm => by simp [Op.modes] at hm) hs' hcur rfl⟩

/-- **A step into AOD builds an unsupported batch.** With the LP mode current (a mode set to
it while the panel is off), `nt37290_enable` commits 30 Hz in manual mode; in AOD after a
long idle with early exit on, `nt37290_commit_done` renegotiates the LP mode, forced, to the
same configuration. The frame-skip batch has no payload for it: it writes the "Unsupported
vrefresh 30Hz for manual mode" warning in its place and sends 0x2C right after the 6F 1C
offset. -/
theorem lp_mode_builds_unsupported_batch :
    (∃ s, Reachable s ∧ s.current_mode = some nt37290_lp_mode ∧ ∃ s' pre post,
      nt37290_enable s = some (s', 0) ∧
      s'.log = s.log ++ pre ++ [.cmd [0x6F, 0x1C] 0, .warn (.unsupported_vrefresh 30),
        .cmd [0x2C] 0] ++ post) ∧
    (∃ s, Reachable s ∧ s.current_mode = some nt37290_lp_mode ∧ ∃ s' pre post,
      nt37290_commit_done s = some s' ∧
      s'.log = s.log ++ pre ++ [.cmd [0x6F, 0x1C] 0, .warn (.unsupported_vrefresh 30),
        .cmd [0x2C] 0] ++ post) := by
  have hbatch : nt37290_update_panel_feat.batch 30 0 false false =
      [.cmd [0x2F, 0x00] 0, .cmd [0x2F, 0x30] 0, .cmd [0x5A, 1] 0, .cmd cmd2_page0 0] ++
        [.cmd [0x6F, 0x1C] 0, .warn (.unsupported_vrefresh 30), .cmd [0x2C] 0] ++
        [.cmd [0x44, 0x00, 0x01] 0, .flush] := by
    decide
  constructor
  · obtain ⟨s, hs, hp⟩ := Reachable.of_probe_run 8 [.set_lp_mode nt37290_lp_mode]
      (fun s => s.current_mode == some nt37290_lp_mode && s.feat == bitmap_zero &&
        s.auto_mode_vrefresh == 0) rfl (by decide)
    simp only [Bool.and_eq_true, beq_iff_eq] at hp
    obtain ⟨⟨hcur, hf⟩, ha⟩ := hp
    refine ⟨s, hs, hcur, _, [.reset] ++ exynos_panel_send_cmd_set s.panel_rev nt37290_init_cmds ++
      exynos_panel_send_cmd_set s.panel_rev nt37290_lhbm_on_setting_cmds ++
      [.cmd [0x2F, 0x00] 0, .cmd [0x2F, 0x30] 0, .cmd [0x5A, 1] 0, .cmd cmd2_page0 0],
      [.cmd [0x44, 0x00, 0x01] 0, .flush] ++ exynos_panel_send_cmd_set s.panel_rev nt37290_lp_cmds,
      enable_eq s hcur, ?_⟩
    simp [hf, ha, bitmap_zero, hbatch, nt37290_lp_mode]
  · obtain ⟨s, hs, hcur, -, s', hc, hl, -⟩ := aod_long_idle_commit_done
    refine ⟨s, hs, hcur, s',
      [.cmd [0x2F, 0x00] 0, .cmd [0x2F, 0x30] 0, .cmd [0x5A, 1] 0, .cmd cmd2_page0 0],
      [.cmd [0x44, 0x00, 0x01] 0, .flush, .backlight_state_changed], hc, ?_⟩
    rw [hl, hbatch]
    simp

end BoeNt37290
