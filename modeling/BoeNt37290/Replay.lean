/-
The skip of `nt37290_update_panel_feat` is exact.

`nt37290_update_panel_feat` sends nothing when the features and rates it
would commit equal the shadow. That is sound only if the panel still holds
what the skipped batch would write. A batch keeps its state in four
registers, the frame-control registers `frame_regs`: 0x2F (frequency mode
and control), 0x5A (early exit), 0xBA (auto frame insertion, at offset 0x1C
of CMD2 page 0) and 0x44 (TE shift). The page select, the offset and the
frame it also sends hold no state of their own.

`Settled r l b` says that sending `b` after `l` leaves register `r` as it
was. `step_frame` says once what every step does to a frame-control
register: it leaves the register out of scope (the panel off, or 0x2F in
AOD, whose entry writes it), ends with the batch for the shadow it leaves,
keeps both the register and the shadow, or is a local-HBM switch, which on
an EVT1 or later panel writes its gamma timing to 0x2F.

Two invariants follow, each a short induction over `step_frame`:
`reachable_frame_settled`, re-sending the committed batch would change no
frame-control register, 0x2F apart on runs that switch local HBM on EVT1
panels; and `frequency_register_or_lhbm`, 0x2F on every run holds the
committed value or the gamma timing of the last local-HBM switch. From the
first, `change_frequency_skip_exact`: `nt37290_change_frequency` and the
same call without its skip test leave the same state and the same registers.
-/
import BoeNt37290.Invariant

set_option autoImplicit false

namespace BoeNt37290

open nt37290_panel_feature

/-! ## Settled registers -/

/-- The registers of the frequency batch that hold state. -/
def frame_regs : List UInt8 := [0x2F, 0x5A, 0xBA, 0x44]

/-- Sending `b` after `l` leaves register `r` as `l` left it. -/
def Settled (r : UInt8) (l b : List Event) : Prop :=
  regVal r (l ++ b) = regVal r l

section
variable {r : UInt8} {l l' m b : List Event}

/-- A stream that sent `b` and then nothing for `r` is settled for `b`. -/
theorem Settled.of_suffix (hm : r ∉ writes m) : Settled r (l ++ b ++ m) b := by
  have hnone := regVal_eq_none_iff.2 hm
  simp only [Settled, List.append_assoc, regVal_append, hnone, Option.none_or]
  cases regVal r b <;> rfl

/-- Being settled depends on the register's value only. -/
theorem Settled.congr (h : Settled r l b) (hl : regVal r l' = regVal r l) : Settled r l' b := by
  simp only [Settled, regVal_append] at h ⊢
  rw [hl, h]

/-- Writes to other registers keep a register settled. -/
theorem Settled.append (h : Settled r l b) (hm : r ∉ writes m) : Settled r (l ++ m) b :=
  h.congr (by simp [regVal_eq_none_iff.2 hm])

/-- A register settled for a stream that writes it holds what the stream writes. -/
theorem Settled.regVal_eq {v : List UInt8} (h : Settled r l b) (hb : regVal r b = some v) :
    regVal r l = some v := by
  rw [← h, regVal_append, hb]
  rfl

end

/-- The batch for the committed shadow. -/
def commit_batch (s : nt37290_panel) : List Event :=
  nt37290_update_panel_feat.batch s.hw_vrefresh s.hw_idle_vrefresh s.hw_feat.early_exit
    s.hw_feat.frame_auto

/-- Register `r` is kept in every mode, or outside AOD when AOD entry writes it. -/
def FrameScope (r : UInt8) (s : nt37290_panel) : Prop :=
  ∀ m, s.current_mode = some m → r ∈ exynos_dsi_cmd.regs nt37290_lp_cmds → m.is_lp_mode = false

/-- A current mode outside AOD keeps every register in scope. -/
theorem FrameScope.of_current {r : UInt8} {s : nt37290_panel} {cur : exynos_panel_mode}
    (hcur : s.current_mode = some cur) (hlp : cur.is_lp_mode = false) : FrameScope r s := by
  intro m hm _
  rw [hcur, Option.some.injEq] at hm
  exact hm ▸ hlp

/-- The gamma timing local HBM leaves in 0x2F on EVT1 and later panels: 0x02 while it is
on, 0x00 after. -/
def lhbm_gamma (local_hbm_en : Bool) : List UInt8 := [if local_hbm_en then 0x02 else 0x00]

/-! ## The frame-control registers against the rest of the driver -/

/-- The frames and display on around the batches. -/
def frame_cmds : List Event :=
  EXYNOS_DCS_WRITE_TABLE_DELAY 34 stream_2c ++ EXYNOS_DCS_WRITE_TABLE stream_2c ++
    EXYNOS_DCS_WRITE_TABLE display_on

/-- The driver's other writes miss the frame-control registers: 0x38, the frames and display
on around the batches, brightness, TE2, the local-HBM settings and the AOD bins, and local
HBM but for 0x2F. -/
theorem frame_regs_free {r : UInt8} (hr : r ∈ frame_regs) :
    r ∉ writes (EXYNOS_DCS_WRITE_SEQ_DELAY 34 [0x38]) ∧ r ∉ writes (EXYNOS_DCS_WRITE_TABLE stream_2c) ∧
      r ∉ writes (EXYNOS_DCS_WRITE_TABLE display_on) ∧ r ∉ writes frame_cmds ∧
      r ∉ [0xF0, 0x6F, 0xDF, 0x51] ∧ r ∉ [0xF0, 0xC3, 0x6F, 0xC4] ∧
      (r ≠ 0x2F → r ∉ [0x2F, 0xF0, 0x6F, 0xDF, 0x87, 0x85, 0x86]) ∧ r ∉ [0x87, 0x85, 0x86] ∧
      r ∉ exynos_dsi_cmd.regs nt37290_lhbm_on_setting_cmds ∧
      ∀ b ∈ nt37290_binned_lp, r ∉ exynos_dsi_cmd.regs b.cmds := by
  revert r
  decide

/-- On an EVT1 or later panel a local-HBM switch leaves its gamma timing in 0x2F. -/
theorem regVal_set_local_hbm_mode {s : nt37290_panel} {local_hbm_en : Bool}
    (hrev : s.panel_rev ≥ PANEL_REV_EVT1) (hne : s.local_hbm_enabled ≠ local_hbm_en) :
    regVal 0x2F (nt37290_set_local_hbm_mode s local_hbm_en).log = some (lhbm_gamma local_hbm_en) := by
  cases local_hbm_en <;>
    simp [nt37290_set_local_hbm_mode, hne, hrev, lhbm_gamma, lhbm_dbv_write, EXYNOS_DCS_BUF_ADD,
      EXYNOS_DCS_BUF_ADD_AND_FLUSH, EXYNOS_DCS_BUF_ADD_SET, cmd2_page0]

/-! ## What a renegotiation does to the registers -/

section
variable {s t : nt37290_panel} {cur pmode : exynos_panel_mode} {u : Bool}

/-- A call that skips comes from a mode other than an LP one and leaves the shadow, so the
committed batch, as it was. -/
theorem change_frequency_skip_shadow (hu : change_frequency_updated s cur pmode = false) :
    cur.is_lp_mode = false ∧ commit_batch (change_frequency_post s pmode u) = commit_batch s := by
  simp only [change_frequency_updated, Bool.or_eq_false_iff, Bool.not_eq_false',
    Bool.and_eq_true, beq_iff_eq] at hu
  obtain ⟨hlp, ⟨hf, hv⟩, hi⟩ := hu
  exact ⟨hlp, by simp [commit_batch, change_frequency_post, hf, hv, hi]⟩

/-- **`nt37290_change_frequency` sends the batch for the shadow it leaves, or nothing.**
When it skips, the current mode is not an LP one and neither the log nor the shadow
changes; the local-HBM state and the revision are never touched. -/
theorem change_frequency_batch_cases (hc : nt37290_change_frequency s pmode = some (t, u)) :
    t.local_hbm_enabled = s.local_hbm_enabled ∧ t.panel_rev = s.panel_rev ∧
    (t.log = s.log ++ commit_batch t ++ [.backlight_state_changed] ∨
      t.log = s.log ∧ commit_batch t = commit_batch s ∧
        ∃ cur, s.current_mode = some cur ∧ cur.is_lp_mode = false) := by
  cases hcur : s.current_mode with
  | none => simp [nt37290_change_frequency, hcur] at hc
  | some cur =>
    rw [change_frequency_eq s hcur] at hc
    obtain ⟨rfl, rfl⟩ := Prod.mk.inj (Option.some.inj hc)
    refine ⟨by simp [change_frequency_post, update_min_idle_vrefresh_eq],
      by simp [change_frequency_post, update_min_idle_vrefresh_eq], ?_⟩
    cases hu : change_frequency_updated s cur pmode
    · obtain ⟨hlp, hb⟩ := change_frequency_skip_shadow (u := false) hu
      exact .inr ⟨by simp [change_frequency_post], hb, cur, rfl, hlp⟩
    · exact .inl (by simp [change_frequency_post, commit_batch])

end

/-! ## What one step does to a frame-control register -/

/-- What one step does to frame-control register `r`. -/
inductive FrameStep (r : UInt8) (op : Op) (s s' : nt37290_panel) : Prop where
  /-- The panel is off afterwards, or `r` is out of scope. -/
  | out (h : ¬(s'.active = true ∧ FrameScope r s'))
  /-- The step ends with the batch for the shadow it leaves. -/
  | commit (h : Settled r s'.log (commit_batch s'))
  /-- The step keeps the register, the shadow, the scope and the revision, and the
  local-HBM state where it matters for 0x2F. -/
  | keep (hb : commit_batch s' = commit_batch s) (hact : s'.active = s.active)
      (hsc : FrameScope r s' → FrameScope r s) (hr : regVal r s'.log = regVal r s.log)
      (hlhbm : s'.local_hbm_enabled = s.local_hbm_enabled ∨ s.panel_rev < PANEL_REV_EVT1 ∨ r ≠ 0x2F)
      (hrev : s'.panel_rev = s.panel_rev)
  /-- A local-HBM switch on an EVT1 or later panel, which leaves its gamma timing in 0x2F. -/
  | lhbm (hop : ∃ en, op = .set_local_hbm_mode en) (h2F : r = 0x2F)
      (hrev : s.panel_rev ≥ PANEL_REV_EVT1) (hb : commit_batch s' = commit_batch s)
      (hact : s'.active = s.active) (hcur : s'.current_mode = s.current_mode)
      (hr : regVal r s'.log = some (lhbm_gamma s'.local_hbm_enabled))
      (hrev' : s'.panel_rev = s.panel_rev)

section
variable {r : UInt8} {op : Op} {s s' : nt37290_panel}

theorem FrameScope.congr (h : FrameScope r s) (hcur : s'.current_mode = s.current_mode) :
    FrameScope r s' := fun m hm => h m (hcur ▸ hm)

/-- A register AOD entry does not write is in scope in every mode. -/
theorem FrameScope.of_not_lp (hlp : r ∉ exynos_dsi_cmd.regs nt37290_lp_cmds) : FrameScope r s :=
  fun _ _ h => absurd h hlp

theorem FrameStep.refl : FrameStep r op s s :=
  .keep rfl rfl id rfl (.inl rfl) rfl

/-- Writes to other registers are a `keep`. -/
theorem FrameStep.of_log (l : List Event) (hl : r ∉ writes l) :
    FrameStep r op s { s with log := s.log ++ l } :=
  .keep rfl rfl id (by simp [regVal_eq_none_iff.2 hl]) (.inl rfl) rfl

/-- A step from a state that differs from `s` only in what no frame-control register
depends on is a step from `s`. -/
theorem FrameStep.of_prefix {s₁ : nt37290_panel} (h : FrameStep r op s₁ s')
    (hb : commit_batch s₁ = commit_batch s) (hact : s₁.active = s.active)
    (hcur : s₁.current_mode = s.current_mode) (hreg : regVal r s₁.log = regVal r s.log)
    (hl : s₁.local_hbm_enabled = s.local_hbm_enabled) (hrev : s₁.panel_rev = s.panel_rev) :
    FrameStep r op s s' := by
  cases h with
  | out h => exact .out h
  | commit h => exact .commit h
  | keep hb' hact' hsc hreg' hlhbm hrev' =>
    refine .keep (hb'.trans hb) (hact'.trans hact) (fun h => (hsc h).congr hcur.symm)
      (hreg'.trans hreg) ?_ (hrev'.trans hrev)
    rw [← hl, ← hrev]
    exact hlhbm
  | lhbm hop h2F hge hb' hact' hcur' hr' hrev' =>
    exact .lhbm hop h2F (hrev ▸ hge) (hb'.trans hb) (hact'.trans hact) (hcur'.trans hcur) hr'
      (hrev'.trans hrev)

/-- A renegotiation, followed by writes to other registers, commits or keeps. -/
theorem FrameStep.of_change_frequency {pmode : exynos_panel_mode} {t : nt37290_panel} {u : Bool}
    {p : List Event} (hc : nt37290_change_frequency s pmode = some (t, u))
    (hpost : r ∉ writes p) (hlog : s'.log = t.log ++ p)
    (hb : commit_batch s' = commit_batch t) (hact : s'.active = t.active)
    (hl : s'.local_hbm_enabled = t.local_hbm_enabled) (hrev : s'.panel_rev = t.panel_rev) :
    FrameStep r op s s' := by
  obtain ⟨hl', hrev', hlog' | ⟨hlog', hb', cur, hcur, hlp⟩⟩ := change_frequency_batch_cases hc
  · refine .commit ?_
    rw [hlog, hlog', hb, List.append_assoc _ [_]]
    exact Settled.of_suffix (by simpa using hpost)
  · refine .keep (hb.trans hb') (hact.trans (change_frequency_frame hc).2.1)
      (fun _ => .of_current hcur hlp) ?_ (.inl (hl.trans hl')) (hrev.trans hrev')
    simp [hlog, hlog', regVal_eq_none_iff.2 hpost]

/-- **What one step does to a frame-control register**, in the four ways `FrameStep`
names. -/
theorem step_frame (hr : r ∈ frame_regs) (hok : op.drm_ok = true) (hs : step s op = some s') :
    FrameStep r op s s' := by
  obtain ⟨h38, h2C, hon, hframes, hbr, hte2, hlhbm, hlhbm_old, hset, hbin⟩ := frame_regs_free hr
  cases op with
  | mode_set pmode =>
    obtain ⟨t, ht, rfl⟩ := Option.map_eq_some'.1 hs
    rcases mode_set_cases ht with ⟨hact, rfl⟩ | ⟨-, u, hc⟩
    · exact .out fun h => by simp [nt37290_panel.set_current_mode, hact] at h
    · exact .of_change_frequency (p := []) hc (by simp) (by simp [nt37290_panel.set_current_mode])
        rfl rfl rfl rfl
  | set_lp_mode pmode =>
    cases hs
    by_cases hlp : r ∈ exynos_dsi_cmd.regs nt37290_lp_cmds
    · have hl : pmode.is_lp_mode = true := hok
      exact .out fun ⟨_, hsc⟩ => by simp [hsc pmode rfl hlp] at hl
    · split
      · exact .keep rfl rfl (fun _ => .of_not_lp hlp) (by simp [exynos_panel_set_lp_mode,
          nt37290_panel.set_current_mode, regVal_eq_none_iff.2 fun hw => hlp (writes_send_cmd_set _ _ hw)])
          (.inl rfl) rfl
      · exact .keep rfl rfl (fun _ => .of_not_lp hlp) rfl (.inl rfl) rfl
  | set_nolp_mode pmode =>
    obtain ⟨t, ht, rfl⟩ := Option.map_eq_some'.1 hs
    rcases set_nolp_mode_cases ht with ⟨hact, rfl⟩ | ⟨-, t, u, hc, rfl⟩
    · exact .out fun h => by simp [nt37290_panel.set_current_mode, hact] at h
    · exact FrameStep.of_prefix (FrameStep.of_change_frequency (p := frame_cmds) hc hframes rfl rfl
        rfl rfl rfl) rfl rfl rfl (by simp [regVal_eq_none_iff.2 h38]) rfl rfl
  | set_self_refresh enable =>
    obtain ⟨⟨t, u⟩, ht, rfl⟩ := Option.map_eq_some'.1 hs
    rcases set_self_refresh_cases ht with rfl | ⟨cur, -, -, hc⟩
    · exact .refl
    · exact .of_change_frequency (p := []) hc (by simp) (by simp) rfl rfl rfl rfl
  | commit_done =>
    rcases commit_done_cases hs with rfl | ⟨-, cur, -, rfl | ⟨u, hc | hc⟩⟩
    · exact .refl
    · exact .keep rfl rfl id (by simp [regVal_eq_none_iff.2 h2C]) (.inl rfl) rfl
    · exact .of_change_frequency (p := []) hc (by simp) (by simp) rfl rfl rfl rfl
    · exact FrameStep.of_prefix (FrameStep.of_change_frequency (p := []) hc (by simp) (by simp)
        rfl rfl rfl rfl) rfl rfl rfl rfl rfl rfl
  | enable =>
    obtain ⟨⟨t, ret⟩, ht, rfl⟩ := Option.map_eq_some'.1 hs
    show FrameStep r .enable s (if ret = 0 then { t with active := true } else t)
    cases hcur : s.current_mode with
    | none =>
      simp only [nt37290_enable, hcur, Option.some.injEq, Prod.mk.injEq] at ht
      obtain ⟨rfl, rfl⟩ := ht
      rw [if_neg (by decide)]
      exact .keep rfl rfl (fun h => h.congr hcur) (by simp) (.inl rfl) rfl
    | some pmode =>
      rw [enable_eq s hcur] at ht
      obtain ⟨rfl, rfl⟩ := Prod.mk.inj (Option.some.inj ht)
      rw [if_pos rfl]
      by_cases hout : r ∈ exynos_dsi_cmd.regs nt37290_lp_cmds ∧ pmode.is_lp_mode = true
      · exact .out fun ⟨_, hsc⟩ => by simp [hsc pmode hcur hout.1] at hout
      · refine .commit (Settled.of_suffix ?_)
        split
        · exact hon
        · rename_i hlp
          exact fun hw => hout ⟨writes_send_cmd_set _ _ hw, by simpa using hlp⟩
  | disable =>
    cases hs
    exact .out fun h => by simp [nt37290_disable, exynos_panel_disable] at h
  | set_brightness br =>
    cases hs
    obtain ⟨l, hl, hw, -⟩ := set_brightness_log s br
    rw [hl]
    exact .of_log l fun h => hbr (hw h)
  | set_local_hbm_mode en =>
    cases hs
    by_cases heq : s.local_hbm_enabled = en
    · rw [show nt37290_set_local_hbm_mode s en = s by simp [nt37290_set_local_hbm_mode, heq]]
      exact .refl
    by_cases h2F : r = 0x2F ∧ s.panel_rev ≥ PANEL_REV_EVT1
    · obtain ⟨rfl, hrev⟩ := h2F
      have hg := regVal_set_local_hbm_mode hrev heq
      obtain ⟨l, hl, -⟩ := set_local_hbm_mode_log s en
      rw [hl] at hg ⊢
      exact .lhbm ⟨en, rfl⟩ rfl hrev rfl rfl rfl hg rfl
    · have hcase : s.panel_rev < PANEL_REV_EVT1 ∨ r ≠ 0x2F :=
        (not_and_or.1 h2F).symm.imp_left UInt32.not_le.1
      obtain ⟨l, hl, hw, hw_old, -⟩ := set_local_hbm_mode_log s en
      have hnot : r ∉ writes l := fun h =>
        hcase.elim (fun hlt => hlhbm_old (hw_old hlt h)) (fun h2 => hlhbm h2 (hw h))
      rw [hl]
      exact .keep rfl rfl id (by simp [regVal_eq_none_iff.2 hnot]) (.inr hcase) rfl
  | update_te2 timing =>
    cases hs
    obtain ⟨l, hl, hw, -⟩ := update_te2_log s timing
    rw [hl]
    exact .of_log l fun h => hte2 (hw h)
  | set_binned_lp b =>
    cases hs
    exact .of_log _ fun h => hbin b (of_decide_eq_true hok) (writes_send_cmd_set _ _ h)
  | panel_init =>
    cases hs
    exact .of_log _ fun h => hset (writes_send_cmd_set _ _ h)
  | set_inputs _ | tick _ | record_commit | record_mode_set =>
    cases hs; exact .keep rfl rfl id rfl (.inl rfl) rfl

end

/-! ## Every run keeps the frame-control registers settled -/

/-- While the panel is on, re-sending the committed batch would leave frame-control
register `r`, when in scope, as it is. -/
def FrameSettled (r : UInt8) (s : nt37290_panel) : Prop :=
  s.active = true → FrameScope r s → Settled r s.log (commit_batch s)

/-- **Every run keeps the frame-control registers settled**: in every state reachable
through the runs `adm` admits, re-sending the committed batch would change no
frame-control register in scope, provided no admitted local-HBM switch on an EVT1 or later
panel writes it. -/
theorem reachable_frame_settled {adm : nt37290_panel → Op → Prop} {r : UInt8}
    (hr : r ∈ frame_regs)
    (hlhbm : ∀ t en, adm t (.set_local_hbm_mode en) → t.panel_rev < PANEL_REV_EVT1 ∨ r ≠ 0x2F)
    {s : nt37290_panel} (h : ReachableBy adm s) : FrameSettled r s := by
  induction h with
  | probe panel_rev => exact fun hact => nomatch hact
  | step op _ hok hadm hs ih =>
    cases step_frame hr hok hs with
    | out h => exact fun hact hsc => absurd ⟨hact, hsc⟩ h
    | commit h => exact fun _ _ => h
    | keep hb hact hsc hreg _ _ =>
      intro ha hsc'
      rw [hb]
      exact (ih (hact ▸ ha) (hsc hsc')).congr hreg
    | lhbm hop h2F hge _ _ _ _ _ =>
      obtain ⟨en, rfl⟩ := hop
      rcases hlhbm _ en hadm with hlt | hne
      · exact absurd hlt (UInt32.not_lt.2 hge)
      · exact absurd h2F hne

/-! ## The skip is exact -/

/-- `nt37290_change_frequency` without its skip test: `nt37290_update_panel_feat` is always
forced, as when the panel leaves AOD. -/
def nt37290_change_frequency_forced (s : nt37290_panel) (pmode : exynos_panel_mode) :
    Option (nt37290_panel × Bool) :=
  match s.current_mode with
  | none => none
  | some _ =>
    let s := nt37290_update_min_idle_vrefresh s pmode
    let s := if nt37290_change_frequency.idle_active s pmode then
        { s with feat := set_bit G10_FEAT_FRAME_AUTO (set_bit G10_FEAT_EARLY_EXIT s.feat) }
      else { s with feat := clear_bit G10_FEAT_FRAME_AUTO (clear_bit G10_FEAT_EARLY_EXIT s.feat) }
    (nt37290_update_panel_feat s (some pmode) true).map fun (s, updated) =>
      let s := { s with
        panel_idle_vrefresh := if s.inputs.self_refresh_active then s.hw_idle_vrefresh else 0 }
      (if updated then { s with log := s.log ++ [.backlight_state_changed] } else s, updated)

/-- What the forced call does: the state of a call that flushes. -/
theorem change_frequency_forced_eq (s : nt37290_panel) {cur : exynos_panel_mode}
    (hcur : s.current_mode = some cur) (pmode : exynos_panel_mode) :
    nt37290_change_frequency_forced s pmode = some (change_frequency_post s pmode true, true) := by
  obtain ⟨D, A, hr⟩ : ∃ D A, nt37290_update_min_idle_vrefresh s pmode =
      { s with delayed_idle := D, auto_mode_vrefresh := A } := ⟨_, _, update_min_idle_vrefresh_eq s pmode⟩
  simp only [nt37290_change_frequency_forced, hcur, update_panel_feat_eq, Option.map_some',
    change_frequency_post, desired_feat, feat_changed, hr, Bool.true_or, ite_true]
  generalize nt37290_change_frequency.idle_active _ pmode = b
  cases b <;> simp

/-- **The skip is exact.** In every state of an active panel reachable through the runs
`adm` admits, for every requested mode, `nt37290_change_frequency` and the same call without
its skip test end in the same state but for the log, and leave every frame-control register
with the same value; for 0x2F, on the runs that switch local HBM on panels before EVT1 only. -/
theorem change_frequency_skip_exact {adm : nt37290_panel → Op → Prop} {r : UInt8}
    (hr : r ∈ frame_regs)
    (hlhbm : ∀ t en, adm t (.set_local_hbm_mode en) → t.panel_rev < PANEL_REV_EVT1 ∨ r ≠ 0x2F)
    {s : nt37290_panel} (h : ReachableBy adm s) (hact : s.active = true)
    (pmode : exynos_panel_mode) :
    ∃ t u t', nt37290_change_frequency s pmode = some (t, u) ∧
      nt37290_change_frequency_forced s pmode = some (t', true) ∧
      { t' with log := t.log } = t ∧ regVal r t.log = regVal r t'.log := by
  obtain ⟨cur, hcur⟩ := Option.isSome_iff_exists.1 ((reachable_inv h).active_mode hact)
  refine ⟨_, _, _, change_frequency_eq s hcur pmode, change_frequency_forced_eq s hcur pmode,
    by cases change_frequency_updated s cur pmode <;> rfl, ?_⟩
  cases hu : change_frequency_updated s cur pmode
  · obtain ⟨hlp, hb⟩ := change_frequency_skip_shadow (u := true) hu
    have hset := reachable_frame_settled hr hlhbm h hact (.of_current hcur hlp)
    rw [← hb] at hset
    simp only [change_frequency_post, ite_true, Bool.false_eq_true, ite_false, List.append_nil]
    rw [← List.append_assoc, regVal_append _ _ [_]]
    simpa [commit_batch, change_frequency_post] using hset.symm
  · rfl

theorem self_refresh_idle_skip_exact :
    ∃ s, Reachable s ∧ s.active = true ∧ ∃ t t',
      nt37290_change_frequency s nt37290_mode_120 = some (t, false) ∧
      nt37290_change_frequency_forced s nt37290_mode_120 = some (t', true) ∧
      { t' with log := t.log } = t ∧ regVal 0xBA t.log = regVal 0xBA t'.log := by
  obtain ⟨s, hs, hp⟩ := Reachable.of_probe_run 8 self_refresh_idle_run
    (fun s => s.active && (nt37290_change_frequency s nt37290_mode_120).map Prod.snd == some false)
    rfl (by decide)
  simp only [Bool.and_eq_true, beq_iff_eq] at hp
  obtain ⟨t, u, t', hc, hf, he, hr⟩ := change_frequency_skip_exact (r := 0xBA) (by decide)
    (fun _ _ _ => .inr (by decide)) hs hp.1 nt37290_mode_120
  obtain rfl : u = false := by simpa [hc] using hp.2
  exact ⟨s, hs, hp.1, t, t', hc, hf, he, hr⟩

/-! ## 0x2F on every run -/

/-- 0x2F, while the panel is on outside AOD, holds what the committed batch writes, or on
an EVT1 or later panel the gamma timing of the last local-HBM switch. -/
def FrequencyOrLhbm (s : nt37290_panel) : Prop :=
  s.active = true → FrameScope 0x2F s → Settled 0x2F s.log (commit_batch s) ∨
    s.panel_rev ≥ PANEL_REV_EVT1 ∧ regVal 0x2F s.log = some (lhbm_gamma s.local_hbm_enabled)

theorem reachable_frequency_or_lhbm {s : nt37290_panel} (h : Reachable s) : FrequencyOrLhbm s := by
  induction h with
  | probe panel_rev => exact fun hact => nomatch hact
  | step op _ hok _ hs ih =>
    cases step_frame (r := 0x2F) (by decide) hok hs with
    | out h => exact fun hact hsc => absurd ⟨hact, hsc⟩ h
    | commit h => exact fun _ _ => .inl h
    | keep hb hact hsc hreg hlhbm hrev =>
      intro ha hsc'
      rcases ih (hact ▸ ha) (hsc hsc') with h | ⟨hge, hg⟩
      · exact .inl (by rw [hb]; exact h.congr hreg)
      · refine .inr ⟨hrev ▸ hge, ?_⟩
        rcases hlhbm with hl | hlt | hne
        · rw [hreg, hg, hl]
        · exact absurd hlt (UInt32.not_lt.2 hge)
        · exact absurd rfl hne
    | lhbm _ _ hge _ _ _ hg hrev => exact fun _ _ => .inr ⟨hrev ▸ hge, hg⟩

/-- **0x2F on every run.** In every reachable state of an active panel outside AOD, 0x2F
holds the value the committed shadow asks for, or, on an EVT1 or later panel, the gamma
timing of the last local-HBM switch: 0x02 while local HBM is on, and 0x00, no frame skip,
once it is off, whatever the shadow asks for. -/
theorem frequency_register_or_lhbm {s : nt37290_panel} (h : Reachable s) (hact : s.active = true)
    {m : exynos_panel_mode} (hcur : s.current_mode = some m) (hlp : m.is_lp_mode = false) :
    regVal 0x2F s.log = some [expected2F s.hw_vrefresh s.hw_feat.frame_auto] ∨
      s.panel_rev ≥ PANEL_REV_EVT1 ∧ regVal 0x2F s.log = some (lhbm_gamma s.local_hbm_enabled) :=
  (reachable_frequency_or_lhbm h hact (.of_current hcur hlp)).imp_left
    fun hs => hs.regVal_eq (regVal_batch_2F _ _ _ _)

/-- An EVT1 panel enabled in the 60 Hz mode with local HBM switched on and then off: 0x2F
holds 0x00 while the shadow asks for 0x30, and a renegotiation of the mode finds nothing to
commit. -/
theorem local_hbm_on_off_at_60 :
    ∃ s, Reachable s ∧ s.active = true ∧ s.current_mode = some nt37290_mode_60 ∧
      expected2F s.hw_vrefresh s.hw_feat.frame_auto = 0x30 ∧ regVal 0x2F s.log = some [0x00] ∧
      change_frequency_updated s nt37290_mode_60 nt37290_mode_60 = false := by
  obtain ⟨s, hs, hp⟩ := Reachable.of_probe_run 8
    [.mode_set nt37290_mode_60, .enable, .set_local_hbm_mode true]
    (fun s => s.active && s.current_mode == some nt37290_mode_60 && s.panel_rev == 8 &&
      s.local_hbm_enabled && expected2F s.hw_vrefresh s.hw_feat.frame_auto == 0x30 &&
      !change_frequency_updated (nt37290_set_local_hbm_mode s false) nt37290_mode_60
        nt37290_mode_60) rfl (by decide)
  simp only [Bool.and_eq_true, beq_iff_eq, Bool.not_eq_true'] at hp
  obtain ⟨⟨⟨⟨⟨hact, hcur⟩, hrev⟩, hl⟩, he⟩, hu⟩ := hp
  have hs' : Reachable (nt37290_set_local_hbm_mode s false) :=
    .step (.set_local_hbm_mode false) hs rfl trivial rfl
  have hr : regVal 0x2F (nt37290_set_local_hbm_mode s false).log = some (lhbm_gamma false) :=
    regVal_set_local_hbm_mode (by rw [hrev]; decide) (by simp [hl])
  obtain ⟨l, hl', -⟩ := set_local_hbm_mode_log s false
  rw [hl'] at hs' hr hu
  exact ⟨_, hs', hact, hcur, he, hr, hu⟩

/-- Local HBM switched off on an EVT1 panel enabled at 60 Hz leaves 0x2F at 0x00, no frame
skip, where the shadow asks for 0x30. -/
theorem lhbm_off_frequency_register :
    ∃ s, Reachable s ∧ s.active = true ∧ s.current_mode = some nt37290_mode_60 ∧
      expected2F s.hw_vrefresh s.hw_feat.frame_auto = 0x30 ∧ regVal 0x2F s.log = some [0x00] ∧
      (regVal 0x2F s.log = some [expected2F s.hw_vrefresh s.hw_feat.frame_auto] ∨
        s.panel_rev ≥ PANEL_REV_EVT1 ∧ regVal 0x2F s.log = some (lhbm_gamma s.local_hbm_enabled)) := by
  obtain ⟨s, hs, hact, hcur, he, hr, -⟩ := local_hbm_on_off_at_60
  exact ⟨s, hs, hact, hcur, he, hr, frequency_register_or_lhbm hs hact hcur rfl⟩

/-- **Local HBM off leaves 0x2F stale.** On an EVT1 panel enabled in the 60 Hz mode,
switching local HBM on and then off leaves 0x00 in 0x2F, the normal gamma timing and no frame
skip, and updates no shadow. The next `nt37290_change_frequency` for the same mode compares
the request with the shadow, finds nothing to commit and sends nothing: 0x2F stays 0x00 while
the state it leaves asks for frame skip (0x30). -/
theorem local_hbm_off_leaves_frequency_register_stale :
    ∃ s, Reachable s ∧ s.active = true ∧ s.current_mode = some nt37290_mode_60 ∧
      regVal 0x2F s.log = some [0x00] ∧
      ∃ t, nt37290_change_frequency s nt37290_mode_60 = some (t, false) ∧ t.log = s.log ∧
        expected2F t.hw_vrefresh t.hw_feat.frame_auto = 0x30 := by
  obtain ⟨s, hs, hact, hcur, -, hr, hu⟩ := local_hbm_on_off_at_60
  refine ⟨s, hs, hact, hcur, hr, _, by rw [change_frequency_eq s hcur, hu],
    by simp [change_frequency_post], ?_⟩
  simp [change_frequency_post, expected2F, nt37290_mode_60]

end BoeNt37290
