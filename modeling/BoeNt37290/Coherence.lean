/-
The refresh registers against the committed shadow.

`nt37290_update_panel_feat` skips its batch when the features and rates it
would commit equal the shadow, so the shadow is trusted to say what the panel
holds. Two registers of the batch are set from the shadow alone: the
frequency register 0x2F, 0x00 in manual mode at 120 Hz and 0x30 otherwise
(`expected2F`), and the TE shift 0x44, none at 120 Hz and 8.2 ms below
(`expected44`).

`BatchReg` is such a register with what the proofs need of it: every batch
sets it from the rate and the frame-insertion bit it commits, and the
driver's other writes leave it alone, AOD entry only when `aod` holds.
`BatchReg.Coherent` says it holds the batch's value for the shadow while the
panel is on (in a non-LP mode, unless `aod`), and
`BatchReg.reachable_coherent` that every run keeps that, over the runs `adm`
admits, as long as those do not let local HBM write it.

For 0x2F that is a restriction. From EVT1 on, local HBM uses 0x2F for its
gamma timing, 2F 02 while it is on and 2F 00 once it is off, and updates no
shadow, so `frequency_register_coherent` is about the runs that switch local
HBM on earlier panels only (`Replay` says what 0x2F holds on the others, and
shows the stale value after local HBM off); and AOD entry writes 2F 00, which
voids the statement in AOD until the forced commit of AOD exit. The TE shift needs neither
(`te_shift_register_coherent`).

The work is in `BatchReg.change_frequency_exact`: a call that flushes writes
the value for the shadow it commits, and a call that skips does so outside AOD
only, when nothing differs, so it keeps a register that was right.
-/
import BoeNt37290.Invariant

set_option autoImplicit false

namespace BoeNt37290

open nt37290_panel_feature

/-- A panel register the frequency batch owns: every batch sets it to `expect` of the rate
and the frame-insertion bit it commits, and the driver's other writes leave it alone: the
frames, display on and 0x38 around the batches, brightness, local HBM (its EVT1 gamma
timing apart), TE2, the local-HBM settings and the AOD bins, and AOD entry if `aod`. -/
structure BatchReg where
  reg : UInt8
  expect : Int → Bool → List UInt8
  aod : Bool
  batch_sets : ∀ v i ee fi,
    regVal reg (nt37290_update_panel_feat.batch v i ee fi) = some (expect v fi)
  lp_free : aod = true → reg ∉ exynos_dsi_cmd.regs nt37290_lp_cmds
  frames_free : reg ∉ [0x38, 0x2C, 0x29]
  brightness_free : reg ∉ [0xF0, 0x6F, 0xDF, 0x51]
  lhbm_free : reg ∉ [0xF0, 0x6F, 0xDF, 0x87, 0x85, 0x86]
  te2_free : reg ∉ [0xF0, 0xC3, 0x6F, 0xC4]
  tables_free : reg ∉ exynos_dsi_cmd.regs nt37290_lhbm_on_setting_cmds ∧
    ∀ b ∈ nt37290_binned_lp, reg ∉ exynos_dsi_cmd.regs b.cmds

/-- The frequency register 0x2F; AOD entry writes it. -/
def frequency_reg : BatchReg where
  reg := 0x2F
  expect v fi := [expected2F v fi]
  aod := false
  batch_sets := regVal_batch_2F
  lp_free := nofun
  frames_free := by decide
  brightness_free := by decide
  lhbm_free := by decide
  te2_free := by decide
  tables_free := ⟨nt37290_lhbm_on_setting_cmds_regs.1, fun b hb => (nt37290_binned_lp_regs b hb).1⟩

/-- The TE shift register 0x44. -/
def te_shift_reg : BatchReg where
  reg := 0x44
  expect v _ := expected44 v
  aod := true
  batch_sets := regVal_batch_44
  lp_free _ := by rw [nt37290_lp_cmds_regs]; decide
  frames_free := by decide
  brightness_free := by decide
  lhbm_free := by decide
  te2_free := by decide
  tables_free := ⟨nt37290_lhbm_on_setting_cmds_regs.2, fun b hb => (nt37290_binned_lp_regs b hb).2⟩

/-- The steps that leave 0x2F to the frequency batches: local HBM is switched only on
panels before EVT1. -/
def LhbmBeforeEvt1 (s : nt37290_panel) : Op → Prop
  | .set_local_hbm_mode _ => s.panel_rev < PANEL_REV_EVT1
  | _ => True

namespace BatchReg

variable (r : BatchReg)

/-- The register holds what the batch for the committed shadow sets. -/
def Exact (s : nt37290_panel) : Prop :=
  regVal r.reg s.log = some (r.expect s.hw_vrefresh s.hw_feat.frame_auto)

/-- The current mode, if any, is one the register is kept in. -/
def InScope (s : nt37290_panel) : Prop :=
  ∀ m, s.current_mode = some m → (r.aod || !m.is_lp_mode) = true

/-- While the panel is on in a mode of its scope, the register agrees with the shadow. -/
def Coherent (s : nt37290_panel) : Prop :=
  s.active = true → r.InScope s → r.Exact s

/-! ## Keeping the register -/

variable {r} {s s' : nt37290_panel}

/-- A stream that writes only registers other than this one leaves it alone. -/
theorem not_mem_writes {l : List Event} {regs : List UInt8} (hl : writes l ⊆ regs)
    (hr : r.reg ∉ regs) : r.reg ∉ writes l :=
  fun h => hr (hl h)

theorem InScope.of_current {m : exynos_panel_mode} (hcur : s.current_mode = some m)
    (hm : (r.aod || !m.is_lp_mode) = true) : r.InScope s := by
  intro m' hm'
  rw [hcur, Option.some.injEq] at hm'
  exact hm' ▸ hm

theorem Exact.coherent (h : r.Exact s) : r.Coherent s := fun _ _ => h

/-- Commands that do not write the register keep it. -/
theorem Exact.append (h : r.Exact s) {l : List Event} (hl : r.reg ∉ writes l) :
    r.Exact { s with log := s.log ++ l } := by
  simpa [Exact, regVal_eq_none_iff.2 hl] using h

theorem Coherent.append (h : r.Coherent s) {l : List Event} (hl : r.reg ∉ writes l) :
    r.Coherent { s with log := s.log ++ l } :=
  fun hact hin => (h hact hin).append hl

theorem Coherent.of_inactive (h : s.active = false) : r.Coherent s := by
  intro hact
  simp [h] at hact

/-- A register AOD entry writes is out of scope in an LP mode. -/
theorem Coherent.of_lp {m : exynos_panel_mode} (hcur : s.current_mode = some m)
    (hlp : m.is_lp_mode = true) (haod : r.aod = false) : r.Coherent s := by
  intro _ hin
  simpa [hlp, haod] using hin m hcur

/-- **`nt37290_change_frequency` leaves the register right for the shadow it commits**,
if it was right before or the panel is leaving AOD: a flushed batch writes the value for
the new shadow, and a skip happens outside AOD only when the shadow does not change. -/
theorem change_frequency_exact {cur pmode : exynos_panel_mode} {u : Bool}
    (hcur : s.current_mode = some cur) (hreg : cur.is_lp_mode = false → r.Exact s)
    (hc : nt37290_change_frequency s pmode = some (s', u)) : r.Exact s' := by
  rw [change_frequency_eq s hcur] at hc
  obtain ⟨rfl, rfl⟩ := Prod.mk.inj (Option.some.inj hc)
  cases hu : change_frequency_updated s cur pmode
  · simp only [change_frequency_updated, Bool.or_eq_false_iff, Bool.not_eq_false',
      Bool.and_eq_true, beq_iff_eq] at hu
    obtain ⟨hlp, ⟨hf, hv⟩, -⟩ := hu
    simpa [Exact, change_frequency_post, hf, hv] using hreg hlp
  · simp [Exact, change_frequency_post, r.batch_sets]

/-- The same, from a coherent active panel. -/
theorem Coherent.change_frequency {pmode : exynos_panel_mode} {u : Bool} (h : r.Coherent s)
    (hact : s.active = true) (hc : nt37290_change_frequency s pmode = some (s', u)) :
    r.Exact s' := by
  cases hcur : s.current_mode with
  | none => simp [nt37290_change_frequency, hcur] at hc
  | some cur =>
    exact change_frequency_exact hcur (fun hlp => h hact (.of_current hcur (by simp [hlp]))) hc

/-- A call that skips leaves the register as the skipped batch would have set it. -/
theorem Coherent.change_frequency_skip {pmode : exynos_panel_mode} (h : r.Coherent s)
    (hact : s.active = true) (hc : nt37290_change_frequency s pmode = some (s', false)) :
    regVal r.reg s.log = some (r.expect pmode.vrefresh s'.hw_feat.frame_auto) := by
  have he := h.change_frequency hact hc
  cases hcur : s.current_mode with
  | none => simp [nt37290_change_frequency, hcur] at hc
  | some cur =>
    rw [change_frequency_eq s hcur] at hc
    obtain ⟨rfl, hu⟩ := Prod.mk.inj (Option.some.inj hc)
    simpa [Exact, change_frequency_post, hu] using he

/-! ## Every admitted step keeps it -/

theorem Coherent.mode_set {pmode : exynos_panel_mode} (h : r.Coherent s)
    (hs : nt37290_mode_set s pmode = some s') : r.Coherent (s'.set_current_mode pmode) := by
  rcases mode_set_cases hs with ⟨hact, rfl⟩ | ⟨hact, u, hc⟩
  · exact .of_inactive hact
  · have ht : r.Exact s' := h.change_frequency hact hc
    exact Exact.coherent (s := s'.set_current_mode pmode) ht

/-- AOD entry keeps a register it does not write; the others are out of scope in AOD. -/
theorem Coherent.set_lp_mode {pmode : exynos_panel_mode} (h : r.Coherent s)
    (hlp : pmode.is_lp_mode = true) :
    r.Coherent ((if s.active then exynos_panel_set_lp_mode s pmode else s).set_current_mode
      pmode) := by
  cases haod : r.aod
  · exact .of_lp rfl hlp haod
  · have hin : ∀ t : nt37290_panel, r.InScope t := fun _ _ _ => by simp [haod]
    split
    · exact fun hact _ => Exact.append (s := s) (h hact (hin s))
        fun hw => r.lp_free haod (writes_send_cmd_set s.panel_rev _ hw)
    · exact fun hact _ => h hact (hin s)

theorem Coherent.set_nolp_mode {pmode : exynos_panel_mode} (h : r.Coherent s)
    (hs : nt37290_set_nolp_mode s pmode = some s') : r.Coherent (s'.set_current_mode pmode) := by
  rcases set_nolp_mode_cases hs with ⟨hact, rfl⟩ | ⟨hact, t, u, hc, rfl⟩
  · exact .of_inactive hact
  · have ht : r.Exact t :=
      (h.append (l := EXYNOS_DCS_WRITE_SEQ_DELAY 34 [0x38])
        (not_mem_writes (by decide) r.frames_free)).change_frequency hact hc
    exact Exact.coherent (s := { t with log := _ }.set_current_mode pmode)
      (ht.append (l := EXYNOS_DCS_WRITE_TABLE_DELAY 34 stream_2c ++ EXYNOS_DCS_WRITE_TABLE stream_2c ++
        EXYNOS_DCS_WRITE_TABLE display_on) (not_mem_writes (by decide) r.frames_free))

theorem Coherent.set_self_refresh {enable u : Bool} (h : r.Coherent s)
    (hs : nt37290_set_self_refresh s enable = some (s', u)) : r.Coherent s' := by
  rcases set_self_refresh_cases hs with rfl | ⟨cur, -, -, hc⟩
  · exact h
  · by_cases hact : s.active = true
    · exact (h.change_frequency hact hc).coherent
    · rw [← (change_frequency_frame hc).2.1] at hact
      exact .of_inactive (by simpa using hact)

theorem Coherent.commit_done (h : r.Coherent s) (hs : nt37290_commit_done s = some s') :
    r.Coherent s' := by
  rcases commit_done_cases hs with rfl | ⟨hact, cur, -, rfl | ⟨u, hc | hc⟩⟩
  · exact h
  · exact Coherent.append (s := { s with last_mode_set_ts := s.now }) h
      (l := EXYNOS_DCS_WRITE_TABLE stream_2c) (not_mem_writes (by decide) r.frames_free)
  · exact (h.change_frequency hact hc).coherent
  · exact (Coherent.change_frequency (s := { s with last_mode_set_ts := s.now }) h hact hc).coherent

/-- `nt37290_enable` ends with a batch for the shadow it commits, then display on or AOD
entry. -/
theorem Coherent.enable {ret : Int} (h : r.Coherent s) (hs : nt37290_enable s = some (s', ret)) :
    r.Coherent (if ret = 0 then { s' with active := true } else s') := by
  cases hcur : s.current_mode with
  | none =>
    simp only [nt37290_enable, hcur, Option.some.injEq, Prod.mk.injEq] at hs
    obtain ⟨rfl, rfl⟩ := hs
    rw [if_neg (by decide)]
    exact fun hact _ => Exact.append (s := s) (l := [.warn .no_current_mode_set])
      (h hact fun m hm => by simp [hcur] at hm) (by simp)
  | some pmode =>
    rw [enable_eq s hcur] at hs
    obtain ⟨rfl, rfl⟩ := Prod.mk.inj (Option.some.inj hs)
    rw [if_pos rfl]
    cases hlp : pmode.is_lp_mode
    · have hon : regVal r.reg (EXYNOS_DCS_WRITE_TABLE display_on) = none :=
        regVal_eq_none_iff.2 (not_mem_writes (by decide) r.frames_free)
      exact Exact.coherent (by simp [Exact, r.batch_sets, hon])
    · cases haod : r.aod
      · exact .of_lp (by simp [hcur]) hlp haod
      · have hlp' : regVal r.reg (exynos_panel_send_cmd_set s.panel_rev nt37290_lp_cmds) = none :=
          regVal_eq_none_iff.2 fun hw => r.lp_free haod (writes_send_cmd_set _ _ hw)
        exact Exact.coherent (by simp [Exact, r.batch_sets, hlp'])

/-- **Every admitted step keeps the register coherent**, when no admitted local-HBM step
writes it. -/
theorem Coherent.step {adm : nt37290_panel → Op → Prop}
    (hlhbm : ∀ s en, adm s (.set_local_hbm_mode en) → s.panel_rev < PANEL_REV_EVT1 ∨ r.reg ≠ 0x2F)
    {op : Op} (h : r.Coherent s) (hadm : adm s op) (hok : op.drm_ok = true)
    (hs : BoeNt37290.step s op = some s') : r.Coherent s' := by
  cases op with
  | mode_set pmode =>
    obtain ⟨t, ht, rfl⟩ := Option.map_eq_some'.1 hs
    exact h.mode_set ht
  | set_lp_mode pmode => cases hs; exact h.set_lp_mode hok
  | set_nolp_mode pmode =>
    obtain ⟨t, ht, rfl⟩ := Option.map_eq_some'.1 hs
    exact h.set_nolp_mode ht
  | set_self_refresh enable =>
    obtain ⟨⟨t, u⟩, ht, rfl⟩ := Option.map_eq_some'.1 hs
    exact h.set_self_refresh ht
  | commit_done => exact h.commit_done hs
  | enable =>
    obtain ⟨⟨t, ret⟩, ht, rfl⟩ := Option.map_eq_some'.1 hs
    exact h.enable ht
  | disable => cases hs; exact .of_inactive rfl
  | set_brightness br =>
    cases hs
    obtain ⟨l, hl, hw, -⟩ := set_brightness_log s br
    rw [hl]; exact h.append (not_mem_writes hw r.brightness_free)
  | set_local_hbm_mode en =>
    cases hs
    obtain ⟨l, hl, hw, hw_old, -⟩ := set_local_hbm_mode_log s en
    rw [hl]
    refine Coherent.append (s := { s with local_hbm_enabled := en }) h fun hr => ?_
    rcases hlhbm s en hadm with hrev | hne
    · exact r.lhbm_free (List.mem_append_right [0xF0, 0x6F, 0xDF] (hw_old hrev hr))
    · exact r.lhbm_free ((List.mem_cons.1 (hw hr)).resolve_left hne)
  | update_te2 timing =>
    cases hs
    obtain ⟨l, hl, hw, -⟩ := update_te2_log s timing
    rw [hl]; exact h.append (not_mem_writes hw r.te2_free)
  | set_binned_lp b =>
    cases hs
    exact h.append fun hr => r.tables_free.2 b (of_decide_eq_true hok) (writes_send_cmd_set _ _ hr)
  | panel_init =>
    cases hs
    exact h.append fun hr => r.tables_free.1 (writes_send_cmd_set _ _ hr)
  | set_inputs i => cases hs; exact h
  | tick us => cases hs; exact h
  | record_commit => cases hs; exact h
  | record_mode_set => cases hs; exact h

/-- Every state of a run whose local-HBM steps do not write the register is coherent. -/
theorem reachable_coherent {adm : nt37290_panel → Op → Prop}
    (hlhbm : ∀ s en, adm s (.set_local_hbm_mode en) → s.panel_rev < PANEL_REV_EVT1 ∨ r.reg ≠ 0x2F)
    (h : ReachableBy adm s) : r.Coherent s := by
  induction h with
  | probe panel_rev => exact .of_inactive rfl
  | step op _ hok hadm hs ih => exact ih.step hlhbm hadm hok hs

end BatchReg

/-! ## The two registers and the shadow -/

/-- **Shadow coherence of the frequency register.** In every state of a run that switches
local HBM only on panels before EVT1, while the panel is on in a non-LP mode, the 0x2F
register holds the value of the batch for the committed shadow: 0x00 at 120 Hz without
auto frame insertion, 0x30 otherwise. So a call of `nt37290_change_frequency` that skips
its batch skips one that would have written what is already there. -/
theorem frequency_register_coherent {s : nt37290_panel} {m : exynos_panel_mode}
    (h : ReachableBy LhbmBeforeEvt1 s) (hact : s.active = true) (hcur : s.current_mode = some m)
    (hlp : m.is_lp_mode = false) :
    regVal 0x2F s.log = some [expected2F s.hw_vrefresh (test_bit G10_FEAT_FRAME_AUTO s.hw_feat)] ∧
    ∀ pmode s', nt37290_change_frequency s pmode = some (s', false) →
      regVal 0x2F s.log = some [expected2F pmode.vrefresh (test_bit G10_FEAT_FRAME_AUTO s'.hw_feat)] := by
  have hc : frequency_reg.Coherent s := BatchReg.reachable_coherent (fun _ _ hrev => .inl hrev) h
  exact ⟨hc hact (.of_current hcur (by simp [frequency_reg, hlp])),
    fun _ _ hskip => hc.change_frequency_skip hact hskip⟩

theorem self_refresh_idle_register_coherent :
    ∃ s, ReachableBy LhbmBeforeEvt1 s ∧ s.active = true ∧
      s.current_mode = some nt37290_mode_120 ∧ regVal 0x2F s.log = some [0x30] := by
  obtain ⟨s, hs, hp⟩ := ReachableBy.of_probe_run LhbmBeforeEvt1 8 self_refresh_idle_run
    (fun s => s.active && s.current_mode == some nt37290_mode_120 &&
      expected2F s.hw_vrefresh s.hw_feat.frame_auto == 0x30)
    (by simp only [self_refresh_idle_run, List.mem_cons, List.not_mem_nil, or_false]
        rintro op (rfl | rfl | rfl | rfl) <;> exact ⟨rfl, fun _ => trivial⟩)
    (by decide)
  simp only [Bool.and_eq_true, beq_iff_eq] at hp
  obtain ⟨⟨hact, hcur⟩, he⟩ := hp
  refine ⟨s, hs, hact, hcur, ?_⟩
  rw [(frequency_register_coherent hs hact hcur rfl).1, test_bit_frame_auto, he]

/-- **Shadow coherence of the TE shift.** In every reachable state where the panel is on,
AOD included, 0x44 holds the TE shift of the batch for the committed rate: none at
120 Hz, 8.2 ms below. No other write of the driver touches it, so this needs no
restriction on the run, and a call of `nt37290_change_frequency` that skips its batch
skips one that would have written what is already there. -/
theorem te_shift_register_coherent {s : nt37290_panel} (h : Reachable s) (hact : s.active = true) :
    regVal 0x44 s.log = some (expected44 s.hw_vrefresh) ∧
    ∀ pmode s', nt37290_change_frequency s pmode = some (s', false) →
      regVal 0x44 s.log = some (expected44 pmode.vrefresh) := by
  have hc : te_shift_reg.Coherent s := BatchReg.reachable_coherent (fun _ _ _ => .inr (by decide)) h
  have hin : te_shift_reg.InScope s := fun _ _ => rfl
  exact ⟨hc hact hin, fun _ _ hskip => hc.change_frequency_skip hact hskip⟩

theorem enable_in_aod_te_shift :
    ∃ s, Reachable s ∧ s.active = true ∧ s.current_mode = some nt37290_lp_mode ∧
      regVal 0x44 s.log = some [0x00, 0x01] := by
  obtain ⟨s, hs, hp⟩ := Reachable.of_probe_run 8 [.mode_set nt37290_lp_mode, .enable]
    (fun s => s.active && s.current_mode == some nt37290_lp_mode &&
      expected44 s.hw_vrefresh == [0x00, 0x01]) rfl (by decide)
  simp only [Bool.and_eq_true, beq_iff_eq] at hp
  obtain ⟨⟨hact, hcur⟩, he⟩ := hp
  exact ⟨s, hs, hact, hcur, (te_shift_register_coherent hs hact).1.trans (congrArg some he)⟩

end BoeNt37290
