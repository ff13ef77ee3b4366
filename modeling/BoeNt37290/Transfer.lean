/-
The DSI transport: every entry point sends what it queues.

The driver queues DCS commands (`EXYNOS_DCS_BUF_ADD`) and sends the queue as
one transfer (`EXYNOS_DCS_BUF_ADD_AND_FLUSH`, or any of the immediate
`EXYNOS_DCS_WRITE_*` writes). A command still queued when an entry point
returns would go out with whatever transfer comes next, on behalf of another
caller; sends are synchronous, with no batch outstanding between calls.

`Sent` says a stream leaves nothing queued. Every entry point ends its writes
with a flush, so every step keeps the whole log `Sent` (`step_sent`) and no
reachable state has a command waiting (`reachable_queue_sent`). One write
relies on another for its flush: the local-HBM level that
`nt37290_set_brightness` queues goes out with the brightness write of
`exynos_panel_set_brightness` right after it.
-/
import BoeNt37290.System

set_option autoImplicit false

namespace BoeNt37290

section
variable {s s' : nt37290_panel}

/-- `nt37290_change_frequency` sends its batch before it returns. -/
theorem change_frequency_sent {pmode : exynos_panel_mode} {u : Bool} (h : Sent s.log)
    (hc : nt37290_change_frequency s pmode = some (s', u)) : Sent s'.log := by
  cases hcur : s.current_mode with
  | none => simp [nt37290_change_frequency, hcur] at hc
  | some cur =>
    rw [change_frequency_eq s hcur] at hc
    obtain ⟨rfl, rfl⟩ := Prod.mk.inj (Option.some.inj hc)
    simp only [change_frequency_post]
    split
    · exact h.append (by simp [Sent, queueState_batch])
    · simpa using h

/-- `nt37290_enable` ends with the batch and then display on or the AOD set. -/
theorem enable_sent {ret : Int} (h : Sent s.log) (hs : nt37290_enable s = some (s', ret)) :
    Sent s'.log := by
  cases hcur : s.current_mode with
  | none =>
    simp only [nt37290_enable, hcur, Option.some.injEq, Prod.mk.injEq] at hs
    obtain ⟨rfl, rfl⟩ := hs
    exact h.append (by simp [Sent])
  | some pmode =>
    rw [enable_eq s hcur] at hs
    obtain ⟨rfl, rfl⟩ := Prod.mk.inj (Option.some.inj hs)
    have htail : Sent (if pmode.is_lp_mode = false then EXYNOS_DCS_WRITE_TABLE display_on
        else exynos_panel_send_cmd_set s.panel_rev nt37290_lp_cmds) := by
      split
      · simp [Sent]
      · exact Sent.send_cmd_set _ _
    exact (Sent.of_flushed (queueState_batch _ _ _ _)).append htail

/-- **Every step sends what it queues.** -/
theorem step_sent {op : Op} (h : Sent s.log) (hs : step s op = some s') : Sent s'.log := by
  cases op with
  | mode_set pmode =>
    obtain ⟨t, ht, rfl⟩ := Option.map_eq_some'.1 hs
    rcases mode_set_cases ht with ⟨-, rfl⟩ | ⟨-, u, hc⟩
    · exact h
    · exact (change_frequency_sent h hc : Sent t.log)
  | set_lp_mode pmode =>
    cases hs
    split
    · exact h.append (Sent.send_cmd_set _ _)
    · exact h
  | set_nolp_mode pmode =>
    obtain ⟨t, ht, rfl⟩ := Option.map_eq_some'.1 hs
    rcases set_nolp_mode_cases ht with ⟨-, rfl⟩ | ⟨-, t, u, hc, rfl⟩
    · exact h
    · exact (change_frequency_sent (h.append (by simp [Sent])) hc).append (by simp [Sent])
  | set_self_refresh enable =>
    obtain ⟨⟨t, u⟩, ht, rfl⟩ := Option.map_eq_some'.1 hs
    rcases set_self_refresh_cases ht with rfl | ⟨cur, -, -, hc⟩
    · exact h
    · exact change_frequency_sent h hc
  | commit_done =>
    rcases commit_done_cases hs with rfl | ⟨-, cur, -, rfl | ⟨u, hc | hc⟩⟩
    · exact h
    · exact h.append (by simp [Sent])
    · exact change_frequency_sent h hc
    · exact change_frequency_sent (s := { s with last_mode_set_ts := s.now }) h hc
  | enable =>
    obtain ⟨⟨t, ret⟩, ht, rfl⟩ := Option.map_eq_some'.1 hs
    have hlog : (if ret = 0 then { t with active := true } else t).log = t.log := by
      split <;> rfl
    rw [hlog]
    exact enable_sent h ht
  | disable => cases hs; exact h.append (Sent.send_cmd_set _ _)
  | set_brightness br =>
    cases hs
    obtain ⟨l, hl, -, -, hsent⟩ := set_brightness_log s br
    rw [hl]; exact h.append hsent
  | set_local_hbm_mode local_hbm_en =>
    cases hs
    obtain ⟨l, hl, -, -, -, hsent⟩ := set_local_hbm_mode_log s local_hbm_en
    rw [hl]; exact h.append hsent
  | update_te2 timing =>
    cases hs
    obtain ⟨l, hl, -, -, hsent⟩ := update_te2_log s timing
    rw [hl]; exact h.append hsent
  | set_binned_lp binned_lp => cases hs; exact h.append (Sent.send_cmd_set _ _)
  | panel_init => cases hs; exact h.append (Sent.send_cmd_set _ _)
  | set_inputs i => cases hs; exact h
  | tick us => cases hs; exact h
  | record_commit => cases hs; exact h
  | record_mode_set => cases hs; exact h

end

/-- **No command is left queued.** In every state reachable from a probe, through any run,
every DCS command the driver queued has gone out in a transfer: the log's last command is
followed by a flush. -/
theorem reachable_queue_sent {s : nt37290_panel} (h : Reachable s) : queueState s.log ≠ some true := by
  induction h with
  | probe panel_rev => simp [nt37290_panel_probe]
  | step op _ _ _ hs ih => exact step_sent ih hs

theorem lhbm_brightness_queue_sent :
    ∃ s, Reachable s ∧ s.local_hbm_enabled = true ∧ s.panel_rev = 8 ∧
      queueState s.log ≠ some true := by
  obtain ⟨s, hs, hp⟩ := Reachable.of_probe_run 8
    [.mode_set nt37290_mode_60, .enable, .set_local_hbm_mode true, .set_brightness 1023]
    (fun s => s.local_hbm_enabled && s.panel_rev == 8) rfl (by decide)
  simp only [Bool.and_eq_true, beq_iff_eq] at hp
  exact ⟨s, hs, hp.1, hp.2, reachable_queue_sent hs⟩

end BoeNt37290
