/-
The wire and the kernel log: everything the nt37290 driver does that can be
seen from outside it.

The driver talks to the panel through the exynos DSI helpers of
`panel-samsung-drv.h` (not in this tree): `EXYNOS_DCS_BUF_ADD` queues one DCS
command, `EXYNOS_DCS_BUF_ADD_AND_FLUSH` queues one and sends the queue as a
single transfer, `EXYNOS_DCS_WRITE_*` sends one command at once, and
`exynos_panel_send_cmd_set` writes the commands of a table one by one, skipping
those whose revision mask excludes the panel. Each helper is modelled by the
events it produces, so a driver function is the list it appends to `log`. A
queued command is an `Event.cmd`, the end of a transfer an `Event.flush`.

`dev_warn`/`dev_err` lines are events too: the two `Unsupported ...` warnings
of `nt37290_update_panel_feat` are how the driver reports a configuration it
cannot build, and that is what the safety statement about the auto frame
insertion register is stated with.

`regVal reg` reads a panel register off a command stream: the parameters of
the most recent DCS command with opcode `reg`. Two of them are the refresh
engine's: 0x2F (frequency mode and control) and 0x44 (TE timing shift).
`queueState` reads the DSI queue off it: whether its last command is still
waiting for a flush.
-/
import Mathlib.Data.List.Basic

set_option autoImplicit false

namespace BoeNt37290

/-! ## Events -/

/-- The driver's `dev_warn`/`dev_err` lines, one constructor per format string. -/
inductive Warn where
  /-- `"Unsupported vrefresh %dHz for manual mode"`, `nt37290_update_panel_feat`. -/
  | unsupported_vrefresh (vrefresh : Int)
  /-- `"Unsupported idle_vrefresh %dHz for auto mode"`, `nt37290_update_panel_feat`. -/
  | unsupported_idle_vrefresh (idle_vrefresh : Int)
  /-- `"Failed to get current timing"`, `nt37290_update_te2`. -/
  | failed_to_get_current_timing
  /-- `"no current mode set"`, the `dev_err` of `nt37290_enable`. -/
  | no_current_mode_set
deriving DecidableEq, Repr

/-- The two warnings that mean a frame-skip batch went out without its 0xBA payload. -/
def Warn.unsupported : Warn → Bool
  | .unsupported_vrefresh _ | .unsupported_idle_vrefresh _ => true
  | _ => false

/-- One observable action of the driver. -/
inductive Event where
  /-- A DCS command (its bytes) and the delay in ms the helper waits after it. -/
  | cmd (payload : List UInt8) (delay_ms : Nat)
  /-- The queued commands leave in one DSI transfer. -/
  | flush
  /-- Modelled from the spec: `exynos_panel_reset` of the common code toggles the reset line,
  and the panel registers are lost. -/
  | reset
  /-- A line in the kernel log. -/
  | warn (w : Warn)
  /-- Modelled from the spec: `backlight_state_changed(ctx->bl)`, the notification to the
  backlight subsystem (`notifyBacklightStateChanged`). -/
  | backlight_state_changed
deriving DecidableEq, Repr

/-- `e` is one of the `Unsupported ...` warnings. -/
def Event.unsupported : Event → Bool
  | .warn w => w.unsupported
  | _ => false

@[simp] theorem Event.unsupported_cmd (payload : List UInt8) (delay_ms : Nat) :
    (Event.cmd payload delay_ms).unsupported = false := rfl

@[simp] theorem Event.unsupported_flush : Event.flush.unsupported = false := rfl

/-- No event of `l` is an `Unsupported ...` warning. -/
def NoUnsupported (l : List Event) : Prop := ∀ e ∈ l, e.unsupported = false

instance : DecidablePred NoUnsupported := fun l =>
  inferInstanceAs (Decidable (∀ e ∈ l, e.unsupported = false))

@[simp] theorem NoUnsupported_append {l m : List Event} :
    NoUnsupported (l ++ m) ↔ NoUnsupported l ∧ NoUnsupported m := by
  simp only [NoUnsupported, List.mem_append, or_imp, forall_and]

/-! ## The DCS helpers -/

/-- Modelled from the spec: `EXYNOS_DCS_BUF_ADD(ctx, seq...)` appends one command to the
batch being built. -/
def EXYNOS_DCS_BUF_ADD (seq : List UInt8) : List Event := [.cmd seq 0]

/-- Modelled from the spec: `EXYNOS_DCS_BUF_ADD_SET(ctx, table)` appends one command held in a
table. -/
def EXYNOS_DCS_BUF_ADD_SET (table : List UInt8) : List Event := EXYNOS_DCS_BUF_ADD table

/-- Modelled from the spec: `EXYNOS_DCS_BUF_ADD_AND_FLUSH(ctx, seq...)` appends one command and
sends the batch as one transfer. -/
def EXYNOS_DCS_BUF_ADD_AND_FLUSH (seq : List UInt8) : List Event := [.cmd seq 0, .flush]

/-- Modelled from the spec: `EXYNOS_DCS_WRITE_TABLE_DELAY(ctx, delay, table)` sends one command
at once (`sendCommand(bytes, delayMs)`), then waits. -/
def EXYNOS_DCS_WRITE_TABLE_DELAY (delay : Nat) (table : List UInt8) : List Event :=
  [.cmd table delay, .flush]

/-- Modelled from the spec: `EXYNOS_DCS_WRITE_SEQ_DELAY(ctx, delay, seq...)`, the same with the
bytes given inline. -/
def EXYNOS_DCS_WRITE_SEQ_DELAY (delay : Nat) (seq : List UInt8) : List Event :=
  EXYNOS_DCS_WRITE_TABLE_DELAY delay seq

/-- Modelled from the spec: `EXYNOS_DCS_WRITE_TABLE(ctx, table)`, with no delay. -/
def EXYNOS_DCS_WRITE_TABLE (table : List UInt8) : List Event := EXYNOS_DCS_WRITE_TABLE_DELAY 0 table

/-! ## Command sets

The revision masks are those of `panel-samsung-drv.h`: revisions are one-hot
bits, `PANEL_REV_EVT1` is `BIT(3)`, and a command is sent when its mask and the
panel's revision share a bit, or when the revision is not known (0). -/

/-- Modelled from the spec: the hardware revision the driver compares with, `PANEL_REV_EVT1`,
`BIT(3)` of the common header. -/
def PANEL_REV_EVT1 : UInt32 := 8

/-- Modelled from the spec: `PANEL_REV_ALL`, the mask of every revision. -/
def PANEL_REV_ALL : UInt32 := ~~~0

/-- Modelled from the spec: `PANEL_REV_GE(rev)`, the mask of the revisions from `rev` on. -/
def PANEL_REV_GE (rev : UInt32) : UInt32 := ~~~(rev - 1)

/-- Modelled from the spec: `PANEL_REV_LT(rev)`, the mask of the revisions before `rev`. -/
def PANEL_REV_LT (rev : UInt32) : UInt32 := rev - 1

/-- Modelled from the spec: `struct exynos_dsi_cmd`, a command of a fixed table with its delay
and its revision mask. -/
structure exynos_dsi_cmd where
  cmd : List UInt8
  delay_ms : Nat
  panel_rev : UInt32
deriving DecidableEq, Repr

/-- Modelled from the spec: `EXYNOS_DSI_CMD(table, delay)`, for every revision. -/
def EXYNOS_DSI_CMD (table : List UInt8) (delay : Nat) : exynos_dsi_cmd := ⟨table, delay, PANEL_REV_ALL⟩

/-- Modelled from the spec: `EXYNOS_DSI_CMD0(table)`, with no delay. -/
def EXYNOS_DSI_CMD0 (table : List UInt8) : exynos_dsi_cmd := EXYNOS_DSI_CMD table 0

/-- Modelled from the spec: `EXYNOS_DSI_CMD0_REV(table, rev)`, for the revisions of `rev`. -/
def EXYNOS_DSI_CMD0_REV (table : List UInt8) (rev : UInt32) : exynos_dsi_cmd := ⟨table, 0, rev⟩

/-- Modelled from the spec: `EXYNOS_DSI_CMD_SEQ_DELAY(delay, seq...)`. -/
def EXYNOS_DSI_CMD_SEQ_DELAY (delay : Nat) (seq : List UInt8) : exynos_dsi_cmd :=
  EXYNOS_DSI_CMD seq delay

/-- Modelled from the spec: `EXYNOS_DSI_CMD_SEQ(seq...)`. -/
def EXYNOS_DSI_CMD_SEQ (seq : List UInt8) : exynos_dsi_cmd := EXYNOS_DSI_CMD seq 0

/-- Modelled from the spec: `EXYNOS_DSI_CMD_SEQ_REV(rev, seq...)`. -/
def EXYNOS_DSI_CMD_SEQ_REV (rev : UInt32) (seq : List UInt8) : exynos_dsi_cmd :=
  EXYNOS_DSI_CMD0_REV seq rev

/-- Modelled from the spec: whether `exynos_panel_send_cmd_set` writes `c` to a panel of
revision `panel_rev`; an unknown revision (0) gets every command. -/
def exynos_dsi_cmd.sent (panel_rev : UInt32) (c : exynos_dsi_cmd) : Bool :=
  panel_rev == 0 || c.panel_rev &&& panel_rev != 0

/-- Modelled from the spec: `exynos_panel_send_cmd_set` sends each command whose mask covers
the panel's revision on its own, followed by its delay. -/
def exynos_panel_send_cmd_set (panel_rev : UInt32) (cmds : List exynos_dsi_cmd) : List Event :=
  (cmds.filter (exynos_dsi_cmd.sent panel_rev)).flatMap
    fun c => EXYNOS_DCS_WRITE_TABLE_DELAY c.delay_ms c.cmd

@[simp] theorem NoUnsupported_BUF_ADD (seq : List UInt8) : NoUnsupported (EXYNOS_DCS_BUF_ADD seq) := by
  simp [NoUnsupported, EXYNOS_DCS_BUF_ADD]

@[simp] theorem NoUnsupported_BUF_ADD_AND_FLUSH (seq : List UInt8) :
    NoUnsupported (EXYNOS_DCS_BUF_ADD_AND_FLUSH seq) := by
  simp [NoUnsupported, EXYNOS_DCS_BUF_ADD_AND_FLUSH]

@[simp] theorem NoUnsupported_WRITE_TABLE_DELAY (delay : Nat) (table : List UInt8) :
    NoUnsupported (EXYNOS_DCS_WRITE_TABLE_DELAY delay table) := by
  simp [NoUnsupported, EXYNOS_DCS_WRITE_TABLE_DELAY]

/-- A command set writes commands, never a warning. -/
theorem NoUnsupported_send_cmd_set (panel_rev : UInt32) (cmds : List exynos_dsi_cmd) :
    NoUnsupported (exynos_panel_send_cmd_set panel_rev cmds) := by
  intro e he
  simp only [exynos_panel_send_cmd_set, List.mem_flatMap, EXYNOS_DCS_WRITE_TABLE_DELAY,
    List.mem_cons, List.mem_singleton, List.not_mem_nil, or_false] at he
  obtain ⟨c, -, rfl | rfl⟩ := he <;> rfl

/-! ## The panel's registers -/

/-- The parameters an event writes to register `reg`: those of a DCS command whose opcode
is `reg`. -/
def Event.param (reg : UInt8) : Event → Option (List UInt8)
  | .cmd (op :: ps) _ => if reg = op then some ps else none
  | _ => none

/-- The panel's register `reg` after a command stream: the parameters of its most recent
write (`none` if it was never written). -/
def regVal (reg : UInt8) : List Event → Option (List UInt8)
  | [] => none
  | e :: es => (regVal reg es).or (e.param reg)

@[simp] theorem regVal_nil (reg : UInt8) : regVal reg [] = none := rfl

@[simp] theorem regVal_cons (reg : UInt8) (e : Event) (es : List Event) :
    regVal reg (e :: es) = (regVal reg es).or (e.param reg) := rfl

@[simp] theorem Event.param_cmd (reg op : UInt8) (ps : List UInt8) (delay_ms : Nat) :
    (Event.cmd (op :: ps) delay_ms).param reg = if reg = op then some ps else none := rfl

/-- A later write overrides an earlier one. -/
@[simp] theorem regVal_append (reg : UInt8) (l m : List Event) :
    regVal reg (l ++ m) = (regVal reg m).or (regVal reg l) := by
  induction l with
  | nil => simp
  | cons e es ih => simp [ih, Option.or_assoc]

/-- The register a DCS command writes: its opcode. -/
def Event.opcode : Event → Option UInt8
  | .cmd (op :: _) _ => some op
  | _ => none

@[simp] theorem Event.opcode_cmd (payload : List UInt8) (delay_ms : Nat) :
    (Event.cmd payload delay_ms).opcode = payload.head? := by
  cases payload <;> rfl

@[simp] theorem Event.opcode_flush : Event.flush.opcode = none := rfl
@[simp] theorem Event.opcode_reset : Event.reset.opcode = none := rfl
@[simp] theorem Event.opcode_warn (w : Warn) : (Event.warn w).opcode = none := rfl
@[simp] theorem Event.opcode_backlight_state_changed :
    Event.backlight_state_changed.opcode = none := rfl

@[simp] theorem Event.param_flush (reg : UInt8) : Event.flush.param reg = none := rfl
@[simp] theorem Event.param_reset (reg : UInt8) : Event.reset.param reg = none := rfl
@[simp] theorem Event.param_warn (reg : UInt8) (w : Warn) : (Event.warn w).param reg = none := rfl
@[simp] theorem Event.param_backlight_state_changed (reg : UInt8) :
    Event.backlight_state_changed.param reg = none := rfl

/-- The registers a command stream writes, in order. -/
def writes (l : List Event) : List UInt8 := l.filterMap Event.opcode

@[simp] theorem writes_nil : writes [] = [] := rfl

@[simp] theorem writes_cons (e : Event) (l : List Event) :
    writes (e :: l) = e.opcode.toList ++ writes l := by
  cases h : e.opcode <;> simp [writes, List.filterMap_cons, h]

@[simp] theorem writes_append (l m : List Event) : writes (l ++ m) = writes l ++ writes m :=
  List.filterMap_append _ _ _

@[simp] theorem writes_BUF_ADD (seq : List UInt8) :
    writes (EXYNOS_DCS_BUF_ADD seq) = seq.head?.toList := by
  cases seq <;> rfl

@[simp] theorem writes_BUF_ADD_AND_FLUSH (seq : List UInt8) :
    writes (EXYNOS_DCS_BUF_ADD_AND_FLUSH seq) = seq.head?.toList := by
  cases seq <;> rfl

@[simp] theorem writes_WRITE_TABLE_DELAY (delay : Nat) (table : List UInt8) :
    writes (EXYNOS_DCS_WRITE_TABLE_DELAY delay table) = table.head?.toList := by
  cases table <;> rfl

theorem Event.param_eq_none_iff {reg : UInt8} {e : Event} :
    e.param reg = none ↔ e.opcode ≠ some reg := by
  match e with
  | .cmd (op :: ps) _ => by_cases h : reg = op <;> simp [Event.opcode, h, eq_comm]
  | .cmd [] _ | .flush | .reset | .warn _ | .backlight_state_changed => simp [Event.param, Event.opcode]

/-- **A stream leaves a register alone exactly when it has no command for it.** -/
theorem regVal_eq_none_iff {reg : UInt8} {l : List Event} : regVal reg l = none ↔ reg ∉ writes l := by
  induction l with
  | nil => simp [writes]
  | cons e es ih =>
    simp only [regVal_cons, Option.or_eq_none, ih, writes, List.mem_filterMap, List.mem_cons,
      Event.param_eq_none_iff]
    aesop

/-- The registers the commands of a table start with. -/
def exynos_dsi_cmd.regs (cmds : List exynos_dsi_cmd) : List UInt8 :=
  cmds.filterMap fun c => c.cmd.head?

/-- A command set writes only registers its table names, whatever the revision. -/
theorem writes_send_cmd_set (panel_rev : UInt32) (cmds : List exynos_dsi_cmd) :
    writes (exynos_panel_send_cmd_set panel_rev cmds) ⊆ exynos_dsi_cmd.regs cmds := by
  intro reg hreg
  simp only [writes, exynos_panel_send_cmd_set, EXYNOS_DCS_WRITE_TABLE_DELAY, List.mem_filterMap,
    List.mem_flatMap, List.mem_filter, List.mem_cons, List.mem_singleton, List.not_mem_nil,
    or_false] at hreg
  obtain ⟨e, ⟨c, ⟨hc, -⟩, rfl | rfl⟩, he⟩ := hreg
  · exact List.mem_filterMap.2 ⟨c, hc, by simpa using he⟩
  · cases he

/-! ## The DSI queue -/

/-- What an event does to the DSI command queue: a command joins it (`true`), a flush
sends it (`false`); other events leave it alone. -/
def Event.queue : Event → Option Bool
  | .cmd _ _ => some true
  | .flush => some false
  | _ => none

@[simp] theorem Event.queue_cmd (payload : List UInt8) (delay_ms : Nat) :
    (Event.cmd payload delay_ms).queue = some true := rfl
@[simp] theorem Event.queue_flush : Event.flush.queue = some false := rfl
@[simp] theorem Event.queue_reset : Event.reset.queue = none := rfl
@[simp] theorem Event.queue_warn (w : Warn) : (Event.warn w).queue = none := rfl
@[simp] theorem Event.queue_backlight_state_changed :
    Event.backlight_state_changed.queue = none := rfl

/-- The queue at the end of a stream: `some true` if its last command was not sent,
`some false` if it was, `none` if the stream never touched the queue. -/
def queueState : List Event → Option Bool
  | [] => none
  | e :: es => (queueState es).or e.queue

@[simp] theorem queueState_nil : queueState [] = none := rfl

@[simp] theorem queueState_cons (e : Event) (es : List Event) :
    queueState (e :: es) = (queueState es).or e.queue := rfl

@[simp] theorem queueState_append (l m : List Event) :
    queueState (l ++ m) = (queueState m).or (queueState l) := by
  induction l with
  | nil => simp
  | cons e es ih => simp [ih, Option.or_assoc]

/-- A stream that leaves no command queued. -/
def Sent (l : List Event) : Prop := queueState l ≠ some true

theorem Sent.append {l m : List Event} (hl : Sent l) (hm : Sent m) : Sent (l ++ m) := by
  unfold Sent at *
  rw [queueState_append]
  cases h : queueState m with
  | none => simpa using hl
  | some b => simpa [h] using hm

/-- A stream that ends with a flush sends whatever came before it. -/
theorem Sent.of_flushed {l m : List Event} (hm : queueState m = some false) : Sent (l ++ m) := by
  simp [Sent, hm]

@[simp] theorem queueState_BUF_ADD_AND_FLUSH (seq : List UInt8) :
    queueState (EXYNOS_DCS_BUF_ADD_AND_FLUSH seq) = some false := rfl

@[simp] theorem queueState_WRITE_TABLE_DELAY (delay : Nat) (table : List UInt8) :
    queueState (EXYNOS_DCS_WRITE_TABLE_DELAY delay table) = some false := rfl

@[simp] theorem queueState_WRITE_SEQ_DELAY (delay : Nat) (seq : List UInt8) :
    queueState (EXYNOS_DCS_WRITE_SEQ_DELAY delay seq) = some false := rfl

@[simp] theorem queueState_WRITE_TABLE (table : List UInt8) :
    queueState (EXYNOS_DCS_WRITE_TABLE table) = some false := rfl

/-- A command set sends each of its commands. -/
theorem Sent.send_cmd_set (panel_rev : UInt32) (cmds : List exynos_dsi_cmd) :
    Sent (exynos_panel_send_cmd_set panel_rev cmds) := by
  unfold exynos_panel_send_cmd_set
  induction cmds.filter (exynos_dsi_cmd.sent panel_rev) with
  | nil => simp [Sent]
  | cons c cs ih =>
    rw [List.flatMap_cons]
    exact Sent.append (by simp [Sent]) ih

end BoeNt37290
