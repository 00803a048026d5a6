import S80x86.Fpga.SdramController
import S80x86.Foundation.Clocked

/-!
# The row protocol of the SDRAM

The table of open rows against the rows of the device, over whole runs of the
controller, and the requests of the host that are served.
-/

open Foundation Clocked

namespace S80x86
namespace Fpga

namespace SdramSystem

open SdramConfig SdramController

variable (p : SdramConfig)

/-!
## The table of open rows
-/

/-- The table shows exactly the rows of the device. -/
def Exact (s : SdramSystem) : Prop :=
  forall b, s.rows b =
    if s.controller.rowIsOpen b then some (s.controller.openRow b) else none

/-- The table shows the row that is requested. -/
def Opened (h : SdramHost) (s : SdramSystem) : Prop :=
  s.controller.rowIsOpen (h.banksel p) = true ∧
    s.controller.openRow (h.banksel p) = h.rowsel p

def Closed (s : SdramSystem) : Prop :=
  forall b, s.controller.rowIsOpen b = false

/-- A request waits to be completed. -/
def Waits (h : SdramHost) (s : SdramSystem) : Prop :=
  h.requests = true ∧ s.controller.hCompl = false

/-- The command for the requested bank is on the pins. -/
def Presents (h : SdramHost) (cmd : SdramCommand) (addr : BitVec 13)
    (s : SdramSystem) : Prop :=
  s.controller.cmd = cmd ∧ s.controller.sBanksel = h.banksel p ∧
    s.controller.sAddr = addr

/-- What holds in each state, with the host of the same cycle. -/
def Inv (h : SdramHost) (s : SdramSystem) : Prop :=
  match s.controller.state with
  | .RESET =>
      s.controller.cmd = .NOP ∧ s.controller.hCompl = false ∧ s.Closed
  | .RESET_PCH =>
      s.controller.hCompl = false ∧ s.Closed ∧
        (s.controller.cmd = .PRE ∧ s.controller.sAddr = prechargeAll ∨
          s.controller.cmd = .NOP ∧ s.rows.Precharged)
  | .RESET_REF1 =>
      s.controller.hCompl = false ∧ s.Closed ∧ s.rows.Precharged ∧
        (s.controller.cmd = .REF ∨ s.controller.cmd = .NOP)
  | .RESET_REF2 =>
      s.controller.hCompl = false ∧ s.Closed ∧ s.rows.Precharged ∧
        (s.controller.cmd = .REF ∨ s.controller.cmd = .NOP)
  | .MRS =>
      s.controller.hCompl = false ∧ s.Closed ∧ s.rows.Precharged ∧
        (s.controller.cmd = .MRS ∨ s.controller.cmd = .NOP)
  | .IDLE => s.controller.cmd = .NOP ∧ s.Exact
  | .ACT =>
      s.Waits h ∧ s.Exact ∧
        (s.Presents p h .ACT (h.rowsel p) ∧
            s.controller.rowIsOpen (h.banksel p) = false ∨
          s.controller.cmd = .NOP ∧ s.Opened p h)
  | .READ =>
      s.Waits h ∧ h.wrEn = false ∧ s.Exact ∧ s.Opened p h ∧
        (s.Presents p h .READ (h.col p) ∨ s.controller.cmd = .NOP)
  | .WRITE =>
      s.Waits h ∧ h.wrEn = true ∧ s.Exact ∧ s.Opened p h ∧
        (s.Presents p h .WRITE (h.col p) ∨ s.controller.cmd = .NOP)
  | .PCH =>
      s.controller.hCompl = false ∧
        (s.controller.sAddr = prechargeAll ∧
            (s.controller.cmd = .PRE ∨
              s.controller.cmd = .NOP ∧ s.rows.Precharged) ∨
          s.controller.sAddr = 0#13 ∧ s.Waits h ∧ s.Exact ∧
            (s.controller.cmd = .PRE ∧
                s.controller.sBanksel = h.banksel p ∨
              s.controller.cmd = .NOP ∧
                s.controller.rowIsOpen (h.banksel p) = false))
  | .AUTOREF =>
      s.controller.hCompl = false ∧ s.rows.Precharged ∧
        (s.controller.cmd = .REF ∨ s.controller.cmd = .NOP)

variable {p} {h h' : SdramHost} {d : BitVec 16} {s : SdramSystem}

theorem exact_of_closed (hclosed : s.Closed) (hrows : s.rows.Precharged) :
    s.Exact := by
  intro b
  rw [hrows b, hclosed b]
  rfl

theorem rows_step_keeps (hact : s.controller.cmd ≠ .ACT)
    (hpre : s.controller.cmd ≠ .PRE) (i : Input) :
    (s.step p i).rows = s.rows := by
  show s.rows.step _ _ _ = s.rows
  unfold SdramRows.step
  split
  · next hcmd => exact absurd hcmd hact
  · next hcmd => exact absurd hcmd hpre
  · rfl

/-- Outside the three states that change it the table stays as it is. -/
theorem table_step (hact : s.controller.state ≠ .ACT)
    (hpch : s.controller.state ≠ .PCH)
    (href : s.controller.state ≠ .AUTOREF) (i : Input) :
    (s.step p i).controller.rowIsOpen = s.controller.rowIsOpen ∧
      (s.step p i).controller.openRow = s.controller.openRow := by
  constructor
  · show s.controller.nextRowIsOpen p i.host = _
    unfold nextRowIsOpen
    split <;> first | rfl | contradiction
  · show s.controller.nextOpenRow p i.host = _
    unfold nextOpenRow
    split <;> first | rfl | contradiction

/-- A cycle that stays in its state puts no command on the pins. -/
theorem step_stays {i : Input}
    (hnext : s.controller.nextState p i.host = s.controller.state) :
    (s.step p i).controller.state = s.controller.state ∧
      (s.step p i).controller.cmd = .NOP ∧
      (s.step p i).controller.sAddr = s.controller.sAddr := by
  have hchanges : s.controller.changes p i.host = false := by
    simp [changes, hnext]
  refine ⟨hnext, ?_, ?_⟩
  · simp [step, SdramController.step, hchanges]
  · simp [step, SdramController.step, hchanges]

/-- A cycle that goes to another state puts its command on the pins. -/
theorem step_moves {i : Input} {n : SdramState}
    (hnext : s.controller.nextState p i.host = n)
    (hne : s.controller.state ≠ n) :
    (s.step p i).controller.state = n ∧
      (s.step p i).controller.cmd = command n ∧
      (s.step p i).controller.sAddr = s.controller.commandAddr p i.host ∧
      (s.step p i).controller.sBanksel =
        s.controller.commandBanksel p i.host := by
  have hchanges : s.controller.changes p i.host = true := by
    simp [changes, hnext, hne]
  refine ⟨hnext, ?_, ?_, ?_⟩
  · simp [step, SdramController.step, hchanges, hnext]
  · simp [step, SdramController.step, hchanges]
  · simp [step, SdramController.step, hchanges]

theorem hCompl_step (hread : s.controller.state ≠ .READ)
    (hwrite : s.controller.state ≠ .WRITE) (i : Input) :
    (s.step p i).controller.hCompl = false := by
  show s.controller.finishes = false
  simp [finishes, hread, hwrite]

/-!
## One cycle
-/

section Cycle

variable {i : Input}

/-- The host keeps a request that is not completed. -/
def Keeps (p : SdramConfig) (i : Input) (h' : SdramHost) (s : SdramSystem) :
    Prop :=
  s.Waits i.host -> (s.step p i).controller.hCompl = false -> h' = i.host

/-- In the states of the reset no row is open and nothing is completed. -/
theorem closed_step (hclosed : s.Closed) (hact : s.controller.state ≠ .ACT)
    (hpch : s.controller.state ≠ .PCH)
    (href : s.controller.state ≠ .AUTOREF) (i : Input) :
    (s.step p i).Closed := by
  intro b
  rw [(table_step hact hpch href i).left]
  exact hclosed b

theorem exact_step (hexact : s.Exact) (hact : s.controller.state ≠ .ACT)
    (hpch : s.controller.state ≠ .PCH)
    (href : s.controller.state ≠ .AUTOREF) (hcmd : s.controller.cmd ≠ .ACT)
    (hpre : s.controller.cmd ≠ .PRE) (i : Input) : (s.step p i).Exact := by
  intro b
  rw [rows_step_keeps hcmd hpre, (table_step hact hpch href i).left,
    (table_step hact hpch href i).right]
  exact hexact b

theorem inv_reset (hstate : s.controller.state = .RESET)
    (hinv : Inv p i.host s) : Inv p h' (s.step p i) := by
  simp only [Inv, hstate] at hinv
  rcases hinv with ⟨hcmd, -, hclosed⟩
  have hclosed' := closed_step (p := p) hclosed (by simp [hstate])
    (by simp [hstate]) (by simp [hstate]) i
  have hcompl := hCompl_step (p := p) (s := s) (by simp [hstate])
    (by simp [hstate]) i
  by_cases ht : s.controller.timec + 1 = p.tReset % 2 ^ p.timecWidth
  · have hnext : s.controller.nextState p i.host = .RESET_PCH := by
      simp [nextState, hstate, ht]
    rcases step_moves hnext (by simp [hstate]) with ⟨hs, hc, ha, -⟩
    simp only [Inv, hs]
    refine ⟨hcompl, hclosed', Or.inl ⟨hc, ?_⟩⟩
    rw [ha]
    simp [commandAddr, hnext]
  · have hnext : s.controller.nextState p i.host = s.controller.state := by
      simp [nextState, hstate, ht]
    rcases step_stays hnext with ⟨hs, hc, -⟩
    simp only [Inv, hs, hstate]
    exact ⟨hc, hcompl, hclosed'⟩

theorem precharged_of_all (haddr : s.controller.sAddr = prechargeAll)
    (hcmd : s.controller.cmd = .PRE ∨
      s.controller.cmd = .NOP ∧ s.rows.Precharged) (i : Input) :
    (s.step p i).rows.Precharged := by
  rcases hcmd with hcmd | ⟨hcmd, hrows⟩
  · intro b
    show s.rows.step _ _ _ b = none
    rw [hcmd, haddr]
    rfl
  · rw [rows_step_keeps (by simp [hcmd]) (by simp [hcmd])]
    exact hrows

theorem inv_resetPch (hstate : s.controller.state = .RESET_PCH)
    (hinv : Inv p i.host s) : Inv p h' (s.step p i) := by
  simp only [Inv, hstate] at hinv
  rcases hinv with ⟨-, hclosed, hcmd⟩
  have hclosed' := closed_step (p := p) hclosed (by simp [hstate])
    (by simp [hstate]) (by simp [hstate]) i
  have hcompl := hCompl_step (p := p) (s := s) (by simp [hstate])
    (by simp [hstate]) i
  have hrows : (s.step p i).rows.Precharged := by
    rcases hcmd with ⟨hcmd, haddr⟩ | hcmd
    · exact precharged_of_all haddr (Or.inl hcmd) i
    · rw [rows_step_keeps (by simp [hcmd]) (by simp [hcmd])]
      exact hcmd.right
  by_cases ht : s.controller.timec = tRP - 1
  · have hnext : s.controller.nextState p i.host = .RESET_REF1 := by
      simp [nextState, hstate, ht]
    rcases step_moves hnext (by simp [hstate]) with ⟨hs, hc, -⟩
    simp only [Inv, hs]
    exact ⟨hcompl, hclosed', hrows, Or.inl hc⟩
  · have hnext : s.controller.nextState p i.host = s.controller.state := by
      simp [nextState, hstate, ht]
    rcases step_stays hnext with ⟨hs, hc, -⟩
    simp only [Inv, hs, hstate]
    exact ⟨hcompl, hclosed', Or.inr ⟨hc, hrows⟩⟩

/-- The states of the reset in which all banks are precharged. -/
theorem quiet_step (hcompl : s.controller.state ≠ .READ ∧
      s.controller.state ≠ .WRITE)
    (hact : s.controller.state ≠ .ACT) (hpch : s.controller.state ≠ .PCH)
    (href : s.controller.state ≠ .AUTOREF)
    (hcmd : s.controller.cmd ≠ .ACT ∧ s.controller.cmd ≠ .PRE)
    (hclosed : s.Closed) (hrows : s.rows.Precharged) :
    (s.step p i).controller.hCompl = false ∧ (s.step p i).Closed ∧
      (s.step p i).rows.Precharged := by
  refine ⟨hCompl_step hcompl.left hcompl.right i,
    closed_step hclosed hact hpch href i, ?_⟩
  rw [rows_step_keeps hcmd.left hcmd.right]
  exact hrows

theorem inv_resetRef1 (hstate : s.controller.state = .RESET_REF1)
    (hinv : Inv p i.host s) : Inv p h' (s.step p i) := by
  simp only [Inv, hstate] at hinv
  rcases hinv with ⟨-, hclosed, hrows, hcmd⟩
  have hquiet := quiet_step (p := p) (i := i) (by simp [hstate])
    (by simp [hstate]) (by simp [hstate]) (by simp [hstate])
    (by rcases hcmd with hcmd | hcmd <;> simp [hcmd]) hclosed hrows
  by_cases ht : s.controller.timec = tRC - 1
  · have hnext : s.controller.nextState p i.host = .RESET_REF2 := by
      simp [nextState, hstate, ht]
    rcases step_moves hnext (by simp [hstate]) with ⟨hs, hc, -⟩
    simp only [Inv, hs]
    exact ⟨hquiet.left, hquiet.right.left, hquiet.right.right, Or.inl hc⟩
  · have hnext : s.controller.nextState p i.host = s.controller.state := by
      simp [nextState, hstate, ht]
    rcases step_stays hnext with ⟨hs, hc, -⟩
    simp only [Inv, hs, hstate]
    exact ⟨hquiet.left, hquiet.right.left, hquiet.right.right, Or.inr hc⟩

theorem inv_resetRef2 (hstate : s.controller.state = .RESET_REF2)
    (hinv : Inv p i.host s) : Inv p h' (s.step p i) := by
  simp only [Inv, hstate] at hinv
  rcases hinv with ⟨-, hclosed, hrows, hcmd⟩
  have hquiet := quiet_step (p := p) (i := i) (by simp [hstate])
    (by simp [hstate]) (by simp [hstate]) (by simp [hstate])
    (by rcases hcmd with hcmd | hcmd <;> simp [hcmd]) hclosed hrows
  by_cases ht : s.controller.timec = tRC - 1
  · have hnext : s.controller.nextState p i.host = .MRS := by
      simp [nextState, hstate, ht]
    rcases step_moves hnext (by simp [hstate]) with ⟨hs, hc, -⟩
    simp only [Inv, hs]
    exact ⟨hquiet.left, hquiet.right.left, hquiet.right.right, Or.inl hc⟩
  · have hnext : s.controller.nextState p i.host = s.controller.state := by
      simp [nextState, hstate, ht]
    rcases step_stays hnext with ⟨hs, hc, -⟩
    simp only [Inv, hs, hstate]
    exact ⟨hquiet.left, hquiet.right.left, hquiet.right.right, Or.inr hc⟩

theorem inv_mrs (hstate : s.controller.state = .MRS)
    (hinv : Inv p i.host s) : Inv p h' (s.step p i) := by
  simp only [Inv, hstate] at hinv
  rcases hinv with ⟨-, hclosed, hrows, hcmd⟩
  have hquiet := quiet_step (p := p) (i := i) (by simp [hstate])
    (by simp [hstate]) (by simp [hstate]) (by simp [hstate])
    (by rcases hcmd with hcmd | hcmd <;> simp [hcmd]) hclosed hrows
  by_cases ht : s.controller.timec = tMRD - 1
  · have hnext : s.controller.nextState p i.host = .IDLE := by
      simp [nextState, hstate, ht]
    rcases step_moves hnext (by simp [hstate]) with ⟨hs, hc, -⟩
    simp only [Inv, hs]
    exact ⟨hc, exact_of_closed hquiet.right.left hquiet.right.right⟩
  · have hnext : s.controller.nextState p i.host = s.controller.state := by
      simp [nextState, hstate, ht]
    rcases step_stays hnext with ⟨hs, hc, -⟩
    simp only [Inv, hs, hstate]
    exact ⟨hquiet.left, hquiet.right.left, hquiet.right.right, Or.inr hc⟩

theorem idle_exact (hstate : s.controller.state = .IDLE)
    (hcmd : s.controller.cmd = .NOP) (hexact : s.Exact) (i : Input) :
    (s.step p i).Exact :=
  exact_step hexact (by simp [hstate]) (by simp [hstate]) (by simp [hstate])
    (by simp [hcmd]) (by simp [hcmd]) i

/-- An access to a row that is open is started at once. -/
theorem inv_idle_access (hstate : s.controller.state = .IDLE)
    (hcmd : s.controller.cmd = .NOP) (hexact : s.Exact)
    (hwaits : s.Waits i.host) (hopened : s.Opened p i.host)
    (hnext : s.controller.nextState p i.host =
      if i.host.wrEn then .WRITE else .READ)
    (hkeeps : Keeps p i h' s) : Inv p h' (s.step p i) := by
  have hcompl := hCompl_step (p := p) (s := s) (by simp [hstate])
    (by simp [hstate]) i
  obtain rfl : h' = i.host := hkeeps hwaits hcompl
  have htable := table_step (p := p) (s := s) (by simp [hstate])
    (by simp [hstate]) (by simp [hstate]) i
  have hopened' : (s.step p i).Opened p i.host := by
    unfold Opened
    rw [htable.left, htable.right]
    exact hopened
  have hexact' := idle_exact (p := p) hstate hcmd hexact i
  have hwaits' : (s.step p i).Waits i.host := ⟨hwaits.left, hcompl⟩
  cases hwr : i.host.wrEn with
  | false =>
      rw [hwr] at hnext
      rcases step_moves hnext (by simp [hstate]) with ⟨hs, hc, ha, hb⟩
      simp only [Inv, hs]
      refine ⟨hwaits', hwr, hexact', hopened', Or.inl ⟨hc, ?_, ?_⟩⟩
      · rw [hb]
        simp [commandBanksel, hnext]
      · rw [ha]
        simp [commandAddr, hnext]
  | true =>
      rw [hwr] at hnext
      rcases step_moves hnext (by simp [hstate]) with ⟨hs, hc, ha, hb⟩
      simp only [Inv, hs]
      refine ⟨hwaits', hwr, hexact', hopened', Or.inl ⟨hc, ?_, ?_⟩⟩
      · rw [hb]
        simp [commandBanksel, hnext]
      · rw [ha]
        simp [commandAddr, hnext]

/-- A request that no refresh preempts. -/
theorem inv_idle_request (hstate : s.controller.state = .IDLE)
    (hcmd : s.controller.cmd = .NOP) (hexact : s.Exact)
    (hwaits : s.Waits i.host)
    (hpending : s.controller.autorefreshPending p = false)
    (hkeeps : Keeps p i h' s) : Inv p h' (s.step p i) := by
  have hcompl := hCompl_step (p := p) (s := s) (by simp [hstate])
    (by simp [hstate]) i
  have hexact' := idle_exact (p := p) hstate hcmd hexact i
  cases hopen : s.controller.rowIsOpen (i.host.banksel p) with
  | false =>
      have hnext : s.controller.nextState p i.host = .ACT := by
        simp [nextState, hstate, hwaits.left, hwaits.right, hpending, hopen]
      obtain rfl : h' = i.host := hkeeps hwaits hcompl
      have htable := table_step (p := p) (s := s) (by simp [hstate])
        (by simp [hstate]) (by simp [hstate]) i
      rcases step_moves hnext (by simp [hstate]) with ⟨hs, hc, ha, hb⟩
      simp only [Inv, hs]
      refine ⟨⟨hwaits.left, hcompl⟩, hexact', Or.inl ⟨⟨hc, ?_, ?_⟩, ?_⟩⟩
      · rw [hb]
        simp [commandBanksel, hnext]
      · rw [ha]
        simp [commandAddr, hnext]
      · rw [htable.left]
        exact hopen
  | true =>
      by_cases hrow : s.controller.openRow (i.host.banksel p) =
          i.host.rowsel p
      · have hnext : s.controller.nextState p i.host =
            if i.host.wrEn then .WRITE else .READ := by
          simp [nextState, hstate, hwaits.left, hwaits.right, hpending, hopen,
            hrow]
        exact inv_idle_access hstate hcmd hexact hwaits ⟨hopen, hrow⟩ hnext
          hkeeps
      · have hnext : s.controller.nextState p i.host = .PCH := by
          simp [nextState, hstate, hwaits.left, hwaits.right, hpending, hopen,
            hrow]
        obtain rfl : h' = i.host := hkeeps hwaits hcompl
        rcases step_moves hnext (by simp [hstate]) with ⟨hs, hc, ha, hb⟩
        simp only [Inv, hs]
        refine ⟨hcompl, Or.inr ⟨?_, ⟨hwaits.left, hcompl⟩, hexact',
          Or.inl ⟨hc, ?_⟩⟩⟩
        · rw [ha]
          simp [commandAddr, hnext, hpending]
        · rw [hb]
          simp [commandBanksel, hnext]

theorem inv_idle (hstate : s.controller.state = .IDLE)
    (hinv : Inv p i.host s) (hkeeps : Keeps p i h' s) :
    Inv p h' (s.step p i) := by
  simp only [Inv, hstate] at hinv
  rcases hinv with ⟨hcmd, hexact⟩
  have hcompl := hCompl_step (p := p) (s := s) (by simp [hstate])
    (by simp [hstate]) i
  by_cases hrefresh : (!s.controller.hCompl &&
      s.controller.autorefreshPending p) = true
  · have hnext : s.controller.nextState p i.host = .PCH := by
      simp only [nextState, hstate, hrefresh, if_true]
    rcases step_moves hnext (by simp [hstate]) with ⟨hs, hc, ha, -⟩
    simp only [Bool.and_eq_true] at hrefresh
    simp only [Inv, hs]
    refine ⟨hcompl, Or.inl ⟨?_, Or.inl hc⟩⟩
    rw [ha]
    simp [commandAddr, hnext, hrefresh.right]
  · by_cases hrequest : (!s.controller.hCompl && i.host.requests) = true
    · simp only [Bool.and_eq_true, Bool.not_eq_true'] at hrequest
      have hpending : s.controller.autorefreshPending p = false := by
        simpa [hrequest.left] using hrefresh
      exact inv_idle_request hstate hcmd hexact ⟨hrequest.right, hrequest.left⟩
        hpending hkeeps
    · have hnext : s.controller.nextState p i.host = s.controller.state := by
        simp only [nextState, hstate, hrefresh, hrequest]
        rfl
      rcases step_stays hnext with ⟨hs, hc, -⟩
      simp only [Inv, hs, hstate]
      exact ⟨hc, idle_exact hstate hcmd hexact i⟩

/-- After any cycle of an activation the row is open, in the table and in the
device. -/
theorem act_opens (hstate : s.controller.state = .ACT)
    (hexact : s.Exact)
    (hcmd : s.Presents p i.host .ACT (i.host.rowsel p) ∨
      s.controller.cmd = .NOP ∧ s.Opened p i.host) :
    (s.step p i).Exact ∧ (s.step p i).Opened p i.host := by
  have hopen : (s.step p i).controller.rowIsOpen = fun b =>
      if b = i.host.banksel p then true else s.controller.rowIsOpen b := by
    show s.controller.nextRowIsOpen p i.host = _
    simp only [nextRowIsOpen, hstate]
  have hrow : (s.step p i).controller.openRow = fun b =>
      if b = i.host.banksel p then i.host.rowsel p
      else s.controller.openRow b := by
    show s.controller.nextOpenRow p i.host = _
    simp only [nextOpenRow, hstate]
  constructor
  · intro b
    rw [hopen, hrow]
    rcases hcmd with ⟨hcmd, hbank, haddr⟩ | ⟨hcmd, hopened⟩
    · show s.rows.step _ _ _ b = _
      rw [hcmd, hbank, haddr]
      by_cases hb : b = i.host.banksel p
      · simp [SdramRows.step, hb]
      · simp [SdramRows.step, hb, hexact b]
    · rw [rows_step_keeps (by simp [hcmd]) (by simp [hcmd]), hexact b]
      by_cases hb : b = i.host.banksel p
      · simp [hb, hopened.left, hopened.right]
      · simp [hb]
  · unfold Opened
    rw [hopen, hrow]
    simp

theorem inv_act (hstate : s.controller.state = .ACT)
    (hinv : Inv p i.host s) (hkeeps : Keeps p i h' s) :
    Inv p h' (s.step p i) := by
  simp only [Inv, hstate] at hinv
  rcases hinv with ⟨hwaits, hexact, hcmd⟩
  have hcompl := hCompl_step (p := p) (s := s) (by simp [hstate])
    (by simp [hstate]) i
  obtain rfl : h' = i.host := hkeeps hwaits hcompl
  have hopens := act_opens (i := i) hstate hexact
    (hcmd.imp And.left id)
  have hwaits' : (s.step p i).Waits i.host := ⟨hwaits.left, hcompl⟩
  by_cases ht : s.controller.timec = tRCD - 1
  · cases hwr : i.host.wrEn with
    | false =>
        have hnext : s.controller.nextState p i.host = .READ := by
          simp [nextState, hstate, ht, hwr]
        rcases step_moves hnext (by simp [hstate]) with ⟨hs, hc, ha, hb⟩
        simp only [Inv, hs]
        refine ⟨hwaits', hwr, hopens.left, hopens.right, Or.inl ⟨hc, ?_, ?_⟩⟩
        · rw [hb]
          simp [commandBanksel, hnext]
        · rw [ha]
          simp [commandAddr, hnext]
    | true =>
        have hnext : s.controller.nextState p i.host = .WRITE := by
          simp [nextState, hstate, ht, hwr]
        rcases step_moves hnext (by simp [hstate]) with ⟨hs, hc, ha, hb⟩
        simp only [Inv, hs]
        refine ⟨hwaits', hwr, hopens.left, hopens.right, Or.inl ⟨hc, ?_, ?_⟩⟩
        · rw [hb]
          simp [commandBanksel, hnext]
        · rw [ha]
          simp [commandAddr, hnext]
  · have hnext : s.controller.nextState p i.host = s.controller.state := by
      simp [nextState, hstate, ht]
    rcases step_stays hnext with ⟨hs, hc, -⟩
    simp only [Inv, hs, hstate]
    exact ⟨hwaits', hopens.left, Or.inr ⟨hc, hopens.right⟩⟩

theorem inv_read (hstate : s.controller.state = .READ)
    (hinv : Inv p i.host s) (hkeeps : Keeps p i h' s) :
    Inv p h' (s.step p i) := by
  simp only [Inv, hstate] at hinv
  rcases hinv with ⟨hwaits, hwr, hexact, hopened, hcmd⟩
  have hne : s.controller.cmd ≠ .ACT ∧ s.controller.cmd ≠ .PRE := by
    rcases hcmd with hcmd | hcmd
    · simp [hcmd.left]
    · simp [hcmd]
  have hexact' := exact_step (p := p) hexact (by simp [hstate])
    (by simp [hstate]) (by simp [hstate]) hne.left hne.right i
  have htable := table_step (p := p) (s := s) (by simp [hstate])
    (by simp [hstate]) (by simp [hstate]) i
  by_cases ht : s.controller.timec = SdramConfig.cas
  · have hnext : s.controller.nextState p i.host = .IDLE := by
      simp [nextState, hstate, ht]
    rcases step_moves hnext (by simp [hstate]) with ⟨hs, hc, -⟩
    simp only [Inv, hs]
    exact ⟨hc, hexact'⟩
  · have hnext : s.controller.nextState p i.host = s.controller.state := by
      simp [nextState, hstate, ht]
    have hcompl : (s.step p i).controller.hCompl = false := by
      show s.controller.finishes = false
      simp [finishes, hstate, ht]
    obtain rfl : h' = i.host := hkeeps hwaits hcompl
    rcases step_stays hnext with ⟨hs, hc, -⟩
    simp only [Inv, hs, hstate]
    refine ⟨⟨hwaits.left, hcompl⟩, hwr, hexact', ?_, Or.inr hc⟩
    unfold Opened
    rw [htable.left, htable.right]
    exact hopened

theorem inv_write (hstate : s.controller.state = .WRITE)
    (hinv : Inv p i.host s) (hkeeps : Keeps p i h' s) :
    Inv p h' (s.step p i) := by
  simp only [Inv, hstate] at hinv
  rcases hinv with ⟨hwaits, hwr, hexact, hopened, hcmd⟩
  have hne : s.controller.cmd ≠ .ACT ∧ s.controller.cmd ≠ .PRE := by
    rcases hcmd with hcmd | hcmd
    · simp [hcmd.left]
    · simp [hcmd]
  have hexact' := exact_step (p := p) hexact (by simp [hstate])
    (by simp [hstate]) (by simp [hstate]) hne.left hne.right i
  have htable := table_step (p := p) (s := s) (by simp [hstate])
    (by simp [hstate]) (by simp [hstate]) i
  by_cases ht : s.controller.timec = tRP
  · have hnext : s.controller.nextState p i.host = .IDLE := by
      simp [nextState, hstate, ht]
    rcases step_moves hnext (by simp [hstate]) with ⟨hs, hc, -⟩
    simp only [Inv, hs]
    exact ⟨hc, hexact'⟩
  · have hnext : s.controller.nextState p i.host = s.controller.state := by
      simp [nextState, hstate, ht]
    have hcompl : (s.step p i).controller.hCompl = false := by
      show s.controller.finishes = false
      simp [finishes, hstate, ht]
    obtain rfl : h' = i.host := hkeeps hwaits hcompl
    rcases step_stays hnext with ⟨hs, hc, -⟩
    simp only [Inv, hs, hstate]
    refine ⟨⟨hwaits.left, hcompl⟩, hwr, hexact', ?_, Or.inr hc⟩
    unfold Opened
    rw [htable.left, htable.right]
    exact hopened

/-- After any cycle of the precharge of one bank it is closed, in the table
and in the device. -/
theorem pch_closes (hstate : s.controller.state = .PCH) (hexact : s.Exact)
    (haddr : s.controller.sAddr = 0#13)
    (hcmd : s.controller.cmd = .PRE ∧
        s.controller.sBanksel = i.host.banksel p ∨
      s.controller.cmd = .NOP ∧
        s.controller.rowIsOpen (i.host.banksel p) = false) :
    (s.step p i).Exact ∧
      (s.step p i).controller.rowIsOpen (i.host.banksel p) = false := by
  have hopen : (s.step p i).controller.rowIsOpen = fun b =>
      if b = i.host.banksel p then false else s.controller.rowIsOpen b := by
    show s.controller.nextRowIsOpen p i.host = _
    simp only [nextRowIsOpen, hstate]
  have hrow : (s.step p i).controller.openRow = s.controller.openRow := by
    show s.controller.nextOpenRow p i.host = _
    simp only [nextOpenRow, hstate]
  constructor
  · intro b
    rw [hopen, hrow]
    rcases hcmd with ⟨hcmd, hbank⟩ | ⟨hcmd, hclosed⟩
    · show s.rows.step _ _ _ b = _
      rw [hcmd, hbank, haddr]
      by_cases hb : b = i.host.banksel p
      · simp [SdramRows.step, hb]
      · simp [SdramRows.step, hb, hexact b]
    · rw [rows_step_keeps (by simp [hcmd]) (by simp [hcmd]), hexact b]
      by_cases hb : b = i.host.banksel p
      · simp [hb, hclosed]
      · simp [hb]
  · rw [hopen]
    simp

theorem inv_pch (hstate : s.controller.state = .PCH)
    (hinv : Inv p i.host s) (hkeeps : Keeps p i h' s) :
    Inv p h' (s.step p i) := by
  simp only [Inv, hstate] at hinv
  rcases hinv with ⟨-, hinv⟩
  have hcompl := hCompl_step (p := p) (s := s) (by simp [hstate])
    (by simp [hstate]) i
  by_cases ht : s.controller.timec = tRP - 1
  · rcases hinv with ⟨haddr, hcmd⟩ | ⟨haddr, hwaits, hexact, hcmd⟩
    · have hnext : s.controller.nextState p i.host = .AUTOREF := by
        simp [nextState, hstate, ht, haddr, prechargeAll]
      rcases step_moves hnext (by simp [hstate]) with ⟨hs, hc, -⟩
      simp only [Inv, hs]
      exact ⟨hcompl, precharged_of_all haddr hcmd i, Or.inl hc⟩
    · have hnext : s.controller.nextState p i.host = .IDLE := by
        simp [nextState, hstate, ht, haddr]
      rcases step_moves hnext (by simp [hstate]) with ⟨hs, hc, -⟩
      simp only [Inv, hs]
      exact ⟨hc, (pch_closes hstate hexact haddr hcmd).left⟩
  · have hnext : s.controller.nextState p i.host = s.controller.state := by
      simp [nextState, hstate, ht]
    rcases step_stays hnext with ⟨hs, hc, ha⟩
    simp only [Inv, hs, hstate, ha]
    refine ⟨hcompl, ?_⟩
    rcases hinv with ⟨haddr, hcmd⟩ | ⟨haddr, hwaits, hexact, hcmd⟩
    · exact Or.inl ⟨haddr, Or.inr ⟨hc, precharged_of_all haddr hcmd i⟩⟩
    · obtain rfl : h' = i.host := hkeeps hwaits hcompl
      have hcloses := pch_closes hstate hexact haddr hcmd
      exact Or.inr ⟨haddr, ⟨hwaits.left, hcompl⟩, hcloses.left,
        Or.inr ⟨hc, hcloses.right⟩⟩

theorem inv_autoref (hstate : s.controller.state = .AUTOREF)
    (hinv : Inv p i.host s) : Inv p h' (s.step p i) := by
  simp only [Inv, hstate] at hinv
  rcases hinv with ⟨-, hrows, hcmd⟩
  have hcompl := hCompl_step (p := p) (s := s) (by simp [hstate])
    (by simp [hstate]) i
  have hrows' : (s.step p i).rows.Precharged := by
    rw [rows_step_keeps (by rcases hcmd with hcmd | hcmd <;> simp [hcmd])
      (by rcases hcmd with hcmd | hcmd <;> simp [hcmd])]
    exact hrows
  by_cases ht : s.controller.timec = tRC - 1
  · have hnext : s.controller.nextState p i.host = .IDLE := by
      simp [nextState, hstate, ht]
    have hclosed : (s.step p i).Closed := by
      intro b
      show s.controller.nextRowIsOpen p i.host b = false
      simp only [nextRowIsOpen, hstate]
    rcases step_moves hnext (by simp [hstate]) with ⟨hs, hc, -⟩
    simp only [Inv, hs]
    exact ⟨hc, exact_of_closed hclosed hrows'⟩
  · have hnext : s.controller.nextState p i.host = s.controller.state := by
      simp [nextState, hstate, ht]
    rcases step_stays hnext with ⟨hs, hc, -⟩
    simp only [Inv, hs, hstate]
    exact ⟨hcompl, hrows', Or.inr hc⟩

theorem inv_step (hinv : Inv p i.host s) (hkeeps : Keeps p i h' s) :
    Inv p h' (s.step p i) := by
  cases hstate : s.controller.state with
  | RESET => exact inv_reset hstate hinv
  | RESET_PCH => exact inv_resetPch hstate hinv
  | RESET_REF1 => exact inv_resetRef1 hstate hinv
  | RESET_REF2 => exact inv_resetRef2 hstate hinv
  | MRS => exact inv_mrs hstate hinv
  | IDLE => exact inv_idle hstate hinv hkeeps
  | ACT => exact inv_act hstate hinv hkeeps
  | READ => exact inv_read hstate hinv hkeeps
  | WRITE => exact inv_write hstate hinv hkeeps
  | PCH => exact inv_pch hstate hinv hkeeps
  | AUTOREF => exact inv_autoref hstate hinv

end Cycle

/-!
## Whole runs
-/

section Run

variable (p) (inputs : Nat -> Input) (s : SdramSystem)

/-- The registers and the rows before each cycle. -/
abbrev before (n : Nat) : SdramSystem := trace (step p) inputs s n

/-- The host keeps every request until it is completed. -/
def Holds : Prop :=
  forall n, Keeps p (inputs n) (inputs (n + 1)).host (before p inputs s n)

/-- The command on the pins keeps the protocol of the device. -/
def Legal (h : SdramHost) (s : SdramSystem) : Prop :=
  match s.controller.cmd with
  | .READ => s.rows s.controller.sBanksel = some (h.rowsel p)
  | .WRITE => s.rows s.controller.sBanksel = some (h.rowsel p)
  | .ACT => s.rows s.controller.sBanksel = none
  | .REF => s.rows.Precharged
  | .MRS => s.rows.Precharged
  | _ => True

/-- The request that waits is served in this cycle. -/
structure Serves (h : SdramHost) (s : SdramSystem) : Prop where
  waits : s.Waits h
  cmd : s.controller.cmd = if h.wrEn then .WRITE else .READ
  bank : s.controller.sBanksel = h.banksel p
  column : s.controller.sAddr = h.col p

/-- A read or a write is on the pins. -/
def Accesses (s : SdramSystem) : Prop :=
  s.controller.cmd = .READ ∨ s.controller.cmd = .WRITE

variable {p inputs s}

theorem inv_trace (hreset : exists c, s.controller = SdramController.reset c)
    (hholds : Holds p inputs s) (n : Nat) :
    Inv p (inputs n).host (before p inputs s n) := by
  induction n with
  | zero =>
      rcases hreset with ⟨c, hc⟩
      show Inv p (inputs 0).host s
      have hstate : s.controller.state = .RESET := by
        rw [hc]
        rfl
      simp only [Inv, hc]
      exact ⟨rfl, rfl, fun b => congrFun (congrArg _ hc) b⟩
  | succ n ih =>
      exact inv_step ih (hholds n)

/-- The access of the request has been started. -/
def Started (s : SdramSystem) : Prop :=
  s.controller.state = .READ ∨ s.controller.state = .WRITE

/-- The commands that each state can have on the pins. -/
theorem cmd_of_inv {h : SdramHost} (hinv : Inv p h s) :
    s.controller.cmd = .NOP ∨ s.controller.cmd = .PRE ∨
      (s.controller.cmd = .ACT ∧ s.rows s.controller.sBanksel = none) ∨
      ((s.controller.cmd = .REF ∨ s.controller.cmd = .MRS) ∧
        s.rows.Precharged) ∨
      (s.Started ∧ Serves p h s ∧
        s.rows s.controller.sBanksel = some (h.rowsel p)) := by
  unfold Inv at hinv
  split at hinv
  · simp [hinv.left]
  · rcases hinv with ⟨-, -, ⟨hc, -⟩ | ⟨hc, -⟩⟩ <;> simp [hc]
  · rcases hinv with ⟨-, -, hrows, hc | hc⟩ <;> simp [hc, hrows]
  · rcases hinv with ⟨-, -, hrows, hc | hc⟩ <;> simp [hc, hrows]
  · rcases hinv with ⟨-, -, hrows, hc | hc⟩ <;> simp [hc, hrows]
  · simp [hinv.left]
  · rcases hinv with ⟨-, hexact, ⟨⟨hc, hbank, -⟩, hclosed⟩ | ⟨hc, -⟩⟩
    · simp [hc, hbank, hexact (h.banksel p), hclosed]
    · simp [hc]
  · next hstate =>
      rcases hinv with ⟨hw, hwr, hexact, hopened, ⟨hc, hbank, hcol⟩ | hc⟩
      · have hrow : s.rows s.controller.sBanksel = some (h.rowsel p) := by
          simp [hbank, hexact (h.banksel p), hopened.left, hopened.right]
        have hserves : Serves p h s := ⟨hw, by simp [hc, hwr], hbank, hcol⟩
        exact Or.inr (Or.inr (Or.inr (Or.inr ⟨Or.inl hstate, hserves, hrow⟩)))
      · simp [hc]
  · next hstate =>
      rcases hinv with ⟨hw, hwr, hexact, hopened, ⟨hc, hbank, hcol⟩ | hc⟩
      · have hrow : s.rows s.controller.sBanksel = some (h.rowsel p) := by
          simp [hbank, hexact (h.banksel p), hopened.left, hopened.right]
        have hserves : Serves p h s := ⟨hw, by simp [hc, hwr], hbank, hcol⟩
        exact Or.inr (Or.inr (Or.inr (Or.inr ⟨Or.inr hstate, hserves, hrow⟩)))
      · simp [hc]
  · rcases hinv with ⟨-, ⟨-, hc | ⟨hc, -⟩⟩ | ⟨-, -, -, ⟨hc, -⟩ | ⟨hc, -⟩⟩⟩ <;>
      simp [hc]
  · rcases hinv with ⟨-, hrows, hc | hc⟩ <;> simp [hc, hrows]

theorem legal_of_inv {h : SdramHost} (hinv : Inv p h s) : Legal p h s := by
  unfold Legal
  rcases cmd_of_inv hinv with hc | hc | ⟨hc, hrow⟩ | ⟨hc | hc, hrows⟩ |
    ⟨-, hserves, hrow⟩
  · simp [hc]
  · simp [hc]
  · simp [hc, hrow]
  · simp [hc, hrows]
  · simp [hc, hrows]
  · have hc := hserves.cmd
    cases hwr : h.wrEn <;> simp [hc, hwr, hrow]

/-- A read or a write on the pins serves the request that waits. -/
theorem serves_of_accesses {h : SdramHost} (hinv : Inv p h s)
    (haccess : s.Accesses) : s.Started ∧ Serves p h s := by
  unfold Accesses at haccess
  rcases cmd_of_inv hinv with hc | hc | ⟨hc, -⟩ | ⟨hc | hc, -⟩ |
    ⟨hstarted, hserves, -⟩
  · simp [hc] at haccess
  · simp [hc] at haccess
  · simp [hc] at haccess
  · simp [hc] at haccess
  · simp [hc] at haccess
  · exact ⟨hstarted, hserves⟩

/-!
## Requests
-/

theorem waits_of_started {h : SdramHost} (hinv : Inv p h s)
    (hstarted : s.Started) : s.Waits h := by
  rcases hstarted with hstate | hstate
  · simp only [Inv, hstate] at hinv
    exact hinv.left
  · simp only [Inv, hstate] at hinv
    exact hinv.left

/-- An access that goes on puts no second command on the pins. -/
theorem started_step {i : Input} (hstarted : s.Started)
    (hcompl : (s.step p i).controller.hCompl = false) :
    (s.step p i).Started ∧ ¬(s.step p i).Accesses := by
  have hstay : s.controller.nextState p i.host = s.controller.state := by
    change s.controller.finishes = false at hcompl
    rcases hstarted with hstate | hstate
    · have ht : ¬s.controller.timec = SdramConfig.cas := by
        simpa [finishes, hstate] using hcompl
      simp [nextState, hstate, ht]
    · have ht : ¬s.controller.timec = tRP := by
        simpa [finishes, hstate] using hcompl
      simp [nextState, hstate, ht]
  rcases step_stays hstay with ⟨hs, hc, -⟩
  constructor
  · unfold Started
    rw [hs]
    exact hstarted
  · simp [Accesses, hc]

/-- Only an access that was started is completed. -/
theorem started_of_hCompl {i : Input}
    (hcompl : (s.step p i).controller.hCompl = true) : s.Started := by
  change s.controller.finishes = true at hcompl
  simp only [finishes, Bool.or_eq_true, Bool.and_eq_true, beq_iff_eq] at hcompl
  rcases hcompl with hread | hwrite
  · exact Or.inl hread.left
  · exact Or.inr hwrite.left

/-- An access starts with its command, for a request that waits. -/
theorem started_of_step {i : Input} (hinv : Inv p i.host s)
    (hnot : ¬s.Started) (hstarted : (s.step p i).Started) :
    s.Waits i.host ∧ (s.step p i).Accesses := by
  have hstate' : (s.step p i).controller.state =
      s.controller.nextState p i.host := rfl
  have hmoves : s.controller.state ≠ s.controller.nextState p i.host := by
    intro heq
    apply hnot
    unfold Started at hstarted ⊢
    rw [hstate', <- heq] at hstarted
    exact hstarted
  have hcmd := (step_moves (p := p) rfl hmoves).right.left
  constructor
  · unfold Started at hnot hstarted
    rw [hstate'] at hstarted
    cases hstate : s.controller.state with
    | IDLE =>
        by_cases hw : (!s.controller.hCompl && i.host.requests) = true
        · simp only [Bool.and_eq_true, Bool.not_eq_true'] at hw
          exact ⟨hw.right, hw.left⟩
        · simp only [nextState, hstate, hw] at hstarted
          split at hstarted <;> simp at hstarted
    | ACT =>
        simp only [Inv, hstate] at hinv
        exact hinv.left
    | READ => exact absurd (Or.inl hstate) hnot
    | WRITE => exact absurd (Or.inr hstate) hnot
    | PCH =>
        simp only [nextState, hstate] at hstarted
        split at hstarted
        · split at hstarted <;> simp at hstarted
        · simp at hstarted
    | _ =>
        simp only [nextState, hstate] at hstarted
        split at hstarted <;> simp at hstarted
  · unfold Accesses
    unfold Started at hstarted
    rw [hstate'] at hstarted
    rw [hcmd]
    rcases hstarted with h | h <;> simp [h, command]

variable (p inputs s) in
/-- The cycles of one request: it waits from `first` on and is completed in
cycle `last`. -/
structure Request (first last : Nat) : Prop where
  starts : first = 0 ∨
    ¬(before p inputs s (first - 1)).Waits (inputs (first - 1)).host
  nonempty : first < last
  waits : forall k, first ≤ k -> k < last ->
    (before p inputs s k).Waits (inputs k).host
  completes : (before p inputs s last).controller.hCompl = true

/-- No access has been started when a request begins to wait. -/
theorem Request.not_started {first last : Nat}
    (hinv : forall n, Inv p (inputs n).host (before p inputs s n))
    (hreset : exists c, s.controller = SdramController.reset c)
    (hr : Request p inputs s first last) :
    ¬(before p inputs s first).Started := by
  cases first with
  | zero =>
      rcases hreset with ⟨c, hc⟩
      unfold Started
      rw [show (before p inputs s 0).controller.state = .RESET by
        rw [show before p inputs s 0 = s from rfl, hc]; rfl]
      simp
  | succ n =>
      have hnot : ¬(before p inputs s n).Waits (inputs n).host := by
        rcases hr.starts with h0 | h1
        · cases h0
        · exact h1
      intro hstarted
      by_cases hbefore : (before p inputs s n).Started
      · exact hnot (waits_of_started (hinv n) hbefore)
      · exact hnot (started_of_step (hinv n) hbefore hstarted).left

/-- Up to cycle `m` of a request either nothing was started or the one access
was. -/
theorem Request.once {first last : Nat}
    (hinv : forall n, Inv p (inputs n).host (before p inputs s n))
    (hreset : exists c, s.controller = SdramController.reset c)
    (hr : Request p inputs s first last) (m : Nat) (hm : first + m < last) :
    (¬(before p inputs s (first + m)).Started ∧
        forall j, first ≤ j -> j ≤ first + m ->
          ¬(before p inputs s j).Accesses) ∨
      ((before p inputs s (first + m)).Started ∧
        exists k, first ≤ k ∧ k ≤ first + m ∧
          Serves p (inputs k).host (before p inputs s k) ∧
          forall j, first ≤ j -> j ≤ first + m ->
            (before p inputs s j).Accesses -> j = k) := by
  induction m with
  | zero =>
      have hnot := hr.not_started hinv hreset
      refine Or.inl ⟨hnot, ?_⟩
      intro j hj hj' haccess
      obtain rfl : j = first := by omega
      exact hnot (serves_of_accesses (hinv _) haccess).left
  | succ m ih =>
      have hcompl : (before p inputs s (first + m + 1)).controller.hCompl =
          false := (hr.waits (first + m + 1) (by omega) hm).right
      rcases ih (by omega) with ⟨hnot, hnone⟩ | ⟨hstarted, k, hk, hk', hserves,
        honly⟩
      · by_cases hnow : (before p inputs s (first + m + 1)).Started
        · have haccess := (started_of_step (hinv (first + m)) hnot hnow).right
          refine Or.inr ⟨hnow, first + m + 1, by omega, Nat.le_refl _,
            (serves_of_accesses (hinv (first + m + 1)) haccess).right, ?_⟩
          intro j hj hj' haccess'
          by_cases hlast : j = first + m + 1
          · exact hlast
          · exact absurd haccess' (hnone j hj (by omega))
        · refine Or.inl ⟨hnow, ?_⟩
          intro j hj hj' haccess
          by_cases hlast : j = first + m + 1
          · rw [hlast] at haccess
            exact hnow (serves_of_accesses (hinv _) haccess).left
          · exact hnone j hj (by omega) haccess
      · have hstep := started_step (p := p) (i := inputs (first + m)) hstarted
          hcompl
        refine Or.inr ⟨hstep.left, k, hk, by omega, hserves, ?_⟩
        intro j hj hj' haccess
        by_cases hlast : j = first + m + 1
        · rw [hlast] at haccess
          exact absurd haccess hstep.right
        · exact honly j hj (by omega) haccess

/-- A request that is completed was served once. -/
theorem Request.served {first last : Nat}
    (hinv : forall n, Inv p (inputs n).host (before p inputs s n))
    (hreset : exists c, s.controller = SdramController.reset c)
    (hr : Request p inputs s first last) :
    exists k, first ≤ k ∧ k < last ∧
      Serves p (inputs k).host (before p inputs s k) ∧
      forall j, first ≤ j -> j < last ->
        (before p inputs s j).Accesses -> j = k := by
  have hpos := hr.nonempty
  obtain ⟨m, rfl⟩ : exists m, last = first + m + 1 :=
    ⟨last - first - 1, by omega⟩
  have hstarted : (before p inputs s (first + m)).Started :=
    started_of_hCompl (p := p) (i := inputs (first + m)) hr.completes
  rcases hr.once hinv hreset m (by omega) with ⟨hnot, -⟩ | ⟨-, k, hk, hk',
    hserves, honly⟩
  · exact absurd hstarted hnot
  · exact ⟨k, hk, by omega, hserves,
      fun j hj hj' => honly j hj (by omega)⟩

end Run

/-!
## Requests are completed
-/

/-- The counters reach the times of the device, and a refresh comes no sooner
than a request can be served after the last one. -/
structure Feasible (p : SdramConfig) : Prop where
  reset_pos : 9 ≤ p.tReset
  reset_lt : p.tReset < 2 ^ p.timecWidth
  refresh : 15 ≤ p.tRef % 2 ^ p.refreshCounterWidth

/-- The last value of the counter in each state. -/
def lastCount (p : SdramConfig) : SdramState -> Nat
  | .RESET => p.tReset - 1
  | .RESET_PCH => tRP - 1
  | .RESET_REF1 => tRC - 1
  | .RESET_REF2 => tRC - 1
  | .MRS => tMRD - 1
  | .IDLE => 0
  | .ACT => tRCD - 1
  | .READ => SdramConfig.cas
  | .WRITE => tRP
  | .PCH => tRP - 1
  | .AUTOREF => tRC - 1

/-- The counter has not passed its last value. -/
def Timed (p : SdramConfig) (s : SdramSystem) : Prop :=
  s.controller.state ≠ .IDLE ->
    s.controller.timec ≤ lastCount p s.controller.state

section Completion

variable {i : Input}

theorem lastCount_lt (hp : Feasible p) (n : SdramState) :
    lastCount p n < p.tReset := by
  have hreset := hp.reset_pos
  cases n <;> simp [lastCount, tRP, tRC, tMRD, tRCD, SdramConfig.cas] <;> omega

theorem timec_stays (hp : Feasible p) (ht : s.controller.timec < p.tReset)
    (hstay : s.controller.nextState p i.host = s.controller.state) :
    (s.step p i).controller.timec = s.controller.timec + 1 := by
  have hlt := hp.reset_lt
  have hchanges : s.controller.changes p i.host = false := by
    simp [changes, hstay]
  show Counter.step _ _ (s.controller.changes p i.host) _ = _
  rw [hchanges]
  simp only [Counter.step, Nat.mod_eq_of_lt hlt]
  have hne : (s.controller.timec != p.tReset) = true := by
    simp
    omega
  simp only [hne, if_true, Bool.false_eq_true, if_false]
  exact Nat.mod_eq_of_lt (by omega)

theorem timec_moves
    (hmove : s.controller.state ≠ s.controller.nextState p i.host) :
    (s.step p i).controller.timec = 0 := by
  have hchanges : s.controller.changes p i.host = true := by
    simp [changes, hmove]
  show Counter.step _ _ (s.controller.changes p i.host) _ = _
  rw [hchanges]
  rfl

/-- A state is left when its counter has the last value. -/
theorem stays_iff (hp : Feasible p) (hstate : s.controller.state ≠ .IDLE) :
    s.controller.nextState p i.host = s.controller.state ↔
      s.controller.timec ≠ lastCount p s.controller.state := by
  have hreset : s.controller.timec + 1 = p.tReset % 2 ^ p.timecWidth ↔
      s.controller.timec = p.tReset - 1 := by
    have hpos := hp.reset_pos
    rw [Nat.mod_eq_of_lt hp.reset_lt]
    omega
  unfold nextState
  cases h : s.controller.state <;> simp only [lastCount, hreset]
  case IDLE => exact absurd h hstate
  all_goals
    split
    · next heq => simp [heq] <;> split <;> simp
    · next hne => simp [hne]

theorem timed_step (hp : Feasible p) (htimed : Timed p s) :
    Timed p (s.step p i) := by
  intro hstate
  by_cases hstay : s.controller.nextState p i.host = s.controller.state
  · have hs : (s.step p i).controller.state = s.controller.state := hstay
    rw [hs] at hstate ⊢
    have hle := htimed hstate
    have hne := (stays_iff hp hstate).mp hstay
    have hlt := lastCount_lt hp s.controller.state
    rw [timec_stays hp (by omega) hstay]
    omega
  · rw [timec_moves (fun h => hstay h.symm)]
    exact Nat.zero_le _

/-- The cycles that are left in a state. -/
def left (p : SdramConfig) (s : SdramSystem) : Nat :=
  lastCount p s.controller.state + 1 - s.controller.timec

/-- A bound on the cycles to the end of the access without refresh. -/
def work (p : SdramConfig) (h : SdramHost) (s : SdramSystem) : Nat :=
  match s.controller.state with
  | .RESET => left p s + 26
  | .RESET_PCH => left p s + 24
  | .RESET_REF1 => left p s + 16
  | .RESET_REF2 => left p s + 8
  | .MRS => left p s + 6
  | .IDLE =>
      if s.controller.rowIsOpen (h.banksel p) then
        if s.controller.openRow (h.banksel p) = h.rowsel p then 4 else 9
      else 6
  | .ACT => left p s + 3
  | .READ => left p s
  | .WRITE => left p s
  | .PCH => if s.controller.sAddr = 0#13 then left p s + 6 else left p s + 14
  | .AUTOREF => left p s + 6

/-- The cycles that a refresh may add. -/
def delay (p : SdramConfig) (h : SdramHost) (s : SdramSystem) : Nat :=
  if s.controller.state = .AUTOREF then 0
  else if s.controller.state = .PCH ∧ s.controller.sAddr ≠ 0#13 then 0
  else if s.controller.refreshCount + work p h s + 5 <
      p.tRef % 2 ^ p.refreshCounterWidth then 0
  else 20

def rank (p : SdramConfig) (h : SdramHost) (s : SdramSystem) : Nat :=
  work p h s + delay p h s

theorem refreshCount_step :
    (s.step p i).controller.refreshCount ≤ s.controller.refreshCount + 1 := by
  show Counter.step _ _ _ _ ≤ _
  unfold Counter.step
  split
  · omega
  · split
    · exact Nat.mod_le _ _
    · omega

/-- Less work leaves less time for a refresh. -/
theorem rank_lt_of_work {h : SdramHost} {s s' : SdramSystem}
    (hstate : s.controller.state ≠ .AUTOREF)
    (hpch : s.controller.state = .PCH -> s.controller.sAddr = 0#13)
    (hrefresh : s'.controller.refreshCount ≤ s.controller.refreshCount + 1)
    (hwork : work p h s' < work p h s) : rank p h s' < rank p h s := by
  have hpch' : ¬(s.controller.state = .PCH ∧ s.controller.sAddr ≠ 0#13) :=
    fun h => h.right (hpch h.left)
  unfold rank delay
  rw [if_neg hstate, if_neg hpch']
  split_ifs <;> omega

/-- Staying in a state other than the idle one. -/
theorem rank_stays {h : SdramHost} (hp : Feasible p) (htimed : Timed p s)
    (hstate : s.controller.state ≠ .IDLE)
    (hstay : s.controller.nextState p i.host = s.controller.state) :
    rank p h (s.step p i) < rank p h s := by
  have hs : (s.step p i).controller.state = s.controller.state := hstay
  have haddr := (step_stays hstay).right.right
  have hle := htimed hstate
  have hne := (stays_iff hp hstate).mp hstay
  have hlt := lastCount_lt hp s.controller.state
  have htime := timec_stays hp (by omega) hstay
  have hleft : left p (s.step p i) + 1 = left p s := by
    unfold left
    rw [hs, htime]
    omega
  have hwork : work p h (s.step p i) + 1 = work p h s := by
    unfold work
    rw [hs, haddr]
    cases hst : s.controller.state <;> simp only
    case IDLE => exact absurd hst hstate
    case PCH => split <;> omega
    all_goals omega
  have hrefresh := refreshCount_step (p := p) (s := s) (i := i)
  unfold rank delay
  rw [hs, haddr]
  split_ifs <;> omega

/-- The work in a state that has just been entered. -/
theorem left_moves {n : SdramState}
    (hnext : s.controller.nextState p i.host = n)
    (hne : s.controller.state ≠ n) :
    left p (s.step p i) = lastCount p n + 1 := by
  have hs : (s.step p i).controller.state = n := hnext
  have htime : (s.step p i).controller.timec = 0 :=
    timec_moves (by rw [hnext]; exact hne)
  unfold left
  rw [hs, htime]
  rfl

/-- What the idle state decides for a request that waits. -/
theorem rank_idle (hstate : s.controller.state = .IDLE)
    (hwaits : s.Waits i.host) :
    rank p i.host (s.step p i) < rank p i.host s := by
  have hrefresh := refreshCount_step (p := p) (s := s) (i := i)
  cases hpending : s.controller.autorefreshPending p with
  | true =>
      have hnext : s.controller.nextState p i.host = .PCH := by
        simp [nextState, hstate, hwaits.right, hpending]
      have hleft := left_moves hnext (by simp [hstate])
      rcases step_moves hnext (by simp [hstate]) with ⟨hs, -, ha, -⟩
      have haddr : (s.step p i).controller.sAddr = prechargeAll := by
        rw [ha]
        simp [commandAddr, hnext, hpending]
      have hcount : s.controller.refreshCount + 5 =
          p.tRef % 2 ^ p.refreshCounterWidth := by
        simpa [autorefreshPending, maxCmdPeriod, tRCD, tRP] using hpending
      have hne : prechargeAll ≠ 0#13 := by decide
      have hdelay : delay p i.host s = 20 := by
        simp only [delay, hstate]
        rw [if_neg (by simp), if_neg (by simp), if_neg (by omega)]
      have hdelay' : delay p i.host (s.step p i) = 0 := by
        simp [delay, hs, haddr, hne]
      have hwork : work p i.host (s.step p i) = 16 := by
        simp [work, hs, haddr, hne, hleft, lastCount, tRP]
      unfold rank
      omega
  | false =>
      apply rank_lt_of_work (by simp [hstate]) (by simp [hstate]) hrefresh
      cases hopen : s.controller.rowIsOpen (i.host.banksel p) with
      | false =>
          have hnext : s.controller.nextState p i.host = .ACT := by
            simp [nextState, hstate, hwaits.left, hwaits.right, hpending,
              hopen]
          have hleft := left_moves hnext (by simp [hstate])
          rcases step_moves hnext (by simp [hstate]) with ⟨hs, -⟩
          simp [work, hs, hstate, hopen, hleft, lastCount, tRCD]
      | true =>
          by_cases hrow : s.controller.openRow (i.host.banksel p) =
              i.host.rowsel p
          · cases hwr : i.host.wrEn with
            | false =>
                have hnext : s.controller.nextState p i.host = .READ := by
                  simp [nextState, hstate, hwaits.left, hwaits.right,
                    hpending, hopen, hrow, hwr]
                have hleft := left_moves hnext (by simp [hstate])
                rcases step_moves hnext (by simp [hstate]) with ⟨hs, -⟩
                simp [work, hs, hstate, hopen, hrow, hleft, lastCount,
                  SdramConfig.cas]
            | true =>
                have hnext : s.controller.nextState p i.host = .WRITE := by
                  simp [nextState, hstate, hwaits.left, hwaits.right,
                    hpending, hopen, hrow, hwr]
                have hleft := left_moves hnext (by simp [hstate])
                rcases step_moves hnext (by simp [hstate]) with ⟨hs, -⟩
                simp [work, hs, hstate, hopen, hrow, hleft, lastCount, tRP]
          · have hnext : s.controller.nextState p i.host = .PCH := by
              simp [nextState, hstate, hwaits.left, hwaits.right, hpending,
                hopen, hrow]
            have hleft := left_moves hnext (by simp [hstate])
            rcases step_moves hnext (by simp [hstate]) with ⟨hs, -, ha, -⟩
            have haddr : (s.step p i).controller.sAddr = 0#13 := by
              rw [ha]
              simp [commandAddr, hnext, hpending]
            simp [work, hs, haddr, hstate, hopen, hrow, hleft, lastCount, tRP]

/-- Leaving a state whose time is over. -/
theorem rank_moves (hp : Feasible p) (hinv : Inv p i.host s)
    (hstate : s.controller.state ≠ .IDLE)
    (hcompl : (s.step p i).controller.hCompl = false)
    (hmove : s.controller.nextState p i.host ≠ s.controller.state) :
    rank p i.host (s.step p i) < rank p i.host s := by
  have hrefresh := refreshCount_step (p := p) (s := s) (i := i)
  have hlast : s.controller.timec = lastCount p s.controller.state := by
    by_contra hne
    exact hmove ((stays_iff hp hstate).mpr hne)
  have hone : left p s = 1 := by
    unfold left
    omega
  cases hst : s.controller.state with
  | IDLE => exact absurd hst hstate
  | RESET =>
      have hnext : s.controller.nextState p i.host = .RESET_PCH := by
        rw [hst] at hlast
        have hpos := hp.reset_pos
        simp only [nextState, hst, hlast, lastCount,
          Nat.mod_eq_of_lt hp.reset_lt]
        rw [if_pos (by omega)]
      have hleft := left_moves hnext (by simp [hst])
      have hs : (s.step p i).controller.state = .RESET_PCH := hnext
      apply rank_lt_of_work (by simp [hst]) (by simp [hst]) hrefresh
      simp [work, hs, hst, hleft, hone, lastCount, tRP]
  | RESET_PCH =>
      have hnext : s.controller.nextState p i.host = .RESET_REF1 := by
        simp [nextState, hst, hlast, lastCount]
      have hleft := left_moves hnext (by simp [hst])
      have hs : (s.step p i).controller.state = .RESET_REF1 := hnext
      apply rank_lt_of_work (by simp [hst]) (by simp [hst]) hrefresh
      simp [work, hs, hst, hleft, hone, lastCount, tRC]
  | RESET_REF1 =>
      have hnext : s.controller.nextState p i.host = .RESET_REF2 := by
        simp [nextState, hst, hlast, lastCount]
      have hleft := left_moves hnext (by simp [hst])
      have hs : (s.step p i).controller.state = .RESET_REF2 := hnext
      apply rank_lt_of_work (by simp [hst]) (by simp [hst]) hrefresh
      simp [work, hs, hst, hleft, hone, lastCount, tRC]
  | RESET_REF2 =>
      have hnext : s.controller.nextState p i.host = .MRS := by
        simp [nextState, hst, hlast, lastCount]
      have hleft := left_moves hnext (by simp [hst])
      have hs : (s.step p i).controller.state = .MRS := hnext
      apply rank_lt_of_work (by simp [hst]) (by simp [hst]) hrefresh
      simp [work, hs, hst, hleft, hone, lastCount, tMRD]
  | MRS =>
      have hnext : s.controller.nextState p i.host = .IDLE := by
        simp [nextState, hst, hlast, lastCount]
      have hs : (s.step p i).controller.state = .IDLE := hnext
      simp only [Inv, hst] at hinv
      have hclosed := closed_step (p := p) hinv.right.left (by simp [hst])
        (by simp [hst]) (by simp [hst]) i
      apply rank_lt_of_work (by simp [hst]) (by simp [hst]) hrefresh
      simp [work, hs, hst, hone, hclosed (i.host.banksel p)]
  | ACT =>
      apply rank_lt_of_work (by simp [hst]) (by simp [hst]) hrefresh
      cases hwr : i.host.wrEn with
      | false =>
          have hnext : s.controller.nextState p i.host = .READ := by
            simp [nextState, hst, hlast, lastCount, hwr]
          have hleft := left_moves hnext (by simp [hst])
          have hs : (s.step p i).controller.state = .READ := hnext
          simp [work, hs, hst, hleft, hone, lastCount, SdramConfig.cas]
      | true =>
          have hnext : s.controller.nextState p i.host = .WRITE := by
            simp [nextState, hst, hlast, lastCount, hwr]
          have hleft := left_moves hnext (by simp [hst])
          have hs : (s.step p i).controller.state = .WRITE := hnext
          simp [work, hs, hst, hleft, hone, lastCount, tRP]
  | READ =>
      change s.controller.finishes = false at hcompl
      simp [finishes, hst, hlast, lastCount] at hcompl
  | WRITE =>
      change s.controller.finishes = false at hcompl
      simp [finishes, hst, hlast, lastCount] at hcompl
  | PCH =>
      simp only [Inv, hst] at hinv
      rcases hinv.right with ⟨haddr, -⟩ | ⟨haddr, -, hexact, hcmd⟩
      · have hne : prechargeAll ≠ 0#13 := by decide
        have hnext : s.controller.nextState p i.host = .AUTOREF := by
          simp [nextState, hst, hlast, lastCount, haddr, prechargeAll]
        have hleft := left_moves hnext (by simp [hst])
        have hs : (s.step p i).controller.state = .AUTOREF := hnext
        simp [rank, work, delay, hs, hst, haddr, hne, hleft, hone, lastCount,
          tRC]
      · have hnext : s.controller.nextState p i.host = .IDLE := by
          simp [nextState, hst, hlast, lastCount, haddr]
        have hs : (s.step p i).controller.state = .IDLE := hnext
        have hclosed := (pch_closes hst hexact haddr hcmd).right
        apply rank_lt_of_work (by simp [hst]) (fun _ => haddr) hrefresh
        simp [work, hs, hst, haddr, hone, hclosed]
  | AUTOREF =>
      have hnext : s.controller.nextState p i.host = .IDLE := by
        simp [nextState, hst, hlast, lastCount]
      have hs : (s.step p i).controller.state = .IDLE := hnext
      have hopen : (s.step p i).controller.rowIsOpen (i.host.banksel p) =
          false := by
        show s.controller.nextRowIsOpen p i.host _ = false
        simp only [nextRowIsOpen, hst]
      have hzero : (s.step p i).controller.refreshCount = 0 := by
        show Counter.step _ _ _ _ = 0
        simp [Counter.step, hst, hlast, lastCount]
      have hwork : work p i.host (s.step p i) = 6 := by
        simp [work, hs, hopen]
      have hrefreshes := hp.refresh
      have hdelay : delay p i.host (s.step p i) = 0 := by
        unfold delay
        rw [hs, hwork, hzero, if_neg (by simp), if_neg (by simp),
          if_pos (by omega)]
      have hbefore : work p i.host s = 7 := by
        simp [work, hst, hone]
      unfold rank
      omega

theorem rank_step (hp : Feasible p) (hinv : Inv p i.host s)
    (htimed : Timed p s) (hwaits : s.Waits i.host)
    (hcompl : (s.step p i).controller.hCompl = false) :
    rank p i.host (s.step p i) < rank p i.host s := by
  by_cases hstate : s.controller.state = .IDLE
  · exact rank_idle hstate hwaits
  · by_cases hstay : s.controller.nextState p i.host = s.controller.state
    · exact rank_stays hp htimed hstate hstay
    · exact rank_moves hp hinv hstate hcompl hstay

variable {inputs : Nat -> Input}

theorem timed_trace (hp : Feasible p)
    (hreset : exists c, s.controller = SdramController.reset c) (n : Nat) :
    Timed p (before p inputs s n) := by
  induction n with
  | zero =>
      rcases hreset with ⟨c, hc⟩
      intro _
      show s.controller.timec ≤ _
      rw [hc]
      exact Nat.zero_le _
  | succ n ih =>
      exact timed_step hp ih

/-- A request that waits is completed. -/
theorem completes (hp : Feasible p)
    (hreset : exists c, s.controller = SdramController.reset c)
    (hholds : Holds p inputs s) (n : Nat)
    (hwaits : (before p inputs s n).Waits (inputs n).host) :
    exists last, n < last ∧
      (forall k, n ≤ k -> k < last ->
        (before p inputs s k).Waits (inputs k).host) ∧
      (before p inputs s last).controller.hCompl = true := by
  -- The rank falls in every cycle in which the request still waits.
  generalize hrank : rank p (inputs n).host (before p inputs s n) = r
  induction r using Nat.strong_induction_on generalizing n with
  | _ r ih =>
      cases hcompl : (before p inputs s (n + 1)).controller.hCompl with
      | true =>
          refine ⟨n + 1, Nat.lt_succ_self n, ?_, hcompl⟩
          intro k hk hk'
          obtain rfl : k = n := by omega
          exact hwaits
      | false =>
          have hhost := hholds n hwaits hcompl
          have hlt := rank_step hp (inv_trace hreset hholds n)
            (timed_trace hp hreset n) hwaits hcompl
          have hwaits' : (before p inputs s (n + 1)).Waits
              (inputs (n + 1)).host := by
            rw [hhost]
            exact ⟨hwaits.left, hcompl⟩
          rw [hrank] at hlt
          have hrank' : rank p (inputs (n + 1)).host
              (before p inputs s (n + 1)) < r := by
            rw [hhost]
            exact hlt
          rcases ih _ hrank' (n + 1) hwaits' rfl with ⟨last, hlast, hall, hdone⟩
          refine ⟨last, by omega, ?_, hdone⟩
          intro k hk hk'
          by_cases hkn : k = n
          · rw [hkn]
            exact hwaits
          · exact hall k (by omega) hk'

/-- The cycle in which a request that waits began to wait. -/
theorem exists_first (n : Nat)
    (hwaits : (before p inputs s n).Waits (inputs n).host) :
    exists first, first ≤ n ∧
      (first = 0 ∨
        ¬(before p inputs s (first - 1)).Waits (inputs (first - 1)).host) ∧
      forall k, first ≤ k -> k ≤ n ->
        (before p inputs s k).Waits (inputs k).host := by
  induction n with
  | zero =>
      refine ⟨0, Nat.le_refl 0, Or.inl rfl, ?_⟩
      intro k _ hk
      obtain rfl : k = 0 := by omega
      exact hwaits
  | succ n ih =>
      by_cases hbefore : (before p inputs s n).Waits (inputs n).host
      · rcases ih hbefore with ⟨first, hle, hstarts, hall⟩
        refine ⟨first, by omega, hstarts, ?_⟩
        intro k hk hk'
        by_cases hlast : k = n + 1
        · rw [hlast]
          exact hwaits
        · exact hall k hk (by omega)
      · refine ⟨n + 1, Nat.le_refl _, Or.inr hbefore, ?_⟩
        intro k hk hk'
        obtain rfl : k = n + 1 := by omega
        exact hwaits

end Completion

/-- After a reset and for every host that holds its requests: each command on
the pins keeps the protocol of the device, in the idle state, where the table
of open rows is consulted, it shows exactly the rows of the device, and every
request is completed after exactly one read or write, which has its bank and
column; there are no others. -/
theorem sdram_row_protocol (p : SdramConfig) (hp : Feasible p)
    (inputs : Nat -> Input) (s : SdramSystem)
    (hreset : exists c, s.controller = SdramController.reset c)
    (hholds : Holds p inputs s) :
    (forall n, Legal p (inputs n).host (before p inputs s n)) ∧
    (forall n, (before p inputs s n).controller.state = .IDLE ->
      (before p inputs s n).Exact) ∧
    (forall n, (before p inputs s n).Accesses ->
      Serves p (inputs n).host (before p inputs s n)) ∧
    forall n, (before p inputs s n).Waits (inputs n).host ->
      exists first last, first ≤ n ∧ n < last ∧
        Request p inputs s first last ∧
        exists k, first ≤ k ∧ k < last ∧
          Serves p (inputs k).host (before p inputs s k) ∧
          forall j, first ≤ j -> j < last ->
            (before p inputs s j).Accesses -> j = k := by
  have hinv := inv_trace hreset hholds
  refine ⟨fun n => legal_of_inv (hinv n), ?_, ?_, ?_⟩
  · intro n hstate
    have h := hinv n
    simp only [Inv, hstate] at h
    exact h.right
  · intro n haccess
    exact (serves_of_accesses (hinv n) haccess).right
  · intro n hwaits
    rcases exists_first n hwaits with ⟨first, hfirst, hstarts, hup⟩
    rcases completes hp hreset hholds n hwaits with ⟨last, hlast, hall, hdone⟩
    have hr : Request p inputs s first last := by
      refine ⟨hstarts, by omega, ?_, hdone⟩
      intro k hk hk'
      by_cases hkn : k ≤ n
      · exact hup k hk hkn
      · exact hall k (by omega) hk'
    exact ⟨first, last, hfirst, hlast, hr, hr.served hinv hreset⟩

/-- The clocks of the module's default and of the boards. -/
theorem feasible_of_clock (size : SdramSize) {clkf : Nat}
    (h : clkf = 25000000 ∨ clkf = 50000000) : Feasible ⟨size, clkf⟩ := by
  cases size <;> rcases h with rfl | rfl <;>
    exact ⟨by decide +kernel, by decide +kernel, by decide +kernel⟩

/-- A host that reads the same word for ever. -/
def reader : Input :=
  { host :=
      { dataMAccess := true, cs := true, addr := 0x12345#25, wdata := 0#16
        wrEn := false, bytesel := 3#2 }
    sData := 0#16 }

/-- A system after reset whose device has rows open. -/
def afterReset : SdramSystem :=
  { controller := SdramController.reset
      { state := .READ, timec := 3, refreshCount := 7, cmd := .ACT
        sAddr := 1#13, sBanksel := 1#2, oe := true, outdata := 0#16
        outbytesel := 0#2, hRdata := 0#16, hCompl := true, hConfigDone := true
        rowIsOpen := fun _ => true, openRow := fun _ => 0#13 }
    rows := fun _ => some 5#13 }

theorem sdram_row_protocol_reader :
    Feasible ⟨.MB64, 50000000⟩ ∧
      Holds ⟨.MB64, 50000000⟩ (fun _ => reader) afterReset ∧
      exists first last, first ≤ 0 ∧ 0 < last ∧
        Request ⟨.MB64, 50000000⟩ (fun _ => reader) afterReset first last := by
  have hp : Feasible ⟨.MB64, 50000000⟩ := feasible_of_clock _ (Or.inr rfl)
  have hholds : Holds ⟨.MB64, 50000000⟩ (fun _ => reader) afterReset :=
    fun _ _ _ => rfl
  refine ⟨hp, hholds, ?_⟩
  rcases (sdram_row_protocol _ hp (fun _ => reader) afterReset ⟨_, rfl⟩
    hholds).right.right.right 0 ⟨rfl, rfl⟩ with ⟨first, last, h0, h1, hr, -⟩
  exact ⟨first, last, h0, h1, hr⟩

end SdramSystem
end Fpga
end S80x86
