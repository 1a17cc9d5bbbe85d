import RadioFlash.Proofs.XmodemFailure
/-!
# How many steps one tick runs

Both loops of the library that run state steps, the XMODEM sender's tick and an install
session's tick, go on until a step yields, and stop after six steps at most. The bound is never
what stops them. A step goes on within its tick only along a fixed graph of steps: for XMODEM
Flush, Start, Send, Resend, Sending, with Send also leading to Eof (`Xmodem.Phase.onward`); for
EBL and HCS08 Init to Reset and XmodemDone to FinalPrompt (`EblState.onward`); for OEM
ParseResponse to the step its request named, and CmdVr and FinalPrompt to Done, CmdProg and
HoldBreak to Bootloader, TxStart and RxFail to TxBlock, TxBlock to Sending and RxBlock to RxFail
(`OemState.Continues`). Sending, Done and every waiting step yield.

Each move along these graphs lowers a count of the steps that may still go on (`stepsAhead`),
which is at most four. Only ParseResponse needs more than its step to count: a request naming
ParseResponse itself would make a loop of the graph, but the response that lets it go on ends
the wait for a response, and a second ParseResponse in the same tick fails. So a tick runs at
most five steps, and a bound of six or more gives the same run (`Session.runSteps_stable`,
`Xmodem.Transfer.steps_stable`); `ticks_stop_by_themselves` puts it together.

Which steps go on is read off each step's code, for any link: a run that answers `goOn` does so
right after moving to the next step (`Action.GoesOnTo`), so a step goes on only where its code
moves along the graph and then answers `goOn`.
-/

namespace RadioFlash

namespace Action

variable {σ α : Type}

/-- Every run of `m` that lets its tick go on ends in a state with `P`. -/
def GoesOnTo (P : σ → Prop) (m : Action σ Step) : Prop :=
  ∀ s s', m.run s = (.ok .goOn, s') → P s'

namespace GoesOnTo

variable {P : σ → Prop}

/-- A run that goes on ends in a state with `P`. -/
theorem apply {m : Action σ Step} {s s' : σ} (hm : GoesOnTo P m) (h : m.run s = (.ok .goOn, s')) :
    P s' :=
  hm s s' h

/-- Yielding never goes on. -/
theorem pause : GoesOnTo P (pure .pause) := by
  intro s s' h
  cases h

/-- Failing never goes on. -/
theorem throw (e : Error) : GoesOnTo P (throw e : Action σ Step) := by
  intro s s' h
  cases h

/-- A sequence goes on to `P` when every continuation does. -/
theorem bind {m : Action σ α} {f : α → Action σ Step} (h : ∀ a, GoesOnTo P (f a)) :
    GoesOnTo P (m >>= f) := by
  intro s s' hr
  rw [run_bind] at hr
  rcases hm : m.run s with ⟨_ | a, s₁⟩ <;> rw [hm] at hr
  · cases hr
  · exact h a s₁ s' hr

/-- Going on right after `m` ends where `m` leaves the state. -/
theorem then_goOn {m : Action σ α} (h : ∀ s a s', m.run s = (.ok a, s') → P s') :
    GoesOnTo P (m >>= fun _ => pure .goOn) := by
  intro s s' hr
  rw [run_bind] at hr
  rcases hm : m.run s with ⟨_ | a, s₁⟩ <;> rw [hm] at hr
  · cases hr
  · cases hr
    exact h s a s' hm

/-- Going on when `m` answers `true` ends where such a run of `m` leaves the state. -/
theorem bind_if {m : Action σ Bool} {k : Action σ Step} (h : ∀ s s', m.run s = (.ok true, s') → P s')
    (hk : GoesOnTo P k) : GoesOnTo P (m >>= fun b => if b = true then pure .goOn else k) := by
  intro s s' hr
  rw [run_bind] at hr
  rcases hm : m.run s with ⟨_ | b, s₁⟩ <;> rw [hm] at hr
  · cases hr
  · cases b with
    | true =>
      cases hr
      exact h s s' hm
    | false => exact hk s₁ s' hr

end GoesOnTo

end Action

/-- A relation along which a count strictly falls has no cycle. -/
theorem not_transGen_self_of_lt {α : Type} {r : α → α → Prop} (f : α → Nat)
    (hr : ∀ a b, r a b → f b < f a) (a : α) : ¬ Relation.TransGen r a a := by
  have hlt : ∀ a b, Relation.TransGen r a b → f b < f a := by
    intro a b h
    induction h with
    | single hab => exact hr _ _ hab
    | tail _ hbc ih => exact Nat.lt_trans (hr _ _ hbc) ih
  exact fun h => Nat.lt_irrefl _ (hlt a a h)

/-! ## The XMODEM sender -/

namespace Xmodem

namespace Phase

/-- The phases a step may go on to within the same tick. -/
def onward : Phase → List Phase
  | flush => [start]
  | start => [send]
  | send => [resend, eof]
  | resend => [sending]
  | _ => []

/-- How many more steps may go on within the tick after a step in this phase. -/
def stepsAhead : Phase → Nat
  | flush => 4
  | start => 3
  | send => 2
  | resend => 1
  | _ => 0

/-- A phase goes on only to phases with fewer steps ahead. -/
theorem stepsAhead_lt {a b : Phase} (h : b ∈ a.onward) : b.stepsAhead < a.stepsAhead := by
  cases a <;> simp only [onward, List.mem_cons, List.not_mem_nil, or_false] at h <;>
    rcases h with rfl | rfl <;> decide

/-- No sender phase has more than four steps ahead of it. -/
theorem stepsAhead_le (a : Phase) : a.stepsAhead ≤ 4 := by
  cases a <;> decide

end Phase

namespace Transfer

variable {π : Type} [SerialLink π]

omit [SerialLink π] in
/-- A change of the sender that goes on reaches `P` when the change does. -/
theorem update_goOn {P : Transfer π → Prop} {f : Sender → Sender}
    (h : ∀ t : Transfer π, P { t with sender := f t.sender }) :
    Action.GoesOnTo P (update f >>= fun _ => pure .goOn) :=
  Action.GoesOnTo.then_goOn fun t _ t' ht => by
    simp only [update, Action.run_modify] at ht
    obtain ⟨-, rfl⟩ := Prod.mk.inj ht
    exact h t

/-- A start request that is accepted moves the sender to Send. -/
theorem acceptStart_true {b : UInt8} {t t' : Transfer π} (h : (acceptStart b).run t = (.ok true, t')) :
    t'.sender.phase = .send := by
  unfold acceptStart at h
  simp only [Action.run_bind, Action.run_get] at h
  split at h
  · cases h
  split at h
  · cases h
  simp only [say, onPort, update, SerialLink.say, Action.run_bind, Action.run_focus,
    Action.run_modify] at h
  obtain ⟨-, rfl⟩ := Prod.mk.inj h
  rfl

/-- A step of the sender goes on only along `Phase.onward`. Only an accepted start request goes on.
-/
theorem step_goOn {now : Millis} {t t' : Transfer π} (h : (step now).run t = (.ok .goOn, t')) :
    t'.sender.phase ∈ t.sender.phase.onward := by
  unfold step at h
  simp only [Action.run_bind, Action.run_get] at h
  generalize t.sender = snd at h ⊢
  refine Action.GoesOnTo.apply (P := fun t' : Transfer π => t'.sender.phase ∈ snd.phase.onward) ?_ h
  cases hph : snd.phase
  case start =>
    refine Action.GoesOnTo.bind fun r => ?_
    split
    · refine Action.GoesOnTo.bind_if (fun _ _ h => by simp [acceptStart_true h, Phase.onward]) ?_
      exact Action.GoesOnTo.bind fun _ => Action.GoesOnTo.pause
    · exact Action.GoesOnTo.pause
  all_goals
  repeat' first
    | with_reducible exact Action.GoesOnTo.pause
    | with_reducible exact Action.GoesOnTo.throw _
    | (with_reducible apply update_goOn); intro _; simp [Phase.onward]
    | (with_reducible apply Action.GoesOnTo.bind); intro _
    | split

/-- With room for more steps than the phase has ahead, the loop of a tick ends by itself: any
two such bounds give the same run. Induction on the first bound; each step that goes on lowers the
count below both bounds. -/
theorem steps_stable (now : Millis) :
    ∀ (n m : Nat) (t : Transfer π), t.sender.phase.stepsAhead < n → t.sender.phase.stepsAhead < m →
      (steps now n).run t = (steps now m).run t := by
  intro n
  induction n with
  | zero => intro m t hn; omega
  | succ n ih =>
    intro m t hn hm
    obtain ⟨m, rfl⟩ : ∃ k, m = k + 1 := ⟨m - 1, by omega⟩
    rw [steps_succ_run, steps_succ_run]
    rcases hr : (step now).run t with ⟨_ | (_ | _), t'⟩
    · rfl
    · have hlt := Phase.stepsAhead_lt (step_goOn hr)
      exact ih m t' (by omega) (by omega)
    · rfl

end Transfer

end Xmodem

/-! ## Install sessions -/

namespace EblState

/-- The steps an EBL step may go on to within the same tick. -/
def onward : EblState → List EblState
  | init => [reset]
  | xmodemDone => [finalPrompt]
  | _ => []

/-- How many more steps may go on within the tick after this step. -/
def stepsAhead : EblState → Nat
  | init | xmodemDone => 1
  | _ => 0

/-- An EBL step goes on only to steps with fewer steps ahead. -/
theorem stepsAhead_lt {a b : EblState} (h : b ∈ a.onward) : b.stepsAhead < a.stepsAhead := by
  cases a <;> simp only [onward, List.mem_cons, List.not_mem_nil, or_false] at h <;>
    rcases h with rfl <;> decide

/-- No EBL step has more than one step ahead of it. -/
theorem stepsAhead_le (a : EblState) : a.stepsAhead ≤ 1 := by
  cases a <;> decide

end EblState

namespace OemState

/-- The steps an OEM step other than ParseResponse may go on to within the same tick. -/
def onward : OemState → List OemState
  | cmdVr | finalPrompt => [done]
  | cmdProg | holdBreak => [bootloader]
  | txStart | rxFail => [txBlock]
  | txBlock => [sending]
  | rxBlock => [rxFail]
  | _ => []

/-- The OEM steps that go on within a tick: ParseResponse to `next`, the step its request
named, and every other step along `onward`. -/
inductive Continues (next : OemState) : OemState → OemState → Prop
  | response : Continues next parseResponse next
  | onward {a b : OemState} : b ∈ a.onward → Continues next a b

/-- How many more steps may go on within the tick after this step; for ParseResponse the count
of the step its request named decides (`Session.stepsAhead`). -/
def stepsAhead : OemState → Nat
  | rxBlock => 3
  | txStart | rxFail => 2
  | cmdVr | cmdProg | holdBreak | txBlock | finalPrompt => 1
  | _ => 0

/-- An OEM step goes on only to steps with fewer steps ahead. -/
theorem stepsAhead_lt {a b : OemState} (h : b ∈ a.onward) : b.stepsAhead < a.stepsAhead := by
  cases a <;> simp only [onward, List.mem_cons, List.not_mem_nil, or_false] at h <;>
    rcases h with rfl <;> decide

/-- No OEM step has more than three steps ahead of it. -/
theorem stepsAhead_le (a : OemState) : a.stepsAhead ≤ 3 := by
  cases a <;> decide

/-- No OEM step goes on to the parse. -/
theorem ne_parseResponse_of_onward {a b : OemState} (h : b ∈ a.onward) : b ≠ parseResponse := by
  cases a <;> simp only [onward, List.mem_cons, List.not_mem_nil, or_false] at h <;>
    rcases h with rfl <;> decide

/-- With a `next` other than ParseResponse itself, the graph of `Continues` has no cycle:
ParseResponse counts one more step than `next`. -/
theorem continues_acyclic {next : OemState} (hnext : next ≠ parseResponse) (a : OemState) :
    ¬ Relation.TransGen (Continues next) a a := by
  refine not_transGen_self_of_lt (fun b => if b = parseResponse then next.stepsAhead + 1 else b.stepsAhead)
    (fun a b hab => ?_) a
  cases hab with
  | response => simp [hnext]
  | onward hmem =>
    have ha : a ≠ parseResponse := by
      rintro rfl
      simp [onward] at hmem
    simp only [ne_parseResponse_of_onward hmem, ha, if_false]
    exact stepsAhead_lt hmem

end OemState

namespace Target

variable {π : Type} [SerialLink π]

/-- The target waits for the line that answers a request, or `ATCN`. -/
def awaitsResponse (t : Target π) : Bool :=
  match t.mode with
  | .waitIdle | .waitResponse => true
  | _ => false

omit [SerialLink π] in
/-- A link action leaves the target's mode. -/
theorem onPort_mode {α : Type} (m : Action π α) (t : Target π) : ((onPort m).run t).2.mode = t.mode :=
  rfl

/-- Collecting a line reads bytes into the buffer and leaves the target's mode alone. -/
theorem scanLine_mode : ∀ (fuel : Nat) (t : Target π) (b : LineBuffer),
    ((scanLine fuel).run (t, b)).2.1.mode = t.mode
  | 0, t, b => rfl
  | fuel + 1, t, b => by
    simp only [scanLine, Action.run_bind, Action.run_get]
    split
    · rfl
    have hread := onPort_mode (SerialLink.readByte : Action π _) t
    rw [Action.run_bind, withLine, Action.run_focus]
    rcases hr : (onPort SerialLink.readByte : Action (Target π) _).run t with ⟨_ | x, t₁⟩ <;>
      rw [hr] at hread
    · exact hread
    dsimp only
    split
    · exact hread
    · rw [Action.run_bind, Action.run_modify, scanLine_mode fuel]
      exact hread
    · simp only [Action.run_bind, Action.run_get]
      split <;> exact hread

/-- A response line is collected only while the target waits for one, and it ends the wait. A line
ends the wait: idle after `ATCN`, command mode after any other request. -/
theorem readResponse_line {t t' : Target π} {b b' : LineBuffer} {n : Nat}
    (h : readResponse.run (t, b) = (.ok (some n), (t', b'))) :
    t.awaitsResponse = true ∧ t'.awaitsResponse = false := by
  unfold readResponse at h
  simp only [Action.run_bind, Action.run_get] at h
  split at h
  case isFalse => simp only [Action.run_bind, Action.run_throw] at h; cases h
  rename_i hm
  have hwait : t.awaitsResponse = true := by
    rcases hm with hm | hm <;> simp [awaitsResponse, hm]
  refine ⟨hwait, ?_⟩
  rcases hs : (scanLine (b.bytes.size - b.cursor + 1)).run (t, b) with ⟨r, t₁, b₁⟩
  simp only [Action.run_bind, Action.run_get, hs] at h
  cases r with
  | error e => cases h
  | ok scan =>
    cases scan with
    | waiting => cases h
    | timedOut =>
      simp only [Action.run_bind, Action.run_modify, withLine, say, onPort, SerialLink.say,
        Action.run_focus, Action.run_throw] at h
      cases h
    | ended len =>
      simp only [Action.run_bind, Action.run_modify, withLine, say, onPort, SerialLink.say,
        Action.run_focus, Action.run_get, Action.run_pure, Prod.mk.injEq] at h
      obtain ⟨-, rfl, -⟩ := h
      by_cases hi : t.mode = .waitIdle
      · rw [if_pos hi]
        rfl
      · rw [if_neg hi]
        rfl

end Target

namespace Session

variable {π : Type} [SerialLink π]

/-- How many more steps may go on within the tick. At ParseResponse it is one more than the
step the request named, as long as the response is still awaited; once it is not, the step
fails. -/
def stepsAhead (s : Session π) : Nat :=
  match s.phase with
  | .ebl st => st.stepsAhead
  | .oem st =>
    if st = .parseResponse then
      if s.target.awaitsResponse then s.nextState.stepsAhead + 1 else 0
    else st.stepsAhead

omit [SerialLink π] in
/-- No session has more than four steps ahead of it. -/
theorem stepsAhead_le (s : Session π) : s.stepsAhead ≤ 4 := by
  unfold stepsAhead
  split
  · rename_i st _
    have hst := EblState.stepsAhead_le st
    omega
  · rename_i st _
    have hst := OemState.stepsAhead_le st
    have hnext := OemState.stepsAhead_le s.nextState
    split
    · split <;> omega
    · omega

/-- A response that came in moves on to the step its request named, and ends the wait. -/
theorem parseResponse_goOn {s s' : Session π} (h : (stepOem .parseResponse).run s = (.ok .goOn, s')) :
    s'.phase = .oem s.nextState ∧ s'.nextState = s.nextState ∧
      s.target.awaitsResponse = true ∧ s'.target.awaitsResponse = false := by
  simp only [stepOem, collectResponse, Action.run_bind, Action.run_focus] at h
  rcases hr : Target.readResponse.run (s.target, ({ bytes := s.scratch, cursor := s.responseLen } : LineBuffer))
    with ⟨_ | _ | len, t, b⟩ <;> rw [hr] at h
  · cases h
  · cases h
  obtain ⟨hwait, hdone⟩ := Target.readResponse_line hr
  simp only [Action.run_bind, Action.run_modify, Action.run_get, gotoOem, say, onPort, onTarget,
    Target.onPort, SerialLink.say, Action.run_focus, Action.run_pure, Prod.mk.injEq] at h
  obtain ⟨-, rfl⟩ := h
  exact ⟨rfl, rfl, hwait, hdone⟩

section Moves

variable {P : Session π → Prop}

/-- Moving to an OEM step and going on reaches `P` when that step does. -/
theorem gotoOem_goOn {st : OemState} (h : ∀ s : Session π, P { s with phase := .oem st }) :
    Action.GoesOnTo P (gotoOem st >>= fun _ => pure .goOn) :=
  Action.GoesOnTo.then_goOn fun s _ s' hs => by
    simp only [gotoOem, say, SerialLink.say, Action.run_bind, Action.run_get, onPort_run,
      Action.run_modify] at hs
    obtain ⟨-, rfl⟩ := Prod.mk.inj hs
    exact h { s with target := _ }

/-- Moving to an EBL step and going on reaches `P` when that step does. -/
theorem gotoEbl_goOn {st : EblState} (h : ∀ s : Session π, P { s with phase := .ebl st }) :
    Action.GoesOnTo P (gotoEbl st >>= fun _ => pure .goOn) :=
  Action.GoesOnTo.then_goOn fun s _ s' hs => by
    simp only [gotoEbl, say, SerialLink.say, Action.run_bind, Action.run_get, onPort_run,
      Action.run_modify] at hs
    obtain ⟨-, rfl⟩ := Prod.mk.inj hs
    exact h { s with target := _ }

/-- Sending a request yields. -/
theorem request_pauses (cmd : List UInt8) (next : OemState) : Action.GoesOnTo P (request cmd next) := by
  unfold request
  repeat' first
    | with_reducible exact Action.GoesOnTo.pause
    | (with_reducible apply Action.GoesOnTo.bind); intro _

/-- The EBL timeout yields. -/
theorem eblFallback_pauses : Action.GoesOnTo P (eblFallback : Action (Session π) Step) := by
  unfold eblFallback
  repeat' first
    | with_reducible exact Action.GoesOnTo.pause
    | with_reducible exact Action.GoesOnTo.throw _
    | (with_reducible apply Action.GoesOnTo.bind); intro _
    | split

/-- Opening the echo block yields. -/
theorem expectEcho_pauses (p : OemProgress) : Action.GoesOnTo P (expectEcho p : Action (Session π) Step) := by
  unfold expectEcho
  repeat' first
    | with_reducible exact Action.GoesOnTo.pause
    | (with_reducible apply Action.GoesOnTo.bind); intro _

/-- A matched echo yields. -/
theorem echoMatched_pauses (p : OemProgress) : Action.GoesOnTo P (echoMatched p : Action (Session π) Step) := by
  unfold echoMatched
  repeat' first
    | with_reducible exact Action.GoesOnTo.pause
    | (with_reducible apply Action.GoesOnTo.bind); intro _

/-- Sending a block yields, whether the block is out or not. -/
theorem sendBlock_pauses : Action.GoesOnTo P (sendBlock : Action (Session π) Step) := by
  unfold sendBlock
  repeat' first
    | with_reducible exact Action.GoesOnTo.pause
    | with_reducible exact expectEcho_pauses _
    | (with_reducible apply Action.GoesOnTo.bind); intro _
    | split
    | dsimp only

/-- Checking a piece of echo goes on only to RxFail. -/
theorem checkEcho_goOn (hP : ∀ s : Session π, P { s with phase := .oem .rxFail }) (p : OemProgress)
    (received : List UInt8) : Action.GoesOnTo P (checkEcho p received) := by
  unfold checkEcho
  repeat' first
    | with_reducible exact Action.GoesOnTo.pause
    | with_reducible exact echoMatched_pauses _
    | with_reducible exact gotoOem_goOn hP
    | (with_reducible apply Action.GoesOnTo.bind); intro _
    | split
    | dsimp only

/-- Comparing an echo goes on only to a resend. -/
theorem compareEcho_goOn (hP : ∀ s : Session π, P { s with phase := .oem .rxFail }) :
    Action.GoesOnTo P (compareEcho : Action (Session π) Step) := by
  unfold compareEcho
  repeat' first
    | with_reducible exact Action.GoesOnTo.pause
    | with_reducible exact echoMatched_pauses _
    | with_reducible exact checkEcho_goOn hP _ _
    | with_reducible exact gotoOem_goOn hP
    | (with_reducible apply Action.GoesOnTo.bind); intro _
    | split
    | dsimp only

end Moves

/-- An EBL step goes on only along `EblState.onward`. -/
theorem stepEbl_goOn {st : EblState} {s s' : Session π} (h : (stepEbl st).run s = (.ok .goOn, s')) :
    ∃ b, s'.phase = .ebl b ∧ b ∈ st.onward := by
  refine Action.GoesOnTo.apply (P := fun s' : Session π => ∃ b, s'.phase = .ebl b ∧ b ∈ st.onward) ?_ h
  cases st <;> unfold stepEbl <;>
  repeat' first
    | with_reducible exact Action.GoesOnTo.pause
    | with_reducible exact Action.GoesOnTo.throw _
    | with_reducible exact eblFallback_pauses
    | (with_reducible apply gotoEbl_goOn); intro _; exact ⟨_, rfl, by simp [EblState.onward]⟩
    | (with_reducible apply Action.GoesOnTo.bind); intro _
    | split

/-- An OEM step other than ParseResponse goes on only along `OemState.onward`. -/
theorem stepOem_goOn {st : OemState} {s s' : Session π} (hst : st ≠ .parseResponse)
    (h : (stepOem st).run s = (.ok .goOn, s')) : ∃ b, s'.phase = .oem b ∧ b ∈ st.onward := by
  refine Action.GoesOnTo.apply (P := fun s' : Session π => ∃ b, s'.phase = .oem b ∧ b ∈ st.onward) ?_ h
  cases st
  case parseResponse => exact absurd rfl hst
  all_goals unfold stepOem
  all_goals
  repeat' first
    | with_reducible exact Action.GoesOnTo.pause
    | with_reducible exact Action.GoesOnTo.throw _
    | with_reducible exact request_pauses _ _
    | with_reducible exact sendBlock_pauses
    | with_reducible exact compareEcho_goOn fun _ => ⟨_, rfl, by simp [OemState.onward]⟩
    | (with_reducible apply gotoOem_goOn); intro _; exact ⟨_, rfl, by simp [OemState.onward]⟩
    | (with_reducible apply Action.GoesOnTo.bind); intro _
    | split
    | dsimp only

/-- Every OEM step goes on only along `OemState.Continues`, ParseResponse to the step its
request named. -/
theorem stepOem_continues {st : OemState} {s s' : Session π} (h : (stepOem st).run s = (.ok .goOn, s')) :
    ∃ b, s'.phase = .oem b ∧ OemState.Continues s.nextState st b := by
  by_cases hst : st = .parseResponse
  · subst hst
    exact ⟨_, (parseResponse_goOn h).1, .response⟩
  · obtain ⟨b, hb, hmem⟩ := stepOem_goOn hst h
    exact ⟨b, hb, .onward hmem⟩

omit [SerialLink π] in
/-- A session at an OEM step other than the parse has that step's steps ahead. -/
theorem stepsAhead_of_oem {s : Session π} {st : OemState} (hph : s.phase = .oem st)
    (hst : st ≠ .parseResponse) : s.stepsAhead = st.stepsAhead := by
  simp [stepsAhead, hph, hst]

/-- Every step that goes on lowers the count of steps still ahead in the tick. -/
theorem stepsAhead_lt_of_goOn {s s' : Session π} (h : (stepAt s.phase).run s = (.ok .goOn, s')) :
    s'.stepsAhead < s.stepsAhead := by
  rcases hph : s.phase with st | st <;> rw [hph] at h
  · obtain ⟨b, hb, hmem⟩ := stepEbl_goOn h
    simpa [stepsAhead, hph, hb] using EblState.stepsAhead_lt hmem
  by_cases hst : st = .parseResponse
  · -- the response moves on to the named step, and a second ParseResponse would not go on
    subst hst
    obtain ⟨hph', -, hwait, hdone⟩ := parseResponse_goOn h
    have hbefore : s.stepsAhead = s.nextState.stepsAhead + 1 := by
      simp [stepsAhead, hph, hwait]
    have hafter : s'.stepsAhead ≤ s.nextState.stepsAhead := by
      simp only [stepsAhead, hph', hdone, Bool.false_eq_true, if_false]
      split <;> omega
    omega
  · obtain ⟨b, hb, hmem⟩ := stepOem_goOn hst h
    rw [stepsAhead_of_oem hb (OemState.ne_parseResponse_of_onward hmem), stepsAhead_of_oem hph hst]
    exact OemState.stepsAhead_lt hmem

/-- With room for more steps than are ahead, the loop of a tick ends by itself: any two such
bounds give the same run. Induction on the first bound; each step that goes on lowers the count
below both bounds. -/
theorem runSteps_stable :
    ∀ (n m : Nat) (s : Session π), s.stepsAhead < n → s.stepsAhead < m →
      (runSteps n).run s = (runSteps m).run s := by
  intro n
  induction n with
  | zero => intro m s hn; omega
  | succ n ih =>
    intro m s hn hm
    obtain ⟨m, rfl⟩ : ∃ k, m = k + 1 := ⟨m - 1, by omega⟩
    rw [runSteps_succ_run, runSteps_succ_run]
    rcases hr : (stepAt s.phase).run s with ⟨_ | (_ | _), s'⟩
    · rfl
    · have hlt := stepsAhead_lt_of_goOn hr
      exact ih m s' (by omega) (by omega)
    · rfl

/-- Done records the success and yields. -/
theorem done_yields_success (s : Session π) :
    ((stepOem .done).run s).1 = .ok .pause ∧ ((stepOem .done).run s).2.phase = .oem .success := by
  simp only [stepOem, gotoOem, say, SerialLink.say, Action.run_bind, Action.run_get, onPort_run,
    Action.run_modify, Action.run_pure, true_and]

end Session

/-- A tick stops by itself after at most five steps, for every session and every sender on any
link: five steps or more of room give the same run. A step goes on within its tick only along the
graphs of `Xmodem.Phase.onward`, `EblState.onward` and `OemState.Continues` (ParseResponse to
the step its request named), so Sending never goes on and Done yields on its way to Success, and
these graphs have no cycle, the OEM one as long as no request names ParseResponse itself. -/
theorem ticks_stop_by_themselves :
    (∀ {π : Type} [SerialLink π] (s : Session π) (n : Nat), 5 ≤ n →
      (Session.runSteps n).run s = (Session.runSteps 5).run s) ∧
    (∀ {π : Type} [SerialLink π] (t : Xmodem.Transfer π) (now : Millis) (n : Nat), 5 ≤ n →
      (Xmodem.Transfer.steps now n).run t = (Xmodem.Transfer.steps now 5).run t) ∧
    (∀ {π : Type} [SerialLink π] (t t' : Xmodem.Transfer π) (now : Millis),
      (Xmodem.Transfer.step now).run t = (.ok .goOn, t') → t'.sender.phase ∈ t.sender.phase.onward) ∧
    (∀ {π : Type} [SerialLink π] (s s' : Session π) (st : EblState),
      (Session.stepEbl st).run s = (.ok .goOn, s') → ∃ b, s'.phase = .ebl b ∧ b ∈ st.onward) ∧
    (∀ {π : Type} [SerialLink π] (s s' : Session π) (st : OemState),
      (Session.stepOem st).run s = (.ok .goOn, s') →
        ∃ b, s'.phase = .oem b ∧ OemState.Continues s.nextState st b) ∧
    (∀ {π : Type} [SerialLink π] (s s' : Session π),
      (Session.stepOem .sending).run s ≠ (.ok .goOn, s')) ∧
    (∀ {π : Type} [SerialLink π] (t t' : Xmodem.Transfer π) (now : Millis),
      t.sender.phase = .sending → (Xmodem.Transfer.step now).run t ≠ (.ok .goOn, t')) ∧
    (∀ {π : Type} [SerialLink π] (s : Session π),
      ((Session.stepOem .done).run s).1 = .ok .pause ∧
        ((Session.stepOem .done).run s).2.phase = .oem .success) ∧
    (∀ a : Xmodem.Phase, ¬ Relation.TransGen (fun a b => b ∈ a.onward) a a) ∧
    (∀ a : EblState, ¬ Relation.TransGen (fun a b => b ∈ a.onward) a a) ∧
    (∀ next : OemState, next ≠ .parseResponse → ∀ a, ¬ Relation.TransGen (OemState.Continues next) a a) := by
  refine ⟨fun s n hn => ?_, fun t now n hn => ?_, fun t t' now h => Xmodem.Transfer.step_goOn h,
    fun s s' st h => Session.stepEbl_goOn h, fun s s' st h => Session.stepOem_continues h,
    fun s s' h => ?_, fun t t' now hph h => ?_, Session.done_yields_success,
    not_transGen_self_of_lt Xmodem.Phase.stepsAhead fun _ _ => Xmodem.Phase.stepsAhead_lt,
    not_transGen_self_of_lt EblState.stepsAhead fun _ _ => EblState.stepsAhead_lt,
    fun next hnext => OemState.continues_acyclic hnext⟩
  · have := Session.stepsAhead_le s
    exact Session.runSteps_stable n 5 s (by omega) (by omega)
  · have := Xmodem.Phase.stepsAhead_le t.sender.phase
    exact Xmodem.Transfer.steps_stable now n 5 t (by omega) (by omega)
  · obtain ⟨b, -, hmem⟩ := Session.stepOem_goOn (by decide) h
    simp [OemState.onward] at hmem
  · have hmem := Xmodem.Transfer.step_goOn h
    simp [hph, Xmodem.Phase.onward] at hmem

/-- The tick of a session about to install `onePairImage` runs the same with room for six steps
as with five. -/
theorem onePair_tick_stops :
    (Session.runSteps 6 : Action (Session LoggedPort) _).run onePairSession =
      (Session.runSteps 5).run onePairSession := by
  obtain ⟨hsession, -⟩ := ticks_stop_by_themselves
  exact hsession onePairSession 6 (by decide)

end RadioFlash
