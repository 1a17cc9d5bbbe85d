import RadioFlash.Proofs.XmodemFailure
/-!
# The retry budget of an EBL session

An EBL or HCS08 install starts the module's bootloader by resetting it with the break held, and
a waiting step that hears nothing for 5000 ms starts over from that reset. The retry counter is
set to zero by Init and only ever raised, by one, on such a timeout; the third timeout ends the
session. So Reset is entered at most three times in a whole session, and with it the port is
opened at 115200 baud and the reset line raised at most three times (`Session.RetryBudget`).

The proof says once what each step can do to the counter and the link (`Session.Move`): Reset
opens the port and pulses the line, a waiting step may spend a try once 5000 ms are gone, and
every other step neither spends a try nor restarts the module. A tick runs one such step, or
two when the first goes on (Init before Reset, XmodemDone before FinalPrompt), which gives what
a tick can do (`Session.TickMove`).
-/

namespace RadioFlash

open RadioFlash.Action

/-- The times a log raised the module's reset line. -/
def pulses (log : List PortCall) : Nat := log.count (.setReset true)

/-- The reset pulses of two logs add up. -/
@[simp] theorem pulses_append (l m : List PortCall) : pulses (l ++ m) = pulses l + pulses m :=
  List.count_append

namespace Action

variable {σ α β : Type} {p : α → Prop}

/-- Every answer `m` gives satisfies `p`; a failure gives none. -/
@[irreducible] def Answers (p : α → Prop) (m : Action σ α) : Prop :=
  ∀ s a s', m.run s = (.ok a, s') → p a

/-- An action answers only `p` when every answer it gives satisfies `p`. -/
theorem answers_iff {m : Action σ α} : Answers p m ↔ ∀ s a s', m.run s = (.ok a, s') → p a := by
  unfold Answers
  exact Iff.rfl

namespace Answers

/-- Answering a value that satisfies `p`. -/
theorem pure {a : α} (h : p a) : Answers p (pure a : Action σ α) := by
  rw [answers_iff]
  intro s b s' hr
  cases hr
  exact h

/-- A failure answers nothing. -/
theorem throw (e : Error) : Answers p (throw e : Action σ α) := by
  rw [answers_iff]
  intro s b s' hr
  cases hr

/-- A sequence answers only `p` when every continuation does. -/
theorem bind {m : Action σ β} {f : β → Action σ α} (hf : ∀ b, Answers p (f b)) :
    Answers p (m >>= f) := by
  rw [answers_iff]
  intro s a s' hr
  rw [run_bind] at hr
  rcases hm : m.run s with ⟨_ | b, s₁⟩ <;> rw [hm] at hr
  · cases hr
  · exact answers_iff.mp (hf b) s₁ a s' hr

end Answers

/-- A run of an action that keeps a frame relates its states by the frame. -/
theorem Keeps.rel {F : Frame σ} {m : Action σ α} {s s' : σ} {r : Except Error α} (hm : Keeps F m)
    (h : m.run s = (r, s')) : F.rel s s' := by
  have := keeps_iff.mp hm s
  rwa [h] at this

end Action

namespace EblState

/-- The steps after a reset ran, up to success. -/
def afterReset : EblState → Bool
  | init | reset | failure => false
  | _ => true

/-- The waiting steps, which fall back to the reset when their time is up. -/
def fallsBack : EblState → Bool
  | holdBreak | prompt | xmodemWait | finalPrompt => true
  | _ => false

end EblState

/-- A step of the EBL procedure after its reset ran, up to success. -/
def Phase.afterReset : Phase → Bool
  | .ebl st => st.afterReset
  | .oem _ => false

/-! ## Calls that spare the budget -/

namespace LoggedPort

variable {α : Type}

/-- A port whose log grew by calls that neither open it nor raise the reset line, on the same
clock. -/
def spareFrame : Frame LoggedPort where
  rel l l' := ∃ calls, l'.log = l.log ++ calls ∧ opens calls = [] ∧ pulses calls = 0 ∧ l'.now = l.now
  refl l := ⟨[], (List.append_nil _).symm, rfl, rfl, rfl⟩
  trans := by
    rintro a b c ⟨c₁, h₁, o₁, p₁, n₁⟩ ⟨c₂, h₂, o₂, p₂, n₂⟩
    exact ⟨c₁ ++ c₂, by rw [h₂, h₁, List.append_assoc], by simp [o₁, o₂], by simp [p₁, p₂],
      n₂.trans n₁⟩

/-- Reads and writes spare the budget: raising the reset line is a control call. -/
theorem spare_of_quiet_rel {l l' : LoggedPort} (h : quietFrame.rel l l') : spareFrame.rel l l' := by
  obtain ⟨calls, hlog, hq, -, hnow⟩ := h
  refine ⟨calls, hlog, opens_eq_nil hq, ?_, hnow⟩
  exact List.count_eq_zero.mpr (not_mem_of_controls rfl (by rw [hq]; exact List.not_mem_nil))

/-- A link action without control calls spares the budget. -/
theorem spare_of_quiet {m : Action LoggedPort α} (hm : Keeps quietFrame m) : Keeps spareFrame m :=
  keeps_iff.mpr fun l => spare_of_quiet_rel (keeps_iff.mp hm l)

/-- A single call other than an open and a raise of the reset line. -/
theorem spare_of_call {m : Action LoggedPort Unit} {c : PortCall} (hc : c.openedBaud = none)
    (hr : c ≠ .setReset true) (hm : ∀ l, m.run l = (.ok (), { l with log := l.log ++ [c] })) :
    Keeps spareFrame m :=
  keeps_iff.mpr fun l => by
    rw [hm]
    exact ⟨[c], rfl, by simp [opens, hc], by simp [pulses, hr], rfl⟩

/-- The break spares the budget. -/
theorem setBreak_spare (on : Bool) : Keeps spareFrame (SerialLink.setBreak on : Action LoggedPort _) :=
  spare_of_call rfl (by simp) fun _ => rfl

/-- RTS spares the budget. -/
theorem setRts_spare (on : Bool) : Keeps spareFrame (SerialLink.setRts on : Action LoggedPort _) :=
  spare_of_call rfl (by simp) fun _ => rfl

/-- Flow control spares the budget. -/
theorem setFlowControl_spare (on : Bool) :
    Keeps spareFrame (SerialLink.setFlowControl on : Action LoggedPort _) :=
  spare_of_call rfl (by simp) fun _ => rfl

/-- Writing a byte spares the budget. -/
theorem writeByte_spare (b : UInt8) : Keeps spareFrame (SerialLink.writeByte b : Action LoggedPort _) := by
  unfold SerialLink.writeByte
  refine Keeps.bind (spare_of_quiet (write_quiet _)) fun n => ?_
  split
  · exact Keeps.throw _
  · exact Keeps.pure _

/-- A note spares the budget. -/
theorem say_spare (level : Level) (origin text : String) :
    Keeps spareFrame (SerialLink.say level origin text : Action LoggedPort _) :=
  keeps_iff.mpr fun l => spareFrame.refl l

end LoggedPort

namespace Session

section Frames

variable {α : Type}

/-- A session whose port spared the budget, with its counter, timer and step unchanged: what
scanning the input, reading the image and running the sender do. -/
def spareFrame : Frame (Session LoggedPort) where
  rel s s' := LoggedPort.spareFrame.rel s.target.port s'.target.port ∧ s'.tries = s.tries ∧
    s'.timer = s.timer ∧ s'.phase = s.phase
  refl s := ⟨LoggedPort.spareFrame.refl s.target.port, rfl, rfl, rfl⟩
  trans h₁ h₂ := ⟨LoggedPort.spareFrame.trans h₁.1 h₂.1, h₂.2.1.trans h₁.2.1, h₂.2.2.1.trans h₁.2.2.1,
    h₂.2.2.2.trans h₁.2.2.2⟩

/-- A session whose port spared the budget and whose counter stayed, and which stays past its
reset once past it: what every step but Init, Reset and the fallback does. -/
def steadyFrame : Frame (Session LoggedPort) where
  rel s s' := LoggedPort.spareFrame.rel s.target.port s'.target.port ∧ s'.tries = s.tries ∧
    (s.phase.afterReset = true → s'.phase.afterReset = true)
  refl s := ⟨LoggedPort.spareFrame.refl s.target.port, rfl, id⟩
  trans h₁ h₂ := ⟨LoggedPort.spareFrame.trans h₁.1 h₂.1, h₂.2.1.trans h₁.2.1, fun h => h₂.2.2 (h₁.2.2 h)⟩

/-- A session whose port spared the budget and that changed nothing else is steady. -/
theorem steady_of_spare {s s' : Session LoggedPort} (h : spareFrame.rel s s') : steadyFrame.rel s s' :=
  ⟨h.1, h.2.1, fun h' => h.2.2.2 ▸ h'⟩

/-- An action that spares the budget keeps the session steady. -/
theorem spare_steady {m : Action (Session LoggedPort) α} (hm : Keeps spareFrame m) :
    Keeps steadyFrame m :=
  keeps_iff.mpr fun s => steady_of_spare (keeps_iff.mp hm s)

/-- A link action that spares the budget spares it in the session. -/
theorem onPort_spare {m : Action LoggedPort α} (hm : Keeps LoggedPort.spareFrame m) :
    Keeps spareFrame (onPort m) :=
  keeps_iff.mpr fun s => ⟨keeps_iff.mp hm s.target.port, rfl, rfl, rfl⟩

/-- An image action spares the budget. -/
theorem onSource_spare (m : Action Source α) : Keeps spareFrame (onSource m) :=
  keeps_iff.mpr fun s => spareFrame.refl s

/-- A session's note spares the budget. -/
theorem say_spare (origin : String) (level : Level) (text : String) :
    Keeps spareFrame (say origin level text : Action (Session LoggedPort) _) :=
  keeps_iff.mpr fun s => spareFrame.refl s

/-- A change that leaves the port, the counter, the timer and the step spares the budget. -/
theorem modify_spare {f : Session LoggedPort → Session LoggedPort}
    (hf : ∀ s, (f s).target.port = s.target.port ∧ (f s).tries = s.tries ∧ (f s).timer = s.timer ∧
      (f s).phase = s.phase) :
    Keeps spareFrame (modify f) :=
  Keeps.modify fun s => by
    obtain ⟨hp, ht, hm, hph⟩ := hf s
    exact ⟨hp ▸ LoggedPort.spareFrame.refl _, ht, hm, hph⟩

/-- The sender runs on the session's link, which it only reads and writes. -/
theorem onTransfer_spare {m : Action (Xmodem.Transfer LoggedPort) α}
    (hm : Keeps Xmodem.Transfer.linkFrame m) : Keeps spareFrame (onTransfer m) := by
  unfold onTransfer
  refine Keeps.bind Keeps.get fun _ => ?_
  split
  · exact keeps_iff.mpr fun _ => ⟨LoggedPort.spare_of_quiet_rel (keeps_iff.mp hm _), rfl, rfl, rfl⟩
  · exact Keeps.throw _

/-- Scanning for a byte spares the budget, for every bound on the bytes read. -/
theorem scanWith_spare (wanted : UInt8) :
    ∀ fuel, Keeps spareFrame (scanWith wanted fuel : Action (Session LoggedPort) _)
  | 0 => Keeps.pure _
  | fuel + 1 => by
    unfold scanWith
    refine Keeps.bind (onPort_spare (LoggedPort.spare_of_quiet Xmodem.Transfer.readByte_quiet))
      fun b => ?_
    split
    · split
      · exact Keeps.pure _
      · exact scanWith_spare wanted fuel
    · exact Keeps.pure _

/-- Scanning for a byte spares the budget. -/
theorem scanFor_spare (wanted : UInt8) : Keeps spareFrame (scanFor wanted : Action (Session LoggedPort) _) :=
  Keeps.bind Keeps.get fun _ => scanWith_spare wanted _

/-- Arming the timer keeps the session steady. -/
theorem armTimer_steady : Keeps steadyFrame (armTimer : Action (Session LoggedPort) _) :=
  keeps_iff.mpr fun s => ⟨LoggedPort.spareFrame.refl s.target.port, rfl, id⟩

/-- Moving to an EBL step only changes the step. -/
@[simp] theorem gotoEbl_run (s : Session LoggedPort) (st : EblState) :
    (gotoEbl st : Action (Session LoggedPort) Unit).run s = (.ok (), { s with phase := .ebl st }) := by
  simp [gotoEbl, Action.run_bind]

/-- Moving to a step past the reset keeps the session steady. -/
theorem gotoEbl_steady {st : EblState} (hst : st.afterReset = true) :
    Keeps steadyFrame (gotoEbl st : Action (Session LoggedPort) _) :=
  keeps_iff.mpr fun s => by
    rw [gotoEbl_run]
    exact ⟨LoggedPort.spareFrame.refl _, rfl, fun _ => hst⟩

end Frames

/-! ## What one step can do -/

section Steps

variable {s s₁ s' : Session LoggedPort} {r : Except Error Step}

/-- Reading the state runs the continuation on it. -/
theorem run_get_bind {α : Type} (f : Session LoggedPort → Action (Session LoggedPort) α) :
    (get >>= f).run s = (f s).run s := rfl

/-- The shared timeout: nothing before 5000 ms; then a try is spent, and the session starts over
from the reset, or gives up on the third. -/
theorem eblFallback_run (s : Session LoggedPort) :
    eblFallback.run s =
      if s.waited loadTimeoutMs = true then
        if maxTries ≤ s.tries + 1 then
          (.error (.timeout "no response from bootloader after 3 attempts"), { s with tries := s.tries + 1 })
        else (.ok .pause, { s with tries := s.tries + 1, timer := s.target.port.now, phase := .ebl .reset })
      else (.ok .pause, s) := by
  unfold eblFallback
  rw [run_get_bind]
  by_cases hw : s.waited loadTimeoutMs = true
  · by_cases hm : maxTries ≤ s.tries + 1
    · simp [hw, hm, run_bind]
    · simp [hw, hm, run_bind]
  · simp [hw]

/-- The timer armed at `now`: 5000 ms have not passed. -/
theorem waited_of_armed (h : s.timer = s.target.port.now) : s.waited loadTimeoutMs = false := by
  rw [waited_eq, h]
  cases hw : (Deadline.arm s.target.port.now loadTimeoutMs).elapsed s.target.port.now
  · rfl
  · have := (Deadline.elapsed_arm_iff (by decide)).mp hw
    simp [loadTimeoutMs] at this

/-- What one step after the reset can do to the retry budget. -/
inductive Move (s : Session LoggedPort) : Except Error Step → Session LoggedPort → Prop
  /-- Neither a try spent nor the module restarted. -/
  | steady {r : Except Error Step} {s' : Session LoggedPort} (h : steadyFrame.rel s s') : Move s r s'
  /-- A waiting step found its 5000 ms gone, after scanning the input: a try is spent, and the
  session starts over from the reset. -/
  | retry {s₁ : Session LoggedPort} (hst : ∃ st, s.phase = .ebl st ∧ st.fallsBack = true)
      (hwait : s.waited loadTimeoutMs = true) (hs₁ : spareFrame.rel s s₁) (hleft : s.tries + 1 < maxTries) :
      Move s (.ok .pause) { s₁ with tries := s.tries + 1, timer := s.target.port.now, phase := .ebl .reset }
  /-- The same on the third time: the session gives up. -/
  | giveUp {s₁ : Session LoggedPort} (hst : ∃ st, s.phase = .ebl st ∧ st.fallsBack = true)
      (hwait : s.waited loadTimeoutMs = true) (hs₁ : spareFrame.rel s s₁) (hspent : maxTries ≤ s.tries + 1) :
      Move s (.error (.timeout "no response from bootloader after 3 attempts")) { s₁ with tries := s.tries + 1 }

/-- The fallback after a scan that spared the budget. -/
theorem fallback_move (hst : ∃ st, s.phase = .ebl st ∧ st.fallsBack = true) (hs₁ : spareFrame.rel s s₁)
    (h : eblFallback.run s₁ = (r, s')) : Move s r s' := by
  obtain ⟨⟨_, _, _, _, hnow⟩, htries, htimer, -⟩ := id hs₁
  have hw : s₁.waited loadTimeoutMs = s.waited loadTimeoutMs := by
    rw [waited_eq, waited_eq, hnow, htimer]
  rw [eblFallback_run, hw, htries] at h
  split at h
  · next hwait =>
    split at h
    · next hspent =>
      cases h
      exact .giveUp hst hwait hs₁ hspent
    · next hleft =>
      cases h
      rw [hnow]
      exact .retry hst hwait hs₁ (Nat.lt_of_not_le hleft)
  · cases h
    exact .steady (steady_of_spare hs₁)

/-- A waiting step that scans for a byte and falls back when it did not come. -/
theorem scan_move {wanted : UInt8} {rest : Action (Session LoggedPort) Step}
    (hst : ∃ st, s.phase = .ebl st ∧ st.fallsBack = true) (hrest : Keeps steadyFrame rest)
    (h : (scanFor wanted >>= fun found => if (!found) = true then eblFallback else rest).run s = (r, s')) :
    Move s r s' := by
  rw [run_bind] at h
  rcases hscan : (scanFor wanted).run s with ⟨_ | found, s₁⟩ <;> rw [hscan] at h
  all_goals have hs₁ : spareFrame.rel s s₁ := Keeps.rel (scanFor_spare wanted) hscan
  · cases h
    exact .steady (steady_of_spare hs₁)
  · cases found
    · exact fallback_move hst hs₁ h
    · exact .steady (steadyFrame.trans (steady_of_spare hs₁) (Keeps.rel hrest h))

/-- Every step after the reset, up to success, neither spends a try nor restarts the module,
unless it is a waiting step whose time is up. What is left after the checks only reads, writes,
rearms the timer and moves on. -/
theorem stepEbl_move {st : EblState} (hst : s.phase = .ebl st) (hlive : st.afterReset = true)
    (h : (stepEbl st).run s = (r, s')) : Move s r s' := by
  cases st
  case init | reset | failure => cases hlive
  case' holdBreak =>
    simp only [stepEbl] at h
    rw [run_get_bind] at h
    split at h
    · exact fallback_move ⟨_, hst, rfl⟩ (spareFrame.refl s) h
    refine .steady (Keeps.rel ?_ h)
  case' prompt =>
    simp only [stepEbl] at h
    refine scan_move ⟨_, hst, rfl⟩ ?_ h
  case' xmodemWait =>
    simp only [stepEbl] at h
    refine scan_move ⟨_, hst, rfl⟩ ?_ h
  case' finalPrompt =>
    simp only [stepEbl] at h
    rw [run_get_bind] at h
    split at h
    case' isTrue => refine .steady (Keeps.rel ?_ h)
    case' isFalse => refine scan_move ⟨_, hst, rfl⟩ ?_ h
  case' xmodemSend | xmodemDone | success =>
    simp only [stepEbl] at h
    refine .steady (Keeps.rel ?_ h)
  all_goals
    repeat' first
      | with_reducible exact Keeps.pure _
      | with_reducible exact Keeps.throw _
      | with_reducible exact Keeps.get
      | with_reducible exact armTimer_steady
      | with_reducible exact gotoEbl_steady rfl
      | with_reducible exact spare_steady (say_spare _ _ _)
      | with_reducible exact spare_steady (onSource_spare _)
      | with_reducible exact spare_steady (modify_spare fun _ => ⟨rfl, rfl, rfl, rfl⟩)
      | with_reducible exact spare_steady (onPort_spare (LoggedPort.setBreak_spare _))
      | with_reducible exact spare_steady (onPort_spare (LoggedPort.setRts_spare _))
      | with_reducible exact spare_steady (onPort_spare (LoggedPort.setFlowControl_spare _))
      | with_reducible exact spare_steady (onPort_spare (LoggedPort.writeByte_spare _))
      | with_reducible exact spare_steady (onTransfer_spare (Xmodem.Transfer.acceptStart_quiet _))
      | with_reducible exact spare_steady (onTransfer_spare (Xmodem.Transfer.tick_quiet _))
      | with_reducible apply Keeps.bind
      | intro _
      | split

/-- Init clears the counter and goes on to Reset. -/
theorem stepEbl_init_run (s : Session LoggedPort) :
    (stepEbl .init).run s = (.ok .goOn, { s with tries := 0, phase := .ebl .reset }) := by
  simp [stepEbl, run_bind]

/-- Reset opens the port at 115200 and, once it is open, pulses the reset line; the counter
stays. -/
theorem reset_restarts (h : (stepEbl .reset).run s = (r, s')) :
    ∃ calls, s'.target.port.log = s.target.port.log ++ .setReset false :: .reopen 115200 :: calls ∧
      opens calls = [] ∧ pulses calls ≤ 1 ∧ s'.tries = s.tries ∧
      (r = .ok .pause ∧ s'.phase = .ebl .holdBreak ∨ (∃ e, r = .error e) ∧ s'.phase = s.phase) := by
  simp only [stepEbl] at h
  rw [run_bind, onPort_run, LoggedPort.setReset_run] at h
  dsimp only at h
  rw [run_bind, onPort_run, LoggedPort.reopen_run] at h
  by_cases hf : (115200 : UInt32) ∈ s.target.port.failBauds
  · simp only [hf, if_true] at h
    cases h
    exact ⟨[], by simp, rfl, by simp [pulses], rfl, .inr ⟨⟨_, rfl⟩, rfl⟩⟩
  · simp only [hf, if_false, run_bind, onPort_run, onTarget_run, LoggedPort.setFlowControl_run,
      LoggedPort.setRts_run, LoggedPort.setBreak_run, say_run, Target.resetModule_run, armTimer_run,
      gotoEbl_run, run_pure] at h
    cases h
    exact ⟨[.flowControl true, .setRts false, .setBreak true, .setReset true, .setReset false],
      by simp, rfl, by simp [pulses], rfl, .inl ⟨rfl, rfl⟩⟩

/-- XmodemDone goes on only to FinalPrompt, with the timer just armed. -/
theorem xmodemDone_goOn (h : (stepEbl .xmodemDone).run s = (.ok .goOn, s')) :
    s'.phase = .ebl .finalPrompt ∧ s'.timer = s'.target.port.now := by
  simp only [stepEbl] at h
  rw [run_get_bind] at h
  split at h
  · cases h
  rw [run_bind] at h
  rcases hw : (onPort (SerialLink.writeByte 13) : Action (Session LoggedPort) Unit).run s with
    ⟨_ | _, s₁⟩ <;> rw [hw] at h
  · cases h
  · simp [run_bind] at h
    obtain ⟨-, rfl⟩ := h
    exact ⟨rfl, rfl⟩

/-- The EBL timeout only yields. -/
theorem eblFallback_pause : Answers (· = Xmodem.Step.pause) (eblFallback : Action (Session LoggedPort) _) := by
  rw [answers_iff]
  intro s a s' h
  rw [eblFallback_run] at h
  split at h
  · split at h
    · cases h
    · cases h
      rfl
  · cases h
    rfl

/-- Every step but Init and XmodemDone yields or fails: only those two go on within a tick. -/
theorem stepEbl_pause {st : EblState} (hi : st ≠ .init) (hd : st ≠ .xmodemDone) :
    Answers (· = Xmodem.Step.pause) (stepEbl st : Action (Session LoggedPort) _) := by
  cases st
  case init => exact absurd rfl hi
  case xmodemDone => exact absurd rfl hd
  all_goals
    simp only [stepEbl]
    repeat' first
      | with_reducible exact Answers.pure rfl
      | with_reducible exact Answers.throw _
      | with_reducible exact eblFallback_pause
      | with_reducible apply Answers.bind
      | split
      | intro _

/-- An action that only yields does not go on. -/
theorem ne_goOn_of_pause {m : Action (Session LoggedPort) Step} (hm : Answers (· = Xmodem.Step.pause) m)
    (h : m.run s = (r, s')) : r ≠ .ok .goOn := by
  rintro rfl
  cases answers_iff.mp hm s _ s' h

/-- The sender of a session runs on the session's buffer, image and link. -/
theorem onTransfer_run {α : Type} {snd : Xmodem.Sender} (hsub : s.sub = .xmodem snd)
    (m : Action (Xmodem.Transfer LoggedPort) α) :
    (onTransfer m).run s =
      ((m.run ⟨snd, s.scratch, s.source, s.target.port⟩).1,
        { s with sub := .xmodem (m.run ⟨snd, s.scratch, s.source, s.target.port⟩).2.sender,
                 scratch := (m.run ⟨snd, s.scratch, s.source, s.target.port⟩).2.buffer,
                 source := (m.run ⟨snd, s.scratch, s.source, s.target.port⟩).2.source,
                 target := { s.target with port := (m.run ⟨snd, s.scratch, s.source, s.target.port⟩).2.port } }) := by
  unfold onTransfer
  rw [run_get_bind]
  simp only [hsub]
  rfl

/-- An error of the sender is the error of XmodemSend. -/
theorem xmodemSend_error {snd : Xmodem.Sender} {e : Error} (hsub : s.sub = .xmodem snd)
    (h : ((Xmodem.Transfer.tick s.target.port.now).run ⟨snd, s.scratch, s.source, s.target.port⟩).1 = .error e) :
    ∃ s₁, (stepEbl .xmodemSend).run s = (.error e, s₁) := by
  simp only [stepEbl]
  rw [run_get_bind, run_bind, onTransfer_run hsub, now_eq, h]
  exact ⟨_, rfl⟩

end Steps

/-! ## The budget along a run -/

/-- The resets a session has entered: each open of its port, and one more when it is about to
run Reset. -/
def resets (s : Session LoggedPort) : Nat :=
  (opens s.target.port.log).length + if s.phase = .ebl .reset then 1 else 0

/-- What a run of an EBL session has spent: every open is at 115200 with at most one reset pulse;
none before Init, and past it one reset entered for each try, three at most. -/
structure Budget (s : Session LoggedPort) : Prop where
  ebl : ∃ st, s.phase = .ebl st
  bauds : ∀ b ∈ opens s.target.port.log, b = 115200
  pulses_le : pulses s.target.port.log ≤ (opens s.target.port.log).length
  fresh : s.phase = .ebl .init → opens s.target.port.log = []
  spent : s.phase ≠ .ebl .init → s.phase ≠ .ebl .failure → s.resets = s.tries + 1 ∧ s.tries < maxTries
  bounded : s.resets ≤ maxTries

section Budget

variable {s s₁ s' : Session LoggedPort}

/-- A step past the reset is an EBL step other than Init, Reset and Failure. -/
theorem afterReset_cases {ph : Phase} (h : ph.afterReset = true) :
    ∃ st, ph = .ebl st ∧ st ≠ .init ∧ st ≠ .reset ∧ st ≠ .failure := by
  rcases ph with st | st
  · cases st <;> first | exact ⟨_, rfl, by decide, by decide, by decide⟩ | cases h
  · cases h

/-- Settling a tick's end keeps the counter. -/
theorem settle_tries {α : Type} (r : Except Error α) (s : Session LoggedPort) :
    (settle r s).tries = s.tries := by
  cases r <;> rfl

/-- A failed EBL step settles the session at Failure. -/
theorem settle_error_ebl {α : Type} {st : EblState} (e : Error) (h : s.phase = .ebl st) :
    (settle (.error e : Except Error α) s).phase = .ebl .failure := by
  simp [settle, h]

/-- A failed session has spent what its opens say. -/
theorem Budget.failed (hph : s.phase = .ebl .failure) (hbauds : ∀ b ∈ opens s.target.port.log, b = 115200)
    (hpulses : pulses s.target.port.log ≤ (opens s.target.port.log).length)
    (hopens : (opens s.target.port.log).length ≤ maxTries) : Budget s where
  ebl := ⟨_, hph⟩
  bauds := hbauds
  pulses_le := hpulses
  fresh h := by rw [hph] at h; cases h
  spent _ h := absurd hph h
  bounded := by simpa [resets, hph] using hopens

/-- The budget holds of a session with the same log, step and counter. -/
theorem Budget.congr (hb : Budget s) (hlog : s'.target.port.log = s.target.port.log)
    (hph : s'.phase = s.phase) (ht : s'.tries = s.tries) : Budget s' := by
  have hr : s'.resets = s.resets := by simp only [resets, hlog, hph]
  exact ⟨hph ▸ hb.ebl, hlog ▸ hb.bauds, hlog ▸ hb.pulses_le, fun h => hlog ▸ hb.fresh (hph ▸ h),
    fun h₁ h₂ => hr ▸ ht ▸ hb.spent (hph ▸ h₁) (hph ▸ h₂), hr ▸ hb.bounded⟩

/-- Past the reset and before a failure, the opens are the tries so far and the one in use. -/
theorem Budget.opens_live (hb : Budget s) (hlive : s.phase.afterReset = true) :
    (opens s.target.port.log).length = s.tries + 1 ∧ s.tries < maxTries := by
  obtain ⟨st, hst, hi, hr, hf⟩ := afterReset_cases hlive
  have h := hb.spent (by rw [hst]; simpa using hi) (by rw [hst]; simpa using hf)
  have hnr : s.phase ≠ .ebl .reset := by rw [hst]; simpa using hr
  simpa [resets, hnr] using h

/-- A change of surroundings keeps the budget. -/
theorem Budget.meet (hb : Budget s) (w : Surroundings) : Budget (meetPort w s) :=
  hb.congr rfl rfl rfl

/-- Init: nothing opened yet, and the counter at zero. -/
theorem Budget.start (hb : Budget s) (hst : s.phase = .ebl .init) :
    Budget { s with tries := 0, phase := .ebl .reset } where
  ebl := ⟨_, rfl⟩
  bauds := hb.bauds
  pulses_le := hb.pulses_le
  fresh h := by cases h
  spent _ _ := by simp [resets, hb.fresh hst, maxTries]
  bounded := by simp [resets, hb.fresh hst, maxTries]

/-- Reset: one more open, at 115200, with at most one pulse. -/
theorem Budget.restart {r : Except Error Step} (hb : Budget s) (hst : s.phase = .ebl .reset)
    (h : (stepEbl .reset).run s = (r, s')) : Budget (settle r s') := by
  obtain ⟨calls, hlog, hopens, hpulses, htries, hend⟩ := reset_restarts h
  have ⟨hspent, hleft⟩ := hb.spent (by rw [hst]; decide) (by rw [hst]; decide)
  have hcount : (opens s.target.port.log).length = s.tries := by
    simpa [resets, hst] using hspent
  have hopens' : opens s'.target.port.log = opens s.target.port.log ++ [115200] := by
    rw [hlog, opens_append,
      show opens (.setReset false :: .reopen 115200 :: calls) = 115200 :: opens calls from rfl, hopens]
  have hpulses' : pulses s'.target.port.log ≤ pulses s.target.port.log + 1 := by
    simp [hlog, pulses] at hpulses ⊢
    omega
  have hbauds : ∀ b ∈ opens s'.target.port.log, b = 115200 := by
    rw [hopens']
    intro b hb'
    rcases List.mem_append.mp hb' with hb' | hb'
    · exact hb.bauds b hb'
    · exact List.mem_singleton.mp hb'
  have hpl : pulses s'.target.port.log ≤ (opens s'.target.port.log).length := by
    have := hb.pulses_le
    rw [hopens', List.length_append]
    simp only [List.length_singleton]
    omega
  rcases hend with ⟨rfl, hph⟩ | ⟨⟨e, rfl⟩, hph⟩
  · rw [settle_ok]
    refine ⟨⟨_, hph⟩, hbauds, hpl, fun h' => (by rw [hph] at h'; cases h'), fun _ _ => ?_, ?_⟩
    · simp [resets, hph, hopens', hcount, htries, hleft]
    · simp only [resets, hph, hopens', List.length_append, List.length_singleton, hcount]
      simp
      omega
  · refine Budget.failed (settle_error_ebl e (hph.trans hst)) hbauds hpl ?_
    rw [settle_target, hopens', List.length_append, List.length_singleton, hcount]
    exact hleft

/-- A step past the reset that neither spends a try nor restarts the module. -/
theorem Budget.steady {r : Except Error Step} (hb : Budget s) (hlive : s.phase.afterReset = true)
    (hs : steadyFrame.rel s s') : Budget (settle r s') := by
  obtain ⟨⟨calls, hlog, hopens, hpulses, -⟩, htries, hafter⟩ := hs
  have hopens' : opens s'.target.port.log = opens s.target.port.log := by simp [hlog, hopens]
  have hpulses' : pulses s'.target.port.log = pulses s.target.port.log := by simp [hlog, hpulses]
  obtain ⟨hcount, hleft⟩ := hb.opens_live hlive
  obtain ⟨st', hst', hi', hr', hf'⟩ := afterReset_cases (hafter hlive)
  have hbauds : ∀ b ∈ opens s'.target.port.log, b = 115200 := hopens' ▸ hb.bauds
  have hpl : pulses s'.target.port.log ≤ (opens s'.target.port.log).length :=
    hopens' ▸ hpulses' ▸ hb.pulses_le
  cases r with
  | error e =>
    refine Budget.failed (settle_error_ebl e hst') hbauds hpl ?_
    rw [settle_target, hopens', hcount]
    exact hleft
  | ok a =>
    have hnr : s'.phase ≠ .ebl .reset := by rw [hst']; simpa using hr'
    have hni : s'.phase ≠ .ebl .init := by rw [hst']; simpa using hi'
    rw [settle_ok]
    refine ⟨⟨_, hst'⟩, hbauds, hpl, fun h => absurd h hni, fun _ _ => ?_, ?_⟩
    · simp [resets, hnr, hopens', hcount, htries, hleft]
    · simp only [resets, hnr, hopens', hcount, if_false]
      omega

/-- A timeout with a try left: the next Reset to come is one more reset entered. -/
theorem Budget.retry (hb : Budget s) (hst : ∃ st, s.phase = .ebl st ∧ st.fallsBack = true)
    (hs₁ : spareFrame.rel s s₁) (hleft : s.tries + 1 < maxTries) :
    Budget { s₁ with tries := s.tries + 1, timer := s.target.port.now, phase := .ebl .reset } := by
  obtain ⟨⟨calls, hlog, hopens, hpulses, -⟩, -, -, -⟩ := hs₁
  obtain ⟨st, hst, hfb⟩ := hst
  have hlive : s.phase.afterReset = true := by
    rw [hst]; cases st <;> first | rfl | cases hfb
  obtain ⟨hcount, -⟩ := hb.opens_live hlive
  have hopens' : opens s₁.target.port.log = opens s.target.port.log := by simp [hlog, hopens]
  have hpulses' : pulses s₁.target.port.log = pulses s.target.port.log := by simp [hlog, hpulses]
  refine ⟨⟨_, rfl⟩, hopens' ▸ hb.bauds, hopens' ▸ hpulses' ▸ hb.pulses_le, fun h => (by cases h),
    fun _ _ => ?_, ?_⟩
  · simp [resets, hopens', hcount, hleft]
  · simp only [resets, hopens', hcount, if_true]
    omega

/-- The third timeout: the session fails with its opens spent. -/
theorem Budget.giveUp (hb : Budget s) (hst : ∃ st, s.phase = .ebl st ∧ st.fallsBack = true)
    (hs₁ : spareFrame.rel s s₁) (e : Error) :
    Budget (settle (.error e : Except Error Step) { s₁ with tries := s.tries + 1 }) := by
  obtain ⟨⟨calls, hlog, hopens, hpulses, -⟩, -, -, hph⟩ := hs₁
  obtain ⟨st, hst, hfb⟩ := hst
  have hlive : s.phase.afterReset = true := by
    rw [hst]; cases st <;> first | rfl | cases hfb
  obtain ⟨hcount, hleft⟩ := hb.opens_live hlive
  have hopens' : opens s₁.target.port.log = opens s.target.port.log := by simp [hlog, hopens]
  have hpulses' : pulses s₁.target.port.log = pulses s.target.port.log := by simp [hlog, hpulses]
  refine Budget.failed (settle_error_ebl e (hph.trans hst)) ?_ ?_ ?_
  · rw [settle_target]
    exact hopens' ▸ hb.bauds
  · rw [settle_target]
    exact hopens' ▸ hpulses' ▸ hb.pulses_le
  · rw [settle_target, hopens', hcount]
    exact hleft

/-- Every step keeps the budget, whether it succeeds or fails. -/
theorem budget_steps : AllStepsKeep Budget := by
  intro s r s' hb h
  obtain ⟨st, hst⟩ := hb.ebl
  rw [hst] at h
  change (stepEbl st).run s = (r, s') at h
  cases hlive : st.afterReset
  · cases st <;> simp only [EblState.afterReset, Bool.true_eq_false] at hlive
    · rw [stepEbl_init_run] at h
      cases h
      exact hb.start hst
    · exact hb.restart hst h
    · cases h
      exact hb.congr rfl (settle_error_ebl _ hst |>.trans hst.symm) rfl
  · cases stepEbl_move hst hlive h with
    | steady hs => exact hb.steady (by rw [hst]; exact hlive) hs
    | retry hst' _ hs₁ hleft => exact hb.retry hst' hs₁ hleft
    | giveUp hst' _ hs₁ _ => exact hb.giveUp hst' hs₁ _

/-- A fresh EBL session, on a link nothing was done on, keeps to its budget wherever it goes. -/
theorem reachable_budget {s₀ : Session LoggedPort} (hinit : s₀.phase = .ebl .init)
    (hlog : s₀.target.port.log = []) (h : Reachable s₀ s) : Budget s := by
  have h₀ : Budget s₀ := by
    refine ⟨⟨_, hinit⟩, by simp [hlog, opens], by simp [hlog, pulses, opens], fun _ => by simp [hlog, opens],
      fun h' => absurd hinit h', ?_⟩
    simp [resets, hinit, hlog, opens, maxTries]
  exact reachable_induct_all budget_steps (fun w _ hb => hb.meet w) h₀ h

end Budget

/-! ## What one tick can do -/

/-- What a tick can do to the retry counter and the step: Init sets the counter to zero and runs
Reset; any other tick leaves both but for a waiting step whose 5000 ms are gone, which spends a
try and starts over from the reset, or gives up on the third. -/
inductive TickMove (s : Session LoggedPort) : Except Error Xmodem.Status → Session LoggedPort → Prop
  | start {r : Except Error Xmodem.Status} {s' : Session LoggedPort} (hinit : s.phase = .ebl .init)
      (htries : s'.tries = 0) (hph : s'.phase ≠ .ebl .reset) : TickMove s r s'
  | steady {r : Except Error Xmodem.Status} {s' : Session LoggedPort} (hinit : s.phase ≠ .ebl .init)
      (htries : s'.tries = s.tries) (hph : s'.phase ≠ .ebl .reset) : TickMove s r s'
  | retry {s' : Session LoggedPort} (hst : ∃ st, s.phase = .ebl st ∧ st.fallsBack = true)
      (hwait : s.waited loadTimeoutMs = true) (htries : s'.tries = s.tries + 1)
      (hleft : s'.tries < maxTries) (hph : s'.phase = .ebl .reset) : TickMove s (.ok .pending) s'
  | giveUp {s' : Session LoggedPort} (hst : ∃ st, s.phase = .ebl st ∧ st.fallsBack = true)
      (hwait : s.waited loadTimeoutMs = true) (htries : s'.tries = s.tries + 1)
      (hspent : maxTries ≤ s'.tries) (hph : s'.phase = .ebl .failure) :
      TickMove s (.error (.timeout "no response from bootloader after 3 attempts")) s'

section Ticks

variable {s s₁ s₂ : Session LoggedPort} {r : Except Error Step}

/-- A tick that ends with a step past the reset. -/
theorem tickMove_of_move (hlive : s.phase.afterReset = true) (hm : Move s r s₁) :
    TickMove s (tickEnd r s₁).1 (tickEnd r s₁).2 := by
  obtain ⟨st, hst, hi, -, -⟩ := afterReset_cases hlive
  have hni : s.phase ≠ .ebl .init := by rw [hst]; simpa using hi
  cases hm with
  | steady hs =>
    obtain ⟨st₁, hst₁, -, hr₁, -⟩ := afterReset_cases (hs.2.2 hlive)
    cases r with
    | ok a =>
      simp only [tickEnd_ok]
      exact .steady hni hs.2.1 (by rw [hst₁]; simpa using hr₁)
    | error e =>
      simp only [tickEnd_error]
      exact .steady hni ((settle_tries _ _).trans hs.2.1) (by rw [settle_error_ebl e hst₁]; decide)
  | retry hst' hwait _ hleft =>
    simp only [tickEnd_ok]
    exact .retry hst' hwait rfl hleft rfl
  | giveUp hst' hwait hs₁ hspent =>
    simp only [tickEnd_error]
    exact .giveUp hst' hwait rfl hspent (settle_error_ebl _ (hs₁.2.2.2.trans hst))

/-- The step of an EBL phase is its EBL step. -/
theorem stepAt_ebl (st : EblState) :
    (stepAt (.ebl st) : Action (Session LoggedPort) Step) = stepEbl st := rfl

/-- Every tick of an EBL session is one of the moves of `TickMove`. A failed session stays as it is.
The timer was armed in this tick: FinalPrompt cannot time out yet. -/
theorem tick_move (hs : ∃ st, s.phase = .ebl st) : TickMove s (tick.run s).1 (advance s) := by
  obtain ⟨st, hst⟩ := hs
  unfold advance
  cases hf : s.isFailed
  case true =>
    have hfail : s.phase = .ebl .failure := by
      cases st <;> simp [isFailed, hst] at hf ⊢
    rw [tick_run, if_pos hf]
    exact .steady (by rw [hfail]; decide) rfl (by rw [hfail]; decide)
  cases hlive : st.afterReset
  case false =>
    cases st <;> simp only [EblState.afterReset, Bool.true_eq_false] at hlive
    · -- Init goes on to Reset in the same tick
      rcases h₂ : (stepAt (.ebl .reset)).run { s with tries := 0, phase := .ebl .reset } with ⟨r₂, s₂⟩
      have hr₂ := ne_goOn_of_pause (stepEbl_pause (by decide : EblState.reset ≠ .init) (by decide)) h₂
      rw [tick_of_second hf (by rw [hst, stepAt_ebl, stepEbl_init_run]) h₂ hr₂]
      obtain ⟨-, -, -, -, htries, hend⟩ := reset_restarts h₂
      rcases hend with ⟨rfl, hph⟩ | ⟨⟨e, rfl⟩, hph⟩
      · exact .start hst htries (by simp [hph])
      · exact .start hst htries (by simp [settle_error_ebl e hph])
    · -- Reset yields or fails
      rcases h₁ : (stepAt s.phase).run s with ⟨r₁, s₁⟩
      rw [hst, stepAt_ebl] at h₁
      have hr₁ := ne_goOn_of_pause (stepEbl_pause (by decide : EblState.reset ≠ .init) (by decide)) h₁
      rw [tick_of_step hf (by rw [hst]; exact h₁) hr₁]
      obtain ⟨-, -, -, -, htries, hend⟩ := reset_restarts h₁
      rcases hend with ⟨rfl, hph⟩ | ⟨⟨e, rfl⟩, hph⟩
      · exact .steady (by rw [hst]; decide) htries (by simp [hph])
      · exact .steady (by rw [hst]; decide) ((settle_tries _ _).trans htries)
          (by simp [settle_error_ebl e (hph.trans hst)])
    · simp [isFailed, hst] at hf
  case true =>
    have hlive' : s.phase.afterReset = true := by rw [hst]; exact hlive
    rcases h₁ : (stepEbl st).run s with ⟨r₁, s₁⟩
    have hm := stepEbl_move hst hlive h₁
    have hstep : (stepAt s.phase).run s = (r₁, s₁) := by rw [hst]; exact h₁
    by_cases hgo : r₁ = .ok .goOn
    · -- only XmodemDone goes on, to FinalPrompt with the timer just armed
      subst hgo
      have hd : st = .xmodemDone := by
        cases st <;> simp only [EblState.afterReset, Bool.false_eq_true] at hlive
        all_goals first
          | rfl
          | exact (ne_goOn_of_pause (stepEbl_pause (by decide) (by decide)) h₁ rfl).elim
      subst hd
      obtain ⟨hph₁, htimer₁⟩ := xmodemDone_goOn h₁
      rcases h₂ : (stepAt s₁.phase).run s₁ with ⟨r₂, s₂⟩
      rw [hph₁, stepAt_ebl] at h₂
      have hr₂ := ne_goOn_of_pause (stepEbl_pause (by decide : EblState.finalPrompt ≠ .init) (by decide)) h₂
      rw [tick_of_second hf hstep (by rw [hph₁]; exact h₂) hr₂]
      have hwait := waited_of_armed htimer₁
      have hs₁ : steadyFrame.rel s s₁ := by
        cases hm with
        | steady hs => exact hs
      cases stepEbl_move hph₁ rfl h₂ with
      | steady hs₂ => exact tickMove_of_move hlive' (.steady (steadyFrame.trans hs₁ hs₂))
      | retry _ hw => rw [hwait] at hw; cases hw
      | giveUp _ hw => rw [hwait] at hw; cases hw
    · rw [tick_of_step hf hstep hgo]
      exact tickMove_of_move hlive' hm

/-- The tick that failed leaves a failed session: the failure step of its procedure. -/
theorem advance_failure_of_error {e : Error} (hb : Budget (advance s)) (he : (tick.run s).1 = .error e) :
    (advance s).phase = .ebl .failure := by
  obtain ⟨st, hst⟩ := hb.ebl
  unfold advance at hst ⊢
  rw [tick_run] at he hst ⊢
  by_cases hf : s.isFailed = true
  · simp only [hf, if_true] at hst ⊢
    rw [hst]
    cases st <;> simp_all [isFailed]
  · simp only [hf, Bool.false_eq_true, if_false] at he hst ⊢
    revert he hst
    rcases (runSteps 6).run s with ⟨_ | a, s₂⟩
    · intro _ hst
      rcases hph : s₂.phase with st₂ | st₂ <;> simp [settle, hph] at hst ⊢
    · intro he
      cases he

/-- Waiting 5000 ms: at least that long since the timer was armed, on the wrapping clock. -/
theorem waited_elapsed (h : s.waited loadTimeoutMs = true) :
    loadTimeoutMs.toNat ≤ (s.target.port.now - s.timer).toNat :=
  ((Deadline.elapsed_arm_iff (by decide)).mp h).1

end Ticks

/-! ## The budget of every tick -/

/-- What the next tick of a session does with its retry budget. -/
structure TickBudget (s : Session LoggedPort) : Prop where
  /-- A failed session fails again at once, and stays as it is. -/
  failed : s.phase = .ebl .failure → tick.run s = (.error .sessionFailed, s)
  /-- A tick that fails leaves the session failed. -/
  error : ∀ e, (tick.run s).1 = .error e → (advance s).phase = .ebl .failure
  /-- Init sets the counter to zero, -/
  start : s.phase = .ebl .init → (advance s).tries = 0
  /-- and no later tick lowers it. -/
  mono : s.phase ≠ .ebl .init → s.tries ≤ (advance s).tries
  /-- It goes up only when a waiting step has waited 5000 ms since its timer was armed, on the
  wrapping clock, and then by one: the session starts over from the reset, or on the third time
  fails with a timeout. -/
  expire : s.tries < (advance s).tries →
    (∃ st, s.phase = .ebl st ∧ st.fallsBack = true) ∧
      loadTimeoutMs.toNat ≤ (s.target.port.now - s.timer).toNat ∧ (advance s).tries = s.tries + 1 ∧
      ((advance s).tries < maxTries ∧ (advance s).phase = .ebl .reset ∧ (tick.run s).1 = .ok .pending ∨
        (advance s).tries = maxTries ∧ (advance s).phase = .ebl .failure ∧
          (tick.run s).1 = .error (.timeout "no response from bootloader after 3 attempts"))
  /-- A tick enters Reset only on such a timeout. -/
  entry : (advance s).phase = .ebl .reset → s.tries < (advance s).tries
  /-- An error of the XMODEM sender ends the session in the same tick. -/
  sender : ∀ snd e, s.phase = .ebl .xmodemSend → s.sub = .xmodem snd →
    ((Xmodem.Transfer.tick s.target.port.now).run ⟨snd, s.scratch, s.source, s.target.port⟩).1 = .error e →
      (tick.run s).1 = .error e ∧ (advance s).phase = .ebl .failure

/-- A session within its budget spends within it through its next tick. A waiting step is past the
reset: the counter is below three there. -/
theorem Budget.tickBudget {s : Session LoggedPort} (hb : Budget s) : TickBudget s := by
  have hb' : Budget (advance s) := advance_keeps_all budget_steps hb
  have herr : ∀ e, (tick.run s).1 = .error e → (advance s).phase = .ebl .failure :=
    fun _ he => advance_failure_of_error hb' he
  have hm := tick_move hb.ebl
  generalize hr : (tick.run s).1 = r at hm
  generalize hs' : advance s = s' at hm
  have hleft : ∀ st, s.phase = .ebl st → st.fallsBack = true → s.tries < maxTries := by
    intro st hst hfb
    refine (hb.opens_live ?_).2
    rw [hst]
    cases st <;> first | rfl | cases hfb
  refine ⟨fun hph => ?_, herr, fun hinit => ?_, fun hinit => ?_, fun hlt => ?_, fun hph => ?_,
    fun snd e hph hsub htick => ?_⟩
  · rw [tick_run, if_pos (by simp [isFailed, hph])]
  · rw [hs']
    cases hm with
    | start _ htries => exact htries
    | steady hi => exact absurd hinit hi
    | retry hst => obtain ⟨_, h, hfb⟩ := hst; rw [hinit] at h; cases h; cases hfb
    | giveUp hst => obtain ⟨_, h, hfb⟩ := hst; rw [hinit] at h; cases h; cases hfb
  · rw [hs']
    cases hm with
    | start h => exact absurd h hinit
    | steady _ htries => exact Nat.le_of_eq htries.symm
    | retry _ _ htries => rw [htries]; exact Nat.le_succ _
    | giveUp _ _ htries => rw [htries]; exact Nat.le_succ _
  · rw [hs'] at hlt ⊢
    rw [hr]
    cases hm with
    | start _ htries => rw [htries] at hlt; exact absurd hlt (Nat.not_lt_zero _)
    | steady _ htries => rw [htries] at hlt; exact absurd hlt (Nat.lt_irrefl _)
    | retry hst hwait htries hleft' hph => exact ⟨hst, waited_elapsed hwait, htries, .inl ⟨hleft', hph, rfl⟩⟩
    | giveUp hst hwait htries hspent hph =>
      obtain ⟨st, hst', hfb⟩ := hst
      have := hleft st hst' hfb
      exact ⟨⟨st, hst', hfb⟩, waited_elapsed hwait, htries, .inr ⟨by omega, hph, rfl⟩⟩
  · rw [hs'] at hph ⊢
    cases hm with
    | start _ _ hne => exact absurd hph hne
    | steady _ _ hne => exact absurd hph hne
    | retry _ _ htries => rw [htries]; exact Nat.lt_succ_self _
    | giveUp _ _ _ _ hfail => rw [hfail] at hph; cases hph
  · obtain ⟨s₁, h₁⟩ := xmodemSend_error hsub htick
    have hf : s.isFailed = false := by simp [isFailed, hph]
    have hstep : (stepAt s.phase).run s = (.error e, s₁) := by rw [hph]; exact h₁
    have htick' := tick_of_step hf hstep (by simp)
    have he : (tick.run s).1 = .error e := by rw [htick']; rfl
    exact ⟨he, hs' ▸ herr e he⟩

/-- What the retry budget promises at every state an EBL or HCS08 session reaches. -/
structure RetryBudget (s : Session LoggedPort) : Prop where
  /-- Reset entered at most three times, counting one about to run. -/
  resets_le : s.resets ≤ maxTries
  /-- Every open of the port is at 115200 baud. -/
  bauds : ∀ b ∈ opens s.target.port.log, b = 115200
  /-- The reset line raised at most three times. -/
  pulses_le : pulses s.target.port.log ≤ maxTries
  /-- The next tick keeps to the budget. -/
  tick : TickBudget s

/-- However the bootloader answers and the clock moves, an EBL or HCS08 session started on a
link nothing was done on enters Reset at most three times, opening the port at 115200 and
pulsing the reset line at most three times; its counter is set by Init alone and only raised
by a 5000 ms timeout, the third of which fails it; an error of the XMODEM sender fails it at
once; and a failed session only fails again. -/
theorem reachable_retry_budget {s₀ s : Session LoggedPort} (hinit : s₀.phase = .ebl .init)
    (hlog : s₀.target.port.log = []) (h : Reachable s₀ s) : RetryBudget s := by
  have hb := reachable_budget hinit hlog h
  have hopens : (opens s.target.port.log).length ≤ s.resets := Nat.le_add_right _ _
  exact ⟨hb.bounded, hb.bauds, Nat.le_trans (Nat.le_trans hb.pulses_le hopens) hb.bounded, hb.tickBudget⟩

/-- A fresh HCS08 session on a link nothing was done on. -/
def freshHcs08 : Session LoggedPort :=
  make (Target.make ({ rx := default } : LoggedPort)) (Source.ofBytes #[0x5A]) .hcs08 false

/-- A fresh HCS08 session's first tick keeps the retry budget. -/
theorem freshHcs08_retry_budget :
    freshHcs08.phase = .ebl .init ∧ freshHcs08.target.port.log = [] ∧
      Reachable freshHcs08 (advance freshHcs08) ∧ RetryBudget (advance freshHcs08) :=
  ⟨rfl, rfl, .tick .start, reachable_retry_budget rfl rfl (.tick .start)⟩

end Session

end RadioFlash
