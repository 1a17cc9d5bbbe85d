import RadioFlash.Proofs.CommandChecks
/-!
# What an OEM session does to the lines of its port

Besides reading and writing, an OEM session reopens its port at another baud rate, drives the
serial break and RTS, and pulses the module's reset line. These are its control calls
(`PortCall.isControl`). Every step of the procedure but five makes none; the five are Reset
(reopen for command mode), CmdFr (RTS low and the break), HoldBreak (the break released),
Bootloader (reopen at 38400) and TxBlock at the zero length (the reset pulse and the final
reopen at 9600).

So the control calls of a run follow one plan (`controlPlan`): 115200 baud, 9600 after a first
attempt that never reached command mode, the break for a module reset into its bootloader with
`ATFR`, 38400 for the bootloader, and the reset pulse with the reopen at 9600 after the last
block.
-/

namespace RadioFlash

namespace PortCall

/-- A call that changes the link itself: a reopen, the break, RTS or the reset line. -/
def isControl : PortCall → Bool
  | .reopen _ | .setBreak _ | .setRts _ | .setReset _ => true
  | _ => false

/-- The baud rate a call opens at. -/
def openedBaud : PortCall → Option UInt32
  | .reopen b => some b
  | _ => none

end PortCall

/-- The control calls of a log, in order. -/
def controls (log : List PortCall) : List PortCall := log.filter PortCall.isControl

/-- The baud rates a log opens at, in order. -/
def opens (log : List PortCall) : List UInt32 := log.filterMap PortCall.openedBaud

/-- The calls before the first `c`, if `c` was called. -/
def callsBefore (c : PortCall) : List PortCall → Option (List PortCall)
  | [] => none
  | d :: rest => if d = c then some [] else (callsBefore c rest).map (d :: ·)

section Logs

variable {l m : List PortCall} {c : PortCall}

/-- An empty log makes no control call. -/
@[simp] theorem controls_nil : controls [] = [] := rfl

/-- The control calls of two logs, one after the other. -/
@[simp] theorem controls_append : controls (l ++ m) = controls l ++ controls m :=
  List.filter_append _ _

/-- A log's control calls are its first call's, then the rest's. -/
@[simp] theorem controls_cons (d : PortCall) :
    controls (d :: l) = if d.isControl then d :: controls l else controls l := by
  unfold controls
  cases h : d.isControl <;> simp [h]

/-- Every open is a control call, so the opens are read off the controls. -/
theorem opens_controls : opens (controls l) = opens l := by
  unfold opens controls
  rw [List.filterMap_filter]
  congr 1
  funext d
  cases d <;> rfl

/-- The rates two logs open at, one after the other. -/
@[simp] theorem opens_append : opens (l ++ m) = opens l ++ opens m :=
  List.filterMap_append

/-- A log with no control calls opens nothing. -/
theorem opens_eq_nil (h : controls l = []) : opens l = [] := by
  rw [← opens_controls, h]
  rfl

/-- Once `c` was called, more calls leave what came before it. -/
theorem callsBefore_append_of_some {pre : List PortCall} (h : callsBefore c l = some pre) :
    callsBefore c (l ++ m) = some pre := by
  induction l generalizing pre with
  | nil => cases h
  | cons d rest ih =>
    by_cases hd : d = c
    · simp only [List.cons_append, callsBefore, hd, if_true] at h ⊢
      exact h
    · simp only [callsBefore, hd, if_false, Option.map_eq_some_iff] at h
      obtain ⟨pre', hpre', rfl⟩ := h
      simp [callsBefore, hd, ih hpre']

/-- Before `c` was called, the calls before it are sought in the calls after. -/
theorem callsBefore_append_of_none (h : callsBefore c l = none) :
    callsBefore c (l ++ m) = (callsBefore c m).map (l ++ ·) := by
  induction l with
  | nil => simp
  | cons d rest ih =>
    by_cases hd : d = c
    · simp [callsBefore, hd] at h
    · simp only [callsBefore, hd, if_false, Option.map_eq_none_iff] at h
      simp [callsBefore, hd, ih h, Option.map_map, Function.comp_def]

/-- A log without `c` has nothing before it. -/
theorem callsBefore_eq_none (h : c ∉ l) : callsBefore c l = none := by
  induction l with
  | nil => rfl
  | cons d rest ih =>
    have hd : d ≠ c := fun hdc => h (hdc ▸ List.mem_cons_self ..)
    simp [callsBefore, hd, ih fun hc => h (List.mem_cons_of_mem _ hc)]

/-- A control call not among the controls of a log is not in it. -/
theorem not_mem_of_controls (hc : c.isControl = true) (h : c ∉ controls l) : c ∉ l :=
  fun hl => h (List.mem_filter.mpr ⟨hl, hc⟩)

/-- The calls before a call's only occurrence. -/
theorem callsBefore_of_eq {pre post : List PortCall} (h : l = pre ++ c :: post) (hc : c ∉ pre) :
    callsBefore c l = some pre := by
  subst h
  rw [callsBefore_append_of_none (callsBefore_eq_none hc)]
  simp [callsBefore]

/-- Adding calls without `c` keeps the calls before `c`. -/
theorem callsBefore_append_of_not_mem (hc : c ∉ m) : callsBefore c (l ++ m) = callsBefore c l := by
  rcases h : callsBefore c l with _ | pre
  · rw [callsBefore_append_of_none h, callsBefore_eq_none hc]
    rfl
  · exact callsBefore_append_of_some h

end Logs

/-! ## Steps that make no control call -/

open RadioFlash.Action

namespace LoggedPort

/-- A port whose log grew by calls none of which is a control call, and whose failing baud rates
and clock stayed. -/
def quietFrame : Frame LoggedPort where
  rel l l' := ∃ calls, l'.log = l.log ++ calls ∧ controls calls = [] ∧ l'.failBauds = l.failBauds ∧
    l'.now = l.now
  refl l := ⟨[], (List.append_nil _).symm, rfl, rfl, rfl⟩
  trans := by
    rintro a b c ⟨c₁, h₁, q₁, f₁, n₁⟩ ⟨c₂, h₂, q₂, f₂, n₂⟩
    exact ⟨c₁ ++ c₂, by rw [h₂, h₁, List.append_assoc], by simp [q₁, q₂], f₂.trans f₁, n₂.trans n₁⟩

/-- A read makes no control call. -/
theorem read_quiet (n : Nat) : Keeps quietFrame (SerialLink.read n : Action LoggedPort _) :=
  keeps_iff.mpr fun _ => ⟨_, rfl, rfl, rfl, rfl⟩

/-- A write makes no control call. -/
theorem write_quiet (bs : List UInt8) : Keeps quietFrame (SerialLink.write bs : Action LoggedPort _) :=
  keeps_iff.mpr fun _ => ⟨_, rfl, rfl, rfl, rfl⟩

/-- Asking for the room makes no control call. -/
theorem txFree_quiet : Keeps quietFrame (SerialLink.txFree : Action LoggedPort _) :=
  keeps_iff.mpr fun _ => ⟨_, rfl, rfl, rfl, rfl⟩

end LoggedPort

namespace OemState

/-- The steps of one block's round: open it, send it, compare its echo, or send it again. -/
def inBlock : OemState → Bool
  | .txBlock | .sending | .rxBlock | .rxFail => true
  | _ => false

end OemState

/-- A step of one block's round, of the OEM procedure. -/
def Phase.inBlock : Phase → Bool
  | .oem st => st.inBlock
  | .ebl _ => false

namespace Session

/-- A session whose log grew by calls none of which is a control call, and which stays in a
block's round once in one. -/
def quietFrame : Frame (Session LoggedPort) where
  rel s s' := LoggedPort.quietFrame.rel s.target.port s'.target.port ∧
    (s.phase.inBlock = true → s'.phase.inBlock = true)
  refl s := ⟨LoggedPort.quietFrame.refl s.target.port, id⟩
  trans h₁ h₂ := ⟨LoggedPort.quietFrame.trans h₁.1 h₂.1, fun h => h₂.2 (h₁.2 h)⟩

section Quiet

variable {α : Type}

/-- A link action without control calls keeps the session quiet. -/
theorem onPort_quiet {m : Action LoggedPort α} (hm : Keeps LoggedPort.quietFrame m) :
    Keeps quietFrame (onPort m) :=
  keeps_iff.mpr fun s => ⟨keeps_iff.mp hm s.target.port, id⟩

/-- The image is no part of the link: reading it is quiet. -/
theorem onSource_quiet (m : Action Source α) : Keeps quietFrame (onSource m) :=
  keeps_iff.mpr fun s => quietFrame.refl s

/-- A note keeps the session quiet. -/
theorem say_quiet (origin : String) (level : Level) (text : String) :
    Keeps quietFrame (say origin level text : Action (Session LoggedPort) _) :=
  keeps_iff.mpr fun s => quietFrame.refl s

/-- Moving to a step of a block's round keeps the session quiet. -/
theorem gotoOem_quiet {st : OemState} (hst : st.inBlock = true) :
    Keeps quietFrame (gotoOem st : Action (Session LoggedPort) _) :=
  keeps_iff.mpr fun s => by
    rw [gotoOem_run]
    exact ⟨LoggedPort.quietFrame.refl s.target.port, fun _ => hst⟩

/-- A pure check's result keeps the session quiet. -/
theorem ofExcept_quiet (r : Except Error α) : Keeps quietFrame (ofExcept r : Action (Session LoggedPort) α) :=
  keeps_iff.mpr fun s => by
    rw [ofExcept_run]
    exact quietFrame.refl s

/-- A change of the session that leaves its link and its step alone is quiet. -/
theorem modify_quiet {f : Session LoggedPort → Session LoggedPort}
    (hf : ∀ s, (f s).target.port = s.target.port) (hp : ∀ s, (f s).phase = s.phase) :
    Keeps quietFrame (modify f) :=
  Keeps.modify fun s => ⟨⟨[], by rw [hf s, List.append_nil], rfl, by rw [hf s], by rw [hf s]⟩,
    by rw [hp s]; exact id⟩

/-- Moving on after a matched echo makes no control call. -/
theorem echoMatched_quiet (p : OemProgress) : Keeps quietFrame (echoMatched p : Action (Session LoggedPort) _) := by
  unfold echoMatched
  exact Keeps.bind (modify_quiet (fun _ => rfl) fun _ => rfl) fun _ =>
    Keeps.bind (gotoOem_quiet rfl) fun _ => Keeps.pure _

/-- Opening the echo block makes no control call. -/
theorem expectEcho_quiet (p : OemProgress) : Keeps quietFrame (expectEcho p : Action (Session LoggedPort) _) := by
  unfold expectEcho armTimer
  repeat' first
    | with_reducible exact Keeps.pure _
    | with_reducible exact onSource_quiet _
    | with_reducible exact ofExcept_quiet _
    | with_reducible exact say_quiet _ _ _
    | with_reducible exact gotoOem_quiet rfl
    | with_reducible exact modify_quiet (fun _ => rfl) fun _ => rfl
    | with_reducible apply Keeps.bind
    | intro _

/-- Comparing a piece of echo makes no control call. -/
theorem checkEcho_quiet (p : OemProgress) (received : List UInt8) :
    Keeps quietFrame (checkEcho p received : Action (Session LoggedPort) _) := by
  unfold checkEcho
  repeat' first
    | with_reducible exact Keeps.pure _
    | with_reducible exact onSource_quiet _
    | with_reducible exact say_quiet _ _ _
    | with_reducible exact gotoOem_quiet rfl
    | with_reducible exact modify_quiet (fun _ => rfl) fun _ => rfl
    | with_reducible exact echoMatched_quiet _
    | with_reducible apply Keeps.bind
    | intro _
    | split
    | dsimp only

/-- Streaming the outbound block makes no control call. -/
theorem sendBlock_quiet : Keeps quietFrame (sendBlock : Action (Session LoggedPort) _) := by
  unfold sendBlock
  repeat' first
    | with_reducible exact Keeps.pure _
    | with_reducible exact Keeps.get
    | with_reducible exact onSource_quiet _
    | with_reducible exact onPort_quiet LoggedPort.txFree_quiet
    | with_reducible exact onPort_quiet (LoggedPort.write_quiet _)
    | with_reducible exact modify_quiet (fun _ => rfl) fun _ => rfl
    | with_reducible exact expectEcho_quiet _
    | with_reducible apply Keeps.bind
    | intro _
    | split
    | dsimp only

/-- Reading and comparing the echo makes no control call. -/
theorem compareEcho_quiet : Keeps quietFrame (compareEcho : Action (Session LoggedPort) _) := by
  unfold compareEcho
  repeat' first
    | with_reducible exact Keeps.pure _
    | with_reducible exact Keeps.get
    | with_reducible exact onPort_quiet (LoggedPort.read_quiet _)
    | with_reducible exact say_quiet _ _ _
    | with_reducible exact gotoOem_quiet rfl
    | with_reducible exact echoMatched_quiet _
    | with_reducible exact checkEcho_quiet _ _
    | with_reducible apply Keeps.bind
    | intro _
    | split
    | dsimp only

end Quiet

end Session

namespace Target

/-- A target whose link made no control call, and kept its failing baud rates. -/
def quietFrame : Frame (Target LoggedPort) where
  rel t t' := LoggedPort.quietFrame.rel t.port t'.port
  refl t := LoggedPort.quietFrame.refl t.port
  trans := LoggedPort.quietFrame.trans

/-- A tick answers the mode it leaves. -/
theorem tick_mode {t t' : Target LoggedPort} {m : Mode} (h : tick.run t = (.ok m, t')) : t'.mode = m := by
  rw [tick_run] at h
  rcases t with ⟨port, config, mode, modeTimer⟩
  cases mode <;> simp only at h <;> (repeat' split at h) <;>
    simp only [Prod.mk.injEq, Except.ok.injEq, reduceCtorEq, false_and] at h <;>
    obtain ⟨rfl, rfl⟩ := h <;> rfl

/-- A command-mode tick makes no control call. -/
theorem tick_quiet : Keeps quietFrame (tick : Action (Target LoggedPort) _) := by
  rw [keeps_iff]
  intro t
  rcases h : tick.run t with ⟨r, t'⟩
  obtain ⟨calls, hcalls, ht'⟩ := tick_calls t h
  rw [ht']
  exact ⟨calls, rfl, by cases hcalls <;> rfl, rfl, rfl⟩

/-- A request only asks for room and writes. -/
@[simp] theorem controls_requestCalls (port : LoggedPort) (cmd : List UInt8) :
    controls (requestCalls port cmd) = [] := rfl

/-- Sending a request makes no control call. -/
theorem sendRequest_quiet (cmd : List UInt8) : Keeps quietFrame (sendRequest cmd) := by
  rw [keeps_iff]
  intro t
  rw [sendRequest_run]
  dsimp only
  split
  · exact ⟨[.txFree t.port.txCapacity], rfl, rfl, rfl, rfl⟩
  · exact ⟨_, rfl, controls_requestCalls _ _, rfl, rfl⟩

/-- Changing mode makes no control call. -/
theorem enterMode_quiet (m : Mode) : Keeps quietFrame (enterMode m : Action (Target LoggedPort) _) :=
  keeps_iff.mpr fun t => by
    rw [enterMode_run]
    exact quietFrame.refl t

/-- A change that leaves the link makes no control call. -/
theorem modify_quiet {f : Target LoggedPort → Target LoggedPort} (hf : ∀ t, (f t).port = t.port) :
    Keeps quietFrame (modify f) :=
  Keeps.modify fun t => by
    show LoggedPort.quietFrame.rel t.port (f t).port
    rw [hf t]
    exact LoggedPort.quietFrame.refl t.port

/-- Asking for command mode makes no control call. -/
theorem enter_quiet : Keeps quietFrame (enter : Action (Target LoggedPort) _) := by
  unfold enter
  repeat' first
    | with_reducible exact Keeps.pure _
    | with_reducible exact Keeps.get
    | with_reducible exact tick_quiet
    | with_reducible exact keeps_iff.mpr fun t => by rw [say_run]; exact quietFrame.refl t
    | with_reducible exact enterMode_quiet _
    | with_reducible apply Keeps.bind
    | intro _
    | split

/-- Leaving command mode makes no control call. -/
theorem exit_quiet : Keeps quietFrame (exit : Action (Target LoggedPort) _) := by
  unfold exit
  repeat' first
    | with_reducible exact Keeps.pure _
    | with_reducible exact Keeps.throw _
    | with_reducible exact tick_quiet
    | with_reducible exact sendRequest_quiet _
    | with_reducible exact keeps_iff.mpr fun t => by rw [say_run]; exact quietFrame.refl t
    | with_reducible exact enterMode_quiet _
    | with_reducible exact modify_quiet fun _ => rfl
    | with_reducible apply Keeps.bind
    | intro _
    | split

end Target

/-! ## The end of the image -/

namespace Source

/-- A seek that succeeds moves the cursor there. -/
theorem seek_ok {src src' : Source} {o : UInt32} (h : (seek o).run src = (.ok (), src')) :
    src' = { src with pos := o.toNat } := by
  by_cases hc : src.reach = .held ∧ o.toNat > src.data.size
  · simp [seek, Action.run_bind, hc] at h
  · simp [seek, Action.run_bind, hc] at h
    exact h.symm

/-- A word read in full is the image's word at the cursor. -/
theorem readU16_ok {src src' : Source} {v : UInt16} (h : readU16.run src = (.ok v, src')) :
    v = wordAt src.data src.pos ∧ src'.data = src.data := by
  simp only [readU16, Action.run_bind] at h
  rcases hr : (readFull 2).run src with ⟨_ | b, src₁⟩ <;> rw [hr] at h
  · cases h
  obtain ⟨hcov, rfl, rfl⟩ := readFull_ok hr
  have hin : src.pos + 2 ≤ src.data.size := by
    rcases hcov with h0 | ⟨-, hle⟩
    · cases h0
    · exact hle
  obtain ⟨hv, rfl⟩ := Prod.mk.inj h
  refine ⟨?_, rfl⟩
  rw [← Except.ok.inj hv, wordAt, extract_getD hin (by omega), extract_getD hin (by omega), Nat.add_zero]

/-- Reading the word at an offset reads the image's word there, whatever the cursor was. -/
theorem seek_readU16_ok {src src' : Source} {o : UInt32} {v : UInt16}
    (h : (do seek o; readU16).run src = (.ok v, src')) : v = wordAt src.data o.toNat ∧ src'.data = src.data := by
  rw [Action.run_bind] at h
  rcases hs : (seek o).run src with ⟨_ | _, src₁⟩ <;> rw [hs] at h
  · cases h
  dsimp only at h
  rw [seek_ok hs] at h
  obtain ⟨hv, hd⟩ := readU16_ok h
  exact ⟨hv, hd⟩

end Source

namespace Session

variable {s s' : Session LoggedPort} {r : Except Error Step}

/-- Opening the next outbound block: a zero length word at the block offset pulses the reset line
and reopens at 9600 baud, and anything else is quiet and stays in the block's round. -/
theorem txBlock_controls (h : (stepOem .txBlock).run s = (r, s')) :
    quietFrame.rel s s' ∨
      wordAt s.source.data (UInt32.ofNat s.progress.blockOffset).toNat = 0 ∧ s'.sub = s.sub ∧
        s'.target.port.failBauds = s.target.port.failBauds ∧ s'.target.port.now = s.target.port.now ∧
        (9600 ∈ s.target.port.failBauds → r = .error (.io s!"cannot open at {(9600 : UInt32)}") ∧
          s'.phase = s.phase ∧
          s'.target.port.log = s.target.port.log ++ [.setReset true, .setReset false, .reopen 9600]) ∧
        (9600 ∉ s.target.port.failBauds → r = .ok .pause ∧ s'.phase = .oem .finalPrompt ∧
          s'.target.port.log =
            s.target.port.log ++ [.setReset true, .setReset false, .reopen 9600, .flowControl true]) := by
  rw [stepOem, Action.run_bind, Action.run_get] at h
  dsimp only at h
  rw [Action.run_bind, onSource_run] at h
  rcases hm : (do Source.seek (UInt32.ofNat s.progress.blockOffset); Source.readU16).run s.source
    with ⟨_ | len, src⟩ <;> rw [hm] at h
  · -- the length word cannot be read: the step fails having made no call
    obtain ⟨rfl, rfl⟩ := Prod.mk.inj h
    exact .inl (quietFrame.refl s)
  obtain ⟨hlen, -⟩ := Source.seek_readU16_ok hm
  by_cases hz : len = 0
  · refine .inr ⟨hlen ▸ hz, ?_⟩
    by_cases hf : (9600 : UInt32) ∈ s.target.port.failBauds
    · simp [Action.run_bind, Target.resetModule, SerialLink.pulseReset, Target.onPort, Target.now, hz, hf] at h
      obtain ⟨rfl, rfl⟩ := h
      exact ⟨rfl, rfl, rfl, fun _ => ⟨rfl, rfl, rfl⟩, fun hn => absurd hf hn⟩
    · simp [Action.run_bind, Target.resetModule, SerialLink.pulseReset, Target.onPort, Target.now, hz, hf] at h
      obtain ⟨rfl, rfl⟩ := h
      exact ⟨rfl, rfl, rfl, fun hn => absurd hn hf, fun _ => ⟨rfl, rfl, rfl⟩⟩
  · refine .inl ?_
    by_cases ho : s.progress.blockOffset + 2 + len.toNat > s.progress.firmwareLength
    · simp [Action.run_bind, OemProgress.openBlock, hz, ho] at h
      obtain ⟨rfl, rfl⟩ := h
      exact ⟨⟨[], by simp, rfl, rfl, rfl⟩, id⟩
    · simp [Action.run_bind, OemProgress.openBlock, hz, ho] at h
      obtain ⟨rfl, rfl⟩ := h
      exact ⟨⟨[], by simp, rfl, rfl, rfl⟩, fun _ => rfl⟩

end Session

/-! ## The plan of the control calls -/

/-- RTS low and the break, held, then released: the reset into the bootloader. -/
def breakCalls : List PortCall := [.setRts false, .setBreak true, .setBreak false]

/-- The reset pulse after the last block, and the reopen at 9600 baud for the new firmware. -/
def finishCalls : List PortCall := [.setReset true, .setReset false, .reopen 9600]

/-- The control calls of a whole OEM run: 115200 baud for command mode, and 9600 when that
failed; the break when the unlock was refused; 38400 for the bootloader; the reset pulse and
9600 after the last block. -/
def controlPlan (fallback broke : Bool) : List PortCall :=
  .reopen 115200 :: ((if fallback then [.reopen 9600] else []) ++ (if broke then breakCalls else []) ++
    .reopen 38400 :: finishCalls)

/-- Command mode was entered on a port opened at 115200 baud, or at 9600 after that. -/
def Opened (ctl : List PortCall) : Prop :=
  ctl = [.reopen 115200] ∨ ctl = [.reopen 115200, .reopen 9600]

/-- Ready for the bootloader: command mode opened, and the module reset into its bootloader by
the break if its unlock was refused. -/
def Unlocked (ctl : List PortCall) : Prop :=
  Opened ctl ∨ ∃ c, Opened c ∧ ctl = c ++ breakCalls

section Plan

variable {c m : List PortCall}

/-- The plan goes on from an opened port with the break, if any, then 38400 and the end. -/
theorem Opened.plan (hc : Opened c) :
    ∃ f, ∀ b, controlPlan f b = c ++ ((if b then breakCalls else []) ++ .reopen 38400 :: finishCalls) := by
  rcases hc with rfl | rfl
  · exact ⟨false, fun b => by simp [controlPlan]⟩
  · exact ⟨true, fun b => by simp [controlPlan]⟩

/-- The controls ready for the bootloader, with its reopen at 38400 and the finish, are a plan. -/
theorem Unlocked.plan (hc : Unlocked c) : ∃ f b, controlPlan f b = c ++ .reopen 38400 :: finishCalls := by
  rcases hc with hc | ⟨c, hc, rfl⟩ <;> obtain ⟨f, hf⟩ := Opened.plan hc
  · exact ⟨f, false, by simp [hf]⟩
  · exact ⟨f, true, by simp [hf]⟩

/-- On an opened port, the break's calls so far follow the plan. -/
theorem prefix_plan_of_opened (hc : Opened c) (hm : m <+: breakCalls) : ∃ f b, c ++ m <+: controlPlan f b := by
  obtain ⟨f, hf⟩ := hc.plan
  refine ⟨f, true, ?_⟩
  rw [hf true, if_pos rfl]
  exact (List.prefix_append_right_inj c).mpr (hm.trans (List.prefix_append _ _))

/-- Once unlocked, the calls so far of the bootloader and the end follow the plan. -/
theorem prefix_plan_of_unlocked (hc : Unlocked c) (hm : m <+: .reopen 38400 :: finishCalls) :
    ∃ f b, c ++ m <+: controlPlan f b := by
  obtain ⟨f, b, hfb⟩ := hc.plan
  exact ⟨f, b, hfb ▸ (List.prefix_append_right_inj c).mpr hm⟩

/-- Command mode opened at 115200 baud, or at 115200 and then 9600. -/
theorem Opened.opens (hc : Opened c) : opens c = [115200] ∨ opens c = [115200, 9600] := by
  rcases hc with rfl | rfl
  · exact .inl rfl
  · exact .inr rfl

/-- Ready for the bootloader, the port opened at 115200 baud, or at 115200 and then 9600. -/
theorem Unlocked.opens (hc : Unlocked c) : opens c = [115200] ∨ opens c = [115200, 9600] := by
  rcases hc with hc | ⟨c, hc, rfl⟩
  · exact hc.opens
  · rw [opens_append, show opens breakCalls = [] from rfl, List.append_nil]
    exact hc.opens

end Plan

namespace Session

/-- The control calls made by each step of the procedure, and what the next ones need: the
tries that pick the baud rate for command mode, the reply to `ATFR` before the break, the zero
length before the reset pulse. -/
def ControlStage (s : Session LoggedPort) : Prop :=
  match s.phase with
  | .oem .init => s.target.port.log = []
  | .oem .reset => Unasked s.target.port.log [[70, 82]] ∧
      (controls s.target.port.log = [] ∧ s.tries = 0 ∨
        controls s.target.port.log = [.reopen 115200] ∧ s.tries ≠ 0 ∧ s.target.mode = .idle)
  | .oem .cmdPending => Unasked s.target.port.log [[70, 82]] ∧
      (controls s.target.port.log = [.reopen 115200] ∧ s.tries = 0 ∨
        controls s.target.port.log = [.reopen 115200, .reopen 9600] ∧ s.tries ≠ 0)
  | .oem .parseResponse => Opened (controls s.target.port.log) ∧ s.nextState.asked = true ∧
      s.responseLen ≤ s.scratch.size ∧ (s.nextState = .cmdFr → Awaiting [70, 82] s) ∧
      (s.nextState ≠ .cmdFr → Unasked s.target.port.log [[70, 82]])
  | .oem .cmdHv | .oem .cmdCompat | .oem .cmdVr | .oem .cmdCf1 | .oem .cmdSl | .oem .cmdProg =>
      Opened (controls s.target.port.log) ∧ Unasked s.target.port.log [[70, 82]]
  | .oem .cmdFr => Opened (controls s.target.port.log) ∧ (replyTo [70, 82] s.target.port.log).isSome
  | .oem .holdBreak => ∃ c, Opened c ∧ controls s.target.port.log = c ++ [.setRts false, .setBreak true]
  | .oem .bootloader => Unlocked (controls s.target.port.log)
  | .oem .txStart | .oem .txBlock | .oem .sending | .oem .rxBlock | .oem .rxFail =>
      ∃ c, Unlocked c ∧ controls s.target.port.log = c ++ [.reopen 38400]
  | .oem .finalPrompt | .oem .done | .oem .success =>
      Opened (controls s.target.port.log) ∨
        ∃ c, Unlocked c ∧ controls s.target.port.log = c ++ .reopen 38400 :: finishCalls
  | .oem .failure => True
  | .ebl _ => False

/-- What the control calls of a log say once made: they follow the plan; the break came right
after RTS low, with `ATFR` answered; the reset pulse came right before the reopen at 9600, the
last control call; and it came at a zero length word of the image `D`, where the transfer
stands. -/
structure ControlLog (D : Array UInt8) (s : Session LoggedPort) : Prop where
  plan : ∃ f b, controls s.target.port.log <+: controlPlan f b
  brk : ∀ pre, callsBefore (.setBreak true) s.target.port.log = some pre →
    pre.getLast? = some (.setRts false) ∧ (replyTo [70, 82] pre).isSome
  pulse : ∀ pre, callsBefore (.setReset true) s.target.port.log = some pre →
    ∃ rest, s.target.port.log = pre ++ finishCalls ++ rest ∧ controls rest = []
  terminator : .setReset true ∈ s.target.port.log →
    wordAt D (UInt32.ofNat s.progress.blockOffset).toNat = 0

/-- What one step does to the port: it keeps the failing baud rates and the clock, goes on only to
steps other than Reset, and asserts the break only as its last step, arming the timer of the
break's hold. It opens at most once: an open at a failing rate fails the step with its error, and
the fallback to 9600 baud is opened only at Reset, with the module found idle. -/
def PortStep (s : Session LoggedPort) (r : Except Error Step) (s' : Session LoggedPort) : Prop :=
  s'.target.port.failBauds = s.target.port.failBauds ∧ s'.target.port.now = s.target.port.now ∧
    (r = .ok .goOn → s'.phase ≠ .oem .reset) ∧
    (.setBreak true ∉ s.target.port.log → .setBreak true ∈ s'.target.port.log →
      r = .ok .pause ∧ s'.phase = .oem .holdBreak ∧ s'.timer = s.target.port.now) ∧
    (opens s'.target.port.log = opens s.target.port.log ∨
      ∃ b, opens s'.target.port.log = opens s.target.port.log ++ [b] ∧ r ≠ .ok .goOn ∧
        (b ∈ s.target.port.failBauds → r = .error (.io s!"cannot open at {b}")) ∧
        (opens s.target.port.log = [115200] → b = 9600 →
          s.phase = .oem .reset ∧ s.target.mode = .idle))

/-- A step from `s` that keeps the plan: the state it leaves, failed or not, keeps it, and what
it does to the port is as `PortStep` says. -/
def Controlled (D : Array UInt8) (s : Session LoggedPort) (r : Except Error Step)
    (s' : Session LoggedPort) : Prop :=
  ControlLog D (settle r s') ∧ ControlStage (settle r s') ∧ PortStep s r s'

section Basics

variable {D : Array UInt8} {s s' : Session LoggedPort} {r : Except Error Step}

/-- Settling a tick's end keeps the block-echo progress. -/
@[simp] theorem settle_progress (r : Except Error Step) (s : Session LoggedPort) :
    (settle r s).progress = s.progress := by
  cases r <;> rfl

/-- A log with neither the break nor the reset pulse says only that its controls follow the plan. -/
theorem controlLog_of_plain (hplan : ∃ f b, controls s.target.port.log <+: controlPlan f b)
    (hbrk : .setBreak true ∉ s.target.port.log) (hpulse : .setReset true ∉ s.target.port.log) :
    ControlLog D s :=
  ⟨hplan, fun pre h => absurd h (by rw [callsBefore_eq_none hbrk]; simp),
    fun pre h => absurd h (by rw [callsBefore_eq_none hpulse]; simp), fun h => absurd h hpulse⟩

/-- What the control calls say reads only the log and the transfer's position. -/
theorem ControlLog.congr (h : ControlLog D s) (hlog : s'.target.port.log = s.target.port.log)
    (hpos : s'.progress = s.progress) : ControlLog D s' := by
  obtain ⟨hplan, hbrk, hpulse, hterm⟩ := h
  exact ⟨hlog ▸ hplan, hlog ▸ hbrk, hlog ▸ hpulse, by rw [hlog, hpos]; exact hterm⟩

/-- Settling a tick's end keeps what the control calls say. -/
theorem controlLog_settle (r : Except Error Step) (h : ControlLog D s) : ControlLog D (settle r s) :=
  h.congr (by simp) (by simp)

/-- Calls with neither the break nor the reset pulse keep what the control calls say, as long as
the controls still follow the plan, no control call comes after the reset pulse, and the transfer
stays where it is once the pulse was given. -/
theorem controlLog_append {m : List PortCall} (h : ControlLog D s)
    (hlog : s'.target.port.log = s.target.port.log ++ m) (hbrk : .setBreak true ∉ m)
    (hpulse : .setReset true ∉ m) (hplan : ∃ f b, controls s'.target.port.log <+: controlPlan f b)
    (hafter : .setReset true ∈ s.target.port.log → controls m = [])
    (hpos : .setReset true ∈ s.target.port.log → s'.progress.blockOffset = s.progress.blockOffset) :
    ControlLog D s' := by
  obtain ⟨-, hbrk₀, hpulse₀, hterm⟩ := h
  refine ⟨hplan, ?_, ?_, ?_⟩
  · rw [hlog, callsBefore_append_of_not_mem hbrk]
    exact hbrk₀
  · intro pre hpre
    rw [hlog, callsBefore_append_of_not_mem hpulse] at hpre
    obtain ⟨rest, hrest, hc⟩ := hpulse₀ pre hpre
    have hin : .setReset true ∈ s.target.port.log := by
      rw [hrest]
      simp [finishCalls]
    exact ⟨rest ++ m, by rw [hlog, hrest]; simp, by rw [controls_append, hc, hafter hin]; rfl⟩
  · intro hm
    rw [hlog] at hm
    rcases List.mem_append.mp hm with hm | hm
    · rw [hpos hm]
      exact hterm hm
    · exact absurd hm hpulse

/-- Calls with no control call keep what the control calls say, as long as the transfer stays
where it is once the reset was pulsed. -/
theorem controlLog_quiet (h : ControlLog D s) (hq : LoggedPort.quietFrame.rel s.target.port s'.target.port)
    (hpos : .setReset true ∈ s.target.port.log → s'.progress.blockOffset = s.progress.blockOffset) :
    ControlLog D s' := by
  obtain ⟨calls, hlog, hquiet, -⟩ := hq
  have hfree : ∀ c : PortCall, c.isControl = true → c ∉ calls :=
    fun c hc => not_mem_of_controls hc (by rw [hquiet]; exact List.not_mem_nil)
  refine controlLog_append h hlog (hfree _ rfl) (hfree _ rfl) ?_ (fun _ => hquiet) hpos
  rw [hlog, controls_append, hquiet, List.append_nil]
  exact h.plan

/-- A step that makes no control call and goes on only to steps other than Reset keeps the opens. -/
theorem portStep_quiet (hq : LoggedPort.quietFrame.rel s.target.port s'.target.port)
    (hgo : r = .ok .goOn → s'.phase ≠ .oem .reset) : PortStep s r s' := by
  obtain ⟨calls, hlog, hquiet, hfail, hnow⟩ := hq
  refine ⟨hfail, hnow, hgo, fun hn hm => ?_, .inl ?_⟩
  · rw [hlog] at hm
    exact (List.mem_append.mp hm).elim (absurd · hn)
      (absurd · (not_mem_of_controls rfl (by rw [hquiet]; exact List.not_mem_nil)))
  · rw [hlog, opens_append, opens_eq_nil hquiet, List.append_nil]

/-- A step that opens the port once at `b`, without the break, and pauses or fails. -/
theorem portStep_opening {b : UInt32} {m : List PortCall}
    (hlog : s'.target.port.log = s.target.port.log ++ m) (hm : opens m = [b]) (hbrk : .setBreak true ∉ m)
    (hfb : s'.target.port.failBauds = s.target.port.failBauds) (hnow : s'.target.port.now = s.target.port.now)
    (hr : r ≠ .ok .goOn) (hfail : b ∈ s.target.port.failBauds → r = .error (.io s!"cannot open at {b}"))
    (hfall : opens s.target.port.log = [115200] → b = 9600 → s.phase = .oem .reset ∧ s.target.mode = .idle) :
    PortStep s r s' := by
  refine ⟨hfb, hnow, (absurd · hr), fun hn hm' => ?_, .inr ⟨b, by rw [hlog, opens_append, hm], hr, hfail, hfall⟩⟩
  rw [hlog] at hm'
  exact (List.mem_append.mp hm').elim (absurd · hn) (absurd · hbrk)

/-- A failed OEM step leaves a stage the plan allows. -/
theorem controlStage_settle_error {st : OemState} (x : Error) (hst : s.phase = .oem st) :
    ControlStage (settle (.error x : Except Error Step) s) := by
  unfold ControlStage
  rw [settle_error_phase x hst]
  trivial

/-- A failing step that makes no control call keeps the plan. -/
theorem controlled_quiet_error {st : OemState} (x : Error) (hst : s'.phase = .oem st) (h : ControlLog D s)
    (hq : LoggedPort.quietFrame.rel s.target.port s'.target.port)
    (hpos : .setReset true ∈ s.target.port.log → s'.progress.blockOffset = s.progress.blockOffset) :
    Controlled D s (.error x) s' :=
  ⟨controlLog_settle _ (controlLog_quiet h hq hpos), controlStage_settle_error x hst,
    portStep_quiet hq fun h => by cases h⟩

/-- Quiet calls before a step keep what the step says. -/
theorem Controlled.of_quiet {s₁ : Session LoggedPort} (hq₀ : LoggedPort.quietFrame.rel s.target.port s₁.target.port)
    (hq : LoggedPort.quietFrame.rel s₁.target.port s'.target.port) (h : Controlled D s₁ r s') :
    Controlled D s r s' :=
  ⟨h.1, h.2.1, portStep_quiet (LoggedPort.quietFrame.trans hq₀ hq) h.2.2.2.2.1⟩

end Basics

end Session

/-! ## Each step keeps the plan -/

namespace Session

section Steps

variable {D : Array UInt8} {s s' : Session LoggedPort} {r : Except Error Step}

/-- Opening command mode pulses no reset. -/
theorem Opened.pulse_free {ctl : List PortCall} (h : Opened ctl) : .setReset true ∉ ctl := by
  rcases h with rfl | rfl <;> simp

/-- Getting ready for the bootloader pulses no reset. -/
theorem Unlocked.pulse_free {ctl : List PortCall} (h : Unlocked ctl) : .setReset true ∉ ctl := by
  rcases h with h | ⟨c, hc, rfl⟩
  · exact Opened.pulse_free h
  · simpa [breakCalls] using Opened.pulse_free hc

/-- A request makes no control call. -/
theorem request_port_quiet {next : OemState} {cmd : List UInt8} (h : (request cmd next).run s = (r, s')) :
    LoggedPort.quietFrame.rel s.target.port s'.target.port := by
  rw [request_run] at h
  dsimp only at h
  split at h <;> obtain ⟨rfl, rfl⟩ := Prod.mk.inj h
  · exact ⟨[.txFree _], rfl, rfl, rfl, rfl⟩
  · exact ⟨_, rfl, Target.controls_requestCalls _ _, rfl, rfl⟩

/-- A request from command mode: with `ATFR` it waits for the reply that leads to the break, and
with any other command it leaves `ATFR` unasked. -/
theorem controlled_request {st next : OemState} {cmd : List UInt8} (hl : ControlLog D s)
    (hop : Opened (controls s.target.port.log)) (hun : Unasked s.target.port.log [[70, 82]])
    (hnext : next.asked = true) (hfr : next = .cmdFr ↔ cmd = [70, 82]) (hat : cmd ≠ [65, 84])
    (hcr : cmd ≠ [13]) (hph : s.phase = .oem st) (h : (request cmd next).run s = (r, s')) :
    Controlled D s r s' := by
  rw [request_run] at h
  dsimp only at h
  split at h
  · obtain ⟨rfl, rfl⟩ := Prod.mk.inj h
    exact controlled_quiet_error _ (by exact hph) hl ⟨[.txFree _], rfl, rfl, rfl, rfl⟩ fun _ => rfl
  obtain ⟨rfl, rfl⟩ := Prod.mk.inj h
  have hq : LoggedPort.quietFrame.rel s.target.port
      { s.target.port with log := s.target.port.log ++ Target.requestCalls s.target.port cmd } :=
    ⟨_, rfl, Target.controls_requestCalls _ _, rfl, rfl⟩
  refine ⟨controlLog_quiet hl hq fun _ => rfl, ?_, portStep_quiet hq fun h => by cases h⟩
  unfold ControlStage
  rw [settle_ok]
  dsimp only
  rw [controls_append, Target.controls_requestCalls, List.append_nil]
  refine ⟨hop, hnext, Nat.zero_le _, fun hn => ?_, fun hn => ?_⟩
  · -- the reply to `ATFR` is what is heard after its write
    obtain rfl := hfr.mp hn
    refine ⟨by simp [response], Nat.zero_le _, [.write [13] (LoggedPort.taken s.target.port.writeChunk 1)],
      ?_, by simp [response, PortCall.heard]⟩
    rw [afterWrite_append_of_none (hun [70, 82] (List.mem_singleton_self _))]
    exact afterWrite_requestCalls_self _ (by decide)
  · have hne : [70, 82] ≠ cmd := fun heq => hn (hfr.mpr heq.symm)
    exact hun.append (unasked_requestCalls _ fun c hc => by
      rw [List.mem_singleton] at hc
      subst hc
      exact ⟨hne, by decide, by decide⟩)

/-- An unlock command starts with `%`. -/
theorem unlockCommand_ne_cons (w : UInt16) {b : UInt8} (rest : List UInt8) (hb : b ≠ 37) :
    unlockCommand w ≠ b :: rest := by
  intro h
  have hhead := congrArg List.head? h
  simp [unlockCommand] at hhead
  exact hb (by rw [← hhead]; decide)

section Checks

variable (hy : s.source.readLimit ≠ some 0) (h16 : 16 ≤ s.source.data.size)
include hy h16

/-- The HV check keeps the plan. -/
theorem cmdHv_controlled (hl : ControlLog D s) (hop : Opened (controls s.target.port.log))
    (hun : Unasked s.target.port.log [[70, 82]]) (hph : s.phase = .oem .cmdHv)
    (h : (stepOem .cmdHv).run s = (r, s')) : Controlled D s r s' := by
  rw [cmdHv_run hy h16] at h
  dsimp only at h
  split at h
  · obtain ⟨rfl, rfl⟩ := Prod.mk.inj h
    exact controlled_quiet_error _ (by exact hph) hl (LoggedPort.quietFrame.refl _) fun _ => rfl
  · exact controlled_request (s := { s with source := { s.source with pos := 11 } }) (hl.congr rfl rfl) hop hun rfl
      (by decide) (by decide) (by decide) hph h

/-- The %C check keeps the plan. -/
theorem cmdCompat_controlled (hl : ControlLog D s) (hop : Opened (controls s.target.port.log))
    (hun : Unasked s.target.port.log [[70, 82]]) (hph : s.phase = .oem .cmdCompat)
    (h : (stepOem .cmdCompat).run s = (r, s')) : Controlled D s r s' := by
  rw [cmdCompat_run hy h16] at h
  split at h
  · exact controlled_request hl hop hun rfl (by decide) (by decide) (by decide) hph h
  dsimp only at h
  split at h
  · obtain ⟨rfl, rfl⟩ := Prod.mk.inj h
    exact controlled_quiet_error _ (by exact hph) hl (LoggedPort.quietFrame.refl _) fun _ => rfl
  · exact controlled_request (s := { s with source := { s.source with pos := 12 } }) (hl.congr rfl rfl) hop hun rfl
      (by decide) (by decide) (by decide) hph h

/-- The version check leaves command mode for Done, or starts the unlock. -/
theorem cmdVr_controlled (hl : ControlLog D s) (hop : Opened (controls s.target.port.log))
    (hun : Unasked s.target.port.log [[70, 82]]) (hph : s.phase = .oem .cmdVr)
    (h : (stepOem .cmdVr).run s = (r, s')) : Controlled D s r s' := by
  rw [cmdVr_run hy h16] at h
  dsimp only at h
  split at h
  · rcases hx : Target.exit.run s.target with ⟨r', t⟩
    have hq : LoggedPort.quietFrame.rel s.target.port t.port := by
      have := keeps_iff.mp Target.exit_quiet s.target
      rwa [hx] at this
    rw [hx] at h
    cases r' with
    | ok u =>
      obtain ⟨rfl, rfl⟩ := Prod.mk.inj h
      refine ⟨controlLog_quiet hl hq fun _ => rfl, ?_, portStep_quiet hq fun _ h => by cases h⟩
      unfold ControlStage
      obtain ⟨calls, hlog, hquiet, -⟩ := hq
      exact .inl (by rw [settle_ok, hlog, controls_append, hquiet, List.append_nil]; exact hop)
    | error x =>
      obtain ⟨rfl, rfl⟩ := Prod.mk.inj h
      exact controlled_quiet_error _ (by exact hph) hl hq fun _ => rfl
  · exact controlled_request (s := { s with source := { s.source with pos := 16 } }) (hl.congr rfl rfl) hop hun rfl
      (by decide) (by decide) (by decide) hph h

end Checks

/-- The CF1 request keeps the plan. -/
theorem cmdCf1_controlled (hl : ControlLog D s) (hop : Opened (controls s.target.port.log))
    (hun : Unasked s.target.port.log [[70, 82]]) (hph : s.phase = .oem .cmdCf1)
    (h : (stepOem .cmdCf1).run s = (r, s')) : Controlled D s r s' := by
  rw [cmdCf1_run] at h
  exact controlled_request hl hop hun rfl (by decide) (by decide) (by decide) hph h

/-- The SL request keeps the plan. -/
theorem cmdSl_controlled (hl : ControlLog D s) (hop : Opened (controls s.target.port.log))
    (hun : Unasked s.target.port.log [[70, 82]]) (hph : s.phase = .oem .cmdSl)
    (h : (stepOem .cmdSl).run s = (r, s')) : Controlled D s r s' := by
  rw [cmdSl_run] at h
  have hfr : OemState.cmdProg = .cmdFr ↔ unlockCommand (hexWord s.response) = [70, 82] :=
    ⟨fun h => (by cases h), fun h => absurd h (unlockCommand_ne_cons _ [82] (by decide))⟩
  exact controlled_request hl hop hun rfl hfr (unlockCommand_ne_cons _ [84] (by decide))
    (unlockCommand_ne_cons _ [] (by decide)) hph h

/-- An unlock answered `OK` goes to the bootloader on the port of command mode; a refused one
asks for `ATFR`. -/
theorem cmdProg_controlled (hl : ControlLog D s) (hop : Opened (controls s.target.port.log))
    (hun : Unasked s.target.port.log [[70, 82]]) (hph : s.phase = .oem .cmdProg)
    (h : (stepOem .cmdProg).run s = (r, s')) : Controlled D s r s' := by
  rw [cmdProg_run] at h
  split at h
  · obtain ⟨rfl, rfl⟩ := Prod.mk.inj h
    have hq := LoggedPort.quietFrame.refl s.target.port
    refine ⟨controlLog_quiet hl hq fun _ => rfl, ?_, portStep_quiet hq fun _ h => by cases h⟩
    unfold ControlStage
    exact .inl hop
  · exact controlled_request hl hop hun rfl ⟨fun _ => rfl, fun _ => rfl⟩ (by decide) (by decide) hph h

/-- The opens of a log whose controls are `ctl`. -/
theorem opens_of_controls {log ctl : List PortCall} (h : controls log = ctl) : opens log = opens ctl := by
  rw [← opens_controls, h]

/-- The rate Reset opens at: 115200 first, and 9600 once the module was found idle at 115200.
With the controls before it, the open makes the rates CmdPending expects. -/
theorem reset_rate {log : List PortCall} {tries : Nat} {mode : Mode}
    (hctl : controls log = [] ∧ tries = 0 ∨ controls log = [.reopen 115200] ∧ tries ≠ 0 ∧ mode = .idle) :
    controls log ++ [.reopen (if tries > 0 then 9600 else 115200)] = [.reopen 115200] ∧ tries = 0 ∨
      controls log ++ [.reopen (if tries > 0 then 9600 else 115200)] = [.reopen 115200, .reopen 9600] ∧
        tries ≠ 0 := by
  rcases hctl with ⟨hc, h0⟩ | ⟨hc, h0, -⟩
  · rw [hc, if_neg (by omega)]
    exact .inl ⟨rfl, h0⟩
  · rw [hc, if_pos (by omega)]
    exact .inr ⟨rfl, h0⟩

/-- Reset reopens at 115200 baud, or at 9600 once the module was found idle, and starts the escape.
The controls after the reopen: 115200 first, 9600 after it. Whatever follows the reopen, no break
and no pulse. At CmdPending the tries still say which rate was opened. -/
theorem reset_controlled (hun : Unasked s.target.port.log [[70, 82]])
    (hctl : controls s.target.port.log = [] ∧ s.tries = 0 ∨
      controls s.target.port.log = [.reopen 115200] ∧ s.tries ≠ 0 ∧ s.target.mode = .idle)
    (hph : s.phase = .oem .reset) (h : (stepOem .reset).run s = (r, s')) : Controlled D s r s' := by
  rw [reset_run] at h
  have hrate := reset_rate hctl
  generalize hb : (if s.tries > 0 then (9600 : UInt32) else 115200) = baud at h hrate
  have hnext : Opened (controls s.target.port.log ++ [.reopen baud]) := by
    rcases hrate with ⟨hc, -⟩ | ⟨hc, -⟩ <;> rw [hc]
    · exact .inl rfl
    · exact .inr rfl
  have hfall : opens s.target.port.log = [115200] → baud = 9600 →
      s.phase = .oem .reset ∧ s.target.mode = .idle := by
    intro ho _
    rcases hctl with ⟨hc, -⟩ | ⟨-, -, hmode⟩
    · rw [opens_of_controls hc] at ho
      cases ho
    · exact ⟨hph, hmode⟩
  have hlog : ∀ rest, controls rest = [] →
      ControlLog D { s with target := { s.target with
        port := { s.target.port with log := s.target.port.log ++ .reopen baud :: rest } } } := by
    intro rest hrest
    have hctl' : controls (s.target.port.log ++ .reopen baud :: rest) =
        controls s.target.port.log ++ [.reopen baud] := by
      simp [hrest, PortCall.isControl]
    have hfree : ∀ c, c ∉ controls s.target.port.log ++ [.reopen baud] → c.isControl = true →
        c ∉ s.target.port.log ++ .reopen baud :: rest :=
      fun c hc hcc => not_mem_of_controls hcc (hctl' ▸ hc)
    refine controlLog_of_plain ?_ (hfree _ ?_ rfl) (hfree _ (Opened.pulse_free hnext) rfl)
    · rw [show s.target.port.log ++ .reopen baud :: rest = _ from rfl, hctl']
      simpa using prefix_plan_of_opened hnext List.nil_prefix
    · rcases hnext with h' | h' <;> rw [h'] <;> simp
  dsimp only at h
  split at h
  · -- the port does not open: the session fails with the open's error
    obtain ⟨rfl, rfl⟩ := Prod.mk.inj h
    exact ⟨controlLog_settle _ (hlog [] rfl), controlStage_settle_error _ hph,
      portStep_opening rfl rfl (by simp) rfl rfl (fun h => by cases h) (fun _ => rfl) hfall⟩
  rename_i hfail
  generalize ht₀ : ({ s.target with
      port := { s.target.port with
        baud := baud, log := s.target.port.log ++ [.reopen baud, .flowControl true] } } : Target LoggedPort) = t₀ at h
  have hlog₀ : t₀.port.log = s.target.port.log ++ [.reopen baud, .flowControl true] := by
    rw [← ht₀]
  have hfb₀ : t₀.port.failBauds = s.target.port.failBauds := by
    rw [← ht₀]
  have hnow₀ : t₀.port.now = s.target.port.now := by
    rw [← ht₀]
  rcases he : Target.enter.run t₀ with ⟨r', t⟩
  rw [he] at h
  obtain ⟨calls, hcalls, htlog, -⟩ := Target.enter_calls _ he
  have hq := keeps_iff.mp Target.enter_quiet t₀
  rw [he] at hq
  obtain ⟨calls', hlog', hquiet', hfb, hnow⟩ := hq
  rw [hfb₀] at hfb
  rw [hnow₀] at hnow
  have hcalls' : calls' = calls := by
    rw [hlog'] at htlog
    exact List.append_cancel_left htlog
  subst hcalls'
  have hrest : controls (.flowControl true :: calls') = [] := by
    simp [hquiet', PortCall.isControl]
  have hlog₁ : t.port.log = s.target.port.log ++ ([.reopen baud, .flowControl true] ++ calls') := by
    rw [hlog', hlog₀, List.append_assoc]
  have hnew : opens ([.reopen baud, .flowControl true] ++ calls') = [baud] := by
    rw [opens_append, opens_eq_nil hquiet', List.append_nil]
    rfl
  have hbrk₁ : .setBreak true ∉ [.reopen baud, .flowControl true] ++ calls' := by
    simpa using not_mem_of_controls (c := .setBreak true) rfl (by rw [hquiet']; exact List.not_mem_nil)
  have hcl : ControlLog D { s with target := t } := (hlog _ hrest).congr hlog₁ rfl
  cases r' with
  | error x =>
    obtain ⟨rfl, rfl⟩ := Prod.mk.inj h
    exact ⟨controlLog_settle _ hcl, controlStage_settle_error _ hph,
      portStep_opening hlog₁ hnew hbrk₁ hfb hnow (fun h => by cases h) (fun h => absurd h hfail) hfall⟩
  | ok u =>
    obtain ⟨rfl, rfl⟩ := Prod.mk.inj h
    refine ⟨hcl.congr rfl rfl, ?_,
      portStep_opening hlog₁ hnew hbrk₁ hfb hnow (fun h => by cases h) (fun h => absurd h hfail) hfall⟩
    unfold ControlStage
    rw [settle_ok]
    dsimp only
    rw [hlog₁]
    refine ⟨hun.append ((unasked_of_writeless _ (by simp [PortCall.offers])).append
      (unasked_tickCalls hcalls (by simp))), ?_⟩
    rw [show controls (s.target.port.log ++ ([.reopen baud, .flowControl true] ++ calls')) =
        controls s.target.port.log ++ [.reopen baud] by simp [hquiet', PortCall.isControl]]
    exact hrate

/-- While command mode is entered: once in, the hardware version is asked for; a module idle at
115200 baud is tried at 9600, and one idle at 9600 fails the session. -/
theorem cmdPending_controlled (hl : ControlLog D s) (hun : Unasked s.target.port.log [[70, 82]])
    (hctl : controls s.target.port.log = [.reopen 115200] ∧ s.tries = 0 ∨
      controls s.target.port.log = [.reopen 115200, .reopen 9600] ∧ s.tries ≠ 0)
    (hph : s.phase = .oem .cmdPending) (h : (stepOem .cmdPending).run s = (r, s')) :
    Controlled D s r s' := by
  rw [cmdPending_run] at h
  rcases ht : Target.tick.run s.target with ⟨r', t⟩
  rw [ht] at h
  obtain ⟨calls, hcalls, ht'⟩ := Target.tick_calls _ ht
  have hq : LoggedPort.quietFrame.rel s.target.port t.port := by
    have := keeps_iff.mp Target.tick_quiet s.target
    rwa [ht] at this
  have hlogt : t.port.log = s.target.port.log ++ calls := by
    rw [ht']
  have hun' : Unasked t.port.log [[70, 82]] := hlogt ▸ hun.append (unasked_tickCalls hcalls (by simp))
  have hctlt : controls t.port.log = controls s.target.port.log := by
    obtain ⟨c, hc, hc', -⟩ := hq
    rw [hc, controls_append, hc', List.append_nil]
  have hcl : ControlLog D { s with target := t } := controlLog_quiet hl hq fun _ => rfl
  cases r' with
  | error x =>
    obtain ⟨rfl, rfl⟩ := Prod.mk.inj h
    exact controlled_quiet_error x (by exact hph) hl hq fun _ => rfl
  | ok m =>
    cases m
    case command =>
      have hop : Opened (controls t.port.log) := by
        rw [hctlt]
        rcases hctl with ⟨hc, -⟩ | ⟨hc, -⟩
        · exact .inl hc
        · exact .inr hc
      exact Controlled.of_quiet hq (request_port_quiet h)
        (controlled_request (s := { s with target := t }) hcl hop hun' rfl ⟨fun h => (by cases h),
          fun h => (by cases h)⟩ (by decide) (by decide) hph h)
    case idle =>
      dsimp only at h
      split at h
      · -- idle at 115200 baud: Reset again, for 9600
        rename_i h0
        obtain ⟨rfl, rfl⟩ := Prod.mk.inj h
        refine ⟨hcl.congr rfl rfl, ?_, portStep_quiet hq fun h => by cases h⟩
        unfold ControlStage
        rw [settle_ok]
        refine ⟨hun', .inr ⟨?_, Nat.one_ne_zero, Target.tick_mode ht⟩⟩
        rcases hctl with ⟨hc, -⟩ | ⟨-, hne⟩
        · exact hctlt.trans hc
        · exact absurd h0 hne
      · obtain ⟨rfl, rfl⟩ := Prod.mk.inj h
        exact controlled_quiet_error _ (by exact hph) hl hq fun _ => rfl
    all_goals
      obtain ⟨rfl, rfl⟩ := Prod.mk.inj h
      refine ⟨hcl.congr rfl rfl, ?_, portStep_quiet hq fun h => by cases h⟩
      unfold ControlStage
      rw [settle_ok, hph]
      exact ⟨hun', by rw [hctlt]; exact hctl⟩

/-- Reads make no control call. -/
theorem controls_of_reads {calls : List PortCall} (h : ∀ c ∈ calls, ∃ n got, c = .read n got) :
    controls calls = [] :=
  List.filter_eq_nil_iff.mpr fun c hc => by
    obtain ⟨n, got, rfl⟩ := h c hc
    simp [PortCall.isControl]

/-- Bytes read without a carriage return join the response still awaited. -/
theorem awaiting_heard {cmd stored : List UInt8} {tail : List PortCall} (haw : Awaiting cmd s)
    (hcr : 13 ∉ stored) (htail : tail.flatMap PortCall.heard = [])
    (hlog : s'.target.port.log = s.target.port.log ++ (Target.readsOf stored ++ tail))
    (hresp : s'.response = s.response ++ stored) (hle : s'.responseLen ≤ s'.scratch.size) :
    Awaiting cmd s' := by
  obtain ⟨hcr₀, -, post, hpost, hheard⟩ := haw
  refine ⟨by rw [hresp]; simp [hcr₀, hcr], hle, post ++ (Target.readsOf stored ++ tail), ?_, ?_⟩
  · rw [hlog]
    exact afterWrite_append_of_some hpost
  · rw [hresp, List.flatMap_append, hheard, List.flatMap_append, readsOf_heard, htail, List.append_nil]

/-- The carriage return ends the line awaited: it is the reply to the request. -/
theorem awaiting_line {cmd stored : List UInt8} (haw : Awaiting cmd s) (hcr : 13 ∉ stored)
    (hlog : s'.target.port.log = s.target.port.log ++ (Target.readsOf stored ++ [.read 1 [13]])) :
    replyTo cmd s'.target.port.log = some (s.response ++ stored) := by
  obtain ⟨hcr₀, -, post, hpost, hheard⟩ := haw
  have hline : lineOf (s.response ++ stored ++ [13]) = some (s.response ++ stored) :=
    lineOf_line (by simp [hcr₀, hcr]) []
  rw [hlog, replyTo, afterWrite_append_of_some hpost, Option.bind_some, List.flatMap_append, hheard,
    List.flatMap_append, readsOf_heard]
  simpa [PortCall.heard] using hline

/-- Waiting for a reply: the bytes read join it, and its carriage return moves on to the step
the request named, with the reply to `ATFR` in the log when that was the request. -/
theorem parseResponse_controlled (hl : ControlLog D s) (hop : Opened (controls s.target.port.log))
    (hasked : s.nextState.asked = true) (hle : s.responseLen ≤ s.scratch.size)
    (hfr : s.nextState = .cmdFr → Awaiting [70, 82] s)
    (hnfr : s.nextState ≠ .cmdFr → Unasked s.target.port.log [[70, 82]])
    (hph : s.phase = .oem .parseResponse) (h : (stepOem .parseResponse).run s = (r, s')) :
    Controlled D s r s' := by
  obtain ⟨stored, tail, hcr', -, hle', hresp, hs', hend⟩ := parseResponse_run_eq s hle h
  have htail : tail = [.read 1 [13]] ∨ tail = [.read 1 []] ∨ tail = [] := by
    rcases hend with ⟨-, h, -⟩ | ⟨-, h | h, -⟩ | ⟨-, h | h, -⟩ <;> simp [h]
  have hreads := Target.readsOf_append_reads stored htail
  have hwl := (reads_quiet (e := 0) hreads).2
  have hlog : s'.target.port.log = s.target.port.log ++ (Target.readsOf stored ++ tail) := by
    rw [hs']
    exact List.append_assoc _ _ _
  have hq : LoggedPort.quietFrame.rel s.target.port s'.target.port :=
    ⟨_, hlog, controls_of_reads hreads, (congrArg (·.target.port.failBauds) hs').trans rfl,
      (congrArg (·.target.port.now) hs').trans rfl⟩
  have hpos : s'.progress = s.progress := (congrArg Session.progress hs').trans rfl
  have hcl : ControlLog D s' := controlLog_quiet hl hq fun _ => by rw [hpos]
  have hop' : Opened (controls s'.target.port.log) := by
    rw [hlog, controls_append, controls_of_reads hreads, List.append_nil]
    exact hop
  have hun' : s.nextState ≠ .cmdFr → Unasked s'.target.port.log [[70, 82]] := fun hn => by
    rw [hlog]
    exact (hnfr hn).append (unasked_of_writeless _ hwl)
  have hnext : s'.nextState = s.nextState := by
    rw [hs']
  rcases hend with ⟨rfl, rfl, hph'⟩ | ⟨rfl, htl, hph'⟩ | ⟨⟨x, rfl, -⟩, -, hph'⟩
  · -- the carriage return came: the step the request named
    refine ⟨hcl.congr rfl rfl, ?_, portStep_quiet hq fun _ => ?_⟩
    · unfold ControlStage
      rw [settle_ok, hph']
      by_cases hn : s.nextState = .cmdFr
      · rw [hn]
        exact ⟨hop', by rw [awaiting_line (hfr hn) hcr' hlog]; rfl⟩
      · have hun'' := hun' hn
        cases hns : s.nextState <;> rw [hns] at hasked <;> dsimp only <;>
          first | exact ⟨hop', hun''⟩ | exact absurd hns hn | cases hasked
    · rw [hph']
      intro heq
      rw [Phase.oem.inj heq] at hasked
      cases hasked
  · -- still waiting
    refine ⟨hcl.congr rfl rfl, ?_, portStep_quiet hq fun h => by cases h⟩
    unfold ControlStage
    rw [settle_ok, hph', hph, hnext]
    refine ⟨hop', hasked, hle', fun hn => awaiting_heard (hfr hn) hcr' ?_ hlog hresp hle', hun'⟩
    rcases htl with rfl | rfl <;> rfl
  · exact controlled_quiet_error x (hph'.trans hph) hl hq fun _ => by rw [hpos]

/-- Opening command mode sets no break. -/
theorem Opened.break_free {ctl : List PortCall} (h : Opened ctl) : .setBreak true ∉ ctl := by
  rcases h with rfl | rfl <;> simp

/-- Calls that open nothing keep the opens. -/
theorem opens_append_nil {l m : List PortCall} (hm : opens m = []) : opens (l ++ m) = opens l := by
  rw [opens_append, hm, List.append_nil]

/-- After `ATFR` is answered: RTS low and the break, right after it. The break comes right after RTS
low, with `ATFR` answered before. -/
theorem cmdFr_controlled (hop : Opened (controls s.target.port.log))
    (hans : (replyTo [70, 82] s.target.port.log).isSome) (h : (stepOem .cmdFr).run s = (r, s')) :
    Controlled D s r s' := by
  rw [cmdFr_run] at h
  obtain ⟨rfl, rfl⟩ := Prod.mk.inj h
  have hbrk : .setBreak true ∉ s.target.port.log := not_mem_of_controls rfl (Opened.break_free hop)
  have hctl : controls (s.target.port.log ++ [.setRts false, .setBreak true]) =
      controls s.target.port.log ++ [.setRts false, .setBreak true] := by
    simp [PortCall.isControl]
  have hpulse : .setReset true ∉ s.target.port.log ++ [.setRts false, .setBreak true] :=
    not_mem_of_controls rfl (by rw [hctl]; simpa using Opened.pulse_free hop)
  have hbefore : callsBefore (.setBreak true) (s.target.port.log ++ [.setRts false, .setBreak true]) =
      some (s.target.port.log ++ [.setRts false]) :=
    callsBefore_of_eq (by simp : s.target.port.log ++ [.setRts false, .setBreak true] =
      (s.target.port.log ++ [.setRts false]) ++ [.setBreak true]) (by simpa using hbrk)
  obtain ⟨v, hv⟩ := Option.isSome_iff_exists.mp hans
  refine ⟨?_, ?_, ⟨rfl, rfl, (fun h => by cases h), fun _ _ => ⟨rfl, rfl, rfl⟩, .inl (opens_append_nil rfl)⟩⟩
  · rw [settle_ok]
    refine ⟨?_, fun pre hpre => ?_, fun pre hpre => ?_, fun hm => absurd hm hpulse⟩
    · show ∃ f b, controls (s.target.port.log ++ [.setRts false, .setBreak true]) <+: controlPlan f b
      rw [hctl]
      exact prefix_plan_of_opened hop ⟨[.setBreak false], rfl⟩
    · change callsBefore _ (s.target.port.log ++ [.setRts false, .setBreak true]) = some pre at hpre
      rw [hbefore] at hpre
      cases hpre
      exact ⟨by simp, by rw [replyTo_append hv]; rfl⟩
    · change callsBefore _ (s.target.port.log ++ [.setRts false, .setBreak true]) = some pre at hpre
      rw [callsBefore_eq_none hpulse] at hpre
      cases hpre
  · unfold ControlStage
    exact ⟨_, hop, hctl⟩

/-- The break held 400 ms is released, and the bootloader entered. -/
theorem holdBreak_controlled (hl : ControlLog D s)
    (hctl : ∃ c, Opened c ∧ controls s.target.port.log = c ++ [.setRts false, .setBreak true])
    (hph : s.phase = .oem .holdBreak) (h : (stepOem .holdBreak).run s = (r, s')) :
    Controlled D s r s' := by
  obtain ⟨c, hc, hcs⟩ := hctl
  rw [holdBreak_run] at h
  split at h
  · obtain ⟨rfl, rfl⟩ := Prod.mk.inj h
    have hctl' : controls (s.target.port.log ++ [.setBreak false]) = c ++ breakCalls := by
      simp [hcs, breakCalls, PortCall.isControl]
    have hpulse : .setReset true ∉ s.target.port.log :=
      not_mem_of_controls rfl (by rw [hcs]; simpa using Opened.pulse_free hc)
    refine ⟨controlLog_append hl rfl (by simp) (by simp) ?_ (fun h => absurd h hpulse)
      (fun h => absurd h hpulse), ?_, ⟨rfl, rfl, (fun _ h => by cases h), fun hn hm => absurd hm (by simpa using hn),
      .inl (opens_append_nil rfl)⟩⟩
    · show ∃ f b, controls (s.target.port.log ++ [.setBreak false]) <+: controlPlan f b
      rw [hctl']
      exact prefix_plan_of_opened hc (List.prefix_refl _)
    · unfold ControlStage
      exact .inr ⟨c, hc, hctl'⟩
  · obtain ⟨rfl, rfl⟩ := Prod.mk.inj h
    refine ⟨hl, ?_, portStep_quiet (LoggedPort.quietFrame.refl _) fun h => by cases h⟩
    unfold ControlStage
    rw [settle_ok, hph]
    exact ⟨c, hc, hcs⟩

/-- The bootloader is entered at 38400 baud, and knocked with `+`. Every branch has reopened at
38400, and maybe written the knock. -/
theorem bootloader_controlled (hl : ControlLog D s) (hctl : Unlocked (controls s.target.port.log))
    (hph : s.phase = .oem .bootloader) (h : (stepOem .bootloader).run s = (r, s')) :
    Controlled D s r s' := by
  have hpulse : .setReset true ∉ s.target.port.log := not_mem_of_controls rfl (Unlocked.pulse_free hctl)
  have hctl₁ : ∀ m, controls m = [] →
      controls (s.target.port.log ++ .reopen 38400 :: m) = controls s.target.port.log ++ [.reopen 38400] :=
    fun m hm => by simp [hm, PortCall.isControl]
  have hplan : ∀ m, controls m = [] →
      ∃ f b, controls (s.target.port.log ++ .reopen 38400 :: m) <+: controlPlan f b := fun m hm => by
    rw [hctl₁ m hm]
    exact prefix_plan_of_unlocked hctl ⟨finishCalls, rfl⟩
  have hnot : (38400 : UInt32) ≠ 9600 := by decide
  rw [bootloader_run] at h
  dsimp only at h
  split at h
  · -- 38400 does not open: the session fails with the open's error
    obtain ⟨rfl, rfl⟩ := Prod.mk.inj h
    exact ⟨controlLog_settle _ (controlLog_append hl rfl (by simp) (by simp) (hplan [] rfl)
        (fun h => absurd h hpulse) (fun h => absurd h hpulse)), controlStage_settle_error _ hph,
      portStep_opening (m := [.reopen 38400]) rfl rfl (by simp) rfl rfl (fun h => by cases h) (fun _ => rfl)
        fun _ h => absurd h hnot⟩
  rename_i hfail
  split at h
  · obtain ⟨rfl, rfl⟩ := Prod.mk.inj h
    exact ⟨controlLog_settle _ (controlLog_append hl rfl (by simp) (by simp) (hplan [.write [43] _] rfl)
        (fun h => absurd h hpulse) (fun h => absurd h hpulse)), controlStage_settle_error _ hph,
      portStep_opening (m := [.reopen 38400, .write [43] _]) rfl rfl (by simp) rfl rfl (fun h => by cases h)
        (fun h => absurd h hfail) fun _ h => absurd h hnot⟩
  · obtain ⟨rfl, rfl⟩ := Prod.mk.inj h
    refine ⟨controlLog_append hl rfl (by simp) (by simp) (hplan [.write [43] _] rfl)
        (fun h => absurd h hpulse) (fun h => absurd h hpulse), ?_,
      portStep_opening (m := [.reopen 38400, .write [43] _]) rfl rfl (by simp) rfl rfl (fun h => by cases h)
        (fun h => absurd h hfail) fun _ h => absurd h hnot⟩
    unfold ControlStage
    exact ⟨_, hctl, hctl₁ [.write [43] _] rfl⟩

/-- In a block's round the controls stand at 38400 baud. -/
theorem controlStage_of_inBlock (hin : s.phase.inBlock = true)
    (h : ∃ c, Unlocked c ∧ controls s.target.port.log = c ++ [.reopen 38400]) : ControlStage s := by
  unfold ControlStage
  rcases hph : s.phase with st | st <;> rw [hph] at hin
  · cases hin
  · cases st <;> first | (dsimp only; exact h) | cases hin

/-- A quiet step in a block's round stays in it at 38400 baud, or fails. -/
theorem controlled_inBlock (hl : ControlLog D s)
    (hctl : ∃ c, Unlocked c ∧ controls s.target.port.log = c ++ [.reopen 38400])
    (hin : s.phase.inBlock = true) (hq : quietFrame.rel s s') : Controlled D s r s' := by
  obtain ⟨c, hc, hcs⟩ := hctl
  have hpulse : .setReset true ∉ s.target.port.log :=
    not_mem_of_controls rfl (by rw [hcs]; simpa using Unlocked.pulse_free hc)
  have hin' := hq.2 hin
  have hctl' : controls s'.target.port.log = c ++ [.reopen 38400] := by
    obtain ⟨calls, hlog, hquiet, -⟩ := hq.1
    rw [hlog, controls_append, hquiet, List.append_nil, hcs]
  obtain ⟨st', hst'⟩ : ∃ st', s'.phase = .oem st' := by
    rcases hph : s'.phase with st' | st' <;> rw [hph] at hin'
    · cases hin'
    · exact ⟨st', rfl⟩
  refine ⟨controlLog_settle _ (controlLog_quiet hl hq.1 fun h => absurd h hpulse), ?_,
    portStep_quiet hq.1 fun _ h => by rw [h] at hin'; cases hin'⟩
  cases r with
  | error x => exact controlStage_settle_error x hst'
  | ok a => exact controlStage_of_inBlock hin' ⟨c, hc, hctl'⟩

/-- Opening the next block is quiet, except at the zero length word that ends the image: there
the reset line is pulsed and the port reopened at 9600 baud, the last control call. Both branches
log the pulse and the reopen at 9600, the last control call. -/
theorem txBlock_controlled (hl : ControlLog D s) (hD : s.source.data = D)
    (hctl : ∃ c, Unlocked c ∧ controls s.target.port.log = c ++ [.reopen 38400])
    (hph : s.phase = .oem .txBlock) (h : (stepOem .txBlock).run s = (r, s')) : Controlled D s r s' := by
  rcases txBlock_controls h with hq | ⟨hz, hsub, hfb, hnow, hfail, hok⟩
  · exact controlled_inBlock hl hctl (by rw [hph]; rfl) hq
  obtain ⟨c, hc, hcs⟩ := hctl
  have hpulse : .setReset true ∉ s.target.port.log :=
    not_mem_of_controls rfl (by rw [hcs]; simpa using Unlocked.pulse_free hc)
  have hbrk : .setBreak true ∉ finishCalls := by simp [finishCalls]
  have hend : ∀ rest, controls rest = [] →
      s'.target.port.log = s.target.port.log ++ finishCalls ++ rest →
      ControlLog D s' ∧ controls s'.target.port.log = c ++ .reopen 38400 :: finishCalls := by
    intro rest hrest hlog
    have hbrest : .setBreak true ∉ rest := not_mem_of_controls rfl (by rw [hrest]; exact List.not_mem_nil)
    have hpos : s'.progress = s.progress := by
      unfold progress
      rw [hsub]
    have hctl' : controls s'.target.port.log = c ++ .reopen 38400 :: finishCalls := by
      rw [hlog, controls_append, controls_append, hrest, hcs]
      simp [finishCalls, PortCall.isControl]
    refine ⟨⟨?_, ?_, ?_, fun _ => by rw [hpos]; exact hD ▸ hz⟩, hctl'⟩
    · rw [hctl']
      exact prefix_plan_of_unlocked hc (List.prefix_refl _)
    · rw [hlog, List.append_assoc, callsBefore_append_of_not_mem (by simp [finishCalls, hbrest])]
      exact hl.brk
    · intro pre hpre
      rw [hlog, List.append_assoc, callsBefore_append_of_none (callsBefore_eq_none hpulse)] at hpre
      simp [finishCalls, callsBefore] at hpre
      subst hpre
      exact ⟨rest, by rw [hlog], hrest⟩
  have hopen : opens s.target.port.log ≠ [115200] := by
    rw [← opens_controls, hcs, opens_append, show opens [.reopen 38400] = [38400] from rfl]
    rcases Unlocked.opens hc with h' | h' <;> rw [h'] <;> decide
  by_cases hf : (9600 : UInt32) ∈ s.target.port.failBauds
  · obtain ⟨rfl, hph', hlog⟩ := hfail hf
    obtain ⟨hcl, -⟩ := hend [] rfl (by rw [hlog, List.append_nil]; rfl)
    exact ⟨controlLog_settle _ hcl, controlStage_settle_error _ (hph'.trans hph),
      portStep_opening (m := finishCalls) hlog rfl hbrk hfb hnow (fun h => by cases h) (fun _ => rfl)
        fun h => absurd h hopen⟩
  · obtain ⟨rfl, hph', hlog⟩ := hok hf
    obtain ⟨hcl, hctl'⟩ := hend [.flowControl true] rfl (by rw [hlog]; simp [finishCalls])
    refine ⟨hcl, ?_, portStep_opening (m := finishCalls ++ [.flowControl true]) (by rw [hlog]; rfl) rfl
      (by simp [finishCalls]) hfb hnow (fun h => by cases h) (fun h => absurd h hf) fun h => absurd h hopen⟩
    unfold ControlStage
    rw [settle_ok, hph']
    exact .inr ⟨c, hc, hctl'⟩

/-- Streaming a block keeps the plan. -/
theorem sending_controlled (hl : ControlLog D s)
    (hctl : ∃ c, Unlocked c ∧ controls s.target.port.log = c ++ [.reopen 38400])
    (hph : s.phase = .oem .sending) (h : (stepOem .sending).run s = (r, s')) : Controlled D s r s' := by
  have hq := keeps_iff.mp sendBlock_quiet s
  rw [show sendBlock.run s = (r, s') from h] at hq
  exact controlled_inBlock hl hctl (by rw [hph]; rfl) hq

/-- Comparing the echo keeps the plan. -/
theorem rxBlock_controlled (hl : ControlLog D s)
    (hctl : ∃ c, Unlocked c ∧ controls s.target.port.log = c ++ [.reopen 38400])
    (hph : s.phase = .oem .rxBlock) (h : (stepOem .rxBlock).run s = (r, s')) : Controlled D s r s' := by
  have hq := keeps_iff.mp compareEcho_quiet s
  rw [show compareEcho.run s = (r, s') from h] at hq
  exact controlled_inBlock hl hctl (by rw [hph]; rfl) hq

/-- Resending a block keeps the plan. -/
theorem rxFail_controlled (hl : ControlLog D s)
    (hctl : ∃ c, Unlocked c ∧ controls s.target.port.log = c ++ [.reopen 38400])
    (hph : s.phase = .oem .rxFail) (h : (stepOem .rxFail).run s = (r, s')) : Controlled D s r s' := by
  rw [rxFail_run] at h
  split at h <;> obtain ⟨rfl, rfl⟩ := Prod.mk.inj h
  · exact controlled_inBlock hl hctl (by rw [hph]; rfl) ⟨LoggedPort.quietFrame.refl _, fun _ => by rw [hph]; rfl⟩
  · exact controlled_inBlock hl hctl (by rw [hph]; rfl) ⟨⟨[.flushRx], rfl, rfl, rfl, rfl⟩, fun _ => rfl⟩

/-- The bootloader's answer starts the block transfer at 38400 baud. Every branch reads one byte and
makes no other call. -/
theorem txStart_controlled (hy : s.source.readLimit ≠ some 0) (h10 : 10 ≤ s.source.data.size)
    (hl : ControlLog D s) (hctl : ∃ c, Unlocked c ∧ controls s.target.port.log = c ++ [.reopen 38400])
    (hph : s.phase = .oem .txStart) (h : (stepOem .txStart).run s = (r, s')) : Controlled D s r s' := by
  obtain ⟨c, hc, hcs⟩ := hctl
  have hpulse : .setReset true ∉ s.target.port.log :=
    not_mem_of_controls rfl (by rw [hcs]; simpa using Unlocked.pulse_free hc)
  have hq : LoggedPort.quietFrame.rel s.target.port { s.target.port with
      rx := (s.target.port.rx.take 1).2, log := s.target.port.log ++ [.read 1 (s.target.port.rx.take 1).1] } :=
    ⟨_, rfl, rfl, rfl, rfl⟩
  have hctl' : controls (s.target.port.log ++ [.read 1 (s.target.port.rx.take 1).1]) = c ++ [.reopen 38400] := by
    rw [controls_append, hcs, show controls [PortCall.read 1 _] = [] from rfl, List.append_nil]
  rw [txStart_run s hy h10] at h
  dsimp only at h
  split at h
  · split at h
    · obtain ⟨rfl, rfl⟩ := Prod.mk.inj h
      refine ⟨controlLog_quiet hl hq fun h => absurd h hpulse, ?_, portStep_quiet hq fun _ h => by cases h⟩
      unfold ControlStage
      exact ⟨c, hc, hctl'⟩
    · obtain ⟨rfl, rfl⟩ := Prod.mk.inj h
      exact controlled_quiet_error _ (by exact hph) hl hq fun h => absurd h hpulse
  · split at h
    · obtain ⟨rfl, rfl⟩ := Prod.mk.inj h
      exact controlled_quiet_error _ (by exact hph) hl hq fun h => absurd h hpulse
    · obtain ⟨rfl, rfl⟩ := Prod.mk.inj h
      refine ⟨controlLog_quiet hl hq fun h => absurd h hpulse, ?_, portStep_quiet hq fun h => by cases h⟩
      unfold ControlStage
      rw [settle_ok, hph]
      exact ⟨c, hc, hctl'⟩

/-- The ends make no call: the wait for the reset module, Done and Success. -/
theorem ending_controlled {st : OemState} (hl : ControlLog D s)
    (hend : st = .finalPrompt ∨ st = .done ∨ st = .success)
    (hctl : Opened (controls s.target.port.log) ∨
      ∃ c, Unlocked c ∧ controls s.target.port.log = c ++ .reopen 38400 :: finishCalls)
    (hph : s.phase = .oem st) (h : (stepOem st).run s = (r, s')) : Controlled D s r s' := by
  have hsame : s'.target = s.target ∧ s'.sub = s.sub ∧ ∃ a, r = .ok a ∧
      (s'.phase = .oem .finalPrompt ∨ s'.phase = .oem .done ∨ s'.phase = .oem .success) ∧
      (a = .goOn → s'.phase ≠ .oem .reset) := by
    rcases hend with rfl | rfl | rfl
    · rw [finalPrompt_run] at h
      split at h <;> obtain ⟨rfl, rfl⟩ := Prod.mk.inj h
      · exact ⟨rfl, rfl, _, rfl, .inr (.inl rfl), fun _ h => by cases h⟩
      · exact ⟨rfl, rfl, _, rfl, .inl hph, fun h => by cases h⟩
    · rw [done_run] at h
      obtain ⟨rfl, rfl⟩ := Prod.mk.inj h
      exact ⟨rfl, rfl, _, rfl, .inr (.inr rfl), fun h => by cases h⟩
    · rw [success_run] at h
      obtain ⟨rfl, rfl⟩ := Prod.mk.inj h
      exact ⟨rfl, rfl, _, rfl, .inr (.inr hph), fun h => by cases h⟩
  obtain ⟨ht, hsub, a, rfl, hph', hgo⟩ := hsame
  have hq : LoggedPort.quietFrame.rel s.target.port s'.target.port := by
    rw [ht]
    exact LoggedPort.quietFrame.refl _
  have hpos : s'.progress = s.progress := by
    unfold progress
    rw [hsub]
  refine ⟨hl.congr (by rw [settle_ok, ht]) (by rw [settle_ok, hpos]), ?_,
    portStep_quiet hq fun h => hgo (Except.ok.inj h)⟩
  unfold ControlStage
  rw [settle_ok, ht]
  rcases hph' with h' | h' | h' <;> rw [h'] <;> exact hctl

/-- Init starts command mode with no tries made. -/
theorem init_tries {a : Step} (h : (stepOem .init).run s = (.ok a, s')) : s'.tries = 0 := by
  rw [init_run] at h
  rcases hv : verify.run (s.source, s.scratch) with ⟨_ | hdr, p⟩ <;> rw [hv] at h <;> dsimp only at h
  · cases h
  rcases hc : (countBlocks hdr).run p.1 with ⟨_ | chain, src⟩ <;> rw [hc] at h <;> dsimp only at h
  · cases h
  · obtain ⟨-, rfl⟩ := Prod.mk.inj h
    rfl

/-- Init validates the image and makes no call. -/
theorem init_controlled (hlog : s.target.port.log = []) (hph : s.phase = .oem .init)
    (h : (stepOem .init).run s = (r, s')) :
    Controlled D s r s' := by
  obtain ⟨ht, hcases⟩ := init_cases h
  have hq : LoggedPort.quietFrame.rel s.target.port s'.target.port := by
    rw [ht]
    exact LoggedPort.quietFrame.refl _
  have hnil : (settle r s').target.port.log = [] := by
    rw [settle_target, ht, hlog]
  have hcl : ControlLog D (settle r s') :=
    controlLog_of_plain (by rw [hnil]; exact ⟨false, false, List.nil_prefix⟩) (by rw [hnil]; simp)
      (by rw [hnil]; simp)
  rcases hcases with ⟨-, rfl, hph'⟩ | ⟨-, hr, hph'⟩
  · refine ⟨hcl, ?_, portStep_quiet hq fun h => by cases h⟩
    unfold ControlStage
    rw [settle_ok, hph']
    refine ⟨by rw [ht, hlog]; exact unasked_nil _, .inl ⟨by rw [ht, hlog]; rfl, init_tries h⟩⟩
  · cases r with
    | ok a => cases hr
    | error x => exact ⟨hcl, controlStage_settle_error x (hph'.trans hph), portStep_quiet hq fun h => by cases h⟩

end Steps

end Session

/-! ## Runs -/

namespace Session

/-- A state of a run from `s₀`: it follows `s₀`, Init has accepted the image unless it is still
to come or the session failed, and its control calls keep the plan, read against the image of
`s₀`. -/
def PlannedFrom (s₀ s : Session LoggedPort) : Prop :=
  Follows s₀ s ∧
    (s.phase = .oem .init ∧ (Accepts s → Accepts s₀) ∨ s.phase = .oem .failure ∨ Accepts s₀) ∧
    ControlLog s₀.source.data s ∧ ControlStage s

section Runs

variable {s₀ s s' : Session LoggedPort} {r : Except Error Step}

/-- Every step of a planned run keeps the plan: one case per step of the procedure. An accepted
image yields its bytes and holds its 16-byte header. -/
theorem step_controlled {st : OemState} (hp : PlannedFrom s₀ s) (hph : s.phase = .oem st)
    (h : (stepOem st).run s = (r, s')) : Controlled s₀.source.data s r s' := by
  obtain ⟨hf, hready, hl, hst⟩ := hp
  have hacc : st ≠ .init → st ≠ .failure → Accepts s₀ := fun hi hfl => by
    rcases hready with ⟨hi', -⟩ | hfl' | hacc
    · exact absurd (Phase.oem.inj (hph.symm.trans hi')) hi
    · exact absurd (Phase.oem.inj (hph.symm.trans hfl')) hfl
    · exact hacc
  have himage : st ≠ .init → st ≠ .failure → s.source.readLimit ≠ some 0 ∧ 16 ≤ s.source.data.size :=
    fun hi hfl => by
      obtain ⟨hdr, p, c, src, hv₀, hc₀⟩ := hacc hi hfl
      obtain ⟨hy, h16, -⟩ := init_accepts hv₀ hc₀
      rw [hf.readLimit, hf.data]
      exact ⟨hy, h16⟩
  unfold ControlStage at hst
  rw [hph] at hst
  cases st
  case init => exact init_controlled hst hph h
  case reset => exact reset_controlled hst.1 hst.2 hph h
  case cmdPending => exact cmdPending_controlled hl hst.1 hst.2 hph h
  case parseResponse =>
    obtain ⟨hop, hasked, hle, hfr, hnfr⟩ := hst
    exact parseResponse_controlled hl hop hasked hle hfr hnfr hph h
  case cmdHv =>
    obtain ⟨hy, h16⟩ := himage (by decide) (by decide)
    exact cmdHv_controlled hy h16 hl hst.1 hst.2 hph h
  case cmdCompat =>
    obtain ⟨hy, h16⟩ := himage (by decide) (by decide)
    exact cmdCompat_controlled hy h16 hl hst.1 hst.2 hph h
  case cmdVr =>
    obtain ⟨hy, h16⟩ := himage (by decide) (by decide)
    exact cmdVr_controlled hy h16 hl hst.1 hst.2 hph h
  case cmdCf1 => exact cmdCf1_controlled hl hst.1 hst.2 hph h
  case cmdSl => exact cmdSl_controlled hl hst.1 hst.2 hph h
  case cmdProg => exact cmdProg_controlled hl hst.1 hst.2 hph h
  case cmdFr => exact cmdFr_controlled hst.1 hst.2 h
  case holdBreak => exact holdBreak_controlled hl hst hph h
  case bootloader => exact bootloader_controlled hl hst hph h
  case txStart =>
    obtain ⟨hy, h16⟩ := himage (by decide) (by decide)
    exact txStart_controlled hy (by omega) hl hst hph h
  case txBlock => exact txBlock_controlled hl hf.data hst hph h
  case sending => exact sending_controlled hl hst hph h
  case rxBlock => exact rxBlock_controlled hl hst hph h
  case rxFail => exact rxFail_controlled hl hst hph h
  case finalPrompt => exact ending_controlled hl (.inl rfl) hst hph h
  case done => exact ending_controlled hl (.inr (.inl rfl)) hst hph h
  case success => exact ending_controlled hl (.inr (.inr rfl)) hst hph h
  case failure =>
    rw [failure_run] at h
    obtain ⟨rfl, rfl⟩ := Prod.mk.inj h
    exact controlled_quiet_error _ hph hl (LoggedPort.quietFrame.refl _) fun _ => rfl

/-- Every OEM step keeps a run planned. -/
theorem plannedFrom_stepsKeep (s₀ : Session LoggedPort) : StepsKeep (PlannedFrom s₀) := by
  rintro s st r s' hp hph h
  obtain ⟨hcl, hst, -⟩ := step_controlled hp hph h
  have hf' : Follows s (settle r s') := by
    have hstep := keeps_iff.mp (stepOem_keeps st) s
    rw [h] at hstep
    exact hstep.trans (settle_follows r s')
  refine ⟨hp.1.trans hf', ?_, hcl, hst⟩
  rcases hp.2.1 with ⟨hi, hacc⟩ | hfl | hacc
  · -- Init accepts the image and moves on, or refuses it and fails
    rw [hph] at hi
    cases Phase.oem.inj hi
    rcases (init_cases h).2 with ⟨hok, rfl, -⟩ | ⟨-, hr, hph'⟩
    · exact .inr (.inr (hacc hok))
    · cases r with
      | ok a => cases hr
      | error x => exact .inr (.inl (settle_error_phase x (hph'.trans hph)))
  · rw [hph] at hfl
    cases Phase.oem.inj hfl
    rw [failure_run] at h
    obtain ⟨rfl, rfl⟩ := Prod.mk.inj h
    exact .inr (.inl (settle_error_phase _ hph))
  · exact .inr (.inr hacc)

/-- Every state an OEM session reaches from Init with an empty log is planned. -/
theorem reachable_planned (h0 : s₀.phase = .oem .init) (hlog : s₀.target.port.log = [])
    (h : Reachable s₀ s) : PlannedFrom s₀ s := by
  have hstart : PlannedFrom s₀ s₀ := by
    refine ⟨Follows.refl s₀, .inl ⟨h0, id⟩,
      controlLog_of_plain (by rw [hlog]; exact ⟨false, false, List.nil_prefix⟩) (by rw [hlog]; simp)
        (by rw [hlog]; simp), ?_⟩
    unfold ControlStage
    rw [h0]
    exact hlog
  exact reachable_induct (fun s hs => hs.1.oem ⟨_, h0⟩) (plannedFrom_stepsKeep s₀)
    (fun w s hs => ⟨hs.1.trans (meetPort_follows w s), hs.2.1, hs.2.2.1.congr rfl rfl, hs.2.2.2⟩) hstart h

end Runs

end Session

end RadioFlash
