import RadioFlash.Proofs.ImageReading
import RadioFlash.Install.Session
/-!
# Runs of an install session on a logged link

A session is driven by ticks, and between two ticks its link's surroundings may change in any way
`Surroundings` allows. A tick runs steps of the procedure until one yields; a step that fails
marks the session failed, and a failed session stays as it is. So a property holds of every state
a session reaches (`Session.Reachable`) as soon as it holds at the start, every change of
surroundings keeps it, and every step keeps it, whether the step succeeds or fails
(`Session.reachable_induct`).

The run lemmas first compute the session's own combinators on a logged link: notes change
nothing, moving to another step changes only the phase.
-/

namespace RadioFlash

namespace Session

section Combinators

variable {π : Type} (s : Session π)

/-- A target action runs on the session's target. -/
@[simp] theorem onTarget_run {α : Type} (m : Action (Target π) α) :
    (onTarget m).run s = ((m.run s.target).1, { s with target := (m.run s.target).2 }) := rfl

/-- A link action runs on the session's link. -/
@[simp] theorem onPort_run {α : Type} (m : Action π α) :
    (onPort m).run s = ((m.run s.target.port).1,
      { s with target := { s.target with port := (m.run s.target.port).2 } }) := rfl

/-- An image action runs on the session's image. -/
@[simp] theorem onSource_run {α : Type} (m : Action Source α) :
    (onSource m).run s = ((m.run s.source).1, { s with source := (m.run s.source).2 }) := rfl

/-- A pure check's result changes nothing. -/
@[simp] theorem ofExcept_run {α : Type} (r : Except Error α) :
    (ofExcept r : Action (Session π) α).run s = (r, s) := by
  cases r <;> rfl

/-- Arming the timer sets it to the link's clock. -/
@[simp] theorem armTimer_run [SerialLink π] :
    (armTimer : Action (Session π) Unit).run s = (.ok (), { s with timer := s.now }) := rfl

end Combinators

section Logged

variable (s : Session LoggedPort)

/-- A note on a logged link changes nothing. -/
@[simp] theorem say_run (origin : String) (level : Level) (text : String) :
    (say origin level text : Action (Session LoggedPort) Unit).run s = (.ok (), s) := rfl

/-- Moving to an OEM step only changes the step. -/
@[simp] theorem gotoOem_run (st : OemState) :
    (gotoOem st : Action (Session LoggedPort) Unit).run s = (.ok (), { s with phase := .oem st }) := by
  simp [gotoOem, Action.run_bind]

/-- A session's clock is its link's. -/
@[simp] theorem now_eq : s.now = s.target.port.now := rfl

/-- A session's timer runs out on its link's clock. -/
theorem waited_eq (ms : UInt32) :
    s.waited ms = (Deadline.arm s.timer ms).elapsed s.target.port.now := rfl

end Logged

/-- The step a phase runs: the one `runSteps` picks by the session's procedure. -/
def stepAt {π : Type} [SerialLink π] : Phase → Action (Session π) Step
  | .ebl st => stepEbl st
  | .oem st => stepOem st

/-- The state a step leaves behind in its tick: its own when it succeeds, and when it fails the
same state marked failed, as the tick's handler marks it. -/
def settle {π α : Type} : Except Error α → Session π → Session π
  | .ok _, s => s
  | .error _, s => { s with phase := match s.phase with
      | .ebl _ => .ebl .failure
      | .oem _ => .oem .failure }

/-- A tick that answered leaves the session as it is. -/
@[simp] theorem settle_ok {π α : Type} (a : α) (s : Session π) : settle (.ok a) s = s := rfl

/-- Settling a tick's end leaves the target. -/
@[simp] theorem settle_target {π α : Type} (r : Except Error α) (s : Session π) :
    (settle r s).target = s.target := by
  cases r <;> rfl

/-- One tick of a session on a logged link, its answer left aside: a failure shows in the phase. -/
def advance (s : Session LoggedPort) : Session LoggedPort := (tick.run s).2

/-- The session after the surroundings of its link changed. -/
def meetPort (w : Surroundings) (s : Session LoggedPort) : Session LoggedPort :=
  { s with target := { s.target with port := s.target.port.meet w } }

/-- The states a session reaches from `s₀` by ticks and changes of surroundings. -/
abbrev Reachable (s₀ s : Session LoggedPort) : Prop := Reaches advance meetPort s₀ s

/-- One round of `runSteps`: the step of the current phase, and more rounds after `goOn`. -/
theorem runSteps_succ_run {π : Type} [SerialLink π] (n : Nat) (s : Session π) :
    (runSteps (n + 1)).run s = match (stepAt s.phase).run s with
      | (.ok .goOn, s') => (runSteps n).run s'
      | (.ok .pause, s') => (.ok (if s'.isComplete then .complete else .pending), s')
      | (.error e, s') => (.error e, s') := by
  rcases hph : s.phase with st | st <;>
  · simp only [runSteps, Action.run_bind, Action.run_get, hph, stepAt]
    split
    · next a s' heq =>
      rw [heq]
      cases a <;> rfl
    · next e s' heq =>
      rw [heq]

/-- A tick: a failed session fails again and stays as it is; any other runs at most six steps,
and their error marks it failed. -/
theorem tick_run (s : Session LoggedPort) :
    tick.run s = if s.isFailed then (.error .sessionFailed, s) else
      match (runSteps 6).run s with
      | (.ok a, s') => (.ok a, s')
      | (.error e, s') => (.error e, settle (.error e : Except Error Xmodem.Status) s') := by
  unfold tick
  simp only [Action.run_bind, Action.run_get]
  split
  · rfl
  rw [Action.run_tryCatch, Action.run_bind]
  rcases (runSteps 6).run s with ⟨_ | a, s'⟩
  · simp only [Action.run_bind, say_run, Action.run_modify, Action.run_throw]
    rfl
  · by_cases hc : a = .complete
    · simp [hc, Action.run_bind]
    · simp [hc]

/-- The answer of a tick whose last step answered `r`, and the session it leaves. -/
def tickEnd (r : Except Error Step) (s : Session LoggedPort) : Except Error Xmodem.Status × Session LoggedPort :=
  match r with
  | .ok _ => (.ok (if s.isComplete then .complete else .pending), s)
  | .error e => (.error e, settle (.error e : Except Error Xmodem.Status) s)

/-- A tick that yields answers whether the session is complete. -/
@[simp] theorem tickEnd_ok (a : Step) (s : Session LoggedPort) :
    tickEnd (.ok a) s = (.ok (if s.isComplete then .complete else .pending), s) := rfl

/-- A tick that fails answers its error and settles the session at failure. -/
@[simp] theorem tickEnd_error (e : Error) (s : Session LoggedPort) :
    tickEnd (.error e) s = (.error e, settle (.error e : Except Error Xmodem.Status) s) := rfl

/-- A tick whose first step yields or fails ends with it. -/
theorem tick_of_step {s s₁ : Session LoggedPort} {r : Except Error Step} (hf : s.isFailed = false)
    (h : (stepAt s.phase).run s = (r, s₁)) (hr : r ≠ .ok .goOn) : tick.run s = tickEnd r s₁ := by
  rw [tick_run, if_neg (by rw [hf]; exact Bool.false_ne_true), runSteps_succ_run, h]
  rcases r with e | (_ | _)
  · rfl
  · exact absurd rfl hr
  · rfl

/-- A tick whose first step goes on and whose second yields or fails ends with the second. -/
theorem tick_of_second {s s₁ s₂ : Session LoggedPort} {r : Except Error Step} (hf : s.isFailed = false)
    (h₁ : (stepAt s.phase).run s = (.ok .goOn, s₁)) (h₂ : (stepAt s₁.phase).run s₁ = (r, s₂))
    (hr : r ≠ .ok .goOn) : tick.run s = tickEnd r s₂ := by
  rw [tick_run, if_neg (by rw [hf]; exact Bool.false_ne_true), runSteps_succ_run, h₁]
  dsimp only
  rw [runSteps_succ_run, h₂]
  rcases r with e | (_ | _)
  · rfl
  · exact absurd rfl hr
  · rfl

section Induction

variable {P : Session LoggedPort → Prop}

/-- Every step keeps `P`, whether it succeeds or fails. -/
def AllStepsKeep (P : Session LoggedPort → Prop) : Prop :=
  ∀ s r s', P s → (stepAt s.phase).run s = (r, s') → P (settle r s')

/-- Every step of the OEM procedure keeps `P`, whether it succeeds or fails. -/
def StepsKeep (P : Session LoggedPort → Prop) : Prop :=
  ∀ s st r s', P s → s.phase = .oem st → (stepOem st).run s = (r, s') → P (settle r s')

/-- Steps that all keep `P` keep it through every run of steps. Induction on the fuel: each round
runs one step and goes on only after `goOn`. -/
theorem runSteps_keeps_all (hstep : AllStepsKeep P) :
    ∀ (n : Nat) (s : Session LoggedPort), P s →
      P (settle ((runSteps n).run s).1 ((runSteps n).run s).2) := by
  intro n
  induction n with
  | zero =>
    intro s hs
    exact hs
  | succ n ih =>
    intro s hs
    rw [runSteps_succ_run]
    rcases hr : (stepAt s.phase).run s with ⟨_ | (_ | _), s'⟩
    · exact hstep s _ s' hs hr
    · exact ih s' (hstep s _ s' hs hr)
    · exact hstep s _ s' hs hr

/-- Steps that all keep `P` keep it through a tick. -/
theorem advance_keeps_all (hstep : AllStepsKeep P) {s : Session LoggedPort} (hs : P s) :
    P (advance s) := by
  have hrun := runSteps_keeps_all hstep 6 s hs
  unfold advance
  rw [tick_run]
  split
  · exact hs
  rcases h : (runSteps 6).run s with ⟨_ | a, s'⟩ <;> rw [h] at hrun
  · exact hrun
  · exact hrun

/-- A property that holds at the start, that every change of surroundings keeps and that every
step keeps, whether it succeeds or fails, holds of every state the session reaches. -/
theorem reachable_induct_all (hstep : AllStepsKeep P) (hmeet : ∀ w s, P s → P (meetPort w s))
    {s₀ s : Session LoggedPort} (h₀ : P s₀) (h : Reachable s₀ s) : P s :=
  Reaches.induct_on P h₀ (fun _ _ hs => advance_keeps_all hstep hs) (fun w _ _ hs => hmeet w _ hs) h

/-- A property of OEM sessions only that every OEM step keeps is kept by every step. -/
theorem StepsKeep.all (hoem : ∀ s, P s → ∃ st, s.phase = .oem st) (hstep : StepsKeep P) :
    AllStepsKeep P := by
  intro s r s' hs h
  obtain ⟨st, hst⟩ := hoem s hs
  rw [hst] at h
  exact hstep s st r s' hs hst h

/-- OEM steps that keep `P` keep it through every run of steps. -/
theorem runSteps_keeps (hoem : ∀ s, P s → ∃ st, s.phase = .oem st) (hstep : StepsKeep P) :
    ∀ (n : Nat) (s : Session LoggedPort), P s →
      P (settle ((runSteps n).run s).1 ((runSteps n).run s).2) :=
  runSteps_keeps_all (hstep.all hoem)

/-- OEM steps that keep `P` keep it through a tick. -/
theorem advance_keeps (hoem : ∀ s, P s → ∃ st, s.phase = .oem st) (hstep : StepsKeep P)
    {s : Session LoggedPort} (hs : P s) : P (advance s) :=
  advance_keeps_all (hstep.all hoem) hs

section Errors

variable {Q : Error → Prop}
  (herr : ∀ s st e s', P s → s.phase = .oem st → (stepOem st).run s = (.error e, s') → Q e)
include herr

/-- The error of a run of steps is one a step gives. Induction on the fuel, as `runSteps_keeps`: the
error is the first failing step's. -/
theorem runSteps_error (hoem : ∀ s, P s → ∃ st, s.phase = .oem st) (hstep : StepsKeep P) :
    ∀ (n : Nat) (s : Session LoggedPort) (e : Error), P s →
      ((runSteps n).run s).1 = .error e → Q e := by
  intro n
  induction n with
  | zero =>
    intro s e _ h
    cases h
  | succ n ih =>
    intro s e hs h
    obtain ⟨st, hst⟩ := hoem s hs
    rcases hr : (stepOem st).run s with ⟨r, s'⟩
    simp only [runSteps, Action.run_bind, Action.run_get, hst] at h
    rw [hr] at h
    cases r with
    | error e' =>
      cases h
      exact herr s st e s' hs hst hr
    | ok step =>
      have hs' := hstep s st (.ok step) s' hs hst hr
      cases step with
      | goOn => exact ih s' e hs' h
      | pause => simp at h

/-- A tick fails only where one of its steps fails, or with the session already failed. -/
theorem tick_error (hoem : ∀ s, P s → ∃ st, s.phase = .oem st) (hstep : StepsKeep P)
    (hfailed : Q .sessionFailed) {s : Session LoggedPort} {e : Error} (hs : P s)
    (h : (tick.run s).1 = .error e) : Q e := by
  unfold tick at h
  simp only [Action.run_bind, Action.run_get] at h
  split at h
  · cases h
    exact hfailed
  rw [Action.run_tryCatch] at h
  rcases hr : (runSteps 6).run s with ⟨r, s'⟩
  rw [Action.run_bind, hr] at h
  cases r with
  | ok status =>
    by_cases hc : status = .complete
    · simp [hc, Action.run_bind] at h
    · simp [hc] at h
  | error e' =>
    simp only [Action.run_bind, say_run, Action.run_modify, Action.run_throw] at h
    cases h
    exact runSteps_error herr hoem hstep 6 s e hs (by rw [hr])

end Errors

/-- A tick whose first step goes on and whose second fails ends with that failure. -/
theorem tick_error_of_second {s s₁ s₂ : Session LoggedPort} {st st₁ : OemState} {e : Error}
    (hst : s.phase = .oem st) (hlive : st ≠ .failure) (h₁ : (stepOem st).run s = (.ok .goOn, s₁))
    (hst₁ : s₁.phase = .oem st₁) (h₂ : (stepOem st₁).run s₁ = (.error e, s₂)) :
    (tick.run s).1 = .error e := by
  have hok : s.isFailed = false := by
    cases st <;> simp_all [isFailed]
  unfold tick
  simp only [Action.run_bind, Action.run_get, hok, Bool.false_eq_true, if_false]
  rw [Action.run_tryCatch]
  have hrun : (runSteps 6).run s = (.error e, s₂) := by
    simp only [runSteps, Action.run_bind, Action.run_get, hst, h₁, hst₁, h₂]
  rw [Action.run_bind, hrun]
  simp only [Action.run_bind, say_run, Action.run_modify, Action.run_throw]

/-- The same for a property of OEM sessions, which only OEM steps have to keep. -/
theorem reachable_induct (hoem : ∀ s, P s → ∃ st, s.phase = .oem st) (hstep : StepsKeep P)
    (hmeet : ∀ w s, P s → P (meetPort w s)) {s₀ s : Session LoggedPort} (h₀ : P s₀)
    (h : Reachable s₀ s) : P s :=
  reachable_induct_all (hstep.all hoem) hmeet h₀ h

end Induction

end Session

end RadioFlash
