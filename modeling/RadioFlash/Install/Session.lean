import RadioFlash.Install.Ebl
import RadioFlash.Install.Oem
/-!
# Running an install session

A tick runs steps of the session's procedure until one yields, at most six: the steps that go
on within one tick form chains of at most four. An error is final: the session moves to its
failure step, and every later tick fails with `sessionFailed`.
-/

namespace RadioFlash

namespace Session

variable {π : Type} [SerialLink π]

/-- Where the session's own notes come from. -/
def sessionOrigin : String := "xbflash::install"

/-- Run steps until one yields, at most `fuel`. -/
def runSteps : Nat → Action (Session π) Xmodem.Status
  | 0 => pure .pending
  | fuel + 1 => do
    let step ← match (← get).phase with
      | .ebl st => stepEbl st
      | .oem st => stepOem st
    match step with
    | .goOn => runSteps fuel
    | .pause => pure (if (← get).isComplete then .complete else .pending)

/-- Do one bounded unit of work. -/
def tick : Action (Session π) Xmodem.Status := do
  if (← get).isFailed then throw .sessionFailed
  try
    let status ← runSteps 6
    if status = .complete then
      let k := (← get).kind.name
      say sessionOrigin .info s!"Install of {k} image complete"
    pure status
  catch e =>
    let m := e.message
    say sessionOrigin .warn s!"Install failed: {m}"
    modify fun s => { s with phase := match s.phase with
      | .ebl _ => .ebl .failure
      | .oem _ => .oem .failure }
    throw e

/-- A description of the current step. -/
def status (s : Session π) : String :=
  match s.phase with
  | .ebl st => s.eblStatus st
  | .oem st => s.oemStatus st

/-- A value that changes whenever the step or the transfer position changes. -/
def progressToken (s : Session π) : UInt32 :=
  match s.phase with
  | .ebl st => s.eblToken st
  | .oem st => s.oemToken st

end Session

end RadioFlash
