import RadioFlash.Host.Native
/-!
# A scripted device

A device on the far end of a pseudo-terminal that answers by rules. It keeps what it has heard
since its last answer; when that contains the trigger of its next rule, it writes the rule's
reply, forgets what it heard up to the end of the trigger, and moves to the following rule. The
rules are used in order, each once.
-/

namespace RadioFlash

/-- One rule: when `trigger` has been heard, answer `reply`. -/
structure Cue where
  trigger : List UInt8
  reply : List UInt8
deriving Inhabited, Repr

/-- The device: rules still to use, and what it heard since its last answer. -/
structure Responder where
  cues : List Cue
  heard : List UInt8 := []
deriving Inhabited, Repr

/-- Where `needle` first occurs in `hay`, if it does. -/
def findSub (needle : List UInt8) : List UInt8 → Nat → Option Nat
  | [], i => if needle.isEmpty then some i else none
  | b :: rest, i => if needle.isPrefixOf (b :: rest) then some i else findSub needle rest (i + 1)

namespace Responder

/-- Use the rules whose triggers have been heard, in order, collecting their replies. -/
def answer (cues : List Cue) (heard : List UInt8) (said : List UInt8) :
    List Cue × List UInt8 × List UInt8 :=
  match cues with
  | [] => ([], heard, said)
  | c :: rest =>
    match findSub c.trigger heard 0 with
    | some i => answer rest (heard.drop (i + c.trigger.length)) (said ++ c.reply)
    | none => (cues, heard, said)

/-- Hear everything the port sent and answer what the rules call for. -/
def react (r : Responder) (p : NativePort) : Responder × NativePort :=
  let (bs, p) := p.deviceReceive terminalCapacity
  let (cues, heard, said) := answer r.cues (r.heard ++ bs) []
  ({ cues, heard }, if said.isEmpty then p else p.deviceSend said)

end Responder

end RadioFlash
