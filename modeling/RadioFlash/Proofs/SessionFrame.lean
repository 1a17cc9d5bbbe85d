import RadioFlash.Proofs.CommandSteps
/-!
# What every run of a session keeps

A frame is what a run may change of a state, given as a reflexive and transitive relation between
the state before and the state after; `Action.Keeps F m` says every run of `m` stays in the frame,
whether it succeeds or fails. The closure lemmas (`Keeps.bind`, `Keeps.focus`, `Keeps.tryCatch`)
carry it from the primitive calls up to whole procedures, so each procedure is checked once by
following its own structure.

For a session on a logged link the frame is `Session.Follows`: the log only grows, and the image,
its read limit, the force flag and the module's settings stay. Every step of the OEM procedure
keeps it (`Session.stepOem_keeps`), so every state an OEM session reaches follows its start, under
any surroundings (`Session.reachable_follows`).
-/

namespace RadioFlash

/-- What a run may change of a state, as a reflexive and transitive relation between the state
before and the state after. -/
structure Frame (σ : Type) where
  rel : σ → σ → Prop
  refl : ∀ s, rel s s
  trans : ∀ {a b c}, rel a b → rel b c → rel a c

namespace Action

variable {σ τ α β : Type}

/-- Every run of `m` stays within the frame `F`, whether it succeeds or fails. -/
@[irreducible] def Keeps (F : Frame σ) (m : Action σ α) : Prop := ∀ s, F.rel s (m.run s).2

/-- An action keeps a frame when every run relates its states by it. -/
theorem keeps_iff {F : Frame σ} {m : Action σ α} : Keeps F m ↔ ∀ s, F.rel s (m.run s).2 := by
  unfold Keeps
  exact Iff.rfl

namespace Keeps

variable {F : Frame σ}

/-- Answering a value keeps every frame. -/
theorem pure (a : α) : Keeps F (pure a : Action σ α) := keeps_iff.mpr F.refl

/-- Failing keeps every frame. -/
theorem throw (e : Error) : Keeps F (throw e : Action σ α) := keeps_iff.mpr F.refl

/-- Reading the state keeps every frame. -/
theorem get : Keeps F (get : Action σ σ) := keeps_iff.mpr F.refl

/-- A change the frame allows keeps it. -/
theorem modify {f : σ → σ} (h : ∀ s, F.rel s (f s)) : Keeps F (modify f : Action σ PUnit) :=
  keeps_iff.mpr h

/-- A sequence of actions that keep a frame keeps it. -/
theorem bind {m : Action σ α} {f : α → Action σ β} (hm : Keeps F m) (hf : ∀ a, Keeps F (f a)) :
    Keeps F (m >>= f) := by
  rw [keeps_iff] at hm ⊢
  intro s
  rw [run_bind]
  rcases h : m.run s with ⟨_ | a, s'⟩
  · have hs := hm s
    rw [h] at hs
    exact hs
  · have hs := hm s
    rw [h] at hs
    exact F.trans hs (keeps_iff.mp (hf a) s')

/-- Mapping the answer keeps the frame. -/
theorem map {m : Action σ α} (f : α → β) (hm : Keeps F m) : Keeps F (f <$> m) :=
  keeps_iff.mpr fun s => by simpa only [run_map] using keeps_iff.mp hm s

/-- A handled action keeps a frame when the action and every handler keep it. -/
theorem tryCatch {m : Action σ α} {h : Error → Action σ α} (hm : Keeps F m)
    (hh : ∀ e, Keeps F (h e)) : Keeps F (tryCatch m h) := by
  rw [keeps_iff] at hm ⊢
  intro s
  rw [run_tryCatch]
  rcases hr : m.run s with ⟨_ | a, s'⟩
  · have hs := hm s
    rw [hr] at hs
    exact F.trans hs (keeps_iff.mp (hh _) s')
  · have hs := hm s
    rw [hr] at hs
    exact hs

/-- An action on a part keeps a frame when putting back what the part's frame allows does. -/
theorem focus {G : Frame τ} {g : σ → τ} {p : τ → σ → σ} {m : Action τ α} (hm : Keeps G m)
    (hp : ∀ s t, G.rel (g s) t → F.rel s (p t s)) : Keeps F (Action.focus g p m) :=
  keeps_iff.mpr fun s => hp s _ (keeps_iff.mp hm (g s))

end Keeps

end Action

open RadioFlash.Action

namespace Source

/-- A source's image and read limit, which seeking and reading never change. -/
def frame : Frame Source where
  rel s s' := s'.data = s.data ∧ s'.readLimit = s.readLimit
  refl _ := ⟨rfl, rfl⟩
  trans h₁ h₂ := ⟨h₂.1.trans h₁.1, h₂.2.trans h₁.2⟩

/-- A seek keeps the image and the read limit. -/
theorem seek_keeps (o : UInt32) : Keeps frame (seek o) := by
  rw [keeps_iff]
  intro s
  simp only [seek, Action.run_bind, Action.run_get]
  split
  · exact frame.refl s
  · exact ⟨rfl, rfl⟩

/-- A read keeps the image and the read limit. -/
theorem read_keeps (n : Nat) : Keeps frame (read n) :=
  keeps_iff.mpr fun _ => ⟨rfl, rfl⟩

/-- A full read keeps the image and the read limit. -/
theorem readFull_keeps (n : Nat) : Keeps frame (readFull n) := by
  rw [keeps_iff]
  intro s
  rw [readFull_run]
  split <;> exact ⟨rfl, rfl⟩

/-- Reading a byte keeps the image and the read limit. -/
theorem readU8_keeps : Keeps frame readU8 :=
  Keeps.bind (readFull_keeps 1) fun _ => Keeps.pure _

/-- Reading a word keeps the image and the read limit. -/
theorem readU16_keeps : Keeps frame readU16 :=
  Keeps.bind (readFull_keeps 2) fun _ => Keeps.pure _

/-- Reading a double word keeps the image and the read limit. -/
theorem readU32_keeps : Keeps frame readU32 :=
  Keeps.bind (readFull_keeps 4) fun _ => Keeps.pure _

/-- Reading the header keeps the image and the read limit. -/
theorem readFrom_keeps : Keeps frame OemHeader.readFrom := by
  unfold OemHeader.readFrom
  refine Keeps.bind (seek_keeps 0) fun _ => Keeps.bind (readFull_keeps 16) fun bytes => ?_
  split
  · exact Keeps.pure _
  · exact Keeps.throw _

/-- The image side of a source paired with a buffer. -/
def pairFrame : Frame (Source × Array UInt8) where
  rel p p' := frame.rel p.1 p'.1
  refl p := frame.refl p.1
  trans := frame.trans

/-- An image action beside a buffer keeps the image side. -/
theorem onImage_keeps {α : Type} {m : Action Source α} (hm : Keeps frame m) :
    Keeps pairFrame (Action.focus Prod.fst (fun s p => (s, p.2)) m) :=
  Keeps.focus hm fun _ _ h => h

/-- Summing the image in pieces keeps the image side. Strong induction on the bytes still to read,
as `sumChunks` recurses. -/
theorem sumChunks_keeps (chunk : Nat) (hc : 0 < chunk) :
    ∀ rem sum, Keeps pairFrame (sumChunks chunk hc rem sum) := by
  intro rem
  induction rem using Nat.strongRecOn with
  | _ rem ih =>
  intro sum
  rw [sumChunks]
  split
  · exact Keeps.pure _
  · refine Keeps.bind (onImage_keeps (readFull_keeps _)) fun piece => ?_
    refine Keeps.bind (Keeps.modify fun p => pairFrame.refl p) fun _ => ?_
    exact ih _ (by omega) _

/-- Checking the image keeps the image side. -/
theorem verify_keeps : Keeps pairFrame verify := by
  unfold verify
  repeat' first
    | exact Keeps.pure _
    | exact Keeps.throw _
    | exact Keeps.get
    | exact onImage_keeps readFrom_keeps
    | exact onImage_keeps (seek_keeps _)
    | exact sumChunks_keeps _ _ _ _
    | apply Keeps.bind
    | intro _
    | split
    | dsimp only

/-- Walking the block chain keeps the image and the read limit. Strong induction on the room left,
as `walkBlocks` recurses. -/
theorem walkBlocks_keeps (fl : Nat) : ∀ o chain, Keeps frame (walkBlocks fl o chain) := by
  intro o
  induction h : fl - o using Nat.strongRecOn generalizing o with
  | _ m ih =>
  intro chain
  rw [walkBlocks]
  split
  · exact Keeps.throw _
  refine Keeps.bind (seek_keeps _) fun _ => Keeps.bind readU16_keeps fun len => ?_
  dsimp only
  split
  · exact Keeps.pure _
  split
  · exact Keeps.throw _
  · exact ih _ (by omega) _ rfl _

/-- Counting the blocks keeps the image and the read limit. -/
theorem countBlocks_keeps (header : OemHeader) : Keeps frame (countBlocks header) :=
  walkBlocks_keeps _ _ _

end Source

namespace LoggedPort

/-- A logged port's log, which every call only extends. -/
def frame : Frame LoggedPort where
  rel l l' := l.log <+: l'.log
  refl _ := List.prefix_refl _
  trans h₁ h₂ := h₁.trans h₂

/-- A read only extends the log. -/
theorem read_keeps (n : Nat) : Keeps frame (SerialLink.read n : Action LoggedPort _) :=
  keeps_iff.mpr fun l => by simp [frame]

/-- A write only extends the log. -/
theorem write_keeps (bs : List UInt8) : Keeps frame (SerialLink.write bs : Action LoggedPort _) :=
  keeps_iff.mpr fun l => by simp [frame]

/-- An open only extends the log. -/
theorem reopen_keeps (b : UInt32) : Keeps frame (SerialLink.reopen b : Action LoggedPort _) := by
  rw [keeps_iff]
  intro l
  rw [reopen_run]
  split <;> simp [frame]

/-- Flow control only extends the log. -/
theorem setFlowControl_keeps (on : Bool) :
    Keeps frame (SerialLink.setFlowControl on : Action LoggedPort _) :=
  keeps_iff.mpr fun l => by simp [frame]

/-- The break only extends the log. -/
theorem setBreak_keeps (on : Bool) : Keeps frame (SerialLink.setBreak on : Action LoggedPort _) :=
  keeps_iff.mpr fun l => by simp [frame]

/-- RTS only extends the log. -/
theorem setRts_keeps (on : Bool) : Keeps frame (SerialLink.setRts on : Action LoggedPort _) :=
  keeps_iff.mpr fun l => by simp [frame]

/-- The reset line only extends the log. -/
theorem setReset_keeps (a : Bool) : Keeps frame (SerialLink.setReset a : Action LoggedPort _) :=
  keeps_iff.mpr fun l => by simp [frame]

/-- Flushing only extends the log. -/
theorem flushRx_keeps : Keeps frame (SerialLink.flushRx : Action LoggedPort _) :=
  keeps_iff.mpr fun l => by simp [frame]

/-- Asking for the bytes waiting only extends the log. -/
theorem rxAvailable_keeps : Keeps frame (SerialLink.rxAvailable : Action LoggedPort _) :=
  keeps_iff.mpr fun l => by simp [frame]

/-- Asking for the room only extends the log. -/
theorem txFree_keeps : Keeps frame (SerialLink.txFree : Action LoggedPort _) :=
  keeps_iff.mpr fun l => by simp [frame]

/-- A note keeps the log. -/
theorem say_keeps (level : Level) (origin text : String) :
    Keeps frame (SerialLink.say level origin text : Action LoggedPort _) :=
  keeps_iff.mpr fun l => frame.refl l

/-- Reading a byte only extends the log. -/
theorem readByte_keeps : Keeps frame (SerialLink.readByte : Action LoggedPort _) :=
  Keeps.bind (read_keeps 1) fun _ => Keeps.pure _

/-- Writing a byte only extends the log. -/
theorem writeByte_keeps (b : UInt8) : Keeps frame (SerialLink.writeByte b : Action LoggedPort _) := by
  unfold SerialLink.writeByte
  refine Keeps.bind (write_keeps _) fun n => ?_
  split
  · exact Keeps.throw _
  · exact Keeps.pure _

/-- Pulsing the reset line only extends the log. -/
theorem pulseReset_keeps : Keeps frame (SerialLink.pulseReset : Action LoggedPort _) :=
  Keeps.bind (setReset_keeps true) fun _ => setReset_keeps false

end LoggedPort

namespace Target

/-- A target's log, which only grows, and its command-mode settings, which never change. -/
def frame : Frame (Target LoggedPort) where
  rel t t' := t.port.log <+: t'.port.log ∧ t'.config = t.config
  refl _ := ⟨List.prefix_refl _, rfl⟩
  trans h₁ h₂ := ⟨h₁.1.trans h₂.1, h₂.2.trans h₁.2⟩

/-- A link action that only extends the log keeps the target's frame. -/
theorem onPort_keeps {α : Type} {m : Action LoggedPort α} (hm : Keeps LoggedPort.frame m) :
    Keeps frame (onPort m) :=
  Keeps.focus hm fun _ _ h => ⟨h, rfl⟩

/-- A target's note keeps its frame. -/
theorem say_keeps (level : Level) (text : String) : Keeps frame (say level text : Action (Target LoggedPort) _) :=
  onPort_keeps (LoggedPort.say_keeps _ _ _)

/-- A command-mode tick keeps the target's frame. -/
theorem tick_keeps : Keeps frame (tick : Action (Target LoggedPort) _) := by
  rw [keeps_iff]
  intro t
  rcases h : tick.run t with ⟨r, t'⟩
  obtain ⟨calls, -, ht'⟩ := tick_calls t h
  rw [ht']
  exact ⟨List.prefix_append _ _, rfl⟩

/-- Sending a request keeps the target's frame. -/
theorem sendRequest_keeps (cmd : List UInt8) : Keeps frame (sendRequest cmd) := by
  rw [keeps_iff]
  intro t
  rw [sendRequest_run]
  dsimp only
  split <;> exact ⟨List.prefix_append _ _, rfl⟩

/-- Asking for command mode keeps the target's frame. -/
theorem enter_keeps : Keeps frame (enter : Action (Target LoggedPort) _) := by
  rw [keeps_iff]
  intro t
  have htick := keeps_iff.mp tick_keeps t
  rw [enter_run]
  rcases h : tick.run t with ⟨_ | m, t'⟩ <;> rw [h] at htick
  · exact htick
  · dsimp only
    split
    · exact htick
    · exact htick

/-- Leaving command mode keeps the target's frame. -/
theorem exit_keeps : Keeps frame (exit : Action (Target LoggedPort) _) := by
  rw [keeps_iff]
  intro t
  have htick := keeps_iff.mp tick_keeps t
  rw [exit_run]
  rcases h : tick.run t with ⟨_ | m, t'⟩ <;> rw [h] at htick
  · exact htick
  have hreq := keeps_iff.mp (sendRequest_keeps [67, 78]) t'
  cases m with
  | command =>
    dsimp only
    rcases hr : (sendRequest [67, 78]).run t' with ⟨_ | _, t''⟩ <;> rw [hr] at hreq
    · exact frame.trans htick hreq
    · exact frame.trans htick hreq
  | _ => exact htick

/-- Resetting the module keeps the target's frame. -/
theorem resetModule_keeps : Keeps frame (resetModule : Action (Target LoggedPort) _) := by
  rw [keeps_iff]
  intro t
  rw [resetModule_run]
  exact ⟨List.prefix_append _ _, rfl⟩

/-- The target side of a target paired with a line buffer. -/
def lineFrame : Frame (Target LoggedPort × LineBuffer) where
  rel p p' := frame.rel p.1 p'.1
  refl p := frame.refl p.1
  trans := frame.trans

/-- A target action beside a line buffer keeps the target side. -/
theorem withLine_keeps {α : Type} {m : Action (Target LoggedPort) α} (hm : Keeps frame m) :
    Keeps lineFrame (withLine m) :=
  Keeps.focus hm fun _ _ h => h

/-- Scanning a response line keeps the target side, for every bound on the bytes read. -/
theorem scanLine_keeps : ∀ fuel, Keeps lineFrame (scanLine fuel : Action (Target LoggedPort × LineBuffer) _)
  | 0 => Keeps.pure _
  | fuel + 1 => by
    unfold scanLine
    repeat' first
      | exact Keeps.pure _
      | exact Keeps.throw _
      | exact Keeps.get
      | exact Keeps.modify fun p => lineFrame.refl p
      | exact withLine_keeps (onPort_keeps LoggedPort.readByte_keeps)
      | exact scanLine_keeps fuel
      | apply Keeps.bind
      | intro _
      | split
      | dsimp only

/-- Reading a command response keeps the target side. -/
theorem readResponse_keeps : Keeps lineFrame (readResponse : Action (Target LoggedPort × LineBuffer) _) := by
  unfold readResponse
  repeat' first
    | exact Keeps.pure _
    | exact Keeps.throw _
    | exact Keeps.get
    | exact Keeps.modify fun p => lineFrame.refl p
    | exact withLine_keeps (say_keeps _ _)
    | exact scanLine_keeps _
    | apply Keeps.bind
    | intro _
    | split
    | dsimp only

end Target

namespace Session

/-- `s'` came from `s` by calls on the link: the log only grew, and the image, its read limit,
the force flag and the module's settings stayed. -/
structure Follows (s s' : Session LoggedPort) : Prop where
  log : s.target.port.log <+: s'.target.port.log
  data : s'.source.data = s.source.data
  readLimit : s'.source.readLimit = s.source.readLimit
  force : s'.force = s.force
  config : s'.target.config = s.target.config
  /-- An OEM session stays in the OEM procedure. -/
  oem : (∃ st, s.phase = .oem st) → ∃ st, s'.phase = .oem st

/-- A session follows itself. -/
theorem Follows.refl (s : Session LoggedPort) : Follows s s :=
  ⟨List.prefix_refl _, rfl, rfl, rfl, rfl, id⟩

/-- Following is transitive. -/
theorem Follows.trans {s₁ s₂ s₃ : Session LoggedPort} (h₁ : Follows s₁ s₂) (h₂ : Follows s₂ s₃) :
    Follows s₁ s₃ :=
  ⟨h₁.log.trans h₂.log, h₂.data.trans h₁.data, h₂.readLimit.trans h₁.readLimit,
    h₂.force.trans h₁.force, h₂.config.trans h₁.config, fun h => h₂.oem (h₁.oem h)⟩

/-- What every run of a session keeps. -/
def frame : Frame (Session LoggedPort) where
  rel := Follows
  refl := Follows.refl
  trans := Follows.trans

/-- A target action that keeps its frame keeps the session's. -/
theorem onTarget_keeps {α : Type} {m : Action (Target LoggedPort) α} (hm : Keeps Target.frame m) :
    Keeps frame (onTarget m) :=
  Keeps.focus hm fun _ _ h => ⟨h.1, rfl, rfl, rfl, h.2, id⟩

/-- A link action that only extends the log keeps the session's frame. -/
theorem onPort_keeps {α : Type} {m : Action LoggedPort α} (hm : Keeps LoggedPort.frame m) :
    Keeps frame (onPort m) :=
  onTarget_keeps (Target.onPort_keeps hm)

/-- An image action that keeps the image keeps the session's frame. -/
theorem onSource_keeps {α : Type} {m : Action Source α} (hm : Keeps Source.frame m) :
    Keeps frame (onSource m) :=
  Keeps.focus hm fun _ _ h => ⟨List.prefix_refl _, h.1, h.2, rfl, rfl, id⟩

/-- A session's note keeps its frame. -/
theorem say_keeps (origin : String) (level : Level) (text : String) :
    Keeps frame (say origin level text : Action (Session LoggedPort) _) :=
  onPort_keeps (LoggedPort.say_keeps _ _ _)

/-- Moving to an OEM step keeps the session's frame. -/
theorem gotoOem_keeps (st : OemState) : Keeps frame (gotoOem st : Action (Session LoggedPort) _) :=
  keeps_iff.mpr fun s => by
    rw [gotoOem_run]
    exact ⟨List.prefix_refl _, rfl, rfl, rfl, rfl, fun _ => ⟨st, rfl⟩⟩

/-- A pure check's result keeps the session's frame. -/
theorem ofExcept_keeps {α : Type} (r : Except Error α) :
    Keeps frame (ofExcept r : Action (Session LoggedPort) α) :=
  keeps_iff.mpr fun s => by
    rw [ofExcept_run]
    exact Follows.refl s

/-- Sending a request keeps the session's frame. -/
theorem request_keeps (cmd : List UInt8) (next : OemState) :
    Keeps frame (request cmd next : Action (Session LoggedPort) _) := by
  rw [keeps_iff]
  intro s
  rw [request_run]
  dsimp only
  split
  · exact ⟨List.prefix_append _ _, rfl, rfl, rfl, rfl, id⟩
  · exact ⟨List.prefix_append _ _, rfl, rfl, rfl, rfl, fun _ => ⟨_, rfl⟩⟩

/-- Collecting a response keeps the session's frame. -/
theorem collectResponse_keeps : Keeps frame (collectResponse : Action (Session LoggedPort) _) :=
  Keeps.focus Target.readResponse_keeps fun _ _ h => ⟨h.1, rfl, rfl, rfl, h.2, id⟩

/-- Opening the echo block keeps the session's frame. -/
theorem expectEcho_keeps (p : OemProgress) :
    Keeps frame (expectEcho p : Action (Session LoggedPort) _) := by
  unfold expectEcho armTimer
  repeat' first
    | with_reducible exact Keeps.pure _
    | (with_reducible apply Keeps.modify); intro _; exact ⟨List.prefix_refl _, rfl, rfl, rfl, rfl, id⟩
    | with_reducible exact say_keeps _ _ _
    | with_reducible exact gotoOem_keeps _
    | with_reducible exact ofExcept_keeps _
    | with_reducible exact Source.seek_keeps _
    | with_reducible exact Source.readU16_keeps
    | with_reducible apply onSource_keeps
    | with_reducible apply Keeps.bind
    | intro _

/-- Moving on after a matched echo keeps the session's frame. -/
theorem echoMatched_keeps (p : OemProgress) :
    Keeps frame (echoMatched p : Action (Session LoggedPort) _) := by
  unfold echoMatched
  repeat' first
    | with_reducible exact Keeps.pure _
    | (with_reducible apply Keeps.modify); intro _; exact ⟨List.prefix_refl _, rfl, rfl, rfl, rfl, id⟩
    | with_reducible exact gotoOem_keeps _
    | with_reducible apply Keeps.bind
    | intro _

/-- Streaming the outbound block keeps the session's frame. -/
theorem sendBlock_keeps : Keeps frame (sendBlock : Action (Session LoggedPort) _) := by
  unfold sendBlock
  repeat' first
    | with_reducible exact Keeps.pure _
    | with_reducible exact Keeps.get
    | (with_reducible apply Keeps.modify); intro _; exact ⟨List.prefix_refl _, rfl, rfl, rfl, rfl, id⟩
    | with_reducible exact Source.seek_keeps _
    | with_reducible exact Source.readFull_keeps _
    | with_reducible exact LoggedPort.write_keeps _
    | with_reducible exact LoggedPort.txFree_keeps
    | with_reducible exact expectEcho_keeps _
    | with_reducible apply onSource_keeps
    | with_reducible apply onPort_keeps
    | with_reducible apply Keeps.bind
    | intro _
    | split
    | dsimp only

/-- Comparing a piece of echo keeps the session's frame. -/
theorem checkEcho_keeps (p : OemProgress) (received : List UInt8) :
    Keeps frame (checkEcho p received : Action (Session LoggedPort) _) := by
  unfold checkEcho
  repeat' first
    | with_reducible exact Keeps.pure _
    | (with_reducible apply Keeps.modify); intro _; exact ⟨List.prefix_refl _, rfl, rfl, rfl, rfl, id⟩
    | with_reducible exact say_keeps _ _ _
    | with_reducible exact gotoOem_keeps _
    | with_reducible exact Source.seek_keeps _
    | with_reducible exact Source.readFull_keeps _
    | with_reducible exact echoMatched_keeps _
    | with_reducible apply onSource_keeps
    | with_reducible apply Keeps.bind
    | intro _
    | split
    | dsimp only

/-- Reading and comparing the echo keeps the session's frame. -/
theorem compareEcho_keeps : Keeps frame (compareEcho : Action (Session LoggedPort) _) := by
  unfold compareEcho
  repeat' first
    | with_reducible exact Keeps.pure _
    | with_reducible exact Keeps.get
    | with_reducible exact say_keeps _ _ _
    | with_reducible exact gotoOem_keeps _
    | with_reducible exact LoggedPort.read_keeps _
    | with_reducible exact echoMatched_keeps _
    | with_reducible exact checkEcho_keeps _ _
    | with_reducible apply onPort_keeps
    | with_reducible apply Keeps.bind
    | intro _
    | split
    | dsimp only

/-- Every step of the OEM procedure only adds calls to the log, and keeps the image, the force flag
and the module's settings. -/
theorem stepOem_keeps (st : OemState) : Keeps frame (stepOem st : Action (Session LoggedPort) _) := by
  cases st <;> unfold stepOem <;> try unfold armTimer imageByte
  all_goals
  repeat' first
      | with_reducible exact Keeps.pure _
      | with_reducible exact Keeps.throw _
      | with_reducible exact Keeps.get
      | (with_reducible apply Keeps.modify); intro _; exact ⟨List.prefix_refl _, rfl, rfl, rfl, rfl, id⟩
      | with_reducible exact say_keeps _ _ _
      | with_reducible exact gotoOem_keeps _
      | with_reducible exact ofExcept_keeps _
      | with_reducible exact request_keeps _ _
      | with_reducible exact collectResponse_keeps
      | with_reducible exact Source.seek_keeps _
      | with_reducible exact Source.readFull_keeps _
      | with_reducible exact Source.readU8_keeps
      | with_reducible exact Source.readU16_keeps
      | with_reducible exact Source.readU32_keeps
      | with_reducible exact LoggedPort.read_keeps _
      | with_reducible exact LoggedPort.write_keeps _
      | with_reducible exact LoggedPort.reopen_keeps _
      | with_reducible exact LoggedPort.setFlowControl_keeps _
      | with_reducible exact LoggedPort.setBreak_keeps _
      | with_reducible exact LoggedPort.setRts_keeps _
      | with_reducible exact LoggedPort.flushRx_keeps
      | with_reducible exact LoggedPort.txFree_keeps
      | with_reducible exact LoggedPort.readByte_keeps
      | with_reducible exact LoggedPort.writeByte_keeps _
      | with_reducible exact Target.tick_keeps
      | with_reducible exact Target.enter_keeps
      | with_reducible exact Target.exit_keeps
      | with_reducible exact Target.resetModule_keeps
      | with_reducible exact sendBlock_keeps
      | with_reducible exact compareEcho_keeps
      | (with_reducible apply Keeps.focus Source.verify_keeps); intro _ _ h; exact ⟨List.prefix_refl _, h.1, h.2, rfl, rfl, id⟩
      | with_reducible exact Source.countBlocks_keeps _
      | with_reducible apply onSource_keeps
      | with_reducible apply onPort_keeps
      | with_reducible apply onTarget_keeps
      | with_reducible apply Keeps.bind
      | intro _
      | split
      | dsimp only

/-- Settling a tick's end keeps what every run of a session keeps. -/
theorem settle_follows {α : Type} (r : Except Error α) (s : Session LoggedPort) :
    Follows s (settle r s) := by
  cases r with
  | ok a => exact Follows.refl s
  | error e =>
    refine ⟨List.prefix_refl _, rfl, rfl, rfl, rfl, ?_⟩
    rintro ⟨st, hst⟩
    exact ⟨.failure, by simp [settle, hst]⟩

/-- A change of surroundings keeps what every run of a session keeps. -/
theorem meetPort_follows (w : Surroundings) (s : Session LoggedPort) : Follows s (meetPort w s) :=
  ⟨List.prefix_refl _, rfl, rfl, rfl, rfl, id⟩

/-- Whatever the surroundings do, an OEM session's log only grows from its start, and its image,
force flag and the module's settings stay those it started with. -/
theorem reachable_follows {s₀ s : Session LoggedPort} (h₀ : ∃ st, s₀.phase = .oem st)
    (h : Reachable s₀ s) : Follows s₀ s := by
  have hstep : StepsKeep (Follows s₀) := by
    intro s st r s' hs hst hrun
    have hs' : Follows s s' := by
      have := keeps_iff.mp (stepOem_keeps st) s
      rwa [hrun] at this
    exact hs.trans (hs'.trans (settle_follows r s'))
  exact reachable_induct (fun s hs => hs.oem h₀) hstep (fun w s hs => hs.trans (meetPort_follows w s))
    (Follows.refl s₀) h

end Session

end RadioFlash