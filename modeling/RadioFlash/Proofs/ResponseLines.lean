import RadioFlash.Proofs.XmodemFailure
import RadioFlash.Proofs.WrappingDeadlines
/-!
# Collecting a response line

After a request the target waits for the module's response: a line of bytes ended by a carriage
return. The caller collects it by calling `readResponse` again and again with one buffer, whose
cursor says how much of the line is in. Each call moves the bytes received since the last one into
the buffer, one at a time, checking for room before every read.

The line arrives in pieces of any size between the calls. Whatever the split, the calls answer
`none` until the carriage return is in, and then the length of the line, which is in the buffer;
the mode moves to command mode (idle after `ATCN`), and what follows the carriage return stays
unread (`pollLines_line`). A line needs one byte of room more than it has, since the room is
checked before the carriage return is read: a line as long as the buffer or longer fails with
`insufficientSpace`, in the call that fills the buffer and in every call after it
(`pollLines_overflow`). A call that finds nothing 2000 ms or more after the request times out, with
the same change of mode; a call outside a wait for a response is refused and changes nothing.
-/

namespace RadioFlash

namespace LineBuffer

/-- Store a byte at the cursor and move the cursor past it. -/
def put (b : LineBuffer) (x : UInt8) : LineBuffer :=
  { bytes := b.bytes.setIfInBounds b.cursor x, cursor := b.cursor + 1 }

/-- Store bytes one after another from the cursor on. -/
def putAll (b : LineBuffer) (s : List UInt8) : LineBuffer :=
  s.foldl put b

/-- Storing nothing leaves the buffer. -/
@[simp] theorem putAll_nil (b : LineBuffer) : b.putAll [] = b := rfl

/-- Storing bytes stores the first, then the rest. -/
theorem putAll_cons (b : LineBuffer) (x : UInt8) (s : List UInt8) :
    b.putAll (x :: s) = (b.put x).putAll s := rfl

/-- Storing two runs of bytes stores one after the other. -/
theorem putAll_append (b : LineBuffer) (s s' : List UInt8) :
    b.putAll (s ++ s') = (b.putAll s).putAll s' := by
  simp [putAll, List.foldl_append]

/-- Storing bytes keeps the buffer's size. -/
@[simp] theorem putAll_size (b : LineBuffer) (s : List UInt8) :
    (b.putAll s).bytes.size = b.bytes.size := by
  induction s generalizing b with
  | nil => rfl
  | cons x s ih => simp [putAll_cons, ih, put]

/-- Storing bytes moves the cursor past them. -/
@[simp] theorem putAll_cursor (b : LineBuffer) (s : List UInt8) :
    (b.putAll s).cursor = b.cursor + s.length := by
  induction s generalizing b with
  | nil => rfl
  | cons x s ih =>
    rw [putAll_cons, ih]
    simp only [put, List.length_cons]
    omega

/-- A byte stored where there is room extends what the buffer holds up to its cursor. -/
theorem put_contents (b : LineBuffer) (x : UInt8) (hroom : b.cursor < b.bytes.size) :
    ((b.put x).bytes.extract 0 (b.put x).cursor).toList = (b.bytes.extract 0 b.cursor).toList ++ [x] := by
  simp only [put, Array.toList_extract, Array.toList_setIfInBounds, List.extract_eq_take_drop,
    List.drop_zero, Nat.sub_zero]
  rw [List.take_set, List.take_add_one, List.set_append]
  have hmin : min b.cursor b.bytes.size = b.cursor := Nat.min_eq_left (Nat.le_of_lt hroom)
  simp [hmin, Array.getElem?_eq_getElem hroom]

/-- Bytes stored where there is room for all of them extend what the buffer holds. -/
theorem putAll_contents (b : LineBuffer) (s : List UInt8) (hroom : b.cursor + s.length ≤ b.bytes.size) :
    ((b.putAll s).bytes.extract 0 (b.putAll s).cursor).toList = (b.bytes.extract 0 b.cursor).toList ++ s := by
  induction s generalizing b with
  | nil => simp
  | cons x s ih =>
    simp only [List.length_cons] at hroom
    have hnext : (b.put x).cursor + s.length ≤ (b.put x).bytes.size := by
      simp only [put, Array.size_setIfInBounds]
      omega
    rw [putAll_cons, ih _ hnext, put_contents b x (by omega), List.append_assoc]
    rfl

end LineBuffer

namespace LoggedPort

/-- A one-byte read hands over the oldest byte waiting, if any. -/
theorem heard_eq (l : LoggedPort) : l.heard = l.rx.toList.take 1 :=
  ByteQueue.take_fst 1 l.rx

/-- A one-byte read drops the oldest byte waiting. -/
@[simp] theorem readOne_rx (l : LoggedPort) : l.readOne.rx.toList = l.rx.toList.drop 1 :=
  ByteQueue.take_snd 1 l.rx

/-- A one-byte read leaves the clock. -/
@[simp] theorem readOne_now (l : LoggedPort) : l.readOne.now = l.now := rfl

end LoggedPort

/-- The mode a wait for a response ends in: idle after `ATCN`, command mode after any other
request. -/
def Mode.answered (m : Mode) : Mode :=
  if m = .waitIdle then .idle else .command

namespace Target

/-! ## One read of a line scan -/

section Scan

variable {fuel : Nat} {t : Target LoggedPort} {b : LineBuffer}

/-- A scan with room that reads a byte of the line stores it and goes on. -/
theorem scanLine_byte {x : UInt8} (hroom : b.cursor < b.bytes.size) (hx : t.port.heard = [x])
    (hcr : x ≠ 13) :
    (scanLine (fuel + 1)).run (t, b) = (scanLine fuel).run ({ t with port := t.port.readOne }, b.put x) := by
  have hge : ¬ b.cursor ≥ b.bytes.size := by omega
  simp only [scanLine, Action.run_bind, Action.run_get, if_neg hge, withLine, onPort,
    Action.run_focus, LoggedPort.readByte_heard, hx, List.head?_cons, Action.run_modify]
  rfl

/-- A scan with room that reads the carriage return ends the line at the cursor. -/
theorem scanLine_cr (hroom : b.cursor < b.bytes.size) (hx : t.port.heard = [13]) :
    (scanLine (fuel + 1)).run (t, b) = (.ok (.ended b.cursor), ({ t with port := t.port.readOne }, b)) := by
  have hge : ¬ b.cursor ≥ b.bytes.size := by omega
  simp only [scanLine, Action.run_bind, Action.run_get, if_neg hge, withLine, onPort,
    Action.run_focus, LoggedPort.readByte_heard, hx, List.head?_cons]
  rfl

/-- A scan with room that finds nothing to read within the response time waits. The wait is measured
on the clock, which a read leaves as it is. -/
theorem scanLine_waits (hroom : b.cursor < b.bytes.size) (hx : t.port.heard = [])
    (hw : t.waited t.port.now responseTimeoutMs = false) :
    (scanLine (fuel + 1)).run (t, b) = (.ok .waiting, ({ t with port := t.port.readOne }, b)) := by
  have hge : ¬ b.cursor ≥ b.bytes.size := by omega
  simp only [scanLine, Action.run_bind, Action.run_get, if_neg hge, withLine, onPort,
    Action.run_focus, LoggedPort.readByte_heard, hx, List.head?_nil]
  have hw' : ({ t with port := t.port.readOne } : Target LoggedPort).waited
      (SerialLink.millis t.port.readOne) responseTimeoutMs = false := hw
  rw [hw']
  rfl

/-- A scan with room that finds nothing to read once the response time is over gives up. -/
theorem scanLine_times_out (hroom : b.cursor < b.bytes.size) (hx : t.port.heard = [])
    (hw : t.waited t.port.now responseTimeoutMs = true) :
    (scanLine (fuel + 1)).run (t, b) = (.ok .timedOut, ({ t with port := t.port.readOne }, b)) := by
  have hge : ¬ b.cursor ≥ b.bytes.size := by omega
  simp only [scanLine, Action.run_bind, Action.run_get, if_neg hge, withLine, onPort,
    Action.run_focus, LoggedPort.readByte_heard, hx, List.head?_nil]
  have hw' : ({ t with port := t.port.readOne } : Target LoggedPort).waited
      (SerialLink.millis t.port.readOne) responseTimeoutMs = true := hw
  rw [hw']
  rfl

/-- A scan with a full buffer fails before it reads. -/
theorem scanLine_full (hfull : b.bytes.size ≤ b.cursor) :
    (scanLine (fuel + 1)).run (t, b) = (.error .insufficientSpace, (t, b)) := by
  simp only [scanLine, Action.run_bind, Action.run_get, if_pos hfull]
  rfl

/-- A scan with room for the bytes before the next carriage return stores them all, reading them
one at a time, and goes on from there; it leaves the clock, and what follows, to the link. -/
theorem scanLine_bytes {s rest : List UInt8} (hs : 13 ∉ s) :
    ∀ {fuel : Nat} {t : Target LoggedPort} {b : LineBuffer}, s.length ≤ fuel →
      t.port.rx.toList = s ++ rest → b.cursor + s.length ≤ b.bytes.size →
      ∃ port : LoggedPort, port.rx.toList = rest ∧ port.now = t.port.now ∧
        (scanLine fuel).run (t, b) = (scanLine (fuel - s.length)).run ({ t with port }, b.putAll s) := by
  induction s with
  | nil =>
    intro fuel t b _ hrx _
    exact ⟨t.port, by simpa using hrx, rfl, rfl⟩
  | cons x s ih =>
    intro fuel t b hfuel hrx hroom
    simp only [List.length_cons] at hfuel hroom
    obtain ⟨f, rfl⟩ : ∃ f, fuel = f + 1 := ⟨fuel - 1, by omega⟩
    have hx : t.port.heard = [x] := by
      rw [LoggedPort.heard_eq, hrx]
      rfl
    have hcr : x ≠ 13 := fun h => hs (h ▸ List.mem_cons_self ..)
    rw [scanLine_byte (by omega) hx hcr]
    have hrx' : ({ t with port := t.port.readOne } : Target LoggedPort).port.rx.toList = s ++ rest := by
      simp [hrx]
    have hfuel' : s.length ≤ f := by omega
    have hroom' : (b.put x).cursor + s.length ≤ (b.put x).bytes.size := by
      simp only [LineBuffer.put, Array.size_setIfInBounds]
      omega
    obtain ⟨port, hq, hnow, hrun⟩ := ih (fun h => hs (List.mem_cons_of_mem x h)) hfuel' hrx' hroom'
    refine ⟨port, hq, hnow, ?_⟩
    rw [hrun, LineBuffer.putAll_cons, List.length_cons, Nat.add_sub_add_right]

end Scan

/-! ## One call -/

/-- Collecting a response while one is awaited: the line scan from the cursor decides the answer,
and a line or a timeout ends the wait. -/
theorem readResponse_run_of_waiting {t : Target LoggedPort} {b : LineBuffer}
    (hm : t.mode = .waitIdle ∨ t.mode = .waitResponse) :
    readResponse.run (t, b) =
      match (scanLine (b.bytes.size - b.cursor + 1)).run (t, b) with
      | (.ok .waiting, s) => (.ok none, s)
      | (.ok (.ended len), (t', b')) => (.ok (some len), ({ t' with mode := t.mode.answered }, b'))
      | (.ok .timedOut, (t', b')) =>
        (.error (.timeout "no response to AT request"), ({ t' with mode := t.mode.answered }, b'))
      | (.error e, s) => (.error e, s) := by
  simp only [readResponse, Action.run_bind, Action.run_get, hm, ↓reduceIte]
  rcases (scanLine (b.bytes.size - b.cursor + 1)).run (t, b) with ⟨_ | (len | _ | _), t', b'⟩
  · rfl
  · simp [Action.run_bind, withLine, Mode.answered]
  · rfl
  · simp [Action.run_bind, withLine, Mode.answered]

/-- Outside a wait for a response a call is refused and changes nothing. -/
theorem readResponse_refused {t : Target LoggedPort} {b : LineBuffer}
    (hm : ¬ (t.mode = .waitIdle ∨ t.mode = .waitResponse)) :
    readResponse.run (t, b) =
      (.error (.invalidState s!"not waiting for a response (mode {t.mode.name})"), (t, b)) := by
  simp only [readResponse, Action.run_bind, Action.run_get, hm, ↓reduceIte]
  rfl

/-- Within `2000 + 2^31` ms of the request, the response has been waited for exactly when 2000 ms
or more have passed. -/
theorem waited_response_iff {t : Target LoggedPort} {now : Millis}
    (hk : (now - t.modeTimer).toNat < 2000 + halfCircle) :
    t.waited now responseTimeoutMs = true ↔ 2000 ≤ (now - t.modeTimer).toNat := by
  rw [waited, Deadline.elapsed_iff_le_since (by decide) hk, UInt32.le_iff_toNat_le]
  rfl

/-- A call that finds nothing 2000 ms or more (and less than `2000 + 2^31` ms) after the request
times out and ends the wait. -/
theorem readResponse_timeout {t : Target LoggedPort} {b : LineBuffer}
    (hm : t.mode = .waitIdle ∨ t.mode = .waitResponse) (hrx : t.port.rx.toList = [])
    (hroom : b.cursor < b.bytes.size) (hlate : 2000 ≤ (t.port.now - t.modeTimer).toNat)
    (hk : (t.port.now - t.modeTimer).toNat < 2000 + halfCircle) :
    readResponse.run (t, b) =
      (.error (.timeout "no response to AT request"),
        ({ t with port := t.port.readOne, mode := t.mode.answered }, b)) := by
  have hx : t.port.heard = [] := by
    rw [LoggedPort.heard_eq, hrx]
    rfl
  have hw := (waited_response_iff hk).mpr hlate
  rw [readResponse_run_of_waiting hm, scanLine_times_out hroom hx hw]

/-! ## A call after a piece arrived -/

/-- The far end hands over `piece` and the clock moves to `now`. -/
def arrive (piece : List UInt8) (now : Millis) (t : Target LoggedPort) : Target LoggedPort :=
  { t with port := { t.port with rx := t.port.rx.push piece, now } }

/-- After a piece arrives the link's clock is the one it came with. -/
@[simp] theorem arrive_now (piece : List UInt8) (now : Millis) (t : Target LoggedPort) :
    (arrive piece now t).port.now = now := rfl

section Poll

variable {t : Target LoggedPort} {b : LineBuffer}

/-- A piece of the line that leaves room for the carriage return, handed over within the
response time, is stored and answered with `none`. The stored bytes leave room, and nothing more has
come within the response time. -/
theorem poll_partial (now : Millis) {p : List UInt8} (hm : t.mode = .waitIdle ∨ t.mode = .waitResponse)
    (hrx : t.port.rx.toList = []) (hp : 13 ∉ p) (hroom : b.cursor + p.length < b.bytes.size)
    (hnow : (now - t.modeTimer).toNat < 2000) :
    ∃ port : LoggedPort, port.rx.toList = [] ∧
      readResponse.run (arrive p now t, b) = (.ok none, ({ t with port }, b.putAll p)) := by
  have hrx' : (arrive p now t).port.rx.toList = p ++ [] := by simp [arrive, hrx]
  have hfuel : p.length ≤ b.bytes.size - b.cursor + 1 := by omega
  have hfit : b.cursor + p.length ≤ b.bytes.size := by omega
  obtain ⟨port, hq, hclock, hrun⟩ := scanLine_bytes hp hfuel hrx' hfit
  rw [readResponse_run_of_waiting (t := arrive _ now t) hm, hrun,
    show b.bytes.size - b.cursor + 1 - p.length = b.bytes.size - (b.cursor + p.length) + 1 by omega]
  have hx : port.heard = [] := by
    rw [LoggedPort.heard_eq, hq]
    rfl
  have hw : t.waited port.now responseTimeoutMs = false := by
    rw [hclock, arrive_now, Bool.eq_false_iff]
    intro h
    have := (waited_response_iff (by simp only [halfCircle]; omega)).mp h
    omega
  have hleft : (b.putAll p).cursor < (b.putAll p).bytes.size := by simp; omega
  rw [scanLine_waits (t := { arrive p now t with port }) hleft hx hw]
  exact ⟨port.readOne, by simp [hq], rfl⟩

/-- A piece holding the rest of the line and its carriage return ends the wait with the line's
length; what follows the carriage return stays unread. -/
theorem poll_line (now : Millis) {M R : List UInt8} (hm : t.mode = .waitIdle ∨ t.mode = .waitResponse)
    (hrx : t.port.rx.toList = []) (hM : 13 ∉ M) (hroom : b.cursor + M.length < b.bytes.size) :
    ∃ port : LoggedPort, port.rx.toList = R ∧
      readResponse.run (arrive (M ++ 13 :: R) now t, b) =
        (.ok (some (b.cursor + M.length)), ({ t with port, mode := t.mode.answered }, b.putAll M)) := by
  have hrx' : (arrive (M ++ 13 :: R) now t).port.rx.toList = M ++ 13 :: R := by simp [arrive, hrx]
  have hfuel : M.length ≤ b.bytes.size - b.cursor + 1 := by omega
  have hfit : b.cursor + M.length ≤ b.bytes.size := by omega
  obtain ⟨port, hq, -, hrun⟩ := scanLine_bytes hM hfuel hrx' hfit
  rw [readResponse_run_of_waiting (t := arrive _ now t) hm, hrun,
    show b.bytes.size - b.cursor + 1 - M.length = b.bytes.size - (b.cursor + M.length) + 1 by omega]
  have hx : port.heard = [13] := by
    rw [LoggedPort.heard_eq, hq]
    rfl
  have hleft : (b.putAll M).cursor < (b.putAll M).bytes.size := by simp; omega
  rw [scanLine_cr (t := { arrive (M ++ 13 :: R) now t with port }) hleft hx]
  exact ⟨port.readOne, by simp [hq], by simp [arrive]⟩

/-- A piece that fills the buffer before a carriage return fails the call, once the buffer is
full. -/
theorem poll_overflow (now : Millis) {p : List UInt8} (hm : t.mode = .waitIdle ∨ t.mode = .waitResponse)
    (hrx : t.port.rx.toList = []) (hcur : b.cursor ≤ b.bytes.size)
    (hlong : b.bytes.size - b.cursor ≤ p.length) (hp : 13 ∉ p.take (b.bytes.size - b.cursor)) :
    ∃ port : LoggedPort,
      readResponse.run (arrive p now t, b) =
        (.error .insufficientSpace, ({ t with port }, b.putAll (p.take (b.bytes.size - b.cursor)))) := by
  have hrx' : (arrive p now t).port.rx.toList =
      p.take (b.bytes.size - b.cursor) ++ p.drop (b.bytes.size - b.cursor) := by
    simp [arrive, hrx]
  have hlen : (p.take (b.bytes.size - b.cursor)).length = b.bytes.size - b.cursor := by
    simp only [List.length_take]
    omega
  have hfuel : (p.take (b.bytes.size - b.cursor)).length ≤ b.bytes.size - b.cursor + 1 := by omega
  have hfit : b.cursor + (p.take (b.bytes.size - b.cursor)).length ≤ b.bytes.size := by omega
  obtain ⟨port, -, -, hrun⟩ := scanLine_bytes hp hfuel hrx' hfit
  have hfull : (b.putAll (p.take (b.bytes.size - b.cursor))).bytes.size ≤
      (b.putAll (p.take (b.bytes.size - b.cursor))).cursor := by
    simp only [LineBuffer.putAll_size, LineBuffer.putAll_cursor, hlen]
    omega
  rw [readResponse_run_of_waiting (t := arrive _ now t) hm, hrun, hlen, show b.bytes.size - b.cursor + 1 -
    (b.bytes.size - b.cursor) = 0 + 1 by omega, scanLine_full hfull]
  exact ⟨port, by simp [arrive]⟩

/-- With the buffer full, every call fails before it reads. -/
theorem poll_full (now : Millis) {p : List UInt8} (hm : t.mode = .waitIdle ∨ t.mode = .waitResponse)
    (hfull : b.bytes.size ≤ b.cursor) :
    readResponse.run (arrive p now t, b) = (.error .insufficientSpace, (arrive p now t, b)) := by
  rw [readResponse_run_of_waiting (t := arrive p now t) hm,
    show b.bytes.size - b.cursor + 1 = 0 + 1 by omega, scanLine_full hfull]

end Poll

/-! ## Calls after calls -/

/-- Calls of `readResponse` with one buffer, before each of which the far end hands over a piece
and the clock moves on: what each call answers, and where the last leaves the target and the
buffer. -/
def pollLines : List (List UInt8 × Millis) → Target LoggedPort × LineBuffer →
    List (Except Error (Option Nat)) × (Target LoggedPort × LineBuffer)
  | [], s => ([], s)
  | (piece, now) :: rest, (t, b) =>
    let r := readResponse.run (arrive piece now t, b)
    (r.1 :: (pollLines rest r.2).1, (pollLines rest r.2).2)

/-- Polling through pieces answers the first poll, then polls the rest from where it left. -/
theorem pollLines_cons {piece : List UInt8} {now : Millis} {rest : List (List UInt8 × Millis)}
    {t : Target LoggedPort} {b : LineBuffer} {r : Except Error (Option Nat)}
    {s : Target LoggedPort × LineBuffer} (h : readResponse.run (arrive piece now t, b) = (r, s)) :
    pollLines ((piece, now) :: rest) (t, b) = (r :: (pollLines rest s).1, (pollLines rest s).2) := by
  simp [pollLines, h]

/-- With the buffer full, every call fails, and the mode stays. -/
theorem pollLines_full (ps : List (List UInt8 × Millis)) :
    ∀ {t : Target LoggedPort} {b : LineBuffer}, (t.mode = .waitIdle ∨ t.mode = .waitResponse) →
      b.bytes.size ≤ b.cursor →
      ∃ t' : Target LoggedPort, t'.mode = t.mode ∧
        pollLines ps (t, b) = (List.replicate ps.length (.error .insufficientSpace), (t', b)) := by
  induction ps with
  | nil => exact fun _ _ => ⟨_, rfl, rfl⟩
  | cons p ps ih =>
    intro t b hm hfull
    obtain ⟨piece, now⟩ := p
    obtain ⟨t', hmode, hrun⟩ := ih (t := arrive piece now t) hm hfull
    refine ⟨t', hmode, ?_⟩
    rw [pollLines_cons (poll_full _ hm hfull), hrun]
    rfl

section Split

variable {L R : List UInt8} {p : List UInt8} {X : List UInt8}

/-- A piece no longer than the line, at the start of a split of the line and what follows, is
a first part of the line. -/
theorem exists_rest_of_split (h : p ++ X = L ++ 13 :: R) (hle : p.length ≤ L.length) :
    ∃ L', L = p ++ L' ∧ X = L' ++ 13 :: R := by
  rcases List.append_eq_append_iff.mp h with ⟨L', hL, hX⟩ | ⟨c', hp, hc⟩
  · exact ⟨L', hL, hX⟩
  · -- the piece reaches past the line only when it ends with it
    have hc0 : c' = [] := by
      have := congrArg List.length hp
      simp only [List.length_append] at this
      exact List.eq_nil_of_length_eq_zero (by omega)
    subst hc0
    exact ⟨[], by simpa using hp.symm, by simpa using hc.symm⟩

/-- The first piece of a split, no longer than the line, is a first part of it; the other pieces
split the line's remainder and what follows. -/
theorem split_first {now : Millis} {pre : List (List UInt8 × Millis)} {last : List UInt8 × Millis}
    (h : (((p, now) :: pre).map Prod.fst).flatten ++ last.1 = L ++ 13 :: R)
    (hle : (((p, now) :: pre).map Prod.fst).flatten.length ≤ L.length) :
    ∃ L', L = p ++ L' ∧ (pre.map Prod.fst).flatten ++ last.1 = L' ++ 13 :: R ∧
      (pre.map Prod.fst).flatten.length ≤ L'.length := by
  simp only [List.map_cons, List.flatten_cons, List.append_assoc, List.length_append] at h hle
  obtain ⟨L', rfl, hrest⟩ := exists_rest_of_split h (by omega)
  simp only [List.length_append] at hle
  exact ⟨L', rfl, hrest, by omega⟩

end Split

/-- Pieces handed over within the response time stay so after the first call: the call leaves the
request's time as it is. -/
theorem timely_rest {t : Target LoggedPort} {port : LoggedPort} {first : List UInt8 × Millis}
    {ps : List (List UInt8 × Millis)} (h : ∀ q ∈ first :: ps, (q.2 - t.modeTimer).toNat < 2000) :
    ∀ q ∈ ps, (q.2 - ({ t with port } : Target LoggedPort).modeTimer).toNat < 2000 :=
  fun q hq => h q (List.mem_cons_of_mem first hq)

/-- Whatever the split of a line that fits with its carriage return, handed over within the
response time: the calls answer `none` until the carriage return is in, then the line's length;
the line is in the buffer, the wait is over, and what follows the carriage return is unread. The
first piece is stored and answered with `none`; the rest is the line's remainder. -/
theorem pollLines_line (pre : List (List UInt8 × Millis)) (last : List UInt8 × Millis) :
    ∀ {L R : List UInt8} {t : Target LoggedPort} {b : LineBuffer}, 13 ∉ L →
      (t.mode = .waitIdle ∨ t.mode = .waitResponse) → t.port.rx.toList = [] →
      b.cursor + L.length < b.bytes.size →
      (pre.map Prod.fst).flatten ++ last.1 = L ++ 13 :: R →
      (pre.map Prod.fst).flatten.length ≤ L.length →
      (∀ p ∈ pre ++ [last], (p.2 - t.modeTimer).toNat < 2000) →
      ∃ port : LoggedPort, port.rx.toList = R ∧
        pollLines (pre ++ [last]) (t, b) =
          (List.replicate pre.length (.ok none) ++ [.ok (some (b.cursor + L.length))],
            ({ t with port, mode := t.mode.answered }, b.putAll L)) := by
  induction pre with
  | nil =>
    intro L R t b hL hm hrx hroom hsplit _ _
    obtain ⟨piece, now⟩ := last
    simp only [List.map_nil, List.flatten_nil, List.nil_append] at hsplit
    subst hsplit
    obtain ⟨port, hq, hrun⟩ := poll_line now hm hrx hL hroom
    exact ⟨port, hq, by rw [List.nil_append, pollLines_cons hrun]; rfl⟩
  | cons first pre ih =>
    intro L R t b hL hm hrx hroom hsplit hcr htime
    obtain ⟨p, now⟩ := first
    obtain ⟨L', rfl, hrest, hcr'⟩ := split_first hsplit hcr
    simp only [List.mem_append, not_or] at hL
    obtain ⟨port₁, hq₁, hrun₁⟩ := poll_partial now (b := b) hm hrx hL.1
      (by simp only [List.length_append] at hroom; omega)
      (htime (p, now) (by simp))
    have hroom' : (b.putAll p).cursor + L'.length < (b.putAll p).bytes.size := by
      simp only [LineBuffer.putAll_cursor, LineBuffer.putAll_size, List.length_append] at hroom ⊢
      omega
    obtain ⟨port, hq, hrun⟩ := ih (t := { t with port := port₁ }) hL.2 hm hq₁ hroom' hrest hcr'
      (timely_rest htime)
    refine ⟨port, hq, ?_⟩
    rw [List.cons_append, pollLines_cons hrun₁, hrun, LineBuffer.putAll_append,
      LineBuffer.putAll_cursor, List.length_append, Nat.add_assoc]
    rfl

/-- Whatever the split of a line as long as the buffer or longer, handed over within the response
time: the calls answer `none` until the one that fills the buffer, which fails for want of space,
as does every call after it; the wait goes on. The buffer fills inside the line, before its carriage
return. -/
theorem pollLines_overflow (pre : List (List UInt8 × Millis)) (last : List UInt8 × Millis) :
    ∀ {L R : List UInt8} {t : Target LoggedPort} {b : LineBuffer}, 13 ∉ L →
      (t.mode = .waitIdle ∨ t.mode = .waitResponse) → t.port.rx.toList = [] →
      b.cursor ≤ b.bytes.size → b.bytes.size ≤ b.cursor + L.length →
      (pre.map Prod.fst).flatten ++ last.1 = L ++ 13 :: R →
      (pre.map Prod.fst).flatten.length ≤ L.length →
      (∀ p ∈ pre ++ [last], (p.2 - t.modeTimer).toNat < 2000) →
      ∃ j ≤ pre.length, ∃ (t' : Target LoggedPort) (b' : LineBuffer), t'.mode = t.mode ∧
        pollLines (pre ++ [last]) (t, b) =
          (List.replicate j (.ok none) ++
            List.replicate (pre.length + 1 - j) (.error .insufficientSpace), (t', b')) := by
  induction pre with
  | nil =>
    intro L R t b hL hm hrx hcur hover hsplit _ _
    obtain ⟨piece, now⟩ := last
    simp only [List.map_nil, List.flatten_nil, List.nil_append] at hsplit
    subst hsplit
    have hlong : b.bytes.size - b.cursor ≤ (L ++ 13 :: R).length := by simp; omega
    have hp : 13 ∉ (L ++ 13 :: R).take (b.bytes.size - b.cursor) := by
      rw [List.take_append_of_le_length (by omega)]
      exact fun h => hL (List.mem_of_mem_take h)
    obtain ⟨port, hrun⟩ := poll_overflow now hm hrx hcur hlong hp
    exact ⟨0, Nat.zero_le _, { t with port }, _, rfl, by rw [List.nil_append, pollLines_cons hrun]; rfl⟩
  | cons first pre ih =>
    intro L R t b hL hm hrx hcur hover hsplit hcr htime
    obtain ⟨p, now⟩ := first
    obtain ⟨L', rfl, hrest, hcr'⟩ := split_first hsplit hcr
    simp only [List.mem_append, not_or] at hL
    simp only [List.length_append] at hover
    by_cases hfits : b.cursor + p.length < b.bytes.size
    · -- the piece leaves room: it is answered with `none`, and the buffer fills later
      obtain ⟨port₁, hq₁, hrun₁⟩ := poll_partial now hm hrx hL.1 hfits
        (htime (p, now) (by simp))
      obtain ⟨j, hj, t', b', hmode, hrun⟩ := ih (t := { t with port := port₁ }) (b := b.putAll p)
        hL.2 hm hq₁ (by simp; omega) (by simp; omega) hrest hcr' (timely_rest htime)
      refine ⟨j + 1, by simp; omega, t', b', hmode, ?_⟩
      rw [List.cons_append, pollLines_cons hrun₁, hrun, List.replicate_succ, List.length_cons,
        show pre.length + 1 + 1 - (j + 1) = pre.length + 1 - j by omega]
      rfl
    · -- the piece fills the buffer: this call fails, and so does every later one
      have hlong : b.bytes.size - b.cursor ≤ p.length := by omega
      have hp : 13 ∉ p.take (b.bytes.size - b.cursor) :=
        fun h => hL.1 (List.mem_of_mem_take h)
      obtain ⟨port₁, hrun₁⟩ := poll_overflow now hm hrx hcur hlong hp
      have hfull : (b.putAll (p.take (b.bytes.size - b.cursor))).bytes.size ≤
          (b.putAll (p.take (b.bytes.size - b.cursor))).cursor := by
        simp only [LineBuffer.putAll_size, LineBuffer.putAll_cursor, List.length_take]
        omega
      obtain ⟨t', hmode, hrun⟩ := pollLines_full (pre ++ [last]) (t := { t with port := port₁ }) hm hfull
      refine ⟨0, Nat.zero_le _, t', b.putAll (p.take (b.bytes.size - b.cursor)), hmode, ?_⟩
      rw [List.cons_append, pollLines_cons hrun₁, hrun]
      simp [List.replicate_succ]

/-- Collecting a response line after a request, whatever the split of the line and what follows
it into pieces handed over between the calls, all within 2000 ms of the request. A line shorter
than the buffer comes in whole: `none` until its carriage return is read, then its length, the
line at the front of the buffer, the wait over (command mode, or idle after `ATCN`) and what
follows unread. A line as long as the buffer or longer fails for want of space, from the call that
fills the buffer on, and the wait goes on. A call that finds nothing from 2000 ms after the request
on (within half the clock's range) times out with the same change of mode, and a call outside a
wait is refused and changes nothing. -/
theorem response_line_any_split (t : Target LoggedPort) (b : LineBuffer) :
    (∀ (L R : List UInt8) (pre : List (List UInt8 × Millis)) (last : List UInt8 × Millis),
      (t.mode = .waitIdle ∨ t.mode = .waitResponse) → t.port.rx.toList = [] → b.cursor = 0 →
      13 ∉ L → (pre.map Prod.fst).flatten ++ last.1 = L ++ 13 :: R →
      (pre.map Prod.fst).flatten.length ≤ L.length →
      (∀ p ∈ pre ++ [last], (p.2 - t.modeTimer).toNat < 2000) →
      (L.length < b.bytes.size →
        (pollLines (pre ++ [last]) (t, b)).1 =
            List.replicate pre.length (.ok none) ++ [.ok (some L.length)] ∧
          (pollLines (pre ++ [last]) (t, b)).2.1.mode = t.mode.answered ∧
          (pollLines (pre ++ [last]) (t, b)).2.1.port.rx.toList = R ∧
          (pollLines (pre ++ [last]) (t, b)).2.2.cursor = L.length ∧
          ((pollLines (pre ++ [last]) (t, b)).2.2.bytes.extract 0 L.length).toList = L) ∧
      (b.bytes.size ≤ L.length →
        ∃ j ≤ pre.length,
          (pollLines (pre ++ [last]) (t, b)).1 =
              List.replicate j (.ok none) ++
                List.replicate (pre.length + 1 - j) (.error .insufficientSpace) ∧
            (pollLines (pre ++ [last]) (t, b)).2.1.mode = t.mode)) ∧
    ((t.mode = .waitIdle ∨ t.mode = .waitResponse) → t.port.rx.toList = [] →
      b.cursor < b.bytes.size → 2000 ≤ (t.port.now - t.modeTimer).toNat →
      (t.port.now - t.modeTimer).toNat < 2000 + halfCircle →
      (readResponse.run (t, b)).1 = .error (.timeout "no response to AT request") ∧
        (readResponse.run (t, b)).2.1.mode = t.mode.answered) ∧
    (¬ (t.mode = .waitIdle ∨ t.mode = .waitResponse) →
      readResponse.run (t, b) =
        (.error (.invalidState s!"not waiting for a response (mode {t.mode.name})"), (t, b))) := by
  refine ⟨fun L R pre last hm hrx hcur hL hsplit hcr htime => ⟨fun hfit => ?_, fun hover => ?_⟩,
    fun hm hrx hroom hlate hk => ?_, fun hm => readResponse_refused hm⟩
  · obtain ⟨port, hq, hrun⟩ := pollLines_line pre last (b := b) hL hm hrx (by omega) hsplit hcr htime
    have hline := LineBuffer.putAll_contents b L (by omega)
    rw [LineBuffer.putAll_cursor, hcur, Nat.zero_add] at hline
    rw [hrun, hcur, Nat.zero_add]
    exact ⟨rfl, rfl, hq, by simp [hcur], by simpa using hline⟩
  · obtain ⟨j, hj, t', b', hmode, hrun⟩ :=
      pollLines_overflow pre last (b := b) hL hm hrx (by omega) (by omega) hsplit hcr htime
    exact ⟨j, hj, by rw [hrun], by rw [hrun]; exact hmode⟩
  · rw [readResponse_timeout hm hrx hroom hlate hk]
    exact ⟨rfl, rfl⟩

/-- A target waiting for the response to a request made at time 0, with nothing received. -/
def requestedAtZero : Target LoggedPort := { port := { rx := default }, mode := .waitResponse }

/-- A sixteen-byte response buffer, empty. -/
def sixteenBytes : LineBuffer := { bytes := Array.replicate 16 0 }

/-- The reply `10E8` arriving as `10` and then `E8` with its carriage return is collected. -/
theorem twoPieceReply_collected :
    (pollLines [([49, 48], 5), ([69, 56, 13], 10)] (requestedAtZero, sixteenBytes)).1 =
        [.ok none, .ok (some 4)] ∧
      (pollLines [([49, 48], 5), ([69, 56, 13], 10)] (requestedAtZero, sixteenBytes)).2.1.mode =
        .command := by
  have h := ((response_line_any_split requestedAtZero sixteenBytes).1 [49, 48, 69, 56] []
    [([49, 48], 5)] ([69, 56, 13], 10) (.inr rfl) rfl rfl (by decide) rfl (by decide)
    (by decide)).1 (by decide)
  exact ⟨h.1, h.2.1⟩

/-- A four-byte line does not fit a four-byte buffer: the room is checked before the carriage
return is read. -/
theorem buffer_sized_line_refused :
    (pollLines [([65, 66, 67, 68, 13], 10)]
        (requestedAtZero, { bytes := Array.replicate 4 0 })).1 = [.error .insufficientSpace] := by
  obtain ⟨j, hj, t', b', -, hrun⟩ := pollLines_overflow [] ([65, 66, 67, 68, 13], 10)
    (L := [65, 66, 67, 68]) (R := []) (t := requestedAtZero) (b := { bytes := Array.replicate 4 0 })
    (by decide) (.inr rfl) rfl (by decide) (by decide) rfl (by decide) (by decide)
  rw [List.nil_append] at hrun
  rw [hrun]
  obtain rfl : j = 0 := by simpa using hj
  rfl

end Target

end RadioFlash
