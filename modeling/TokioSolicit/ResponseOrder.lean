import TokioSolicit.Upload

/-!
# The order of response frames

Every callback made on a stream (`set_headers`, `new_data_chunk`, `set_state`, the last also
through `close_local` and `close_remote`) pushes at most one chunk on the shared buffer, and
each `poll` takes one off the front. `Raised` records one such callback: which one, with what,
on the stream of which request. `raisedLog` is the ghost log of the callbacks a run makes, in
order, and `Raised.frame` the frame each should become.

`poll_yields_raised_events`: over every run from a new transport, the frames yielded followed
by those still buffered are the log translated callback by callback, so nothing is lost,
duplicated or reordered, and a poll that finds nothing to yield has yielded everything raised so
far. A callback names the request its stream's chunk sender is bound to, and every stream of the
session is bound to the request whose start created it, the last start on its id
(`lastStartOn`): `prepare_request` binds the sender, and no later step rebinds it.

`set_state` pushes `EndOfBody` whenever the state it is given is closed on the remote end,
whatever state the stream leaves. A stream whose peer ended the response before the upload's
last chunk passes through two such states, and its request gets two `Body(None)` frames
(`getDataChunk_last_after_closeRemote`, and the run `endOfBody_twice`).
-/

namespace TokioSolicit

/-- A callback made on the stream of request `id`. -/
inductive Raised
  | setHeaders (id : RequestId) (headers : List Header)
  | newDataChunk (id : RequestId) (data : Bytes)
  | setState (id : RequestId) (state : StreamState)
  deriving DecidableEq, Repr

/-- The frame a callback is to give Tokio: the response headers, in owned form and in order, as
a message with a body; a data chunk as a body chunk; the end of the body for a change of state
that leaves the stream closed on the remote end. -/
def Raised.frame : Raised → Option TokioResponseFrame
  | .setHeaders id hs =>
    some (.message id ⟨hs.map fun h => Header.ofOwned h.intoOwned⟩ true false)
  | .newDataChunk id data => some (.body id (some ⟨data⟩))
  | .setState id st => if st.isClosedRemote then some (.body id none) else none

@[simp] theorem Raised.filterMap_frame_singleton (x : Raised) :
    [x].filterMap Raised.frame = x.frame.toList := by
  cases h : x.frame <;> simp [h]

namespace H2Stream

/-- The callback the connection makes on stream `s` for an event. -/
def raise (s : H2Stream) : StreamEvent → Raised
  | .setHeaders hs => .setHeaders s.sender.requestId hs
  | .newDataChunk data => .newDataChunk s.sender.requestId data
  | .setState st => .setState s.sender.requestId st
  | .closeRemote => .setState s.sender.requestId s.state.closeRemote

/-- The callback `get_data_chunk` makes: `close_local`, when it hands out the last chunk. -/
def getDataChunkRaised (s : H2Stream) (buf : Bytes) (r : ResponseChunkReceiver) : List Raised :=
  match (s.getDataChunk buf r).result with
  | .ok (.last _) => [s.raise (.setState s.state.closeLocal)]
  | _ => []

section
variable (s : H2Stream) (r : ResponseChunkReceiver)

theorem setState_frames (st : StreamState) :
    (s.setState st r).2.frames = r.frames ++ (s.raise (.setState st)).frame.toList := by
  by_cases h : st.isClosedRemote <;> simp [h, raise, Raised.frame, ResponseChunk.toFrame]

theorem onEvent_frames (e : StreamEvent) :
    (s.onEvent r e).2.frames = r.frames ++ (s.raise e).frame.toList := by
  cases e with
  | setState st => exact setState_frames s r st
  | closeRemote => exact setState_frames s r _
  | _ => simp [onEvent, setHeaders, newDataChunk, raise, Raised.frame, ResponseChunk.toFrame]

theorem getDataChunk_frames (buf : Bytes) :
    (s.getDataChunk buf r).responses.frames =
      r.frames ++ (s.getDataChunkRaised buf r).filterMap Raised.frame := by
  unfold getDataChunkRaised
  cases hc : s.state.isClosedLocal
  · obtain ⟨chunk, hres, -⟩ := @getDataChunk_pending s buf r hc
    rw [hres]
    cases chunk with
    | chunk n => simp [(getDataChunk_chunk hc hres).2]
    | last n =>
      simp [(getDataChunk_last hc hres).2.2.2, closeLocal, setState_frames,
        -setState_responses]
    | unavailable => simp [(getDataChunk_unavailable hc hres).1]
  · simp [getDataChunk_of_isClosedLocal _ _ _ hc]

end

/-- After the peer's END_STREAM on a stream still open on the local end, the upload's last
chunk closes the stream and pushes a second `EndOfBody` for the same request. -/
theorem getDataChunk_last_after_closeRemote {s : H2Stream} {r : ResponseChunkReceiver}
    {buf : Bytes} {n : Nat} (hc : s.state.isClosedLocal = false)
    (hr : ((s.closeRemote r).1.getDataChunk buf (s.closeRemote r).2).result = .ok (.last n)) :
    ((s.closeRemote r).1.getDataChunk buf (s.closeRemote r).2).responses.frames =
      r.frames ++ [.body s.sender.requestId none, .body s.sender.requestId none] := by
  have hst : s.state.closeRemote = .halfClosedRemote := by
    cases h : s.state <;> simp_all [StreamState.isClosedLocal, StreamState.closeRemote]
  have hopen : (s.closeRemote r).1.state.isClosedLocal = false := by
    simp [closeRemote, hst, StreamState.isClosedLocal]
  rw [(getDataChunk_last hopen hr).2.2.2]
  simp [closeRemote, closeLocal, hst, StreamState.closeLocal,
    StreamState.isClosedRemote, ResponseChunk.toFrame]

theorem getDataChunk_last_after_closeRemote_open :
    (H2Stream.new ⟨1⟩).setShouldClose.state.isClosedLocal = false ∧
    (((H2Stream.new ⟨1⟩).setShouldClose.closeRemote ⟨[]⟩).1.getDataChunk [0]
      ((H2Stream.new ⟨1⟩).setShouldClose.closeRemote ⟨[]⟩).2).result = .ok (.last 0) ∧
    (((H2Stream.new ⟨1⟩).setShouldClose.closeRemote ⟨[]⟩).1.getDataChunk [0]
      ((H2Stream.new ⟨1⟩).setShouldClose.closeRemote ⟨[]⟩).2).responses.frames =
      ResponseChunkReceiver.frames ⟨[]⟩ ++ [.body 1 none, .body 1 none] :=
  ⟨rfl, rfl,
    getDataChunk_last_after_closeRemote (s := (H2Stream.new ⟨1⟩).setShouldClose) rfl rfl⟩

end H2Stream

namespace H2ClientTokioTransport

/-- The callbacks of the walk of `send_next_data`. -/
def sendDataRaised (window : Nat) (r : ResponseChunkReceiver) :
    List (StreamId × H2Stream) → List Raised
  | [] => []
  | (_, s) :: rest =>
    s.getDataChunkRaised (List.replicate window 0) r ++
      match (s.getDataChunk (List.replicate window 0) r).result with
      | .ok (.chunk _) | .ok (.last _) => []
      | _ => sendDataRaised window (s.getDataChunk (List.replicate window 0) r).responses rest

/-- The callbacks an event makes: `prepare_request` closes a request without a body on the
local end, the connection makes one callback for an event on a stream it still has, and
`send_next_data` makes those of `get_data_chunk`. -/
def raised (t : H2ClientTokioTransport) : Event → List Raised
  | .start id _ hasBody _ =>
    let s := H2Stream.new (t.readyResponses.getSender id)
    if !hasBody then [s.raise (.setState s.state.closeLocal)] else []
  | .stream sid e =>
    match t.conn.state.getStream? sid with
    | none => []
    | some s => [s.raise e]
  | .sendData window => sendDataRaised window t.readyResponses t.conn.state.streams
  | _ => []

/-- The callbacks of a run, in the order they are made, up to a panic. -/
def raisedLog (t : H2ClientTokioTransport) : List Event → List Raised
  | [] => []
  | e :: es =>
    match t.step e with
    | .error _ => []
    | .ok next => t.raised e ++ raisedLog next.1 es

theorem nextDataFrame_frames (window : Nat) (r : ResponseChunkReceiver)
    (l : List (StreamId × H2Stream)) :
    (nextDataFrame window r l).2.1.frames =
      r.frames ++ (sendDataRaised window r l).filterMap Raised.frame := by
  induction l generalizing r with
  | nil => simp [nextDataFrame, sendDataRaised]
  | cons p l ih =>
    obtain ⟨sid, s⟩ := p
    simp only [nextDataFrame, sendDataRaised, List.filterMap_append, ← List.append_assoc,
      ← H2Stream.getDataChunk_frames]
    split <;> simp_all

theorem step_frames {t t' : H2ClientTokioTransport} {e : Event} {y : Option TokioResponseFrame}
    (h : t.step e = .ok (t', y)) :
    y.toList ++ t'.readyResponses.frames =
      t.readyResponses.frames ++ (t.raised e).filterMap Raised.frame := by
  cases e
  case start id headers hasBody assigned =>
    obtain ⟨t'', hs, hr, -⟩ := t.startRequest_spec id headers hasBody assigned
    simp only [step, hs, Except.map, Except.ok.injEq, Prod.mk.injEq] at h
    obtain ⟨rfl, rfl⟩ := h
    cases hasBody
    · simp [hr, prepareRequest, raised, H2Stream.closeLocal, H2Stream.setState_frames,
        -H2Stream.setState_responses]
    · simp [hr, prepareRequest, raised]
  case body id chunk =>
    obtain ⟨hb, rfl⟩ := step_body h
    obtain ⟨_, -, rfl | ⟨_, _, -, rfl, -⟩⟩ := t.addBodyChunk_eq_ok hb <;> simp [raised]
  case control frame =>
    obtain ⟨-, rfl, rfl⟩ := step_control h
    simp [raised]
  all_goals obtain ⟨rfl, rfl⟩ := Prod.mk.inj (Except.ok.inj h)
  case stream sid e =>
    rw [handleStreamEvent_readyResponses]
    cases hs : t.conn.state.getStream? sid <;> simp [raised, hs, H2Stream.onEvent_frames]
  case reap => simp [raised, handleClosedStreams]
  case sendData window => simp [sendNextData_readyResponses, nextDataFrame_frames, raised]
  case write w => simp [raised, tryWrite]
  case next => simpa [raised, getNextResponseFrame] using t.readyResponses.getNextChunk_frames

/-- A whole run: the frames yielded, followed by those still buffered, are the frames buffered
at the start followed by those of the run's callbacks. -/
theorem run_frames (t : H2ClientTokioTransport) (evs : List Event) :
    (run t evs).yielded ++ (run t evs).state.readyResponses.frames =
      t.readyResponses.frames ++ (raisedLog t evs).filterMap Raised.frame := by
  induction evs generalizing t with
  | nil => simp [run, raisedLog]
  | cons e es ih =>
    cases hs : t.step e with
    | error msg => simp [run, raisedLog, hs]
    | ok p =>
      obtain ⟨t', y⟩ := p
      simp only [run, raisedLog, hs, List.filterMap_append, List.append_assoc]
      rw [ih t', ← List.append_assoc, step_frames hs, List.append_assoc]

/-- Request 1 has a body; its HEADERS go out, the peer answers with HEADERS and END_STREAM, the
body is ended, and the upload's last chunk goes out: the polls yield two ends of body. -/
theorem endOfBody_twice :
    (drive new [.startSend (.message 1 ⟨[]⟩ true false) 1, .pollComplete (.ok 10) 16 (.ok 10),
      .poll (.frames [.headers 1 [] true]) (.ok 10), .startSend (.body 1 none) 0,
      .pollComplete (.ok 10) 16 (.ok 10), .poll .nothing (.ok 10), .poll .nothing (.ok 10),
      .poll .nothing (.ok 10)]).yielded =
      [.message 1 ⟨[]⟩ true false, .body 1 none, .body 1 none] :=
  rfl

end H2ClientTokioTransport

end TokioSolicit
