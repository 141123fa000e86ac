import TokioSolicit.Session

/-!
# The transport

`H2ClientTokioTransport` owns the connection, the frame writer, the shared buffer of response
chunks and the two maps between Tokio request ids and HTTP/2 stream ids. As a `Sink` it takes
request frames (`start_send`) and pushes request bodies out (`poll_complete`); as a `Stream` it
reads frames off the socket and yields one response frame per `poll`.

The socket is the environment: each read and each write is handed its outcome, and the id the
connection assigns to a new stream is an input. A panicking `expect` is an `Except.error`
carrying the `expect`'s message. Parking and unparking the task changes no state.
-/

namespace TokioSolicit

/-- What one `try_read` gave: a hard error, no bytes, or some bytes, after which these
complete frames sit in the read buffer. -/
inductive ReadResult
  | error (e : IoError)
  | nothing
  | frames (frames : List InboundFrame)
  deriving DecidableEq, Repr

/-- `HashMap::insert`: the key's old entry goes, the new one is found first. -/
def mapInsert (m : List (Nat × Nat)) (k v : Nat) : List (Nat × Nat) :=
  (k, v) :: m.filter fun p => p.1 ≠ k

theorem lookup_mapInsert (m : List (Nat × Nat)) (k v k' : Nat) :
    (mapInsert m k v).lookup k' = if k' = k then some v else m.lookup k' := by
  rw [mapInsert, lookup_cons_ite]
  split
  · rfl
  · rename_i h
    induction m with
    | nil => rfl
    | cons p m ih =>
      obtain ⟨a, b⟩ := p
      by_cases ha : a = k <;> by_cases hk : k' = a <;> simp_all [List.filter_cons, lookup_cons_ite]

theorem mem_keys_mapInsert (m : List (Nat × Nat)) (k v k' : Nat) :
    k' ∈ (mapInsert m k v).map Prod.fst ↔ k' = k ∨ k' ∈ m.map Prod.fst := by
  by_cases h : k' = k
  · simp [mapInsert, h]
  · simp only [mapInsert, List.map_cons, List.mem_cons, h, false_or, List.mem_map,
      List.mem_filter]
    exact ⟨fun ⟨p, ⟨hp, _⟩, he⟩ => ⟨p, hp, he⟩,
      fun ⟨p, hp, he⟩ => ⟨p, ⟨hp, by simp [he, h]⟩, he⟩⟩

structure H2ClientTokioTransport where
  sender : FrameSender
  conn : ClientConnection
  readyResponses : ResponseChunkReceiver
  h2streamToTokioRequest : List (StreamId × RequestId)
  tokioRequestToH2stream : List (RequestId × StreamId)
  deriving DecidableEq

namespace H2ClientTokioTransport

def new : H2ClientTokioTransport :=
  ⟨⟨[]⟩, ⟨SessionState.new⟩, ResponseChunkReceiver.new, [], []⟩

/-- Puts stream `s` back into the session under `sid`. -/
def withStream (t : H2ClientTokioTransport) (sid : StreamId) (s : H2Stream) :
    H2ClientTokioTransport :=
  { t with conn := ⟨t.conn.state.setStream sid s⟩ }

-- ---------------------------------------------------------------------------
-- Starting requests and adding body chunks
-- ---------------------------------------------------------------------------

def prepareRequest (t : H2ClientTokioTransport) (requestId : RequestId) (headers : List Header)
    (hasBody : Bool) : RequestStream × ResponseChunkReceiver :=
  let stream := H2Stream.new (t.readyResponses.getSender requestId)
  if !hasBody then
    (⟨(stream.closeLocal t.readyResponses).1, headers⟩, (stream.closeLocal t.readyResponses).2)
  else (⟨stream, headers⟩, t.readyResponses)

def startRequest (t : H2ClientTokioTransport) (requestId : RequestId) (headers : List Header)
    (hasBody : Bool) (assigned : StreamId) : Except String H2ClientTokioTransport :=
  let request := t.prepareRequest requestId headers hasBody
  let started := t.conn.startRequest request.1 t.sender assigned
  let streamId := started.1
  match started.2.1.state.getStream? streamId with
  | none => .error "stream _just_ created"
  | some s =>
    .ok { t with
      sender := started.2.2
      conn := ⟨started.2.1.state.setStream streamId { s with streamId := some streamId }⟩
      readyResponses := request.2
      h2streamToTokioRequest := mapInsert t.h2streamToTokioRequest streamId requestId
      tokioRequestToH2stream := mapInsert t.tokioRequestToH2stream requestId streamId }

def addBodyChunk (t : H2ClientTokioTransport) (id : RequestId) (chunk : Option HttpRequestBody) :
    Except String H2ClientTokioTransport :=
  match t.tokioRequestToH2stream.lookup id with
  | none => .error "an in-flight request needs to have an active h2 stream"
  | some streamId =>
    match t.conn.state.getStream? streamId, chunk with
    | none, _ => .ok t
    | some stream, some ⟨body⟩ =>
      match stream.addData body with
      | .ok stream => .ok (t.withStream streamId stream)
      | .error () => .error "stream unexpectedly already locally closed"
    | some stream, none => .ok (t.withStream streamId stream.setShouldClose)

-- ---------------------------------------------------------------------------
-- Inbound frames and response chunks
-- ---------------------------------------------------------------------------

/-- The connection raises event `e` on stream `sid`: the stream's callback runs, if the session
still has the stream. -/
def handleStreamEvent (t : H2ClientTokioTransport) (sid : StreamId) (e : StreamEvent) :
    H2ClientTokioTransport :=
  match t.conn.state.getStream? sid with
  | none => t
  | some s =>
    { t with
      conn := ⟨t.conn.state.setStream sid (s.onEvent t.readyResponses e).1⟩
      readyResponses := (s.onEvent t.readyResponses e).2 }

/-- What the connection does with a frame besides raising its events: it queues its answer to a
SETTINGS or a PING on the transport's writer, and `handle_next_frame`'s `expect` panics on a
frame the connection rejects. -/
def handleControlFrame (t : H2ClientTokioTransport) (frame : InboundFrame) :
    Except String H2ClientTokioTransport :=
  if frame = .invalid then .error "fixme: handle h2 protocol errors gracefully"
  else .ok { t with sender := ⟨t.sender.buffer ++ frame.reply.toList⟩ }

/-- `self.conn.handle_next_frame(..)` on one parsed frame. -/
def handleNextFrame (t : H2ClientTokioTransport) (frame : InboundFrame) :
    Except String H2ClientTokioTransport :=
  (frame.events.foldl (fun t e => t.handleStreamEvent e.1 e.2) t).handleControlFrame frame

def handleNewFrames (t : H2ClientTokioTransport) (frames : List InboundFrame) :
    Except String H2ClientTokioTransport :=
  frames.foldlM handleNextFrame t

def handleClosedStreams (t : H2ClientTokioTransport) : H2ClientTokioTransport :=
  { t with conn := ⟨t.conn.state.getClosed.2⟩ }

/-- The writer's `try_write` with the socket's answer `w`. -/
def tryWrite (t : H2ClientTokioTransport) (w : WriteResult) :
    Except IoError Bool × H2ClientTokioTransport :=
  ((t.sender.tryWrite w).1, { t with sender := (t.sender.tryWrite w).2 })

def tryReadMore (t : H2ClientTokioTransport) (read : ReadResult) (write : WriteResult) :
    Except String (Except IoError Unit × H2ClientTokioTransport) :=
  match read with
  | .error e => .ok (.error e, t)
  | .nothing => .ok (.ok (), t)
  | .frames frames =>
    (t.handleNewFrames frames).map fun t =>
      let written := t.handleClosedStreams.tryWrite write
      match written.1 with
      | .error e => (.error e, written.2)
      | .ok _ => (.ok (), written.2)

def getNextResponseFrame (t : H2ClientTokioTransport) :
    Option TokioResponseFrame × H2ClientTokioTransport :=
  (t.readyResponses.getNextChunk.1.map fun (id, chunk) => chunk.toFrame id,
    { t with readyResponses := t.readyResponses.getNextChunk.2 })

-- ---------------------------------------------------------------------------
-- Request data
-- ---------------------------------------------------------------------------

/-- `self.conn.send_next_data(&mut self.sender)` with a `window`-byte buffer. -/
def sendNextData (t : H2ClientTokioTransport) (window : Nat) :
    SendStatus × H2ClientTokioTransport :=
  let next := nextDataFrame window t.readyResponses t.conn.state.streams
  let conn : ClientConnection :=
    ⟨⟨next.1, by rw [nextDataFrame_keys]; exact t.conn.state.nodup⟩⟩
  match next.2.2 with
  | none => (.nothing, { t with conn, readyResponses := next.2.1 })
  | some frame =>
    (.sent, { t with conn, readyResponses := next.2.1, sender := t.sender.sendFrame frame })

def tryWriteNextData (t : H2ClientTokioTransport) (window : Nat) :
    Bool × H2ClientTokioTransport :=
  match (t.sendNextData window).1 with
  | .sent => (true, (t.sendNextData window).2)
  | .nothing => (false, (t.sendNextData window).2)

def hasPendingRequestData (t : H2ClientTokioTransport) : Bool :=
  t.conn.state.streams.any fun p => !p.2.state.isClosedLocal

def sendRequestData (t : H2ClientTokioTransport) (window : Nat) (write : WriteResult) :
    Poll Unit × H2ClientTokioTransport :=
  if !t.hasPendingRequestData then (.ok (.ready ()), t)
  else
    let queued := t.tryWriteNextData window
    if queued.1 then
      let written := queued.2.tryWrite write
      match written.1 with
      | .error e => (.error e, written.2)
      -- a full frame went out: the task is unparked at once and yields
      | .ok true => (.ok .notReady, written.2)
      | .ok false => (.ok .notReady, written.2)
    else (.ok (.ready ()), queued.2)

-- ---------------------------------------------------------------------------
-- `Stream` and `Sink`
-- ---------------------------------------------------------------------------

def poll (t : H2ClientTokioTransport) (read : ReadResult) (write : WriteResult) :
    Except String (Poll (Option TokioResponseFrame) × H2ClientTokioTransport) :=
  (t.tryReadMore read write).map fun read =>
    match read.1 with
    | .error e => (.error e, read.2)
    | .ok () =>
      let next := read.2.getNextResponseFrame
      match next.1 with
      | none => (.ok .notReady, next.2)
      | some frame => (.ok (.ready (some frame)), next.2)

/-- `start_send` answers `AsyncSink::Ready` unless an `expect` panics. -/
def startSend (t : H2ClientTokioTransport) (item : RequestFrame) (assigned : StreamId) :
    Except String H2ClientTokioTransport :=
  match item with
  | .message id ⟨headers⟩ hasBody _ => t.startRequest id headers hasBody assigned
  | .body id chunk => t.addBodyChunk id chunk
  | .error .. => .ok t

def pollComplete (t : H2ClientTokioTransport) (flush : WriteResult) (window : Nat)
    (write : WriteResult) : Poll Unit × H2ClientTokioTransport :=
  let flushed := t.tryWrite flush
  match flushed.1 with
  | .error e => (.error e, flushed.2)
  | .ok true => flushed.2.sendRequestData window write
  | .ok false => (.ok .notReady, flushed.2)


-- ---------------------------------------------------------------------------
-- What each operation changes
-- ---------------------------------------------------------------------------

section
variable (t : H2ClientTokioTransport)

@[simp] theorem withStream_readyResponses (sid : StreamId) (s : H2Stream) :
    (t.withStream sid s).readyResponses = t.readyResponses := rfl

@[simp] theorem withStream_tokioRequestToH2stream (sid : StreamId) (s : H2Stream) :
    (t.withStream sid s).tokioRequestToH2stream = t.tokioRequestToH2stream := rfl

@[simp] theorem withStream_h2streamToTokioRequest (sid : StreamId) (s : H2Stream) :
    (t.withStream sid s).h2streamToTokioRequest = t.h2streamToTokioRequest := rfl

theorem withStream_getStream? (sid k : StreamId) (s : H2Stream) :
    (t.withStream sid s).conn.state.getStream? k =
      if k = sid then (t.conn.state.getStream? k).map fun _ => s else t.conn.state.getStream? k :=
  SessionState.getStream?_setStream _ _ _ _

@[simp] theorem prepareRequest_stream (id : RequestId) (headers : List Header) (hasBody : Bool) :
    (t.prepareRequest id headers hasBody).1.stream =
      if hasBody then H2Stream.new ⟨id⟩
      else ((H2Stream.new ⟨id⟩).closeLocal t.readyResponses).1 := by
  cases hasBody <;> rfl

@[simp] theorem prepareRequest_headers (id : RequestId) (headers : List Header) (hasBody : Bool) :
    (t.prepareRequest id headers hasBody).1.headers = headers := by
  cases hasBody <;> rfl

theorem prepareRequest_isClosedLocal (id : RequestId) (headers : List Header) (hasBody : Bool) :
    (t.prepareRequest id headers hasBody).1.stream.state.isClosedLocal = !hasBody := by
  cases hasBody <;> simp [H2Stream.new, H2Stream.closeLocal, StreamState.closeLocal,
    StreamState.isClosedLocal]

theorem startRequest_spec (id : RequestId) (headers : List Header) (hasBody : Bool)
    (assigned : StreamId) :
    ∃ t', t.startRequest id headers hasBody assigned = .ok t' ∧
      t'.readyResponses = (t.prepareRequest id headers hasBody).2 ∧
      t'.tokioRequestToH2stream = mapInsert t.tokioRequestToH2stream id assigned ∧
      t'.h2streamToTokioRequest = mapInsert t.h2streamToTokioRequest assigned id ∧
      (∀ k, t'.conn.state.getStream? k =
        if k = assigned then
          some { (t.prepareRequest id headers hasBody).1.stream with streamId := some assigned }
        else t.conn.state.getStream? k) ∧
      t'.sender = t.sender.sendFrame
        (.headers assigned headers
          (t.prepareRequest id headers hasBody).1.stream.state.isClosedLocal) := by
  simp only [startRequest, ClientConnection.startRequest, SessionState.getStream?_insertStream,
    if_pos]
  refine ⟨_, rfl, rfl, rfl, rfl, fun k => ?_, by simp⟩
  rw [SessionState.getStream?_setStream, SessionState.getStream?_insertStream]
  split <;> simp_all

theorem addBodyChunk_eq_ok {id : RequestId} {chunk : Option HttpRequestBody}
    {t' : H2ClientTokioTransport} (h : t.addBodyChunk id chunk = .ok t') :
    ∃ sid, t.tokioRequestToH2stream.lookup id = some sid ∧
      (t' = t ∨ ∃ s s', t.conn.state.getStream? sid = some s ∧ t' = t.withStream sid s' ∧
        s'.sender = s.sender ∧ s'.streamId = s.streamId ∧ s'.state = s.state ∧
        (s'.shouldClose → chunk = none ∨ s.shouldClose)) := by
  unfold addBodyChunk at h
  split at h
  · cases h
  · rename_i sid hsid
    refine ⟨sid, hsid, ?_⟩
    split at h
    · exact .inl (by cases h; rfl)
    · rename_i s b hs
      split at h
      · rename_i s' hadd
        cases h
        unfold H2Stream.addData at hadd
        split at hadd
        · cases hadd
        · cases hadd; exact .inr ⟨s, _, hs, rfl, rfl, rfl, rfl, fun h' => .inr h'⟩
      · cases h
    · rename_i s hs
      cases h
      exact .inr ⟨s, _, hs, rfl, rfl, rfl, rfl, fun _ => .inl rfl⟩

theorem addBodyChunk_getStream? {id : RequestId} {chunk : Option HttpRequestBody}
    {t' : H2ClientTokioTransport} (h : t.addBodyChunk id chunk = .ok t') :
    ∃ sid, t.tokioRequestToH2stream.lookup id = some sid ∧
      (∀ k, k ≠ sid → t'.conn.state.getStream? k = t.conn.state.getStream? k) ∧
      ∀ s, t.conn.state.getStream? sid = some s →
        (chunk = none ∧ t'.conn.state.getStream? sid = some s.setShouldClose) ∨
        ∃ body s', chunk = some ⟨body⟩ ∧ s.addData body = .ok s' ∧
          t'.conn.state.getStream? sid = some s' := by
  unfold addBodyChunk at h
  split at h
  · cases h
  · rename_i sid hsid
    have other : ∀ s', ∀ k, k ≠ sid →
        (t.withStream sid s').conn.state.getStream? k = t.conn.state.getStream? k :=
      fun s' k hk => by simp [withStream_getStream?, hk]
    refine ⟨sid, hsid, ?_⟩
    split at h
    · rename_i hs
      cases h
      exact ⟨fun _ _ => rfl, fun s hs' => by simp [hs] at hs'⟩
    · rename_i s body hs
      split at h
      · rename_i s' hadd
        cases h
        refine ⟨other _, fun s₀ hs₀ => .inr ⟨body, s', rfl, ?_, ?_⟩⟩
        · rw [hs] at hs₀; cases hs₀; exact hadd
        · simp [withStream_getStream?, hs]
      · cases h
    · rename_i s hs
      cases h
      refine ⟨other _, fun s₀ hs₀ => .inl ⟨rfl, ?_⟩⟩
      rw [hs] at hs₀; cases hs₀; simp [withStream_getStream?, hs]

theorem addBodyChunk_ok {id : RequestId} {chunk : Option HttpRequestBody} {sid : StreamId}
    (hsid : t.tokioRequestToH2stream.lookup id = some sid)
    (hclose : ∀ s, t.conn.state.getStream? sid = some s → chunk ≠ none →
      s.shouldClose = false) :
    ∃ t', t.addBodyChunk id chunk = .ok t' := by
  simp only [addBodyChunk, hsid]
  split
  · exact ⟨_, rfl⟩
  · rename_i s b hs
    simp [H2Stream.addData, hclose s hs]
  · exact ⟨_, rfl⟩

theorem addBodyChunk_eq_error {id : RequestId} {chunk : Option HttpRequestBody} {msg : String} :
    t.addBodyChunk id chunk = .error msg ↔
      (t.tokioRequestToH2stream.lookup id = none ∧
          msg = "an in-flight request needs to have an active h2 stream") ∨
        ∃ sid s, t.tokioRequestToH2stream.lookup id = some sid ∧
          t.conn.state.getStream? sid = some s ∧ chunk.isSome ∧ s.shouldClose ∧
          msg = "stream unexpectedly already locally closed" := by
  unfold addBodyChunk
  split
  · rename_i hl
    simp only [hl, Except.error.injEq, true_and, reduceCtorEq, false_and, exists_false, or_false]
    exact eq_comm
  · rename_i sid hl
    split
    · rename_i hs
      simp [hl, hs]
    · rename_i s data hs
      cases hc : s.shouldClose
      · simp [H2Stream.addData, hl, hs, hc]
      · simpa [H2Stream.addData, hl, hs, hc] using eq_comm
    · rename_i s hs
      simp [hl, hs]

theorem handleStreamEvent_readyResponses (sid : StreamId) (e : StreamEvent) :
    (t.handleStreamEvent sid e).readyResponses =
      match t.conn.state.getStream? sid with
      | none => t.readyResponses
      | some s => (s.onEvent t.readyResponses e).2 := by
  unfold handleStreamEvent; split <;> rfl

theorem handleStreamEvent_getStream? (sid k : StreamId) (e : StreamEvent) :
    (t.handleStreamEvent sid e).conn.state.getStream? k =
      if k = sid then (t.conn.state.getStream? k).map fun s => (s.onEvent t.readyResponses e).1
      else t.conn.state.getStream? k := by
  unfold handleStreamEvent
  split
  · rename_i hs; split <;> simp_all
  · rename_i s hs
    rw [SessionState.getStream?_setStream]
    split <;> simp_all

@[simp] theorem handleStreamEvent_tokioRequestToH2stream (sid : StreamId) (e : StreamEvent) :
    (t.handleStreamEvent sid e).tokioRequestToH2stream = t.tokioRequestToH2stream := by
  unfold handleStreamEvent; split <;> rfl

@[simp] theorem handleStreamEvent_h2streamToTokioRequest (sid : StreamId) (e : StreamEvent) :
    (t.handleStreamEvent sid e).h2streamToTokioRequest = t.h2streamToTokioRequest := by
  unfold handleStreamEvent; split <;> rfl

theorem handleControlFrame_eq_ok {frame : InboundFrame} {t' : H2ClientTokioTransport}
    (h : t.handleControlFrame frame = .ok t') :
    frame ≠ .invalid ∧
      t' = { t with sender := ⟨t.sender.buffer ++ frame.reply.toList⟩ } := by
  unfold handleControlFrame at h
  split at h
  · cases h
  · exact ⟨‹_›, (Except.ok.inj h).symm⟩

theorem sendNextData_getStream? (window : Nat) (k : StreamId) :
    (t.sendNextData window).2.conn.state.getStream? k =
      (nextDataFrame window t.readyResponses t.conn.state.streams).1.lookup k := by
  unfold sendNextData; dsimp only; split <;> rfl

@[simp] theorem sendNextData_tokioRequestToH2stream (window : Nat) :
    (t.sendNextData window).2.tokioRequestToH2stream = t.tokioRequestToH2stream := by
  unfold sendNextData; dsimp only; split <;> rfl

@[simp] theorem sendNextData_h2streamToTokioRequest (window : Nat) :
    (t.sendNextData window).2.h2streamToTokioRequest = t.h2streamToTokioRequest := by
  unfold sendNextData; dsimp only; split <;> rfl

theorem sendNextData_sender (window : Nat) :
    (t.sendNextData window).2.sender.buffer =
      t.sender.buffer ++
        (nextDataFrame window t.readyResponses t.conn.state.streams).2.2.toList := by
  unfold sendNextData; dsimp only; split <;> simp_all [FrameSender.sendFrame]

theorem sendNextData_readyResponses (window : Nat) :
    (t.sendNextData window).2.readyResponses =
      (nextDataFrame window t.readyResponses t.conn.state.streams).2.1 := by
  unfold sendNextData; dsimp only; split <;> rfl

end

end H2ClientTokioTransport

end TokioSolicit
