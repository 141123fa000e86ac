import TokioSolicit.Responses

/-!
# One HTTP/2 stream of the client

`H2Stream` is the transport's implementation of `solicit`'s `Stream` trait. Outbound, it
queues the request body the submitter hands it and gives the connection one DATA payload per
`get_data_chunk`; inbound, it turns every event the connection raises on it (headers, a data
chunk, a state change) into a `ResponseChunk` on the shared buffer, at once.

`get_data_chunk` is cut in two here: `prepareOutBuf`, and `readOutBuf` for the `match` on the
out buffer. Each call the program makes on a stream is a `StreamCall`, and `H2Stream.call`
performs it; the laws of the upload side are proved over runs of calls in `Upload`.
-/

namespace TokioSolicit

/-- `std::io::Cursor<Vec<u8>>`: a vector and the position up to which it has been read. -/
structure Cursor where
  inner : Bytes
  pos : Nat
  deriving DecidableEq, Repr

namespace Cursor

def new (inner : Bytes) : Cursor := ⟨inner, 0⟩

/-- The bytes not read yet. -/
def remaining (c : Cursor) : Bytes := c.inner.drop c.pos

/-- `Read::read`: copies as many remaining bytes as `buf` holds over its front, and advances
by as many. -/
def read (c : Cursor) (buf : Bytes) : Nat × Bytes × Cursor :=
  let n := min buf.length c.remaining.length
  (n, c.remaining.take n ++ buf.drop n, ⟨c.inner, c.pos + n⟩)

@[simp] theorem new_remaining (v : Bytes) : (new v).remaining = v := rfl

theorem read_written (c : Cursor) (buf : Bytes) :
    (c.read buf).2.1.take (c.read buf).1 ++ (c.read buf).2.2.remaining = c.remaining := by
  simp only [read, remaining, List.drop_drop]
  rw [List.take_append_of_le_length (by simp), List.take_take, min_self,
    ← List.drop_drop, List.take_append_drop]

theorem read_buf_length (c : Cursor) (buf : Bytes) : (c.read buf).2.1.length = buf.length := by
  simp only [read, List.length_append, List.length_take, List.length_drop]
  omega

theorem remaining_eq_nil {c : Cursor} (h : c.pos = c.inner.length) : c.remaining = [] := by
  simp [remaining, h]

theorem remaining_getD (c : Cursor) :
    ((if c.pos = c.inner.length then none else some c).map remaining).getD [] = c.remaining := by
  split <;> simp_all [remaining_eq_nil]

@[simp] theorem read_inner (c : Cursor) (buf : Bytes) : (c.read buf).2.2.inner = c.inner := rfl

theorem read_pos (c : Cursor) (buf : Bytes) :
    (c.read buf).2.2.pos = c.pos + (c.read buf).1 := rfl

theorem read_length (c : Cursor) (buf : Bytes) :
    (c.read buf).1 = min buf.length (c.inner.length - c.pos) := by
  simp [read, remaining]

end Cursor

/-- The transport's stream: its id once assigned, its state, the request body still to send,
and the sender of its response chunks. -/
structure H2Stream where
  streamId : Option StreamId
  state : StreamState
  outBuf : Option Cursor
  outQueue : List Bytes
  shouldClose : Bool
  sender : ResponseChunkSender
  deriving DecidableEq, Repr

/-- What `get_data_chunk` leaves behind: its result, the caller's buffer after the call, and
the stream and shared response buffer after it. -/
structure DataChunkCall where
  result : Except StreamDataError StreamDataChunk
  buf : Bytes
  stream : H2Stream
  responses : ResponseChunkReceiver

/-- An event the connection raises on a stream while it dispatches an inbound frame: the
response headers, a DATA payload, or a change of state (`close_remote` for END_STREAM, a
direct `set_state` for RST_STREAM and the like). -/
inductive StreamEvent
  | setHeaders (headers : List Header)
  | newDataChunk (data : Bytes)
  | setState (state : StreamState)
  | closeRemote
  deriving DecidableEq, Repr

/-- The state a stream in state `st` is left in by an event. -/
def StreamEvent.nextState (e : StreamEvent) (st : StreamState) : StreamState :=
  match e with
  | .setState st' => st'
  | .closeRemote => st.closeRemote
  | _ => st

namespace H2Stream

def new (sender : ResponseChunkSender) : H2Stream :=
  { streamId := none, state := .«open», outBuf := none, outQueue := [], shouldClose := false,
    sender }

def addData (s : H2Stream) (data : Bytes) : Except Unit H2Stream :=
  if s.shouldClose then .error () else .ok { s with outQueue := s.outQueue ++ [data] }

def setShouldClose (s : H2Stream) : H2Stream := { s with shouldClose := true }

def prepareOutBuf (s : H2Stream) : H2Stream :=
  match s.outBuf, s.outQueue with
  | none, v :: rest => { s with outBuf := some (Cursor.new v), outQueue := rest }
  | _, _ => s

-- ---------------------------------------------------------------------------
-- The `solicit::Stream` callbacks
-- ---------------------------------------------------------------------------

def newDataChunk (s : H2Stream) (data : Bytes) (r : ResponseChunkReceiver) :
    H2Stream × ResponseChunkReceiver :=
  (s, s.sender.sendChunk (.body ⟨data⟩) r)

def setHeaders (s : H2Stream) (headers : List Header) (r : ResponseChunkReceiver) :
    H2Stream × ResponseChunkReceiver :=
  (s, s.sender.sendChunk (.headers ⟨headers.map fun h => Header.ofOwned h.intoOwned⟩) r)

def setState (s : H2Stream) (state : StreamState) (r : ResponseChunkReceiver) :
    H2Stream × ResponseChunkReceiver :=
  let s := { s with state }
  (s, if s.state.isClosedRemote then s.sender.sendChunk .endOfBody r else r)

/-- `solicit`'s default `close_local`. -/
def closeLocal (s : H2Stream) (r : ResponseChunkReceiver) : H2Stream × ResponseChunkReceiver :=
  s.setState s.state.closeLocal r

/-- `solicit`'s default `close_remote`. -/
def closeRemote (s : H2Stream) (r : ResponseChunkReceiver) : H2Stream × ResponseChunkReceiver :=
  s.setState s.state.closeRemote r

/-- The callback the connection makes for an event. -/
def onEvent (s : H2Stream) (r : ResponseChunkReceiver) :
    StreamEvent → H2Stream × ResponseChunkReceiver
  | .setHeaders headers => s.setHeaders headers r
  | .newDataChunk data => s.newDataChunk data r
  | .setState state => s.setState state r
  | .closeRemote => s.closeRemote r

/-- The `match self.out_buf` of `get_data_chunk`, after `prepare_out_buf`. -/
def readOutBuf (s : H2Stream) (buf : Bytes) : StreamDataChunk × Bytes × H2Stream :=
  match s.outBuf with
  | none => (if s.shouldClose then .last 0 else .unavailable, buf, s)
  | some d =>
    match d.read buf with
    | (read, buf, d) =>
      (if s.shouldClose ∧ d.pos = d.inner.length ∧ s.outQueue = [] then .last read
        else .chunk read,
       buf, { s with outBuf := if d.pos = d.inner.length then none else some d })

def getDataChunk (s : H2Stream) (buf : Bytes) (r : ResponseChunkReceiver) : DataChunkCall :=
  if s.state.isClosedLocal then ⟨.error .closed, buf, s, r⟩
  else
    match s.prepareOutBuf.readOutBuf buf with
    | (.last n, buf, s) => ⟨.ok (.last n), buf, (s.closeLocal r).1, (s.closeLocal r).2⟩
    | (chunk, buf, s) => ⟨.ok chunk, buf, s, r⟩

-- ---------------------------------------------------------------------------
-- The request body a stream still holds
-- ---------------------------------------------------------------------------

/-- The request-body bytes queued on the stream and not handed out yet. -/
def pending (s : H2Stream) : Bytes :=
  (s.outBuf.map Cursor.remaining).getD [] ++ s.outQueue.flatten

/-- How many vectors the stream holds: the out buffer's and the queued ones. -/
def vectors (s : H2Stream) : Nat := s.outBuf.toList.length + s.outQueue.length

/-- Between calls the out buffer is never a cursor already at its end. -/
def Live (s : H2Stream) : Prop := ∀ d, s.outBuf = some d → d.pos < d.inner.length

-- ---------------------------------------------------------------------------
-- `prepare_out_buf` and the read from the out buffer
-- ---------------------------------------------------------------------------

section
variable (s : H2Stream) (buf : Bytes) (r : ResponseChunkReceiver)

@[simp] theorem prepareOutBuf_state : s.prepareOutBuf.state = s.state := by
  unfold prepareOutBuf; split <;> rfl

@[simp] theorem prepareOutBuf_shouldClose : s.prepareOutBuf.shouldClose = s.shouldClose := by
  unfold prepareOutBuf; split <;> rfl

@[simp] theorem prepareOutBuf_sender : s.prepareOutBuf.sender = s.sender := by
  unfold prepareOutBuf; split <;> rfl

@[simp] theorem prepareOutBuf_streamId : s.prepareOutBuf.streamId = s.streamId := by
  unfold prepareOutBuf; split <;> rfl

@[simp] theorem prepareOutBuf_pending : s.prepareOutBuf.pending = s.pending := by
  unfold prepareOutBuf; split <;> simp_all [pending]

@[simp] theorem prepareOutBuf_vectors : s.prepareOutBuf.vectors = s.vectors := by
  unfold prepareOutBuf; split <;> simp_all [vectors]; omega

theorem prepareOutBuf_outBuf_none :
    s.prepareOutBuf.outBuf = none ↔ s.outBuf = none ∧ s.outQueue = [] := by
  unfold prepareOutBuf
  split
  · simp_all
  · rename_i hne
    cases hq : s.outQueue with
    | nil => simp
    | cons v rest => simpa [hq] using hne v rest

theorem prepareOutBuf_of_empty (hb : s.outBuf = none) (hq : s.outQueue = []) :
    s.prepareOutBuf = s := by
  simp [prepareOutBuf, hb, hq]

theorem prepareOutBuf_outQueue (h : s.prepareOutBuf.outBuf = none) :
    s.prepareOutBuf.outQueue = [] := by
  obtain ⟨hb, hq⟩ := (prepareOutBuf_outBuf_none s).mp h
  rw [prepareOutBuf_of_empty s hb hq, hq]

theorem prepareOutBuf_bound (h : s.Live) :
    ∀ d, s.prepareOutBuf.outBuf = some d → d.pos ≤ d.inner.length := by
  unfold prepareOutBuf
  split
  · simp [Cursor.new]
  · exact fun d hd => Nat.le_of_lt (h d hd)

theorem readOutBuf_some {d : Cursor} (h : s.outBuf = some d) :
    s.readOutBuf buf =
      (if s.shouldClose ∧ (d.read buf).2.2.pos = (d.read buf).2.2.inner.length ∧
          s.outQueue = [] then .last (d.read buf).1
        else .chunk (d.read buf).1,
       (d.read buf).2.1,
       { s with outBuf := if (d.read buf).2.2.pos = (d.read buf).2.2.inner.length then none
          else some (d.read buf).2.2 }) := by
  unfold readOutBuf; rw [h]

theorem readOutBuf_none (h : s.outBuf = none) :
    s.readOutBuf buf = (if s.shouldClose then .last 0 else .unavailable, buf, s) := by
  simp [readOutBuf, h]

theorem readOutBuf_stream :
    (s.readOutBuf buf).2.2 = { s with outBuf := (s.readOutBuf buf).2.2.outBuf } := by
  cases h : s.outBuf
  · cases s; simp_all [readOutBuf_none]
  · simp [readOutBuf_some _ _ h]

@[simp] theorem readOutBuf_state : (s.readOutBuf buf).2.2.state = s.state := by
  rw [readOutBuf_stream]

@[simp] theorem readOutBuf_shouldClose : (s.readOutBuf buf).2.2.shouldClose = s.shouldClose := by
  rw [readOutBuf_stream]

@[simp] theorem readOutBuf_sender : (s.readOutBuf buf).2.2.sender = s.sender := by
  rw [readOutBuf_stream]

@[simp] theorem readOutBuf_streamId : (s.readOutBuf buf).2.2.streamId = s.streamId := by
  rw [readOutBuf_stream]

@[simp] theorem readOutBuf_outQueue : (s.readOutBuf buf).2.2.outQueue = s.outQueue := by
  rw [readOutBuf_stream]

theorem size_ite (c : Prop) [Decidable c] (n : Nat) :
    (if c then StreamDataChunk.last n else .chunk n).size = n := by
  split <;> rfl

theorem readOutBuf_buf_length : (s.readOutBuf buf).2.1.length = buf.length := by
  cases h : s.outBuf with
  | none => rw [readOutBuf_none _ _ h]
  | some d => rw [readOutBuf_some _ _ h, Cursor.read_buf_length]

theorem readOutBuf_pending :
    (s.readOutBuf buf).2.1.take (s.readOutBuf buf).1.size ++ (s.readOutBuf buf).2.2.pending =
      s.pending := by
  cases h : s.outBuf with
  | none => rw [readOutBuf_none _ _ h]; split <;> simp [StreamDataChunk.size]
  | some d =>
    rw [readOutBuf_some _ _ h]
    simp only [size_ite, pending, h, Cursor.remaining_getD, ← List.append_assoc,
      Cursor.read_written, Option.map_some', Option.getD_some]

theorem readOutBuf_last (hq : s.outBuf = none → s.outQueue = [])
    (h : (s.readOutBuf buf).1 = .last n) :
    s.shouldClose ∧ (s.readOutBuf buf).2.2.pending = [] := by
  cases ho : s.outBuf with
  | none =>
    rw [readOutBuf_none _ _ ho] at h ⊢
    split at h <;> simp_all [pending]
  | some d =>
    rw [readOutBuf_some _ _ ho] at h ⊢
    split at h
    · rename_i hc
      obtain ⟨h1, h2, h3⟩ := hc
      simp [pending, h1, h2, h3]
    · cases h

theorem readOutBuf_unavailable (h : (s.readOutBuf buf).1 = .unavailable) :
    s.outBuf = none ∧ s.shouldClose = false ∧ (s.readOutBuf buf).2 = (buf, s) := by
  cases ho : s.outBuf with
  | none =>
    rw [readOutBuf_none _ _ ho] at h ⊢
    split at h <;> simp_all
  | some d =>
    rw [readOutBuf_some _ _ ho] at h
    split at h <;> cases h

theorem readOutBuf_live (hb : ∀ d, s.outBuf = some d → d.pos ≤ d.inner.length) :
    (s.readOutBuf buf).2.2.Live := by
  cases ho : s.outBuf with
  | none =>
    rw [readOutBuf_none _ _ ho]
    simp [Live, ho]
  | some d =>
    rw [readOutBuf_some _ _ ho]
    have := hb d ho
    intro d' hd'
    simp only [Option.ite_none_left_eq_some, Option.some.injEq] at hd'
    obtain ⟨hne, rfl⟩ := hd'
    simp only [Cursor.read_inner, Cursor.read_pos, Cursor.read_length] at hne ⊢
    omega

theorem readOutBuf_progress (hb : buf ≠ [])
    (hd : ∀ d, s.outBuf = some d → d.pos ≤ d.inner.length)
    (hr : (s.readOutBuf buf).1 = .chunk n) :
    (0 < n ∧ (s.readOutBuf buf).2.2.vectors ≤ s.vectors) ∨
      (n = 0 ∧ (s.readOutBuf buf).2.2.vectors + 1 = s.vectors) := by
  cases ho : s.outBuf with
  | none =>
    rw [readOutBuf_none _ _ ho] at hr
    split at hr <;> cases hr
  | some d =>
    have hle := hd d ho
    have hk : 0 < buf.length := List.length_pos.mpr hb
    rw [readOutBuf_some _ _ ho] at hr ⊢
    have hn : (d.read buf).1 = n := by split at hr <;> simp_all
    simp only [vectors, ho, Option.toList_some, List.length_singleton, Cursor.read_inner,
      Cursor.read_pos, Cursor.read_length] at hn ⊢
    split <;> simp <;> omega

-- ---------------------------------------------------------------------------
-- `get_data_chunk`
-- ---------------------------------------------------------------------------

theorem getDataChunk_of_isClosedLocal (h : s.state.isClosedLocal) :
    s.getDataChunk buf r = ⟨.error .closed, buf, s, r⟩ := by
  simp [getDataChunk, h]

@[simp] theorem setState_stream (st : StreamState) :
    (s.setState st r).1 = { s with state := st } := rfl

theorem getDataChunk_open (h : s.state.isClosedLocal = false) :
    s.getDataChunk buf r =
      if (s.prepareOutBuf.readOutBuf buf).1.isLast then
        ⟨.ok (s.prepareOutBuf.readOutBuf buf).1, (s.prepareOutBuf.readOutBuf buf).2.1,
          ((s.prepareOutBuf.readOutBuf buf).2.2.closeLocal r).1,
          ((s.prepareOutBuf.readOutBuf buf).2.2.closeLocal r).2⟩
      else
        ⟨.ok (s.prepareOutBuf.readOutBuf buf).1, (s.prepareOutBuf.readOutBuf buf).2.1,
          (s.prepareOutBuf.readOutBuf buf).2.2, r⟩ := by
  unfold getDataChunk
  simp only [h, Bool.false_eq_true, ↓reduceIte]
  split
  · rename_i heq; simp [heq, StreamDataChunk.isLast]
  · rename_i chunk _ _ heq hne
    cases chunk <;> simp_all [StreamDataChunk.isLast]

@[simp] theorem onEvent_stream (e : StreamEvent) :
    (s.onEvent r e).1 = { s with state := e.nextState s.state } := by
  cases e <;> rfl

@[simp] theorem setState_responses (st : StreamState) :
    (s.setState st r).2 = if st.isClosedRemote then s.sender.sendChunk .endOfBody r else r := rfl

end

section
variable {s : H2Stream} {buf : Bytes} {r : ResponseChunkReceiver}

@[simp] theorem getDataChunk_sender : (s.getDataChunk buf r).stream.sender = s.sender := by
  cases h : s.state.isClosedLocal
  · rw [getDataChunk_open _ _ _ h]; split <;> simp [closeLocal]
  · simp [getDataChunk_of_isClosedLocal _ _ _ h]

@[simp] theorem getDataChunk_shouldClose :
    (s.getDataChunk buf r).stream.shouldClose = s.shouldClose := by
  cases h : s.state.isClosedLocal
  · rw [getDataChunk_open _ _ _ h]; split <;> simp [closeLocal]
  · simp [getDataChunk_of_isClosedLocal _ _ _ h]

@[simp] theorem getDataChunk_streamId : (s.getDataChunk buf r).stream.streamId = s.streamId := by
  cases h : s.state.isClosedLocal
  · rw [getDataChunk_open _ _ _ h]; split <;> simp [closeLocal]
  · simp [getDataChunk_of_isClosedLocal _ _ _ h]

theorem getDataChunk_pending (h : s.state.isClosedLocal = false) :
    ∃ chunk, (s.getDataChunk buf r).result = .ok chunk ∧
      (s.getDataChunk buf r).buf.take chunk.size ++ (s.getDataChunk buf r).stream.pending =
        s.pending := by
  have hp := readOutBuf_pending s.prepareOutBuf buf
  rw [prepareOutBuf_pending] at hp
  rw [getDataChunk_open _ _ _ h]
  split <;> exact ⟨_, rfl, by simpa [closeLocal, pending] using hp⟩

theorem getDataChunk_last (h : s.state.isClosedLocal = false)
    (hr : (s.getDataChunk buf r).result = .ok (.last n)) :
    s.shouldClose ∧ (s.getDataChunk buf r).stream.pending = [] ∧
      (s.getDataChunk buf r).stream.state = s.state.closeLocal ∧
      (s.getDataChunk buf r).responses = (s.closeLocal r).2 := by
  rw [getDataChunk_open _ _ _ h] at hr ⊢
  by_cases hl : (s.prepareOutBuf.readOutBuf buf).1.isLast
  · simp only [hl, ↓reduceIte, Except.ok.injEq] at hr ⊢
    obtain ⟨hc, hp⟩ := readOutBuf_last _ _ (prepareOutBuf_outQueue s) hr
    exact ⟨by simpa using hc, by simpa [closeLocal, pending] using hp, by simp [closeLocal],
      by simp [closeLocal]⟩
  · simp only [hl, Bool.false_eq_true, ↓reduceIte, Except.ok.injEq] at hr
    simp [hr, StreamDataChunk.isLast] at hl

theorem getDataChunk_chunk (h : s.state.isClosedLocal = false)
    (hr : (s.getDataChunk buf r).result = .ok (.chunk n)) :
    (s.getDataChunk buf r).stream.state = s.state ∧ (s.getDataChunk buf r).responses = r := by
  rw [getDataChunk_open _ _ _ h] at hr ⊢
  by_cases hl : (s.prepareOutBuf.readOutBuf buf).1.isLast
  · simp only [hl, ↓reduceIte, Except.ok.injEq] at hr
    simp [hr, StreamDataChunk.isLast] at hl
  · simp [hl]

theorem getDataChunk_unavailable (h : s.state.isClosedLocal = false)
    (hr : (s.getDataChunk buf r).result = .ok .unavailable) :
    s.getDataChunk buf r = ⟨.ok .unavailable, buf, s, r⟩ ∧ s.outBuf = none ∧
      s.outQueue = [] ∧ s.shouldClose = false := by
  rw [getDataChunk_open _ _ _ h] at hr ⊢
  by_cases hl : (s.prepareOutBuf.readOutBuf buf).1.isLast
  · simp only [hl, ↓reduceIte, Except.ok.injEq] at hr
    simp [hr, StreamDataChunk.isLast] at hl
  · simp only [hl, Bool.false_eq_true, ↓reduceIte, Except.ok.injEq] at hr ⊢
    obtain ⟨hb, hc, he⟩ := readOutBuf_unavailable _ _ hr
    obtain ⟨hb, hq⟩ := (prepareOutBuf_outBuf_none s).mp hb
    rw [prepareOutBuf_of_empty s hb hq] at hr hc he ⊢
    simp_all [pending]

theorem getDataChunk_buf_length : (s.getDataChunk buf r).buf.length = buf.length := by
  cases h : s.state.isClosedLocal
  · rw [getDataChunk_open _ _ _ h]
    split <;> exact readOutBuf_buf_length _ _
  · simp [getDataChunk_of_isClosedLocal _ _ _ h]

theorem getDataChunk_live (hl : s.Live) : (s.getDataChunk buf r).stream.Live := by
  cases h : s.state.isClosedLocal
  · have := readOutBuf_live s.prepareOutBuf buf (prepareOutBuf_bound s hl)
    rw [getDataChunk_open _ _ _ h]
    split <;> simpa [closeLocal, Live] using this
  · simpa [getDataChunk_of_isClosedLocal _ _ _ h] using hl

/-- A `get_data_chunk` that answers `Unavailable` or `Closed`: it changes nothing and writes
nothing. -/
def Silent (s : H2Stream) (buf : Bytes) (r : ResponseChunkReceiver) : Prop :=
  ∃ res, s.getDataChunk buf r = ⟨res, buf, s, r⟩ ∧
    (res = .ok .unavailable ∨ res = .error .closed)

theorem silent_of (hc : ∀ n, (s.getDataChunk buf r).result ≠ .ok (.chunk n))
    (hl : ∀ n, (s.getDataChunk buf r).result ≠ .ok (.last n)) : s.Silent buf r := by
  cases h : s.state.isClosedLocal
  · obtain ⟨chunk, hres, -⟩ := @getDataChunk_pending s buf r h
    cases chunk with
    | chunk n => exact absurd hres (hc n)
    | last n => exact absurd hres (hl n)
    | unavailable => exact ⟨_, (getDataChunk_unavailable h hres).1, .inl rfl⟩
  · exact ⟨_, getDataChunk_of_isClosedLocal _ _ _ h, .inr rfl⟩

theorem getDataChunk_progress (hl : s.Live) (h : s.state.isClosedLocal = false) (hb : buf ≠ [])
    (hr : (s.getDataChunk buf r).result = .ok (.chunk n)) :
    (0 < n ∧ (s.getDataChunk buf r).stream.vectors ≤ s.vectors) ∨
      (n = 0 ∧ (s.getDataChunk buf r).stream.vectors + 1 = s.vectors) := by
  rw [getDataChunk_open _ _ _ h] at hr ⊢
  by_cases hlast : (s.prepareOutBuf.readOutBuf buf).1.isLast
  · simp only [hlast, ↓reduceIte, Except.ok.injEq] at hr
    simp [hr, StreamDataChunk.isLast] at hlast
  · simp only [hlast, Bool.false_eq_true, ↓reduceIte, Except.ok.injEq] at hr ⊢
    simpa using readOutBuf_progress s.prepareOutBuf buf hb (prepareOutBuf_bound s hl) hr

end

end H2Stream

end TokioSolicit
