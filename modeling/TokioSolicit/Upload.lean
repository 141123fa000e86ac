import TokioSolicit.Events

/-!
# The upload side of a stream

A stream takes request-body vectors from the submitter (`add_data`) and hands them to the
connection one DATA payload at a time (`get_data_chunk`); `set_should_close` asks it to end the
request once everything is out. `UploadSpec` states what this promises, over what the two users
of the stream observe. `upload_follows_spec`: the stream `prepare_request` makes keeps the
promise through every sequence of calls in which the peer closes its side at most once and
never resets the stream. `getDataChunk_drains`: from any reachable state not closed on the
local end, successive `get_data_chunk` calls give plain chunks, each handing out at least one
byte or dropping an empty vector, no more of them than the stream holds bytes and vectors; then
the last chunk if the close was asked for, and `Unavailable` otherwise.
-/

namespace TokioSolicit

/-- A call the program makes on one stream: an event the connection raises, the transport's
`add_data` and `set_should_close`, the connection's `get_data_chunk`, and the backfill of the
stream's id. -/
inductive StreamCall
  | event (e : StreamEvent)
  | addData (data : Bytes)
  | setShouldClose
  | getDataChunk (buf : Bytes)
  | assignId (id : StreamId)
  deriving DecidableEq

/-- A direct `set_state` from the connection, as RST_STREAM makes. -/
def StreamCall.setsState : StreamCall → Bool
  | .event (.setState _) => true
  | _ => false

/-- What a call hands back to its caller. -/
inductive CallResult
  | done
  | added (result : Except Unit Unit)
  | data (result : Except StreamDataError StreamDataChunk) (buf : Bytes)

namespace H2Stream

def call (s : H2Stream) (r : ResponseChunkReceiver) :
    StreamCall → H2Stream × ResponseChunkReceiver × CallResult
  | .event e => ((s.onEvent r e).1, (s.onEvent r e).2, .done)
  | .addData data =>
    match s.addData data with
    | .ok s' => (s', r, .added (.ok ()))
    | .error () => (s, r, .added (.error ()))
  | .setShouldClose => (s.setShouldClose, r, .done)
  | .getDataChunk buf =>
    ((s.getDataChunk buf r).stream, (s.getDataChunk buf r).responses,
      .data (s.getDataChunk buf r).result (s.getDataChunk buf r).buf)
  | .assignId id => ({ s with streamId := some id }, r, .done)

@[simp] theorem call_sender (s : H2Stream) (r : ResponseChunkReceiver) (c : StreamCall) :
    (s.call r c).1.sender = s.sender := by
  cases c with
  | addData data => cases hc : s.shouldClose <;> simp [call, addData, hc]
  | _ => simp [call, setShouldClose]

/-- The answers to a sequence of calls, in order. -/
def callAll (s : H2Stream) (r : ResponseChunkReceiver) : List StreamCall → List CallResult
  | [] => []
  | c :: cs => (s.call r c).2.2 :: callAll (s.call r c).1 (s.call r c).2.1 cs

/-- The states a stream reaches from `new` through the calls the program makes on it. -/
inductive Reachable : H2Stream → Prop
  | new (sender : ResponseChunkSender) : Reachable (new sender)
  | call {s : H2Stream} (r : ResponseChunkReceiver) (c : StreamCall) :
      Reachable s → Reachable (s.call r c).1

theorem call_live {s : H2Stream} (r : ResponseChunkReceiver) (c : StreamCall) (h : s.Live) :
    (s.call r c).1.Live := by
  cases c with
  | event e => simpa [call, Live] using h
  | addData data => cases hc : s.shouldClose <;> simp_all [call, addData, Live]
  | setShouldClose => simpa [call, setShouldClose, Live] using h
  | getDataChunk buf => exact getDataChunk_live h
  | assignId id => simpa [call, Live] using h

theorem Reachable.live {s : H2Stream} (h : s.Reachable) : s.Live := by
  induction h with
  | new sender => simp [Live, H2Stream.new]
  | call r c _ ih => exact call_live r c ih

end H2Stream

/-- The call a body frame makes on its request's stream: `add_data` with its bytes, or
`set_should_close` for the end of the body. -/
def bodyCall : Option HttpRequestBody → StreamCall
  | some ⟨data⟩ => .addData data
  | none => .setShouldClose

theorem call_bodyCall_shouldClose (s : H2Stream) (r : ResponseChunkReceiver)
    (chunk : Option HttpRequestBody) :
    (s.call r (bodyCall chunk)).1.shouldClose = (s.shouldClose || chunk.isNone) := by
  rcases chunk with _ | ⟨data⟩
  · simp [bodyCall, H2Stream.call, H2Stream.setShouldClose]
  · cases hc : s.shouldClose <;> simp [bodyCall, H2Stream.call, H2Stream.addData, hc]

namespace H2ClientTokioTransport

theorem addBodyChunk_call {t t' : H2ClientTokioTransport} {id : RequestId}
    {chunk : Option HttpRequestBody} (h : t.addBodyChunk id chunk = .ok t')
    (r : ResponseChunkReceiver) :
    ∃ sid, t.tokioRequestToH2stream.lookup id = some sid ∧
      ((t.conn.state.getStream? sid = none ∧ t' = t) ∨
        ∃ s, t.conn.state.getStream? sid = some s ∧
          t' = t.withStream sid (s.call r (bodyCall chunk)).1) := by
  unfold addBodyChunk at h
  split at h
  · cases h
  · rename_i sid hsid
    refine ⟨sid, hsid, ?_⟩
    split at h
    · rename_i hs
      exact .inl ⟨hs, by cases h; rfl⟩
    · rename_i s data hs
      split at h
      · rename_i s' hadd
        cases h
        exact .inr ⟨s, hs, by simp [H2Stream.call, bodyCall, hadd]⟩
      · cases h
    · rename_i s hs
      cases h
      exact .inr ⟨s, hs, rfl⟩

theorem step_getStream? {t t' : H2ClientTokioTransport} {e : Event}
    {y : Option TokioResponseFrame} (h : t.step e = .ok (t', y)) {k : StreamId} {s' : H2Stream}
    (hk : t'.conn.state.getStream? k = some s') :
    (∃ s, t.conn.state.getStream? k = some s ∧ (s' = s ∨ ∃ r c, s' = (s.call r c).1)) ∨
      ∃ id headers hasBody, e = .start id headers hasBody k ∧
        s' = { (t.prepareRequest id headers hasBody).1.stream with streamId := some k } := by
  have old : t.conn.state.getStream? k = some s' →
      ∃ s, t.conn.state.getStream? k = some s ∧ (s' = s ∨ ∃ r c, s' = (s.call r c).1) :=
    fun hk => ⟨s', hk, .inl rfl⟩
  cases e with
  | start id headers hasBody assigned =>
    obtain ⟨t'', hst, -, -, -, hget, -⟩ := t.startRequest_spec id headers hasBody assigned
    simp only [step, hst, Except.map, Except.ok.injEq, Prod.mk.injEq] at h
    obtain ⟨rfl, -⟩ := h
    rw [hget] at hk
    split at hk
    · subst k; cases hk
      exact .inr ⟨id, headers, hasBody, rfl, rfl⟩
    · exact .inl (old hk)
  | body id chunk =>
    obtain ⟨hb, -⟩ := step_body h
    obtain ⟨sid, -, ⟨-, rfl⟩ | ⟨s, hs, rfl⟩⟩ := addBodyChunk_call hb t.readyResponses
    · exact .inl (old hk)
    · rw [withStream_getStream?] at hk
      split at hk
      · subst k
        rw [hs, Option.map_some'] at hk
        cases hk
        exact .inl ⟨s, hs, .inr ⟨_, _, rfl⟩⟩
      · exact .inl (old hk)
  | stream sid e =>
    obtain ⟨rfl, -⟩ := Prod.mk.inj (Except.ok.inj h)
    rw [handleStreamEvent_getStream?] at hk
    split at hk
    · obtain ⟨s, hs, rfl⟩ := Option.map_eq_some'.mp hk
      exact .inl ⟨s, hs, .inr ⟨t.readyResponses, .event e, rfl⟩⟩
    · exact .inl (old hk)
  | control frame =>
    obtain ⟨-, -, rfl⟩ := step_control h
    exact .inl (old hk)
  | reap =>
    obtain ⟨rfl, -⟩ := Prod.mk.inj (Except.ok.inj h)
    rw [handleClosedStreams, SessionState.getStream?_getClosed, Option.filter_eq_some] at hk
    exact .inl (old hk.1)
  | sendData window =>
    obtain ⟨rfl, -⟩ := Prod.mk.inj (Except.ok.inj h)
    rw [sendNextData_getStream?] at hk
    obtain ⟨s, hs, rfl | ⟨buf, r, rfl⟩⟩ := nextDataFrame_lookup hk
    · exact .inl (old hs)
    · exact .inl ⟨s, hs, .inr ⟨r, .getDataChunk buf, rfl⟩⟩
  | write w =>
    obtain ⟨rfl, -⟩ := Prod.mk.inj (Except.ok.inj h)
    exact .inl (old hk)
  | next =>
    obtain ⟨rfl, -⟩ := Prod.mk.inj (Except.ok.inj h)
    exact .inl (old hk)

theorem step_keeps_stream {t t' : H2ClientTokioTransport} {e : Event}
    {y : Option TokioResponseFrame} (h : t.step e = .ok (t', y)) {k : StreamId} {s : H2Stream}
    (hk : t.conn.state.getStream? k = some s) :
    (t'.conn.state.getStream? k).isSome ∨ (e = .reap ∧ s.state.isClosed) := by
  cases e with
  | start id headers hasBody assigned =>
    exact .inl (by rw [step_start_getStream? h]; split <;> simp [hk])
  | body id chunk =>
    obtain ⟨hb, -⟩ := step_body h
    obtain ⟨sid, -, ⟨-, rfl⟩ | ⟨s₀, -, rfl⟩⟩ := addBodyChunk_call hb t.readyResponses
    · exact .inl (by simp [hk])
    · exact .inl (by rw [withStream_getStream?]; split <;> simp [hk])
  | stream sid e =>
    obtain ⟨rfl, -⟩ := Prod.mk.inj (Except.ok.inj h)
    exact .inl (by rw [handleStreamEvent_getStream?]; split <;> simp [hk])
  | control frame =>
    obtain ⟨-, -, rfl⟩ := step_control h
    exact .inl (by simp [hk])
  | reap =>
    obtain ⟨rfl, -⟩ := Prod.mk.inj (Except.ok.inj h)
    rw [handleClosedStreams, SessionState.getStream?_getClosed, hk]
    cases hc : s.state.isClosed
    · exact .inl (by simp [Option.filter, hc])
    · exact .inr ⟨rfl, rfl⟩
  | sendData window =>
    obtain ⟨rfl, -⟩ := Prod.mk.inj (Except.ok.inj h)
    rw [sendNextData_getStream?, nextDataFrame_lookup_isSome]
    exact .inl (show (t.conn.state.getStream? k).isSome by simp [hk])
  | write w =>
    obtain ⟨rfl, -⟩ := Prod.mk.inj (Except.ok.inj h)
    exact .inl (by simp [tryWrite, hk])
  | next =>
    obtain ⟨rfl, -⟩ := Prod.mk.inj (Except.ok.inj h)
    exact .inl (by simp [getNextResponseFrame, hk])

end H2ClientTokioTransport

-- ---------------------------------------------------------------------------
-- What the upload side promises
-- ---------------------------------------------------------------------------

/-- The upload side of a stream, as its users see it: the vectors `add_data` accepted,
concatenated; the bytes `get_data_chunk` wrote, concatenated; whether `set_should_close` was
called; whether the stream handed out its last chunk. -/
structure UploadSpec where
  accepted : Bytes
  written : Bytes
  closing : Bool
  finished : Bool

namespace UploadSpec

/-- A request without a body has nothing to upload from the start. -/
def init (hasBody : Bool) : UploadSpec := ⟨[], [], false, !hasBody⟩

/-- The calls and answers the promise allows, and how each moves it. `add_data` succeeds
exactly when no close was asked for; a chunk's bytes extend what was written, within what was
accepted; the last chunk comes once, after the close was asked for, and completes what was
accepted; after it a stream answers `Closed` and writes nothing. -/
inductive Step : UploadSpec → StreamCall → CallResult → UploadSpec → Prop
  | addData (a : UploadSpec) (data : Bytes) :
      Step a (.addData data) (.added (if a.closing then .error () else .ok ()))
        (if a.closing then a else { a with accepted := a.accepted ++ data })
  | setShouldClose (a : UploadSpec) : Step a .setShouldClose .done { a with closing := true }
  | event (a : UploadSpec) (e : StreamEvent) : Step a (.event e) .done a
  | assignId (a : UploadSpec) (id : StreamId) : Step a (.assignId id) .done a
  | chunk (a : UploadSpec) (buf buf' : Bytes) (n : Nat) : a.finished = false →
      a.written ++ buf'.take n <+: a.accepted →
      Step a (.getDataChunk buf) (.data (.ok (.chunk n)) buf')
        { a with written := a.written ++ buf'.take n }
  | unavailable (a : UploadSpec) (buf : Bytes) : a.finished = false →
      Step a (.getDataChunk buf) (.data (.ok .unavailable) buf) a
  | last (a : UploadSpec) (buf buf' : Bytes) (n : Nat) : a.finished = false → a.closing →
      a.written ++ buf'.take n = a.accepted →
      Step a (.getDataChunk buf) (.data (.ok (.last n)) buf')
        { a with written := a.accepted, finished := true }
  | closed (a : UploadSpec) (buf : Bytes) : a.finished →
      Step a (.getDataChunk buf) (.data (.error .closed) buf) a

/-- The promise allows these answers to these calls, from `a` on. -/
inductive Accepts : UploadSpec → List StreamCall → List CallResult → Prop
  | nil (a : UploadSpec) : Accepts a [] []
  | cons {a a' : UploadSpec} {c : StreamCall} {o : CallResult} {cs os} :
      Step a c o a' → Accepts a' cs os → Accepts a (c :: cs) (o :: os)

section
variable {a a' : UploadSpec} {buf buf' : Bytes} {n : Nat}

theorem Step.chunk_inv (h : Step a (.getDataChunk buf) (.data (.ok (.chunk n)) buf') a') :
    a' = { a with written := a.written ++ buf'.take n } ∧ a.finished = false ∧
      a.written ++ buf'.take n <+: a.accepted := by
  cases h; exact ⟨rfl, ‹_›, ‹_›⟩

theorem Step.last_inv (h : Step a (.getDataChunk buf) (.data (.ok (.last n)) buf') a') :
    a' = { a with written := a.accepted, finished := true } ∧ a.finished = false ∧ a.closing ∧
      a.written ++ buf'.take n = a.accepted := by
  cases h; exact ⟨rfl, ‹_›, ‹_›, ‹_›⟩

theorem Step.addData_inv {data : Bytes} {o : CallResult} (h : Step a (.addData data) o a') :
    a' = if a.closing then a else { a with accepted := a.accepted ++ data } := by
  cases h; rfl

theorem Step.setShouldClose_inv {o : CallResult} (h : Step a .setShouldClose o a') :
    a' = { a with closing := true } := by
  cases h; rfl

theorem Step.event_inv {e : StreamEvent} {o : CallResult} (h : Step a (.event e) o a') :
    a' = a := by
  cases h; rfl

end

end UploadSpec

-- ---------------------------------------------------------------------------
-- The stream keeps the promise
-- ---------------------------------------------------------------------------

/-- How a stream stands to the promise: what it still holds completes what was written to what
was accepted, its close flag is the close asked for, it is locally closed once finished; while
the peer may still close its side (`remote`) it is open or half-closed locally, afterwards
half-closed remotely or closed. -/
structure Simulates (a : UploadSpec) (s : H2Stream) (remote : Bool) : Prop where
  pending : a.written ++ s.pending = a.accepted
  closing : s.shouldClose = a.closing
  finished : s.state.isClosedLocal = a.finished
  state : if remote then s.state = .«open» ∨ s.state = .halfClosedLocal
    else s.state = .halfClosedRemote ∨ s.state = .closed

namespace Simulates

variable {a : UploadSpec} {s : H2Stream} {remote : Bool} (r : ResponseChunkReceiver)

theorem getDataChunk (h : Simulates a s remote) (buf : Bytes) :
    ∃ a', UploadSpec.Step a (.getDataChunk buf) (s.call r (.getDataChunk buf)).2.2 a' ∧
      Simulates a' (s.call r (.getDataChunk buf)).1 remote := by
  simp only [H2Stream.call]
  cases hc : s.state.isClosedLocal
  · obtain ⟨chunk, hres, hpend⟩ := @H2Stream.getDataChunk_pending s buf r hc
    have hfin : a.finished = false := h.finished ▸ hc
    cases chunk with
    | chunk n =>
      obtain ⟨hst, -⟩ := H2Stream.getDataChunk_chunk hc hres
      simp only [StreamDataChunk.size] at hpend
      rw [hres]
      refine ⟨_, .chunk a buf _ n hfin ⟨(s.getDataChunk buf r).stream.pending, ?_⟩,
        ⟨?_, by simp [h.closing], ?_, ?_⟩⟩
      · rw [List.append_assoc, hpend, h.pending]
      · simp only [List.append_assoc]; rw [hpend, h.pending]
      · rw [hst, hc, hfin]
      · rw [hst]; exact h.state
    | last n =>
      obtain ⟨hcl, hpend', hst, -⟩ := H2Stream.getDataChunk_last hc hres
      rw [hres]
      refine ⟨_, .last a buf _ n hfin (h.closing ▸ hcl) ?_,
        ⟨?_, by simp [h.closing], ?_, ?_⟩⟩
      · simpa [hpend', StreamDataChunk.size, ← h.pending] using hpend
      · simp [hpend']
      · simp [hst]
      · have hs := h.state
        rw [hst]
        cases remote <;> simp only [Bool.false_eq_true, ↓reduceIte] at hs ⊢ <;>
          rcases hs with h' | h' <;>
          simp_all [StreamState.closeLocal, StreamState.isClosedLocal]
    | unavailable =>
      obtain ⟨heq, -, -, -⟩ := H2Stream.getDataChunk_unavailable hc hres
      rw [heq]
      exact ⟨a, .unavailable a buf hfin, h⟩
  · rw [H2Stream.getDataChunk_of_isClosedLocal _ _ _ hc]
    exact ⟨a, .closed a buf (h.finished ▸ hc), h⟩

theorem event (h : Simulates a s remote) (e : StreamEvent)
    (hset : (StreamCall.event e).setsState = false) (hrem : e = .closeRemote → remote = true) :
    UploadSpec.Step a (.event e) (s.call r (.event e)).2.2 a ∧
      Simulates a (s.call r (.event e)).1 (if e = .closeRemote then false else remote) := by
  refine ⟨.event a e, ?_⟩
  cases e with
  | setState st => simp [StreamCall.setsState] at hset
  | closeRemote =>
    have hs := h.state
    simp only [hrem rfl, ↓reduceIte] at hs
    refine ⟨by simpa [H2Stream.call, H2Stream.pending] using h.pending, by simpa [H2Stream.call]
      using h.closing, ?_, ?_⟩ <;>
      rcases hs with h' | h' <;> simp_all [H2Stream.call, StreamEvent.nextState,
        StreamState.closeRemote, ← h.finished, StreamState.isClosedLocal]
  | _ => simpa [H2Stream.call, StreamEvent.nextState] using h

theorem call (h : Simulates a s remote) (c : StreamCall) (hset : c.setsState = false)
    (hrem : c = .event .closeRemote → remote = true) :
    ∃ a', UploadSpec.Step a c (s.call r c).2.2 a' ∧
      Simulates a' (s.call r c).1 (if c = .event .closeRemote then false else remote) := by
  cases c with
  | event e =>
    obtain ⟨hstep, hsim⟩ := h.event r e hset fun he => hrem (he ▸ rfl)
    exact ⟨a, hstep, by simpa using hsim⟩
  | addData data =>
    have hstep := UploadSpec.Step.addData a data
    cases hc : s.shouldClose
    · simp only [← h.closing, hc, Bool.false_eq_true, ↓reduceIte] at hstep
      refine ⟨_, by simpa [H2Stream.call, H2Stream.addData, hc] using hstep, ?_, ?_, ?_, ?_⟩ <;>
        simp [H2Stream.call, H2Stream.addData, hc, H2Stream.pending, ← h.pending, ← h.closing,
          h.finished, h.state]
    · simp only [← h.closing, hc, ↓reduceIte] at hstep
      exact ⟨_, by simpa [H2Stream.call, H2Stream.addData, hc] using hstep,
        by simpa [H2Stream.call, H2Stream.addData, hc] using h⟩
  | setShouldClose =>
    refine ⟨_, .setShouldClose a, ?_, ?_, ?_, ?_⟩ <;>
      simp [H2Stream.call, H2Stream.setShouldClose, H2Stream.pending, ← h.pending, h.finished,
        h.state]
  | getDataChunk buf => simpa using h.getDataChunk r buf
  | assignId id =>
    exact ⟨a, .assignId a id, h.pending, h.closing, h.finished, by simpa using h.state⟩

theorem callAll (h : Simulates a s remote) (calls : List StreamCall)
    (hset : ∀ c ∈ calls, c.setsState = false)
    (hrem : calls.count (.event .closeRemote) ≤ if remote then 1 else 0) :
    UploadSpec.Accepts a calls (s.callAll r calls) := by
  induction calls generalizing a s remote r with
  | nil => exact .nil a
  | cons c cs ih =>
    rw [List.count_cons] at hrem
    have hc : c = .event .closeRemote → remote = true := by
      rintro rfl; cases remote <;> simp at hrem ⊢
    obtain ⟨a', hstep, hsim⟩ := h.call r c (hset c (List.mem_cons_self _ _)) hc
    refine .cons hstep (ih _ hsim (fun c' hc' => hset c' (List.mem_cons_of_mem _ hc')) ?_)
    by_cases he : c = .event .closeRemote
    · subst he
      rw [hc rfl] at hrem
      simp only [beq_self_eq_true, ↓reduceIte, Bool.false_eq_true] at hrem ⊢
      omega
    · simpa [if_neg he, he] using hrem

end Simulates

theorem Simulates.prepareRequest (t : H2ClientTokioTransport) (id : RequestId)
    (headers : List Header) (hasBody : Bool) :
    Simulates (UploadSpec.init hasBody) (t.prepareRequest id headers hasBody).1.stream true := by
  cases hasBody <;>
    exact ⟨by rfl, by rfl, by rfl, by simp [H2ClientTokioTransport.prepareRequest, H2Stream.new,
      H2Stream.closeLocal, StreamState.closeLocal]⟩

/-- The stream `prepare_request` makes keeps the upload promise through every sequence of
calls in which the peer closes its side at most once and never resets the stream. -/
theorem upload_follows_spec (t : H2ClientTokioTransport) (id : RequestId) (headers : List Header)
    (hasBody : Bool) (r : ResponseChunkReceiver) (calls : List StreamCall)
    (hreset : ∀ c ∈ calls, c.setsState = false)
    (hremote : calls.count (.event .closeRemote) ≤ 1) :
    UploadSpec.Accepts (UploadSpec.init hasBody) calls
      ((t.prepareRequest id headers hasBody).1.stream.callAll r calls) :=
  (Simulates.prepareRequest t id headers hasBody).callAll r calls hreset hremote

-- ---------------------------------------------------------------------------
-- Draining a stream
-- ---------------------------------------------------------------------------

namespace H2Stream

/-- The stream and the shared buffer after `i` calls of `get_data_chunk`, the `j`-th with the
buffer `bufs j`. -/
def drainAfter (s : H2Stream) (r : ResponseChunkReceiver) (bufs : Nat → Bytes) :
    Nat → H2Stream × ResponseChunkReceiver
  | 0 => (s, r)
  | i + 1 =>
    drainAfter (s.getDataChunk (bufs 0) r).stream (s.getDataChunk (bufs 0) r).responses
      (fun j => bufs (j + 1)) i

/-- The `i`-th call of the sequence. -/
def drainCall (s : H2Stream) (r : ResponseChunkReceiver) (bufs : Nat → Bytes) (i : Nat) :
    DataChunkCall :=
  (s.drainAfter r bufs i).1.getDataChunk (bufs i) (s.drainAfter r bufs i).2

theorem drain_of_live {s : H2Stream} (hl : s.Live) (hc : s.state.isClosedLocal = false)
    (r : ResponseChunkReceiver) (bufs : Nat → Bytes) (hb : ∀ i, bufs i ≠ []) :
    ∃ m ≤ s.pending.length + s.vectors,
      (∀ i < m, ∃ n, (s.drainCall r bufs i).result = .ok (.chunk n) ∧
        (0 < n ∨ n = 0 ∧
          (s.drainCall r bufs i).stream.vectors + 1 = (s.drainAfter r bufs i).1.vectors)) ∧
      if s.shouldClose then ∃ n, (s.drainCall r bufs m).result = .ok (.last n)
      else (s.drainCall r bufs m).result = .ok .unavailable := by
  obtain ⟨k, hk⟩ : ∃ k, s.pending.length + s.vectors = k := ⟨_, rfl⟩
  induction k using Nat.strong_induction_on generalizing s r bufs with
  | _ k ih =>
  obtain ⟨chunk, hres, hpend⟩ := @getDataChunk_pending s (bufs 0) r hc
  cases chunk with
  | chunk n =>
    have hprog := getDataChunk_progress hl hc (hb 0) hres
    have hst := (getDataChunk_chunk hc hres).1
    have hlen : ((s.getDataChunk (bufs 0) r).buf.take n).length = min n (bufs 0).length := by
      simp [getDataChunk_buf_length]
    have hpos := List.length_pos.mpr (hb 0)
    replace hpend := congrArg List.length hpend
    simp only [StreamDataChunk.size, List.length_append, hlen] at hpend
    obtain ⟨m, hm, hchunks, hlast⟩ := ih _ (by omega) (getDataChunk_live hl) (hst ▸ hc)
      (s.getDataChunk (bufs 0) r).responses (fun j => bufs (j + 1)) (fun j => hb (j + 1)) rfl
    refine ⟨m + 1, by omega, fun i hi => ?_, by simpa using hlast⟩
    cases i with
    | zero =>
      refine ⟨n, hres, ?_⟩
      show 0 < n ∨ n = 0 ∧ (s.getDataChunk (bufs 0) r).stream.vectors + 1 = s.vectors
      omega
    | succ j => exact hchunks j (by omega)
  | last n =>
    obtain ⟨hcl, -⟩ := getDataChunk_last hc hres
    exact ⟨0, by omega, by simp, by simp [hcl, drainCall, drainAfter, hres]⟩
  | unavailable =>
    obtain ⟨-, -, -, hcl⟩ := getDataChunk_unavailable hc hres
    exact ⟨0, by omega, by simp, by simp [hcl, drainCall, drainAfter, hres]⟩

end H2Stream

/-- From a reachable state that is not locally closed, `get_data_chunk` with non-empty
buffers gives plain chunks, each handing out at least one byte or dropping an empty vector,
then the last chunk if the close was asked for and `Unavailable` otherwise; the plain chunks
number at most the bytes and vectors the stream holds. -/
theorem getDataChunk_drains {s : H2Stream} (hs : s.Reachable)
    (hc : s.state.isClosedLocal = false) (r : ResponseChunkReceiver) (bufs : Nat → Bytes)
    (hb : ∀ i, bufs i ≠ []) :
    ∃ m ≤ s.pending.length + s.vectors,
      (∀ i < m, ∃ n, (s.drainCall r bufs i).result = .ok (.chunk n) ∧
        (0 < n ∨ n = 0 ∧
          (s.drainCall r bufs i).stream.vectors + 1 = (s.drainAfter r bufs i).1.vectors)) ∧
      if s.shouldClose then ∃ n, (s.drainCall r bufs m).result = .ok (.last n)
      else (s.drainCall r bufs m).result = .ok .unavailable :=
  H2Stream.drain_of_live hs.live hc r bufs hb

theorem getDataChunk_drains_two_bytes :
    let s :=
      (((H2Stream.new ⟨1⟩).call ⟨[]⟩ (.addData [1, 2])).1.call ⟨[]⟩ .setShouldClose).1
    s.Reachable ∧ s.state.isClosedLocal = false ∧ (∀ _ : Nat, ([0] : Bytes) ≠ []) ∧
    ∃ m ≤ s.pending.length + s.vectors,
      (∀ i < m, ∃ n, (s.drainCall ⟨[]⟩ (fun _ => [0]) i).result = .ok (.chunk n) ∧
        (0 < n ∨ n = 0 ∧ (s.drainCall ⟨[]⟩ (fun _ => [0]) i).stream.vectors + 1 =
          (s.drainAfter ⟨[]⟩ (fun _ => [0]) i).1.vectors)) ∧
      if s.shouldClose then ∃ n, (s.drainCall ⟨[]⟩ (fun _ => [0]) m).result = .ok (.last n)
      else (s.drainCall ⟨[]⟩ (fun _ => [0]) m).result = .ok .unavailable :=
  ⟨.call _ _ (.call _ _ (.new _)), by decide, fun _ => by decide,
    getDataChunk_drains (.call _ _ (.call _ _ (.new _))) (by decide) _ _ fun _ => by decide⟩

theorem upload_follows_spec_post :
    (∀ c ∈ [StreamCall.addData [72, 73], .setShouldClose, .getDataChunk [0, 0, 0]],
        c.setsState = false) ∧
      [StreamCall.addData [72, 73], .setShouldClose, .getDataChunk [0, 0, 0]].count
        (.event .closeRemote) ≤ 1 ∧
      UploadSpec.Accepts (UploadSpec.init true)
        [.addData [72, 73], .setShouldClose, .getDataChunk [0, 0, 0]]
        ((H2ClientTokioTransport.new.prepareRequest 7 [] true).1.stream.callAll ⟨[]⟩
          [.addData [72, 73], .setShouldClose, .getDataChunk [0, 0, 0]]) :=
  ⟨by decide, by decide, upload_follows_spec _ 7 [] true ⟨[]⟩ _ (by decide) (by decide)⟩

end TokioSolicit
