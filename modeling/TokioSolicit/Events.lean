import TokioSolicit.Transport

/-!
# Runs of the transport

The transport's methods run one after another on its single task, in whatever order the
runtime and the socket allow. An `Event` is one step of that interleaving, at the grain at
which the transport's state changes: a request frame submitted, one event the connection
raises on a stream, the connection's own handling of a frame it read (an acknowledgement queued,
or the panic on a frame it rejects), the reaping of closed streams, one DATA frame asked for,
one write to the socket, one response frame taken off the buffer. `run` performs a list of
events and collects the frames yielded.

Each call of the transport's API (`start_send`, `poll`, `poll_complete`) is such a list:
`run_callEvents` shows that the events `callEvents` reads off a sequence of calls, under any
behaviour of the socket, make a run that yields the same frames, panics with the same message
and, without a panic, ends in the same state as the calls themselves (`drive`).
-/

namespace TokioSolicit.H2ClientTokioTransport

inductive Event
  | start (id : RequestId) (headers : List Header) (hasBody : Bool) (assigned : StreamId)
  | body (id : RequestId) (chunk : Option HttpRequestBody)
  | stream (sid : StreamId) (e : StreamEvent)
  | control (frame : InboundFrame)
  | reap
  | sendData (window : Nat)
  | write (w : WriteResult)
  | next
  deriving DecidableEq

def step (t : H2ClientTokioTransport) :
    Event → Except String (H2ClientTokioTransport × Option TokioResponseFrame)
  | .start id headers hasBody assigned =>
    (t.startRequest id headers hasBody assigned).map (·, none)
  | .body id chunk => (t.addBodyChunk id chunk).map (·, none)
  | .stream sid e => .ok (t.handleStreamEvent sid e, none)
  | .control frame => (t.handleControlFrame frame).map (·, none)
  | .reap => .ok (t.handleClosedStreams, none)
  | .sendData window => .ok ((t.sendNextData window).2, none)
  | .write w => .ok ((t.tryWrite w).2, none)
  | .next => .ok (t.getNextResponseFrame.2, t.getNextResponseFrame.1)

theorem step_body {t t' : H2ClientTokioTransport} {id : RequestId}
    {chunk : Option HttpRequestBody} {y : Option TokioResponseFrame}
    (h : t.step (.body id chunk) = .ok (t', y)) :
    t.addBodyChunk id chunk = .ok t' ∧ y = none := by
  cases hb : t.addBodyChunk id chunk <;> simp_all [step, Except.map]

theorem step_control {t t' : H2ClientTokioTransport} {frame : InboundFrame}
    {y : Option TokioResponseFrame} (h : t.step (.control frame) = .ok (t', y)) :
    frame ≠ .invalid ∧ y = none ∧
      t' = { t with sender := ⟨t.sender.buffer ++ frame.reply.toList⟩ } := by
  cases hc : t.handleControlFrame frame with
  | error msg => simp [step, hc, Except.map] at h
  | ok t'' =>
    simp only [step, hc, Except.map, Except.ok.injEq, Prod.mk.injEq] at h
    obtain ⟨rfl, rfl⟩ := h
    exact ⟨(t.handleControlFrame_eq_ok hc).1, rfl, (t.handleControlFrame_eq_ok hc).2⟩

theorem step_start_getStream? {t t' : H2ClientTokioTransport} {id : RequestId}
    {headers : List Header} {hasBody : Bool} {assigned : StreamId} {y : Option TokioResponseFrame}
    (h : t.step (.start id headers hasBody assigned) = .ok (t', y)) (k : StreamId) :
    t'.conn.state.getStream? k =
      if k = assigned then
        some { (t.prepareRequest id headers hasBody).1.stream with streamId := some assigned }
      else t.conn.state.getStream? k := by
  obtain ⟨t'', hst, -, -, -, hget, -⟩ := t.startRequest_spec id headers hasBody assigned
  simp only [step, hst, Except.map, Except.ok.injEq, Prod.mk.injEq] at h
  obtain ⟨rfl, -⟩ := h
  exact hget k

/-- The end of a run: the state reached, the frames yielded on the way, and the message of the
`expect` that panicked, if one did; the run stops there. -/
structure Run where
  state : H2ClientTokioTransport
  yielded : List TokioResponseFrame
  panic : Option String
  deriving DecidableEq

def run (t : H2ClientTokioTransport) : List Event → Run
  | [] => ⟨t, [], none⟩
  | e :: es =>
    match t.step e with
    | .error msg => ⟨t, [], some msg⟩
    | .ok (t', y) => ⟨(run t' es).state, y.toList ++ (run t' es).yielded, (run t' es).panic⟩

theorem run_append {t t' : H2ClientTokioTransport} {evs : List Event}
    {ys : List TokioResponseFrame} (h : run t evs = ⟨t', ys, none⟩) (es : List Event) :
    run t (evs ++ es) = ⟨(run t' es).state, ys ++ (run t' es).yielded, (run t' es).panic⟩ := by
  induction evs generalizing t ys with
  | nil => simp_all [run]
  | cons e evs ih =>
    rw [List.cons_append]
    simp only [run] at h ⊢
    split at h
    · simp at h
    · rename_i t₁ y heq
      simp only [heq, Run.mk.injEq] at h ⊢
      obtain ⟨h₁, h₂, h₃⟩ := h
      rw [@ih t₁ (run t₁ evs).yielded (by rw [← h₁, ← h₃])]
      simp [← h₂]

theorem run_snoc {t t' : H2ClientTokioTransport} {evs : List Event} {e : Event}
    {y : Option TokioResponseFrame} (hp : (run t evs).panic = none)
    (hs : (run t evs).state.step e = .ok (t', y)) :
    run t (evs ++ [e]) = ⟨t', (run t evs).yielded ++ y.toList, none⟩ := by
  rw [@run_append t (run t evs).state evs (run t evs).yielded (by rw [← hp])]
  simp [run, hs]

theorem panic_of_append (t : H2ClientTokioTransport) (evs es : List Event)
    (h : (run t (evs ++ es)).panic = none) : (run t evs).panic = none := by
  induction evs generalizing t with
  | nil => rfl
  | cons e evs ih =>
    cases hs : t.step e with
    | error msg => simp [run, hs] at h
    | ok p =>
      obtain ⟨t', y⟩ := p
      simp only [List.cons_append, run, hs] at h ⊢
      exact ih t' h

theorem step_ok_of_run {t : H2ClientTokioTransport} {evs : List Event} {e : Event}
    (hp : (run t evs).panic = none) (hp' : (run t (evs ++ [e])).panic = none) :
    ∃ t' y, (run t evs).state.step e = .ok (t', y) := by
  cases hs : (run t evs).state.step e with
  | ok p => exact ⟨p.1, p.2, rfl⟩
  | error msg =>
    rw [@run_append t (run t evs).state evs (run t evs).yielded (by rw [← hp])] at hp'
    simp [run, hs] at hp'

theorem run_append_of_panic {t : H2ClientTokioTransport} {evs : List Event} {msg : String}
    (h : (run t evs).panic = some msg) (es : List Event) : run t (evs ++ es) = run t evs := by
  induction evs generalizing t with
  | nil => simp [run] at h
  | cons e evs ih =>
    simp only [List.cons_append, run] at h ⊢
    cases hs : t.step e with
    | error m => rfl
    | ok p => simp only [hs, List.append_eq] at h ⊢; rw [ih h]

/-- The events of the frames read: for each, those the connection raises on the streams it names,
then its own handling of it. -/
def frameEvents (frames : List InboundFrame) : List Event :=
  frames.flatMap fun f => f.events.map (fun e => .stream e.1 e.2) ++ [.control f]

theorem run_streamEvents (t : H2ClientTokioTransport) (es : List (StreamId × StreamEvent)) :
    run t (es.map fun e => .stream e.1 e.2) =
      ⟨es.foldl (fun t e => t.handleStreamEvent e.1 e.2) t, [], none⟩ := by
  induction es generalizing t with
  | nil => rfl
  | cons e es ih => simp [run, step, ih]

theorem run_frameEvents (t : H2ClientTokioTransport) (frames : List InboundFrame) :
    (∀ t', t.handleNewFrames frames = .ok t' →
      run t (frameEvents frames) = ⟨t', [], none⟩) ∧
      ∀ msg, t.handleNewFrames frames = .error msg →
        (run t (frameEvents frames)).yielded = [] ∧
          (run t (frameEvents frames)).panic = some msg := by
  induction frames generalizing t with
  | nil => exact ⟨fun t' h => (by cases h; rfl), fun msg h => (by cases h)⟩
  | cons f frames ih =>
    have hf := run_append (run_streamEvents t f.events) [.control f]
    simp only [run, step] at hf
    simp only [frameEvents, List.flatMap_cons, List.append_assoc, handleNewFrames,
      List.foldlM_cons, handleNextFrame] at ih ⊢
    cases hc : (f.events.foldl (fun t e => t.handleStreamEvent e.1 e.2) t).handleControlFrame f with
    | error msg =>
      simp only [hc, Except.map] at hf ⊢
      rw [← List.append_assoc, run_append_of_panic (by rw [hf]) _, hf]
      exact ⟨fun t' h => (by cases h), fun msg' h => (by cases h; exact ⟨rfl, rfl⟩)⟩
    | ok u =>
      simp only [hc, Except.map] at hf ⊢
      rw [← List.append_assoc, run_append hf]
      exact ⟨fun t' h => by simp [(ih u).1 t' h], fun msg h => by simpa using (ih u).2 msg h⟩

-- ---------------------------------------------------------------------------
-- The API calls are runs
-- ---------------------------------------------------------------------------

/-- A call the runtime makes on the transport, with the socket's answers to the reads and
writes the call does. -/
inductive Call
  | startSend (item : RequestFrame) (assigned : StreamId)
  | poll (read : ReadResult) (write : WriteResult)
  | pollComplete (flush : WriteResult) (window : Nat) (write : WriteResult)

/-- The frame a `poll` hands to Tokio, if it hands one. -/
def polled : Poll (Option TokioResponseFrame) → List TokioResponseFrame
  | .ok (.ready (some frame)) => [frame]
  | _ => []

/-- One call: the state it leaves and the frames it hands to Tokio, or the message of the
`expect` that panicked. -/
def perform (t : H2ClientTokioTransport) :
    Call → Except String (H2ClientTokioTransport × List TokioResponseFrame)
  | .startSend item assigned => (t.startSend item assigned).map (·, [])
  | .poll read write => (t.poll read write).map fun p => (p.2, polled p.1)
  | .pollComplete flush window write => .ok ((t.pollComplete flush window write).2, [])

/-- Performs the calls in order and collects the frames `poll` yields; a panic ends it, in the
state before the call that panicked. -/
def drive (t : H2ClientTokioTransport) : List Call → Run
  | [] => ⟨t, [], none⟩
  | c :: cs =>
    match t.perform c with
    | .error msg => ⟨t, [], some msg⟩
    | .ok (t', ys) => ⟨(drive t' cs).state, ys ++ (drive t' cs).yielded, (drive t' cs).panic⟩

/-- The events of a `start_send`: a start for a message, a body event for a body chunk, nothing
for an error frame. -/
def startSendEvents (item : RequestFrame) (assigned : StreamId) : List Event :=
  match item with
  | .message id ⟨headers⟩ hasBody _ => [.start id headers hasBody assigned]
  | .body id chunk => [.body id chunk]
  | .error .. => []

/-- The events of a `poll`: the frames read, the reaping of closed streams and the write that
follows, and, unless a read or the write failed, the taking of one response frame. -/
def pollEvents (t : H2ClientTokioTransport) (read : ReadResult) (write : WriteResult) :
    List Event :=
  match read with
  | .error _ => []
  | .nothing => [.next]
  | .frames frames =>
    frameEvents frames ++ [.reap, .write write] ++
      match t.handleNewFrames frames with
      | .ok t' =>
        match (t'.handleClosedStreams.tryWrite write).1 with
        | .error _ => []
        | .ok _ => [.next]
      | .error _ => []

/-- The events of one call of `poll_complete`: the flush, then, if it took every frame and a
stream is still open on the local end, the walk of `send_next_data`, and the write of the DATA
frame the walk queued, if it queued one. -/
def pollCompleteEvents (t : H2ClientTokioTransport) (flush : WriteResult) (window : Nat)
    (write : WriteResult) : List Event :=
  match (t.tryWrite flush).1 with
  | .ok true =>
    if (t.tryWrite flush).2.hasPendingRequestData then
      match ((t.tryWrite flush).2.sendNextData window).1 with
      | .sent => [.write flush, .sendData window, .write write]
      | .nothing => [.write flush, .sendData window]
    else [.write flush]
  | _ => [.write flush]

theorem run_pollCompleteEvents (t : H2ClientTokioTransport) (flush : WriteResult)
    (window : Nat) (write : WriteResult) :
    run t (t.pollCompleteEvents flush window write) =
      ⟨(t.pollComplete flush window write).2, [], none⟩ := by
  cases hf : (t.tryWrite flush).1 with
  | error e => simp [pollCompleteEvents, run, step, pollComplete, hf]
  | ok drained =>
    cases drained with
    | false => simp [pollCompleteEvents, run, step, pollComplete, hf]
    | true =>
      by_cases hp : (t.tryWrite flush).2.hasPendingRequestData
      · cases hs : ((t.tryWrite flush).2.sendNextData window).1 with
        | sent =>
          cases hw : (((t.tryWrite flush).2.sendNextData window).2.tryWrite write).1 with
          | error e =>
            simp [pollCompleteEvents, run, step, pollComplete, hf, sendRequestData, hp,
              tryWriteNextData, hs, hw]
          | ok b =>
            cases b <;> simp [pollCompleteEvents, run, step, pollComplete, hf, sendRequestData,
              hp, tryWriteNextData, hs, hw]
        | nothing =>
          simp [pollCompleteEvents, run, step, pollComplete, hf, sendRequestData, hp,
            tryWriteNextData, hs]
      · simp [pollCompleteEvents, run, step, pollComplete, hf, sendRequestData, hp]

theorem mem_pollCompleteEvents {t : H2ClientTokioTransport} {flush : WriteResult}
    {window : Nat} {write : WriteResult} {e : Event}
    (he : e ∈ t.pollCompleteEvents flush window write) :
    e = .write flush ∨ e = .sendData window ∨ e = .write write := by
  unfold pollCompleteEvents at he
  repeat' split at he
  all_goals simp only [List.mem_cons, List.mem_singleton, List.not_mem_nil, or_false] at he
  all_goals tauto

/-- The events of one call. -/
def eventsOf (t : H2ClientTokioTransport) : Call → List Event
  | .startSend item assigned => startSendEvents item assigned
  | .poll read write => t.pollEvents read write
  | .pollComplete flush window write => t.pollCompleteEvents flush window write

/-- The events of a sequence of calls, up to the call that panics. -/
def callEvents (t : H2ClientTokioTransport) : List Call → List Event
  | [] => []
  | c :: cs =>
    t.eventsOf c ++
      match t.perform c with
      | .error _ => []
      | .ok (t', _) => callEvents t' cs

theorem run_startSendEvents (t : H2ClientTokioTransport) (item : RequestFrame)
    (assigned : StreamId) :
    (∀ t', t.startSend item assigned = .ok t' →
      run t (startSendEvents item assigned) = ⟨t', [], none⟩) ∧
    ∀ msg, t.startSend item assigned = .error msg →
      run t (startSendEvents item assigned) = ⟨t, [], some msg⟩ := by
  cases item with
  | message id m hasBody solo =>
    simp only [startSendEvents, startSend, run, step]
    cases t.startRequest id m.headers hasBody assigned <;> simp [Except.map]
  | body id chunk =>
    simp only [startSendEvents, startSend, run, step]
    cases t.addBodyChunk id chunk <;> simp [Except.map]
  | error id e => simp [startSendEvents, startSend, run]

theorem run_pollEvents (t : H2ClientTokioTransport) (read : ReadResult) (write : WriteResult) :
    (∀ p t', t.poll read write = .ok (p, t') →
      run t (t.pollEvents read write) = ⟨t', polled p, none⟩) ∧
    ∀ msg, t.poll read write = .error msg →
      (run t (t.pollEvents read write)).yielded = [] ∧
        (run t (t.pollEvents read write)).panic = some msg := by
  cases read with
  | error e => simp [pollEvents, poll, tryReadMore, Except.map, run, polled]
  | nothing =>
    refine ⟨fun p t' h => ?_, fun msg h => by simp [poll, tryReadMore, Except.map] at h⟩
    simp only [poll, tryReadMore, Except.map, Except.ok.injEq] at h
    cases hn : t.getNextResponseFrame.1 <;> simp only [hn, Prod.mk.injEq] at h <;>
      obtain ⟨rfl, rfl⟩ := h <;> simp [pollEvents, run, step, polled, hn]
  | frames frames =>
    obtain ⟨hok, herr⟩ := run_frameEvents t frames
    cases hh : t.handleNewFrames frames with
    | error msg =>
      simp only [pollEvents, hh, List.append_nil, poll, tryReadMore, Except.map]
      obtain ⟨hy, hp⟩ := herr msg hh
      rw [run_append_of_panic hp]
      exact ⟨fun p t' h => (by cases h), fun msg' h => (by cases h; exact ⟨hy, hp⟩)⟩
    | ok u =>
      simp only [pollEvents, hh, poll, tryReadMore, Except.map, List.append_assoc]
      rw [run_append (hok u hh)]
      refine ⟨fun p t' h => ?_, fun msg h => (by cases h)⟩
      cases hw : (u.handleClosedStreams.tryWrite write).1 with
      | error e =>
        simp only [hw, Except.ok.injEq, Prod.mk.injEq] at h
        obtain ⟨rfl, rfl⟩ := h
        simp [run, step, polled]
      | ok b =>
        simp only [hw, Except.ok.injEq] at h
        cases hn : (u.handleClosedStreams.tryWrite write).2.getNextResponseFrame.1 <;>
          simp only [hn, Prod.mk.injEq] at h <;> obtain ⟨rfl, rfl⟩ := h <;>
          simp [run, step, polled, hn]

theorem run_eventsOf (t : H2ClientTokioTransport) (c : Call) :
    (∀ t' ys, t.perform c = .ok (t', ys) → run t (t.eventsOf c) = ⟨t', ys, none⟩) ∧
    ∀ msg, t.perform c = .error msg →
      (run t (t.eventsOf c)).yielded = [] ∧ (run t (t.eventsOf c)).panic = some msg := by
  cases c with
  | startSend item assigned =>
    obtain ⟨hok, herr⟩ := run_startSendEvents t item assigned
    cases hs : t.startSend item assigned <;> simp_all [perform, eventsOf, Except.map]
  | poll read write =>
    obtain ⟨hok, herr⟩ := run_pollEvents t read write
    refine ⟨fun t' ys h => ?_, fun msg h => herr msg (by
      cases hp : t.poll read write <;> simp_all [perform, Except.map])⟩
    cases hp : t.poll read write with
    | error msg => simp [perform, hp, Except.map] at h
    | ok p =>
      simp only [perform, hp, Except.map, Except.ok.injEq, Prod.mk.injEq] at h
      obtain ⟨rfl, rfl⟩ := h
      exact hok p.1 p.2 hp
  | pollComplete flush window write =>
    simp [perform, eventsOf, run_pollCompleteEvents]

/-- Every sequence of API calls, under any behaviour of the socket, is performed by the run of
its events: the run yields the same frames and panics with the same message, and without a
panic it ends in the same state. -/
theorem run_callEvents (t : H2ClientTokioTransport) (calls : List Call) :
    (run t (callEvents t calls)).yielded = (drive t calls).yielded ∧
      (run t (callEvents t calls)).panic = (drive t calls).panic ∧
      ((drive t calls).panic = none →
        (run t (callEvents t calls)).state = (drive t calls).state) := by
  induction calls generalizing t with
  | nil => exact ⟨rfl, rfl, fun _ => rfl⟩
  | cons c cs ih =>
    obtain ⟨hok, herr⟩ := run_eventsOf t c
    cases hc : t.perform c with
    | error msg =>
      obtain ⟨hy, hp⟩ := herr msg hc
      simp [callEvents, drive, hc, hy, hp]
    | ok p =>
      obtain ⟨t', ys⟩ := p
      simp only [callEvents, drive, hc]
      rw [run_append (hok t' ys hc)]
      obtain ⟨h₁, h₂, h₃⟩ := ih t'
      exact ⟨by rw [h₁], h₂, h₃⟩

end TokioSolicit.H2ClientTokioTransport
