import TokioSolicit.Flush
import TokioSolicit.Wire

/-!
# What a Ready from poll_complete promises the server

`poll_complete` answers `Ready` once the flush has taken every frame and no stream has anything
left to send. `pollComplete_ready_uploaded`: in every run in which the multiplexer submits
frames in its order and the peer neither resets a stream nor ends one twice, a `Ready` from
`poll_complete` means that the socket has taken, for every started request with a body, exactly
the body bytes submitted so far, in order, in DATA frames of its stream, with END_STREAM on the
last of them exactly when the body has been ended; a request without a body has no DATA frame.
`body_uploaded_within` joins this with the bound on how many calls that `Ready` takes: on a
socket whose flush takes every frame, among the first calls of `poll_complete`, one more than the
streams' backlog, is one after which every started body is on the wire as submitted. The calls
are events of the run too (`flushEvents`, as `flushRounds` makes them).

The events of the call itself are `pollCompleteEvents`. Beside the shape of the frames queued
(`SinkOrder.wireInv`), the proof needs that a stream that has left the session had queued its
END_STREAM (`EndedWhenGone`): a reap drops only closed streams. A stream still in the session
that has nothing left to send has, by the simulation of `Upload`, finished its upload or written
all the body it was given (`Simulates.idle`).
-/

namespace TokioSolicit

theorem Simulates.idle {a : UploadSpec} {s : H2Stream} {remote : Bool} (h : Simulates a s remote)
    (hi : s.Idle) : a.finished ∨ (a.written = a.accepted ∧ a.closing = false) := by
  rcases hi with hc | ⟨hob, hoq, hsc⟩
  · exact .inl (h.finished.symm.trans hc)
  · refine .inr ⟨?_, h.closing.symm.trans hsc⟩
    simpa [H2Stream.pending, hob, hoq] using h.pending

namespace H2ClientTokioTransport

/-- A started request with a body whose stream has left the session has queued its
END_STREAM. -/
def EndedWhenGone (evs : List Event) (frames : List OutFrame) (t : H2ClientTokioTransport) :
    Prop :=
  ∀ id headers sid, Event.start id headers true sid ∈ evs → t.conn.state.getStream? sid = none →
    (dataFrames sid frames).any Prod.snd

theorem EndedWhenGone.snoc {evs : List Event} {frames : List OutFrame}
    {t t' : H2ClientTokioTransport} {e : Event} {y : Option TokioResponseFrame}
    (h : EndedWhenGone evs frames t) (hw : WireInv evs frames t) (hs : t.step e = .ok (t', y)) :
    EndedWhenGone (evs ++ [e]) (frames ++ t.queued e) t' := by
  intro id headers sid hm hn
  rw [dataFrames_append, List.any_append, Bool.or_eq_true]
  rcases List.mem_append.mp hm with hm | hm
  · cases hk : t.conn.state.getStream? sid with
    | none => exact .inl (h id headers sid hm hk)
    | some s =>
      rcases step_keeps_stream hs hk with hsome | ⟨-, hc⟩
      · simp [hn] at hsome
      · obtain ⟨remote, -, hsim⟩ := hw.stream sid s hk
        have hfin := (hsim id headers true hm).finished
        rw [(StreamState.isClosed_iff _).mp hc] at hfin
        exact .inl (by simpa [wireSpec, StreamState.isClosedLocal] using hfin.symm)
  · obtain rfl := List.mem_singleton.mp hm
    simp [step_start_getStream? hs] at hn

/-- Along every run in the multiplexer's order with a conforming peer, a started stream with a
body that has left the session has queued its END_STREAM. -/
theorem SinkOrder.endedWhenGone {evs : List Event} (h : SinkOrder evs) (hp : PeerConforms evs) :
    EndedWhenGone evs (trace queued new evs) (run new evs).state := by
  induction h with
  | nil => intro _ _ _ hm; simp at hm
  | @start evs id headers hasBody assigned hso hid hsid ih =>
    obtain ⟨hpanic, hmap⟩ := hso.mapInv
    obtain ⟨t', hs, -⟩ := hmap.start hid hsid headers hasBody
    rw [run_snoc hpanic hs, trace_snoc queued hpanic hs]
    exact (ih hp.of_append).snoc (hso.wireInv hp.of_append) hs
  | @body evs id chunk hso hstart hended ih =>
    obtain ⟨hpanic, -⟩ := hso.mapInv
    obtain ⟨t', y, hs⟩ := step_ok_of_run hpanic (SinkOrder.body hso hstart hended).mapInv.1
    rw [run_snoc hpanic hs, trace_snoc queued hpanic hs]
    exact (ih hp.of_append).snoc (hso.wireInv hp.of_append) hs
  | @other evs e hso he hr ih =>
    obtain ⟨hpanic, -⟩ := hso.mapInv
    obtain ⟨t', y, hs⟩ := step_ok_of_not_sink (t := (run new evs).state) he hr
    rw [run_snoc hpanic hs, trace_snoc queued hpanic hs]
    exact (ih hp.of_append).snoc (hso.wireInv hp.of_append) hs

theorem SinkOrder.uploaded_of_idle {evs : List Event} (h : SinkOrder evs) (hp : PeerConforms evs)
    (hidle : ∀ sid s, (run new evs).state.conn.state.getStream? sid = some s → s.Idle)
    {id : RequestId} {headers : List Header} {sid : StreamId}
    (hm : Event.start id headers true sid ∈ evs) :
    ∃ (chunks : List Bytes) (fin : Option Bytes),
      dataFrames sid (trace queued new evs) = chunks.map (·, false) ++ fin.toList.map (·, true) ∧
      chunks.flatten ++ fin.getD [] = bodyBytes id evs ∧
      (fin.isSome ↔ Event.body id none ∈ evs) := by
  have hw := h.wireInv hp
  obtain ⟨chunks, fin, hfr, -, hfin⟩ := hw.shape id headers true sid hm
  refine ⟨chunks, fin, hfr, ?_⟩
  cases fin with
  | some last => exact ⟨(hfin rfl).1, iff_of_true rfl (hfin rfl).2⟩
  | none =>
    -- no END_STREAM queued: the stream is still in the session, where it has written all
    -- it was given and no end was asked for
    have hopen : (dataFrames sid (trace queued new evs)).any Prod.snd = false := by simp [hfr]
    cases hk : (run new evs).state.conn.state.getStream? sid with
    | none => simpa [hopen] using h.endedWhenGone hp id headers sid hm hk
    | some s =>
      obtain ⟨remote, -, hsim⟩ := hw.stream sid s hk
      rcases (hsim id headers true hm).idle (hidle sid s hk) with hf | ⟨hwr, hcl⟩
      · simp [wireSpec, hopen] at hf
      · exact ⟨by simpa [wireSpec, hfr, Function.comp_def] using hwr,
          by simpa [wireSpec] using hcl⟩

theorem SinkOrder.through_pollComplete {evs : List Event} (h : SinkOrder evs)
    (hp : PeerConforms evs) (flush : WriteResult) (window : Nat) (write : WriteResult) :
    SinkOrder (evs ++ (run new evs).state.pollCompleteEvents flush window write) ∧
      PeerConforms (evs ++ (run new evs).state.pollCompleteEvents flush window write) ∧
      (run new (evs ++ (run new evs).state.pollCompleteEvents flush window write)).state =
        ((run new evs).state.pollComplete flush window write).2 ∧
      ∀ id, bodyBytes id (evs ++ (run new evs).state.pollCompleteEvents flush window write) =
          bodyBytes id evs ∧
        (Event.body id none ∈ evs ++ (run new evs).state.pollCompleteEvents flush window write ↔
          Event.body id none ∈ evs) := by
  obtain ⟨hpanic, -⟩ := h.mapInv
  have hquiet : ∀ e ∈ (run new evs).state.pollCompleteEvents flush window write,
      (e.isSink = false ∧ e ≠ .control .invalid) ∧ ∀ sid e', e ≠ .stream sid e' :=
    fun e he => by
    rcases mem_pollCompleteEvents he with rfl | rfl | rfl <;> simp [Event.isSink]
  refine ⟨h.append_not_sink fun e he => (hquiet e he).1,
    hp.append_quiet fun e he => (hquiet e he).2, ?_, fun id => ?_⟩
  · rw [@run_append new _ evs (run new evs).yielded (by rw [← hpanic]) _, run_pollCompleteEvents]
  · have hsink : ∀ chunk, Event.body id chunk ∉
        (run new evs).state.pollCompleteEvents flush window write := fun chunk hc => by
      simpa [Event.isSink] using (hquiet _ hc).1.1
    exact ⟨by rw [bodyBytes_append, bodyBytes_eq_nil hsink, List.append_nil],
      by simp [hsink none]⟩

/-- In every run in the multiplexer's order with a conforming peer, after a `Ready` from
`poll_complete` the socket has taken, for each started request with a body, exactly the body
submitted, with END_STREAM on the last DATA frame exactly when the body has been ended. -/
theorem SinkOrder.uploaded_of_ready {evs : List Event} (h : SinkOrder evs) (hp : PeerConforms evs)
    {flush : WriteResult} {window : Nat} {write : WriteResult} {t' : H2ClientTokioTransport}
    (hr : (run new evs).state.pollComplete flush window write = (.ok (.ready ()), t'))
    {id : RequestId} {headers : List Header} {sid : StreamId}
    (hm : Event.start id headers true sid ∈ evs) :
    ∃ (chunks : List Bytes) (fin : Option Bytes),
      dataFrames sid
          (trace written new (evs ++ (run new evs).state.pollCompleteEvents flush window write)) =
        chunks.map (·, false) ++ fin.toList.map (·, true) ∧
      chunks.flatten ++ fin.getD [] = bodyBytes id evs ∧
      (fin.isSome ↔ Event.body id none ∈ evs) := by
  obtain ⟨hE, hpE, hrun, hbody⟩ := h.through_pollComplete hp flush window write
  simp only [hr] at hrun
  obtain ⟨hbuf, hidle⟩ := (run new evs).state.pollComplete_ready hr
  -- the writer is empty, so the socket has taken every frame queued
  have hwritten := run_sender new (evs ++ (run new evs).state.pollCompleteEvents flush window write)
  rw [hrun, hbuf, List.append_nil, show new.sender.buffer = [] from rfl, List.nil_append]
    at hwritten
  rw [hwritten, ← (hbody id).1, ← (hbody id).2]
  exact hE.uploaded_of_idle hpE (hrun ▸ hidle) (List.mem_append_left _ hm)

/-- In every run in the multiplexer's order with a peer that neither resets a stream nor ends
one twice, a `Ready` from `poll_complete` means that the socket has taken, for each started
request with a body, the body submitted so far, in order, with END_STREAM on the last DATA frame
exactly when the body has been ended, and no DATA frame for a request without a body. -/
theorem pollComplete_ready_uploaded {evs : List Event} (h : SinkOrder evs)
    (hp : PeerConforms evs) {flush : WriteResult} {window : Nat} {write : WriteResult}
    {t' : H2ClientTokioTransport}
    (hr : (run new evs).state.pollComplete flush window write = (.ok (.ready ()), t'))
    {id : RequestId} {headers : List Header} {hasBody : Bool} {sid : StreamId}
    (hm : Event.start id headers hasBody sid ∈ evs) :
    if hasBody then
      ∃ (chunks : List Bytes) (fin : Option Bytes),
        dataFrames sid
            (trace written new (evs ++ (run new evs).state.pollCompleteEvents flush window write)) =
          chunks.map (·, false) ++ fin.toList.map (·, true) ∧
        chunks.flatten ++ fin.getD [] = bodyBytes id evs ∧
        (fin.isSome ↔ Event.body id none ∈ evs)
    else
      dataFrames sid
        (trace written new (evs ++ (run new evs).state.pollCompleteEvents flush window write)) =
        [] := by
  cases hasBody
  · -- no DATA frame is queued for a request without a body, and the socket takes a front part
    -- of what was queued
    obtain ⟨hE, hpE, -, -⟩ := h.through_pollComplete hp flush window write
    have hshape := (hE.wireInv hpE).shape id headers false sid (List.mem_append_left _ hm)
    have hw : trace written new (evs ++ (run new evs).state.pollCompleteEvents flush window write)
        <+: trace queued new (evs ++ (run new evs).state.pollCompleteEvents flush window write) :=
      ⟨_, by simpa [new] using run_sender new _⟩
    have hd := hw.filterMap (OutFrame.dataOf sid)
    simp only [Bool.false_eq_true, ↓reduceIte] at hshape ⊢
    exact List.prefix_nil.mp (hshape ▸ hd)
  · exact h.uploaded_of_ready hp hr hm

/-- Request 1's two body bytes and its end went out as one DATA frame with END_STREAM, which the
socket took: the next `poll_complete` answers `Ready`, with the whole body on the wire. -/
theorem pollComplete_ready_uploaded_sent :
    let evs := [Event.start 1 [] true 1, .body 1 (some ⟨[5, 6]⟩), .body 1 none,
      .write (.ok 1), .sendData 16, .write (.ok 1)]
    SinkOrder evs ∧ PeerConforms evs ∧
      (run new evs).state.pollComplete (.ok 0) 16 (.ok 0) =
        (.ok (.ready ()), ((run new evs).state.pollComplete (.ok 0) 16 (.ok 0)).2) ∧
      Event.start 1 [] true 1 ∈ evs ∧
      ∃ (chunks : List Bytes) (fin : Option Bytes),
        dataFrames 1
            (trace written new (evs ++ (run new evs).state.pollCompleteEvents (.ok 0) 16 (.ok 0))) =
          chunks.map (·, false) ++ fin.toList.map (·, true) ∧
        chunks.flatten ++ fin.getD [] = bodyBytes 1 evs ∧
        (fin.isSome ↔ Event.body 1 none ∈ evs) := by
  intro evs
  have h₁ : SinkOrder ([] ++ [Event.start 1 [] true 1]) := .start .nil (by decide) (by decide)
  have h₂ : SinkOrder ([Event.start 1 [] true 1] ++ [.body 1 (some ⟨[5, 6]⟩)]) :=
    .body h₁ ⟨[], 1, by decide⟩ (by decide)
  have h₃ : SinkOrder ([Event.start 1 [] true 1, .body 1 (some ⟨[5, 6]⟩)] ++ [.body 1 none]) :=
    .body h₂ ⟨[], 1, by decide⟩ (by decide)
  have h : SinkOrder evs := by
    show SinkOrder ([Event.start 1 [] true 1, .body 1 (some ⟨[5, 6]⟩), .body 1 none] ++ evs.drop 3)
    exact h₃.append_not_sink (by simp [evs, Event.isSink])
  have hp : PeerConforms evs := ⟨by simp [evs], fun sid => by simp [evs]⟩
  have hr : (run new evs).state.pollComplete (.ok 0) 16 (.ok 0) =
      (.ok (.ready ()), ((run new evs).state.pollComplete (.ok 0) 16 (.ok 0)).2) := rfl
  exact ⟨h, hp, hr, .head _, pollComplete_ready_uploaded h hp hr (.head _)⟩

/-- The events of `poll_complete` called once for each entry of `writes`, on a socket whose flush
takes every buffered frame, as `flushRounds` calls it. -/
def flushEvents (window : Nat) : List Nat → H2ClientTokioTransport → List Event
  | [], _ => []
  | m :: writes, t =>
    t.pollCompleteEvents (.ok t.sender.buffer.length) window (.ok m) ++
      flushEvents window writes (t.pollComplete (.ok t.sender.buffer.length) window (.ok m)).2

/-- In every run in the multiplexer's order with a peer that neither resets a stream nor ends
one twice, on a socket whose flush takes every buffered frame and with a positive window, some
call of `poll_complete` among the first ones, one more than the streams' backlog, leaves on the
wire, for each started request with a body, exactly the body submitted, with END_STREAM on the
last DATA frame exactly when the body has been ended. -/
theorem body_uploaded_within {evs : List Event} (h : SinkOrder evs) (hp : PeerConforms evs)
    {window : Nat} (hw : 0 < window) {writes : List Nat}
    (hlen : (run new evs).state.backlog < writes.length) :
    ∃ k ≤ writes.length, ∀ id headers sid, Event.start id headers true sid ∈ evs →
      ∃ (chunks : List Bytes) (fin : Option Bytes),
        dataFrames sid
            (trace written new (evs ++ flushEvents window (writes.take k) (run new evs).state)) =
          chunks.map (·, false) ++ fin.toList.map (·, true) ∧
        chunks.flatten ++ fin.getD [] = bodyBytes id evs ∧
        (fin.isSome ↔ Event.body id none ∈ evs) := by
  induction writes generalizing evs with
  | nil => simp at hlen
  | cons m writes ih =>
    have hl := run_live new (by simp [new, SessionState.getStream?, SessionState.new]) evs
    rcases pollComplete_progress (run new evs).state window hw hl m with hready | ⟨-, hlower, -⟩
    · -- this call answers Ready
      refine ⟨1, by simp, fun id headers sid hm => ?_⟩
      simpa [flushEvents] using h.uploaded_of_ready hp (Prod.ext hready rfl) hm
    · -- the call lowers the backlog, and the next calls go on from the state it leaves
      obtain ⟨hE, hpE, hrun, hbody⟩ :=
        h.through_pollComplete hp (.ok (run new evs).state.sender.buffer.length) window (.ok m)
      obtain ⟨k, hk, hall⟩ := ih hE hpE (by rw [hrun]; simp only [List.length_cons] at hlen; omega)
      refine ⟨k + 1, by simp [hk], fun id headers sid hm => ?_⟩
      rw [← (hbody id).1, ← (hbody id).2, List.take_succ_cons, flushEvents, ← hrun,
        ← List.append_assoc]
      exact hall id headers sid (List.mem_append_left _ hm)

/-- Request 1 with a two-byte body that has ended, with one-byte DATA payloads: its backlog is
four, and within five calls on a socket that takes every frame the whole body is on the wire. -/
theorem body_uploaded_within_two_bytes :
    let evs := [Event.start 1 [] true 1, .body 1 (some ⟨[5, 6]⟩), .body 1 none]
    SinkOrder evs ∧ PeerConforms evs ∧ 0 < 1 ∧
      (run new evs).state.backlog < [1, 1, 1, 1, 1].length ∧
      ∃ k ≤ [1, 1, 1, 1, 1].length, ∀ id headers sid, Event.start id headers true sid ∈ evs →
        ∃ (chunks : List Bytes) (fin : Option Bytes),
          dataFrames sid (trace written new
              (evs ++ flushEvents 1 ([1, 1, 1, 1, 1].take k) (run new evs).state)) =
            chunks.map (·, false) ++ fin.toList.map (·, true) ∧
          chunks.flatten ++ fin.getD [] = bodyBytes id evs ∧
          (fin.isSome ↔ Event.body id none ∈ evs) := by
  intro evs
  have h₁ : SinkOrder ([] ++ [Event.start 1 [] true 1]) := .start .nil (by decide) (by decide)
  have h₂ : SinkOrder ([Event.start 1 [] true 1] ++ [.body 1 (some ⟨[5, 6]⟩)]) :=
    .body h₁ ⟨[], 1, by decide⟩ (by decide)
  have h : SinkOrder evs := .body h₂ ⟨[], 1, by decide⟩ (by decide)
  have hp : PeerConforms evs := ⟨by simp [evs], fun sid => by simp [evs]⟩
  have hlen : (run new evs).state.backlog < [1, 1, 1, 1, 1].length := by decide
  exact ⟨h, hp, Nat.one_pos, hlen, body_uploaded_within h hp Nat.one_pos hlen⟩

end H2ClientTokioTransport

end TokioSolicit
