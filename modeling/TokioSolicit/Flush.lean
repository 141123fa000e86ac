import Mathlib.Algebra.BigOperators.Group.List
import Mathlib.Algebra.Order.Ring.Nat
import TokioSolicit.Upload
import TokioSolicit.Events

/-!
# When the sink reports that everything is sent

`poll_complete` first flushes the writer, then asks `send_request_data` for one more DATA
frame; it answers `Ready` only when no stream is open on the local end, or when the walk of
`send_next_data` found no stream with anything to send. A stream that `get_data_chunk` answers
with `Unavailable` holds no body and no pending end of the body; one answered with `Closed` is
closed on the local end.

`pollComplete_ready_idle`: from any state of the transport, reachable or not, a `Ready` from
`poll_complete` leaves every stream of the session closed on the local end, or with nothing
queued and no close pending.

`pollComplete_ready_within`: on a socket that takes every frame the flush offers, with DATA
payloads of at least one byte, `poll_complete` answers `Ready` within one call more than the
streams' backlog (the bytes, vectors and last chunks they still owe the connection): each call
that answers `NotReady` has handed out a DATA frame that lowers the backlog.
-/

namespace TokioSolicit

/-- A stream with nothing left to send: closed on the local end, or holding no body and no
pending end of the body. -/
def H2Stream.Idle (s : H2Stream) : Prop :=
  s.state.isClosedLocal ∨ (s.outBuf = none ∧ s.outQueue = [] ∧ s.shouldClose = false)

theorem H2Stream.getDataChunk_idle {s : H2Stream} {buf : Bytes} {r : ResponseChunkReceiver}
    (hc : ∀ n, (s.getDataChunk buf r).result ≠ .ok (.chunk n))
    (hl : ∀ n, (s.getDataChunk buf r).result ≠ .ok (.last n)) :
    (s.getDataChunk buf r).stream = s ∧ s.Idle := by
  cases h : s.state.isClosedLocal
  · obtain ⟨chunk, hres, -⟩ := @getDataChunk_pending s buf r h
    cases chunk with
    | chunk n => exact absurd hres (hc n)
    | last n => exact absurd hres (hl n)
    | unavailable =>
      obtain ⟨heq, hb, hq, hsc⟩ := getDataChunk_unavailable h hres
      exact ⟨by rw [heq], .inr ⟨hb, hq, hsc⟩⟩
  · exact ⟨by rw [getDataChunk_of_isClosedLocal _ _ _ h], .inl h⟩

theorem nextDataFrame_idle {window : Nat} {r : ResponseChunkReceiver}
    {l : List (StreamId × H2Stream)} (h : (nextDataFrame window r l).2.2 = none) :
    ∀ p ∈ (nextDataFrame window r l).1, p.2.Idle := by
  induction l generalizing r with
  | nil => simp [nextDataFrame]
  | cons p l ih =>
    obtain ⟨sid, s⟩ := p
    simp only [nextDataFrame] at h ⊢
    split at h
    · cases h
    · cases h
    · rename_i hc hl
      obtain ⟨heq, hidle⟩ := H2Stream.getDataChunk_idle (fun n => hc n) (fun n => hl n)
      simp only [List.mem_cons, forall_eq_or_imp, heq]
      exact ⟨hidle, ih h⟩

/-- What a stream still owes the connection before it is closed on the local end: its bytes,
its vectors, and the last chunk. -/
def H2Stream.backlog (s : H2Stream) : Nat :=
  if s.state.isClosedLocal then 0 else s.pending.length + s.vectors + 1

theorem H2Stream.getDataChunk_backlog {s : H2Stream} {buf : Bytes} {r : ResponseChunkReceiver}
    {n : Nat} {last : Bool} (hl : s.Live) (hb : buf ≠ [])
    (hr : (s.getDataChunk buf r).result = .ok (if last then .last n else .chunk n)) :
    (s.getDataChunk buf r).stream.backlog < s.backlog := by
  cases hc : s.state.isClosedLocal
  case true =>
    rw [getDataChunk_of_isClosedLocal _ _ _ hc] at hr
    cases last <;> simp at hr
  case false =>
  cases last
  case true =>
    obtain ⟨-, -, hst, -⟩ := getDataChunk_last hc hr
    simp [backlog, hst, hc]
  case false =>
    simp only [Bool.false_eq_true, ↓reduceIte] at hr
    obtain ⟨hst, -⟩ := getDataChunk_chunk hc hr
    obtain ⟨chunk, hres, hpend⟩ := @getDataChunk_pending s buf r hc
    rw [hr] at hres
    cases hres
    have hlen := congrArg List.length hpend
    have hbuf : 0 < buf.length := List.length_pos.mpr hb
    simp only [List.length_append, List.length_take, getDataChunk_buf_length,
      StreamDataChunk.size] at hlen
    simp only [backlog, hst, hc, Bool.false_eq_true, ↓reduceIte]
    rcases getDataChunk_progress hl hc hb hr with ⟨hn, hv⟩ | ⟨rfl, hv⟩
    · have : 0 < min n buf.length := by omega
      omega
    · omega

namespace H2ClientTokioTransport

section
variable (t : H2ClientTokioTransport) (window : Nat)

theorem sendNextData_streams :
    (t.sendNextData window).2.conn.state.streams =
      (nextDataFrame window t.readyResponses t.conn.state.streams).1 := by
  unfold sendNextData; dsimp only; split <;> rfl

theorem sendNextData_nothing (h : (t.sendNextData window).1 = .nothing) :
    (nextDataFrame window t.readyResponses t.conn.state.streams).2.2 = none := by
  unfold sendNextData at h; dsimp only at h; split at h
  · assumption
  · cases h

theorem tryWriteNextData_false (h : (t.tryWriteNextData window).1 = false) :
    ∀ sid s, (t.tryWriteNextData window).2.conn.state.getStream? sid = some s → s.Idle := by
  intro sid s hs
  unfold tryWriteNextData at h hs
  split at h
  · cases h
  · rename_i hn
    rw [hn] at hs
    have hmem := (SessionState.mem_streams_iff _ sid s).mpr hs
    rw [sendNextData_streams] at hmem
    exact nextDataFrame_idle (sendNextData_nothing t window hn) _ hmem

theorem hasPendingRequestData_false (h : t.hasPendingRequestData = false) :
    ∀ sid s, t.conn.state.getStream? sid = some s → s.Idle := by
  intro sid s hs
  simp only [hasPendingRequestData, List.any_eq_false, Bool.not_eq_true'] at h
  exact .inl (by simpa using h _ ((SessionState.mem_streams_iff _ sid s).mpr hs))

theorem sendRequestData_ready (write : WriteResult) {t' : H2ClientTokioTransport}
    (h : t.sendRequestData window write = (.ok (.ready ()), t')) :
    ∀ sid s, t'.conn.state.getStream? sid = some s → s.Idle := by
  unfold sendRequestData at h
  split at h
  · rename_i hp
    cases h
    exact hasPendingRequestData_false t (by simpa using hp)
  · dsimp only at h
    split at h
    · split at h <;> cases h
    · rename_i hq
      cases h
      exact tryWriteNextData_false t window (by simpa using hq)


theorem tryWriteNextData_snd : (t.tryWriteNextData window).2 = (t.sendNextData window).2 := by
  unfold tryWriteNextData; split <;> rfl

theorem sendRequestData_ready_sender (write : WriteResult) {t' : H2ClientTokioTransport}
    (h : t.sendRequestData window write = (.ok (.ready ()), t')) :
    t'.sender.buffer = t.sender.buffer := by
  unfold sendRequestData at h
  split at h
  · cases h; rfl
  · dsimp only at h
    split at h
    · split at h <;> cases h
    · rename_i hq
      cases h
      have hn : (t.sendNextData window).1 = .nothing := by
        unfold tryWriteNextData at hq
        split at hq <;> simp_all
      rw [tryWriteNextData_snd, sendNextData_sender, sendNextData_nothing t window hn,
        Option.toList_none, List.append_nil]
end

theorem pollComplete_ready_idle (t : H2ClientTokioTransport) (flush : WriteResult) (window : Nat)
    (write : WriteResult) {t' : H2ClientTokioTransport}
    (h : t.pollComplete flush window write = (.ok (.ready ()), t')) :
    ∀ sid s, t'.conn.state.getStream? sid = some s → s.Idle := by
  unfold pollComplete at h
  dsimp only at h
  split at h
  · cases h
  · exact sendRequestData_ready _ window write h
  · cases h

/-- Request 1 is started with a body and nothing of it has come yet: after its HEADERS are
flushed, the sink is ready with the stream open and idle. -/
theorem pollComplete_ready_idle_open :
    let t := (drive new [.startSend (.message 1 ⟨[]⟩ true false) 1]).state
    t.pollComplete (.ok 10) 16 (.ok 10) =
        (.ok (.ready ()), (t.pollComplete (.ok 10) 16 (.ok 10)).2) ∧
      ∀ sid s, (t.pollComplete (.ok 10) 16 (.ok 10)).2.conn.state.getStream? sid = some s →
        s.Idle :=
  let t := (drive new [.startSend (.message 1 ⟨[]⟩ true false) 1]).state
  ⟨rfl, pollComplete_ready_idle t (.ok 10) 16 (.ok 10) rfl⟩

theorem pollComplete_ready (t : H2ClientTokioTransport) {flush : WriteResult} {window : Nat}
    {write : WriteResult} {t' : H2ClientTokioTransport}
    (h : t.pollComplete flush window write = (.ok (.ready ()), t')) :
    t'.sender.buffer = [] ∧ ∀ sid s, t'.conn.state.getStream? sid = some s → s.Idle := by
  unfold pollComplete at h
  dsimp only at h
  split at h
  · cases h
  · rename_i hf
    refine ⟨?_, sendRequestData_ready _ window write h⟩
    rw [sendRequestData_ready_sender _ window write h]
    cases flush with
    | error e => simp [tryWrite, FrameSender.tryWrite] at hf
    | ok n =>
      simp only [tryWrite, FrameSender.tryWrite, Except.ok.injEq, decide_eq_true_eq] at hf ⊢
      exact List.drop_eq_nil_of_le hf
  · cases h

-- ---------------------------------------------------------------------------
-- How soon the sink reports Ready
-- ---------------------------------------------------------------------------

section
variable (t : H2ClientTokioTransport) (window : Nat)

/-- What the streams still owe the connection: the backlog of each stream of the session. -/
def backlog : Nat := (t.conn.state.streams.map fun p => p.2.backlog).sum

theorem sendNextData_sent (h : (t.sendNextData window).1 = .sent) :
    (nextDataFrame window t.readyResponses t.conn.state.streams).2.2 ≠ none := by
  unfold sendNextData at h; dsimp only at h; split at h
  · cases h
  · simp_all

theorem sendNextData_live (hl : ∀ sid s, t.conn.state.getStream? sid = some s → s.Live) :
    ∀ sid s, (t.sendNextData window).2.conn.state.getStream? sid = some s → s.Live := by
  intro k s' hk
  rw [sendNextData_getStream?] at hk
  obtain ⟨s, hs, rfl | ⟨buf, r, rfl⟩⟩ := nextDataFrame_lookup hk
  · exact hl k _ hs
  · exact H2Stream.getDataChunk_live (hl k _ hs)

theorem sendNextData_backlog (hw : 0 < window)
    (hl : ∀ sid s, t.conn.state.getStream? sid = some s → s.Live)
    (hsent : (t.sendNextData window).1 = .sent) :
    (t.sendNextData window).2.backlog < t.backlog := by
  have hb : List.replicate window (0 : UInt8) ≠ [] := by simp; omega
  simp only [backlog, sendNextData_streams]
  rcases nextDataFrame_cases window t.readyResponses t.conn.state.streams with
    ⟨-, hnd⟩ | ⟨pre, sid, s, rest, hl', -, n, last, hres, hnd⟩
  · exact absurd hnd fun h' => sendNextData_sent t window hsent (by rw [h'])
  · have hs : t.conn.state.getStream? sid = some s :=
      (SessionState.mem_streams_iff _ sid s).mp (hl' ▸ List.mem_append_right _ (.head _))
    have := H2Stream.getDataChunk_backlog (hl sid s hs) hb hres
    rw [hnd]
    simp only [hl', List.map_append, List.map_cons, List.sum_append, List.sum_cons]
    omega

theorem pollComplete_progress (hw : 0 < window)
    (hl : ∀ sid s, t.conn.state.getStream? sid = some s → s.Live) (m : Nat) :
    (t.pollComplete (.ok t.sender.buffer.length) window (.ok m)).1 = .ok (.ready ()) ∨
      ((t.pollComplete (.ok t.sender.buffer.length) window (.ok m)).1 = .ok .notReady ∧
        (t.pollComplete (.ok t.sender.buffer.length) window (.ok m)).2.backlog < t.backlog ∧
        ∀ sid s,
          (t.pollComplete (.ok t.sender.buffer.length) window (.ok m)).2.conn.state.getStream? sid =
            some s → s.Live) := by
  have hflush : t.tryWrite (.ok t.sender.buffer.length) =
      (.ok true, { t with sender := ⟨[]⟩ }) := by
    simp [tryWrite, FrameSender.tryWrite]
  have hlive := sendNextData_live { t with sender := ⟨[]⟩ } window hl
  have hlower := sendNextData_backlog { t with sender := ⟨[]⟩ } window hw hl
  simp only [pollComplete, hflush, sendRequestData]
  split
  · exact .inl rfl
  · simp only [tryWriteNextData]
    cases hsent : ({ t with sender := ⟨[]⟩ }.sendNextData window).1
    case nothing => exact .inl rfl
    case sent =>
      simp only [↓reduceIte]
      split
      · simp [tryWrite, FrameSender.tryWrite] at *
      all_goals exact .inr ⟨rfl, hlower hsent, hlive⟩

end

theorem step_live {t t' : H2ClientTokioTransport} {e : Event} {y : Option TokioResponseFrame}
    (h : t.step e = .ok (t', y)) (hl : ∀ sid s, t.conn.state.getStream? sid = some s → s.Live) :
    ∀ sid s, t'.conn.state.getStream? sid = some s → s.Live := by
  intro k s' hk
  rcases step_getStream? h hk with
    ⟨s, hs, rfl | ⟨r, c, rfl⟩⟩ | ⟨id, headers, hasBody, -, rfl⟩
  · exact hl k _ hs
  · exact H2Stream.call_live r c (hl k s hs)
  · cases hasBody <;> simp [H2Stream.Live, H2Stream.new, H2Stream.closeLocal]

/-- Along every run, from a state whose streams are live, every stream stays live. -/
theorem run_live (t : H2ClientTokioTransport)
    (hl : ∀ sid s, t.conn.state.getStream? sid = some s → s.Live) (evs : List Event) :
    ∀ sid s, (run t evs).state.conn.state.getStream? sid = some s → s.Live := by
  induction evs generalizing t with
  | nil => exact hl
  | cons e evs ih =>
    cases hs : t.step e with
    | error msg => simpa [run, hs] using hl
    | ok p =>
      obtain ⟨t', y⟩ := p
      simpa [run, hs] using ih t' (step_live hs hl)

/-- The answers of `poll_complete`, called once for each entry of `writes` on a socket
whose flush takes every buffered frame and whose write after a new DATA frame takes the entry's
count of frames. -/
def flushRounds (window : Nat) : List Nat → H2ClientTokioTransport → List (Poll Unit)
  | [], _ => []
  | m :: writes, t =>
    (t.pollComplete (.ok t.sender.buffer.length) window (.ok m)).1 ::
      flushRounds window writes (t.pollComplete (.ok t.sender.buffer.length) window (.ok m)).2

/-- On live streams and a socket that takes every frame the flush offers, with a positive
window, `poll_complete` answers `Ready` within one call more than the backlog. -/
theorem pollComplete_ready_within (t : H2ClientTokioTransport) {window : Nat} (hw : 0 < window)
    (hl : ∀ sid s, t.conn.state.getStream? sid = some s → s.Live) (writes : List Nat)
    (hlen : t.backlog < writes.length) :
    .ok (.ready ()) ∈ flushRounds window writes t := by
  induction writes generalizing t with
  | nil => simp at hlen
  | cons m writes ih =>
    rcases pollComplete_progress t window hw hl m with hready | ⟨-, hlower, hlive⟩
    · rw [flushRounds, hready]; exact .head _
    · rw [flushRounds]
      exact .tail _ (ih _ hlive (by simp only [List.length_cons] at hlen; omega))

/-- Request 1 with a two-byte body that has ended, with one-byte DATA payloads: its backlog is
four, and a socket that takes every frame gets `Ready` within five calls. -/
theorem pollComplete_ready_within_upload :
    let t := (run new [.start 1 [] true 1, .body 1 (some ⟨[5, 6]⟩), .body 1 none]).state
    0 < 1 ∧ (∀ sid s, t.conn.state.getStream? sid = some s → s.Live) ∧
      t.backlog < [1, 1, 1, 1, 1].length ∧
      .ok (.ready ()) ∈ flushRounds 1 [1, 1, 1, 1, 1] t := by
  intro t
  have hl : ∀ sid s, t.conn.state.getStream? sid = some s → s.Live :=
    run_live new (by simp [new, SessionState.getStream?, SessionState.new]) _
  have hlen : t.backlog < [1, 1, 1, 1, 1].length := by decide
  exact ⟨Nat.one_pos, hl, hlen, pollComplete_ready_within t Nat.one_pos hl _ hlen⟩

end H2ClientTokioTransport

end TokioSolicit
