import TokioSolicit.H2Stream

/-!
# The connection under the transport

What the transport uses of `solicit`'s `ClientConnection` and of the repository's frame
writer: the session table of streams, the frames queued for the socket, the events an inbound
frame raises on the streams it names, and the acknowledgement the connection queues on the
transport's writer for a SETTINGS or PING. The connection picks stream ids and parses frames;
here the id it assigns and the frames it parsed, or its rejection of one, are inputs.
-/

namespace TokioSolicit

/-- A frame queued for the socket. The acknowledgements go on stream 0. -/
inductive OutFrame
  | headers (streamId : StreamId) (headers : List Header) (endStream : Bool)
  | data (streamId : StreamId) (payload : Bytes) (endStream : Bool)
  | settingsAck
  | pingAck (payload : Bytes)
  deriving DecidableEq, Repr

/-- Modelled from the spec: the repository's `io::FrameSender`, a buffer of serialized frames
in front of the socket's write half; `try_write` reports whether it drained the buffer. -/
structure FrameSender where
  buffer : List OutFrame
  deriving DecidableEq, Repr

/-- What the socket did with one `try_write`: took that many buffered frames, or failed. -/
abbrev WriteResult := Except IoError Nat

namespace FrameSender

def sendFrame (sender : FrameSender) (frame : OutFrame) : FrameSender :=
  ⟨sender.buffer ++ [frame]⟩

def tryWrite (sender : FrameSender) : WriteResult → Except IoError Bool × FrameSender
  | .error e => (.error e, sender)
  | .ok n => (.ok (decide (sender.buffer.length ≤ n)), ⟨sender.buffer.drop n⟩)

end FrameSender

/-- A frame the connection parsed off the socket. -/
inductive InboundFrame
  | headers (streamId : StreamId) (headers : List Header) (endStream : Bool)
  | data (streamId : StreamId) (payload : Bytes) (endStream : Bool)
  | rstStream (streamId : StreamId)
  | settings (ack : Bool)
  | ping (ack : Bool) (payload : Bytes)
  /-- WINDOW_UPDATE, PRIORITY, GOAWAY: handled inside the connection, with no answer. -/
  | control
  /-- A frame the connection rejects with a protocol error. -/
  | invalid
  deriving DecidableEq, Repr

/-- The events the connection raises while handling a frame, each on the stream it names:
HEADERS and DATA deliver their contents, then END_STREAM closes the remote side;
RST_STREAM closes the stream. -/
def InboundFrame.events : InboundFrame → List (StreamId × StreamEvent)
  | .headers sid hs endStream =>
    (sid, .setHeaders hs) :: if endStream then [(sid, .closeRemote)] else []
  | .data sid payload endStream =>
    (sid, .newDataChunk payload) :: if endStream then [(sid, .closeRemote)] else []
  | .rstStream sid => [(sid, .setState .closed)]
  | _ => []

/-- The acknowledgement the connection queues on the writer: a SETTINGS or a PING that is not
itself an acknowledgement is answered, the PING with its payload. -/
def InboundFrame.reply : InboundFrame → Option OutFrame
  | .settings false => some .settingsAck
  | .ping false payload => some (.pingAck payload)
  | _ => none

def OutFrame.isAck : OutFrame → Bool
  | .settingsAck | .pingAck _ => true
  | _ => false

theorem InboundFrame.reply_isAck {frame : InboundFrame} {f : OutFrame}
    (hr : frame.reply = some f) : f.isAck := by
  unfold InboundFrame.reply at hr
  split at hr <;> cases hr <;> rfl

-- ---------------------------------------------------------------------------
-- The session table
-- ---------------------------------------------------------------------------

theorem lookup_cons_ite (l : List (StreamId × α)) (k k' : StreamId) (v : α) :
    ((k', v) :: l).lookup k = if k = k' then some v else l.lookup k := by
  simp only [List.lookup_cons]
  cases h : k == k' <;> simp_all

theorem lookup_eq_none {l : List (StreamId × α)} {k : StreamId} :
    l.lookup k = none ↔ k ∉ l.map Prod.fst := by
  rw [List.lookup_eq_none_iff]
  constructor
  · intro h hk
    obtain ⟨p, hp, rfl⟩ := List.mem_map.mp hk
    simpa using h p hp
  · intro h p hp
    simpa [bne_iff_ne] using fun he : k = p.1 => h (List.mem_map.mpr ⟨p, hp, he.symm⟩)

theorem nodup_append_entry {l : List (StreamId × α)} (hl : (l.map Prod.fst).Nodup)
    (h : l.lookup k = none) (v : α) : ((l ++ [(k, v)]).map Prod.fst).Nodup := by
  rw [List.map_append, List.map_singleton]
  exact hl.append (List.nodup_singleton _) (List.disjoint_singleton.mpr (lookup_eq_none.mp h))

/-- The entry for `sid` in an id-keyed table, with its value replaced; the other entries as
they were. -/
def replaceEntry (l : List (StreamId × α)) (sid : StreamId) (v : α) : List (StreamId × α) :=
  l.map fun p => if p.1 = sid then (sid, v) else p

theorem map_fst_replaceEntry (l : List (StreamId × α)) (sid : StreamId) (v : α) :
    (replaceEntry l sid v).map Prod.fst = l.map Prod.fst := by
  simp only [replaceEntry, List.map_map]
  exact List.map_congr_left fun p _ => by by_cases h : p.1 = sid <;> simp [h]

theorem lookup_replaceEntry (l : List (StreamId × α)) (sid k : StreamId) (v : α) :
    (replaceEntry l sid v).lookup k = if k = sid then (l.lookup k).map fun _ => v
      else l.lookup k := by
  induction l with
  | nil => split <;> rfl
  | cons p l ih =>
    obtain ⟨k', v'⟩ := p
    simp only [replaceEntry, List.map_cons] at ih ⊢
    by_cases hk : k' = sid
    · subst hk; by_cases hk2 : k = k' <;> simp_all [lookup_cons_ite]
    · by_cases hk2 : k = sid
      · subst hk2; simp_all [lookup_cons_ite, Ne.symm hk]
      · simp_all [lookup_cons_ite]

theorem lookup_filter {l : List (StreamId × α)} (hl : (l.map Prod.fst).Nodup) (q : α → Bool)
    (k : StreamId) : (l.filter fun p => q p.2).lookup k = (l.lookup k).filter q := by
  induction l with
  | nil => rfl
  | cons p l ih =>
    obtain ⟨k', v'⟩ := p
    rw [List.map_cons, List.nodup_cons] at hl
    have hnone : l.lookup k' = none := lookup_eq_none.mpr hl.1
    by_cases hk : k = k'
    · subst hk
      have hf : (l.filter fun p => q p.2).lookup k = none :=
        (List.filter_sublist l).lookup_eq_none hnone
      cases hq : q v' <;> simp [List.filter_cons, lookup_cons_ite, hq, hnone, hf, Option.filter]
    · cases hq : q v' <;> simp [List.filter_cons, lookup_cons_ite, hq, hk, ih hl.2]

theorem mem_iff_lookup {l : List (StreamId × α)} (hl : (l.map Prod.fst).Nodup)
    (k : StreamId) (v : α) : (k, v) ∈ l ↔ l.lookup k = some v := by
  induction l with
  | nil => simp
  | cons p l ih =>
    obtain ⟨k', v'⟩ := p
    simp only [List.map_cons, List.nodup_cons, List.mem_map] at hl
    by_cases hk : k = k'
    · subst hk
      have : (k, v) ∉ l := fun h => hl.1 ⟨(k, v), h, rfl⟩
      simp_all [lookup_cons_ite, eq_comm]
    · simp_all [lookup_cons_ite]

theorem lookup_middle {pre rest : List (StreamId × α)} {sid : StreamId} {v : α}
    (hnd : ((pre ++ (sid, v) :: rest).map Prod.fst).Nodup) (v' : α) (k : StreamId) :
    (pre ++ (sid, v') :: rest).lookup k =
      if k = sid then some v' else (pre ++ (sid, v) :: rest).lookup k := by
  induction pre with
  | nil => simp only [List.nil_append, lookup_cons_ite]; split <;> rfl
  | cons p pre ih =>
    obtain ⟨k', w⟩ := p
    simp only [List.cons_append, List.map_cons, List.nodup_cons, List.map_append,
      List.mem_append, List.mem_cons, List.mem_map] at hnd
    have hne : k' ≠ sid := fun h => hnd.1 (.inr (.inl h))
    simp only [List.cons_append, lookup_cons_ite]
    by_cases hk : k = k'
    · subst hk; simp [hne]
    · simp only [hk, ↓reduceIte]
      exact ih (by simpa [List.map_append] using hnd.2)

/-- `solicit`'s `DefaultSessionState`: the streams by id, each id once, in the order the
connection iterates them. -/
structure SessionState where
  streams : List (StreamId × H2Stream)
  nodup : (streams.map Prod.fst).Nodup
  deriving DecidableEq

namespace SessionState

def new : SessionState := ⟨[], List.nodup_nil⟩

def getStream? (st : SessionState) (sid : StreamId) : Option H2Stream := st.streams.lookup sid

def setStream (st : SessionState) (sid : StreamId) (s : H2Stream) : SessionState :=
  ⟨replaceEntry st.streams sid s, by rw [map_fst_replaceEntry]; exact st.nodup⟩

/-- `HashMap::insert`: replaces the stream under `sid`, or adds it. -/
def insertStream (st : SessionState) (sid : StreamId) (s : H2Stream) : SessionState :=
  if h : (st.getStream? sid).isSome then st.setStream sid s
  else ⟨st.streams ++ [(sid, s)],
    nodup_append_entry st.nodup (Option.not_isSome_iff_eq_none.mp h) s⟩

/-- `get_closed`: takes the closed streams out of the table. -/
def getClosed (st : SessionState) : List H2Stream × SessionState :=
  ((st.streams.filter (·.2.state.isClosed)).map (·.2),
    ⟨st.streams.filter fun p => !p.2.state.isClosed,
      (List.filter_sublist _).map Prod.fst |>.nodup st.nodup⟩)

section
variable (st : SessionState) (sid k : StreamId) (s : H2Stream)

theorem getStream?_setStream :
    (st.setStream sid s).getStream? k =
      if k = sid then (st.getStream? k).map fun _ => s else st.getStream? k :=
  lookup_replaceEntry _ _ _ _

theorem getStream?_insertStream :
    (st.insertStream sid s).getStream? k = if k = sid then some s else st.getStream? k := by
  unfold insertStream
  split
  · rename_i h
    rw [getStream?_setStream]
    split
    · subst k; obtain ⟨v, hv⟩ := Option.isSome_iff_exists.mp h; simp [hv]
    · rfl
  · rename_i h
    have hn : st.streams.lookup sid = none := Option.not_isSome_iff_eq_none.mp h
    simp only [getStream?, List.lookup_append]
    split
    · subst k; simp [hn, lookup_cons_ite]
    · rename_i hk
      cases st.streams.lookup k <;> simp [lookup_cons_ite, hk]

theorem getStream?_getClosed :
    st.getClosed.2.getStream? k = (st.getStream? k).filter fun s => !s.state.isClosed :=
  lookup_filter st.nodup (fun s => !s.state.isClosed) k

theorem mem_streams_iff : (sid, s) ∈ st.streams ↔ st.getStream? sid = some s :=
  mem_iff_lookup st.nodup sid s

end

end SessionState

/-- The part of `solicit`'s `ClientConnection` the transport reads: its session. -/
structure ClientConnection where
  state : SessionState
  deriving DecidableEq

/-- `solicit`'s `RequestStream`: a new stream and the headers that open it. -/
structure RequestStream where
  stream : H2Stream
  headers : List Header

/-- `ClientConnection::start_request`: the stream goes into the session under the id the
connection assigns, and its HEADERS go on the writer, with END_STREAM when the stream is
already closed on the local end. -/
def ClientConnection.startRequest (conn : ClientConnection) (request : RequestStream)
    (sender : FrameSender) (assigned : StreamId) : StreamId × ClientConnection × FrameSender :=
  (assigned, ⟨conn.state.insertStream assigned request.stream⟩,
    sender.sendFrame (.headers assigned request.headers request.stream.state.isClosedLocal))

inductive SendStatus
  | sent
  | nothing
  deriving DecidableEq, Repr

/-- The walk of `send_next_data` over the streams, in table order, with a `window`-byte buffer:
each stream is asked for a chunk until one hands out a chunk or its last chunk, which becomes a
DATA frame (with END_STREAM for the last). -/
def nextDataFrame (window : Nat) (r : ResponseChunkReceiver) :
    List (StreamId × H2Stream) →
      List (StreamId × H2Stream) × ResponseChunkReceiver × Option OutFrame
  | [] => ([], r, none)
  | (sid, s) :: rest =>
    let c := s.getDataChunk (List.replicate window 0) r
    match c.result with
    | .ok (.chunk n) =>
      ((sid, c.stream) :: rest, c.responses, some (.data sid (c.buf.take n) false))
    | .ok (.last n) =>
      ((sid, c.stream) :: rest, c.responses, some (.data sid (c.buf.take n) true))
    | _ =>
      let next := nextDataFrame window c.responses rest
      ((sid, c.stream) :: next.1, next.2.1, next.2.2)

theorem nextDataFrame_keys (window : Nat) (r : ResponseChunkReceiver)
    (l : List (StreamId × H2Stream)) :
    (nextDataFrame window r l).1.map Prod.fst = l.map Prod.fst := by
  induction l generalizing r with
  | nil => rfl
  | cons p l ih =>
    simp only [nextDataFrame]
    split <;> simp [ih]

/-- What the walk of `send_next_data` does: every stream answers `Unavailable` or `Closed` and
nothing changes, or the streams before one answer so and that one hands out a chunk, which
becomes a DATA frame, with END_STREAM for the last chunk. -/
theorem nextDataFrame_cases (window : Nat) (r : ResponseChunkReceiver)
    (l : List (StreamId × H2Stream)) :
    ((∀ p ∈ l, p.2.Silent (List.replicate window 0) r) ∧
      nextDataFrame window r l = (l, r, none)) ∨
    ∃ pre sid s rest, l = pre ++ (sid, s) :: rest ∧
      (∀ p ∈ pre, p.2.Silent (List.replicate window 0) r) ∧ ∃ n last,
      (s.getDataChunk (List.replicate window 0) r).result =
        .ok (if last then .last n else .chunk n) ∧
      nextDataFrame window r l =
        (pre ++ (sid, (s.getDataChunk (List.replicate window 0) r).stream) :: rest,
          (s.getDataChunk (List.replicate window 0) r).responses,
          some (.data sid ((s.getDataChunk (List.replicate window 0) r).buf.take n) last)) := by
  induction l with
  | nil => exact .inl ⟨by simp, rfl⟩
  | cons p l ih =>
    obtain ⟨sid, s⟩ := p
    by_cases hsend : ∃ n, ∃ last : Bool, (s.getDataChunk (List.replicate window 0) r).result =
        .ok (if last then .last n else .chunk n)
    · obtain ⟨n, last, hres⟩ := hsend
      refine .inr ⟨[], sid, s, l, rfl, by simp, n, last, hres, ?_⟩
      cases last <;> simp [nextDataFrame, hres]
    · have hsil : s.Silent (List.replicate window 0) r :=
        H2Stream.silent_of (fun n h => hsend ⟨n, false, by simpa using h⟩)
          (fun n h => hsend ⟨n, true, by simpa using h⟩)
      have hstep : nextDataFrame window r ((sid, s) :: l) =
          ((sid, s) :: (nextDataFrame window r l).1, (nextDataFrame window r l).2.1,
            (nextDataFrame window r l).2.2) := by
        obtain ⟨res, heq, rfl | rfl⟩ := hsil <;> simp only [nextDataFrame, heq]
      rcases ih with ⟨hall, hnd⟩ | ⟨pre, sid', s', rest, rfl, hpre, n, last, hres', hnd⟩
      · exact .inl ⟨List.forall_mem_cons.mpr ⟨hsil, hall⟩, by rw [hstep, hnd]⟩
      · exact .inr ⟨(sid, s) :: pre, sid', s', rest, rfl,
          List.forall_mem_cons.mpr ⟨hsil, hpre⟩,
          n, last, hres', by rw [hstep, hnd]; rfl⟩

theorem nextDataFrame_lookup_isSome (window : Nat) (r : ResponseChunkReceiver)
    (l : List (StreamId × H2Stream)) (k : StreamId) :
    ((nextDataFrame window r l).1.lookup k).isSome = (l.lookup k).isSome := by
  induction l generalizing r with
  | nil => rfl
  | cons p l ih =>
    obtain ⟨sid, s⟩ := p
    simp only [nextDataFrame]
    by_cases hk : k = sid <;> split <;> simp [lookup_cons_ite, hk, ih]

theorem nextDataFrame_lookup {window : Nat} {r : ResponseChunkReceiver}
    {l : List (StreamId × H2Stream)} {k : StreamId} {s' : H2Stream}
    (h : (nextDataFrame window r l).1.lookup k = some s') :
    ∃ s, l.lookup k = some s ∧
      (s' = s ∨ ∃ buf r', s' = (s.getDataChunk buf r').stream) := by
  induction l generalizing r with
  | nil => simp [nextDataFrame] at h
  | cons p l ih =>
    obtain ⟨sid, s⟩ := p
    rw [lookup_cons_ite]
    simp only [nextDataFrame] at h
    by_cases hk : k = sid
    · subst hk
      refine ⟨s, by simp, .inr ⟨List.replicate window 0, r, ?_⟩⟩
      split at h <;> simpa [lookup_cons_ite] using h.symm
    · simp only [hk, ↓reduceIte]
      split at h <;> simp only [lookup_cons_ite, hk, ↓reduceIte] at h
      · exact ⟨s', h, .inl rfl⟩
      · exact ⟨s', h, .inl rfl⟩
      · exact ih h

end TokioSolicit
