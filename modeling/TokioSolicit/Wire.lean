import TokioSolicit.RequestMap
import TokioSolicit.Upload

/-!
# Request frames on the wire

`start_request` queues a request's HEADERS on the writer and `send_next_data` one DATA frame at
a time; the connection queues its acknowledgement of a peer's SETTINGS or PING on stream 0. Each
`try_write` hands the socket a front part of what is queued. `queued` and `written` record these
along a run, as ghost logs (`trace`).

`writer_keeps_order`: over every run, what the socket took followed by what the writer still
holds is everything queued, in order; each frame queued is a started request's HEADERS, a DATA
frame of a started stream, or an acknowledgement, and without a panic every start and every
SETTINGS or PING that asks for one has queued its frame.

`headers_before_data`: over every run without a panic, each DATA frame the socket takes comes
after a HEADERS frame of its stream, since DATA goes only to streams of the session and a stream
enters the session with its HEADERS queued.

`body_on_wire`: in every run in which the multiplexer submits frames as its protocol promises
and the connection accepts every frame read (`SinkOrder`), and the peer neither resets a stream
nor ends it twice (`PeerConforms`), the DATA frames the socket takes for a request with a body carry a front part of the bytes submitted for
it, in order, and END_STREAM only on the last of them, once the body has been ended and all of
it is out; a request without a body gets no DATA frame. The proof carries, for each stream in
the session, the simulation of `Upload` against the promise read off the run (`wireSpec`), and
shows the shape first of the frames queued (`SinkOrder.wireInv`), then of the front part of
them the socket took.
-/

namespace TokioSolicit

/-- The payload and END_STREAM flag of a DATA frame of stream `sid`. -/
def OutFrame.dataOf (sid : StreamId) : OutFrame → Option (Bytes × Bool)
  | .data sid' payload endStream => if sid' = sid then some (payload, endStream) else none
  | _ => none

/-- The DATA frames of stream `sid`, in order. -/
def dataFrames (sid : StreamId) (frames : List OutFrame) : List (Bytes × Bool) :=
  frames.filterMap (OutFrame.dataOf sid)

@[simp] theorem dataFrames_append (sid : StreamId) (fs gs : List OutFrame) :
    dataFrames sid (fs ++ gs) = dataFrames sid fs ++ dataFrames sid gs :=
  List.filterMap_append _ _ _

@[simp] theorem dataFrames_headers (k sid : StreamId) (headers : List Header) (endStream : Bool) :
    dataFrames k [.headers sid headers endStream] = [] := rfl

@[simp] theorem dataFrames_data (k sid : StreamId) (payload : Bytes) (last : Bool) :
    dataFrames k [.data sid payload last] = if sid = k then [(payload, last)] else [] := by
  by_cases h : sid = k <;> simp [dataFrames, OutFrame.dataOf, h]

/-- DATA frames that carry `body` in order, possibly cut short: plain frames, then at most one
with END_STREAM, which completes the body and comes only once its end was submitted. -/
def BodyFrames (frames : List (Bytes × Bool)) (body : Bytes) (ended : Prop) : Prop :=
  ∃ (chunks : List Bytes) (fin : Option Bytes),
    frames = chunks.map (·, false) ++ fin.toList.map (·, true) ∧
    chunks.flatten ++ fin.getD [] <+: body ∧
    (fin.isSome → chunks.flatten ++ fin.getD [] = body ∧ ended)

theorem BodyFrames.snoc {frames : List (Bytes × Bool)} {body : Bytes} {ended : Prop}
    (h : BodyFrames frames body ended) (hopen : frames.any Prod.snd = false) (payload : Bytes)
    (last : Bool) (hpre : (frames.map Prod.fst).flatten ++ payload <+: body)
    (hlast : last → (frames.map Prod.fst).flatten ++ payload = body ∧ ended) :
    BodyFrames (frames ++ [(payload, last)]) body ended := by
  obtain ⟨chunks, fin, rfl, -, -⟩ := h
  cases fin with
  | some x => simp at hopen
  | none =>
    simp only [Option.toList_none, List.map_nil, List.append_nil, List.map_map] at hpre hlast
    cases last
    · exact ⟨chunks ++ [payload], none, by simp, by simpa [Function.comp_def] using hpre,
        by simp⟩
    · exact ⟨chunks, some payload, by simp, by simpa [Function.comp_def] using hpre,
        fun _ => by simpa [Function.comp_def] using hlast rfl⟩

theorem BodyFrames.extend {frames : List (Bytes × Bool)} {body : Bytes} {ended : Prop}
    (h : BodyFrames frames body ended) (hopen : ¬ended) (more : Bytes) (ended' : Prop) :
    BodyFrames frames (body ++ more) ended' := by
  obtain ⟨chunks, fin, rfl, hpre, hfin⟩ := h
  cases fin with
  | some x => exact absurd (hfin rfl).2 hopen
  | none => exact ⟨chunks, none, rfl, hpre.trans (List.prefix_append _ _), by simp⟩

theorem BodyFrames.of_prefix {frames frames' : List (Bytes × Bool)} {body : Bytes} {ended : Prop}
    (h : BodyFrames frames body ended) (hp : frames' <+: frames) :
    BodyFrames frames' body ended := by
  obtain ⟨chunks, fin, rfl, hpre, hfin⟩ := h
  have hflat : chunks.flatten <+: body := (List.prefix_append _ _).trans hpre
  have plain : ∀ fs, fs <+: chunks.map (·, false) → BodyFrames fs body ended := by
    intro fs hfs
    rw [List.prefix_iff_eq_take, ← List.map_take] at hfs
    refine ⟨chunks.take fs.length, none, by simpa using hfs, ?_, by simp⟩
    rw [Option.getD_none, List.append_nil]
    refine List.IsPrefix.trans ⟨(chunks.drop fs.length).flatten, ?_⟩ hflat
    rw [← List.flatten_append, List.take_append_drop]
  cases fin with
  | none => exact plain _ (by simpa using hp)
  | some x =>
    rcases List.prefix_concat_iff.mp hp with rfl | hp
    · exact ⟨chunks, some x, rfl, hpre, hfin⟩
    · exact plain _ hp

theorem Simulates.dataFrame {a : UploadSpec} {s : H2Stream} {remote : Bool}
    {r : ResponseChunkReceiver} {buf : Bytes} {n : Nat} {last : Bool} (h : Simulates a s remote)
    (hres : (s.getDataChunk buf r).result = .ok (if last then .last n else .chunk n)) :
    Simulates
        { a with
          written := a.written ++ (s.getDataChunk buf r).buf.take n
          finished := a.finished || last }
        (s.getDataChunk buf r).stream remote ∧
      a.finished = false ∧ a.written ++ (s.getDataChunk buf r).buf.take n <+: a.accepted ∧
      (last → a.closing ∧ a.written ++ (s.getDataChunk buf r).buf.take n = a.accepted) := by
  obtain ⟨a', hstep, hsim⟩ := h.getDataChunk r buf
  cases last <;>
    simp only [H2Stream.call, hres, Bool.false_eq_true, ↓reduceIte] at hstep hsim
  · obtain ⟨rfl, hf, hp⟩ := hstep.chunk_inv
    exact ⟨by simpa using hsim, hf, hp, by simp⟩
  · obtain ⟨rfl, hf, hc, he⟩ := hstep.last_inv
    exact ⟨by simpa [he] using hsim, hf, he ▸ List.prefix_refl _, fun _ => ⟨hc, he⟩⟩

namespace H2ClientTokioTransport

/-- The frames an event queues on the writer: a request's HEADERS, with END_STREAM when it has
no body, the connection's acknowledgement of a SETTINGS or PING, and the DATA frame
`send_next_data` prepares. -/
def queued (t : H2ClientTokioTransport) : Event → List OutFrame
  | .start id headers hasBody assigned =>
    [.headers assigned headers (t.prepareRequest id headers hasBody).1.stream.state.isClosedLocal]
  | .control frame => frame.reply.toList
  | .sendData window => (nextDataFrame window t.readyResponses t.conn.state.streams).2.2.toList
  | _ => []

/-- The frames the socket takes off the writer. -/
def written (t : H2ClientTokioTransport) : Event → List OutFrame
  | .write (.ok n) => t.sender.buffer.take n
  | _ => []

/-- What `f` records along a run, up to a panic. -/
def trace {α : Type} (f : H2ClientTokioTransport → Event → List α)
    (t : H2ClientTokioTransport) :
    List Event → List α
  | [] => []
  | e :: es =>
    match t.step e with
    | .error _ => []
    | .ok next => f t e ++ trace f next.1 es

theorem trace_snoc {α : Type} (f : H2ClientTokioTransport → Event → List α)
    {t t' : H2ClientTokioTransport} {evs : List Event} {e : Event}
    {y : Option TokioResponseFrame} (hp : (run t evs).panic = none)
    (hs : (run t evs).state.step e = .ok (t', y)) :
    trace f t (evs ++ [e]) = trace f t evs ++ f (run t evs).state e := by
  induction evs generalizing t with
  | nil =>
    simp only [run] at hs
    simp [trace, run, hs]
  | cons e' es ih =>
    cases h : t.step e' with
    | error msg => simp [run, h] at hp
    | ok p =>
      simp only [run, h] at hp hs
      simp [trace, run, h, ih hp hs]

-- ---------------------------------------------------------------------------
-- The writer
-- ---------------------------------------------------------------------------

theorem step_sender {t t' : H2ClientTokioTransport} {e : Event} {y : Option TokioResponseFrame}
    (h : t.step e = .ok (t', y)) :
    t.written e ++ t'.sender.buffer = t.sender.buffer ++ t.queued e := by
  cases e
  case start id headers hasBody assigned =>
    obtain ⟨t'', hs, -, -, -, -, hsender⟩ := t.startRequest_spec id headers hasBody assigned
    simp only [step, hs, Except.map, Except.ok.injEq, Prod.mk.injEq] at h
    obtain ⟨rfl, rfl⟩ := h
    simp [written, queued, hsender, FrameSender.sendFrame]
  case body id chunk =>
    obtain ⟨hb, rfl⟩ := step_body h
    obtain ⟨_, -, rfl | ⟨_, _, -, rfl, -⟩⟩ := t.addBodyChunk_eq_ok hb <;>
      simp [written, queued, withStream]
  case control frame =>
    obtain ⟨-, -, rfl⟩ := step_control h
    simp [written, queued]
  all_goals obtain ⟨rfl, rfl⟩ := Prod.mk.inj (Except.ok.inj h)
  case stream sid e => unfold handleStreamEvent; split <;> simp [written, queued]
  case sendData window => simp [written, queued, sendNextData_sender]
  case write w =>
    cases w with
    | error e => simp [written, queued, tryWrite, FrameSender.tryWrite]
    | ok n => simp [written, queued, tryWrite, FrameSender.tryWrite]
  all_goals simp [written, queued, handleClosedStreams, getNextResponseFrame]

theorem run_sender (t : H2ClientTokioTransport) (evs : List Event) :
    trace written t evs ++ (run t evs).state.sender.buffer =
      t.sender.buffer ++ trace queued t evs := by
  induction evs generalizing t with
  | nil => simp [trace, run]
  | cons e es ih =>
    cases hs : t.step e with
    | error msg => simp [trace, run, hs]
    | ok p =>
      obtain ⟨t', y⟩ := p
      simp only [trace, run, hs, List.append_assoc]
      rw [ih t', ← List.append_assoc, step_sender hs, List.append_assoc]

theorem mem_queued {t : H2ClientTokioTransport} {e : Event} {f : OutFrame}
    (hf : f ∈ t.queued e) :
    (∃ id headers hasBody sid, e = .start id headers hasBody sid ∧
      f = .headers sid headers (!hasBody)) ∨
    (∃ sid payload last, f = .data sid payload last ∧
      ∃ s, t.conn.state.getStream? sid = some s) ∨
    ∃ frame, e = .control frame ∧ frame.reply = some f := by
  cases e with
  | start id headers hasBody assigned =>
    simp only [queued, prepareRequest_isClosedLocal, List.mem_singleton] at hf
    exact .inl ⟨id, headers, hasBody, assigned, rfl, hf⟩
  | control frame => exact .inr (.inr ⟨frame, rfl, by simpa [queued] using hf⟩)
  | sendData window =>
    rcases nextDataFrame_cases window t.readyResponses t.conn.state.streams with
      ⟨-, hnd⟩ | ⟨pre, sid, s, rest, hl, -, n, last, -, hnd⟩
    · simp [queued, hnd] at hf
    · simp only [queued, hnd, Option.toList_some, List.mem_singleton] at hf
      exact .inr (.inl ⟨sid, _, _, hf, s, (SessionState.mem_streams_iff _ _ _).mp
        (hl ▸ List.mem_append_right _ (.head _))⟩)
  | _ => simp [queued] at hf

theorem queued_data_stream {t : H2ClientTokioTransport} {e : Event} {sid : StreamId}
    {payload : Bytes} {last : Bool} (h : OutFrame.data sid payload last ∈ t.queued e) :
    ∃ s, t.conn.state.getStream? sid = some s := by
  rcases mem_queued h with ⟨_, _, _, _, -, h⟩ | ⟨_, _, _, h, hs⟩ | ⟨_, -, hr⟩
  · cases h
  · cases h; exact hs
  · cases InboundFrame.reply_isAck hr

/-- Every stream of the session has had its HEADERS queued. -/
def HeadersQueued (frames : List OutFrame) (t : H2ClientTokioTransport) : Prop :=
  ∀ sid s, t.conn.state.getStream? sid = some s →
    ∃ headers endStream, OutFrame.headers sid headers endStream ∈ frames

theorem HeadersQueued.snoc {frames : List OutFrame} {t t' : H2ClientTokioTransport} {e : Event}
    {y : Option TokioResponseFrame} (h : HeadersQueued frames t) (hs : t.step e = .ok (t', y)) :
    HeadersQueued (frames ++ t.queued e) t' := by
  intro sid s' hs'
  rcases step_getStream? hs hs' with ⟨s, hs₀, -⟩ | ⟨id, headers, hasBody, rfl, -⟩
  · obtain ⟨headers, endStream, hm⟩ := h sid s hs₀
    exact ⟨headers, endStream, List.mem_append_left _ hm⟩
  · exact ⟨headers, _, List.mem_append_right _ (List.mem_singleton_self _)⟩

/-- Along a run without a panic every stream of the session has had its HEADERS queued, and
every DATA frame queued comes after a HEADERS frame of its stream. -/
theorem run_headersQueued {evs : List Event} (hp : (run new evs).panic = none) :
    HeadersQueued (trace queued new evs) (run new evs).state ∧
      ∀ pre sid payload last post,
        trace queued new evs = pre ++ .data sid payload last :: post →
        ∃ headers endStream, OutFrame.headers sid headers endStream ∈ pre := by
  induction evs using List.reverseRecOn with
  | nil =>
    refine ⟨by simp [HeadersQueued, run, new, SessionState.getStream?, SessionState.new],
      fun pre _ _ _ _ h => ?_⟩
    simp [trace] at h
  | append_singleton evs e ih =>
    have hp₀ := panic_of_append new evs [e] hp
    obtain ⟨t', y, hs⟩ := step_ok_of_run hp₀ hp
    obtain ⟨hq, hord⟩ := ih hp₀
    rw [run_snoc hp₀ hs, trace_snoc queued hp₀ hs]
    refine ⟨hq.snoc hs, fun pre sid payload last post h => ?_⟩
    -- the DATA frame was queued before, or by this event on a stream of the session
    have hnew : OutFrame.data sid payload last ∈ (run new evs).state.queued e →
        trace queued new evs <+: pre →
          ∃ headers endStream, OutFrame.headers sid headers endStream ∈ pre :=
      fun hm hpre => by
        obtain ⟨s, hs'⟩ := queued_data_stream hm
        obtain ⟨headers, endStream, hm'⟩ := hq sid s hs'
        exact ⟨headers, endStream, hpre.subset hm'⟩
    rcases List.append_eq_append_iff.mp h with ⟨a', rfl, hb⟩ | ⟨c', ha, hd⟩
    · exact hnew (hb ▸ List.mem_append_right _ (.head _)) (List.prefix_append _ _)
    · cases c' with
      | nil =>
        rw [List.nil_append] at hd
        exact hnew (hd ▸ .head _) (by simp [ha])
      | cons x c' =>
        simp only [List.cons_append, List.cons.injEq] at hd
        obtain ⟨rfl, -⟩ := hd
        exact hord pre sid payload last c' ha

/-- Along every run without a panic, each DATA frame the socket takes comes after a HEADERS frame
of its stream. -/
theorem headers_before_data {evs : List Event} (hp : (run new evs).panic = none)
    {pre post : List OutFrame} {sid : StreamId} {payload : Bytes} {last : Bool}
    (h : trace written new evs = pre ++ .data sid payload last :: post) :
    ∃ headers endStream, OutFrame.headers sid headers endStream ∈ pre := by
  have hw := run_sender new evs
  rw [show new.sender.buffer = [] from rfl, List.nil_append, h, List.append_assoc,
    List.cons_append] at hw
  exact (run_headersQueued hp).2 pre sid payload last _ hw.symm

/-- A request with a one-byte body: the socket takes its HEADERS, then its DATA frame. -/
theorem headers_before_data_upload :
    let evs := [Event.start 1 [] true 3, .body 1 (some ⟨[5]⟩), .sendData 4, .write (.ok 2)]
    (run new evs).panic = none ∧
      trace written new evs = [.headers 3 [] false] ++ .data 3 [5] false :: [] ∧
      ∃ headers endStream,
        OutFrame.headers 3 headers endStream ∈ [OutFrame.headers 3 [] false] := by
  intro evs
  have hp : (run new evs).panic = none := rfl
  have h : trace written new evs = [.headers 3 [] false] ++ .data 3 [5] false :: [] := rfl
  exact ⟨hp, h, headers_before_data hp h⟩

-- ---------------------------------------------------------------------------
-- The promise of each stream, read off a run
-- ---------------------------------------------------------------------------

/-- The bytes of a body chunk of request `id`. -/
def Event.bodyOf (id : RequestId) : Event → Option Bytes
  | .body id' (some ⟨data⟩) => if id' = id then some data else none
  | _ => none

/-- The body bytes a run submits for request `id`, in order. -/
def bodyBytes (id : RequestId) (evs : List Event) : Bytes :=
  (evs.filterMap (Event.bodyOf id)).flatten

@[simp] theorem bodyBytes_append (id : RequestId) (evs es : List Event) :
    bodyBytes id (evs ++ es) = bodyBytes id evs ++ bodyBytes id es := by
  simp [bodyBytes, List.filterMap_append]

@[simp] theorem bodyBytes_singleton (id : RequestId) (e : Event) :
    bodyBytes id [e] = (e.bodyOf id).getD [] := by
  cases h : e.bodyOf id <;> simp [bodyBytes, h]

theorem bodyBytes_eq_nil {id : RequestId} {evs : List Event}
    (h : ∀ chunk, Event.body id chunk ∉ evs) : bodyBytes id evs = [] := by
  simp only [bodyBytes, List.flatten_eq_nil_iff, List.mem_filterMap]
  rintro _ ⟨e, he, hb⟩
  cases e <;> simp only [Event.bodyOf, reduceCtorEq] at hb
  rename_i id' chunk
  rcases chunk with _ | ⟨data⟩
  · simp at hb
  · by_cases hi : id' = id
    · subst hi; exact absurd he (h _)
    · simp [hi] at hb

/-- The promise of `Upload` for stream `sid` of request `id`, read off a run: the body bytes
submitted, the DATA payloads queued, whether the body was ended, and whether the upload is over:
from the start for a request without a body, after a DATA frame with END_STREAM otherwise. -/
def wireSpec (id : RequestId) (sid : StreamId) (hasBody : Bool) (evs : List Event)
    (frames : List OutFrame) : UploadSpec :=
  ⟨bodyBytes id evs, ((dataFrames sid frames).map Prod.fst).flatten,
    decide (Event.body id none ∈ evs), !hasBody || (dataFrames sid frames).any Prod.snd⟩

theorem wireSpec_snoc {e : Event} (he : e.isSink = false) (id : RequestId) (sid : StreamId)
    (hasBody : Bool) (evs : List Event) (frames : List OutFrame) :
    wireSpec id sid hasBody (evs ++ [e]) frames = wireSpec id sid hasBody evs frames := by
  cases e <;> simp_all [Event.isSink, wireSpec, bodyBytes, Event.bodyOf]

theorem wireSpec_frames {sid : StreamId} {fs : List OutFrame} (hfs : dataFrames sid fs = [])
    (id : RequestId) (hasBody : Bool) (evs : List Event) (frames : List OutFrame) :
    wireSpec id sid hasBody evs (frames ++ fs) = wireSpec id sid hasBody evs frames := by
  simp [wireSpec, hfs]

theorem wireSpec_data (id : RequestId) (sid : StreamId) (hasBody : Bool) (evs : List Event)
    (frames : List OutFrame) (payload : Bytes) (last : Bool) :
    wireSpec id sid hasBody evs (frames ++ [.data sid payload last]) =
      { wireSpec id sid hasBody evs frames with
        written := (wireSpec id sid hasBody evs frames).written ++ payload
        finished := (wireSpec id sid hasBody evs frames).finished || last } := by
  simp [wireSpec, dataFrames, OutFrame.dataOf, bodyBytes, Event.bodyOf, Bool.or_assoc]

theorem wireSpec_start (id : RequestId) (sid : StreamId) (hasBody : Bool) (evs : List Event)
    (frames : List OutFrame) (id' : RequestId) (headers : List Header) (hasBody' : Bool)
    (assigned : StreamId) (endStream : Bool) :
    wireSpec id sid hasBody (evs ++ [.start id' headers hasBody' assigned])
        (frames ++ [.headers assigned headers endStream]) =
      wireSpec id sid hasBody evs frames := by
  simp [wireSpec, dataFrames, OutFrame.dataOf, bodyBytes, Event.bodyOf]

theorem wireSpec_body {id : RequestId} {sid : StreamId} {hasBody : Bool} {evs : List Event}
    {frames : List OutFrame} {chunk : Option HttpRequestBody} {o : CallResult} {a' : UploadSpec}
    (hend : Event.body id none ∉ evs)
    (h : UploadSpec.Step (wireSpec id sid hasBody evs frames) (bodyCall chunk) o a') :
    a' = wireSpec id sid hasBody (evs ++ [.body id chunk]) frames := by
  rcases chunk with _ | ⟨data⟩
  · rw [UploadSpec.Step.setShouldClose_inv h]
    simp [wireSpec, bodyBytes, Event.bodyOf]
  · rw [UploadSpec.Step.addData_inv h]
    simp [wireSpec, bodyBytes, Event.bodyOf, hend]

theorem wireSpec_body_other {id id' : RequestId} (hne : id' ≠ id) (sid : StreamId)
    (hasBody : Bool) (evs : List Event) (frames : List OutFrame) (chunk : Option HttpRequestBody) :
    wireSpec id' sid hasBody (evs ++ [.body id chunk]) frames =
      wireSpec id' sid hasBody evs frames := by
  rcases chunk with _ | ⟨data⟩ <;> simp [wireSpec, bodyBytes, Event.bodyOf, hne, Ne.symm hne]

/-- A peer that never resets a stream and ends each one at most once. -/
structure PeerConforms (evs : List Event) : Prop where
  no_reset : ∀ sid st, Event.stream sid (.setState st) ∉ evs
  one_close : ∀ sid, evs.count (.stream sid .closeRemote) ≤ 1

theorem PeerConforms.of_append {evs es : List Event} (h : PeerConforms (evs ++ es)) :
    PeerConforms evs where
  no_reset sid st hm := h.no_reset sid st (List.mem_append_left _ hm)
  one_close sid := le_trans (by simp) (h.one_close sid)

theorem PeerConforms.append_quiet {evs es : List Event} (h : PeerConforms evs)
    (hes : ∀ e ∈ es, ∀ sid e', e ≠ .stream sid e') : PeerConforms (evs ++ es) where
  no_reset sid st hm := by
    rcases List.mem_append.mp hm with hm | hm
    · exact h.no_reset sid st hm
    · exact hes _ hm sid _ rfl
  one_close sid := by
    have : es.count (.stream sid .closeRemote) = 0 :=
      List.count_eq_zero.mpr fun hm => hes _ hm sid _ rfl
    simpa [List.count_append, this] using h.one_close sid

/-- Stream `sid` of the session, `s`, keeps the promise read off the run under every start
naming its id, and is closed on the remote end only after the peer closed it. -/
def Keeps (evs : List Event) (frames : List OutFrame) (sid : StreamId) (s : H2Stream) : Prop :=
  ∃ remote, (remote = false → Event.stream sid .closeRemote ∈ evs) ∧
    ∀ id headers hasBody, Event.start id headers hasBody sid ∈ evs →
      Simulates (wireSpec id sid hasBody evs frames) s remote

theorem Keeps.snoc {evs : List Event} {frames frames' : List OutFrame} {sid : StreamId}
    {s s' : H2Stream} {e : Event} (h : Keeps evs frames sid s)
    (hmem : ∀ id headers hasBody, Event.start id headers hasBody sid ∈ evs ++ [e] →
      Event.start id headers hasBody sid ∈ evs)
    (hsim : ∀ remote id headers hasBody, Event.start id headers hasBody sid ∈ evs →
      Simulates (wireSpec id sid hasBody evs frames) s remote →
        Simulates (wireSpec id sid hasBody (evs ++ [e]) frames') s' remote) :
    Keeps (evs ++ [e]) frames' sid s' := by
  obtain ⟨remote, hrem, hs⟩ := h
  exact ⟨remote, fun hr => List.mem_append_left _ (hrem hr), fun id headers hasBody hm =>
    hsim remote id headers hasBody (hmem _ _ _ hm) (hs _ _ _ (hmem _ _ _ hm))⟩

/-- How the session stands to the run: each stream in it keeps its promises; DATA frames go
only to started streams; and the DATA frames of every started request carry its body as far as
they go, none for a request without a body. -/
structure WireInv (evs : List Event) (frames : List OutFrame) (t : H2ClientTokioTransport) :
    Prop where
  stream : ∀ sid s, t.conn.state.getStream? sid = some s → Keeps evs frames sid s
  data : ∀ sid, dataFrames sid frames ≠ [] → sid ∈ (starts evs).map Prod.snd
  shape : ∀ id headers hasBody sid, Event.start id headers hasBody sid ∈ evs →
    if hasBody then
      BodyFrames (dataFrames sid frames) (bodyBytes id evs) (Event.body id none ∈ evs)
    else dataFrames sid frames = []

-- ---------------------------------------------------------------------------
-- One step
-- ---------------------------------------------------------------------------

theorem Event.mem_of_not_sink {evs : List Event} {e x : Event} (h : x ∈ evs ++ [e])
    (he : e.isSink = false) (hx : x.isSink = true) : x ∈ evs := by
  rcases List.mem_append.mp h with h | h
  · exact h
  · simp only [List.mem_singleton] at h; subst h; simp_all

theorem Event.mem_starts {evs : List Event} {id : RequestId} {headers : List Header}
    {hasBody : Bool} {sid : StreamId} (hm : Event.start id headers hasBody sid ∈ evs) :
    (id, sid) ∈ starts evs :=
  List.mem_filterMap.mpr ⟨_, hm, rfl⟩

theorem SinkOrder.hasBody_unique {evs : List Event} (h : SinkOrder evs) {id : RequestId}
    {headers headers' : List Header} {hasBody hasBody' : Bool} {sid sid' : StreamId}
    (h₁ : Event.start id headers hasBody sid ∈ evs)
    (h₂ : Event.start id headers' hasBody' sid' ∈ evs) : hasBody = hasBody' := by
  induction h with
  | nil => simp at h₁
  | start _ hid _ ih =>
    simp only [List.mem_append, List.mem_singleton, Event.start.injEq] at h₁ h₂
    rcases h₁ with h₁ | ⟨rfl, -, rfl, -⟩ <;> rcases h₂ with h₂ | ⟨h₂, -, rfl, -⟩
    · exact ih h₁ h₂
    · exact absurd (h₂ ▸ List.mem_map_of_mem Prod.fst (Event.mem_starts h₁)) hid
    · exact absurd (List.mem_map_of_mem Prod.fst (Event.mem_starts h₂)) hid
    · rfl
  | body _ _ _ ih =>
    simp only [List.mem_append, List.mem_singleton, reduceCtorEq, or_false] at h₁ h₂
    exact ih h₁ h₂
  | other _ he _ ih =>
    exact ih (Event.mem_of_not_sink h₁ he rfl) (Event.mem_of_not_sink h₂ he rfl)

section
variable {evs : List Event} {frames : List OutFrame} {t t' : H2ClientTokioTransport}

theorem Keeps.not_sink {frames' : List OutFrame} {sid : StreamId} {s s' : H2Stream} {e : Event}
    (h : Keeps evs frames sid s) (he : e.isSink = false)
    (hsim : ∀ remote id hasBody, Simulates (wireSpec id sid hasBody evs frames) s remote →
      Simulates (wireSpec id sid hasBody evs frames') s' remote) :
    Keeps (evs ++ [e]) frames' sid s' :=
  h.snoc (fun _ _ _ hm => Event.mem_of_not_sink hm he rfl) fun remote id _ hasBody _ hs => by
    rw [wireSpec_snoc he]
    exact hsim remote id hasBody hs

theorem WireInv.init : WireInv [] [] new where
  stream := by simp [new, SessionState.getStream?, SessionState.new]
  data := by simp [dataFrames]
  shape := by simp

theorem WireInv.not_sink (h : WireInv evs frames t) {e : Event} (he : e.isSink = false)
    (hstream : ∀ sid s, t'.conn.state.getStream? sid = some s →
      Keeps (evs ++ [e]) frames sid s) :
    WireInv (evs ++ [e]) frames t' where
  stream := hstream
  data sid hd := by simpa [Event.started_of_not_sink he] using h.data sid hd
  shape id headers hasBody sid hm := by
    have := h.shape id headers hasBody sid (Event.mem_of_not_sink hm he rfl)
    cases e <;> simp_all [Event.isSink, bodyBytes, Event.bodyOf]

theorem WireInv.drop (h : WireInv evs frames t) {e : Event} (he : e.isSink = false)
    (hsub : ∀ sid s, t'.conn.state.getStream? sid = some s →
      t.conn.state.getStream? sid = some s) :
    WireInv (evs ++ [e]) frames t' :=
  h.not_sink he fun sid s hs => (h.stream sid s (hsub sid s hs)).not_sink he fun _ _ _ => id

theorem WireInv.of_dataFrames (h : WireInv evs frames t) {frames' : List OutFrame}
    (hd : ∀ k, dataFrames k frames' = dataFrames k frames) : WireInv evs frames' t where
  stream sid s hs := by
    obtain ⟨remote, hrem, hsim⟩ := h.stream sid s hs
    exact ⟨remote, hrem, fun id headers hasBody hm => by
      simpa only [wireSpec, hd] using hsim id headers hasBody hm⟩
  data sid := by rw [hd]; exact h.data sid
  shape id headers hasBody sid hm := by rw [hd]; exact h.shape id headers hasBody sid hm

theorem dataFrames_reply (k : StreamId) (frame : InboundFrame) :
    dataFrames k frame.reply.toList = [] := by
  unfold InboundFrame.reply; split <;> rfl

theorem WireInv.control (h : WireInv evs frames t) (frame : InboundFrame) :
    WireInv (evs ++ [.control frame]) (frames ++ frame.reply.toList)
      { t with sender := ⟨t.sender.buffer ++ frame.reply.toList⟩ } := by
  refine (h.drop (e := .control frame) rfl ?_).of_dataFrames fun k => ?_
  · exact fun _ _ hk => hk
  · simp [dataFrames_reply]

theorem WireInv.streamEvent (h : WireInv evs frames t) {sid : StreamId} {e : StreamEvent}
    (hp : PeerConforms (evs ++ [.stream sid e])) :
    WireInv (evs ++ [.stream sid e]) frames (t.handleStreamEvent sid e) :=
  h.not_sink rfl fun k s hs => by
    rw [handleStreamEvent_getStream?] at hs
    split at hs
    · subst k
      obtain ⟨s₀, hs₀, rfl⟩ := Option.map_eq_some'.mp hs
      obtain ⟨remote, hrem, hsim⟩ := h.stream sid s₀ hs₀
      have hset : (StreamCall.event e).setsState = false := by
        cases e <;> simp only [StreamCall.setsState]
        exact absurd (List.mem_append_right _ (List.mem_singleton_self _)) (hp.no_reset sid _)
      have hremote : e = .closeRemote → remote = true := by
        rintro rfl
        cases remote
        · have := hp.one_close sid
          have := List.count_pos_iff.mpr (hrem rfl)
          simp only [List.count_append, List.count_singleton_self] at *
          omega
        · rfl
      refine ⟨if e = .closeRemote then false else remote, fun hr => ?_,
        fun id headers hasBody hm => ?_⟩
      · split at hr
        · subst e; exact List.mem_append_right _ (List.mem_singleton_self _)
        · exact List.mem_append_left _ (hrem hr)
      · rw [wireSpec_snoc (e := .stream sid e) rfl]
        exact ((hsim id headers hasBody (Event.mem_of_not_sink hm rfl rfl)).event _ e hset
          hremote).2
    · exact (h.stream k s hs).not_sink rfl fun _ _ _ => id

theorem WireInv.sendData (h : WireInv evs frames t) {en : List RequestId}
    (hmap : MapInv (starts evs) en t) (window : Nat) :
    WireInv (evs ++ [.sendData window]) (frames ++ t.queued (.sendData window))
      (t.sendNextData window).2 := by
  rcases nextDataFrame_cases window t.readyResponses t.conn.state.streams with
    ⟨-, hnd⟩ | ⟨pre, sid, s, rest, hl, -, n, last, hres, hnd⟩
  case inl =>
    rw [queued, hnd, Option.toList_none, List.append_nil]
    exact h.drop (e := .sendData window) rfl fun k s hs => by
      rwa [sendNextData_getStream?, hnd] at hs
  case inr =>
    have hnodup : ((pre ++ (sid, s) :: rest).map Prod.fst).Nodup := hl ▸ t.conn.state.nodup
    have hs : t.conn.state.getStream? sid = some s :=
      (SessionState.mem_streams_iff _ sid s).mp (hl ▸ List.mem_append_right _ (.head _))
    have hget : ∀ k, (t.sendNextData window).2.conn.state.getStream? k =
        if k = sid then some (s.getDataChunk (List.replicate window 0) t.readyResponses).stream
        else t.conn.state.getStream? k := fun k => by
      rw [sendNextData_getStream?, hnd, lookup_middle hnodup, SessionState.getStream?, hl]
    have hother : ∀ k, k ≠ sid → dataFrames k [.data sid
        ((s.getDataChunk (List.replicate window 0) t.readyResponses).buf.take n) last] = [] :=
      fun k hk => by simp [Ne.symm hk]
    rw [queued, hnd, Option.toList_some]
    refine ⟨fun k s' hs' => ?_, fun k hd => ?_, fun id headers hasBody k hm => ?_⟩
    · rw [hget] at hs'
      split at hs'
      · subst k; cases hs'
        exact (h.stream sid s hs).not_sink rfl fun _ _ _ hsim => by
          rw [wireSpec_data]
          exact (hsim.dataFrame hres).1
      · exact (h.stream k s' hs').not_sink rfl fun _ _ _ hsim => by
          rwa [wireSpec_frames (hother k ‹_›)]
    · simp only [starts_append, starts_singleton, Event.started, Option.toList_none,
        List.append_nil]
      by_cases hk : k = sid
      · subst hk; exact List.mem_map.mpr ⟨_, (hmap.stream k s hs).1, rfl⟩
      · exact h.data k (by simpa [hother k hk] using hd)
    · have hm₀ := Event.mem_of_not_sink hm rfl rfl
      have hold := h.shape id headers hasBody k hm₀
      simp only [bodyBytes_append, List.mem_append, List.mem_singleton, reduceCtorEq, or_false]
      rw [show bodyBytes id [.sendData window] = [] from rfl, List.append_nil]
      by_cases hk : k = sid
      · subst hk
        obtain ⟨remote, -, hsim⟩ := h.stream k s hs
        obtain ⟨-, hfin, hpre, hlast⟩ := (hsim id headers hasBody hm₀).dataFrame hres
        simp only [wireSpec, Bool.or_eq_false_iff, Bool.not_eq_false'] at hfin
        obtain ⟨rfl, hopen⟩ := hfin
        simp only [↓reduceIte] at hold ⊢
        rw [dataFrames_append, dataFrames_data, if_pos rfl]
        exact hold.snoc hopen _ last hpre fun hl =>
          ⟨(hlast hl).2, of_decide_eq_true (hlast hl).1⟩
      · simpa [hother k hk] using hold

theorem WireInv.start (h : WireInv evs frames t) {id : RequestId} {headers : List Header}
    {hasBody : Bool} {assigned : StreamId} (hsid : assigned ∉ (starts evs).map Prod.snd)
    (hbody : ∀ chunk, Event.body id chunk ∉ evs) {y : Option TokioResponseFrame}
    (hs : t.step (.start id headers hasBody assigned) = .ok (t', y)) :
    WireInv (evs ++ [.start id headers hasBody assigned])
      (frames ++ t.queued (.start id headers hasBody assigned)) t' := by
  obtain ⟨t'', hst, -, -, -, hget, -⟩ := t.startRequest_spec id headers hasBody assigned
  simp only [step, hst, Except.map, Except.ok.injEq, Prod.mk.injEq] at hs
  obtain ⟨rfl, -⟩ := hs
  have hnew : ∀ id' headers' hasBody', Event.start id' headers' hasBody' assigned ∈
      evs ++ [.start id headers hasBody assigned] → id' = id ∧ hasBody' = hasBody := by
    intro id' headers' hasBody' hm
    rcases List.mem_append.mp hm with hm | hm
    · exact absurd (List.mem_map_of_mem Prod.snd (Event.mem_starts hm)) hsid
    · simp only [List.mem_singleton, Event.start.injEq] at hm
      exact ⟨hm.1, hm.2.2.1⟩
  have hold : ∀ k, k ≠ assigned → ∀ id' headers' hasBody',
      Event.start id' headers' hasBody' k ∈ evs ++ [.start id headers hasBody assigned] →
        Event.start id' headers' hasBody' k ∈ evs := by
    intro k hk id' headers' hasBody' hm
    simpa [hk] using hm
  have hd : dataFrames assigned frames = [] := by
    by_contra hd
    exact hsid (h.data assigned hd)
  rw [queued]
  refine ⟨fun k s hk => ?_, fun k hdk => ?_, fun id' headers' hasBody' k hm => ?_⟩
  · rw [hget] at hk
    split at hk
    · subst k; cases hk
      refine ⟨true, by simp, fun id' headers' hasBody' hm => ?_⟩
      obtain ⟨rfl, rfl⟩ := hnew id' headers' hasBody' hm
      have hinit : wireSpec id' assigned hasBody' evs frames = UploadSpec.init hasBody' := by
        simp [wireSpec, UploadSpec.init, bodyBytes_eq_nil hbody, hd, hbody none]
      rw [wireSpec_start, hinit]
      have hsim := Simulates.prepareRequest t id' headers hasBody'
      exact ⟨hsim.pending, hsim.closing, hsim.finished, hsim.state⟩
    · exact (h.stream k s hk).snoc (hold k ‹_›) fun _ _ _ _ _ hsim => by rwa [wireSpec_start]
  · rw [starts_append, List.map_append]
    exact List.mem_append_left _ (h.data k (by simpa [dataFrames, OutFrame.dataOf] using hdk))
  · rw [dataFrames_append, dataFrames_headers, List.append_nil, bodyBytes_append,
      bodyBytes_singleton]
    simp only [Event.bodyOf, Option.getD_none, List.append_nil, List.mem_append,
      List.mem_singleton, reduceCtorEq, or_false]
    by_cases hk : k = assigned
    · subst hk
      obtain ⟨rfl, rfl⟩ := hnew _ _ _ hm
      rw [bodyBytes_eq_nil hbody, hd]
      split
      · exact ⟨[], none, rfl, List.nil_prefix, by simp⟩
      · rfl
    · exact h.shape _ _ _ _ (hold k hk _ _ _ hm)

theorem WireInv.body (h : WireInv evs frames t) {en : List RequestId}
    (hmap : MapInv (starts evs) en t) (hids : ((starts evs).map Prod.fst).Nodup)
    (hsids : ((starts evs).map Prod.snd).Nodup) {id : RequestId} {chunk : Option HttpRequestBody}
    (hwith : ∀ headers hasBody sid, Event.start id headers hasBody sid ∈ evs → hasBody = true)
    (hend : Event.body id none ∉ evs) {y : Option TokioResponseFrame}
    (hs : t.step (.body id chunk) = .ok (t', y)) :
    WireInv (evs ++ [.body id chunk]) (frames ++ t.queued (.body id chunk)) t' := by
  obtain ⟨hb, -⟩ := step_body hs
  obtain ⟨sid, hl, hcase⟩ := addBodyChunk_call hb t.readyResponses
  have hpair : (id, sid) ∈ starts evs := (hmap.forward id sid).mp hl
  have hsame : ∀ {id' k}, (id', k) ∈ starts evs → (id' = id ↔ k = sid) := fun hm =>
    ⟨by rintro rfl; exact congrArg Prod.snd (List.inj_on_of_nodup_map hids hm hpair rfl),
      by rintro rfl; exact congrArg Prod.fst (List.inj_on_of_nodup_map hsids hm hpair rfl)⟩
  have hstart : ∀ {id' headers' hasBody' k}, Event.start id' headers' hasBody' k ∈
      evs ++ [.body id chunk] → Event.start id' headers' hasBody' k ∈ evs := by
    intro id' headers' hasBody' k hm
    simpa using hm
  -- a stream other than the frame's keeps its promise
  have hkeep : ∀ k s, t.conn.state.getStream? k = some s → k ≠ sid →
      Keeps (evs ++ [.body id chunk]) frames k s := fun k s hk hne =>
    (h.stream k s hk).snoc (fun _ _ _ => hstart) fun _ _ _ _ hm hsim => by
      rwa [wireSpec_body_other (mt (hsame (Event.mem_starts hm)).mp hne)]
  rw [show t.queued (.body id chunk) = [] from rfl, List.append_nil]
  refine ⟨fun k s hk => ?_, fun k hd => ?_, fun id' headers' hasBody' k hm => ?_⟩
  · rcases hcase with ⟨hnone, rfl⟩ | ⟨s₀, hs₀, rfl⟩
    · exact hkeep k s hk fun hk' => by simp [hk', hnone] at hk
    · rw [withStream_getStream?] at hk
      split at hk
      · subst k
        rw [hs₀, Option.map_some'] at hk
        cases hk
        refine (h.stream sid s₀ hs₀).snoc (fun _ _ _ => hstart) fun _ _ _ _ hm hsim => ?_
        obtain rfl := (hsame (Event.mem_starts hm)).mpr rfl
        obtain rfl := hwith _ _ _ hm
        obtain ⟨a', hstep, hsim'⟩ := hsim.call t.readyResponses (bodyCall chunk)
          (by cases chunk <;> rfl) (by cases chunk <;> simp [bodyCall])
        rw [if_neg (by cases chunk <;> simp [bodyCall])] at hsim'
        rwa [← wireSpec_body hend hstep]
      · exact hkeep k s hk ‹_›
  · simpa [Event.started] using h.data k hd
  · have hold := h.shape id' headers' hasBody' k (hstart hm)
    by_cases hid : id' = id
    · subst hid
      obtain rfl := hwith _ _ _ (hstart hm)
      simp only [↓reduceIte] at hold ⊢
      rw [bodyBytes_append]
      exact hold.extend hend _ _
    · rcases chunk with _ | ⟨data⟩ <;>
        simpa [bodyBytes, Event.bodyOf, hid, Ne.symm hid] using hold

theorem WireInv.other (h : WireInv evs frames t) {en : List RequestId}
    (hmap : MapInv (starts evs) en t) {e : Event} (he : e.isSink = false)
    (hp : PeerConforms (evs ++ [e])) {y : Option TokioResponseFrame} (hs : t.step e = .ok (t', y)) :
    WireInv (evs ++ [e]) (frames ++ t.queued e) t' := by
  cases e
  case control frame =>
    obtain ⟨-, -, rfl⟩ := step_control hs
    exact h.control frame
  all_goals simp only [Event.isSink, Bool.true_eq_false, step, Except.ok.injEq,
    Prod.mk.injEq] at he hs <;> obtain ⟨rfl, -⟩ := hs
  case sendData window => exact h.sendData hmap window
  all_goals simp only [queued, List.append_nil]
  case stream sid e => exact h.streamEvent hp
  case reap =>
    refine h.drop rfl fun k s hk => ?_
    rw [handleClosedStreams, SessionState.getStream?_getClosed, Option.filter_eq_some] at hk
    exact hk.1
  all_goals exact h.drop rfl fun k s hk => hk

end

/-- Along every run in the multiplexer's order with a conforming peer, the session keeps its
promises to the frames queued. -/
theorem SinkOrder.wireInv {evs : List Event} (h : SinkOrder evs) (hp : PeerConforms evs) :
    WireInv evs (trace queued new evs) (run new evs).state := by
  induction h with
  | nil => exact WireInv.init
  | @start evs id headers hasBody assigned hso hid hsid ih =>
    obtain ⟨hpanic, hmap⟩ := hso.mapInv
    obtain ⟨t', hs, -⟩ := hmap.start hid hsid headers hasBody
    rw [run_snoc hpanic hs, trace_snoc queued hpanic hs]
    exact (ih hp.of_append).start hsid (fun _ hb => hid (hso.started_of_body hb)) hs
  | @body evs id chunk hso hstart hend ih =>
    obtain ⟨hpanic, hmap⟩ := hso.mapInv
    obtain ⟨t', y, hs⟩ := step_ok_of_run hpanic (SinkOrder.body hso hstart hend).mapInv.1
    rw [run_snoc hpanic hs, trace_snoc queued hpanic hs]
    obtain ⟨headers, assigned, hmem⟩ := hstart
    exact (ih hp.of_append).body hmap hso.ids_nodup hso.sids_nodup
      (fun _ _ _ hm => hso.hasBody_unique hm hmem) hend hs
  | @other evs e hso he hr ih =>
    obtain ⟨hpanic, hmap⟩ := hso.mapInv
    obtain ⟨t', y, hs⟩ := step_ok_of_not_sink (t := (run new evs).state) he hr
    rw [run_snoc hpanic hs, trace_snoc queued hpanic hs]
    exact (ih hp.of_append).other hmap he hp hs

/-- Along every run in which the multiplexer submits frames in its order and the peer neither
resets a stream nor ends one twice, nothing panics, and the DATA frames the socket has taken
for a request with a body carry a front part of the body bytes submitted, in order, with
END_STREAM only on the last, once the body was ended and all of it is out; a request without a
body gets no DATA frame. -/
theorem body_on_wire {evs : List Event} (h : SinkOrder evs) (hp : PeerConforms evs)
    {id : RequestId} {headers : List Header} {hasBody : Bool} {sid : StreamId}
    (hm : Event.start id headers hasBody sid ∈ evs) :
    (run new evs).panic = none ∧
      if hasBody then
        BodyFrames (dataFrames sid (trace written new evs)) (bodyBytes id evs)
          (Event.body id none ∈ evs)
      else dataFrames sid (trace written new evs) = [] := by
  have hw : trace written new evs <+: trace queued new evs :=
    ⟨_, by simpa [new] using run_sender new evs⟩
  have hd := hw.filterMap (OutFrame.dataOf sid)
  have hinv := (h.wireInv hp).shape id headers hasBody sid hm
  refine ⟨h.mapInv.1, ?_⟩
  cases hasBody <;> simp only [Bool.false_eq_true, ↓reduceIte] at hinv ⊢
  · exact List.prefix_nil.mp (hinv ▸ hd)
  · exact hinv.of_prefix hd

/-- Request 1 submits two bytes; one goes out in a one-byte DATA frame and the socket takes the
HEADERS and that frame; then the body ends and the rest is queued with END_STREAM. -/
theorem body_on_wire_split :
    let evs := [Event.start 1 [] true 3, .body 1 (some ⟨[5, 6]⟩), .sendData 1, .write (.ok 2),
      .body 1 none, .sendData 4]
    SinkOrder evs ∧ PeerConforms evs ∧ Event.start 1 [] true 3 ∈ evs ∧
      dataFrames 3 (trace written new evs) = [([5], false)] ∧
      ((run new evs).panic = none ∧
        if true then
          BodyFrames (dataFrames 3 (trace written new evs)) (bodyBytes 1 evs)
            (Event.body 1 none ∈ evs)
        else dataFrames 3 (trace written new evs) = []) :=
  have h₁ : SinkOrder ([] ++ [Event.start 1 [] true 3]) := .start .nil (by decide) (by decide)
  have h₂ : SinkOrder ([Event.start 1 [] true 3] ++ [.body 1 (some ⟨[5, 6]⟩)]) :=
    .body h₁ ⟨[], 3, by decide⟩ (by decide)
  have h₃ : SinkOrder ([Event.start 1 [] true 3, .body 1 (some ⟨[5, 6]⟩)] ++ [.sendData 1]) :=
    .other h₂ rfl (by decide)
  have h₄ : SinkOrder ([Event.start 1 [] true 3, .body 1 (some ⟨[5, 6]⟩), .sendData 1] ++
      [.write (.ok 2)]) := .other h₃ rfl (by decide)
  have h₅ : SinkOrder ([Event.start 1 [] true 3, .body 1 (some ⟨[5, 6]⟩), .sendData 1,
      .write (.ok 2)] ++ [.body 1 none]) := .body h₄ ⟨[], 3, by decide⟩ (by decide)
  have h : SinkOrder ([Event.start 1 [] true 3, .body 1 (some ⟨[5, 6]⟩), .sendData 1,
      .write (.ok 2), .body 1 none] ++ [.sendData 4]) := .other h₅ rfl (by decide)
  have hp : PeerConforms [Event.start 1 [] true 3, .body 1 (some ⟨[5, 6]⟩), .sendData 1,
      .write (.ok 2), .body 1 none, .sendData 4] :=
    ⟨fun _ _ hm => by simp at hm, fun _ => by simp [List.count_cons]⟩
  ⟨h, hp, by decide, by decide, body_on_wire h hp (List.mem_cons_self _ _)⟩

end H2ClientTokioTransport

end TokioSolicit
