import TokioSolicit.Wire

/-!
# What the client sends on each stream

HTTP/2 opens a stream with HEADERS, and once a side has sent END_STREAM it sends no more frames
on the stream. `stream_frames_well_formed`: along every run in which the multiplexer submits
frames in its order and the peer neither resets a stream nor ends one twice, the frames the
transport queues on a stream id no request was started on are none, and on the stream of a
started request they are its one HEADERS frame, with END_STREAM exactly when the request has no
body, followed by DATA frames only, with END_STREAM on no frame but the last. This is said of
every stream id but 0, which carries the connection's acknowledgements of SETTINGS and PING
(`requestFrames` leaves them out). The writer hands the socket these frames in order
(`writer_keeps_order`).

The layout, HEADERS and then DATA (`StreamFrames`), holds along every run in the multiplexer's
order whatever the peer does: `start_request` queues the HEADERS as the stream enters the
session, and `send_next_data` queues DATA only for streams of the session. Where END_STREAM can
stand comes from the shape of each request's DATA frames (`SinkOrder.wireInv`).
-/

namespace TokioSolicit

/-- The stream a queued frame goes out on; the acknowledgements go on stream 0. -/
def OutFrame.streamId : OutFrame → StreamId
  | .headers sid .. | .data sid .. => sid
  | .settingsAck | .pingAck _ => 0

/-- Whether a queued frame carries END_STREAM. -/
def OutFrame.endStream : OutFrame → Bool
  | .headers _ _ endStream | .data _ _ endStream => endStream
  | _ => false

/-- The frames queued on stream `sid`, in order. -/
def framesOn (sid : StreamId) (frames : List OutFrame) : List OutFrame :=
  frames.filter fun f => f.streamId = sid

/-- The frames the transport queues for its requests: all but the connection's
acknowledgements. -/
def requestFrames (frames : List OutFrame) : List OutFrame :=
  frames.filter fun f => !f.isAck

@[simp] theorem framesOn_append (sid : StreamId) (fs gs : List OutFrame) :
    framesOn sid (fs ++ gs) = framesOn sid fs ++ framesOn sid gs :=
  List.filter_append _ _

@[simp] theorem requestFrames_append (fs gs : List OutFrame) :
    requestFrames (fs ++ gs) = requestFrames fs ++ requestFrames gs :=
  List.filter_append _ _

theorem framesOn_requestFrames {sid : StreamId} (h0 : sid ≠ 0) (frames : List OutFrame) :
    framesOn sid (requestFrames frames) = framesOn sid frames := by
  rw [framesOn, requestFrames, List.filter_filter]
  exact List.filter_congr fun f _ => by
    cases f <;> simp [OutFrame.isAck, OutFrame.streamId, Ne.symm h0]

theorem dataFrames_requestFrames (sid : StreamId) (frames : List OutFrame) :
    dataFrames sid (requestFrames frames) = dataFrames sid frames := by
  rw [dataFrames, requestFrames, List.filterMap_filter]
  exact List.filterMap_congr fun f _ => by cases f <;> simp [OutFrame.isAck, OutFrame.dataOf]

theorem dataFrames_framesOn (sid : StreamId) (frames : List OutFrame) :
    dataFrames sid (framesOn sid frames) = dataFrames sid frames := by
  rw [dataFrames, framesOn, List.filterMap_filter]
  refine List.filterMap_congr fun f _ => ?_
  cases f with
  | data k _ _ => by_cases hk : k = sid <;> simp [OutFrame.streamId, OutFrame.dataOf, hk]
  | _ => simp [OutFrame.dataOf]

theorem framesOn_of_data {q : List OutFrame}
    (hq : ∀ f ∈ q, ∃ k payload last, f = .data k payload last) (sid : StreamId) :
    framesOn sid q = (dataFrames sid q).map fun x => .data sid x.1 x.2 := by
  induction q with
  | nil => rfl
  | cons f q ih =>
    obtain ⟨k, payload, last, rfl⟩ := hq _ (.head _)
    rw [← List.singleton_append, framesOn_append, dataFrames_append, List.map_append,
      ih fun f hf => hq f (.tail _ hf)]
    by_cases hk : k = sid <;> simp [framesOn, OutFrame.streamId, dataFrames, OutFrame.dataOf, hk]

@[simp] theorem any_endStream_data (sid : StreamId) (l : List (Bytes × Bool)) :
    (l.map fun x => OutFrame.data sid x.1 x.2).any OutFrame.endStream = l.any Prod.snd := by
  induction l with
  | nil => rfl
  | cons x l ih => simp [OutFrame.endStream, ih]

namespace H2ClientTokioTransport

/-- The layout of the frames queued for requests, stream by stream: none on a stream id no
request was started on; on the stream of a started request its HEADERS, with END_STREAM when it
has no body, and then its DATA frames. -/
def StreamFrames (evs : List Event) (frames : List OutFrame) : Prop :=
  ∀ sid, (sid ∉ (starts evs).map Prod.snd → framesOn sid (requestFrames frames) = []) ∧
    ∀ id headers hasBody, Event.start id headers hasBody sid ∈ evs →
      framesOn sid (requestFrames frames) =
        .headers sid headers (!hasBody) :: (dataFrames sid frames).map fun x => .data sid x.1 x.2

theorem StreamFrames.init : StreamFrames [] [] := fun _ => ⟨fun _ => rfl, by simp⟩

theorem StreamFrames.start {evs : List Event} {frames : List OutFrame} (h : StreamFrames evs frames)
    {id : RequestId} {headers : List Header} {hasBody : Bool} {assigned : StreamId}
    (hsid : assigned ∉ (starts evs).map Prod.snd) :
    StreamFrames (evs ++ [.start id headers hasBody assigned])
      (frames ++ [.headers assigned headers (!hasBody)]) := by
  intro sid
  have hreq : requestFrames [.headers assigned headers (!hasBody)] =
      [.headers assigned headers (!hasBody)] := rfl
  rw [requestFrames_append, hreq]
  by_cases hk : sid = assigned
  · subst hk
    have hnone := (h sid).1 hsid
    have hdata : dataFrames sid frames = [] := by
      rw [← dataFrames_requestFrames, ← dataFrames_framesOn, hnone]; rfl
    refine ⟨fun hn => absurd (by simp [Event.started]) hn, fun id' headers' hasBody' hm => ?_⟩
    rcases List.mem_append.mp hm with hm | hm
    · exact absurd (List.mem_map_of_mem Prod.snd (Event.mem_starts hm)) hsid
    · obtain ⟨rfl, rfl, rfl, -⟩ := Event.start.inj (List.mem_singleton.mp hm)
      rw [framesOn_append, hnone, dataFrames_append, hdata]
      simp [framesOn, OutFrame.streamId]
  · have hon : framesOn sid [.headers assigned headers (!hasBody)] = [] := by
      simp [framesOn, OutFrame.streamId, Ne.symm hk]
    refine ⟨fun hn => ?_, fun id' headers' hasBody' hm => ?_⟩
    · rw [framesOn_append, hon, List.append_nil]
      exact (h sid).1 fun hm => hn (by simpa using Or.inl hm)
    · rcases List.mem_append.mp hm with hm | hm
      · rw [framesOn_append, hon, List.append_nil, dataFrames_append, dataFrames_headers,
          List.append_nil]
        exact (h sid).2 id' headers' hasBody' hm
      · obtain ⟨-, -, -, rfl⟩ := Event.start.inj (List.mem_singleton.mp hm)
        exact absurd rfl hk

theorem StreamFrames.append_data {evs : List Event} {frames q : List OutFrame} {e : Event}
    (h : StreamFrames evs frames) (he : e.started = none)
    (hq : ∀ f ∈ q, f.isAck ∨
      ∃ k payload last, f = .data k payload last ∧ k ∈ (starts evs).map Prod.snd) :
    StreamFrames (evs ++ [e]) (frames ++ q) := by
  have hst : starts (evs ++ [e]) = starts evs := by simp [he]
  have hmem : ∀ {x : Event}, x.started.isSome → x ∈ evs ++ [e] → x ∈ evs := by
    intro x hx hm
    rcases List.mem_append.mp hm with hm | hm
    · exact hm
    · rw [List.mem_singleton.mp hm, he] at hx; cases hx
  -- past the acknowledgements, the event queued DATA frames of started streams
  have hreq : ∀ f ∈ requestFrames q,
      ∃ k payload last, f = .data k payload last ∧ k ∈ (starts evs).map Prod.snd := by
    intro f hf
    obtain ⟨hf, hna⟩ := List.mem_filter.mp hf
    exact (hq f hf).resolve_left fun ha => by simp [ha] at hna
  intro sid
  have hdata : ∀ f ∈ requestFrames q, ∃ k payload last, f = .data k payload last :=
    fun f hf => let ⟨k, payload, last, hfk, _⟩ := hreq f hf; ⟨k, payload, last, hfk⟩
  rw [hst, requestFrames_append, framesOn_append, dataFrames_append, framesOn_of_data hdata,
    dataFrames_requestFrames]
  refine ⟨fun hn => ?_, fun id headers hasBody hm => ?_⟩
  · have hq' : dataFrames sid q = [] := by
      rw [← dataFrames_requestFrames]
      exact List.filterMap_eq_nil_iff.mpr fun f hf => by
        obtain ⟨k, payload, last, rfl, hs⟩ := hreq f hf
        simpa [OutFrame.dataOf] using fun hk : k = sid => hn (hk ▸ hs)
    rw [(h sid).1 hn, hq']; rfl
  · rw [(h sid).2 id headers hasBody (hmem rfl hm)]
    simp

theorem queued_data {t : H2ClientTokioTransport} {e : Event} (he : e.started = none)
    {f : OutFrame} (hf : f ∈ t.queued e) :
    f.isAck ∨ ∃ k payload last, f = .data k payload last ∧
      ∃ s, t.conn.state.getStream? k = some s := by
  rcases mem_queued hf with ⟨_, _, _, _, rfl, -⟩ | h | ⟨_, -, hr⟩
  · simp [Event.started] at he
  · exact .inr h
  · exact .inl (InboundFrame.reply_isAck hr)

/-- Along every run in the multiplexer's order, the frames queued for requests are laid out
stream by stream as `StreamFrames` says, whatever the peer does. -/
theorem SinkOrder.streamFrames {evs : List Event} (h : SinkOrder evs) :
    StreamFrames evs (trace queued new evs) := by
  induction h with
  | nil => exact StreamFrames.init
  | @start evs id headers hasBody assigned hso hid hsid ih =>
    obtain ⟨hpanic, hmap⟩ := hso.mapInv
    obtain ⟨t', hs, -⟩ := hmap.start hid hsid headers hasBody
    rw [trace_snoc queued hpanic hs]
    simpa only [queued, prepareRequest_isClosedLocal] using ih.start hsid
  | @body evs id chunk hso hstart hended ih =>
    obtain ⟨hpanic, -⟩ := hso.mapInv
    obtain ⟨t', y, hs⟩ := step_ok_of_run hpanic (SinkOrder.body hso hstart hended).mapInv.1
    rw [trace_snoc queued hpanic hs]
    exact ih.append_data rfl (by simp [queued])
  | @other evs e hso he hr ih =>
    obtain ⟨hpanic, hmap⟩ := hso.mapInv
    obtain ⟨t', y, hs⟩ := step_ok_of_not_sink (t := (run new evs).state) he hr
    rw [trace_snoc queued hpanic hs]
    refine ih.append_data (Event.started_of_not_sink he) fun f hf => ?_
    rcases queued_data (Event.started_of_not_sink he) hf with
      ha | ⟨k, payload, last, hfk, s, hk⟩
    · exact .inl ha
    · exact .inr ⟨k, payload, last, hfk, List.mem_map_of_mem Prod.snd (hmap.stream k s hk).1⟩

/-- Along every run in which the multiplexer submits frames in its order and the peer neither
resets a stream nor ends one twice, no frame is queued on a stream id other than 0 that no
request was started on, and the frames queued on the stream of a started request are its
HEADERS, with END_STREAM exactly when it has no body, then DATA frames only, with END_STREAM on
no frame but the last. Stream 0 carries the connection's acknowledgements. -/
theorem stream_frames_well_formed {evs : List Event} (h : SinkOrder evs) (hp : PeerConforms evs)
    (sid : StreamId) (h0 : sid ≠ 0) :
    (sid ∉ (starts evs).map Prod.snd → framesOn sid (trace queued new evs) = []) ∧
      ∀ id headers hasBody, Event.start id headers hasBody sid ∈ evs →
        ∃ data : List (Bytes × Bool),
          framesOn sid (trace queued new evs) =
            .headers sid headers (!hasBody) :: data.map (fun x => .data sid x.1 x.2) ∧
          (framesOn sid (trace queued new evs)).dropLast.all fun f => !f.endStream := by
  rw [← framesOn_requestFrames h0]
  refine ⟨(h.streamFrames sid).1, fun id headers hasBody hm => ?_⟩
  have hon := (h.streamFrames sid).2 id headers hasBody hm
  refine ⟨_, hon, ?_⟩
  have hshape := (h.wireInv hp).shape id headers hasBody sid hm
  rw [hon]
  cases hasBody
  · simp only [Bool.false_eq_true, ↓reduceIte] at hshape
    simp [hshape]
  · obtain ⟨chunks, fin, hfr, -⟩ := hshape
    rw [hfr]
    cases fin with
    | none =>
      refine List.all_eq_true.mpr fun f hf => ?_
      have hf' := List.dropLast_subset _ hf
      simp only [Option.toList_none, List.map_nil, List.append_nil, List.map_map, List.mem_cons,
        List.mem_map, Function.comp] at hf'
      rcases hf' with rfl | ⟨x, -, rfl⟩ <;> rfl
    | some last =>
      simp only [Option.toList_some, List.map_cons, List.map_nil, List.map_append, List.map_map]
      rw [← List.cons_append, List.dropLast_concat]
      simp [OutFrame.endStream]

/-- Request 1 on stream 3 submits two bytes and ends its body, and the peer's SETTINGS is
answered on stream 0; with a one-byte and then a four-byte DATA payload stream 3 gets HEADERS
and two DATA frames, END_STREAM on the second. -/
theorem stream_frames_well_formed_upload :
    let evs := [Event.start 1 [] true 3, .body 1 (some ⟨[5, 6]⟩), .control (.settings false),
      .sendData 1, .body 1 none, .sendData 4]
    SinkOrder evs ∧ PeerConforms evs ∧ (3 : StreamId) ≠ 0 ∧
      (3 ∉ (starts evs).map Prod.snd → framesOn 3 (trace queued new evs) = []) ∧
        ∀ id headers hasBody, Event.start id headers hasBody 3 ∈ evs →
          ∃ data : List (Bytes × Bool),
            framesOn 3 (trace queued new evs) =
              .headers 3 headers (!hasBody) :: data.map (fun x => .data 3 x.1 x.2) ∧
            (framesOn 3 (trace queued new evs)).dropLast.all fun f => !f.endStream := by
  intro evs
  have h₁ : SinkOrder ([] ++ [Event.start 1 [] true 3]) := .start .nil (by decide) (by decide)
  have h₂ : SinkOrder ([Event.start 1 [] true 3] ++ [.body 1 (some ⟨[5, 6]⟩)]) :=
    .body h₁ ⟨[], 3, by decide⟩ (by decide)
  have h₃ : SinkOrder ([Event.start 1 [] true 3, .body 1 (some ⟨[5, 6]⟩)] ++
      [.control (.settings false)]) := .other h₂ rfl (by decide)
  have h₄ : SinkOrder ([Event.start 1 [] true 3, .body 1 (some ⟨[5, 6]⟩),
      .control (.settings false), .sendData 1] ++ [.body 1 none]) :=
    .body (.other h₃ rfl (by decide)) ⟨[], 3, by decide⟩ (by decide)
  have h : SinkOrder evs := .other h₄ rfl (by decide)
  have hp : PeerConforms evs := ⟨by simp [evs], fun sid => by simp [evs]⟩
  exact ⟨h, hp, by decide, stream_frames_well_formed h hp 3 (by decide)⟩

end H2ClientTokioTransport

end TokioSolicit
