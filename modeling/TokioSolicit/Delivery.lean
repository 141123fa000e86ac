import TokioSolicit.EndOfBody

/-!
# Every response reaches its request

The response side of the transport: the connection raises the peer's HEADERS, DATA and
END_STREAM as callbacks on the stream they name, each stream pushes what it learns into the
shared buffer under its request's id, and `poll` hands the buffer to Tokio frame by frame.

`response_delivered`: along every run in which the multiplexer submits frames in its order and
the peer keeps to HTTP/2's stream states (`PeerOrder`: it never resets a stream, sends on a
stream only once the client has opened it, and nothing after ending it), the frames of each
started request, those yielded followed by those still buffered, are the peer's HEADERS and DATA
on the request's stream, in order and with nothing lost, duplicated or taken from another
stream, followed by ends of body; there is an end of body exactly when the peer has ended the
stream. How many there are is `endOfBody_at_most_twice`'s business.

The invariant `DeliveryInv` states this of the callback log; `EndInv` supplies what it needs of
the streams' states, and `step_keeps_stream` that a stream leaves the session only closed.

Whatever the peer sends, `responses_for_started` holds: every frame handed to Tokio is for a
request that was started, since every callback is made by a stream of the session, and each
stream's sender is bound to the request that started it.
-/

namespace TokioSolicit

/-- The request a Tokio frame is for. -/
def Frame.requestId {M B : Type} : Frame M B → RequestId
  | .message id .. | .body id _ | .error id _ => id

/-- The response of request `id` as Tokio receives it: the frames for `id`, in order. -/
def responseFrames (id : RequestId) (frames : List TokioResponseFrame) :
    List TokioResponseFrame :=
  frames.filter fun f => f.requestId = id

@[simp] theorem responseFrames_nil (id : RequestId) : responseFrames id [] = [] := rfl

@[simp] theorem responseFrames_append (id : RequestId) (l l' : List TokioResponseFrame) :
    responseFrames id (l ++ l') = responseFrames id l ++ responseFrames id l' := by
  simp [responseFrames]

@[simp] theorem responseFrames_cons (id : RequestId) (f : TokioResponseFrame)
    (l : List TokioResponseFrame) :
    responseFrames id (f :: l) =
      if f.requestId = id then f :: responseFrames id l else responseFrames id l := by
  by_cases h : f.requestId = id <;> simp [responseFrames, h]

theorem responseFrames_of_ends {l : List TokioResponseFrame}
    (hl : ∀ f ∈ l, ∃ i, f = .body i none) (id : RequestId) :
    responseFrames id l = List.replicate (l.count (.body id none)) (.body id none) := by
  induction l with
  | nil => rfl
  | cons f l ih =>
    obtain ⟨i, rfl⟩ := hl f (.head _)
    have hrest := ih fun f hf => hl f (.tail _ hf)
    by_cases h : i = id
    · subst h; simp [Frame.requestId, hrest, List.replicate_succ]
    · simp [Frame.requestId, h, hrest, List.count_cons, Ne.symm h]

/-- The request a callback pushes its frame for. -/
def Raised.id : Raised → RequestId
  | .setHeaders id _ | .newDataChunk id _ | .setState id _ => id

theorem Raised.requestId_of_frame {x : Raised} {f : TokioResponseFrame} (h : x.frame = some f) :
    f.requestId = x.id := by
  cases x with
  | setState id st =>
    simp only [Raised.frame] at h
    split at h <;> cases h
    rfl
  | _ => cases h; rfl

@[simp] theorem H2Stream.raise_id (s : H2Stream) (e : StreamEvent) :
    (s.raise e).id = s.sender.requestId := by
  cases e <;> rfl

namespace H2ClientTokioTransport

@[simp] theorem endsOfBody_singleton (id : RequestId) (x : Raised) :
    endsOfBody id [x] = x.frame.toList.count (.body id none) := by
  simp [endsOfBody]

theorem endsOfBody_eq_count (id : RequestId) (log : List Raised) :
    endsOfBody id log = (responseFrames id (log.filterMap Raised.frame)).count (.body id none) :=
  (List.count_filter (by simp [Frame.requestId])).symm

theorem Raised.frame_setState (id : RequestId) (st : StreamState) :
    ∀ f ∈ (Raised.setState id st).frame.toList, ∃ i, f = .body i none := by
  by_cases h : st.isClosedRemote <;> simp [Raised.frame, h]

theorem sendDataRaised_ends (window : Nat) (r : ResponseChunkReceiver)
    (l : List (StreamId × H2Stream)) :
    ∀ f ∈ (sendDataRaised window r l).filterMap Raised.frame, ∃ i, f = .body i none := by
  induction l generalizing r with
  | nil => simp [sendDataRaised]
  | cons p l ih =>
    obtain ⟨sid, s⟩ := p
    intro f hf
    simp only [sendDataRaised, List.filterMap_append, List.mem_append] at hf
    rcases hf with hf | hf
    · unfold H2Stream.getDataChunkRaised at hf
      split at hf
      · simpa [H2Stream.raise] using Raised.frame_setState _ _ f (by simpa using hf)
      · simp at hf
    · split at hf
      · simp at hf
      · simp at hf
      · exact ih _ f hf

-- ---------------------------------------------------------------------------
-- Frames only for started requests
-- ---------------------------------------------------------------------------

theorem sendDataRaised_id (window : Nat) (r : ResponseChunkReceiver)
    (l : List (StreamId × H2Stream)) :
    ∀ x ∈ sendDataRaised window r l, ∃ p ∈ l, x.id = p.2.sender.requestId := by
  induction l generalizing r with
  | nil => simp [sendDataRaised]
  | cons p l ih =>
    intro x hx
    simp only [sendDataRaised, List.mem_append] at hx
    rcases hx with hx | hx
    · unfold H2Stream.getDataChunkRaised at hx
      split at hx
      · exact ⟨p, .head _, by simp [List.mem_singleton.mp hx]⟩
      · simp at hx
    · split at hx
      · simp at hx
      · simp at hx
      · obtain ⟨q, hq, hid⟩ := ih _ x hx
        exact ⟨q, .tail _ hq, hid⟩

theorem raised_id {t : H2ClientTokioTransport} {e : Event} {x : Raised} (hx : x ∈ t.raised e) :
    (∃ sid s, t.conn.state.getStream? sid = some s ∧ x.id = s.sender.requestId) ∨
      x.id ∈ e.started.toList.map Prod.fst := by
  cases e with
  | start id headers hasBody assigned =>
    refine .inr ?_
    cases hasBody <;> simp [raised, H2Stream.new, ResponseChunkReceiver.getSender] at hx
    simp [hx, Event.started, H2Stream.new, ResponseChunkReceiver.getSender]
  | stream sid e' =>
    simp only [raised] at hx
    split at hx
    · simp at hx
    · exact .inl ⟨sid, _, ‹_›, by simp [List.mem_singleton.mp hx]⟩
  | sendData window =>
    obtain ⟨⟨sid, s⟩, hp, hid⟩ := sendDataRaised_id _ _ _ x hx
    exact .inl ⟨sid, s, (SessionState.mem_streams_iff _ _ _).mp hp, hid⟩
  | _ => simp [raised] at hx

theorem raised_started_snoc {evs : List Event} {log : List Raised} {en : List RequestId}
    {t : H2ClientTokioTransport} (hmap : MapInv (starts evs) en t)
    (h : ∀ x ∈ log, x.id ∈ (starts evs).map Prod.fst) (e : Event) :
    ∀ x ∈ log ++ t.raised e, x.id ∈ (starts (evs ++ [e])).map Prod.fst := by
  intro x hx
  rw [starts_append, List.map_append]
  rcases List.mem_append.mp hx with hx | hx
  · exact List.mem_append_left _ (h x hx)
  · rcases raised_id hx with ⟨sid, s, hk, hid⟩ | hnew
    · exact List.mem_append_left _ (hid ▸ List.mem_map_of_mem Prod.fst (hmap.stream sid s hk).1)
    · exact List.mem_append_right _ (by rwa [starts_singleton])

/-- Along every run in the multiplexer's order, whatever the peer does, every callback is for a
started request. -/
theorem SinkOrder.raised_started {evs : List Event} (h : SinkOrder evs) :
    ∀ x ∈ raisedLog new evs, x.id ∈ (starts evs).map Prod.fst := by
  induction h with
  | nil => simp [raisedLog]
  | @start evs id headers hasBody assigned hso hid hsid ih =>
    obtain ⟨hpanic, hmap⟩ := hso.mapInv
    obtain ⟨t', hs, -⟩ := hmap.start hid hsid headers hasBody
    rw [raisedLog_snoc hpanic hs]
    exact raised_started_snoc hmap ih _
  | @body evs id chunk hso hstart hended ih =>
    obtain ⟨hpanic, hmap⟩ := hso.mapInv
    obtain ⟨t', y, hs⟩ := step_ok_of_run hpanic (SinkOrder.body hso hstart hended).mapInv.1
    rw [raisedLog_snoc hpanic hs]
    exact raised_started_snoc hmap ih _
  | @other evs e hso he hr ih =>
    obtain ⟨hpanic, hmap⟩ := hso.mapInv
    obtain ⟨t', y, hs⟩ := step_ok_of_not_sink (t := (run new evs).state) he hr
    rw [raisedLog_snoc hpanic hs]
    exact raised_started_snoc hmap ih _

/-- Along every run in which the multiplexer submits frames in its order, whatever the peer
sends, every frame yielded to Tokio or still buffered is for a request that was started. -/
theorem responses_for_started {evs : List Event} (h : SinkOrder evs) :
    ∀ f ∈ (run new evs).yielded ++ (run new evs).state.readyResponses.frames,
      f.requestId ∈ (starts evs).map Prod.fst := by
  intro f hf
  rw [run_frames, show new.readyResponses.frames = [] from rfl, List.nil_append] at hf
  obtain ⟨x, hx, hfx⟩ := List.mem_filterMap.mp hf
  rw [Raised.requestId_of_frame hfx]
  exact h.raised_started x hx

/-- The peer answers request 1 with HEADERS and sends a DATA frame on stream 2, which no request
opened: the session has no stream 2, so only request 1 gets a frame. -/
theorem responses_for_started_stray :
    let evs := [Event.start 1 [] false 1, .stream 1 (.setHeaders [⟨[1], [2]⟩]),
      .stream 2 (.newDataChunk [7]), .next]
    SinkOrder evs ∧ ∀ f ∈ (run new evs).yielded ++ (run new evs).state.readyResponses.frames,
      f.requestId ∈ (starts evs).map Prod.fst := by
  intro evs
  have h : SinkOrder evs := by
    show SinkOrder ([Event.start 1 [] false 1] ++ evs.tail)
    exact SinkOrder.append_not_sink (.start .nil (by decide) (by decide))
      (by simp [evs, Event.isSink])
  exact ⟨h, responses_for_started h⟩

/-- The frame the peer's HEADERS or DATA on stream `sid` is to give request `id`. -/
def Event.peerFrame (id : RequestId) (sid : StreamId) : Event → Option TokioResponseFrame
  | .stream k (.setHeaders hs) => if k = sid then some (.message id ⟨hs⟩ true false) else none
  | .stream k (.newDataChunk data) => if k = sid then some (.body id (some ⟨data⟩)) else none
  | _ => none

/-- A peer that keeps to HTTP/2's stream states: it never resets a stream, sends on a stream
only once the client has opened it, and sends nothing on a stream after ending it. -/
structure PeerOrder (evs : List Event) : Prop where
  no_reset : ∀ sid st, Event.stream sid (.setState st) ∉ evs
  opened : ∀ pre sid e, pre ++ [Event.stream sid e] <+: evs → sid ∈ (starts pre).map Prod.snd
  after_end : ∀ pre sid e, pre ++ [Event.stream sid e] <+: evs →
    Event.stream sid .closeRemote ∉ pre

theorem PeerOrder.of_append {evs es : List Event} (h : PeerOrder (evs ++ es)) :
    PeerOrder evs where
  no_reset sid st hm := h.no_reset sid st (List.mem_append_left _ hm)
  opened pre sid e hp := h.opened pre sid e (hp.trans (List.prefix_append _ _))
  after_end pre sid e hp := h.after_end pre sid e (hp.trans (List.prefix_append _ _))

theorem PeerOrder.peerConforms {evs : List Event} (h : PeerOrder evs) : PeerConforms evs where
  no_reset := h.no_reset
  one_close sid := by
    by_contra hc
    obtain ⟨pre, post, rfl⟩ := List.append_of_mem
      (List.count_pos_iff.mp (by omega : 0 < evs.count (.stream sid .closeRemote)))
    rw [List.count_append, List.count_cons_self] at hc
    by_cases hpre : 0 < pre.count (.stream sid .closeRemote)
    · exact h.after_end pre sid .closeRemote ⟨post, by simp⟩ (List.count_pos_iff.mp hpre)
    · obtain ⟨p₁, p₂, rfl⟩ := List.append_of_mem
        (List.count_pos_iff.mp (by omega : 0 < post.count (.stream sid .closeRemote)))
      exact h.after_end (pre ++ .stream sid .closeRemote :: p₁) sid .closeRemote ⟨p₂, by simp⟩
        (by simp)

theorem PeerOrder.snoc {evs : List Event} (h : PeerOrder evs) {e : Event}
    (he : ∀ sid e', e = .stream sid e' →
      sid ∈ (starts evs).map Prod.snd ∧ Event.stream sid .closeRemote ∉ evs ∧
        ∀ st, e' ≠ .setState st) :
    PeerOrder (evs ++ [e]) := by
  have hlast : ∀ pre x, pre ++ [x] <+: evs ++ [e] → pre ++ [x] <+: evs ∨ pre = evs ∧ x = e :=
    fun pre x hp => by
      rcases List.prefix_concat_iff.mp hp with hp | hp
      · exact .inr (List.append_inj' hp rfl |>.imp_right (by simp))
      · exact .inl hp
  refine ⟨fun sid st hm => ?_, fun pre sid e' hp => ?_, fun pre sid e' hp => ?_⟩
  · rcases List.mem_append.mp hm with hm | hm
    · exact h.no_reset sid st hm
    · exact (he sid _ (List.mem_singleton.mp hm).symm).2.2 st rfl
  · rcases hlast pre _ hp with hp | ⟨rfl, rfl⟩
    · exact h.opened pre sid e' hp
    · exact (he sid e' rfl).1
  · rcases hlast pre _ hp with hp | ⟨rfl, rfl⟩
    · exact h.after_end pre sid e' hp
    · exact (he sid e' rfl).2.1

/-- How the callbacks so far stand to the peer's events: a request not started has no frame;
a started request has, for its response, the peer's HEADERS and DATA on its stream followed by
its ends of body, at least one once the peer has ended the stream; and a started stream that
has left the session was ended by the peer. -/
structure DeliveryInv (evs : List Event) (log : List Raised) (t : H2ClientTokioTransport) :
    Prop where
  response : ∀ id sid, (id, sid) ∈ starts evs →
    responseFrames id (log.filterMap Raised.frame) =
      evs.filterMap (Event.peerFrame id sid) ++ List.replicate (endsOfBody id log) (.body id none)
  fresh : ∀ id, id ∉ (starts evs).map Prod.fst →
    responseFrames id (log.filterMap Raised.frame) = []
  ended : ∀ id sid, (id, sid) ∈ starts evs → Event.stream sid .closeRemote ∈ evs →
    0 < endsOfBody id log
  gone : ∀ id sid, (id, sid) ∈ starts evs → t.conn.state.getStream? sid = none →
    Event.stream sid .closeRemote ∈ evs

-- ---------------------------------------------------------------------------
-- One step
-- ---------------------------------------------------------------------------

section
variable {evs : List Event} {log : List Raised} {t t' : H2ClientTokioTransport}

theorem DeliveryInv.init : DeliveryInv [] [] new where
  response := by simp [starts]
  fresh := by simp
  ended := by simp [starts]
  gone := by simp [starts]

theorem EndInv.gone (h : EndInv evs log t) {e : Event} {y : Option TokioResponseFrame}
    (hs : t.step e = .ok (t', y)) {sid : StreamId} (hn : t'.conn.state.getStream? sid = none) :
    t.conn.state.getStream? sid = none ∨ Event.stream sid .closeRemote ∈ evs := by
  cases hk : t.conn.state.getStream? sid with
  | none => exact .inl rfl
  | some s =>
    rcases step_keeps_stream hs hk with hsome | ⟨-, hc⟩
    · simp [hn] at hsome
    · exact .inr ((h.stream sid s hk).2.2 (by simp [(StreamState.isClosed_iff _).mp hc,
        StreamState.isClosedRemote]))

theorem DeliveryInv.extend (h : DeliveryInv evs log t) (hend : EndInv evs log t) {e : Event}
    {y : Option TokioResponseFrame} (hs : t.step e = .ok (t', y)) (he : e.started = none)
    (hpair : ∀ id sid, (id, sid) ∈ starts evs →
      responseFrames id ((t.raised e).filterMap Raised.frame) =
          (e.peerFrame id sid).toList ++
            List.replicate (endsOfBody id (t.raised e)) (.body id none) ∧
        ((e.peerFrame id sid).isSome → endsOfBody id log = 0) ∧
        (e = .stream sid .closeRemote → 0 < endsOfBody id (t.raised e)))
    (hfresh : ∀ id, id ∉ (starts evs).map Prod.fst →
      responseFrames id ((t.raised e).filterMap Raised.frame) = []) :
    DeliveryInv (evs ++ [e]) (log ++ t.raised e) t' := by
  have hst : starts (evs ++ [e]) = starts evs := by simp [he]
  refine ⟨fun id sid hm => ?_, fun id hid => ?_, fun id sid hm hc => ?_,
    fun id sid hm hn => ?_⟩
  · rw [hst] at hm
    obtain ⟨hx, hpeer, -⟩ := hpair id sid hm
    simp only [List.filterMap_append, responseFrames_append]
    rw [h.response id sid hm, hx, endsOfBody_append, List.replicate_add]
    cases hp : e.peerFrame id sid with
    | none => simp [hp]
    | some f => simp [hp, hpeer (by simp [hp])]
  · rw [hst] at hid
    simp [h.fresh id hid, hfresh id hid]
  · rw [hst] at hm
    rw [endsOfBody_append]
    rcases List.mem_append.mp hc with hc | hc
    · have := h.ended id sid hm hc
      omega
    · have := (hpair id sid hm).2.2 (List.mem_singleton.mp hc).symm
      omega
  · rw [hst] at hm
    rcases hend.gone hs hn with hn | hc
    · exact List.mem_append_left _ (h.gone id sid hm hn)
    · exact List.mem_append_left _ hc

theorem DeliveryInv.ends (h : DeliveryInv evs log t) (hend : EndInv evs log t) {e : Event}
    {y : Option TokioResponseFrame} (hs : t.step e = .ok (t', y)) (he : e.started = none)
    (hpeer : ∀ sid e', e ≠ .stream sid e')
    (hx : ∀ f ∈ (t.raised e).filterMap Raised.frame, ∃ i, f = .body i none)
    (hend' : EndInv (evs ++ [e]) (log ++ t.raised e) t') :
    DeliveryInv (evs ++ [e]) (log ++ t.raised e) t' := by
  have hnone : ∀ id sid, e.peerFrame id sid = none := fun id sid => by
    cases e with
    | stream k e' => exact absurd rfl (hpeer k e')
    | _ => rfl
  refine h.extend hend hs he (fun id sid _ => ⟨?_, by simp [hnone], fun he' => ?_⟩)
    fun id hid => ?_
  · rw [responseFrames_of_ends hx, hnone]; rfl
  · exact absurd he' (hpeer _ _)
  · have := hend'.fresh id (by simpa [he] using hid)
    rw [endsOfBody_append] at this
    rw [responseFrames_of_ends hx]
    exact (List.replicate_eq_nil_iff _).mpr (by omega : endsOfBody id (t.raised e) = 0)

theorem DeliveryInv.start (h : DeliveryInv evs log t) {id : RequestId} {headers : List Header}
    {hasBody : Bool} {sid : StreamId} (hid : id ∉ (starts evs).map Prod.fst)
    (hsid : sid ∉ (starts evs).map Prod.snd) (ho : PeerOrder evs) {y : Option TokioResponseFrame}
    (hs : t.step (.start id headers hasBody sid) = .ok (t', y)) :
    DeliveryInv (evs ++ [.start id headers hasBody sid])
      (log ++ t.raised (.start id headers hasBody sid)) t' := by
  have hF : (log ++ t.raised (.start id headers hasBody sid)).filterMap Raised.frame =
      log.filterMap Raised.frame := by
    cases hasBody <;> simp [raised, H2Stream.raise, Raised.frame, H2Stream.new,
      StreamState.closeLocal, StreamState.isClosedRemote]
  have hends : ∀ id', endsOfBody id' (log ++ t.raised (.start id headers hasBody sid)) =
      endsOfBody id' log := fun id' => by rw [endsOfBody, hF, ← endsOfBody]
  -- the peer has sent nothing on the new stream
  have hsilent : ∀ e, Event.stream sid e ∉ evs := fun e hm => by
    obtain ⟨pre, post, rfl⟩ := List.append_of_mem hm
    exact hsid (by simpa using Or.inl (ho.opened pre sid e ⟨post, by simp⟩))
  have hnew : responseFrames id (log.filterMap Raised.frame) = [] := h.fresh id hid
  have hmem : ∀ {id' sid'}, (id', sid') ∈ starts (evs ++ [.start id headers hasBody sid]) →
      (id', sid') ∈ starts evs ∨ id' = id ∧ sid' = sid := by
    simp [Event.started]
  refine ⟨fun id' sid' hm => ?_, fun id' hid' => ?_, fun id' sid' hm hc => ?_,
    fun id' sid' hm hn => ?_⟩
  · rw [hF, hends, List.filterMap_append]
    rcases hmem hm with hm | ⟨rfl, rfl⟩
    · simp [h.response id' sid' hm, Event.peerFrame]
    · rw [hnew, endsOfBody_eq_count, hnew, List.filterMap_eq_nil_iff.mpr fun e he => ?_]
      · rfl
      · cases e with
        | stream k e' =>
          cases e' <;> simp only [Event.peerFrame, ite_eq_right_iff, reduceCtorEq] <;>
            rintro rfl <;> exact hsilent _ he
        | _ => rfl
  · rw [hF]
    exact h.fresh id' fun hx => hid' (by simp [hx])
  · simp only [List.mem_append, List.mem_singleton, reduceCtorEq, or_false] at hc
    rcases hmem hm with hm | ⟨-, rfl⟩
    · rw [hends]; exact h.ended id' sid' hm hc
    · exact absurd hc (hsilent _)
  · rw [step_start_getStream? hs] at hn
    rcases hmem hm with hm | ⟨-, rfl⟩
    · have hne : sid' ≠ sid := fun he => hsid (he ▸ List.mem_map_of_mem Prod.snd hm)
      rw [if_neg hne] at hn
      exact List.mem_append_left _ (h.gone id' sid' hm hn)
    · simp at hn

theorem DeliveryInv.streamEvent (h : DeliveryInv evs log t) (hend : EndInv evs log t)
    {en : List RequestId} (hmap : MapInv (starts evs) en t)
    (hids : ((starts evs).map Prod.fst).Nodup) (hsids : ((starts evs).map Prod.snd).Nodup)
    {k : StreamId} {e : StreamEvent} (ho : PeerOrder (evs ++ [.stream k e])) :
    DeliveryInv (evs ++ [.stream k e]) (log ++ t.raised (.stream k e))
      (t.handleStreamEvent k e) := by
  have hopen := ho.opened evs k e (List.prefix_refl _)
  have hlive := ho.after_end evs k e (List.prefix_refl _)
  have hreset : ∀ st, e ≠ .setState st := fun st he =>
    ho.no_reset k st (he ▸ List.mem_append_right _ (List.mem_singleton_self _))
  obtain ⟨⟨id₀, k'⟩, hm₀, rfl⟩ := List.mem_map.mp hopen
  cases hk : t.conn.state.getStream? k' with
  | none => exact absurd (h.gone id₀ k' hm₀ hk) hlive
  | some s =>
    have hreq : s.sender.requestId = id₀ := hmap.requestId hsids hm₀ hk
    have hzero : endsOfBody id₀ log = 0 := by
      refine hreq ▸ (hend.stream k' s hk).1 ?_
      cases hc : s.state.isClosedRemote
      · rfl
      · exact absurd ((hend.stream k' s hk).2.2 hc) hlive
    -- on stream ids of started requests, the stream id decides the request
    have hsame : ∀ {id sid}, (id, sid) ∈ starts evs → (id = id₀ ↔ sid = k') := fun hm =>
      ⟨by rintro rfl; exact congrArg Prod.snd (List.inj_on_of_nodup_map hids hm hm₀ rfl),
        by rintro rfl; exact congrArg Prod.fst (List.inj_on_of_nodup_map hsids hm hm₀ rfl)⟩
    refine h.extend hend rfl rfl (fun id sid hm => ?_) fun id hid => ?_
    · by_cases hsid : sid = k'
      · subst hsid
        obtain rfl := (hsame hm).mpr rfl
        cases e with
        | setState st => exact absurd rfl (hreset st)
        | _ => simp [raised, hk, H2Stream.raise, Raised.frame, Event.peerFrame, Frame.requestId,
            hreq, hzero]
      · have hid : id₀ ≠ id := fun he => hsid ((hsame hm).mp he.symm)
        cases e with
        | setState st => exact absurd rfl (hreset st)
        | _ => simp [raised, hk, H2Stream.raise, Raised.frame, Event.peerFrame, Frame.requestId,
            hreq, hid, Ne.symm hsid, List.count_cons]
    · have hne : id₀ ≠ id := fun he => hid (he ▸ List.mem_map_of_mem Prod.fst hm₀)
      cases e with
      | setState st => exact absurd rfl (hreset st)
      | _ => simp [raised, hk, H2Stream.raise, Raised.frame, Frame.requestId, hreq, hne]

theorem DeliveryInv.snoc (h : DeliveryInv evs log t) (hend : EndInv evs log t)
    {en : List RequestId} (hmap : MapInv (starts evs) en t)
    (hids : ((starts evs).map Prod.fst).Nodup) (hsids : ((starts evs).map Prod.snd).Nodup)
    {e : Event} (he : e.started = none) (ho : PeerOrder (evs ++ [e]))
    {y : Option TokioResponseFrame} (hs : t.step e = .ok (t', y)) :
    DeliveryInv (evs ++ [e]) (log ++ t.raised e) t' := by
  cases e with
  | start => simp [Event.started] at he
  | stream k e =>
    obtain ⟨rfl, -⟩ := Prod.mk.inj (Except.ok.inj hs)
    exact h.streamEvent hend hmap hids hsids ho
  | sendData window =>
    exact h.ends hend hs rfl (fun _ _ => by simp) (sendDataRaised_ends _ _ _)
      (hend.snoc hmap hids rfl ho.peerConforms hs)
  | _ =>
    exact h.ends hend hs rfl (fun _ _ => by simp) (by simp [raised])
      (hend.snoc hmap hids rfl ho.peerConforms hs)

end

/-- Along every run in the multiplexer's order with a peer that keeps to the stream states, the
callbacks stand to the peer's events as `DeliveryInv` says. -/
theorem SinkOrder.deliveryInv {evs : List Event} (h : SinkOrder evs) (ho : PeerOrder evs) :
    DeliveryInv evs (raisedLog new evs) (run new evs).state := by
  induction h with
  | nil => exact DeliveryInv.init
  | @start evs id headers hasBody assigned hso hid hsid ih =>
    obtain ⟨hpanic, hmap⟩ := hso.mapInv
    obtain ⟨t', hs, -⟩ := hmap.start hid hsid headers hasBody
    rw [run_snoc hpanic hs, raisedLog_snoc hpanic hs]
    exact (ih ho.of_append).start hid hsid ho.of_append hs
  | @body evs id chunk hso hstart hended ih =>
    obtain ⟨hpanic, hmap⟩ := hso.mapInv
    obtain ⟨t', y, hs⟩ := step_ok_of_run hpanic (SinkOrder.body hso hstart hended).mapInv.1
    rw [run_snoc hpanic hs, raisedLog_snoc hpanic hs]
    exact (ih ho.of_append).snoc (hso.endInv ho.of_append.peerConforms) hmap hso.ids_nodup
      hso.sids_nodup rfl ho hs
  | @other evs e hso he hr ih =>
    obtain ⟨hpanic, hmap⟩ := hso.mapInv
    obtain ⟨t', y, hs⟩ := step_ok_of_not_sink (t := (run new evs).state) he hr
    rw [run_snoc hpanic hs, raisedLog_snoc hpanic hs]
    exact (ih ho.of_append).snoc (hso.endInv ho.of_append.peerConforms) hmap hso.ids_nodup
      hso.sids_nodup (Event.started_of_not_sink he) ho hs

/-- Along every run in which the multiplexer submits frames in its order and the peer keeps to
the stream states, the frames of a started request, yielded and still buffered, are the peer's
HEADERS and DATA on the request's stream, in order, followed by ends of body, of which there is
one at least exactly when the peer has ended the stream. -/
theorem response_delivered {evs : List Event} (h : SinkOrder evs) (ho : PeerOrder evs)
    {id : RequestId} {headers : List Header} {hasBody : Bool} {sid : StreamId}
    (hm : Event.start id headers hasBody sid ∈ evs) :
    ∃ k, responseFrames id ((run new evs).yielded ++ (run new evs).state.readyResponses.frames) =
        evs.filterMap (Event.peerFrame id sid) ++ List.replicate k (.body id none) ∧
      (0 < k ↔ Event.stream sid .closeRemote ∈ evs) := by
  have hpair := Event.mem_starts hm
  have hinv := h.deliveryInv ho
  have hend := h.endInv ho.peerConforms
  have hf := run_frames new evs
  rw [show new.readyResponses.frames = [] from rfl, List.nil_append] at hf
  refine ⟨endsOfBody id (raisedLog new evs), by rw [hf, hinv.response id sid hpair],
    fun hpos => ?_, hinv.ended id sid hpair⟩
  -- an end of body is raised only once the peer has ended the stream
  cases hk : (run new evs).state.conn.state.getStream? sid with
  | none => exact hinv.gone id sid hpair hk
  | some s =>
    have hreq := h.mapInv.2.requestId h.sids_nodup hpair hk
    cases hc : s.state.isClosedRemote
    · have := (hend.stream sid s hk).1 hc
      rw [hreq] at this
      omega
    · exact (hend.stream sid s hk).2.2 hc

/-- The peer answers request 1, sent without a body, with HEADERS, one DATA frame and
END_STREAM, and two polls take two of the three frames: the three are the peer's two and one
end of body. -/
theorem response_delivered_served :
    let evs := [Event.start 1 [] false 1, .stream 1 (.setHeaders [⟨[1], [2]⟩]),
      .stream 1 (.newDataChunk [7]), .stream 1 .closeRemote, .next, .next]
    SinkOrder evs ∧ PeerOrder evs ∧ Event.start 1 [] false 1 ∈ evs ∧
      ∃ k, responseFrames 1 ((run new evs).yielded ++ (run new evs).state.readyResponses.frames) =
          evs.filterMap (Event.peerFrame 1 1) ++ List.replicate k (.body 1 none) ∧
        (0 < k ↔ Event.stream 1 .closeRemote ∈ evs) := by
  intro evs
  have h : SinkOrder evs := by
    show SinkOrder ([Event.start 1 [] false 1] ++ evs.tail)
    exact SinkOrder.append_not_sink (.start .nil (by decide) (by decide))
      (by simp [evs, Event.isSink])
  have hopen : ∀ (pre : List Event) (e : StreamEvent), Event.start 1 [] false 1 ∈ pre →
      Event.stream 1 .closeRemote ∉ pre → e ≠ .closeRemote → (∀ st, e ≠ .setState st) →
      ∀ sid e', Event.stream 1 e = .stream sid e' →
        sid ∈ (starts pre).map Prod.snd ∧ Event.stream sid .closeRemote ∉ pre ∧
          ∀ st, e' ≠ .setState st := by
    rintro pre e hs hc - hr sid e' ⟨⟩
    exact ⟨List.mem_map_of_mem Prod.snd (Event.mem_starts hs), hc, hr⟩
  have o₀ : PeerOrder [] := ⟨by simp, by simp, by simp⟩
  have o₁ : PeerOrder [Event.start 1 [] false 1] :=
    o₀.snoc (e := .start 1 [] false 1) fun _ _ h => nomatch h
  have o₄ : PeerOrder [Event.start 1 [] false 1, .stream 1 (.setHeaders [⟨[1], [2]⟩]),
      .stream 1 (.newDataChunk [7]), .stream 1 .closeRemote] :=
    ((o₁.snoc (hopen _ _ (by simp) (by simp) (by simp) (by simp))).snoc
      (hopen _ _ (by simp) (by simp) (by simp) (by simp))).snoc
      fun sid e' he => by cases he; exact ⟨by decide, by decide, by simp⟩
  have ho : PeerOrder evs :=
    (o₄.snoc (e := .next) fun _ _ h => nomatch h).snoc (e := .next) fun _ _ h => nomatch h
  exact ⟨h, ho, .head _, response_delivered h ho (.head _)⟩

end H2ClientTokioTransport

end TokioSolicit
