import TokioSolicit.Wire

/-!
# The API calls as runs

`run_callEvents` shows that the events of a sequence of calls of `start_send`, `poll` and
`poll_complete` make a run that yields what the calls yield and panics as they panic. Here the
conditions the laws of runs assume are read off the calls themselves: the multiplexer's order
on the frames handed to `start_send` (`SendOrder`), a peer whose frames the connection accepts,
and a peer that resets no stream and ends each at most once (`PeerSends`).

`drive_run` puts these together. Under these conditions the events of the calls are a run in
the multiplexer's order with a conforming peer (`SinkOrder`, `PeerConforms`), so every law
proved of such runs holds of the API.
-/

namespace TokioSolicit

/-- Whether a frame the peer sends ends stream `sid`. -/
def InboundFrame.endsStream (sid : StreamId) : InboundFrame → Bool
  | .headers k _ true | .data k _ true => k = sid
  | _ => false

/-- A peer, as the frames it sends show it: it resets no stream and ends each at most once. -/
structure PeerSends (frames : List InboundFrame) : Prop where
  no_reset : ∀ sid, InboundFrame.rstStream sid ∉ frames
  one_end : ∀ sid, (frames.filter (·.endsStream sid)).length ≤ 1

namespace H2ClientTokioTransport

/-- The frames the `start_send` calls submit, each with the stream id the connection assigns. -/
def submitted : List Call → List (RequestFrame × StreamId)
  | [] => []
  | .startSend item assigned :: cs => (item, assigned) :: submitted cs
  | _ :: cs => submitted cs

/-- The frames the `poll` calls read off the socket. -/
def received : List Call → List InboundFrame
  | [] => []
  | .poll (.frames frames) _ :: cs => frames ++ received cs
  | _ :: cs => received cs

/-- The requests submitted frames start, each with its stream id. -/
def messageStarts (items : List (RequestFrame × StreamId)) : List (RequestId × StreamId) :=
  items.filterMap fun p =>
    match p.1 with
    | .message id .. => some (id, p.2)
    | _ => none

/-- The multiplexer's order on the frames it submits, with the stream ids the connection
assigns: each request id is started once, on a stream id not assigned before; a body chunk comes
after the message of its request with a body, and never after the chunk that ends that body. -/
inductive SendOrder : List (RequestFrame × StreamId) → Prop
  | nil : SendOrder []
  | message {items : List (RequestFrame × StreamId)} {id : RequestId}
      {m : HttpRequestHeaders} {hasBody solo : Bool} {assigned : StreamId} :
      SendOrder items → id ∉ (messageStarts items).map Prod.fst →
      assigned ∉ (messageStarts items).map Prod.snd →
      SendOrder (items ++ [(.message id m hasBody solo, assigned)])
  | body {items : List (RequestFrame × StreamId)} {id : RequestId}
      {chunk : Option HttpRequestBody} {assigned : StreamId} : SendOrder items →
      (∃ m solo a, (.message id m true solo, a) ∈ items) →
      (∀ a, (.body id none, a) ∉ items) → SendOrder (items ++ [(.body id chunk, assigned)])
  | error {items : List (RequestFrame × StreamId)} {id : RequestId} {e : IoError}
      {assigned : StreamId} : SendOrder items → SendOrder (items ++ [(.error id e, assigned)])

/-- The events of submitted frames, in order. -/
def sendEvents (items : List (RequestFrame × StreamId)) : List Event :=
  items.flatMap fun p => startSendEvents p.1 p.2

@[simp] theorem sendEvents_append (items items' : List (RequestFrame × StreamId)) :
    sendEvents (items ++ items') = sendEvents items ++ sendEvents items' :=
  List.flatMap_append _ _ _

theorem starts_sendEvents (items : List (RequestFrame × StreamId)) :
    starts (sendEvents items) = messageStarts items := by
  induction items with
  | nil => rfl
  | cons p items ih =>
    obtain ⟨item, a⟩ := p
    rw [← List.singleton_append, sendEvents_append, starts_append, ih]
    cases item <;> simp [sendEvents, startSendEvents, messageStarts, Event.started, starts]

theorem mem_sendEvents {items : List (RequestFrame × StreamId)} {e : Event} :
    e ∈ sendEvents items ↔ ∃ p ∈ items, e ∈ startSendEvents p.1 p.2 := by
  simp [sendEvents]

/-- The events of frames submitted in the multiplexer's order are in its order. -/
theorem SendOrder.sinkOrder {items : List (RequestFrame × StreamId)} (h : SendOrder items) :
    SinkOrder (sendEvents items) := by
  induction h with
  | nil => exact .nil
  | @message items id m hasBody solo assigned _ hid hsid ih =>
    have hs : SinkOrder (sendEvents items ++ [.start id m.headers hasBody assigned]) :=
      .start ih (by rwa [starts_sendEvents]) (by rwa [starts_sendEvents])
    rw [sendEvents_append]
    exact hs
  | @body items id chunk assigned _ hmsg hend ih =>
    obtain ⟨m, solo, a, hm⟩ := hmsg
    have hnone : Event.body id none ∉ sendEvents items := fun hb => by
      obtain ⟨⟨item, a⟩, hp, he⟩ := mem_sendEvents.mp hb
      cases item <;> simp [startSendEvents] at he
      obtain ⟨rfl, rfl⟩ := he
      exact hend a hp
    rw [sendEvents_append]
    exact .body ih ⟨m.headers, a, mem_sendEvents.mpr ⟨_, hm, by simp [startSendEvents]⟩⟩
      hnone
  | error _ ih => simpa [sendEvents, startSendEvents] using ih

-- ---------------------------------------------------------------------------
-- The multiplexer's order on runs, read off the sink frames
-- ---------------------------------------------------------------------------

theorem SinkOrder.snoc_inv {evs : List Event} {e : Event} (h : SinkOrder (evs ++ [e])) :
    SinkOrder evs ∧
      (∀ id headers hasBody assigned, e = .start id headers hasBody assigned →
        id ∉ (starts evs).map Prod.fst ∧ assigned ∉ (starts evs).map Prod.snd) ∧
      (∀ id chunk, e = .body id chunk →
        (∃ headers assigned, Event.start id headers true assigned ∈ evs) ∧
          Event.body id none ∉ evs) := by
  generalize hl : evs ++ [e] = l at h
  cases h with
  | nil => simp at hl
  | start hso hid hsid =>
    obtain ⟨rfl, he⟩ := List.append_inj' hl rfl
    obtain rfl := List.singleton_inj.mp he
    exact ⟨hso, fun _ _ _ _ h => by cases h; exact ⟨hid, hsid⟩, fun _ _ h => by cases h⟩
  | body hso hstart hend =>
    obtain ⟨rfl, he⟩ := List.append_inj' hl rfl
    obtain rfl := List.singleton_inj.mp he
    exact ⟨hso, fun _ _ _ _ h => (by cases h),
      fun _ _ h => by cases h; exact ⟨hstart, hend⟩⟩
  | other hso he' _ =>
    obtain ⟨rfl, he⟩ := List.append_inj' hl rfl
    obtain rfl := List.singleton_inj.mp he
    exact ⟨hso, fun _ _ _ _ h => by simp [h, Event.isSink] at he',
      fun _ _ h => by simp [h, Event.isSink] at he'⟩

theorem SinkOrder.of_prefix {evs evs' : List Event} (h : SinkOrder evs') (hp : evs <+: evs') :
    SinkOrder evs := by
  obtain ⟨es, rfl⟩ := hp
  induction es using List.reverseRecOn with
  | nil => simpa using h
  | append_singleton es e ih =>
    rw [← List.append_assoc] at h
    exact ih (SinkOrder.snoc_inv h).1

theorem starts_filter_isSink (evs : List Event) :
    starts (evs.filter (·.isSink)) = starts evs := by
  induction evs with
  | nil => rfl
  | cons e evs ih =>
    cases e <;> simp_all [List.filter_cons, starts, Event.isSink, Event.started]

/-- A run is in the multiplexer's order when its sink frames are and the connection rejects none
of its frames: the other events interleave freely. -/
theorem SinkOrder.of_filter {evs : List Event} (h : SinkOrder (evs.filter (·.isSink)))
    (hr : ∀ e ∈ evs, e ≠ .control .invalid) : SinkOrder evs := by
  induction evs using List.reverseRecOn with
  | nil => exact .nil
  | append_singleton evs e ih =>
    have hr₀ : ∀ e ∈ evs, e ≠ .control .invalid :=
      fun e he => hr e (List.mem_append_left _ he)
    rw [List.filter_append] at h
    cases hs : e.isSink
    · simp only [hs, List.filter_cons_of_neg, Bool.false_eq_true, not_false_eq_true,
        List.filter_nil, List.append_nil] at h
      exact .other (ih h hr₀) hs (hr e (by simp))
    · simp only [List.filter_cons_of_pos hs, List.filter_nil] at h
      obtain ⟨hso, hstart, hbody⟩ := SinkOrder.snoc_inv h
      have hmem : ∀ x : Event, x.isSink → (x ∈ evs.filter (·.isSink) ↔ x ∈ evs) :=
        fun _ hx => by simp [hx]
      cases e with
      | start id headers hasBody assigned =>
        obtain ⟨hid, hsid⟩ := hstart id headers hasBody assigned rfl
        rw [starts_filter_isSink] at hid hsid
        exact .start (ih hso hr₀) hid hsid
      | body id chunk =>
        obtain ⟨⟨headers, assigned, hm⟩, hend⟩ := hbody id chunk rfl
        exact .body (ih hso hr₀)
          ⟨headers, assigned, (hmem (.start id headers true assigned) rfl).mp hm⟩
          fun hb => hend ((hmem (.body id none) rfl).mpr hb)
      | _ => simp [Event.isSink] at hs

-- ---------------------------------------------------------------------------
-- The events of the calls
-- ---------------------------------------------------------------------------

/-- Whether an event comes from a frame the peer sent. -/
def Event.fromPeer : Event → Bool
  | .stream .. | .control _ => true
  | _ => false

@[simp] theorem frameEvents_append (fs gs : List InboundFrame) :
    frameEvents (fs ++ gs) = frameEvents fs ++ frameEvents gs :=
  List.flatMap_append _ _ _

theorem mem_frameEvents {frames : List InboundFrame} {e : Event} (he : e ∈ frameEvents frames) :
    ∃ f ∈ frames, (∃ k ∈ f.events, e = .stream k.1 k.2) ∨ e = .control f := by
  obtain ⟨f, hf, he⟩ := List.mem_flatMap.mp he
  simp only [List.mem_append, List.mem_map, List.mem_singleton] at he
  exact ⟨f, hf, he.imp (fun ⟨k, hk, h⟩ => ⟨k, hk, h.symm⟩) id⟩

theorem frameEvents_fromPeer {frames : List InboundFrame} {e : Event}
    (he : e ∈ frameEvents frames) : e.fromPeer := by
  obtain ⟨f, -, ⟨_, -, rfl⟩ | rfl⟩ := mem_frameEvents he <;> rfl

theorem frameEvents_isSink {frames : List InboundFrame} {e : Event}
    (he : e ∈ frameEvents frames) : e.isSink = false := by
  obtain ⟨f, -, ⟨_, -, rfl⟩ | rfl⟩ := mem_frameEvents he <;> rfl

theorem InboundFrame.eq_rstStream_of_mem_events {f : InboundFrame} {sid : StreamId}
    {st : StreamState} (h : (sid, StreamEvent.setState st) ∈ f.events) : f = .rstStream sid := by
  cases f with
  | headers k hs es | data k payload es => cases es <;> simp [InboundFrame.events] at h
  | rstStream k => simp_all [InboundFrame.events]
  | _ => simp [InboundFrame.events] at h

theorem mem_pollEvents {t : H2ClientTokioTransport} {read : ReadResult} {write : WriteResult}
    {e : Event} (he : e ∈ t.pollEvents read write) :
    (∃ frames, read = .frames frames ∧ e ∈ frameEvents frames) ∨
      e = .reap ∨ e = .write write ∨ e = .next := by
  unfold pollEvents at he
  split at he
  · simp at he
  · simp_all
  · simp only [List.mem_append, List.mem_cons, List.mem_singleton, List.not_mem_nil,
      or_false] at he
    rcases he with (he | he | he) | he
    · exact .inl ⟨_, rfl, he⟩
    · exact .inr (.inl he)
    · exact .inr (.inr (.inl he))
    · repeat' split at he
      all_goals simp_all

theorem eventsOf_filter_isSink (t : H2ClientTokioTransport) (c : Call) :
    (t.eventsOf c).filter (·.isSink) =
      match c with
      | .startSend item assigned => startSendEvents item assigned
      | _ => [] := by
  cases c with
  | startSend item assigned =>
    cases item <;> simp [eventsOf, startSendEvents, Event.isSink]
  | poll read write =>
    refine List.filter_eq_nil_iff.mpr fun e he => ?_
    rcases mem_pollEvents he with ⟨_, -, he⟩ | rfl | rfl | rfl
    · simp [frameEvents_isSink he]
    all_goals simp [Event.isSink]
  | pollComplete flush window write =>
    refine List.filter_eq_nil_iff.mpr fun e he => ?_
    rcases mem_pollCompleteEvents he with rfl | rfl | rfl <;> simp [Event.isSink]

theorem eventsOf_filter_fromPeer (t : H2ClientTokioTransport) (c : Call) :
    (t.eventsOf c).filter (·.fromPeer) =
      match c with
      | .poll (.frames frames) _ => frameEvents frames
      | _ => [] := by
  cases c with
  | startSend item assigned =>
    cases item <;> simp [eventsOf, startSendEvents, Event.fromPeer]
  | poll read write =>
    cases read with
    | frames frames =>
      simp only [eventsOf, pollEvents, List.filter_append]
      rw [List.filter_eq_self.mpr fun e he => frameEvents_fromPeer he]
      split <;> (try split) <;> simp [Event.fromPeer]
    | _ => simp [eventsOf, pollEvents, Event.fromPeer]
  | pollComplete flush window write =>
    refine List.filter_eq_nil_iff.mpr fun e he => ?_
    rcases mem_pollCompleteEvents he with rfl | rfl | rfl <;> simp [Event.fromPeer]

theorem callEvents_filter_prefix (p : Event → Bool) (g : Call → List Event)
    (hg : ∀ (t : H2ClientTokioTransport) c, (t.eventsOf c).filter p = g c)
    (t : H2ClientTokioTransport) (calls : List Call) :
    (callEvents t calls).filter p <+: calls.flatMap g := by
  induction calls generalizing t with
  | nil => exact List.prefix_refl _
  | cons c cs ih =>
    simp only [callEvents, List.filter_append, hg, List.flatMap_cons]
    rw [List.prefix_append_right_inj]
    split
    · exact List.nil_prefix
    · exact ih _

theorem flatMap_startSend (calls : List Call) :
    (calls.flatMap fun c => match c with
      | .startSend item assigned => startSendEvents item assigned
      | _ => []) = sendEvents (submitted calls) := by
  induction calls with
  | nil => rfl
  | cons c cs ih => cases c <;> simp [submitted, ih, sendEvents]

theorem flatMap_poll (calls : List Call) :
    (calls.flatMap fun c => match c with
      | .poll (.frames frames) _ => frameEvents frames
      | _ => []) = frameEvents (received calls) := by
  induction calls with
  | nil => rfl
  | cons c cs ih =>
    cases c with
    | poll read write => cases read <;> simp [received, ih]
    | _ => simp [received, ih]

theorem count_closeRemote_frameEvents (sid : StreamId) (frames : List InboundFrame) :
    (frameEvents frames).count (.stream sid .closeRemote) =
      (frames.filter (·.endsStream sid)).length := by
  induction frames with
  | nil => rfl
  | cons f frames ih =>
    rw [← List.singleton_append, frameEvents_append, List.count_append, ih, List.filter_append,
      List.length_append]
    congr 1
    cases f with
    | headers k hs es | data k payload es =>
      cases es <;> by_cases hk : k = sid <;>
        simp [frameEvents, InboundFrame.events, InboundFrame.endsStream, hk, List.count_cons]
    | _ => simp [frameEvents, InboundFrame.events, InboundFrame.endsStream]

/-- Every sequence of API calls, under any behaviour of the socket, is performed by the run of
its events: the run yields the same frames and panics with the same message, and without a
panic it ends in the same state. When the frames handed to `start_send` keep the multiplexer's
order and the connection accepts every frame read, the events are in the multiplexer's order;
when the peer resets no stream and ends each at most once, it conforms. So every law proved of
such runs holds of the API. -/
theorem drive_run (t : H2ClientTokioTransport) (calls : List Call) :
    (run t (callEvents t calls)).yielded = (drive t calls).yielded ∧
      (run t (callEvents t calls)).panic = (drive t calls).panic ∧
      ((drive t calls).panic = none →
        (run t (callEvents t calls)).state = (drive t calls).state) ∧
      (SendOrder (submitted calls) → InboundFrame.invalid ∉ received calls →
        SinkOrder (callEvents t calls)) ∧
      (PeerSends (received calls) → PeerConforms (callEvents t calls)) := by
  have hpeer := callEvents_filter_prefix _ _ (eventsOf_filter_fromPeer) t calls
  rw [flatMap_poll] at hpeer
  -- the peer's events of the calls are among those of the frames read
  have hmem : ∀ e ∈ callEvents t calls, e.fromPeer → e ∈ frameEvents (received calls) :=
    fun e he hp => hpeer.subset (List.mem_filter.mpr ⟨he, hp⟩)
  refine ⟨(run_callEvents t calls).1, (run_callEvents t calls).2.1,
    (run_callEvents t calls).2.2, fun hs hinv => ?_,
    fun hp => ⟨fun sid st hm => ?_, fun sid => ?_⟩⟩
  · have hsink := callEvents_filter_prefix _ _ (eventsOf_filter_isSink) t calls
    rw [flatMap_startSend] at hsink
    refine SinkOrder.of_filter (hs.sinkOrder.of_prefix hsink) fun e he hr => hinv ?_
    subst hr
    obtain ⟨f, hf, ⟨_, -, h⟩ | h⟩ := mem_frameEvents (hmem _ he rfl)
    · cases h
    · cases h; exact hf
  · obtain ⟨f, hf, ⟨⟨k, ev⟩, hk, h⟩ | h⟩ := mem_frameEvents (hmem _ hm rfl)
    · cases h
      cases InboundFrame.eq_rstStream_of_mem_events hk
      exact hp.no_reset _ hf
    · cases h
  · calc (callEvents t calls).count (.stream sid .closeRemote)
        = ((callEvents t calls).filter (·.fromPeer)).count (.stream sid .closeRemote) :=
          (List.count_filter rfl).symm
      _ ≤ (frameEvents (received calls)).count (.stream sid .closeRemote) :=
          hpeer.sublist.count_le _
      _ ≤ 1 := by rw [count_closeRemote_frameEvents]; exact hp.one_end sid

end H2ClientTokioTransport

end TokioSolicit
