import TokioSolicit.ResponseOrder
import TokioSolicit.Wire

/-!
# How many ends of body a request gets

`set_state` pushes `EndOfBody` whenever the state it is given is closed on the remote end, so a
request whose peer ended the response before the upload's last chunk gets two of them
(`ResponseOrder`). This file bounds the damage. On each stream of the session the ends of body
raised for its request follow the stream's state: none while the stream is open on the remote
end, one while it is half-closed remotely, at most two once it is closed; and only the peer's
END_STREAM, which a conforming peer sends once per stream, leads to a state closed on the remote
end. A stream that has left the session raises nothing more.

`endOfBody_at_most_twice`: along every run in which the multiplexer submits frames in its order
and the peer neither resets a stream nor ends one twice, the frames yielded to Tokio hold at
most two `Body(None)` for each request. The run `endOfBody_at_most_twice_reached` reaches two.
-/

namespace TokioSolicit.H2ClientTokioTransport

/-- The ends of body that the callbacks of `log` give request `id`. -/
def endsOfBody (id : RequestId) (log : List Raised) : Nat :=
  (log.filterMap Raised.frame).count (.body id none)

@[simp] theorem endsOfBody_nil (id : RequestId) : endsOfBody id [] = 0 := rfl

@[simp] theorem endsOfBody_append (id : RequestId) (l l' : List Raised) :
    endsOfBody id (l ++ l') = endsOfBody id l + endsOfBody id l' := by
  simp [endsOfBody, List.filterMap_append, List.count_append]

theorem endsOfBody_setState (id id' : RequestId) (st : StreamState) :
    endsOfBody id [.setState id' st] = if id' = id ∧ st.isClosedRemote then 1 else 0 := by
  by_cases h : st.isClosedRemote <;> simp [endsOfBody, Raised.frame, h, List.count_cons]

theorem endsOfBody_raise_quiet (s : H2Stream) {e : StreamEvent} (hc : e ≠ .closeRemote)
    (hr : ∀ st, e ≠ .setState st) (id : RequestId) : endsOfBody id [s.raise e] = 0 := by
  cases e with
  | setState st => exact absurd rfl (hr st)
  | closeRemote => exact absurd rfl hc
  | _ => simp [endsOfBody, H2Stream.raise, Raised.frame]

/-- The ends of body raised on one stream follow its state; only the peer's END_STREAM leads to
a state closed on the remote end. -/
def StreamEnds (evs : List Event) (log : List Raised) (sid : StreamId) (s : H2Stream) : Prop :=
  (s.state.isClosedRemote = false → endsOfBody s.sender.requestId log = 0) ∧
  (s.state = .halfClosedRemote → endsOfBody s.sender.requestId log = 1) ∧
  (s.state.isClosedRemote = true → Event.stream sid .closeRemote ∈ evs)

theorem StreamEnds.snoc {evs : List Event} {log extra : List Raised} {sid : StreamId}
    {s s' : H2Stream} (h : StreamEnds evs log sid s) (e : Event)
    (hx : endsOfBody s.sender.requestId extra = 0) (hst : s'.state = s.state)
    (hsender : s'.sender = s.sender) : StreamEnds (evs ++ [e]) (log ++ extra) sid s' := by
  obtain ⟨h₁, h₂, h₃⟩ := h
  simp only [StreamEnds, hst, hsender, endsOfBody_append, hx, Nat.add_zero]
  exact ⟨h₁, h₂, fun hc => List.mem_append_left _ (h₃ hc)⟩

/-- How the ends of body raised so far stand to the session: at most two per request, none for
a request not yet started, and on each stream as its state says. -/
structure EndInv (evs : List Event) (log : List Raised) (t : H2ClientTokioTransport) :
    Prop where
  bound : ∀ id, endsOfBody id log ≤ 2
  fresh : ∀ id, id ∉ (starts evs).map Prod.fst → endsOfBody id log = 0
  stream : ∀ sid s, t.conn.state.getStream? sid = some s → StreamEnds evs log sid s

theorem MapInv.sid_eq {st : List (RequestId × StreamId)} {en : List RequestId}
    {t : H2ClientTokioTransport} (h : MapInv st en t) (hnd : (st.map Prod.fst).Nodup)
    {sid sid' : StreamId} {s s' : H2Stream} (hs : t.conn.state.getStream? sid = some s)
    (hs' : t.conn.state.getStream? sid' = some s')
    (heq : s'.sender.requestId = s.sender.requestId) : sid' = sid :=
  congrArg Prod.snd
    (List.inj_on_of_nodup_map hnd (h.stream sid' s' hs').1 (h.stream sid s hs).1 heq)

theorem raisedLog_eq_trace (t : H2ClientTokioTransport) (evs : List Event) :
    raisedLog t evs = trace raised t evs := by
  induction evs generalizing t with
  | nil => rfl
  | cons e es ih => cases h : t.step e <;> simp [raisedLog, trace, h, ih]

-- ---------------------------------------------------------------------------
-- The walk of `send_next_data`
-- ---------------------------------------------------------------------------

theorem sendDataRaised_silent {window : Nat} {r : ResponseChunkReceiver}
    {pre : List (StreamId × H2Stream)}
    (hpre : ∀ p ∈ pre, p.2.Silent (List.replicate window 0) r)
    (l : List (StreamId × H2Stream)) :
    sendDataRaised window r (pre ++ l) = sendDataRaised window r l := by
  induction pre with
  | nil => rfl
  | cons p pre ih =>
    obtain ⟨sid, s⟩ := p
    obtain ⟨res, heq, hres⟩ := hpre _ (.head _)
    have hrest := ih fun q hq => hpre q (List.mem_cons_of_mem _ hq)
    rcases hres with rfl | rfl <;>
      simp [sendDataRaised, H2Stream.getDataChunkRaised, heq, hrest]

theorem sendDataRaised_send {window : Nat} {r : ResponseChunkReceiver} {sid : StreamId}
    {s : H2Stream} {n : Nat} {last : Bool}
    (hres : (s.getDataChunk (List.replicate window 0) r).result =
      .ok (if last then .last n else .chunk n)) (rest : List (StreamId × H2Stream)) :
    sendDataRaised window r ((sid, s) :: rest) =
      if last then [s.raise (.setState s.state.closeLocal)] else [] := by
  cases last <;> simp [sendDataRaised, H2Stream.getDataChunkRaised, hres]

-- ---------------------------------------------------------------------------
-- One step
-- ---------------------------------------------------------------------------

section
variable {evs : List Event} {log : List Raised} {t t' : H2ClientTokioTransport}

theorem EndInv.init : EndInv [] [] new where
  bound := by simp
  fresh := by simp
  stream := by simp [new, SessionState.getStream?, SessionState.new]

theorem EndInv.quiet (h : EndInv evs log t) {e : Event} (he : e.started = none)
    {extra : List Raised} (hx : ∀ id, endsOfBody id extra = 0)
    (hsub : ∀ sid s, t'.conn.state.getStream? sid = some s → ∃ s₀,
      t.conn.state.getStream? sid = some s₀ ∧ s.state = s₀.state ∧ s.sender = s₀.sender) :
    EndInv (evs ++ [e]) (log ++ extra) t' where
  bound id := by simpa [hx] using h.bound id
  fresh id hid := by simpa [hx, he] using h.fresh id (by simpa [he] using hid)
  stream sid s hs := by
    obtain ⟨s₀, hs₀, hst, hsender⟩ := hsub sid s hs
    exact (h.stream sid s₀ hs₀).snoc e (hx _) hst hsender

theorem EndInv.start (h : EndInv evs log t) {id : RequestId} {headers : List Header}
    {hasBody : Bool} {assigned : StreamId} (hid : id ∉ (starts evs).map Prod.fst)
    {y : Option TokioResponseFrame}
    (hs : t.step (.start id headers hasBody assigned) = .ok (t', y)) :
    EndInv (evs ++ [.start id headers hasBody assigned])
      (log ++ t.raised (.start id headers hasBody assigned)) t' := by
  obtain ⟨t'', hst, -, -, -, hget, -⟩ := t.startRequest_spec id headers hasBody assigned
  simp only [step, hst, Except.map, Except.ok.injEq, Prod.mk.injEq] at hs
  obtain ⟨rfl, -⟩ := hs
  have hx : ∀ id', endsOfBody id' (t.raised (.start id headers hasBody assigned)) = 0 := by
    intro id'
    cases hasBody <;> simp [raised, H2Stream.raise, endsOfBody_setState, H2Stream.new,
      StreamState.closeLocal, StreamState.isClosedRemote]
  refine ⟨fun id' => by simpa [hx] using h.bound id', fun id' hid' => ?_, fun k s hk => ?_⟩
  · simp only [starts_append, starts_singleton, Event.started, Option.toList_some,
      List.map_append, List.mem_append, not_or] at hid'
    simpa [hx] using h.fresh id' hid'.1
  · rw [hget] at hk
    split at hk
    · cases hk
      have h₀ : endsOfBody id (log ++ t.raised (.start id headers hasBody assigned)) = 0 := by
        simpa [hx] using h.fresh id hid
      cases hasBody <;> simpa [StreamEnds, H2Stream.new, H2Stream.closeLocal,
        StreamState.closeLocal, StreamState.isClosedRemote] using h₀
    · exact (h.stream k s hk).snoc _ (hx _) rfl rfl

theorem EndInv.raiseOn (h : EndInv evs log t) {en : List RequestId}
    (hmap : MapInv (starts evs) en t) (hids : ((starts evs).map Prod.fst).Nodup) {e : Event}
    (he : e.started = none) {sid : StreamId} {s s' : H2Stream}
    (hs : t.conn.state.getStream? sid = some s) {extra : List Raised}
    (hx : ∀ id, id ≠ s.sender.requestId → endsOfBody id extra = 0)
    (hbound : endsOfBody s.sender.requestId (log ++ extra) ≤ 2)
    (hget : ∀ k, t'.conn.state.getStream? k =
      if k = sid then some s' else t.conn.state.getStream? k)
    (hs' : StreamEnds (evs ++ [e]) (log ++ extra) sid s') :
    EndInv (evs ++ [e]) (log ++ extra) t' where
  bound id := by
    by_cases hid : id = s.sender.requestId
    · exact hid ▸ hbound
    · simpa [hx id hid] using h.bound id
  fresh id hid := by
    have hid : id ∉ (starts evs).map Prod.fst := by simpa [he] using hid
    have hne : id ≠ s.sender.requestId := fun heq =>
      hid (heq ▸ List.mem_map_of_mem Prod.fst (hmap.stream sid s hs).1)
    simp [hx id hne, h.fresh id hid]
  stream k s'' hk := by
    rw [hget] at hk
    split at hk
    · subst k; cases hk; exact hs'
    · rename_i hne
      exact (h.stream k s'' hk).snoc e (hx _ fun heq => hne (hmap.sid_eq hids hs hk heq)) rfl rfl

theorem EndInv.closeRemote (h : EndInv evs log t) {en : List RequestId}
    (hmap : MapInv (starts evs) en t) (hids : ((starts evs).map Prod.fst).Nodup)
    {sid : StreamId} {s : H2Stream} (hs : t.conn.state.getStream? sid = some s)
    (hp : PeerConforms (evs ++ [.stream sid .closeRemote])) :
    EndInv (evs ++ [.stream sid .closeRemote]) (log ++ [s.raise .closeRemote])
      (t.handleStreamEvent sid .closeRemote) := by
  have hopen : s.state.isClosedRemote = false := by
    cases hc : s.state.isClosedRemote
    · rfl
    · have := hp.one_close sid
      have := List.count_pos_iff.mpr ((h.stream sid s hs).2.2 hc)
      simp only [List.count_append, List.count_singleton_self] at *
      omega
  have hone : endsOfBody s.sender.requestId (log ++ [s.raise .closeRemote]) = 1 := by
    simp [(h.stream sid s hs).1 hopen, H2Stream.raise, endsOfBody_setState]
  have hget : ∀ k, (t.handleStreamEvent sid .closeRemote).conn.state.getStream? k =
      if k = sid then some (s.onEvent t.readyResponses .closeRemote).1
      else t.conn.state.getStream? k := fun k => by
    rw [handleStreamEvent_getStream?]
    split
    · subst k; rw [hs]; rfl
    · rfl
  refine h.raiseOn (e := .stream sid .closeRemote) hmap hids rfl hs (fun id hne => ?_) (by omega)
    hget ?_
  · simp [H2Stream.raise, endsOfBody_setState, Ne.symm hne]
  · simp only [StreamEnds, H2Stream.onEvent_stream, StreamEvent.nextState]
    exact ⟨fun hc => by simp at hc, fun _ => hone,
      fun _ => List.mem_append_right _ (List.mem_singleton_self _)⟩

theorem EndInv.sendData (h : EndInv evs log t) {en : List RequestId}
    (hmap : MapInv (starts evs) en t) (hids : ((starts evs).map Prod.fst).Nodup)
    (window : Nat) :
    EndInv (evs ++ [.sendData window]) (log ++ t.raised (.sendData window))
      (t.sendNextData window).2 := by
  simp only [raised]
  rcases nextDataFrame_cases window t.readyResponses t.conn.state.streams with
    ⟨hall, hnd⟩ | ⟨pre, sid, s, rest, hl, hpre, n, last, hres, hnd⟩
  case inl =>
    have hnil := sendDataRaised_silent hall []
    rw [List.append_nil] at hnil
    rw [hnil]
    refine h.quiet (e := .sendData window) rfl (fun _ => rfl) fun k s hk => ⟨s, ?_, rfl, rfl⟩
    rwa [sendNextData_getStream?, hnd] at hk
  case inr =>
    rw [hl, sendDataRaised_silent hpre, sendDataRaised_send hres]
    have hnodup : ((pre ++ (sid, s) :: rest).map Prod.fst).Nodup := hl ▸ t.conn.state.nodup
    have hs : t.conn.state.getStream? sid = some s :=
      (SessionState.mem_streams_iff _ sid s).mp (hl ▸ List.mem_append_right _ (.head _))
    have hget : ∀ k, (t.sendNextData window).2.conn.state.getStream? k =
        if k = sid then some (s.getDataChunk (List.replicate window 0) t.readyResponses).stream
        else t.conn.state.getStream? k := fun k => by
      rw [sendNextData_getStream?, hnd, lookup_middle hnodup, SessionState.getStream?, hl]
    have hc : s.state.isClosedLocal = false := by
      cases hc : s.state.isClosedLocal
      · rfl
      · rw [H2Stream.getDataChunk_of_isClosedLocal _ _ _ hc] at hres
        cases last <;> simp at hres
    cases last
    case false =>
      simp only [Bool.false_eq_true, ↓reduceIte] at hres ⊢
      obtain ⟨hst, -⟩ := H2Stream.getDataChunk_chunk hc hres
      refine h.quiet (e := .sendData window) rfl (fun _ => rfl) fun k s' hk => ?_
      rw [hget] at hk
      split at hk
      · subst k; cases hk
        exact ⟨s, hs, hst, H2Stream.getDataChunk_sender⟩
      · exact ⟨s', hk, rfl, rfl⟩
    case true =>
      simp only [↓reduceIte] at hres ⊢
      obtain ⟨-, -, hst, -⟩ := H2Stream.getDataChunk_last hc hres
      obtain ⟨h₁, h₂, h₃⟩ := h.stream sid s hs
      have hrem := StreamState.isClosedRemote_of_open hc
      refine h.raiseOn (e := .sendData window) hmap hids rfl hs (fun id hne => ?_) ?_ hget ?_
      · simp [H2Stream.raise, endsOfBody_setState, Ne.symm hne]
      · by_cases hhcr : s.state = .halfClosedRemote
        · simp [H2Stream.raise, endsOfBody_setState, hhcr, h₂ hhcr]
        · simpa [H2Stream.raise, endsOfBody_setState, hhcr] using h.bound s.sender.requestId
      · simp only [StreamEnds, hst, H2Stream.getDataChunk_sender,
          StreamState.isClosedRemote_closeLocal, decide_eq_false_iff_not, decide_eq_true_eq]
        refine ⟨fun hhcr => ?_, (absurd · (StreamState.closeLocal_ne_halfClosedRemote _)),
          fun hhcr => List.mem_append_left _ (h₃ (by rw [hhcr]; rfl))⟩
        simp [H2Stream.raise, endsOfBody_setState, hhcr, h₁ (by simp [hrem, hhcr])]

theorem EndInv.snoc (h : EndInv evs log t) {en : List RequestId}
    (hmap : MapInv (starts evs) en t) (hids : ((starts evs).map Prod.fst).Nodup) {e : Event}
    (he : e.started = none) (hp : PeerConforms (evs ++ [e])) {y : Option TokioResponseFrame}
    (hs : t.step e = .ok (t', y)) : EndInv (evs ++ [e]) (log ++ t.raised e) t' := by
  cases e with
  | start => simp [Event.started] at he
  | body id chunk =>
    obtain ⟨hb, -⟩ := step_body hs
    refine h.quiet he (fun _ => rfl) fun k s' hk => ?_
    obtain ⟨sid, -, rfl | ⟨s, s'', hs₀, rfl, hsender, -, hst, -⟩⟩ := t.addBodyChunk_eq_ok hb
    · exact ⟨s', hk, rfl, rfl⟩
    · rw [withStream_getStream?] at hk
      split at hk
      · subst k
        rw [hs₀, Option.map_some', Option.some.injEq] at hk
        subst hk
        exact ⟨s, hs₀, hst, hsender⟩
      · exact ⟨s', hk, rfl, rfl⟩
  | stream sid e =>
    obtain ⟨rfl, -⟩ := Prod.mk.inj (Except.ok.inj hs)
    cases hsid : t.conn.state.getStream? sid with
    | none =>
      simp only [raised, hsid]
      refine h.quiet he (fun _ => rfl) fun k s' hk => ⟨s', ?_, rfl, rfl⟩
      rw [handleStreamEvent_getStream?] at hk
      split at hk
      · subst k; simp [hsid] at hk
      · exact hk
    | some s =>
      simp only [raised, hsid]
      by_cases hc : e = .closeRemote
      · subst e
        exact h.closeRemote hmap hids hsid hp
      have hr : ∀ st, e ≠ .setState st := fun st he =>
        hp.no_reset sid st (he ▸ List.mem_append_right _ (List.mem_singleton_self _))
      refine h.quiet he (endsOfBody_raise_quiet s hc hr) fun k s' hk => ?_
      rw [handleStreamEvent_getStream?] at hk
      split at hk
      · subst k
        rw [hsid, Option.map_some', Option.some.injEq] at hk
        subst hk
        refine ⟨s, hsid, ?_, by simp⟩
        cases e <;> simp_all [StreamEvent.nextState]
      · exact ⟨s', hk, rfl, rfl⟩
  | control frame =>
    obtain ⟨-, -, rfl⟩ := step_control hs
    exact h.quiet he (fun _ => rfl) fun k s' hk => ⟨s', hk, rfl, rfl⟩
  | reap =>
    obtain ⟨rfl, -⟩ := Prod.mk.inj (Except.ok.inj hs)
    refine h.quiet he (fun _ => rfl) fun k s' hk => ⟨s', ?_, rfl, rfl⟩
    rw [handleClosedStreams, SessionState.getStream?_getClosed, Option.filter_eq_some] at hk
    exact hk.1
  | sendData window =>
    obtain ⟨rfl, -⟩ := Prod.mk.inj (Except.ok.inj hs)
    exact h.sendData hmap hids window
  | write w =>
    obtain ⟨rfl, -⟩ := Prod.mk.inj (Except.ok.inj hs)
    exact h.quiet he (fun _ => rfl) fun k s' hk => ⟨s', hk, rfl, rfl⟩
  | next =>
    obtain ⟨rfl, -⟩ := Prod.mk.inj (Except.ok.inj hs)
    exact h.quiet he (fun _ => rfl) fun k s' hk => ⟨s', hk, rfl, rfl⟩

end

theorem raisedLog_snoc {t t' : H2ClientTokioTransport} {evs : List Event} {e : Event}
    {y : Option TokioResponseFrame} (hp : (run t evs).panic = none)
    (hs : (run t evs).state.step e = .ok (t', y)) :
    raisedLog t (evs ++ [e]) = raisedLog t evs ++ (run t evs).state.raised e := by
  rw [raisedLog_eq_trace, trace_snoc raised hp hs, ← raisedLog_eq_trace]

/-- Along every run in the multiplexer's order with a conforming peer, the ends of body raised
follow the streams' states. -/
theorem SinkOrder.endInv {evs : List Event} (h : SinkOrder evs) (hp : PeerConforms evs) :
    EndInv evs (raisedLog new evs) (run new evs).state := by
  induction h with
  | nil => exact EndInv.init
  | @start evs id headers hasBody assigned hso hid hsid ih =>
    obtain ⟨hpanic, hmap⟩ := hso.mapInv
    obtain ⟨t', hs, -⟩ := hmap.start hid hsid headers hasBody
    rw [run_snoc hpanic hs, raisedLog_snoc hpanic hs]
    exact (ih hp.of_append).start hid hs
  | @body evs id chunk hso hstart hend ih =>
    obtain ⟨hpanic, hmap⟩ := hso.mapInv
    obtain ⟨t', y, hs⟩ := step_ok_of_run hpanic (SinkOrder.body hso hstart hend).mapInv.1
    rw [run_snoc hpanic hs, raisedLog_snoc hpanic hs]
    exact (ih hp.of_append).snoc hmap hso.ids_nodup rfl hp hs
  | @other evs e hso he hr ih =>
    obtain ⟨hpanic, hmap⟩ := hso.mapInv
    obtain ⟨t', y, hs⟩ := step_ok_of_not_sink (t := (run new evs).state) he hr
    rw [run_snoc hpanic hs, raisedLog_snoc hpanic hs]
    exact (ih hp.of_append).snoc hmap hso.ids_nodup (Event.started_of_not_sink he) hp hs

/-- Along every run in which the multiplexer submits frames in its order and the peer neither
resets a stream nor ends one twice, the frames yielded to Tokio hold at most two ends of body
for each request. -/
theorem endOfBody_at_most_twice {evs : List Event} (h : SinkOrder evs) (hp : PeerConforms evs)
    (id : RequestId) : (run new evs).yielded.count (.body id none) ≤ 2 := by
  have hf := run_frames new evs
  rw [show new.readyResponses.frames = [] from rfl, List.nil_append] at hf
  calc (run new evs).yielded.count (.body id none)
      ≤ ((run new evs).yielded ++ (run new evs).state.readyResponses.frames).count
          (.body id none) := by
        rw [List.count_append]
        omega
    _ = endsOfBody id (raisedLog new evs) := by rw [hf]; rfl
    _ ≤ 2 := (h.endInv hp).bound id

/-- The peer answers request 1 with HEADERS and END_STREAM before the end of its body; the last
chunk then closes the stream, and the polls yield two ends of body, as many as the bound allows. -/
theorem endOfBody_at_most_twice_reached :
    let evs := [Event.start 1 [] true 1, .stream 1 (.setHeaders []), .stream 1 .closeRemote,
      .body 1 none, .sendData 16, .next, .next, .next]
    SinkOrder evs ∧ PeerConforms evs ∧ (run new evs).yielded.count (.body 1 none) = 2 ∧
      (run new evs).yielded.count (.body 1 none) ≤ 2 := by
  intro evs
  have h₁ : SinkOrder ([] ++ [Event.start 1 [] true 1]) := .start .nil (by decide) (by decide)
  have h₂ : SinkOrder ([Event.start 1 [] true 1] ++ [.stream 1 (.setHeaders [])]) :=
    .other h₁ rfl (by decide)
  have h₃ : SinkOrder ([Event.start 1 [] true 1, .stream 1 (.setHeaders [])] ++
      [.stream 1 .closeRemote]) := .other h₂ rfl (by decide)
  have h₄ : SinkOrder ([Event.start 1 [] true 1, .stream 1 (.setHeaders []),
      .stream 1 .closeRemote] ++ [.body 1 none]) := .body h₃ ⟨[], 1, by decide⟩ (by decide)
  have h₅ : SinkOrder ([Event.start 1 [] true 1, .stream 1 (.setHeaders []),
      .stream 1 .closeRemote, .body 1 none] ++ [.sendData 16]) := .other h₄ rfl (by decide)
  have h₆ : SinkOrder ([Event.start 1 [] true 1, .stream 1 (.setHeaders []),
      .stream 1 .closeRemote, .body 1 none, .sendData 16] ++ [.next]) := .other h₅ rfl (by decide)
  have h₇ : SinkOrder ([Event.start 1 [] true 1, .stream 1 (.setHeaders []),
      .stream 1 .closeRemote, .body 1 none, .sendData 16, .next] ++ [.next]) := .other h₆ rfl (by decide)
  have h : SinkOrder evs := .other h₇ rfl (by decide)
  have hp : PeerConforms evs :=
    ⟨fun _ _ hm => by simp [evs] at hm, fun sid => by
      by_cases hs : sid = 1 <;> simp [evs, List.count_cons, hs]⟩
  exact ⟨h, hp, rfl, endOfBody_at_most_twice h hp 1⟩

end TokioSolicit.H2ClientTokioTransport
