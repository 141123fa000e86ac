import TokioSolicit.Delivery
import TokioSolicit.Completion
import TokioSolicit.Conformance

/-!
# A reap drops only finished streams

`handle_closed_streams` drops the streams that `get_closed` reports, those closed on both ends.
`reap_drops_finished`: along every run in which the multiplexer submits frames in its order and
the peer neither resets a stream nor ends one twice, the stream of a started request stays in
the session until both sides are done with it. Once it has gone, the peer has ended it, and the
client has queued a frame with END_STREAM on it: the HEADERS of a request without a body, the
last DATA frame of one with a body. So no reap cuts off an upload or a response.
-/

namespace TokioSolicit.H2ClientTokioTransport

theorem closeRemote_of_gone_snoc {evs : List Event} {log : List Raised}
    {t t' : H2ClientTokioTransport} {e : Event} {y : Option TokioResponseFrame}
    (hend : EndInv evs log t) (hs : t.step e = .ok (t', y))
    (h : ∀ id sid, (id, sid) ∈ starts evs → t.conn.state.getStream? sid = none →
      Event.stream sid .closeRemote ∈ evs) :
    ∀ id sid, (id, sid) ∈ starts (evs ++ [e]) → t'.conn.state.getStream? sid = none →
      Event.stream sid .closeRemote ∈ evs ++ [e] := by
  intro id sid hm hn
  rcases hend.gone hs hn with hn₀ | hc
  · rw [starts_append] at hm
    rcases List.mem_append.mp hm with hm | hm
    · exact List.mem_append_left _ (h id sid hm hn₀)
    · cases e with
      | start id' headers hasBody assigned =>
        obtain ⟨-, rfl⟩ : id = id' ∧ sid = assigned := by simpa [Event.started] using hm
        simp [step_start_getStream? hs] at hn
      | _ => simp [Event.started] at hm
  · exact List.mem_append_left _ hc

/-- Along every run in the multiplexer's order with a conforming peer, a started stream that has
left the session was ended by the peer. -/
theorem SinkOrder.closeRemote_of_gone {evs : List Event} (h : SinkOrder evs)
    (hp : PeerConforms evs) :
    ∀ id sid, (id, sid) ∈ starts evs → (run new evs).state.conn.state.getStream? sid = none →
      Event.stream sid .closeRemote ∈ evs := by
  induction h with
  | nil => simp [starts]
  | @start evs id headers hasBody assigned hso hid hsid ih =>
    obtain ⟨hpanic, hmap⟩ := hso.mapInv
    obtain ⟨t', hs, -⟩ := hmap.start hid hsid headers hasBody
    rw [run_snoc hpanic hs]
    exact closeRemote_of_gone_snoc (hso.endInv hp.of_append) hs (ih hp.of_append)
  | @body evs id chunk hso hstart hended ih =>
    obtain ⟨hpanic, -⟩ := hso.mapInv
    obtain ⟨t', y, hs⟩ := step_ok_of_run hpanic (SinkOrder.body hso hstart hended).mapInv.1
    rw [run_snoc hpanic hs]
    exact closeRemote_of_gone_snoc (hso.endInv hp.of_append) hs (ih hp.of_append)
  | @other evs e hso he hr ih =>
    obtain ⟨hpanic, -⟩ := hso.mapInv
    obtain ⟨t', y, hs⟩ := step_ok_of_not_sink (t := (run new evs).state) he hr
    rw [run_snoc hpanic hs]
    exact closeRemote_of_gone_snoc (hso.endInv hp.of_append) hs (ih hp.of_append)

/-- Along every run in which the multiplexer submits frames in its order and the peer neither
resets a stream nor ends one twice, a started request's stream that has left the session was
ended by the peer, and the client had queued END_STREAM on it. -/
theorem reap_drops_finished {evs : List Event} (h : SinkOrder evs) (hp : PeerConforms evs)
    {id : RequestId} {headers : List Header} {hasBody : Bool} {sid : StreamId}
    (hm : Event.start id headers hasBody sid ∈ evs)
    (hn : (run new evs).state.conn.state.getStream? sid = none) :
    Event.stream sid .closeRemote ∈ evs ∧
      (framesOn sid (trace queued new evs)).any OutFrame.endStream := by
  refine ⟨h.closeRemote_of_gone hp id sid (Event.mem_starts hm) hn, ?_⟩
  -- the frames queued for the request are among those on its stream
  have hsub : framesOn sid (requestFrames (trace queued new evs)) ⊆
      framesOn sid (trace queued new evs) := ((List.filter_sublist _).filter _).subset
  suffices hany : (framesOn sid (requestFrames (trace queued new evs))).any OutFrame.endStream by
    obtain ⟨f, hf, he⟩ := List.any_eq_true.mp hany
    exact List.any_eq_true.mpr ⟨f, hsub hf, he⟩
  rw [(h.streamFrames sid).2 id headers hasBody hm]
  cases hasBody
  · simp [OutFrame.endStream]
  · simpa [OutFrame.endStream] using h.endedWhenGone hp id headers sid hm hn

/-- Request 1, sent without a body, goes out as one HEADERS frame with END_STREAM; once the peer
ends the stream, the next reap drops it. -/
theorem reap_drops_finished_served :
    let evs := [Event.start 1 [] false 1, .stream 1 .closeRemote, .reap]
    SinkOrder evs ∧ PeerConforms evs ∧ Event.start 1 [] false 1 ∈ evs ∧
      (run new evs).state.conn.state.getStream? 1 = none ∧
      Event.stream 1 .closeRemote ∈ evs ∧
      (framesOn 1 (trace queued new evs)).any OutFrame.endStream := by
  intro evs
  have h₁ : SinkOrder ([] ++ [Event.start 1 [] false 1]) := .start .nil (by decide) (by decide)
  have h : SinkOrder evs := by
    show SinkOrder ([Event.start 1 [] false 1] ++ evs.tail)
    exact SinkOrder.append_not_sink h₁ (by simp [evs, Event.isSink])
  have hp : PeerConforms evs := ⟨by simp [evs], fun sid => by
    rcases eq_or_ne sid 1 with rfl | hs
    · simp [evs, List.count_cons]
    · simp [evs, List.count_cons, Ne.symm hs]⟩
  have hn : (run new evs).state.conn.state.getStream? 1 = none := rfl
  exact ⟨h, hp, .head _, hn, reap_drops_finished h hp (.head _) hn⟩

end TokioSolicit.H2ClientTokioTransport
