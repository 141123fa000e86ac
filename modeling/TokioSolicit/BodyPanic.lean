import TokioSolicit.Wire

/-!
# When a body frame panics

`add_body_chunk` has two `expect`s: one on the request's stream id, and one on `add_data`, which
fails once the stream has been told to close. `step_body_error_iff`: after every run in the
multiplexer's order, a body frame panics exactly when its request was never started, with the
first message, or when it carries data for a request whose body has ended while the request's
stream is still in the session, with the second. Every other body frame goes through, among
them an end of body sent twice and data for a request whose stream has been reaped.

Behind it is a run invariant: a stream of the session is closing exactly when its request's body
has ended (`SinkOrder.shouldClose_iff`). `MapInv` gives one direction; the other holds because
the end of a body marks the request's stream and no later step clears the mark.
-/

namespace TokioSolicit.H2ClientTokioTransport

theorem mem_ended {id : RequestId} {evs : List Event} :
    id ∈ ended evs ↔ Event.body id none ∈ evs := by
  simp only [ended, List.mem_filterMap]
  refine ⟨fun ⟨e, he, hid⟩ => ?_, fun h => ⟨_, h, rfl⟩⟩
  cases e with
  | body id' chunk => cases chunk <;> simp_all [Event.ended]
  | _ => simp [Event.ended] at hid

theorem SinkOrder.shouldClose_of_ended {evs : List Event} (h : SinkOrder evs) :
    ∀ id sid s, (id, sid) ∈ starts evs → Event.body id none ∈ evs →
      (run new evs).state.conn.state.getStream? sid = some s → s.shouldClose := by
  induction h with
  | nil => simp
  | @start evs id₀ headers hasBody assigned hso hid hsid ih =>
    obtain ⟨hpanic, hmap⟩ := hso.mapInv
    obtain ⟨t', hs, -⟩ := hmap.start hid hsid headers hasBody
    rw [run_snoc hpanic hs]
    intro id sid s hm hb hk
    have hb' : Event.body id none ∈ evs := by simpa using hb
    -- the new request has no body event yet, so the pair is an old one
    have hm' : (id, sid) ∈ starts evs := by
      rcases (by simpa [Event.started] using hm :
          (id, sid) ∈ starts evs ∨ id = id₀ ∧ sid = assigned) with hm | ⟨rfl, -⟩
      · exact hm
      · exact absurd (hso.started_of_body hb') hid
    have hne : sid ≠ assigned := fun he => hsid (he ▸ List.mem_map_of_mem Prod.snd hm')
    rw [step_start_getStream? hs, if_neg hne] at hk
    exact ih id sid s hm' hb' hk
  | @body evs id₀ chunk hso hstart hended ih =>
    obtain ⟨hpanic, hmap⟩ := hso.mapInv
    obtain ⟨t', y, hs⟩ := step_ok_of_run hpanic (SinkOrder.body hso hstart hended).mapInv.1
    rw [run_snoc hpanic hs]
    intro id sid s hm hb hk
    have hm' : (id, sid) ∈ starts evs := by simpa [Event.started] using hm
    obtain ⟨sid₀, hl₀, hcall⟩ :=
      addBodyChunk_call (step_body hs).1 (run new evs).state.readyResponses
    -- this frame ends the body of the request on `sid₀` only
    have hold : sid ≠ sid₀ → Event.body id none ∈ evs := fun hne => by
      rcases List.mem_append.mp hb with hb | hb
      · exact hb
      · obtain ⟨rfl, -⟩ := Event.body.inj (List.mem_singleton.mp hb)
        exact absurd (Option.some.inj (((hmap.forward id sid).mpr hm').symm.trans hl₀)) hne
    rcases hcall with ⟨hn, rfl⟩ | ⟨s₀, hs₀, rfl⟩
    · have hne : sid ≠ sid₀ := fun he => by simp [he, hn] at hk
      exact ih id sid s hm' (hold hne) hk
    · rw [withStream_getStream?] at hk
      split at hk
      · subst sid
        rw [hs₀, Option.map_some', Option.some.injEq] at hk
        subst hk
        rw [call_bodyCall_shouldClose]
        rcases List.mem_append.mp hb with hb | hb
        · simp [ih id sid₀ s₀ hm' hb hs₀]
        · simp [(Event.body.inj (List.mem_singleton.mp hb)).2.symm]
      · rename_i hne
        exact ih id sid s hm' (hold hne) hk
  | @other evs e hso he hr ih =>
    obtain ⟨hpanic, -⟩ := hso.mapInv
    obtain ⟨t', y, hs⟩ := step_ok_of_not_sink (t := (run new evs).state) he hr
    rw [run_snoc hpanic hs]
    intro id sid s hm hb hk
    obtain ⟨s₀, hs₀, -, -, hclose⟩ := step_streamsKept hs he sid s hk
    rw [hclose]
    exact ih id sid s₀ (by simpa [Event.started_of_not_sink he] using hm)
      (Event.mem_of_not_sink hb he rfl) hs₀

theorem SinkOrder.shouldClose_iff {evs : List Event} (h : SinkOrder evs) {id : RequestId}
    {sid : StreamId} {s : H2Stream} (hm : (id, sid) ∈ starts evs)
    (hk : (run new evs).state.conn.state.getStream? sid = some s) :
    s.shouldClose ↔ Event.body id none ∈ evs := by
  obtain ⟨-, hmap⟩ := h.mapInv
  refine ⟨fun hc => ?_, fun hb => h.shouldClose_of_ended id sid s hm hb hk⟩
  rw [← mem_ended, ← hmap.requestId h.sids_nodup hm hk]
  exact hmap.closing sid s hk hc

/-- After every run in the multiplexer's order, a body frame panics exactly when its request was
never started, with the message of the `expect` on the stream id, or when it carries data for a
request whose body has ended while the request's stream is still in the session, with the
message of the `expect` on `add_data`. -/
theorem step_body_error_iff {evs : List Event} (h : SinkOrder evs) {id : RequestId}
    {chunk : Option HttpRequestBody} {msg : String} :
    (run new evs).state.step (.body id chunk) = .error msg ↔
      (id ∉ (starts evs).map Prod.fst ∧
          msg = "an in-flight request needs to have an active h2 stream") ∨
        ∃ sid, (id, sid) ∈ starts evs ∧
          ((run new evs).state.conn.state.getStream? sid).isSome ∧ chunk.isSome ∧
          Event.body id none ∈ evs ∧ msg = "stream unexpectedly already locally closed" := by
  obtain ⟨-, hmap⟩ := h.mapInv
  have hstep : (run new evs).state.step (.body id chunk) = .error msg ↔
      (run new evs).state.addBodyChunk id chunk = .error msg := by
    simp only [step]
    cases (run new evs).state.addBodyChunk id chunk <;> simp [Except.map]
  -- the map holds exactly the started pairs
  have hnone : (run new evs).state.tokioRequestToH2stream.lookup id = none ↔
      id ∉ (starts evs).map Prod.fst := by
    simp [Option.eq_none_iff_forall_not_mem, Option.mem_def, hmap.forward]
  rw [hstep, addBodyChunk_eq_error]
  constructor
  · rintro (⟨hl, rfl⟩ | ⟨sid, s, hl, hk, hc, hsc, rfl⟩)
    · exact .inl ⟨hnone.mp hl, rfl⟩
    · have hm := (hmap.forward id sid).mp hl
      exact .inr ⟨sid, hm, by simp [hk], hc, (h.shouldClose_iff hm hk).mp hsc, rfl⟩
  · rintro (⟨hid, rfl⟩ | ⟨sid, hm, hk, hc, hb, rfl⟩)
    · exact .inl ⟨hnone.mpr hid, rfl⟩
    · obtain ⟨s, hk⟩ := Option.isSome_iff_exists.mp hk
      exact .inr ⟨sid, s, (hmap.forward id sid).mpr hm, hk, hc,
        (h.shouldClose_iff hm hk).mpr hb, rfl⟩

/-- Request 1's body has ended while its stream is still in the session, so more data for it
panics with the message of the `expect` on `add_data`. -/
theorem step_body_error_iff_closing :
    let evs := [Event.start 1 [] true 1, .body 1 none]
    SinkOrder evs ∧
      ((run new evs).state.step (.body 1 (some ⟨[5]⟩)) =
          .error "stream unexpectedly already locally closed" ↔
        (1 ∉ (starts evs).map Prod.fst ∧
            "stream unexpectedly already locally closed" =
              "an in-flight request needs to have an active h2 stream") ∨
          ∃ sid, (1, sid) ∈ starts evs ∧
            ((run new evs).state.conn.state.getStream? sid).isSome ∧
            (some (⟨[5]⟩ : HttpRequestBody)).isSome ∧ Event.body 1 none ∈ evs ∧
            "stream unexpectedly already locally closed" =
              "stream unexpectedly already locally closed") := by
  intro evs
  have h₁ : SinkOrder ([] ++ [Event.start 1 [] true 1]) := .start .nil (by decide) (by decide)
  have h : SinkOrder evs := .body h₁ ⟨[], 1, by decide⟩ (by decide)
  exact ⟨h, step_body_error_iff h⟩

end TokioSolicit.H2ClientTokioTransport
