import TokioSolicit.Events

/-!
# The two maps between request ids and stream ids

`start_request` writes the pair of a new request into `tokio_request_to_h2stream` and
`h2stream_to_tokio_request`, and `add_body_chunk` finds a request's stream through the first.
No other method touches the maps; none removes an entry.

`request_maps_agree`: in every run in which the multiplexer submits frames as its protocol
promises, the connection assigns fresh stream ids and accepts every frame it reads
(`SinkOrder`), nothing panics, the maps stay inverse to each other, every stream still in the
session is the one created for the request its id maps to, and a body chunk goes to that
stream, through `add_data` or `set_should_close`, and to no other. The invariant `MapInv`
carries it from step to step.

`maps_keep_every_request`: in every run without a panic, the keys of the maps are all the
requests ever started and all the stream ids assigned to them, finished or not.
-/

namespace TokioSolicit.H2ClientTokioTransport

/-- The request a `start` event starts, with the stream id the connection assigns it. -/
def Event.started : Event → Option (RequestId × StreamId)
  | .start id _ _ assigned => some (id, assigned)
  | _ => none

/-- The request whose body an event ends. -/
def Event.ended : Event → Option RequestId
  | .body id none => some id
  | _ => none

/-- Whether an event is a frame the multiplexer submits through `start_send`. -/
def Event.isSink : Event → Bool
  | .start .. | .body .. => true
  | _ => false

/-- The requests a run starts, each with its stream id. -/
def starts (evs : List Event) : List (RequestId × StreamId) := evs.filterMap Event.started

/-- The requests whose bodies a run ends. -/
def ended (evs : List Event) : List RequestId := evs.filterMap Event.ended

@[simp] theorem starts_append (evs es : List Event) :
    starts (evs ++ es) = starts evs ++ starts es := List.filterMap_append _ _ _

@[simp] theorem ended_append (evs es : List Event) :
    ended (evs ++ es) = ended evs ++ ended es := List.filterMap_append _ _ _

@[simp] theorem starts_singleton (e : Event) : starts [e] = e.started.toList := by
  cases h : e.started <;> simp [starts, h]

@[simp] theorem ended_singleton (e : Event) : ended [e] = e.ended.toList := by
  cases h : e.ended <;> simp [ended, h]

theorem Event.started_of_not_sink {e : Event} (he : e.isSink = false) : e.started = none := by
  cases e <;> simp_all [Event.isSink, Event.started]

theorem Event.ended_of_not_sink {e : Event} (he : e.isSink = false) : e.ended = none := by
  cases e <;> simp_all [Event.isSink, Event.ended]

/-- Runs in which the multiplexer submits frames as its protocol promises and the connection
assigns fresh stream ids: each request id is started once, on a stream id not used before; a
body chunk comes after the start of its request with a body, and never after the chunk that
ends that body. The connection's and the socket's events interleave freely, but no frame read
is one the connection rejects, whose `expect` would panic. -/
inductive SinkOrder : List Event → Prop
  | nil : SinkOrder []
  | start {evs : List Event} {id : RequestId} {headers : List Header} {hasBody : Bool}
      {assigned : StreamId} : SinkOrder evs → id ∉ (starts evs).map Prod.fst →
      assigned ∉ (starts evs).map Prod.snd →
      SinkOrder (evs ++ [.start id headers hasBody assigned])
  | body {evs : List Event} {id : RequestId} {chunk : Option HttpRequestBody} :
      SinkOrder evs → (∃ headers assigned, Event.start id headers true assigned ∈ evs) →
      Event.body id none ∉ evs → SinkOrder (evs ++ [.body id chunk])
  | other {evs : List Event} {e : Event} : SinkOrder evs → e.isSink = false →
      e ≠ .control .invalid → SinkOrder (evs ++ [e])

theorem SinkOrder.sids_nodup {evs : List Event} (h : SinkOrder evs) :
    ((starts evs).map Prod.snd).Nodup := by
  induction h with
  | nil => exact List.nodup_nil
  | start _ _ hsid ih =>
    rw [starts_append, List.map_append, List.nodup_append]
    exact ⟨ih, by simp [Event.started], by simpa [Event.started] using hsid⟩
  | body _ _ _ ih => simpa [Event.started] using ih
  | other _ he _ ih => simpa [Event.started_of_not_sink he] using ih

theorem SinkOrder.ids_nodup {evs : List Event} (h : SinkOrder evs) :
    ((starts evs).map Prod.fst).Nodup := by
  induction h with
  | nil => exact List.nodup_nil
  | start _ hid _ ih =>
    rw [starts_append, List.map_append, List.nodup_append]
    exact ⟨ih, by simp [Event.started], by simpa [Event.started] using hid⟩
  | body _ _ _ ih => simpa [Event.started] using ih
  | other _ he _ ih => simpa [Event.started_of_not_sink he] using ih

theorem SinkOrder.started_of_body {evs : List Event} (h : SinkOrder evs) {id : RequestId}
    {chunk : Option HttpRequestBody} (hb : Event.body id chunk ∈ evs) :
    id ∈ (starts evs).map Prod.fst := by
  induction h with
  | nil => simp at hb
  | @start evs _ _ _ _ _ _ _ ih =>
    rw [starts_append, List.map_append]
    rcases List.mem_append.mp hb with hb | hb
    · exact List.mem_append_left _ (ih hb)
    · simp at hb
  | @body evs id' _ _ hstart _ ih =>
    rw [starts_append, List.map_append]
    rcases List.mem_append.mp hb with hb | hb
    · exact List.mem_append_left _ (ih hb)
    · obtain ⟨headers, assigned, hmem⟩ := hstart
      simp only [List.mem_singleton, Event.body.injEq] at hb
      rw [hb.1]
      exact List.mem_append_left _
        (List.mem_map.mpr ⟨_, List.mem_filterMap.mpr ⟨_, hmem, rfl⟩, rfl⟩)
  | @other evs e _ he _ ih =>
    rw [starts_append, List.map_append]
    rcases List.mem_append.mp hb with hb | hb
    · exact List.mem_append_left _ (ih hb)
    · simp only [List.mem_singleton] at hb; subst hb; simp [Event.isSink] at he

theorem SinkOrder.append_not_sink {evs es : List Event} (h : SinkOrder evs)
    (hes : ∀ e ∈ es, e.isSink = false ∧ e ≠ .control .invalid) : SinkOrder (evs ++ es) := by
  induction es generalizing evs with
  | nil => simpa using h
  | cons e es ih =>
    rw [← List.singleton_append, ← List.append_assoc]
    exact ih (.other h (hes e (.head _)).1 (hes e (.head _)).2) fun e' he' => hes e' (.tail _ he')

-- ---------------------------------------------------------------------------
-- The invariant
-- ---------------------------------------------------------------------------

/-- What the maps and the session say of each other, given the requests started and the bodies
ended so far: the maps hold exactly the started pairs, each stream in the session is bound to
the request of its pair and knows its id, and a closing stream's body has been ended. -/
structure MapInv (started : List (RequestId × StreamId)) (ended : List RequestId)
    (t : H2ClientTokioTransport) : Prop where
  forward : ∀ id sid, t.tokioRequestToH2stream.lookup id = some sid ↔ (id, sid) ∈ started
  backward : ∀ id sid, t.h2streamToTokioRequest.lookup sid = some id ↔ (id, sid) ∈ started
  stream : ∀ sid s, t.conn.state.getStream? sid = some s →
    (s.sender.requestId, sid) ∈ started ∧ s.streamId = some sid
  closing : ∀ sid s, t.conn.state.getStream? sid = some s → s.shouldClose →
    s.sender.requestId ∈ ended

/-- The streams of `t'` are streams of `t` with the same sender, id and close flag. -/
def StreamsKept (t t' : H2ClientTokioTransport) : Prop :=
  ∀ sid s', t'.conn.state.getStream? sid = some s' →
    ∃ s, t.conn.state.getStream? sid = some s ∧ s'.sender = s.sender ∧
      s'.streamId = s.streamId ∧ s'.shouldClose = s.shouldClose

section
variable {st : List (RequestId × StreamId)} {en : List RequestId} {t t' : H2ClientTokioTransport}

theorem MapInv.init : MapInv [] [] new where
  forward := by simp [new]
  backward := by simp [new]
  stream := by simp [new, SessionState.getStream?, SessionState.new]
  closing := by simp [new, SessionState.getStream?, SessionState.new]

theorem MapInv.kept (h : MapInv st en t)
    (hf : t'.tokioRequestToH2stream = t.tokioRequestToH2stream)
    (hb : t'.h2streamToTokioRequest = t.h2streamToTokioRequest) (hk : StreamsKept t t') :
    MapInv st en t' where
  forward := by rw [hf]; exact h.forward
  backward := by rw [hb]; exact h.backward
  stream sid s' hs' := by
    obtain ⟨s, hs, hsender, hid, -⟩ := hk sid s' hs'
    rw [hsender, hid]; exact h.stream sid s hs
  closing sid s' hs' hc := by
    obtain ⟨s, hs, hsender, -, hclose⟩ := hk sid s' hs'
    rw [hsender]; exact h.closing sid s hs (hclose ▸ hc)

theorem MapInv.requestId (h : MapInv st en t) (hnd : (st.map Prod.snd).Nodup)
    {id : RequestId} {sid : StreamId} {s : H2Stream} (hm : (id, sid) ∈ st)
    (hs : t.conn.state.getStream? sid = some s) : s.sender.requestId = id := by
  have := List.inj_on_of_nodup_map hnd (h.stream sid s hs).1 hm rfl
  simpa using this

-- ---------------------------------------------------------------------------
-- One step
-- ---------------------------------------------------------------------------

theorem step_maps {e : Event} {y : Option TokioResponseFrame} (h : t.step e = .ok (t', y))
    (he : e.started = none) :
    t'.tokioRequestToH2stream = t.tokioRequestToH2stream ∧
      t'.h2streamToTokioRequest = t.h2streamToTokioRequest := by
  cases e with
  | start => simp [Event.started] at he
  | body id chunk =>
    obtain ⟨hb, -⟩ := step_body h
    obtain ⟨_, -, rfl | ⟨_, _, -, rfl, -⟩⟩ := t.addBodyChunk_eq_ok hb <;> simp
  | control frame =>
    obtain ⟨-, -, rfl⟩ := step_control h
    exact ⟨rfl, rfl⟩
  | _ =>
    obtain ⟨rfl, -⟩ := Prod.mk.inj (Except.ok.inj h)
    simp [handleClosedStreams, tryWrite, getNextResponseFrame]

theorem step_streamsKept {e : Event} {y : Option TokioResponseFrame}
    (h : t.step e = .ok (t', y)) (he : e.isSink = false) : StreamsKept t t' := by
  intro k s' hs'
  cases e
  case control frame =>
    obtain ⟨-, -, rfl⟩ := step_control h
    exact ⟨s', hs', rfl, rfl, rfl⟩
  all_goals simp only [Event.isSink, Bool.true_eq_false, step, Except.ok.injEq,
    Prod.mk.injEq] at he h <;> obtain ⟨rfl, -⟩ := h
  case stream sid e =>
    rw [handleStreamEvent_getStream?] at hs'
    split at hs'
    · obtain ⟨s, hs, rfl⟩ := Option.map_eq_some'.mp hs'
      exact ⟨s, hs, by simp⟩
    · exact ⟨s', hs', rfl, rfl, rfl⟩
  case reap =>
    rw [handleClosedStreams, SessionState.getStream?_getClosed, Option.filter_eq_some] at hs'
    exact ⟨s', hs'.1, rfl, rfl, rfl⟩
  case sendData window =>
    rw [sendNextData_getStream?] at hs'
    obtain ⟨s, hs, hsame | ⟨buf, r, rfl⟩⟩ := nextDataFrame_lookup hs'
    · exact ⟨s, hs, by simp [hsame]⟩
    · exact ⟨s, hs, by simp⟩
  all_goals exact ⟨s', hs', rfl, rfl, rfl⟩

theorem MapInv.start (h : MapInv st en t) {id : RequestId} {assigned : StreamId}
    (hid : id ∉ st.map Prod.fst) (hsid : assigned ∉ st.map Prod.snd) (headers : List Header)
    (hasBody : Bool) :
    ∃ t', t.step (.start id headers hasBody assigned) = .ok (t', none) ∧
      MapInv (st ++ [(id, assigned)]) en t' := by
  obtain ⟨t', hs, -, hf, hb, hget, -⟩ := t.startRequest_spec id headers hasBody assigned
  have hid' : ∀ sid, (id, sid) ∉ st := fun sid hm => hid (List.mem_map.mpr ⟨_, hm, rfl⟩)
  have hsid' : ∀ id', (id', assigned) ∉ st :=
    fun id' hm => hsid (List.mem_map.mpr ⟨_, hm, rfl⟩)
  refine ⟨t', by simp [step, hs, Except.map],
    ⟨fun id' sid => ?_, fun id' sid => ?_, ?_, ?_⟩⟩
  · rw [hf, lookup_mapInsert, List.mem_append, ← h.forward]
    by_cases hi : id' = id
    · subst hi; simp [h.forward, hid', eq_comm]
    · simp [hi]
  · rw [hb, lookup_mapInsert, List.mem_append, ← h.backward]
    by_cases hi : sid = assigned
    · subst hi; simp [h.backward, hsid', eq_comm]
    · simp [hi]
  · intro k s hk
    rw [hget] at hk
    split at hk
    · cases hk; subst k; cases hasBody <;> simp [H2Stream.new, H2Stream.closeLocal]
    · exact ⟨List.mem_append_left _ (h.stream k s hk).1, (h.stream k s hk).2⟩
  · intro k s hk hc
    rw [hget] at hk
    split at hk
    · cases hk; cases hasBody <;> simp [H2Stream.new, H2Stream.closeLocal] at hc
    · exact h.closing k s hk hc

theorem MapInv.body (h : MapInv st en t) (hnd : (st.map Prod.snd).Nodup) {id : RequestId}
    {sid : StreamId} (hm : (id, sid) ∈ st) (hen : id ∉ en) (chunk : Option HttpRequestBody)
    (en' : List RequestId) (hsub : en ⊆ en') (hend : chunk = none → id ∈ en') :
    ∃ t', t.step (.body id chunk) = .ok (t', none) ∧ MapInv st en' t' := by
  have hl := (h.forward id sid).mpr hm
  have hopen : ∀ s, t.conn.state.getStream? sid = some s → chunk ≠ none →
      s.shouldClose = false := by
    intro s hs _
    cases hc : s.shouldClose
    · rfl
    · exact absurd (h.requestId hnd hm hs ▸ h.closing sid s hs hc) hen
  obtain ⟨t', hb⟩ := t.addBodyChunk_ok hl hopen
  refine ⟨t', by simp [step, hb, Except.map], ?_⟩
  obtain ⟨_, hl', rfl | ⟨s, s', hs, rfl, hsender, hsid, -, hclose⟩⟩ :=
    t.addBodyChunk_eq_ok hb
  · exact ⟨h.forward, h.backward, h.stream, fun k s hk hc => hsub (h.closing k s hk hc)⟩
  · obtain rfl : sid = _ := Option.some.inj (hl.symm.trans hl')
    refine ⟨by simpa using h.forward, by simpa using h.backward, fun k s₁ hk => ?_,
      fun k s₁ hk hc => ?_⟩ <;> rw [withStream_getStream?] at hk <;> split at hk
    · subst k; rw [hs] at hk; cases hk
      rw [hsender, hsid]; exact h.stream _ s hs
    · exact h.stream k s₁ hk
    · subst k; rw [hs] at hk; cases hk
      rw [hsender]
      rcases hclose hc with hn | hc
      · rw [h.requestId hnd hm hs]; exact hend hn
      · exact hsub (h.closing _ s hs hc)
    · exact hsub (h.closing k s₁ hk hc)

/-- Every event that is not a sink frame is performed without a panic, but for a frame the
connection rejects. -/
theorem step_ok_of_not_sink {e : Event} (he : e.isSink = false)
    (hr : e ≠ .control .invalid) :
    ∃ t' y, t.step e = .ok (t', y) := by
  cases e <;> simp_all [Event.isSink, step, handleControlFrame, Except.map]

end

-- ---------------------------------------------------------------------------
-- Whole runs
-- ---------------------------------------------------------------------------

theorem SinkOrder.mapInv {evs : List Event} (h : SinkOrder evs) :
    (run new evs).panic = none ∧ MapInv (starts evs) (ended evs) (run new evs).state := by
  induction h with
  | nil => exact ⟨rfl, MapInv.init⟩
  | @start evs id headers hasBody assigned _ hid hsid ih =>
    obtain ⟨t', hs, hinv⟩ := ih.2.start hid hsid headers hasBody
    rw [run_snoc ih.1 hs]
    exact ⟨rfl, by simpa [Event.started, Event.ended] using hinv⟩
  | @body evs id chunk hso hstart hend ih =>
    obtain ⟨headers, assigned, hmem⟩ := hstart
    have hm : (id, assigned) ∈ starts evs :=
      List.mem_filterMap.mpr ⟨_, hmem, rfl⟩
    have hen : id ∉ ended evs := fun hin => by
      obtain ⟨e, he, hid⟩ := List.mem_filterMap.mp hin
      cases e <;> simp [Event.ended] at hid
      rename_i c
      cases c <;> simp_all
    obtain ⟨t', hs, hinv⟩ := ih.2.body hso.sids_nodup hm hen chunk
      (ended (evs ++ [.body id chunk])) (by simp)
      (by rintro rfl; simp [Event.ended])
    rw [run_snoc ih.1 hs]
    exact ⟨rfl, by simpa [Event.started] using hinv⟩
  | @other evs e _ he hr ih =>
    obtain ⟨t', y, hs⟩ := step_ok_of_not_sink (t := (run new evs).state) he hr
    rw [run_snoc ih.1 hs]
    have hst := Event.started_of_not_sink he
    refine ⟨rfl, ?_⟩
    simpa [hst, Event.ended_of_not_sink he] using
      ih.2.kept (step_maps hs hst).1 (step_maps hs hst).2 (step_streamsKept hs he)

theorem request_maps_agree {evs : List Event} (h : SinkOrder evs) :
    (run new evs).panic = none ∧
    (∀ id sid, (run new evs).state.tokioRequestToH2stream.lookup id = some sid ↔
      (run new evs).state.h2streamToTokioRequest.lookup sid = some id) ∧
    (∀ id sid s, (run new evs).state.tokioRequestToH2stream.lookup id = some sid →
      (run new evs).state.conn.state.getStream? sid = some s →
        s.sender.requestId = id ∧ s.streamId = some sid) ∧
    (∀ id chunk t', (run new evs).state.addBodyChunk id chunk = .ok t' →
      ∃ sid, (run new evs).state.tokioRequestToH2stream.lookup id = some sid ∧
        (∀ k, k ≠ sid →
          t'.conn.state.getStream? k = (run new evs).state.conn.state.getStream? k) ∧
        ∀ s, (run new evs).state.conn.state.getStream? sid = some s →
          (chunk = none ∧ t'.conn.state.getStream? sid = some s.setShouldClose) ∨
          ∃ body s', chunk = some ⟨body⟩ ∧ s.addData body = .ok s' ∧
            t'.conn.state.getStream? sid = some s') := by
  obtain ⟨hp, hinv⟩ := h.mapInv
  refine ⟨hp, fun id sid => (hinv.forward id sid).trans (hinv.backward id sid).symm,
    fun id sid s hl hs => ⟨hinv.requestId h.sids_nodup ((hinv.forward id sid).mp hl) hs,
      (hinv.stream sid s hs).2⟩, fun id chunk t' hb => addBodyChunk_getStream? _ hb⟩

theorem request_maps_agree_upload :
    let evs := [Event.start 1 [] true 3, .body 1 (some ⟨[5]⟩), .stream 3 .closeRemote,
      .body 1 none, .sendData 4]
    SinkOrder evs ∧ ((run new evs).panic = none ∧
    (∀ id sid, (run new evs).state.tokioRequestToH2stream.lookup id = some sid ↔
      (run new evs).state.h2streamToTokioRequest.lookup sid = some id) ∧
    (∀ id sid s, (run new evs).state.tokioRequestToH2stream.lookup id = some sid →
      (run new evs).state.conn.state.getStream? sid = some s →
        s.sender.requestId = id ∧ s.streamId = some sid) ∧
    (∀ id chunk t', (run new evs).state.addBodyChunk id chunk = .ok t' →
      ∃ sid, (run new evs).state.tokioRequestToH2stream.lookup id = some sid ∧
        (∀ k, k ≠ sid →
          t'.conn.state.getStream? k = (run new evs).state.conn.state.getStream? k) ∧
        ∀ s, (run new evs).state.conn.state.getStream? sid = some s →
          (chunk = none ∧ t'.conn.state.getStream? sid = some s.setShouldClose) ∨
          ∃ body s', chunk = some ⟨body⟩ ∧ s.addData body = .ok s' ∧
            t'.conn.state.getStream? sid = some s')) :=
  have h₁ : SinkOrder ([] ++ [Event.start 1 [] true 3]) := .start .nil (by decide) (by decide)
  have h₂ : SinkOrder ([Event.start 1 [] true 3] ++ [.body 1 (some ⟨[5]⟩)]) :=
    .body h₁ ⟨[], 3, by decide⟩ (by decide)
  have h₃ : SinkOrder ([Event.start 1 [] true 3, .body 1 (some ⟨[5]⟩)] ++
      [.stream 3 .closeRemote]) := .other h₂ rfl (by decide)
  have h₄ : SinkOrder ([Event.start 1 [] true 3, .body 1 (some ⟨[5]⟩),
      .stream 3 .closeRemote] ++ [.body 1 none]) := .body h₃ ⟨[], 3, by decide⟩ (by decide)
  have h : SinkOrder ([Event.start 1 [] true 3, .body 1 (some ⟨[5]⟩), .stream 3 .closeRemote,
      .body 1 none] ++ [.sendData 4]) := .other h₄ rfl (by decide)
  ⟨h, request_maps_agree h⟩

-- ---------------------------------------------------------------------------
-- Nothing leaves the maps
-- ---------------------------------------------------------------------------

section
variable {t t' : H2ClientTokioTransport}

theorem step_keys {e : Event} {y : Option TokioResponseFrame} (h : t.step e = .ok (t', y)) :
    (∀ k, k ∈ t'.tokioRequestToH2stream.map Prod.fst ↔
      k ∈ t.tokioRequestToH2stream.map Prod.fst ∨ k ∈ (starts [e]).map Prod.fst) ∧
    (∀ k, k ∈ t'.h2streamToTokioRequest.map Prod.fst ↔
      k ∈ t.h2streamToTokioRequest.map Prod.fst ∨ k ∈ (starts [e]).map Prod.snd) := by
  cases he : e.started with
  | none =>
    obtain ⟨hf, hb⟩ := step_maps h he
    simp [hf, hb, he]
  | some p =>
    cases e with
    | start id headers hasBody assigned =>
      obtain ⟨t'', hs, -, hf, hb, -⟩ := t.startRequest_spec id headers hasBody assigned
      simp only [step, hs, Except.map, Except.ok.injEq, Prod.mk.injEq] at h
      obtain ⟨rfl, -⟩ := h
      refine ⟨fun k => ?_, fun k => ?_⟩ <;>
        simp only [hf, hb, mem_keys_mapInsert, starts_singleton, Event.started,
          Option.toList_some, List.map_cons, List.map_nil, List.mem_singleton, or_comm]
    | _ => simp [Event.started] at he

theorem run_keys (t : H2ClientTokioTransport) (evs : List Event)
    (hp : (run t evs).panic = none) :
    (∀ k, k ∈ (run t evs).state.tokioRequestToH2stream.map Prod.fst ↔
      k ∈ t.tokioRequestToH2stream.map Prod.fst ∨ k ∈ (starts evs).map Prod.fst) ∧
    (∀ k, k ∈ (run t evs).state.h2streamToTokioRequest.map Prod.fst ↔
      k ∈ t.h2streamToTokioRequest.map Prod.fst ∨ k ∈ (starts evs).map Prod.snd) := by
  induction evs generalizing t with
  | nil => simp [run, starts]
  | cons e es ih =>
    cases hs : t.step e with
    | error msg => simp [run, hs] at hp
    | ok p =>
      obtain ⟨t', y⟩ := p
      simp only [run, hs] at hp ⊢
      obtain ⟨ih₁, ih₂⟩ := ih t' hp
      obtain ⟨h₁, h₂⟩ := step_keys hs
      rw [show e :: es = [e] ++ es from rfl, starts_append]
      exact ⟨fun k => by simp only [ih₁, h₁, List.map_append, List.mem_append, or_assoc],
        fun k => by simp only [ih₂, h₂, List.map_append, List.mem_append, or_assoc]⟩

end

theorem maps_keep_every_request (evs : List Event) (h : (run new evs).panic = none) :
    (∀ id, id ∈ (run new evs).state.tokioRequestToH2stream.map Prod.fst ↔
      id ∈ (starts evs).map Prod.fst) ∧
    (∀ sid, sid ∈ (run new evs).state.h2streamToTokioRequest.map Prod.fst ↔
      sid ∈ (starts evs).map Prod.snd) := by
  simpa [new] using run_keys new evs h

theorem maps_keep_every_request_reaped :
    let evs := [Event.start 1 [] false 1, .stream 1 (.setHeaders []), .stream 1 .closeRemote,
      .reap, .next, .next]
    (run new evs).panic = none ∧
    ((∀ id, id ∈ (run new evs).state.tokioRequestToH2stream.map Prod.fst ↔
      id ∈ (starts evs).map Prod.fst) ∧
    (∀ sid, sid ∈ (run new evs).state.h2streamToTokioRequest.map Prod.fst ↔
      sid ∈ (starts evs).map Prod.snd)) :=
  ⟨rfl, maps_keep_every_request _ rfl⟩

/-- Request 1 has no body; the peer answers with HEADERS and END_STREAM, the stream is reaped,
and both frames are yielded: the maps still hold the request. -/
theorem finished_request_kept :
    let r := drive new [.startSend (.message 1 ⟨[]⟩ false false) 1,
      .pollComplete (.ok 10) 16 (.ok 10), .poll (.frames [.headers 1 [] true]) (.ok 10),
      .poll .nothing (.ok 10)]
    r.yielded = [.message 1 ⟨[]⟩ true false, .body 1 none] ∧
      r.state.conn.state.streams = [] ∧ r.state.tokioRequestToH2stream = [(1, 1)] ∧
      r.state.h2streamToTokioRequest = [(1, 1)] :=
  ⟨rfl, rfl, rfl, rfl⟩

end TokioSolicit.H2ClientTokioTransport
