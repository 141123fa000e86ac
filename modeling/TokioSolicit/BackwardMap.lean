import TokioSolicit.Wire

/-!
# The stream-to-request map is never read

`start_request` records each request in two maps, and its comment says the one from stream ids
to request ids is there to tell which request a response belongs to. No function of the
transport reads it: a response is routed by the request id that `prepare_request` gives the
stream's chunk sender. `backward_map_unread`: two transports that differ only in that map
behave the same over every run. They yield the same response frames, panic with the same
message, hand the socket the same frames, and reach states that still differ only in that map.
-/

namespace TokioSolicit.H2ClientTokioTransport

/-- The transport with the stream-to-request map emptied. -/
def forgetBackward (t : H2ClientTokioTransport) : H2ClientTokioTransport :=
  { t with h2streamToTokioRequest := [] }

theorem step_forgetBackward {t₁ t₂ : H2ClientTokioTransport}
    (h : t₁.forgetBackward = t₂.forgetBackward) (e : Event) :
    (t₁.step e).map (fun p => (p.1.forgetBackward, p.2)) =
        (t₂.step e).map (fun p => (p.1.forgetBackward, p.2)) ∧
      t₁.written e = t₂.written e := by
  obtain ⟨s₁, c₁, r₁, b₁, f₁⟩ := t₁
  obtain ⟨s₂, c₂, r₂, b₂, f₂⟩ := t₂
  simp only [forgetBackward, mk.injEq, true_and] at h
  obtain ⟨rfl, rfl, rfl, rfl⟩ := h
  refine ⟨?_, rfl⟩
  -- every match of the model is on a field other than the map, so each branch agrees
  cases e with
  | start id headers hasBody assigned =>
    dsimp only [step, startRequest, prepareRequest]
    split <;> rfl
  | body id chunk =>
    dsimp only [step, addBodyChunk]
    split
    · rfl
    · split
      · rfl
      · split <;> rfl
      · rfl
  | stream sid e =>
    dsimp only [step, handleStreamEvent]
    split <;> rfl
  | control frame =>
    dsimp only [step, handleControlFrame]
    split <;> rfl
  | sendData window =>
    dsimp only [step, sendNextData]
    split <;> rfl
  | _ => rfl

/-- Over every run, two transports that differ only in the stream-to-request map yield the same
frames, panic alike, hand the socket the same frames, and end in states that differ only in
that map. -/
theorem backward_map_unread {t₁ t₂ : H2ClientTokioTransport}
    (h : t₁.forgetBackward = t₂.forgetBackward) (evs : List Event) :
    (run t₁ evs).yielded = (run t₂ evs).yielded ∧ (run t₁ evs).panic = (run t₂ evs).panic ∧
      (run t₁ evs).state.forgetBackward = (run t₂ evs).state.forgetBackward ∧
      trace written t₁ evs = trace written t₂ evs := by
  induction evs generalizing t₁ t₂ with
  | nil => exact ⟨rfl, rfl, h, rfl⟩
  | cons e es ih =>
    obtain ⟨hs, hw⟩ := step_forgetBackward h e
    -- the steps fail alike or succeed alike; mixed pairs contradict hs
    cases h₁ : t₁.step e <;> cases h₂ : t₂.step e <;>
      simp only [h₁, h₂, Except.map, reduceCtorEq, Except.error.injEq, Except.ok.injEq,
        Prod.mk.injEq] at hs
    case error.error => simp [run, trace, h₁, h₂, hs, h]
    case ok.ok p₁ p₂ =>
      obtain ⟨hy, hp, hf, ht⟩ := ih hs.1
      simp [run, trace, h₁, h₂, hs.2, hw, hy, hp, hf, ht]

/-- A stale entry sending stream 1's responses to request 9 changes nothing once request 1 has
started on stream 1, sent a body and been answered. -/
theorem backward_map_unread_stale :
    let t := { new with h2streamToTokioRequest := [(1, 9)] }
    let evs := [Event.start 1 [] true 1, .body 1 (some ⟨[5]⟩), .sendData 4, .write (.ok 2),
      .stream 1 (.setHeaders []), .next]
    new.forgetBackward = t.forgetBackward ∧
      (run new evs).yielded = (run t evs).yielded ∧ (run new evs).panic = (run t evs).panic ∧
      (run new evs).state.forgetBackward = (run t evs).state.forgetBackward ∧
      trace written new evs = trace written t evs :=
  ⟨rfl, backward_map_unread rfl _⟩

end TokioSolicit.H2ClientTokioTransport
