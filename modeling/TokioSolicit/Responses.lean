import TokioSolicit.Protocol

/-!
# The shared buffer of response chunks

Every `H2Stream` pushes what it learns about its response into one buffer, through a sender
bound to its request id, and the transport takes chunks off the front, one per poll, turning
each into a Tokio frame. In the source the buffer is a `Vec` behind an `Rc<RefCell<..>>` that
the receiver and all senders share; here it is the receiver's list, and a sender is handed the
receiver it pushes into.
-/

namespace TokioSolicit

/-- A response part produced by a stream for its request. -/
inductive ResponseChunk
  | headers (headers : HttpResponseHeaders)
  | body (body : HttpResponseBody)
  | endOfBody
  deriving DecidableEq, Repr

structure ResponseChunkReceiver where
  readyResponses : List (RequestId × ResponseChunk)
  deriving DecidableEq, Repr

structure ResponseChunkSender where
  requestId : RequestId
  deriving DecidableEq, Repr

def ResponseChunkSender.sendChunk (sender : ResponseChunkSender) (chunk : ResponseChunk)
    (r : ResponseChunkReceiver) : ResponseChunkReceiver :=
  ⟨r.readyResponses ++ [(sender.requestId, chunk)]⟩

namespace ResponseChunkReceiver

def new : ResponseChunkReceiver := ⟨[]⟩

/-- The sender bound to `requestId`; in the source it holds a clone of the shared `Rc`. -/
def getSender (_ : ResponseChunkReceiver) (requestId : RequestId) : ResponseChunkSender :=
  ⟨requestId⟩

/-- `Vec::remove(0)` on a non-empty buffer. -/
def getNextChunk (r : ResponseChunkReceiver) :
    Option (RequestId × ResponseChunk) × ResponseChunkReceiver :=
  match r.readyResponses with
  | [] => (none, r)
  | c :: rest => (some c, ⟨rest⟩)

@[simp] theorem getSender_requestId (r : ResponseChunkReceiver) (id : RequestId) :
    (r.getSender id).requestId = id := rfl

@[simp] theorem sendChunk_readyResponses (sender : ResponseChunkSender) (chunk : ResponseChunk)
    (r : ResponseChunkReceiver) :
    (sender.sendChunk chunk r).readyResponses = r.readyResponses ++ [(sender.requestId, chunk)] :=
  rfl

theorem getNextChunk_cons (r : ResponseChunkReceiver) :
    ((r.getNextChunk.1).toList ++ r.getNextChunk.2.readyResponses) = r.readyResponses := by
  unfold getNextChunk
  split <;> simp_all

end ResponseChunkReceiver

/-- The Tokio frame `get_next_response_frame` yields for a chunk of request `id`. -/
def ResponseChunk.toFrame (id : RequestId) : ResponseChunk → TokioResponseFrame
  | .headers h => .message id h true false
  | .body b => .body id (some b)
  | .endOfBody => .body id none

namespace ResponseChunkReceiver

/-- The frames the buffer still holds, in the order they will be yielded. -/
def frames (r : ResponseChunkReceiver) : List TokioResponseFrame :=
  r.readyResponses.map fun (id, chunk) => chunk.toFrame id

@[simp] theorem frames_sendChunk (sender : ResponseChunkSender) (chunk : ResponseChunk)
    (r : ResponseChunkReceiver) :
    (sender.sendChunk chunk r).frames = r.frames ++ [chunk.toFrame sender.requestId] := by
  simp [frames]

theorem getNextChunk_frames (r : ResponseChunkReceiver) :
    (r.getNextChunk.1.map fun (id, chunk) => chunk.toFrame id).toList ++ r.getNextChunk.2.frames =
      r.frames := by
  unfold getNextChunk frames
  split <;> simp_all

end ResponseChunkReceiver

end TokioSolicit
