import Mathlib.Data.List.Nodup

/-!
# The interfaces the transport is written against

The transport of `client/tokio_layer.rs` sits between two libraries. From `solicit` it takes
headers, the HTTP/2 stream states with the half-close transitions of its `Stream` trait, and
the results of `get_data_chunk`; from `tokio-proto`'s multiplex API it takes the request and
response frames. The header and body records come from the client module next to the
transport. Everything here is data, plus the state transitions `solicit` gives every stream
as default methods.

Stream and request ids are `Nat`: a client's stream ids stay below `2 ^ 31` on one connection,
and the transport never does arithmetic on either.
-/

namespace TokioSolicit

abbrev Bytes := List UInt8

/-- An HTTP/2 stream id (`u32` in `solicit`). -/
abbrev StreamId := Nat

/-- A Tokio request id (`u64`), chosen by the multiplexer. -/
abbrev RequestId := Nat

structure Header where
  name : Bytes
  value : Bytes
  deriving DecidableEq, Repr

/-- `solicit`'s `OwnedHeader`, the pair of byte vectors a borrowed header converts into. -/
abbrev OwnedHeader := Bytes × Bytes

def Header.intoOwned (h : Header) : OwnedHeader := (h.name, h.value)

def Header.ofOwned (o : OwnedHeader) : Header := ⟨o.1, o.2⟩

@[simp] theorem Header.ofOwned_intoOwned (h : Header) : Header.ofOwned h.intoOwned = h := rfl

instance decEqExcept {ε α : Type} [DecidableEq ε] [DecidableEq α] : DecidableEq (Except ε α)
  | .ok a, .ok b => decidable_of_iff (a = b) (by simp)
  | .error a, .error b => decidable_of_iff (a = b) (by simp)
  | .ok _, .error _ => isFalse (by simp)
  | .error _, .ok _ => isFalse (by simp)

-- ---------------------------------------------------------------------------
-- Stream states
-- ---------------------------------------------------------------------------

/-- The HTTP/2 stream states, as `solicit` names them. -/
inductive StreamState
  | idle
  | reservedLocal
  | reservedRemote
  | «open»
  | halfClosedRemote
  | halfClosedLocal
  | closed
  deriving DecidableEq, Repr

namespace StreamState

def isClosed : StreamState → Bool
  | .closed => true
  | _ => false

def isClosedLocal : StreamState → Bool
  | .halfClosedLocal | .closed => true
  | _ => false

def isClosedRemote : StreamState → Bool
  | .halfClosedRemote | .closed => true
  | _ => false

/-- The state `Stream::close_local` passes to `set_state`. -/
def closeLocal : StreamState → StreamState
  | .halfClosedRemote => .closed
  | _ => .halfClosedLocal

/-- The state `Stream::close_remote` passes to `set_state`. -/
def closeRemote : StreamState → StreamState
  | .halfClosedLocal => .closed
  | _ => .halfClosedRemote

@[simp] theorem closeLocal_isClosedLocal (st : StreamState) : st.closeLocal.isClosedLocal := by
  cases st <;> rfl

@[simp] theorem closeRemote_isClosedRemote (st : StreamState) : st.closeRemote.isClosedRemote := by
  cases st <;> rfl

@[simp] theorem isClosedRemote_closeLocal (st : StreamState) :
    st.closeLocal.isClosedRemote = decide (st = .halfClosedRemote) := by
  cases st <;> rfl

@[simp] theorem closeLocal_ne_halfClosedRemote (st : StreamState) :
    st.closeLocal ≠ .halfClosedRemote := by
  cases st <;> decide

theorem isClosedRemote_of_open {st : StreamState} (h : st.isClosedLocal = false) :
    st.isClosedRemote = decide (st = .halfClosedRemote) := by
  cases st <;> simp_all [isClosedLocal, isClosedRemote]

theorem isClosed_iff (st : StreamState) : st.isClosed ↔ st = .closed := by
  cases st <;> simp [isClosed]

end StreamState

-- ---------------------------------------------------------------------------
-- Request data handed out by a stream
-- ---------------------------------------------------------------------------

/-- What `Stream::get_data_chunk` reports about the bytes it wrote into the caller's buffer. -/
inductive StreamDataChunk
  | chunk (n : Nat)
  | last (n : Nat)
  | unavailable
  deriving DecidableEq, Repr

/-- The number of bytes a chunk reports as written into the buffer. -/
def StreamDataChunk.size : StreamDataChunk → Nat
  | .chunk n | .last n => n
  | .unavailable => 0

def StreamDataChunk.isLast : StreamDataChunk → Bool
  | .last _ => true
  | _ => false

/-- The failure `get_data_chunk` reports. Reads from an in-memory cursor cannot fail, so the
I/O variant `solicit` also has is never produced here. -/
inductive StreamDataError
  | closed
  deriving DecidableEq, Repr

-- ---------------------------------------------------------------------------
-- Tokio frames and the client's records
-- ---------------------------------------------------------------------------

/-- A hard I/O error of the socket. -/
structure IoError where
  code : Nat
  deriving DecidableEq, Repr

/-- `tokio_proto::streaming::multiplex::Frame`. -/
inductive Frame (M B : Type)
  | message (id : RequestId) (message : M) (body solo : Bool)
  | body (id : RequestId) (chunk : Option B)
  | error (id : RequestId) (error : IoError)
  deriving DecidableEq, Repr

/-- Modelled from the spec: the client module's `HttpRequestHeaders`, the ordered headers of a
request. -/
structure HttpRequestHeaders where
  headers : List Header
  deriving DecidableEq, Repr

/-- Modelled from the spec: the client module's `HttpRequestBody`, one body segment. -/
structure HttpRequestBody where
  body : Bytes
  deriving DecidableEq, Repr

/-- Modelled from the spec: the client module's `HttpResponseHeaders`, owned headers. -/
structure HttpResponseHeaders where
  headers : List Header
  deriving DecidableEq, Repr

/-- Modelled from the spec: the client module's `HttpResponseBody`, one body segment. -/
structure HttpResponseBody where
  body : Bytes
  deriving DecidableEq, Repr

abbrev RequestFrame := Frame HttpRequestHeaders HttpRequestBody

abbrev TokioResponseFrame := Frame HttpResponseHeaders HttpResponseBody

/-- `futures::Async`. -/
inductive Async (α : Type)
  | ready (a : α)
  | notReady
  deriving DecidableEq, Repr

/-- `futures::Poll` with `io::Error`. -/
abbrev Poll (α : Type) := Except IoError (Async α)

end TokioSolicit
