import TokioSolicit.Protocol
import TokioSolicit.Responses
import TokioSolicit.H2Stream
import TokioSolicit.Session
import TokioSolicit.Transport
import TokioSolicit.Events
import TokioSolicit.Upload
import TokioSolicit.ResponseOrder
import TokioSolicit.RequestMap
import TokioSolicit.Flush
import TokioSolicit.Wire
import TokioSolicit.EndOfBody
import TokioSolicit.Delivery
import TokioSolicit.Completion
import TokioSolicit.BodyPanic
import TokioSolicit.Conformance
import TokioSolicit.Reap
import TokioSolicit.BackwardMap
import TokioSolicit.Calls
