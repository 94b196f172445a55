import StaticGzip.Address
import StaticGzip.Calendar
import StaticGzip.Decimal.Notation
import StaticGzip.Http.Request

/-! # Entries of the access log

An entry records one request and its response. -/

namespace StaticGzip.AccessLog

/-- A **stretch of time**: seconds and nanoseconds. -/
structure Elapsed where
  seconds : Nat
  nanos : Nat
deriving DecidableEq, Repr

namespace Elapsed

/-- No time at all. -/
def zero : Elapsed := ⟨0, 0⟩

/-- The stretch in nanoseconds. -/
def toNanos (e : Elapsed) : Nat := e.seconds * Moment.nanosPerSecond + e.nanos

/-- Whole microseconds, as far as 64 bits go. -/
def micros (e : Elapsed) : Nat := min (e.toNanos / 1000) (UInt64.size - 1)

/-- The stretch in seconds as a binary number: the seconds, and the nanoseconds divided, are each
rounded, and so is their sum. -/
def toBinary (e : Elapsed) : Binary64 :=
  (Binary64.ofNat e.seconds).add (Binary64.ofRatio false e.nanos Moment.nanosPerSecond)

/-- Seconds with three places. -/
def secondsText (e : Elapsed) : Text := Decimal.fixed 3 e.toBinary

end Elapsed

/-- An **entry**: who asked, when and for what, and what came of it. -/
structure Entry where
  remote : SocketAddress
  time : Moment
  method : Text
  path : Text
  query : Option Text
  version : Http.Version
  status : Nat
  bodyBytes : Nat
  referer : Option Text
  userAgent : Option Text
  elapsed : Elapsed
deriving DecidableEq, Repr

namespace Entry

/-- The entry of a request that has not been answered yet. -/
def start (remote : SocketAddress) (time : Moment) (method : Http.Method) (target : Http.Target)
    (version : Http.Version) : Entry where
  remote := remote
  time := time
  method := method.text
  path := target.path
  query := target.query
  version := version
  status := 200
  bodyBytes := 0
  referer := none
  userAgent := none
  elapsed := .zero

/-- The path, and the query after a question mark if there is one. -/
def requestUri (e : Entry) : Text := (⟨e.path, e.query⟩ : Http.Target).text

/-- The first line of the request. -/
def requestLine (e : Entry) : Text :=
  e.method ++ ' ' :: e.requestUri ++ " HTTP/".toList ++ e.version.text.toList

/-- The address of the client without its port. -/
def client (e : Entry) : Text := e.remote.ip.text

/-- The request's target is what its entry shows. -/
@[simp] theorem requestUri_start (remote : SocketAddress) (time : Moment) (method : Http.Method)
    (target : Http.Target) (version : Http.Version) :
    (start remote time method target version).requestUri = target.text := rfl

end Entry

end StaticGzip.AccessLog
