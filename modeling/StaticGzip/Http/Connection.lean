import StaticGzip.Http.Head
import StaticGzip.Http.Reply
import StaticGzip.IoError

/-! # Connections

A connection carries requests one after another and their responses in the same order. It lasts as
long as both sides want it to, and ends at once when a head cannot be understood.

* **`Connection.turn`** — what is to be done with the bytes that have arrived. On a connection that
  has ended nothing is waited for, and one goes on only if the server and the response say so.
* **`ConnectionError`** — why a connection fails. -/

namespace StaticGzip.Http

/-- Why a **connection fails**: a head that is wrong, one that ends too soon, another protocol, or
bytes that could not be received or sent. -/
inductive ConnectionError where
  | head (e : HeadError)
  | incomplete
  | otherProtocol
  | io (source : IoError)
deriving DecidableEq, Repr

/-- The inner form of a failure. -/
def ConnectionError.form : ConnectionError → String
  | .head e => s!"hyper::Error(Parse({e.form}))"
  | .incomplete => "hyper::Error(IncompleteMessage)"
  | .otherProtocol => "hyper::Error(Parse(VersionH2))"
  | .io source => s!"hyper::Error(Io, {source.form})"

/-- A **connection**: the bytes that have arrived and are not used yet, whether more may come, and
the version spoken last. -/
structure Connection where
  arrived : Bytes
  ended : Bool
  version : Version
deriving DecidableEq, Repr

/-- What is **to be done next**: wait for more bytes, answer a request and go on or not, refuse what
has arrived with a response, or end the connection. -/
inductive Turn where
  | wait
  | answer (request : Request) (form : Reply) (next : Option Connection)
  | refuse (response : Response) (form : Reply) (e : HeadError)
  | fail (e : ConnectionError)
  | close

namespace Connection

/-- A connection on which nothing has been said. -/
def fresh : Connection := ⟨[], false, .v11⟩

/-- The connection with more bytes. -/
def receive (c : Connection) (bytes : Bytes) : Connection :=
  { c with arrived := c.arrived ++ bytes }

/-- The connection when no more bytes will come. -/
def finish (c : Connection) : Connection := { c with ended := true }

/-- The most bytes that may arrive before a head is complete. -/
def maxHead : Nat := 417792

/-- How a connection of another protocol begins. -/
def otherProtocol : Bytes := "PRI * HTTP/2.0\r\n\r\nSM\r\n\r\n".toUTF8.data.toList

/-- What is done about a head that is wrong. Another protocol is not answered. -/
def refusal (c : Connection) (e : HeadError) : Turn :=
  if otherProtocol.isPrefixOf c.arrived then .fail .otherProtocol
  else .refuse (.plain e.status "") ⟨c.version, false, false⟩ e

/-- What is done while a head is not complete. Only lines without anything may be left when no
more bytes will come. -/
def pending (c : Connection) : Turn :=
  if c.ended then
    if c.arrived.all Scanner.isLineEnd then .close else .fail .incomplete
  else if maxHead ≤ c.arrived.length then c.refusal .tooLarge
  else .wait

/-- What is done about a request. The connection goes on if both sides want it to and the body has
arrived. -/
def answer (c : Connection) (keepAlive : Bool) (head : Head) (rest : Bytes) : Turn :=
  let lasting := keepAlive && head.terms.lasting
  let version := head.request.version
  let next := (head.afterBody? rest).map fun rest => { c with arrived := rest, version := version }
  .answer head.request ⟨version, lasting, head.request.method.text == "HEAD".toList⟩
    (if lasting then next else none)

/-- The **next turn**, on a server that keeps connections or does not. -/
def turn (c : Connection) (keepAlive : Bool) : Turn :=
  match Head.scan c.arrived with
  | .read head rest => c.answer keepAlive head rest
  | .short => c.pending
  | .broken e => c.refusal e

/-- What cannot be understood is never waited for. -/
theorem refusal_ne_wait (c : Connection) (e : HeadError) : c.refusal e ≠ .wait := by
  unfold refusal
  split <;> simp

/-- On a connection that has ended nothing is waited for. -/
theorem turn_ne_wait_of_ended {c : Connection} (ended : c.ended = true) (keepAlive : Bool) :
    c.turn keepAlive ≠ .wait := by
  unfold turn
  split
  · simp [answer]
  · rw [pending, if_pos ended]
    split <;> simp
  · exact c.refusal_ne_wait _

/-- A connection goes on only if the server keeps connections and the response says so. -/
theorem lasting_of_answer {c next : Connection} {keepAlive : Bool} {head : Head} {rest : Bytes}
    {request : Request} {form : Reply}
    (h : c.answer keepAlive head rest = .answer request form (some next)) :
    keepAlive = true ∧ form.lasting = true := by
  rw [answer, Turn.answer.injEq] at h
  obtain ⟨-, rfl, goesOn⟩ := h
  split at goesOn
  · rename_i lasting
    exact ⟨(Bool.and_eq_true_iff.1 lasting).1, lasting⟩
  · simp at goesOn

end Connection

end StaticGzip.Http
