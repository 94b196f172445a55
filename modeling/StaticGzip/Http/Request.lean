import StaticGzip.Http.Target
import StaticGzip.Http.Header

/-! # Requests

The head of a request: its method, its target, its version and its header lines. -/

namespace StaticGzip.Http

/-- A **method** is a token; its case matters. -/
structure Method where
  text : Text
deriving DecidableEq, Repr

namespace Method

/-- The method written by a text: a non-empty token. -/
def ofText? (t : Text) : Option Method :=
  if !t.isEmpty && t.all isTokenChar then some ⟨t⟩ else none

/-- The usual method. -/
def get : Method := ⟨"GET".toList⟩

end Method

/-- A **version** of the protocol. -/
inductive Version where
  | v09
  | v10
  | v11
  | v2
  | v3
deriving DecidableEq, Repr

/-- The number of a version. -/
def Version.text : Version → String
  | .v09 => "0.9"
  | .v10 => "1.0"
  | .v11 => "1.1"
  | .v2 => "2"
  | .v3 => "3"

/-- The **head of a request**. -/
structure Request where
  method : Method
  target : Target
  version : Version
  headers : Headers
deriving DecidableEq, Repr

end StaticGzip.Http
