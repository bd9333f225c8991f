/-! Tokens, the words that methods and header names are made of, and the faults of the parts
of a message. -/
namespace Signpost.Http

def isTokenChar (c : Char) : Bool :=
  c.isAlphanum || "!#$%&'*+-.^_`|~".toList.contains c

def isToken (s : String) : Bool := !s.toList.isEmpty && s.toList.all isTokenChar

inductive Fault
  | method | status | headerName | headerValue | uri
  deriving DecidableEq, Repr

/- The name of a fault, which is also its text where it makes a handler fail. -/
def Fault.name : Fault → String
  | method => "InvalidMethod"
  | status => "InvalidStatusCode"
  | headerName => "InvalidHeaderName"
  | headerValue => "InvalidHeaderValue"
  | uri => "InvalidUri"

end Signpost.Http
