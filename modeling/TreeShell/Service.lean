/-! Documents that are served. A client asks for them, and where one does not arrive it tells why in its
own words. -/

namespace TreeShell

structure Request where
  location : String
  /-- The kind of document that is wanted. -/
  accept : String
  timeoutSeconds : Nat
deriving DecidableEq, Repr

structure Answer where
  status : Nat
  /-- What the client says of the answer if its status is that of an error. -/
  complaint : String
  /-- The bytes of the document, or why they did not come to an end. -/
  body : Except String (List UInt8)

inductive Response where
  | noClient (complaint : String)
  | noAnswer (complaint : String)
  | answer (answer : Answer)

/-- What comes of every request. -/
abbrev Service := Request → Response

inductive FetchFault where
  | noClient (complaint : String)
  | noAnswer (location complaint : String)
  | refused (complaint : String)
  | brokenOff (complaint : String)
deriving DecidableEq, Repr

def FetchFault.message : FetchFault → String
  | .noClient complaint => s!"Failed to create HTTP client: {complaint}"
  | .noAnswer location complaint => s!"GET {location} failed: {complaint}"
  | .refused complaint => complaint
  | .brokenOff complaint => s!"Failed to read response body: {complaint}"

namespace Answer

def isRefusal (answer : Answer) : Bool :=
  400 ≤ answer.status && answer.status < 600

def document (answer : Answer) : Except FetchFault (List UInt8) :=
  if answer.isRefusal then .error (.refused answer.complaint)
  else answer.body.mapError .brokenOff

end Answer

def Service.document (service : Service) (request : Request) : Except FetchFault (List UInt8) :=
  match service request with
  | .noClient complaint => .error (.noClient complaint)
  | .noAnswer complaint => .error (.noAnswer request.location complaint)
  | .answer answer => answer.document

end TreeShell
