/-
  RuleScript.Web.Message
  ──────────────────────
  **Requests and responses as host values.**

  A request for an address takes its host and its target from it.  A response
  with a status spells that status out.  Fields that are not set are empty.
-/
import RuleScript.Web.Url

namespace RuleScript.Web

open Host (Shape MapKind EntryType Layout Blueprint Catalog)

/-! ## §1. Parts. -/

/-- The type of headers: names with one or more values each. -/
def headerShape : Shape := .map .ordered .strings

/-- No header. -/
def emptyHeader : Host := .map .ordered .strings []

/-- A certificate in which nothing is set. -/
def certificate : Blueprint :=
  ⟨.ofFields "Certificate" ["Subject", "SerialNumber", "Signature"],
    [.string "", .string "", .bytes []]⟩

/-- The state of a secured connection in which nothing is set. -/
def tlsState : Blueprint :=
  ⟨.ofFields "TlsState" ["Version", "ServerName", "HandshakeComplete", "PeerCertificates"],
    [.integer 0, .string "", .boolean false, .absent (.sequence (.record "Certificate"))]⟩

/-- An address in which nothing is set. -/
def emptyUrl : Blueprint :=
  ⟨Url.layout, [.string "", .string "", .string "", .string "", .string ""]⟩

/-- The record types that have an empty value. -/
def catalog : Catalog := [emptyUrl, tlsState, certificate]

/-! ## §2. Requests. -/

/-- The declared fields of a request. -/
def requestLayout : Layout :=
  .ofFields "Request"
    ["Method", "URL", "Proto", "Close", "ContentLength", "Host", "RemoteAddr", "RequestURI",
      "Header", "Trailer", "TLS", "Body"]

/-- A request for an address. -/
def request (method url : String) : Host :=
  let url := Url.ofText url
  .record requestLayout
    [.string method, .present (.record "Url") url.toHost, .string "HTTP/1.1", .boolean false,
      .integer 0, .string url.host, .string "", .string url.requestTarget, emptyHeader,
      .absent headerShape, .absent (.record "TlsState"), .bytes []]

/-! ## §3. Responses. -/

/-- The declared fields of a response. -/
def responseLayout : Layout :=
  .ofFields "Response"
    ["Status", "StatusCode", "Proto", "Header", "ContentLength", "Close", "Body"]

/-- A response in which nothing is set. -/
def emptyResponse : Host :=
  .record responseLayout
    [.string "", .integer 0, .string "", emptyHeader, .integer 0, .boolean false, .bytes []]

/-- A response with a status. -/
def response (status : Int64) : Host :=
  .record responseLayout
    [.string (Numeral.write status), .integer status, .string "HTTP/1.1", emptyHeader,
      .integer 0, .boolean false, .bytes []]

end RuleScript.Web
