/-
  RuleScript.Web.Url
  ──────────────────
  **Addresses of web resources.**

  An address is cut at its separators, in this order: the first `#`, the first
  `?` before it, and the first `://` before both.  Nothing is checked or decoded.
-/
import RuleScript.Host.Basic
import RuleScript.Text.Split

namespace RuleScript.Web

/-- The parts of an address. -/
structure Url where
  scheme : String := ""
  host : String := ""
  path : String := ""
  query : String := ""
  fragment : String := ""
  deriving Repr, DecidableEq

namespace Url

/-! ## §1. Reading. -/

/-- Cuts at a separator; a text without it has nothing after it. -/
def cut (separator : String) (s : List Char) : List Char × List Char :=
  (Text.cutAt? separator.toList s).getD (s, [])

/-- The host and the path of an address that has a scheme. -/
def hostAndPath (s : List Char) : List Char × List Char :=
  (s.takeWhile (· != '/'), s.dropWhile (· != '/'))

/-- The parts of the address that a text spells. -/
def ofText (s : String) : Url :=
  let (s, fragment) := cut "#" s.toList
  let (s, query) := cut "?" s
  let (scheme, host, path) :=
    match Text.cutAt? "://".toList s with
    | some (scheme, after) => (scheme, hostAndPath after)
    | none => ([], [], s)
  ⟨String.ofList scheme, String.ofList host, String.ofList path, String.ofList query,
    String.ofList fragment⟩

/-! ## §2. Uses. -/

/-- What a request for this address asks its host for. -/
def requestTarget (url : Url) : String :=
  let path := if url.path = "" then "/" else url.path
  if url.query = "" then path else path ++ "?" ++ url.query

/-- The declared fields of an address. -/
def layout : Host.Layout :=
  .ofFields "Url" ["Scheme", "Host", "Path", "RawQuery", "Fragment"]

/-- The address as a host value. -/
def toHost (url : Url) : Host :=
  .record layout
    [.string url.scheme, .string url.host, .string url.path, .string url.query,
      .string url.fragment]

end Url

end RuleScript.Web
