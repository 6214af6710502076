/-
  RuleScript.Report
  ─────────────────
  **Host values laid out for a reader.**

  A value with parts takes one line for each of them, indented by four columns
  and ended by a comma; one without parts stays on its line.  Fields are labelled
  in lower case, with an underscore between words.
-/
import RuleScript.Host.Basic
import RuleScript.Text.Quoted

namespace RuleScript

/-! ## §1. Layout. -/

/-- A report: a leaf, or labelled parts between an opening and a closing. -/
inductive Report where
  | leaf (content : String)
  | block (opening closing : String) (parts : List (String × Report))
  deriving Repr

namespace Report

/-- A line that starts in column `indent`. -/
def newLine (indent : Nat) : String := "\n".pushn ' ' indent

mutual

/-- The text of a report of which all lines but the first start in column `indent`. -/
def write (indent : Nat) : Report → String
  | .leaf content => content
  | .block opening closing [] => opening ++ closing
  | .block opening closing (part :: parts) =>
    opening ++ writeParts (indent + 4) (part :: parts) ++ newLine indent ++ closing

/-- The lines of the parts, each after the end of the line before it. -/
def writeParts (indent : Nat) : List (String × Report) → String
  | [] => ""
  | (label, part) :: parts =>
    newLine indent ++ label ++ part.write indent ++ "," ++ writeParts indent parts

end

/-! ## §2. Reports of host values. -/

/-- The labels of the fields of a record, which has them in the order of its
cells; the other records use their declared names. -/
def labels : List (String × List String) :=
  [("Request",
      ["method", "url", "proto", "close", "content_length", "host", "remote_addr",
        "request_uri", "header", "trailer", "tls", "body"]),
   ("Response",
      ["status", "status_code", "proto", "header", "content_length", "close", "body"]),
   ("Url", ["scheme", "host", "path", "raw_query", "fragment"]),
   ("TlsState", ["version", "server_name", "handshake_complete", "peer_certificates"]),
   ("Certificate", ["subject", "serial_number", "signature"])]

/-- The labels of the cells of a layout. -/
def labelsOf (layout : Host.Layout) : List String :=
  (labels.lookup layout.name).getD (layout.slots.map (·.1))

/-- Labelled parts. -/
def label (names : List String) (parts : List Report) : List (String × Report) :=
  (names.map (· ++ ": ")).zip parts

/-- Parts without labels. -/
def unlabelled (parts : List Report) : List (String × Report) := parts.map (("", ·))

mutual

/-- The report of a host value. -/
def ofHost : Host → Report
  | .string content => .leaf (Text.quoted content)
  | .integer value => .leaf (Numeral.write value)
  | .boolean true => .leaf "true"
  | .boolean false => .leaf "false"
  | .bytes content =>
    .block "[" "]" (unlabelled (content.map fun b => .leaf (toString b.toNat)))
  | .record layout cells =>
    .block (layout.name ++ " \x7b") "\x7d" (label (labelsOf layout) (ofHosts cells))
  | .fixed layout cells =>
    .block (layout.name ++ " \x7b") "\x7d" (label (labelsOf layout) (ofHosts cells))
  | .map _ _ entries => .block "\x7b" "\x7d" (ofEntries entries)
  | .sequence _ items => .block "[" "]" (unlabelled (ofHosts items))
  | .absent _ => .leaf "None"
  | .present _ content => .block "Some(" ")" [("", ofHost content)]

/-- The reports of host values. -/
def ofHosts : List Host → List Report
  | [] => []
  | h :: rest => ofHost h :: ofHosts rest

/-- The reports of the entries of a map, labelled by their keys. -/
def ofEntries : List (String × Host) → List (String × Report)
  | [] => []
  | (key, h) :: rest => (Text.quoted key ++ ": ", ofHost h) :: ofEntries rest

end

/-- The text of the report of a host value. -/
def render (h : Host) : String := (ofHost h).write 0

end Report

end RuleScript
