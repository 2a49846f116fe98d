import QuantumAnalytics.Foundations.Checks
import QuantumAnalytics.Foundations.RegexSearch
import QuantumAnalytics.Ingestion.Pipeline

/-!
# Lexical checks of XML members

The checks that run on the text of an XML member before it is parsed: no comments, no
processing instructions, and namespace declarations of known prefixes and URIs only.
The declarations are found by regular expressions.
-/

namespace QuantumAnalytics
namespace Xlsx

open PyText (isSpace)
open Regex (isLetter isDigit)

/-- `XlsxInspectionError` of a lexical check. -/
inductive XmlLexicalError
  /-- `XLSX_XML_ENCODING_UNSUPPORTED` -/
  | encodingUnsupported
  /-- `XLSX_XML_COMMENT_FORBIDDEN` -/
  | commentForbidden
  /-- `XLSX_XML_PROCESSING_INSTRUCTION_FORBIDDEN` -/
  | processingInstructionForbidden
  /-- `XLSX_XML_NAMESPACE_UNMODELED` -/
  | namespaceUnmodeled
  deriving DecidableEq

/-! ### Patterns -/

/-- `\s*`. -/
def spaces : Regex := .many isSpace 0 none

/-- `<\?xml`, in any case. -/
def declarationStart : Regex :=
  [['<'], ['?'], ['x', 'X'], ['m', 'M'], ['l', 'L']].foldr
    (fun accepted rest => .seq (.one accepted.contains) rest) .empty

/-- `_XML_DECLARATION`. -/
def xmlDeclaration : Regex :=
  .seq spaces (.seq declarationStart (.seq
    (.opt (.seq (.many isSpace 1 none) (.many (· != '?') 0 none))) (.text ['?', '>'])))

/-- `[A-Za-z_]`. -/
def isPrefixStart (c : Char) : Bool := isLetter c || c == '_'

/-- `[A-Za-z0-9_.-]`. -/
def isPrefixPart (c : Char) : Bool := isLetter c || isDigit c || c == '_' || c == '.' || c == '-'

/-- `(?::[A-Za-z_][A-Za-z0-9_.-]*)?`. -/
def prefixPart : Regex :=
  .opt (.seq (.one (· == ':')) (.seq (.one isPrefixStart) (.many isPrefixPart 0 none)))

/-- `\sxmlns`. -/
def namespaceStart : Regex := .seq (.one isSpace) (.text ['x', 'm', 'l', 'n', 's'])

/-- `["']`. -/
def isQuote (c : Char) : Bool := c == '"' || c == '\''

/-- `_NAMESPACE_ASSIGNMENT`. -/
def namespaceAssignment : Regex :=
  .seq namespaceStart (.seq prefixPart (.seq spaces (.one (· == '='))))

/-- The places of `_NAMESPACE_ASSIGNMENT`. -/
def assignmentAt : Regex.Matcher Unit := fun text =>
  (namespaceAssignment.match? text).map ((), ·)

/-- The groups `prefix` and `uri`. -/
structure NamespaceBinding where
  /-- `None` for the default namespace. -/
  namespacePrefix : Option String
  uri : String
  deriving DecidableEq

/-- The prefix in what `prefixPart` has taken. -/
def prefixGroup : List Char → Option String
  | [] => none
  | _ :: name => some (String.ofList name)

/-- `_NAMESPACE_DECLARATION`, with the texts of its groups. -/
def namespaceDeclarations (text : List Char) : List (NamespaceBinding × List Char) :=
  (namespaceStart.rests text).flatMap fun afterName =>
  (prefixPart.splits afterName).flatMap fun (named, afterPrefix) =>
  ((Regex.seq spaces (.seq (.one (· == '=')) spaces)).rests afterPrefix).flatMap fun opening =>
  ((Regex.one isQuote).splits opening).flatMap fun (quote, quoted) =>
  ((Regex.many (fun c => !isQuote c) 0 none).splits quoted).flatMap fun (uri, closing) =>
  ((Regex.text quote).rests closing).map fun rest =>
    (⟨prefixGroup named, String.ofList uri⟩, rest)

/-- The places of `_NAMESPACE_DECLARATION`. -/
def declarationAt : Regex.Matcher NamespaceBinding := fun text =>
  (namespaceDeclarations text).head?

/-! ### Checks -/

/-- `_ALLOWED_NAMESPACE_BINDINGS`. -/
def allowedNamespaceBindings : List (Option String × List String) :=
  [(none,
    ["http://schemas.openxmlformats.org/package/2006/content-types",
      "http://schemas.openxmlformats.org/package/2006/relationships",
      "http://schemas.openxmlformats.org/spreadsheetml/2006/main",
      "http://schemas.openxmlformats.org/drawingml/2006/main",
      "http://schemas.openxmlformats.org/package/2006/metadata/core-properties",
      "http://schemas.openxmlformats.org/officeDocument/2006/extended-properties",
      "http://purl.oclc.org/ooxml/package/content-types",
      "http://purl.oclc.org/ooxml/package/relationships",
      "http://purl.oclc.org/ooxml/spreadsheetml/main"]),
    (some "r",
      ["http://schemas.openxmlformats.org/officeDocument/2006/relationships",
        "http://purl.oclc.org/ooxml/officeDocument/relationships"]),
    (some "mc", ["http://schemas.openxmlformats.org/markup-compatibility/2006"]),
    (some "x14ac", ["http://schemas.microsoft.com/office/spreadsheetml/2009/9/ac"]),
    (some "x15", ["http://schemas.microsoft.com/office/spreadsheetml/2010/11/main"]),
    (some "x16r2", ["http://schemas.microsoft.com/office/spreadsheetml/2015/02/main"]),
    (some "xda", ["http://schemas.microsoft.com/office/spreadsheetml/2017/dynamicarray"]),
    (some "xr", ["http://schemas.microsoft.com/office/spreadsheetml/2014/revision"]),
    (some "xr2", ["http://schemas.microsoft.com/office/spreadsheetml/2015/revision2"]),
    (some "xr3", ["http://schemas.microsoft.com/office/spreadsheetml/2016/revision3"]),
    (some "xr6", ["http://schemas.microsoft.com/office/spreadsheetml/2016/revision6"]),
    (some "xr10", ["http://schemas.microsoft.com/office/spreadsheetml/2016/revision10"]),
    (some "xr11", ["http://schemas.microsoft.com/office/spreadsheetml/2016/revision11"]),
    (some "xr12", ["http://schemas.microsoft.com/office/spreadsheetml/2016/revision12"]),
    (some "xr16", ["http://schemas.microsoft.com/office/spreadsheetml/2016/revision16"]),
    (some "a", ["http://schemas.openxmlformats.org/drawingml/2006/main"]),
    (some "cp", ["http://schemas.openxmlformats.org/package/2006/metadata/core-properties"]),
    (some "dc", ["http://purl.org/dc/elements/1.1/"]),
    (some "dcterms", ["http://purl.org/dc/terms/"]),
    (some "dcmitype", ["http://purl.org/dc/dcmitype/"]),
    (some "xsi", ["http://www.w3.org/2001/XMLSchema-instance"]),
    (some "vt", ["http://schemas.openxmlformats.org/officeDocument/2006/docPropsVTypes"])]

/-- A binding of the table. -/
def NamespaceBinding.IsAllowed (binding : NamespaceBinding) : Prop :=
  binding.uri ∈ (allowedNamespaceBindings.lookup binding.namespacePrefix).getD []

instance decidableBindingIsAllowed (binding : NamespaceBinding) : Decidable binding.IsAllowed :=
  inferInstanceAs (Decidable (_ ∈ _))

/-- `_validate_namespaces`. -/
def validateNamespaces (text : List Char) : Except XmlLexicalError Unit := do
  let assignments := Regex.finditer assignmentAt text
  let declarations := Regex.finditer declarationAt text
  require (assignments.length = declarations.length) .namespaceUnmodeled
  declarations.forM fun declaration => require declaration.2.IsAllowed .namespaceUnmodeled

/-- `_XML_DECLARATION.sub("", text, count=1)`. -/
def withoutDeclaration (text : List Char) : List Char := (xmlDeclaration.match? text).getD text

/-- `_validate_xml_lexical_content`. -/
def validateXmlLexicalContent (payload : List UInt8) : Except XmlLexicalError Unit := do
  let text ← requireSome (decodeUtf8Sig payload) .encodingUnsupported
  require (¬['<', '!', '-', '-'] <:+: text.toList) .commentForbidden
  require (¬['<', '?'] <:+: withoutDeclaration text.toList) .processingInstructionForbidden
  validateNamespaces (withoutDeclaration text.toList)

end Xlsx
end QuantumAnalytics
