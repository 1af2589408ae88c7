import HurlHtml.Ast
import HurlHtml.Escape

/-!
# The HTML formatter of `html.rs`

An `HtmlFormatter` owns one buffer and every method only pushes onto it, so each
`fmt_x` is modelled by the text it pushes: the call turns the buffer `b` into `b ++ fmtX x`.
A `for_each` over children pushes their texts in order, which is their `String.join`, itself
the buffer fold `foldl (· ++ ·)`. `fmt_number` is generic over `Display` as in the source.
-/

namespace HurlHtml.HtmlFormatter

def fmtPreOpen (cls : String) : String := "<pre><code class=\"" ++ cls ++ "\">"

def fmtPreClose : String := "</code></pre>"

def fmtSpanOpen (cls : String) : String := "<span class=\"" ++ cls ++ "\">"

def fmtSpanClose : String := "</span>"

def fmtSpan (cls value : String) : String := "<span class=\"" ++ cls ++ "\">" ++ value ++ "</span>"

def fmtSpace (space : Whitespace) : String := if !space.value.isEmpty then space.value else ""

def fmtComment (comment : Comment) : String := fmtSpan "comment" ("#" ++ escapeXml comment.value)

def fmtLt (lt : LineTerminator) : String :=
  fmtSpace lt.space0 ++ (match lt.comment with | some v => fmtComment v | none => "") ++
    lt.newline.value

/-- Unlike `fmt_lt`, the loop of `fmt_lts` skips an empty newline. -/
def fmtLts (lineTerminators : List LineTerminator) : String :=
  String.join (lineTerminators.map fun lt =>
    fmtSpace lt.space0 ++ (match lt.comment with | some v => fmtComment v | none => "") ++
      if !lt.newline.value.isEmpty then lt.newline.value else "")

@[simp] theorem fmtSpace_eq (space : Whitespace) : fmtSpace space = space.value := by
  unfold fmtSpace
  split_ifs with h
  · rfl
  · exact ((String.isEmpty_iff _).mp (by simpa using h)).symm

@[simp] theorem join_cons (a : String) (l : List String) :
    String.join (a :: l) = a ++ String.join l := String.ext (by simp)

theorem fmtSpan_eq (cls value : String) :
    fmtSpan cls value = fmtSpanOpen cls ++ value ++ fmtSpanClose := rfl

/-- The loop of `fmt_lts` writes each terminator as `fmt_lt` does: an empty newline adds
nothing either way. -/
theorem fmtLts_eq_join (lineTerminators : List LineTerminator) :
    fmtLts lineTerminators = String.join (lineTerminators.map fmtLt) := by
  unfold fmtLts fmtLt
  congr 2; funext lt
  split_ifs with h
  · rfl
  · simp [(String.isEmpty_iff _).mp (by simpa using h)]

def fmtString (value : String) : String := fmtSpan "string" value

def fmtBool (value : Bool) : String := fmtSpan "boolean" (toString value)

def fmtNumber {T : Type} [ToString T] (value : T) : String := fmtSpan "number" (toString value)

@[simp] theorem fmtNumber_string (value : String) : fmtNumber value = fmtSpan "number" value := rfl

def fmtXml (value : String) : String := fmtSpan "xml" (escapeXml value)

def fmtJsonValue (jsonValue : JsonValue) : String := fmtSpan "json" (escapeXml jsonValue.source)

def fmtMultilineString (multilineString : MultilineString) : String :=
  fmtSpan "multiline" (escapeXml multilineString.source)

/- The expected texts of the unit tests of `html.rs`, given the sources `to_source` returns. -/

example : fmtXml "<?xml version=\"1.0\"?>\n<drink>café</drink>" =
    "<span class=\"xml\">&lt;?xml version=\"1.0\"?&gt;\n&lt;drink&gt;café&lt;/drink&gt;</span>" := by
  decide

example : fmtJsonValue ⟨"\x7b\n   \"id\": 1\n\x7d"⟩ =
    "<span class=\"json\">\x7b\n   \"id\": 1\n\x7d</span>" := by decide

example : fmtJsonValue ⟨"\"\\n\""⟩ = "<span class=\"json\">\"\\n\"</span>" := by decide

example : fmtMultilineString ⟨"```\nline1\nline2\n```"⟩ =
    "<span class=\"multiline\">```\nline1\nline2\n```</span>" := by decide

def fmtTemplate (template : Template) : String := fmtString (escapeXml template.toSource)

def fmtPlaceholder (placeholder : Placeholder) : String := fmtSpan "expr" placeholder.toSource

def fmtRegex (regex : Regex) : String := fmtSpan "regex" regex.source

/-- The text `fmt_filename` writes inside its span: the decoded filename, spaces escaped. -/
def filenameText (filename : Template) : String := replaceChar filename.toString ' ' "\\ "

def fmtFilename (filename : Template) : String :=
  fmtSpanOpen "filename" ++ filenameText filename ++ fmtSpanClose

def fmtFile (file : File) : String :=
  "file," ++ fmtSpace file.space0 ++ fmtFilename file.filename ++ fmtSpace file.space1 ++ ";"

def fmtBase64 (base64 : Base64) : String :=
  "base64," ++ fmtSpace base64.space0 ++ fmtSpan "base64" base64.source ++
    fmtSpace base64.space1 ++ ";"

def fmtHex (hex : Hex) : String :=
  "hex," ++ fmtSpace hex.space0 ++ fmtSpan "hex" hex.source ++ fmtSpace hex.space1 ++ ";"

def fmtBoolOption : BooleanOption → String
  | .literal value => fmtSpan "boolean" (toString value)
  | .placeholder value => fmtPlaceholder value

def fmtNaturalOption : NaturalOption → String
  | .literal value => fmtSpan "number" value.source
  | .placeholder value => fmtPlaceholder value

def fmtDurationOption : DurationOption → String
  | .literal literal => fmtSpan "number" literal.value.source ++
      (match literal.unit with | some unit => fmtSpan "unit" unit.toString | none => "")
  | .placeholder value => fmtPlaceholder value

/-- `Count::Infinite` is written as the number `-1`. -/
def fmtCount : Count → String
  | .finite n => fmtNumber n
  | .infinite => fmtNumber (-1 : Int)

def fmtCountOption : CountOption → String
  | .literal count => fmtCount count
  | .placeholder placeholder => fmtPlaceholder placeholder

def fmtVariableValue : VariableValue → String
  | .null => fmtSpan "null" "null"
  | .bool v => fmtBool v
  | .number v => fmtNumber v.source
  | .string t => fmtTemplate t

def fmtVariableDefinition (option : VariableDefinition) : String :=
  option.name ++ fmtSpace option.space0 ++ "=" ++ fmtSpace option.space1 ++
    fmtVariableValue option.value

/-- The `match &option.kind` of `fmt_entry_option`. -/
def fmtOptionKind : OptionKind → String
  | .awsSigV4 value => fmtTemplate value
  | .caCertificate filename => fmtFilename filename
  | .clientCert filename => fmtFilename filename
  | .clientKey filename => fmtFilename filename
  | .compressed value => fmtBoolOption value
  | .connectTo value => fmtTemplate value
  | .connectTimeout value => fmtDurationOption value
  | .delay value => fmtDurationOption value
  | .followLocation value => fmtBoolOption value
  | .followLocationTrusted value => fmtBoolOption value
  | .header value => fmtTemplate value
  | .http10 value => fmtBoolOption value
  | .http11 value => fmtBoolOption value
  | .http2 value => fmtBoolOption value
  | .http3 value => fmtBoolOption value
  | .insecure value => fmtBoolOption value
  | .ipV4 value => fmtBoolOption value
  | .ipV6 value => fmtBoolOption value
  | .limitRate value => fmtNaturalOption value
  | .maxRedirect value => fmtCountOption value
  | .maxTime value => fmtDurationOption value
  | .netRc value => fmtBoolOption value
  | .netRcFile filename => fmtFilename filename
  | .netRcOptional value => fmtBoolOption value
  | .output filename => fmtFilename filename
  | .pathAsIs value => fmtBoolOption value
  | .pinnedPublicKey value => fmtTemplate value
  | .proxy value => fmtTemplate value
  | .repeat value => fmtCountOption value
  | .resolve value => fmtTemplate value
  | .retry value => fmtCountOption value
  | .retryInterval value => fmtDurationOption value
  | .skip value => fmtBoolOption value
  | .unixSocket value => fmtFilename value
  | .user value => fmtTemplate value
  | .variable value => fmtVariableDefinition value
  | .verbose value => fmtBoolOption value
  | .veryVerbose value => fmtBoolOption value

def fmtEntryOption (option : EntryOption) : String :=
  fmtLts option.lineTerminators ++ fmtSpace option.space0 ++ fmtString option.kind.identifier ++
    fmtSpace option.space1 ++ ":" ++ fmtSpace option.space2 ++ fmtOptionKind option.kind ++
    fmtLt option.lineTerminator0

def fmtKv (kv : KeyValue) : String :=
  fmtLts kv.lineTerminators ++ fmtSpace kv.space0 ++ fmtTemplate kv.key ++ fmtSpace kv.space1 ++
    ":" ++ fmtSpace kv.space2 ++ fmtTemplate kv.value ++ fmtLt kv.lineTerminator0

def fmtFileValue (fileValue : FilenameValue) : String :=
  "file," ++ fmtSpace fileValue.space0 ++ fmtFilename fileValue.filename ++
    fmtSpace fileValue.space1 ++ ";" ++ fmtSpace fileValue.space2 ++
    (match fileValue.contentType with | some contentType => fmtTemplate contentType | none => "")

def fmtFileParam (param : FilenameParam) : String :=
  fmtLts param.lineTerminators ++ fmtSpace param.space0 ++ fmtTemplate param.key ++
    fmtSpace param.space1 ++ ":" ++ fmtSpace param.space2 ++ fmtFileValue param.value ++
    fmtLt param.lineTerminator0

def fmtMultipartParam : MultipartParam → String
  | .param param => fmtKv param
  | .filenameParam param => fmtFileParam param

def fmtCookie (cookie : Cookie) : String :=
  fmtLts cookie.lineTerminators ++ fmtSpace cookie.space0 ++ fmtTemplate cookie.name ++
    fmtSpace cookie.space1 ++ ":" ++ fmtSpace cookie.space2 ++ fmtTemplate cookie.value ++
    fmtLt cookie.lineTerminator0

def fmtRegexValue : RegexValue → String
  | .template template => fmtTemplate template
  | .regex regex => fmtRegex regex

def fmtCookieAttribute (cookieAttribute : CookieAttribute) : String :=
  fmtSpace cookieAttribute.space0 ++ cookieAttribute.name.value ++ fmtSpace cookieAttribute.space1

/-- The cookie path is written as a quoted string, its name by its source and its attribute
between brackets. -/
def fmtCookiePath (cookiePath : CookiePath) : String :=
  fmtSpanOpen "string" ++ "\"" ++ cookiePath.name.toSource ++
    (match cookiePath.attribute with
      | some cookieAttribute => "[" ++ fmtCookieAttribute cookieAttribute ++ "]"
      | none => "") ++ "\"" ++ fmtSpanClose

def fmtCertificateAttributeName (name : CertificateAttributeName) : String :=
  fmtSpanOpen "string" ++ "\"" ++ name.identifier ++ "\"" ++ fmtSpanClose

def fmtQueryValue (queryValue : QueryValue) : String :=
  fmtSpan "query-type" queryValue.identifier ++
    match queryValue with
    | .header space0 name => fmtSpace space0 ++ fmtTemplate name
    | .cookie space0 expr => fmtSpace space0 ++ fmtCookiePath expr
    | .xpath space0 expr => fmtSpace space0 ++ fmtTemplate expr
    | .jsonpath space0 expr => fmtSpace space0 ++ fmtTemplate expr
    | .regex space0 value => fmtSpace space0 ++ fmtRegexValue value
    | .variable space0 name => fmtSpace space0 ++ fmtTemplate name
    | .certificate space0 field => fmtSpace space0 ++ fmtCertificateAttributeName field
    | .status | .version | .url | .body | .duration | .bytes | .sha256 | .md5 | .ip
    | .redirects => ""

def fmtQuery (query : Query) : String := fmtQueryValue query.value

def fmtFilterValue (filterValue : FilterValue) : String :=
  fmtSpan "filter-type" filterValue.identifier ++
    match filterValue with
    | .decode space0 encoding => fmtSpace space0 ++ fmtTemplate encoding
    | .format space0 fmt => fmtSpace space0 ++ fmtTemplate fmt
    | .jsonPath space0 expr => fmtSpace space0 ++ fmtTemplate expr
    | .nth space0 value => fmtSpace space0 ++ fmtNumber value.source
    | .regex space0 value => fmtSpace space0 ++ fmtRegexValue value
    | .replace space0 oldValue space1 newValue =>
      fmtSpace space0 ++ fmtTemplate oldValue ++ fmtSpace space1 ++ fmtTemplate newValue
    | .replaceRegex space0 pattern space1 newValue =>
      fmtSpace space0 ++ fmtRegexValue pattern ++ fmtSpace space1 ++ fmtTemplate newValue
    | .split space0 sep => fmtSpace space0 ++ fmtTemplate sep
    | .toDate space0 fmt => fmtSpace space0 ++ fmtTemplate fmt
    | .urlQueryParam space0 param => fmtSpace space0 ++ fmtTemplate param
    | .xPath space0 expr => fmtSpace space0 ++ fmtTemplate expr
    | .base64Decode | .base64Encode | .base64UrlSafeDecode | .base64UrlSafeEncode | .count
    | .daysAfterNow | .daysBeforeNow | .first | .htmlEscape | .htmlUnescape | .last | .location
    | .toFloat | .toHex | .toInt | .toString | .urlDecode | .urlEncode => ""

def fmtFilter (filter : Filter) : String := fmtFilterValue filter.value

/-- The loop over `(space, filter)` pairs that `fmt_capture` and `fmt_assert` both inline. -/
def fmtFilters (filters : List (Whitespace × Filter)) : String :=
  String.join (filters.map fun (space, filter) => fmtSpace space ++ fmtFilter filter)

def fmtCapture (capture : Capture) : String :=
  fmtLts capture.lineTerminators ++ fmtSpace capture.space0 ++ fmtTemplate capture.name ++
    fmtSpace capture.space1 ++ ":" ++ fmtSpace capture.space2 ++ fmtQuery capture.query ++
    fmtFilters capture.filters ++
    fmtSpace capture.space3 ++ (if capture.redact then fmtString "redact" else "") ++
    fmtLt capture.lineTerminator0

def fmtPredicateValue : PredicateValue → String
  | .string value => fmtTemplate value
  | .multilineString value => fmtMultilineString value
  | .number value => fmtNumber value.source
  | .bool value => fmtBool value
  | .file value => fmtFile value
  | .hex value => fmtHex value
  | .base64 value => fmtBase64 value
  | .placeholder value => fmtPlaceholder value
  | .null => fmtSpan "null" "null"
  | .regex value => fmtRegex value

/-- The predicate's keyword goes through `encode_html`, which escapes `<` and `>` only. -/
def fmtPredicateFuncValue (value : PredicateFuncValue) : String :=
  fmtSpanOpen "predicate-type" ++ encodeHtml value.identifier ++ fmtSpanClose ++
    match value with
    | .equal space0 value _ => fmtSpace space0 ++ fmtPredicateValue value
    | .notEqual space0 value _ => fmtSpace space0 ++ fmtPredicateValue value
    | .greaterThan space0 value _ => fmtSpace space0 ++ fmtPredicateValue value
    | .greaterThanOrEqual space0 value _ => fmtSpace space0 ++ fmtPredicateValue value
    | .lessThan space0 value _ => fmtSpace space0 ++ fmtPredicateValue value
    | .lessThanOrEqual space0 value _ => fmtSpace space0 ++ fmtPredicateValue value
    | .startWith space0 value => fmtSpace space0 ++ fmtPredicateValue value
    | .endWith space0 value => fmtSpace space0 ++ fmtPredicateValue value
    | .contain space0 value => fmtSpace space0 ++ fmtPredicateValue value
    | .include space0 value => fmtSpace space0 ++ fmtPredicateValue value
    | .match space0 value => fmtSpace space0 ++ fmtPredicateValue value
    | .isInteger | .isFloat | .isBoolean | .isString | .isCollection | .isDate | .isIsoDate
    | .exist | .isEmpty | .isNumber | .isIpv4 | .isIpv6 => ""

def fmtPredicateFunc (predicateFunc : PredicateFunc) : String :=
  fmtPredicateFuncValue predicateFunc.value

def fmtPredicate (predicate : Predicate) : String :=
  (if predicate.not then fmtSpan "not" "not" ++ fmtSpace predicate.space0 else "") ++
    fmtPredicateFunc predicate.predicateFunc

def fmtAssert (assert : Assert) : String :=
  fmtLts assert.lineTerminators ++ fmtSpace assert.space0 ++ fmtQuery assert.query ++
    fmtFilters assert.filters ++
    fmtSpace assert.space1 ++ fmtPredicate assert.predicate ++ fmtLt assert.lineTerminator0

def fmtBytes : Bytes → String
  | .base64 value => fmtBase64 value
  | .file value => fmtFile value
  | .hex value => fmtHex value
  | .onelineString value => fmtTemplate value
  | .json value => fmtJsonValue value
  | .multilineString value => fmtMultilineString value
  | .xml value => fmtXml value

/-- The body's own line terminator is written inline, as `fmt_lt` would write it. -/
def fmtBody (body : Body) : String :=
  let lt := body.lineTerminator0
  fmtLts body.lineTerminators ++ fmtSpace body.space0 ++ fmtBytes body.value ++
    fmtSpace lt.space0 ++ (match lt.comment with | some v => fmtComment v | none => "") ++
    lt.newline.value

def fmtSectionValue : SectionValue → String
  | .asserts items => String.join (items.map fmtAssert)
  | .queryParams items _ => String.join (items.map fmtKv)
  | .basicAuth item => match item with | some kv => fmtKv kv | none => ""
  | .formParams items _ => String.join (items.map fmtKv)
  | .multipartFormData items _ => String.join (items.map fmtMultipartParam)
  | .cookies items => String.join (items.map fmtCookie)
  | .captures items => String.join (items.map fmtCapture)
  | .options items => String.join (items.map fmtEntryOption)

def fmtSection (s : Section) : String :=
  fmtLts s.lineTerminators ++ fmtSpace s.space0 ++
    fmtSpan "section-header" ("[" ++ s.identifier ++ "]") ++ fmtLt s.lineTerminator0 ++
    fmtSectionValue s.value

def fmtMethod (method : Method) : String := fmtSpan "method" method.value

def fmtVersion (version : Version) : String := fmtSpan "version" version.value.toString

def fmtStatus (status : Status) : String := fmtNumber status.value.toString

def fmtRequest (request : Request) : String :=
  fmtSpanOpen "request" ++ fmtLts request.lineTerminators ++ fmtSpace request.space0 ++
    fmtMethod request.method ++ fmtSpace request.space1 ++
    fmtSpan "url" (escapeXml request.url.toSource) ++ fmtLt request.lineTerminator0 ++
    String.join (request.headers.map fmtKv) ++ String.join (request.sections.map fmtSection) ++
    (match request.body with | some body => fmtBody body | none => "") ++ fmtSpanClose

def fmtResponse (response : Response) : String :=
  fmtSpanOpen "response" ++ fmtLts response.lineTerminators ++ fmtSpace response.space0 ++
    fmtVersion response.version ++ fmtSpace response.space1 ++ fmtStatus response.status ++
    fmtLt response.lineTerminator0 ++ String.join (response.headers.map fmtKv) ++
    String.join (response.sections.map fmtSection) ++
    (match response.body with | some body => fmtBody body | none => "") ++ fmtSpanClose

def fmtEntry (entry : Entry) : String :=
  fmtSpanOpen "entry" ++ fmtRequest entry.request ++
    (match entry.response with | some response => fmtResponse response | none => "") ++
    fmtSpanClose

/-- `fmt_hurl_file` clears the buffer first, so its text is the whole buffer. -/
def fmtHurlFile (hurlFile : HurlFile) : String :=
  fmtPreOpen "language-hurl" ++ String.join (hurlFile.entries.map fmtEntry) ++
    fmtLts hurlFile.lineTerminators ++ fmtPreClose

theorem fmtBody_eq (body : Body) : fmtBody body =
    fmtLts body.lineTerminators ++ fmtSpace body.space0 ++ fmtBytes body.value ++
      fmtLt body.lineTerminator0 := by
  simp only [fmtBody, fmtLt, String.append_assoc]

/-- The buffer fold of `for lt in lts` with `fmt_lt` as its body. -/
theorem foldl_fmtLt (buffer : String) (lineTerminators : List LineTerminator) :
    lineTerminators.foldl (fun buffer lt => buffer ++ fmtLt lt) buffer =
      buffer ++ String.join (lineTerminators.map fmtLt) := by
  induction lineTerminators generalizing buffer with
  | nil => exact String.ext (by simp)
  | cons lt lts ih => rw [List.foldl_cons, ih]; exact String.ext (by simp)

/-- The three renderings of line terminators agree: from any buffer, `fmt_lts` appends what
calling `fmt_lt` on each terminator in order appends, and `fmt_body` ends with exactly the
text of `fmt_lt` on the body's own terminator. -/
theorem fmtLts_agrees_fmtLt :
    (∀ (buffer : String) (lineTerminators : List LineTerminator),
      buffer ++ fmtLts lineTerminators =
        lineTerminators.foldl (fun buffer lt => buffer ++ fmtLt lt) buffer) ∧
    ∀ body : Body, fmtBody body =
      fmtLts body.lineTerminators ++ fmtSpace body.space0 ++ fmtBytes body.value ++
        fmtLt body.lineTerminator0 :=
  ⟨fun buffer lts => by rw [foldl_fmtLt, fmtLts_eq_join], fmtBody_eq⟩

end HurlHtml.HtmlFormatter

namespace HurlHtml

open HtmlFormatter

/-- `format`; `css` is the bundled stylesheet `hurl.css`, which is not among the sources. -/
def format (css : String) (hurlFile : HurlFile) (standalone : Bool) : String :=
  let body := fmtHurlFile hurlFile
  if standalone then
    "<!DOCTYPE html>\n<html>\n    <head>\n        <meta charset=\"utf-8\">\n" ++
      "        <title>Hurl File</title>\n        <style>\n" ++ css ++
      "\n        </style>\n    </head>\n    <body>\n" ++ body ++ "\n    </body>\n</html>\n"
  else body

end HurlHtml
