
/-!
# The Hurl syntax tree read by the HTML formatter

`html.rs` takes its node types from `hurl_core::ast`, which is not among the sources
modelled here. The types below follow the spec's data model and keep exactly the fields
the formatter reads, under the names `html.rs` uses; `source_info` fields, which it never
reads, are left out. A leaf that the formatter only ever reads through `to_source()`
(regexes, numbers, JSON and multiline bodies) is represented by that source text.
-/

namespace HurlHtml

structure Whitespace where
  value : String

structure Comment where
  value : String

structure LineTerminator where
  space0 : Whitespace
  comment : Option Comment
  newline : Whitespace

/-- An expression placeholder `{{ expr }}`; `expr` is the text of the expression. -/
structure Placeholder where
  space0 : Whitespace
  expr : String
  space1 : Whitespace

/-- A template fragment carries its decoded value beside its verbatim source. -/
inductive TemplateElement where
  | string (value source : String)
  | placeholder (value : Placeholder)

structure Template where
  delimiter : Option Char
  elements : List TemplateElement

/-- Modelled from the spec: `Placeholder::to_source`, the verbatim `{{ expr }}` text. -/
def Placeholder.toSource (p : Placeholder) : String :=
  "\x7b\x7b" ++ p.space0.value ++ p.expr ++ p.space1.value ++ "\x7d\x7d"

/-- Modelled from the spec: `TemplateElement::to_source`. -/
def TemplateElement.toSource : TemplateElement → String
  | .string _ source => source
  | .placeholder p => p.toSource

/-- Modelled from the spec: the `Display` of a template element, its decoded value; a
placeholder shows as `{{expr}}`, without the whitespace inside its braces. -/
def TemplateElement.toString : TemplateElement → String
  | .string value _ => value
  | .placeholder p => "\x7b\x7b" ++ p.expr ++ "\x7d\x7d"

/-- The delimiter a template is written between, if any. -/
def delimiterText : Option Char → String
  | some d => d.toString
  | none => ""

/-- Modelled from the spec: `Template::to_source`, the elements' sources between the
template's delimiters. -/
def Template.toSource (t : Template) : String :=
  delimiterText t.delimiter ++ String.join (t.elements.map TemplateElement.toSource) ++
    delimiterText t.delimiter

/-- Modelled from the spec: the `Display` of a template, its elements' decoded values. -/
def Template.toString (t : Template) : String :=
  String.join (t.elements.map TemplateElement.toString)

structure Regex where
  source : String

inductive RegexValue where
  | template (value : Template)
  | regex (value : Regex)

structure MultilineString where
  source : String

structure JsonValue where
  source : String

structure Number where
  source : String

structure U64 where
  source : String

structure I64 where
  source : String

structure Base64 where
  space0 : Whitespace
  source : String
  space1 : Whitespace

structure Hex where
  space0 : Whitespace
  source : String
  space1 : Whitespace

structure File where
  space0 : Whitespace
  filename : Template
  space1 : Whitespace

inductive Count where
  | finite (n : Nat)
  | infinite

inductive DurationUnit where
  | millisecond | second | minute

/-- Modelled from the spec: the `Display` of a duration unit. -/
def DurationUnit.toString : DurationUnit → String
  | .millisecond => "ms" | .second => "s" | .minute => "m"

structure Duration where
  value : U64
  unit : Option DurationUnit

inductive BooleanOption where
  | literal (value : Bool)
  | placeholder (value : Placeholder)

inductive NaturalOption where
  | literal (value : U64)
  | placeholder (value : Placeholder)

inductive DurationOption where
  | literal (value : Duration)
  | placeholder (value : Placeholder)

inductive CountOption where
  | literal (value : Count)
  | placeholder (value : Placeholder)

inductive VariableValue where
  | null
  | bool (value : Bool)
  | number (value : Number)
  | string (value : Template)

structure VariableDefinition where
  name : String
  space0 : Whitespace
  space1 : Whitespace
  value : VariableValue

inductive OptionKind where
  | awsSigV4 (value : Template)
  | caCertificate (filename : Template)
  | clientCert (filename : Template)
  | clientKey (filename : Template)
  | compressed (value : BooleanOption)
  | connectTo (value : Template)
  | connectTimeout (value : DurationOption)
  | delay (value : DurationOption)
  | followLocation (value : BooleanOption)
  | followLocationTrusted (value : BooleanOption)
  | header (value : Template)
  | http10 (value : BooleanOption)
  | http11 (value : BooleanOption)
  | http2 (value : BooleanOption)
  | http3 (value : BooleanOption)
  | insecure (value : BooleanOption)
  | ipV4 (value : BooleanOption)
  | ipV6 (value : BooleanOption)
  | limitRate (value : NaturalOption)
  | maxRedirect (value : CountOption)
  | maxTime (value : DurationOption)
  | netRc (value : BooleanOption)
  | netRcFile (filename : Template)
  | netRcOptional (value : BooleanOption)
  | output (filename : Template)
  | pathAsIs (value : BooleanOption)
  | pinnedPublicKey (value : Template)
  | proxy (value : Template)
  | repeat (value : CountOption)
  | resolve (value : Template)
  | retry (value : CountOption)
  | retryInterval (value : DurationOption)
  | skip (value : BooleanOption)
  | unixSocket (value : Template)
  | user (value : Template)
  | variable (value : VariableDefinition)
  | verbose (value : BooleanOption)
  | veryVerbose (value : BooleanOption)

/-- Modelled from the spec: `OptionKind::identifier`, the option's keyword in the grammar. -/
def OptionKind.identifier : OptionKind → String
  | .awsSigV4 _ => "aws-sigv4" | .caCertificate _ => "cacert" | .clientCert _ => "cert"
  | .clientKey _ => "key" | .compressed _ => "compressed" | .connectTo _ => "connect-to"
  | .connectTimeout _ => "connect-timeout" | .delay _ => "delay"
  | .followLocation _ => "location" | .followLocationTrusted _ => "location-trusted"
  | .header _ => "header" | .http10 _ => "http1.0" | .http11 _ => "http1.1"
  | .http2 _ => "http2" | .http3 _ => "http3" | .insecure _ => "insecure"
  | .ipV4 _ => "ipv4" | .ipV6 _ => "ipv6" | .limitRate _ => "limit-rate"
  | .maxRedirect _ => "max-redirs" | .maxTime _ => "max-time" | .netRc _ => "netrc"
  | .netRcFile _ => "netrc-file" | .netRcOptional _ => "netrc-optional"
  | .output _ => "output" | .pathAsIs _ => "path-as-is" | .pinnedPublicKey _ => "pinnedpubkey"
  | .proxy _ => "proxy" | .repeat _ => "repeat" | .resolve _ => "resolve" | .retry _ => "retry"
  | .retryInterval _ => "retry-interval" | .skip _ => "skip" | .unixSocket _ => "unix-socket"
  | .user _ => "user" | .variable _ => "variable" | .verbose _ => "verbose"
  | .veryVerbose _ => "very-verbose"

structure EntryOption where
  lineTerminators : List LineTerminator
  space0 : Whitespace
  space1 : Whitespace
  space2 : Whitespace
  kind : OptionKind
  lineTerminator0 : LineTerminator

structure KeyValue where
  lineTerminators : List LineTerminator
  space0 : Whitespace
  key : Template
  space1 : Whitespace
  space2 : Whitespace
  value : Template
  lineTerminator0 : LineTerminator

structure FilenameValue where
  space0 : Whitespace
  filename : Template
  space1 : Whitespace
  space2 : Whitespace
  contentType : Option Template

structure FilenameParam where
  lineTerminators : List LineTerminator
  space0 : Whitespace
  key : Template
  space1 : Whitespace
  space2 : Whitespace
  value : FilenameValue
  lineTerminator0 : LineTerminator

inductive MultipartParam where
  | param (value : KeyValue)
  | filenameParam (value : FilenameParam)

structure Cookie where
  lineTerminators : List LineTerminator
  space0 : Whitespace
  name : Template
  space1 : Whitespace
  space2 : Whitespace
  value : Template
  lineTerminator0 : LineTerminator

/-- A cookie attribute name, read by the formatter only through `value()`. -/
structure CookieAttributeName where
  value : String

structure CookieAttribute where
  space0 : Whitespace
  name : CookieAttributeName
  space1 : Whitespace

structure CookiePath where
  name : Template
  «attribute» : Option CookieAttribute

inductive CertificateAttributeName where
  | subject | issuer | startDate | expireDate | serialNumber

/-- Modelled from the spec: `CertificateAttributeName::identifier`. -/
def CertificateAttributeName.identifier : CertificateAttributeName → String
  | .subject => "Subject" | .issuer => "Issuer" | .startDate => "Start-Date"
  | .expireDate => "Expire-Date" | .serialNumber => "Serial-Number"

inductive QueryValue where
  | header (space0 : Whitespace) (name : Template)
  | cookie (space0 : Whitespace) (expr : CookiePath)
  | xpath (space0 : Whitespace) (expr : Template)
  | jsonpath (space0 : Whitespace) (expr : Template)
  | regex (space0 : Whitespace) (value : RegexValue)
  | variable (space0 : Whitespace) (name : Template)
  | certificate (space0 : Whitespace) (attributeName : CertificateAttributeName)
  | status | version | url | body | duration | bytes | sha256 | md5 | ip | redirects

/-- Modelled from the spec: `QueryValue::identifier`, the query's keyword. -/
def QueryValue.identifier : QueryValue → String
  | .header .. => "header" | .cookie .. => "cookie" | .xpath .. => "xpath"
  | .jsonpath .. => "jsonpath" | .regex .. => "regex" | .variable .. => "variable"
  | .certificate .. => "certificate" | .status => "status" | .version => "version"
  | .url => "url" | .body => "body" | .duration => "duration" | .bytes => "bytes"
  | .sha256 => "sha256" | .md5 => "md5" | .ip => "ip" | .redirects => "redirects"

structure Query where
  value : QueryValue

inductive FilterValue where
  | decode (space0 : Whitespace) (encoding : Template)
  | format (space0 : Whitespace) (fmt : Template)
  | jsonPath (space0 : Whitespace) (expr : Template)
  | nth (space0 : Whitespace) (n : I64)
  | regex (space0 : Whitespace) (value : RegexValue)
  | replace (space0 : Whitespace) (oldValue : Template) (space1 : Whitespace) (newValue : Template)
  | replaceRegex (space0 : Whitespace) (pattern : RegexValue) (space1 : Whitespace)
      (newValue : Template)
  | split (space0 : Whitespace) (sep : Template)
  | toDate (space0 : Whitespace) (fmt : Template)
  | urlQueryParam (space0 : Whitespace) (param : Template)
  | xPath (space0 : Whitespace) (expr : Template)
  | base64Decode | base64Encode | base64UrlSafeDecode | base64UrlSafeEncode | count
  | daysAfterNow | daysBeforeNow | first | htmlEscape | htmlUnescape | last | location
  | toFloat | toHex | toInt | toString | urlDecode | urlEncode

/-- Modelled from the spec: `FilterValue::identifier`, the filter's keyword. -/
def FilterValue.identifier : FilterValue → String
  | .decode .. => "decode" | .format .. => "format" | .jsonPath .. => "jsonpath"
  | .nth .. => "nth" | .regex .. => "regex" | .replace .. => "replace"
  | .replaceRegex .. => "replaceRegex" | .split .. => "split" | .toDate .. => "toDate"
  | .urlQueryParam .. => "urlQueryParam" | .xPath .. => "xpath"
  | .base64Decode => "base64Decode" | .base64Encode => "base64Encode"
  | .base64UrlSafeDecode => "base64UrlSafeDecode" | .base64UrlSafeEncode => "base64UrlSafeEncode"
  | .count => "count" | .daysAfterNow => "daysAfterNow" | .daysBeforeNow => "daysBeforeNow"
  | .first => "first" | .htmlEscape => "htmlEscape" | .htmlUnescape => "htmlUnescape"
  | .last => "last" | .location => "location" | .toFloat => "toFloat" | .toHex => "toHex"
  | .toInt => "toInt" | .toString => "toString" | .urlDecode => "urlDecode"
  | .urlEncode => "urlEncode"

structure Filter where
  value : FilterValue

structure Capture where
  lineTerminators : List LineTerminator
  space0 : Whitespace
  name : Template
  space1 : Whitespace
  space2 : Whitespace
  query : Query
  filters : List (Whitespace × Filter)
  space3 : Whitespace
  redact : Bool
  lineTerminator0 : LineTerminator

inductive PredicateValue where
  | string (value : Template)
  | multilineString (value : MultilineString)
  | number (value : Number)
  | bool (value : Bool)
  | file (value : File)
  | hex (value : Hex)
  | base64 (value : Base64)
  | placeholder (value : Placeholder)
  | null
  | regex (value : Regex)

/-- The comparison predicates keep whether they were written as an operator (`==`) or as
a word (`equals`); the formatter reads the flag only through `identifier`. -/
inductive PredicateFuncValue where
  | equal (space0 : Whitespace) (value : PredicateValue) (operator : Bool)
  | notEqual (space0 : Whitespace) (value : PredicateValue) (operator : Bool)
  | greaterThan (space0 : Whitespace) (value : PredicateValue) (operator : Bool)
  | greaterThanOrEqual (space0 : Whitespace) (value : PredicateValue) (operator : Bool)
  | lessThan (space0 : Whitespace) (value : PredicateValue) (operator : Bool)
  | lessThanOrEqual (space0 : Whitespace) (value : PredicateValue) (operator : Bool)
  | startWith (space0 : Whitespace) (value : PredicateValue)
  | endWith (space0 : Whitespace) (value : PredicateValue)
  | contain (space0 : Whitespace) (value : PredicateValue)
  | «include» (space0 : Whitespace) (value : PredicateValue)
  | «match» (space0 : Whitespace) (value : PredicateValue)
  | isInteger | isFloat | isBoolean | isString | isCollection | isDate | isIsoDate | exist
  | isEmpty | isNumber | isIpv4 | isIpv6

/-- Modelled from the spec: `PredicateFuncValue::identifier`, the predicate's keyword; the
comparison operators are the only ones holding `<` or `>`. -/
def PredicateFuncValue.identifier : PredicateFuncValue → String
  | .equal _ _ op => if op then "==" else "equals"
  | .notEqual _ _ op => if op then "!=" else "notEquals"
  | .greaterThan _ _ op => if op then ">" else "greaterThan"
  | .greaterThanOrEqual _ _ op => if op then ">=" else "greaterThanOrEquals"
  | .lessThan _ _ op => if op then "<" else "lessThan"
  | .lessThanOrEqual _ _ op => if op then "<=" else "lessThanOrEquals"
  | .startWith .. => "startsWith" | .endWith .. => "endsWith" | .contain .. => "contains"
  | .include .. => "includes" | .match .. => "matches" | .isInteger => "isInteger"
  | .isFloat => "isFloat" | .isBoolean => "isBoolean" | .isString => "isString"
  | .isCollection => "isCollection" | .isDate => "isDate" | .isIsoDate => "isIsoDate"
  | .exist => "exists" | .isEmpty => "isEmpty" | .isNumber => "isNumber"
  | .isIpv4 => "isIpv4" | .isIpv6 => "isIpv6"

structure PredicateFunc where
  value : PredicateFuncValue

structure Predicate where
  not : Bool
  space0 : Whitespace
  predicateFunc : PredicateFunc

structure Assert where
  lineTerminators : List LineTerminator
  space0 : Whitespace
  query : Query
  filters : List (Whitespace × Filter)
  space1 : Whitespace
  predicate : Predicate
  lineTerminator0 : LineTerminator

inductive Bytes where
  | base64 (value : Base64)
  | file (value : File)
  | hex (value : Hex)
  | onelineString (value : Template)
  | json (value : JsonValue)
  | multilineString (value : MultilineString)
  | xml (value : String)

structure Body where
  lineTerminators : List LineTerminator
  space0 : Whitespace
  value : Bytes
  lineTerminator0 : LineTerminator

/-- The flag of the three parameter sections tells the short header (`[Query]`) from the
long one (`[QueryStringParams]`). -/
inductive SectionValue where
  | asserts (items : List Assert)
  | queryParams (items : List KeyValue) (short : Bool)
  | basicAuth (item : Option KeyValue)
  | formParams (items : List KeyValue) (short : Bool)
  | multipartFormData (items : List MultipartParam) (short : Bool)
  | cookies (items : List Cookie)
  | captures (items : List Capture)
  | options (items : List EntryOption)

/-- Modelled from the spec: `Section::identifier`, the name written between the brackets
of the section header. -/
def SectionValue.identifier : SectionValue → String
  | .asserts _ => "Asserts"
  | .queryParams _ short => if short then "Query" else "QueryStringParams"
  | .basicAuth _ => "BasicAuth"
  | .formParams _ short => if short then "Form" else "FormParams"
  | .multipartFormData _ short => if short then "Multipart" else "MultipartFormData"
  | .cookies _ => "Cookies"
  | .captures _ => "Captures"
  | .options _ => "Options"

structure Section where
  lineTerminators : List LineTerminator
  space0 : Whitespace
  lineTerminator0 : LineTerminator
  value : SectionValue

def Section.identifier (s : Section) : String := s.value.identifier

structure Method where
  value : String

inductive VersionValue where
  | version1 | version11 | version2 | version3 | versionAny

/-- Modelled from the spec: the `Display` of an HTTP version. -/
def VersionValue.toString : VersionValue → String
  | .version1 => "HTTP/1.0" | .version11 => "HTTP/1.1" | .version2 => "HTTP/2"
  | .version3 => "HTTP/3" | .versionAny => "HTTP"

structure Version where
  value : VersionValue

inductive StatusValue where
  | any
  | specific (value : Nat)

/-- Modelled from the spec: the `Display` of a status, `*` for any status. -/
def StatusValue.toString : StatusValue → String
  | .any => "*"
  | .specific n => Nat.repr n

structure Status where
  value : StatusValue

structure Request where
  lineTerminators : List LineTerminator
  space0 : Whitespace
  method : Method
  space1 : Whitespace
  url : Template
  lineTerminator0 : LineTerminator
  headers : List KeyValue
  sections : List Section
  body : Option Body

structure Response where
  lineTerminators : List LineTerminator
  space0 : Whitespace
  version : Version
  space1 : Whitespace
  status : Status
  lineTerminator0 : LineTerminator
  headers : List KeyValue
  sections : List Section
  body : Option Body

structure Entry where
  request : Request
  response : Option Response

structure HurlFile where
  entries : List Entry
  lineTerminators : List LineTerminator

end HurlHtml
