import HurlHtml.HtmlFormatter

/-!
# The source text of a tree

The concrete text a node stands for, in physical order: whitespace and newlines by their
values, a comment as `#` and its text, templates, placeholders, regexes, numbers, JSON and
multiline bodies by their verbatim source, keywords and separators as written. How a
filename is spelled is the parameter `spell`: `Template.toSource` gives the file's verbatim
source, and `filenameText` the text `fmt_filename` writes, its decoded value with each space
escaped. The two give a file the same text as soon as they agree on every template of
`filenames`, the templates `fmt_filename` writes.

`RawPlain` asks that every string the formatter writes without `escape_xml` be free of `<`,
`>` and `&`: whitespace, newlines, the method, numbers, base64 and hex sources, regexes,
placeholders, variable names, cookie paths and filename texts.
-/

namespace HurlHtml

open HtmlFormatter

/-- No markup character. -/
def Plain (s : String) : Prop := '<' ∉ s.data ∧ '>' ∉ s.data ∧ '&' ∉ s.data

instance : DecidablePred Plain := fun s =>
  inferInstanceAs (Decidable ('<' ∉ s.data ∧ '>' ∉ s.data ∧ '&' ∉ s.data))

@[simp] theorem plain_append (a b : String) : Plain (a ++ b) ↔ Plain a ∧ Plain b := by
  simp only [Plain, String.data_append, List.mem_append, not_or]; tauto

theorem digitChar_mem : ∀ k, Nat.digitChar k ∈ "0123456789abcdef*".data
  | 0 | 1 | 2 | 3 | 4 | 5 | 6 | 7 | 8 | 9 | 10 | 11 | 12 | 13 | 14 | 15 => by decide
  | k + 16 => by
    have : Nat.digitChar (k + 16) = '*' := by simp [Nat.digitChar]
    rw [this]; decide

theorem plain_digitChar (k : Nat) : Plain (Nat.digitChar k).toString := by
  have h : ∀ c ∈ "0123456789abcdef*".data, Plain c.toString := by decide
  exact h _ (digitChar_mem k)

/-- A decimal numeral holds no markup character. -/
theorem plain_repr (n : Nat) : Plain (Nat.repr n) := by
  suffices h : ∀ fuel m (ds : List Char), Plain ⟨ds⟩ → Plain ⟨Nat.toDigitsCore 10 fuel m ds⟩ from
    h _ n [] (by decide)
  intro fuel
  induction fuel with
  | zero => exact fun _ _ h => h
  | succ fuel ih =>
    intro m ds h
    have hd : Plain ⟨Nat.digitChar (m % 10) :: ds⟩ := (plain_append _ ⟨ds⟩).mpr ⟨plain_digitChar _, h⟩
    show Plain ⟨if m / 10 = 0 then Nat.digitChar (m % 10) :: ds
      else Nat.toDigitsCore 10 fuel (m / 10) (Nat.digitChar (m % 10) :: ds)⟩
    split_ifs
    · exact hd
    · exact ih _ _ hd

theorem plain_durationUnit (u : DurationUnit) : Plain u.toString := by cases u <;> decide

theorem plain_optionKind_identifier (k : OptionKind) : Plain k.identifier := by
  cases k <;> exact of_decide_eq_true rfl

theorem plain_certificate_identifier (n : CertificateAttributeName) : Plain n.identifier := by
  cases n <;> decide

theorem plain_query_identifier (q : QueryValue) : Plain q.identifier := by
  cases q <;> exact of_decide_eq_true rfl

theorem plain_filter_identifier (f : FilterValue) : Plain f.identifier := by
  cases f <;> exact of_decide_eq_true rfl

/-- The predicate keywords may hold `<` and `>`, never `&`. -/
theorem amp_not_mem_predicate_identifier (f : PredicateFuncValue) : '&' ∉ f.identifier.data := by
  cases f <;> simp only [PredicateFuncValue.identifier] <;> (try split_ifs) <;> decide

theorem plain_section_identifier (v : SectionValue) : Plain v.identifier := by
  cases v <;> simp only [SectionValue.identifier] <;> (try split_ifs) <;> decide

theorem plain_version (v : VersionValue) : Plain v.toString := by cases v <;> decide

theorem plain_status (s : StatusValue) : Plain s.toString := by
  cases s with
  | any => decide
  | specific n => exact plain_repr n

variable (spell : Template → String)

def Comment.sourceText (comment : Comment) : String := "#" ++ comment.value

def LineTerminator.sourceText (lt : LineTerminator) : String :=
  lt.space0.value ++ (match lt.comment with | some c => c.sourceText | none => "") ++
    lt.newline.value

def LineTerminator.RawPlain (lt : LineTerminator) : Prop :=
  Plain lt.space0.value ∧ Plain lt.newline.value

/-- The source text of a sequence of line terminators. -/
def ltsText (lts : List LineTerminator) : String := String.join (lts.map LineTerminator.sourceText)

def RegexValue.sourceText : RegexValue → String
  | .template t => t.toSource
  | .regex r => r.source

def RegexValue.RawPlain : RegexValue → Prop
  | .template _ => True
  | .regex r => Plain r.source

def Base64.sourceText (b : Base64) : String :=
  "base64," ++ b.space0.value ++ b.source ++ b.space1.value ++ ";"

def Base64.RawPlain (b : Base64) : Prop := Plain b.space0.value ∧ Plain b.source ∧ Plain b.space1.value

def Hex.sourceText (h : Hex) : String := "hex," ++ h.space0.value ++ h.source ++ h.space1.value ++ ";"

def Hex.RawPlain (h : Hex) : Prop := Plain h.space0.value ∧ Plain h.source ∧ Plain h.space1.value

def File.sourceText (file : File) : String :=
  "file," ++ file.space0.value ++ spell file.filename ++ file.space1.value ++ ";"

def File.RawPlain (file : File) : Prop :=
  Plain file.space0.value ∧ Plain (filenameText file.filename) ∧ Plain file.space1.value

def BooleanOption.sourceText : BooleanOption → String
  | .literal b => toString b
  | .placeholder p => p.toSource

def NaturalOption.sourceText : NaturalOption → String
  | .literal n => n.source
  | .placeholder p => p.toSource

def DurationOption.sourceText : DurationOption → String
  | .literal l => l.value.source ++ (match l.unit with | some u => u.toString | none => "")
  | .placeholder p => p.toSource

def Count.sourceText : Count → String
  | .finite n => toString n
  | .infinite => "-1"

def CountOption.sourceText : CountOption → String
  | .literal c => c.sourceText
  | .placeholder p => p.toSource

def VariableValue.sourceText : VariableValue → String
  | .null => "null"
  | .bool b => toString b
  | .number n => n.source
  | .string t => t.toSource

def VariableDefinition.sourceText (v : VariableDefinition) : String :=
  v.name ++ v.space0.value ++ "=" ++ v.space1.value ++ v.value.sourceText

/-- The text of an option's value, after its `:`. -/
def OptionKind.sourceText : OptionKind → String
  | .caCertificate t | .clientCert t | .clientKey t | .netRcFile t | .output t
  | .unixSocket t => spell t
  | .awsSigV4 t | .connectTo t | .header t | .pinnedPublicKey t | .proxy t | .resolve t
  | .user t => t.toSource
  | .compressed b | .followLocation b | .followLocationTrusted b | .http10 b | .http11 b
  | .http2 b | .http3 b | .insecure b | .ipV4 b | .ipV6 b | .netRc b | .netRcOptional b
  | .pathAsIs b | .skip b | .verbose b | .veryVerbose b => b.sourceText
  | .connectTimeout d | .delay d | .maxTime d | .retryInterval d => d.sourceText
  | .limitRate n => n.sourceText
  | .maxRedirect c | .repeat c | .retry c => c.sourceText
  | .variable v => v.sourceText

/-- The strings an option's value writes without escape. -/
def OptionKind.RawPlain : OptionKind → Prop
  | .caCertificate t | .clientCert t | .clientKey t | .netRcFile t | .output t
  | .unixSocket t => Plain (filenameText t)
  | .awsSigV4 _ | .connectTo _ | .header _ | .pinnedPublicKey _ | .proxy _ | .resolve _
  | .user _ => True
  | .compressed b | .followLocation b | .followLocationTrusted b | .http10 b | .http11 b
  | .http2 b | .http3 b | .insecure b | .ipV4 b | .ipV6 b | .netRc b | .netRcOptional b
  | .pathAsIs b | .skip b | .verbose b | .veryVerbose b => Plain b.sourceText
  | .connectTimeout d | .delay d | .maxTime d | .retryInterval d => Plain d.sourceText
  | .limitRate n => Plain n.sourceText
  | .maxRedirect c | .repeat c | .retry c => Plain c.sourceText
  | .variable v => Plain v.name ∧ Plain v.space0.value ∧ Plain v.space1.value ∧
      match v.value with | .number n => Plain n.source | _ => True

def ltsPlain (lts : List LineTerminator) : Prop := ∀ lt ∈ lts, lt.RawPlain

def EntryOption.sourceText (option : EntryOption) : String :=
  ltsText option.lineTerminators ++ option.space0.value ++ option.kind.identifier ++
    option.space1.value ++ ":" ++ option.space2.value ++ option.kind.sourceText spell ++
    option.lineTerminator0.sourceText

def EntryOption.RawPlain (option : EntryOption) : Prop :=
  ltsPlain option.lineTerminators ∧ Plain option.space0.value ∧ Plain option.space1.value ∧
    Plain option.space2.value ∧ option.kind.RawPlain ∧ option.lineTerminator0.RawPlain

def KeyValue.sourceText (kv : KeyValue) : String :=
  ltsText kv.lineTerminators ++ kv.space0.value ++ kv.key.toSource ++ kv.space1.value ++ ":" ++
    kv.space2.value ++ kv.value.toSource ++ kv.lineTerminator0.sourceText

def KeyValue.RawPlain (kv : KeyValue) : Prop :=
  ltsPlain kv.lineTerminators ∧ Plain kv.space0.value ∧ Plain kv.space1.value ∧
    Plain kv.space2.value ∧ kv.lineTerminator0.RawPlain

def FilenameValue.sourceText (v : FilenameValue) : String :=
  "file," ++ v.space0.value ++ spell v.filename ++ v.space1.value ++ ";" ++ v.space2.value ++
    (match v.contentType with | some t => t.toSource | none => "")

def FilenameValue.RawPlain (v : FilenameValue) : Prop :=
  Plain v.space0.value ∧ Plain (filenameText v.filename) ∧ Plain v.space1.value ∧
    Plain v.space2.value

def FilenameParam.sourceText (param : FilenameParam) : String :=
  ltsText param.lineTerminators ++ param.space0.value ++ param.key.toSource ++
    param.space1.value ++ ":" ++ param.space2.value ++ param.value.sourceText spell ++
    param.lineTerminator0.sourceText

def FilenameParam.RawPlain (param : FilenameParam) : Prop :=
  ltsPlain param.lineTerminators ∧ Plain param.space0.value ∧ Plain param.space1.value ∧
    Plain param.space2.value ∧ param.value.RawPlain ∧ param.lineTerminator0.RawPlain

def MultipartParam.sourceText : MultipartParam → String
  | .param kv => kv.sourceText
  | .filenameParam p => p.sourceText spell

def MultipartParam.RawPlain : MultipartParam → Prop
  | .param kv => kv.RawPlain
  | .filenameParam p => p.RawPlain

def Cookie.sourceText (cookie : Cookie) : String :=
  ltsText cookie.lineTerminators ++ cookie.space0.value ++ cookie.name.toSource ++
    cookie.space1.value ++ ":" ++ cookie.space2.value ++ cookie.value.toSource ++
    cookie.lineTerminator0.sourceText

def Cookie.RawPlain (cookie : Cookie) : Prop :=
  ltsPlain cookie.lineTerminators ∧ Plain cookie.space0.value ∧ Plain cookie.space1.value ∧
    Plain cookie.space2.value ∧ cookie.lineTerminator0.RawPlain

def CookieAttribute.sourceText (a : CookieAttribute) : String :=
  a.space0.value ++ a.name.value ++ a.space1.value

/-- A cookie path is the quoted string `"name[attribute]"`. -/
def CookiePath.sourceText (p : CookiePath) : String :=
  "\"" ++ p.name.toSource ++
    (match p.attribute with | some a => "[" ++ a.sourceText ++ "]" | none => "") ++ "\""

def CookiePath.RawPlain (p : CookiePath) : Prop :=
  Plain p.name.toSource ∧ match p.attribute with | some a => Plain a.sourceText | none => True

def QueryValue.sourceText (q : QueryValue) : String :=
  q.identifier ++
    match q with
    | .header s t | .xpath s t | .jsonpath s t | .variable s t => s.value ++ t.toSource
    | .cookie s p => s.value ++ p.sourceText
    | .regex s v => s.value ++ v.sourceText
    | .certificate s n => s.value ++ "\"" ++ n.identifier ++ "\""
    | .status | .version | .url | .body | .duration | .bytes | .sha256 | .md5 | .ip
    | .redirects => ""

def QueryValue.RawPlain : QueryValue → Prop
  | .header s _ | .xpath s _ | .jsonpath s _ | .variable s _ | .certificate s _ => Plain s.value
  | .cookie s p => Plain s.value ∧ p.RawPlain
  | .regex s v => Plain s.value ∧ v.RawPlain
  | .status | .version | .url | .body | .duration | .bytes | .sha256 | .md5 | .ip
  | .redirects => True

def FilterValue.sourceText (f : FilterValue) : String :=
  f.identifier ++
    match f with
    | .decode s t | .format s t | .jsonPath s t | .split s t | .toDate s t | .urlQueryParam s t
    | .xPath s t => s.value ++ t.toSource
    | .nth s n => s.value ++ n.source
    | .regex s v => s.value ++ v.sourceText
    | .replace s0 t0 s1 t1 => s0.value ++ t0.toSource ++ s1.value ++ t1.toSource
    | .replaceRegex s0 v s1 t => s0.value ++ v.sourceText ++ s1.value ++ t.toSource
    | .base64Decode | .base64Encode | .base64UrlSafeDecode | .base64UrlSafeEncode | .count
    | .daysAfterNow | .daysBeforeNow | .first | .htmlEscape | .htmlUnescape | .last | .location
    | .toFloat | .toHex | .toInt | .toString | .urlDecode | .urlEncode => ""

def FilterValue.RawPlain : FilterValue → Prop
  | .decode s _ | .format s _ | .jsonPath s _ | .split s _ | .toDate s _ | .urlQueryParam s _
  | .xPath s _ => Plain s.value
  | .nth s n => Plain s.value ∧ Plain n.source
  | .regex s v => Plain s.value ∧ v.RawPlain
  | .replace s0 _ s1 _ => Plain s0.value ∧ Plain s1.value
  | .replaceRegex s0 v s1 _ => Plain s0.value ∧ v.RawPlain ∧ Plain s1.value
  | .base64Decode | .base64Encode | .base64UrlSafeDecode | .base64UrlSafeEncode | .count
  | .daysAfterNow | .daysBeforeNow | .first | .htmlEscape | .htmlUnescape | .last | .location
  | .toFloat | .toHex | .toInt | .toString | .urlDecode | .urlEncode => True

/-- The source text of a filter chain, each filter after its whitespace. -/
def filtersText (filters : List (Whitespace × Filter)) : String :=
  String.join (filters.map fun (space, filter) => space.value ++ filter.value.sourceText)

def filtersPlain (filters : List (Whitespace × Filter)) : Prop :=
  ∀ p ∈ filters, Plain p.1.value ∧ p.2.value.RawPlain

def Capture.sourceText (c : Capture) : String :=
  ltsText c.lineTerminators ++ c.space0.value ++ c.name.toSource ++ c.space1.value ++ ":" ++
    c.space2.value ++ c.query.value.sourceText ++ filtersText c.filters ++ c.space3.value ++
    (if c.redact then "redact" else "") ++ c.lineTerminator0.sourceText

def Capture.RawPlain (c : Capture) : Prop :=
  ltsPlain c.lineTerminators ∧ Plain c.space0.value ∧ Plain c.space1.value ∧
    Plain c.space2.value ∧ c.query.value.RawPlain ∧ filtersPlain c.filters ∧
    Plain c.space3.value ∧ c.lineTerminator0.RawPlain

def PredicateValue.sourceText : PredicateValue → String
  | .string t => t.toSource
  | .multilineString m => m.source
  | .number n => n.source
  | .bool b => toString b
  | .file f => f.sourceText spell
  | .hex h => h.sourceText
  | .base64 b => b.sourceText
  | .placeholder p => p.toSource
  | .null => "null"
  | .regex r => r.source

def PredicateValue.RawPlain : PredicateValue → Prop
  | .string _ | .multilineString _ | .bool _ | .null => True
  | .number n => Plain n.source
  | .file f => f.RawPlain
  | .hex h => h.RawPlain
  | .base64 b => b.RawPlain
  | .placeholder p => Plain p.toSource
  | .regex r => Plain r.source

def PredicateFuncValue.sourceText (f : PredicateFuncValue) : String :=
  f.identifier ++
    match f with
    | .equal s v _ | .notEqual s v _ | .greaterThan s v _ | .greaterThanOrEqual s v _
    | .lessThan s v _ | .lessThanOrEqual s v _ | .startWith s v | .endWith s v | .contain s v
    | .include s v | .match s v => s.value ++ v.sourceText spell
    | .isInteger | .isFloat | .isBoolean | .isString | .isCollection | .isDate | .isIsoDate
    | .exist | .isEmpty | .isNumber | .isIpv4 | .isIpv6 => ""

def PredicateFuncValue.RawPlain : PredicateFuncValue → Prop
  | .equal s v _ | .notEqual s v _ | .greaterThan s v _ | .greaterThanOrEqual s v _
  | .lessThan s v _ | .lessThanOrEqual s v _ | .startWith s v | .endWith s v | .contain s v
  | .include s v | .match s v => Plain s.value ∧ v.RawPlain
  | .isInteger | .isFloat | .isBoolean | .isString | .isCollection | .isDate | .isIsoDate
  | .exist | .isEmpty | .isNumber | .isIpv4 | .isIpv6 => True

def Predicate.sourceText (p : Predicate) : String :=
  (if p.not then "not" ++ p.space0.value else "") ++ p.predicateFunc.value.sourceText spell

def Predicate.RawPlain (p : Predicate) : Prop :=
  (p.not → Plain p.space0.value) ∧ p.predicateFunc.value.RawPlain

def Assert.sourceText (a : Assert) : String :=
  ltsText a.lineTerminators ++ a.space0.value ++ a.query.value.sourceText ++
    filtersText a.filters ++ a.space1.value ++ a.predicate.sourceText spell ++
    a.lineTerminator0.sourceText

def Assert.RawPlain (a : Assert) : Prop :=
  ltsPlain a.lineTerminators ∧ Plain a.space0.value ∧ a.query.value.RawPlain ∧
    filtersPlain a.filters ∧ Plain a.space1.value ∧ a.predicate.RawPlain ∧
    a.lineTerminator0.RawPlain

def Bytes.sourceText : Bytes → String
  | .base64 b => b.sourceText
  | .file f => f.sourceText spell
  | .hex h => h.sourceText
  | .onelineString t => t.toSource
  | .json j => j.source
  | .multilineString m => m.source
  | .xml x => x

def Bytes.RawPlain : Bytes → Prop
  | .base64 b => b.RawPlain
  | .file f => f.RawPlain
  | .hex h => h.RawPlain
  | .onelineString _ | .json _ | .multilineString _ | .xml _ => True

def Body.sourceText (b : Body) : String :=
  ltsText b.lineTerminators ++ b.space0.value ++ b.value.sourceText spell ++
    b.lineTerminator0.sourceText

def Body.RawPlain (b : Body) : Prop :=
  ltsPlain b.lineTerminators ∧ Plain b.space0.value ∧ b.value.RawPlain ∧ b.lineTerminator0.RawPlain

def SectionValue.sourceText : SectionValue → String
  | .asserts items => String.join (items.map (·.sourceText spell))
  | .queryParams items _ | .formParams items _ => String.join (items.map KeyValue.sourceText)
  | .basicAuth item => match item with | some kv => kv.sourceText | none => ""
  | .multipartFormData items _ => String.join (items.map (·.sourceText spell))
  | .cookies items => String.join (items.map Cookie.sourceText)
  | .captures items => String.join (items.map Capture.sourceText)
  | .options items => String.join (items.map (·.sourceText spell))

def SectionValue.RawPlain : SectionValue → Prop
  | .asserts items => ∀ a ∈ items, a.RawPlain
  | .queryParams items _ | .formParams items _ => ∀ kv ∈ items, kv.RawPlain
  | .basicAuth item => ∀ kv ∈ item, kv.RawPlain
  | .multipartFormData items _ => ∀ p ∈ items, p.RawPlain
  | .cookies items => ∀ c ∈ items, c.RawPlain
  | .captures items => ∀ c ∈ items, c.RawPlain
  | .options items => ∀ o ∈ items, o.RawPlain

def Section.sourceText (s : Section) : String :=
  ltsText s.lineTerminators ++ s.space0.value ++ "[" ++ s.identifier ++ "]" ++
    s.lineTerminator0.sourceText ++ s.value.sourceText spell

def Section.RawPlain (s : Section) : Prop :=
  ltsPlain s.lineTerminators ∧ Plain s.space0.value ∧ s.lineTerminator0.RawPlain ∧ s.value.RawPlain

def Request.sourceText (r : Request) : String :=
  ltsText r.lineTerminators ++ r.space0.value ++ r.method.value ++ r.space1.value ++
    r.url.toSource ++ r.lineTerminator0.sourceText ++
    String.join (r.headers.map KeyValue.sourceText) ++
    String.join (r.sections.map (·.sourceText spell)) ++
    (match r.body with | some b => b.sourceText spell | none => "")

def Request.RawPlain (r : Request) : Prop :=
  ltsPlain r.lineTerminators ∧ Plain r.space0.value ∧ Plain r.method.value ∧
    Plain r.space1.value ∧ r.lineTerminator0.RawPlain ∧ (∀ kv ∈ r.headers, kv.RawPlain) ∧
    (∀ s ∈ r.sections, s.RawPlain) ∧ ∀ b ∈ r.body, b.RawPlain

def Response.sourceText (r : Response) : String :=
  ltsText r.lineTerminators ++ r.space0.value ++ r.version.value.toString ++ r.space1.value ++
    r.status.value.toString ++ r.lineTerminator0.sourceText ++
    String.join (r.headers.map KeyValue.sourceText) ++
    String.join (r.sections.map (·.sourceText spell)) ++
    (match r.body with | some b => b.sourceText spell | none => "")

def Response.RawPlain (r : Response) : Prop :=
  ltsPlain r.lineTerminators ∧ Plain r.space0.value ∧ Plain r.space1.value ∧
    r.lineTerminator0.RawPlain ∧ (∀ kv ∈ r.headers, kv.RawPlain) ∧
    (∀ s ∈ r.sections, s.RawPlain) ∧ ∀ b ∈ r.body, b.RawPlain

def Entry.sourceText (e : Entry) : String :=
  e.request.sourceText spell ++ (match e.response with | some r => r.sourceText spell | none => "")

def Entry.RawPlain (e : Entry) : Prop := e.request.RawPlain ∧ ∀ r ∈ e.response, r.RawPlain

/-- The source text of a Hurl file: its entries, then its trailing line terminators. -/
def HurlFile.sourceText (f : HurlFile) : String :=
  String.join (f.entries.map (·.sourceText spell)) ++ ltsText f.lineTerminators

def HurlFile.RawPlain (f : HurlFile) : Prop :=
  (∀ e ∈ f.entries, e.RawPlain) ∧ ltsPlain f.lineTerminators

/-- The template of a file value, the one `fmt_file` writes with `fmt_filename`. -/
def File.filenames (file : File) : List Template := [file.filename]

def OptionKind.filenames : OptionKind → List Template
  | .caCertificate t | .clientCert t | .clientKey t | .netRcFile t | .output t
  | .unixSocket t => [t]
  | _ => []

def EntryOption.filenames (option : EntryOption) : List Template := option.kind.filenames

def FilenameValue.filenames (v : FilenameValue) : List Template := [v.filename]

def FilenameParam.filenames (param : FilenameParam) : List Template := param.value.filenames

def MultipartParam.filenames : MultipartParam → List Template
  | .param _ => []
  | .filenameParam p => p.filenames

def PredicateValue.filenames : PredicateValue → List Template
  | .file f => f.filenames
  | _ => []

def PredicateFuncValue.filenames : PredicateFuncValue → List Template
  | .equal _ v _ | .notEqual _ v _ | .greaterThan _ v _ | .greaterThanOrEqual _ v _
  | .lessThan _ v _ | .lessThanOrEqual _ v _ | .startWith _ v | .endWith _ v | .contain _ v
  | .include _ v | .match _ v => v.filenames
  | _ => []

def Predicate.filenames (p : Predicate) : List Template := p.predicateFunc.value.filenames

def Assert.filenames (a : Assert) : List Template := a.predicate.filenames

def Bytes.filenames : Bytes → List Template
  | .file f => f.filenames
  | _ => []

def Body.filenames (b : Body) : List Template := b.value.filenames

def SectionValue.filenames : SectionValue → List Template
  | .asserts items => items.flatMap Assert.filenames
  | .multipartFormData items _ => items.flatMap MultipartParam.filenames
  | .options items => items.flatMap EntryOption.filenames
  | _ => []

def Section.filenames (s : Section) : List Template := s.value.filenames

def Request.filenames (r : Request) : List Template :=
  r.sections.flatMap Section.filenames ++ match r.body with | some b => b.filenames | none => []

def Response.filenames (r : Response) : List Template :=
  r.sections.flatMap Section.filenames ++ match r.body with | some b => b.filenames | none => []

def Entry.filenames (e : Entry) : List Template :=
  e.request.filenames ++ match e.response with | some r => r.filenames | none => []

/-- The templates the formatter writes with `fmt_filename`, in physical order. -/
def HurlFile.filenames (f : HurlFile) : List Template := f.entries.flatMap Entry.filenames

section

variable {s₁ s₂ : Template → String}

/-- A joined list of nodes depends on the spelling only through the filenames of its nodes. -/
theorem join_sourceText_congr {β : Type} {text : (Template → String) → β → String}
    {names : β → List Template} {xs : List β}
    (hx : ∀ x, (∀ t ∈ names x, s₁ t = s₂ t) → text s₁ x = text s₂ x)
    (h : ∀ t ∈ xs.flatMap names, s₁ t = s₂ t) :
    String.join (xs.map (text s₁)) = String.join (xs.map (text s₂)) :=
  congrArg String.join (List.map_congr_left fun x hx' =>
    hx x fun t ht => h t (List.mem_flatMap.mpr ⟨x, hx', ht⟩))

theorem File.sourceText_congr {file : File} (h : ∀ t ∈ file.filenames, s₁ t = s₂ t) :
    file.sourceText s₁ = file.sourceText s₂ := by
  rw [File.sourceText, File.sourceText, h _ (List.mem_singleton_self _)]

theorem OptionKind.sourceText_congr {k : OptionKind} (h : ∀ t ∈ k.filenames, s₁ t = s₂ t) :
    k.sourceText s₁ = k.sourceText s₂ := by
  cases k <;> first | rfl | exact h _ (List.mem_singleton_self _)

theorem EntryOption.sourceText_congr {o : EntryOption} (h : ∀ t ∈ o.filenames, s₁ t = s₂ t) :
    o.sourceText s₁ = o.sourceText s₂ := by
  rw [EntryOption.sourceText, EntryOption.sourceText, OptionKind.sourceText_congr h]

theorem FilenameValue.sourceText_congr {v : FilenameValue} (h : ∀ t ∈ v.filenames, s₁ t = s₂ t) :
    v.sourceText s₁ = v.sourceText s₂ := by
  rw [FilenameValue.sourceText, FilenameValue.sourceText, h _ (List.mem_singleton_self _)]

theorem FilenameParam.sourceText_congr {p : FilenameParam} (h : ∀ t ∈ p.filenames, s₁ t = s₂ t) :
    p.sourceText s₁ = p.sourceText s₂ := by
  rw [FilenameParam.sourceText, FilenameParam.sourceText, FilenameValue.sourceText_congr h]

theorem MultipartParam.sourceText_congr {p : MultipartParam}
    (h : ∀ t ∈ p.filenames, s₁ t = s₂ t) : p.sourceText s₁ = p.sourceText s₂ := by
  cases p with
  | param kv => rfl
  | filenameParam p => exact FilenameParam.sourceText_congr h

theorem PredicateValue.sourceText_congr {v : PredicateValue}
    (h : ∀ t ∈ v.filenames, s₁ t = s₂ t) : v.sourceText s₁ = v.sourceText s₂ := by
  cases v <;> first | rfl | exact File.sourceText_congr h

theorem PredicateFuncValue.sourceText_congr {f : PredicateFuncValue}
    (h : ∀ t ∈ f.filenames, s₁ t = s₂ t) : f.sourceText s₁ = f.sourceText s₂ := by
  cases f <;> first | rfl | exact congrArg (_ ++ ·) (congrArg (_ ++ ·) (PredicateValue.sourceText_congr h))

theorem Predicate.sourceText_congr {p : Predicate} (h : ∀ t ∈ p.filenames, s₁ t = s₂ t) :
    p.sourceText s₁ = p.sourceText s₂ := by
  rw [Predicate.sourceText, Predicate.sourceText, PredicateFuncValue.sourceText_congr h]

theorem Assert.sourceText_congr {a : Assert} (h : ∀ t ∈ a.filenames, s₁ t = s₂ t) :
    a.sourceText s₁ = a.sourceText s₂ := by
  rw [Assert.sourceText, Assert.sourceText, Predicate.sourceText_congr h]

theorem Bytes.sourceText_congr {b : Bytes} (h : ∀ t ∈ b.filenames, s₁ t = s₂ t) :
    b.sourceText s₁ = b.sourceText s₂ := by
  cases b <;> first | rfl | exact File.sourceText_congr h

theorem Body.sourceText_congr {b : Body} (h : ∀ t ∈ b.filenames, s₁ t = s₂ t) :
    b.sourceText s₁ = b.sourceText s₂ := by
  rw [Body.sourceText, Body.sourceText, Bytes.sourceText_congr h]

theorem SectionValue.sourceText_congr {v : SectionValue} (h : ∀ t ∈ v.filenames, s₁ t = s₂ t) :
    v.sourceText s₁ = v.sourceText s₂ := by
  cases v with
  | asserts items => exact join_sourceText_congr (fun _ => Assert.sourceText_congr) h
  | multipartFormData items _ => exact join_sourceText_congr (fun _ => MultipartParam.sourceText_congr) h
  | options items => exact join_sourceText_congr (fun _ => EntryOption.sourceText_congr) h
  | _ => rfl

theorem Section.sourceText_congr {s : Section} (h : ∀ t ∈ s.filenames, s₁ t = s₂ t) :
    s.sourceText s₁ = s.sourceText s₂ := by
  rw [Section.sourceText, Section.sourceText, SectionValue.sourceText_congr h]

theorem Request.sourceText_congr {r : Request} (h : ∀ t ∈ r.filenames, s₁ t = s₂ t) :
    r.sourceText s₁ = r.sourceText s₂ := by
  simp only [Request.filenames, List.mem_append] at h
  rw [Request.sourceText, Request.sourceText,
    join_sourceText_congr (fun _ => Section.sourceText_congr) fun t ht => h t (.inl ht)]
  cases hb : r.body with
  | none => rfl
  | some b =>
    simp only [hb] at h
    exact congrArg (_ ++ ·) (Body.sourceText_congr fun t ht => h t (.inr ht))

theorem Response.sourceText_congr {r : Response} (h : ∀ t ∈ r.filenames, s₁ t = s₂ t) :
    r.sourceText s₁ = r.sourceText s₂ := by
  simp only [Response.filenames, List.mem_append] at h
  rw [Response.sourceText, Response.sourceText,
    join_sourceText_congr (fun _ => Section.sourceText_congr) fun t ht => h t (.inl ht)]
  cases hb : r.body with
  | none => rfl
  | some b =>
    simp only [hb] at h
    exact congrArg (_ ++ ·) (Body.sourceText_congr fun t ht => h t (.inr ht))

theorem Entry.sourceText_congr {e : Entry} (h : ∀ t ∈ e.filenames, s₁ t = s₂ t) :
    e.sourceText s₁ = e.sourceText s₂ := by
  simp only [Entry.filenames, List.mem_append] at h
  rw [Entry.sourceText, Entry.sourceText, Request.sourceText_congr fun t ht => h t (.inl ht)]
  cases hr : e.response with
  | none => rfl
  | some r =>
    simp only [hr] at h
    exact congrArg (_ ++ ·) (Response.sourceText_congr fun t ht => h t (.inr ht))

/-- A spelling of the filenames matters to the source text of a file only through the
filenames the file holds. -/
theorem HurlFile.sourceText_congr {f : HurlFile} (h : ∀ t ∈ f.filenames, s₁ t = s₂ t) :
    f.sourceText s₁ = f.sourceText s₂ := by
  rw [HurlFile.sourceText, HurlFile.sourceText, join_sourceText_congr (fun _ => Entry.sourceText_congr) h]

end

end HurlHtml
