import HurlHtml.SourceText
import HurlHtml.Markup

/-!
# The strings written without escape

`rawTexts` lists, node by node, the strings the formatter pushes as they stand rather than
through `escape_xml`: whitespace and newlines, the method, numbers, base64 and hex sources,
regex literals, placeholders, variable names, cookie paths and filename texts. They are the
strings `RawPlain` asks to be free of markup characters, and each occurs verbatim in the
output.

Where they occur is read off each method the way `Reading` reads its text: `Within t L` says
that every string of `L` occurs in `t`, and the lemma of a method says that its strings occur
in its text followed by any rest in which other strings occur. The method's text is a
sequence of parts, each a string written as it stands (`Within.raw`), text that holds none of
the strings (`Within.skip`), or the text of a child method.
-/

namespace HurlHtml

open HtmlFormatter

def LineTerminator.rawTexts (lt : LineTerminator) : List String :=
  [lt.space0.value, lt.newline.value]

def ltsRawTexts (lts : List LineTerminator) : List String := lts.flatMap LineTerminator.rawTexts

def RegexValue.rawTexts : RegexValue → List String
  | .template _ => []
  | .regex r => [r.source]

def Base64.rawTexts (b : Base64) : List String := [b.space0.value, b.source, b.space1.value]

def Hex.rawTexts (h : Hex) : List String := [h.space0.value, h.source, h.space1.value]

def File.rawTexts (file : File) : List String :=
  [file.space0.value, filenameText file.filename, file.space1.value]

/-- A duration's number and unit are written in two spans. -/
def DurationOption.rawTexts : DurationOption → List String
  | .literal l => l.value.source :: match l.unit with | some u => [u.toString] | none => []
  | .placeholder p => [p.toSource]

def VariableDefinition.rawTexts (v : VariableDefinition) : List String :=
  [v.name, v.space0.value, v.space1.value] ++ match v.value with | .number n => [n.source] | _ => []

def OptionKind.rawTexts : OptionKind → List String
  | .caCertificate t | .clientCert t | .clientKey t | .netRcFile t | .output t
  | .unixSocket t => [filenameText t]
  | .awsSigV4 _ | .connectTo _ | .header _ | .pinnedPublicKey _ | .proxy _ | .resolve _
  | .user _ => []
  | .compressed b | .followLocation b | .followLocationTrusted b | .http10 b | .http11 b
  | .http2 b | .http3 b | .insecure b | .ipV4 b | .ipV6 b | .netRc b | .netRcOptional b
  | .pathAsIs b | .skip b | .verbose b | .veryVerbose b => [b.sourceText]
  | .connectTimeout d | .delay d | .maxTime d | .retryInterval d => d.rawTexts
  | .limitRate n => [n.sourceText]
  | .maxRedirect c | .repeat c | .retry c => [c.sourceText]
  | .variable v => v.rawTexts

def EntryOption.rawTexts (o : EntryOption) : List String :=
  ltsRawTexts o.lineTerminators ++ [o.space0.value, o.space1.value, o.space2.value] ++
    o.kind.rawTexts ++ o.lineTerminator0.rawTexts

def KeyValue.rawTexts (kv : KeyValue) : List String :=
  ltsRawTexts kv.lineTerminators ++ [kv.space0.value, kv.space1.value, kv.space2.value] ++
    kv.lineTerminator0.rawTexts

def FilenameValue.rawTexts (v : FilenameValue) : List String :=
  [v.space0.value, filenameText v.filename, v.space1.value, v.space2.value]

def FilenameParam.rawTexts (p : FilenameParam) : List String :=
  ltsRawTexts p.lineTerminators ++ [p.space0.value, p.space1.value, p.space2.value] ++
    p.value.rawTexts ++ p.lineTerminator0.rawTexts

def MultipartParam.rawTexts : MultipartParam → List String
  | .param kv => kv.rawTexts
  | .filenameParam p => p.rawTexts

def Cookie.rawTexts (c : Cookie) : List String :=
  ltsRawTexts c.lineTerminators ++ [c.space0.value, c.space1.value, c.space2.value] ++
    c.lineTerminator0.rawTexts

/-- The attribute of a cookie path is written as one run of text. -/
def CookiePath.rawTexts (p : CookiePath) : List String :=
  p.name.toSource :: match p.attribute with | some a => [a.sourceText] | none => []

def QueryValue.rawTexts : QueryValue → List String
  | .header s _ | .xpath s _ | .jsonpath s _ | .variable s _ | .certificate s _ => [s.value]
  | .cookie s p => s.value :: p.rawTexts
  | .regex s v => s.value :: v.rawTexts
  | .status | .version | .url | .body | .duration | .bytes | .sha256 | .md5 | .ip
  | .redirects => []

def FilterValue.rawTexts : FilterValue → List String
  | .decode s _ | .format s _ | .jsonPath s _ | .split s _ | .toDate s _ | .urlQueryParam s _
  | .xPath s _ => [s.value]
  | .nth s n => [s.value, n.source]
  | .regex s v => s.value :: v.rawTexts
  | .replace s0 _ s1 _ => [s0.value, s1.value]
  | .replaceRegex s0 v s1 _ => s0.value :: v.rawTexts ++ [s1.value]
  | .base64Decode | .base64Encode | .base64UrlSafeDecode | .base64UrlSafeEncode | .count
  | .daysAfterNow | .daysBeforeNow | .first | .htmlEscape | .htmlUnescape | .last | .location
  | .toFloat | .toHex | .toInt | .toString | .urlDecode | .urlEncode => []

def filtersRawTexts (filters : List (Whitespace × Filter)) : List String :=
  filters.flatMap fun (space, filter) => space.value :: filter.value.rawTexts

def Capture.rawTexts (c : Capture) : List String :=
  ltsRawTexts c.lineTerminators ++ [c.space0.value, c.space1.value, c.space2.value] ++
    c.query.value.rawTexts ++ filtersRawTexts c.filters ++ [c.space3.value] ++
    c.lineTerminator0.rawTexts

def PredicateValue.rawTexts : PredicateValue → List String
  | .string _ | .multilineString _ | .bool _ | .null => []
  | .number n => [n.source]
  | .file f => f.rawTexts
  | .hex h => h.rawTexts
  | .base64 b => b.rawTexts
  | .placeholder p => [p.toSource]
  | .regex r => [r.source]

def PredicateFuncValue.rawTexts : PredicateFuncValue → List String
  | .equal s v _ | .notEqual s v _ | .greaterThan s v _ | .greaterThanOrEqual s v _
  | .lessThan s v _ | .lessThanOrEqual s v _ | .startWith s v | .endWith s v | .contain s v
  | .include s v | .match s v => s.value :: v.rawTexts
  | .isInteger | .isFloat | .isBoolean | .isString | .isCollection | .isDate | .isIsoDate
  | .exist | .isEmpty | .isNumber | .isIpv4 | .isIpv6 => []

def Predicate.rawTexts (p : Predicate) : List String :=
  (if p.not then [p.space0.value] else []) ++ p.predicateFunc.value.rawTexts

def Assert.rawTexts (a : Assert) : List String :=
  ltsRawTexts a.lineTerminators ++ [a.space0.value] ++ a.query.value.rawTexts ++
    filtersRawTexts a.filters ++ [a.space1.value] ++ a.predicate.rawTexts ++
    a.lineTerminator0.rawTexts

def Bytes.rawTexts : Bytes → List String
  | .base64 b => b.rawTexts
  | .file f => f.rawTexts
  | .hex h => h.rawTexts
  | .onelineString _ | .json _ | .multilineString _ | .xml _ => []

def Body.rawTexts (b : Body) : List String :=
  ltsRawTexts b.lineTerminators ++ [b.space0.value] ++ b.value.rawTexts ++
    b.lineTerminator0.rawTexts

def SectionValue.rawTexts : SectionValue → List String
  | .asserts items => items.flatMap Assert.rawTexts
  | .queryParams items _ | .formParams items _ => items.flatMap KeyValue.rawTexts
  | .basicAuth item => match item with | some kv => kv.rawTexts | none => []
  | .multipartFormData items _ => items.flatMap MultipartParam.rawTexts
  | .cookies items => items.flatMap Cookie.rawTexts
  | .captures items => items.flatMap Capture.rawTexts
  | .options items => items.flatMap EntryOption.rawTexts

def Section.rawTexts (s : Section) : List String :=
  ltsRawTexts s.lineTerminators ++ [s.space0.value] ++ s.lineTerminator0.rawTexts ++
    s.value.rawTexts

def Request.rawTexts (r : Request) : List String :=
  ltsRawTexts r.lineTerminators ++ [r.space0.value, r.method.value, r.space1.value] ++
    r.lineTerminator0.rawTexts ++ r.headers.flatMap KeyValue.rawTexts ++
    r.sections.flatMap Section.rawTexts ++ match r.body with | some b => b.rawTexts | none => []

def Response.rawTexts (r : Response) : List String :=
  ltsRawTexts r.lineTerminators ++ [r.space0.value, r.space1.value] ++
    r.lineTerminator0.rawTexts ++ r.headers.flatMap KeyValue.rawTexts ++
    r.sections.flatMap Section.rawTexts ++ match r.body with | some b => b.rawTexts | none => []

def Entry.rawTexts (e : Entry) : List String :=
  e.request.rawTexts ++ match e.response with | some r => r.rawTexts | none => []

def HurlFile.rawTexts (f : HurlFile) : List String :=
  f.entries.flatMap Entry.rawTexts ++ ltsRawTexts f.lineTerminators


theorem LineTerminator.rawPlain_iff (lt : LineTerminator) :
    lt.RawPlain ↔ ∀ s ∈ lt.rawTexts, Plain s := by
  simp [LineTerminator.RawPlain, LineTerminator.rawTexts]

theorem ltsPlain_iff (lts : List LineTerminator) :
    ltsPlain lts ↔ ∀ s ∈ ltsRawTexts lts, Plain s := by
  simp only [ltsPlain, ltsRawTexts, List.forall_mem_flatMap, LineTerminator.rawPlain_iff]

theorem RegexValue.rawPlain_iff (v : RegexValue) : v.RawPlain ↔ ∀ s ∈ v.rawTexts, Plain s := by
  cases v <;> simp [RegexValue.RawPlain, RegexValue.rawTexts]

theorem Base64.rawPlain_iff (b : Base64) : b.RawPlain ↔ ∀ s ∈ b.rawTexts, Plain s := by
  simp [Base64.RawPlain, Base64.rawTexts]

theorem Hex.rawPlain_iff (h : Hex) : h.RawPlain ↔ ∀ s ∈ h.rawTexts, Plain s := by
  simp [Hex.RawPlain, Hex.rawTexts]

theorem File.rawPlain_iff (f : File) : f.RawPlain ↔ ∀ s ∈ f.rawTexts, Plain s := by
  simp [File.RawPlain, File.rawTexts]

theorem DurationOption.plain_iff (d : DurationOption) :
    Plain d.sourceText ↔ ∀ s ∈ d.rawTexts, Plain s := by
  rcases d with ⟨v, _ | u⟩ | p <;> simp [DurationOption.sourceText, DurationOption.rawTexts]

theorem OptionKind.rawPlain_iff (k : OptionKind) : k.RawPlain ↔ ∀ s ∈ k.rawTexts, Plain s := by
  cases k
  case «variable» v =>
    show _ ↔ ∀ s ∈ v.rawTexts, Plain s
    rcases v with ⟨_, _, _, _ | _ | _ | _⟩ <;>
      simp [OptionKind.RawPlain, VariableDefinition.rawTexts]
  all_goals first
    | exact (@List.forall_mem_singleton _ Plain _).symm
    | exact DurationOption.plain_iff _
    | exact iff_of_true trivial fun _ h => absurd h (List.not_mem_nil _)

theorem EntryOption.rawPlain_iff (o : EntryOption) : o.RawPlain ↔ ∀ s ∈ o.rawTexts, Plain s := by
  simp only [EntryOption.RawPlain, EntryOption.rawTexts, ltsPlain_iff, OptionKind.rawPlain_iff,
    LineTerminator.rawPlain_iff, List.forall_mem_append, List.forall_mem_cons, List.not_mem_nil,
    false_implies, implies_true, and_true, and_assoc]

theorem KeyValue.rawPlain_iff (kv : KeyValue) : kv.RawPlain ↔ ∀ s ∈ kv.rawTexts, Plain s := by
  simp only [KeyValue.RawPlain, KeyValue.rawTexts, ltsPlain_iff, LineTerminator.rawPlain_iff,
    List.forall_mem_append, List.forall_mem_cons, List.not_mem_nil, false_implies, implies_true, and_true, and_assoc]

theorem FilenameValue.rawPlain_iff (v : FilenameValue) :
    v.RawPlain ↔ ∀ s ∈ v.rawTexts, Plain s := by
  simp [FilenameValue.RawPlain, FilenameValue.rawTexts]

theorem FilenameParam.rawPlain_iff (p : FilenameParam) :
    p.RawPlain ↔ ∀ s ∈ p.rawTexts, Plain s := by
  simp only [FilenameParam.RawPlain, FilenameParam.rawTexts, ltsPlain_iff,
    FilenameValue.rawPlain_iff, LineTerminator.rawPlain_iff, List.forall_mem_append,
    List.forall_mem_cons, List.not_mem_nil, false_implies, implies_true, and_true, and_assoc]

theorem MultipartParam.rawPlain_iff (p : MultipartParam) :
    p.RawPlain ↔ ∀ s ∈ p.rawTexts, Plain s := by
  cases p <;> simp only [MultipartParam.RawPlain, MultipartParam.rawTexts, KeyValue.rawPlain_iff,
    FilenameParam.rawPlain_iff]

theorem Cookie.rawPlain_iff (c : Cookie) : c.RawPlain ↔ ∀ s ∈ c.rawTexts, Plain s := by
  simp only [Cookie.RawPlain, Cookie.rawTexts, ltsPlain_iff, LineTerminator.rawPlain_iff,
    List.forall_mem_append, List.forall_mem_cons, List.not_mem_nil, false_implies, implies_true, and_true, and_assoc]

theorem CookiePath.rawPlain_iff (p : CookiePath) : p.RawPlain ↔ ∀ s ∈ p.rawTexts, Plain s := by
  rcases p with ⟨_, _ | _⟩ <;> simp [CookiePath.RawPlain, CookiePath.rawTexts]

theorem QueryValue.rawPlain_iff (q : QueryValue) : q.RawPlain ↔ ∀ s ∈ q.rawTexts, Plain s := by
  cases q <;> simp only [QueryValue.RawPlain, QueryValue.rawTexts, CookiePath.rawPlain_iff,
    RegexValue.rawPlain_iff, List.forall_mem_cons, List.not_mem_nil, false_implies, implies_true,
    and_true]

theorem FilterValue.rawPlain_iff (f : FilterValue) : f.RawPlain ↔ ∀ s ∈ f.rawTexts, Plain s := by
  cases f <;> simp only [FilterValue.RawPlain, FilterValue.rawTexts, RegexValue.rawPlain_iff,
    List.forall_mem_cons, List.forall_mem_append, List.not_mem_nil, false_implies, implies_true, and_true, and_assoc]

theorem filtersPlain_iff (filters : List (Whitespace × Filter)) :
    filtersPlain filters ↔ ∀ s ∈ filtersRawTexts filters, Plain s := by
  simp only [filtersPlain, filtersRawTexts, List.forall_mem_flatMap, List.forall_mem_cons,
    FilterValue.rawPlain_iff]

theorem Capture.rawPlain_iff (c : Capture) : c.RawPlain ↔ ∀ s ∈ c.rawTexts, Plain s := by
  simp only [Capture.RawPlain, Capture.rawTexts, ltsPlain_iff, QueryValue.rawPlain_iff,
    filtersPlain_iff, LineTerminator.rawPlain_iff, List.forall_mem_append, List.forall_mem_cons,
    List.not_mem_nil, false_implies, implies_true, and_true, and_assoc]

theorem PredicateValue.rawPlain_iff (v : PredicateValue) :
    v.RawPlain ↔ ∀ s ∈ v.rawTexts, Plain s := by
  cases v <;> simp only [PredicateValue.RawPlain, PredicateValue.rawTexts, File.rawPlain_iff,
    Hex.rawPlain_iff, Base64.rawPlain_iff, List.forall_mem_cons, List.not_mem_nil, false_implies,
    implies_true, and_true]

theorem PredicateFuncValue.rawPlain_iff (f : PredicateFuncValue) :
    f.RawPlain ↔ ∀ s ∈ f.rawTexts, Plain s := by
  cases f <;> simp only [PredicateFuncValue.RawPlain, PredicateFuncValue.rawTexts,
    PredicateValue.rawPlain_iff, List.forall_mem_cons, List.not_mem_nil, false_implies,
    implies_true]

theorem Predicate.rawPlain_iff (p : Predicate) : p.RawPlain ↔ ∀ s ∈ p.rawTexts, Plain s := by
  rcases p with ⟨_ | _, _, _⟩ <;> simp [Predicate.RawPlain, Predicate.rawTexts,
    PredicateFuncValue.rawPlain_iff]

theorem Assert.rawPlain_iff (a : Assert) : a.RawPlain ↔ ∀ s ∈ a.rawTexts, Plain s := by
  simp only [Assert.RawPlain, Assert.rawTexts, ltsPlain_iff, QueryValue.rawPlain_iff,
    filtersPlain_iff, Predicate.rawPlain_iff, LineTerminator.rawPlain_iff, List.forall_mem_append,
    List.forall_mem_cons, List.not_mem_nil, false_implies, implies_true, and_true, and_assoc]

theorem Bytes.rawPlain_iff (b : Bytes) : b.RawPlain ↔ ∀ s ∈ b.rawTexts, Plain s := by
  cases b <;> simp only [Bytes.RawPlain, Bytes.rawTexts, Base64.rawPlain_iff, File.rawPlain_iff,
    Hex.rawPlain_iff, List.not_mem_nil, false_implies, implies_true]

theorem Body.rawPlain_iff (b : Body) : b.RawPlain ↔ ∀ s ∈ b.rawTexts, Plain s := by
  simp only [Body.RawPlain, Body.rawTexts, ltsPlain_iff, Bytes.rawPlain_iff,
    LineTerminator.rawPlain_iff, List.forall_mem_append, List.forall_mem_cons, List.not_mem_nil,
    false_implies, implies_true, and_true, and_assoc]

theorem SectionValue.rawPlain_iff (v : SectionValue) : v.RawPlain ↔ ∀ s ∈ v.rawTexts, Plain s := by
  cases v with
  | basicAuth item => cases item <;> simp [SectionValue.RawPlain, SectionValue.rawTexts,
      KeyValue.rawPlain_iff]
  | _ => simp only [SectionValue.RawPlain, SectionValue.rawTexts, List.forall_mem_flatMap,
      Assert.rawPlain_iff, KeyValue.rawPlain_iff, MultipartParam.rawPlain_iff, Cookie.rawPlain_iff,
      Capture.rawPlain_iff, EntryOption.rawPlain_iff]

theorem Section.rawPlain_iff (s : Section) : s.RawPlain ↔ ∀ t ∈ s.rawTexts, Plain t := by
  simp only [Section.RawPlain, Section.rawTexts, ltsPlain_iff, SectionValue.rawPlain_iff,
    LineTerminator.rawPlain_iff, List.forall_mem_append, List.forall_mem_cons, List.not_mem_nil,
    false_implies, implies_true, and_true, and_assoc]

theorem Request.rawPlain_iff (r : Request) : r.RawPlain ↔ ∀ s ∈ r.rawTexts, Plain s := by
  rcases r with ⟨_, _, _, _, _, _, _, _, _ | _⟩ <;>
    simp only [Request.RawPlain, Request.rawTexts, ltsPlain_iff, LineTerminator.rawPlain_iff,
      KeyValue.rawPlain_iff, Section.rawPlain_iff, Body.rawPlain_iff, List.forall_mem_append,
      List.forall_mem_cons, List.forall_mem_flatMap, List.not_mem_nil, false_implies, implies_true,
      Option.mem_def, reduceCtorEq, Option.some.injEq, forall_eq', and_true, and_assoc]

theorem Response.rawPlain_iff (r : Response) : r.RawPlain ↔ ∀ s ∈ r.rawTexts, Plain s := by
  rcases r with ⟨_, _, _, _, _, _, _, _, _ | _⟩ <;>
    simp only [Response.RawPlain, Response.rawTexts, ltsPlain_iff, LineTerminator.rawPlain_iff,
      KeyValue.rawPlain_iff, Section.rawPlain_iff, Body.rawPlain_iff, List.forall_mem_append,
      List.forall_mem_cons, List.forall_mem_flatMap, List.not_mem_nil, false_implies, implies_true,
      Option.mem_def, reduceCtorEq, Option.some.injEq, forall_eq', and_true, and_assoc]

theorem Entry.rawPlain_iff (e : Entry) : e.RawPlain ↔ ∀ s ∈ e.rawTexts, Plain s := by
  rcases e with ⟨_, _ | _⟩ <;>
    simp only [Entry.RawPlain, Entry.rawTexts, Request.rawPlain_iff, Response.rawPlain_iff,
      List.forall_mem_append, List.not_mem_nil, false_implies, implies_true, Option.mem_def,
      reduceCtorEq, Option.some.injEq, forall_eq', and_true]

/-- `RawPlain` is decided by the list of strings written without escape. -/
theorem HurlFile.rawPlain_iff (f : HurlFile) : f.RawPlain ↔ ∀ s ∈ f.rawTexts, Plain s := by
  simp only [HurlFile.RawPlain, HurlFile.rawTexts, Entry.rawPlain_iff, ltsPlain_iff,
    List.forall_mem_append, List.forall_mem_flatMap]

instance (f : HurlFile) : Decidable f.RawPlain := decidable_of_iff _ (HurlFile.rawPlain_iff f).symm

open Markup

/-- Without the page around it, the output is the text of the entries and of the trailing
line terminators in one `<pre>` block. -/
theorem format_eq (css : String) (f : HurlFile) : format css f false =
    ⟨preOpen ++ ((String.join (f.entries.map fmtEntry)).data ++ (fmtLts f.lineTerminators).data) ++
      preClose⟩ :=
  String.ext (by simp [format, fmtHurlFile, fmtPreOpen, fmtPreClose, preOpen, preClose])

/-- `GET http://localhost/users`, `HTTP 200` and one assert in `[Asserts]`:
`jsonpath "$.id" matches` the regex literal `pattern`. -/
def assertMatches (pattern : String) : HurlFile where
  entries := [⟨⟨[], ⟨""⟩, ⟨"GET"⟩, ⟨" "⟩,
      ⟨none, [.string "http://localhost/users" "http://localhost/users"]⟩, ⟨⟨""⟩, none, ⟨"\n"⟩⟩,
      [], [], none⟩,
    some ⟨[], ⟨""⟩, ⟨.versionAny⟩, ⟨" "⟩, ⟨.specific 200⟩, ⟨⟨""⟩, none, ⟨"\n"⟩⟩, [],
      [⟨[], ⟨""⟩, ⟨⟨""⟩, none, ⟨"\n"⟩⟩, .asserts [⟨[], ⟨""⟩,
        ⟨.jsonpath ⟨" "⟩ ⟨some '"', [.string "$.id" "$.id"]⟩⟩, [], ⟨" "⟩,
        ⟨false, ⟨""⟩, ⟨.«match» ⟨" "⟩ (.regex ⟨pattern⟩)⟩⟩, ⟨⟨""⟩, none, ⟨"\n"⟩⟩⟩]⟩],
      none⟩⟩]
  lineTerminators := []

namespace Unescaped

/-- Every string of `L` occurs in the text `t` as it stands. -/
def Within (t : List Char) (L : List String) : Prop := ∀ s ∈ L, s.data <:+: t

variable {rest : List Char} {M : List String}

theorem Within.nil (t : List Char) : Within t [] := fun _ h => absurd h (List.not_mem_nil _)

/-- A string written as it stands occurs in the text it begins. -/
theorem Within.raw {s : String} (h : Within rest M) : Within (s.data ++ rest) (s :: M) := by
  intro u hu
  rcases List.mem_cons.mp hu with rfl | hu
  · exact (List.prefix_append _ _).isInfix
  · exact (h u hu).trans (List.suffix_append _ _).isInfix

/-- Text written before the rest keeps what occurs in the rest. -/
theorem Within.skip (w : List Char) (h : Within rest M) : Within (w ++ rest) M :=
  fun u hu => (h u hu).trans (List.suffix_append _ _).isInfix

theorem within_fmtSpan (cls value : String) (h : Within rest M) :
    Within ((fmtSpan cls value).data ++ rest) (value :: M) := by
  simp only [fmtSpan_eq, String.data_append, List.append_assoc]
  exact Within.skip _ (Within.raw (Within.skip _ h))

/-- A joined list of texts holds the strings of each element, in order. -/
theorem within_join {β : Type} {g : β → String} {r : β → List String} {xs : List β}
    (h : ∀ x ∈ xs, ∀ {rest M}, Within rest M → Within ((g x).data ++ rest) (r x ++ M))
    (hr : Within rest M) : Within ((String.join (xs.map g)).data ++ rest) (xs.flatMap r ++ M) := by
  induction xs generalizing rest M with
  | nil => exact hr
  | cons x xs ih =>
    rw [List.map_cons, join_cons, String.data_append, List.append_assoc, List.flatMap_cons,
      List.append_assoc]
    exact h x (List.mem_cons_self x xs) (ih (fun y hy => h y (List.mem_cons_of_mem x hy)) hr)

theorem within_fmtLt (lt : LineTerminator) (h : Within rest M) :
    Within ((fmtLt lt).data ++ rest) (lt.rawTexts ++ M) := by
  simp only [fmtLt, LineTerminator.rawTexts, fmtSpace_eq, String.data_append, List.append_assoc]
  exact Within.raw (Within.skip _ (Within.raw h))

theorem within_fmtLts (lts : List LineTerminator) (h : Within rest M) :
    Within ((fmtLts lts).data ++ rest) (ltsRawTexts lts ++ M) := by
  rw [fmtLts_eq_join]
  exact within_join (fun lt _ => within_fmtLt lt) h

theorem within_fmtRegexValue (v : RegexValue) (h : Within rest M) :
    Within ((fmtRegexValue v).data ++ rest) (v.rawTexts ++ M) := by
  cases v with
  | template t => exact Within.skip _ h
  | regex r => exact within_fmtSpan "regex" r.source h

theorem within_fmtFilename (t : Template) (h : Within rest M) :
    Within ((fmtFilename t).data ++ rest) (filenameText t :: M) := by
  simp only [fmtFilename, String.data_append, List.append_assoc]
  exact Within.skip _ (Within.raw (Within.skip _ h))

theorem within_fmtFile (f : File) (h : Within rest M) :
    Within ((fmtFile f).data ++ rest) (f.rawTexts ++ M) := by
  simp only [fmtFile, File.rawTexts, fmtSpace_eq, String.data_append, List.append_assoc]
  exact Within.skip _ (Within.raw (within_fmtFilename _ (Within.raw (Within.skip _ h))))

theorem within_fmtBase64 (b : Base64) (h : Within rest M) :
    Within ((fmtBase64 b).data ++ rest) (b.rawTexts ++ M) := by
  simp only [fmtBase64, Base64.rawTexts, fmtSpace_eq, String.data_append, List.append_assoc]
  exact Within.skip _ (Within.raw (within_fmtSpan _ _ (Within.raw (Within.skip _ h))))

theorem within_fmtHex (x : Hex) (h : Within rest M) :
    Within ((fmtHex x).data ++ rest) (x.rawTexts ++ M) := by
  simp only [fmtHex, Hex.rawTexts, fmtSpace_eq, String.data_append, List.append_assoc]
  exact Within.skip _ (Within.raw (within_fmtSpan _ _ (Within.raw (Within.skip _ h))))

theorem within_fmtBoolOption (b : BooleanOption) (h : Within rest M) :
    Within ((fmtBoolOption b).data ++ rest) (b.sourceText :: M) := by
  cases b <;> exact within_fmtSpan _ _ h

theorem within_fmtNaturalOption (n : NaturalOption) (h : Within rest M) :
    Within ((fmtNaturalOption n).data ++ rest) (n.sourceText :: M) := by
  cases n <;> exact within_fmtSpan _ _ h

/-- `Count::Infinite` is written as `-1`, which is its source text. -/
theorem within_fmtCountOption (c : CountOption) (h : Within rest M) :
    Within ((fmtCountOption c).data ++ rest) (c.sourceText :: M) := by
  rcases c with (_ | _) | _ <;> exact within_fmtSpan _ _ h

theorem within_fmtDurationOption (d : DurationOption) (h : Within rest M) :
    Within ((fmtDurationOption d).data ++ rest) (d.rawTexts ++ M) := by
  rcases d with ⟨v, _ | u⟩ | p <;>
    simp only [fmtDurationOption, DurationOption.rawTexts, String.data_append, List.append_assoc]
  · exact within_fmtSpan _ _ (Within.skip _ h)
  · exact within_fmtSpan _ _ (within_fmtSpan _ _ h)
  · exact within_fmtSpan _ _ h

theorem within_fmtVariableDefinition (v : VariableDefinition) (h : Within rest M) :
    Within ((fmtVariableDefinition v).data ++ rest) (v.rawTexts ++ M) := by
  rcases v with ⟨name, space0, space1, _ | _ | n | _⟩ <;>
    simp only [fmtVariableDefinition, VariableDefinition.rawTexts, fmtVariableValue,
      fmtNumber_string, fmtSpace_eq, String.data_append, List.append_assoc]
  case number => exact Within.raw (Within.raw (Within.skip _ (Within.raw (within_fmtSpan _ _ h))))
  all_goals exact Within.raw (Within.raw (Within.skip _ (Within.raw (Within.skip _ h))))

theorem within_fmtOptionKind (k : OptionKind) (h : Within rest M) :
    Within ((fmtOptionKind k).data ++ rest) (k.rawTexts ++ M) := by
  cases k <;> simp only [fmtOptionKind, OptionKind.rawTexts, List.cons_append, List.nil_append] <;>
    with_reducible first
    | exact Within.skip _ h
    | exact within_fmtFilename _ h
    | exact within_fmtBoolOption _ h
    | exact within_fmtNaturalOption _ h
    | exact within_fmtCountOption _ h
    | exact within_fmtDurationOption _ h
    | exact within_fmtVariableDefinition _ h

theorem within_fmtEntryOption (o : EntryOption) (h : Within rest M) :
    Within ((fmtEntryOption o).data ++ rest) (o.rawTexts ++ M) := by
  simp only [fmtEntryOption, EntryOption.rawTexts, fmtSpace_eq, String.data_append,
    List.append_assoc]
  exact within_fmtLts _ (Within.raw (Within.skip _ (Within.raw (Within.skip _ (Within.raw
    (within_fmtOptionKind _ (within_fmtLt _ h)))))))

theorem within_fmtKv (kv : KeyValue) (h : Within rest M) :
    Within ((fmtKv kv).data ++ rest) (kv.rawTexts ++ M) := by
  simp only [fmtKv, KeyValue.rawTexts, fmtSpace_eq, String.data_append, List.append_assoc]
  exact within_fmtLts _ (Within.raw (Within.skip _ (Within.raw (Within.skip _ (Within.raw
    (Within.skip _ (within_fmtLt _ h)))))))

theorem within_fmtFileValue (v : FilenameValue) (h : Within rest M) :
    Within ((fmtFileValue v).data ++ rest) (v.rawTexts ++ M) := by
  simp only [fmtFileValue, FilenameValue.rawTexts, fmtSpace_eq, String.data_append,
    List.append_assoc]
  exact Within.skip _ (Within.raw (within_fmtFilename _ (Within.raw (Within.skip _ (Within.raw
    (Within.skip _ h))))))

theorem within_fmtFileParam (p : FilenameParam) (h : Within rest M) :
    Within ((fmtFileParam p).data ++ rest) (p.rawTexts ++ M) := by
  simp only [fmtFileParam, FilenameParam.rawTexts, fmtSpace_eq, String.data_append,
    List.append_assoc]
  exact within_fmtLts _ (Within.raw (Within.skip _ (Within.raw (Within.skip _ (Within.raw
    (within_fmtFileValue _ (within_fmtLt _ h)))))))

theorem within_fmtMultipartParam (p : MultipartParam) (h : Within rest M) :
    Within ((fmtMultipartParam p).data ++ rest) (p.rawTexts ++ M) := by
  cases p with
  | param kv => exact within_fmtKv kv h
  | filenameParam p => exact within_fmtFileParam p h

theorem within_fmtCookie (c : Cookie) (h : Within rest M) :
    Within ((fmtCookie c).data ++ rest) (c.rawTexts ++ M) := by
  simp only [fmtCookie, Cookie.rawTexts, fmtSpace_eq, String.data_append, List.append_assoc]
  exact within_fmtLts _ (Within.raw (Within.skip _ (Within.raw (Within.skip _ (Within.raw
    (Within.skip _ (within_fmtLt _ h)))))))

theorem fmtCookieAttribute_eq (a : CookieAttribute) : fmtCookieAttribute a = a.sourceText := by
  simp [fmtCookieAttribute, CookieAttribute.sourceText]

/-- The name and the attribute of a cookie path are the two strings it writes as they stand. -/
theorem within_fmtCookiePath (p : CookiePath) (h : Within rest M) :
    Within ((fmtCookiePath p).data ++ rest) (p.rawTexts ++ M) := by
  rcases p with ⟨name, _ | a⟩ <;>
    simp only [fmtCookiePath, CookiePath.rawTexts, fmtCookieAttribute_eq, String.data_append,
      List.append_assoc]
  · exact Within.skip _ (Within.skip _ (Within.raw (Within.skip _ (Within.skip _ (Within.skip _ h)))))
  · exact Within.skip _ (Within.skip _ (Within.raw (Within.skip _ (Within.raw (Within.skip _
      (Within.skip _ (Within.skip _ h)))))))

theorem within_fmtQueryValue (q : QueryValue) (h : Within rest M) :
    Within ((fmtQueryValue q).data ++ rest) (q.rawTexts ++ M) := by
  cases q <;> simp only [fmtQueryValue, QueryValue.rawTexts, fmtSpace_eq, String.data_append,
      List.append_assoc, List.cons_append, List.nil_append] <;>
    with_reducible first
    | exact Within.skip _ h
    | exact Within.skip _ (Within.raw (Within.skip _ h))
    | exact Within.skip _ (Within.raw (within_fmtCookiePath _ h))
    | exact Within.skip _ (Within.raw (within_fmtRegexValue _ h))

theorem within_fmtFilterValue (f : FilterValue) (h : Within rest M) :
    Within ((fmtFilterValue f).data ++ rest) (f.rawTexts ++ M) := by
  cases f <;> simp only [fmtFilterValue, FilterValue.rawTexts, fmtNumber_string, fmtSpace_eq,
      String.data_append, List.append_assoc, List.cons_append, List.nil_append] <;>
    with_reducible first
    | exact Within.skip _ h
    | exact Within.skip _ (Within.raw (Within.skip _ h))
    | exact Within.skip _ (Within.raw (within_fmtSpan _ _ h))
    | exact Within.skip _ (Within.raw (within_fmtRegexValue _ h))
    | exact Within.skip _ (Within.raw (Within.skip _ (Within.raw (Within.skip _ h))))
    | exact Within.skip _ (Within.raw (within_fmtRegexValue _ (Within.raw (Within.skip _ h))))

theorem within_fmtFilters (filters : List (Whitespace × Filter)) (h : Within rest M) :
    Within ((fmtFilters filters).data ++ rest) (filtersRawTexts filters ++ M) :=
  within_join (fun ⟨space, filter⟩ _ _ _ h => by
    simp only [fmtFilter, fmtSpace_eq, String.data_append, List.append_assoc]
    exact Within.raw (within_fmtFilterValue filter.value h)) h

theorem within_fmtCapture (c : Capture) (h : Within rest M) :
    Within ((fmtCapture c).data ++ rest) (c.rawTexts ++ M) := by
  simp only [fmtCapture, Capture.rawTexts, fmtQuery, fmtSpace_eq, String.data_append,
    List.append_assoc]
  exact within_fmtLts _ (Within.raw (Within.skip _ (Within.raw (Within.skip _ (Within.raw
    (within_fmtQueryValue _ (within_fmtFilters _ (Within.raw (Within.skip _
      (within_fmtLt _ h))))))))))

theorem within_fmtPredicateValue (v : PredicateValue) (h : Within rest M) :
    Within ((fmtPredicateValue v).data ++ rest) (v.rawTexts ++ M) := by
  cases v with
  | string t => exact Within.skip _ h
  | multilineString m => exact Within.skip _ h
  | number n => exact within_fmtSpan _ _ h
  | bool b => exact Within.skip _ h
  | file f => exact within_fmtFile f h
  | hex x => exact within_fmtHex x h
  | base64 b => exact within_fmtBase64 b h
  | placeholder p => exact within_fmtSpan _ _ h
  | null => exact Within.skip _ h
  | regex r => exact within_fmtSpan _ _ h

theorem within_fmtPredicateFuncValue (f : PredicateFuncValue) (h : Within rest M) :
    Within ((fmtPredicateFuncValue f).data ++ rest) (f.rawTexts ++ M) := by
  cases f <;> simp only [fmtPredicateFuncValue, PredicateFuncValue.rawTexts, fmtSpace_eq,
      String.data_append, List.append_assoc, List.cons_append, List.nil_append] <;>
    with_reducible first
    | exact Within.skip _ (Within.skip _ (Within.skip _ h))
    | exact Within.skip _ (Within.skip _ (Within.skip _ (Within.raw (within_fmtPredicateValue _ h))))

theorem within_fmtPredicate (p : Predicate) (h : Within rest M) :
    Within ((fmtPredicate p).data ++ rest) (p.rawTexts ++ M) := by
  rcases p with ⟨_ | _, space0, func⟩ <;>
    simp only [fmtPredicate, Predicate.rawTexts, fmtPredicateFunc, fmtSpace_eq,
      Bool.false_eq_true, ite_true, ite_false, String.data_append, List.append_assoc]
  · exact Within.skip _ (within_fmtPredicateFuncValue _ h)
  · exact Within.skip _ (Within.raw (within_fmtPredicateFuncValue _ h))

theorem within_fmtAssert (a : Assert) (h : Within rest M) :
    Within ((fmtAssert a).data ++ rest) (a.rawTexts ++ M) := by
  simp only [fmtAssert, Assert.rawTexts, fmtQuery, fmtSpace_eq, String.data_append,
    List.append_assoc]
  exact within_fmtLts _ (Within.raw (within_fmtQueryValue _ (within_fmtFilters _ (Within.raw
    (within_fmtPredicate _ (within_fmtLt _ h))))))

theorem within_fmtBytes (b : Bytes) (h : Within rest M) :
    Within ((fmtBytes b).data ++ rest) (b.rawTexts ++ M) := by
  cases b with
  | base64 b => exact within_fmtBase64 b h
  | file f => exact within_fmtFile f h
  | hex x => exact within_fmtHex x h
  | onelineString t => exact Within.skip _ h
  | json j => exact Within.skip _ h
  | multilineString m => exact Within.skip _ h
  | xml x => exact Within.skip _ h

theorem within_fmtBody (b : Body) (h : Within rest M) :
    Within ((fmtBody b).data ++ rest) (b.rawTexts ++ M) := by
  simp only [fmtBody_eq, Body.rawTexts, fmtSpace_eq, String.data_append, List.append_assoc]
  exact within_fmtLts _ (Within.raw (within_fmtBytes _ (within_fmtLt _ h)))

theorem within_fmtSectionValue (v : SectionValue) (h : Within rest M) :
    Within ((fmtSectionValue v).data ++ rest) (v.rawTexts ++ M) := by
  cases v with
  | asserts items => exact within_join (fun a _ => within_fmtAssert a) h
  | queryParams items => exact within_join (fun kv _ => within_fmtKv kv) h
  | basicAuth item =>
    cases item with
    | none => exact Within.skip _ h
    | some kv => exact within_fmtKv kv h
  | formParams items => exact within_join (fun kv _ => within_fmtKv kv) h
  | multipartFormData items => exact within_join (fun p _ => within_fmtMultipartParam p) h
  | cookies items => exact within_join (fun c _ => within_fmtCookie c) h
  | captures items => exact within_join (fun c _ => within_fmtCapture c) h
  | options items => exact within_join (fun o _ => within_fmtEntryOption o) h

theorem within_fmtSection (s : Section) (h : Within rest M) :
    Within ((fmtSection s).data ++ rest) (s.rawTexts ++ M) := by
  simp only [fmtSection, Section.rawTexts, fmtSpace_eq, String.data_append, List.append_assoc]
  exact within_fmtLts _ (Within.raw (Within.skip _ (within_fmtLt _ (within_fmtSectionValue _ h))))

/-- The optional body of a request or a response. -/
theorem within_optBody (o : Option Body) (h : Within rest M) :
    Within ((match o with | some body => fmtBody body | none => "").data ++ rest)
      ((match o with | some b => b.rawTexts | none => []) ++ M) := by
  cases o with
  | none => exact Within.skip _ h
  | some b => exact within_fmtBody b h

theorem within_fmtRequest (r : Request) (h : Within rest M) :
    Within ((fmtRequest r).data ++ rest) (r.rawTexts ++ M) := by
  simp only [fmtRequest, Request.rawTexts, fmtMethod, fmtSpace_eq, String.data_append,
    List.append_assoc]
  exact Within.skip _ (within_fmtLts _ (Within.raw (within_fmtSpan _ _ (Within.raw (Within.skip _
    (within_fmtLt _ (within_join (fun kv _ => within_fmtKv kv) (within_join
      (fun s _ => within_fmtSection s) (within_optBody _ (Within.skip _ h))))))))))

theorem within_fmtResponse (r : Response) (h : Within rest M) :
    Within ((fmtResponse r).data ++ rest) (r.rawTexts ++ M) := by
  simp only [fmtResponse, Response.rawTexts, fmtSpace_eq, String.data_append, List.append_assoc]
  exact Within.skip _ (within_fmtLts _ (Within.raw (Within.skip _ (Within.raw (Within.skip _
    (within_fmtLt _ (within_join (fun kv _ => within_fmtKv kv) (within_join
      (fun s _ => within_fmtSection s) (within_optBody _ (Within.skip _ h))))))))))

theorem within_fmtEntry (e : Entry) (h : Within rest M) :
    Within ((fmtEntry e).data ++ rest) (e.rawTexts ++ M) := by
  rcases e with ⟨request, _ | response⟩ <;>
    simp only [fmtEntry, Entry.rawTexts, String.data_append, List.append_assoc]
  · exact Within.skip _ (within_fmtRequest _ (Within.skip _ (Within.skip _ h)))
  · exact Within.skip _ (within_fmtRequest _ (within_fmtResponse _ (Within.skip _ h)))

/-- Every string the formatter writes without escape stands verbatim between the
`<pre><code>` tags of the output. -/
theorem within_fmtHurlFileBody (f : HurlFile) (h : Within rest M) :
    Within ((String.join (f.entries.map fmtEntry)).data ++ ((fmtLts f.lineTerminators).data ++ rest))
      (f.rawTexts ++ M) := by
  rw [HurlFile.rawTexts, List.append_assoc]
  exact within_join (fun e _ => within_fmtEntry e) (within_fmtLts _ h)

/-- Every string the formatter writes without escape occurs verbatim in its output, for
every tree: a markup character it holds reaches the output as it stands. -/
theorem rawTexts_infix_format (css : String) (f : HurlFile) :
    ∀ s ∈ f.rawTexts, s.data <:+: (format css f false).data := by
  have h := Within.skip preOpen (within_fmtHurlFileBody f (Within.nil preClose))
  rw [List.append_nil] at h
  rw [format_eq]
  simpa only [List.append_assoc] using h

/-- The regex literal of a named group is a string written without escape, and it stands
verbatim in the output. -/
theorem rawTexts_infix_format_namedGroup :
    "/(?<id>\\d+)/" ∈ (assertMatches "/(?<id>\\d+)/").rawTexts ∧
      "/(?<id>\\d+)/".data <:+: (format "" (assertMatches "/(?<id>\\d+)/") false).data :=
  have h : "/(?<id>\\d+)/" ∈ (assertMatches "/(?<id>\\d+)/").rawTexts := by decide
  ⟨h, rawTexts_infix_format "" _ _ h⟩

end Unescaped

end HurlHtml
