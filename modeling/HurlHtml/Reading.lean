import HurlHtml.Reader
import HurlHtml.Unescaped

/-!
# Reading the text of every method

One lemma per method of the formatter: any reader, at any depth, reads the text the method
pushes as the source text of its node and is back at the depth it started from, as soon as it
keeps every character of the strings the method writes without escape (`rawTexts`). Every text
pushed through `escape_xml` is read as itself, every class is a word of the formatter, and
spans are opened and closed within one method. A filename is read as `fmt_filename` writes it.
-/

namespace HurlHtml.Reader

open HtmlFormatter Markup

variable {α : Type} (R : Reader α) (d : Nat) (rest : List Char)

theorem run_fmtComment (c : Comment) :
    R.run d ((fmtComment c).data ++ rest) = R.emit c.sourceText.data (R.run d rest) := by
  simp [fmtComment, Comment.sourceText, fmtSpan_eq,
    R.run_fmtSpanOpen _ _ (by decide : ClassWord "comment".data), R.run_fmtSpanClose,
    R.run_escapeXml, R.run_textChar, TextChar]

theorem run_fmtLt {lt : LineTerminator} (h : R.KeepsAll lt.rawTexts) :
    R.run d ((fmtLt lt).data ++ rest) = R.emit lt.sourceText.data (R.run d rest) := by
  simp only [LineTerminator.rawTexts, keepsAll_cons, keepsAll_nil, and_true] at h
  cases hc : lt.comment <;>
    simp [fmtLt, LineTerminator.sourceText, hc, R.run_str _ _ h.1, R.run_str _ _ h.2,
      R.run_fmtComment]

theorem run_fmtLts {lts : List LineTerminator} (h : R.KeepsAll (ltsRawTexts lts)) :
    R.run d ((fmtLts lts).data ++ rest) = R.emit (ltsText lts).data (R.run d rest) := by
  rw [fmtLts_eq_join, ltsText, R.run_join _ _ fun lt hlt rest => R.run_fmtLt d rest fun s hs =>
    h s (List.mem_flatMap.mpr ⟨lt, hlt, hs⟩)]

theorem run_fmtTemplate (t : Template) :
    R.run d ((fmtTemplate t).data ++ rest) = R.emit t.toSource.data (R.run d rest) :=
  R.run_fmtSpan_escapeXml d rest (by decide) _

theorem run_fmtPlaceholder {p : Placeholder} (h : R.KeepsStr p.toSource) :
    R.run d ((fmtPlaceholder p).data ++ rest) = R.emit p.toSource.data (R.run d rest) :=
  R.run_fmtSpan d rest (by decide) h

theorem run_fmtRegex {r : Regex} (h : R.KeepsStr r.source) :
    R.run d ((fmtRegex r).data ++ rest) = R.emit r.source.data (R.run d rest) :=
  R.run_fmtSpan d rest (by decide) h

theorem run_fmtFilename {t : Template} (h : R.KeepsStr (filenameText t)) :
    R.run d ((fmtFilename t).data ++ rest) = R.emit (filenameText t).data (R.run d rest) := by
  simp [fmtFilename, R.run_fmtSpanOpen _ _ (by decide : ClassWord "filename".data), R.run_str _ _ h,
    R.run_fmtSpanClose]

theorem run_fmtFile {f : File} (h : R.KeepsAll f.rawTexts) :
    R.run d ((fmtFile f).data ++ rest) = R.emit (f.sourceText filenameText).data (R.run d rest) := by
  simp only [File.rawTexts, keepsAll_cons, keepsAll_nil, and_true] at h
  obtain ⟨h1, h2, h3⟩ := h
  simp [fmtFile, File.sourceText, R.run_str _ _ h1, R.run_fmtFilename _ _ h2, R.run_str _ _ h3,
    R.run_textChar, TextChar]

theorem run_fmtBase64 {b : Base64} (h : R.KeepsAll b.rawTexts) :
    R.run d ((fmtBase64 b).data ++ rest) = R.emit b.sourceText.data (R.run d rest) := by
  simp only [Base64.rawTexts, keepsAll_cons, keepsAll_nil, and_true] at h
  obtain ⟨h1, h2, h3⟩ := h
  simp [fmtBase64, Base64.sourceText, R.run_str _ _ h1,
    R.run_fmtSpan _ _ (by decide : ClassWord "base64".data) h2, R.run_str _ _ h3,
    R.run_textChar, TextChar]

theorem run_fmtHex {x : Hex} (h : R.KeepsAll x.rawTexts) :
    R.run d ((fmtHex x).data ++ rest) = R.emit x.sourceText.data (R.run d rest) := by
  simp only [Hex.rawTexts, keepsAll_cons, keepsAll_nil, and_true] at h
  obtain ⟨h1, h2, h3⟩ := h
  simp [fmtHex, Hex.sourceText, R.run_str _ _ h1,
    R.run_fmtSpan _ _ (by decide : ClassWord "hex".data) h2, R.run_str _ _ h3,
    R.run_textChar, TextChar]

theorem run_fmtBoolOption {b : BooleanOption} (h : R.KeepsStr b.sourceText) :
    R.run d ((fmtBoolOption b).data ++ rest) = R.emit b.sourceText.data (R.run d rest) := by
  cases b with
  | literal v => exact R.run_fmtSpan d rest (by decide) h
  | placeholder p => exact R.run_fmtPlaceholder d rest h

theorem run_fmtNaturalOption {n : NaturalOption} (h : R.KeepsStr n.sourceText) :
    R.run d ((fmtNaturalOption n).data ++ rest) = R.emit n.sourceText.data (R.run d rest) := by
  cases n with
  | literal v => exact R.run_fmtSpan d rest (by decide) h
  | placeholder p => exact R.run_fmtPlaceholder d rest h

theorem run_fmtDurationOption {o : DurationOption} (h : R.KeepsAll o.rawTexts) :
    R.run d ((fmtDurationOption o).data ++ rest) = R.emit o.sourceText.data (R.run d rest) := by
  rcases o with ⟨v, _ | u⟩ | p <;>
    simp only [DurationOption.rawTexts, keepsAll_cons, keepsAll_nil, and_true] at h
  · simp [fmtDurationOption, DurationOption.sourceText,
      R.run_fmtSpan _ _ (by decide : ClassWord "number".data) h]
  · simp [fmtDurationOption, DurationOption.sourceText,
      R.run_fmtSpan _ _ (by decide : ClassWord "number".data) h.1,
      R.run_fmtSpan _ _ (by decide : ClassWord "unit".data) h.2]
  · exact R.run_fmtPlaceholder d rest h

theorem run_fmtCountOption {c : CountOption} (h : R.KeepsStr c.sourceText) :
    R.run d ((fmtCountOption c).data ++ rest) = R.emit c.sourceText.data (R.run d rest) := by
  rcases c with (_ | _) | p
  · exact R.run_fmtSpan d rest (by decide) h
  · exact R.run_fmtSpan d rest (by decide) h
  · exact R.run_fmtPlaceholder d rest h

theorem run_fmtVariableValue {v : VariableValue}
    (h : R.KeepsAll (match v with | .number n => [n.source] | _ => [])) :
    R.run d ((fmtVariableValue v).data ++ rest) = R.emit v.sourceText.data (R.run d rest) := by
  cases v with
  | null => exact R.run_fmtSpan d rest (by decide) (R.keeps_of_plain (by decide))
  | bool b => exact R.run_fmtSpan d rest (by decide) (R.keeps_of_plain (by cases b <;> decide))
  | number n => exact R.run_fmtSpan d rest (by decide) ((R.keepsAll_cons _ _).mp h).1
  | string t => exact R.run_fmtTemplate d rest t

theorem run_fmtVariableDefinition {v : VariableDefinition} (h : R.KeepsAll v.rawTexts) :
    R.run d ((fmtVariableDefinition v).data ++ rest) = R.emit v.sourceText.data (R.run d rest) := by
  simp only [VariableDefinition.rawTexts, keepsAll_append, keepsAll_cons, keepsAll_nil,
    and_true] at h
  obtain ⟨⟨h1, h2, h3⟩, h4⟩ := h
  simp [fmtVariableDefinition, VariableDefinition.sourceText, R.run_str _ _ h1, R.run_str _ _ h2,
    R.run_str _ _ h3, R.run_fmtVariableValue _ _ h4, R.run_textChar, TextChar]

theorem run_fmtOptionKind {k : OptionKind} (h : R.KeepsAll k.rawTexts) :
    R.run d ((fmtOptionKind k).data ++ rest) =
      R.emit (k.sourceText filenameText).data (R.run d rest) := by
  cases k <;> simp only [fmtOptionKind, OptionKind.sourceText, OptionKind.rawTexts, keepsAll_cons,
      keepsAll_nil, and_true] at h ⊢ <;>
    with_reducible first
    | exact R.run_fmtTemplate d rest _
    | exact R.run_fmtFilename d rest h
    | exact R.run_fmtBoolOption d rest h
    | exact R.run_fmtDurationOption d rest h
    | exact R.run_fmtNaturalOption d rest h
    | exact R.run_fmtCountOption d rest h
    | exact R.run_fmtVariableDefinition d rest h

theorem run_fmtEntryOption {o : EntryOption} (h : R.KeepsAll o.rawTexts) :
    R.run d ((fmtEntryOption o).data ++ rest) =
      R.emit (o.sourceText filenameText).data (R.run d rest) := by
  simp only [EntryOption.rawTexts, keepsAll_append, keepsAll_cons, keepsAll_nil, and_true] at h
  obtain ⟨⟨⟨h1, h2, h3, h4⟩, h5⟩, h6⟩ := h
  simp [fmtEntryOption, EntryOption.sourceText, R.run_fmtLts _ _ h1, R.run_str _ _ h2, fmtString,
    R.run_fmtSpan _ _ (by decide : ClassWord "string".data)
      (R.keeps_of_plain (plain_optionKind_identifier _)),
    R.run_str _ _ h3, R.run_str _ _ h4, R.run_fmtOptionKind _ _ h5, R.run_fmtLt _ _ h6,
    R.run_textChar, TextChar]

theorem run_fmtKv {kv : KeyValue} (h : R.KeepsAll kv.rawTexts) :
    R.run d ((fmtKv kv).data ++ rest) = R.emit kv.sourceText.data (R.run d rest) := by
  simp only [KeyValue.rawTexts, keepsAll_append, keepsAll_cons, keepsAll_nil, and_true] at h
  obtain ⟨⟨h1, h2, h3, h4⟩, h5⟩ := h
  simp [fmtKv, KeyValue.sourceText, R.run_fmtLts _ _ h1, R.run_str _ _ h2, R.run_fmtTemplate,
    R.run_str _ _ h3, R.run_str _ _ h4, R.run_fmtLt _ _ h5, R.run_textChar, TextChar]

theorem run_fmtFileValue {v : FilenameValue} (h : R.KeepsAll v.rawTexts) :
    R.run d ((fmtFileValue v).data ++ rest) =
      R.emit (v.sourceText filenameText).data (R.run d rest) := by
  simp only [FilenameValue.rawTexts, keepsAll_cons, keepsAll_nil, and_true] at h
  obtain ⟨h1, h2, h3, h4⟩ := h
  cases hc : v.contentType <;>
    simp [fmtFileValue, FilenameValue.sourceText, hc, R.run_str _ _ h1, R.run_fmtFilename _ _ h2,
      R.run_str _ _ h3, R.run_str _ _ h4, R.run_fmtTemplate, R.run_textChar, TextChar]

theorem run_fmtFileParam {p : FilenameParam} (h : R.KeepsAll p.rawTexts) :
    R.run d ((fmtFileParam p).data ++ rest) =
      R.emit (p.sourceText filenameText).data (R.run d rest) := by
  simp only [FilenameParam.rawTexts, keepsAll_append, keepsAll_cons, keepsAll_nil, and_true] at h
  obtain ⟨⟨⟨h1, h2, h3, h4⟩, h5⟩, h6⟩ := h
  simp [fmtFileParam, FilenameParam.sourceText, R.run_fmtLts _ _ h1, R.run_str _ _ h2,
    R.run_fmtTemplate, R.run_str _ _ h3, R.run_str _ _ h4, R.run_fmtFileValue _ _ h5,
    R.run_fmtLt _ _ h6, R.run_textChar, TextChar]

theorem run_fmtMultipartParam {p : MultipartParam} (h : R.KeepsAll p.rawTexts) :
    R.run d ((fmtMultipartParam p).data ++ rest) =
      R.emit (p.sourceText filenameText).data (R.run d rest) := by
  cases p with
  | param kv => exact R.run_fmtKv d rest h
  | filenameParam p => exact R.run_fmtFileParam d rest h

theorem run_fmtCookie {c : Cookie} (h : R.KeepsAll c.rawTexts) :
    R.run d ((fmtCookie c).data ++ rest) = R.emit c.sourceText.data (R.run d rest) := by
  simp only [Cookie.rawTexts, keepsAll_append, keepsAll_cons, keepsAll_nil, and_true] at h
  obtain ⟨⟨h1, h2, h3, h4⟩, h5⟩ := h
  simp [fmtCookie, Cookie.sourceText, R.run_fmtLts _ _ h1, R.run_str _ _ h2, R.run_fmtTemplate,
    R.run_str _ _ h3, R.run_str _ _ h4, R.run_fmtLt _ _ h5, R.run_textChar, TextChar]

theorem run_fmtRegexValue {v : RegexValue} (h : R.KeepsAll v.rawTexts) :
    R.run d ((fmtRegexValue v).data ++ rest) = R.emit v.sourceText.data (R.run d rest) := by
  cases v with
  | template t => exact R.run_fmtTemplate d rest t
  | regex r => exact R.run_fmtRegex d rest ((R.keepsAll_cons _ _).mp h).1

/-- The cookie path is the one template the formatter writes by its source without escape. -/
theorem run_fmtCookiePath {p : CookiePath} (h : R.KeepsAll p.rawTexts) :
    R.run d ((fmtCookiePath p).data ++ rest) = R.emit p.sourceText.data (R.run d rest) := by
  cases ha : p.attribute <;>
    simp only [CookiePath.rawTexts, ha, keepsAll_cons, keepsAll_nil, and_true] at h
  · simp [fmtCookiePath, CookiePath.sourceText, ha,
      R.run_fmtSpanOpen _ _ (by decide : ClassWord "string".data), R.run_fmtSpanClose,
      R.run_str _ _ h, R.run_textChar, TextChar]
  · obtain ⟨h1, h2⟩ := h
    simp only [KeepsStr, CookieAttribute.sourceText, String.data_append,
      List.forall_mem_append] at h2
    simp [fmtCookiePath, CookiePath.sourceText, CookieAttribute.sourceText, fmtCookieAttribute, ha,
      R.run_fmtSpanOpen _ _ (by decide : ClassWord "string".data), R.run_fmtSpanClose,
      R.run_str _ _ h1, R.run_keeps _ _ h2.1.1, R.run_keeps _ _ h2.1.2, R.run_keeps _ _ h2.2,
      R.run_textChar, TextChar]

theorem run_fmtQueryValue {q : QueryValue} (h : R.KeepsAll q.rawTexts) :
    R.run d ((fmtQueryValue q).data ++ rest) = R.emit q.sourceText.data (R.run d rest) := by
  rw [fmtQueryValue.eq_def, QueryValue.sourceText.eq_def, String.data_append, String.data_append,
    List.append_assoc, R.run_fmtSpan _ _ (by decide) (R.keeps_of_plain (plain_query_identifier q)),
    ← emit_emit]
  congr 1
  cases q <;> simp only [QueryValue.rawTexts, keepsAll_cons, keepsAll_nil, and_true] at h <;>
    simp [h, R.run_str, R.run_fmtTemplate, R.run_fmtCookiePath, R.run_fmtRegexValue,
      fmtCertificateAttributeName, R.run_fmtSpanOpen _ _ (by decide : ClassWord "string".data),
      R.run_fmtSpanClose, R.run_str _ _ (R.keeps_of_plain (plain_certificate_identifier _)),
      R.run_textChar, TextChar]

theorem run_fmtFilterValue {f : FilterValue} (h : R.KeepsAll f.rawTexts) :
    R.run d ((fmtFilterValue f).data ++ rest) = R.emit f.sourceText.data (R.run d rest) := by
  rw [fmtFilterValue.eq_def, FilterValue.sourceText.eq_def, String.data_append, String.data_append,
    List.append_assoc, R.run_fmtSpan _ _ (by decide) (R.keeps_of_plain (plain_filter_identifier f)),
    ← emit_emit]
  congr 1
  cases f <;> simp only [FilterValue.rawTexts, keepsAll_append, keepsAll_cons, keepsAll_nil,
      and_true, List.cons_append] at h <;>
    simp [h, R.run_str, R.run_fmtTemplate, R.run_fmtRegexValue,
      R.run_fmtSpan _ _ (by decide : ClassWord "number".data)]

theorem run_fmtFilters {fs : List (Whitespace × Filter)} (h : R.KeepsAll (filtersRawTexts fs)) :
    R.run d ((fmtFilters fs).data ++ rest) = R.emit (filtersText fs).data (R.run d rest) := by
  rw [fmtFilters, filtersText, R.run_join]
  rintro ⟨space, filter⟩ hp rest
  have hf : R.KeepsAll (space.value :: filter.value.rawTexts) := fun s hs =>
    h s (List.mem_flatMap.mpr ⟨_, hp, hs⟩)
  obtain ⟨h1, h2⟩ := (R.keepsAll_cons _ _).mp hf
  simp [fmtFilter, R.run_str _ _ h1, R.run_fmtFilterValue _ _ h2]

theorem run_fmtCapture {c : Capture} (h : R.KeepsAll c.rawTexts) :
    R.run d ((fmtCapture c).data ++ rest) = R.emit c.sourceText.data (R.run d rest) := by
  simp only [Capture.rawTexts, keepsAll_append, keepsAll_cons, keepsAll_nil, and_true] at h
  obtain ⟨⟨⟨⟨⟨h1, h2, h3, h4⟩, h5⟩, h6⟩, h7⟩, h8⟩ := h
  cases hr : c.redact <;>
    simp [fmtCapture, Capture.sourceText, hr, R.run_fmtLts _ _ h1, R.run_str _ _ h2,
      R.run_fmtTemplate, R.run_str _ _ h3, R.run_str _ _ h4, fmtQuery,
      R.run_fmtQueryValue _ _ h5, R.run_fmtFilters _ _ h6, R.run_str _ _ h7, fmtString,
      R.run_fmtSpan _ _ (by decide : ClassWord "string".data)
        (R.keeps_of_plain (by decide : Plain "redact")),
      R.run_fmtLt _ _ h8, R.run_textChar, TextChar]

theorem run_fmtPredicateValue {v : PredicateValue} (h : R.KeepsAll v.rawTexts) :
    R.run d ((fmtPredicateValue v).data ++ rest) =
      R.emit (v.sourceText filenameText).data (R.run d rest) := by
  cases v <;> simp only [PredicateValue.rawTexts, keepsAll_cons, keepsAll_nil, and_true] at h
  case string t => exact R.run_fmtTemplate d rest t
  case multilineString m => exact R.run_fmtSpan_escapeXml d rest (by decide) _
  case number n => exact R.run_fmtSpan d rest (by decide) h
  case bool b => exact R.run_fmtSpan d rest (by decide) (R.keeps_of_plain (by cases b <;> decide))
  case file f => exact R.run_fmtFile d rest h
  case hex x => exact R.run_fmtHex d rest h
  case base64 b => exact R.run_fmtBase64 d rest h
  case placeholder p => exact R.run_fmtPlaceholder d rest h
  case null => exact R.run_fmtSpan d rest (by decide) (R.keeps_of_plain (by decide))
  case regex r => exact R.run_fmtRegex d rest h

theorem run_fmtPredicateFuncValue {f : PredicateFuncValue} (h : R.KeepsAll f.rawTexts) :
    R.run d ((fmtPredicateFuncValue f).data ++ rest) =
      R.emit (f.sourceText filenameText).data (R.run d rest) := by
  rw [fmtPredicateFuncValue.eq_def, PredicateFuncValue.sourceText.eq_def]
  simp only [String.data_append, List.append_assoc, ← emit_emit,
    R.run_fmtSpanOpen _ _ (by decide : ClassWord "predicate-type".data),
    R.run_encodeHtml _ _ (amp_not_mem_predicate_identifier f), R.run_fmtSpanClose]
  congr 1
  cases f <;> simp only [PredicateFuncValue.rawTexts, keepsAll_cons, keepsAll_nil] at h <;>
    simp [h, R.run_str, R.run_fmtPredicateValue]

theorem run_fmtPredicate {p : Predicate} (h : R.KeepsAll p.rawTexts) :
    R.run d ((fmtPredicate p).data ++ rest) =
      R.emit (p.sourceText filenameText).data (R.run d rest) := by
  cases hn : p.not <;> simp only [Predicate.rawTexts, hn, keepsAll_append, keepsAll_cons,
    keepsAll_nil, and_true, true_and, Bool.false_eq_true, ite_true, ite_false] at h
  · simp [fmtPredicate, Predicate.sourceText, hn, fmtPredicateFunc,
      R.run_fmtPredicateFuncValue _ _ h]
  · simp [fmtPredicate, Predicate.sourceText, hn, fmtPredicateFunc,
      R.run_fmtPredicateFuncValue _ _ h.2, R.run_str _ _ h.1,
      R.run_fmtSpan _ _ (by decide : ClassWord "not".data)
        (R.keeps_of_plain (by decide : Plain "not"))]

theorem run_fmtAssert {a : Assert} (h : R.KeepsAll a.rawTexts) :
    R.run d ((fmtAssert a).data ++ rest) = R.emit (a.sourceText filenameText).data (R.run d rest) := by
  simp only [Assert.rawTexts, keepsAll_append, keepsAll_cons, keepsAll_nil, and_true] at h
  obtain ⟨⟨⟨⟨⟨⟨h1, h2⟩, h3⟩, h4⟩, h5⟩, h6⟩, h7⟩ := h
  simp [fmtAssert, Assert.sourceText, R.run_fmtLts _ _ h1, R.run_str _ _ h2, fmtQuery,
    R.run_fmtQueryValue _ _ h3, R.run_fmtFilters _ _ h4, R.run_str _ _ h5,
    R.run_fmtPredicate _ _ h6, R.run_fmtLt _ _ h7]

theorem run_fmtBytes {b : Bytes} (h : R.KeepsAll b.rawTexts) :
    R.run d ((fmtBytes b).data ++ rest) = R.emit (b.sourceText filenameText).data (R.run d rest) := by
  cases b with
  | base64 v => exact R.run_fmtBase64 d rest h
  | file v => exact R.run_fmtFile d rest h
  | hex v => exact R.run_fmtHex d rest h
  | onelineString t => exact R.run_fmtTemplate d rest t
  | json j => exact R.run_fmtSpan_escapeXml d rest (by decide) _
  | multilineString m => exact R.run_fmtSpan_escapeXml d rest (by decide) _
  | xml x => exact R.run_fmtSpan_escapeXml d rest (by decide) _

theorem run_fmtBody {b : Body} (h : R.KeepsAll b.rawTexts) :
    R.run d ((fmtBody b).data ++ rest) = R.emit (b.sourceText filenameText).data (R.run d rest) := by
  simp only [Body.rawTexts, keepsAll_append, keepsAll_cons, keepsAll_nil, and_true] at h
  obtain ⟨⟨⟨h1, h2⟩, h3⟩, h4⟩ := h
  simp [fmtBody_eq, Body.sourceText, R.run_fmtLts _ _ h1, R.run_str _ _ h2, R.run_fmtBytes _ _ h3,
    R.run_fmtLt _ _ h4]

theorem run_fmtSectionValue {v : SectionValue} (h : R.KeepsAll v.rawTexts) :
    R.run d ((fmtSectionValue v).data ++ rest) =
      R.emit (v.sourceText filenameText).data (R.run d rest) := by
  cases v with
  | asserts items =>
    exact R.run_join _ _ fun a ha rest => R.run_fmtAssert d rest (R.keepsAll_flatMap h a ha)
  | queryParams items _ =>
    exact R.run_join _ _ fun kv hkv rest => R.run_fmtKv d rest (R.keepsAll_flatMap h kv hkv)
  | basicAuth item =>
    cases item with
    | none => exact (R.emit_nil _).symm
    | some kv => exact R.run_fmtKv d rest h
  | formParams items _ =>
    exact R.run_join _ _ fun kv hkv rest => R.run_fmtKv d rest (R.keepsAll_flatMap h kv hkv)
  | multipartFormData items _ =>
    exact R.run_join _ _ fun p hp rest => R.run_fmtMultipartParam d rest (R.keepsAll_flatMap h p hp)
  | cookies items =>
    exact R.run_join _ _ fun c hc rest => R.run_fmtCookie d rest (R.keepsAll_flatMap h c hc)
  | captures items =>
    exact R.run_join _ _ fun c hc rest => R.run_fmtCapture d rest (R.keepsAll_flatMap h c hc)
  | options items =>
    exact R.run_join _ _ fun o ho rest => R.run_fmtEntryOption d rest (R.keepsAll_flatMap h o ho)

theorem run_fmtSection {s : Section} (h : R.KeepsAll s.rawTexts) :
    R.run d ((fmtSection s).data ++ rest) = R.emit (s.sourceText filenameText).data (R.run d rest) := by
  simp only [Section.rawTexts, keepsAll_append, keepsAll_cons, keepsAll_nil, and_true] at h
  obtain ⟨⟨⟨h1, h2⟩, h3⟩, h4⟩ := h
  have hi : Plain ("[" ++ s.identifier ++ "]") :=
    (plain_append _ _).mpr
      ⟨(plain_append _ _).mpr ⟨by decide, plain_section_identifier _⟩, by decide⟩
  simp [-String.data_join, fmtSection, Section.sourceText, R.run_fmtLts _ _ h1, R.run_str _ _ h2,
    R.run_fmtSpan _ _ (by decide : ClassWord "section-header".data) (R.keeps_of_plain hi),
    R.run_fmtLt _ _ h3, R.run_fmtSectionValue _ _ h4]

theorem run_fmtRequest {r : Request} (h : R.KeepsAll r.rawTexts) :
    R.run d ((fmtRequest r).data ++ rest) = R.emit (r.sourceText filenameText).data (R.run d rest) := by
  simp only [Request.rawTexts, keepsAll_append, keepsAll_cons, keepsAll_nil, and_true] at h
  obtain ⟨⟨⟨⟨⟨h1, h2, h3, h4⟩, h5⟩, h6⟩, h7⟩, h8⟩ := h
  have hbody : ∀ b ∈ r.body, ∀ rest, R.run (d + 1) ((fmtBody b).data ++ rest) =
      R.emit (b.sourceText filenameText).data (R.run (d + 1) rest) := fun b hb rest =>
    R.run_fmtBody (d + 1) rest (by rwa [Option.mem_def.mp hb] at h8)
  cases hb : r.body <;>
    simp [-String.data_join, fmtRequest, Request.sourceText, hb, hbody,
      R.run_fmtSpanOpen _ _ (by decide : ClassWord "request".data), R.run_fmtSpanClose,
      R.run_fmtLts _ _ h1, R.run_str _ _ h2, fmtMethod,
      R.run_fmtSpan _ _ (by decide : ClassWord "method".data) h3, R.run_str _ _ h4,
      R.run_fmtSpan_escapeXml _ _ (by decide : ClassWord "url".data), R.run_fmtLt _ _ h5,
      R.run_join (d + 1) _ fun kv hkv rest => R.run_fmtKv (d + 1) rest (R.keepsAll_flatMap h6 kv hkv),
      R.run_join (d + 1) _ fun s hs rest => R.run_fmtSection (d + 1) rest (R.keepsAll_flatMap h7 s hs)]

theorem run_fmtResponse {r : Response} (h : R.KeepsAll r.rawTexts) :
    R.run d ((fmtResponse r).data ++ rest) =
      R.emit (r.sourceText filenameText).data (R.run d rest) := by
  simp only [Response.rawTexts, keepsAll_append, keepsAll_cons, keepsAll_nil, and_true] at h
  obtain ⟨⟨⟨⟨⟨h1, h2, h3⟩, h4⟩, h5⟩, h6⟩, h7⟩ := h
  have hbody : ∀ b ∈ r.body, ∀ rest, R.run (d + 1) ((fmtBody b).data ++ rest) =
      R.emit (b.sourceText filenameText).data (R.run (d + 1) rest) := fun b hb rest =>
    R.run_fmtBody (d + 1) rest (by rwa [Option.mem_def.mp hb] at h7)
  cases hb : r.body <;>
    simp [-String.data_join, fmtResponse, Response.sourceText, hb, hbody,
      R.run_fmtSpanOpen _ _ (by decide : ClassWord "response".data), R.run_fmtSpanClose,
      R.run_fmtLts _ _ h1, R.run_str _ _ h2, fmtVersion,
      R.run_fmtSpan _ _ (by decide : ClassWord "version".data) (R.keeps_of_plain (plain_version _)),
      R.run_str _ _ h3, fmtStatus,
      R.run_fmtSpan _ _ (by decide : ClassWord "number".data) (R.keeps_of_plain (plain_status _)),
      R.run_fmtLt _ _ h4,
      R.run_join (d + 1) _ fun kv hkv rest => R.run_fmtKv (d + 1) rest (R.keepsAll_flatMap h5 kv hkv),
      R.run_join (d + 1) _ fun s hs rest => R.run_fmtSection (d + 1) rest (R.keepsAll_flatMap h6 s hs)]

theorem run_fmtEntry {e : Entry} (h : R.KeepsAll e.rawTexts) :
    R.run d ((fmtEntry e).data ++ rest) = R.emit (e.sourceText filenameText).data (R.run d rest) := by
  simp only [Entry.rawTexts, keepsAll_append] at h
  cases hr : e.response <;> rw [hr] at h
  · simp [fmtEntry, Entry.sourceText, hr, R.run_fmtSpanOpen _ _ (by decide : ClassWord "entry".data),
      R.run_fmtSpanClose, R.run_fmtRequest _ _ h.1]
  · simp [fmtEntry, Entry.sourceText, hr, R.run_fmtSpanOpen _ _ (by decide : ClassWord "entry".data),
      R.run_fmtSpanClose, R.run_fmtRequest _ _ h.1, R.run_fmtResponse _ _ h.2]

/-- The text of a whole file inside its `<pre>` block. -/
theorem run_fmtHurlFileBody {f : HurlFile} (h : R.KeepsAll f.rawTexts) :
    R.run d ((String.join (f.entries.map fmtEntry)).data ++
        ((fmtLts f.lineTerminators).data ++ rest)) =
      R.emit (f.sourceText filenameText).data (R.run d rest) := by
  simp only [HurlFile.rawTexts, keepsAll_append] at h
  rw [R.run_join _ _ fun e he rest => R.run_fmtEntry d rest (R.keepsAll_flatMap h.1 e he),
    R.run_fmtLts _ _ h.2, emit_emit, HurlFile.sourceText, String.data_append]

/-- Every reader keeps the strings of a tree whose strings written without escape are plain. -/
theorem keepsAll_of_rawPlain {f : HurlFile} (h : f.RawPlain) : R.KeepsAll f.rawTexts :=
  R.keepsAll_of_plain ((HurlFile.rawPlain_iff f).mp h)

end HurlHtml.Reader
