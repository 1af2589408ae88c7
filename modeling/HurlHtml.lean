import HurlHtml.Ast
import HurlHtml.Escape
import HurlHtml.HtmlFormatter
import HurlHtml.Markup
import HurlHtml.SourceText
import HurlHtml.Unescaped
import HurlHtml.Reader
import HurlHtml.Reading
import HurlHtml.Output
import HurlHtml.ToFloat
