import ApiBindings.Template.Rendering
import ApiBindings.Text.Lines
import ApiBindings.View.Arrangement

/-!
# The class of an API

The template that writes a TypeScript class with one method for each operation of a document, and the
rendering of a model by a template.
-/

namespace ApiBindings

/-- The text that a template writes for a model. The template sees the entries of the model and, under
`type_property`, the key of its types. -/
def View.Model.render (m : View.Model) (name source typeKey : String) : Except Template.Failure String :=
  Template.render name source (("type_property", .string typeKey) :: m.templateEntries)

namespace TypeScript

/-- The name of the class template. -/
def classTemplateName : String := "class.ts.j2"

/-- The lines of the class template. -/
def classTemplateLines : List String := [
  "\x7b% macro ts(node) %\x7d\x7b% if node is defined and node[type_property] is defined %\x7d\x7b\x7b node[type_property].tsType \x7d\x7d\x7b% elif node is defined and node.tsType is defined %\x7d\x7b\x7b node.tsType \x7d\x7d\x7b% else %\x7dany\x7b% endif %\x7d\x7b% endmacro %\x7d",
  "// Generated by swv. Do not edit.",
  "\x7b% for import in imports %\x7d",
  "import \x7b\x7b import \x7d\x7d;",
  "\x7b% endfor %\x7d",
  "",
  "\x7b% if description %\x7d",
  "/**",
  " * \x7b\x7b description | escape_comment \x7d\x7d",
  " */",
  "\x7b% endif %\x7d",
  "export class \x7b\x7b className \x7d\x7d \x7b",
  "  constructor(private readonly domain: string = '\x7b\x7b domain \x7d\x7d') \x7b\x7d",
  "\x7b% for m in methods %\x7d",
  "",
  "  /**",
  "\x7b% if m.summary %\x7d",
  "   * \x7b\x7b m.summary | escape_comment \x7d\x7d",
  "\x7b% endif %\x7d",
  "   * \x7b\x7b m.method \x7d\x7d \x7b\x7b m.path \x7d\x7d",
  "\x7b% if m.deprecated %\x7d",
  "   * @deprecated",
  "\x7b% endif %\x7d",
  "   */",
  "  async \x7b\x7b m.methodName \x7d\x7d(\x7b% for p in m.parameters %\x7d\x7b% if p.notFirstParameter %\x7d, \x7b% endif %\x7d\x7b\x7b p.camelCaseName \x7d\x7d\x7b\x7b p.cardinality \x7d\x7d: \x7b\x7b ts(p) \x7d\x7d\x7b% endfor %\x7d): Promise<\x7b\x7b ts(m.return) \x7d\x7d> \x7b",
  "    let path = '\x7b\x7b m.path \x7d\x7d';",
  "\x7b% for p in m.byIn.path | default([]) %\x7d",
  "    path = path.replace('\x7b\x7b \"\x7b\" \x7d\x7d\x7b\x7b p.name \x7d\x7d\x7b\x7b \"\x7d\" \x7d\x7d', encodeURIComponent(String(\x7b\x7b p.camelCaseName \x7d\x7d)));",
  "\x7b% endfor %\x7d",
  "    const query = new URLSearchParams();",
  "\x7b% for p in m.byIn.query | default([]) %\x7d",
  "    if (\x7b\x7b p.camelCaseName \x7d\x7d !== undefined) query.append('\x7b\x7b p.name \x7d\x7d', String(\x7b\x7b p.camelCaseName \x7d\x7d));",
  "\x7b% endfor %\x7d",
  "    const headers: Record<string, string> = \x7b",
  "\x7b% for h in m.headers %\x7d",
  "      '\x7b\x7b h.name \x7d\x7d': \x7b\x7b h.value \x7d\x7d,",
  "\x7b% endfor %\x7d",
  "    \x7d;",
  "\x7b% for p in m.byIn.header | default([]) %\x7d",
  "    if (\x7b\x7b p.camelCaseName \x7d\x7d !== undefined) headers['\x7b\x7b p.name \x7d\x7d'] = String(\x7b\x7b p.camelCaseName \x7d\x7d);",
  "\x7b% endfor %\x7d",
  "    const response = await fetch(\x60$\x7bthis.domain\x7d$\x7bpath\x7d?$\x7bquery\x7d\x60, \x7b",
  "      method: '\x7b\x7b m.method \x7d\x7d',",
  "      headers,",
  "\x7b% if m.byIn.hasBody %\x7d",
  "      body: JSON.stringify(\x7b\x7b m.byIn.body[0].camelCaseName \x7d\x7d),",
  "\x7b% endif %\x7d",
  "    \x7d);",
  "    if (!response.ok) throw new Error(\x60\x7b\x7b m.methodName \x7d\x7d failed: $\x7bresponse.status\x7d\x60);",
  "    return response.json();",
  "  \x7d",
  "\x7b% endfor %\x7d",
  "\x7d"]

/-- The source of the class template. -/
def classTemplate : String := Text.ofLines classTemplateLines

end TypeScript

end ApiBindings
