import Covenant.Client.Template
/-!
# Templates of TypeScript clients

The texts from which a TypeScript project is made, piece by piece; one row is one line of text.
-/

namespace Covenant.Client

/-- The client module: types, the client and its helpers. -/
def typeScriptClient : Template := [
  .text "// Generated by apiforge from ", .slot "title", .text " ", .slot "version",
    .text ". Do not edit.\n",
  .text "// apiforge:network-client\n",
  .text "\n",
  .slot "aliases", .text "export class ApiError extends Error \x7b\n",
  .text "  readonly status: number;\n",
  .text "  readonly body: string;\n",
  .text "\n",
  .text "  constructor(status: number, body: string) \x7b\n",
  .text "    super(`request failed with status $\x7bstatus\x7d: $\x7bbody\x7d`);\n",
  .text "    this.name = \"ApiError\";\n",
  .text "    this.status = status;\n",
  .text "    this.body = body;\n",
  .text "  \x7d\n",
  .text "\x7d\n",
  .text "\n",
  .text "export class ", .slot "class_name", .text " \x7b\n",
  .text "  private readonly baseUrl: string;\n",
  .text "\n",
  .text "  constructor(baseUrl: string = \"", .slot "base_url", .text "\") \x7b\n",
  .text "    this.baseUrl = baseUrl.replace(/\\/+$/, \"\");\n",
  .text "  \x7d\n",
  .text "\n",
  .slot "methods", .text "\n",
  .text "\n",
  .text "  private async send(\n",
  .text "    method: string,\n",
  .text "    path: string,\n",
  .text "    body: unknown,\n",
  .text "    headers: Record<string, string>,\n",
  .text "  ): Promise<Response> \x7b\n",
  .text "    const init: RequestInit = \x7b method, headers: \x7b ...headers \x7d \x7d;\n",
  .text "    if (body !== undefined) \x7b\n",
  .text "      init.headers = \x7b ...headers, \"Content-Type\": \"application/json\" \x7d;\n",
  .text "      init.body = JSON.stringify(body);\n",
  .text "    \x7d\n",
  .text "    const response = await fetch(this.baseUrl + path, init);\n",
  .text "    if (!response.ok) \x7b\n",
  .text "      throw new ApiError(response.status, await response.text());\n",
  .text "    \x7d\n",
  .text "    return response;\n",
  .text "  \x7d\n",
  .text "\n",
  .text "  private async requestJson<T>(\n",
  .text "    method: string,\n",
  .text "    path: string,\n",
  .text "    body: unknown,\n",
  .text "    headers: Record<string, string>,\n",
  .text "  ): Promise<T | undefined> \x7b\n",
  .text "    const response = await this.send(method, path, body, headers);\n",
  .text "    if (response.status === 204) \x7b\n",
  .text "      return undefined;\n",
  .text "    \x7d\n",
  .text "    const text = await response.text();\n",
  .text "    return text.length > 0 ? (JSON.parse(text) as T) : undefined;\n",
  .text "  \x7d\n",
  .text "\n",
  .text "  private async requestText(\n",
  .text "    method: string,\n",
  .text "    path: string,\n",
  .text "    body: unknown,\n",
  .text "    headers: Record<string, string>,\n",
  .text "  ): Promise<string | undefined> \x7b\n",
  .text "    const response = await this.send(method, path, body, headers);\n",
  .text "    if (response.status === 204) \x7b\n",
  .text "      return undefined;\n",
  .text "    \x7d\n",
  .text "    return response.text();\n",
  .text "  \x7d\n",
  .text "\x7d\n"]

/-- One method of the client. -/
def typeScriptMethod : Template := [
  .text "  /** ", .slot "doc", .text " */\n",
  .text "  async ", .slot "name", .text "(", .slot "params", .text "): Promise<",
    .slot "returns", .text "> \x7b\n",
  .text "    let path = \"", .slot "path", .text "\";\n",
  .slot "path_params",
  .choice "has_query"
    [.text "    const query: string[] = [];\n",
     .slot "query_params", .text "    if (query.length > 0) \x7b\n",
     .text "      path += \"?\" + query.join(\"&\");\n",
     .text "    \x7d\n"]
    [],
  .text "    const headers: Record<string, string> = \x7b\x7d;\n",
  .slot "header_params", .text "    return this.", .slot "dispatch", .text "(\"", .slot "verb",
    .text "\", path, ", .slot "body", .text ", headers);\n",
  .text "  \x7d\n"]

/-- The statement that puts an argument into the path. -/
def typeScriptPathParam : Template := [
  .text "    path = path.replace(\"", .slot "placeholder", .text "\", String(", .slot "ident",
    .text "));\n"]

/-- The statement that adds an argument to the query. -/
def typeScriptQueryParam : Template := [
  .choice "optional"
    [.text "    if (", .slot "ident", .text " !== undefined) \x7b\n",
     .text "      query.push(\"", .slot "wire", .text "=\" + encodeURIComponent(String(",
       .slot "ident", .text ")));\n",
     .text "    \x7d\n"]
    [.text "    query.push(\"", .slot "wire", .text "=\" + encodeURIComponent(String(",
       .slot "ident", .text ")));\n"]]

/-- The statement that sends an argument as a header. -/
def typeScriptHeaderParam : Template := [
  .choice "optional"
    [.text "    if (", .slot "ident", .text " !== undefined) \x7b\n",
     .text "      headers[\"", .slot "wire", .text "\"] = String(", .slot "ident", .text ");\n",
     .text "    \x7d\n"]
    [.text "    headers[\"", .slot "wire", .text "\"] = String(", .slot "ident", .text ");\n"]]

/-- The program that uses the client. -/
def typeScriptEntry : Template := [
  .text "// Generated by apiforge from ", .slot "title", .text " ", .slot "version", .text ".\n",
  .text "// Entry point for ", .slot "service_name", .text ".\n",
  .text "//\n",
  .text "// Operations available on ", .slot "class_name", .text ":\n",
  .slot "operations", .text "\n",
  .text "\n",
  .text "import \x7b ", .slot "class_name", .text " \x7d from \"./api\";\n",
  .text "\n",
  .text "export const client = new ", .slot "class_name", .text "();\n",
  .text "\n",
  .text "console.log(\"", .slot "service_name", .text " client ready\");\n"]

/-- The build file of the project. -/
def typeScriptManifest : Template := [
  .text "\x7b\n",
  .text "  \"name\": \"", .slot "service_name", .text "\",\n",
  .text "  \"version\": \"0.1.0\",\n",
  .text "  \"private\": true,\n",
  .text "  \"type\": \"module\",\n",
  .text "  \"main\": \"dist/index.js\",\n",
  .text "  \"scripts\": \x7b\n",
  .text "    \"build\": \"tsc --outDir dist --target es2022 --module es2022 src/index.ts\",\n",
  .text "    \"start\": \"node dist/index.js\"\n",
  .text "  \x7d,\n",
  .text "  \"devDependencies\": \x7b\n",
  .text "    \"typescript\": \"^5.4.0\"\n",
  .text "  \x7d\n",
  .text "\x7d\n"]

end Covenant.Client
