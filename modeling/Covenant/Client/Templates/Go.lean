import Covenant.Client.Template
/-!
# Templates of Go clients

The texts from which a Go project is made, piece by piece; one row is one line of text.
-/

namespace Covenant.Client

/-- The client module: types, the client and its helpers. -/
def goClient : Template := [
  .text "// Generated by apiforge from ", .slot "title", .text " ", .slot "version",
    .text ". Do not edit.\n",
  .text "// apiforge:network-client\n",
  .text "\n",
  .text "package client\n",
  .text "\n",
  .text "import (\n",
  .text "\t\"bytes\"\n",
  .text "\t\"encoding/json\"\n",
  .text "\t\"fmt\"\n",
  .text "\t\"io\"\n",
  .text "\t\"net/http\"\n",
  .text "\t\"net/url\"\n",
  .text "\t\"strings\"\n",
  .text "\t\"time\"\n",
  .text ")\n",
  .text "\n",
  .slot "aliases", .text "// APIError reports a non-2xx response.\n",
  .text "type APIError struct \x7b\n",
  .text "\tStatus int\n",
  .text "\tBody   string\n",
  .text "\x7d\n",
  .text "\n",
  .text "func (e *APIError) Error() string \x7b\n",
  .text "\treturn fmt.Sprintf(\"request failed with status %d: %s\", e.Status, e.Body)\n",
  .text "\x7d\n",
  .text "\n",
  .text "// ", .slot "class_name", .text " calls the ", .slot "title", .text " API.\n",
  .text "type ", .slot "class_name", .text " struct \x7b\n",
  .text "\tBaseURL    string\n",
  .text "\tHTTPClient *http.Client\n",
  .text "\x7d\n",
  .text "\n",
  .text "// New", .slot "class_name", .text " returns a client for baseURL, or for ",
    .slot "base_url", .text " when empty.\n",
  .text "func New", .slot "class_name", .text "(baseURL string) *", .slot "class_name",
    .text " \x7b\n",
  .text "\tif baseURL == \"\" \x7b\n",
  .text "\t\tbaseURL = \"", .slot "base_url", .text "\"\n",
  .text "\t\x7d\n",
  .text "\treturn &", .slot "class_name", .text "\x7b\n",
  .text "\t\tBaseURL:    strings.TrimRight(baseURL, \"/\"),\n",
  .text "\t\tHTTPClient: &http.Client\x7bTimeout: 30 * time.Second\x7d,\n",
  .text "\t\x7d\n",
  .text "\x7d\n",
  .text "\n",
  .slot "methods", .text "\n",
  .text "\n",
  .text "func encodeQuery(name string, value interface\x7b\x7d) string \x7b\n",
  .text "\treturn name + \"=\" + url.QueryEscape(fmt.Sprint(value))\n",
  .text "\x7d\n",
  .text "\n",
  .text "func (c *", .slot "class_name",
    .text ") send(method, path string, body interface\x7b\x7d, headers map[string]string) ([]byte, int, error) \x7b\n",
  .text "\tvar reader io.Reader\n",
  .text "\tif body != nil \x7b\n",
  .text "\t\tpayload, err := json.Marshal(body)\n",
  .text "\t\tif err != nil \x7b\n",
  .text "\t\t\treturn nil, 0, err\n",
  .text "\t\t\x7d\n",
  .text "\t\treader = bytes.NewReader(payload)\n",
  .text "\t\x7d\n",
  .text "\treq, err := http.NewRequest(method, c.BaseURL+path, reader)\n",
  .text "\tif err != nil \x7b\n",
  .text "\t\treturn nil, 0, err\n",
  .text "\t\x7d\n",
  .text "\tif body != nil \x7b\n",
  .text "\t\treq.Header.Set(\"Content-Type\", \"application/json\")\n",
  .text "\t\x7d\n",
  .text "\tfor name, value := range headers \x7b\n",
  .text "\t\treq.Header.Set(name, value)\n",
  .text "\t\x7d\n",
  .text "\tresp, err := c.HTTPClient.Do(req)\n",
  .text "\tif err != nil \x7b\n",
  .text "\t\treturn nil, 0, err\n",
  .text "\t\x7d\n",
  .text "\tdefer resp.Body.Close()\n",
  .text "\tdata, err := io.ReadAll(resp.Body)\n",
  .text "\tif err != nil \x7b\n",
  .text "\t\treturn nil, resp.StatusCode, err\n",
  .text "\t\x7d\n",
  .text "\tif resp.StatusCode < 200 || resp.StatusCode > 299 \x7b\n",
  .text "\t\treturn nil, resp.StatusCode, &APIError\x7bStatus: resp.StatusCode, Body: string(data)\x7d\n",
  .text "\t\x7d\n",
  .text "\treturn data, resp.StatusCode, nil\n",
  .text "\x7d\n"]

/-- One method of the client. -/
def goMethod : Template := [
  .text "// ", .slot "name", .text " ", .slot "doc", .text "\n",
  .text "func (c *", .slot "owner", .text ") ", .slot "name", .text "(", .slot "params",
    .text ") (", .slot "returns", .text ", error) \x7b\n",
  .text "\tpath := \"", .slot "path", .text "\"\n",
  .slot "path_params",
  .choice "has_query"
    [.text "\tquery := []string\x7b\x7d\n",
     .slot "query_params", .text "\tif len(query) > 0 \x7b\n",
     .text "\t\tpath += \"?\" + strings.Join(query, \"&\")\n",
     .text "\t\x7d\n"]
    [],
  .text "\theaders := map[string]string\x7b\x7d\n",
  .slot "header_params", .text "\tdata, status, err := c.send(\"", .slot "verb",
    .text "\", path, ", .slot "body", .text ", headers)\n",
  .text "\tif err != nil || status == http.StatusNoContent \x7b\n",
  .text "\t\treturn ", .slot "zero", .text ", err\n",
  .text "\t\x7d\n",
  .choice "typed"
    [.text "\tvar result ", .slot "returns", .text "\n",
     .text "\tif len(data) == 0 \x7b\n",
     .text "\t\treturn result, nil\n",
     .text "\t\x7d\n",
     .text "\terr = json.Unmarshal(data, &result)\n",
     .text "\treturn result, err\n",
     .text "\x7d\n"]
    [.text "\treturn string(data), nil\n",
     .text "\x7d\n"]]

/-- The statement that puts an argument into the path. -/
def goPathParam : Template := [
  .text "\tpath = strings.ReplaceAll(path, \"", .slot "placeholder", .text "\", fmt.Sprint(",
    .slot "ident", .text "))\n"]

/-- The statement that adds an argument to the query. -/
def goQueryParam : Template := [
  .choice "optional"
    [.text "\tif ", .slot "ident", .text " != nil \x7b\n",
     .text "\t\tquery = append(query, encodeQuery(\"", .slot "wire", .text "\", *",
       .slot "ident", .text "))\n",
     .text "\t\x7d\n"]
    [.text "\tquery = append(query, encodeQuery(\"", .slot "wire", .text "\", ", .slot "ident",
       .text "))\n"]]

/-- The statement that sends an argument as a header. -/
def goHeaderParam : Template := [
  .choice "optional"
    [.text "\tif ", .slot "ident", .text " != nil \x7b\n",
     .text "\t\theaders[\"", .slot "wire", .text "\"] = fmt.Sprint(*", .slot "ident",
       .text ")\n",
     .text "\t\x7d\n"]
    [.text "\theaders[\"", .slot "wire", .text "\"] = fmt.Sprint(", .slot "ident", .text ")\n"]]

/-- The program that uses the client. -/
def goEntry : Template := [
  .text "// Generated by apiforge from ", .slot "title", .text " ", .slot "version", .text ".\n",
  .text "// Entry point for ", .slot "service_name", .text ".\n",
  .text "//\n",
  .text "// Operations available on client.", .slot "class_name", .text ":\n",
  .slot "operations", .text "\n",
  .text "\n",
  .text "package main\n",
  .text "\n",
  .text "import (\n",
  .text "\t\"fmt\"\n",
  .text "\n",
  .text "\t\"", .slot "package", .text "/client\"\n",
  .text ")\n",
  .text "\n",
  .text "func main() \x7b\n",
  .text "\tapi := client.New", .slot "class_name", .text "(\"\")\n",
  .text "\tfmt.Println(\"", .slot "service_name", .text " client ready at \" + api.BaseURL)\n",
  .text "\x7d\n"]

/-- The build file of the project. -/
def goManifest : Template := [
  .text "module ", .slot "package", .text "\n",
  .text "\n",
  .text "go 1.21\n"]

end Covenant.Client
