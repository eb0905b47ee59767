import Covenant.Client.Template
/-!
# Templates of Python clients

The texts from which a Python project is made, piece by piece; one row is one line of text.
-/

namespace Covenant.Client

/-- The client module: types, the client and its helpers. -/
def pythonClient : Template := [
  .text "# Generated by apiforge from ", .slot "title", .text " ", .slot "version",
    .text ". Do not edit.\n",
  .text "# apiforge:network-client\n",
  .text "\n",
  .text "from typing import Any, Dict, List, Optional\n",
  .text "from urllib.parse import quote\n",
  .text "\n",
  .text "import requests\n",
  .text "\n",
  .text "\n",
  .slot "aliases", .text "class ApiError(Exception):\n",
  .text "    def __init__(self, status: int, body: str) -> None:\n",
  .text "        super().__init__(f\"request failed with status \x7bstatus\x7d: \x7bbody\x7d\")\n",
  .text "        self.status = status\n",
  .text "        self.body = body\n",
  .text "\n",
  .text "\n",
  .text "class ", .slot "class_name", .text ":\n",
  .text "    def __init__(self, base_url: str = \"", .slot "base_url",
    .text "\", timeout: float = 30.0) -> None:\n",
  .text "        self.base_url = base_url.rstrip(\"/\")\n",
  .text "        self.timeout = timeout\n",
  .text "        self.session = requests.Session()\n",
  .text "\n",
  .slot "methods", .text "\n",
  .text "\n",
  .text "    def _send(self, method: str, path: str, body: Any, headers: Dict[str, str]) -> requests.Response:\n",
  .text "        kwargs: Dict[str, Any] = \x7b\"headers\": headers, \"timeout\": self.timeout\x7d\n",
  .text "        if body is not None:\n",
  .text "            kwargs[\"json\"] = body\n",
  .text "        response = self.session.request(method, self.base_url + path, **kwargs)\n",
  .text "        if not 200 <= response.status_code < 300:\n",
  .text "            raise ApiError(response.status_code, response.text)\n",
  .text "        return response\n",
  .text "\n",
  .text "    def _request_json(self, method: str, path: str, body: Any, headers: Dict[str, str]) -> Any:\n",
  .text "        response = self._send(method, path, body, headers)\n",
  .text "        if response.status_code == 204 or not response.content:\n",
  .text "            return None\n",
  .text "        return response.json()\n",
  .text "\n",
  .text "    def _request_text(\n",
  .text "        self, method: str, path: str, body: Any, headers: Dict[str, str]\n",
  .text "    ) -> Optional[str]:\n",
  .text "        response = self._send(method, path, body, headers)\n",
  .text "        if response.status_code == 204:\n",
  .text "            return None\n",
  .text "        return response.text\n"]

/-- One method of the client. -/
def pythonMethod : Template := [
  .text "    def ", .slot "name", .text "(self", .slot "params", .text ") -> ", .slot "returns",
    .text ":\n",
  .text "        \"\"\"", .slot "doc", .text "\"\"\"\n",
  .text "        path = \"", .slot "path", .text "\"\n",
  .slot "path_params",
  .choice "has_query"
    [.text "        query: List[str] = []\n",
     .slot "query_params", .text "        if query:\n",
     .text "            path += \"?\" + \"&\".join(query)\n"]
    [],
  .text "        headers: Dict[str, str] = \x7b\x7d\n",
  .slot "header_params", .text "        return self.", .slot "dispatch", .text "(\"",
    .slot "verb", .text "\", path, ", .slot "body", .text ", headers)\n"]

/-- The statement that puts an argument into the path. -/
def pythonPathParam : Template := [
  .text "        path = path.replace(\"", .slot "placeholder", .text "\", str(", .slot "ident",
    .text "))\n"]

/-- The statement that adds an argument to the query. -/
def pythonQueryParam : Template := [
  .choice "optional"
    [.text "        if ", .slot "ident", .text " is not None:\n",
     .text "            query.append(\"", .slot "wire", .text "=\" + quote(str(", .slot "ident",
       .text "), safe=\"\"))\n"]
    [.text "        query.append(\"", .slot "wire", .text "=\" + quote(str(", .slot "ident",
       .text "), safe=\"\"))\n"]]

/-- The statement that sends an argument as a header. -/
def pythonHeaderParam : Template := [
  .choice "optional"
    [.text "        if ", .slot "ident", .text " is not None:\n",
     .text "            headers[\"", .slot "wire", .text "\"] = str(", .slot "ident",
       .text ")\n"]
    [.text "        headers[\"", .slot "wire", .text "\"] = str(", .slot "ident", .text ")\n"]]

/-- The program that uses the client. -/
def pythonEntry : Template := [
  .text "# Generated by apiforge from ", .slot "title", .text " ", .slot "version", .text ".\n",
  .text "# Entry point for ", .slot "service_name", .text ".\n",
  .text "#\n",
  .text "# Operations available on ", .slot "class_name", .text ":\n",
  .slot "operations", .text "\n",
  .text "\n",
  .text "from api_client import ", .slot "class_name", .text "\n",
  .text "\n",
  .text "\n",
  .text "def main() -> None:\n",
  .text "    client = ", .slot "class_name", .text "()\n",
  .text "    print(\"", .slot "service_name", .text " client ready at \" + client.base_url)\n",
  .text "\n",
  .text "\n",
  .text "if __name__ == \"__main__\":\n",
  .text "    main()\n"]

/-- The build file of the project. -/
def pythonManifest : Template := [
  .text "requests>=2.31\n"]

end Covenant.Client
