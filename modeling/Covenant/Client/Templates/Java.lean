import Covenant.Client.Template
/-!
# Templates of Java clients

The texts from which a Java project is made, piece by piece; one row is one line of text.
-/

namespace Covenant.Client

/-- The client module: types, the client and its helpers. -/
def javaClient : Template := [
  .text "// Generated by apiforge from ", .slot "title", .text " ", .slot "version",
    .text ". Do not edit.\n",
  .text "// apiforge:network-client\n",
  .text "package ", .slot "package", .text ";\n",
  .text "\n",
  .text "import com.fasterxml.jackson.databind.JsonNode;\n",
  .text "import com.fasterxml.jackson.databind.ObjectMapper;\n",
  .text "import java.io.IOException;\n",
  .text "import java.net.URI;\n",
  .text "import java.net.URLEncoder;\n",
  .text "import java.net.http.HttpClient;\n",
  .text "import java.net.http.HttpRequest;\n",
  .text "import java.net.http.HttpResponse;\n",
  .text "import java.nio.charset.StandardCharsets;\n",
  .text "import java.time.Duration;\n",
  .text "import java.util.ArrayList;\n",
  .text "import java.util.HashMap;\n",
  .text "import java.util.List;\n",
  .text "import java.util.Map;\n",
  .text "\n",
  .text "/** Client for the ", .slot "title", .text " API. */\n",
  .text "public class ", .slot "class_name", .text " \x7b\n",
  .text "    public static final String DEFAULT_BASE_URL = \"", .slot "base_url", .text "\";\n",
  .text "\n",
  .text "    private final String baseUrl;\n",
  .text "    private final HttpClient http;\n",
  .text "    private final ObjectMapper mapper = new ObjectMapper();\n",
  .text "\n",
  .text "    public ", .slot "class_name", .text "() \x7b\n",
  .text "        this(DEFAULT_BASE_URL);\n",
  .text "    \x7d\n",
  .text "\n",
  .text "    public ", .slot "class_name", .text "(String baseUrl) \x7b\n",
  .text "        this.baseUrl = baseUrl.replaceAll(\"/+$\", \"\");\n",
  .text "        this.http = HttpClient.newBuilder().connectTimeout(Duration.ofSeconds(30)).build();\n",
  .text "    \x7d\n",
  .text "\n",
  .text "    public String getBaseUrl() \x7b\n",
  .text "        return baseUrl;\n",
  .text "    \x7d\n",
  .text "\n",
  .text "    /** Raised for non-2xx responses. */\n",
  .text "    public static class ApiException extends RuntimeException \x7b\n",
  .text "        private final int status;\n",
  .text "        private final String body;\n",
  .text "\n",
  .text "        public ApiException(int status, String body) \x7b\n",
  .text "            super(\"request failed with status \" + status + \": \" + body);\n",
  .text "            this.status = status;\n",
  .text "            this.body = body;\n",
  .text "        \x7d\n",
  .text "\n",
  .text "        public int getStatus() \x7b\n",
  .text "            return status;\n",
  .text "        \x7d\n",
  .text "\n",
  .text "        public String getBody() \x7b\n",
  .text "            return body;\n",
  .text "        \x7d\n",
  .text "    \x7d\n",
  .text "\n",
  .slot "methods", .text "\n",
  .text "\n",
  .text "    private static String encode(Object value) \x7b\n",
  .text "        return URLEncoder.encode(String.valueOf(value), StandardCharsets.UTF_8);\n",
  .text "    \x7d\n",
  .text "\n",
  .text "    private HttpResponse<String> send(String method, String path, Object body, Map<String, String> headers) \x7b\n",
  .text "        try \x7b\n",
  .text "            HttpRequest.BodyPublisher publisher = HttpRequest.BodyPublishers.noBody();\n",
  .text "            HttpRequest.Builder builder = HttpRequest.newBuilder(URI.create(baseUrl + path));\n",
  .text "            if (body != null) \x7b\n",
  .text "                publisher = HttpRequest.BodyPublishers.ofString(mapper.writeValueAsString(body));\n",
  .text "                builder.header(\"Content-Type\", \"application/json\");\n",
  .text "            \x7d\n",
  .text "            for (Map.Entry<String, String> header : headers.entrySet()) \x7b\n",
  .text "                builder.header(header.getKey(), header.getValue());\n",
  .text "            \x7d\n",
  .text "            HttpResponse<String> response =\n",
  .text "                http.send(builder.method(method, publisher).build(), HttpResponse.BodyHandlers.ofString());\n",
  .text "            if (response.statusCode() < 200 || response.statusCode() > 299) \x7b\n",
  .text "                throw new ApiException(response.statusCode(), response.body());\n",
  .text "            \x7d\n",
  .text "            return response;\n",
  .text "        \x7d catch (IOException e) \x7b\n",
  .text "            throw new IllegalStateException(\"request failed: \" + e.getMessage(), e);\n",
  .text "        \x7d catch (InterruptedException e) \x7b\n",
  .text "            Thread.currentThread().interrupt();\n",
  .text "            throw new IllegalStateException(\"request interrupted\", e);\n",
  .text "        \x7d\n",
  .text "    \x7d\n",
  .text "\n",
  .text "    private <T> T requestJson(\n",
  .text "        String method, String path, Object body, Map<String, String> headers, Class<T> type) \x7b\n",
  .text "        HttpResponse<String> response = send(method, path, body, headers);\n",
  .text "        if (response.statusCode() == 204 || response.body().isEmpty()) \x7b\n",
  .text "            return null;\n",
  .text "        \x7d\n",
  .text "        try \x7b\n",
  .text "            return mapper.readValue(response.body(), type);\n",
  .text "        \x7d catch (IOException e) \x7b\n",
  .text "            throw new IllegalStateException(\"invalid response body: \" + e.getMessage(), e);\n",
  .text "        \x7d\n",
  .text "    \x7d\n",
  .text "\n",
  .text "    private String requestText(String method, String path, Object body, Map<String, String> headers) \x7b\n",
  .text "        HttpResponse<String> response = send(method, path, body, headers);\n",
  .text "        return response.statusCode() == 204 ? null : response.body();\n",
  .text "    \x7d\n",
  .text "\x7d\n"]

/-- One method of the client. -/
def javaMethod : Template := [
  .text "    /** ", .slot "doc", .text " */\n",
  .text "    public ", .slot "returns", .text " ", .slot "name", .text "(", .slot "params",
    .text ") \x7b\n",
  .text "        String path = \"", .slot "path", .text "\";\n",
  .slot "path_params",
  .choice "has_query"
    [.text "        List<String> query = new ArrayList<>();\n",
     .slot "query_params", .text "        if (!query.isEmpty()) \x7b\n",
     .text "            path += \"?\" + String.join(\"&\", query);\n",
     .text "        \x7d\n"]
    [],
  .text "        Map<String, String> headers = new HashMap<>();\n",
  .slot "header_params", .text "        return ", .slot "dispatch", .text "(\"", .slot "verb",
    .text "\", path, ", .slot "body", .text ", headers", .slot "type_arg", .text ");\n",
  .text "    \x7d\n"]

/-- The statement that puts an argument into the path. -/
def javaPathParam : Template := [
  .text "        path = path.replace(\"", .slot "placeholder", .text "\", String.valueOf(",
    .slot "ident", .text "));\n"]

/-- The statement that adds an argument to the query. -/
def javaQueryParam : Template := [
  .choice "optional"
    [.text "        if (", .slot "ident", .text " != null) \x7b\n",
     .text "            query.add(\"", .slot "wire", .text "=\" + encode(", .slot "ident",
       .text "));\n",
     .text "        \x7d\n"]
    [.text "        query.add(\"", .slot "wire", .text "=\" + encode(", .slot "ident",
       .text "));\n"]]

/-- The statement that sends an argument as a header. -/
def javaHeaderParam : Template := [
  .choice "optional"
    [.text "        if (", .slot "ident", .text " != null) \x7b\n",
     .text "            headers.put(\"", .slot "wire", .text "\", String.valueOf(",
       .slot "ident", .text "));\n",
     .text "        \x7d\n"]
    [.text "        headers.put(\"", .slot "wire", .text "\", String.valueOf(", .slot "ident",
       .text "));\n"]]

/-- The program that uses the client. -/
def javaEntry : Template := [
  .text "// Generated by apiforge from ", .slot "title", .text " ", .slot "version", .text ".\n",
  .text "// Entry point for ", .slot "service_name", .text ".\n",
  .text "//\n",
  .text "// Operations available on ", .slot "class_name", .text ":\n",
  .slot "operations", .text "\n",
  .text "\n",
  .text "package ", .slot "package", .text ";\n",
  .text "\n",
  .text "public class Main \x7b\n",
  .text "    public static void main(String[] args) \x7b\n",
  .text "        ", .slot "class_name", .text " client = new ", .slot "class_name",
    .text "();\n",
  .text "        System.out.println(\"", .slot "service_name",
    .text " client ready at \" + client.getBaseUrl());\n",
  .text "    \x7d\n",
  .text "\x7d\n"]

/-- The build file of the project. -/
def javaManifest : Template := [
  .text "<?xml version=\"1.0\" encoding=\"UTF-8\"?>\n",
  .text "<project xmlns=\"http://maven.apache.org/POM/4.0.0\"\n",
  .text "         xmlns:xsi=\"http://www.w3.org/2001/XMLSchema-instance\"\n",
  .text "         xsi:schemaLocation=\"http://maven.apache.org/POM/4.0.0 http://maven.apache.org/xsd/maven-4.0.0.xsd\">\n",
  .text "  <modelVersion>4.0.0</modelVersion>\n",
  .text "\n",
  .text "  <groupId>", .slot "package", .text "</groupId>\n",
  .text "  <artifactId>", .slot "service_name", .text "</artifactId>\n",
  .text "  <version>0.1.0</version>\n",
  .text "  <packaging>jar</packaging>\n",
  .text "\n",
  .text "  <properties>\n",
  .text "    <maven.compiler.release>17</maven.compiler.release>\n",
  .text "    <project.build.sourceEncoding>UTF-8</project.build.sourceEncoding>\n",
  .text "  </properties>\n",
  .text "\n",
  .text "  <dependencies>\n",
  .text "    <dependency>\n",
  .text "      <groupId>com.fasterxml.jackson.core</groupId>\n",
  .text "      <artifactId>jackson-databind</artifactId>\n",
  .text "      <version>2.17.1</version>\n",
  .text "    </dependency>\n",
  .text "  </dependencies>\n",
  .text "</project>\n"]

end Covenant.Client
