import QueryFoundry.Text.Replace

/-!
# Query headers

The header skeleton that the storage engine includes for one query. It is a fixed template in which
the query's hash takes the place of the word `HASHSTRING`.
-/

namespace QueryFoundry.QueryHeader

/-- The word that stands for the query's hash in the template. -/
def placeholder : String := "HASHSTRING"

/-- The lines of the header template. -/
def templateLines : List String :=
  ["#ifndef _QUERY_HASHSTRING_H_",
    "#define _QUERY_HASHSTRING_H_",
    "",
    "#include <vector>",
    "#include <stdint.h>",
    "#include <tuple>",
    "#include \"Trie.hpp\"",
    "#include \"Encoding.hpp\"",
    "",
    "#ifdef EXECUTABLE",
    "#include \"main.hpp\"",
    "#else",
    "struct application\x7b\x7d;",
    "#endif",
    "",
    "struct ParMMapBuffer;",
    "struct ParMemoryBuffer;",
    "",
    "// template types are the attribute types, followed by the annotation type",
    "struct Query_HASHSTRING : public application \x7b",
    "  void* result_HASHSTRING;",
    "",
    "  Query_HASHSTRING()\x7b\x7d",
    "  void run_HASHSTRING();",
    "\x7d;",
    "",
    "#ifdef EXECUTABLE",
    "application* init_app()\x7b",
    "  return new Query_HASHSTRING();",
    "\x7d",
    "#endif",
    "",
    "#endif"]

/-- The header template, each of its lines ended by a line feed. -/
def template : String :=
  String.join (templateLines.map (· ++ "\n"))

/-- The header for the query with a given hash. -/
def render (hash : String) : String :=
  Text.replaceWord template placeholder hash

end QueryFoundry.QueryHeader
