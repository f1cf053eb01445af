import QueryFoundry.Native.Headers.Algorithms
import QueryFoundry.Native.Headers.Basics
import QueryFoundry.Native.Headers.Failures
import QueryFoundry.Native.Headers.Functions
import QueryFoundry.Native.Headers.Programs
import QueryFoundry.Native.Headers.Sequences
import QueryFoundry.Native.Headers.Streams
import QueryFoundry.Native.Headers.Strings
import QueryFoundry.Native.Headers.Texts
import QueryFoundry.Native.Headers.Traits
import QueryFoundry.Native.Headers.Trees
import QueryFoundry.Native.Headers.Tuples
import QueryFoundry.Native.Token

/-!
# Headers of the system

The texts behind the names of the headers that every machine has, and what is known in each source
without a header.
-/

namespace QueryFoundry.Native.Headers

open Text (Octets)

/-- The name of the macro that remembers that a header was included. -/
def guardOf (name : Octets) : Octets :=
  "__HEADER_" ++ name.map fun character => if character.isAlphanum then character else '_'

/-- A text that counts once. -/
def guarded (name body : Octets) : Octets :=
  " #ifndef " ++ guardOf name ++ "\n #define " ++ guardOf name ++ " 1\n" ++ body ++ "\n #endif\n"

/-- Declarations whose names are linked as they are. -/
def plainlyLinked (language : Language) (body : Octets) : Octets :=
  match language with
  | .c => body
  | .cpp => " extern \"C\" <%\n" ++ body ++ "\n %>\n"

/-- The headers of both languages. -/
def shared : List (Octets × Octets) :=
  basics ++ textHeaders ++ streamHeaders ++ programHeaders

/-- The headers of C++ alone. -/
def cppHeaders : List (Octets × Octets) :=
  traitHeaders ++ failureHeaders ++ sequenceHeaders ++ stringHeaders ++ treeHeaders ++
    tupleHeaders ++ algorithmHeaders ++ functionHeaders

/-- The names that a header puts into the standard namespace, too. -/
def standardNames : List (Octets × List Octets) :=
  [("stddef", ["size_t", "ptrdiff_t", "max_align_t", "nullptr_t"]),
    ("stdint", ["int8_t", "int16_t", "int32_t", "int64_t", "uint8_t", "uint16_t", "uint32_t",
      "uint64_t", "int_least8_t", "int_least16_t", "int_least32_t", "int_least64_t",
      "uint_least8_t", "uint_least16_t", "uint_least32_t", "uint_least64_t", "int_fast8_t",
      "int_fast16_t", "int_fast32_t", "int_fast64_t", "uint_fast8_t", "uint_fast16_t",
      "uint_fast32_t", "uint_fast64_t", "intptr_t", "uintptr_t", "intmax_t", "uintmax_t"]),
    ("stdarg", ["va_list"]),
    ("string", ["size_t", "memcpy", "memmove", "memset", "memcmp", "memchr", "strlen", "strcpy",
      "strncpy", "strcat", "strncat", "strcmp", "strncmp", "strcoll", "strchr", "strrchr", "strstr",
      "strspn", "strcspn", "strpbrk", "strtok", "strerror"]),
    ("ctype", ["isalnum", "isalpha", "isblank", "iscntrl", "isdigit", "isgraph", "islower", "isprint",
      "ispunct", "isspace", "isupper", "isxdigit", "tolower", "toupper"]),
    ("stdio", ["size_t", "FILE", "fpos_t", "fopen", "freopen", "fclose", "fflush", "setvbuf", "setbuf",
      "fprintf", "printf", "sprintf", "snprintf", "vfprintf", "vprintf", "vsprintf", "vsnprintf",
      "fscanf", "scanf", "sscanf", "fgetc", "getc", "getchar", "fgets", "ungetc", "fputc", "putc",
      "putchar", "fputs", "puts", "fread", "fwrite", "fseek", "ftell", "rewind", "fgetpos", "fsetpos",
      "feof", "ferror", "clearerr", "perror", "remove", "rename", "tmpfile"]),
    ("stdlib", ["size_t", "div_t", "ldiv_t", "lldiv_t", "malloc", "calloc", "realloc", "free", "atoi",
      "atol", "atoll", "atof", "strtol", "strtoul", "strtoll", "strtoull", "strtod", "strtof",
      "strtold", "rand", "srand", "qsort", "bsearch", "abs", "labs", "llabs", "div", "ldiv", "lldiv",
      "getenv", "system", "exit", "_Exit", "abort", "atexit", "aligned_alloc"]),
    ("time", ["time_t", "clock_t", "tm", "timespec", "time", "clock", "difftime", "gmtime",
      "localtime", "mktime"]),
    ("math", ["sqrt", "cbrt", "exp", "exp2", "expm1", "log", "log2", "log10", "log1p", "sin", "cos",
      "tan", "asin", "acos", "atan", "sinh", "cosh", "tanh", "asinh", "acosh", "atanh", "floor", "ceil",
      "round", "trunc", "rint", "nearbyint", "fabs", "pow", "atan2", "fmod", "fmin", "fmax", "fdim",
      "hypot", "copysign", "remainder", "ldexp", "frexp", "modf", "fma", "lround", "llround", "lrint",
      "isnan", "isinf", "isfinite", "signbit", "sqrtf", "powf", "fabsf", "floorf", "ceilf"]),
    ("signal", ["sig_atomic_t", "raise"]), ("limits", []), ("float", []), ("errno", []),
    ("assert", []), ("iso646", []), ("stdbool", []), ("locale", ["setlocale"]),
    ("inttypes", ["imaxabs", "strtoimax", "strtoumax"]), ("wchar", ["wint_t", "mbstate_t"])]

/-- A header that puts the names of another one into the standard namespace. -/
def standardForm? (name : Octets) : Option Octets :=
  if !name.startsWith "c" then none
  else
    let plain := String.ofList (name.toList.drop 1)
    (standardNames.lookup plain).map fun names =>
      let uses := String.join (names.map fun word => "using ::" ++ word ++ "; ")
      let sources := if plain == "math" then " #include <stdlib.h>\n #include <math.h>\n"
        else " #include <" ++ plain ++ ".h>\n"
      sources ++ (if plain == "assert" || names.isEmpty then ""
        else guarded name (" namespace std <% " ++ uses ++
          (if plain == "math" then "using ::abs; " else "") ++ "%>\n"))

/-- The text of a header. -/
def text? (language : Language) (name : Octets) : Option Octets :=
  if name == "assert.h" then some assertions
  else
    match shared.lookup name with
    | some body => some (guarded name (plainlyLinked language body))
    | none =>
        match language with
        | .c => none
        | .cpp =>
            match cppHeaders.lookup name with
            | some body => some (guarded name body)
            | none => standardForm? name

/-- What is known in each source. -/
def predefined : Octets := "
 #define __STDC__ 1
 #define __STDC_HOSTED__ 1
 #define __x86_64__ 1
 #define __x86_64 1
 #define __amd64__ 1
 #define __linux__ 1
 #define __linux 1
 #define __gnu_linux__ 1
 #define __unix__ 1
 #define __unix 1
 #define __ELF__ 1
 #define __LP64__ 1
 #define _LP64 1
 #define __PIC__ 2
 #define __pic__ 2
 #define __GNUC__ 13
 #define __GNUC_MINOR__ 3
 #define __GNUC_PATCHLEVEL__ 0
 #define __VERSION__ \"13.3.0\"
 #define __NO_INLINE__ 1
 #define __CHAR_BIT__ 8
 #define __BYTE_ORDER__ 1234
 #define __ORDER_LITTLE_ENDIAN__ 1234
 #define __ORDER_BIG_ENDIAN__ 4321
 #define __SIZEOF_SHORT__ 2
 #define __SIZEOF_INT__ 4
 #define __SIZEOF_LONG__ 8
 #define __SIZEOF_LONG_LONG__ 8
 #define __SIZEOF_POINTER__ 8
 #define __SIZEOF_FLOAT__ 4
 #define __SIZEOF_DOUBLE__ 8
 #define __SIZEOF_SIZE_T__ 8
 #define __SCHAR_MAX__ 127
 #define __SHRT_MAX__ 32767
 #define __INT_MAX__ 2147483647
 #define __LONG_MAX__ 9223372036854775807L
 #define __LONG_LONG_MAX__ 9223372036854775807LL
 #define __SIZE_TYPE__ long unsigned int
 #define __PTRDIFF_TYPE__ long int
 #define __WCHAR_TYPE__ int
 #define __INT8_TYPE__ signed char
 #define __INT16_TYPE__ short int
 #define __INT32_TYPE__ int
 #define __INT64_TYPE__ long int
 #define __UINT8_TYPE__ unsigned char
 #define __UINT16_TYPE__ short unsigned int
 #define __UINT32_TYPE__ unsigned int
 #define __UINT64_TYPE__ long unsigned int
 #define __INTPTR_TYPE__ long int
 #define __UINTPTR_TYPE__ long unsigned int
 #define __DATE__ \"Jan  1 2025\"
 #define __TIME__ \"00:00:00\"
 #define __INCLUDE_LEVEL__ 0
 typedef struct __va_list_tag <% char *next; %> __builtin_va_list[1];
 #ifdef __cplusplus
 void *operator new(unsigned long);
 void *operator new[](unsigned long);
 void operator delete(void *) noexcept;
 void operator delete[](void *) noexcept;
 void operator delete(void *, unsigned long) noexcept;
 void operator delete[](void *, unsigned long) noexcept;
 extern \"C\" void __throw_bad_cast();
 #endif
"

end QueryFoundry.Native.Headers
