import QueryFoundry.Text.Octets

/-!
# Headers of numbers and types

The headers that declare the kinds of numbers, their limits and the arguments of functions that take
any number of them. Braces are written as `<%` and `%>`, which mean the same.
-/

namespace QueryFoundry.Native.Headers

open Text (Octets)

/-- Kinds of sizes and distances. -/
def sizes : Octets := "
 typedef unsigned long size_t;
 typedef long ptrdiff_t;
 #ifndef __cplusplus
 typedef int wchar_t;
 #endif
 typedef struct <% long long __ll; long double __ld; %> max_align_t;
 #ifdef __cplusplus
 typedef decltype(nullptr) nullptr_t;
 #endif
 #undef NULL
 #ifdef __cplusplus
 #define NULL 0L
 #else
 #define NULL ((void *)0)
 #endif
 #define offsetof(type, member) __builtin_offsetof(type, member)
"

/-- Truth values. -/
def truthValues : Octets := "
 #ifndef __cplusplus
 #define bool _Bool
 #define true 1
 #define false 0
 #endif
 #define __bool_true_false_are_defined 1
"

/-- Arguments of functions that take any number of them. -/
def arguments : Octets := "
 typedef __builtin_va_list va_list;
 typedef __builtin_va_list __gnuc_va_list;
 #define va_start(list, last) __builtin_va_start(list, last)
 #define va_arg(list, type) __builtin_va_arg(list, type)
 #define va_end(list) __builtin_va_end(list)
 #define va_copy(target, source) __builtin_va_copy(target, source)
"

/-- Kinds of whole numbers by their widths. -/
def widths : Octets := "
 typedef signed char int8_t;
 typedef short int16_t;
 typedef int int32_t;
 typedef long int64_t;
 typedef unsigned char uint8_t;
 typedef unsigned short uint16_t;
 typedef unsigned int uint32_t;
 typedef unsigned long uint64_t;
 typedef signed char int_least8_t;
 typedef short int_least16_t;
 typedef int int_least32_t;
 typedef long int_least64_t;
 typedef unsigned char uint_least8_t;
 typedef unsigned short uint_least16_t;
 typedef unsigned int uint_least32_t;
 typedef unsigned long uint_least64_t;
 typedef signed char int_fast8_t;
 typedef long int_fast16_t;
 typedef long int_fast32_t;
 typedef long int_fast64_t;
 typedef unsigned char uint_fast8_t;
 typedef unsigned long uint_fast16_t;
 typedef unsigned long uint_fast32_t;
 typedef unsigned long uint_fast64_t;
 typedef long intptr_t;
 typedef unsigned long uintptr_t;
 typedef long intmax_t;
 typedef unsigned long uintmax_t;
 #define INT8_MIN (-128)
 #define INT16_MIN (-32767-1)
 #define INT32_MIN (-2147483647-1)
 #define INT64_MIN (-9223372036854775807L-1)
 #define INT8_MAX (127)
 #define INT16_MAX (32767)
 #define INT32_MAX (2147483647)
 #define INT64_MAX (9223372036854775807L)
 #define UINT8_MAX (255)
 #define UINT16_MAX (65535)
 #define UINT32_MAX (4294967295U)
 #define UINT64_MAX (18446744073709551615UL)
 #define INT_LEAST8_MIN (-128)
 #define INT_LEAST16_MIN (-32767-1)
 #define INT_LEAST32_MIN (-2147483647-1)
 #define INT_LEAST64_MIN (-9223372036854775807L-1)
 #define INT_LEAST8_MAX (127)
 #define INT_LEAST16_MAX (32767)
 #define INT_LEAST32_MAX (2147483647)
 #define INT_LEAST64_MAX (9223372036854775807L)
 #define UINT_LEAST8_MAX (255)
 #define UINT_LEAST16_MAX (65535)
 #define UINT_LEAST32_MAX (4294967295U)
 #define UINT_LEAST64_MAX (18446744073709551615UL)
 #define INT_FAST8_MAX (127)
 #define INT_FAST16_MAX (9223372036854775807L)
 #define INT_FAST32_MAX (9223372036854775807L)
 #define INT_FAST64_MAX (9223372036854775807L)
 #define INTPTR_MIN (-9223372036854775807L-1)
 #define INTPTR_MAX (9223372036854775807L)
 #define UINTPTR_MAX (18446744073709551615UL)
 #define INTMAX_MIN (-9223372036854775807L-1)
 #define INTMAX_MAX (9223372036854775807L)
 #define UINTMAX_MAX (18446744073709551615UL)
 #define PTRDIFF_MIN (-9223372036854775807L-1)
 #define PTRDIFF_MAX (9223372036854775807L)
 #define SIZE_MAX (18446744073709551615UL)
 #define SIG_ATOMIC_MIN (-2147483647-1)
 #define SIG_ATOMIC_MAX (2147483647)
 #define WCHAR_MIN (-2147483647-1)
 #define WCHAR_MAX (2147483647)
 #define WINT_MIN (0u)
 #define WINT_MAX (4294967295u)
 #define INT8_C(c) c
 #define INT16_C(c) c
 #define INT32_C(c) c
 #define INT64_C(c) c ## L
 #define UINT8_C(c) c
 #define UINT16_C(c) c
 #define UINT32_C(c) c ## U
 #define UINT64_C(c) c ## UL
 #define INTMAX_C(c) c ## L
 #define UINTMAX_C(c) c ## UL
"

/-- The letters with which whole numbers of a width are written and read. -/
def widthFormats : Octets :=
  let forms (width size : Octets) : Octets :=
    String.join (["d", "i", "u", "x", "X", "o"].map fun letter =>
      " #define PRI" ++ letter ++ width ++ " \"" ++ size ++ letter ++ "\"\n") ++
    String.join (["d", "i", "u", "x", "o"].map fun letter =>
      " #define SCN" ++ letter ++ width ++ " \"" ++
        (if width == "8" then "hh" else if width == "16" then "h" else size) ++ letter ++ "\"\n")
  "
 #include <stdint.h>
 typedef struct <% long quot; long rem; %> imaxdiv_t;
 intmax_t strtoimax(const char *, char **, int);
 uintmax_t strtoumax(const char *, char **, int);
 intmax_t imaxabs(intmax_t);
" ++ forms "8" "" ++ forms "16" "" ++ forms "32" "" ++ forms "64" "l" ++ forms "PTR" "l" ++
    forms "MAX" "l"

/-- The limits of whole numbers. -/
def limits : Octets := "
 #define CHAR_BIT 8
 #define SCHAR_MIN (-128)
 #define SCHAR_MAX 127
 #define UCHAR_MAX 255
 #define CHAR_MIN (-128)
 #define CHAR_MAX 127
 #define MB_LEN_MAX 16
 #define SHRT_MIN (-32768)
 #define SHRT_MAX 32767
 #define USHRT_MAX 65535
 #define INT_MIN (-2147483647-1)
 #define INT_MAX 2147483647
 #define UINT_MAX 4294967295U
 #define LONG_MIN (-9223372036854775807L-1L)
 #define LONG_MAX 9223372036854775807L
 #define ULONG_MAX 18446744073709551615UL
 #define LLONG_MIN (-9223372036854775807LL-1LL)
 #define LLONG_MAX 9223372036854775807LL
 #define ULLONG_MAX 18446744073709551615ULL
 #define SSIZE_MAX 9223372036854775807L
 #define PATH_MAX 4096
 #define NAME_MAX 255
 #define IOV_MAX 1024
"

/-- The limits of numbers with fractions. -/
def fractionLimits : Octets := "
 #define FLT_RADIX 2
 #define FLT_MANT_DIG 24
 #define DBL_MANT_DIG 53
 #define LDBL_MANT_DIG 53
 #define FLT_DIG 6
 #define DBL_DIG 15
 #define LDBL_DIG 15
 #define FLT_DECIMAL_DIG 9
 #define DBL_DECIMAL_DIG 17
 #define DECIMAL_DIG 21
 #define FLT_MIN_EXP (-125)
 #define DBL_MIN_EXP (-1021)
 #define FLT_MAX_EXP 128
 #define DBL_MAX_EXP 1024
 #define FLT_MIN_10_EXP (-37)
 #define DBL_MIN_10_EXP (-307)
 #define FLT_MAX_10_EXP 38
 #define DBL_MAX_10_EXP 308
 #define FLT_MAX 3.40282346638528859811704183484516925e+38F
 #define DBL_MAX ((double)1.79769313486231570814527423731704357e+308L)
 #define LDBL_MAX 1.79769313486231570814527423731704357e+308L
 #define FLT_EPSILON 1.19209289550781250000000000000000000e-7F
 #define DBL_EPSILON ((double)2.22044604925031308084726333618164062e-16L)
 #define LDBL_EPSILON 2.22044604925031308084726333618164062e-16L
 #define FLT_MIN 1.17549435082228750796873653722224568e-38F
 #define DBL_MIN ((double)2.22507385850720138309023271733240406e-308L)
 #define LDBL_MIN 2.22507385850720138309023271733240406e-308L
 #define FLT_TRUE_MIN 1.40129846432481707092372958328991613e-45F
 #define DBL_TRUE_MIN ((double)4.94065645841246544176568792868221372e-324L)
 #define FLT_EVAL_METHOD 0
 #define FLT_ROUNDS 1
"

/-- Words for operators. -/
def operatorWords : Octets := "
 #ifndef __cplusplus
 #define and &&
 #define and_eq &=
 #define bitand &
 #define bitor |
 #define compl ~
 #define not !
 #define not_eq !=
 #define or ||
 #define or_eq |=
 #define xor ^
 #define xor_eq ^=
 #endif
"

/-- Words of newer versions of the language. -/
def alignmentWords : Octets := "
 #ifndef __cplusplus
 #define alignas _Alignas
 #define alignof _Alignof
 #endif
"

/-- Functions that do not return. -/
def returnWords : Octets := "
 #define noreturn _Noreturn
"

/-- The headers of numbers and types. -/
def basics : List (Octets × Octets) :=
  [("stddef.h", sizes), ("stdbool.h", truthValues), ("stdarg.h", arguments), ("stdint.h", widths),
    ("inttypes.h", widthFormats), ("limits.h", limits), ("float.h", fractionLimits),
    ("iso646.h", operatorWords), ("stdalign.h", alignmentWords), ("stdnoreturn.h", returnWords)]

end QueryFoundry.Native.Headers
