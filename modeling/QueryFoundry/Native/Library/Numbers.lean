import QueryFoundry.Text.Octets

/-!
# Numbers

The functions of the system on numbers: how they are read from texts, chance, order, and functions of
numbers with fractions.
-/

namespace QueryFoundry.Native.Library

open Text (Octets)

/-- Whole numbers, chance and order. -/
def numbers : Octets := "
 #include <stdlib.h>
 #include <inttypes.h>
 #include <limits.h>
 #include <string.h>
 #include <ctype.h>
 #include <errno.h>
 static unsigned long read_digits(const char *text, char **end, int base, int *negative,
   int *overflows) <%
 const char *place = text;
 while (isspace((unsigned char)*place)) place++;
 *negative = *place == '-';
 *overflows = 0;
 if (*place == '-' || *place == '+') place++;
 if ((base == 0 || base == 16) && place[0] == '0' && (place[1] == 'x' || place[1] == 'X') &&
   isxdigit((unsigned char)place[2])) <% place += 2; base = 16; %>
 else if (base == 0) base = place[0] == '0' ? 8 : 10;
 unsigned long value = 0;
 const char *start = place;
 for (; ; place++) <%
 int digit = isdigit((unsigned char)*place) ? *place - '0' :
   isalpha((unsigned char)*place) ? tolower(*place) - 'a' + 10 : 99;
 if (base <= digit) break;
 if ((ULONG_MAX - digit) / base < value) *overflows = 1;
 value = value * base + digit;
 %>
 if (end) *end = (char *)(place == start ? text : place);
 return value;
 %>
 long strtol(const char *text, char **end, int base) <%
 int negative, overflows;
 unsigned long value = read_digits(text, end, base, &negative, &overflows);
 unsigned long greatest = negative ? (unsigned long)LONG_MAX + 1 : LONG_MAX;
 if (overflows || greatest < value) <%
 errno = ERANGE;
 return negative ? LONG_MIN : LONG_MAX;
 %>
 return negative ? -value : value;
 %>
 unsigned long strtoul(const char *text, char **end, int base) <%
 int negative, overflows;
 unsigned long value = read_digits(text, end, base, &negative, &overflows);
 if (overflows) <% errno = ERANGE; return ULONG_MAX; %>
 return negative ? -value : value;
 %>
 long long strtoll(const char *text, char **end, int base) <% return strtol(text, end, base); %>
 unsigned long long strtoull(const char *text, char **end, int base) <%
 return strtoul(text, end, base);
 %>
 intmax_t strtoimax(const char *text, char **end, int base) <% return strtol(text, end, base); %>
 uintmax_t strtoumax(const char *text, char **end, int base) <%
 return strtoul(text, end, base);
 %>
 intmax_t imaxabs(intmax_t number) <% return number < 0 ? -number : number; %>
 double __service_readReal(const char *, char **);
 double strtod(const char *text, char **end) <%
 double value = __service_readReal(text, end);
 if (value == __builtin_inf() || value == -__builtin_inf()) <%
 const char *place = text;
 while (isspace((unsigned char)*place) || *place == '-' || *place == '+') place++;
 if (!isalpha((unsigned char)*place)) errno = ERANGE;
 %>
 return value;
 %>
 float strtof(const char *text, char **end) <% return (float)strtod(text, end); %>
 long double strtold(const char *text, char **end) <% return strtod(text, end); %>
 int atoi(const char *text) <% return (int)strtol(text, 0, 10); %>
 long atol(const char *text) <% return strtol(text, 0, 10); %>
 long long atoll(const char *text) <% return strtol(text, 0, 10); %>
 double atof(const char *text) <% return strtod(text, 0); %>
 int abs(int number) <% return number < 0 ? -number : number; %>
 long labs(long number) <% return number < 0 ? -number : number; %>
 long long llabs(long long number) <% return number < 0 ? -number : number; %>
 div_t div(int number, int by) <% div_t made = <% number / by, number % by %>; return made; %>
 ldiv_t ldiv(long number, long by) <% ldiv_t made = <% number / by, number % by %>; return made; %>
 lldiv_t lldiv(long long number, long long by) <%
 lldiv_t made = <% number / by, number % by %>;
 return made;
 %>
 static unsigned int row[31];
 static int next = -1;
 static unsigned int step(void) <%
 unsigned int made = row[next] += row[(next + 28) % 31];
 next = (next + 1) % 31;
 return made >> 1;
 %>
 void srand(unsigned int seed) <%
 row[0] = seed ? seed : 1;
 for (int index = 1; index < 31; index++) <%
 long value = 16807L * (int)row[index - 1] % 2147483647;
 row[index] = value < 0 ? value + 2147483647 : value;
 %>
 next = 0;
 for (int index = 0; index < 310; index++) step();
 %>
 int rand(void) <%
 if (next < 0) srand(1);
 return (int)step();
 %>
 long random(void) <% return rand(); %>
 void srandom(unsigned int seed) <% srand(seed); %>
 int rand_r(unsigned int *seed) <%
 unsigned int next = *seed;
 next = next * 1103515245 + 12345;
 int result = (unsigned int)(next / 65536) % 2048;
 next = next * 1103515245 + 12345;
 result = (result << 10) ^ ((unsigned int)(next / 65536) % 1024);
 next = next * 1103515245 + 12345;
 result = (result << 10) ^ ((unsigned int)(next / 65536) % 1024);
 *seed = next;
 return result;
 %>
 static void sort(char *first, size_t count, size_t size, char *room,
   int (*compare)(const void *, const void *)) <%
 if (count <= 1) return;
 size_t left = count / 2, right = count - left;
 char *second = first + left * size, *low = first, *high = second, *place = room;
 sort(first, left, size, room, compare);
 sort(second, right, size, room, compare);
 while (left && right) <%
 if (compare(low, high) <= 0) <% memcpy(place, low, size); low += size; left--; %>
 else <% memcpy(place, high, size); high += size; right--; %>
 place += size;
 %>
 memcpy(place, low, left * size);
 memcpy(first, room, (count - right) * size);
 %>
 void qsort(void *first, size_t count, size_t size,
   int (*compare)(const void *, const void *)) <%
 char *room = malloc(count * size);
 sort(first, count, size, room, compare);
 free(room);
 %>
 void *bsearch(const void *key, const void *first, size_t count, size_t size,
   int (*compare)(const void *, const void *)) <%
 size_t low = 0, high = count;
 while (low < high) <%
 size_t middle = (low + high) / 2;
 const char *place = (const char *)first + middle * size;
 int order = compare(key, place);
 if (order < 0) high = middle;
 else if (order > 0) low = middle + 1;
 else return (void *)place;
 %>
 return 0;
 %>
"

/-- The symbols of whole numbers. -/
def numberSymbols : List Octets :=
  ["strtol", "strtoul", "strtoll", "strtoull", "strtoimax", "strtoumax", "imaxabs", "strtod",
    "strtof", "strtold", "atoi", "atol", "atoll", "atof", "abs", "labs", "llabs", "div", "ldiv",
    "lldiv", "srand", "rand", "random", "srandom", "rand_r", "qsort", "bsearch"]

/-- The functions of one number that the processor has. -/
def basicReals : List Octets :=
  ["sqrt", "cbrt", "exp", "exp2", "log", "log2", "log10", "sin", "cos", "tan", "asin", "acos", "atan",
    "sinh", "cosh", "tanh", "asinh", "acosh", "atanh", "floor", "ceil", "round"]

/-- The functions of one number that are made of others. -/
def madeReals : List Octets := ["expm1", "log1p", "trunc", "rint", "nearbyint", "fabs"]

/-- The functions of two numbers. -/
def pairReals : List Octets :=
  ["pow", "atan2", "fmod", "fmin", "fmax", "fdim", "hypot", "copysign", "remainder"]

/-- Numbers with fractions. -/
def reals : Octets :=
  let basic (name : Octets) : Octets :=
    " double __service_" ++ name ++ "(double);\n double " ++ name ++
      "(double number) <% return __service_" ++ name ++ "(number); %>\n"
  let forms (name : Octets) : Octets :=
    " float " ++ name ++ "f(float number) <% return (float)" ++ name ++ "(number); %>\n" ++
      " long double " ++ name ++ "l(long double number) <% return " ++ name ++ "(number); %>\n"
  let pairForms (name : Octets) : Octets :=
    " float " ++ name ++ "f(float first, float second) <% return (float)" ++ name ++
      "(first, second); %>\n long double " ++ name ++
      "l(long double first, long double second) <% return " ++ name ++ "(first, second); %>\n"
  "
 #include <math.h>
 double __service_pow(double, double);
 double __service_atan2(double, double);
 double __service_remainder(double, double);
" ++ String.join (basicReals.map basic) ++ "
 double pow(double base, double power) <% return __service_pow(base, power); %>
 double atan2(double first, double second) <% return __service_atan2(first, second); %>
 double fmod(double first, double second) <% return __service_remainder(first, second); %>
 int __is_nan(double number) <% return number != number; %>
 int __is_infinite(double number) <%
 return number == __builtin_inf() ? 1 : number == -__builtin_inf() ? -1 : 0;
 %>
 int __is_negative(double number) <%
 union <% double number; long bits; %> both;
 both.number = number;
 return both.bits < 0;
 %>
 double copysign(double number, double sign) <%
 return __is_negative(number) == __is_negative(sign) ? number : -number;
 %>
 double fabs(double number) <% return __is_negative(number) ? -number : number; %>
 double trunc(double number) <%
 return __is_negative(number) ? -floor(-number) : floor(number);
 %>
 double rint(double number) <%
 double low = floor(number), rest = number - low;
 if (rest < 0.5) return copysign(low, number);
 if (rest > 0.5) return copysign(low + 1, number);
 return copysign(fmod(low, 2) == 0 ? low : low + 1, number);
 %>
 double nearbyint(double number) <% return rint(number); %>
 double expm1(double number) <%
 double made = exp(number);
 if (fabs(number) < 1e-5) return number + number * number / 2;
 return made - 1;
 %>
 double log1p(double number) <%
 if (fabs(number) < 1e-5) return number - number * number / 2;
 return log(1 + number);
 %>
 double fmin(double first, double second) <%
 return __is_nan(first) ? second : __is_nan(second) ? first : first < second ? first : second;
 %>
 double fmax(double first, double second) <%
 return __is_nan(first) ? second : __is_nan(second) ? first : first < second ? second : first;
 %>
 double fdim(double first, double second) <% return first > second ? first - second : 0; %>
 double hypot(double first, double second) <% return sqrt(first * first + second * second); %>
 double remainder(double first, double second) <%
 double rest = fmod(first, second), size = fabs(second);
 if (fabs(rest) * 2 > size) return rest < 0 ? rest + size : rest - size;
 return rest;
 %>
 double ldexp(double number, int power) <%
 for (; power > 0 && number != 0; power--) number *= 2;
 for (; power < 0 && number != 0; power++) number /= 2;
 return number;
 %>
 float ldexpf(float number, int power) <% return (float)ldexp(number, power); %>
 double scalbn(double number, int power) <% return ldexp(number, power); %>
 double frexp(double number, int *power) <%
 *power = 0;
 if (number == 0 || __is_nan(number) || __is_infinite(number)) return number;
 while (fabs(number) >= 1) <% number /= 2; ++*power; %>
 while (fabs(number) < 0.5) <% number *= 2; --*power; %>
 return number;
 %>
 double modf(double number, double *whole) <%
 *whole = trunc(number);
 return copysign(__is_infinite(number) ? 0 : number - *whole, number);
 %>
 float modff(float number, float *whole) <%
 double large;
 float rest = (float)modf(number, &large);
 *whole = (float)large;
 return rest;
 %>
 double fma(double first, double second, double third) <% return first * second + third; %>
 long lround(double number) <% return (long)round(number); %>
 long lroundf(float number) <% return (long)round(number); %>
 long long llround(double number) <% return (long long)round(number); %>
 long lrint(double number) <% return (long)rint(number); %>
 long long llrint(double number) <% return (long long)rint(number); %>
 int ilogb(double number) <% int power; frexp(number, &power); return power - 1; %>
" ++ String.join ((basicReals ++ madeReals).map forms) ++ String.join (pairReals.map pairForms)

/-- The symbols of numbers with fractions. -/
def realSymbols : List Octets :=
  let forms (name : Octets) : List Octets := [name, name ++ "f", name ++ "l"]
  (basicReals ++ madeReals ++ pairReals).flatMap forms ++
    ["__is_nan", "__is_infinite", "__is_negative", "ldexp", "ldexpf", "scalbn", "frexp", "modf",
      "modff", "fma", "lround", "lroundf", "llround", "lrint", "llrint", "ilogb"]

end QueryFoundry.Native.Library
