import QueryFoundry.Text.Octets

/-!
# Headers of programs

The headers that declare memory, numbers in texts, the environment, errors, time and functions of
numbers.
-/

namespace QueryFoundry.Native.Headers

open Text (Octets)

/-- Memory, numbers in texts, the environment and the end of a program. -/
def programTools : Octets := "
 #include <stddef.h>
 typedef struct <% int quot; int rem; %> div_t;
 typedef struct <% long quot; long rem; %> ldiv_t;
 typedef struct <% long long quot; long long rem; %> lldiv_t;
 #define EXIT_SUCCESS 0
 #define EXIT_FAILURE 1
 #define RAND_MAX 2147483647
 #define MB_CUR_MAX 1
 void *malloc(size_t);
 void *calloc(size_t, size_t);
 void *realloc(void *, size_t);
 void *reallocarray(void *, size_t, size_t);
 void *aligned_alloc(size_t, size_t);
 int posix_memalign(void **, size_t, size_t);
 void free(void *);
 int atoi(const char *);
 long atol(const char *);
 long long atoll(const char *);
 double atof(const char *);
 long strtol(const char *, char **, int);
 unsigned long strtoul(const char *, char **, int);
 long long strtoll(const char *, char **, int);
 unsigned long long strtoull(const char *, char **, int);
 double strtod(const char *, char **);
 float strtof(const char *, char **);
 long double strtold(const char *, char **);
 int rand(void);
 void srand(unsigned int);
 int rand_r(unsigned int *);
 long random(void);
 void srandom(unsigned int);
 void qsort(void *, size_t, size_t, int (*)(const void *, const void *));
 void *bsearch(const void *, const void *, size_t, size_t, int (*)(const void *, const void *));
 int abs(int);
 long labs(long);
 long long llabs(long long);
 div_t div(int, int);
 ldiv_t ldiv(long, long);
 lldiv_t lldiv(long long, long long);
 char *getenv(const char *);
 char *secure_getenv(const char *);
 int setenv(const char *, const char *, int);
 int unsetenv(const char *);
 int putenv(char *);
 int system(const char *);
 void exit(int) __attribute__((noreturn));
 void _Exit(int) __attribute__((noreturn));
 void abort(void) __attribute__((noreturn));
 int mkstemp(char *);
 char *realpath(const char *, char *);
 extern char __dso_handle __attribute__((visibility(\"hidden\")));
 long __service_atExit(void (*)(void), void *, void *);
 static inline int atexit(void (*function)(void)) <%
 return (int)__service_atExit(function, 0, &__dso_handle);
 %>
 #ifdef __cplusplus
 extern \"C++\" <%
 inline long abs(long number) <% return number < 0 ? -number : number; %>
 inline long long abs(long long number) <% return number < 0 ? -number : number; %>
 inline double abs(double number) <% return __builtin_fabs(number); %>
 inline float abs(float number) <% return (float)__builtin_fabs(number); %>
 %>
 #endif
"

/-- Error numbers. -/
def errors : Octets := "
 int *__errno_location(void);
 #define errno (*__errno_location())
 #define EPERM 1
 #define ENOENT 2
 #define ESRCH 3
 #define EINTR 4
 #define EIO 5
 #define ENXIO 6
 #define E2BIG 7
 #define ENOEXEC 8
 #define EBADF 9
 #define ECHILD 10
 #define EAGAIN 11
 #define EWOULDBLOCK 11
 #define ENOMEM 12
 #define EACCES 13
 #define EFAULT 14
 #define EBUSY 16
 #define EEXIST 17
 #define EXDEV 18
 #define ENODEV 19
 #define ENOTDIR 20
 #define EISDIR 21
 #define EINVAL 22
 #define ENFILE 23
 #define EMFILE 24
 #define ENOTTY 25
 #define EFBIG 27
 #define ENOSPC 28
 #define ESPIPE 29
 #define EROFS 30
 #define EMLINK 31
 #define EPIPE 32
 #define EDOM 33
 #define ERANGE 34
 #define EDEADLK 35
 #define ENAMETOOLONG 36
 #define ENOSYS 38
 #define ENOTEMPTY 39
 #define ELOOP 40
 #define EOVERFLOW 75
 #define EILSEQ 84
 #define EOPNOTSUPP 95
 #define ENOTSUP 95
 #define ETIMEDOUT 110
"

/-- Assertions. They may be wanted or not each time the header is included. -/
def assertions : Octets := "
 #undef assert
 #ifdef NDEBUG
 #define assert(condition) ((void)0)
 #else
 #ifdef __cplusplus
 extern \"C\"
 #endif
 void __assert_fail(const char *, const char *, unsigned int, const char *)
   __attribute__((noreturn));
 #define assert(condition) \\
   ((condition) ? (void)0 : __assert_fail(#condition, __FILE__, __LINE__, __func__))
 #endif
 #if !defined(__cplusplus) && !defined(static_assert)
 #define static_assert _Static_assert
 #endif
"

/-- Time. -/
def times : Octets := "
 #include <stddef.h>
 typedef long time_t;
 typedef long clock_t;
 typedef int clockid_t;
 struct timespec <% time_t tv_sec; long tv_nsec; %>;
 struct tm <%
 int tm_sec; int tm_min; int tm_hour; int tm_mday; int tm_mon; int tm_year; int tm_wday;
 int tm_yday; int tm_isdst; long tm_gmtoff; const char *tm_zone;
 %>;
 #define CLOCKS_PER_SEC ((clock_t)1000000)
 #define CLOCK_REALTIME 0
 #define CLOCK_MONOTONIC 1
 #define CLOCK_PROCESS_CPUTIME_ID 2
 time_t time(time_t *);
 clock_t clock(void);
 double difftime(time_t, time_t);
 int clock_gettime(clockid_t, struct timespec *);
 int nanosleep(const struct timespec *, struct timespec *);
 struct tm *gmtime(const time_t *);
 struct tm *gmtime_r(const time_t *, struct tm *);
 struct tm *localtime(const time_t *);
 struct tm *localtime_r(const time_t *, struct tm *);
 time_t mktime(struct tm *);
 time_t timegm(struct tm *);
"

/-- The time of day. -/
def timeOfDay : Octets := "
 #include <sys/types.h>
 struct timeval <% time_t tv_sec; suseconds_t tv_usec; %>;
 int gettimeofday(struct timeval *, void *);
"

/-- Functions of numbers. The functions of shorter and longer numbers are made of them. -/
def realFunctions : Octets :=
  let singles := ["sqrt", "cbrt", "exp", "exp2", "expm1", "log", "log2", "log10", "log1p", "sin",
    "cos", "tan", "asin", "acos", "atan", "sinh", "cosh", "tanh", "asinh", "acosh", "atanh", "floor",
    "ceil", "round", "trunc", "rint", "nearbyint", "fabs"]
  let pairs := ["pow", "atan2", "fmod", "fmin", "fmax", "fdim", "hypot", "copysign", "remainder"]
  let kinds := [("", "double"), ("f", "float"), ("l", "long double")]
  let single (name : Octets) : Octets := String.join (kinds.map fun (letter, kind) =>
    " " ++ kind ++ " " ++ name ++ letter ++ "(" ++ kind ++ ");\n")
  let pair (name : Octets) : Octets := String.join (kinds.map fun (letter, kind) =>
    " " ++ kind ++ " " ++ name ++ letter ++ "(" ++ kind ++ ", " ++ kind ++ ");\n")
  String.join (singles.map single) ++ String.join (pairs.map pair) ++ "
 double ldexp(double, int);
 float ldexpf(float, int);
 double scalbn(double, int);
 double frexp(double, int *);
 double modf(double, double *);
 float modff(float, float *);
 double fma(double, double, double);
 long lround(double);
 long lroundf(float);
 long long llround(double);
 long lrint(double);
 long long llrint(double);
 int ilogb(double);
 #define HUGE_VAL (__builtin_huge_val())
 #define HUGE_VALF (__builtin_huge_valf())
 #define INFINITY (__builtin_inff())
 #define NAN (__builtin_nanf(\"\"))
 #define M_E 2.7182818284590452354
 #define M_LOG2E 1.4426950408889634074
 #define M_LOG10E 0.43429448190325182765
 #define M_LN2 0.69314718055994530942
 #define M_LN10 2.30258509299404568402
 #define M_PI 3.14159265358979323846
 #define M_PI_2 1.57079632679489661923
 #define M_PI_4 0.78539816339744830962
 #define M_1_PI 0.31830988618379067154
 #define M_2_PI 0.63661977236758134308
 #define M_SQRT2 1.41421356237309504880
 #define M_SQRT1_2 0.70710678118654752440
 int __is_nan(double);
 int __is_infinite(double);
 int __is_negative(double);
 #ifdef __cplusplus
 extern \"C++\" <%
 inline bool isnan(double number) <% return __is_nan(number); %>
 inline bool isinf(double number) <% return __is_infinite(number) != 0; %>
 inline bool isfinite(double number) <% return !__is_nan(number) && !__is_infinite(number); %>
 inline bool signbit(double number) <% return __is_negative(number); %>
 %>
 #else
 #define isnan(number) (__is_nan(number))
 #define isinf(number) (__is_infinite(number))
 #define isfinite(number) (!__is_nan(number) && !__is_infinite(number))
 #define isnormal(number) (isfinite(number) && (number) != 0)
 #define signbit(number) (__is_negative(number))
 #endif
"

/-- Signals. -/
def signals : Octets := "
 #include <sys/types.h>
 typedef int sig_atomic_t;
 typedef void (*__sighandler_t)(int);
 #define SIG_DFL ((__sighandler_t)0)
 #define SIG_IGN ((__sighandler_t)1)
 #define SIG_ERR ((__sighandler_t)-1)
 #define SIGHUP 1
 #define SIGINT 2
 #define SIGQUIT 3
 #define SIGILL 4
 #define SIGTRAP 5
 #define SIGABRT 6
 #define SIGFPE 8
 #define SIGKILL 9
 #define SIGUSR1 10
 #define SIGSEGV 11
 #define SIGUSR2 12
 #define SIGPIPE 13
 #define SIGALRM 14
 #define SIGTERM 15
 #define SIGCHLD 17
 int kill(pid_t, int);
 int raise(int);
"

/-- The end of children. -/
def childStatus : Octets := "
 #include <sys/types.h>
 #define WEXITSTATUS(status) (((status) & 0xff00) >> 8)
 #define WTERMSIG(status) ((status) & 0x7f)
 #define WIFEXITED(status) (WTERMSIG(status) == 0)
 #define WIFSIGNALED(status) (WTERMSIG(status) != 0)
 #define WNOHANG 1
"

/-- The place where a text is formatted in the plain way. -/
def locales : Octets := "
 #define LC_CTYPE 0
 #define LC_NUMERIC 1
 #define LC_ALL 6
 char *setlocale(int, const char *);
"

/-- Room on the stack. -/
def stackRoom : Octets := "
 #define alloca(size) __builtin_alloca(size)
"

/-- The headers of programs. -/
def programHeaders : List (Octets × Octets) :=
  [("stdlib.h", programTools), ("errno.h", errors), ("time.h", times),
    ("sys/time.h", timeOfDay), ("math.h", realFunctions), ("signal.h", signals),
    ("sys/wait.h", childStatus), ("locale.h", locales), ("alloca.h", stackRoom)]

end QueryFoundry.Native.Headers
