import QueryFoundry.Text.Octets

/-!
# Headers of texts

The headers that declare functions on bytes, texts and characters.
-/

namespace QueryFoundry.Native.Headers

open Text (Octets)

/-- Functions on bytes and texts. -/
def texts : Octets := "
 #include <stddef.h>
 void *memcpy(void *, const void *, size_t);
 void *memmove(void *, const void *, size_t);
 void *memset(void *, int, size_t);
 int memcmp(const void *, const void *, size_t);
 void *mempcpy(void *, const void *, size_t);
 size_t strlen(const char *);
 size_t strnlen(const char *, size_t);
 char *strcpy(char *, const char *);
 char *stpcpy(char *, const char *);
 char *strncpy(char *, const char *, size_t);
 char *strcat(char *, const char *);
 char *strncat(char *, const char *, size_t);
 int strcmp(const char *, const char *);
 int strncmp(const char *, const char *, size_t);
 int strcoll(const char *, const char *);
 size_t strxfrm(char *, const char *, size_t);
 size_t strspn(const char *, const char *);
 size_t strcspn(const char *, const char *);
 char *strtok(char *, const char *);
 char *strtok_r(char *, const char *, char **);
 char *strsep(char **, const char *);
 char *strdup(const char *);
 char *strndup(const char *, size_t);
 char *strerror(int);
 void *memmem(const void *, size_t, const void *, size_t);
 int strcasecmp(const char *, const char *);
 int strncasecmp(const char *, const char *, size_t);
 #ifdef __cplusplus
 extern \"C++\" <%
 void *memchr(void *, int, size_t) __asm__(\"memchr\");
 const void *memchr(const void *, int, size_t) __asm__(\"memchr\");
 char *strchr(char *, int) __asm__(\"strchr\");
 const char *strchr(const char *, int) __asm__(\"strchr\");
 char *strrchr(char *, int) __asm__(\"strrchr\");
 const char *strrchr(const char *, int) __asm__(\"strrchr\");
 char *strstr(char *, const char *) __asm__(\"strstr\");
 const char *strstr(const char *, const char *) __asm__(\"strstr\");
 char *strpbrk(char *, const char *) __asm__(\"strpbrk\");
 const char *strpbrk(const char *, const char *) __asm__(\"strpbrk\");
 %>
 #else
 void *memchr(const void *, int, size_t);
 char *strchr(const char *, int);
 char *strrchr(const char *, int);
 char *strstr(const char *, const char *);
 char *strpbrk(const char *, const char *);
 #endif
"

/-- Texts without regard to case. -/
def caselessTexts : Octets := "
 #include <stddef.h>
 int strcasecmp(const char *, const char *);
 int strncasecmp(const char *, const char *, size_t);
 void bzero(void *, size_t);
 int ffs(int);
"

/-- Classes of characters. -/
def characters : Octets := "
 int isalnum(int);
 int isalpha(int);
 int isblank(int);
 int iscntrl(int);
 int isdigit(int);
 int isgraph(int);
 int islower(int);
 int isprint(int);
 int ispunct(int);
 int isspace(int);
 int isupper(int);
 int isxdigit(int);
 int tolower(int);
 int toupper(int);
 int isascii(int);
 int toascii(int);
"

/-- Wide characters, of which only the kinds are there. -/
def wideCharacters : Octets := "
 #include <stddef.h>
 typedef unsigned int wint_t;
 typedef struct <% int __count; unsigned int __value; %> mbstate_t;
 #define WEOF (0xffffffffu)
 size_t wcslen(const wchar_t *);
"

/-- The headers of texts. -/
def textHeaders : List (Octets × Octets) :=
  [("string.h", texts), ("strings.h", caselessTexts), ("ctype.h", characters),
    ("wchar.h", wideCharacters)]

end QueryFoundry.Native.Headers
