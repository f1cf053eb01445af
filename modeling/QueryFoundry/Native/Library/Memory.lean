import QueryFoundry.Text.Octets

/-!
# Memory and texts

The functions of the system on memory and on texts that lie in it.
-/

namespace QueryFoundry.Native.Library

open Text (Octets)

/-- Memory that is asked for. -/
def memory : Octets := "
 #include <stdlib.h>
 #include <string.h>
 #include <stdint.h>
 void *__service_allocate(size_t);
 void __service_release(void *);
 void *__service_resize(void *, size_t);
 void *__service_copy(void *, const void *, size_t);
 void *__service_fill(void *, int, size_t);
 int __service_compare(const void *, const void *, size_t);
 int *__errno_location(void);
 static const size_t most = 134217728;
 static void *refuse(void) <% *__errno_location() = 12; return 0; %>
 void *malloc(size_t size) <% return most < size ? refuse() : __service_allocate(size); %>
 void *calloc(size_t count, size_t size) <%
 if (size && most / size < count) return refuse();
 return __service_fill(__service_allocate(count * size), 0, count * size);
 %>
 void *realloc(void *place, size_t size) <%
 return most < size ? refuse() : __service_resize(place, size);
 %>
 void *reallocarray(void *place, size_t count, size_t size) <%
 if (size && most / size < count) return refuse();
 return __service_resize(place, count * size);
 %>
 void *aligned_alloc(size_t alignment, size_t size) <%
 if (alignment <= 16) return malloc(size);
 uintptr_t place = (uintptr_t)malloc(size + 2 * alignment);
 uintptr_t whole = (place + 2 * alignment - 1) / alignment * alignment;
 *(size_t *)(whole - 16) = size;
 return (void *)whole;
 %>
 int posix_memalign(void **target, size_t alignment, size_t size) <%
 *target = aligned_alloc(alignment, size);
 return *target ? 0 : 12;
 %>
 void free(void *place) <% __service_release(place); %>
 void *memcpy(void *target, const void *source, size_t count) <%
 return __service_copy(target, source, count);
 %>
 void *memmove(void *target, const void *source, size_t count) <%
 return __service_copy(target, source, count);
 %>
 void *mempcpy(void *target, const void *source, size_t count) <%
 return (char *)__service_copy(target, source, count) + count;
 %>
 void *memset(void *target, int value, size_t count) <%
 return __service_fill(target, value, count);
 %>
 void bzero(void *target, size_t count) <% __service_fill(target, 0, count); %>
 int memcmp(const void *left, const void *right, size_t count) <%
 return __service_compare(left, right, count);
 %>
 void *memchr(const void *place, int value, size_t count) <%
 const unsigned char *byte = place;
 for (size_t index = 0; index < count; index++)
   if (byte[index] == (unsigned char)value) return (void *)(byte + index);
 return 0;
 %>
 void *memmem(const void *place, size_t count, const void *part, size_t length) <%
 const char *byte = place;
 for (size_t index = 0; index + length <= count; index++)
   if (!memcmp(byte + index, part, length)) return (void *)(byte + index);
 return 0;
 %>
"

/-- The symbols of memory. -/
def memorySymbols : List Octets :=
  ["malloc", "calloc", "realloc", "reallocarray", "aligned_alloc", "posix_memalign", "free", "memcpy",
    "memmove", "mempcpy", "memset", "bzero", "memcmp", "memchr", "memmem"]

/-- Texts. -/
def texts : Octets := "
 #include <string.h>
 #include <strings.h>
 #include <ctype.h>
 #include <stdlib.h>
 #include <wchar.h>
 size_t __service_length(const char *);
 char *__service_errorText(int);
 size_t strlen(const char *text) <% return __service_length(text); %>
 size_t strnlen(const char *text, size_t limit) <%
 size_t length = 0;
 while (length < limit && text[length]) length++;
 return length;
 %>
 char *strcpy(char *target, const char *source) <%
 return memmove(target, source, strlen(source) + 1);
 %>
 char *stpcpy(char *target, const char *source) <%
 size_t length = strlen(source);
 memmove(target, source, length + 1);
 return target + length;
 %>
 char *strncpy(char *target, const char *source, size_t count) <%
 size_t index = 0;
 for (; index < count && source[index]; index++) target[index] = source[index];
 for (; index < count; index++) target[index] = 0;
 return target;
 %>
 char *strcat(char *target, const char *source) <%
 strcpy(target + strlen(target), source);
 return target;
 %>
 char *strncat(char *target, const char *source, size_t count) <%
 size_t start = strlen(target), length = strnlen(source, count);
 memmove(target + start, source, length);
 target[start + length] = 0;
 return target;
 %>
 int strcmp(const char *left, const char *right) <%
 while (*left && *left == *right) left++, right++;
 return (unsigned char)*left - (unsigned char)*right;
 %>
 int strcoll(const char *left, const char *right) <% return strcmp(left, right); %>
 size_t strxfrm(char *target, const char *source, size_t count) <%
 size_t length = strlen(source);
 if (count) strncpy(target, source, count);
 return length;
 %>
 int strncmp(const char *left, const char *right, size_t count) <%
 for (size_t index = 0; index < count; index++) <%
 if (left[index] != right[index] || !left[index])
   return (unsigned char)left[index] - (unsigned char)right[index];
 %>
 return 0;
 %>
 int strcasecmp(const char *left, const char *right) <%
 while (*left && tolower(*left) == tolower(*right)) left++, right++;
 return tolower((unsigned char)*left) - tolower((unsigned char)*right);
 %>
 int strncasecmp(const char *left, const char *right, size_t count) <%
 for (size_t index = 0; index < count; index++) <%
 int first = tolower((unsigned char)left[index]), second = tolower((unsigned char)right[index]);
 if (first != second || !first) return first - second;
 %>
 return 0;
 %>
 char *strchr(const char *text, int value) <%
 for (; ; text++) <%
 if (*text == (char)value) return (char *)text;
 if (!*text) return 0;
 %>
 %>
 char *strrchr(const char *text, int value) <%
 const char *found = 0;
 for (; ; text++) <%
 if (*text == (char)value) found = text;
 if (!*text) return (char *)found;
 %>
 %>
 char *strstr(const char *text, const char *part) <%
 size_t length = strlen(part);
 for (; ; text++) <%
 if (!strncmp(text, part, length)) return (char *)text;
 if (!*text) return 0;
 %>
 %>
 size_t strspn(const char *text, const char *set) <%
 size_t length = 0;
 while (text[length] && strchr(set, text[length])) length++;
 return length;
 %>
 size_t strcspn(const char *text, const char *set) <%
 size_t length = 0;
 while (text[length] && !strchr(set, text[length])) length++;
 return length;
 %>
 char *strpbrk(const char *text, const char *set) <%
 text += strcspn(text, set);
 return *text ? (char *)text : 0;
 %>
 char *strtok_r(char *text, const char *set, char **rest) <%
 if (!text) text = *rest;
 if (!text) return 0;
 text += strspn(text, set);
 if (!*text) <% *rest = text; return 0; %>
 char *end = text + strcspn(text, set);
 *rest = *end ? end + 1 : end;
 *end = 0;
 return text;
 %>
 char *strtok(char *text, const char *set) <%
 static char *rest;
 return strtok_r(text, set, &rest);
 %>
 char *strsep(char **place, const char *set) <%
 char *text = *place;
 if (!text) return 0;
 char *end = text + strcspn(text, set);
 *place = *end ? end + 1 : 0;
 *end = 0;
 return text;
 %>
 char *strdup(const char *text) <%
 size_t size = strlen(text) + 1;
 return memcpy(malloc(size), text, size);
 %>
 char *strndup(const char *text, size_t limit) <%
 size_t length = strnlen(text, limit);
 char *made = memcpy(malloc(length + 1), text, length);
 made[length] = 0;
 return made;
 %>
 char *strerror(int number) <% return __service_errorText(number); %>
 int ffs(int number) <% return __builtin_ffs(number); %>
 int isupper(int value) <% return 'A' <= value && value <= 'Z'; %>
 int islower(int value) <% return 'a' <= value && value <= 'z'; %>
 int isalpha(int value) <% return isupper(value) || islower(value); %>
 int isdigit(int value) <% return '0' <= value && value <= '9'; %>
 int isalnum(int value) <% return isalpha(value) || isdigit(value); %>
 int isblank(int value) <% return value == 32 || value == 9; %>
 int isspace(int value) <% return value == 32 || (9 <= value && value <= 13); %>
 int iscntrl(int value) <% return (0 <= value && value < 32) || value == 127; %>
 int isprint(int value) <% return 32 <= value && value < 127; %>
 int isgraph(int value) <% return 32 < value && value < 127; %>
 int ispunct(int value) <% return isgraph(value) && !isalnum(value); %>
 int isxdigit(int value) <%
 return isdigit(value) || ('a' <= value && value <= 'f') || ('A' <= value && value <= 'F');
 %>
 int isascii(int value) <% return 0 <= value && value < 128; %>
 int toascii(int value) <% return value & 127; %>
 int tolower(int value) <% return isupper(value) ? value + 32 : value; %>
 int toupper(int value) <% return islower(value) ? value - 32 : value; %>
 size_t wcslen(const wchar_t *text) <%
 size_t length = 0;
 while (text[length]) length++;
 return length;
 %>
"

/-- The symbols of texts. -/
def textSymbols : List Octets :=
  ["strlen", "strnlen", "strcpy", "stpcpy", "strncpy", "strcat", "strncat", "strcmp", "strcoll",
    "strxfrm", "strncmp", "strcasecmp", "strncasecmp", "strchr", "strrchr", "strstr", "strspn",
    "strcspn", "strpbrk", "strtok_r", "strtok", "strsep", "strdup", "strndup", "strerror", "ffs",
    "isupper", "islower", "isalpha", "isdigit", "isalnum", "isblank", "isspace", "iscntrl",
    "isprint", "isgraph", "ispunct", "isxdigit", "isascii", "toascii", "tolower", "toupper",
    "wcslen"]

end QueryFoundry.Native.Library
