import QueryFoundry.Text.Octets

/-!
# Streams

The functions of the system on streams. A stream keeps what is written to it until its room is full or
it is told to pass it on; at the end of the program all streams pass on what they hold.
-/

namespace QueryFoundry.Native.Library

open Text (Octets)

/-- Streams and what is written to them. -/
def streams : Octets := "
 #include <stdio.h>
 #include <stdlib.h>
 #include <string.h>
 #include <errno.h>
 #include <unistd.h>
 #include <fcntl.h>
 enum <% room_size = 4096, readable = 1, writable = 2 %>;
 enum mode <% idle, reading, writing %>;
 struct _IO_FILE <%
 int descriptor, flags;
 enum mode mode;
 int buffering, failed, ended, pushed;
 char *room;
 size_t position, limit;
 long child;
 struct _IO_FILE *next;
 %>;
 static char error_room[room_size];
 static FILE error_stream = <% 2, writable, idle, _IONBF, 0, 0, -1, error_room %>;
 static char output_room[room_size];
 static FILE output_stream =
   <% 1, writable, idle, _IOFBF, 0, 0, -1, output_room, 0, 0, 0, &error_stream %>;
 static char input_room[room_size];
 static FILE input_stream =
   <% 0, readable, idle, _IOFBF, 0, 0, -1, input_room, 0, 0, 0, &output_stream %>;
 #undef stdin
 #undef stdout
 #undef stderr
 FILE *stdin = &input_stream;
 FILE *stdout = &output_stream;
 FILE *stderr = &error_stream;
 static FILE *streams = &input_stream;
 static int send(FILE *stream, const char *text, size_t count) <%
 if (!count) return 0;
 if (write(stream->descriptor, text, count) < 0) <% stream->failed = 1; return -1; %>
 return 0;
 %>
 static int settle(FILE *stream) <%
 int result = 0;
 if (stream->mode == writing) result = send(stream, stream->room, stream->position);
 else if (stream->mode == reading) <%
 long back = (long)(stream->limit - stream->position) + (stream->pushed >= 0);
 if (back) <% int kept = errno; lseek(stream->descriptor, -back, SEEK_CUR); errno = kept; %>
 %>
 stream->mode = idle;
 stream->position = stream->limit = 0;
 stream->pushed = -1;
 return result;
 %>
 int fflush(FILE *stream) <%
 int result = 0;
 if (stream) return settle(stream);
 for (stream = streams; stream; stream = stream->next)
   if (stream->mode == writing) result |= settle(stream);
 return result;
 %>
 __attribute__((destructor)) static void finish(void) <% fflush(0); %>
 static int put(FILE *stream, const char *text, size_t count) <%
 if (!(stream->flags & writable)) <% errno = EBADF; stream->failed = 1; return -1; %>
 if (stream->mode == reading) settle(stream);
 stream->mode = writing;
 if (stream->buffering == _IONBF) return send(stream, text, count);
 size_t now = 0;
 if (stream->buffering == _IOLBF)
   for (size_t index = 0; index < count; index++) if (text[index] == 10) now = index + 1;
 size_t free = room_size - stream->position;
 size_t first = count < free ? count : free;
 memcpy(stream->room + stream->position, text, first);
 stream->position += first;
 if (first < count) <%
 if (send(stream, stream->room, stream->position)) return -1;
 stream->position = 0;
 size_t rest = count - first, whole = rest - rest % room_size;
 if (send(stream, text + first, whole)) return -1;
 memcpy(stream->room, text + first + whole, rest - whole);
 stream->position = rest - whole;
 %>
 if (now) <%
 size_t kept = count - now;
 if (send(stream, stream->room, stream->position - kept)) return -1;
 memmove(stream->room, stream->room + stream->position - kept, kept);
 stream->position = kept;
 %>
 return 0;
 %>
 static FILE *make(int descriptor, int flags) <%
 FILE *stream = calloc(1, sizeof(FILE));
 stream->descriptor = descriptor;
 stream->flags = flags;
 stream->pushed = -1;
 stream->room = malloc(room_size);
 stream->next = streams;
 streams = stream;
 return stream;
 %>
 static int read_mode(const char *mode, int *flags) <%
 int bits, plus = strchr(mode, '+') != 0;
 if (*mode == 'r') bits = plus ? O_RDWR : O_RDONLY;
 else if (*mode == 'w') bits = (plus ? O_RDWR : O_WRONLY) | O_CREAT | O_TRUNC;
 else if (*mode == 'a') bits = (plus ? O_RDWR : O_WRONLY) | O_CREAT | O_APPEND;
 else <% errno = EINVAL; return -1; %>
 if (strchr(mode, 'x')) bits |= O_EXCL;
 *flags = plus ? readable | writable : *mode == 'r' ? readable : writable;
 return bits;
 %>
 FILE *fopen(const char *path, const char *mode) <%
 int flags, bits = read_mode(mode, &flags);
 if (bits < 0) return 0;
 int descriptor = open(path, bits, 0666);
 if (descriptor < 0) return 0;
 if (bits & O_APPEND) lseek(descriptor, 0, SEEK_END);
 return make(descriptor, flags);
 %>
 FILE *fdopen(int descriptor, const char *mode) <%
 int flags;
 return read_mode(mode, &flags) < 0 ? 0 : make(descriptor, flags);
 %>
 FILE *freopen(const char *path, const char *mode, FILE *stream) <%
 settle(stream);
 close(stream->descriptor);
 int flags, bits = read_mode(mode, &flags);
 int descriptor = bits < 0 ? -1 : open(path, bits, 0666);
 if (descriptor < 0) return 0;
 stream->descriptor = descriptor;
 stream->flags = flags;
 stream->failed = stream->ended = 0;
 return stream;
 %>
 int fclose(FILE *stream) <%
 int result = settle(stream);
 if (close(stream->descriptor) < 0) result = -1;
 for (FILE **place = &streams; *place; place = &(*place)->next)
   if (*place == stream) <% *place = stream->next; break; %>
 if (stream != &input_stream && stream != &output_stream && stream != &error_stream) <%
 free(stream->room);
 free(stream);
 %>
 return result;
 %>
 int fileno(FILE *stream) <% return stream->descriptor; %>
 int setvbuf(FILE *stream, char *room, int mode, size_t size) <%
 (void)room, (void)size;
 settle(stream);
 stream->buffering = mode;
 return 0;
 %>
 void setbuf(FILE *stream, char *room) <% setvbuf(stream, room, room ? _IOFBF : _IONBF, 0); %>
 void setlinebuf(FILE *stream) <% setvbuf(stream, 0, _IOLBF, 0); %>
 int fputc(int value, FILE *stream) <%
 char byte = (char)value;
 return put(stream, &byte, 1) ? EOF : (unsigned char)byte;
 %>
 int putc(int value, FILE *stream) <% return fputc(value, stream); %>
 int putchar(int value) <% return fputc(value, stdout); %>
 int fputs(const char *text, FILE *stream) <%
 return put(stream, text, strlen(text)) ? EOF : 1;
 %>
 int puts(const char *text) <%
 size_t length = strlen(text);
 if (put(stdout, text, length) || put(stdout, \"\\n\", 1)) return EOF;
 return (int)length + 1;
 %>
 size_t fwrite(const void *place, size_t size, size_t count, FILE *stream) <%
 if (!size || !count) return 0;
 return put(stream, place, size * count) ? 0 : count;
 %>
 char *__service_format(const char *, const char *, long *);
 int vfprintf(FILE *stream, const char *format, __builtin_va_list list) <%
 long length;
 char *text = __service_format(format, list->next, &length);
 int result = put(stream, text, length);
 free(text);
 return result ? -1 : (int)length;
 %>
 int vprintf(const char *format, __builtin_va_list list) <%
 return vfprintf(stdout, format, list);
 %>
 int vsnprintf(char *target, size_t size, const char *format, __builtin_va_list list) <%
 long length;
 char *text = __service_format(format, list->next, &length);
 if (size) <%
 size_t kept = (size_t)length < size ? (size_t)length : size - 1;
 memcpy(target, text, kept);
 target[kept] = 0;
 %>
 free(text);
 return (int)length;
 %>
 int vsprintf(char *target, const char *format, __builtin_va_list list) <%
 return vsnprintf(target, -1UL, format, list);
 %>
 int vasprintf(char **target, const char *format, __builtin_va_list list) <%
 long length;
 *target = __service_format(format, list->next, &length);
 return (int)length;
 %>
 int vdprintf(int descriptor, const char *format, __builtin_va_list list) <%
 long length;
 char *text = __service_format(format, list->next, &length);
 long result = write(descriptor, text, length);
 free(text);
 return (int)result;
 %>
 #define with_list(last, action) \\
   va_list list; va_start(list, last); int result = action; va_end(list); return result;
 int fprintf(FILE *stream, const char *format, ...) <%
 with_list(format, vfprintf(stream, format, list))
 %>
 int printf(const char *format, ...) <% with_list(format, vfprintf(stdout, format, list)) %>
 int sprintf(char *target, const char *format, ...) <%
 with_list(format, vsprintf(target, format, list))
 %>
 int snprintf(char *target, size_t size, const char *format, ...) <%
 with_list(format, vsnprintf(target, size, format, list))
 %>
 int asprintf(char **target, const char *format, ...) <%
 with_list(format, vasprintf(target, format, list))
 %>
 int dprintf(int descriptor, const char *format, ...) <%
 with_list(format, vdprintf(descriptor, format, list))
 %>
 static int fill(FILE *stream) <%
 if (!(stream->flags & readable)) <% errno = EBADF; stream->failed = 1; return 0; %>
 if (stream->mode == writing) settle(stream);
 stream->mode = reading;
 long count = read(stream->descriptor, stream->room, room_size);
 stream->position = 0;
 stream->limit = 0;
 if (count < 0) stream->failed = 1;
 else if (count == 0) stream->ended = 1;
 else stream->limit = count;
 return 0 < count;
 %>
 int fgetc(FILE *stream) <%
 if (stream->pushed >= 0) <% int value = stream->pushed; stream->pushed = -1; return value; %>
 if ((stream->mode != reading || stream->position == stream->limit) && !fill(stream)) return EOF;
 return (unsigned char)stream->room[stream->position++];
 %>
 int getc(FILE *stream) <% return fgetc(stream); %>
 int getchar(void) <% return fgetc(stdin); %>
 int ungetc(int value, FILE *stream) <%
 if (value == EOF) return EOF;
 stream->pushed = (unsigned char)value;
 stream->ended = 0;
 return value;
 %>
 char *fgets(char *target, int size, FILE *stream) <%
 int count = 0;
 while (count < size - 1) <%
 int value = fgetc(stream);
 if (value == EOF) break;
 target[count++] = (char)value;
 if (value == 10) break;
 %>
 if (!count) return 0;
 target[count] = 0;
 return target;
 %>
 ssize_t getdelim(char **target, size_t *size, int end, FILE *stream) <%
 size_t count = 0;
 for (; ; ) <%
 int value = fgetc(stream);
 if (value == EOF) break;
 if (!*target || *size < count + 2) <%
 *size = *target && *size ? 2 * *size : 120;
 *target = realloc(*target, *size);
 %>
 (*target)[count++] = (char)value;
 if (value == end) break;
 %>
 if (!count) return -1;
 (*target)[count] = 0;
 return count;
 %>
 ssize_t getline(char **target, size_t *size, FILE *stream) <%
 return getdelim(target, size, 10, stream);
 %>
 size_t fread(void *target, size_t size, size_t count, FILE *stream) <%
 size_t wanted = size * count, taken = 0;
 while (taken < wanted) <%
 int value = fgetc(stream);
 if (value == EOF) break;
 ((char *)target)[taken++] = (char)value;
 %>
 return size ? taken / size : 0;
 %>
 int fseek(FILE *stream, long distance, int origin) <%
 settle(stream);
 stream->ended = 0;
 return lseek(stream->descriptor, distance, origin) < 0 ? -1 : 0;
 %>
 long ftell(FILE *stream) <%
 long place = lseek(stream->descriptor, 0, SEEK_CUR);
 if (place < 0) return -1;
 if (stream->mode == writing) return place + (long)stream->position;
 return place - (long)(stream->limit - stream->position) - (stream->pushed >= 0);
 %>
 int fseeko(FILE *stream, off_t distance, int origin) <%
 return fseek(stream, distance, origin);
 %>
 off_t ftello(FILE *stream) <% return ftell(stream); %>
 void rewind(FILE *stream) <% fseek(stream, 0, SEEK_SET); stream->failed = 0; %>
 int fgetpos(FILE *stream, fpos_t *place) <% *place = ftell(stream); return 0; %>
 int fsetpos(FILE *stream, const fpos_t *place) <% return fseek(stream, *place, SEEK_SET); %>
 int feof(FILE *stream) <% return stream->ended; %>
 int ferror(FILE *stream) <% return stream->failed; %>
 void clearerr(FILE *stream) <% stream->failed = stream->ended = 0; %>
 void perror(const char *text) <%
 if (text && *text) fprintf(stderr, \"%s: %s\\n\", text, strerror(errno));
 else fprintf(stderr, \"%s\\n\", strerror(errno));
 %>
 FILE *tmpfile(void) <%
 static int number;
 char path[40];
 sprintf(path, \"/tmp/tmpfile.%d\", number++);
 FILE *stream = fopen(path, \"w+\");
 unlink(path);
 return stream;
 %>
 void __assert_fail(const char *condition, const char *file, unsigned int line,
   const char *function) <%
 fprintf(stderr, \"%s:%u: %s: Assertion `%s' failed.\\n\", file, line, function, condition);
 abort();
 %>
"

/-- The symbols of streams. -/
def streamSymbols : List Octets :=
  ["stdin", "stdout", "stderr", "fflush", "fopen", "fdopen", "freopen", "fclose", "fileno", "setvbuf",
    "setbuf", "setlinebuf", "fputc", "putc", "putchar", "fputs", "puts", "fwrite", "vfprintf",
    "vprintf", "vsnprintf", "vsprintf", "vasprintf", "vdprintf", "fprintf", "printf", "sprintf",
    "snprintf", "asprintf", "dprintf", "fgetc", "getc", "getchar", "ungetc", "fgets", "getdelim",
    "getline", "fread", "fseek", "ftell", "fseeko", "ftello", "rewind", "fgetpos", "fsetpos", "feof",
    "ferror", "clearerr", "perror", "tmpfile", "__assert_fail"]

/-- Values that are read by a format. -/
def scanning : Octets := "
 #include <stdio.h>
 #include <stdlib.h>
 #include <string.h>
 #include <ctype.h>
 struct source <% FILE *stream; const char *text; long count; %>;
 static int take(struct source *source) <%
 int value = source->stream ? fgetc(source->stream) :
   *source->text ? (unsigned char)*source->text++ : EOF;
 if (value != EOF) source->count++;
 return value;
 %>
 static void back(struct source *source, int value) <%
 if (value == EOF) return;
 source->count--;
 if (source->stream) ungetc(value, source->stream);
 else source->text--;
 %>
 static void skip(struct source *source) <%
 int value = take(source);
 while (value != EOF && isspace(value)) value = take(source);
 back(source, value);
 %>
 static void store(void *target, long value, int size) <%
 if (size == 1) *(char *)target = (char)value;
 else if (size == 2) *(short *)target = (short)value;
 else if (size == 4) *(int *)target = (int)value;
 else *(long *)target = value;
 %>
 static int fits(int value, int base, const char *word, int length) <%
 if (base == 0) return isalnum(value) || value == '+' || value == '-' || value == '.';
 if (value == '+' || value == '-') return length == 0;
 if ((value == 'x' || value == 'X') && base == 16)
   return word[length - 1] == '0' && length <= 2;
 return base == 16 ? isxdigit(value) : base == 8 ? '0' <= value && value <= '7' : isdigit(value);
 %>
 static int in_set(const char *set, const char *end, int value) <%
 int isOut = *set == '^', found = 0;
 if (isOut) set++;
 for (const char *place = set; place < end; place++) <%
 if (place + 2 < end && place[1] == '-') <%
 if ((unsigned char)place[0] <= value && value <= (unsigned char)place[2]) found = 1;
 place += 2;
 %>
 else if ((unsigned char)*place == value) found = 1;
 %>
 return found != isOut;
 %>
 static int scan(struct source *source, const char *format, __builtin_va_list list) <%
 int done = 0;
 for (; *format; format++) <%
 if (isspace((unsigned char)*format)) <% skip(source); continue; %>
 if (*format != '%') <%
 int value = take(source);
 if (value == (unsigned char)*format) continue;
 back(source, value);
 return value == EOF && !done ? EOF : done;
 %>
 format++;
 int isDropped = *format == '*';
 if (isDropped) format++;
 int width = 0;
 while (isdigit((unsigned char)*format)) width = width * 10 + (*format++ - '0');
 int size = 4;
 while (*format == 'h') <% size /= 2; format++; %>
 while (*format == 'l' || *format == 'z' || *format == 'j' || *format == 't' || *format == 'L')
   <% size = 8; format++; %>
 if (*format == 'n') <%
 if (!isDropped) store(va_arg(list, void *), source->count, size);
 continue;
 %>
 if (*format != 'c' && *format != '[') skip(source);
 int value = take(source);
 if (*format == '%') <%
 if (value == '%') continue;
 back(source, value);
 return done;
 %>
 if (value == EOF) return done ? done : EOF;
 if (*format == 'c' || *format == 's' || *format == '[') <%
 const char *set = format + 1, *end = set;
 if (*format == '[') <%
 if (*end == '^') end++;
 if (*end == ']') end++;
 while (*end && *end != ']') end++;
 %>
 char kind = *format, *target = isDropped ? 0 : va_arg(list, char *);
 int limit = width ? width : kind == 'c' ? 1 : 2147483647, length = 0;
 while (value != EOF && length < limit) <%
 if (kind == 's' && isspace(value)) break;
 if (kind == '[' && !in_set(set, end, value)) break;
 if (target) target[length] = (char)value;
 length++;
 value = length < limit ? take(source) : EOF;
 if (length == limit) break;
 %>
 if (length < limit) back(source, value);
 if (!length) return done;
 if (target && kind != 'c') target[length] = 0;
 if (kind == '[') format = end;
 if (!isDropped) done++;
 continue;
 %>
 char word[400];
 int length = 0, limit = width && width < 399 ? width : 399;
 int isReal = strchr(\"aAeEfFgG\", *format) != 0;
 int base = isReal ? 0 : *format == 'x' || *format == 'X' || *format == 'p' || *format == 'i' ? 16 :
   *format == 'o' ? 8 : 10;
 while (value != EOF && length < limit && fits(value, base, word, length)) <%
 word[length++] = (char)value;
 value = length < limit ? take(source) : EOF;
 if (length == limit) break;
 %>
 if (length < limit) back(source, value);
 word[length] = 0;
 char *end;
 if (isReal) <%
 double number = strtod(word, &end);
 if (end == word) return done;
 if (isDropped) continue;
 if (size == 8) *va_arg(list, double *) = number;
 else *va_arg(list, float *) = (float)number;
 done++;
 continue;
 %>
 int isSigned = *format == 'd' || *format == 'i';
 int readBase = *format == 'i' ? 0 : base;
 long number = isSigned ? strtol(word, &end, readBase) : (long)strtoul(word, &end, readBase);
 if (end == word) return done;
 if (isDropped) continue;
 if (*format == 'p') size = 8;
 store(va_arg(list, void *), number, size);
 done++;
 %>
 return done;
 %>
 int vfscanf(FILE *stream, const char *format, __builtin_va_list list) <%
 struct source source = <% stream, 0, 0 %>;
 return scan(&source, format, list);
 %>
 int vsscanf(const char *text, const char *format, __builtin_va_list list) <%
 struct source source = <% 0, text, 0 %>;
 return scan(&source, format, list);
 %>
 int fscanf(FILE *stream, const char *format, ...) <%
 va_list list;
 va_start(list, format);
 int result = vfscanf(stream, format, list);
 va_end(list);
 return result;
 %>
 int scanf(const char *format, ...) <%
 va_list list;
 va_start(list, format);
 int result = vfscanf(stdin, format, list);
 va_end(list);
 return result;
 %>
 int sscanf(const char *text, const char *format, ...) <%
 va_list list;
 va_start(list, format);
 int result = vsscanf(text, format, list);
 va_end(list);
 return result;
 %>
"

/-- The symbols of reading by a format. -/
def scanningSymbols : List Octets :=
  ["vfscanf", "vsscanf", "fscanf", "scanf", "sscanf"]

end QueryFoundry.Native.Library
