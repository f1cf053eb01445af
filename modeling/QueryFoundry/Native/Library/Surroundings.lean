import QueryFoundry.Text.Octets

/-!
# Surroundings

The functions of the system that ask the kernel: for files, the environment, time and other programs.
-/

namespace QueryFoundry.Native.Library

open Text (Octets)

/-- Files, the environment and other programs. -/
def surroundings : Octets := "
 #include <unistd.h>
 #include <fcntl.h>
 #include <stdio.h>
 #include <stdlib.h>
 #include <string.h>
 #include <errno.h>
 #include <dirent.h>
 #include <signal.h>
 #include <locale.h>
 #include <sys/stat.h>
 #include <sys/wait.h>
 long __service_open(const char *, int, int);
 long __service_read(int, void *, size_t);
 long __service_write(int, const void *, size_t);
 long __service_close(int);
 long __service_seek(int, long, int);
 long __service_removeFile(const char *);
 long __service_removeDirectory(const char *);
 long __service_createDirectory(const char *);
 long __service_changeDirectory(const char *);
 long __service_rename(const char *, const char *);
 long __service_status(const char *, long *);
 long __service_setExecutable(const char *, int);
 long __service_workingDirectory(char *, size_t);
 long __service_list(const char *, char *, size_t);
 long __service_startShell(const char *);
 long __service_await(long);
 long __service_sendSignal(int, int);
 long __service_sleep(long);
 long __service_processId(void);
 long __service_parentId(void);
 char *__service_variableValue(const char *);
 long __service_setVariable(const char *, const char *);
 long __service_unsetVariable(const char *);
 void __service_exit(int);
 void __service_leave(int);
 void __service_abort(void);
 static int number;
 int *__errno_location(void) <% return &number; %>
 static long told(long answer) <%
 if (answer < 0) <% number = (int)-answer; return -1; %>
 return answer;
 %>
 int open(const char *path, int flags, ...) <% return (int)told(__service_open(path, flags, 0)); %>
 int creat(const char *path, mode_t mode) <%
 return open(path, O_WRONLY | O_CREAT | O_TRUNC, mode);
 %>
 ssize_t read(int descriptor, void *place, size_t count) <%
 return told(__service_read(descriptor, place, count));
 %>
 ssize_t write(int descriptor, const void *place, size_t count) <%
 return told(__service_write(descriptor, place, count));
 %>
 int close(int descriptor) <% return (int)told(__service_close(descriptor)); %>
 off_t lseek(int descriptor, off_t distance, int origin) <%
 return told(__service_seek(descriptor, distance, origin));
 %>
 int unlink(const char *path) <% return (int)told(__service_removeFile(path)); %>
 int rmdir(const char *path) <% return (int)told(__service_removeDirectory(path)); %>
 int remove(const char *path) <%
 long answer = __service_removeFile(path);
 if (answer == -EISDIR) answer = __service_removeDirectory(path);
 return (int)told(answer);
 %>
 int rename(const char *source, const char *target) <%
 return (int)told(__service_rename(source, target));
 %>
 int mkdir(const char *path, mode_t mode) <%
 (void)mode;
 return (int)told(__service_createDirectory(path));
 %>
 int chdir(const char *path) <% return (int)told(__service_changeDirectory(path)); %>
 int chmod(const char *path, mode_t mode) <%
 return (int)told(__service_setExecutable(path, (mode & 0111) != 0));
 %>
 char *getcwd(char *place, size_t size) <%
 if (!place) <% size = size ? size : 4096; place = malloc(size); %>
 return told(__service_workingDirectory(place, size)) < 0 ? 0 : place;
 %>
 int stat(const char *path, struct stat *target) <%
 long words[3];
 if (told(__service_status(path, words)) < 0) return -1;
 memset(target, 0, sizeof *target);
 static const mode_t modes[] = <% 0100644, 0100755, 0040755, 0020666 %>;
 target->st_mode = modes[words[0]];
 target->st_nlink = words[0] == 2 ? 2 : 1;
 target->st_size = words[1];
 target->st_blksize = 4096;
 target->st_blocks = (words[1] + 511) / 512;
 target->st_mtim.tv_sec = words[2] / 1000000000;
 target->st_mtim.tv_nsec = words[2] % 1000000000;
 target->st_atim = target->st_ctim = target->st_mtim;
 return 0;
 %>
 int lstat(const char *path, struct stat *target) <% return stat(path, target); %>
 int access(const char *path, int mode) <%
 long words[3];
 if (told(__service_status(path, words)) < 0) return -1;
 if ((mode & X_OK) && words[0] == 0) <% number = EACCES; return -1; %>
 return 0;
 %>
 char *realpath(const char *path, char *target) <%
 long words[3];
 if (told(__service_status(path, words)) < 0) return 0;
 if (!target) target = malloc(4096);
 if (*path == '/') strcpy(target, path);
 else <%
 getcwd(target, 4096);
 if (strcmp(path, \".\")) <% strcat(target, \"/\"); strcat(target, path); %>
 %>
 return target;
 %>
 int mkstemp(char *path) <%
 static int count;
 char *letters = path + strlen(path) - 6;
 char made[16];
 sprintf(made, \"%06d\", count++);
 memcpy(letters, made, 6);
 return open(path, O_RDWR | O_CREAT | O_TRUNC, 0600);
 %>
 struct __directory <% char *names; long size, position; struct dirent entry; %>;
 DIR *opendir(const char *path) <%
 DIR *directory = calloc(1, sizeof(DIR));
 directory->names = malloc(65536);
 directory->size = told(__service_list(path, directory->names, 65536));
 if (directory->size < 0) return 0;
 return directory;
 %>
 struct dirent *readdir(DIR *directory) <%
 if (directory->size <= directory->position) return 0;
 strcpy(directory->entry.d_name, directory->names + directory->position);
 directory->position += strlen(directory->entry.d_name) + 1;
 return &directory->entry;
 %>
 int closedir(DIR *directory) <%
 free(directory->names);
 free(directory);
 return 0;
 %>
 char *getenv(const char *name) <% return __service_variableValue(name); %>
 char *secure_getenv(const char *name) <% return getenv(name); %>
 int setenv(const char *name, const char *value, int replaces) <%
 if (!name || !*name || strchr(name, '=')) <% number = EINVAL; return -1; %>
 if (!replaces && getenv(name)) return 0;
 __service_setVariable(name, value);
 return 0;
 %>
 int unsetenv(const char *name) <%
 if (!name || !*name || strchr(name, '=')) <% number = EINVAL; return -1; %>
 __service_unsetVariable(name);
 return 0;
 %>
 int putenv(char *text) <%
 char *end = strchr(text, '=');
 if (!end) return unsetenv(text);
 char *name = strndup(text, end - text);
 __service_setVariable(name, end + 1);
 free(name);
 return 0;
 %>
 pid_t getpid(void) <% return (pid_t)__service_processId(); %>
 pid_t getppid(void) <% return (pid_t)__service_parentId(); %>
 uid_t getuid(void) <% return 0; %>
 uid_t geteuid(void) <% return 0; %>
 gid_t getgid(void) <% return 0; %>
 long sysconf(int what) <% return what == _SC_PAGESIZE ? 4096 : -1; %>
 int isatty(int descriptor) <% (void)descriptor; number = ENOTTY; return 0; %>
 int fsync(int descriptor) <% (void)descriptor; return 0; %>
 unsigned int sleep(unsigned int seconds) <%
 __service_sleep(seconds * 1000000000L);
 return 0;
 %>
 int usleep(unsigned int count) <% __service_sleep(count * 1000L); return 0; %>
 int kill(pid_t process, int signal) <% return (int)told(__service_sendSignal(process, signal)); %>
 int raise(int signal) <% return kill(getpid(), signal); %>
 int system(const char *command) <%
 if (!command) return 1;
 return (int)__service_await(__service_startShell(command));
 %>
 FILE *popen(const char *command, const char *mode) <%
 if (*mode != 'r') <% number = EINVAL; return 0; %>
 char *whole;
 asprintf(&whole, \"(%s) > /tmp/popen.%d\", command, getpid());
 int status = system(whole);
 free(whole);
 char path[40];
 sprintf(path, \"/tmp/popen.%d\", getpid());
 FILE *stream = fopen(path, mode);
 unlink(path);
 (void)status;
 return stream;
 %>
 int pclose(FILE *stream) <% fclose(stream); return 0; %>
 void _exit(int code) <% __service_leave(code); for (; ; ) <% %> %>
 void _Exit(int code) <% _exit(code); %>
 void exit(int code) <% __service_exit(code); for (; ; ) <% %> %>
 void abort(void) <% __service_abort(); for (; ; ) <% %> %>
 char *setlocale(int category, const char *name) <%
 (void)category;
 return !name || !*name || !strcmp(name, \"C\") || !strcmp(name, \"POSIX\") ? \"C\" : 0;
 %>
"

/-- The symbols of the surroundings. -/
def surroundingSymbols : List Octets :=
  ["__errno_location", "open", "creat", "read", "write", "close", "lseek", "unlink", "rmdir", "remove",
    "rename", "mkdir", "chdir", "chmod", "getcwd", "stat", "lstat", "access", "realpath", "mkstemp",
    "opendir", "readdir", "closedir", "getenv", "secure_getenv", "setenv", "unsetenv", "putenv",
    "getpid", "getppid", "getuid", "geteuid", "getgid", "sysconf", "isatty", "fsync", "sleep",
    "usleep", "kill", "raise", "system", "popen", "pclose", "_exit", "_Exit", "exit", "abort",
    "setlocale"]

/-- Time. -/
def times : Octets := "
 #include <time.h>
 #include <sys/time.h>
 #include <string.h>
 long __service_now(void);
 long __service_sleep(long);
 static const long base = 1700000000;
 time_t time(time_t *target) <%
 time_t now = base + __service_now() / 1000000000;
 if (target) *target = now;
 return now;
 %>
 clock_t clock(void) <% return __service_now() / 1000; %>
 double difftime(time_t last, time_t first) <% return (double)(last - first); %>
 int clock_gettime(clockid_t clock, struct timespec *target) <%
 long now = __service_now();
 target->tv_sec = now / 1000000000 + (clock == CLOCK_REALTIME ? base : 0);
 target->tv_nsec = now % 1000000000;
 return 0;
 %>
 int gettimeofday(struct timeval *target, void *zone) <%
 long now = __service_now();
 (void)zone;
 target->tv_sec = base + now / 1000000000;
 target->tv_usec = now % 1000000000 / 1000;
 return 0;
 %>
 int nanosleep(const struct timespec *length, struct timespec *left) <%
 __service_sleep(length->tv_sec * 1000000000 + length->tv_nsec);
 if (left) left->tv_sec = left->tv_nsec = 0;
 return 0;
 %>
 static int is_long(long year) <%
 return (year % 4 == 0 && year % 100 != 0) || year % 400 == 0;
 %>
 static const int lengths[] = <% 31, 28, 31, 30, 31, 30, 31, 31, 30, 31, 30, 31 %>;
 struct tm *gmtime_r(const time_t *moment, struct tm *target) <%
 long days = *moment / 86400, rest = *moment % 86400;
 if (rest < 0) <% rest += 86400; days--; %>
 memset(target, 0, sizeof *target);
 target->tm_hour = (int)(rest / 3600);
 target->tm_min = (int)(rest % 3600 / 60);
 target->tm_sec = (int)(rest % 60);
 target->tm_wday = (int)(((days + 4) % 7 + 7) % 7);
 long year = 1970;
 while (days < 0) <% year--; days += is_long(year) ? 366 : 365; %>
 while (days >= (is_long(year) ? 366 : 365)) <% days -= is_long(year) ? 366 : 365; year++; %>
 target->tm_year = (int)(year - 1900);
 target->tm_yday = (int)days;
 int month = 0;
 while (days >= lengths[month] + (month == 1 && is_long(year))) <%
 days -= lengths[month] + (month == 1 && is_long(year));
 month++;
 %>
 target->tm_mon = month;
 target->tm_mday = (int)days + 1;
 target->tm_zone = \"GMT\";
 return target;
 %>
 struct tm *gmtime(const time_t *moment) <%
 static struct tm made;
 return gmtime_r(moment, &made);
 %>
 struct tm *localtime_r(const time_t *moment, struct tm *target) <%
 return gmtime_r(moment, target);
 %>
 struct tm *localtime(const time_t *moment) <% return gmtime(moment); %>
 time_t timegm(struct tm *parts) <%
 long year = parts->tm_year + 1900L, days = parts->tm_mday - 1;
 for (long other = 1970; other < year; other++) days += is_long(other) ? 366 : 365;
 for (long other = year; other < 1970; other++) days -= is_long(other) ? 366 : 365;
 for (int month = 0; month < parts->tm_mon; month++)
   days += lengths[month % 12] + (month == 1 && is_long(year));
 time_t moment = ((days * 24 + parts->tm_hour) * 60 + parts->tm_min) * 60 + parts->tm_sec;
 gmtime_r(&moment, parts);
 return moment;
 %>
 time_t mktime(struct tm *parts) <% return timegm(parts); %>
"

/-- The symbols of time. -/
def timeSymbols : List Octets :=
  ["time", "clock", "difftime", "clock_gettime", "gettimeofday", "nanosleep", "gmtime_r", "gmtime",
    "localtime_r", "localtime", "timegm", "mktime"]

end QueryFoundry.Native.Library
