import QueryFoundry.Text.Octets

/-!
# Headers of files

The headers that declare streams, descriptors and what is asked of a file tree.
-/

namespace QueryFoundry.Native.Headers

open Text (Octets)

/-- Streams. -/
def streams : Octets := "
 #include <stddef.h>
 #include <stdarg.h>
 typedef struct _IO_FILE FILE;
 typedef long fpos_t;
 typedef long off_t;
 typedef long ssize_t;
 extern FILE *stdin;
 extern FILE *stdout;
 extern FILE *stderr;
 #define stdin stdin
 #define stdout stdout
 #define stderr stderr
 #define EOF (-1)
 #define BUFSIZ 8192
 #define FILENAME_MAX 4096
 #define FOPEN_MAX 16
 #define L_tmpnam 20
 #define TMP_MAX 238328
 #define SEEK_SET 0
 #define SEEK_CUR 1
 #define SEEK_END 2
 #define _IOFBF 0
 #define _IOLBF 1
 #define _IONBF 2
 FILE *fopen(const char *, const char *);
 FILE *freopen(const char *, const char *, FILE *);
 FILE *fdopen(int, const char *);
 int fclose(FILE *);
 int fflush(FILE *);
 int fileno(FILE *);
 int setvbuf(FILE *, char *, int, size_t);
 void setbuf(FILE *, char *);
 void setlinebuf(FILE *);
 int fprintf(FILE *, const char *, ...) __attribute__((format(printf, 2, 3)));
 int printf(const char *, ...) __attribute__((format(printf, 1, 2)));
 int sprintf(char *, const char *, ...) __attribute__((format(printf, 2, 3)));
 int snprintf(char *, size_t, const char *, ...) __attribute__((format(printf, 3, 4)));
 int vfprintf(FILE *, const char *, __builtin_va_list);
 int vprintf(const char *, __builtin_va_list);
 int vsprintf(char *, const char *, __builtin_va_list);
 int vsnprintf(char *, size_t, const char *, __builtin_va_list);
 int asprintf(char **, const char *, ...);
 int vasprintf(char **, const char *, __builtin_va_list);
 int dprintf(int, const char *, ...);
 int vdprintf(int, const char *, __builtin_va_list);
 int fscanf(FILE *, const char *, ...);
 int scanf(const char *, ...);
 int sscanf(const char *, const char *, ...);
 int vfscanf(FILE *, const char *, __builtin_va_list);
 int vsscanf(const char *, const char *, __builtin_va_list);
 int fgetc(FILE *);
 int getc(FILE *);
 int getchar(void);
 char *fgets(char *, int, FILE *);
 ssize_t getline(char **, size_t *, FILE *);
 ssize_t getdelim(char **, size_t *, int, FILE *);
 int ungetc(int, FILE *);
 int fputc(int, FILE *);
 int putc(int, FILE *);
 int putchar(int);
 int fputs(const char *, FILE *);
 int puts(const char *);
 size_t fread(void *, size_t, size_t, FILE *);
 size_t fwrite(const void *, size_t, size_t, FILE *);
 int fseek(FILE *, long, int);
 long ftell(FILE *);
 int fseeko(FILE *, off_t, int);
 off_t ftello(FILE *);
 void rewind(FILE *);
 int fgetpos(FILE *, fpos_t *);
 int fsetpos(FILE *, const fpos_t *);
 int feof(FILE *);
 int ferror(FILE *);
 void clearerr(FILE *);
 void perror(const char *);
 int remove(const char *);
 int rename(const char *, const char *);
 FILE *popen(const char *, const char *);
 int pclose(FILE *);
 FILE *tmpfile(void);
"

/-- Descriptors and processes. -/
def descriptors : Octets := "
 #include <stddef.h>
 #include <sys/types.h>
 #define STDIN_FILENO 0
 #define STDOUT_FILENO 1
 #define STDERR_FILENO 2
 #define R_OK 4
 #define W_OK 2
 #define X_OK 1
 #define F_OK 0
 #ifndef SEEK_SET
 #define SEEK_SET 0
 #define SEEK_CUR 1
 #define SEEK_END 2
 #endif
 ssize_t read(int, void *, size_t);
 ssize_t write(int, const void *, size_t);
 int close(int);
 off_t lseek(int, off_t, int);
 int access(const char *, int);
 int unlink(const char *);
 int rmdir(const char *);
 int chdir(const char *);
 char *getcwd(char *, size_t);
 pid_t getpid(void);
 pid_t getppid(void);
 unsigned int sleep(unsigned int);
 int usleep(unsigned int);
 void _exit(int) __attribute__((noreturn));
 int isatty(int);
 int fsync(int);
 uid_t getuid(void);
 uid_t geteuid(void);
 gid_t getgid(void);
 long sysconf(int);
 #define _SC_PAGESIZE 30
"

/-- Ways to open a file. -/
def openModes : Octets := "
 #include <sys/types.h>
 #define O_RDONLY 00
 #define O_WRONLY 01
 #define O_RDWR 02
 #define O_CREAT 0100
 #define O_EXCL 0200
 #define O_TRUNC 01000
 #define O_APPEND 02000
 #define O_NONBLOCK 04000
 #define O_CLOEXEC 02000000
 int open(const char *, int, ...);
 int creat(const char *, mode_t);
"

/-- Kinds of the system. -/
def systemKinds : Octets := "
 #include <stddef.h>
 #include <stdint.h>
 typedef long ssize_t;
 typedef long off_t;
 typedef int pid_t;
 typedef unsigned int uid_t;
 typedef unsigned int gid_t;
 typedef unsigned int mode_t;
 typedef unsigned long dev_t;
 typedef unsigned long ino_t;
 typedef unsigned long nlink_t;
 typedef long time_t;
 typedef unsigned int useconds_t;
 typedef long suseconds_t;
 typedef unsigned char u_char;
 typedef unsigned short u_short;
 typedef unsigned int u_int;
 typedef unsigned long u_long;
 typedef unsigned int uint;
 typedef unsigned long ulong;
 typedef unsigned short ushort;
"

/-- What is known of files. -/
def fileStatus : Octets := "
 #include <sys/types.h>
 #include <time.h>
 struct stat <%
 dev_t st_dev; ino_t st_ino; nlink_t st_nlink; mode_t st_mode; uid_t st_uid; gid_t st_gid;
 dev_t st_rdev; off_t st_size; long st_blksize; long st_blocks;
 struct timespec st_atim; struct timespec st_mtim; struct timespec st_ctim;
 %>;
 #define st_atime st_atim.tv_sec
 #define st_mtime st_mtim.tv_sec
 #define st_ctime st_ctim.tv_sec
 #define S_IFMT 0170000
 #define S_IFDIR 0040000
 #define S_IFREG 0100000
 #define S_IFCHR 0020000
 #define S_IRUSR 0400
 #define S_IWUSR 0200
 #define S_IXUSR 0100
 #define S_IRWXU 0700
 #define S_IRWXG 0070
 #define S_IRWXO 0007
 #define S_ISDIR(mode) (((mode) & S_IFMT) == S_IFDIR)
 #define S_ISREG(mode) (((mode) & S_IFMT) == S_IFREG)
 #define S_ISCHR(mode) (((mode) & S_IFMT) == S_IFCHR)
 int stat(const char *, struct stat *);
 int lstat(const char *, struct stat *);
 int mkdir(const char *, mode_t);
 int chmod(const char *, mode_t);
"

/-- Directories. -/
def directories : Octets := "
 #include <sys/types.h>
 struct dirent <%
 ino_t d_ino; off_t d_off; unsigned short d_reclen; unsigned char d_type; char d_name[256];
 %>;
 typedef struct __directory DIR;
 DIR *opendir(const char *);
 struct dirent *readdir(DIR *);
 int closedir(DIR *);
"

/-- The headers of files. -/
def streamHeaders : List (Octets × Octets) :=
  [("stdio.h", streams), ("unistd.h", descriptors), ("fcntl.h", openModes),
    ("sys/types.h", systemKinds), ("sys/stat.h", fileStatus), ("dirent.h", directories)]

end QueryFoundry.Native.Headers
