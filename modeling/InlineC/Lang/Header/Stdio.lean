import InlineC.Lang.Header.Core
/-!
# Header texts: stdio

The texts of the input and output, general utility and string headers, and the runtime header, as the
compiler reads them when a source includes them by name.
-/

namespace InlineC.Lang.Header

/-- The text of `<stdio.h>`. -/
def stdioText : String :=
  ofLines [
    "#ifndef _STDIO_H",
    "#define _STDIO_H 1",
    "#include <features.h>",
    "#define __need_size_t",
    "#define __need_NULL",
    "#include <stddef.h>",
    "#define __need___va_list",
    "#include <stdarg.h>",
    "#include <bits/types.h>",
    "struct _IO_FILE;",
    "struct _IO_marker;",
    "struct _IO_codecvt;",
    "struct _IO_wide_data;",
    "typedef void _IO_lock_t;",
    "struct _IO_FILE",
    "\x7b",
    "int _flags;",
    "char *_IO_read_ptr;",
    "char *_IO_read_end;",
    "char *_IO_read_base;",
    "char *_IO_write_base;",
    "char *_IO_write_ptr;",
    "char *_IO_write_end;",
    "char *_IO_buf_base;",
    "char *_IO_buf_end;",
    "char *_IO_save_base;",
    "char *_IO_backup_base;",
    "char *_IO_save_end;",
    "struct _IO_marker *_markers;",
    "struct _IO_FILE *_chain;",
    "int _fileno;",
    "int _flags2;",
    "__off_t _old_offset;",
    "unsigned short _cur_column;",
    "signed char _vtable_offset;",
    "char _shortbuf[1];",
    "_IO_lock_t *_lock;",
    "__off64_t _offset;",
    "struct _IO_codecvt *_codecvt;",
    "struct _IO_wide_data *_wide_data;",
    "struct _IO_FILE *_freeres_list;",
    "void *_freeres_buf;",
    "size_t __pad5;",
    "int _mode;",
    "char _unused2[15 * sizeof (int) - 4 * sizeof (void *) - sizeof (size_t)];",
    "\x7d;",
    "#if defined __USE_XOPEN || defined __USE_XOPEN2K8",
    "# ifndef _VA_LIST_DEFINED",
    "typedef __gnuc_va_list va_list;",
    "#  define _VA_LIST_DEFINED",
    "# endif",
    "#endif",
    "#if defined __USE_UNIX98 || defined __USE_XOPEN2K",
    "# ifndef __off_t_defined",
    "typedef __off_t off_t;",
    "# define __off_t_defined",
    "# endif",
    "#endif",
    "#ifdef __USE_XOPEN2K8",
    "# ifndef __ssize_t_defined",
    "typedef __ssize_t ssize_t;",
    "# define __ssize_t_defined",
    "# endif",
    "#endif",
    "typedef __fpos_t fpos_t;",
    "#define _IOFBF 0",
    "#define _IOLBF 1",
    "#define _IONBF 2",
    "#define BUFSIZ 8192",
    "#define EOF (-1)",
    "#define SEEK_SET 0",
    "#define SEEK_CUR 1",
    "#define SEEK_END 2",
    "#ifdef __USE_XOPEN",
    "# define P_tmpdir \"/tmp\"",
    "#endif",
    "#define L_tmpnam 20",
    "#define TMP_MAX 238328",
    "#define FILENAME_MAX 4096",
    "#ifdef __USE_POSIX",
    "# define L_ctermid 9",
    "#endif",
    "#define FOPEN_MAX 16",
    "extern FILE *stdin;",
    "extern FILE *stdout;",
    "extern FILE *stderr;",
    "#define stdin stdin",
    "#define stdout stdout",
    "#define stderr stderr",
    "extern int remove (const char *__filename) __THROW;",
    "extern int rename (const char *__old, const char *__new) __THROW;",
    "extern FILE *tmpfile (void) __wur;",
    "extern char *tmpnam (char *__s) __THROW __wur;",
    "extern int fclose (FILE *__stream);",
    "extern int fflush (FILE *__stream);",
    "extern FILE *fopen (const char *__restrict __filename, const char *__restrict __modes) __wur;",
    "extern FILE *freopen (const char *__restrict __filename, const char *__restrict __modes, FILE *__restrict __stream) __wur;",
    "#ifdef __USE_POSIX",
    "extern FILE *fdopen (int __fd, const char *__modes) __THROW __wur;",
    "#endif",
    "#ifdef __USE_XOPEN2K8",
    "extern FILE *fmemopen (void *__s, size_t __len, const char *__modes) __THROW __wur;",
    "extern FILE *open_memstream (char **__bufloc, size_t *__sizeloc) __THROW __wur;",
    "#endif",
    "extern void setbuf (FILE *__restrict __stream, char *__restrict __buf) __THROW;",
    "extern int setvbuf (FILE *__restrict __stream, char *__restrict __buf, int __modes, size_t __n) __THROW;",
    "extern int fprintf (FILE *__restrict __stream, const char *__restrict __format, ...);",
    "extern int printf (const char *__restrict __format, ...);",
    "extern int sprintf (char *__restrict __s, const char *__restrict __format, ...) __THROWNL;",
    "extern int vfprintf (FILE *__restrict __s, const char *__restrict __format, __gnuc_va_list __arg);",
    "extern int vprintf (const char *__restrict __format, __gnuc_va_list __arg);",
    "extern int vsprintf (char *__restrict __s, const char *__restrict __format, __gnuc_va_list __arg) __THROWNL;",
    "#if defined __USE_ISOC99 || defined __USE_UNIX98",
    "extern int snprintf (char *__restrict __s, size_t __maxlen, const char *__restrict __format, ...) __THROWNL __attribute__ ((__format__ (__printf__, 3, 4)));",
    "extern int vsnprintf (char *__restrict __s, size_t __maxlen, const char *__restrict __format, __gnuc_va_list __arg) __THROWNL __attribute__ ((__format__ (__printf__, 3, 0)));",
    "#endif",
    "#ifdef __USE_XOPEN2K8",
    "extern int vdprintf (int __fd, const char *__restrict __fmt, __gnuc_va_list __arg) __attribute__ ((__format__ (__printf__, 2, 0)));",
    "extern int dprintf (int __fd, const char *__restrict __fmt, ...) __attribute__ ((__format__ (__printf__, 2, 3)));",
    "#endif",
    "extern int fscanf (FILE *__restrict __stream, const char *__restrict __format, ...) __wur;",
    "extern int scanf (const char *__restrict __format, ...) __wur;",
    "extern int sscanf (const char *__restrict __s, const char *__restrict __format, ...) __THROW;",
    "#ifdef __USE_ISOC99",
    "extern int vfscanf (FILE *__restrict __s, const char *__restrict __format, __gnuc_va_list __arg) __attribute__ ((__format__ (__scanf__, 2, 0))) __wur;",
    "extern int vscanf (const char *__restrict __format, __gnuc_va_list __arg) __attribute__ ((__format__ (__scanf__, 1, 0))) __wur;",
    "extern int vsscanf (const char *__restrict __s, const char *__restrict __format, __gnuc_va_list __arg) __THROW __attribute__ ((__format__ (__scanf__, 2, 0)));",
    "#endif",
    "extern int fgetc (FILE *__stream);",
    "extern int getc (FILE *__stream);",
    "extern int getchar (void);",
    "#ifdef __USE_POSIX199506",
    "extern int getc_unlocked (FILE *__stream);",
    "extern int getchar_unlocked (void);",
    "#endif",
    "#ifdef __USE_MISC",
    "extern int fgetc_unlocked (FILE *__stream);",
    "#endif",
    "extern int fputc (int __c, FILE *__stream);",
    "extern int putc (int __c, FILE *__stream);",
    "extern int putchar (int __c);",
    "#ifdef __USE_MISC",
    "extern int fputc_unlocked (int __c, FILE *__stream);",
    "#endif",
    "#ifdef __USE_POSIX199506",
    "extern int putc_unlocked (int __c, FILE *__stream);",
    "extern int putchar_unlocked (int __c);",
    "#endif",
    "extern char *fgets (char *__restrict __s, int __n, FILE *__restrict __stream) __wur;",
    "#ifdef __USE_XOPEN2K8",
    "extern __ssize_t __getdelim (char **__restrict __lineptr, size_t *__restrict __n, int __delimiter, FILE *__restrict __stream) __wur;",
    "extern __ssize_t getdelim (char **__restrict __lineptr, size_t *__restrict __n, int __delimiter, FILE *__restrict __stream) __wur;",
    "extern __ssize_t getline (char **__restrict __lineptr, size_t *__restrict __n, FILE *__restrict __stream) __wur;",
    "#endif",
    "extern int fputs (const char *__restrict __s, FILE *__restrict __stream);",
    "extern int puts (const char *__s);",
    "extern int ungetc (int __c, FILE *__stream);",
    "extern size_t fread (void *__restrict __ptr, size_t __size, size_t __n, FILE *__restrict __stream) __wur;",
    "extern size_t fwrite (const void *__restrict __ptr, size_t __size, size_t __n, FILE *__restrict __s);",
    "extern int fseek (FILE *__stream, long int __off, int __whence);",
    "extern long int ftell (FILE *__stream) __wur;",
    "extern void rewind (FILE *__stream);",
    "#if defined __USE_LARGEFILE || defined __USE_XOPEN2K",
    "extern int fseeko (FILE *__stream, __off_t __off, int __whence);",
    "extern __off_t ftello (FILE *__stream) __wur;",
    "#endif",
    "extern int fgetpos (FILE *__restrict __stream, fpos_t *__restrict __pos);",
    "extern int fsetpos (FILE *__stream, const fpos_t *__pos);",
    "extern void clearerr (FILE *__stream) __THROW;",
    "extern int feof (FILE *__stream) __THROW __wur;",
    "extern int ferror (FILE *__stream) __THROW __wur;",
    "#ifdef __USE_MISC",
    "extern void clearerr_unlocked (FILE *__stream) __THROW;",
    "extern int feof_unlocked (FILE *__stream) __THROW __wur;",
    "extern int ferror_unlocked (FILE *__stream) __THROW __wur;",
    "#endif",
    "extern void perror (const char *__s);",
    "#ifdef __USE_POSIX",
    "extern int fileno (FILE *__stream) __THROW __wur;",
    "#endif",
    "#ifdef __USE_MISC",
    "extern int fileno_unlocked (FILE *__stream) __THROW __wur;",
    "#endif",
    "#ifdef __USE_POSIX2",
    "extern int pclose (FILE *__stream);",
    "extern FILE *popen (const char *__command, const char *__modes) __wur;",
    "#endif",
    "#ifdef __USE_POSIX",
    "extern char *ctermid (char *__s) __THROW;",
    "#endif",
    "#ifdef __USE_POSIX199506",
    "extern void flockfile (FILE *__stream) __THROW;",
    "extern int ftrylockfile (FILE *__stream) __THROW __wur;",
    "extern void funlockfile (FILE *__stream) __THROW;",
    "#endif",
    "extern int __uflow (FILE *);",
    "extern int __overflow (FILE *, int);",
    "#endif"]

/-- The text of `<stdlib.h>`. -/
def stdlibText : String :=
  ofLines [
    "#ifndef _STDLIB_H",
    "#define _STDLIB_H 1",
    "#include <features.h>",
    "#define __need_size_t",
    "#define __need_wchar_t",
    "#define __need_NULL",
    "#include <stddef.h>",
    "#define _STDLIB_H 1",
    "#if (defined __USE_XOPEN || defined __USE_XOPEN2K8) && !defined _SYS_WAIT_H",
    "# define WEXITSTATUS(status) (((status) & 0xff00) >> 8)",
    "# define WTERMSIG(status) ((status) & 0x7f)",
    "# define WSTOPSIG(status) WEXITSTATUS(status)",
    "# define WIFEXITED(status) (WTERMSIG(status) == 0)",
    "# define WIFSIGNALED(status) (((signed char) (((status) & 0x7f) + 1) >> 1) > 0)",
    "# define WIFSTOPPED(status) (((status) & 0xff) == 0x7f)",
    "# define WNOHANG 1",
    "# define WUNTRACED 2",
    "#endif",
    "typedef struct \x7b int quot; int rem; \x7d div_t;",
    "#ifndef __ldiv_t_defined",
    "typedef struct \x7b long int quot; long int rem; \x7d ldiv_t;",
    "# define __ldiv_t_defined 1",
    "#endif",
    "#if defined __USE_ISOC99 && !defined __lldiv_t_defined",
    "__extension__ typedef struct \x7b long long int quot; long long int rem; \x7d lldiv_t;",
    "# define __lldiv_t_defined 1",
    "#endif",
    "#define RAND_MAX 2147483647",
    "#define EXIT_FAILURE 1",
    "#define EXIT_SUCCESS 0",
    "#define MB_CUR_MAX (__ctype_get_mb_cur_max ())",
    "extern size_t __ctype_get_mb_cur_max (void) __THROW __wur;",
    "extern double atof (const char *__nptr) __THROW __attribute_pure__ __nonnull ((1)) __wur;",
    "extern int atoi (const char *__nptr) __THROW __attribute_pure__ __nonnull ((1)) __wur;",
    "extern long int atol (const char *__nptr) __THROW __attribute_pure__ __nonnull ((1)) __wur;",
    "#ifdef __USE_ISOC99",
    "__extension__ extern long long int atoll (const char *__nptr) __THROW __attribute_pure__ __nonnull ((1)) __wur;",
    "#endif",
    "extern double strtod (const char *__restrict __nptr, char **__restrict __endptr) __THROW __nonnull ((1));",
    "#ifdef __USE_ISOC99",
    "extern float strtof (const char *__restrict __nptr, char **__restrict __endptr) __THROW __nonnull ((1));",
    "extern long double strtold (const char *__restrict __nptr, char **__restrict __endptr) __THROW __nonnull ((1));",
    "#endif",
    "extern long int strtol (const char *__restrict __nptr, char **__restrict __endptr, int __base) __THROW __nonnull ((1));",
    "extern unsigned long int strtoul (const char *__restrict __nptr, char **__restrict __endptr, int __base) __THROW __nonnull ((1));",
    "#ifdef __USE_MISC",
    "__extension__ extern long long int strtoq (const char *__restrict __nptr, char **__restrict __endptr, int __base) __THROW __nonnull ((1));",
    "__extension__ extern unsigned long long int strtouq (const char *__restrict __nptr, char **__restrict __endptr, int __base) __THROW __nonnull ((1));",
    "#endif",
    "#ifdef __USE_ISOC99",
    "__extension__ extern long long int strtoll (const char *__restrict __nptr, char **__restrict __endptr, int __base) __THROW __nonnull ((1));",
    "__extension__ extern unsigned long long int strtoull (const char *__restrict __nptr, char **__restrict __endptr, int __base) __THROW __nonnull ((1));",
    "#endif",
    "#if defined __USE_MISC || defined __USE_XOPEN_EXTENDED",
    "extern char *l64a (long int __n) __THROW __wur;",
    "extern long int a64l (const char *__s) __THROW __attribute_pure__ __nonnull ((1)) __wur;",
    "#endif",
    "#if defined __USE_MISC || defined __USE_XOPEN_EXTENDED",
    "# include <sys/types.h>",
    "extern long int random (void) __THROW;",
    "extern void srandom (unsigned int __seed) __THROW;",
    "extern char *initstate (unsigned int __seed, char *__statebuf, size_t __statelen) __THROW __nonnull ((2));",
    "extern char *setstate (char *__statebuf) __THROW __nonnull ((1));",
    "#endif",
    "extern int rand (void) __THROW;",
    "extern void srand (unsigned int __seed) __THROW;",
    "#ifdef __USE_POSIX199506",
    "extern int rand_r (unsigned int *__seed) __THROW;",
    "#endif",
    "#if defined __USE_MISC || defined __USE_XOPEN",
    "extern double drand48 (void) __THROW;",
    "extern double erand48 (unsigned short int __xsubi[3]) __THROW __nonnull ((1));",
    "extern long int lrand48 (void) __THROW;",
    "extern long int nrand48 (unsigned short int __xsubi[3]) __THROW __nonnull ((1));",
    "extern long int mrand48 (void) __THROW;",
    "extern long int jrand48 (unsigned short int __xsubi[3]) __THROW __nonnull ((1));",
    "extern void srand48 (long int __seedval) __THROW;",
    "extern unsigned short int *seed48 (unsigned short int __seed16v[3]) __THROW __nonnull ((1));",
    "extern void lcong48 (unsigned short int __param[7]) __THROW __nonnull ((1));",
    "#endif",
    "extern void *malloc (size_t __size) __THROW __attribute_malloc__ __attribute_alloc_size__ ((1)) __wur;",
    "extern void *calloc (size_t __nmemb, size_t __size) __THROW __attribute_malloc__ __attribute_alloc_size__ ((1, 2)) __wur;",
    "extern void *realloc (void *__ptr, size_t __size) __THROW __attribute_warn_unused_result__ __attribute_alloc_size__ ((2));",
    "extern void free (void *__ptr) __THROW;",
    "#ifdef __USE_MISC",
    "extern void *reallocarray (void *__ptr, size_t __nmemb, size_t __size) __THROW __attribute_warn_unused_result__ __attribute_alloc_size__ ((2, 3));",
    "#endif",
    "#ifdef __USE_MISC",
    "# include <alloca.h>",
    "#endif",
    "#if (defined __USE_XOPEN_EXTENDED && !defined __USE_XOPEN2K) || defined __USE_MISC",
    "extern void *valloc (size_t __size) __THROW __attribute_malloc__ __attribute_alloc_size__ ((1)) __wur;",
    "#endif",
    "#ifdef __USE_XOPEN2K",
    "extern int posix_memalign (void **__memptr, size_t __alignment, size_t __size) __THROW __nonnull ((1)) __wur;",
    "#endif",
    "#ifdef __USE_ISOC11",
    "extern void *aligned_alloc (size_t __alignment, size_t __size) __THROW __attribute_malloc__ __attribute_alloc_align__ ((1)) __attribute_alloc_size__ ((2)) __wur;",
    "#endif",
    "extern void abort (void) __THROW __attribute__ ((__noreturn__));",
    "extern int atexit (void (*__func) (void)) __THROW __nonnull ((1));",
    "#ifdef __USE_ISOC11",
    "extern int at_quick_exit (void (*__func) (void)) __THROW __nonnull ((1));",
    "#endif",
    "extern void exit (int __status) __THROW __attribute__ ((__noreturn__));",
    "#ifdef __USE_ISOC11",
    "extern void quick_exit (int __status) __THROW __attribute__ ((__noreturn__));",
    "#endif",
    "#ifdef __USE_ISOC99",
    "extern void _Exit (int __status) __THROW __attribute__ ((__noreturn__));",
    "#endif",
    "extern char *getenv (const char *__name) __THROW __nonnull ((1)) __wur;",
    "#if defined __USE_MISC || defined __USE_XOPEN",
    "extern int putenv (char *__string) __THROW __nonnull ((1));",
    "#endif",
    "#ifdef __USE_XOPEN2K",
    "extern int setenv (const char *__name, const char *__value, int __replace) __THROW __nonnull ((2));",
    "extern int unsetenv (const char *__name) __THROW __nonnull ((1));",
    "#endif",
    "#ifdef __USE_MISC",
    "extern int clearenv (void) __THROW;",
    "#endif",
    "#if defined __USE_MISC || (defined __USE_XOPEN_EXTENDED && !defined __USE_XOPEN2K8)",
    "extern char *mktemp (char *__template) __THROW __nonnull ((1));",
    "#endif",
    "#if defined __USE_XOPEN_EXTENDED || defined __USE_XOPEN2K8",
    "extern int mkstemp (char *__template) __nonnull ((1)) __wur;",
    "#endif",
    "#ifdef __USE_XOPEN2K8",
    "extern char *mkdtemp (char *__template) __THROW __nonnull ((1)) __wur;",
    "#endif",
    "extern int system (const char *__command) __wur;",
    "#if defined __USE_MISC || defined __USE_XOPEN_EXTENDED",
    "extern char *realpath (const char *__restrict __name, char *__restrict __resolved) __THROW __wur;",
    "#endif",
    "#ifndef __COMPAR_FN_T",
    "# define __COMPAR_FN_T",
    "typedef int (*__compar_fn_t) (const void *, const void *);",
    "#endif",
    "extern void *bsearch (const void *__key, const void *__base, size_t __nmemb, size_t __size, __compar_fn_t __compar) __nonnull ((1, 2, 5)) __wur;",
    "extern void qsort (void *__base, size_t __nmemb, size_t __size, __compar_fn_t __compar) __nonnull ((1, 4));",
    "extern int abs (int __x) __THROW __attribute__ ((__const__)) __wur;",
    "extern long int labs (long int __x) __THROW __attribute__ ((__const__)) __wur;",
    "#ifdef __USE_ISOC99",
    "__extension__ extern long long int llabs (long long int __x) __THROW __attribute__ ((__const__)) __wur;",
    "#endif",
    "extern div_t div (int __numer, int __denom) __THROW __attribute__ ((__const__)) __wur;",
    "extern ldiv_t ldiv (long int __numer, long int __denom) __THROW __attribute__ ((__const__)) __wur;",
    "#ifdef __USE_ISOC99",
    "__extension__ extern lldiv_t lldiv (long long int __numer, long long int __denom) __THROW __attribute__ ((__const__)) __wur;",
    "#endif",
    "#if (defined __USE_XOPEN_EXTENDED && !defined __USE_XOPEN2K8) || defined __USE_MISC",
    "extern char *ecvt (double __value, int __ndigit, int *__restrict __decpt, int *__restrict __sign) __THROW __nonnull ((3, 4)) __wur;",
    "extern char *fcvt (double __value, int __ndigit, int *__restrict __decpt, int *__restrict __sign) __THROW __nonnull ((3, 4)) __wur;",
    "extern char *gcvt (double __value, int __ndigit, char *__buf) __THROW __nonnull ((3)) __wur;",
    "#endif",
    "extern int mblen (const char *__s, size_t __n) __THROW;",
    "extern int mbtowc (wchar_t *__restrict __pwc, const char *__restrict __s, size_t __n) __THROW;",
    "extern int wctomb (char *__s, wchar_t __wchar) __THROW;",
    "extern size_t mbstowcs (wchar_t *__restrict __pwcs, const char *__restrict __s, size_t __n) __THROW;",
    "extern size_t wcstombs (char *__restrict __s, const wchar_t *__restrict __pwcs, size_t __n) __THROW;",
    "#ifdef __USE_MISC",
    "extern int getloadavg (double __loadavg[], int __nelem) __THROW __nonnull ((1));",
    "#endif",
    "#endif"]

/-- The text of `<string.h>`. -/
def stringText : String :=
  ofLines [
    "#ifndef _STRING_H",
    "#define _STRING_H 1",
    "#include <features.h>",
    "#define __need_size_t",
    "#define __need_NULL",
    "#include <stddef.h>",
    "extern void *memcpy (void *__restrict __dest, const void *__restrict __src, size_t __n) __THROW __nonnull ((1, 2));",
    "extern void *memmove (void *__dest, const void *__src, size_t __n) __THROW __nonnull ((1, 2));",
    "#if defined __USE_MISC || defined __USE_XOPEN || __GLIBC_USE (ISOC2X)",
    "extern void *memccpy (void *__restrict __dest, const void *__restrict __src, int __c, size_t __n) __THROW __nonnull ((1, 2));",
    "#endif",
    "extern void *memset (void *__s, int __c, size_t __n) __THROW __nonnull ((1));",
    "extern int memcmp (const void *__s1, const void *__s2, size_t __n) __THROW __attribute_pure__ __nonnull ((1, 2));",
    "#ifdef __USE_MISC",
    "extern int __memcmpeq (const void *__s1, const void *__s2, size_t __n) __THROW __attribute_pure__ __nonnull ((1, 2));",
    "#endif",
    "extern void *memchr (const void *__s, int __c, size_t __n) __THROW __attribute_pure__ __nonnull ((1));",
    "#ifdef __USE_GNU",
    "extern void *rawmemchr (const void *__s, int __c) __THROW __attribute_pure__ __nonnull ((1));",
    "extern void *memrchr (const void *__s, int __c, size_t __n) __THROW __attribute_pure__ __nonnull ((1));",
    "#endif",
    "extern char *strcpy (char *__restrict __dest, const char *__restrict __src) __THROW __nonnull ((1, 2));",
    "extern char *strncpy (char *__restrict __dest, const char *__restrict __src, size_t __n) __THROW __nonnull ((1, 2));",
    "extern char *strcat (char *__restrict __dest, const char *__restrict __src) __THROW __nonnull ((1, 2));",
    "extern char *strncat (char *__restrict __dest, const char *__restrict __src, size_t __n) __THROW __nonnull ((1, 2));",
    "extern int strcmp (const char *__s1, const char *__s2) __THROW __attribute_pure__ __nonnull ((1, 2));",
    "extern int strncmp (const char *__s1, const char *__s2, size_t __n) __THROW __attribute_pure__ __nonnull ((1, 2));",
    "extern int strcoll (const char *__s1, const char *__s2) __THROW __attribute_pure__ __nonnull ((1, 2));",
    "extern size_t strxfrm (char *__restrict __dest, const char *__restrict __src, size_t __n) __THROW __nonnull ((2));",
    "#if (defined __USE_XOPEN_EXTENDED || defined __USE_XOPEN2K8 || __GLIBC_USE (LIB_EXT2) || __GLIBC_USE (ISOC2X))",
    "extern char *strdup (const char *__s) __THROW __attribute_malloc__ __nonnull ((1));",
    "#endif",
    "#if defined __USE_XOPEN2K8 || __GLIBC_USE (LIB_EXT2) || __GLIBC_USE (ISOC2X)",
    "extern char *strndup (const char *__string, size_t __n) __THROW __attribute_malloc__ __nonnull ((1));",
    "#endif",
    "extern char *strchr (const char *__s, int __c) __THROW __attribute_pure__ __nonnull ((1));",
    "extern char *strrchr (const char *__s, int __c) __THROW __attribute_pure__ __nonnull ((1));",
    "#ifdef __USE_GNU",
    "extern char *strchrnul (const char *__s, int __c) __THROW __attribute_pure__ __nonnull ((1));",
    "#endif",
    "extern size_t strcspn (const char *__s, const char *__reject) __THROW __attribute_pure__ __nonnull ((1, 2));",
    "extern size_t strspn (const char *__s, const char *__accept) __THROW __attribute_pure__ __nonnull ((1, 2));",
    "extern char *strpbrk (const char *__s, const char *__accept) __THROW __attribute_pure__ __nonnull ((1, 2));",
    "extern char *strstr (const char *__haystack, const char *__needle) __THROW __attribute_pure__ __nonnull ((1, 2));",
    "extern char *strtok (char *__restrict __s, const char *__restrict __delim) __THROW __nonnull ((2));",
    "extern char *__strtok_r (char *__restrict __s, const char *__restrict __delim, char **__restrict __save_ptr) __THROW __nonnull ((2, 3));",
    "#ifdef __USE_POSIX",
    "extern char *strtok_r (char *__restrict __s, const char *__restrict __delim, char **__restrict __save_ptr) __THROW __nonnull ((2, 3));",
    "#endif",
    "#ifdef __USE_GNU",
    "extern char *strcasestr (const char *__haystack, const char *__needle) __THROW __attribute_pure__ __nonnull ((1, 2));",
    "extern void *memmem (const void *__haystack, size_t __haystacklen, const void *__needle, size_t __needlelen) __THROW __attribute_pure__ __nonnull ((1, 3));",
    "extern void *__mempcpy (void *__restrict __dest, const void *__restrict __src, size_t __n) __THROW __nonnull ((1, 2));",
    "extern void *mempcpy (void *__restrict __dest, const void *__restrict __src, size_t __n) __THROW __nonnull ((1, 2));",
    "#endif",
    "extern size_t strlen (const char *__s) __THROW __attribute_pure__ __nonnull ((1));",
    "#ifdef __USE_XOPEN2K8",
    "extern size_t strnlen (const char *__string, size_t __maxlen) __THROW __attribute_pure__ __nonnull ((1));",
    "#endif",
    "extern char *strerror (int __errnum) __THROW;",
    "#ifdef __USE_XOPEN2K",
    "# if defined __USE_XOPEN2K && !defined __USE_GNU",
    "extern int strerror_r (int __errnum, char *__buf, size_t __buflen) __THROW __nonnull ((2));",
    "# else",
    "extern char *strerror_r (int __errnum, char *__buf, size_t __buflen) __THROW __nonnull ((2)) __wur;",
    "# endif",
    "#endif",
    "#ifdef __USE_XOPEN2K8",
    "extern char *strerror_l (int __errnum, void *__l) __THROW;",
    "#endif",
    "#ifdef __USE_MISC",
    "# include <strings.h>",
    "extern void explicit_bzero (void *__s, size_t __n) __THROW __nonnull ((1));",
    "extern char *strsep (char **__restrict __stringp, const char *__restrict __delim) __THROW __nonnull ((1, 2));",
    "#endif",
    "#ifdef __USE_XOPEN2K8",
    "extern char *strsignal (int __sig) __THROW;",
    "extern char *__stpcpy (char *__restrict __dest, const char *__restrict __src) __THROW __nonnull ((1, 2));",
    "extern char *stpcpy (char *__restrict __dest, const char *__restrict __src) __THROW __nonnull ((1, 2));",
    "extern char *__stpncpy (char *__restrict __dest, const char *__restrict __src, size_t __n) __THROW __nonnull ((1, 2));",
    "extern char *stpncpy (char *__restrict __dest, const char *__restrict __src, size_t __n) __THROW __nonnull ((1, 2));",
    "#endif",
    "#ifdef __USE_GNU",
    "extern int strverscmp (const char *__s1, const char *__s2) __THROW __attribute_pure__ __nonnull ((1, 2));",
    "extern char *strfry (char *__string) __THROW __nonnull ((1));",
    "extern void *memfrob (void *__s, size_t __n) __THROW __nonnull ((1));",
    "extern char *basename (const char *__filename) __THROW __nonnull ((1));",
    "#endif",
    "#endif"]

/-- The text of `<strings.h>`. -/
def stringsText : String :=
  ofLines [
    "#ifndef _STRINGS_H",
    "#define _STRINGS_H 1",
    "#include <features.h>",
    "#define __need_size_t",
    "#include <stddef.h>",
    "#if defined __USE_MISC || !defined __USE_XOPEN2K8",
    "extern int bcmp (const void *__s1, const void *__s2, size_t __n) __THROW __attribute_pure__ __nonnull ((1, 2));",
    "extern void bcopy (const void *__src, void *__dest, size_t __n) __THROW __nonnull ((1, 2));",
    "extern void bzero (void *__s, size_t __n) __THROW __nonnull ((1));",
    "extern char *index (const char *__s, int __c) __THROW __attribute_pure__ __nonnull ((1));",
    "extern char *rindex (const char *__s, int __c) __THROW __attribute_pure__ __nonnull ((1));",
    "#endif",
    "#if defined __USE_MISC || !defined __USE_XOPEN2K8 || defined __USE_XOPEN2K8XSI",
    "extern int ffs (int __i) __THROW __attribute_const__;",
    "#endif",
    "#ifdef __USE_MISC",
    "extern int ffsl (long int __l) __THROW __attribute_const__;",
    "__extension__ extern int ffsll (long long int __ll) __THROW __attribute_const__;",
    "#endif",
    "extern int strcasecmp (const char *__s1, const char *__s2) __THROW __attribute_pure__ __nonnull ((1, 2));",
    "extern int strncasecmp (const char *__s1, const char *__s2, size_t __n) __THROW __attribute_pure__ __nonnull ((1, 2));",
    "#endif"]

/-- The text of the runtime header. -/
def cexiText : String :=
  ofLines [
    "#ifndef CEXI_H",
    "#define CEXI_H",
    "#include <limits.h>",
    "#include <stdarg.h>",
    "#include <stddef.h>",
    "#include <stdint.h>",
    "#include <stdio.h>",
    "#include <stdlib.h>",
    "#include <string.h>",
    "#include <sys/types.h>",
    "#if defined(_WIN32)",
    "#define CX_EXPORT __declspec(dllexport)",
    "#else",
    "#define CX_EXPORT __attribute__((visibility(\"default\")))",
    "#endif",
    "typedef ptrdiff_t cx_ssize_t;",
    "enum \x7b",
    "CX_NONE = 0,",
    "CX_BOOL = 1,",
    "CX_INT = 2,",
    "CX_FLOAT = 3,",
    "CX_STR = 4,",
    "CX_TUPLE = 5,",
    "CX_CALLABLE = 6,",
    "CX_ERROR = 7,",
    "CX_MODULE = 8",
    "\x7d;",
    "#define CX_METH_VARARGS 0x0001",
    "typedef struct cx_object cx_object;",
    "typedef cx_object* (*cx_cfunction)(cx_object* self, cx_object* args);",
    "typedef uintptr_t (*cx_trampoline)(uintptr_t handle, uintptr_t args);",
    "struct cx_object \x7b",
    "int kind;",
    "long refcnt;",
    "long long i;",
    "double d;",
    "char* s;",
    "cx_ssize_t n;",
    "cx_object** items;",
    "cx_trampoline call;",
    "uintptr_t handle;",
    "int is_unsigned;",
    "\x7d;",
    "static cx_object cx_type_error_s = \x7b CX_ERROR, -1, 0, 0.0, (char*)\"TypeError\", 0, NULL, NULL, 0 \x7d;",
    "static cx_object cx_value_error_s = \x7b CX_ERROR, -1, 0, 0.0, (char*)\"ValueError\", 0, NULL, NULL, 0 \x7d;",
    "static cx_object cx_import_error_s = \x7b CX_ERROR, -1, 0, 0.0, (char*)\"ImportError\", 0, NULL, NULL, 0 \x7d;",
    "static cx_object cx_memory_error_s = \x7b CX_ERROR, -1, 0, 0.0, (char*)\"MemoryError\", 0, NULL, NULL, 0 \x7d;",
    "static cx_object cx_runtime_error_s = \x7b CX_ERROR, -1, 0, 0.0, (char*)\"RuntimeError\", 0, NULL, NULL, 0 \x7d;",
    "static cx_object cx_overflow_error_s = \x7b CX_ERROR, -1, 0, 0.0, (char*)\"OverflowError\", 0, NULL, NULL, 0 \x7d;",
    "#define cx_TypeError (&cx_type_error_s)",
    "#define cx_ValueError (&cx_value_error_s)",
    "#define cx_ImportError (&cx_import_error_s)",
    "#define cx_MemoryError (&cx_memory_error_s)",
    "#define cx_RuntimeError (&cx_runtime_error_s)",
    "#define cx_OverflowError (&cx_overflow_error_s)",
    "static _Thread_local cx_object* cx_err_type = NULL;",
    "static _Thread_local char cx_err_buf[1024];",
    "static _Thread_local int cx_err_flag = 0;",
    "CX_EXPORT void cx_err_set(cx_object* type, const char* msg);",
    "static void cx_err_format(cx_object* type, const char* fmt, ...);",
    "CX_EXPORT void cx_err_set_string(const char* msg);",
    "CX_EXPORT int cx_err_occurred(void);",
    "CX_EXPORT const char* cx_err_message(void);",
    "CX_EXPORT const char* cx_err_name(void);",
    "CX_EXPORT void cx_err_clear(void);",
    "CX_EXPORT void cx_incref(cx_object* o);",
    "CX_EXPORT void cx_decref(cx_object* o);",
    "static char* cx_strdup(const char* s);",
    "static cx_object cx_none_s = \x7b CX_NONE, -1, 0, 0.0, NULL, 0, NULL, NULL, 0 \x7d;",
    "static cx_object* cx_alloc(int kind);",
    "CX_EXPORT cx_object* cx_none(void);",
    "CX_EXPORT cx_object* cx_new_bool(int v);",
    "CX_EXPORT cx_object* cx_new_int(long long v);",
    "CX_EXPORT cx_object* cx_new_uint(unsigned long long v);",
    "CX_EXPORT cx_object* cx_new_float(double v);",
    "CX_EXPORT cx_object* cx_new_str(const char* v);",
    "CX_EXPORT cx_object* cx_new_tuple(cx_ssize_t n);",
    "CX_EXPORT int cx_tuple_set(cx_object* t, cx_ssize_t i, cx_object* item);",
    "CX_EXPORT cx_object* cx_tuple_get(cx_object* t, cx_ssize_t i);",
    "CX_EXPORT cx_ssize_t cx_tuple_size(cx_object* t);",
    "CX_EXPORT cx_object* cx_new_callable(uintptr_t call, uintptr_t handle);",
    "CX_EXPORT cx_object* cx_err_new_exception(const char* name);",
    "CX_EXPORT int cx_kind(cx_object* o);",
    "CX_EXPORT long long cx_as_int(cx_object* o);",
    "CX_EXPORT int cx_int_is_unsigned(cx_object* o);",
    "CX_EXPORT double cx_as_float(cx_object* o);",
    "CX_EXPORT const char* cx_as_str(cx_object* o);",
    "CX_EXPORT int cx_callable_check(cx_object* o);",
    "CX_EXPORT uintptr_t cx_callable_handle(cx_object* o);",
    "static int cx_truthy(cx_object* o);",
    "static cx_ssize_t cx_format_count(const char* format);",
    "static const char* cx_format_name(const char* format);",
    "static cx_object* cx_build_one(char code, va_list* ap);",
    "static cx_object* cx_vbuild(const char* format, va_list* ap, int always_tuple);",
    "CX_EXPORT cx_object* cx_build_value(const char* format, ...);",
    "CX_EXPORT cx_object* cx_build_tuple(const char* format, ...);",
    "static int cx_expect_int(cx_object* o, long long* v, const char* fname);",
    "static int cx_expect_range(cx_object* o, long long* v, long long lo, long long hi, const char* what, const char* fname);",
    "static int cx_expect_float(cx_object* o, double* v, const char* fname);",
    "static int cx_parse_one(cx_object* item, char code, va_list* ap, const char* fname);",
    "CX_EXPORT int cx_parse_tuple(cx_object* args, const char* format, ...);",
    "CX_EXPORT cx_object* cx_call_object(cx_object* callable, cx_object* args);",
    "CX_EXPORT cx_object* cx_call_function(cx_object* callable, const char* format, ...);",
    "CX_EXPORT cx_object* cx_call(uintptr_t fn, cx_object* self, cx_object* args);",
    "typedef struct cx_method_def \x7b",
    "const char* name;",
    "cx_cfunction meth;",
    "int flags;",
    "const char* doc;",
    "\x7d cx_method_def;",
    "typedef struct cx_module_def \x7b",
    "const char* name;",
    "const char* doc;",
    "cx_method_def* methods;",
    "\x7d cx_module_def;",
    "typedef struct cx_module \x7b",
    "cx_object head;",
    "cx_module_def* def;",
    "cx_object* error;",
    "unsigned long long revision;",
    "int has_revision;",
    "\x7d cx_module;",
    "static cx_module* cx_module_create(cx_module_def* def);",
    "static int cx_module_add_error(cx_module* m, cx_object* error);",
    "static void cx_module_free(cx_module* m);",
    "static void cx_module_set_revision(cx_module* m, unsigned long long revision);",
    "static cx_method_def* cx_module_find(cx_module* m, const char* name);",
    "CX_EXPORT uintptr_t cx_module_lookup(cx_module* m, const char* name);",
    "CX_EXPORT int cx_module_method_flags(cx_module* m, const char* name);",
    "CX_EXPORT const char* cx_module_method_doc(cx_module* m, const char* name);",
    "CX_EXPORT const char* cx_module_name(cx_module* m);",
    "CX_EXPORT const char* cx_module_error_name(cx_module* m);",
    "CX_EXPORT int cx_module_has_revision(cx_module* m);",
    "CX_EXPORT unsigned long long cx_module_revision(cx_module* m);",
    "#endif"]

end InlineC.Lang.Header
