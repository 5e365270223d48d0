/-!
# Header texts: core

The texts of the language support headers and the type and feature headers every other one includes, as the
compiler reads them when a source includes them by name.
-/

namespace InlineC.Lang.Header

/-- The text of a file of these lines, each ended by a newline. -/
def ofLines (ls : List String) : String := String.join (ls.map (· ++ "\n"))

/-- The text of `<stdc-predef.h>`. -/
def stdcPredefText : String :=
  ofLines [
    "#ifndef _STDC_PREDEF_H",
    "#define _STDC_PREDEF_H 1",
    "#ifdef __GCC_IEC_559",
    "# if __GCC_IEC_559 > 0",
    "#  define __STDC_IEC_559__ 1",
    "#  define __STDC_IEC_60559_BFP__ 201404L",
    "# endif",
    "#else",
    "# define __STDC_IEC_559__ 1",
    "# define __STDC_IEC_60559_BFP__ 201404L",
    "#endif",
    "#ifdef __GCC_IEC_559_COMPLEX",
    "# if __GCC_IEC_559_COMPLEX > 0",
    "#  define __STDC_IEC_559_COMPLEX__ 1",
    "#  define __STDC_IEC_60559_COMPLEX__ 201404L",
    "# endif",
    "#else",
    "# define __STDC_IEC_559_COMPLEX__ 1",
    "# define __STDC_IEC_60559_COMPLEX__ 201404L",
    "#endif",
    "#define __STDC_ISO_10646__ 201706L",
    "#endif"]

/-- The text of `<features.h>`. -/
def featuresText : String :=
  ofLines [
    "#ifndef _FEATURES_H",
    "#define _FEATURES_H 1",
    "#undef __USE_ISOC11",
    "#undef __USE_ISOC99",
    "#undef __USE_ISOC95",
    "#undef __USE_POSIX",
    "#undef __USE_POSIX2",
    "#undef __USE_POSIX199309",
    "#undef __USE_POSIX199506",
    "#undef __USE_XOPEN",
    "#undef __USE_XOPEN_EXTENDED",
    "#undef __USE_UNIX98",
    "#undef __USE_XOPEN2K",
    "#undef __USE_XOPEN2KXSI",
    "#undef __USE_XOPEN2K8",
    "#undef __USE_XOPEN2K8XSI",
    "#undef __USE_LARGEFILE",
    "#undef __USE_LARGEFILE64",
    "#undef __USE_MISC",
    "#undef __USE_ATFILE",
    "#undef __USE_GNU",
    "#undef __KERNEL_STRICT_NAMES",
    "#define __GNUC_PREREQ(maj, min) ((__GNUC__ << 16) + __GNUC_MINOR__ >= ((maj) << 16) + (min))",
    "#define __glibc_clang_prereq(maj, min) 0",
    "#ifdef _GNU_SOURCE",
    "# undef _ISOC95_SOURCE",
    "# define _ISOC95_SOURCE 1",
    "# undef _ISOC99_SOURCE",
    "# define _ISOC99_SOURCE 1",
    "# undef _ISOC11_SOURCE",
    "# define _ISOC11_SOURCE 1",
    "# undef _POSIX_SOURCE",
    "# define _POSIX_SOURCE 1",
    "# undef _POSIX_C_SOURCE",
    "# define _POSIX_C_SOURCE 200809L",
    "# undef _XOPEN_SOURCE",
    "# define _XOPEN_SOURCE 700",
    "# undef _XOPEN_SOURCE_EXTENDED",
    "# define _XOPEN_SOURCE_EXTENDED 1",
    "# undef _LARGEFILE64_SOURCE",
    "# define _LARGEFILE64_SOURCE 1",
    "# undef _DEFAULT_SOURCE",
    "# define _DEFAULT_SOURCE 1",
    "# undef _ATFILE_SOURCE",
    "# define _ATFILE_SOURCE 1",
    "#endif",
    "#if (defined _DEFAULT_SOURCE || (!defined __STRICT_ANSI__ && !defined _ISOC99_SOURCE && !defined _ISOC11_SOURCE && !defined _POSIX_SOURCE && !defined _POSIX_C_SOURCE && !defined _XOPEN_SOURCE))",
    "# undef _DEFAULT_SOURCE",
    "# define _DEFAULT_SOURCE 1",
    "#endif",
    "#if (defined _ISOC11_SOURCE || (defined __STDC_VERSION__ && __STDC_VERSION__ >= 201112L))",
    "# define __USE_ISOC11 1",
    "#endif",
    "#if (defined _ISOC99_SOURCE || defined _ISOC11_SOURCE || (defined __STDC_VERSION__ && __STDC_VERSION__ >= 199901L))",
    "# define __USE_ISOC99 1",
    "#endif",
    "#if (defined _ISOC99_SOURCE || defined _ISOC11_SOURCE || (defined __STDC_VERSION__ && __STDC_VERSION__ >= 199409L))",
    "# define __USE_ISOC95 1",
    "#endif",
    "#ifdef _DEFAULT_SOURCE",
    "# if !defined _POSIX_SOURCE && !defined _POSIX_C_SOURCE",
    "#  define __USE_POSIX_IMPLICITLY 1",
    "# endif",
    "# undef _POSIX_SOURCE",
    "# define _POSIX_SOURCE 1",
    "# undef _POSIX_C_SOURCE",
    "# define _POSIX_C_SOURCE 200809L",
    "#endif",
    "#if ((!defined __STRICT_ANSI__ || (defined _XOPEN_SOURCE && (_XOPEN_SOURCE - 0) >= 500)) && !defined _POSIX_SOURCE && !defined _POSIX_C_SOURCE)",
    "# define _POSIX_SOURCE 1",
    "# if defined _XOPEN_SOURCE && (_XOPEN_SOURCE - 0) < 500",
    "#  define _POSIX_C_SOURCE 2",
    "# elif defined _XOPEN_SOURCE && (_XOPEN_SOURCE - 0) < 600",
    "#  define _POSIX_C_SOURCE 199506L",
    "# elif defined _XOPEN_SOURCE && (_XOPEN_SOURCE - 0) < 700",
    "#  define _POSIX_C_SOURCE 200112L",
    "# else",
    "#  define _POSIX_C_SOURCE 200809L",
    "# endif",
    "# define __USE_POSIX_IMPLICITLY 1",
    "#endif",
    "#if (defined _POSIX_SOURCE || (defined _POSIX_C_SOURCE && _POSIX_C_SOURCE >= 1) || defined _XOPEN_SOURCE)",
    "# define __USE_POSIX 1",
    "#endif",
    "#if defined _POSIX_C_SOURCE && _POSIX_C_SOURCE >= 2 || defined _XOPEN_SOURCE",
    "# define __USE_POSIX2 1",
    "#endif",
    "#if defined _POSIX_C_SOURCE && (_POSIX_C_SOURCE - 0) >= 199309L",
    "# define __USE_POSIX199309 1",
    "#endif",
    "#if defined _POSIX_C_SOURCE && (_POSIX_C_SOURCE - 0) >= 199506L",
    "# define __USE_POSIX199506 1",
    "#endif",
    "#if defined _POSIX_C_SOURCE && (_POSIX_C_SOURCE - 0) >= 200112L",
    "# define __USE_XOPEN2K 1",
    "# undef __USE_ISOC95",
    "# define __USE_ISOC95 1",
    "# undef __USE_ISOC99",
    "# define __USE_ISOC99 1",
    "#endif",
    "#if defined _POSIX_C_SOURCE && (_POSIX_C_SOURCE - 0) >= 200809L",
    "# define __USE_XOPEN2K8 1",
    "# undef _ATFILE_SOURCE",
    "# define _ATFILE_SOURCE 1",
    "#endif",
    "#ifdef _XOPEN_SOURCE",
    "# define __USE_XOPEN 1",
    "# if (_XOPEN_SOURCE - 0) >= 500",
    "#  define __USE_XOPEN_EXTENDED 1",
    "#  define __USE_UNIX98 1",
    "#  undef _LARGEFILE_SOURCE",
    "#  define _LARGEFILE_SOURCE 1",
    "#  if (_XOPEN_SOURCE - 0) >= 600",
    "#   if (_XOPEN_SOURCE - 0) >= 700",
    "#    define __USE_XOPEN2K8 1",
    "#    define __USE_XOPEN2K8XSI 1",
    "#   endif",
    "#   define __USE_XOPEN2K 1",
    "#   define __USE_XOPEN2KXSI 1",
    "#   undef __USE_ISOC95",
    "#   define __USE_ISOC95 1",
    "#   undef __USE_ISOC99",
    "#   define __USE_ISOC99 1",
    "#  endif",
    "# else",
    "#  ifdef _XOPEN_SOURCE_EXTENDED",
    "#   define __USE_XOPEN_EXTENDED 1",
    "#  endif",
    "# endif",
    "#endif",
    "#ifdef _LARGEFILE_SOURCE",
    "# define __USE_LARGEFILE 1",
    "#endif",
    "#ifdef _LARGEFILE64_SOURCE",
    "# define __USE_LARGEFILE64 1",
    "#endif",
    "#if defined _DEFAULT_SOURCE",
    "# define __USE_MISC 1",
    "#endif",
    "#ifdef _ATFILE_SOURCE",
    "# define __USE_ATFILE 1",
    "#endif",
    "#ifdef _GNU_SOURCE",
    "# define __USE_GNU 1",
    "#endif",
    "#define __GNU_LIBRARY__ 6",
    "#define __GLIBC__ 2",
    "#define __GLIBC_MINOR__ 36",
    "#define __GLIBC_PREREQ(maj, min) ((__GLIBC__ << 16) + __GLIBC_MINOR__ >= ((maj) << 16) + (min))",
    "#define __GLIBC_USE(F) __GLIBC_USE_ ## F",
    "#define __GLIBC_USE_ISOC2X 0",
    "#define __GLIBC_USE_DEPRECATED_GETS 0",
    "#define __GLIBC_USE_DEPRECATED_SCANF 0",
    "#define __GLIBC_USE_LIB_EXT2 0",
    "#define __GLIBC_USE_IEC_60559_BFP_EXT 0",
    "#define __GLIBC_USE_IEC_60559_BFP_EXT_C2X 0",
    "#define __GLIBC_USE_IEC_60559_FUNCS_EXT 0",
    "#define __GLIBC_USE_IEC_60559_FUNCS_EXT_C2X 0",
    "#define __GLIBC_USE_IEC_60559_TYPES_EXT 0",
    "#include <sys/cdefs.h>",
    "#endif"]

/-- The text of `<sys/cdefs.h>`. -/
def sysCdefsText : String :=
  ofLines [
    "#ifndef _SYS_CDEFS_H",
    "#define _SYS_CDEFS_H 1",
    "#define __LEAF , __leaf__",
    "#define __LEAF_ATTR __attribute__ ((__leaf__))",
    "#define __THROW __attribute__ ((__nothrow__ __LEAF))",
    "#define __THROWNL __attribute__ ((__nothrow__))",
    "#define __NTH(fct) __attribute__ ((__nothrow__ __LEAF)) fct",
    "#define __NTHNL(fct) __attribute__ ((__nothrow__)) fct",
    "#define __P(args) args",
    "#define __PMT(args) args",
    "#define __CONCAT(x,y) x ## y",
    "#define __STRING(x) #x",
    "#define __ptr_t void *",
    "#define __BEGIN_DECLS",
    "#define __END_DECLS",
    "#define __bos(ptr) __builtin_object_size (ptr, 2 > 1)",
    "#define __bos0(ptr) __builtin_object_size (ptr, 0)",
    "#define __warnattr(msg) __attribute__((__warning__ (msg)))",
    "#define __errordecl(name, msg) extern void name (void) __attribute__((__error__ (msg)))",
    "#define __flexarr []",
    "#define __glibc_c99_flexarr_available 1",
    "#define __REDIRECT(name, proto, alias) name proto __asm__ (__ASMNAME (#alias))",
    "#define __REDIRECT_NTH(name, proto, alias) name proto __asm__ (__ASMNAME (#alias)) __THROW",
    "#define __REDIRECT_NTHNL(name, proto, alias) name proto __asm__ (__ASMNAME (#alias)) __THROWNL",
    "#define __ASMNAME(cname) __ASMNAME2 (__USER_LABEL_PREFIX__, cname)",
    "#define __ASMNAME2(prefix, cname) __STRING (prefix) cname",
    "#define __attribute_malloc__ __attribute__ ((__malloc__))",
    "#define __attribute_alloc_size__(params) __attribute__ ((__alloc_size__ params))",
    "#define __attribute_alloc_align__(param) __attribute__ ((__alloc_align__ param))",
    "#define __attribute_pure__ __attribute__ ((__pure__))",
    "#define __attribute_const__ __attribute__ ((__const__))",
    "#define __attribute_maybe_unused__ __attribute__ ((__unused__))",
    "#define __attribute_used__ __attribute__ ((__used__))",
    "#define __attribute_noinline__ __attribute__ ((__noinline__))",
    "#define __attribute_deprecated__ __attribute__ ((__deprecated__))",
    "#define __attribute_deprecated_msg__(msg) __attribute__ ((__deprecated__ (msg)))",
    "#define __attribute_format_arg__(x) __attribute__ ((__format_arg__ (x)))",
    "#define __attribute_format_strfmon__(a,b) __attribute__ ((__format__ (__strfmon__, a, b)))",
    "#define __attribute_nonnull__(params) __attribute__ ((__nonnull__ params))",
    "#define __nonnull(params) __attribute_nonnull__ (params)",
    "#define __returns_nonnull __attribute__ ((__returns_nonnull__))",
    "#define __attribute_warn_unused_result__ __attribute__ ((__warn_unused_result__))",
    "#define __wur",
    "#define __always_inline __inline __attribute__ ((__always_inline__))",
    "#define __attribute_artificial__ __attribute__ ((__artificial__))",
    "#define __extern_inline extern __inline __attribute__ ((__gnu_inline__))",
    "#define __extern_always_inline extern __always_inline __attribute__ ((__gnu_inline__))",
    "#define __fortify_function __extern_always_inline __attribute_artificial__",
    "#define __restrict_arr __restrict",
    "#define __glibc_unlikely(cond) __builtin_expect ((cond), 0)",
    "#define __glibc_likely(cond) __builtin_expect ((cond), 1)",
    "#define __attribute_nonstring__ __attribute__ ((__nonstring__))",
    "#define __attribute_copy__(arg) __attribute__ ((__copy__ (arg)))",
    "#define __LDOUBLE_REDIRECTS_TO_FLOAT128_ABI 0",
    "#define __LDBL_REDIR1(name, proto, alias) name proto",
    "#define __LDBL_REDIR(name, proto) name proto",
    "#define __LDBL_REDIR1_NTH(name, proto, alias) name proto __THROW",
    "#define __LDBL_REDIR_NTH(name, proto) name proto __THROW",
    "#define __REDIRECT_LDBL(name, proto, alias) __REDIRECT (name, proto, alias)",
    "#define __REDIRECT_NTH_LDBL(name, proto, alias) __REDIRECT_NTH (name, proto, alias)",
    "#define __glibc_macro_warning1(message) _Pragma (#message)",
    "#define __glibc_macro_warning(message) __glibc_macro_warning1 (GCC warning message)",
    "#define __HAVE_GENERIC_SELECTION 1",
    "#define __attr_access(x) __attribute__ ((__access__ x))",
    "#define __attr_access_none(argno) __attribute__ ((__access__ (__none__, argno)))",
    "#define __attr_dealloc(dealloc, argno) __attribute__ ((__malloc__ (dealloc, argno)))",
    "#define __attr_dealloc_free __attr_dealloc (__builtin_free, 1)",
    "#define __attribute_returns_twice__ __attribute__ ((__returns_twice__))",
    "#define __WORDSIZE 64",
    "#define __WORDSIZE_TIME64_COMPAT32 1",
    "#define __SYSCALL_WORDSIZE 64",
    "#define __TIMESIZE __WORDSIZE",
    "#define __glibc_has_attribute(attr) __has_attribute (attr)",
    "#define __glibc_has_builtin(name) __has_builtin (name)",
    "#define __glibc_has_extension(ext) 0",
    "#endif"]

/-- The text of `<bits/types.h>`. -/
def bitsTypesText : String :=
  ofLines [
    "#ifndef _BITS_TYPES_H",
    "#define _BITS_TYPES_H 1",
    "#include <features.h>",
    "typedef unsigned char __u_char;",
    "typedef unsigned short int __u_short;",
    "typedef unsigned int __u_int;",
    "typedef unsigned long int __u_long;",
    "typedef signed char __int8_t;",
    "typedef unsigned char __uint8_t;",
    "typedef signed short int __int16_t;",
    "typedef unsigned short int __uint16_t;",
    "typedef signed int __int32_t;",
    "typedef unsigned int __uint32_t;",
    "typedef signed long int __int64_t;",
    "typedef unsigned long int __uint64_t;",
    "typedef __int8_t __int_least8_t;",
    "typedef __uint8_t __uint_least8_t;",
    "typedef __int16_t __int_least16_t;",
    "typedef __uint16_t __uint_least16_t;",
    "typedef __int32_t __int_least32_t;",
    "typedef __uint32_t __uint_least32_t;",
    "typedef __int64_t __int_least64_t;",
    "typedef __uint64_t __uint_least64_t;",
    "typedef long int __quad_t;",
    "typedef unsigned long int __u_quad_t;",
    "typedef long int __intmax_t;",
    "typedef unsigned long int __uintmax_t;",
    "typedef unsigned long int __dev_t;",
    "typedef unsigned int __uid_t;",
    "typedef unsigned int __gid_t;",
    "typedef unsigned long int __ino_t;",
    "typedef unsigned long int __ino64_t;",
    "typedef unsigned int __mode_t;",
    "typedef unsigned long int __nlink_t;",
    "typedef long int __off_t;",
    "typedef long int __off64_t;",
    "typedef int __pid_t;",
    "typedef struct \x7b int __val[2]; \x7d __fsid_t;",
    "typedef long int __clock_t;",
    "typedef unsigned long int __rlim_t;",
    "typedef unsigned long int __rlim64_t;",
    "typedef unsigned int __id_t;",
    "typedef long int __time_t;",
    "typedef unsigned int __useconds_t;",
    "typedef long int __suseconds_t;",
    "typedef long int __suseconds64_t;",
    "typedef int __daddr_t;",
    "typedef int __key_t;",
    "typedef int __clockid_t;",
    "typedef void * __timer_t;",
    "typedef long int __blksize_t;",
    "typedef long int __blkcnt_t;",
    "typedef long int __blkcnt64_t;",
    "typedef unsigned long int __fsblkcnt_t;",
    "typedef unsigned long int __fsblkcnt64_t;",
    "typedef unsigned long int __fsfilcnt_t;",
    "typedef unsigned long int __fsfilcnt64_t;",
    "typedef long int __fsword_t;",
    "typedef long int __ssize_t;",
    "typedef long int __syscall_slong_t;",
    "typedef unsigned long int __syscall_ulong_t;",
    "typedef __off64_t __loff_t;",
    "typedef char *__caddr_t;",
    "typedef long int __intptr_t;",
    "typedef unsigned int __socklen_t;",
    "typedef int __sig_atomic_t;",
    "typedef struct \x7b int __count; union \x7b unsigned int __wch; char __wchb[4]; \x7d __value; \x7d __mbstate_t;",
    "typedef struct _G_fpos_t \x7b __off_t __pos; __mbstate_t __state; \x7d __fpos_t;",
    "typedef struct _G_fpos64_t \x7b __off64_t __pos; __mbstate_t __state; \x7d __fpos64_t;",
    "typedef struct _IO_FILE __FILE;",
    "typedef struct _IO_FILE FILE;",
    "typedef struct \x7b unsigned long int __val[(1024 / (8 * sizeof (unsigned long int)))]; \x7d __sigset_t;",
    "struct timespec \x7b __time_t tv_sec; __syscall_slong_t tv_nsec; \x7d;",
    "struct timeval \x7b __time_t tv_sec; __suseconds_t tv_usec; \x7d;",
    "typedef __builtin_va_list __gnuc_va_list;",
    "#define __FD_SETSIZE 1024",
    "#endif"]

/-- The text of `<bits/wchar.h>`. -/
def bitsWcharText : String :=
  ofLines [
    "#ifndef _BITS_WCHAR_H",
    "#define _BITS_WCHAR_H 1",
    "#ifdef __WCHAR_MAX__",
    "# define __WCHAR_MAX __WCHAR_MAX__",
    "#else",
    "# define __WCHAR_MAX (2147483647)",
    "#endif",
    "#ifdef __WCHAR_MIN__",
    "# define __WCHAR_MIN __WCHAR_MIN__",
    "#else",
    "# define __WCHAR_MIN (-__WCHAR_MAX - 1)",
    "#endif",
    "#endif"]

/-- The text of `<bits/pthreadtypes.h>`. -/
def bitsPthreadtypesText : String :=
  ofLines [
    "#ifndef _BITS_PTHREADTYPES_H",
    "#define _BITS_PTHREADTYPES_H 1",
    "typedef unsigned long int pthread_t;",
    "typedef union pthread_attr_t \x7b char __size[56]; long int __align; \x7d pthread_attr_t;",
    "typedef union \x7b struct \x7b int __lock; unsigned int __count; int __owner; unsigned int __nusers; int __kind; short __spins; short __elision; void *__prev, *__next; \x7d __data; char __size[40]; long int __align; \x7d pthread_mutex_t;",
    "typedef union \x7b char __size[4]; int __align; \x7d pthread_mutexattr_t;",
    "typedef union \x7b char __size[48]; __extension__ long long int __align; \x7d pthread_cond_t;",
    "typedef union \x7b char __size[4]; int __align; \x7d pthread_condattr_t;",
    "typedef unsigned int pthread_key_t;",
    "typedef int pthread_once_t;",
    "typedef union \x7b char __size[56]; long int __align; \x7d pthread_rwlock_t;",
    "typedef union \x7b char __size[8]; long int __align; \x7d pthread_rwlockattr_t;",
    "typedef volatile int pthread_spinlock_t;",
    "typedef union \x7b char __size[32]; long int __align; \x7d pthread_barrier_t;",
    "typedef union \x7b char __size[4]; int __align; \x7d pthread_barrierattr_t;",
    "#endif"]

/-- The text of `<stddef.h>`. -/
def stddefText : String :=
  ofLines [
    "#if !defined _STDDEF_H || defined __need_size_t || defined __need_NULL || defined __need_wchar_t || defined __need_ptrdiff_t",
    "#if !defined __need_size_t && !defined __need_NULL && !defined __need_wchar_t && !defined __need_ptrdiff_t",
    "#define _STDDEF_H",
    "#define _STDDEF_H_",
    "#define _ANSI_STDDEF_H",
    "#define __need_size_t",
    "#define __need_wchar_t",
    "#define __need_NULL",
    "#define __need_ptrdiff_t",
    "#define __stddef_full 1",
    "#endif",
    "#ifdef __need_ptrdiff_t",
    "#ifndef _PTRDIFF_T",
    "#define _PTRDIFF_T",
    "typedef __PTRDIFF_TYPE__ ptrdiff_t;",
    "#endif",
    "#undef __need_ptrdiff_t",
    "#endif",
    "#ifdef __need_size_t",
    "#ifndef __SIZE_T",
    "#define __SIZE_T",
    "#define _SIZE_T",
    "#define __size_t__",
    "#define __SIZE_T__",
    "#define _SIZE_T_DEFINED_",
    "#define _SIZE_T_DEFINED",
    "#define ___int_size_t_h",
    "#define _GCC_SIZE_T",
    "#define _SIZET_",
    "typedef __SIZE_TYPE__ size_t;",
    "#endif",
    "#undef __need_size_t",
    "#endif",
    "#ifdef __need_wchar_t",
    "#ifndef __WCHAR_T",
    "#define __WCHAR_T",
    "#define _WCHAR_T",
    "#define _T_WCHAR_",
    "#define _WCHAR_T_DEFINED_",
    "#define _WCHAR_T_DEFINED",
    "#define __wchar_t__",
    "typedef __WCHAR_TYPE__ wchar_t;",
    "#endif",
    "#undef __need_wchar_t",
    "#endif",
    "#ifdef __need_NULL",
    "#undef NULL",
    "#define NULL ((void *)0)",
    "#undef __need_NULL",
    "#endif",
    "#ifdef __stddef_full",
    "#undef __stddef_full",
    "#define offsetof(TYPE, MEMBER) __builtin_offsetof (TYPE, MEMBER)",
    "#if (defined (__STDC_VERSION__) && __STDC_VERSION__ >= 201112L) || !defined __STRICT_ANSI__",
    "#ifndef _GCC_MAX_ALIGN_T",
    "#define _GCC_MAX_ALIGN_T",
    "typedef struct \x7b",
    "long long __max_align_ll __attribute__((__aligned__(__alignof__(long long))));",
    "long double __max_align_ld __attribute__((__aligned__(__alignof__(long double))));",
    "\x7d max_align_t;",
    "#endif",
    "#endif",
    "#endif",
    "#endif"]

/-- The text of `<stdarg.h>`. -/
def stdargText : String :=
  ofLines [
    "#ifndef _STDARG_H",
    "#ifndef _ANSI_STDARG_H_",
    "#ifndef __need___va_list",
    "#define _STDARG_H",
    "#define _ANSI_STDARG_H_",
    "#endif",
    "#undef __need___va_list",
    "#ifndef __GNUC_VA_LIST",
    "#define __GNUC_VA_LIST",
    "typedef __builtin_va_list __gnuc_va_list;",
    "#endif",
    "#ifdef _STDARG_H",
    "#define va_start(v,l) __builtin_va_start(v,l)",
    "#define va_end(v) __builtin_va_end(v)",
    "#define va_arg(v,l) __builtin_va_arg(v,l)",
    "#if !defined(__STRICT_ANSI__) || __STDC_VERSION__ + 0 >= 199900L",
    "#define va_copy(d,s) __builtin_va_copy(d,s)",
    "#endif",
    "#define __va_copy(d,s) __builtin_va_copy(d,s)",
    "#ifndef _VA_LIST_",
    "#ifndef _VA_LIST",
    "#ifndef _VA_LIST_DEFINED",
    "#ifndef _VA_LIST_T_H",
    "#ifndef __va_list__",
    "typedef __gnuc_va_list va_list;",
    "#endif",
    "#endif",
    "#endif",
    "#endif",
    "#endif",
    "#ifndef _VA_LIST_",
    "#define _VA_LIST_",
    "#endif",
    "#ifndef _VA_LIST",
    "#define _VA_LIST",
    "#endif",
    "#ifndef _VA_LIST_DEFINED",
    "#define _VA_LIST_DEFINED",
    "#endif",
    "#ifndef _VA_LIST_T_H",
    "#define _VA_LIST_T_H",
    "#endif",
    "#ifndef __va_list__",
    "#define __va_list__",
    "#endif",
    "#endif",
    "#endif",
    "#endif"]

/-- The text of `<limits.h>`. -/
def limitsText : String :=
  ofLines [
    "#ifndef _GCC_LIMITS_H_",
    "#define _GCC_LIMITS_H_",
    "#undef CHAR_BIT",
    "#define CHAR_BIT __CHAR_BIT__",
    "#ifndef MB_LEN_MAX",
    "#define MB_LEN_MAX 1",
    "#endif",
    "#undef SCHAR_MIN",
    "#define SCHAR_MIN (-SCHAR_MAX - 1)",
    "#undef SCHAR_MAX",
    "#define SCHAR_MAX __SCHAR_MAX__",
    "#undef UCHAR_MAX",
    "#define UCHAR_MAX (SCHAR_MAX * 2 + 1)",
    "#ifdef __CHAR_UNSIGNED__",
    "# undef CHAR_MIN",
    "# define CHAR_MIN 0",
    "# undef CHAR_MAX",
    "# define CHAR_MAX UCHAR_MAX",
    "#else",
    "# undef CHAR_MIN",
    "# define CHAR_MIN SCHAR_MIN",
    "# undef CHAR_MAX",
    "# define CHAR_MAX SCHAR_MAX",
    "#endif",
    "#undef SHRT_MIN",
    "#define SHRT_MIN (-SHRT_MAX - 1)",
    "#undef SHRT_MAX",
    "#define SHRT_MAX __SHRT_MAX__",
    "#undef USHRT_MAX",
    "#define USHRT_MAX (SHRT_MAX * 2 + 1)",
    "#undef INT_MIN",
    "#define INT_MIN (-INT_MAX - 1)",
    "#undef INT_MAX",
    "#define INT_MAX __INT_MAX__",
    "#undef UINT_MAX",
    "#define UINT_MAX (INT_MAX * 2U + 1U)",
    "#undef LONG_MIN",
    "#define LONG_MIN (-LONG_MAX - 1L)",
    "#undef LONG_MAX",
    "#define LONG_MAX __LONG_MAX__",
    "#undef ULONG_MAX",
    "#define ULONG_MAX (LONG_MAX * 2UL + 1UL)",
    "#if defined (__STDC_VERSION__) && __STDC_VERSION__ >= 199901L",
    "# undef LLONG_MIN",
    "# define LLONG_MIN (-LLONG_MAX - 1LL)",
    "# undef LLONG_MAX",
    "# define LLONG_MAX __LONG_LONG_MAX__",
    "# undef ULLONG_MAX",
    "# define ULLONG_MAX (LLONG_MAX * 2ULL + 1ULL)",
    "#endif",
    "#if defined (__GNU_LIBRARY__) ? defined (__USE_GNU) : !defined (__STRICT_ANSI__)",
    "# undef LONG_LONG_MIN",
    "# define LONG_LONG_MIN (-LONG_LONG_MAX - 1LL)",
    "# undef LONG_LONG_MAX",
    "# define LONG_LONG_MAX __LONG_LONG_MAX__",
    "# undef ULONG_LONG_MAX",
    "# define ULONG_LONG_MAX (LONG_LONG_MAX * 2ULL + 1ULL)",
    "#endif",
    "#include <features.h>",
    "#undef MB_LEN_MAX",
    "#define MB_LEN_MAX 16",
    "#ifdef __USE_POSIX",
    "# define _POSIX_ARG_MAX 4096",
    "# define _POSIX_CHILD_MAX 25",
    "# define _POSIX_LINK_MAX 8",
    "# define _POSIX_MAX_CANON 255",
    "# define _POSIX_MAX_INPUT 255",
    "# define _POSIX_NAME_MAX 14",
    "# define _POSIX_NGROUPS_MAX 8",
    "# define _POSIX_OPEN_MAX 20",
    "# define _POSIX_PATH_MAX 256",
    "# define _POSIX_PIPE_BUF 512",
    "# define _POSIX_SSIZE_MAX 32767",
    "# define _POSIX_STREAM_MAX 8",
    "# define _POSIX_TZNAME_MAX 6",
    "# define NGROUPS_MAX 65536",
    "# define ARG_MAX 131072",
    "# define NAME_MAX 255",
    "# define PATH_MAX 4096",
    "# define PIPE_BUF 4096",
    "# define LINK_MAX 127",
    "# define MAX_CANON 255",
    "# define MAX_INPUT 255",
    "# define SSIZE_MAX LONG_MAX",
    "# define PTHREAD_KEYS_MAX 1024",
    "# define PTHREAD_STACK_MIN 16384",
    "# define HOST_NAME_MAX 64",
    "# define LOGIN_NAME_MAX 256",
    "# define TTY_NAME_MAX 32",
    "# define RTSIG_MAX 32",
    "# define SEM_VALUE_MAX (2147483647)",
    "#endif",
    "#ifdef __USE_POSIX2",
    "# define _POSIX2_BC_BASE_MAX 99",
    "# define _POSIX2_BC_DIM_MAX 2048",
    "# define _POSIX2_BC_SCALE_MAX 99",
    "# define _POSIX2_BC_STRING_MAX 1000",
    "# define _POSIX2_COLL_WEIGHTS_MAX 2",
    "# define _POSIX2_EXPR_NEST_MAX 32",
    "# define _POSIX2_LINE_MAX 2048",
    "# define _POSIX2_RE_DUP_MAX 255",
    "# define _POSIX2_CHARCLASS_NAME_MAX 14",
    "# define BC_BASE_MAX _POSIX2_BC_BASE_MAX",
    "# define BC_DIM_MAX _POSIX2_BC_DIM_MAX",
    "# define BC_SCALE_MAX _POSIX2_BC_SCALE_MAX",
    "# define BC_STRING_MAX _POSIX2_BC_STRING_MAX",
    "# define COLL_WEIGHTS_MAX 255",
    "# define EXPR_NEST_MAX _POSIX2_EXPR_NEST_MAX",
    "# define LINE_MAX _POSIX2_LINE_MAX",
    "# define CHARCLASS_NAME_MAX 2048",
    "# define RE_DUP_MAX (0x7fff)",
    "#endif",
    "#ifdef __USE_XOPEN",
    "# define WORD_BIT 32",
    "# define LONG_BIT 64",
    "# define NL_ARGMAX 4096",
    "# define NL_LANGMAX 2048",
    "# define NL_MSGMAX 2147483647",
    "# define NL_NMAX 2147483647",
    "# define NL_SETMAX 2147483647",
    "# define NL_TEXTMAX 2147483647",
    "# define NZERO 20",
    "#endif",
    "#endif"]

/-- The text of `<stdint.h>`. -/
def stdintText : String :=
  ofLines [
    "#ifndef _STDINT_H",
    "#define _STDINT_H 1",
    "#include <features.h>",
    "#include <bits/types.h>",
    "#include <bits/wchar.h>",
    "#ifndef __int8_t_defined",
    "# define __int8_t_defined",
    "typedef __int8_t int8_t;",
    "typedef __int16_t int16_t;",
    "typedef __int32_t int32_t;",
    "typedef __int64_t int64_t;",
    "#endif",
    "typedef __uint8_t uint8_t;",
    "typedef __uint16_t uint16_t;",
    "typedef __uint32_t uint32_t;",
    "typedef __uint64_t uint64_t;",
    "typedef __int_least8_t int_least8_t;",
    "typedef __int_least16_t int_least16_t;",
    "typedef __int_least32_t int_least32_t;",
    "typedef __int_least64_t int_least64_t;",
    "typedef __uint_least8_t uint_least8_t;",
    "typedef __uint_least16_t uint_least16_t;",
    "typedef __uint_least32_t uint_least32_t;",
    "typedef __uint_least64_t uint_least64_t;",
    "typedef signed char int_fast8_t;",
    "typedef long int int_fast16_t;",
    "typedef long int int_fast32_t;",
    "typedef long int int_fast64_t;",
    "typedef unsigned char uint_fast8_t;",
    "typedef unsigned long int uint_fast16_t;",
    "typedef unsigned long int uint_fast32_t;",
    "typedef unsigned long int uint_fast64_t;",
    "#ifndef __intptr_t_defined",
    "typedef long int intptr_t;",
    "# define __intptr_t_defined",
    "#endif",
    "typedef unsigned long int uintptr_t;",
    "typedef __intmax_t intmax_t;",
    "typedef __uintmax_t uintmax_t;",
    "# define __INT64_C(c) c ## L",
    "# define __UINT64_C(c) c ## UL",
    "# define INT8_MIN (-128)",
    "# define INT16_MIN (-32767-1)",
    "# define INT32_MIN (-2147483647-1)",
    "# define INT64_MIN (-__INT64_C(9223372036854775807)-1)",
    "# define INT8_MAX (127)",
    "# define INT16_MAX (32767)",
    "# define INT32_MAX (2147483647)",
    "# define INT64_MAX (__INT64_C(9223372036854775807))",
    "# define UINT8_MAX (255)",
    "# define UINT16_MAX (65535)",
    "# define UINT32_MAX (4294967295U)",
    "# define UINT64_MAX (__UINT64_C(18446744073709551615))",
    "# define INT_LEAST8_MIN (-128)",
    "# define INT_LEAST16_MIN (-32767-1)",
    "# define INT_LEAST32_MIN (-2147483647-1)",
    "# define INT_LEAST64_MIN (-__INT64_C(9223372036854775807)-1)",
    "# define INT_LEAST8_MAX (127)",
    "# define INT_LEAST16_MAX (32767)",
    "# define INT_LEAST32_MAX (2147483647)",
    "# define INT_LEAST64_MAX (__INT64_C(9223372036854775807))",
    "# define UINT_LEAST8_MAX (255)",
    "# define UINT_LEAST16_MAX (65535)",
    "# define UINT_LEAST32_MAX (4294967295U)",
    "# define UINT_LEAST64_MAX (__UINT64_C(18446744073709551615))",
    "# define INT_FAST8_MIN (-128)",
    "# define INT_FAST16_MIN (-9223372036854775807L-1)",
    "# define INT_FAST32_MIN (-9223372036854775807L-1)",
    "# define INT_FAST64_MIN (-__INT64_C(9223372036854775807)-1)",
    "# define INT_FAST8_MAX (127)",
    "# define INT_FAST16_MAX (9223372036854775807L)",
    "# define INT_FAST32_MAX (9223372036854775807L)",
    "# define INT_FAST64_MAX (__INT64_C(9223372036854775807))",
    "# define UINT_FAST8_MAX (255)",
    "# define UINT_FAST16_MAX (18446744073709551615UL)",
    "# define UINT_FAST32_MAX (18446744073709551615UL)",
    "# define UINT_FAST64_MAX (__UINT64_C(18446744073709551615))",
    "# define INTPTR_MIN (-9223372036854775807L-1)",
    "# define INTPTR_MAX (9223372036854775807L)",
    "# define UINTPTR_MAX (18446744073709551615UL)",
    "# define INTMAX_MIN (-__INT64_C(9223372036854775807)-1)",
    "# define INTMAX_MAX (__INT64_C(9223372036854775807))",
    "# define UINTMAX_MAX (__UINT64_C(18446744073709551615))",
    "# define PTRDIFF_MIN (-9223372036854775807L-1)",
    "# define PTRDIFF_MAX (9223372036854775807L)",
    "# define SIG_ATOMIC_MIN (-2147483647-1)",
    "# define SIG_ATOMIC_MAX (2147483647)",
    "# define SIZE_MAX (18446744073709551615UL)",
    "# ifndef WCHAR_MIN",
    "#  define WCHAR_MIN __WCHAR_MIN",
    "#  define WCHAR_MAX __WCHAR_MAX",
    "# endif",
    "# define WINT_MIN (0u)",
    "# define WINT_MAX (4294967295u)",
    "# define INT8_C(c) c",
    "# define INT16_C(c) c",
    "# define INT32_C(c) c",
    "# define INT64_C(c) c ## L",
    "# define UINT8_C(c) c",
    "# define UINT16_C(c) c",
    "# define UINT32_C(c) c ## U",
    "# define UINT64_C(c) c ## UL",
    "# define INTMAX_C(c) c ## L",
    "# define UINTMAX_C(c) c ## UL",
    "#endif"]

/-- The text of `<sys/types.h>`. -/
def sysTypesText : String :=
  ofLines [
    "#ifndef _SYS_TYPES_H",
    "#define _SYS_TYPES_H 1",
    "#include <features.h>",
    "#include <bits/types.h>",
    "#ifdef __USE_MISC",
    "typedef __u_char u_char;",
    "typedef __u_short u_short;",
    "typedef __u_int u_int;",
    "typedef __u_long u_long;",
    "typedef __quad_t quad_t;",
    "typedef __u_quad_t u_quad_t;",
    "typedef __fsid_t fsid_t;",
    "# define __u_char_defined",
    "typedef __loff_t loff_t;",
    "#endif",
    "#ifndef __ino_t_defined",
    "typedef __ino_t ino_t;",
    "# define __ino_t_defined",
    "#endif",
    "#ifndef __dev_t_defined",
    "typedef __dev_t dev_t;",
    "# define __dev_t_defined",
    "#endif",
    "#ifndef __gid_t_defined",
    "typedef __gid_t gid_t;",
    "# define __gid_t_defined",
    "#endif",
    "#ifndef __mode_t_defined",
    "typedef __mode_t mode_t;",
    "# define __mode_t_defined",
    "#endif",
    "#ifndef __nlink_t_defined",
    "typedef __nlink_t nlink_t;",
    "# define __nlink_t_defined",
    "#endif",
    "#ifndef __uid_t_defined",
    "typedef __uid_t uid_t;",
    "# define __uid_t_defined",
    "#endif",
    "#ifndef __off_t_defined",
    "typedef __off_t off_t;",
    "# define __off_t_defined",
    "#endif",
    "#ifndef __pid_t_defined",
    "typedef __pid_t pid_t;",
    "# define __pid_t_defined",
    "#endif",
    "#if (defined __USE_XOPEN || defined __USE_XOPEN2K8) && !defined __id_t_defined",
    "typedef __id_t id_t;",
    "# define __id_t_defined",
    "#endif",
    "#ifndef __ssize_t_defined",
    "typedef __ssize_t ssize_t;",
    "# define __ssize_t_defined",
    "#endif",
    "#ifdef __USE_MISC",
    "# ifndef __daddr_t_defined",
    "typedef __daddr_t daddr_t;",
    "typedef __caddr_t caddr_t;",
    "#  define __daddr_t_defined",
    "# endif",
    "#endif",
    "#if (defined __USE_MISC || defined __USE_XOPEN) && !defined __key_t_defined",
    "typedef __key_t key_t;",
    "# define __key_t_defined",
    "#endif",
    "#if defined __USE_XOPEN || defined __USE_XOPEN2K8",
    "# ifndef __clock_t_defined",
    "typedef __clock_t clock_t;",
    "#  define __clock_t_defined 1",
    "# endif",
    "#endif",
    "#ifndef __clockid_t_defined",
    "typedef __clockid_t clockid_t;",
    "# define __clockid_t_defined 1",
    "#endif",
    "#ifndef __time_t_defined",
    "typedef __time_t time_t;",
    "# define __time_t_defined 1",
    "#endif",
    "#ifndef __timer_t_defined",
    "typedef __timer_t timer_t;",
    "# define __timer_t_defined 1",
    "#endif",
    "#ifdef __USE_XOPEN",
    "# ifndef __useconds_t_defined",
    "typedef __useconds_t useconds_t;",
    "#  define __useconds_t_defined",
    "# endif",
    "#endif",
    "#ifndef __suseconds_t_defined",
    "typedef __suseconds_t suseconds_t;",
    "# define __suseconds_t_defined",
    "#endif",
    "#define __need_size_t",
    "#include <stddef.h>",
    "#ifdef __USE_MISC",
    "typedef unsigned long int ulong;",
    "typedef unsigned short int ushort;",
    "typedef unsigned int uint;",
    "#endif",
    "#ifndef __int8_t_defined",
    "# define __int8_t_defined",
    "typedef __int8_t int8_t;",
    "typedef __int16_t int16_t;",
    "typedef __int32_t int32_t;",
    "typedef __int64_t int64_t;",
    "#endif",
    "typedef __uint8_t u_int8_t;",
    "typedef __uint16_t u_int16_t;",
    "typedef __uint32_t u_int32_t;",
    "typedef __uint64_t u_int64_t;",
    "typedef int register_t __attribute__ ((__mode__ (__word__)));",
    "#define __BIT_TYPES_DEFINED__ 1",
    "#ifdef __USE_MISC",
    "# include <endian.h>",
    "# include <sys/select.h>",
    "#endif",
    "#ifndef __blksize_t_defined",
    "typedef __blksize_t blksize_t;",
    "# define __blksize_t_defined",
    "#endif",
    "#ifndef __blkcnt_t_defined",
    "typedef __blkcnt_t blkcnt_t;",
    "# define __blkcnt_t_defined",
    "#endif",
    "#ifndef __fsblkcnt_t_defined",
    "typedef __fsblkcnt_t fsblkcnt_t;",
    "# define __fsblkcnt_t_defined",
    "#endif",
    "#ifndef __fsfilcnt_t_defined",
    "typedef __fsfilcnt_t fsfilcnt_t;",
    "# define __fsfilcnt_t_defined",
    "#endif",
    "#if defined __USE_POSIX199506 || defined __USE_UNIX98",
    "#include <bits/pthreadtypes.h>",
    "#endif",
    "#endif"]

/-- The text of `<endian.h>`. -/
def endianText : String :=
  ofLines [
    "#ifndef _ENDIAN_H",
    "#define _ENDIAN_H 1",
    "#include <features.h>",
    "#define __LITTLE_ENDIAN 1234",
    "#define __BIG_ENDIAN 4321",
    "#define __PDP_ENDIAN 3412",
    "#define __BYTE_ORDER __LITTLE_ENDIAN",
    "#define __FLOAT_WORD_ORDER __BYTE_ORDER",
    "#define __LONG_LONG_PAIR(HI, LO) LO, HI",
    "#ifdef __USE_MISC",
    "# define LITTLE_ENDIAN __LITTLE_ENDIAN",
    "# define BIG_ENDIAN __BIG_ENDIAN",
    "# define PDP_ENDIAN __PDP_ENDIAN",
    "# define BYTE_ORDER __BYTE_ORDER",
    "# define htobe16(x) __builtin_bswap16 (x)",
    "# define htole16(x) ((__uint16_t) (x))",
    "# define be16toh(x) __builtin_bswap16 (x)",
    "# define le16toh(x) ((__uint16_t) (x))",
    "# define htobe32(x) __builtin_bswap32 (x)",
    "# define htole32(x) ((__uint32_t) (x))",
    "# define be32toh(x) __builtin_bswap32 (x)",
    "# define le32toh(x) ((__uint32_t) (x))",
    "# define htobe64(x) __builtin_bswap64 (x)",
    "# define htole64(x) ((__uint64_t) (x))",
    "# define be64toh(x) __builtin_bswap64 (x)",
    "# define le64toh(x) ((__uint64_t) (x))",
    "#endif",
    "#endif"]

/-- The text of `<sys/select.h>`. -/
def sysSelectText : String :=
  ofLines [
    "#ifndef _SYS_SELECT_H",
    "#define _SYS_SELECT_H 1",
    "#include <features.h>",
    "#include <bits/types.h>",
    "typedef long int __fd_mask;",
    "#define __NFDBITS (8 * (int) sizeof (__fd_mask))",
    "typedef struct \x7b __fd_mask __fds_bits[1024 / __NFDBITS]; \x7d fd_set;",
    "#define FD_SETSIZE 1024",
    "#ifdef __USE_MISC",
    "typedef __fd_mask fd_mask;",
    "# define NFDBITS __NFDBITS",
    "#endif",
    "typedef __sigset_t sigset_t;",
    "extern int select (int __nfds, fd_set *__restrict __readfds, fd_set *__restrict __writefds, fd_set *__restrict __exceptfds, struct timeval *__restrict __timeout);",
    "#endif"]

/-- The text of `<alloca.h>`. -/
def allocaText : String :=
  ofLines [
    "#ifndef _ALLOCA_H",
    "#define _ALLOCA_H 1",
    "#include <features.h>",
    "#define __need_size_t",
    "#include <stddef.h>",
    "#undef alloca",
    "extern void *alloca (size_t __size) __THROW;",
    "#define alloca(size) __builtin_alloca (size)",
    "#endif"]

end InlineC.Lang.Header
